/-
  DaqMonitor.Proofs.Json.RoundTrip

  Values that are written in the standard way and read back.

  The standard way to write a value is a way to write it as long as all doubles in it
  are finite; then it is read as that value. A double that is not finite is written as
  `null`, which is no double. So its field cannot be read, and with it nothing around it.

    * `Shape.doubles s v` — the doubles in a value.
    * `Shape.writes_encode` — the standard way is a way to write a value.
    * `Shape.isFinite_of_decode` — what can be read back has finite doubles only.
    * `Form.ofJson_encode_iff` — what is read of a value that was written.
-/
import DaqMonitor.Proofs.Json.Writing

namespace DaqMonitor.Json

/-! ## The standard way to write a value -/

mutual
/-- Whether a shape has no place for doubles. -/
def Shape.plain : Shape → Bool
  | .double => false
  | .option shape | .list shape | .textMap shape | .byteMap shape => shape.plain
  | .record fields => fields.plain
  | _ => true

/-- Whether no field has a place for doubles. -/
def Fields.plain : Fields → Bool
  | .nil => true
  | .cons _ _ shape rest => shape.plain && rest.plain
end

mutual
/-- The doubles in what a shape carries. -/
def Shape.doubles : (s : Shape) → s.Val → List Float
  | .double, x => [x]
  | .option shape, v => (Option.toList v).flatMap shape.doubles
  | .list shape, vs => List.flatMap shape.doubles vs
  | .textMap shape, m => (SortedMap.values m).flatMap shape.doubles
  | .byteMap shape, m => (SortedMap.values m).flatMap shape.doubles
  | .record fields, v => fields.doubles v
  | _, _ => []

/-- The doubles in the fields of a record. Fields without a place for doubles are passed over, so
    that those of a record are found without a look at its other fields. -/
def Fields.doubles : (fs : Fields) → fs.Val → List Float
  | .nil, _ => []
  | .cons _ _ shape rest, v =>
    bif shape.plain then rest.doubles v.2 else shape.doubles v.1 ++ rest.doubles v.2
end

mutual
theorem Shape.doubles_of_plain : (s : Shape) → s.plain = true → (v : s.Val) → s.doubles v = []
  | .bool _, _, _ | .uint8, _, _ | .uint16, _, _ | .uint32, _, _ | .uint64, _, _
  | .int64, _, _ | .text, _, _ | .choice _ _, _, _ => rfl
  | .option shape, h, _ => List.flatMap_eq_nil_iff.2 fun v _ => shape.doubles_of_plain h v
  | .list shape, h, _ => List.flatMap_eq_nil_iff.2 fun v _ => shape.doubles_of_plain h v
  | .textMap shape, h, _ => List.flatMap_eq_nil_iff.2 fun v _ => shape.doubles_of_plain h v
  | .byteMap shape, h, _ => List.flatMap_eq_nil_iff.2 fun v _ => shape.doubles_of_plain h v
  | .record fields, h, v => fields.doubles_of_plain h v

theorem Fields.doubles_of_plain : (fs : Fields) → fs.plain = true → (v : fs.Val) →
    fs.doubles v = []
  | .nil, _, _ => rfl
  | .cons _ _ shape rest, h, v => by
    obtain ⟨hshape, hrest⟩ := Bool.and_eq_true_iff.1 h
    rw [Fields.doubles, hshape]
    exact rest.doubles_of_plain hrest v.2
end

theorem Fields.doubles_cons (name : String) (presence : Presence) (shape : Shape) (rest : Fields)
    (v : (Fields.cons name presence shape rest).Val) :
    (Fields.cons name presence shape rest).doubles v = shape.doubles v.1 ++ rest.doubles v.2 := by
  rw [Fields.doubles]
  cases hplain : shape.plain with
  | true =>
    rw [shape.doubles_of_plain hplain]
    rfl
  | false => rfl

theorem Fields.map_encode : (fs : Fields) → (v : fs.Val) → (fs.encode v).map (·.1) = fs.names
  | .nil, _ => rfl
  | .cons _ _ _ rest, v => by rw [encode, List.map_cons, map_encode rest v.2, names]

theorem Fields.nodup_encode {fs : Fields} (hnames : fs.names.Nodup) (v : fs.Val) :
    ((fs.encode v).map (·.1)).Nodup := by
  rw [fs.map_encode]
  exact hnames

theorem ofFloat_of_isFinite {x : Float} (h : x.isFinite = true) :
    ofFloat x = .number (.real x) := if_pos h

theorem ofFloat_of_not_isFinite {x : Float} (h : ¬ x.isFinite = true) : ofFloat x = .null :=
  if_neg h

/-- Only options and doubles are ever written as `null`. -/
theorem Shape.encode_ne_null : (s : Shape) → s.nullable = false → (v : s.Val) →
    s.encode v ≠ .null
  | .bool _, _, _ | .uint8, _, _ | .uint16, _, _ | .uint32, _, _ | .uint64, _, _
  | .int64, _, _ | .text, _, _ | .list _, _, _ | .textMap _, _, _ | .byteMap _, _, _
  | .choice _ _, _, _ | .record _, _, _ => fun h => nomatch h

mutual
/-- As long as all doubles are finite, the standard way to write a value is a way to write it. -/
theorem Shape.writes_encode : (s : Shape) → s.sound = true → (v : s.Val) →
    (∀ x ∈ s.doubles v, x.isFinite = true) → s.Writes v (s.encode v)
  | .bool _, _, _, _ | .uint8, _, _, _ | .uint16, _, _, _ | .uint32, _, _, _
  | .uint64, _, _, _ | .int64, _, _, _ | .text, _, _, _ | .choice _ _, _, _, _ => rfl
  | .double, _, x, h => ⟨.real x, ofFloat_of_isFinite (h x (List.mem_singleton_self x)), rfl⟩
  | .option shape, hs, none, _ => .inl ⟨rfl, rfl⟩
  | .option shape, hs, some a, h => by
    obtain ⟨hnullable, hshape⟩ := Bool.and_eq_true_iff.1 hs
    have hne := shape.encode_ne_null (by simpa using hnullable) a
    refine .inr ⟨a, rfl, hne, shape.writes_encode hshape a fun x hx => h x ?_⟩
    exact List.mem_flatMap.2 ⟨a, List.mem_singleton_self a, hx⟩
  | .list shape, hs, vs, h => by
    refine ⟨_, rfl, List.forall₂_map_right_iff.2 (List.forall₂_same.2 fun v hv => ?_)⟩
    exact shape.writes_encode hs v fun x hx => h x (List.mem_flatMap.2 ⟨v, hv, hx⟩)
  | .textMap shape, hs, m, h => by
    refine ⟨_, rfl, List.forall₂_map_right_iff.2 (List.forall₂_same.2 fun e he => ⟨rfl, ?_⟩)⟩
    have hvalue := List.mem_map_of_mem (f := Prod.snd) he
    exact shape.writes_encode hs e.2 fun x hx => h x (List.mem_flatMap.2 ⟨e.2, hvalue, hx⟩)
  | .byteMap shape, hs, m, h => by
    refine ⟨_, rfl, List.forall₂_map_right_iff.2 (List.forall₂_same.2 fun e he => ⟨rfl, ?_⟩)⟩
    have hvalue := List.mem_map_of_mem (f := Prod.snd) he
    exact shape.writes_encode hs e.2 fun x hx => h x (List.mem_flatMap.2 ⟨e.2, hvalue, hx⟩)
  | .record fields, hs, v, h => by
    obtain ⟨hnames, hfields⟩ := Bool.and_eq_true_iff.1 hs
    have hkeys := Fields.nodup_encode (of_decide_eq_true hnames) v
    refine .inl ⟨_, rfl, hkeys, fields.writesMembers_encode hfields v h fun name json hmem => ?_⟩
    exact find?_object_of_mem hkeys hmem

/-- Members among which are those of a record write it. -/
theorem Fields.writesMembers_encode : (fs : Fields) → fs.sound = true → (v : fs.Val) →
    (∀ x ∈ fs.doubles v, x.isFinite = true) → {members : List (String × Json)} →
    (∀ name json, (name, json) ∈ fs.encode v → (Json.object members).find? name = some json) →
    fs.WritesMembers v members
  | .nil, _, _, _, _, _ => trivial
  | .cons name _ shape rest, hs, v, h, members, hmembers => by
    obtain ⟨hshape, hrest⟩ := Bool.and_eq_true_iff.1 hs
    rw [Fields.doubles_cons] at h
    obtain ⟨hfirst, hothers⟩ := List.forall_mem_append.1 h
    have hfound := hmembers name (shape.encode v.1) List.mem_cons_self
    refine ⟨?_, rest.writesMembers_encode hrest v.2 hothers fun name json hmem =>
      hmembers name json (List.mem_cons_of_mem _ hmem)⟩
    rw [hfound]
    exact shape.writes_encode hshape v.1 hfirst
end

/-! ## Values that cannot be read back -/

section Failing

variable {shape : Shape}

theorem exists_of_decode_list {items : List Json} {w : (Shape.list shape).Val}
    (h : (Shape.list shape).decode (.ofJson (.list items)) = .ok w) :
    ∀ item ∈ items, ∃ v, shape.decode (.ofJson item) = .ok v := by
  intro item hitem
  have hread : (do
      let vs ← (Source.ofItems items).mapM shape.decode
      finish none vs) = .ok w := h
  obtain ⟨vs, hvs, -⟩ := exists_of_bind_eq_ok hread
  refine exists_of_mapM_eq_ok hvs _ ?_
  rw [Source.ofItems_eq_map]
  exact List.mem_map_of_mem hitem

section Objects

variable {members : List (String × Json)}

theorem mem_ofMembers {member : String × Json} (h : member ∈ members) :
    (some member.1, Source.ofJson member.2) ∈ Source.ofMembers members := by
  rw [Source.ofMembers_eq_map]
  exact List.mem_map_of_mem h

theorem exists_of_decode_textMap {w : (Shape.textMap shape).Val}
    (h : (Shape.textMap shape).decode (.ofJson (.object members)) = .ok w) :
    ∀ member ∈ members, ∃ v, shape.decode (.ofJson member.2) = .ok v := by
  intro member hmember
  rw [Source.ofJson, decode_textMap_object] at h
  obtain ⟨m, hm, -⟩ := exists_of_bind_eq_ok h
  obtain ⟨m, m', hread⟩ := exists_of_foldlM_eq_ok hm _ (mem_ofMembers hmember)
  exact exists_of_map_eq_ok hread

theorem exists_of_decode_byteMap {w : (Shape.byteMap shape).Val}
    (h : (Shape.byteMap shape).decode (.ofJson (.object members)) = .ok w) :
    ∀ member ∈ members, ∃ v, shape.decode (.ofJson member.2) = .ok v := by
  intro member hmember
  rw [Source.ofJson, decode_byteMap_object] at h
  obtain ⟨m, hm, -⟩ := exists_of_bind_eq_ok h
  obtain ⟨m, m', hread⟩ := exists_of_foldlM_eq_ok hm _ (mem_ofMembers hmember)
  obtain ⟨key, -, hread⟩ := exists_of_bind_eq_ok hread
  obtain ⟨v, hv, -⟩ := exists_of_bind_eq_ok hread
  exact ⟨v, hv⟩

theorem exists_of_decode_record {fields : Fields} {w : fields.Val}
    (h : (Shape.record fields).decode (.ofJson (.object members)) = .ok w) :
    ∀ member ∈ members, ∃ slots slots',
      fields.place member.1 (.ofJson member.2) slots = .ok slots' := by
  intro member hmember
  rw [Source.ofJson, decode_record_object] at h
  obtain ⟨slots, hslots, -⟩ := exists_of_bind_eq_ok h
  exact exists_of_foldlM_eq_ok hslots _ (mem_ofMembers hmember)

end Objects

end Failing

mutual
/-- What was written and can be read has no double in it that is not finite. -/
theorem Shape.isFinite_of_decode : (s : Shape) → s.sound = true → (v : s.Val) →
    (∃ w, s.decode (.ofJson (s.encode v)) = .ok w) → ∀ x ∈ s.doubles v, x.isFinite = true
  | .bool _, _, _, _ | .uint8, _, _, _ | .uint16, _, _, _ | .uint32, _, _, _
  | .uint64, _, _, _ | .int64, _, _, _ | .text, _, _, _ | .choice _ _, _, _, _ =>
    List.forall_mem_nil _
  | .double, _, x, ⟨w, h⟩ => by
    refine List.forall_mem_singleton.2 (Decidable.of_not_not fun hx => ?_)
    rw [Shape.encode, ofFloat_of_not_isFinite hx] at h
    cases h
  | .option shape, _, none, _ => List.forall_mem_nil _
  | .option shape, hs, some a, ⟨w, h⟩ => by
    obtain ⟨hnullable, hshape⟩ := Bool.and_eq_true_iff.1 hs
    have hne := shape.encode_ne_null (by simpa using hnullable) a
    have hread : ((shape.decode (.ofJson (shape.encode a))).map some) = .ok w := by
      rw [← decode_option (mt Source.ofJson_eq_null hne)]
      exact h
    intro x hx
    obtain ⟨a', ha', hx'⟩ := List.mem_flatMap.1 hx
    obtain rfl := List.mem_singleton.1 ha'
    exact shape.isFinite_of_decode hshape _ (exists_of_map_eq_ok hread) x hx'
  | .list shape, hs, vs, ⟨_, h⟩ => by
    intro x hx
    obtain ⟨v, hv, hxv⟩ := List.mem_flatMap.1 hx
    have hread := exists_of_decode_list h _ (List.mem_map_of_mem hv)
    exact shape.isFinite_of_decode hs v hread x hxv
  | .textMap shape, hs, m, ⟨_, h⟩ => by
    intro x hx
    obtain ⟨v, hv, hxv⟩ := List.mem_flatMap.1 hx
    obtain ⟨e, he, rfl⟩ := List.mem_map.1 hv
    have hread := exists_of_decode_textMap h _ (List.mem_map_of_mem he)
    exact shape.isFinite_of_decode hs e.2 hread x hxv
  | .byteMap shape, hs, m, ⟨_, h⟩ => by
    intro x hx
    obtain ⟨v, hv, hxv⟩ := List.mem_flatMap.1 hx
    obtain ⟨e, he, rfl⟩ := List.mem_map.1 hv
    have hread := exists_of_decode_byteMap h _ (List.mem_map_of_mem he)
    exact shape.isFinite_of_decode hs e.2 hread x hxv
  | .record fields, hs, v, ⟨_, h⟩ => by
    obtain ⟨hnames, hfields⟩ := Bool.and_eq_true_iff.1 hs
    exact fields.isFinite_of_place hfields (of_decide_eq_true hnames) v
      (exists_of_decode_record h)

/-- Members that were written and can be read have no double in them that is not finite. -/
theorem Fields.isFinite_of_place : (fs : Fields) → fs.sound = true → fs.names.Nodup →
    (v : fs.Val) →
    (∀ member ∈ fs.encode v, ∃ slots slots',
      fs.place member.1 (.ofJson member.2) slots = .ok slots') →
    ∀ x ∈ fs.doubles v, x.isFinite = true
  | .nil, _, _, _, _ => List.forall_mem_nil _
  | .cons name _ shape rest, hs, hnames, v, h => by
    obtain ⟨hshape, hrest⟩ := Bool.and_eq_true_iff.1 hs
    obtain ⟨hname, hnames⟩ := List.nodup_cons.1 hnames
    obtain ⟨⟨slots, slots', hfirst⟩, hothers⟩ := List.forall_mem_cons.1 h
    rw [Fields.doubles_cons]
    refine List.forall_mem_append.2 ⟨?_, ?_⟩
    · -- The first member is read as the first field, which is still open.
      rw [Fields.place, if_pos rfl] at hfirst
      cases hslot : slots.1 with
      | some w =>
        rw [hslot] at hfirst
        cases hfirst
      | none =>
        rw [hslot] at hfirst
        exact shape.isFinite_of_decode hshape v.1 (exists_of_map_eq_ok hfirst)
    · refine rest.isFinite_of_place hrest hnames v.2 fun member hmember => ?_
      obtain ⟨slots, slots', hread⟩ := hothers member hmember
      have hkey : member.1 ≠ name := by
        rintro rfl
        rw [← rest.map_encode v.2] at hname
        exact hname (List.mem_map_of_mem hmember)
      rw [Fields.place, if_neg hkey] at hread
      obtain ⟨others, hothers⟩ := exists_of_map_eq_ok hread
      exact ⟨slots.2, others, hothers⟩
end

/-! ## Written and read back -/

/-- What was written is read back exactly if all doubles in it are finite; else nothing is. -/
theorem Shape.ofJson_encode_iff (s : Shape) (hs : s.sound = true) (v w : s.Val) :
    s.ofJson (s.encode v) = .ok w ↔ (∀ x ∈ s.doubles v, x.isFinite = true) ∧ w = v := by
  constructor
  · intro h
    have hfinite := s.isFinite_of_decode hs v ⟨w, h⟩
    have hread := s.decode_of_writes hs v _ (s.writes_encode hs v hfinite)
    rw [Shape.ofJson, hread] at h
    exact ⟨hfinite, (Except.ok.inj h).symm⟩
  · rintro ⟨hfinite, rfl⟩
    exact s.decode_of_writes hs w _ (s.writes_encode hs w hfinite)

/-- The doubles in a value of a type. -/
def Form.doubles {α : Type} (f : Form α) (a : α) : List Float := f.shape.doubles (f.toVal a)

/-- As long as all doubles in it are finite, the JSON value of a type's value is a way to write it. -/
theorem Form.writes_encode {α : Type} {f : Form α} (hf : f.shape.sound = true) {a : α}
    (hfinite : ∀ x ∈ f.doubles a, x.isFinite = true) : f.Writes a (f.encode a) :=
  f.shape.writes_encode hf _ hfinite

/-- The same for a type with a JSON form: what is read back is what the form keeps of a value. -/
theorem Form.ofJson_encode_iff {α : Type} (f : Form α) (hf : f.shape.sound = true) (a b : α) :
    f.ofJson (f.encode a) = .ok b ↔ (∀ x ∈ f.doubles a, x.isFinite = true) ∧ b = f.kept a := by
  have hread := f.shape.ofJson_encode_iff hf (f.toVal a)
  unfold Form.ofJson Form.encode Form.doubles
  constructor
  · intro h
    obtain ⟨w, hw⟩ := exists_of_map_eq_ok h
    obtain ⟨hfinite, rfl⟩ := (hread w).1 hw
    rw [hw] at h
    exact ⟨hfinite, (Except.ok.inj h).symm.trans (f.ofVal_toVal a)⟩
  · rintro ⟨hfinite, rfl⟩
    rw [(hread _).2 ⟨hfinite, rfl⟩]
    exact congrArg Except.ok (f.ofVal_toVal a)

end DaqMonitor.Json

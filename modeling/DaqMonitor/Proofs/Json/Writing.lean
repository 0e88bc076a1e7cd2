/-
  DaqMonitor.Proofs.Json.Writing

  What writes a value is read as that value.

  There are many ways to write what a shape carries: the members of an object may come
  in any order, those that hold their standard value may be missing, others that nobody
  asks for may be there, and a record may as well be the list of its fields. Whatever
  writes a value is read as that value: members with different names fill different
  fields, so what has been read after some of them is told by their names alone.

    * `Shape.Writes s v json` — `json` is a way to write `v`.
    * `Fields.gathered fs v names` — what has been read of a record after some members.
    * `Shape.decode_of_writes` — what writes a value is read as that value.
    * `Form.ofJson_of_writes` — the same for a type with a JSON form.
-/
import DaqMonitor.Json.Form
import DaqMonitor.Proofs.Failing
import DaqMonitor.Proofs.SortedMap.Lookup

namespace DaqMonitor.Json

/-! ## Ways to write a value -/

mutual
/-- A JSON value is a way to write what a shape carries. -/
def Shape.Writes : (s : Shape) → s.Val → Json → Prop
  | .bool _, b, json => json = .bool b
  | .uint8, n, json => json = ofUInt64 (UInt8.toUInt64 n)
  | .uint16, n, json => json = ofUInt64 (UInt16.toUInt64 n)
  | .uint32, n, json => json = ofUInt64 (UInt32.toUInt64 n)
  | .uint64, n, json => json = ofUInt64 n
  | .int64, i, json => json = ofInt64 i
  | .double, x, json => ∃ n : Number, json = .number n ∧ n.toFloat = x
  | .text, t, json => json = .text t
  | .option shape, v, json =>
    (v = (none : Option shape.Val) ∧ json = .null) ∨
      ∃ a, v = some a ∧ json ≠ .null ∧ shape.Writes a json
  | .list shape, vs, json => ∃ items, json = .list items ∧ List.Forall₂ shape.Writes vs items
  | .textMap shape, m, json =>
    ∃ members, json = .object members ∧ List.Forall₂
      (fun e member => member.1 = e.1 ∧ shape.Writes e.2 member.2) (SortedMap.entries m) members
  | .byteMap shape, m, json =>
    ∃ members, json = .object members ∧ List.Forall₂
      (fun e member => member.1 = Text.ofNat e.1.toNat ∧ shape.Writes e.2 member.2)
      (SortedMap.entries m) members
  | .choice first others, i, json => json = .text ((first :: others).get i)
  | .record fields, v, json =>
    (∃ members, json = .object members ∧ (members.map (·.1)).Nodup ∧
      fields.WritesMembers v members) ∨
    ∃ items, json = .list items ∧ fields.WritesItems v items

/-- Some members write a record: a field that is missing has its standard value and may be left
    out. -/
def Fields.WritesMembers : (fs : Fields) → fs.Val → List (String × Json) → Prop
  | .nil, _, _ => True
  | .cons name presence shape rest, v, members =>
    (match (Json.object members).find? name with
      | some json => shape.Writes v.1 json
      | none => presence ≠ .required ∧ v.1 = shape.standard) ∧ rest.WritesMembers v.2 members

/-- Some items write a record: fields with their standard value may be missing from the end. -/
def Fields.WritesItems : (fs : Fields) → fs.Val → List Json → Prop
  | .nil, _, items => items = []
  | .cons _ presence shape rest, v, items =>
    match items with
    | item :: items => shape.Writes v.1 item ∧ rest.WritesItems v.2 items
    | [] => presence = .defaulted ∧ v.1 = shape.standard ∧ rest.WritesItems v.2 []
end

/-! ## Shapes that tell their values apart -/

/-- A shape that writes some of its values as `null`. -/
def Shape.nullable : Shape → Bool
  | .option _ | .double => true
  | _ => false

mutual
/-- No two fields or choices have one name, and `null` stands for one thing only. -/
def Shape.sound : Shape → Bool
  | .option shape => !shape.nullable && shape.sound
  | .list shape | .textMap shape | .byteMap shape => shape.sound
  | .choice first others => decide (first :: others).Nodup
  | .record fields => decide fields.names.Nodup && fields.sound
  | _ => true

/-- All fields have such shapes. -/
def Fields.sound : Fields → Bool
  | .nil => true
  | .cons _ _ shape rest => shape.sound && rest.sound
end

/-! ## Trees of values -/

namespace Source

theorem ofItems_eq_map (items : List Json) : ofItems items = items.map ofJson := by
  induction items with
  | nil => rfl
  | cons item rest ih => rw [ofItems, ih, List.map_cons]

theorem ofMembers_eq_map (members : List (String × Json)) :
    ofMembers members = members.map fun member => (some member.1, ofJson member.2) := by
  induction members with
  | nil => rfl
  | cons member rest ih => rw [ofMembers, ih, List.map_cons]

theorem ofJson_eq_null {json : Json} (h : ofJson json = .null) : json = .null := by
  cases json <;> first | rfl | cases h

mutual
/-- Nothing is wrong with a value that is passed over. -/
theorem skipFault?_ofJson : (json : Json) → skipFault? (ofJson json) = none
  | .null | .bool _ | .number _ | .text _ => rfl
  | .list items => skipItems_ofItems items
  | .object members => skipMembers_ofMembers members

theorem skipItems_ofItems : (items : List Json) → skipItems (ofItems items) none = none
  | [] => rfl
  | item :: rest => by
    rw [ofItems, skipItems, skipFault?_ofJson item]
    exact skipItems_ofItems rest

theorem skipMembers_ofMembers :
    (members : List (String × Json)) → skipMembers (ofMembers members) none = none
  | [] => rfl
  | (key, json) :: rest => by
    rw [ofMembers, skipMembers, skipFault?_ofJson json]
    exact skipMembers_ofMembers rest
end

end Source

/-! ## Reading single values -/

section Single

/-- A number below a bound that was written is read as that number, by any way `ofNat` back. -/
theorem map_natural {ν : Type} {bound : Nat} {ofNat : Nat → ν} {n : UInt64} {x : ν}
    (hlt : n.toNat < bound) (hback : ofNat n.toNat = x) :
    ((Source.ofJson (ofUInt64 n)).natural bound).map ofNat = .ok x := by
  simp only [ofUInt64, Source.ofJson, Source.natural, if_pos hlt]
  exact congrArg Except.ok hback

theorem decode_uint8 (n : UInt8) : Shape.uint8.decode (.ofJson (ofUInt64 n.toUInt64)) = .ok n := by
  refine map_natural ?_ ?_
  · rw [UInt8.toNat_toUInt64]
    exact n.toNat_lt
  · rw [UInt8.toNat_toUInt64, UInt8.ofNat_toNat]

theorem decode_uint16 (n : UInt16) :
    Shape.uint16.decode (.ofJson (ofUInt64 n.toUInt64)) = .ok n := by
  refine map_natural ?_ ?_
  · rw [UInt16.toNat_toUInt64]
    exact n.toNat_lt
  · rw [UInt16.toNat_toUInt64, UInt16.ofNat_toNat]

theorem decode_uint32 (n : UInt32) :
    Shape.uint32.decode (.ofJson (ofUInt64 n.toUInt64)) = .ok n := by
  refine map_natural ?_ ?_
  · rw [UInt32.toNat_toUInt64]
    exact n.toNat_lt
  · rw [UInt32.toNat_toUInt64, UInt32.ofNat_toNat]

theorem decode_uint64 (n : UInt64) : Shape.uint64.decode (.ofJson (ofUInt64 n)) = .ok n :=
  map_natural n.toNat_lt UInt64.ofNat_toNat

theorem integer_ofInt64 (i : Int64) : (Source.ofJson (ofInt64 i)).integer = .ok i := by
  unfold ofInt64
  by_cases hi : i < 0
  · simp only [if_pos hi, Source.ofJson, Source.integer]
  · have hnonneg : 0 ≤ i.toInt := by
      rw [Int64.lt_iff_toInt_lt] at hi
      exact Int.not_lt.1 hi
    have hnat : (i.toUInt64.toNat : Int) = i.toInt := by
      rw [← Int64.toInt_toBitVec] at hnonneg ⊢
      rw [BitVec.toInt_eq_toNat_cond] at hnonneg ⊢
      show (i.toBitVec.toNat : Int) = _
      omega
    have hlt : i.toUInt64.toNat < 0x8000000000000000 := by
      have := i.toInt_lt
      omega
    simp only [if_neg hi, Source.ofJson, Source.integer, if_pos hlt]
    have hback : Int64.ofNat i.toUInt64.toNat = i := by
      rw [← Int64.toInt_inj, Int64.toInt_ofNat_of_lt hlt, hnat]
    rw [hback]

/-- A key that writes a number below 256 is read as that number. -/
theorem byteKey_ofNat (n : UInt8) : byteKey (Text.ofNat n.toNat) = .ok n := by
  have hall : ∀ i : Fin 256, byteKey (Text.ofNat i.val) = .ok (UInt8.ofNat i.val) := by
    decide +kernel
  have hn := hall ⟨n.toNat, n.toNat_lt⟩
  rwa [UInt8.ofNat_toNat] at hn

theorem choiceOf_get {first : String} {others : List String} (h : (first :: others).Nodup)
    (i : Fin (others.length + 1)) :
    choiceOf first others ((first :: others).get i) = .ok i := by
  have hfound : (first :: others).finIdxOf? ((first :: others).get i) = some i := by
    rw [List.finIdxOf?_eq_some_iff]
    refine ⟨rfl, fun j hj heq => ?_⟩
    exact absurd ((List.nodup_iff_injective_get.1 h) heq) (Fin.ne_of_lt hj)
  rw [choiceOf, hfound]

theorem decode_option {shape : Shape} {source : Source} (h : source ≠ .null) :
    (Shape.option shape).decode source = (shape.decode source).map some := by
  cases source <;> first | rfl | exact absurd rfl h

end Single

/-! ## Reading members -/

namespace Fields

/-- What has been read of the fields of a record after the members with some names. -/
def gathered : (fs : Fields) → fs.Val → List String → fs.Slots
  | .nil, _, _ => ()
  | .cons name _ _ rest, v, names =>
    (if name ∈ names then some v.1 else none, rest.gathered v.2 names)

/-- A member is read as the field that it names, or passed over. -/
def Reads : (fs : Fields) → fs.Val → String → Source → Prop
  | .nil, _, _, source => source.skipFault? = none
  | .cons name _ shape rest, v, key, source =>
    (key = name → shape.decode source = .ok v.1) ∧ rest.Reads v.2 key source

/-- A field that no member names may be left out, and has its standard value. -/
def LeavesOut : (fs : Fields) → fs.Val → List String → Prop
  | .nil, _, _ => True
  | .cons name presence shape rest, v, names =>
    (name ∉ names → presence ≠ .required ∧ v.1 = shape.standard) ∧ rest.LeavesOut v.2 names

theorem gathered_nil : (fs : Fields) → (v : fs.Val) → fs.gathered v [] = fs.noSlots
  | .nil, _ => rfl
  | .cons _ _ _ rest, v => by
    rw [gathered, if_neg List.not_mem_nil, gathered_nil rest, noSlots]

theorem gathered_congr : (fs : Fields) → (v : fs.Val) → {names names' : List String} →
    (∀ name ∈ fs.names, name ∈ names ↔ name ∈ names') →
    fs.gathered v names = fs.gathered v names'
  | .nil, _, _, _, _ => rfl
  | .cons _ _ _ rest, v, _, _, h => by
    obtain ⟨hname, hrest⟩ := List.forall_mem_cons.1 h
    rw [gathered, gathered, gathered_congr rest v.2 hrest, if_congr hname rfl rfl]

/-- A member that is new is added to what has been read. -/
theorem place_gathered : (fs : Fields) → (v : fs.Val) → fs.names.Nodup → {key : String} →
    {source : Source} → {names : List String} → key ∉ names → fs.Reads v key source →
    fs.place key source (fs.gathered v names) = .ok (fs.gathered v (names ++ [key]))
  | .nil, _, _, _, _, _, _, hreads => by
    rw [place, hreads]
    rfl
  | .cons name _ shape rest, v, hnames, key, source, names, hnew, hreads => by
    obtain ⟨hname, hrest⟩ := List.nodup_cons.1 hnames
    rw [place, gathered, gathered]
    by_cases hkey : key = name
    · -- The other fields have other names.
      subst hkey
      have hothers : ∀ other ∈ rest.names, other ∈ names ↔ other ∈ names ++ [key] := by
        intro other hother
        have hne : other ≠ key := fun heq => hname (heq ▸ hother)
        simp only [List.mem_append, List.mem_singleton, hne, or_false]
      have hmem : key ∈ names ++ [key] := List.mem_append_right _ (List.mem_singleton_self _)
      rw [if_pos rfl, if_neg hnew, if_pos hmem, hreads.1 rfl, gathered_congr rest v.2 hothers]
      rfl
    · have hsame : name ∈ names ++ [key] ↔ name ∈ names := by
        simp only [List.mem_append, List.mem_singleton, Ne.symm hkey, or_false]
      rw [if_neg hkey, place_gathered rest v.2 hrest hnew hreads.2]
      simp only [hsame]
      rfl

theorem complete_gathered : (fs : Fields) → (v : fs.Val) → {names : List String} →
    fs.LeavesOut v names → fs.complete (fs.gathered v names) = .ok v
  | .nil, _, _, _ => rfl
  | .cons name presence shape rest, v, names, h => by
    by_cases hname : name ∈ names
    · rw [gathered, if_pos hname]
      show (rest.complete (rest.gathered v.2 names)).map (fun vs => (v.1, vs)) = .ok v
      rw [complete_gathered rest v.2 h.2]
      rfl
    · obtain ⟨hpresence, hstandard⟩ := h.1 hname
      have hleft : (Fields.cons name presence shape rest).complete (none, rest.gathered v.2 names)
          = (rest.complete (rest.gathered v.2 names)).map fun vs => (shape.standard, vs) := by
        cases presence with
        | required => exact absurd rfl hpresence
        | defaulted => rfl
        | omissible => rfl
      rw [gathered, if_neg hname, hleft, complete_gathered rest v.2 h.2, ← hstandard]
      rfl

/-- Members with different names are read one after the other. -/
theorem foldlM_place {fs : Fields} {v : fs.Val}
    {step : fs.Slots → Option String × Source → Except Fault fs.Slots}
    (hstep : ∀ slots key source, step slots (some key, source) = fs.place key source slots)
    (hnames : fs.names.Nodup) {members : List (String × Json)}
    (hmembers : (members.map (·.1)).Nodup)
    (hreads : ∀ member ∈ members, fs.Reads v member.1 (.ofJson member.2)) :
    (Source.ofMembers members).foldlM step fs.noSlots
      = .ok (fs.gathered v (members.map (·.1))) := by
  -- The induction is on the members that are left.
  have hrest : ∀ done rest, members = done ++ rest →
      (Source.ofMembers rest).foldlM step (fs.gathered v (done.map (·.1)))
        = .ok (fs.gathered v (members.map (·.1))) := by
    intro done rest
    induction rest generalizing done with
    | nil =>
      intro hsplit
      rw [hsplit, List.append_nil]
      rfl
    | cons member rest ih =>
      intro hsplit
      have hmem : member ∈ members := by simp [hsplit]
      have hnew : member.1 ∉ done.map (·.1) := by
        rw [hsplit, List.map_append, List.map_cons] at hmembers
        exact fun hmem => (List.nodup_append.1 hmembers).2.2 _ hmem _ List.mem_cons_self rfl
      have hnext := ih (done ++ [member]) (by rw [hsplit, List.append_cons])
      rw [List.map_append, List.map_singleton] at hnext
      rw [Source.ofMembers, List.foldlM_cons, hstep,
        place_gathered fs v hnames hnew (hreads member hmem)]
      exact hnext
  have hall := hrest [] members rfl
  rwa [List.map_nil, gathered_nil] at hall

end Fields

section Members

variable {members : List (String × Json)} {key : String} {json : Json}

theorem find?_object_of_mem (hmembers : (members.map (·.1)).Nodup) (h : (key, json) ∈ members) :
    (Json.object members).find? key = some json := by
  have hsome : (members.find? (·.1 = key)).isSome :=
    List.find?_isSome.2 ⟨(key, json), h, decide_eq_true rfl⟩
  obtain ⟨member, hmember⟩ := Option.isSome_iff_exists.1 hsome
  have hkey : member.1 = key := by simpa using List.find?_some hmember
  have hsame : member = (key, json) :=
    List.inj_on_of_nodup_map hmembers (List.mem_of_find?_eq_some hmember) h hkey
  rw [Json.find?, hmember, hsame]
  rfl

theorem find?_object_of_not_mem (h : key ∉ members.map (·.1)) :
    (Json.object members).find? key = none := by
  rw [Json.find?, Option.map_eq_none_iff, List.find?_eq_none]
  intro member hmember hkey
  exact h (List.mem_map.2 ⟨member, hmember, of_decide_eq_true hkey⟩)

theorem Fields.leavesOut_of_writesMembers : (fs : Fields) → (v : fs.Val) →
    fs.WritesMembers v members → fs.LeavesOut v (members.map (·.1))
  | .nil, _, _ => trivial
  | .cons name _ _ rest, v, h => by
    refine ⟨fun hname => ?_, leavesOut_of_writesMembers rest v.2 h.2⟩
    have hfirst := h.1
    rwa [find?_object_of_not_mem hname] at hfirst

end Members

/-! ## Reading what writes a value -/

section Objects

variable (shape : Shape) (members : List (Option String × Source))

theorem decode_textMap_object :
    (Shape.textMap shape).decode (.object members none)
      = (do
        let m ← members.foldlM (fun (m : SortedMap String shape.Val) member =>
          match member with
          | (none, _) => .error .malformed
          | (some key, v) => (shape.decode v).map fun v => m.insert key v) SortedMap.empty
        finish none m) := rfl

theorem decode_byteMap_object :
    (Shape.byteMap shape).decode (.object members none)
      = (do
        let m ← members.foldlM (fun (m : SortedMap UInt8 shape.Val) member =>
          match member with
          | (none, _) => .error .malformed
          | (some key, v) => do
            let key ← byteKey key
            let v ← shape.decode v
            pure (m.insert key v)) SortedMap.empty
        finish none m) := rfl

theorem decode_record_object (fields : Fields) :
    (Shape.record fields).decode (.object members none)
      = (do
        let slots ← members.foldlM (fun slots member =>
          match member with
          | (none, _) => .error .malformed
          | (some key, v) => fields.place key v slots) fields.noSlots
        let slots ← finish none slots
        fields.complete slots) := rfl

end Objects

section Collections

variable {α β : Type}

/-- Entries that are inserted in the order of their keys make up the map again. -/
theorem foldlM_insert {κ : Type} [Ord κ] [Std.TransOrd κ] [Std.LawfulEqOrd κ] [DecidableEq κ]
    {m : SortedMap κ α} {step : SortedMap κ α → β → Except Fault (SortedMap κ α)} {bs : List β}
    (h : List.Forall₂ (fun e b => ∀ m, step m b = .ok (m.insert e.1 e.2)) m.entries bs) :
    bs.foldlM step .empty = .ok m := by
  have hfold : ∀ {entries : List (κ × α)} {bs : List β} (m₀ : SortedMap κ α),
      List.Forall₂ (fun e b => ∀ m, step m b = .ok (m.insert e.1 e.2)) entries bs →
      bs.foldlM step m₀ = .ok (entries.foldl (fun m e => m.insert e.1 e.2) m₀) := by
    intro entries bs m₀ h
    induction h generalizing m₀ with
    | nil => rfl
    | cons hfirst _ ih =>
      rw [List.foldlM_cons, hfirst]
      exact ih _
  have hentries : SortedMap.ofList m.entries = m := by
    refine SortedMap.ext_find? fun k => Option.ext fun v => ?_
    rw [SortedMap.find?_ofList_iff m.nodup_keys, SortedMap.mem_entries_iff]
  rw [hfold .empty h]
  exact congrArg Except.ok hentries

variable {shape : Shape}

theorem decode_list {vs : List shape.Val} {items : List Json}
    (h : List.Forall₂ (fun v item => shape.decode (.ofJson item) = .ok v) vs items) :
    (Shape.list shape).decode (.ofJson (.list items)) = .ok vs := by
  have hread : (Source.ofItems items).mapM shape.decode = .ok vs := by
    rw [Source.ofItems_eq_map]
    exact mapM_of_forall₂ (List.forall₂_map_right_iff.2 h)
  show (do
    let vs ← (Source.ofItems items).mapM shape.decode
    finish none vs) = .ok vs
  rw [hread]
  rfl

theorem decode_textMap {m : SortedMap String shape.Val} {members : List (String × Json)}
    (h : List.Forall₂ (fun e member => member.1 = e.1 ∧ shape.decode (.ofJson member.2) = .ok e.2)
      m.entries members) :
    (Shape.textMap shape).decode (.ofJson (.object members)) = .ok m := by
  rw [Source.ofJson, Source.ofMembers_eq_map, decode_textMap_object, foldlM_insert]
  · rfl
  refine List.forall₂_map_right_iff.2 (h.imp fun e member he m => ?_)
  simp only [he.1, he.2]
  rfl

theorem decode_byteMap {m : SortedMap UInt8 shape.Val} {members : List (String × Json)}
    (h : List.Forall₂ (fun e member => member.1 = Text.ofNat e.1.toNat ∧
      shape.decode (.ofJson member.2) = .ok e.2) m.entries members) :
    (Shape.byteMap shape).decode (.ofJson (.object members)) = .ok m := by
  rw [Source.ofJson, Source.ofMembers_eq_map, decode_byteMap_object, foldlM_insert]
  · rfl
  refine List.forall₂_map_right_iff.2 (h.imp fun e member he m => ?_)
  simp only [he.1, he.2, byteKey_ofNat]
  rfl

end Collections

mutual
/-- What writes a value is read as that value. -/
theorem Shape.decode_of_writes : (s : Shape) → s.sound = true → (v : s.Val) → (json : Json) →
    s.Writes v json → s.decode (.ofJson json) = .ok v
  | .bool _, _, _, _, h => by
    cases h
    rfl
  | .uint8, _, n, _, h => by
    cases h
    exact decode_uint8 n
  | .uint16, _, n, _, h => by
    cases h
    exact decode_uint16 n
  | .uint32, _, n, _, h => by
    cases h
    exact decode_uint32 n
  | .uint64, _, n, _, h => by
    cases h
    exact decode_uint64 n
  | .int64, _, i, _, h => by
    cases h
    exact integer_ofInt64 i
  | .double, _, _, _, h => by
    obtain ⟨n, rfl, rfl⟩ := h
    rfl
  | .text, _, _, _, h => by
    cases h
    rfl
  | .option shape, hs, v, json, h => by
    obtain ⟨-, hshape⟩ := Bool.and_eq_true_iff.1 hs
    rcases h with ⟨rfl, rfl⟩ | ⟨a, rfl, hnull, ha⟩
    · rfl
    · have hread := shape.decode_of_writes hshape a json ha
      have hsource : Source.ofJson json ≠ .null := mt Source.ofJson_eq_null hnull
      rw [decode_option hsource, hread]
      rfl
  | .list shape, hs, _, _, h => by
    obtain ⟨items, rfl, hitems⟩ := h
    exact decode_list (hitems.imp fun v item => shape.decode_of_writes hs v item)
  | .textMap shape, hs, _, _, h => by
    obtain ⟨members, rfl, hmembers⟩ := h
    exact decode_textMap (hmembers.imp fun e member he =>
      ⟨he.1, shape.decode_of_writes hs e.2 member.2 he.2⟩)
  | .byteMap shape, hs, _, _, h => by
    obtain ⟨members, rfl, hmembers⟩ := h
    exact decode_byteMap (hmembers.imp fun e member he =>
      ⟨he.1, shape.decode_of_writes hs e.2 member.2 he.2⟩)
  | .choice first others, hs, i, _, h => by
    cases h
    exact choiceOf_get (of_decide_eq_true hs) i
  | .record fields, hs, v, _, h => by
    obtain ⟨hnames, hfields⟩ := Bool.and_eq_true_iff.1 hs
    have hnames := of_decide_eq_true hnames
    rcases h with ⟨members, rfl, hmembers, hwrites⟩ | ⟨items, rfl, hwrites⟩
    · have hreads : ∀ member ∈ members, fields.Reads v member.1 (.ofJson member.2) :=
        fun member hmember => fields.reads_of_writesMembers hfields v members hwrites
          member.1 member.2 (find?_object_of_mem hmembers hmember)
      rw [Source.ofJson, decode_record_object, Fields.foldlM_place ?_ hnames hmembers hreads]
      · exact fields.complete_gathered v (fields.leavesOut_of_writesMembers v hwrites)
      · exact fun _ _ _ => rfl
    · exact fields.decodeItems_of_writesItems hfields v items hwrites

/-- Members that write a record are read as its fields. -/
theorem Fields.reads_of_writesMembers : (fs : Fields) → fs.sound = true → (v : fs.Val) →
    (members : List (String × Json)) → fs.WritesMembers v members → (key : String) →
    (json : Json) → (Json.object members).find? key = some json →
    fs.Reads v key (.ofJson json)
  | .nil, _, _, _, _, _, json, _ => Source.skipFault?_ofJson json
  | .cons name _ shape rest, hs, v, members, h, key, json, hfound => by
    obtain ⟨hshape, hrest⟩ := Bool.and_eq_true_iff.1 hs
    refine ⟨fun hkey => ?_, rest.reads_of_writesMembers hrest v.2 members h.2 key json hfound⟩
    have hfirst := h.1
    rw [← hkey, hfound] at hfirst
    exact shape.decode_of_writes hshape v.1 json hfirst

/-- Items that write a record are read as its fields. -/
theorem Fields.decodeItems_of_writesItems : (fs : Fields) → fs.sound = true → (v : fs.Val) →
    (items : List Json) → fs.WritesItems v items →
    fs.decodeItems (Source.ofItems items) none = .ok v
  | .nil, _, _, _, h => by
    cases h
    rfl
  | .cons name presence shape rest, hs, v, [], h => by
    obtain ⟨-, hrest⟩ := Bool.and_eq_true_iff.1 hs
    obtain ⟨rfl, hstandard, hothers⟩ := h
    have hread := rest.decodeItems_of_writesItems hrest v.2 [] hothers
    show (rest.decodeItems [] none).map (fun vs => (shape.standard, vs)) = .ok v
    rw [Source.ofItems] at hread
    rw [hread, ← hstandard]
    rfl
  | .cons name presence shape rest, hs, v, item :: items, h => by
    obtain ⟨hshape, hrest⟩ := Bool.and_eq_true_iff.1 hs
    have hfirst := shape.decode_of_writes hshape v.1 item h.1
    have hothers := rest.decodeItems_of_writesItems hrest v.2 items h.2
    rw [Source.ofItems, Fields.decodeItems]
    simp only [hfirst, hothers]
    rfl
end

/-- A JSON value is a way to write a value of a type. -/
def Form.Writes {α : Type} (f : Form α) (a : α) (json : Json) : Prop :=
  f.shape.Writes (f.toVal a) json

/-- A list is written by the list of what writes its elements. -/
theorem Form.writes_list {α : Type} {f : Form α} {as : List α} {items : List Json}
    (h : List.Forall₂ f.Writes as items) : f.list.Writes as (.list items) :=
  ⟨items, rfl, List.forall₂_map_left_iff.2 h⟩

/-- What writes a value of a type is read as what the form keeps of it. -/
theorem Form.ofJson_of_writes {α : Type} {f : Form α} {a : α} {json : Json}
    (hf : f.shape.sound = true) (h : f.Writes a json) : f.ofJson json = .ok (f.kept a) := by
  rw [Form.ofJson, Shape.ofJson, f.shape.decode_of_writes hf _ json h]
  exact congrArg Except.ok (f.ofVal_toVal a)

end DaqMonitor.Json

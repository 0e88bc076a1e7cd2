/-
  DaqMonitor.Proofs.Topology.Mirrored

  Links that lead back.

  Where children name a parent, the parent has a list of the children that name it.
  Both sides say the same, as long as there are no more entities than ids; then
  no child is listed twice, and what is collected on the way down from all parents
  is what all children give, each once.

    * `Mirrored parents children down up` — the lists of the parents mirror the
      links of the children.
    * `Mirrored.of_idsWhere` — that holds if every parent lists the positions of the
      children that name it.
    * `Mirrored.flatMap_perm` — one step on the way down.
-/
import DaqMonitor.Proofs.Cycle.Giving
import DaqMonitor.Proofs.Topology.Positions
import Mathlib.Data.List.Induction

namespace DaqMonitor

/-! ## Ids in range -/

/-- An id stands for an element of a list. -/
def EntityId.InRange {arena : Arena} {α : Type} (id : EntityId arena) (entities : List α) : Prop :=
  id.toNat < entities.length

section Ids

variable {α β : Type} {arena : Arena}

theorem EntityId.inRange_ofNat {n : Nat} {entities : List α} (hn : n < entities.length)
    (hsize : entities.length ≤ UInt32.size) : (EntityId.ofNat n : EntityId arena).InRange entities := by
  rw [EntityId.InRange, EntityId.toNat_ofNat (Nat.lt_of_lt_of_le hn hsize)]
  exact hn

theorem EntityId.inRange_of_get? {id : EntityId arena} {entities : List α} {a : α}
    (h : id.get? entities = some a) : id.InRange entities :=
  (List.getElem?_eq_some_iff.1 h).1

theorem EntityId.ofNat_inj {n m : Nat} (hn : n < UInt32.size) (hm : m < UInt32.size)
    (h : (EntityId.ofNat n : EntityId arena) = .ofNat m) : n = m := by
  have hplace := congrArg EntityId.toNat h
  rwa [EntityId.toNat_ofNat hn, EntityId.toNat_ofNat hm] at hplace

theorem EntityId.get?_ofNat {n : Nat} {entities : List α} (hn : n < entities.length)
    (hsize : entities.length ≤ UInt32.size) :
    (EntityId.ofNat n : EntityId arena).get? entities = some entities[n] := by
  rw [EntityId.get?, EntityId.toNat_ofNat (Nat.lt_of_lt_of_le hn hsize), List.getElem?_eq_getElem hn]

theorem nodup_idsFrom {count : Nat} (h : count ≤ UInt32.size) :
    (idsFrom 0 count : List (EntityId arena)).Nodup := by
  refine List.Nodup.map_on (fun n hn m hm heq => ?_) (List.nodup_range' _)
  have hn' := (List.mem_range'_1.1 hn).2
  have hm' := (List.mem_range'_1.1 hm).2
  exact EntityId.ofNat_inj (by omega) (by omega) heq

/-- What all ids of a list lead to. -/
theorem flatMap_idsFrom {entities : List α} (hsize : entities.length ≤ UInt32.size)
    (f : α → List β) :
    (idsFrom 0 entities.length : List (EntityId arena)).flatMap
        (fun id => ((id.get? entities).map f).getD []) = entities.flatMap f := by
  have hget : ∀ n ∈ List.range' 0 entities.length,
      (((EntityId.ofNat n : EntityId arena).get? entities).map f).getD []
        = ((entities[n]?).map f).getD [] := by
    intro n hn
    have hlt := (List.mem_range'_1.1 hn).2
    rw [EntityId.get?, EntityId.toNat_ofNat (by omega)]
  rw [idsFrom, List.flatMap_map, List.flatMap_def, List.map_congr_left hget, List.flatMap_def]
  refine congrArg List.flatten (List.ext_getElem? fun n => ?_)
  rw [List.getElem?_map, List.getElem?_map]
  by_cases hn : n < entities.length
  · simp [hn]
  · simp [hn]

end Ids

namespace Topology

section Where

variable {α : Type} {arena : Arena} {p : α → Bool} {l : List α}

theorem nodup_idsWhere (hsize : l.length ≤ UInt32.size) :
    (idsWhere p l : List (EntityId arena)).Nodup := by
  have hsub : (idsWhere p l : List (EntityId arena)).Sublist (idsFrom 0 l.length) := by
    rw [idsFrom, ← List.zipIdx_map_snd, List.map_map]
    exact List.Sublist.map _ List.filter_sublist
  exact (nodup_idsFrom hsize).sublist hsub

theorem idsWhere_snoc (a : α) :
    (idsWhere p (l ++ [a]) : List (EntityId arena))
      = idsWhere p l ++ if p a then [.ofNat l.length] else [] := by
  rw [idsWhere, List.zipIdx_append, List.filter_append, List.map_append, Nat.zero_add]
  by_cases ha : p a = true
  · simp [idsWhere, ha]
  · simp [idsWhere, ha]

/-- The last position is behind all others. -/
theorem getLast?_idsWhere {id : EntityId arena} :
    (idsWhere p l).getLast? = some id ↔ ∃ n a, l[n]? = some a ∧ p a = true ∧
      (∀ m b, n < m → l[m]? = some b → p b = false) ∧ id = .ofNat n := by
  induction l using List.reverseRecOn with
  | nil => simp [idsWhere]
  | append_singleton l a ih =>
    -- What stands in the longer list stands in the shorter one or is the new last.
    have hget : ∀ {n : Nat} {b : α}, (l ++ [a])[n]? = some b ↔
        l[n]? = some b ∨ n = l.length ∧ b = a := by
      intro n b
      rcases Nat.lt_trichotomy n l.length with hn | rfl | hn
      · simp [List.getElem?_append_left hn, Nat.ne_of_lt hn]
      · simp [eq_comm]
      · simp [List.getElem?_append_right (Nat.le_of_lt hn), Nat.ne_of_gt hn, Nat.le_of_lt hn,
          Nat.sub_ne_zero_of_lt hn]
    rw [idsWhere_snoc]
    by_cases ha : p a = true
    · rw [if_pos ha, List.getLast?_concat, Option.some_inj]
      constructor
      · rintro rfl
        refine ⟨l.length, a, hget.2 (.inr ⟨rfl, rfl⟩), ha, fun m b hm hb => ?_, rfl⟩
        rcases hget.1 hb with hold | ⟨rfl, -⟩
        · exact absurd (List.getElem?_eq_some_iff.1 hold).1 (by omega)
        · exact absurd hm (Nat.lt_irrefl _)
      · rintro ⟨n, b, hn, -, hlast, rfl⟩
        rcases hget.1 hn with hold | ⟨rfl, -⟩
        · have hlater := hlast l.length a (List.getElem?_eq_some_iff.1 hold).1 (hget.2 (.inr ⟨rfl, rfl⟩))
          rw [ha] at hlater
          cases hlater
        · rfl
    · rw [if_neg ha, List.append_nil, ih]
      refine exists_congr fun n => exists_congr fun b => ?_
      constructor
      · rintro ⟨hn, hb, hlast, rfl⟩
        refine ⟨hget.2 (.inl hn), hb, fun m b' hm hb' => ?_, rfl⟩
        rcases hget.1 hb' with hold | ⟨-, rfl⟩
        · exact hlast m b' hm hold
        · exact Bool.not_eq_true _ ▸ ha
      · rintro ⟨hn, hb, hlast, rfl⟩
        rcases hget.1 hn with hold | ⟨-, rfl⟩
        · exact ⟨hold, hb, fun m b' hm hb' => hlast m b' hm (hget.2 (.inl hb')), rfl⟩
        · exact absurd hb ha

end Where

end Topology

/-! ## Lists that mirror links -/

/-- The lists of the parents mirror the links of the children: a parent lists a child exactly if the
    child names it, the parents that are named are there, and no child is listed twice. -/
structure Mirrored {parentArena childArena : Arena} {α β : Type} (parents : List α)
    (children : List β) (down : α → List (EntityId childArena))
    (up : β → Option (EntityId parentArena)) : Prop where
  listed : ∀ (p : EntityId parentArena) parent, p.get? parents = some parent →
    ∀ c, c ∈ down parent ↔ ∃ child, c.get? children = some child ∧ up child = some p
  named : ∀ child ∈ children, ∀ p, up child = some p → p.InRange parents
  once : (parents.flatMap down).Nodup

namespace Mirrored

variable {parentArena childArena : Arena} {α β γ : Type} {parents : List α} {children : List β}
  {down : α → List (EntityId childArena)} {up : β → Option (EntityId parentArena)}

/-- A child that is listed once by one parent is listed once, for it names one parent only. -/
theorem of_listed (hparents : parents.length ≤ UInt32.size)
    (hlisted : ∀ (p : EntityId parentArena) parent, p.get? parents = some parent →
      ∀ c, c ∈ down parent ↔ ∃ child, c.get? children = some child ∧ up child = some p)
    (hnamed : ∀ child ∈ children, ∀ p, up child = some p → p.InRange parents)
    (honce : ∀ parent ∈ parents, (down parent).Nodup) : Mirrored parents children down up := by
  refine ⟨hlisted, hnamed, List.nodup_flatMap.2 ⟨honce, ?_⟩⟩
  rw [List.pairwise_iff_getElem]
  intro i j hi hj hlt c hci hcj
  obtain ⟨child, hchild, hup⟩ := (hlisted _ _ (EntityId.get?_ofNat hi hparents) c).1 hci
  obtain ⟨child', hchild', hup'⟩ := (hlisted _ _ (EntityId.get?_ofNat hj hparents) c).1 hcj
  obtain rfl : child = child' := Option.some.inj (hchild.symm.trans hchild')
  have heq := EntityId.ofNat_inj (by omega) (by omega) (Option.some.inj (hup.symm.trans hup'))
  omega

/-- Every parent lists the positions of the children that name it. -/
theorem of_idsWhere (hparents : parents.length ≤ UInt32.size)
    (hchildren : children.length ≤ UInt32.size)
    (hdown : ∀ n parent, parents[n]? = some parent →
      down parent = Topology.idsWhere (fun c => up c == some (.ofNat n)) children)
    (hnamed : ∀ child ∈ children, ∀ p, up child = some p → p.InRange parents) :
    Mirrored parents children down up := by
  refine .of_listed hparents (fun p parent hp c => ?_) hnamed fun parent hparent => ?_
  · rw [hdown p.toNat parent hp, EntityId.ofNat_toNat, Topology.mem_idsWhere]
    constructor
    · rintro ⟨n, child, hn, hup, rfl⟩
      obtain ⟨hlt, rfl⟩ := List.getElem?_eq_some_iff.1 hn
      exact ⟨_, EntityId.get?_ofNat hlt hchildren, beq_iff_eq.1 hup⟩
    · rintro ⟨child, hchild, hup⟩
      exact ⟨c.toNat, child, hchild, beq_iff_eq.2 hup, c.ofNat_toNat.symm⟩
  · obtain ⟨n, hn⟩ := List.mem_iff_getElem?.1 hparent
    rw [hdown n parent hn]
    exact Topology.nodup_idsWhere hchildren

/-- What is listed is there. -/
theorem inRange (h : Mirrored parents children down up) (hparents : parents.length ≤ UInt32.size) :
    ∀ parent ∈ parents, ∀ c ∈ down parent, c.InRange children := by
  intro parent hparent c hc
  obtain ⟨n, hn, rfl⟩ := List.getElem_of_mem hparent
  obtain ⟨child, hchild, -⟩ := (h.listed _ _ (EntityId.get?_ofNat hn hparents) c).1 hc
  exact EntityId.inRange_of_get? hchild

/-- If all children name a parent, the parents together list each of them once. -/
theorem perm (h : Mirrored parents children down up) (hparents : parents.length ≤ UInt32.size)
    (hchildren : children.length ≤ UInt32.size) (hup : ∀ child ∈ children, ∃ p, up child = some p) :
    (parents.flatMap down).Perm (idsFrom 0 children.length) := by
  refine (List.perm_ext_iff_of_nodup h.once (nodup_idsFrom hchildren)).2 fun c => ?_
  rw [List.mem_flatMap, mem_idsFrom]
  constructor
  · rintro ⟨parent, hparent, hc⟩
    have hlt : c.toNat < children.length := h.inRange hparents parent hparent c hc
    exact ⟨c.toNat, Nat.zero_le _, by omega, c.ofNat_toNat.symm⟩
  · rintro ⟨n, -, hn, rfl⟩
    rw [Nat.zero_add] at hn
    obtain ⟨p, hp⟩ := hup children[n] (List.getElem_mem hn)
    have hrange := h.named _ (List.getElem_mem hn) p hp
    refine ⟨parents[p.toNat], List.getElem_mem hrange, ?_⟩
    refine (h.listed p _ (List.getElem?_eq_getElem hrange) _).2 ⟨children[n], ?_, hp⟩
    exact EntityId.get?_ofNat hn hchildren

/-- One step on the way down: what is collected from all parents is what is collected from all
    children. -/
theorem flatMap_perm (h : Mirrored parents children down up)
    (hparents : parents.length ≤ UInt32.size) (hchildren : children.length ≤ UInt32.size)
    (hup : ∀ child ∈ children, ∃ p, up child = some p) (collect : EntityId childArena → List γ) :
    ((idsFrom 0 parents.length : List (EntityId parentArena)).flatMap fun p =>
        ((p.get? parents).map fun parent => (down parent).flatMap collect).getD []).Perm
      ((idsFrom 0 children.length).flatMap collect) := by
  rw [flatMap_idsFrom hparents, ← List.flatMap_assoc]
  exact (h.perm hparents hchildren hup).flatMap_right collect

end Mirrored

end DaqMonitor

/-
  DaqMonitor.Proofs.Topology.Positions

  Where the entities of a nested description stand.

  A description nests what belongs together; the graph has one list for each kind.
  What belongs to one element stands there in a row, behind what belongs to the
  elements before it.

    * `below children start parents` — what belongs to the elements of a list, with
      the element and its position.
    * `getElem?_below` — where it stands.
    * `childIds_below` — the positions of what belongs to one element.
-/
import DaqMonitor.Topology.Build

namespace DaqMonitor

/-! ## Ids in a row -/

/-- The ids of `count` entities in a row. -/
def idsFrom {arena : Arena} (start count : Nat) : List (EntityId arena) :=
  (List.range' start count).map .ofNat

theorem mem_idsFrom {arena : Arena} {start count : Nat} {id : EntityId arena} :
    id ∈ idsFrom start count ↔ ∃ n : Nat, start ≤ n ∧ n < start + count ∧ id = .ofNat n := by
  simp only [idsFrom, List.mem_map, List.mem_range'_1]
  constructor
  · rintro ⟨n, ⟨hle, hlt⟩, rfl⟩
    exact ⟨n, hle, hlt, rfl⟩
  · rintro ⟨n, hle, hlt, rfl⟩
    exact ⟨n, ⟨hle, hlt⟩, rfl⟩

theorem idsFrom_add {arena : Arena} (start count count' : Nat) :
    (idsFrom start (count + count') : List (EntityId arena))
      = idsFrom start count ++ idsFrom (start + count) count' := by
  rw [idsFrom, idsFrom, idsFrom, ← List.map_append, List.range'_append_1]

/-- The ids of a list that is one longer. -/
theorem idsFrom_length_concat {arena : Arena} {α : Type} (start : Nat) (l : List α) (a : α) :
    (idsFrom start (l ++ [a]).length : List (EntityId arena))
      = idsFrom start l.length ++ [.ofNat (start + l.length)] := by
  rw [List.length_append, List.length_singleton, idsFrom_add]
  rfl

theorem length_idsFrom {arena : Arena} (start count : Nat) :
    (idsFrom start count : List (EntityId arena)).length = count := by
  rw [idsFrom, List.length_map, List.length_range']

/-- An element of a list stands between those before it and those after it. -/
theorem exists_append_of_getElem? {α : Type} {l : List α} {n : Nat} {a : α} (h : l[n]? = some a) :
    ∃ before after, l = before ++ a :: after ∧ before.length = n := by
  obtain ⟨hn, rfl⟩ := List.getElem?_eq_some_iff.1 h
  refine ⟨l.take n, l.drop (n + 1), ?_, by rw [List.length_take, Nat.min_eq_left (Nat.le_of_lt hn)]⟩
  rw [List.getElem_cons_drop, List.take_append_drop]

theorem getElem?_idsFrom {arena : Arena} {start count i : Nat} {id : EntityId arena} :
    (idsFrom start count)[i]? = some id ↔ i < count ∧ id = .ofNat (start + i) := by
  rw [idsFrom, List.getElem?_map, Option.map_eq_some_iff]
  constructor
  · rintro ⟨n, hn, rfl⟩
    obtain ⟨hi, rfl⟩ := List.getElem?_eq_some_iff.1 hn
    rw [List.length_range'] at hi
    rw [List.getElem_range', Nat.one_mul]
    exact ⟨hi, rfl⟩
  · rintro ⟨hi, rfl⟩
    refine ⟨start + i, ?_, rfl⟩
    rw [List.getElem?_range' hi, Nat.one_mul]

namespace Topology

/-! ## The positions of some entities -/

section Where

variable {α : Type} {arena : Arena} {p : α → Bool}

theorem mem_idsWhere {l : List α} {id : EntityId arena} :
    id ∈ idsWhere p l ↔ ∃ n a, l[n]? = some a ∧ p a = true ∧ id = .ofNat n := by
  simp only [idsWhere, List.mem_map, List.mem_filter, Prod.exists,
    List.mk_mem_zipIdx_iff_getElem?]
  constructor
  · rintro ⟨a, n, ⟨hn, ha⟩, rfl⟩
    exact ⟨n, a, hn, ha, rfl⟩
  · rintro ⟨n, a, hn, ha, rfl⟩
    exact ⟨a, n, ⟨hn, ha⟩, rfl⟩

/-- Entities in a row. -/
theorem idsWhere_append_append {l l' l'' : List α} (h : ∀ a ∈ l, p a = false)
    (h' : ∀ a ∈ l', p a = true) (h'' : ∀ a ∈ l'', p a = false) :
    (idsWhere p (l ++ l' ++ l'') : List (EntityId arena)) = idsFrom l.length l'.length := by
  have hnone : ∀ (l : List α) (n : Nat), (∀ a ∈ l, p a = false) →
      (l.zipIdx n).filter (fun e => p e.1) = [] := by
    intro l n hl
    rw [List.filter_eq_nil_iff]
    intro e he
    rw [hl e.1 (List.fst_mem_of_mem_zipIdx he)]
    exact Bool.false_ne_true
  have hall : (l'.zipIdx l.length).filter (fun e => p e.1) = l'.zipIdx l.length := by
    rw [List.filter_eq_self]
    exact fun e he => h' e.1 (List.fst_mem_of_mem_zipIdx he)
  rw [idsWhere, List.zipIdx_append, List.zipIdx_append, List.filter_append, List.filter_append,
    hnone l _ h, hnone l'' _ h'', List.nil_append, List.append_nil, Nat.zero_add, hall, idsFrom,
    ← List.zipIdx_map_snd, List.map_map]
  rfl

theorem idsWhere_map {β : Type} (f : β → α) (p : α → Bool) (l : List β) :
    (idsWhere p (l.map f) : List (EntityId arena)) = idsWhere (fun b => p (f b)) l := by
  rw [idsWhere, List.zipIdx_map, List.filter_map, List.map_map]
  rfl

/-- Positions that are the same for both lists. -/
theorem idsWhere_congr {β : Type} {q : β → Bool} {l : List α} {l' : List β}
    (h : l.map p = l'.map q) : (idsWhere p l : List (EntityId arena)) = idsWhere q l' := by
  have hflags := congrArg (fun flags => (idsWhere id flags : List (EntityId arena))) h
  simp only [idsWhere_map] at hflags
  exact hflags

end Where

/-! ## What belongs to what -/

section Levels

variable {α β : Type} {children : α → List β}

/-- An element with the one that it belongs to and the position of that one. -/
structure Below (α β : Type) where
  parent : α
  position : Nat
  self : β

/-- What belongs to the elements of a list, the first of which is at `start`. -/
def below (children : α → List β) (start : Nat) (parents : List α) : List (Below α β) :=
  (parents.zipIdx start).flatMap fun p => (children p.1).map fun b => ⟨p.1, p.2, b⟩

/-- The positions of what belongs to the element at `n`. -/
def childIds {arena : Arena} (n : Nat) (elements : List (Below α β)) : List (EntityId arena) :=
  idsWhere (fun b => b.position == n) elements

theorem below_append (start : Nat) (l l' : List α) :
    below children start (l ++ l')
      = below children start l ++ below children (start + l.length) l' := by
  rw [below, List.zipIdx_append, List.flatMap_append]
  rfl

theorem below_cons (start : Nat) (p : α) (l : List α) :
    below children start (p :: l)
      = ((children p).map fun b => ⟨p, start, b⟩) ++ below children (start + 1) l := rfl

theorem map_self_below (start : Nat) (l : List α) :
    (below children start l).map (·.self) = l.flatMap children := by
  induction l generalizing start with
  | nil => rfl
  | cons p l ih =>
    rw [below_cons, List.map_append, List.map_map, ih, List.flatMap_cons]
    exact congrArg (· ++ _) (List.map_id _)

theorem length_below (start : Nat) (l : List α) :
    (below children start l).length = (l.flatMap children).length := by
  rw [← map_self_below start, List.length_map]

theorem mem_below {start : Nat} {l : List α} {b : Below α β} (h : b ∈ below children start l) :
    start ≤ b.position ∧ l[b.position - start]? = some b.parent ∧ b.self ∈ children b.parent := by
  obtain ⟨⟨p, n⟩, hp, hb⟩ := List.mem_flatMap.1 h
  obtain ⟨hle, hget⟩ := List.mem_zipIdx_iff_le_and_getElem?_sub.1 hp
  obtain ⟨self, hself, rfl⟩ := List.mem_map.1 hb
  exact ⟨hle, hget, hself⟩

theorem position_lt_of_mem_below {l : List α} {b : Below α β} (h : b ∈ below children 0 l) :
    b.position < l.length := by
  obtain ⟨-, hparent, -⟩ := mem_below h
  exact (List.getElem?_eq_some_iff.1 hparent).1

/-- What belongs to an element comes behind what belongs to the elements before it. -/
theorem getElem?_below {l l' : List α} {p : α} {c c' : List β} {b : β}
    (hp : children p = c ++ b :: c') :
    (below children 0 (l ++ p :: l'))[(l.flatMap children ++ c).length]?
      = some ⟨p, l.length, b⟩ := by
  have hlength : (below children 0 l).length = (l.flatMap children).length := length_below 0 l
  rw [below_append, below_cons, hp, List.getElem?_append_right (by simp [hlength]),
    List.getElem?_append_left (by simp [hlength])]
  simp [hlength]

theorem self_mem_of_mem_below {start : Nat} {l : List α} {b : Below α β}
    (h : b ∈ below children start l) : b.self ∈ l.flatMap children := by
  rw [← map_self_below start]
  exact List.mem_map_of_mem h

theorem getElem?_flatMap_of_below {start : Nat} {l : List α} {n : Nat} {b : Below α β}
    (h : (below children start l)[n]? = some b) : (l.flatMap children)[n]? = some b.self := by
  rw [← map_self_below start, List.getElem?_map, h, Option.map_some]

/-- Only what belongs to an element stands in its place. -/
theorem getElem?_below_iff {l l' : List α} {p : α} {n : Nat} {b : Below α β} :
    (below children 0 (l ++ p :: l'))[n]? = some b ∧ b.position = l.length ↔
      ∃ i self, (children p)[i]? = some self ∧ n = (l.flatMap children).length + i ∧
        b = ⟨p, l.length, self⟩ := by
  have hlength : (below children 0 l).length = (l.flatMap children).length := length_below 0 l
  rw [below_append, below_cons, Nat.zero_add, ← hlength]
  constructor
  · rintro ⟨hn, hpos⟩
    -- Whatever stands before or behind belongs to another position.
    by_cases hbefore : n < (below children 0 l).length
    · rw [List.getElem?_append_left hbefore] at hn
      have hlt := position_lt_of_mem_below (List.mem_of_getElem? hn)
      omega
    · rw [List.getElem?_append_right (Nat.not_lt.1 hbefore)] at hn
      by_cases hown : n - (below children 0 l).length < (children p).length
      · rw [List.getElem?_append_left (by rwa [List.length_map]), List.getElem?_map] at hn
        obtain ⟨self, hself, rfl⟩ := Option.map_eq_some_iff.1 hn
        exact ⟨_, self, hself, by omega, rfl⟩
      · rw [List.getElem?_append_right (by rw [List.length_map]; omega)] at hn
        obtain ⟨hle, -, -⟩ := mem_below (List.mem_of_getElem? hn)
        omega
  · rintro ⟨i, self, hself, rfl, rfl⟩
    have hi : i < (children p).length := (List.getElem?_eq_some_iff.1 hself).1
    refine ⟨?_, rfl⟩
    rw [List.getElem?_append_right (Nat.le_add_right _ _), Nat.add_sub_cancel_left,
      List.getElem?_append_left (by rwa [List.length_map]), List.getElem?_map, hself]
    rfl

/-- The positions of what belongs to one element. -/
theorem childIds_below {arena : Arena} (l l' : List α) (p : α) :
    (childIds l.length (below children 0 (l ++ p :: l')) : List (EntityId arena))
      = idsFrom (l.flatMap children).length (children p).length := by
  rw [below_append, below_cons, ← List.append_assoc, childIds, idsWhere_append_append,
    length_below, List.length_map]
  · intro b hb
    exact beq_eq_false_iff_ne.2 (Nat.ne_of_lt (position_lt_of_mem_below hb))
  · intro b hb
    obtain ⟨_, -, rfl⟩ := List.mem_map.1 hb
    exact beq_iff_eq.2 (Nat.zero_add _)
  · intro b hb
    obtain ⟨hle, -, -⟩ := mem_below hb
    exact beq_eq_false_iff_ne.2 (by omega)

end Levels

end Topology

end DaqMonitor

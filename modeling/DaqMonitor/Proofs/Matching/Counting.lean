/-
  DaqMonitor.Proofs.Matching.Counting

  How many units of rows are about something.

  A row is about something if a target is found for it; that is where it has a
  unit that is counted as a hit. A row by host, by number or by position is a
  single unit. A row with lists has a unit for each id that it lists, and one for
  each column that is no list of ids.

    * `Outcome.mem_resolvedRows` — the rows that are about something.
    * `hits_byIdLists`, `misses_byIdLists` — the units of a row with lists.
-/
import DaqMonitor.Matching.Rules
import DaqMonitor.Proofs.Matching.Finding

namespace DaqMonitor

open Flashlist

/-! ## Values without repetition -/

theorem nodup_eraseDups {α : Type} [BEq α] [LawfulBEq α] (values : List α) :
    values.eraseDups.Nodup := by
  induction hlength : values.length using Nat.strongRecOn generalizing values with
  | ind length ih =>
    cases values with
    | nil => exact List.nodup_nil
    | cons a rest =>
      rw [List.eraseDups_cons, List.nodup_cons]
      constructor
      · intro hmem
        have hne := (List.mem_filter.1 (List.mem_eraseDups.1 hmem)).2
        simp at hne
      · have hshorter := List.length_filter_le (fun b => !b == a) rest
        exact ih _ (by rw [← hlength, List.length_cons]; omega) _ rfl

/-- The numbers of the values that are picked from a list. -/
theorem mem_numbers {α : Type} {values : List α} {p : α × Nat → Bool} {n : Nat} :
    n ∈ (values.zipIdx.filter p).map (·.2) ↔ ∃ a, values[n]? = some a ∧ p (a, n) = true := by
  simp only [List.mem_map, List.mem_filter]
  constructor
  · rintro ⟨⟨a, i⟩, ⟨hmem, hp⟩, rfl⟩
    exact ⟨a, List.mem_zipIdx_iff_getElem?.1 hmem, hp⟩
  · rintro ⟨a, ha, hp⟩
    exact ⟨(a, n), ⟨List.mem_zipIdx_iff_getElem?.2 ha, hp⟩, rfl⟩

theorem exists_getElem?_map {α β : Type} {values : List α} {f : α → β} {p : β → Prop} {n : Nat} :
    (∃ b, (values.map f)[n]? = some b ∧ p b) ↔ ∃ a, values[n]? = some a ∧ p (f a) := by
  rw [List.getElem?_map]
  cases values[n]? with
  | none => simp
  | some a => simp

theorem nodup_numbers {α : Type} {values : List α} {p : α × Nat → Bool} :
    ((values.zipIdx.filter p).map (·.2)).Nodup := by
  have hnumbers : (values.zipIdx.map (·.2)).Nodup := by
    rw [List.zipIdx_map_snd]
    exact List.nodup_range'
  exact hnumbers.sublist (List.filter_sublist.map _)

theorem length_numbers {α : Type} (values : List α) (p : α → Bool) :
    ((values.zipIdx.filter fun r => p r.1).map (·.2)).length = values.countP p := by
  rw [List.length_map, ← List.countP_eq_length_filter]
  calc values.zipIdx.countP (fun r => p r.1)
      = (values.zipIdx.map (·.1)).countP p := List.countP_map.symm
    _ = values.countP p := by rw [List.zipIdx_map_fst]

/-- So many values have a property. -/
def CountOf {α : Type} (p : α → Prop) (count : Nat) : Prop :=
  ∃ values : List α, values.Nodup ∧ (∀ a, a ∈ values ↔ p a) ∧ values.length = count

theorem CountOf.congr {α : Type} {p p' : α → Prop} {count : Nat} (h : ∀ a, p a ↔ p' a) :
    CountOf p count ↔ CountOf p' count := by
  rw [funext fun a => propext (h a)]

/-- The places of a list whose values have a property. -/
theorem countOf_countP {α : Type} (values : List α) (p : α → Bool) :
    CountOf (fun n : Nat => ∃ a, values[n]? = some a ∧ p a = true) (values.countP p) :=
  ⟨_, nodup_numbers, fun _ => mem_numbers, length_numbers values p⟩

namespace Matching

/-! ## Rows -/

/-- The number of units of a row. -/
def RowMatch.units (m : RowMatch) : Nat := m.hits + m.misses

section Rows

variable {ms : List RowMatch} {n : Nat}

/-- The rows with a unit that is about something. -/
theorem Outcome.mem_resolvedRows :
    n ∈ (Outcome.ofRows ms).resolvedRows ↔ ∃ m, ms[n]? = some m ∧ 0 < m.hits := by
  rw [ofRows, mem_numbers]
  simp only [decide_eq_true_eq]

theorem Outcome.mem_missedRows :
    n ∈ (Outcome.ofRows ms).missedRows ↔ ∃ m, ms[n]? = some m ∧ 0 < m.misses := by
  rw [ofRows, mem_numbers]
  simp only [decide_eq_true_eq]

theorem Outcome.mem_resolvedRows_or_missedRows :
    n ∈ (Outcome.ofRows ms).resolvedRows ∨ n ∈ (Outcome.ofRows ms).missedRows ↔
      ∃ m, ms[n]? = some m ∧ 0 < m.units := by
  rw [mem_resolvedRows, mem_missedRows, ← exists_or]
  refine exists_congr fun m => ?_
  rw [← and_or_left]
  exact and_congr_right fun _ => by unfold RowMatch.units; omega

/-- Where every row is a single unit, the units are the rows. -/
theorem Outcome.matched_eq_length (h : ∀ m ∈ ms, m.units = 1) :
    (Outcome.ofRows ms).matched = (Outcome.ofRows ms).resolvedRows.length ∧
      (Outcome.ofRows ms).unmatched = (Outcome.ofRows ms).missedRows.length := by
  rw [ofRows, length_numbers ms fun m => 0 < m.hits, length_numbers ms fun m => 0 < m.misses]
  induction ms with
  | nil => exact ⟨rfl, rfl⟩
  | cons m ms ih =>
    obtain ⟨hm, hms⟩ := List.forall_mem_cons.1 h
    obtain ⟨hmatched, hunmatched⟩ := ih hms
    unfold RowMatch.units at hm
    simp only [List.foldr_cons, List.countP_cons, decide_eq_true_eq] at hmatched hunmatched ⊢
    constructor
    · rw [hmatched]
      split <;> omega
    · rw [hunmatched]
      split <;> omega

/-- Rows that are matched one by one. -/
theorem Outcome.mem_resolvedRows_map {rows : List Row} {matchRow : Row → RowMatch} :
    n ∈ (Outcome.ofRows (rows.map matchRow)).resolvedRows ↔
      ∃ row, rows[n]? = some row ∧ 0 < (matchRow row).hits := by
  rw [mem_resolvedRows, exists_getElem?_map]

theorem Outcome.mem_missedRows_map {rows : List Row} {matchRow : Row → RowMatch} :
    n ∈ (Outcome.ofRows (rows.map matchRow)).missedRows ↔
      ∃ row, rows[n]? = some row ∧ 0 < (matchRow row).misses := by
  rw [mem_missedRows, exists_getElem?_map]

theorem Outcome.mem_resolvedRows_or_missedRows_map {rows : List Row} {matchRow : Row → RowMatch} :
    n ∈ (Outcome.ofRows (rows.map matchRow)).resolvedRows ∨
        n ∈ (Outcome.ofRows (rows.map matchRow)).missedRows ↔
      ∃ row, rows[n]? = some row ∧ 0 < (matchRow row).units := by
  rw [mem_resolvedRows_or_missedRows, exists_getElem?_map]

end Rows

/-! ## Hits -/

namespace RowMatch

/-- A match with a hit for what it is about: there are hits where there are targets. -/
def Fair (m : RowMatch) : Prop := 0 < m.hits ↔ m.targets ≠ []

theorem fair_miss : miss.Fair := by simp [Fair, miss]

theorem fair_ignored : ignored.Fair := by simp [Fair, ignored]

theorem fair_hit {targets : List Target} (h : targets ≠ []) : (hit targets).Fair := by
  simp [Fair, hit, h]

theorem fair_ofTargets (targets : List Target) : (ofTargets targets).Fair := by
  unfold ofTargets
  cases targets with
  | nil => exact fair_miss
  | cons t rest => exact fair_hit (List.cons_ne_nil t rest)

theorem Fair.append {a b : RowMatch} (ha : a.Fair) (hb : b.Fair) : (a.append b).Fair := by
  unfold Fair at ha hb ⊢
  simp only [RowMatch.append, ne_eq, List.append_eq_nil_iff, not_and_or]
  rw [← ne_eq, ← ne_eq, ← ha, ← hb]
  omega

@[simp] theorem units_ofTargets (targets : List Target) : (ofTargets targets).units = 1 := by
  unfold ofTargets
  cases targets <;> rfl

@[simp] theorem units_hit (targets : List Target) : (hit targets).units = 1 := rfl

@[simp] theorem units_miss : miss.units = 1 := rfl

@[simp] theorem units_ignored : ignored.units = 0 := rfl

end RowMatch

/-! ## Rows by position -/

namespace Finder

variable (finder : Finder) (candidates : List (Position × Target)) (row : Row)

theorem fair_matchRow : (finder.matchRow candidates row).Fair := by
  unfold matchRow
  split
  · exact RowMatch.fair_miss
  · exact RowMatch.fair_ofTargets _

theorem units_matchRow : (finder.matchRow candidates row).units = 1 := by
  unfold matchRow
  split <;> simp

end Finder

/-! ## Lists of ids -/

section Lists

variable {arena : Arena} (columns : List String) (pool : SortedMap UInt32 (EntityId arena))
  (make : EntityId arena → Target) (row : Row)

/-- The ids that a row lists in some columns; nothing for a column that is no list of ids. -/
def listedIds : List (Option Int64) :=
  columns.flatMap fun column =>
    match row.integerList column with
    | .ok ids => ids.map some
    | .error _ => [none]

/-- Whether a listed id is that of an entity. -/
def isListed (id : Option Int64) : Bool :=
  id.any fun id =>
    decide (0 ≤ id.toInt ∧ id.toInt.toNat < UInt32.size) &&
      (pool.find? (UInt32.ofNat id.toInt.toNat)).isSome

/-- What a listed id is about. -/
def byListed : Option Int64 → RowMatch
  | some id => byListedId pool make id
  | none => .miss

/-- A listed id is about an entity or about nothing. -/
theorem byListed_cases (id : Option Int64) :
    (isListed pool id = true ∧ ∃ t, byListed pool make id = .hit [t]) ∨
      (isListed pool id = false ∧ byListed pool make id = .miss) := by
  cases id with
  | none => exact .inr ⟨rfl, rfl⟩
  | some id =>
    by_cases hrange : 0 ≤ id.toInt ∧ id.toInt.toNat < UInt32.size
    · have hby : byListed pool make (some id)
          = .ofTargets ((pool.find? (UInt32.ofNat id.toInt.toNat)).map make).toList := if_pos hrange
      have hlisted : isListed pool (some id)
          = (pool.find? (UInt32.ofNat id.toInt.toNat)).isSome := by
        rw [isListed, Option.any_some, decide_eq_true hrange, Bool.true_and]
      rw [hby, hlisted]
      cases pool.find? (UInt32.ofNat id.toInt.toNat) with
      | none => exact .inr ⟨rfl, rfl⟩
      | some entity => exact .inl ⟨rfl, make entity, rfl⟩
    · -- A number that is no id of 32 bits is that of no entity.
      right
      simp only [isListed, byListed, byListedId, Option.any_some, hrange, decide_false,
        Bool.false_and, if_false, and_self]

/-- A row with lists is made up of the ids that it lists. -/
theorem byIdLists_eq_foldl :
    byIdLists columns pool make row
      = (listedIds columns row).foldl (fun m id => m.append (byListed pool make id)) .ignored := by
  unfold byIdLists listedIds
  rw [List.foldl_flatMap]
  congr 1
  funext m column
  cases row.integerList column with
  | error error => rfl
  | ok ids => rw [List.foldl_map]; rfl

/-- What is added up over listed ids. -/
theorem foldl_append_byListed (ids : List (Option Int64)) {m : RowMatch} (hm : m.Fair) :
    let m' := ids.foldl (fun m id => m.append (byListed pool make id)) m
    m'.Fair ∧ m'.hits = m.hits + ids.countP (isListed pool) ∧
      m'.misses = m.misses + ids.countP fun id => !isListed pool id := by
  -- Each id adds one unit, a hit or a miss, to the match so far.
  induction ids generalizing m with
  | nil => exact ⟨hm, rfl, rfl⟩
  | cons id ids ih =>
    rcases byListed_cases pool make id with ⟨hlisted, t, ht⟩ | ⟨hlisted, hmiss⟩
    · obtain ⟨hfair, hhits, hmisses⟩ := ih (hm.append (RowMatch.fair_hit (List.cons_ne_nil t [])))
      rw [List.foldl_cons, ht, List.countP_cons, List.countP_cons, hlisted]
      refine ⟨hfair, hhits.trans ?_, hmisses⟩
      simp only [RowMatch.append, RowMatch.hit, if_true]
      omega
    · obtain ⟨hfair, hhits, hmisses⟩ := ih (hm.append RowMatch.fair_miss)
      rw [List.foldl_cons, hmiss, List.countP_cons, List.countP_cons, hlisted]
      refine ⟨hfair, hhits, hmisses.trans ?_⟩
      simp only [RowMatch.append, RowMatch.miss, Bool.not_false, if_true]
      omega

theorem fair_byIdLists : (byIdLists columns pool make row).Fair := by
  rw [byIdLists_eq_foldl]
  exact (foldl_append_byListed pool make _ RowMatch.fair_ignored).1

/-- The listed ids that are of an entity. -/
theorem hits_byIdLists :
    (byIdLists columns pool make row).hits = (listedIds columns row).countP (isListed pool) := by
  rw [byIdLists_eq_foldl, (foldl_append_byListed pool make _ RowMatch.fair_ignored).2.1]
  exact Nat.zero_add _

theorem misses_byIdLists :
    (byIdLists columns pool make row).misses
      = (listedIds columns row).countP fun id => !isListed pool id := by
  rw [byIdLists_eq_foldl, (foldl_append_byListed pool make _ RowMatch.fair_ignored).2.2]
  exact Nat.zero_add _

/-- The listed ids of a table that are of an entity. -/
theorem matched_byIdLists (rows : List Row) :
    (Outcome.ofRows (rows.map (byIdLists columns pool make))).matched
      = (rows.flatMap (listedIds columns)).countP (isListed pool) := by
  induction rows with
  | nil => rfl
  | cons row rows ih =>
    rw [List.flatMap_cons, List.countP_append, ← ih, ← hits_byIdLists columns pool make row]
    rfl

theorem unmatched_byIdLists (rows : List Row) :
    (Outcome.ofRows (rows.map (byIdLists columns pool make))).unmatched
      = (rows.flatMap (listedIds columns)).countP fun id => !isListed pool id := by
  induction rows with
  | nil => rfl
  | cons row rows ih =>
    rw [List.flatMap_cons, List.countP_append, ← ih, ← misses_byIdLists columns pool make row]
    rfl

end Lists

end Matching

end DaqMonitor

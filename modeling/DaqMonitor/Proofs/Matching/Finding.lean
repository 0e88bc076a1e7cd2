/-
  DaqMonitor.Proofs.Matching.Finding

  Which row a target gets, and which entity a key or a position leads to.

  Of the rows that are about a target the last one stands. Of the entities with a
  key, or at a position, the first one is found.

    * `FirstWith`, `LastWith` — the first and the last value with a property.
    * `Outcome.rowFor?_ofRows` — the row that a target gets.
    * `find?_indexBy` — the entity that a look-up table has for a key.
    * `Finder.at?_positioned` — the entity that is found at a position.
-/
import DaqMonitor.Matching.Position
import DaqMonitor.Proofs.SortedMap.Lookup

namespace DaqMonitor

open Flashlist

/-! ## First and last values -/

/-- The value at a position is the first one with a property. -/
structure FirstWith {α : Type} (p : α → Prop) (values : List α) (n : Nat) (a : α) : Prop where
  value : values[n]? = some a
  has : p a
  first : ∀ i b, i < n → values[i]? = some b → ¬ p b

/-- The value at a position is the last one with a property. -/
structure LastWith {α : Type} (p : α → Prop) (values : List α) (n : Nat) (a : α) : Prop where
  value : values[n]? = some a
  has : p a
  last : ∀ i b, n < i → values[i]? = some b → ¬ p b

section FirstAndLast

variable {α : Type} {p : α → Prop} {values : List α} {n : Nat} {a : α}

theorem LastWith.congr {p' : α → Prop} (h : ∀ a, p a ↔ p' a) :
    LastWith p values n a ↔ LastWith p' values n a := by
  rw [funext fun a => propext (h a)]

theorem exists_lastWith_map {β : Type} {p : β → Prop} (f : α → β) :
    (∃ b, LastWith p (values.map f) n b) ↔ ∃ a, LastWith (fun a => p (f a)) values n a := by
  constructor
  · rintro ⟨b, hvalue, hp, hlast⟩
    rw [List.getElem?_map] at hvalue
    obtain ⟨a, ha, rfl⟩ := Option.map_eq_some_iff.1 hvalue
    refine ⟨a, ha, hp, fun i c hi hc => hlast i (f c) hi ?_⟩
    rw [List.getElem?_map, hc, Option.map_some]
  · rintro ⟨a, hvalue, hp, hlast⟩
    refine ⟨f a, by rw [List.getElem?_map, hvalue, Option.map_some], hp, fun i c hi hc => ?_⟩
    rw [List.getElem?_map] at hc
    obtain ⟨a', ha', rfl⟩ := Option.map_eq_some_iff.1 hc
    exact hlast i a' hi ha'

theorem findIdx?_eq_some_iff_firstWith [DecidablePred p] :
    values.findIdx? (p ·) = some n ↔ ∃ a, FirstWith p values n a := by
  rw [List.findIdx?_eq_some_iff_getElem]
  constructor
  · rintro ⟨hlt, hp, hfirst⟩
    refine ⟨values[n], List.getElem?_eq_getElem hlt, of_decide_eq_true hp, fun i b hi hb hpb => ?_⟩
    obtain ⟨_, rfl⟩ := List.getElem?_eq_some_iff.1 hb
    exact hfirst i hi (decide_eq_true hpb)
  · rintro ⟨a, hvalue, hp, hfirst⟩
    obtain ⟨hlt, rfl⟩ := List.getElem?_eq_some_iff.1 hvalue
    refine ⟨hlt, decide_eq_true hp, fun i hi hpi => ?_⟩
    exact hfirst i values[i] hi (List.getElem?_eq_getElem (by omega)) (of_decide_eq_true hpi)

/-- Where there is a value with a property, there is a first one. -/
theorem exists_firstWith_iff : (∃ n a, FirstWith p values n a) ↔ ∃ a ∈ values, p a := by
  constructor
  · rintro ⟨n, a, h⟩
    exact ⟨a, List.mem_of_getElem? h.value, h.has⟩
  · rintro ⟨a, hmem, hp⟩
    classical
    have hsome : (values.findIdx? (p ·)).isSome := by
      rw [List.findIdx?_isSome, List.any_eq_true]
      exact ⟨a, hmem, decide_eq_true hp⟩
    obtain ⟨n, hn⟩ := Option.isSome_iff_exists.1 hsome
    exact ⟨n, findIdx?_eq_some_iff_firstWith.1 hn⟩

/-- The first of the numbered values from the back is the last value. -/
theorem find?_reverse_zipIdx_eq_some_iff [DecidablePred p] :
    (values.zipIdx.reverse.find? fun e => p e.1) = some (a, n) ↔ LastWith p values n a := by
  rw [List.find?_eq_some_iff_getElem, decide_eq_true_eq]
  have hlength : values.zipIdx.reverse.length = values.length := by simp
  have hget : ∀ i (hi : i < values.zipIdx.reverse.length) (_ : values.length - 1 - i < values.length),
      values.zipIdx.reverse[i] = (values[values.length - 1 - i], values.length - 1 - i) := by
    intro i hi hlt
    simp [List.getElem_reverse]
  have hback : ∀ i, i < values.length → values.length - 1 - (values.length - 1 - i) = i :=
    fun i hi => by omega
  constructor
  · rintro ⟨hp, i, hi, heq, hfirst⟩
    rw [hget i hi (by omega), Prod.mk.injEq] at heq
    obtain ⟨rfl, rfl⟩ := heq
    refine ⟨List.getElem?_eq_getElem (by omega), hp, fun j b hj hb hpb => ?_⟩
    obtain ⟨hlt, rfl⟩ := List.getElem?_eq_some_iff.1 hb
    have hnot := hfirst (values.length - 1 - j) (by omega)
    rw [hget _ _ (by omega)] at hnot
    simp only [hback j hlt] at hnot
    simp [hpb] at hnot
  · rintro ⟨hvalue, hp, hlast⟩
    obtain ⟨hlt, rfl⟩ := List.getElem?_eq_some_iff.1 hvalue
    refine ⟨hp, values.length - 1 - n, by omega, ?_, fun j hj => ?_⟩
    · rw [hget _ _ (by omega)]
      simp only [hback n hlt]
    · rw [hget _ _ (by omega)]
      have hnot := hlast (values.length - 1 - j) _ (by omega)
        (List.getElem?_eq_getElem (by omega))
      simpa using hnot

end FirstAndLast

namespace Matching

/-! ## Rows for targets -/

theorem RowMatch.targets_ofTargets (targets : List Target) :
    (RowMatch.ofTargets targets).targets = targets := by
  unfold RowMatch.ofTargets
  cases targets with
  | nil => rfl
  | cons t rest => rfl

/-- In the bindings of one row a target is bound to the row, if the row is about it. -/
theorem find?_bindings (targets : List Target) (n : Nat) (t : Target) :
    ((targets.map fun t' => (t', n)).reverse.find? fun b => b.1 = t)
      = if t ∈ targets then some (t, n) else none := by
  by_cases hmem : t ∈ targets
  · rw [if_pos hmem]
    have hsome : ((targets.map fun t' => (t', n)).reverse.find? fun b => b.1 = t).isSome := by
      rw [List.find?_isSome]
      exact ⟨(t, n), by simpa using hmem, by simp⟩
    obtain ⟨b, hb⟩ := Option.isSome_iff_exists.1 hsome
    have hkey : b.1 = t := by simpa using List.find?_some hb
    have hbinding := List.mem_of_find?_eq_some hb
    simp only [List.mem_reverse, List.mem_map] at hbinding
    obtain ⟨t', -, rfl⟩ := hbinding
    rw [hb, ← hkey]
  · rw [if_neg hmem, List.find?_eq_none]
    intro b hb
    simp only [List.mem_reverse, List.mem_map] at hb
    obtain ⟨t', ht', rfl⟩ := hb
    rintro heq
    exact hmem (by simpa [← of_decide_eq_true heq] using ht')

/-- The row that a target gets is the last one that is about it. -/
theorem Outcome.rowFor?_ofRows (ms : List RowMatch) (t : Target) :
    (Outcome.ofRows ms).rowFor? t
      = (ms.zipIdx.reverse.find? fun r => t ∈ r.1.targets).map (·.2) := by
  have hrow : ∀ numbered : List (RowMatch × Nat),
      ((numbered.flatMap fun r => (r.1.targets.map fun t' => (t', r.2)).reverse).find?
          fun b => b.1 = t).map (·.2)
        = (numbered.find? fun r => t ∈ r.1.targets).map (·.2) := by
    intro numbered
    induction numbered with
    | nil => rfl
    | cons r rest ih =>
      rw [List.flatMap_cons, List.find?_append, List.find?_cons, find?_bindings]
      by_cases hmem : t ∈ r.1.targets
      · simp [hmem]
      · simpa [hmem] using ih
  -- The last binding of the last row comes first.
  rw [← hrow]
  simp only [ofRows, rowFor?, SortedMap.find?_ofList, List.reverse_flatMap]
  rfl

theorem Outcome.rowFor?_ofRows_eq_some_iff {ms : List RowMatch} {t : Target} {n : Nat} :
    (Outcome.ofRows ms).rowFor? t = some n ↔ ∃ m, LastWith (fun m => t ∈ m.targets) ms n m := by
  rw [Outcome.rowFor?_ofRows, Option.map_eq_some_iff]
  constructor
  · rintro ⟨⟨m, i⟩, hfind, rfl⟩
    exact ⟨m, find?_reverse_zipIdx_eq_some_iff.1 hfind⟩
  · rintro ⟨m, hlast⟩
    exact ⟨(m, n), find?_reverse_zipIdx_eq_some_iff.2 hlast, rfl⟩

/-- A target that gets a row is one that some row is about. -/
theorem Outcome.exists_of_rowFor?_eq_some {ms : List RowMatch} {t : Target} {n : Nat}
    (h : (Outcome.ofRows ms).rowFor? t = some n) : ∃ m, ms[n]? = some m ∧ t ∈ m.targets := by
  rw [Outcome.rowFor?_ofRows] at h
  obtain ⟨r, hr, rfl⟩ := Option.map_eq_some_iff.1 h
  have hmem := List.mem_reverse.1 (List.mem_of_find?_eq_some hr)
  have htarget : t ∈ r.1.targets := by simpa using List.find?_some hr
  exact ⟨r.1, List.mem_zipIdx_iff_getElem?.1 hmem, htarget⟩

/-! ## Entities by key -/

/-- Only the keys of the entities matter to a table. -/
theorem indexBy_map {α β κ : Type} [Ord κ] [Std.TransOrd κ] {arena : Arena} (f : α → β)
    (key : β → Option κ) (entities : List α) :
    (indexBy key (entities.map f) : SortedMap κ (EntityId arena))
      = indexBy (fun a => key (f a)) entities := by
  rw [indexBy, List.zipIdx_map, List.foldl_map]
  rfl

section Keys

variable {α κ : Type} [Ord κ] [Std.TransOrd κ] [Std.LawfulEqOrd κ] [DecidableEq κ] {arena : Arena}

/-- What is found after more entities: what was found before, or else the first of them with the
    key. -/
theorem find?_foldl_insertNew (key : α → Option κ) (entities : List α) (start : Nat)
    (m : SortedMap κ (EntityId arena)) (k : κ) :
    ((entities.zipIdx start).foldl (fun m e =>
        match key e.1 with
        | none => m
        | some k => m.insertNew k (.ofNat e.2)) m).find? k
      = (m.find? k).or
          ((entities.findIdx? fun e => key e = some k).map fun n => .ofNat (start + n)) := by
  -- Positions count on from `start`, and what is in the table already stands.
  induction entities generalizing start m with
  | nil => simp
  | cons e rest ih =>
    rw [List.zipIdx_cons, List.foldl_cons, ih, List.findIdx?_cons]
    have hshift : ∀ n, start + 1 + n = start + (n + 1) := by omega
    cases hkey : key e with
    | none => simp [hshift, Function.comp_def]
    | some k' =>
      simp only [SortedMap.find?_insertNew, Option.or_assoc]
      by_cases heq : k = k'
      · subst heq
        simp
      · have hne : k' ≠ k := fun h => heq h.symm
        simp [heq, hne, hshift, Function.comp_def]

/-- Of the entities with a key the first one is found. -/
theorem find?_indexBy (key : α → Option κ) (entities : List α) (k : κ) :
    (indexBy key entities : SortedMap κ (EntityId arena)).find? k
      = (entities.findIdx? fun e => key e = some k).map .ofNat := by
  have h := find?_foldl_insertNew key entities 0 (∅ : SortedMap κ (EntityId arena)) k
  simp only [SortedMap.find?_empty, Option.none_or, Nat.zero_add] at h
  exact h

end Keys

/-! ## Entities by position -/

section Positions

variable {α : Type} {arena : Arena}

/-- At a position the first of the entities there is found. -/
theorem at?_positioned (position? : α → Option Position) (make : EntityId arena → Target)
    (entities : List α) (p : Position) :
    Finder.at? (positioned position? make entities) p
      = (entities.findIdx? fun e => position? e = some p).map fun n => make (.ofNat n) := by
  -- Positions count on from `start`.
  have hstart : ∀ start, Finder.at? ((entities.zipIdx start).filterMap fun e =>
        (position? e.1).map fun q => (q, make (.ofNat e.2))) p
      = (entities.findIdx? fun e => position? e = some p).map fun n =>
          make (.ofNat (start + n)) := by
    induction entities with
    | nil => exact fun _ => rfl
    | cons e rest ih =>
      intro start
      have hshift : ∀ n, start + 1 + n = start + (n + 1) := by omega
      have hrest := ih (start + 1)
      unfold Finder.at? at hrest ⊢
      rw [List.zipIdx_cons, List.filterMap_cons, List.findIdx?_cons]
      cases hp : position? e with
      | none => simpa [hshift, Function.comp_def] using hrest
      | some q =>
        by_cases heq : q = p
        · simp [heq]
        · simpa [heq, hshift, Function.comp_def] using hrest
  have h := hstart 0
  simp only [Nat.zero_add] at h
  exact h

end Positions

end Matching

end DaqMonitor

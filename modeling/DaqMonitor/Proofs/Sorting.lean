/-
  DaqMonitor.Proofs.Sorting

  Lists in the order of a key.

  The sort is stable, so that it makes no difference whether something is left out
  before the sort or after it. Where no two keys are equal it does not even count in
  which order the list was before.

    * `filter_sortBy` — what is left out before the sort may be left out after it.
    * `sortBy_eq_of_perm` — the order of a list with different keys.
    * `mem_take_iff_countP` — what is left of a list without its greatest elements.
-/
import Mathlib.Data.List.Nodup

namespace DaqMonitor

/-! ## The order of a key -/

section Keys

variable {α κ : Type} [LE κ] [DecidableLE κ] (key : α → κ)

/-- A list in the order of a key. -/
def sortBy (l : List α) : List α := l.mergeSort fun a b => key a ≤ key b

theorem sortBy_perm (l : List α) : (sortBy key l).Perm l := List.mergeSort_perm l _

/-- The sort leaves a list alone that is in order. -/
theorem sortBy_eq_self {l : List α} (hsorted : l.Pairwise fun a b => key a ≤ key b) :
    sortBy key l = l :=
  List.mergeSort_of_pairwise (hsorted.imp decide_eq_true)

variable [Std.IsLinearOrder κ]

theorem key_trans (a b c : α) (hab : decide (key a ≤ key b) = true)
    (hbc : decide (key b ≤ key c) = true) : decide (key a ≤ key c) = true := by
  simp only [decide_eq_true_eq] at hab hbc ⊢
  exact Std.le_trans hab hbc

theorem key_total (a b : α) : (decide (key a ≤ key b) || decide (key b ≤ key a)) = true := by
  simp only [Bool.or_eq_true, decide_eq_true_eq]
  exact Std.le_total

theorem pairwise_sortBy (l : List α) : (sortBy key l).Pairwise fun a b => key a ≤ key b := by
  have h : (sortBy key l).Pairwise fun a b => decide (key a ≤ key b) = true :=
    List.pairwise_mergeSort (key_trans key) (key_total key) l
  exact h.imp fun hab => of_decide_eq_true hab

/-- A list with a new first element is sorted by putting that before whatever may come after it. -/
theorem sortBy_cons (a : α) (l : List α) :
    ∃ before after, sortBy key (a :: l) = before ++ a :: after ∧ sortBy key l = before ++ after ∧
      (∀ b ∈ before, ¬ key a ≤ key b) ∧ ∀ b ∈ after, key a ≤ key b := by
  obtain ⟨before, after, hwith, hwithout, hbefore⟩ :=
    List.mergeSort_cons (key_trans key) (key_total key) a l
  have hsorted : (before ++ a :: after).Pairwise fun a b => key a ≤ key b :=
    hwith ▸ pairwise_sortBy key (a :: l)
  refine ⟨before, after, hwith, hwithout, fun b hb => ?_, ?_⟩
  · simpa using hbefore b hb
  · exact (List.pairwise_cons.1 (List.pairwise_append.1 hsorted).2.1).1

/-- A list is cut in one way into elements without a property and elements with it. -/
theorem append_inj_of_cut {p : α → Prop} {xs ys xs' ys' : List α} (hxs : ∀ b ∈ xs, ¬ p b)
    (hys : ∀ b ∈ ys, p b) (hxs' : ∀ b ∈ xs', ¬ p b) (hys' : ∀ b ∈ ys', p b)
    (h : xs ++ ys = xs' ++ ys') : xs = xs' ∧ ys = ys' := by
  rcases List.append_eq_append_iff.1 h with ⟨between, rfl, rfl⟩ | ⟨between, rfl, rfl⟩
  · have hnone : between = [] := List.eq_nil_iff_forall_not_mem.2 fun b hb =>
      hxs' b (List.mem_append_right xs hb) (hys b (List.mem_append_left ys' hb))
    simp [hnone]
  · have hnone : between = [] := List.eq_nil_iff_forall_not_mem.2 fun b hb =>
      hxs b (List.mem_append_right xs' hb) (hys' b (List.mem_append_left ys hb))
    simp [hnone]

/-- What is left out before the sort may be left out after it. -/
theorem filter_sortBy (p : α → Bool) (l : List α) :
    (sortBy key l).filter p = sortBy key (l.filter p) := by
  induction l with
  | nil => simp [sortBy]
  | cons a l ih =>
    obtain ⟨before, after, hwith, hwithout, hbefore, hafter⟩ := sortBy_cons key a l
    rw [hwithout, List.filter_append] at ih
    rw [hwith, List.filter_append]
    by_cases hp : p a
    · -- Both sides cut the sorted rest in two, and `a` comes in between.
      obtain ⟨before', after', hwith', hwithout', hbefore', hafter'⟩ :=
        sortBy_cons key a (l.filter p)
      obtain ⟨hfirst, hlast⟩ := append_inj_of_cut
        (fun b hb => hbefore b (List.mem_filter.1 hb).1)
        (fun b hb => hafter b (List.mem_filter.1 hb).1) hbefore' hafter' (ih.trans hwithout')
      rw [List.filter_cons_of_pos hp, List.filter_cons_of_pos hp, hwith', hfirst, hlast]
    · rw [List.filter_cons_of_neg hp, List.filter_cons_of_neg hp, ih]

/-- Where no two elements have one key, an order in which the keys increase is the order of the
    key. -/
theorem sortBy_eq_of_perm {xs ys : List α} (hperm : xs.Perm ys) (hkeys : (ys.map key).Nodup)
    (hsorted : ys.Pairwise fun a b => key a ≤ key b) : sortBy key xs = ys := by
  refine List.Perm.eq_of_pairwise (fun a b ha hb hab hba => ?_) (pairwise_sortBy key xs) hsorted
    ((sortBy_perm key xs).trans hperm)
  have ha' : a ∈ ys := hperm.subset ((sortBy_perm key xs).subset ha)
  exact List.inj_on_of_nodup_map hkeys ha' hb (Std.le_antisymm hab hba)

/-- Different keys increase in the order of the key. -/
theorem pairwise_lt_sortBy [LT κ] [Std.LawfulOrderLT κ] {l : List α} (hkeys : (l.map key).Nodup) :
    (sortBy key l).Pairwise fun a b => key a < key b := by
  have hnodup : ((sortBy key l).map key).Nodup := ((sortBy_perm key l).map key).nodup_iff.2 hkeys
  refine ((pairwise_sortBy key l).and (List.pairwise_map.1 hnodup)).imp fun {a b} h => ?_
  exact Std.lt_of_le_of_ne h.1 h.2

end Keys

/-! ## The greatest elements -/

section Greatest

variable {κ : Type} [LT κ] [DecidableLT κ] [Std.Asymm fun a b : κ => a < b]

/-- Of a list in increasing order all but the greatest elements are left by leaving out as many from
    the end. -/
theorem mem_take_iff_countP {l : List κ} (hsorted : l.Pairwise (· < ·)) (keep : Nat) (a : κ) :
    a ∈ l.take (l.length - keep) ↔ a ∈ l ∧ keep ≤ l.countP (a < ·) := by
  by_cases ha : a ∈ l
  · obtain ⟨before, after, rfl⟩ := List.append_of_mem ha
    obtain ⟨-, hafter, hbefore⟩ := List.pairwise_append.1 hsorted
    have hless : ∀ b ∈ before, b < a := fun b hb => hbefore b hb a List.mem_cons_self
    have hgreater : ∀ b ∈ after, a < b := (List.pairwise_cons.1 hafter).1
    -- What is greater than `a` are the elements behind it.
    have hcount : (before ++ a :: after).countP (a < ·) = after.length := by
      rw [List.countP_append, List.countP_cons, List.countP_eq_zero.2, List.countP_eq_length.2]
      · simp [Std.lt_irrefl]
      · exact fun b hb => decide_eq_true (hgreater b hb)
      · exact fun b hb => by simpa using Std.not_gt_of_lt (hless b hb)
    have hnot : a ∉ before := fun hmem => Std.lt_irrefl (hless a hmem)
    have hlength : (before ++ a :: after).length = before.length + (after.length + 1) := by simp
    rw [hcount, hlength]
    by_cases hkeep : keep ≤ after.length
    · have htake : before.length + (after.length + 1) - keep
          = before.length + (after.length - keep + 1) := by omega
      rw [htake, List.take_length_add_append, List.take_succ_cons]
      simp [hkeep]
    · rw [List.take_append_of_le_length (by omega)]
      simpa [hkeep] using fun hmem => hnot (List.mem_of_mem_take hmem)
  · simpa [ha] using fun hmem => ha (List.mem_of_mem_take hmem)

end Greatest

end DaqMonitor

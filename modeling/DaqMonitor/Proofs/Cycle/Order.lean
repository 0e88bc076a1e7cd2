/-
  DaqMonitor.Proofs.Cycle.Order

  The order of the flashlists of a cycle does not count.

  Before they are dispatched the flashlists are sorted, and the sort is stable: the
  tables of each kind keep their order. After the sort those with values of the run
  come first, and so all others find one session. Other tables of different kinds
  may change places. So a cycle only hangs on the tables of each kind.

    * `foldl_eq_of_filter_eq` — steps of different labels that change places.
    * `runCycle_eq_of_dispatchable_eq` — a cycle hangs on the tables of each kind.
-/
import DaqMonitor.Proofs.Cycle.Tables

namespace DaqMonitor

open Flashlist

/-! ## Steps that change places -/

section Folds

variable {α β κ : Type} (label : α → κ) {step : β → α → β} (inv : β → Prop)

/-- A step may be taken before others of different labels. -/
theorem foldl_append_cons_of_comm (hinv : ∀ b x, inv b → inv (step b x))
    (hcomm : ∀ b x y, inv b → label x ≠ label y → step (step b x) y = step (step b y) x)
    {before after : List α} {x : α} (hx : ∀ y ∈ before, label y ≠ label x) {b : β} (hb : inv b) :
    (before ++ x :: after).foldl step b = (x :: (before ++ after)).foldl step b := by
  induction before generalizing b with
  | nil => rfl
  | cons y before ih =>
    have hy : label y ≠ label x := hx y List.mem_cons_self
    have hbefore := ih (fun z hz => hx z (List.mem_cons_of_mem y hz)) (hinv b y hb)
    rw [List.cons_append, List.foldl_cons, hbefore]
    simp only [List.foldl_cons, List.cons_append, hcomm b y x hb hy]

/-- Where steps of different labels may change places, only the order of the steps of each label
    counts. -/
theorem foldl_eq_of_filter_eq [DecidableEq κ] (hinv : ∀ b x, inv b → inv (step b x))
    (hcomm : ∀ b x y, inv b → label x ≠ label y → step (step b x) y = step (step b y) x)
    {xs ys : List α} (h : ∀ k, xs.filter (label · = k) = ys.filter (label · = k)) {b : β}
    (hb : inv b) : xs.foldl step b = ys.foldl step b := by
  induction xs generalizing ys b with
  | nil =>
    cases ys with
    | nil => rfl
    | cons y ys =>
      have hy := h (label y)
      simp at hy
  | cons x xs ih =>
    have hx := h (label x)
    rw [List.filter_cons_of_pos (by simp)] at hx
    -- `x` is the first step of its label in `ys` too, and may be taken before the others there.
    obtain ⟨before, after, rfl, hbefore, -, hafter⟩ := List.filter_eq_cons_iff.1 hx.symm
    have hne : ∀ y ∈ before, label y ≠ label x := fun y hy => by simpa using hbefore y hy
    rw [foldl_append_cons_of_comm label inv hinv hcomm hne hb, List.foldl_cons, List.foldl_cons]
    refine ih (fun k => ?_) (hinv b x hb)
    by_cases hk : label x = k
    · subst hk
      have hnone : before.filter (label · = label x) = [] := by
        rw [List.filter_eq_nil_iff]
        exact hbefore
      rw [List.filter_append, hnone, List.nil_append, hafter]
    · have hdrop := h k
      rw [List.filter_append, List.filter_cons_of_neg (by simpa using hk),
        List.filter_cons_of_neg (by simpa using hk)] at hdrop
      rw [hdrop, List.filter_append]

end Folds

/-! ## Cycles -/

namespace Monitor

theorem taking_comm {c : Graph} (hrus : c.Addressable .ru) (hfeds : c.Addressable .fed)
    {m : Monitor} (hskel : m.graph.skeleton = c.skeleton) {t u : Table} (hne : t.kind ≠ u.kind) :
    (m.taking c t).taking c u = (m.taking c u).taking c t := by
  have hgraph := Table.apply_comm m.session t.rows u.rows hne hrus hfeds hskel
  have hstats := m.stats.record?_comm hne (Table.recorded? m.session c t.kind t.rows)
    (Table.recorded? m.session c u.kind u.rows)
  simp only [taking, hgraph, hstats]

/-- All dispatches of a cycle come to the same, whatever the order of the flashlists of different
    kinds. -/
theorem dispatchAll_inOrder_congr (m : Monitor) {xs ys : List Flashlist}
    (hrus : m.graph.Addressable .ru) (hfeds : m.graph.Addressable .fed)
    (h : ∀ kind, dispatchable kind xs = dispatchable kind ys) :
    (m.dispatchAll (inOrder xs)).1 = (m.dispatchAll (inOrder ys)).1 := by
  have hrun : runTables xs = runTables ys := by
    rw [runTables, runTables, filter_tables, filter_tables, h]
  have hafter : m.afterRunTables xs = m.afterRunTables ys := by
    rw [afterRunTables, afterRunTables, hrun]
  have hskel := (m.afterRunTables_skeleton ys).symm
  rw [dispatchAll_inOrder, dispatchAll_inOrder, hafter]
  -- Both cycles are now runs for one context; what they keep is the skeleton.
  refine foldl_eq_of_filter_eq Table.kind
    (fun m' => m'.graph.skeleton = (m.afterRunTables ys).graph.skeleton) ?_ ?_ ?_ hskel
  · intro m' t hm'
    rw [taking_skeleton, hm']
  · intro m' t u hm' hne
    exact taking_comm (hrus.congr hskel) (hfeds.congr hskel) hm' hne
  · intro kind
    rw [filter_tables, filter_tables, dispatchable_inOrder, dispatchable_inOrder, h]

/-- A cycle hangs on the flashlists of each kind that are dispatched, and on their order within the
    kind. It does not hang on how flashlists of different kinds are interleaved, nor on flashlists
    that were not retrieved, are of no known kind or are empty. Both the graph and the counts are
    the same. The ids have to tell apart the readout units, and the FEDs: only then no entity
    listens to two kinds with one topic. -/
theorem runCycle_eq_of_dispatchable_eq (m : Monitor) (time : UInt64) {xs ys : List Flashlist}
    (hrus : m.graph.Addressable .ru) (hfeds : m.graph.Addressable .fed)
    (h : ∀ kind, dispatchable kind xs = dispatchable kind ys) :
    (m.runCycle xs time).1 = (m.runCycle ys time).1 := by
  have hdispatch := m.dispatchAll_inOrder_congr hrus hfeds h
  simp only [runCycle, hdispatch]

/-- States of subsystems may come before the values of the run that name the session, and a table
    that was not retrieved may come between them. -/
theorem runCycle_states_before_run :
    let m : Monitor :=
      { graph := { uid := ⟨1⟩, subSystems := [{ uid := ⟨2⟩, name := "TRACKER" }] }, session := {} }
    let run : Flashlist := .ofKind .levelZeroDynamic
      [.object [("FMURL", .text "http://l0"), ("SID", .ofNat 5), ("RUN_NUMBER", .ofNat 1),
        ("STATE", .text "Running")]]
    let states : Flashlist := .ofKind .levelZeroSubsystems
      [.object [("SID", .ofNat 5), ("SUBSYS", .text "TRACKER"), ("STATE", .text "Running")]]
    let xs := [states, run]
    let ys := [run, .unavailable "BU", states]
    m.graph.Addressable .ru ∧ m.graph.Addressable .fed ∧
      (∀ kind, dispatchable kind xs = dispatchable kind ys) ∧
      (m.runCycle xs 7).1 = (m.runCycle ys 7).1 := by
  intro m run states xs ys
  have hrus : m.graph.Addressable .ru := by decide
  have hfeds : m.graph.Addressable .fed := by decide
  have hrun : run.dispatchKind? = some .levelZeroDynamic := rfl
  have hstates : states.dispatchKind? = some .levelZeroSubsystems := rfl
  have hkinds : ∀ kind, dispatchable kind xs = dispatchable kind ys := by
    intro kind
    have hnone : (Flashlist.unavailable "BU").dispatchKind? = none := rfl
    cases kind <;> simp [xs, ys, dispatchable, hrun, hstates, hnone]
  exact ⟨hrus, hfeds, hkinds, m.runCycle_eq_of_dispatchable_eq 7 hrus hfeds hkinds⟩

end Monitor

end DaqMonitor

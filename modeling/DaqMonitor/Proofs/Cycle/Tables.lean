/-
  DaqMonitor.Proofs.Cycle.Tables

  A cycle as a run over its tables.

  Of the flashlists of a cycle only the tables count that are dispatched. Sorting
  keeps the tables of each kind in their order and puts those with values of the
  run first. The others do not change the session, and so all of them find the
  context that the first ones leave.

    * `tables flashlists` — the tables that are dispatched.
    * `Monitor.taking c m t` — the monitor after a table, for the context of `c`.
    * `dispatchAll_inOrder` — a cycle: the values of the run, then the rest.
-/
import DaqMonitor.Cycle.Monitor
import DaqMonitor.Proofs.Cycle.Rivals
import DaqMonitor.Proofs.Sorting

namespace DaqMonitor

open Flashlist

/-! ## The tables of a cycle -/

/-- A table that is dispatched. -/
structure Table where
  kind : Kind
  rows : List Row

/-- The table of a flashlist that is not passed over. -/
def Flashlist.table? (f : Flashlist) : Option Table := f.dispatchKind?.map fun kind => ⟨kind, f.rows⟩

/-- The tables of some flashlists. -/
def tables (flashlists : List Flashlist) : List Table := flashlists.filterMap Flashlist.table?

/-- The flashlists of a kind that are dispatched: those that were retrieved, are of that kind, and
    have rows unless they are of the event manager. -/
def dispatchable (kind : Kind) (flashlists : List Flashlist) : List Flashlist :=
  flashlists.filter fun f => f.dispatchKind? = some kind

theorem Flashlist.kind_of_dispatchKind? {f : Flashlist} {kind : Kind}
    (h : f.dispatchKind? = some kind) : f.kind = some kind := by
  unfold dispatchKind? at h
  split at h
  · exact (Option.filter_eq_some_iff.1 h).1
  · cases h

theorem filter_tables (kind : Kind) (flashlists : List Flashlist) :
    (tables flashlists).filter (·.kind = kind)
      = (dispatchable kind flashlists).map fun f => ⟨kind, f.rows⟩ := by
  induction flashlists with
  | nil => rfl
  | cons f rest ih =>
    unfold tables dispatchable at ih ⊢
    cases hkind : f.dispatchKind? with
    | none => simpa [Flashlist.table?, hkind] using ih
    | some k =>
      by_cases hk : k = kind
      · simpa [Flashlist.table?, hkind, hk] using ih
      · simpa [Flashlist.table?, hkind, hk] using ih

/-! ## The order of a cycle -/

section InOrder

variable (flashlists : List Flashlist)

/-- The flashlists of a cycle are dispatched in the order of their places. -/
theorem Monitor.inOrder_eq_sortBy : inOrder flashlists = sortBy placeOf flashlists := rfl

theorem Monitor.pairwise_inOrder :
    (inOrder flashlists).Pairwise fun a b => placeOf a ≤ placeOf b :=
  pairwise_sortBy placeOf flashlists

/-- Flashlists of one place keep their order. -/
theorem Monitor.filter_inOrder {p : Flashlist → Bool}
    (hp : ∀ f g, p f → p g → placeOf f = placeOf g) :
    (inOrder flashlists).filter p = flashlists.filter p := by
  have hsorted : (flashlists.filter p).Pairwise fun a b => placeOf a ≤ placeOf b := by
    rw [List.pairwise_iff_forall_sublist]
    intro a b hab
    have ha := (List.mem_filter.1 (hab.subset (by simp : a ∈ [a, b]))).2
    have hb := (List.mem_filter.1 (hab.subset (by simp : b ∈ [a, b]))).2
    exact Nat.le_of_eq (hp a b ha hb)
  rw [inOrder_eq_sortBy, filter_sortBy, sortBy_eq_self placeOf hsorted]

/-- Sorting keeps the order of the flashlists of each kind. -/
theorem dispatchable_inOrder (kind : Kind) :
    dispatchable kind (Monitor.inOrder flashlists) = dispatchable kind flashlists := by
  refine Monitor.filter_inOrder flashlists fun f g hf hg => ?_
  have hkind := Flashlist.kind_of_dispatchKind? (of_decide_eq_true hf)
  have hkind' := Flashlist.kind_of_dispatchKind? (of_decide_eq_true hg)
  simp only [Monitor.placeOf, hkind, hkind']

/-- The tables with values of the run. -/
def runTables (flashlists : List Flashlist) : List Table :=
  (tables flashlists).filter (·.kind = .levelZeroDynamic)

theorem kind_of_mem_runTables {t : Table} (ht : t ∈ runTables flashlists) :
    t.kind = .levelZeroDynamic :=
  of_decide_eq_true (List.mem_filter.1 ht).2

/-- A list in which whatever has a property comes before all that has not. -/
theorem eq_filter_append_filter {α : Type} {p : α → Bool} {l : List α}
    (h : l.Pairwise fun a b => p b → p a) : l = l.filter p ++ l.filter fun a => !p a := by
  induction l with
  | nil => rfl
  | cons a rest ih =>
    obtain ⟨ha, hrest⟩ := List.pairwise_cons.1 h
    by_cases hp : p a
    · have hdrop : (a :: rest).filter (fun a => !p a) = rest.filter fun a => !p a :=
        List.filter_cons_of_neg (by simp [hp])
      rw [List.filter_cons_of_pos hp, hdrop, List.cons_append, ← ih hrest]
    · have hnone : rest.filter p = [] := by
        rw [List.filter_eq_nil_iff]
        exact fun b hb hpb => hp (ha b hb hpb)
      have hall : rest.filter (fun a => !p a) = rest := by
        rw [List.filter_eq_self]
        intro b hb
        simpa using fun hpb : p b = true => hp (ha b hb hpb)
      rw [List.filter_cons_of_neg hp, hnone, List.filter_cons_of_pos (by simp [hp]), hall,
        List.nil_append]

/-- In a cycle the tables with values of the run come first. -/
theorem tables_inOrder :
    tables (Monitor.inOrder flashlists)
      = runTables flashlists ++
        (tables (Monitor.inOrder flashlists)).filter (·.kind ≠ .levelZeroDynamic) := by
  have hpairwise : (tables (Monitor.inOrder flashlists)).Pairwise fun a b =>
      decide (b.kind = .levelZeroDynamic) → decide (a.kind = .levelZeroDynamic) := by
    rw [tables, List.pairwise_filterMap]
    refine (Monitor.pairwise_inOrder flashlists).imp fun {f g} hplace a ha b hb hkind => ?_
    obtain ⟨k, hk, rfl⟩ := Option.map_eq_some_iff.1 ha
    obtain ⟨l, hl, rfl⟩ := Option.map_eq_some_iff.1 hb
    obtain rfl : l = .levelZeroDynamic := of_decide_eq_true hkind
    have hk' := Flashlist.kind_of_dispatchKind? hk
    have hl' := Flashlist.kind_of_dispatchKind? hl
    simp only [Monitor.placeOf, hk', hl', Option.map_some, Option.getD_some] at hplace
    -- Only values of the run have the first place.
    cases k <;> first | rfl | exact absurd hplace (by decide)
  have hsplit := eq_filter_append_filter hpairwise
  rw [filter_tables, dispatchable_inOrder, ← filter_tables] at hsplit
  simpa [runTables] using hsplit

end InOrder

/-! ## Values of the run -/

section RunValues

variable (session : Session) (rows : List Row)

theorem Route.matches?_runValues (c c' : Graph) :
    Route.levelZeroDynamic.matches? session c rows = Route.levelZeroDynamic.matches? session c' rows := by
  simp only [Route.matches?]

/-- What a table with values of the run does hangs on no graph. -/
theorem Table.effect_runValues (c c' : Graph) :
    Table.effect session c .levelZeroDynamic rows = Table.effect session c' .levelZeroDynamic rows := by
  simp only [effect, effectOn, plan, List.foldr_cons, List.foldr_nil, Route.effect,
    Route.matches?_runValues session rows c c']

/-- What is recorded for a table with values of the run hangs on the skeleton alone. -/
theorem Table.recorded?_runValues {c c' : Graph} (hskel : c.skeleton = c'.skeleton) :
    Table.recorded? session c .levelZeroDynamic rows
      = Table.recorded? session c' .levelZeroDynamic rows := by
  simp only [recorded?, tallyOn?, countsOn, plan, List.foldr_cons, List.foldr_nil, List.map_cons,
    List.map_nil, Route.tally?, Route.counts, Route.matches?_runValues session rows c c',
    Matching.Outcome.refusals_congr hskel]

end RunValues

/-! ## Taking tables -/

namespace Monitor

variable (c : Graph) (m : Monitor) (t : Table)

/-- The monitor after a table, for the context of `c`. -/
def taking (c : Graph) (m : Monitor) (t : Table) : Monitor :=
  { m with
    graph := m.graph.apply (Table.effect m.session c t.kind t.rows)
    stats := m.stats.record? t.kind (Table.recorded? m.session c t.kind t.rows) }

theorem dispatch_of_none {f : Flashlist} (hf : f.table? = none) : (m.dispatch f).1 = m := by
  have hkind : f.dispatchKind? = none := by simpa [Flashlist.table?] using hf
  simp only [dispatch, hkind]

theorem dispatch_of_some {f : Flashlist} (hf : f.table? = some t) :
    (m.dispatch f).1 = m.taking m.graph t := by
  obtain ⟨kind, hkind, rfl⟩ := Option.map_eq_some_iff.1 hf
  simp only [dispatch, hkind, after, dispatch_graph m.session m.graph hkind,
    dispatch_recorded? m.session m.graph hkind]
  rfl

theorem graph_dispatch (f : Flashlist) :
    (m.dispatch f).1.graph = (DaqMonitor.dispatch m.session m.graph f).graph := by
  unfold Monitor.dispatch DaqMonitor.dispatch
  cases f.dispatchKind? <;> rfl

theorem dispatchAll_eq_foldl (flashlists : List Flashlist) :
    (m.dispatchAll flashlists).1 = flashlists.foldl (fun m f => (m.dispatch f).1) m :=
  (List.foldl_hom Prod.fst fun _ _ => rfl).symm

/-- Flashlists one after the other are tables one after the other. -/
theorem dispatchAll_eq (flashlists : List Flashlist) :
    (m.dispatchAll flashlists).1 = (tables flashlists).foldl (fun m t => taking m.graph m t) m := by
  rw [dispatchAll_eq_foldl]
  induction flashlists generalizing m with
  | nil => rfl
  | cons f rest ih =>
    rw [List.foldl_cons, ih]
    unfold tables
    cases ht : f.table? with
    | none => rw [List.filterMap_cons_none ht, m.dispatch_of_none ht]
    | some t => rw [List.filterMap_cons_some ht, List.foldl_cons, m.dispatch_of_some t ht]

/-! ## The context of a cycle -/

@[simp] theorem taking_skeleton : (m.taking c t).graph.skeleton = m.graph.skeleton :=
  Table.skeleton_effect m.session t.kind t.rows m.graph

@[simp] theorem taking_session : (m.taking c t).session = m.session := rfl

variable {c m t}

theorem taking_congr {c' : Graph} (hcontext : c.context = c'.context) :
    m.taking c t = m.taking c' t := by
  unfold taking
  rw [Table.effect_congr m.session t.kind t.rows hcontext,
    Table.recorded?_congr m.session t.kind t.rows hcontext]

/-- Tables with values of the run may be taken for any context with the right skeleton. -/
theorem taking_of_runValues {c' : Graph} (ht : t.kind = .levelZeroDynamic)
    (hskel : c.skeleton = c'.skeleton) : m.taking c t = m.taking c' t := by
  unfold taking
  rw [ht, Table.effect_runValues m.session t.rows c c', Table.recorded?_runValues m.session t.rows hskel]

/-- All other tables leave the context as it is. -/
theorem taking_context (ht : t.kind ≠ .levelZeroDynamic) :
    (m.taking c t).graph.context = m.graph.context :=
  Graph.context_congr (taking_skeleton c m t) (Table.sessionId_effect m.session t.rows ht c m.graph)

theorem foldl_taking_skeleton (c m) (ts : List Table) :
    (ts.foldl (taking c) m).graph.skeleton = m.graph.skeleton := by
  induction ts generalizing m with
  | nil => rfl
  | cons t ts ih => rw [List.foldl_cons, ih, taking_skeleton]

theorem foldl_taking_of_runValues {ts : List Table} (hts : ∀ t ∈ ts, t.kind = .levelZeroDynamic)
    (hskel : m.graph.skeleton = c.skeleton) :
    ts.foldl (fun m t => taking m.graph m t) m = ts.foldl (taking c) m := by
  induction ts generalizing m with
  | nil => rw [List.foldl_nil, List.foldl_nil]
  | cons t ts ih =>
    rw [List.foldl_cons, List.foldl_cons, taking_of_runValues (hts t List.mem_cons_self) hskel]
    refine ih (fun t' ht' => hts t' (List.mem_cons_of_mem t ht')) ?_
    rw [taking_skeleton, hskel]

/-- All other tables may be taken for the context that the first one of them finds. -/
theorem foldl_taking_of_ne {ts : List Table} (hts : ∀ t ∈ ts, t.kind ≠ .levelZeroDynamic)
    (hcontext : m.graph.context = c.context) :
    ts.foldl (fun m t => taking m.graph m t) m = ts.foldl (taking c) m := by
  induction ts generalizing m with
  | nil => rw [List.foldl_nil, List.foldl_nil]
  | cons t ts ih =>
    rw [List.foldl_cons, List.foldl_cons, taking_congr hcontext]
    refine ih (fun t' ht' => hts t' (List.mem_cons_of_mem t ht')) ?_
    rw [taking_context (hts t List.mem_cons_self), hcontext]

/-- The monitor after the tables with values of the run. -/
def afterRunTables (m : Monitor) (flashlists : List Flashlist) : Monitor :=
  (runTables flashlists).foldl (taking m.graph) m

theorem afterRunTables_skeleton (m : Monitor) (flashlists : List Flashlist) :
    (m.afterRunTables flashlists).graph.skeleton = m.graph.skeleton :=
  foldl_taking_skeleton m.graph m (runTables flashlists)

/-- All tables of a cycle may be taken for the context that those with values of the run leave. -/
theorem dispatchAll_inOrder (m : Monitor) (flashlists : List Flashlist) :
    (m.dispatchAll (inOrder flashlists)).1
      = (tables (inOrder flashlists)).foldl (taking (m.afterRunTables flashlists).graph) m := by
  have hskel := (m.afterRunTables_skeleton flashlists).symm
  have hrun : ∀ t ∈ runTables flashlists, t.kind = .levelZeroDynamic :=
    fun _ ht => kind_of_mem_runTables flashlists ht
  have hothers : ∀ t ∈ (tables (inOrder flashlists)).filter (·.kind ≠ .levelZeroDynamic),
      t.kind ≠ .levelZeroDynamic := fun t ht => of_decide_eq_true (List.mem_filter.1 ht).2
  have hafter : (runTables flashlists).foldl (taking (m.afterRunTables flashlists).graph) m
      = m.afterRunTables flashlists := by
    rw [← foldl_taking_of_runValues hrun hskel, foldl_taking_of_runValues hrun rfl]
    rfl
  -- The values of the run hang on the skeleton alone, and the other tables find their context.
  rw [dispatchAll_eq, tables_inOrder, List.foldl_append, List.foldl_append,
    foldl_taking_of_runValues hrun hskel, hafter, foldl_taking_of_ne hothers rfl]

end Monitor

end DaqMonitor

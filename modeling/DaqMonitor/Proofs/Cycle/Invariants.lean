/-
  DaqMonitor.Proofs.Cycle.Invariants

  What every step of a run keeps, entity by entity.

  A property of single entities lasts if it hangs on nothing but what comes row by
  row, holds of an entity as before any row, and is kept by every row that a table has
  for an entity. Then it holds of all entities of its sort in every state of a run from
  a built graph: what a table does besides is not row by row, a cycle ends with what
  is not, and a reset makes an entity as before any row.

  Readout units get rows from two tables that tell nearly the same. Whichever came last,
  the four lists with an item per builder unit have one length and the throughput fits the
  other values; and as the allocation rates come with the table of the event manager
  alone, no other unit has any.

    * `Lasting g s P` — what makes a property of the entities of a sort last.
    * `Lasting.performAll` — it holds of all of them after every run.
    * `Ru.Coherent`, `Ru.AllocatesAsEvm` — the values of a unit fit each other.
    * `rus_performAll` — in every state of a run all units are so.
-/
import DaqMonitor.Proofs.Cycle.History

namespace DaqMonitor

open Flashlist DaqMonitor.Topology

/-! ## Properties that last -/

/-- What makes a property of the entities of a sort last in all runs from a graph. -/
structure Lasting (g : Graph) (s : TargetSort) (P : s.Entity → Prop) : Prop where
  /-- It hangs on what comes row by row only. -/
  rowFed (e : s.Entity) : P (s.rowFed e) ↔ P e
  /-- It holds before any row. -/
  reset (e : s.Entity) : P (s.reset e)
  /-- Every row that a table has for an entity keeps it. -/
  update {session : Session} {k : Graph} {rows : List Row} {kind : Kind} {n : Nat} {row : Row}
    {e e' : s.Entity} (hskel : k.skeleton = g.skeleton) (he : (k.entities s)[n]? = some e)
    (hrow : Table.row? session k rows s n kind = some row) (htaken : s.update e kind row = .ok e')
    (h : P e) : P e'

namespace Lasting

variable {g k : Graph} {s : TargetSort} {P : s.Entity → Prop} (hP : Lasting g s P)

include hP

theorem congr {e e' : s.Entity} (hsame : s.rowFed e' = s.rowFed e) (h : P e) : P e' := by
  rw [← hP.rowFed, hsame, hP.rowFed]
  exact h

/-- An entity that refuses its row stays as it is. -/
theorem take (session : Session) (rows : List Row) (kind : Kind) {n : Nat} {e : s.Entity}
    (hskel : k.skeleton = g.skeleton) (he : (k.entities s)[n]? = some e) (h : P e) :
    P (s.take kind (Table.row? session k rows s n kind) e) := by
  unfold TargetSort.take
  cases hrow : Table.row? session k rows s n kind with
  | none => exact h
  | some row =>
    simp only
    cases htaken : s.update e kind row with
    | ok e' => exact hP.update hskel he hrow htaken h
    | error => exact h

theorem dispatch (hskel : k.skeleton = g.skeleton) (h : ∀ e ∈ k.entities s, P e)
    (session : Session) (f : Flashlist) :
    (DaqMonitor.dispatch session k f).graph.skeleton = g.skeleton ∧
      ∀ e ∈ (DaqMonitor.dispatch session k f).graph.entities s, P e := by
  cases hkind : f.dispatchKind? with
  | none =>
    simp only [DaqMonitor.dispatch, hkind]
    exact ⟨hskel, h⟩
  | some kind =>
    rw [dispatch_graph session k hkind]
    refine ⟨by rw [Table.skeleton_effect, hskel], fun e' he' => ?_⟩
    rw [Graph.entities_apply] at he'
    obtain ⟨n, hn, rfl⟩ := List.mem_mapIdx.1 he'
    have he : (k.entities s)[n]? = some (k.entities s)[n] := List.getElem?_eq_getElem hn
    have htake := hP.take session f.rows kind hskel he (h _ (List.getElem_mem hn))
    -- What the table does besides does not come row by row.
    have haside := Table.rowFed_aside session kind f.rows (n := n) (k.entities s)[n]
    rw [Table.effect_eq_take]
    exact hP.congr (TargetSort.rowFed_take_congr haside _) htake

theorem dispatchAll {m : Monitor} (hskel : m.graph.skeleton = g.skeleton)
    (h : ∀ e ∈ m.graph.entities s, P e) (flashlists : List Flashlist) :
    ∀ e ∈ (m.dispatchAll flashlists).1.graph.entities s, P e := by
  rw [Monitor.dispatchAll_eq_foldl]
  induction flashlists generalizing m with
  | nil => exact h
  | cons f flashlists ih =>
    obtain ⟨hskel', h'⟩ := hP.dispatch hskel h m.session f
    rw [← m.graph_dispatch f] at hskel' h'
    exact ih hskel' h'

theorem finish (h : ∀ e ∈ k.entities s, P e) (time : UInt64) :
    ∀ e ∈ (Monitor.finish k time).entities s, P e := by
  intro e' he'
  obtain ⟨n, hn⟩ := List.mem_iff_getElem?.1 he'
  obtain ⟨e, he, hsame⟩ := Graph.exists_entity_of_finish hn
  exact hP.congr hsame (h e (List.mem_of_getElem? he))

theorem resetTargets (h : ∀ e ∈ k.entities s, P e) (targets : List Target) :
    ∀ e ∈ (k.apply (.reset targets)).entities s, P e := by
  intro e' he'
  rw [Graph.entities_apply] at he'
  obtain ⟨n, hn, rfl⟩ := List.mem_mapIdx.1 he'
  unfold Effect.reset
  split
  · exact hP.reset _
  · exact h _ (List.getElem_mem hn)

/-- Every operation keeps it. -/
theorem perform {m : Monitor} (hskel : m.graph.skeleton = g.skeleton)
    (h : ∀ e ∈ m.graph.entities s, P e) (operation : Operation) :
    ∀ e ∈ (m.perform operation).graph.entities s, P e := by
  cases operation with
  | cycle flashlists time =>
    exact hP.finish (hP.dispatchAll hskel h (Monitor.inOrder flashlists)) time
  | reset targets =>
    rw [Monitor.perform, Monitor.resetTargets_eq]
    exact hP.resetTargets h targets
  | resetAll =>
    rw [Monitor.perform, Monitor.resetAll_eq]
    exact hP.resetTargets h m.graph.targets
  | filter session => exact h

/-- So does a run. -/
theorem performAll {m : Monitor} (hskel : m.graph.skeleton = g.skeleton)
    (h : ∀ e ∈ m.graph.entities s, P e) (operations : List Operation) :
    ∀ e ∈ (m.performAll operations).graph.entities s, P e := by
  unfold Monitor.performAll
  induction operations generalizing m with
  | nil => exact h
  | cons operation operations ih =>
    exact ih ((Monitor.skeleton_perform m operation).trans hskel) (hP.perform hskel h operation)

/-- What lasts holds of a graph as built, and so after every run. -/
theorem performAll_of_built (hg : g.AsBuilt) (session : Session) (operations : List Operation) :
    ∀ e ∈ (({ graph := g, session } : Monitor).performAll operations).graph.entities s, P e := by
  refine hP.performAll rfl (fun e he => ?_) operations
  have hreset := hP.reset e
  rwa [hg.blank s e he] at hreset

end Lasting

/-! ## Readout units -/

namespace Ru

/-- The values of a unit fit each other. -/
structure Coherent (ru : Ru) : Prop where
  buTids : ru.state.buTids.length = ru.state.throughputPerBu.length
  fragmentRates : ru.state.fragmentRatePerBu.length = ru.state.throughputPerBu.length
  retryRates : ru.state.retryRatePerBu.length = ru.state.throughputPerBu.length
  throughput : ru.state.throughput = ru.state.rate * ru.state.sizeMean

/-- A unit that is not the event manager has no allocation rates. -/
def AllocatesAsEvm (ru : Ru) : Prop :=
  ru.isEvm = false → ru.state.allocateRate = 0.0 ∧ ru.state.allocateRetryRate = 0.0

section Steps

variable {ru ru' : Ru} {kind : Kind} {row : Row}

/-- What a row does to a unit: it says whether the unit crashed, or it is a report, with allocation
    rates where it comes from the event manager, or it is nothing to the unit. -/
theorem update_cases (h : ru.update kind row = .ok ru') :
    (∃ crashed, ru' = { ru with state := { ru.state with crashed } }) ∨
      (∃ report, Report.read row (kind == .evm) = .ok report ∧
        ru' = { ru with state := ru.state.after report }) ∨ ru' = ru := by
  unfold update nextState at h
  cases kind with
  | ru =>
    by_cases hevm : ru.isEvm
    · simp only [if_pos hevm] at h
      cases h
      exact .inr (.inr rfl)
    · simp only [if_neg hevm, map_map] at h
      cases hreport : Report.read row false with
      | error => rw [hreport] at h; cases h
      | ok report =>
        rw [hreport] at h
        cases h
        exact .inr (.inl ⟨report, hreport, rfl⟩)
  | evm =>
    simp only [map_map] at h
    cases hreport : Report.read row true with
    | error => rw [hreport] at h; cases h
    | ok report =>
      rw [hreport] at h
      cases h
      exact .inr (.inl ⟨report, hreport, rfl⟩)
  | jobControl =>
    simp only [map_map] at h
    cases hcrashed : row.crashed with
    | error => rw [hcrashed] at h; cases h
    | ok crashed =>
      rw [hcrashed] at h
      cases h
      exact .inl ⟨crashed, rfl⟩
  | _ =>
    cases h
    exact .inr (.inr rfl)

theorem coherent_reset (ru : Ru) : ru.reset.Coherent where
  buTids := rfl
  fragmentRates := rfl
  retryRates := rfl
  throughput := by
    show (0.0 : Float) = 0.0 * 0.0
    decide +kernel

theorem Coherent.update (hru : ru.Coherent) (h : ru.update kind row = .ok ru') : ru'.Coherent := by
  rcases update_cases h with ⟨crashed, rfl⟩ | ⟨report, hreport, rfl⟩ | rfl
  · exact ⟨hru.buTids, hru.fragmentRates, hru.retryRates, hru.throughput⟩
  · -- A row with lists of unequal lengths is refused as a whole.
    have hread := Report.readFrom_of_read row hreport
    exact ⟨hread.length_buTids, hread.length_fragmentRatePerBu, hread.length_retryRatePerBu, rfl⟩
  · exact hru

/-- Only the event manager reports allocation rates. -/
theorem AllocatesAsEvm.update (hru : ru.AllocatesAsEvm) (hkind : kind = .evm → ru.isEvm = true)
    (h : ru.update kind row = .ok ru') : ru'.AllocatesAsEvm := by
  rcases update_cases h with ⟨crashed, rfl⟩ | ⟨report, hreport, rfl⟩ | rfl
  · exact hru
  · intro hevm
    have hnot : (kind == .evm) = false := by
      refine beq_eq_false_iff_ne.2 fun heq => ?_
      have hmanager := hkind heq
      rw [hevm] at hmanager
      cases hmanager
    rw [hnot] at hreport
    have hnone := Report.allocation_of_read row hreport
    simp only [State.after, hnone, Option.map_none, Option.getD_none]
    exact hru hevm
  · exact hru

end Steps

end Ru

section Units

variable {g : Graph}

theorem lasting_coherent (g : Graph) : Lasting g .ru Ru.Coherent where
  rowFed _ := ⟨fun h => ⟨h.buTids, h.fragmentRates, h.retryRates, h.throughput⟩,
    fun h => ⟨h.buTids, h.fragmentRates, h.retryRates, h.throughput⟩⟩
  reset := Ru.coherent_reset
  update _ _ _ htaken h := h.update htaken

/-- Ids that tell the units apart lead the table of the event manager to the event manager. -/
theorem lasting_allocatesAsEvm (hrus : g.Addressable .ru) : Lasting g .ru Ru.AllocatesAsEvm where
  rowFed _ := Iff.rfl
  reset _ _ := ⟨rfl, rfl⟩
  update {session k rows kind n row ru ru'} hskel hru hrow htaken h := by
    refine h.update (fun hkind => ?_) htaken
    subst hkind
    obtain ⟨r, hr, hrow⟩ := Table.exists_route_of_row? hrow
    obtain rfl := List.mem_singleton.1 hr
    have hevm := Graph.isEvm_of_row? (hrus.congr hskel.symm) hru hrow
    rw [show k.rus[n]? = some ru from hru] at hevm
    exact hevm

/-- In every state of a run the four lists of a unit have one length and its throughput is the
    product of its rate and its mean size; and only the event manager has allocation rates, as long
    as the ids tell the units apart. -/
theorem Monitor.rus_performAll {spec : Spec} {uids uids' : UidSource}
    (hbuild : spec.build uids = (.ok g, uids')) (session : Session) (operations : List Operation) :
    ∀ ru ∈ (({ graph := g, session } : Monitor).performAll operations).graph.rus,
      ru.Coherent ∧ (g.Addressable .ru → ru.AllocatesAsEvm) := by
  intro ru hru
  have hg := Spec.asBuilt_of_build hbuild
  refine ⟨(lasting_coherent g).performAll_of_built hg session operations ru hru, fun hrus => ?_⟩
  exact (lasting_allocatesAsEvm hrus).performAll_of_built hg session operations ru hru

/-- The tables of the units and of the event manager come one after the other, and then the event
    manager is reset. -/
theorem Monitor.rus_performAll_both_tables :
    let spec : Spec :=
      { fedBuilders := [{ name := "fb-0", ru := { hostname := "ru-0", evm := true } },
          { name := "fb-1", ru := { hostname := "ru-1" } }] }
    let whole (n : UInt64) : Json := .number (.natural n)
    let row (host : String) : Row := .object
      [("context", .text (host ++ ":1972")), ("stateName", .text "Enabled"), ("errorMsg", .text ""),
        ("eventRate", whole 4), ("superFragmentSize", whole 2),
        ("superFragmentSizeStdDev", whole 1),
        ("fragmentsInRU", whole 0), ("eventsInRU", whole 0), ("eventCount", whole 9),
        ("activeRequests", whole 0), ("incompleteSuperFragmentCount", whole 0),
        ("throughputPerBU", .list [whole 5, whole 6]), ("buTids", .list [whole 1, whole 2]),
        ("fragmentRatePerBU", .list [whole 3, whole 3]),
        ("retryRatePerBU", .list [whole 0, whole 0]), ("allocateRate", whole 7)]
    let told : List Operation :=
      [.cycle [.ofKind .ru [row "ru-0", row "ru-1"]] 1, .cycle [.ofKind .evm [row "ru-0"]] 2]
    ∃ g, spec.build {} = (.ok g, ⟨6⟩) ∧ g.Addressable .ru ∧
      let m : Monitor := { graph := g, session := {} }
      (∀ ru ∈ (m.performAll told).graph.rus, ru.Coherent ∧ ru.AllocatesAsEvm) ∧
      (m.performAll told).graph.rus.map (fun ru => (ru.isEvm, ru.state.throughput,
          ru.state.throughputPerBu.length, ru.state.allocateRate)) =
        [(true, 8.0, 2, 7.0), (false, 8.0, 2, 0.0)] ∧
      (∀ ru ∈ (m.performAll (told ++ [.reset [.ru (.ofNat 0)]])).graph.rus,
        ru.Coherent ∧ ru.AllocatesAsEvm) ∧
      (m.performAll (told ++ [.reset [.ru (.ofNat 0)]])).graph.rus.map
        (fun ru => ru.state.throughput) = [0.0, 8.0] := by
  intro spec whole row told
  refine ⟨_, rfl, by decide, ?_⟩
  intro m
  have hbuild : spec.build {} = (.ok m.graph, ⟨6⟩) := rfl
  have hrus : m.graph.Addressable .ru := by decide
  have hvalues : (m.performAll told).graph.rus.map (fun ru => (ru.isEvm, ru.state.throughput,
      ru.state.throughputPerBu.length, ru.state.allocateRate)) =
      [(true, 8.0, 2, 7.0), (false, 8.0, 2, 0.0)] := by
    simp only [m, told, performAll, perform, runCycle, inOrder, List.foldl_cons, List.foldl_nil,
      List.mergeSort_singleton]
    decide +kernel
  have hreset : (m.performAll (told ++ [.reset [.ru (.ofNat 0)]])).graph.rus.map
      (fun ru => ru.state.throughput) = [0.0, 8.0] := by
    simp only [m, told, performAll, perform, runCycle, inOrder, List.cons_append, List.nil_append,
      List.foldl_cons, List.foldl_nil, List.mergeSort_singleton]
    decide +kernel
  refine ⟨fun ru hru => ?_, hvalues, fun ru hru => ?_, hreset⟩
  · obtain ⟨hcoherent, hallocates⟩ := rus_performAll hbuild {} told ru hru
    exact ⟨hcoherent, hallocates hrus⟩
  · obtain ⟨hcoherent, hallocates⟩ := rus_performAll hbuild {} _ ru hru
    exact ⟨hcoherent, hallocates hrus⟩

end Units

end DaqMonitor

/-
  DaqMonitor.Proofs.Cycle.Erasure

  A reset of everything leaves no history but the session.

  What is worked out after the tables of a cycle is worked out anew each time, so a
  cycle depends on the graph without it. On such graphs a reset of all targets gives
  back the graph that was built, with the session of the run: every entity that
  rows or resets reach is as before any row, and entities past the ids were never
  reached. Channels are the exception: they are read for all partitions, those
  without an id included, and so there may be no more partitions than ids.

    * `runCycle_graph_congr` — what a cycle depends on.
    * `Graph.AsBuilt.raw_resetAll` — a reset of everything gives the graph as built.
    * `resetAll_runCycle` — the next cycle is that of a new monitor.
-/
import DaqMonitor.Proofs.Cycle.Operations
import DaqMonitor.Proofs.Topology.Assembly
import Mathlib.Data.List.Perm.Subperm

namespace DaqMonitor

open Flashlist Matching DaqMonitor.Topology

/-! ## What a cycle depends on -/

theorem Graph.afterTables_congr {c c' : Graph} (session : Session) (hcontext : c.context = c'.context)
    (ts : List Table) (g : Graph) : afterTables session c ts g = afterTables session c' ts g := by
  unfold afterTables
  refine List.foldl_ext _ _ _ fun g t _ => ?_
  rw [Table.effect_congr session t.kind t.rows hcontext]

theorem Graph.sessionId_raw (g : Graph) : g.raw.sessionId = g.sessionId := rfl

/-- A cycle depends on the graph without what is worked out, and on the session filter. -/
theorem Monitor.runCycle_graph_congr {m m' : Monitor} (hraw : m.graph.raw = m'.graph.raw)
    (hsession : m.session = m'.session) (flashlists : List Flashlist) (time : UInt64) :
    (m.runCycle flashlists time).1.graph = (m'.runCycle flashlists time).1.graph := by
  -- First the context that the tables with values of the run leave.
  have hskel : (m.afterRunTables flashlists).graph.skeleton
      = (m'.afterRunTables flashlists).graph.skeleton := by
    rw [afterRunTables_skeleton, afterRunTables_skeleton, ← Graph.skeleton_raw, hraw,
      Graph.skeleton_raw]
  have hidOf : ∀ k : Monitor, (k.afterRunTables flashlists).graph.sessionId
      = (Graph.afterTables k.session m.graph (runTables flashlists) k.graph.raw).sessionId := by
    intro k
    rw [afterRunTables_graph k flashlists m.graph, ← Graph.raw_afterTables, Graph.sessionId_raw]
  have hid : (m.afterRunTables flashlists).graph.sessionId
      = (m'.afterRunTables flashlists).graph.sessionId := by
    rw [hidOf m, hidOf m', hraw, hsession]
  -- Then all tables, for that context.
  have hcycle : ∀ k : Monitor, (k.runCycle flashlists time).1.graph
      = finish (Graph.afterTables k.session (k.afterRunTables flashlists).graph
          (tables (inOrder flashlists)) k.graph.raw) time := by
    intro k
    rw [runCycle_graph, ← Graph.raw_afterTables, Graph.finish_raw]
  rw [hcycle m, hcycle m', hraw, hsession,
    Graph.afterTables_congr m'.session (Graph.context_congr hskel hid)]

theorem Graph.entities_raw (g : Graph) (s : TargetSort) :
    g.raw.entities s = (g.entities s).mapIdx (Effect.underived s) := by
  rw [show g.raw.entities s = (g.apply .underived).entities s by cases s <;> rfl, entities_apply]

/-! ## Positions past the ids -/

/-- The sorts with any number of entities, all of which are changed through their targets only. -/
def TargetSort.Targeted (s : TargetSort) : Prop := s ∉ [.run, .tcds, .fed, .ttcPartition]

section Unreached

variable {s : TargetSort} {n : Nat} (hs : s.Targeted) (hn : ¬ n < UInt32.size)

include hs hn

theorem Table.effect_of_not_lt (session : Session) (g : Graph) (kind : Kind) (rows : List Row)
    (e : s.Entity) : Table.effect session g kind rows s n e = e := by
  have hgives : ∀ matches? (e : s.Entity), Route.gives kind rows matches? s n e = e := by
    intro matches? e
    cases matches? with
    | none => rfl
    | some ms => exact Effect.give_of_not_lt hn e
  have hroute : ∀ (r : Route) (e : s.Entity), r.effect session g kind rows s n e = e := by
    intro r e
    refine r.effect_induction session kind rows g (P := fun E => E s n e = e) ?_ ?_ ?_
    · exact fun matches? => hgives matches? e
    · intro _ matches?
      have hfed : s ≠ .fed := by
        rintro rfl
        exact hs (by decide)
      exact (congrArg _ (Effect.clearing_of_ne hfed n e)).trans (hgives matches? e)
    · intro _ service context
      cases s <;> first | rfl | exact absurd (by decide) hs
  unfold effect effectOn
  induction plan kind with
  | nil => rfl
  | cons r routes ih => exact (congrArg _ (hroute r e)).trans ih

omit hs hn in
theorem Graph.getElem?_apply_of_eq_self {effect : Effect} (h : ∀ e, effect s n e = e) (g : Graph) :
    ((g.apply effect).entities s)[n]? = (g.entities s)[n]? := by
  rw [entities_apply, List.getElem?_mapIdx]
  cases (g.entities s)[n]? with
  | none => rfl
  | some e => rw [Option.map_some, h]

theorem Graph.getElem?_afterTables (session : Session) (c : Graph) (ts : List Table) (g : Graph) :
    ((afterTables session c ts g).entities s)[n]? = (g.entities s)[n]? := by
  unfold afterTables
  induction ts generalizing g with
  | nil => rfl
  | cons t ts ih =>
    rw [List.foldl_cons, ih]
    exact getElem?_apply_of_eq_self (Table.effect_of_not_lt hs hn session c t.kind t.rows) g

namespace Monitor

/-- A run reaches no entity past the ids. -/
theorem getElem?_raw_perform (m : Monitor) (operation : Operation) :
    ((m.perform operation).graph.raw.entities s)[n]? = (m.graph.raw.entities s)[n]? := by
  have hreset : ∀ targets, ((m.graph.apply (.reset targets)).raw.entities s)[n]?
      = (m.graph.raw.entities s)[n]? := by
    intro targets
    rw [Graph.entities_raw, Graph.entities_raw, List.getElem?_mapIdx, List.getElem?_mapIdx,
      Graph.getElem?_apply_of_eq_self (Effect.reset_of_not_mem fun hlt => absurd hlt hn)]
  cases operation with
  | cycle flashlists time =>
    rw [perform, runCycle_graph, Graph.raw_finish, Graph.raw_afterTables,
      Graph.getElem?_afterTables hs hn]
  | reset targets =>
    rw [perform, resetTargets_eq]
    exact hreset targets
  | resetAll =>
    rw [perform, resetAll_eq]
    exact hreset m.graph.targets
  | filter session => rfl

theorem getElem?_raw_performAll (m : Monitor) (operations : List Operation) :
    ((m.performAll operations).graph.raw.entities s)[n]? = (m.graph.raw.entities s)[n]? := by
  unfold performAll
  induction operations generalizing m with
  | nil => rfl
  | cons operation rest ih => rw [List.foldl_cons, ih, getElem?_raw_perform hs hn]

end Monitor

end Unreached

/-! ## Graphs as built -/

/-- The graph in a session. -/
def Graph.inSession (g : Graph) (sessionId : Option Int64) : Graph :=
  { g with run := { g.run with sessionId } }

namespace Graph.AsBuilt

variable {g : Graph} (hg : g.AsBuilt)

include hg

/-- There are no more FEDs than ids, since no two of them have one number. -/
theorem addressable_fed : g.Addressable .fed := by
  have hnumbers : (g.feds.map fun fed => fed.id.toNat).Nodup := by
    have hmap := hg.fedIds.map (f := UInt32.toNat) fun _ _ h => UInt32.toNat_inj.1 h
    rwa [List.map_map] at hmap
  have hsubset : (g.feds.map fun fed => fed.id.toNat) ⊆ List.range UInt32.size := by
    intro number hnumber
    obtain ⟨fed, -, rfl⟩ := List.mem_map.1 hnumber
    exact List.mem_range.2 fed.id.toNat_lt_size
  have hlength := (List.subperm_of_subset hnumbers hsubset).length_le
  rwa [List.length_map, List.length_range] at hlength

/-- The sorts that have entities past the ids are changed through their targets only. -/
theorem targeted_of_not_lt (hpartitions : g.Addressable .ttcPartition) {s : TargetSort} {n : Nat}
    {e : s.Entity} (he : (g.entities s)[n]? = some e) (hn : ¬ n < UInt32.size) : s.Targeted := by
  have hsized : g.Addressable s → s.Targeted := fun h => absurd (h.lt he) hn
  intro hs
  simp only [List.mem_cons, List.not_mem_nil, or_false] at hs
  rcases hs with rfl | rfl | rfl | rfl
  · exact hsized (by decide : 1 ≤ UInt32.size) (by decide)
  · exact hsized (by decide : 1 ≤ UInt32.size) (by decide)
  · exact hsized hg.addressable_fed (by decide)
  · exact hsized hpartitions (by decide)

/-- In the session of the run, the entities as built are those that resets leave. -/
theorem entities_inSession {h : Graph} (hskel : h.skeleton = g.skeleton) (s : TargetSort) :
    (g.inSession h.sessionId).entities s = (h.entities s).map s.reset := by
  have hblank : (g.entities s).map s.reset = g.entities s :=
    (List.map_congr_left (hg.blank s)).trans (List.map_id _)
  have hfixed : (h.entities s).map s.fixed = (g.entities s).map s.fixed := by
    rw [← entities_skeleton, hskel, entities_skeleton]
  cases s with
  | run =>
    have hrun := hg.blank .run _ (List.mem_singleton_self _)
    exact congrArg (fun run => [{ run with sessionId := h.sessionId }]) hrun.symm
  | _ => exact (hfixed.trans hblank).symm

/-- A reset of everything gives the graph as built, in the session of the run. -/
theorem raw_resetAll (hpartitions : g.Addressable .ttcPartition) {m : Monitor}
    (hskel : m.graph.skeleton = g.skeleton)
    (hpast : ∀ s : TargetSort, s.Targeted → ∀ n, ¬ n < UInt32.size →
      (m.graph.raw.entities s)[n]? = (g.raw.entities s)[n]?) :
    m.resetAll.1.graph.raw = (g.inSession m.graph.sessionId).raw := by
  have haround : m.graph.skeleton.surroundings = g.skeleton.surroundings := congrArg _ hskel
  rw [Monitor.resetAll_eq]
  refine ext_entities haround fun s => List.ext_getElem? fun n => ?_
  rw [entities_raw, entities_raw, entities_apply, hg.entities_inSession hskel]
  simp only [List.getElem?_mapIdx, List.getElem?_map]
  cases he : (m.graph.entities s)[n]? with
  | none => rfl
  | some e =>
    simp only [Option.map_some]
    by_cases hn : n < UInt32.size
    · rw [Effect.reset_of_mem hn (target_mem_targets he)]
    · -- The reset does not reach the entity, and neither did the run.
      obtain ⟨e₀, he₀, -⟩ := exists_entity_of_skeleton_eq hskel he
      have hs := hg.targeted_of_not_lt hpartitions he₀ hn
      have hbuilt : ((g.inSession m.graph.sessionId).entities s)[n]? = some e₀ := by
        cases s <;> first | exact he₀ | exact absurd (by decide) hs
      rw [hg.entities_inSession hskel, List.getElem?_map, he, Option.map_some] at hbuilt
      have hsame := hpast s hs n hn
      rw [entities_raw, entities_raw, List.getElem?_mapIdx, List.getElem?_mapIdx, he, he₀,
        Option.map_some, Option.map_some, ← Option.some.inj hbuilt] at hsame
      rw [Effect.reset_of_not_mem (fun hlt => absurd hlt hn), Option.some.inj hsame]

end Graph.AsBuilt

/-! ## A new monitor -/

/-- A reset of everything leaves no history but the session of the run: the next cycle gives the
    graph that it gives on a new monitor with the graph as built, in that session. No id names a
    partition past `2 ^ 32`, but channels would reach it. -/
theorem Monitor.resetAll_runCycle {spec : Spec} {uids uids' : UidSource} {g : Graph}
    (hbuild : spec.build uids = (.ok g, uids')) (hpartitions : g.Addressable .ttcPartition)
    (session : Session) (operations : List Operation) (flashlists : List Flashlist)
    (time : UInt64) :
    let m := ({ graph := g, session } : Monitor).performAll operations
    (m.resetAll.1.runCycle flashlists time).1.graph
      = (({ graph := g.inSession m.graph.sessionId, session := m.session } : Monitor).runCycle
          flashlists time).1.graph := by
  intro m
  have hg := Spec.asBuilt_of_build hbuild
  have hskel : m.graph.skeleton = g.skeleton := skeleton_performAll _ operations
  have hpast : ∀ s : TargetSort, s.Targeted → ∀ n, ¬ n < UInt32.size →
      (m.graph.raw.entities s)[n]? = (g.raw.entities s)[n]? :=
    fun s hs n hn => getElem?_raw_performAll hs hn _ operations
  refine runCycle_graph_congr (hg.raw_resetAll hpartitions hskel hpast) ?_ flashlists time
  rw [resetAll_eq]

/-- In session 5 a unit crashes, and is alive again in the cycle after a reset of everything. -/
theorem Monitor.resetAll_runCycle_crashed_unit :
    let spec : Spec :=
      { sessionId := some 5, ttcPartitions := [{ name := "TK", number := 1 }]
        bus := [{ hostname := "bu-1" }] }
    let g : Graph := Graph.indexed
      { uid := ⟨1⟩, run := { sessionId := some 5 }
        ttcPartitions := [{ uid := ⟨2⟩, name := "TK", number := 1 }]
        bus := [{ uid := ⟨3⟩, hostname := "bu-1" }] }
    let job (status : String) : Flashlist := .ofKind .jobControl
      [.object [("context", .text "bu-1:1972"),
        ("jobTable", .object [("rows", .list [.object [("status", .text status)]])])]]
    let m := ({ graph := g, session := {} } : Monitor).performAll [.cycle [job "dead"] 1]
    spec.build {} = (.ok g, ⟨4⟩) ∧ g.Addressable .ttcPartition ∧
      m.graph.bus.map (·.state.crashed) = [true] ∧
      (m.resetAll.1.runCycle [job "alive"] 2).1.graph
        = (({ graph := g.inSession m.graph.sessionId, session := m.session } : Monitor).runCycle
            [job "alive"] 2).1.graph := by
  intro spec g job m
  have hbuild : spec.build {} = (.ok g, ⟨4⟩) := rfl
  have hpartitions : g.Addressable .ttcPartition := by decide
  have hcrashed : m.graph.bus.map (·.state.crashed) = [true] := by
    simp only [m, performAll, perform, runCycle, inOrder, List.foldl_cons, List.foldl_nil,
      List.mergeSort_singleton]
    decide +kernel
  refine ⟨hbuild, hpartitions, hcrashed, ?_⟩
  exact resetAll_runCycle hbuild hpartitions {} [.cycle [job "dead"] 1] [job "alive"] 2

end DaqMonitor

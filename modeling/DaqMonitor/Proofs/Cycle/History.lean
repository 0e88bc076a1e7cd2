/-
  DaqMonitor.Proofs.Cycle.History

  The last accepted row of each kind wins over a whole run.

  A history stands beside a monitor. It keeps the last row of each kind that each
  entity got and accepted, a dispatch adds to it, and a reset forgets what it had of
  the entities that are reset. Nothing else of a run counts: in what comes row by
  row, an entity is at any time what the rows in its history make of it as built,
  in any order of the kinds. So rows that were refused, tables that did not come,
  rows that others took the place of and rows of other entities leave no trace.

    * `Monitor.historyOf m operations` — the history of a run.
    * `Tracks g k h` — a graph is what a history makes of the graph as built.
    * `Tracks.dispatch`, `Tracks.reset`, `Tracks.finish` — every step keeps that.
    * `performAll_eq_replay` — every entity after a run, from its history.
-/
import DaqMonitor.Proofs.Cycle.Erasure
import DaqMonitor.Proofs.Cycle.Replay

namespace DaqMonitor

open Flashlist Matching DaqMonitor.Topology

/-! ## Histories -/

/-- What counts of a run so far. -/
structure History where
  /-- The last row of each kind that the entity of a sort at a position accepted, since it was built
      or reset. -/
  lastRow : TargetSort → Nat → Kind → Option Row := fun _ _ _ => none
  /-- The session that the run was in when it was built or reset. -/
  sessionId : Option Int64

namespace History

/-- The history after a flashlist is dispatched on a graph. -/
def record (h : History) (session : Session) (g : Graph) (f : Flashlist) : History :=
  match f.dispatchKind? with
  | none => h
  | some kind =>
    { h with
      lastRow := fun s n =>
        match (g.entities s)[n]? with
        | none => h.lastRow s n
        | some e => s.remember kind (Table.row? session g f.rows s n kind) e (h.lastRow s n) }

theorem sessionId_record (h : History) (session : Session) (g : Graph) (f : Flashlist) :
    (h.record session g f).sessionId = h.sessionId := by
  unfold record
  cases f.dispatchKind? <;> rfl

theorem lastRow_record (h : History) {session : Session} {g : Graph} {f : Flashlist} {kind : Kind}
    (hkind : f.dispatchKind? = some kind) {s : TargetSort} {n : Nat} {e : s.Entity}
    (he : (g.entities s)[n]? = some e) :
    (h.record session g f).lastRow s n
      = s.remember kind (Table.row? session g f.rows s n kind) e (h.lastRow s n) := by
  simp only [record, hkind, he]

/-- The history after some targets of a graph are reset. -/
def forget (h : History) (g : Graph) (targets : List Target) : History where
  lastRow s n := if n < UInt32.size ∧ s.target n ∈ targets then fun _ => none else h.lastRow s n
  sessionId := if .run ∈ targets then g.sessionId else h.sessionId

end History

namespace Monitor

/-- The history after some flashlists, one after the other. -/
def recordAll (m : Monitor) (h : History) : List Flashlist → History
  | [] => h
  | f :: flashlists => (m.dispatch f).1.recordAll (h.record m.session m.graph f) flashlists

/-- The history after an operation. -/
def record (m : Monitor) (h : History) : Operation → History
  | .cycle flashlists _ => m.recordAll h (inOrder flashlists)
  | .reset targets => h.forget m.graph targets
  | .resetAll => h.forget m.graph m.graph.targets
  | .filter _ => h

/-- The history after a run. -/
def recordRun (m : Monitor) (h : History) : List Operation → History
  | [] => h
  | operation :: operations => (m.perform operation).recordRun (m.record h operation) operations

/-- The history of a run from a graph as built. -/
def historyOf (m : Monitor) (operations : List Operation) : History :=
  m.recordRun { sessionId := m.graph.sessionId } operations

end Monitor

/-! ## What a graph is after its history -/

/-- Every entity of a graph is, in what comes row by row, what the last rows of its history make of
    it as built, in the session of the history. -/
structure Tracks (g k : Graph) (h : History) : Prop where
  skeleton : k.skeleton = g.skeleton
  entity : ∀ {s n e}, (k.entities s)[n]? = some e →
    ∃ b, Fits (g.inSession h.sessionId) s n b (h.lastRow s n) ∧
      s.rowFed e = s.rowFed (s.takeAll (h.lastRow s n) Kind.all b)

section Values

variable {s : TargetSort} {n : Nat}

/-- What a table does to an entity besides giving it a row does not come row by row. -/
theorem Table.rowFed_aside (session : Session) (kind : Kind) (rows : List Row) (e : s.Entity) :
    s.rowFed (Table.aside session kind rows s n e) = s.rowFed e := by
  cases kind with
  | ru => cases s <;> rfl
  | tcdsTtsChannels =>
    unfold Table.aside
    cases session.tcds? with
    | none => rfl
    | some tcds =>
      cases s with
      | ttcPartition =>
        obtain ⟨own, emulator, hafter⟩ := partitionAfter_cases tcds.1 (Channels.ofRows rows)
          (TtcPartition.reset e)
        simp only [Effect.channels, hafter e rfl]
        rfl
      | _ => rfl
  | _ => rfl

theorem Effect.rowFed_underived (e : s.Entity) :
    s.rowFed (Effect.underived s n e) = s.rowFed e := by
  cases s <;> rfl

/-- A cycle ends with what does not come row by row. -/
theorem Graph.exists_entity_of_finish {k : Graph} {time : UInt64} {e' : s.Entity}
    (he' : ((Monitor.finish k time).entities s)[n]? = some e') :
    ∃ e, (k.entities s)[n]? = some e ∧ s.rowFed e' = s.rowFed e := by
  -- Without what is worked out the graph is as before.
  have hraw := congrArg (fun g : Graph => (g.entities s)[n]?) (raw_finish k time)
  simp only [entities_raw, List.getElem?_mapIdx, he', Option.map_some] at hraw
  obtain ⟨e, he, hsame⟩ := Option.map_eq_some_iff.1 hraw.symm
  refine ⟨e, he, ?_⟩
  rw [← Effect.rowFed_underived e', ← hsame, Effect.rowFed_underived]

theorem Graph.entities_inSession_of_ne (g : Graph) (sessionId : Option Int64) (hs : s ≠ .run) :
    (g.inSession sessionId).entities s = g.entities s := by
  cases s <;> first | rfl | exact absurd rfl hs

end Values

namespace Tracks

variable {g k : Graph} {h : History}

/-- A graph as built has no history. -/
theorem of_built (g : Graph) : Tracks g g { sessionId := g.sessionId } where
  skeleton := rfl
  entity {s n e} he := by
    have hbuilt : Fits (g.inSession g.sessionId) s n e fun _ => none := .of_none he
    exact ⟨e, hbuilt, by rw [s.takeAll_none]⟩

/-- A dispatch adds the rows that are accepted. -/
theorem dispatch (htracks : Tracks g k h) (hrus : g.Addressable .ru) (hfeds : g.Addressable .fed)
    (session : Session) (f : Flashlist) :
    Tracks g (DaqMonitor.dispatch session k f).graph (h.record session k f) := by
  cases hkind : f.dispatchKind? with
  | none =>
    simp only [DaqMonitor.dispatch, History.record, hkind]
    exact htracks
  | some kind =>
    refine ⟨?_, fun {s n e'} he' => ?_⟩
    · rw [dispatch_graph session k hkind, Table.skeleton_effect, htracks.skeleton]
    · rw [dispatch_graph session k hkind, Graph.entities_apply, List.getElem?_mapIdx] at he'
      obtain ⟨e, he, rfl⟩ := Option.map_eq_some_iff.1 he'
      obtain ⟨b, hfits, hrows⟩ := htracks.entity he
      -- Where the entity stands was fixed when the graph was built.
      have hskel := htracks.skeleton.symm
      have hsuits : ∀ row, Table.row? session k f.rows s n kind = some row →
          (g.inSession h.sessionId).Suits s n kind := fun row hrow =>
        (Graph.suits_of_row? (hrus.congr hskel) (hfeds.congr hskel) he hrow).congr hskel.symm
      obtain ⟨hfits', hrows'⟩ := hfits.remember hrows hsuits
      refine ⟨b, ?_⟩
      rw [History.sessionId_record, History.lastRow_record h hkind he, Table.effect_eq_take,
        TargetSort.rowFed_take_congr (Table.rowFed_aside session kind f.rows e)]
      exact ⟨hfits', hrows'⟩

/-- A cycle ends with what is in no history. -/
theorem finish (htracks : Tracks g k h) (time : UInt64) : Tracks g (Monitor.finish k time) h where
  skeleton := by rw [Graph.skeleton_finish, htracks.skeleton]
  entity he' := by
    obtain ⟨e, he, hsame⟩ := Graph.exists_entity_of_finish he'
    obtain ⟨b, hfits, hrows⟩ := htracks.entity he
    exact ⟨b, hfits, hsame.trans hrows⟩

/-- Entities that are not reset have no other session than before, the run included. -/
theorem there_forget {targets : List Target} {s : TargetSort} {n : Nat} {e b : s.Entity}
    (he : (k.entities s)[n]? = some e) (hreset : ¬ (n < UInt32.size ∧ s.target n ∈ targets))
    (hb : ((g.inSession h.sessionId).entities s)[n]? = some b) :
    ((g.inSession (h.forget k targets).sessionId).entities s)[n]? = some b := by
  by_cases hs : s = .run
  · subst hs
    obtain rfl : n = 0 := by
      have hlt : n < [k.run].length := (List.getElem?_eq_some_iff.1 he).1
      simpa using hlt
    have hrun : .run ∉ targets := fun hmem => hreset ⟨by decide, hmem⟩
    rwa [show (h.forget k targets).sessionId = h.sessionId from if_neg hrun]
  · rwa [Graph.entities_inSession_of_ne g _ hs] at hb ⊢

/-- Entities that are reset are as built, the run in the session that it is in. -/
theorem there_of_reset (hg : g.AsBuilt) (hskel : k.skeleton = g.skeleton) {targets : List Target}
    {s : TargetSort} {n : Nat} {e : s.Entity} (he : (k.entities s)[n]? = some e)
    (hmem : s.target n ∈ targets) :
    ((g.inSession (h.forget k targets).sessionId).entities s)[n]? = some (s.reset e) := by
  have hbuilt : ((g.inSession k.sessionId).entities s)[n]? = some (s.reset e) := by
    rw [hg.entities_inSession hskel, List.getElem?_map, he, Option.map_some]
  by_cases hs : s = .run
  · subst hs
    rwa [show (h.forget k targets).sessionId = k.sessionId from if_pos hmem]
  · rwa [Graph.entities_inSession_of_ne g _ hs] at hbuilt ⊢

/-- A reset forgets the rows of the entities that are reset. -/
theorem reset (htracks : Tracks g k h) (hg : g.AsBuilt) (targets : List Target) :
    Tracks g (k.apply (.reset targets)) (h.forget k targets) := by
  refine ⟨?_, fun {s n e'} he' => ?_⟩
  · rw [Graph.skeleton_apply (Effect.fixed_ofReset targets), htracks.skeleton]
  · rw [Graph.entities_apply, List.getElem?_mapIdx] at he'
    obtain ⟨e, he, rfl⟩ := Option.map_eq_some_iff.1 he'
    by_cases hreset : n < UInt32.size ∧ s.target n ∈ targets
    · -- Its history begins anew, in the session that the run is in now.
      refine ⟨s.reset e, ?_, ?_⟩
      · rw [show (h.forget k targets).lastRow s n = fun _ => none from if_pos hreset]
        exact .of_none (there_of_reset hg htracks.skeleton he hreset.2)
      · rw [show (h.forget k targets).lastRow s n = fun _ => none from if_pos hreset,
          s.takeAll_none, Effect.reset_of_mem hreset.1 hreset.2]
    · -- It goes on with the same history, whatever else is reset.
      obtain ⟨b, hfits, hrows⟩ := htracks.entity he
      have hlast : (h.forget k targets).lastRow s n = h.lastRow s n := if_neg hreset
      refine ⟨b, ?_, ?_⟩
      · rw [hlast]
        exact ⟨there_forget he hreset hfits.there, fun hrow => (hfits.suits hrow).congr rfl,
          hfits.accepted⟩
      · rw [hlast, Effect.reset_of_not_mem fun hlt hmem => hreset ⟨hlt, hmem⟩, hrows]

end Tracks

/-! ## Runs -/

namespace Monitor

variable {g : Graph} {m : Monitor} {h : History}

theorem tracks_dispatchAll (hrus : g.Addressable .ru) (hfeds : g.Addressable .fed)
    (htracks : Tracks g m.graph h) (flashlists : List Flashlist) :
    Tracks g (m.dispatchAll flashlists).1.graph (m.recordAll h flashlists) := by
  rw [dispatchAll_eq_foldl]
  induction flashlists generalizing m h with
  | nil => exact htracks
  | cons f flashlists ih =>
    have hstep := htracks.dispatch hrus hfeds m.session f
    rw [← m.graph_dispatch f] at hstep
    exact ih hstep

/-- Every operation keeps that a graph is what its history makes of it. -/
theorem tracks_perform (hg : g.AsBuilt) (hrus : g.Addressable .ru) (htracks : Tracks g m.graph h)
    (operation : Operation) : Tracks g (m.perform operation).graph (m.record h operation) := by
  cases operation with
  | cycle flashlists time =>
    exact (tracks_dispatchAll hrus hg.addressable_fed htracks (inOrder flashlists)).finish time
  | reset targets =>
    rw [perform, resetTargets_eq]
    exact htracks.reset hg targets
  | resetAll =>
    rw [perform, resetAll_eq]
    exact htracks.reset hg m.graph.targets
  | filter session => exact htracks

/-- So does a run. -/
theorem tracks_performAll (hg : g.AsBuilt) (hrus : g.Addressable .ru)
    (htracks : Tracks g m.graph h) (operations : List Operation) :
    Tracks g (m.performAll operations).graph (m.recordRun h operations) := by
  unfold performAll
  induction operations generalizing m h with
  | nil => exact htracks
  | cons operation operations ih => exact ih (tracks_perform hg hrus htracks operation)

/-- After a run every entity is, in what comes row by row, what it would be had it got, as built, no
    rows but the last one of each kind that it accepted since it was built or reset, in any order of
    the kinds; and it accepts all of these. As built the run is in the session that it was in at its
    last reset. The ids have to tell the readout units apart: else another unit would get the rows of
    the event manager. -/
theorem performAll_eq_replay {spec : Spec} {uids uids' : UidSource}
    (hbuild : spec.build uids = (.ok g, uids')) (hrus : g.Addressable .ru) (session : Session)
    (operations : List Operation) :
    let m : Monitor := { graph := g, session }
    let history := m.historyOf operations
    ∀ (s : TargetSort) (n : Nat) (e : s.Entity),
      ((m.performAll operations).graph.entities s)[n]? = some e →
      ∃ built, ((g.inSession history.sessionId).entities s)[n]? = some built ∧
        ∀ kinds : List Kind, kinds.Perm Kind.all →
          ∃ told, s.replay (history.lastRow s n) kinds built = .ok told ∧
            s.rowFed e = s.rowFed told := by
  intro m history s n e he
  have hg := Spec.asBuilt_of_build hbuild
  have htracks : Tracks g (m.performAll operations).graph history :=
    tracks_performAll hg hrus (.of_built g) operations
  obtain ⟨b, hfits, hrows⟩ := htracks.entity he
  -- The entity is known in one order of the kinds, and all orders come to the same.
  refine ⟨b, hfits.there, fun kinds hkinds => ?_⟩
  refine ⟨_, s.replay_eq_takeAll fun kind row hrow => hfits.accepted hrow, ?_⟩
  rw [hrows, hfits.takeAll_perm hkinds]

/-- A unit crashes, and then the run is reset, but not the unit. -/
theorem performAll_eq_replay_crashed_unit :
    let spec : Spec :=
      { sessionId := some 5, ttcPartitions := [{ name := "TK", number := 1 }]
        bus := [{ hostname := "bu-1" }] }
    let bu : Bu := { uid := ⟨3⟩, hostname := "bu-1" }
    let g : Graph := Graph.indexed
      { uid := ⟨1⟩, run := { sessionId := some 5 }
        ttcPartitions := [{ uid := ⟨2⟩, name := "TK", number := 1 }], bus := [bu] }
    let row : Row := .object [("context", .text "bu-1:1972"),
      ("jobTable", .object [("rows", .list [.object [("status", .text "dead")]])])]
    let operations : List Operation := [.cycle [.ofKind .jobControl [row]] 1, .reset [.run]]
    let m : Monitor := { graph := g, session := {} }
    spec.build {} = (.ok g, ⟨4⟩) ∧ g.Addressable .ru ∧
      ((m.historyOf operations).lastRow .bu 0 .jobControl).isSome ∧
      ∃ e told : Bu, ((m.performAll operations).graph.entities .bu)[0]? = some e ∧
        e.state.crashed = true ∧
        TargetSort.bu.replay ((m.historyOf operations).lastRow .bu 0) Kind.all bu = .ok told ∧
        TargetSort.bu.rowFed e = TargetSort.bu.rowFed told := by
  intro spec bu g row operations m
  have hbuild : spec.build {} = (.ok g, ⟨4⟩) := rfl
  have hrus : g.Addressable .ru := by decide
  have hlast : ((m.historyOf operations).lastRow .bu 0 .jobControl).isSome := by
    simp only [m, operations, historyOf, recordRun, record, recordAll, perform, runCycle, inOrder,
      List.mergeSort_singleton]
    decide +kernel
  have hcrashed : ((m.performAll operations).graph.entities .bu)[0]?.map
      (fun e => Bu.State.crashed (Bu.state e)) = some true := by
    simp only [m, operations, performAll, perform, runCycle, inOrder, List.foldl_cons,
      List.foldl_nil, List.mergeSort_singleton]
    decide +kernel
  obtain ⟨e, he, hcrashed⟩ := Option.map_eq_some_iff.1 hcrashed
  obtain ⟨built, hbuilt, htold⟩ := performAll_eq_replay hbuild hrus {} operations .bu 0 e he
  cases hbuilt
  obtain ⟨told, hreplay, hsame⟩ := htold Kind.all (.refl _)
  exact ⟨hbuild, hrus, hlast, e, told, he, hcrashed, hreplay, hsame⟩

end Monitor

end DaqMonitor

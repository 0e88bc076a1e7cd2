/-
  DaqMonitor.Proofs.Cycle.Routes

  What the routes of a table do, as effects, and what they record.

  How a route matches rows depends on what no table changes of the graph, and on
  the session; together they are the context of the graph. So what a table makes
  of a graph, and what is recorded for it, can be said ahead for the context that
  the table finds.

    * `Graph.context g` — what routes look at.
    * `Route.matches? session g rows r` — what a route finds the rows to be about.
    * `dispatch_graph`, `dispatch_recorded?` — a table as an effect, and what is
      recorded for it.
-/
import DaqMonitor.Proofs.Cycle.Giving
import DaqMonitor.Proofs.Cycle.MatchStats

namespace DaqMonitor

open Flashlist Matching

/-! ## The context -/

/-- What routes look at of a graph: the skeleton and the session. -/
def Graph.context (g : Graph) : Graph :=
  { g.skeleton with run := { sessionId := g.sessionId } }

namespace Graph

@[simp] theorem context_sessionId (g : Graph) : g.context.sessionId = g.sessionId := rfl

@[simp] theorem context_indexes (g : Graph) : g.context.indexes = g.indexes := rfl

theorem skeleton_context (g : Graph) : g.context.skeleton = g.skeleton := by
  have hmap : ∀ s (l : List (TargetSort.Entity s)),
      (l.mapIdx (Effect.fixed s)).mapIdx (Effect.fixed s) = l.mapIdx (Effect.fixed s) := by
    intro s l
    rw [List.mapIdx_mapIdx]
    congr 1
    funext n e
    exact s.fixed_fixed e
  simp only [context, skeleton, apply, hmap, List.map_map]
  rfl

theorem context_congr {g h : Graph} (hskel : g.skeleton = h.skeleton)
    (hsession : g.sessionId = h.sessionId) : g.context = h.context := by
  simp only [context, hskel, hsession]

/-- The entities of the context, but for the run, are the fixed parts of those of the graph. -/
theorem entities_context (g : Graph) (s : TargetSort) (hs : s ≠ .run) :
    g.context.entities s = (g.entities s).map s.fixed := by
  rw [← entities_skeleton]
  cases s <;> first | rfl | exact absurd rfl hs

end Graph

/-! ## Positions -/

section Positions

variable (g : Graph)

/-- Entities that have their positions in common with others. -/
theorem Matching.positioned_map {α : Type} {arena : Arena} {position? position?' : α → Option Position}
    {make : EntityId arena → Target} {f : α → α} (h : ∀ e, position?' (f e) = position? e)
    (entities : List α) :
    positioned position?' make (entities.map f) = positioned position? make entities := by
  unfold positioned
  rw [List.zipIdx_map, List.filterMap_map]
  congr 1
  funext e
  simp [h]

theorem EntityId.get?_map {α : Type} {arena : Arena} (f : α → α) (id : EntityId arena)
    (entities : List α) : id.get? (entities.map f) = (id.get? entities).map f :=
  List.getElem?_map

theorem Matching.fedOnCard?_context (kind : CardKind) (fed : Fed) :
    fedOnCard? g.context kind fed.reset = fedOnCard? g kind fed := by
  have hfrls : g.context.frls = g.frls.map Frl.reset := g.entities_context .frl (by decide)
  have hpcs : g.context.frlPcs = g.frlPcs.map FrlPc.reset := g.entities_context .frlPc (by decide)
  simp only [fedOnCard?, hfrls, hpcs, EntityId.get?_map, Option.bind_eq_bind, Option.bind_map]
  rfl

theorem Matching.frlPosition?_context (frl : Frl) :
    frlPosition? g.context frl.reset = frlPosition? g frl := by
  have hpcs : g.context.frlPcs = g.frlPcs.map FrlPc.reset := g.entities_context .frlPc (by decide)
  simp only [frlPosition?, hpcs, EntityId.get?_map, Option.bind_eq_bind, Option.bind_map]
  rfl

theorem Matching.fmmPosition?_context (fmm : Fmm) :
    fmmPosition? g.context fmm.reset = fmmPosition? g fmm := by
  have happs : g.context.fmmApplications = g.fmmApplications.map FmmApplication.reset :=
    g.entities_context .fmmApplication (by decide)
  simp only [fmmPosition?, happs, EntityId.get?_map, Option.bind_eq_bind, Option.bind_map]
  rfl

theorem Matching.fedOnFmm?_context (fed : Fed) :
    fedOnFmm? g.context fed.reset = fedOnFmm? g fed := by
  have hfmms : g.context.fmms = g.fmms.map Fmm.reset := g.entities_context .fmm (by decide)
  have happs : g.context.fmmApplications = g.fmmApplications.map FmmApplication.reset :=
    g.entities_context .fmmApplication (by decide)
  simp only [fedOnFmm?, hfmms, happs, EntityId.get?_map, Option.bind_eq_bind, Option.bind_map]
  rfl

theorem Matching.partitionPosition?_context (p : TtcPartition) :
    partitionPosition? g.context p.reset = partitionPosition? g p := by
  have hfmms : g.context.fmms = g.fmms.map Fmm.reset := g.entities_context .fmm (by decide)
  have happs : g.context.fmmApplications = g.fmmApplications.map FmmApplication.reset :=
    g.entities_context .fmmApplication (by decide)
  simp only [partitionPosition?, hfmms, happs, EntityId.get?_map, Option.bind_eq_bind,
    Option.bind_map]
  rfl

theorem Matching.Finder.candidates_context (finder : Finder) :
    finder.candidates g.context = finder.candidates g := by
  have hfeds : g.context.feds = g.feds.map Fed.reset := g.entities_context .fed (by decide)
  have hfrls : g.context.frls = g.frls.map Frl.reset := g.entities_context .frl (by decide)
  have hfmms : g.context.fmms = g.fmms.map Fmm.reset := g.entities_context .fmm (by decide)
  have hpartitions : g.context.ttcPartitions = g.ttcPartitions.map TtcPartition.reset :=
    g.entities_context .ttcPartition (by decide)
  cases finder with
  | fedOnFerolStream =>
    simp only [candidates, hfeds, positioned_map (fedOnCard?_context g .ferol)]
  | fedOnFrl => simp only [candidates, hfeds, positioned_map (fedOnCard?_context g .ferol)]
  | fedOnFerol40Stream =>
    simp only [candidates, hfeds, positioned_map (fedOnCard?_context g .ferol40)]
  | fedOnFmm => simp only [candidates, hfeds, positioned_map (fedOnFmm?_context g)]
  | frl => simp only [candidates, hfrls, positioned_map (frlPosition?_context g)]
  | fmm => simp only [candidates, hfmms, positioned_map (fmmPosition?_context g)]
  | ttcPartition =>
    simp only [candidates, hpartitions, positioned_map (partitionPosition?_context g)]

end Positions

/-! ## What routes match -/

namespace Route

/-- What the rows of a table are about on a route. The route of the TTS channels matches no single
    rows, that of the event manager none where there is not one row, and that of a TCDS service
    none without a TCDS partition manager. -/
def matches? (session : Session) (g : Graph) (rows : List Row) : Route → Option (List RowMatch)
  | hostname pool => some (rows.map (matchHostname g pool))
  | position finder => some (rows.map (finder.matchRow (finder.candidates g)))
  | problemLists =>
    some (rows.map (byIdLists problemColumns g.indexes.fedsByExpectedId .fed))
  | evm => if rows.length = 1 then some [matchEvm g] else none
  | levelZeroDynamic => some (rows.map (matchLevelZeroDynamic session))
  | levelZeroSubsystems => some (rows.map (matchLevelZeroSubsystem g session))
  | tcdsService => session.tcds?.map fun tcds => matchTcdsService tcds.1 rows
  | ttsChannels => none

/-- What a route matches can be seen from the context. -/
theorem matches?_context (session : Session) (g : Graph) (rows : List Row) (r : Route) :
    r.matches? session g.context rows = r.matches? session g rows := by
  cases r with
  | position finder => simp only [matches?, Finder.candidates_context]
  | evm =>
    -- Which unit is the event manager is no state of it.
    have hrus : g.context.rus = g.rus.map Ru.reset := g.entities_context .ru (by decide)
    have hevm : matchEvm g.context = matchEvm g := by
      simp only [matchEvm, hrus, List.zipIdx_map, List.filter_map, List.map_map]
      rfl
    simp only [matches?, hevm]
  | _ => rfl

end Route

/-! ## What routes do -/

/-- No FED keeps the flags that come from the lists of the readout units. -/
def Effect.clearing : Effect := fun s _ =>
  match s with
  | .fed => Fed.clearProblems
  | _ => fun e => e

/-- The global outputs of a service, by the type of their channels. -/
def globalOutputs (channels : Channels) (service : String) :
    List (String × TtsPart (Option GlobalTtsState)) :=
  ((channels.types service).filter fun t => t != partitionType && t != emulatorType).map
    fun type => (type, globalOutput channels service type)

/-- The states of global outputs, after those that have a new state. -/
def takeOutputs (states : SortedMap String GlobalTtsState)
    (outputs : List (String × TtsPart (Option GlobalTtsState))) :
    SortedMap String GlobalTtsState :=
  outputs.foldl (fun states o =>
    match o.2.value with
    | some state => states.insert o.1 state
    | none => states) states

/-- The new state of a global output: that of the last output of its type that has one. -/
def outputState? (outputs : List (String × TtsPart (Option GlobalTtsState))) (type : String) :
    Option GlobalTtsState :=
  outputs.reverse.findSome? fun o => if o.1 = type then o.2.value else none

/-- A global output has its new state, or else the state that it had. -/
theorem find?_takeOutputs (states : SortedMap String GlobalTtsState)
    (outputs : List (String × TtsPart (Option GlobalTtsState))) (type : String) :
    (takeOutputs states outputs).find? type
      = (outputState? outputs type).or (states.find? type) := by
  unfold takeOutputs outputState?
  induction outputs generalizing states with
  | nil => rfl
  | cons o outputs ih =>
    -- What the later outputs say stands over this one.
    rw [List.foldl_cons, ih, List.reverse_cons, List.findSome?_append, Option.or_assoc]
    congr 1
    cases hvalue : o.2.value with
    | none => simp [hvalue]
    | some state =>
      by_cases htype : o.1 = type
      · simp [hvalue, htype]
      · simp [htype, Ne.symm htype]

/-- Partitions take the states of their channels, the TCDS record those of the global outputs. -/
def Effect.channels (service context : String) (rows : List Row) : Effect := fun s _ =>
  match s with
  | .ttcPartition => fun p => (partitionAfter (Channels.ofRows rows) service p).value
  | .tcds => fun tcds =>
    { tcds with
      serviceName := some service
      serviceContext := some context
      globalTtsStates :=
        takeOutputs tcds.globalTtsStates (globalOutputs (Channels.ofRows rows) service) }
  | _ => fun e => e

namespace Route

/-- What the given matches of rows come to. -/
def gives (kind : Kind) (rows : List Row) : Option (List RowMatch) → Effect
  | none => .none
  | some ms => .give kind ((Outcome.ofRows ms).given rows)

/-- What a route does to the entities of a graph. -/
def effect (session : Session) (g : Graph) (kind : Kind) (rows : List Row) (r : Route) : Effect :=
  match r with
  | problemLists => Effect.clearing.andThen (gives kind rows (problemLists.matches? session g rows))
  | ttsChannels =>
    match session.tcds? with
    | none => .none
    | some (service, context) => .channels service context rows
  | r => gives kind rows (r.matches? session g rows)

/-- The rows that a route counts. -/
def tally? (session : Session) (g : Graph) (rows : List Row) (r : Route) : Option RowTally :=
  match r with
  | ttsChannels => session.tcds?.map fun _ => {}
  | r => (r.matches? session g rows).map fun ms =>
    { resolved := (Outcome.ofRows ms).resolvedRows
      missed := if r = .problemLists then [] else (Outcome.ofRows ms).missedRows }

/-- What a route records besides the rows that it counts. -/
def counts (session : Session) (g : Graph) (kind : Kind) (rows : List Row) (r : Route) :
    MatchCounts :=
  match r with
  | ttsChannels =>
    match applyTtsChannels g session rows with
    | none => 0
    | some result => .ofRows result.matched result.unmatched + .ofFailures result.failed
  | r =>
    match r.matches? session g rows with
    | none => 0
    | some ms =>
      let o := Outcome.ofRows ms
      (if r = .problemLists then .ofListEntries o.matched o.unmatched else 0) +
        .ofFailures (o.refusals g kind rows)

end Route

/-- The tally of some routes and that of one more. -/
def addTally (tally? next? : Option RowTally) : Option RowTally :=
  match next? with
  | none => tally?
  | some next => some ((tally?.getD {}).add next)

/-! ## One route -/

section OneRoute

variable (session : Session) (kind : Kind) (rows : List Row)

/-- What comes of a flashlist after one more route, apart from what is said. -/
structure Dispatched.After (d d' : Dispatched) (effect : Effect) (tally? : Option RowTally)
    (counts : MatchCounts) : Prop where
  graph : d'.graph = d.graph.apply effect
  tally : d'.tally = addTally d.tally tally?
  counts : d'.counts = d.counts + counts

theorem Dispatched.after_self (d : Dispatched) : d.After d .none none 0 where
  graph := d.graph.apply_none.symm
  tally := rfl
  counts := (add_zero _).symm

theorem Dispatched.after_apply (d : Dispatched) (ms : List RowMatch) :
    d.After (d.apply kind rows (.ofRows ms)) (Route.gives kind rows (some ms))
      (some { resolved := (Outcome.ofRows ms).resolvedRows, missed := (Outcome.ofRows ms).missedRows })
      (0 + .ofFailures ((Outcome.ofRows ms).refusals d.graph kind rows)) where
  graph := applyOutcome_graph d.graph _
  tally := rfl
  counts := by
    simp only [Dispatched.apply, applyOutcome_failed]
    rw [← add_assoc]
    rfl

theorem Graph.apply_clearing (g : Graph) :
    g.apply .clearing = { g with feds := g.feds.map Fed.clearProblems } := by
  refine Graph.ext_entities rfl fun s => ?_
  rw [Graph.entities_apply]
  cases s with
  | fed => exact mapIdx_const Fed.clearProblems _
  | _ => exact (mapIdx_const id _).trans (List.map_id _)

theorem Effect.fixed_clearing (s : TargetSort) (n : Nat) (e : s.Entity) :
    s.fixed (Effect.clearing s n e) = s.fixed e := by
  cases s <;> rfl

/-- Only FEDs have flags to clear. -/
theorem Effect.clearing_of_ne {s : TargetSort} (hs : s ≠ .fed) (n : Nat) (e : s.Entity) :
    Effect.clearing s n e = e := by
  cases s <;> first | rfl | exact absurd rfl hs

theorem Graph.skeleton_clearing (g : Graph) : (g.apply .clearing).skeleton = g.skeleton :=
  Graph.skeleton_apply Effect.fixed_clearing

/-- What the table of the TTS channels does to the entities. -/
theorem applyTtsChannels_graph {service context : String}
    (htcds : session.tcds? = some (service, context)) (g : Graph) :
    ∃ result, applyTtsChannels g session rows = some result ∧
      result.graph = g.apply (.channels service context rows) := by
  simp only [applyTtsChannels, htcds, Option.map_some]
  refine ⟨_, rfl, Graph.ext_entities rfl fun s => ?_⟩
  rw [Graph.entities_apply]
  cases s with
  | tcds => rfl
  | ttcPartition =>
    refine List.map_map.trans (mapIdx_const _ _).symm
  | _ => exact ((mapIdx_const id _).trans (List.map_id _)).symm

theorem Dispatched.route_after (d : Dispatched) (r : Route) :
    d.After (d.route session kind rows r) (r.effect session d.graph kind rows)
      (r.tally? session d.graph rows) (r.counts session d.graph kind rows) := by
  cases r with
  | hostname pool => exact d.after_apply kind rows _
  | position finder => exact d.after_apply kind rows _
  | levelZeroDynamic => exact d.after_apply kind rows _
  | levelZeroSubsystems => exact d.after_apply kind rows _
  | problemLists =>
    -- The flags are cleared first; that changes neither who is listed nor who refuses a row.
    let ms := rows.map (byIdLists problemColumns d.graph.indexes.fedsByExpectedId .fed)
    refine ⟨?_, rfl, ?_⟩
    · change (applyOutcome _ kind rows (.ofRows ms)).graph = _
      rw [applyOutcome_graph, ← Graph.apply_clearing, Graph.apply_apply]
      rfl
    · change d.counts + _ + .ofFailures (applyOutcome _ kind rows (.ofRows ms)).failed = _
      rw [applyOutcome_failed, ← Graph.apply_clearing, add_assoc,
        Outcome.refusals_congr (Graph.skeleton_clearing d.graph)]
      rfl
  | evm =>
    by_cases hlength : rows.length = 1
    · simp only [route, Route.effect, Route.tally?, Route.counts, Route.matches?, if_pos hlength]
      exact d.after_apply kind rows _
    · simp only [route, Route.effect, Route.tally?, Route.counts, Route.matches?, if_neg hlength]
      exact ⟨d.after_self.graph, rfl, d.after_self.counts⟩
  | tcdsService =>
    cases htcds : session.tcds? with
    | none =>
      simp only [route, Route.effect, Route.tally?, Route.counts, Route.matches?, htcds]
      exact d.after_self
    | some tcds =>
      simp only [route, Route.effect, Route.tally?, Route.counts, Route.matches?, htcds]
      split
      · exact d.after_apply kind rows _
      · -- A notice is left besides.
        have h := Dispatched.after_apply kind rows
          { d with notices := d.notices ++ [.noServiceRow tcds.1 rows.length] }
          (matchTcdsService tcds.1 rows)
        exact ⟨h.graph, h.tally, h.counts⟩
  | ttsChannels =>
    cases htcds : session.tcds? with
    | none =>
      have hnone : applyTtsChannels d.graph session rows = none := by
        simp only [applyTtsChannels, htcds, Option.map_none]
      simp only [route, Route.effect, Route.tally?, Route.counts, hnone, htcds]
      exact d.after_self
    | some tcds =>
      obtain ⟨result, hresult, hgraph⟩ := applyTtsChannels_graph session rows htcds d.graph
      simp only [route, Route.effect, Route.tally?, Route.counts, hresult, htcds]
      refine ⟨hgraph, ?_, add_assoc _ _ _⟩
      simp [addTally, RowTally.add]

end OneRoute

/-! ## What routes look at -/

section Context

variable (session : Session) (kind : Kind) (rows : List Row)

/-- What a partition uses of a table, and whether it can be read, is fixed. -/
theorem partitionAfter_reset (channels : Channels) (service : String) (p : TtcPartition) :
    (partitionAfter channels service p.reset).used = (partitionAfter channels service p).used ∧
      (partitionAfter channels service p.reset).error = (partitionAfter channels service p).error := by
  unfold partitionAfter
  simp only [TtcPartition.reset]
  cases p.tcds.nullCause with
  | some cause => exact ⟨rfl, rfl⟩
  | none =>
    simp only
    split
    · exact ⟨rfl, rfl⟩
    · exact ⟨rfl, rfl⟩
    · exact ⟨rfl, rfl⟩

/-- What a table of TTS channels counts: the rows that are used, and the partitions and outputs that
    cannot be read. -/
theorem applyTtsChannels_counts {service context : String}
    (htcds : session.tcds? = some (service, context)) (g : Graph) :
    let channels := Channels.ofRows rows
    let partitions := g.ttcPartitions.map (partitionAfter channels service)
    let outputs := globalOutputs channels service
    let used := (partitions.flatMap (·.used) ++ outputs.flatMap (·.2.used)).eraseDups
    ∃ result, applyTtsChannels g session rows = some result ∧
      result.matched = used.length ∧
      result.unmatched = (channels.ofService service).length - used.length ∧
      result.failed
        = partitions.countP (·.error.isSome) + outputs.countP (·.2.error.isSome) := by
  simp only [applyTtsChannels, htcds, Option.map_some]
  refine ⟨_, rfl, rfl, rfl, ?_⟩
  simp only [List.length_filterMap_eq_countP, Option.isSome_map]
  rfl

theorem applyTtsChannels_context (g : Graph) :
    (applyTtsChannels g.context session rows).map (fun r => (r.matched, r.unmatched, r.failed))
      = (applyTtsChannels g session rows).map fun r => (r.matched, r.unmatched, r.failed) := by
  cases htcds : session.tcds? with
  | none => simp only [applyTtsChannels, htcds, Option.map_none]
  | some tcds =>
    obtain ⟨service, context⟩ := tcds
    have hpartitions : g.context.ttcPartitions = g.ttcPartitions.map TtcPartition.reset :=
      g.entities_context .ttcPartition (by decide)
    obtain ⟨r, hr, hmatched, hunmatched, hfailed⟩ :=
      applyTtsChannels_counts session rows htcds g.context
    obtain ⟨r', hr', hmatched', hunmatched', hfailed'⟩ :=
      applyTtsChannels_counts session rows htcds g
    simp only [hpartitions, List.flatMap_map, List.countP_map, Function.comp_def, List.map_map,
      (partitionAfter_reset _ _ _).1, (partitionAfter_reset _ _ _).2]
      at hmatched hunmatched hfailed hmatched' hunmatched' hfailed'
    rw [hr, hr', Option.map_some, Option.map_some, hmatched, hunmatched, hfailed, hmatched',
      hunmatched', hfailed']

namespace Route

variable (g : Graph) (r : Route)

theorem effect_context : r.effect session g.context kind rows = r.effect session g kind rows := by
  cases r with
  | ttsChannels => rfl
  | _ => simp only [effect, matches?_context]

theorem tally?_context : r.tally? session g.context rows = r.tally? session g rows := by
  cases r with
  | ttsChannels => rfl
  | _ => simp only [tally?, matches?_context]

theorem counts_context : r.counts session g.context kind rows = r.counts session g kind rows := by
  cases r with
  | ttsChannels =>
    have hcounts := applyTtsChannels_context session rows g
    simp only [counts]
    cases hctx : applyTtsChannels g.context session rows with
    | none =>
      cases hg : applyTtsChannels g session rows with
      | none => rfl
      | some result => simp [hctx, hg] at hcounts
    | some result =>
      cases hg : applyTtsChannels g session rows with
      | none => simp [hctx, hg] at hcounts
      | some result' =>
        simp only [hctx, hg, Option.map_some, Option.some.injEq, Prod.mk.injEq] at hcounts
        obtain ⟨hmatched, hunmatched, hfailed⟩ := hcounts
        simp only [hmatched, hunmatched, hfailed]
  | _ => simp only [counts, matches?_context, Outcome.refusals_congr g.skeleton_context]

end Route

/-! ## Plans -/

/-- Only tables of readout units take the route of the lists. -/
theorem kind_of_problemLists_mem_plan {kind : Kind} (hplan : .problemLists ∈ plan kind) :
    kind = .ru := by
  cases kind <;> first | rfl | exact absurd hplan (by decide)

/-- Only tables of TTS channels take the route of the channels. -/
theorem kind_of_ttsChannels_mem_plan {kind : Kind} (hplan : .ttsChannels ∈ plan kind) :
    kind = .tcdsTtsChannels := by
  cases kind <;> first | rfl | exact absurd hplan (by decide)

/-! ## Routes one after the other -/

theorem Effect.fixed_gives (matches? : Option (List RowMatch)) (s : TargetSort) (n : Nat)
    (e : s.Entity) : s.fixed (Route.gives kind rows matches? s n e) = s.fixed e := by
  cases matches? with
  | none => rfl
  | some ms => exact Effect.fixed_give _ s n e

theorem partitionAfter_fixed (channels : Channels) (service : String) (p : TtcPartition) :
    (partitionAfter channels service p).value.reset = p.reset := by
  unfold partitionAfter
  cases p.tcds.nullCause with
  | some cause => rfl
  | none =>
    simp only
    split <;> rfl

/-- What a route does is to give rows, after the flags of lists were cleared or not, or to take the
    states of channels. -/
theorem Route.effect_induction {P : Effect → Prop} (g : Graph) (r : Route)
    (hgives : ∀ matches?, P (gives kind rows matches?))
    (hclearing : r = problemLists → ∀ matches?, P (Effect.clearing.andThen (gives kind rows matches?)))
    (hchannels : r = ttsChannels → ∀ service context, P (.channels service context rows)) :
    P (r.effect session g kind rows) := by
  cases r with
  | problemLists => exact hclearing rfl _
  | ttsChannels =>
    unfold effect
    cases session.tcds? with
    | none => exact hgives none
    | some tcds => exact hchannels rfl tcds.1 tcds.2
  | _ =>
    simp only [effect]
    exact hgives _

theorem Route.fixed_effect (g : Graph) (r : Route) (s : TargetSort) (n : Nat) (e : s.Entity) :
    s.fixed (r.effect session g kind rows s n e) = s.fixed e := by
  refine r.effect_induction session kind rows g (P := fun E => s.fixed (E s n e) = s.fixed e) ?_ ?_ ?_
  · intro matches?
    exact Effect.fixed_gives kind rows matches? s n e
  · intro _ matches?
    exact (Effect.fixed_gives kind rows matches? s n _).trans (Effect.fixed_clearing s n e)
  · intro _ service context
    cases s with
    | ttcPartition => exact partitionAfter_fixed _ _ e
    | _ => rfl

/-- Only rows with values of the run change the session. -/
theorem RunInfo.sessionId_take (hkind : kind ≠ .levelZeroDynamic) (row? : Option Row)
    (run : RunInfo) : (TargetSort.run.take kind row? run).sessionId = run.sessionId := by
  have htopics : .runValues ∉ topics kind := by
    cases kind <;> first | decide | exact absurd rfl hkind
  have hspeaks : Speaks .run (topics kind) (TargetSort.run.take kind row?) :=
    TargetSort.take_speaks row?
  have hpart := congrArg RunInfo.sessionId (hspeaks.others .runValues htopics run)
  exact hpart

theorem Route.sessionId_effect (hkind : kind ≠ .levelZeroDynamic) (g h : Graph) (r : Route) :
    (h.apply (r.effect session g kind rows)).sessionId = h.sessionId := by
  have hgives : ∀ matches? : Option (List RowMatch),
      (h.apply (gives kind rows matches?)).sessionId = h.sessionId := by
    intro matches?
    cases matches? with
    | none => rfl
    | some ms => exact RunInfo.sessionId_take kind hkind _ h.run
  refine r.effect_induction session kind rows g
    (P := fun E => (h.apply E).sessionId = h.sessionId) hgives ?_ ?_
  · exact fun _ matches? => hgives matches?
  · exact fun _ service context => rfl

end Context

theorem Dispatched.After.trans {d d' d'' : Dispatched} {a b : Effect} {s t : Option RowTally}
    {m n : MatchCounts} (h : d.After d' a s m) (h' : d'.After d'' b t n) :
    d.After d'' (a.andThen b) (addTally s t) (m + n) where
  graph := by rw [h'.graph, h.graph, Graph.apply_apply]
  tally := by
    rw [h'.tally, h.tally]
    cases t with
    | none => rfl
    | some t =>
      cases s with
      | none =>
        cases d.tally <;> simp [addTally, RowTally.add]
      | some s => simp [addTally, RowTally.add]
  counts := by rw [h'.counts, h.counts, add_assoc]

/-! ## Tables -/

namespace Table

variable (session : Session) (g : Graph) (kind : Kind) (rows : List Row)

/-- What some routes do, one after the other, in a graph with the context of `g`. -/
def effectOn (routes : List Route) : Effect :=
  routes.foldr (fun r effect => (r.effect session g kind rows).andThen effect) .none

/-- The rows that some routes count. -/
def tallyOn? (routes : List Route) : Option RowTally :=
  routes.foldr (fun r tally? => addTally (r.tally? session g rows) tally?) none

/-- What some routes record besides. -/
def countsOn (routes : List Route) : MatchCounts :=
  (routes.map (Route.counts session g kind rows)).sum

/-- What a table of the given kind does to the entities of a graph with the context of `g`. -/
def effect : Effect := effectOn session g kind rows (plan kind)

/-- What is recorded for a table of the given kind. -/
def recorded? : Option MatchCounts :=
  (tallyOn? session g rows (plan kind)).map fun t =>
    t.counts + countsOn session g kind rows (plan kind)

variable {g}

theorem effect_context : effect session g.context kind rows = effect session g kind rows := by
  simp only [effect, effectOn, Route.effect_context]

theorem recorded?_context : recorded? session g.context kind rows = recorded? session g kind rows := by
  simp only [recorded?, tallyOn?, countsOn, Route.tally?_context,
    funext (Route.counts_context session kind rows g)]

theorem effect_congr {h : Graph} (hcontext : g.context = h.context) :
    effect session g kind rows = effect session h kind rows := by
  rw [← effect_context, hcontext, effect_context]

theorem recorded?_congr {h : Graph} (hcontext : g.context = h.context) :
    recorded? session g kind rows = recorded? session h kind rows := by
  rw [← recorded?_context, hcontext, recorded?_context]

theorem fixed_effect (s : TargetSort) (n : Nat) (e : s.Entity) :
    s.fixed (effect session g kind rows s n e) = s.fixed e := by
  unfold effect effectOn
  induction plan kind generalizing e with
  | nil => rfl
  | cons r routes ih => exact (ih _).trans (r.fixed_effect session kind rows g s n e)

theorem skeleton_effect (h : Graph) :
    (h.apply (effect session g kind rows)).skeleton = h.skeleton :=
  Graph.skeleton_apply (fixed_effect session kind rows)

/-- Some routes one after the other, where none of them changes the session. -/
theorem after_foldl_route (hkind : kind ≠ .levelZeroDynamic) (routes : List Route) (d : Dispatched)
    (hcontext : d.graph.context = g.context) :
    d.After (routes.foldl (Dispatched.route session kind rows) d)
      (effectOn session g kind rows routes) (tallyOn? session g rows routes)
      (countsOn session g kind rows routes) := by
  -- The invariant is the context: each route finds the one that the table found.
  induction routes generalizing d with
  | nil => exact d.after_self
  | cons r routes ih =>
    have hroute := d.route_after session kind rows r
    have heffect : r.effect session d.graph kind rows = r.effect session g kind rows := by
      rw [← r.effect_context, hcontext, r.effect_context]
    have htally : r.tally? session d.graph rows = r.tally? session g rows := by
      rw [← r.tally?_context, hcontext, r.tally?_context]
    have hcounts : r.counts session d.graph kind rows = r.counts session g kind rows := by
      rw [← r.counts_context, hcontext, r.counts_context]
    rw [heffect, htally, hcounts] at hroute
    have hskel : (d.route session kind rows r).graph.skeleton = d.graph.skeleton := by
      rw [hroute.graph]
      exact Graph.skeleton_apply (r.fixed_effect session kind rows g)
    have hsession : (d.route session kind rows r).graph.sessionId = d.graph.sessionId := by
      rw [hroute.graph]
      exact r.sessionId_effect session kind rows hkind g d.graph
    exact hroute.trans (ih _ ((Graph.context_congr hskel hsession).trans hcontext))

/-- A table one route after the other. -/
theorem after_plan :
    ({ graph := g } : Dispatched).After
      ((plan kind).foldl (Dispatched.route session kind rows) { graph := g })
      (effect session g kind rows) (tallyOn? session g rows (plan kind))
      (countsOn session g kind rows (plan kind)) := by
  by_cases hkind : kind = .levelZeroDynamic
  · -- This table may change the session, but it has no route after that.
    subst hkind
    exact (Dispatched.route_after session .levelZeroDynamic rows { graph := g } .levelZeroDynamic).trans
      (Dispatched.after_self _)
  · exact after_foldl_route session kind rows hkind (plan kind) { graph := g } rfl

end Table

section Dispatch

variable (session : Session) (g : Graph) {f : Flashlist} {kind : Kind}

theorem dispatch_graph (hkind : f.dispatchKind? = some kind) :
    (dispatch session g f).graph = g.apply (Table.effect session g kind f.rows) := by
  simp only [dispatch, hkind]
  exact (Table.after_plan session kind f.rows).graph

theorem dispatch_recorded? (hkind : f.dispatchKind? = some kind) :
    (dispatch session g f).recorded? = Table.recorded? session g kind f.rows := by
  have hafter := Table.after_plan session kind f.rows (g := g)
  have hcounts := hafter.counts
  rw [show ({ graph := g } : Dispatched).counts = 0 from rfl, zero_add] at hcounts
  have htally : ((plan kind).foldl (Dispatched.route session kind f.rows) { graph := g }).tally
      = Table.tallyOn? session g f.rows (plan kind) := by
    rw [hafter.tally]
    cases Table.tallyOn? session g f.rows (plan kind) <;> rfl
  simp only [dispatch, hkind, Dispatched.recorded?, hcounts, htally, Table.recorded?]

end Dispatch

end DaqMonitor

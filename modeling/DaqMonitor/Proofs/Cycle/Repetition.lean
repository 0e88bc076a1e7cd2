/-
  DaqMonitor.Proofs.Cycle.Repetition

  A cycle that is repeated changes nothing.

  Of three tables of a cycle the first is void if it is the third as well. So
  before all tables of a cycle any of them may come once more, and then all of
  them. What is worked out after the tables hangs on the tables alone, and does not
  speak about what they speak about. The first cycle may change the session; the
  second one finds the session that the first one left, and leaves it.

    * `foldl_foldl_of_absorb` — steps that are void if they come again later.
    * `Graph.raw g` — the graph without what is worked out.
    * `runCycle_runCycle` — the same cycle once more: the same graph, the same counts.
-/
import DaqMonitor.Proofs.Cycle.Tables

namespace DaqMonitor

open Flashlist

/-! ## Steps that come again -/

section Folds

variable {α β : Type} {step : β → α → β} {steps : List α}

/-- A step before others is void if it comes again after them. -/
theorem step_foldl_of_absorb (hagain : ∀ u ∈ steps, ∀ b, step (step b u) u = step b u)
    (habsorb : ∀ u ∈ steps, ∀ w ∈ steps, ∀ b, step (step (step b u) w) u = step (step b w) u)
    {u : α} (hu : u ∈ steps) {others : List α} (hothers : ∀ w ∈ others, w ∈ steps) (b : β) :
    step (others.foldl step (step b u)) u = step (others.foldl step b) u := by
  induction others generalizing b with
  | nil => exact hagain u hu b
  | cons w others ih =>
    have hw : w ∈ steps := hothers w List.mem_cons_self
    have hrest := ih fun w' hw' => hothers w' (List.mem_cons_of_mem w hw')
    -- The step comes once more after `w`, and there the first one is void.
    rw [List.foldl_cons, List.foldl_cons, ← hrest, habsorb u hu w hw, hrest]

/-- Before all steps any one of them is void. -/
theorem foldl_step_of_absorb (hagain : ∀ u ∈ steps, ∀ b, step (step b u) u = step b u)
    (habsorb : ∀ u ∈ steps, ∀ w ∈ steps, ∀ b, step (step (step b u) w) u = step (step b w) u)
    {u : α} (hu : u ∈ steps) (b : β) : steps.foldl step (step b u) = steps.foldl step b := by
  obtain ⟨before, after, hsteps⟩ := List.append_of_mem hu
  have hbefore : ∀ w ∈ before, w ∈ steps := fun w hw => by
    rw [hsteps]
    exact List.mem_append_left _ hw
  have hfold : ∀ b, steps.foldl step b = after.foldl step (step (before.foldl step b) u) := by
    intro b
    rw [hsteps, List.foldl_append, List.foldl_cons]
  rw [hfold, hfold, step_foldl_of_absorb hagain habsorb hu hbefore]

theorem foldl_foldl_of_absorb (hagain : ∀ u ∈ steps, ∀ b, step (step b u) u = step b u)
    (habsorb : ∀ u ∈ steps, ∀ w ∈ steps, ∀ b, step (step (step b u) w) u = step (step b w) u)
    (b : β) : steps.foldl step (steps.foldl step b) = steps.foldl step b := by
  have hsome : ∀ some : List α, (∀ u ∈ some, u ∈ steps) → ∀ b,
      steps.foldl step (some.foldl step b) = steps.foldl step b := by
    intro some
    induction some with
    | nil => exact fun _ _ => rfl
    | cons u some ih =>
      intro hsome b
      rw [List.foldl_cons, ih fun w hw => hsome w (List.mem_cons_of_mem u hw)]
      exact foldl_step_of_absorb hagain habsorb (hsome u List.mem_cons_self) b
  exact hsome steps (fun _ hu => hu) b

end Folds

/-! ## What is worked out -/

/-- A readout unit as if not all of its FEDs were masked. -/
def Ru.unmasked (ru : Ru) : Ru := { ru with state := { ru.state with masked := false } }

/-- Leaves out what is worked out after the tables. -/
def Effect.underived : Effect := fun s _ =>
  match s with
  | .run => fun run => { run with lastUpdate := 0 }
  | .ru => Ru.unmasked
  | _ => fun e => e

theorem Effect.speaks_underived (s : TargetSort) (n : Nat) :
    Speaks s [.derived] (Effect.underived s n) := by
  cases s with
  | run =>
    refine ⟨fun _ => rfl, fun t ht run => ?_, fun t ht run run' _ _ => ?_⟩
    · cases t <;> first | rfl | exact absurd (List.mem_singleton_self _) ht
    · obtain rfl : t = .derived := List.mem_singleton.1 ht
      rfl
  | ru =>
    refine ⟨fun _ => rfl, fun t ht ru => ?_, fun t ht ru ru' hfixed _ => ?_⟩
    · cases t <;> first | rfl | exact absurd (List.mem_singleton_self _) ht
    · obtain rfl : t = .derived := List.mem_singleton.1 ht
      exact hfixed
  | _ => exact .of_eq_self fun _ => rfl

namespace Graph

/-- The graph without what is worked out after the tables, and without the time of the cycle. -/
def raw (g : Graph) : Graph :=
  { g.apply .underived with
    fedBuilderSummary := {}
    buSummary := {}
    subFedBuilders := g.subFedBuilders.map fun s => { s with minTrigger := 0, maxTrigger := 0 } }

section Raw

variable (g : Graph)

/-- What is left out is no matter of tables. -/
theorem raw_apply_table (h : Graph) (session : Session) (kind : Kind) (rows : List Row) :
    (h.apply (Table.effect session g kind rows)).raw
      = h.raw.apply (Table.effect session g kind rows) := by
  have hcomm : (h.apply (Table.effect session g kind rows)).apply .underived
      = (h.apply .underived).apply (Table.effect session g kind rows) := by
    refine Graph.apply_comm fun s n e _ => ?_
    have hdisjoint : ∀ t ∈ topics kind, t ∉ [Topic.derived] := by
      intro t ht hderived
      rw [List.mem_singleton.1 hderived] at ht
      exact derived_not_mem_topics kind ht
    exact (Table.speaks session g kind rows s n).comm (Effect.speaks_underived s n) hdisjoint e
  unfold raw
  rw [hcomm]
  rfl

theorem skeleton_raw : g.raw.skeleton = g.skeleton := by
  have hskel : (g.apply .underived).skeleton = g.skeleton :=
    skeleton_apply fun s n e => (Effect.speaks_underived s n).fixed e
  refine ext_entities ?_ fun s => ?_
  · simp only [skeleton, surroundings, raw, List.map_map]
    rfl
  · rw [← hskel, entities_skeleton, entities_skeleton]
    cases s <;> rfl

theorem raw_feds : g.raw.feds = g.feds := (mapIdx_const id _).trans (List.map_id _)

theorem raw_frls : g.raw.frls = g.frls := (mapIdx_const id _).trans (List.map_id _)

theorem raw_bus : g.raw.bus = g.bus := (mapIdx_const id _).trans (List.map_id _)

theorem raw_rus : g.raw.rus = g.rus.map Ru.unmasked := mapIdx_const _ _

variable {g} {h : Graph}

/-- The FEDs of a sub-FED-builder hang on its cards. -/
theorem subFedBuilderFeds_congr (hfeds : g.feds = h.feds) (hfrls : g.frls = h.frls)
    (hcards : g.subFedBuilders.map (·.frls) = h.subFedBuilders.map (·.frls))
    (id : SubFedBuilderId) : g.subFedBuilderFeds id = h.subFedBuilderFeds id := by
  have hcard : (id.get? g.subFedBuilders).map (·.frls) = (id.get? h.subFedBuilders).map (·.frls) := by
    have hget := congrArg (fun cards : List (List FrlId) => cards[id.toNat]?) hcards
    simpa only [EntityId.get?, List.getElem?_map] using hget
  have hfrlFeds : g.frlFeds = h.frlFeds := by
    funext frl
    simp only [frlFeds, hfeds, hfrls]
  have hfeds' : ∀ k : Graph, k.subFedBuilderFeds id
      = (((id.get? k.subFedBuilders).map (·.frls)).map fun frls => frls.flatMap k.frlFeds).getD [] := by
    intro k
    rw [Option.map_map]
    rfl
  rw [hfeds', hfeds', hcard, hfrlFeds]

/-- So does whether all FEDs of a readout unit are masked. -/
theorem allFedsMasked_congr (hfeds : g.feds = h.feds) (hfrls : g.frls = h.frls)
    (hcards : g.subFedBuilders.map (·.frls) = h.subFedBuilders.map (·.frls))
    (hbuilders : g.fedBuilders = h.fedBuilders) {ru ru' : Ru} (hru : ru.fedBuilder = ru'.fedBuilder) :
    g.allFedsMasked ru = h.allFedsMasked ru' := by
  have hsub : g.subFedBuilderFeds = h.subFedBuilderFeds :=
    funext (subFedBuilderFeds_congr hfeds hfrls hcards)
  simp only [allFedsMasked, fedBuilderFeds, hbuilders, hsub, hru]

variable (g)

/-- Apart from the ranges of event counters the sub-FED-builders are as before. -/
theorem map_withTriggerRanges {α : Type} {f : SubFedBuilder → α}
    (hf : ∀ s counters, f (s.setTriggerRange counters) = f s) :
    g.withTriggerRanges.subFedBuilders.map f = g.subFedBuilders.map f := by
  have hfst : (g.subFedBuilders.zipIdx.map (·.1)).map f = g.subFedBuilders.map f := by
    rw [List.zipIdx_map_fst]
  rw [← hfst, withTriggerRanges, List.map_map, List.map_map]
  refine List.map_congr_left fun s _ => ?_
  exact hf s.1 _

theorem raw_cards : g.raw.subFedBuilders.map (·.frls) = g.subFedBuilders.map (·.frls) :=
  List.map_map

/-- What was worked out before does not count for what is worked out. -/
theorem finish_raw (time : UInt64) : Monitor.finish g.raw time = Monitor.finish g time := by
  -- The ranges of triggers come from the FEDs, the masks of the units from these and the cards.
  have hranges : g.raw.withTriggerRanges.subFedBuilders = g.withTriggerRanges.subFedBuilders := by
    have hfeds : g.raw.subFedBuilderFeds = g.subFedBuilderFeds :=
      funext (subFedBuilderFeds_congr g.raw_feds g.raw_frls g.raw_cards)
    simp only [withTriggerRanges, hfeds]
    simp only [raw, List.zipIdx_map, List.map_map]
    rfl
  have hmasked : ∀ ru : Ru, g.raw.withTriggerRanges.allFedsMasked ru.unmasked
      = g.withTriggerRanges.allFedsMasked ru := by
    intro ru
    have hfeds : g.raw.withTriggerRanges.feds = g.withTriggerRanges.feds := g.raw_feds
    have hfrls : g.raw.withTriggerRanges.frls = g.withTriggerRanges.frls := g.raw_frls
    exact allFedsMasked_congr hfeds hfrls (by rw [hranges]) rfl rfl
  have hrus : g.raw.withTriggerRanges.withMaskedRus.rus = g.withTriggerRanges.withMaskedRus.rus := by
    change g.raw.rus.map _ = g.rus.map _
    rw [raw_rus, List.map_map]
    refine List.map_congr_left fun ru _ => ?_
    simp only [Function.comp_apply, hmasked ru]
    rfl
  have hfinish : ∀ k : Graph, Monitor.finish k time
      = { k with
          subFedBuilders := k.withTriggerRanges.subFedBuilders
          rus := k.withTriggerRanges.withMaskedRus.rus
          fedBuilderSummary := .ofRus k.withTriggerRanges.withMaskedRus.rus
          buSummary := .ofBus k.bus
          run := { k.run with lastUpdate := time } } := fun _ => rfl
  rw [hfinish, hfinish g, hranges, hrus, raw_bus]
  refine ext_entities rfl fun s => ?_
  cases s <;> first | rfl | exact (mapIdx_const id _).trans (List.map_id _)

theorem raw_finish (time : UInt64) : (Monitor.finish g time).raw = g.raw := by
  refine ext_entities ?_ fun s => ?_
  · have hranges := g.map_withTriggerRanges
      (f := fun s => { s with minTrigger := 0, maxTrigger := 0 }) fun _ _ => rfl
    simp only [surroundings, raw]
    exact congrArg (fun subs => { g.surroundings with
      fedBuilderSummary := {}, buSummary := {}, subFedBuilders := subs }) hranges
  · cases s with
    | ru =>
      change (Monitor.finish g time).raw.rus = g.raw.rus
      rw [raw_rus, raw_rus]
      exact List.map_map
    | _ => rfl

theorem skeleton_finish (time : UInt64) : (Monitor.finish g time).skeleton = g.skeleton := by
  rw [← skeleton_raw, raw_finish, skeleton_raw]

end Raw

/-! ## Tables in a row -/

/-- The graph after some tables, for the context of `c`. -/
def afterTables (session : Session) (c : Graph) (ts : List Table) (g : Graph) : Graph :=
  ts.foldl (fun g t => g.apply (Table.effect session c t.kind t.rows)) g

section AfterTables

variable (session : Session) (c : Graph) (ts : List Table) (g : Graph)

theorem afterTables_append (us : List Table) :
    afterTables session c (ts ++ us) g = afterTables session c us (afterTables session c ts g) :=
  List.foldl_append

theorem raw_afterTables :
    (afterTables session c ts g).raw = afterTables session c ts g.raw := by
  induction ts generalizing g with
  | nil => rfl
  | cons t ts ih =>
    unfold afterTables at ih ⊢
    rw [List.foldl_cons, List.foldl_cons, ih, raw_apply_table]

/-- Tables without values of the run leave the session as it is. -/
theorem sessionId_afterTables (hts : ∀ t ∈ ts, t.kind ≠ .levelZeroDynamic) :
    (afterTables session c ts g).sessionId = g.sessionId := by
  induction ts generalizing g with
  | nil => rfl
  | cons t ts ih =>
    unfold afterTables at ih ⊢
    rw [List.foldl_cons, ih _ fun t' ht' => hts t' (List.mem_cons_of_mem t ht'),
      Table.sessionId_effect session t.rows (hts t List.mem_cons_self)]

/-- Among some tables, those of a kind with a running total are one and the same. -/
def SoleTotals (ts : List Table) : Prop :=
  ∀ t ∈ ts, ∀ u ∈ ts, t.kind = u.kind → carriesTotal t.kind = true → t.rows = u.rows

/-- Some tables once more: nothing is changed. -/
theorem afterTables_afterTables (hfeds : c.Addressable .fed) (hsole : SoleTotals ts) :
    afterTables session c ts (afterTables session c ts g) = afterTables session c ts g := by
  refine foldl_foldl_of_absorb ?_ ?_ g
  · exact fun t _ h => Table.apply_again h
  · intro t ht u hu h
    exact Table.apply_absorb (hsole t ht u hu) hfeds h

end AfterTables

end Graph

/-! ## The same cycle once more -/

namespace Monitor

section Counts

variable (c : Graph) (m : Monitor) (ts : List Table)

theorem foldl_taking_graph :
    (ts.foldl (taking c) m).graph = Graph.afterTables m.session c ts m.graph := by
  induction ts generalizing m with
  | nil => rfl
  | cons t ts ih => rw [List.foldl_cons, ih]; rfl

/-- What is recorded for a kind in the course of some tables. -/
def recordedFor (session : Session) (c : Graph) (ts : List Table) (kind : Kind) : MatchCounts :=
  ((ts.filter (·.kind = kind)).map fun t => (Table.recorded? session c t.kind t.rows).getD 0).sum

/-- What the counts grow by in the course of some tables. -/
theorem of_foldl_taking (kind : Kind) :
    (ts.foldl (taking c) m).stats.of kind
      = m.stats.of kind + recordedFor m.session c ts kind := by
  induction ts generalizing m with
  | nil => exact (add_zero _).symm
  | cons t ts ih =>
    rw [List.foldl_cons, ih]
    have hrecord := m.stats.of_record? t.kind (Table.recorded? m.session c t.kind t.rows) kind
    simp only [taking, hrecord, recordedFor]
    by_cases hkind : kind = t.kind
    · simp [hkind, add_assoc]
    · have hne : t.kind ≠ kind := fun h => hkind h.symm
      simp [hkind, hne]

end Counts

section Cycles

variable (m : Monitor) (flashlists : List Flashlist) (time : UInt64)

theorem runCycle_graph :
    (m.runCycle flashlists time).1.graph
      = finish (Graph.afterTables m.session (m.afterRunTables flashlists).graph
          (tables (inOrder flashlists)) m.graph) time := by
  simp only [runCycle]
  rw [dispatchAll_inOrder, foldl_taking_graph]

theorem of_runCycle (kind : Kind) :
    (m.runCycle flashlists time).1.stats.of kind
      = m.stats.of kind + recordedFor m.session (m.afterRunTables flashlists).graph
          (tables (inOrder flashlists)) kind := by
  simp only [runCycle]
  rw [dispatchAll_inOrder, of_foldl_taking]

theorem foldl_taking_session (c : Graph) (ts : List Table) :
    (ts.foldl (taking c) m).session = m.session := by
  induction ts generalizing m with
  | nil => rfl
  | cons t ts ih => rw [List.foldl_cons, ih, taking_session]

theorem runCycle_session : (m.runCycle flashlists time).1.session = m.session := by
  simp only [runCycle]
  rw [dispatchAll_inOrder, foldl_taking_session]

/-- The tables with values of the run leave one graph for all contexts. -/
theorem afterRunTables_graph (c : Graph) :
    (m.afterRunTables flashlists).graph
      = Graph.afterTables m.session c (runTables flashlists) m.graph := by
  rw [afterRunTables, foldl_taking_graph]
  unfold Graph.afterTables
  refine List.foldl_ext _ _ _ fun g t ht => ?_
  rw [kind_of_mem_runTables flashlists ht, Table.effect_runValues]

theorem soleTotals_of_dispatchable
    (hsole : ∀ kind, carriesTotal kind = true → (dispatchable kind flashlists).length ≤ 1) :
    Graph.SoleTotals (tables (inOrder flashlists)) := by
  intro t ht u hu hkind htotal
  have hmem : ∀ t' ∈ tables (inOrder flashlists), t'.kind = t.kind →
      t' ∈ (dispatchable t.kind flashlists).map fun f => (⟨t.kind, f.rows⟩ : Table) := by
    intro t' ht' hkind'
    rw [← dispatchable_inOrder, ← filter_tables]
    exact List.mem_filter.2 ⟨ht', decide_eq_true hkind'⟩
  have hlength := hsole t.kind htotal
  have htmem := hmem t ht rfl
  have humem := hmem u hu hkind.symm
  cases hlist : dispatchable t.kind flashlists with
  | nil => simp [hlist] at htmem
  | cons f rest =>
    obtain rfl : rest = [] := by
      rw [hlist, List.length_cons] at hlength
      exact List.eq_nil_of_length_eq_zero (by omega)
    rw [hlist, List.map_cons, List.map_nil, List.mem_singleton] at htmem humem
    rw [htmem, humem]

/-- After the tables of a cycle, and after those with values of the run alone, the session is the
    same. -/
theorem sessionId_afterTables_inOrder (session : Session) (c g : Graph) :
    (Graph.afterTables session c (tables (inOrder flashlists)) g).sessionId
      = (Graph.afterTables session c (runTables flashlists) g).sessionId := by
  rw [tables_inOrder, Graph.afterTables_append, Graph.sessionId_afterTables]
  exact fun t ht => of_decide_eq_true (List.mem_filter.1 ht).2

theorem afterTables_skeleton (session : Session) (c : Graph) (ts : List Table) (g : Graph) :
    (Graph.afterTables session c ts g).skeleton = g.skeleton := by
  induction ts generalizing g with
  | nil => rfl
  | cons t ts ih =>
    unfold Graph.afterTables at ih ⊢
    rw [List.foldl_cons, ih, Table.skeleton_effect]

section Again

variable {flashlists}
variable (hfeds : m.graph.Addressable .fed)
  (hsole : ∀ kind, carriesTotal kind = true → (dispatchable kind flashlists).length ≤ 1)

include hfeds hsole

/-- But for what is worked out, all tables of a cycle once more, in the context of the first time,
    change nothing. -/
theorem raw_afterTables_again :
    (Graph.afterTables m.session (m.afterRunTables flashlists).graph (tables (inOrder flashlists))
        (m.runCycle flashlists time).1.graph).raw
      = (Graph.afterTables m.session (m.afterRunTables flashlists).graph
          (tables (inOrder flashlists)) m.graph).raw := by
  have hskel := (m.afterRunTables_skeleton flashlists).symm
  rw [runCycle_graph, Graph.raw_afterTables, Graph.raw_finish, ← Graph.raw_afterTables,
    Graph.afterTables_afterTables _ _ _ _ (hfeds.congr hskel)
      (soleTotals_of_dispatchable flashlists hsole)]

/-- The second time the tables find the context of the first time. -/
theorem context_again :
    ((m.runCycle flashlists time).1.afterRunTables flashlists).graph.context
      = (m.afterRunTables flashlists).graph.context := by
  -- The session is no matter of what is worked out, so repeating all tables shows that it stays.
  have hagain := congrArg Graph.sessionId (raw_afterTables_again m time hfeds hsole)
  have hraw : ∀ g : Graph, g.raw.sessionId = g.sessionId := fun _ => rfl
  rw [hraw, hraw, sessionId_afterTables_inOrder, sessionId_afterTables_inOrder,
    ← afterRunTables_graph] at hagain
  have hsecond := afterRunTables_graph (m.runCycle flashlists time).1 flashlists
    (m.afterRunTables flashlists).graph
  rw [runCycle_session] at hsecond
  refine Graph.context_congr ?_ ?_
  · rw [hsecond, afterTables_skeleton, runCycle_graph, Graph.skeleton_finish, afterTables_skeleton,
      afterRunTables, foldl_taking_skeleton]
  · rw [hsecond, hagain]

end Again

end Cycles

/-- The same cycle once more leaves the graph as it is, running totals included, and adds the same
    counts as the first time. That takes no more than one table for each of the two kinds whose rows
    carry a running total, and ids that tell the FEDs apart. -/
theorem runCycle_runCycle (m : Monitor) (flashlists : List Flashlist) (time : UInt64)
    (hfeds : m.graph.Addressable .fed)
    (hferol : (dispatchable .ferolInputStream flashlists).length ≤ 1)
    (hferol40 : (dispatchable .ferol40InputStream flashlists).length ≤ 1) :
    ((m.runCycle flashlists time).1.runCycle flashlists time).1.graph
        = (m.runCycle flashlists time).1.graph ∧
      ∃ added : Kind → MatchCounts, ∀ kind,
        (m.runCycle flashlists time).1.stats.of kind = m.stats.of kind + added kind ∧
        ((m.runCycle flashlists time).1.runCycle flashlists time).1.stats.of kind
          = (m.runCycle flashlists time).1.stats.of kind + added kind := by
  have hsole : ∀ kind, carriesTotal kind = true → (dispatchable kind flashlists).length ≤ 1 := by
    intro kind htotal
    cases kind with
    | ferolInputStream => exact hferol
    | ferol40InputStream => exact hferol40
    | _ => exact absurd htotal (by decide)
  have hcontext := context_again m time hfeds hsole
  constructor
  · -- The second cycle is a run for the context of the first.
    have hraw := raw_afterTables_again m time hfeds hsole
    have hsame : Graph.afterTables m.session
        ((m.runCycle flashlists time).1.afterRunTables flashlists).graph
          = Graph.afterTables m.session (m.afterRunTables flashlists).graph := by
      funext ts g
      unfold Graph.afterTables
      refine List.foldl_ext _ _ _ fun g t _ => ?_
      rw [Table.effect_congr m.session t.kind t.rows hcontext]
    rw [runCycle_graph (m.runCycle flashlists time).1, runCycle_session, hsame, ← Graph.finish_raw,
      hraw, Graph.finish_raw, ← runCycle_graph]
  · refine ⟨recordedFor m.session (m.afterRunTables flashlists).graph
      (tables (inOrder flashlists)), fun kind => ⟨of_runCycle m flashlists time kind, ?_⟩⟩
    have hsame : recordedFor m.session
        ((m.runCycle flashlists time).1.afterRunTables flashlists).graph
          (tables (inOrder flashlists)) kind
        = recordedFor m.session (m.afterRunTables flashlists).graph
          (tables (inOrder flashlists)) kind := by
      simp only [recordedFor, Table.recorded?_congr m.session _ _ hcontext]
    rw [of_runCycle (m.runCycle flashlists time).1, runCycle_session, hsame]

/-- A row of an input stream that comes twice. -/
theorem runCycle_runCycle_stream :
    let graph : Graph :=
      { uid := ⟨1⟩
        frlPcs := [{ uid := ⟨2⟩, hostname := "pc" }]
        frls := [{
          uid := ⟨3⟩, slot := 4, kind := .ferol, subFedBuilder := .ofNat 0, pc := some (.ofNat 0) }]
        feds := [{ uid := ⟨4⟩, id := 7, expectedId := 7, frl := some (.ofNat 0), frlInput := some 0 }] }
    let m : Monitor := { graph := graph, session := {} }
    let flashlists : List Flashlist := [.ofKind .ferolInputStream
      [.object [("context", .text "http://pc:80"), ("slotNumber", .ofNat 4),
        ("streamNumber", .ofNat 0), ("WrongFEDId", .ofNat 0), ("LinkCRCError", .ofNat 0),
        ("FEDCRCError", .ofNat 0), ("TriggerNumber", .ofNat 9), ("EventCounter", .ofNat 9),
        ("timestamp", .text "t"), ("AccBackpressureSecond", .ofNat 1)]]]
    m.graph.Addressable .fed ∧
      (dispatchable .ferolInputStream flashlists).length ≤ 1 ∧
      (dispatchable .ferol40InputStream flashlists).length ≤ 1 ∧
      ((m.runCycle flashlists 5).1.runCycle flashlists 5).1.graph
        = (m.runCycle flashlists 5).1.graph := by
  intro graph m flashlists
  have hfeds : m.graph.Addressable .fed := by decide
  have hferol : (dispatchable .ferolInputStream flashlists).length ≤ 1 := by decide
  have hferol40 : (dispatchable .ferol40InputStream flashlists).length ≤ 1 := by decide
  exact ⟨hfeds, hferol, hferol40, (m.runCycle_runCycle flashlists 5 hfeds hferol hferol40).1⟩

end Monitor

end DaqMonitor

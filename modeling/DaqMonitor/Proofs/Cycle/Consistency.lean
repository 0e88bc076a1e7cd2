/-
  DaqMonitor.Proofs.Cycle.Consistency

  What is worked out after the tables agrees with what they told.

  The ranges of the event counters, the masks of the readout units, the spread of
  the events and the sums are said here over the entities of the graph, by the
  links that lead up from the FEDs. A cycle works them out by lists that lead down
  and in one pass; on a graph whose links agree in both directions that comes to
  the same.

    * `isRange_triggerRange`, `isSpread_eventSpread`, `isTotal_sumCounts` — over
      lists of values.
    * `Graph.Consistent g` — all of it, for a graph.
    * `Monitor.exists_last_cycle` — what is published is what the last cycle left.
    * `Monitor.latest_consistent` — and that is consistent, after any run.
-/
import DaqMonitor.Proofs.Graph.Links
import Mathlib.Algebra.Ring.Nat
import Mathlib.Data.List.Induction
import Mathlib.Order.Bounds.Defs

namespace DaqMonitor

open Flashlist DaqMonitor.Topology

/-! ## Over lists of values -/

instance UInt64.lawfulOrderMax : Std.LawfulOrderMax UInt64 where
  max_eq_or a b := by
    change (if a ≤ b then b else a) = a ∨ (if a ≤ b then b else a) = b
    split
    · exact .inr rfl
    · exact .inl rfl
  max_le_iff a b c := by
    change (if a ≤ b then b else a) ≤ c ↔ a ≤ c ∧ b ≤ c
    split
    · rename_i hab
      exact ⟨fun hbc => ⟨UInt64.le_trans hab hbc, hbc⟩, And.right⟩
    · rename_i hab
      have hba : b ≤ a := (UInt64.le_total a b).resolve_left hab
      exact ⟨fun hac => ⟨hac, UInt64.le_trans hba hac⟩, And.left⟩

/-- The least and the greatest of some values, zeros where there are none. -/
def IsRange (values : Set UInt64) (least greatest : UInt64) : Prop :=
  ((∀ c, c ∉ values) ∧ least = 0 ∧ greatest = 0) ∨ (IsLeast values least ∧ IsGreatest values greatest)

/-- How far the least of some counts that is not zero and the greatest are apart, zero where all are
    zero. -/
def IsSpread (counts : Set UInt64) (spread : UInt64) : Prop :=
  ((∀ c ∈ counts, c = 0) ∧ spread = 0) ∨
    ∃ least greatest, IsLeast {c ∈ counts | c ≠ 0} least ∧ IsGreatest counts greatest ∧
      least ≤ greatest ∧ spread.toNat = greatest.toNat - least.toNat

/-- The sum of some counts, unless it needs more than 64 bits. -/
def IsTotal (counts : List UInt64) (total : UInt64) : Prop :=
  (counts.map (·.toNat)).sum < UInt64.size → total.toNat = (counts.map (·.toNat)).sum

theorem isLeast_foldl_min (c : UInt64) (rest : List UInt64) :
    IsLeast {x | x ∈ c :: rest} (rest.foldl min c) := by
  have hmin : (c :: rest).min? = some (rest.foldl min c) := List.min?_cons'
  obtain ⟨hmem, hle⟩ := List.min?_eq_some_iff.1 hmin
  exact ⟨hmem, fun x hx => hle x hx⟩

theorem isGreatest_foldl_max (c : UInt64) (rest : List UInt64) :
    IsGreatest {x | x ∈ c :: rest} (rest.foldl max c) := by
  have hmax : (c :: rest).max? = some (rest.foldl max c) := List.max?_cons'
  obtain ⟨hmem, hle⟩ := List.max?_eq_some_iff.1 hmax
  exact ⟨hmem, fun x hx => hle x hx⟩

theorem isRange_triggerRange (counters : List UInt64) :
    IsRange {c | c ∈ counters} (SubFedBuilder.triggerRange counters).1
      (SubFedBuilder.triggerRange counters).2 := by
  cases counters with
  | nil => exact .inl ⟨fun _ => List.not_mem_nil, rfl, rfl⟩
  | cons c rest =>
    -- One pass keeps the least and the greatest side by side.
    have hpass : ∀ (l : List UInt64) (a b : UInt64),
        l.foldl (fun range c => (min range.1 c, max range.2 c)) (a, b)
          = (l.foldl min a, l.foldl max b) := by
      intro l
      induction l with
      | nil => exact fun _ _ => rfl
      | cons c l ih => exact fun a b => ih (min a c) (max b c)
    rw [SubFedBuilder.triggerRange, hpass]
    exact .inr ⟨isLeast_foldl_min c rest, isGreatest_foldl_max c rest⟩

theorem isSpread_eventSpread (counts : List UInt64) :
    IsSpread {c | c ∈ counts} (eventSpread counts) := by
  unfold eventSpread
  have hmem : ∀ c, c ∈ counts.filter (· != 0) ↔ c ∈ counts ∧ c ≠ 0 := by simp
  split
  · rename_i hnone
    refine .inl ⟨fun c hc => ?_, rfl⟩
    by_contra hne
    have hcounted := (hmem c).2 ⟨hc, hne⟩
    rw [hnone] at hcounted
    cases hcounted
  · rename_i first rest hsome
    have hleast := isLeast_foldl_min first rest
    have hgreatest := isGreatest_foldl_max first rest
    simp only [← hsome, hmem] at hleast hgreatest
    have hle : rest.foldl min first ≤ rest.foldl max first := hgreatest.2 hleast.1
    refine .inr ⟨_, _, hleast, ⟨hgreatest.1.1, fun c hc => ?_⟩, hle, UInt64.toNat_sub_of_le _ _ hle⟩
    -- A count of zero is below all others.
    by_cases hzero : c = 0
    · rw [hzero]
      exact UInt64.zero_le
    · exact hgreatest.2 ⟨hc, hzero⟩

theorem isTotal_sumCounts (counts : List UInt64) : IsTotal counts (sumCounts counts) := by
  intro hfits
  have hmod : ∀ (l : List UInt64) (a : UInt64), (l.foldl (· + ·) a).toNat
      = (a.toNat + (l.map (·.toNat)).sum) % UInt64.size := by
    intro l
    induction l with
    | nil => exact fun a => (Nat.mod_eq_of_lt a.toNat_lt).symm
    | cons c l ih =>
      intro a
      rw [List.foldl_cons, ih, UInt64.toNat_add, List.map_cons, List.sum_cons]
      simp [Nat.add_assoc]
  rw [sumCounts, hmod, UInt64.toNat_zero, Nat.zero_add, Nat.mod_eq_of_lt hfits]

theorem IsSpread.unique {counts : Set UInt64} {a b : UInt64} (ha : IsSpread counts a)
    (hb : IsSpread counts b) : a = b := by
  rcases ha with ⟨hzeros, rfl⟩ | ⟨least, greatest, hleast, hgreatest, -, hspread⟩
  · rcases hb with ⟨-, rfl⟩ | ⟨least, -, hleast, -⟩
    · rfl
    · exact absurd (hzeros least hleast.1.1) hleast.1.2
  · rcases hb with ⟨hzeros, -⟩ | ⟨least', greatest', hleast', hgreatest', -, hspread'⟩
    · exact absurd (hzeros least hleast.1.1) hleast.1.2
    · obtain rfl : least = least' :=
        UInt64.le_antisymm (hleast.2 hleast'.1) (hleast'.2 hleast.1)
      obtain rfl : greatest = greatest' :=
        UInt64.le_antisymm (hgreatest'.2 hgreatest.1) (hgreatest.2 hgreatest'.1)
      exact UInt64.toNat_inj.1 (hspread.trans hspread'.symm)

/-- The order of the counts does not matter. -/
theorem eventSpread_perm {counts counts' : List UInt64} (h : counts.Perm counts') :
    eventSpread counts = eventSpread counts' := by
  have hsame : {c | c ∈ counts} = {c | c ∈ counts'} := by
    simp only [h.mem_iff]
  have hspread := isSpread_eventSpread counts
  rw [hsame] at hspread
  exact hspread.unique (isSpread_eventSpread counts')

/-! ## Over a graph -/

/-- What is worked out after the tables agrees with the entities of the graph. -/
structure Graph.Consistent (g : Graph) : Prop where
  triggers : ∀ (n : Nat) s, g.subFedBuilders[n]? = some s →
    IsRange {c | ∃ fed ∈ g.feds, g.subFedBuilderOf? fed = some (.ofNat n) ∧
      fed.state.eventCounter = c} s.minTrigger s.maxTrigger
  masks : ∀ ru ∈ g.rus, ru.state.masked = true ↔
    (∃ fed ∈ g.feds, g.fedBuilderOf? fed = some ru.fedBuilder) ∧
      ∀ fed ∈ g.feds, g.fedBuilderOf? fed = some ru.fedBuilder → fed.state.frlMasked = true
  spread : IsSpread {c | ∃ ru ∈ g.rus, ru.state.eventsInRu = c} g.fedBuilderSummary.deltaEvents
  /-- The spread does not hang on the order of the units. -/
  spreadInAnyOrder : ∀ rus, rus.Perm g.rus →
    (FedBuilderSummary.ofRus rus).deltaEvents = g.fedBuilderSummary.deltaEvents
  eventsInRu : IsTotal (g.rus.map (·.state.eventsInRu)) g.fedBuilderSummary.eventsInRu
  fragmentsInRu : IsTotal (g.rus.map (·.state.fragmentsInRu)) g.fedBuilderSummary.fragmentsInRu
  requests : IsTotal (g.rus.map (·.state.requests)) g.fedBuilderSummary.requests
  eventsInBu : IsTotal (g.bus.map (·.state.eventsInBu)) g.buSummary.eventsInBu
  eventsBuilt : IsTotal (g.bus.map (·.state.eventsBuilt)) g.buSummary.eventsBuilt
  numberOfBus : g.bus.length < UInt64.size → g.buSummary.numberOfBus.toNat = g.bus.length

section Finish

variable {g : Graph} (hg : g.Wired) (time : UInt64)

/-- The range of a sub-FED-builder is that of the FEDs down from it. -/
theorem Monitor.exists_of_finish_subFedBuilders {n : Nat} {s : SubFedBuilder}
    (hs : (finish g time).subFedBuilders[n]? = some s) :
    ∃ s₀ : SubFedBuilder, s = s₀.setTriggerRange
      (((finish g time).subFedBuilderFeds (.ofNat n)).map (·.state.eventCounter)) := by
  change (g.withTriggerRanges.subFedBuilders)[n]? = some s at hs
  rw [Graph.withTriggerRanges, List.getElem?_map] at hs
  obtain ⟨⟨s₀, i⟩, hs₀, rfl⟩ := Option.map_eq_some_iff.1 hs
  obtain ⟨-, rfl⟩ : g.subFedBuilders[n]? = some s₀ ∧ n = i := by
    rw [List.getElem?_zipIdx, Option.map_eq_some_iff] at hs₀
    obtain ⟨s₁, hs₁, hpair⟩ := hs₀
    rw [Prod.mk.injEq, Nat.zero_add] at hpair
    exact ⟨hpair.1 ▸ hs₁, hpair.2⟩
  have hcards := g.map_withTriggerRanges (f := (·.frls)) fun _ _ => rfl
  rw [Graph.subFedBuilderFeds_congr (g := finish g time) (h := g) rfl rfl hcards]
  exact ⟨s₀, rfl⟩

include hg

/-- What is worked out on a graph with links in both directions is consistent. -/
theorem Monitor.consistent_finish : (finish g time).Consistent := by
  have hwired : (finish g time).Wired := hg.congr (g.skeleton_finish time).symm
  have hspread := isSpread_eventSpread ((finish g time).rus.map (·.state.eventsInRu))
  refine ⟨fun n s hs => ?_, fun ru hru => ?_, ?_, fun rus hrus => eventSpread_perm (hrus.map _),
    isTotal_sumCounts _, isTotal_sumCounts _, isTotal_sumCounts _, isTotal_sumCounts _,
    isTotal_sumCounts _, fun hfits => UInt64.toNat_ofNat_of_lt hfits⟩
  · obtain ⟨s₀, rfl⟩ := exists_of_finish_subFedBuilders time hs
    have hrange := isRange_triggerRange
      (((finish g time).subFedBuilderFeds (.ofNat n)).map (·.state.eventCounter))
    simp only [List.mem_map, hwired.mem_subFedBuilderFeds, and_assoc] at hrange
    exact hrange
  · have hmasked : ru.state.masked = (finish g time).allFedsMasked ru := by
      obtain ⟨ru₀, -, rfl⟩ := List.mem_map.1 hru
      rfl
    rw [hmasked]
    simp only [Graph.allFedsMasked, Bool.and_eq_true, Bool.not_eq_true',
      List.isEmpty_eq_false_iff_exists_mem, List.all_eq_true, hwired.mem_fedBuilderFeds, and_imp]
  · simp only [List.mem_map] at hspread
    exact hspread

end Finish

/-! ## Over a run -/

namespace Monitor

variable {m : Monitor}

/-- What is published after a run is the graph that its last cycle left. -/
theorem exists_last_cycle (hnew : m.cycles = 0) (operations : List Operation)
    (hcycles : 0 < (m.performAll operations).cycles) :
    ∃ before flashlists time after, operations = before ++ .cycle flashlists time :: after ∧
      (∀ operation ∈ after, operation.time? = none) ∧
      (m.performAll operations).latest
        = some (m.performAll (before ++ [.cycle flashlists time])).graph := by
  -- The last cycle is looked for from the end of the run.
  induction operations using List.reverseRecOn with
  | nil => exact absurd hcycles (hnew ▸ Nat.lt_irrefl 0)
  | append_singleton earlier operation ih =>
    have hstep : m.performAll (earlier ++ [operation])
        = (m.performAll earlier).perform operation := by
      simp only [performAll, List.foldl_append, List.foldl_cons, List.foldl_nil]
    cases hoperation : operation.time? with
    | some _ =>
      cases operation with
      | cycle flashlists time =>
        refine ⟨earlier, flashlists, time, [], rfl, List.forall_mem_nil _, ?_⟩
        rw [hstep]
        rfl
      | _ => cases hoperation
    | none =>
      rw [hstep, cycles_perform _ hoperation] at hcycles
      obtain ⟨before, flashlists, time, after, rfl, hafter, hpublished⟩ := ih hcycles
      refine ⟨before, flashlists, time, after ++ [operation], by simp, ?_, ?_⟩
      · exact List.forall_mem_append.2 ⟨hafter, List.forall_mem_singleton.2 hoperation⟩
      · rw [hstep, latest_perform _ hoperation, hpublished]

/-- A cycle on a graph with links in both directions leaves a consistent one. -/
theorem consistent_runCycle (hm : m.graph.Wired) (flashlists : List Flashlist) (time : UInt64) :
    (m.runCycle flashlists time).1.graph.Consistent := by
  rw [runCycle_graph]
  exact consistent_finish (hm.congr (afterTables_skeleton _ _ _ _).symm) time

/-- Whatever a run consists of, what it has published is the graph that its last cycle left, and
    that graph is consistent. That takes ids that tell the cards apart, and the sub-FED-builders and
    FED builders that they belong to. -/
theorem latest_consistent {spec : Spec} {uids uids' : UidSource} {g : Graph}
    (hbuild : spec.build uids = (.ok g, uids')) (hfrls : g.Addressable .frl)
    (hsubFedBuilders : g.subFedBuilders.length ≤ UInt32.size)
    (hfedBuilders : g.fedBuilders.length ≤ UInt32.size) (session : Session)
    (operations : List Operation) :
    let m : Monitor := { graph := g, session }
    0 < (m.performAll operations).cycles →
      ∃ before flashlists time after, operations = before ++ .cycle flashlists time :: after ∧
        (∀ operation ∈ after, operation.time? = none) ∧
        (m.performAll operations).latest
          = some (m.performAll (before ++ [.cycle flashlists time])).graph ∧
        (m.performAll (before ++ [.cycle flashlists time])).graph.Consistent := by
  intro m hcycles
  have hg := (Spec.asBuilt_of_build hbuild).wired hfrls hsubFedBuilders hfedBuilders
  obtain ⟨before, flashlists, time, after, hoperations, hafter, hlatest⟩ :=
    exists_last_cycle rfl operations hcycles
  have hbefore : (m.performAll before).graph.Wired := hg.congr (m.skeleton_performAll before).symm
  refine ⟨before, flashlists, time, after, hoperations, hafter, hlatest, ?_⟩
  rw [performAll, List.foldl_append]
  exact consistent_runCycle hbefore flashlists time

/-- Two FEDs on one card, whose counters are 12 and 9; a reset after the cycle publishes nothing. -/
theorem latest_consistent_card :
    let spec : Spec :=
      { ttcPartitions := [{ name := "TK", number := 1 }], frlPcs := ["pc"]
        fedBuilders := [{
          name := "FB", ru := { hostname := "ru-1" }
          subFedBuilders := [{
            name := "SFB", ttcPartition := "TK", frlPc := some "pc"
            frls := [{ slot := 4, feds := [{ id := 7 }, { id := 8, input := 1 }] }] }] }] }
    let g := (spec.build {}).1.toOption.getD { uid := ⟨0⟩ }
    let row (input count : Nat) : Row :=
      .object [("context", .text "http://pc:80"), ("slotNumber", .ofNat 4),
        ("streamNumber", .ofNat input), ("WrongFEDId", .ofNat 0), ("LinkCRCError", .ofNat 0),
        ("FEDCRCError", .ofNat 0), ("TriggerNumber", .ofNat 0), ("EventCounter", .ofNat count),
        ("timestamp", .text "t"), ("AccBackpressureSecond", .ofNat 0)]
    let m : Monitor := { graph := g, session := {} }
    let cycle : Operation := .cycle [.ofKind .ferolInputStream [row 0 12, row 1 9]] 1
    spec.build {} = (.ok g, ⟨10⟩) ∧ g.Addressable .frl ∧
      g.subFedBuilders.length ≤ UInt32.size ∧ g.fedBuilders.length ≤ UInt32.size ∧
      (m.performAll [cycle]).graph.subFedBuilders.map (fun s => (s.minTrigger, s.maxTrigger))
        = [(9, 12)] ∧
      0 < (m.performAll [cycle, .resetAll]).cycles ∧
      (m.performAll [cycle, .resetAll]).latest = some (m.performAll [cycle]).graph ∧
      (m.performAll [cycle]).graph.Consistent := by
  intro spec g row m cycle
  have hbuild : spec.build {} = (.ok g, ⟨10⟩) := by decide +kernel
  have hfrls : g.Addressable .frl := by decide +kernel
  have hsubFedBuilders : g.subFedBuilders.length ≤ UInt32.size := by decide +kernel
  have hfedBuilders : g.fedBuilders.length ≤ UInt32.size := by decide +kernel
  have hrange : (m.performAll [cycle]).graph.subFedBuilders.map
      (fun s => (s.minTrigger, s.maxTrigger)) = [(9, 12)] := by
    simp only [m, cycle, performAll, perform, runCycle, inOrder, List.foldl_cons, List.foldl_nil,
      List.mergeSort_singleton]
    decide +kernel
  have hcycles : 0 < (m.performAll [cycle, .resetAll]).cycles := by
    have hrun : m.performAll [cycle, .resetAll] = (m.performAll [cycle]).perform .resetAll := rfl
    rw [hrun, cycles_perform _ rfl]
    exact Nat.succ_pos _
  refine ⟨hbuild, hfrls, hsubFedBuilders, hfedBuilders, hrange, hcycles, ?_⟩
  obtain ⟨before, flashlists, time, after, hoperations, hafter, hlatest, hconsistent⟩ :=
    latest_consistent hbuild hfrls hsubFedBuilders hfedBuilders {} _ hcycles
  -- There is but one cycle in the run.
  cases before with
  | nil =>
    have hcycle : cycle = .cycle flashlists time := (List.cons.inj hoperations).1
    rw [List.nil_append, ← hcycle] at hlatest hconsistent
    exact ⟨hlatest, hconsistent⟩
  | cons first before =>
    cases before with
    | nil => cases hoperations
    | cons second before => simp at hoperations

end Monitor

end DaqMonitor

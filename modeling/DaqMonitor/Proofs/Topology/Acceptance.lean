/-
  DaqMonitor.Proofs.Topology.Acceptance

  Which descriptions can be assembled, and what is made of them.

  The checks come in the order of the description, between the entities that are
  made, and some only at the end. All together they find out whether the description
  is well-formed: the assembly gives the declared graph of a well-formed one, and of
  any other it says something that is wrong with it.

    * `meets_assemble` — both outcomes of the assembly.
    * `Spec.build_cases` — the same of a build.
    * `Spec.build_accepts_wellFormed` — exactly the well-formed descriptions can be built.
-/
import DaqMonitor.Proofs.Topology.Readout

namespace DaqMonitor

namespace Topology

section Links

theorem map_anonymous_linkFmms (feds : List Fed) (partitions : List TtcPartition)
    (fmms : List Fmm) :
    (linkFmms feds partitions fmms).map .anonymous
      = linkFmms (feds.map .anonymous) (partitions.map .anonymous) (fmms.map .anonymous) := by
  apply List.ext_getElem?
  intro n
  simp only [linkFmms, idsWhere_map, List.getElem?_map, List.getElem?_mapIdx, Option.map_map]
  rfl

theorem map_anonymous_linkSubSystems (partitions : List TtcPartition) (subSystems : List SubSystem) :
    (linkSubSystems partitions subSystems).map .anonymous
      = linkSubSystems (partitions.map .anonymous) (subSystems.map .anonymous) := by
  apply List.ext_getElem?
  intro n
  simp only [linkSubSystems, idsWhere_map, List.getElem?_map, List.getElem?_mapIdx, Option.map_map]
  rfl

end Links

/-! ## The throttling side -/

/-- Entities that are made one after the other, each with a key that none before it has. -/
theorem Makes.forEachAfter {α β γ κ : Type} {make : List α → α → Builder β} {view : β → γ} {f : α → γ}
    {key : α → κ} {Good : α → Prop} {E : BuildError → Prop} {l : List α}
    (hmake : ∀ done x rest, l = done ++ x :: rest → Makes (make done.reverse x)
      (fun b => view b = f x ∧ key x ∉ done.map key ∧ Good x) E) :
    Makes (forEachAfter make [] l)
      (fun bs => bs.map view = l.map f ∧ (l.map key).Nodup ∧ ∀ x ∈ l, Good x) E := by
  intro a
  refine Meets.forEachAfter (fun done bs a' => (∃ uids, a' = { a with uids }) ∧
    bs.map view = done.map f ∧ (done.map key).Nodup ∧ ∀ x ∈ done, Good x) ?_
    ⟨⟨a.uids, rfl⟩, rfl, List.nodup_nil, List.forall_mem_nil _⟩
  rintro done x rest bs _ hl ⟨⟨uids, rfl⟩, hbs, hnodup, hgood⟩
  refine (hmake done x rest hl _).mono ?_
  rintro b _ ⟨⟨uids', rfl⟩, hb, hnew, hx⟩
  refine ⟨⟨uids', rfl⟩, ?_, nodup_map_snoc hnodup hnew,
    List.forall_mem_append.2 ⟨hgood, List.forall_mem_singleton.2 hx⟩⟩
  rw [List.map_append, List.map_append, hbs, List.map_singleton, List.map_singleton, hb]

section Throttling

variable {spec : Spec}

theorem makes_newSubSystem {done rest : List SubSystemSpec} {s : SubSystemSpec}
    (hs : spec.subsystems = done ++ s :: rest) :
    Makes (newSubSystem done.reverse s)
      (fun b => b.anonymous = Spec.subSystem s ∧ s.name ∉ done.map (·.name) ∧ True)
      spec.Violation := by
  -- A subsystem has nothing but its name.
  have hname : s.name ∈ done.map (·.name) ↔ done.reverse.contains s = true := by
    rw [List.contains_iff_mem, List.mem_reverse, List.mem_map]
    constructor
    · rintro ⟨⟨_⟩, hmem, rfl⟩
      exact hmem
    · exact fun hmem => ⟨s, hmem, rfl⟩
  unfold newSubSystem
  refine .check (fun htwice => .subsystemTwice ?_) fun hnew => .newUid fun uid => ?_
  · rw [hs, List.map_append, List.map_cons]
    exact duplicate_of_mem rfl (hname.2 htwice)
  · exact .pure ⟨rfl, mt hname.1 hnew, trivial⟩

theorem makes_newFmmApplication {done rest : List String} {hostname : String}
    (hl : spec.fmmApplications = done ++ hostname :: rest) :
    Makes (newFmmApplication done.reverse hostname)
      (fun b => b.anonymous = Spec.fmmApplication hostname ∧ hostname ∉ done.map id ∧ True)
      spec.Violation := by
  unfold newFmmApplication
  simp only [List.contains_iff_mem, List.mem_reverse, List.map_id]
  refine .check (fun htwice => .applicationTwice (duplicate_of_mem hl htwice)) fun hnew => ?_
  exact .newUid fun uid => .pure ⟨rfl, hnew, trivial⟩

theorem makes_newFmm {done rest : List FmmSpec} {f : FmmSpec} (hf : spec.fmms = done ++ f :: rest) :
    Makes (spec.newFmm done.reverse f)
      (fun b => b.anonymous = spec.fmm f ∧ f.ref ∉ done.map (·.ref) ∧
        f.application ∈ spec.fmmApplications)
      spec.Violation := by
  have hmem : f ∈ spec.fmms := by simp [hf]
  unfold Spec.newFmm
  simp only [List.contains_iff_mem, List.map_reverse, List.mem_reverse]
  refine .bind (.lookUp fun hundeclared => .applicationOfFmm hmem hundeclared) ?_
  rintro application ⟨happlication, rfl⟩
  refine .check (fun htwice => .fmmTwice ?_) fun hnew => .newUid fun uid => ?_
  · rw [Spec.fmmKeys, hf, List.map_append, List.map_cons]
    exact duplicate_of_mem rfl htwice
  · exact .pure ⟨rfl, hnew, happlication⟩

/-- What a partition refers to is declared. -/
structure Spec.PartitionFits (spec : Spec) (p : TtcPartitionSpec) : Prop where
  fmm : ∀ r, p.fmm = some r → r ∈ spec.fmms.map (·.ref)
  subsystem : ∀ name, p.subsystem = some name → name ∈ spec.subsystems.map (·.name)

theorem makes_newTtcPartition {done rest : List TtcPartitionSpec} {p : TtcPartitionSpec}
    (hp : spec.ttcPartitions = done ++ p :: rest) :
    Makes (spec.newTtcPartition done.reverse p)
      (fun b => b.anonymous = spec.ttcPartition p ∧ p.name ∉ done.map (·.name) ∧
        spec.PartitionFits p)
      spec.Violation := by
  have hmem : p ∈ spec.ttcPartitions := by simp [hp]
  unfold Spec.newTtcPartition
  simp only [List.contains_iff_mem, List.map_reverse, List.mem_reverse]
  refine .check (fun htwice => .partitionTwice ?_) fun hnew => .newUid fun uid => ?_
  · rw [hp, List.map_append, List.map_cons]
    exact duplicate_of_mem rfl htwice
  refine .bind (.optionMapM fun r hr => .lookUpFmm fun hundeclared =>
    .fmmOfPartition hmem hr hundeclared) ?_
  rintro fmm ⟨hfmm, rfl⟩
  refine .bind (.optionMapM fun name hname => .lookUp fun hundeclared =>
    .subsystemOfPartition hmem hname hundeclared) ?_
  rintro subSystem ⟨hsubsystem, rfl⟩
  refine .pure ⟨?_, hnew, hfmm, hsubsystem⟩
  rw [Spec.ttcPartition]
  cases p.tcds <;> rfl

theorem makes_newFrlPc {done rest : List String} {hostname : String}
    (hl : spec.frlPcs = done ++ hostname :: rest) :
    Makes (newFrlPc done.reverse hostname)
      (fun b => b.anonymous = Spec.frlPc hostname ∧ hostname ∉ done.map id ∧ True)
      spec.Violation := by
  unfold newFrlPc
  simp only [List.contains_iff_mem, List.mem_reverse, List.map_id]
  refine .check (fun htwice => .frlPcTwice (duplicate_of_mem hl htwice)) fun hnew => ?_
  exact .newUid fun uid => .pure ⟨rfl, hnew, trivial⟩

theorem makes_newBu {done rest : List UnitSpec} {u : UnitSpec} (hu : spec.bus = done ++ u :: rest) :
    Makes (newBu done.reverse u)
      (fun b => b.anonymous = Spec.bu u ∧ u.hostname ∉ done.map (·.hostname) ∧ True)
      spec.Violation := by
  unfold newBu
  simp only [List.contains_iff_mem, List.map_reverse, List.mem_reverse]
  refine .check (fun htwice => .buTwice ?_) fun hnew => .newUid fun uid => ?_
  · rw [hu, List.map_append, List.map_cons]
    exact duplicate_of_mem rfl htwice
  · exact .pure ⟨rfl, hnew, trivial⟩

end Throttling

/-! ## The readout as a whole -/

section Readout

variable {spec : Spec} {a : Assembly}

theorem Assembled.nil (spec : Spec) (uids : UidSource) : AssembledSlices spec [] { uids } :=
  ⟨rfl, rfl, rfl, rfl, rfl, List.nodup_nil, List.forall_mem_nil _, List.forall_mem_nil _,
    List.forall_mem_nil _, List.nodup_nil⟩

theorem meets_addFedBuilders (spec : Spec) (uids : UidSource) :
    Meets (forEachAfter spec.addFedBuilder [] spec.fedBuilders) { uids }
      (fun _ a => AssembledSlices spec spec.fedBuilders a) spec.Violation := by
  refine Meets.forEachAfter (fun done _ a => AssembledSlices spec done a) ?_ (.nil spec uids)
  intro done f rest _ a hf hdone
  exact meets_addFedBuilder hf hdone

namespace AssembledSlices

variable (h : AssembledSlices spec spec.fedBuilders a)

include h

/-- The FEDs of the readout are the declared ones, but for the FEDs that they stand for. -/
theorem map_feds : a.feds.map .anonymous = spec.fedsBelow.map spec.unpairedFed := by
  refine h.feds_eq.trans (List.take_of_length_le (Nat.le_of_eq ?_))
  exact (List.length_map _).trans (length_below 0 spec.cards)

theorem map_frls : a.frls.map .anonymous = spec.cardsBelow.mapIdx spec.frl := by
  refine h.frls_eq.trans (List.take_of_length_le (Nat.le_of_eq ?_))
  exact List.length_mapIdx.trans (length_below 0 spec.lines)

theorem map_subFedBuilders :
    a.subFedBuilders.map .anonymous = spec.linesBelow.mapIdx spec.subFedBuilder := by
  refine h.subFedBuilders_eq.trans (List.take_of_length_le (Nat.le_of_eq ?_))
  exact List.length_mapIdx.trans (length_below 0 spec.fedBuilders)

theorem map_fedBuilders : a.fedBuilders.map .anonymous = spec.fedBuilders.mapIdx spec.fedBuilder :=
  h.fedBuilders_eq.trans (List.take_of_length_le (Nat.le_of_eq List.length_mapIdx))

theorem map_rus : a.rus.map .anonymous = spec.fedBuilders.mapIdx Spec.ru :=
  h.rus_eq.trans (List.take_of_length_le (Nat.le_of_eq List.length_mapIdx))

theorem map_id_feds : a.feds.map (·.id) = spec.feds.map (·.id) := by
  have hfeds : spec.feds = spec.feds ++ [] := (List.append_nil _).symm
  rw [spec.feds_eq] at hfeds ⊢
  exact Assembled.map_id_feds h (spec.feds_eq.trans hfeds)

/-- The event managers among the units are those that are declared. -/
theorem evms_eq : (a.rus.filter (·.isEvm)).map (·.hostname) = spec.evms := by
  -- Host and flag of a unit are the declared ones, whatever its position.
  have hpairs : a.rus.map (fun ru => (ru.isEvm, ru.hostname))
      = spec.fedBuilders.map fun f => (f.ru.evm, f.ru.hostname) := by
    have hrus := congrArg (List.map fun ru : Ru => (ru.isEvm, ru.hostname)) h.map_rus
    rw [List.map_map] at hrus
    refine hrus.trans (List.ext_getElem? fun n => ?_)
    simp only [List.getElem?_map, List.getElem?_mapIdx, Option.map_map]
    rfl
  have hhosts := congrArg (fun l => (l.filter (·.1)).map (·.2)) hpairs
  simp only [List.filter_map, List.map_map] at hhosts
  exact hhosts

end AssembledSlices

/-! ## FEDs that stand for others -/

theorem makes_lookUpMainFeds {feds : List Fed} (hids : feds.map (·.id) = spec.feds.map (·.id))
    {f : FedSpec} (hf : f ∈ spec.feds) :
    Makes (lookUpMainFeds feds f)
      (fun ids => (∀ id ∈ f.mainFeds, id ∈ spec.feds.map (·.id)) ∧ ids = f.mainFeds.map spec.fedId)
      spec.Violation := by
  unfold lookUpMainFeds
  rw [hids]
  exact .listMapM fun id hid => .idxOf? fun hundeclared => .mainFed hf hid hundeclared

/-- The declared FEDs with the FEDs that they stand for. -/
theorem map_anonymous_zip {feds : List Fed}
    (h : feds.map .anonymous = spec.fedsBelow.map spec.unpairedFed) :
    ((feds.zip (spec.feds.map fun f => f.mainFeds.map spec.fedId)).map
        fun p => { p.1 with mainFeds := p.2 }).map .anonymous
      = spec.fedsBelow.map spec.fed := by
  have hself : spec.feds = spec.fedsBelow.map (·.self) := by
    rw [spec.feds_eq, Spec.fedsBelow, map_self_below]
  have hzip := congrArg (List.zip · (spec.feds.map fun f => f.mainFeds.map spec.fedId)) h
  rw [hself, List.map_map, List.zip_map', List.zip_map_left] at hzip
  have hfeds := congrArg (List.map fun p : Fed × List FedId => { p.1 with mainFeds := p.2 }) hzip
  rw [List.map_map, List.map_map] at hfeds
  rw [hself, List.map_map, List.map_map]
  exact hfeds

end Readout

/-! ## The whole -/

theorem Spec.not_wellFormed_of_violation {spec : Spec} {e : BuildError} (h : spec.Violation e) :
    ¬ spec.WellFormed := by
  intro hspec
  cases h with
  | subsystemTwice h => exact h.not_nodup hspec.subsystems
  | applicationTwice h => exact h.not_nodup hspec.fmmApplications
  | fmmTwice h => exact h.not_nodup hspec.fmms
  | partitionTwice h => exact h.not_nodup hspec.ttcPartitions
  | frlPcTwice h => exact h.not_nodup hspec.frlPcs
  | buTwice h => exact h.not_nodup hspec.bus
  | ruTwice h => exact h.not_nodup hspec.rus
  | fedTwice h => exact h.not_nodup hspec.feds
  | applicationOfFmm h hundeclared => exact hundeclared (hspec.application_of_fmm _ h)
  | fmmOfPartition h href hundeclared => exact hundeclared (hspec.fmm_of_partition _ h _ href)
  | subsystemOfPartition h href hundeclared =>
    exact hundeclared (hspec.subsystem_of_partition _ h _ href)
  | partitionOfLine h hundeclared => exact hundeclared (hspec.partition_of_line _ h)
  | frlPcOfLine h href hundeclared => exact hundeclared (hspec.frlPc_of_line _ h _ href)
  | fmmOfFed h href hundeclared => exact hundeclared (hspec.fmm_of_fed _ h _ href)
  | mainFed h href hundeclared => exact hundeclared (hspec.mainFeds _ h _ href)
  | @inputOutOfRange c f h hf hrange =>
    rcases hrange with ⟨hkind, hlast⟩ | ⟨hkind, hlast⟩
    · exact UInt8.not_lt.2 (hspec.input_of_ferol c h hkind f hf) hlast
    · exact UInt8.not_lt.2 (hspec.input_of_ferol40 c h hkind f hf) hlast
  | inputTaken h hf htaken =>
    have hnodup := hspec.inputs _ h
    rw [hf, List.map_append, List.map_cons] at hnodup
    exact (duplicate_of_mem rfl htaken).not_nodup hnodup
  | multipleEvms h =>
    have hevm := hspec.evm
    rw [List.countP_eq_length_filter] at hevm
    rw [Spec.evms, List.length_map] at h
    omega

/-- The assembly either finds something wrong or gives the declared graph, and the description is
    well-formed. -/
theorem meets_assemble (spec : Spec) (uids : UidSource) :
    Meets spec.assemble { uids } (fun g _ => spec.WellFormed ∧ g.anonymous = spec.declared)
      spec.Violation := by
  unfold Spec.assemble
  refine Meets.newUid fun uid uids₁ => ?_
  refine Meets.after (.forEachAfter fun _ _ _ => makes_newSubSystem) ?_
  rintro subSystems uids₂ ⟨hsubSystems, hsubSystemNames, -⟩
  refine Meets.after (.forEachAfter fun _ _ _ => makes_newFmmApplication) ?_
  rintro fmmApplications uids₃ ⟨hfmmApplications, hfmmApplicationNames, -⟩
  refine Meets.after (.forEachAfter fun _ _ _ => makes_newFmm) ?_
  rintro fmms uids₄ ⟨hfmms, hfmmRefs, happlication_of_fmm⟩
  refine Meets.after (.forEachAfter fun _ _ _ => makes_newTtcPartition) ?_
  rintro ttcPartitions uids₅ ⟨hpartitions, hpartitionNames, hpartitions_fit⟩
  refine Meets.after (.forEachAfter fun _ _ _ => makes_newFrlPc) ?_
  rintro frlPcs uids₆ ⟨hfrlPcs, hfrlPcNames, -⟩
  refine Meets.after (.forEachAfter fun _ _ _ => makes_newBu) ?_
  rintro bus uids₇ ⟨hbus, hbuNames, -⟩
  refine Meets.bind (meets_addFedBuilders spec uids₇) fun _ readout hreadout => Meets.get ?_
  rw [hreadout.evms_eq]
  refine Meets.check (fun hevms => .multipleEvms hevms) fun hevms => ?_
  refine Meets.after (.listMapM fun f hf => makes_lookUpMainFeds hreadout.map_id_feds hf) ?_
  rintro mainFeds uids₈ ⟨hmainFeds, rfl⟩
  -- All checks have been passed; the links of the throttling side are read off the entities.
  refine Meets.pure ⟨?_, ?_⟩
  · have hcard := fun c hc => (hreadout.cards_fit c hc).le
    have hevm : spec.fedBuilders.countP (·.ru.evm) ≤ 1 := by
      rw [List.countP_eq_length_filter, ← List.length_map (·.ru.hostname)]
      exact Nat.not_lt.1 hevms
    refine ⟨hsubSystemNames, ?_, hfmmRefs, hpartitionNames, ?_, hbuNames, hreadout.hostnames, ?_,
      happlication_of_fmm, fun p hp => (hpartitions_fit p hp).fmm,
      fun p hp => (hpartitions_fit p hp).subsystem, fun s hs => (hreadout.lines_fit s hs).ttcPartition,
      fun s hs => (hreadout.lines_fit s hs).frlPc, ?_, hmainFeds,
      fun c hc => (hreadout.cards_fit c hc).nodup, ?_, ?_, hevm⟩
    · rwa [List.map_id] at hfmmApplicationNames
    · rwa [List.map_id] at hfrlPcNames
    · rw [spec.feds_eq]
      exact hreadout.fedIds
    · rw [spec.feds_eq]
      exact hreadout.feds_fit
    · intro c hc hkind f hf
      have hle := hcard c hc f hf
      rwa [hkind] at hle
    · intro c hc hkind f hf
      have hle := hcard c hc f hf
      rwa [hkind] at hle
  · rw [Graph.anonymous_indexed, Spec.declared]
    refine congrArg Graph.indexed ?_
    simp only [Graph.anonymous, map_anonymous_linkFmms, map_anonymous_linkSubSystems, hsubSystems,
      hfmmApplications, hfmms, hpartitions, hfrlPcs, hbus, hreadout.map_fedBuilders,
      hreadout.map_subFedBuilders, hreadout.map_frls, hreadout.map_rus,
      map_anonymous_zip hreadout.map_feds]

namespace Spec

/-- A build either gives the declared graph of a well-formed description or says what is wrong. -/
theorem build_cases (spec : Spec) (uids : UidSource) :
    (∃ g uids', spec.build uids = (.ok g, uids') ∧ spec.WellFormed ∧ g.anonymous = spec.declared) ∨
      ∃ e uids', spec.build uids = (.error e, uids') ∧ spec.Violation e := by
  have h := meets_assemble spec uids
  unfold Meets at h
  unfold build EStateM.run
  cases hrun : spec.assemble { uids } with
  | ok g a =>
    rw [hrun] at h
    exact .inl ⟨g, a.uids, rfl, h⟩
  | error e a =>
    rw [hrun] at h
    exact .inr ⟨e, a.uids, rfl, h⟩

theorem declared_of_build {spec : Spec} {uids uids' : UidSource} {g : Graph}
    (h : spec.build uids = (.ok g, uids')) : spec.WellFormed ∧ g.anonymous = spec.declared := by
  rcases spec.build_cases uids with ⟨g', _, hbuild, hg⟩ | ⟨e, _, hbuild, -⟩
  · rw [hbuild, Prod.mk.injEq] at h
    rw [← Except.ok.inj h.1]
    exact hg
  · rw [hbuild, Prod.mk.injEq] at h
    cases h.1

/-- Exactly the well-formed descriptions can be built. An error says something that is wrong with the
    description, and a graph has, but for the uids, the entities that are declared: one for each, in
    the order of the description, with the declared values. -/
theorem build_accepts_wellFormed (spec : Spec) (uids : UidSource) :
    ((∃ g, (spec.build uids).1 = .ok g) ↔ spec.WellFormed) ∧
      (∀ e, (spec.build uids).1 = .error e → spec.Violation e) ∧
      ∀ g, (spec.build uids).1 = .ok g → g.anonymous = spec.declared := by
  rcases spec.build_cases uids with ⟨g, uids', hbuild, hspec, hg⟩ | ⟨e, uids', hbuild, he⟩
  · rw [hbuild]
    refine ⟨⟨fun _ => hspec, fun _ => ⟨g, rfl⟩⟩, fun e h => (nomatch h), fun g' h => ?_⟩
    rw [← Except.ok.inj h]
    exact hg
  · rw [hbuild]
    refine ⟨⟨fun ⟨g, h⟩ => (nomatch h), fun hspec => ?_⟩, fun e' h => ?_, fun g h => (nomatch h)⟩
    · exact absurd hspec (not_wellFormed_of_violation he)
    · rw [← Except.error.inj h]
      exact he

/-- A card with a pseudo-FED that stands for the FED behind it, and partitions with and without a
    place in the TCDS; the same card with both FEDs in one input; and the same with an FMM that is
    not declared. -/
theorem build_accepts_wellFormed_card :
    let spec (input : UInt8) (slot : UInt32) : Spec :=
      { fmmApplications := ["fmmpc"], fmms := [{ application := "fmmpc", slot := 3 }]
        subsystems := [{ name := "ECAL" }]
        ttcPartitions := [
          { name := "EB+", number := 1, subsystem := some "ECAL", fmm := some ⟨"fmmpc", slot⟩
            tcds := some { pmNumber := 2, iciNumber := 4 } },
          { name := "EB-", number := 2
            tcds := some { pmNumber := 5, iciNumber := 6, nullCause := some "none" } },
          { name := "ES", number := 3 }]
        frlPcs := ["frlpc"]
        fedBuilders := [{
          name := "fb", ru := { hostname := "ru-1", evm := true }
          subFedBuilders := [{
            name := "sfb", ttcPartition := "EB+", frlPc := some "frlpc"
            frls := [{
              slot := 1
              feds := [{ id := 7, mainFeds := [8] }, { id := 8, input, expectedId := some 9 }] }] }] }] }
    (spec 1 3).WellFormed ∧
      (∃ g, ((spec 1 3).build {}).1 = .ok g ∧ g.anonymous = (spec 1 3).declared ∧
        g.feds.map (·.expectedId) = [7, 9] ∧
        g.ttcPartitions.map (·.tcds) = [⟨2, 4, none⟩, ⟨5, 6, some "none"⟩, ⟨0, 0, none⟩]) ∧
      ((spec 0 3).build {}).1 = .error (.inputTaken 8 0) ∧ (spec 0 3).Violation (.inputTaken 8 0) ∧
      ((spec 1 4).build {}).1 = .error (.unknownReference .fmm "fmmpc:4") ∧
      (spec 1 4).Violation (.unknownReference .fmm "fmmpc:4") := by
  intro spec
  obtain ⟨hiff, -, hdeclared⟩ := build_accepts_wellFormed (spec 1 3) {}
  have hvalues : ((spec 1 3).build {}).1.map
      (fun g => (g.feds.map (·.expectedId), g.ttcPartitions.map (·.tcds)))
        = .ok ([7, 9], [⟨2, 4, none⟩, ⟨5, 6, some "none"⟩, ⟨0, 0, none⟩]) := by
    decide +kernel
  obtain ⟨g, hg⟩ : ∃ g, ((spec 1 3).build {}).1 = .ok g := by
    cases hbuild : ((spec 1 3).build {}).1 with
    | ok g => exact ⟨g, rfl⟩
    | error e =>
      rw [hbuild] at hvalues
      cases hvalues
  rw [hg] at hvalues
  obtain ⟨hids, htcds⟩ := Prod.mk.inj (Except.ok.inj hvalues)
  have htaken : ((spec 0 3).build {}).1 = .error (.inputTaken 8 0) := by decide +kernel
  have hunknown : ((spec 1 4).build {}).1 = .error (.unknownReference .fmm "fmmpc:4") := by
    decide +kernel
  exact ⟨hiff.1 ⟨g, hg⟩, ⟨g, hg, hdeclared g hg, hids, htcds⟩, htaken,
    (build_accepts_wellFormed (spec 0 3) {}).2.1 _ htaken, hunknown,
    (build_accepts_wellFormed (spec 1 4) {}).2.1 _ hunknown⟩

end Spec

end Topology

end DaqMonitor

/-
  DaqMonitor.Proofs.Topology.FullyLinked

  How the entities of a built graph are linked.

  A built graph is the declared one but for its uids, and in that one every id is a
  position: that of a name, that of what an entity belongs to, or those of what
  belongs to it. While there are no more entities of a kind than ids, no two positions
  have one id, so all links lead where they should and all links back mirror them.

    * `Graph.InRange g` — every id in the graph stands for an entity of it.
    * `Graph.FullyLinked g` — the links of the graph agree.
    * `Spec.fullyLinked_of_build` — those of a built graph do.
-/
import DaqMonitor.Proofs.Topology.Acceptance
import DaqMonitor.Proofs.Topology.Mirrored
import DaqMonitor.Proofs.Topology.Places

namespace DaqMonitor

open DaqMonitor.Topology

/-! ## Links of a graph -/

namespace Graph

/-- The number of entities of a kind. -/
def count (g : Graph) : Arena → Nat
  | .fed => g.feds.length
  | .frl => g.frls.length
  | .frlPc => g.frlPcs.length
  | .ru => g.rus.length
  | .bu => g.bus.length
  | .fedBuilder => g.fedBuilders.length
  | .subFedBuilder => g.subFedBuilders.length
  | .fmm => g.fmms.length
  | .fmmApplication => g.fmmApplications.length
  | .ttcPartition => g.ttcPartitions.length
  | .subSystem => g.subSystems.length

/-- All that a table finds is there. -/
def TableInRange {κ α : Type} [Ord κ] {arena : Arena} (table : SortedMap κ (EntityId arena))
    (entities : List α) : Prop :=
  ∀ k id, table.find? k = some id → id.InRange entities

/-- Every id in a graph stands for an entity of it. -/
structure InRange (g : Graph) : Prop where
  fedBuilder : ∀ f ∈ g.fedBuilders,
    (∀ id ∈ f.subFedBuilders, id.InRange g.subFedBuilders) ∧ f.ru.InRange g.rus
  ru : ∀ ru ∈ g.rus, ru.fedBuilder.InRange g.fedBuilders
  subFedBuilder : ∀ s ∈ g.subFedBuilders,
    s.fedBuilder.InRange g.fedBuilders ∧ (∀ id ∈ s.frls, id.InRange g.frls) ∧
      s.ttcPartition.InRange g.ttcPartitions ∧ ∀ id, s.frlPc = some id → id.InRange g.frlPcs
  frl : ∀ frl ∈ g.frls,
    frl.subFedBuilder.InRange g.subFedBuilders ∧ (∀ id, frl.pc = some id → id.InRange g.frlPcs) ∧
      TableInRange frl.feds g.feds
  fed : ∀ fed ∈ g.feds,
    (∀ id, fed.frl = some id → id.InRange g.frls) ∧
      (∀ id, fed.fmm = some id → id.InRange g.fmms) ∧ ∀ id ∈ fed.mainFeds, id.InRange g.feds
  fmm : ∀ fmm ∈ g.fmms,
    fmm.application.InRange g.fmmApplications ∧
      (∀ id, fmm.ttcPartition = some id → id.InRange g.ttcPartitions) ∧
      ∀ id ∈ fmm.feds, id.InRange g.feds
  ttcPartition : ∀ p ∈ g.ttcPartitions,
    (∀ id, p.fmm = some id → id.InRange g.fmms) ∧
      ∀ id, p.subSystem = some id → id.InRange g.subSystems
  subSystem : ∀ s ∈ g.subSystems, ∀ id ∈ s.ttcPartitions, id.InRange g.ttcPartitions
  rusByHostname : TableInRange g.indexes.rusByHostname g.rus
  busByHostname : TableInRange g.indexes.busByHostname g.bus
  frlPcsByHostname : TableInRange g.indexes.frlPcsByHostname g.frlPcs
  fmmApplicationsByHostname : TableInRange g.indexes.fmmApplicationsByHostname g.fmmApplications
  rusByInstance : TableInRange g.indexes.rusByInstance g.rus
  busByInstance : TableInRange g.indexes.busByInstance g.bus
  fedsById : TableInRange g.indexes.fedsById g.feds
  fedsByExpectedId : TableInRange g.indexes.fedsByExpectedId g.feds
  subSystemsByName : TableInRange g.indexes.subSystemsByName g.subSystems

/-- The links of a graph agree. -/
structure FullyLinked (g : Graph) : Prop where
  inRange : g.InRange
  /-- Every card is listed once, by the line that it names. -/
  cards : Mirrored g.subFedBuilders g.frls (·.frls) fun frl => some frl.subFedBuilder
  /-- It is controlled by the computer of that line. -/
  pc_of_card : ∀ frl ∈ g.frls, ∀ s, frl.subFedBuilder.get? g.subFedBuilders = some s →
    frl.pc = s.frlPc
  /-- Every line is listed once, by the slice that it names. -/
  lines : Mirrored g.fedBuilders g.subFedBuilders (·.subFedBuilders) fun s => some s.fedBuilder
  /-- A slice and its readout unit point at each other. -/
  ru_of_slice : ∀ (id : FedBuilderId) f, id.get? g.fedBuilders = some f →
    ∃ ru, f.ru.get? g.rus = some ru ∧ ru.fedBuilder = id
  slice_of_ru : ∀ (id : RuId) ru, id.get? g.rus = some ru →
    ∃ f, ru.fedBuilder.get? g.fedBuilders = some f ∧ f.ru = id
  /-- A card has a FED at an input exactly if the FED names the card and the input. -/
  plugs : ∀ (id : FrlId) frl, id.get? g.frls = some frl → ∀ input fedId,
    frl.feds.find? input = some fedId ↔
      ∃ fed, fedId.get? g.feds = some fed ∧ fed.frl = some id ∧ fed.frlInput = some input
  inputs : ∀ frl ∈ g.frls, ∀ input fedId, frl.feds.find? input = some fedId →
    (frl.kind = .ferol → input ≤ 1) ∧ (frl.kind = .ferol40 → input ≤ 3)
  /-- An FMM lists once each FED that names it, and nothing else. -/
  fmms : Mirrored g.fmms g.feds (·.feds) (·.fmm)
  /-- A subsystem lists once each partition that names it, and nothing else. -/
  subSystems : Mirrored g.subSystems g.ttcPartitions (·.ttcPartitions) (·.subSystem)
  /-- An FMM has the last of the partitions that name it. -/
  partition_of_fmm : ∀ (id : FmmId) fmm, id.get? g.fmms = some fmm → ∀ last : TtcPartitionId,
    fmm.ttcPartition = some last ↔
      ∃ p, last.get? g.ttcPartitions = some p ∧ p.fmm = some id ∧
        ∀ (later : TtcPartitionId) p', last.toNat < later.toNat →
          later.get? g.ttcPartitions = some p' → p'.fmm ≠ some id
  no_partition_of_fmm : ∀ (id : FmmId) fmm, id.get? g.fmms = some fmm →
    (fmm.ttcPartition = none ↔ ∀ p ∈ g.ttcPartitions, p.fmm ≠ some id)
  evm : g.rus.countP (·.isEvm) ≤ 1
  /-- Through all slices together, every FED is read out once. -/
  feds : ((List.range g.fedBuilders.length).flatMap fun n => g.fedBuilderFeds (.ofNat n)).Perm g.feds

end Graph

/-! ## Ids that are positions -/

namespace Topology

section Positions

variable {α β γ : Type} {arena parentArena : Arena}

theorem indexBy_inRange {κ : Type} [Ord κ] [Std.TransOrd κ] [Std.LawfulEqOrd κ] [DecidableEq κ]
    {key : α → Option κ} {entities : List α} (hsize : entities.length ≤ UInt32.size) :
    Graph.TableInRange (indexBy key entities : SortedMap κ (EntityId arena)) entities := by
  intro k id hid
  rw [Matching.find?_indexBy, Option.map_eq_some_iff] at hid
  obtain ⟨n, hn, rfl⟩ := hid
  exact EntityId.inRange_ofNat (List.findIdx?_eq_some_iff_getElem.1 hn).1 hsize

/-- The position of a name is in range if the name is declared. -/
theorem idxOf_inRange [DecidableEq α] {names : List α} {name : α} (h : name ∈ names)
    {entities : List β} (hlength : names.length = entities.length)
    (hsize : entities.length ≤ UInt32.size) :
    (EntityId.ofNat (names.idxOf name) : EntityId arena).InRange entities :=
  EntityId.inRange_ofNat (hlength ▸ List.idxOf_lt_length_of_mem h) hsize

/-- The position of what an element belongs to is in range. -/
theorem position_inRange {children : α → List β} {parents : List α} {b : Below α β}
    (h : b ∈ below children 0 parents) {entities : List γ}
    (hlength : parents.length = entities.length) (hsize : entities.length ≤ UInt32.size) :
    (EntityId.ofNat b.position : EntityId arena).InRange entities :=
  EntityId.inRange_ofNat (hlength ▸ position_lt_of_mem_below h) hsize

/-- What belongs to an element is what names it. -/
theorem childIds_eq_idsWhere {entities : List γ} {bs : List (Below α β)}
    {up : γ → Option (EntityId parentArena)}
    (h : entities.map up = bs.map fun b => some (.ofNat b.position)) {n : Nat}
    (hn : n < UInt32.size) (hpositions : ∀ b ∈ bs, b.position < UInt32.size) :
    (childIds n bs : List (EntityId arena)) = idsWhere (fun c => up c == some (.ofNat n)) entities := by
  have hnames := congrArg (List.map (· == some (EntityId.ofNat n))) h
  rw [List.map_map, List.map_map] at hnames
  refine idsWhere_congr (Eq.trans (List.map_congr_left fun b hb => ?_) hnames.symm)
  -- Two positions have one id only where they are one position.
  by_cases hb' : b.position = n
  · have heq := congrArg (fun m => some (EntityId.ofNat m : EntityId parentArena)) hb'
    exact (beq_iff_eq.2 hb').trans (beq_iff_eq.2 heq).symm
  · have hne : (some (EntityId.ofNat b.position) : Option (EntityId parentArena)) ≠ some (.ofNat n) :=
      fun heq => hb' (EntityId.ofNat_inj (hpositions b hb) hn (Option.some.inj heq))
    exact (beq_eq_false_iff_ne.2 hb').trans (beq_eq_false_iff_ne.2 hne).symm

end Positions

end Topology

/-! ## Links of a declared graph -/

section Links

variable {spec : Spec} {g : Graph} (hg : g.anonymous = spec.declared)

variable (hsize : ∀ arena, g.count arena ≤ UInt32.size)

include hg hsize

theorem fed_inRange (hspec : spec.WellFormed) : ∀ fed ∈ g.feds,
    (∀ id, fed.frl = some id → id.InRange g.frls) ∧
      (∀ id, fed.fmm = some id → id.InRange g.fmms) ∧ ∀ id ∈ fed.mainFeds, id.InRange g.feds := by
  intro fed hfed
  obtain ⟨n, hn⟩ := List.mem_iff_getElem?.1 hfed
  obtain ⟨b, hb, hview⟩ := exists_of_map_eq_map (map_feds_of_declared hg) hn
  have hbelow : b ∈ spec.fedsBelow := List.mem_of_getElem? hb
  have hself : b.self ∈ spec.feds := spec.feds_eq ▸ self_mem_of_mem_below hbelow
  have hfrl : some (.ofNat b.position) = fed.frl := congrArg Fed.frl hview
  have hfmm : (b.self.fmm.map fun r => spec.fmmId ⟨r.application, r.slot⟩) = fed.fmm :=
    congrArg Fed.fmm hview
  have hmain : b.self.mainFeds.map spec.fedId = fed.mainFeds := congrArg Fed.mainFeds hview
  refine ⟨fun id hid => ?_, fun id hid => ?_, fun id hid => ?_⟩
  · obtain rfl := Option.some.inj (hfrl.trans hid)
    exact position_inRange hbelow (length_cards hg) (hsize .frl)
  · obtain ⟨r, hr, rfl⟩ := Option.map_eq_some_iff.1 (hfmm.trans hid)
    refine idxOf_inRange (hspec.fmm_of_fed _ hself r hr) ?_ (hsize .fmm)
    rw [spec.length_fmmKeys, length_fmms hg]
  · rw [← hmain, List.mem_map] at hid
    obtain ⟨main, hmem, rfl⟩ := hid
    refine idxOf_inRange (hspec.mainFeds _ hself main hmem) ?_ (hsize .fed)
    rw [List.length_map, length_feds hg]

theorem subFedBuilder_inRange (hspec : spec.WellFormed) : ∀ s ∈ g.subFedBuilders,
    s.fedBuilder.InRange g.fedBuilders ∧ s.ttcPartition.InRange g.ttcPartitions ∧
      ∀ id, s.frlPc = some id → id.InRange g.frlPcs := by
  intro s hs
  obtain ⟨n, hn⟩ := List.mem_iff_getElem?.1 hs
  obtain ⟨b, hb, hview⟩ := exists_of_map_eq_mapIdx (map_subFedBuilders_of_declared hg) hn
  have hbelow : b ∈ spec.linesBelow := List.mem_of_getElem? hb
  have hself : b.self ∈ spec.lines := self_mem_of_mem_below hbelow
  have hslice : .ofNat b.position = s.fedBuilder := congrArg SubFedBuilder.fedBuilder hview
  have hpartition : spec.ttcPartitionId b.self.ttcPartition = s.ttcPartition :=
    congrArg SubFedBuilder.ttcPartition hview
  have hfrlPc : b.self.frlPc.map spec.frlPcId = s.frlPc := congrArg SubFedBuilder.frlPc hview
  refine ⟨?_, ?_, fun id hid => ?_⟩
  · rw [← hslice]
    exact position_inRange hbelow (length_slices hg) (hsize .fedBuilder)
  · rw [← hpartition]
    refine idxOf_inRange (hspec.partition_of_line _ hself) ?_ (hsize .ttcPartition)
    rw [List.length_map, length_ttcPartitions hg]
  · obtain ⟨hostname, hhost, rfl⟩ := Option.map_eq_some_iff.1 (hfrlPc.trans hid)
    exact idxOf_inRange (hspec.frlPc_of_line _ hself _ hhost) (length_frlPcs hg) (hsize .frlPc)

theorem ttcPartition_inRange (hspec : spec.WellFormed) : ∀ p ∈ g.ttcPartitions,
    (∀ id, p.fmm = some id → id.InRange g.fmms) ∧
      ∀ id, p.subSystem = some id → id.InRange g.subSystems := by
  intro p hp
  obtain ⟨n, hn⟩ := List.mem_iff_getElem?.1 hp
  obtain ⟨b, hb, hview⟩ := exists_of_map_eq_map (map_ttcPartitions_of_declared hg) hn
  have hmem := List.mem_of_getElem? hb
  have hfmm : b.fmm.map spec.fmmId = p.fmm := congrArg TtcPartition.fmm hview
  have hsubSystem : b.subsystem.map spec.subSystemId = p.subSystem :=
    congrArg TtcPartition.subSystem hview
  refine ⟨fun id hid => ?_, fun id hid => ?_⟩
  · obtain ⟨r, hr, rfl⟩ := Option.map_eq_some_iff.1 (hfmm.trans hid)
    refine idxOf_inRange (hspec.fmm_of_partition _ hmem r hr) ?_ (hsize .fmm)
    rw [spec.length_fmmKeys, length_fmms hg]
  · obtain ⟨name, hname, rfl⟩ := Option.map_eq_some_iff.1 (hsubSystem.trans hid)
    refine idxOf_inRange (hspec.subsystem_of_partition _ hmem name hname) ?_ (hsize .subSystem)
    rw [List.length_map, length_subSystems hg]

theorem application_inRange (hspec : spec.WellFormed) :
    ∀ fmm ∈ g.fmms, fmm.application.InRange g.fmmApplications := by
  intro fmm hfmm
  obtain ⟨n, hn⟩ := List.mem_iff_getElem?.1 hfmm
  obtain ⟨b, hb, hview⟩ := exists_of_map_eq_mapIdx (map_fmms_of_declared hg) hn
  rw [List.getElem?_map, Option.map_eq_some_iff] at hb
  obtain ⟨f, hf, rfl⟩ := hb
  have happlication : spec.fmmApplicationId f.application = fmm.application :=
    congrArg Fmm.application hview
  rw [← happlication]
  exact idxOf_inRange (hspec.application_of_fmm f (List.mem_of_getElem? hf))
    (length_fmmApplications hg) (hsize .fmmApplication)

/-! ### Lists that mirror links -/

theorem mirrored_cards :
    Mirrored g.subFedBuilders g.frls (·.frls) fun frl => some frl.subFedBuilder := by
  refine .of_idsWhere (hsize .subFedBuilder) (hsize .frl) (fun n s hn => ?_) fun frl hfrl p hp => ?_
  · obtain ⟨b, -, hview⟩ := exists_of_map_eq_mapIdx (map_subFedBuilders_of_declared hg) hn
    have hlt := (List.getElem?_eq_some_iff.1 hn).1
    have hbound : g.subFedBuilders.length ≤ UInt32.size := hsize .subFedBuilder
    refine (congrArg SubFedBuilder.frls hview).symm.trans
      (childIds_eq_idsWhere (map_subFedBuilder_frls hg) (by omega) fun c hc => ?_)
    have hpos := position_lt_of_mem_below hc
    rw [length_lines hg] at hpos
    omega
  · obtain ⟨n, hn⟩ := List.mem_iff_getElem?.1 hfrl
    obtain ⟨c, hc, hview⟩ := exists_of_map_eq_mapIdx (map_frls_of_declared hg) hn
    obtain rfl := (congrArg Frl.subFedBuilder hview).trans (Option.some.inj hp)
    exact position_inRange (List.mem_of_getElem? hc) (length_lines hg) (hsize .subFedBuilder)

theorem mirrored_lines (hspec : spec.WellFormed) :
    Mirrored g.fedBuilders g.subFedBuilders (·.subFedBuilders) fun s => some s.fedBuilder := by
  refine .of_idsWhere (hsize .fedBuilder) (hsize .subFedBuilder) (fun n f hn => ?_) fun s hs p hp => ?_
  · obtain ⟨b, -, hview⟩ := exists_of_map_eq_mapIdx (map_fedBuilders_of_declared hg) hn
    have hlt := (List.getElem?_eq_some_iff.1 hn).1
    have hbound : g.fedBuilders.length ≤ UInt32.size := hsize .fedBuilder
    refine (congrArg FedBuilder.subFedBuilders hview).symm.trans
      (childIds_eq_idsWhere (map_fedBuilder_subFedBuilders hg) (by omega) fun s hs => ?_)
    have hpos := position_lt_of_mem_below hs
    rw [length_slices hg] at hpos
    omega
  · rw [← Option.some.inj hp]
    exact (subFedBuilder_inRange hg hsize hspec s hs).1

theorem mirrored_fmms (hspec : spec.WellFormed) : Mirrored g.fmms g.feds (·.feds) (·.fmm) := by
  refine .of_idsWhere (hsize .fmm) (hsize .fed) (fun n fmm hn => ?_) fun fed hfed => ?_
  · obtain ⟨b, -, hview⟩ := exists_of_map_eq_mapIdx (map_fmms_of_declared hg) hn
    exact (congrArg Fmm.feds hview).symm.trans
      (idsWhere_map Fed.anonymous (fun fed => fed.fmm == some (.ofNat n)) g.feds)
  · exact (fed_inRange hg hsize hspec fed hfed).2.1

theorem mirrored_subSystems (hspec : spec.WellFormed) :
    Mirrored g.subSystems g.ttcPartitions (·.ttcPartitions) (·.subSystem) := by
  refine .of_idsWhere (hsize .subSystem) (hsize .ttcPartition) (fun n s hn => ?_) fun p hp => ?_
  · obtain ⟨b, -, hview⟩ := exists_of_map_eq_mapIdx (map_subSystems_of_declared hg) hn
    exact (congrArg SubSystem.ttcPartitions hview).symm.trans
      (idsWhere_map TtcPartition.anonymous (fun p => p.subSystem == some (.ofNat n)) g.ttcPartitions)
  · exact (ttcPartition_inRange hg hsize hspec p hp).2

/-! ### FEDs at the inputs of their cards -/

/-- A card has a FED at an input exactly if the FED names the card and the input. -/
theorem find?_frl_feds (hspec : spec.WellFormed) {id : FrlId} {frl : Frl}
    (hfrl : id.get? g.frls = some frl) (input : UInt8) (fedId : FedId) :
    frl.feds.find? input = some fedId ↔
      ∃ fed, fedId.get? g.feds = some fed ∧ fed.frl = some id ∧ fed.frlInput = some input := by
  have hfeds : g.feds.length ≤ UInt32.size := hsize .fed
  have hfrls : g.frls.length ≤ UInt32.size := hsize .frl
  rw [find?_frl_feds_iff hg hspec hfrl]
  constructor
  · rintro ⟨m, b, hb, hpos, rfl, rfl⟩
    have hm : m < g.feds.length := length_fedsBelow hg ▸ (List.getElem?_eq_some_iff.1 hb).1
    obtain ⟨b', hb', hview⟩ := exists_of_map_eq_map (map_feds_of_declared hg)
      (List.getElem?_eq_getElem hm)
    obtain rfl : b = b' := Option.some.inj (hb.symm.trans hb')
    refine ⟨_, EntityId.get?_ofNat hm hfeds, ?_, (congrArg Fed.frlInput hview).symm⟩
    refine (congrArg Fed.frl hview).symm.trans (congrArg some ?_)
    rw [hpos, EntityId.ofNat_toNat]
  · rintro ⟨fed, hfed, hcard, hinput⟩
    obtain ⟨b, hb, hview⟩ := exists_of_map_eq_map (map_feds_of_declared hg) hfed
    have hself := (congrArg Fed.frlInput hview).trans hinput
    have hpos := Option.some.inj ((congrArg Fed.frl hview).trans hcard)
    refine ⟨fedId.toNat, b, hb, ?_, Option.some.inj hself, fedId.ofNat_toNat.symm⟩
    rw [← hpos]
    have hlt := position_lt_of_mem_below (List.mem_of_getElem? hb)
    rw [length_cards hg] at hlt
    exact (EntityId.toNat_ofNat (by omega)).symm

omit hsize in
theorem input_le (hspec : spec.WellFormed) : ∀ frl ∈ g.frls, ∀ input fedId,
    frl.feds.find? input = some fedId →
      (frl.kind = .ferol → input ≤ 1) ∧ (frl.kind = .ferol40 → input ≤ 3) := by
  intro frl hfrl input fedId hfind
  obtain ⟨n, hn⟩ := List.mem_iff_getElem?.1 hfrl
  obtain ⟨c, hc, hview⟩ := exists_of_map_eq_mapIdx (map_frls_of_declared hg) hn
  have hkind : c.self.kind = frl.kind := congrArg Frl.kind hview
  have hcard : c.self ∈ spec.cards := self_mem_of_mem_below (List.mem_of_getElem? hc)
  obtain ⟨m, b, hb, hpos, rfl, -⟩ := (find?_frl_feds_iff hg hspec hn input fedId).1 hfind
  -- The FED belongs to this card.
  obtain ⟨-, hparent, hself⟩ := mem_below (List.mem_of_getElem? hb)
  rw [Nat.sub_zero, hpos] at hparent
  rw [Option.some.inj (hparent.symm.trans (getElem?_flatMap_of_below hc))] at hself
  exact ⟨fun h => hspec.input_of_ferol _ hcard (hkind.trans h) _ hself,
    fun h => hspec.input_of_ferol40 _ hcard (hkind.trans h) _ hself⟩

/-- A card lists once each FED that is plugged into it, and nothing else. -/
theorem mirrored_plugs (hspec : spec.WellFormed) :
    Mirrored g.frls g.feds (·.feds.values) (·.frl) := by
  have hfrls : g.frls.length ≤ UInt32.size := hsize .frl
  refine .of_listed hfrls (fun id frl hfrl fedId => ?_)
    (fun fed hfed => (fed_inRange hg hsize hspec fed hfed).1) fun frl hfrl => ?_
  · rw [SortedMap.mem_values_iff]
    constructor
    · rintro ⟨input, hfind⟩
      obtain ⟨fed, hfed, hcard, -⟩ := (find?_frl_feds hg hsize hspec hfrl input fedId).1 hfind
      exact ⟨fed, hfed, hcard⟩
    · rintro ⟨fed, hfed, hcard⟩
      obtain ⟨b, -, hview⟩ := exists_of_map_eq_map (map_feds_of_declared hg) hfed
      exact ⟨b.self.input, (find?_frl_feds hg hsize hspec hfrl _ fedId).2
        ⟨fed, hfed, hcard, (congrArg Fed.frlInput hview).symm⟩⟩
  · obtain ⟨n, hn, rfl⟩ := List.getElem_of_mem hfrl
    refine List.Nodup.map_on ?_ (List.Nodup.of_map _ (SortedMap.nodup_keys _))
    -- A FED names one input only.
    rintro ⟨input, fedId⟩ hmem ⟨input', _⟩ hmem' rfl
    have hplug := find?_frl_feds hg hsize hspec (EntityId.get?_ofNat hn hfrls)
    obtain ⟨fed, hfed, -, hinput⟩ := (hplug input fedId).1 (SortedMap.mem_entries_iff.1 hmem)
    obtain ⟨fed', hfed', -, hinput'⟩ := (hplug input' fedId).1 (SortedMap.mem_entries_iff.1 hmem')
    obtain rfl : fed = fed' := Option.some.inj (hfed.symm.trans hfed')
    rw [Option.some.inj (hinput.symm.trans hinput')]

/-! ### Other links -/

omit hsize in
theorem fmm_ttcPartition_eq {n : Nat} {fmm : Fmm} (hn : g.fmms[n]? = some fmm) :
    fmm.ttcPartition = (idsWhere (fun p : TtcPartition => p.fmm == some (.ofNat n))
      g.ttcPartitions).getLast? := by
  obtain ⟨b, -, hview⟩ := exists_of_map_eq_mapIdx (map_fmms_of_declared hg) hn
  refine (congrArg Fmm.ttcPartition hview).symm.trans (congrArg List.getLast? ?_)
  exact idsWhere_map TtcPartition.anonymous (fun p => p.fmm == some (.ofNat n)) g.ttcPartitions

/-- The partition of an FMM is the last one that names it. -/
theorem fmm_ttcPartition_iff {id : FmmId} {fmm : Fmm} (hfmm : id.get? g.fmms = some fmm)
    (last : TtcPartitionId) :
    fmm.ttcPartition = some last ↔
      ∃ p, last.get? g.ttcPartitions = some p ∧ p.fmm = some id ∧
        ∀ (later : TtcPartitionId) p', last.toNat < later.toNat →
          later.get? g.ttcPartitions = some p' → p'.fmm ≠ some id := by
  have hbound : g.ttcPartitions.length ≤ UInt32.size := hsize .ttcPartition
  rw [fmm_ttcPartition_eq hg hfmm, getLast?_idsWhere, EntityId.ofNat_toNat]
  constructor
  · rintro ⟨n, p, hn, hp, hlast, rfl⟩
    obtain ⟨hlt, rfl⟩ := List.getElem?_eq_some_iff.1 hn
    refine ⟨_, EntityId.get?_ofNat hlt hbound, beq_iff_eq.1 hp, fun later p' hlater hp' => ?_⟩
    rw [EntityId.toNat_ofNat (by omega)] at hlater
    exact beq_eq_false_iff_ne.1 (hlast later.toNat p' hlater hp')
  · rintro ⟨p, hp, hname, hlast⟩
    refine ⟨last.toNat, p, hp, beq_iff_eq.2 hname, fun m p' hm hp' => ?_, last.ofNat_toNat.symm⟩
    obtain ⟨hlt, rfl⟩ := List.getElem?_eq_some_iff.1 hp'
    refine beq_eq_false_iff_ne.2 (hlast (.ofNat m) _ ?_ (EntityId.get?_ofNat hlt hbound))
    rwa [EntityId.toNat_ofNat (by omega)]

omit hsize in
theorem fmm_ttcPartition_eq_none_iff {id : FmmId} {fmm : Fmm} (hfmm : id.get? g.fmms = some fmm) :
    fmm.ttcPartition = none ↔ ∀ p ∈ g.ttcPartitions, p.fmm ≠ some id := by
  rw [fmm_ttcPartition_eq hg hfmm, List.getLast?_eq_none_iff, List.eq_nil_iff_forall_not_mem,
    EntityId.ofNat_toNat]
  constructor
  · intro hnone p hp hname
    obtain ⟨n, hn⟩ := List.mem_iff_getElem?.1 hp
    exact hnone _ (mem_idsWhere.2 ⟨n, p, hn, beq_iff_eq.2 hname, rfl⟩)
  · intro hnone id' hid'
    obtain ⟨n, p, hn, hname, -⟩ := mem_idsWhere.1 hid'
    exact hnone p (List.mem_of_getElem? hn) (beq_iff_eq.1 hname)

omit hsize in
theorem countP_isEvm_le (hspec : spec.WellFormed) : g.rus.countP (·.isEvm) ≤ 1 := by
  have hflags : g.rus.map (·.isEvm) = spec.fedBuilders.map (·.ru.evm) :=
    map_eq_of_mapIdx (map_rus_of_declared hg) (fun _ => rfl) fun _ _ => rfl
  have hcount := congrArg (List.countP id) hflags
  rw [List.countP_map, List.countP_map] at hcount
  exact Nat.le_trans (Nat.le_of_eq hcount) hspec.evm

/-- A slice and its unit stand in the same place. -/
theorem ru_of_slice {id : FedBuilderId} {f : FedBuilder} (hf : id.get? g.fedBuilders = some f) :
    ∃ ru, f.ru.get? g.rus = some ru ∧ ru.fedBuilder = id := by
  have hbound : g.rus.length ≤ UInt32.size := hsize .ru
  obtain ⟨b, hb, hview⟩ := exists_of_map_eq_mapIdx (map_fedBuilders_of_declared hg) hf
  have hru : .ofNat id.toNat = f.ru := congrArg FedBuilder.ru hview
  have hlt : id.toNat < g.rus.length := length_units hg ▸ (List.getElem?_eq_some_iff.1 hb).1
  obtain ⟨_, -, hunit⟩ := exists_of_map_eq_mapIdx (map_rus_of_declared hg)
    (List.getElem?_eq_getElem hlt)
  refine ⟨_, hru ▸ EntityId.get?_ofNat hlt hbound, ?_⟩
  exact (congrArg Ru.fedBuilder hunit).symm.trans id.ofNat_toNat

theorem slice_of_ru {id : RuId} {ru : Ru} (hru : id.get? g.rus = some ru) :
    ∃ f, ru.fedBuilder.get? g.fedBuilders = some f ∧ f.ru = id := by
  have hbound : g.fedBuilders.length ≤ UInt32.size := hsize .fedBuilder
  obtain ⟨b, hb, hview⟩ := exists_of_map_eq_mapIdx (map_rus_of_declared hg) hru
  have hslice : .ofNat id.toNat = ru.fedBuilder := congrArg Ru.fedBuilder hview
  have hlt : id.toNat < g.fedBuilders.length := length_slices hg ▸ (List.getElem?_eq_some_iff.1 hb).1
  obtain ⟨_, -, hf⟩ := exists_of_map_eq_mapIdx (map_fedBuilders_of_declared hg)
    (List.getElem?_eq_getElem hlt)
  refine ⟨_, hslice ▸ EntityId.get?_ofNat hlt hbound, ?_⟩
  exact (congrArg FedBuilder.ru hf).symm.trans id.ofNat_toNat

theorem pc_of_card : ∀ frl ∈ g.frls, ∀ s, frl.subFedBuilder.get? g.subFedBuilders = some s →
    frl.pc = s.frlPc := by
  intro frl hfrl s hs
  have hbound : g.subFedBuilders.length ≤ UInt32.size := hsize .subFedBuilder
  obtain ⟨n, hn⟩ := List.mem_iff_getElem?.1 hfrl
  obtain ⟨c, s', hc, hview, hs', hpc⟩ := exists_line_of_card hg hn
  have hline : .ofNat c.position = frl.subFedBuilder := congrArg Frl.subFedBuilder hview
  have hlt := (List.getElem?_eq_some_iff.1 hs').1
  rw [← hline, EntityId.get?, EntityId.toNat_ofNat (by omega), hs'] at hs
  rw [← Option.some.inj hs, hpc]
  exact (congrArg Frl.pc hview).symm

/-! ### FEDs on the way down -/

/-- Through all slices together, every FED is read out once. -/
theorem fedBuilderFeds_perm (hspec : spec.WellFormed) :
    ((List.range g.fedBuilders.length).flatMap fun n => g.fedBuilderFeds (.ofNat n)).Perm g.feds := by
  have hnamed : ∀ fed ∈ g.feds, ∃ id, fed.frl = some id := by
    intro fed hfed
    obtain ⟨n, hn⟩ := List.mem_iff_getElem?.1 hfed
    obtain ⟨b, -, hview⟩ := exists_of_map_eq_map (map_feds_of_declared hg) hn
    exact ⟨_, (congrArg Fed.frl hview).symm⟩
  -- From the slices down to the lines, to the cards and to the FEDs.
  have hslices := (mirrored_lines hg hsize hspec).flatMap_perm (hsize .fedBuilder)
    (hsize .subFedBuilder) (fun s _ => ⟨_, rfl⟩) g.subFedBuilderFeds
  have hlines := (mirrored_cards hg hsize).flatMap_perm (hsize .subFedBuilder) (hsize .frl)
    (fun frl _ => ⟨_, rfl⟩) g.frlFeds
  have hcards := (mirrored_plugs hg hsize hspec).flatMap_perm (hsize .frl) (hsize .fed) hnamed
    fun id => (id.get? g.feds).toList
  have hfrlFeds : g.frlFeds = fun id => ((id.get? g.frls).map fun frl =>
      frl.feds.values.flatMap fun id => (id.get? g.feds).toList).getD [] := by
    funext id
    simp only [Graph.frlFeds, List.filterMap_eq_flatMap_toList]
  have hfeds : (idsFrom 0 g.feds.length : List FedId).flatMap (fun id => (id.get? g.feds).toList)
      = g.feds := by
    have hall : (idsFrom 0 g.feds.length : List FedId).flatMap
        (fun id => ((id.get? g.feds).map fun fed => [fed]).getD []) = g.feds.flatMap fun fed => [fed] :=
      flatMap_idsFrom (hsize .fed) _
    rw [List.flatMap_singleton'] at hall
    refine Eq.trans (congrArg (List.flatMap · _) (funext fun id => ?_)) hall
    cases id.get? g.feds <;> rfl
  rw [← hfrlFeds, hfeds] at hcards
  have hrange : (List.range g.fedBuilders.length).flatMap (fun n => g.fedBuilderFeds (.ofNat n))
      = (idsFrom 0 g.fedBuilders.length).flatMap g.fedBuilderFeds := by
    rw [idsFrom, List.flatMap_map, List.range_eq_range']
  rw [hrange]
  exact hslices.trans (hlines.trans hcards)

/-! ### All links -/

theorem inRange_of_declared (hspec : spec.WellFormed) : g.InRange := by
  have hslices := (mirrored_lines hg hsize hspec).inRange (hsize .fedBuilder)
  have hlines := (mirrored_cards hg hsize).inRange (hsize .subFedBuilder)
  have hfmms := (mirrored_fmms hg hsize hspec).inRange (hsize .fmm)
  have hsubSystems := (mirrored_subSystems hg hsize hspec).inRange (hsize .subSystem)
  have hindexes := indexes_eq_makeIndexes hg
  constructor
  case fedBuilder =>
    intro f hf
    obtain ⟨n, hn, rfl⟩ := List.getElem_of_mem hf
    obtain ⟨ru, hru, -⟩ := ru_of_slice hg hsize (EntityId.get?_ofNat hn (hsize .fedBuilder))
    exact ⟨hslices _ hf, EntityId.inRange_of_get? hru⟩
  case ru =>
    intro ru hru
    obtain ⟨n, hn, rfl⟩ := List.getElem_of_mem hru
    obtain ⟨f, hf, -⟩ := slice_of_ru hg hsize (EntityId.get?_ofNat hn (hsize .ru))
    exact EntityId.inRange_of_get? hf
  case subFedBuilder =>
    intro s hs
    obtain ⟨hslice, hpartition, hpc⟩ := subFedBuilder_inRange hg hsize hspec s hs
    exact ⟨hslice, hlines s hs, hpartition, hpc⟩
  case frl =>
    intro frl hfrl
    have hline := (mirrored_cards hg hsize).named frl hfrl _ rfl
    have hpc := pc_of_card hg hsize frl hfrl _ (List.getElem?_eq_getElem hline)
    refine ⟨hline, fun id hid => ?_, fun input fedId hfind => ?_⟩
    · exact (subFedBuilder_inRange hg hsize hspec _ (List.getElem_mem hline)).2.2 id (hpc ▸ hid)
    · obtain ⟨n, hn, rfl⟩ := List.getElem_of_mem hfrl
      obtain ⟨fed, hfed, -⟩ := (find?_frl_feds hg hsize hspec
        (EntityId.get?_ofNat hn (hsize .frl)) input fedId).1 hfind
      exact EntityId.inRange_of_get? hfed
  case fed => exact fed_inRange hg hsize hspec
  case fmm =>
    intro fmm hfmm
    refine ⟨application_inRange hg hsize hspec fmm hfmm, fun id hid => ?_, hfmms fmm hfmm⟩
    obtain ⟨n, hn, rfl⟩ := List.getElem_of_mem hfmm
    obtain ⟨p, hp, -⟩ := (fmm_ttcPartition_iff hg hsize
      (EntityId.get?_ofNat hn (hsize .fmm)) id).1 hid
    exact EntityId.inRange_of_get? hp
  case ttcPartition => exact ttcPartition_inRange hg hsize hspec
  case subSystem => exact hsubSystems
  all_goals
    rw [hindexes]
  case rusByHostname => exact indexBy_inRange (hsize .ru)
  case busByHostname => exact indexBy_inRange (hsize .bu)
  case frlPcsByHostname => exact indexBy_inRange (hsize .frlPc)
  case fmmApplicationsByHostname => exact indexBy_inRange (hsize .fmmApplication)
  case rusByInstance => exact indexBy_inRange (hsize .ru)
  case busByInstance => exact indexBy_inRange (hsize .bu)
  case fedsById => exact indexBy_inRange (hsize .fed)
  case fedsByExpectedId => exact indexBy_inRange (hsize .fed)
  case subSystemsByName => exact indexBy_inRange (hsize .subSystem)

theorem fullyLinked_of_declared (hspec : spec.WellFormed) : g.FullyLinked where
  inRange := inRange_of_declared hg hsize hspec
  cards := mirrored_cards hg hsize
  pc_of_card := pc_of_card hg hsize
  lines := mirrored_lines hg hsize hspec
  ru_of_slice _ _ := ru_of_slice hg hsize
  slice_of_ru _ _ := slice_of_ru hg hsize
  plugs _ _ := find?_frl_feds hg hsize hspec
  inputs := input_le hg hspec
  fmms := mirrored_fmms hg hsize hspec
  subSystems := mirrored_subSystems hg hsize hspec
  partition_of_fmm _ _ := fmm_ttcPartition_iff hg hsize
  no_partition_of_fmm _ _ := fmm_ttcPartition_eq_none_iff hg
  evm := countP_isEvm_le hg hspec
  feds := fedBuilderFeds_perm hg hsize hspec

end Links

/-! ## Built graphs -/

namespace Topology

/-- The links of every graph that is built agree, as long as it has no more entities of a kind than
    there are ids. -/
theorem Spec.fullyLinked_of_build {spec : Spec} {uids uids' : UidSource} {g : Graph}
    (hbuild : spec.build uids = (.ok g, uids')) (hsize : ∀ arena, g.count arena ≤ UInt32.size) :
    g.FullyLinked := by
  obtain ⟨hspec, hg⟩ := declared_of_build hbuild
  exact fullyLinked_of_declared hg hsize hspec

/-- Two slices with a card each, whose FEDs are wired to one FMM; and two partitions that name that
    FMM. -/
theorem Spec.fullyLinked_of_build_two_slices :
    let slice (name : String) (id : UInt32) : FedBuilderSpec :=
      { name, ru := { hostname := name }
        subFedBuilders := [{
          name, ttcPartition := "EB+"
          frls := [{ slot := id, feds := [{ id, fmm := some ⟨"fmmpc", 3, 0⟩ }] }] }] }
    let spec : Spec :=
      { fmmApplications := ["fmmpc"], fmms := [{ application := "fmmpc", slot := 3 }]
        ttcPartitions := [{ name := "EB+", number := 1, fmm := some ⟨"fmmpc", 3⟩ },
          { name := "EB-", number := 2, fmm := some ⟨"fmmpc", 3⟩ }]
        fedBuilders := [slice "ru-1" 7, slice "ru-2" 8] }
    ∃ g uids', spec.build {} = (.ok g, uids') ∧ (∀ arena, g.count arena ≤ UInt32.size) ∧
      g.FullyLinked ∧ g.fmms.map (·.feds) = [[.ofNat 0, .ofNat 1]] ∧
      g.fmms.map (·.ttcPartition) = [some (.ofNat 1)] ∧
      (g.fedBuilderFeds (.ofNat 1)).map (·.id) = [8] := by
  intro slice spec
  let arenas : List Arena :=
    [.fed, .frl, .frlPc, .ru, .bu, .fedBuilder, .subFedBuilder, .fmm, .fmmApplication, .ttcPartition,
      .subSystem]
  have hmade : (spec.build {}).1.map (fun g => (arenas.all fun arena => g.count arena ≤ 2,
      g.fmms.map (·.feds), g.fmms.map (·.ttcPartition), (g.fedBuilderFeds (.ofNat 1)).map (·.id)))
      = .ok (true, [[.ofNat 0, .ofNat 1]], [some (.ofNat 1)], [8]) := by
    decide +kernel
  cases hbuild : spec.build {} with
  | mk result uids' =>
    rw [hbuild] at hmade
    cases result with
    | error e => cases hmade
    | ok g =>
      obtain ⟨hcount, hfeds, hpartition, hread⟩ :
          arenas.all (fun arena => g.count arena ≤ 2) = true ∧ g.fmms.map (·.feds) = _ ∧
            g.fmms.map (·.ttcPartition) = _ ∧ (g.fedBuilderFeds (.ofNat 1)).map (·.id) = _ := by
        simpa only [Except.map, Except.ok.injEq, Prod.mk.injEq] using hmade
      have hsize : ∀ arena, g.count arena ≤ UInt32.size := by
        intro arena
        have hmem : arena ∈ arenas := by cases arena <;> decide
        have hle := of_decide_eq_true (List.all_eq_true.1 hcount arena hmem)
        exact Nat.le_trans hle (by decide)
      exact ⟨g, uids', rfl, hsize, Spec.fullyLinked_of_build hbuild hsize, hfeds, hpartition, hread⟩

end Topology

end DaqMonitor

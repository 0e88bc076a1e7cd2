/-
  DaqMonitor.Proofs.Topology.Declared

  What a description of a topology declares.

  This is said of the description as a whole, without any order of assembly: when it
  is well-formed, what can be wrong with it, and which graph it stands for. In that
  graph the entities of each kind stand in the order of the description, a name stands
  for the position of what it names, and the uids are left open.

    * `Spec.WellFormed spec` — nothing is declared twice, everything that is referred
      to is declared, the inputs of the cards fit, and there is one event manager at
      most.
    * `Spec.Violation spec e` — what the error `e` says is true of the description.
    * `Spec.declared spec` — the graph that the description stands for.
-/
import DaqMonitor.Proofs.Matching.Finding
import DaqMonitor.Proofs.Topology.Positions
import Mathlib.Data.List.Duplicate

namespace DaqMonitor

/-- The inputs that a card does not have. -/
theorem CardKind.lastInput_lt_iff {kind : CardKind} {input : UInt8} :
    kind.lastInput < input ↔ kind = .ferol ∧ 1 < input ∨ kind = .ferol40 ∧ 3 < input := by
  cases kind <;> simp [lastInput]

namespace Topology

namespace Spec

variable (spec : Spec)

/-- All lines of cards. -/
def lines : List SubFedBuilderSpec := spec.fedBuilders.flatMap (·.subFedBuilders)

/-- All cards. -/
def cards : List FrlSpec := spec.lines.flatMap (·.frls)

theorem feds_eq : spec.feds = spec.cards.flatMap (·.feds) := by
  simp only [feds, cards, lines, List.flatMap_assoc]
  rfl

/-- All lines with their slices. -/
def linesBelow : List (Below FedBuilderSpec SubFedBuilderSpec) :=
  below (·.subFedBuilders) 0 spec.fedBuilders

/-- All cards with their lines. -/
def cardsBelow : List (Below SubFedBuilderSpec FrlSpec) := below (·.frls) 0 spec.lines

/-- All FEDs with their cards. -/
def fedsBelow : List (Below FrlSpec FedSpec) := below (·.feds) 0 spec.cards

/-- What the FMMs are told apart by: the applications that drive them, and their slots. -/
def fmmKeys : List FmmRef :=
  spec.fmms.map fun f => { application := f.application, slot := f.slot }

theorem length_fmmKeys : spec.fmmKeys.length = spec.fmms.length := List.length_map _

/-! ## Well-formed descriptions -/

/-- A description that can be assembled. -/
structure WellFormed : Prop where
  subsystems : (spec.subsystems.map (·.name)).Nodup
  fmmApplications : spec.fmmApplications.Nodup
  fmms : spec.fmmKeys.Nodup
  ttcPartitions : (spec.ttcPartitions.map (·.name)).Nodup
  frlPcs : spec.frlPcs.Nodup
  bus : (spec.bus.map (·.hostname)).Nodup
  rus : (spec.fedBuilders.map (·.ru.hostname)).Nodup
  feds : (spec.feds.map (·.id)).Nodup
  /-- The application that drives an FMM is declared. -/
  application_of_fmm : ∀ f ∈ spec.fmms, f.application ∈ spec.fmmApplications
  fmm_of_partition : ∀ p ∈ spec.ttcPartitions, ∀ r, p.fmm = some r → r ∈ spec.fmmKeys
  subsystem_of_partition : ∀ p ∈ spec.ttcPartitions, ∀ name, p.subsystem = some name →
    name ∈ spec.subsystems.map (·.name)
  partition_of_line : ∀ s ∈ spec.lines, s.ttcPartition ∈ spec.ttcPartitions.map (·.name)
  frlPc_of_line : ∀ s ∈ spec.lines, ∀ hostname, s.frlPc = some hostname → hostname ∈ spec.frlPcs
  fmm_of_fed : ∀ f ∈ spec.feds, ∀ r, f.fmm = some r → ⟨r.application, r.slot⟩ ∈ spec.fmmKeys
  mainFeds : ∀ f ∈ spec.feds, ∀ id ∈ f.mainFeds, id ∈ spec.feds.map (·.id)
  /-- No two FEDs are plugged into one input. -/
  inputs : ∀ c ∈ spec.cards, (c.feds.map (·.input)).Nodup
  input_of_ferol : ∀ c ∈ spec.cards, c.kind = .ferol → ∀ f ∈ c.feds, f.input ≤ 1
  input_of_ferol40 : ∀ c ∈ spec.cards, c.kind = .ferol40 → ∀ f ∈ c.feds, f.input ≤ 3
  evm : spec.fedBuilders.countP (·.ru.evm) ≤ 1

/-- The hosts of the event managers. -/
def evms : List String := (spec.fedBuilders.filter (·.ru.evm)).map (·.ru.hostname)

/-- What is wrong with a description, and the error that says so. -/
inductive Violation : BuildError → Prop where
  | subsystemTwice {name : String} (h : (spec.subsystems.map (·.name)).Duplicate name) :
      Violation (.duplicateName .subsystem name)
  | applicationTwice {hostname : String} (h : spec.fmmApplications.Duplicate hostname) :
      Violation (.duplicateHostname .fmmApplication hostname)
  | fmmTwice {application : String} {slot : UInt32}
      (h : spec.fmmKeys.Duplicate ⟨application, slot⟩) :
      Violation (.duplicateName .fmm (application ++ ":" ++ toString slot.toNat))
  | partitionTwice {name : String} (h : (spec.ttcPartitions.map (·.name)).Duplicate name) :
      Violation (.duplicateName .ttcPartition name)
  | frlPcTwice {hostname : String} (h : spec.frlPcs.Duplicate hostname) :
      Violation (.duplicateHostname .frlPc hostname)
  | buTwice {hostname : String} (h : (spec.bus.map (·.hostname)).Duplicate hostname) :
      Violation (.duplicateHostname .bu hostname)
  | ruTwice {hostname : String} (h : (spec.fedBuilders.map (·.ru.hostname)).Duplicate hostname) :
      Violation (.duplicateHostname .ru hostname)
  | fedTwice {id : UInt32} (h : (spec.feds.map (·.id)).Duplicate id) :
      Violation (.duplicateFedId id)
  | applicationOfFmm {f : FmmSpec} (h : f ∈ spec.fmms)
      (hundeclared : f.application ∉ spec.fmmApplications) :
      Violation (.unknownReference .fmmApplication f.application)
  | fmmOfPartition {p : TtcPartitionSpec} {application : String} {slot : UInt32}
      (h : p ∈ spec.ttcPartitions) (href : p.fmm = some ⟨application, slot⟩)
      (hundeclared : ⟨application, slot⟩ ∉ spec.fmmKeys) :
      Violation (.unknownReference .fmm (application ++ ":" ++ toString slot.toNat))
  | subsystemOfPartition {p : TtcPartitionSpec} {name : String} (h : p ∈ spec.ttcPartitions)
      (href : p.subsystem = some name) (hundeclared : name ∉ spec.subsystems.map (·.name)) :
      Violation (.unknownReference .subsystem name)
  | partitionOfLine {s : SubFedBuilderSpec} (h : s ∈ spec.lines)
      (hundeclared : s.ttcPartition ∉ spec.ttcPartitions.map (·.name)) :
      Violation (.unknownReference .ttcPartition s.ttcPartition)
  | frlPcOfLine {s : SubFedBuilderSpec} {hostname : String} (h : s ∈ spec.lines)
      (href : s.frlPc = some hostname) (hundeclared : hostname ∉ spec.frlPcs) :
      Violation (.unknownReference .frlPc hostname)
  | fmmOfFed {f : FedSpec} {application : String} {slot input : UInt32} (h : f ∈ spec.feds)
      (href : f.fmm = some ⟨application, slot, input⟩)
      (hundeclared : ⟨application, slot⟩ ∉ spec.fmmKeys) :
      Violation (.unknownReference .fmm (application ++ ":" ++ toString slot.toNat))
  | mainFed {f : FedSpec} {id : UInt32} (h : f ∈ spec.feds) (href : id ∈ f.mainFeds)
      (hundeclared : id ∉ spec.feds.map (·.id)) :
      Violation (.unknownReference .fed (toString id.toNat))
  | inputOutOfRange {c : FrlSpec} {f : FedSpec} (h : c ∈ spec.cards) (hf : f ∈ c.feds)
      (hrange : c.kind = .ferol ∧ 1 < f.input ∨ c.kind = .ferol40 ∧ 3 < f.input) :
      Violation (.inputOutOfRange f.id f.input c.kind)
  /-- An earlier FED of the card is plugged into the same input. -/
  | inputTaken {c : FrlSpec} {earlier later : List FedSpec} {f : FedSpec} (h : c ∈ spec.cards)
      (hf : c.feds = earlier ++ f :: later) (htaken : f.input ∈ earlier.map (·.input)) :
      Violation (.inputTaken f.id f.input)
  | multipleEvms (h : 1 < spec.evms.length) : Violation (.multipleEvms spec.evms)

/-! ## The declared graph -/

/-- The position that the name of an FMM application stands for. -/
def fmmApplicationId (hostname : String) : FmmApplicationId :=
  .ofNat (spec.fmmApplications.idxOf hostname)

/-- The position that a reference to an FMM stands for. -/
def fmmId (r : FmmRef) : FmmId := .ofNat (spec.fmmKeys.idxOf r)

/-- The position that the name of a subsystem stands for. -/
def subSystemId (name : String) : SubSystemId := .ofNat ((spec.subsystems.map (·.name)).idxOf name)

/-- The position that the name of a partition stands for. -/
def ttcPartitionId (name : String) : TtcPartitionId :=
  .ofNat ((spec.ttcPartitions.map (·.name)).idxOf name)

/-- The position that the name of a computer of cards stands for. -/
def frlPcId (hostname : String) : FrlPcId := .ofNat (spec.frlPcs.idxOf hostname)

/-- The position that the id of a FED stands for. -/
def fedId (id : UInt32) : FedId := .ofNat ((spec.feds.map (·.id)).idxOf id)

/-- A declared subsystem, without its partitions. -/
def subSystem (s : SubSystemSpec) : SubSystem := { uid := default, name := s.name }

/-- A declared FMM application. -/
def fmmApplication (hostname : String) : FmmApplication := { uid := default, hostname }

/-- A declared FMM, without what is wired to it. -/
def fmm (f : FmmSpec) : Fmm :=
  { uid := default, slot := f.slot, dual := f.dual
    application := spec.fmmApplicationId f.application }

/-- A declared partition. -/
def ttcPartition (p : TtcPartitionSpec) : TtcPartition :=
  { uid := default, name := p.name, number := p.number, fmm := p.fmm.map spec.fmmId
    fmmOutput := p.fmmOutput, subSystem := p.subsystem.map spec.subSystemId
    tcds :=
      match p.tcds with
      | some t => { pmNumber := t.pmNumber, iciNumber := t.iciNumber, nullCause := t.nullCause }
      | none => { pmNumber := 0, iciNumber := 0, nullCause := none } }

/-- A declared computer of cards. -/
def frlPc (hostname : String) : FrlPc := { uid := default, hostname }

/-- A declared builder unit. -/
def bu (u : UnitSpec) : Bu := { uid := default, hostname := u.hostname, instanceId := u.instanceId }

/-- The readout unit of the slice at `n`. -/
def ru (n : Nat) (f : FedBuilderSpec) : Ru :=
  { uid := default, hostname := f.ru.hostname, instanceId := f.ru.instanceId, isEvm := f.ru.evm
    fedBuilder := .ofNat n }

/-- The slice at `n`. -/
def fedBuilder (n : Nat) (f : FedBuilderSpec) : FedBuilder :=
  { uid := default, name := f.name, subFedBuilders := childIds n spec.linesBelow, ru := .ofNat n }

/-- The line at `n`. -/
def subFedBuilder (n : Nat) (s : Below FedBuilderSpec SubFedBuilderSpec) : SubFedBuilder :=
  { uid := default, name := s.self.name, fedBuilder := .ofNat s.position
    frls := childIds n spec.cardsBelow, ttcPartition := spec.ttcPartitionId s.self.ttcPartition
    frlPc := s.self.frlPc.map spec.frlPcId }

/-- The card at `n`. It is controlled by the computer of its line, and its FEDs are at their
    inputs. -/
def frl (n : Nat) (c : Below SubFedBuilderSpec FrlSpec) : Frl :=
  { uid := default, slot := c.self.slot, kind := c.self.kind, subFedBuilder := .ofNat c.position
    pc := c.parent.frlPc.map spec.frlPcId
    feds := .ofList ((c.self.feds.map (·.input)).zip (childIds n spec.fedsBelow)) }

/-- A declared FED, without the FEDs that it stands for. -/
def unpairedFed (f : Below FrlSpec FedSpec) : Fed :=
  { uid := default, id := f.self.id, expectedId := f.self.expectedId.getD f.self.id
    frl := some (.ofNat f.position), frlInput := some f.self.input
    fmm := f.self.fmm.map fun r => spec.fmmId ⟨r.application, r.slot⟩
    fmmInput := f.self.fmm.map (·.input)
    hasSlink := f.self.slink, hasTts := f.self.tts }

/-- A declared FED. -/
def fed (f : Below FrlSpec FedSpec) : Fed :=
  { spec.unpairedFed f with mainFeds := f.self.mainFeds.map spec.fedId }

/-- The graph that a description stands for, its uids left open. -/
def declared : Graph :=
  let feds := spec.fedsBelow.map spec.fed
  let ttcPartitions := spec.ttcPartitions.map spec.ttcPartition
  .indexed {
    uid := default
    run := { sessionId := spec.sessionId }
    fedBuilders := spec.fedBuilders.mapIdx spec.fedBuilder
    subFedBuilders := spec.linesBelow.mapIdx spec.subFedBuilder
    frls := spec.cardsBelow.mapIdx spec.frl
    frlPcs := spec.frlPcs.map frlPc
    feds
    rus := spec.fedBuilders.mapIdx ru
    bus := spec.bus.map bu
    fmms := linkFmms feds ttcPartitions (spec.fmms.map spec.fmm)
    fmmApplications := spec.fmmApplications.map fmmApplication
    ttcPartitions
    subSystems := linkSubSystems ttcPartitions (spec.subsystems.map subSystem) }

end Spec

end Topology

/-! ## Graphs without their uids -/

/-- The FED, its uid left open. -/
def Fed.anonymous (fed : Fed) : Fed := { fed with uid := default }

/-- The card, its uid left open. -/
def Frl.anonymous (frl : Frl) : Frl := { frl with uid := default }

/-- The computer of cards, its uid left open. -/
def FrlPc.anonymous (pc : FrlPc) : FrlPc := { pc with uid := default }

/-- The readout unit, its uid left open. -/
def Ru.anonymous (ru : Ru) : Ru := { ru with uid := default }

/-- The builder unit, its uid left open. -/
def Bu.anonymous (bu : Bu) : Bu := { bu with uid := default }

/-- The slice, its uid left open. -/
def FedBuilder.anonymous (f : FedBuilder) : FedBuilder := { f with uid := default }

/-- The line, its uid left open. -/
def SubFedBuilder.anonymous (s : SubFedBuilder) : SubFedBuilder := { s with uid := default }

/-- The FMM, its uid left open. -/
def Fmm.anonymous (fmm : Fmm) : Fmm := { fmm with uid := default }

/-- The FMM application, its uid left open. -/
def FmmApplication.anonymous (app : FmmApplication) : FmmApplication := { app with uid := default }

/-- The partition, its uid left open. -/
def TtcPartition.anonymous (p : TtcPartition) : TtcPartition := { p with uid := default }

/-- The subsystem, its uid left open. -/
def SubSystem.anonymous (s : SubSystem) : SubSystem := { s with uid := default }

/-- The graph, all its uids left open. -/
def Graph.anonymous (g : Graph) : Graph :=
  { g with
    uid := default
    fedBuilders := g.fedBuilders.map .anonymous
    subFedBuilders := g.subFedBuilders.map .anonymous
    frls := g.frls.map .anonymous
    frlPcs := g.frlPcs.map .anonymous
    feds := g.feds.map .anonymous
    rus := g.rus.map .anonymous
    bus := g.bus.map .anonymous
    fmms := g.fmms.map .anonymous
    fmmApplications := g.fmmApplications.map .anonymous
    ttcPartitions := g.ttcPartitions.map .anonymous
    subSystems := g.subSystems.map .anonymous }

namespace Graph

/-- The look-up tables do not know the uids. -/
theorem makeIndexes_anonymous (g : Graph) : g.anonymous.makeIndexes = g.makeIndexes := by
  simp only [makeIndexes, anonymous, Matching.indexBy_map]
  rfl

theorem anonymous_indexed (g : Graph) : g.indexed.anonymous = g.anonymous.indexed := by
  simp only [indexed, makeIndexes_anonymous]
  rfl

end Graph

end DaqMonitor

/-
  DaqMonitor.Topology.Build

  From the description of a topology to its graph.

  Every entity gets its own uid, and every name that one entity uses for another
  is looked up. What is wrong is found in the order of the description; uids taken
  up to then are not given back. The links that lead back (from an FMM to what is
  wired to it, from a subsystem to its partitions) are made at the end, out of the
  links that lead there.

    * `Spec.build spec uids` — the graph, or what is wrong, and the uids left.
-/
import DaqMonitor.Graph.Basic
import DaqMonitor.Topology.Error
import DaqMonitor.Topology.Spec

namespace DaqMonitor.Topology

/-! ## Steps of the assembly -/

/-- The parts of the readout assembled so far, and the uids left. -/
structure Assembly where
  uids : UidSource
  feds : List Fed := []
  frls : List Frl := []
  subFedBuilders : List SubFedBuilder := []
  rus : List Ru := []
  fedBuilders : List FedBuilder := []

/-- A step of the assembly. A step that fails leaves the uids it took taken. -/
abbrev Builder := EStateM BuildError Assembly

/-- Takes a uid. -/
def newUid : Builder Uid :=
  modifyGet fun a =>
    let (uid, uids) := a.uids.take
    (uid, { a with uids })

/-- Makes something of each element, in order. The elements before it, the nearest first, are at
    hand for each. -/
def forEachAfter {α β : Type} (make : List α → α → Builder β) (earlier : List α) :
    List α → Builder (List β)
  | [] => pure []
  | a :: rest => do
    let b ← make earlier a
    let bs ← forEachAfter make (a :: earlier) rest
    pure (b :: bs)

/-- The position of a name among those declared. -/
def lookUp {arena : Arena} (kind : Declared) (names : List String) (name : String) :
    Builder (EntityId arena) :=
  match names.idxOf? name with
  | some n => pure (.ofNat n)
  | none => throw (.unknownReference kind name)

/-- How messages name an FMM. -/
def FmmRef.label (r : FmmRef) : String := r.application ++ ":" ++ Text.ofNat r.slot.toNat

/-- The position of an FMM among those declared. -/
def Spec.lookUpFmm (spec : Spec) (r : FmmRef) : Builder FmmId :=
  match (spec.fmms.map (·.ref)).idxOf? r with
  | some n => pure (.ofNat n)
  | none => throw (.unknownReference .fmm r.label)

/-! ## The throttling side -/

/-- A new subsystem. -/
def newSubSystem (earlier : List SubSystemSpec) (s : SubSystemSpec) : Builder SubSystem := do
  if earlier.contains s then throw (.duplicateName .subsystem s.name)
  let uid ← newUid
  pure { uid, name := s.name }

/-- A new FMM application. -/
def newFmmApplication (earlier : List String) (hostname : String) : Builder FmmApplication := do
  if earlier.contains hostname then throw (.duplicateHostname .fmmApplication hostname)
  let uid ← newUid
  pure { uid, hostname }

/-- A new FMM. -/
def Spec.newFmm (spec : Spec) (earlier : List FmmSpec) (f : FmmSpec) : Builder Fmm := do
  let application ← lookUp .fmmApplication spec.fmmApplications f.application
  if (earlier.map (·.ref)).contains f.ref then throw (.duplicateName .fmm f.ref.label)
  let uid ← newUid
  pure { uid, slot := f.slot, dual := f.dual, application }

/-- The place of a partition in the TCDS. -/
def TcdsSpec.address (t : TcdsSpec) : TcdsAddress :=
  { pmNumber := t.pmNumber, iciNumber := t.iciNumber, nullCause := t.nullCause }

/-- A new TTC partition. -/
def Spec.newTtcPartition (spec : Spec) (earlier : List TtcPartitionSpec) (p : TtcPartitionSpec) :
    Builder TtcPartition := do
  if (earlier.map (·.name)).contains p.name then throw (.duplicateName .ttcPartition p.name)
  let uid ← newUid
  let fmm ← p.fmm.mapM spec.lookUpFmm
  let subSystem ← p.subsystem.mapM (lookUp .subsystem (spec.subsystems.map (·.name)))
  pure {
    uid, name := p.name, number := p.number, fmm, fmmOutput := p.fmmOutput, subSystem
    tcds := (p.tcds.map (·.address)).getD {} }

/-! ## The readout side -/

/-- A new computer that controls cards. -/
def newFrlPc (earlier : List String) (hostname : String) : Builder FrlPc := do
  if earlier.contains hostname then throw (.duplicateHostname .frlPc hostname)
  let uid ← newUid
  pure { uid, hostname }

/-- A new builder unit. -/
def newBu (earlier : List UnitSpec) (u : UnitSpec) : Builder Bu := do
  if (earlier.map (·.hostname)).contains u.hostname then
    throw (.duplicateHostname .bu u.hostname)
  let uid ← newUid
  pure { uid, hostname := u.hostname, instanceId := u.instanceId }

/-- Adds a FED that is plugged into the card `frl`, next to those plugged in already. -/
def Spec.addFed (spec : Spec) (frl : FrlId) (kind : CardKind) (plugged : SortedMap UInt8 FedId)
    (f : FedSpec) : Builder (SortedMap UInt8 FedId) := do
  if kind.lastInput < f.input then throw (.inputOutOfRange f.id f.input kind)
  if (plugged.find? f.input).isSome then throw (.inputTaken f.id f.input)
  let feds := (← get).feds
  if (feds.map (·.id)).contains f.id then throw (.duplicateFedId f.id)
  let uid ← newUid
  let fmm ← f.fmm.mapM fun r => spec.lookUpFmm r.fmm
  let fed : Fed := {
    uid, id := f.id, expectedId := f.expectedId.getD f.id, frl := some frl
    frlInput := some f.input, fmm, fmmInput := f.fmm.map (·.input), hasSlink := f.slink
    hasTts := f.tts }
  modify fun a => { a with feds := a.feds ++ [fed] }
  pure (plugged.insert f.input (.ofNat feds.length))

/-- Adds a card with its FEDs. -/
def Spec.addFrl (spec : Spec) (subFedBuilder : SubFedBuilderId) (pc : Option FrlPcId)
    (f : FrlSpec) : Builder FrlId := do
  -- The FEDs refer to the card before it is there.
  let id : FrlId := .ofNat (← get).frls.length
  let uid ← newUid
  let feds ← f.feds.foldlM (spec.addFed id f.kind) ∅
  let frl : Frl := { uid, slot := f.slot, kind := f.kind, subFedBuilder, pc, feds }
  modify fun a => { a with frls := a.frls ++ [frl] }
  pure id

/-- Adds a line of cards. -/
def Spec.addSubFedBuilder (spec : Spec) (fedBuilder : FedBuilderId) (s : SubFedBuilderSpec) :
    Builder SubFedBuilderId := do
  let id : SubFedBuilderId := .ofNat (← get).subFedBuilders.length
  let ttcPartition ←
    lookUp .ttcPartition (spec.ttcPartitions.map (·.name)) s.ttcPartition
  let frlPc ← s.frlPc.mapM (lookUp .frlPc spec.frlPcs)
  let frls ← s.frls.mapM (spec.addFrl id frlPc)
  let uid ← newUid
  let subFedBuilder : SubFedBuilder := {
    uid, name := s.name, fedBuilder, frls, ttcPartition, frlPc }
  modify fun a => { a with subFedBuilders := a.subFedBuilders ++ [subFedBuilder] }
  pure id

/-- Adds a slice of the event building with its readout unit. -/
def Spec.addFedBuilder (spec : Spec) (earlier : List FedBuilderSpec) (f : FedBuilderSpec) :
    Builder FedBuilderId := do
  if (earlier.map (·.ru.hostname)).contains f.ru.hostname then
    throw (.duplicateHostname .ru f.ru.hostname)
  let id : FedBuilderId := .ofNat (← get).fedBuilders.length
  let ruId : RuId := .ofNat (← get).rus.length
  -- The unit takes its uid before what it reads out, the slice after it.
  let ruUid ← newUid
  let ru : Ru := {
    uid := ruUid, hostname := f.ru.hostname, instanceId := f.ru.instanceId, isEvm := f.ru.evm
    fedBuilder := id }
  modify fun a => { a with rus := a.rus ++ [ru] }
  let subFedBuilders ← f.subFedBuilders.mapM (spec.addSubFedBuilder id)
  let uid ← newUid
  let fedBuilder : FedBuilder := { uid, name := f.name, subFedBuilders, ru := ruId }
  modify fun a => { a with fedBuilders := a.fedBuilders ++ [fedBuilder] }
  pure id

/-! ## Links back, and the whole -/

/-- The positions of the entities that satisfy `p`. -/
def idsWhere {α : Type} {arena : Arena} (p : α → Bool) (entities : List α) :
    List (EntityId arena) :=
  (entities.zipIdx.filter fun e => p e.1).map fun e => .ofNat e.2

/-- Gives every FMM the FEDs and the last partition that are wired to it. -/
def linkFmms (feds : List Fed) (partitions : List TtcPartition) (fmms : List Fmm) : List Fmm :=
  fmms.mapIdx fun n fmm =>
    let id : FmmId := .ofNat n
    { fmm with
      feds := idsWhere (fun (fed : Fed) => fed.fmm == some id) feds
      ttcPartition :=
        (idsWhere (fun (p : TtcPartition) => p.fmm == some id) partitions).getLast? }

/-- Gives every subsystem its partitions. -/
def linkSubSystems (partitions : List TtcPartition) (subSystems : List SubSystem) :
    List SubSystem :=
  subSystems.mapIdx fun n s =>
    { s with
      ttcPartitions :=
        idsWhere (fun (p : TtcPartition) => p.subSystem == some (.ofNat n)) partitions }

/-- The positions of the FEDs that a pseudo-FED stands for. -/
def lookUpMainFeds (feds : List Fed) (f : FedSpec) : Builder (List FedId) :=
  f.mainFeds.mapM fun id =>
    match (feds.map (·.id)).idxOf? id with
    | some n => pure (.ofNat n)
    | none => throw (.unknownReference .fed (Text.ofNat id.toNat))

/-- Assembles the graph of a topology. -/
def Spec.assemble (spec : Spec) : Builder Graph := do
  let uid ← newUid
  let subSystems ← forEachAfter newSubSystem [] spec.subsystems
  let fmmApplications ← forEachAfter newFmmApplication [] spec.fmmApplications
  let fmms ← forEachAfter spec.newFmm [] spec.fmms
  let ttcPartitions ← forEachAfter spec.newTtcPartition [] spec.ttcPartitions
  let frlPcs ← forEachAfter newFrlPc [] spec.frlPcs
  let bus ← forEachAfter newBu [] spec.bus
  let _ ← forEachAfter spec.addFedBuilder [] spec.fedBuilders
  let readout ← get
  let evms := (readout.rus.filter (·.isEvm)).map (·.hostname)
  if 1 < evms.length then throw (.multipleEvms evms)
  -- A pseudo-FED may come before the FEDs that it stands for, so these are looked up last.
  let mainFeds ← spec.feds.mapM (lookUpMainFeds readout.feds)
  let feds := (readout.feds.zip mainFeds).map fun f => { f.1 with mainFeds := f.2 }
  pure <| Graph.indexed {
    uid
    run := { sessionId := spec.sessionId }
    fedBuilders := readout.fedBuilders
    subFedBuilders := readout.subFedBuilders
    frls := readout.frls
    frlPcs
    feds
    rus := readout.rus
    bus
    fmms := linkFmms feds ttcPartitions fmms
    fmmApplications
    ttcPartitions
    subSystems := linkSubSystems ttcPartitions subSystems }

/-- Assembles the graph of a topology with uids from `uids`. -/
def Spec.build (spec : Spec) (uids : UidSource) : Except BuildError Graph × UidSource :=
  match spec.assemble.run { uids } with
  | .ok graph a => (.ok graph, a.uids)
  | .error e a => (.error e, a.uids)

end DaqMonitor.Topology

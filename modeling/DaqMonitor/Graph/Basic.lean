/-
  DaqMonitor.Graph.Basic

  The graph: all entities of a session with what the tables tell about them, and
  the tables to look entities up in.

    * `Graph.indexed g` — the graph with its look-up tables made anew. Of entities
      with one key the first keeps it.
    * `Graph.update? g target kind row` — the graph after a row for one target.
    * `Graph.reset? g target` — the graph with one target as before any row.
-/
import DaqMonitor.Graph.BuilderUnit
import DaqMonitor.Graph.Fed
import DaqMonitor.Graph.FedBuilder
import DaqMonitor.Graph.Frl
import DaqMonitor.Graph.ReadoutUnit
import DaqMonitor.Graph.Run
import DaqMonitor.Graph.Throttling

namespace DaqMonitor

open Flashlist Json

/-! ## Look-up tables -/

/-- Tables from names and numbers to the entities that carry them. -/
structure Indexes where
  rusByHostname : SortedMap String RuId := ∅
  busByHostname : SortedMap String BuId := ∅
  frlPcsByHostname : SortedMap String FrlPcId := ∅
  fmmApplicationsByHostname : SortedMap String FmmApplicationId := ∅
  rusByInstance : SortedMap UInt32 RuId := ∅
  busByInstance : SortedMap UInt32 BuId := ∅
  fedsById : SortedMap UInt32 FedId := ∅
  fedsByExpectedId : SortedMap UInt32 FedId := ∅
  subSystemsByName : SortedMap String SubSystemId := ∅
  deriving DecidableEq

/-- The table from keys to positions. An entity without a key is left out; of entities with one key
    the first keeps it. -/
def indexBy {α κ : Type} [Ord κ] [Std.TransOrd κ] {arena : Arena} (key : α → Option κ)
    (entities : List α) : SortedMap κ (EntityId arena) :=
  entities.zipIdx.foldl (fun m e =>
    match key e.1 with
    | none => m
    | some k => m.insertNew k (.ofNat e.2)) ∅

/-! ## The graph -/

/-- The entities of a session and what is known of them. -/
structure Graph where
  uid : Uid
  run : RunInfo := {}
  fedBuilderSummary : FedBuilderSummary := {}
  buSummary : BuSummary := {}
  tcds : TcdsInfo := {}
  fedBuilders : List FedBuilder := []
  subFedBuilders : List SubFedBuilder := []
  frls : List Frl := []
  frlPcs : List FrlPc := []
  feds : List Fed := []
  rus : List Ru := []
  bus : List Bu := []
  fmms : List Fmm := []
  fmmApplications : List FmmApplication := []
  ttcPartitions : List TtcPartition := []
  subSystems : List SubSystem := []
  indexes : Indexes := {}
  deriving DecidableEq

namespace Graph

/-- The look-up tables that belong to the entities of a graph. -/
def makeIndexes (g : Graph) : Indexes where
  rusByHostname := indexBy (fun (ru : Ru) => some ru.hostname) g.rus
  busByHostname := indexBy (fun (bu : Bu) => some bu.hostname) g.bus
  frlPcsByHostname := indexBy (fun (pc : FrlPc) => some pc.hostname) g.frlPcs
  fmmApplicationsByHostname :=
    indexBy (fun (app : FmmApplication) => some app.hostname) g.fmmApplications
  rusByInstance := indexBy (fun (ru : Ru) => ru.instanceId) g.rus
  busByInstance := indexBy (fun (bu : Bu) => bu.instanceId) g.bus
  fedsById := indexBy (fun (fed : Fed) => some fed.id) g.feds
  fedsByExpectedId := indexBy (fun (fed : Fed) => some fed.expectedId) g.feds
  subSystemsByName := indexBy (fun (s : SubSystem) => some s.name) g.subSystems

/-- The graph with its look-up tables made anew. -/
def indexed (g : Graph) : Graph := { g with indexes := g.makeIndexes }

/-! ## Questions -/

/-- The session that level-zero rows are filtered by. -/
def sessionId (g : Graph) : Option Int64 := g.run.sessionId

/-- The FED with the given id. -/
def fedById? (g : Graph) (id : UInt32) : Option Fed :=
  (g.indexes.fedsById.find? id).bind fun fed => fed.get? g.feds

/-- The readout unit on the given host. -/
def ruByHostname? (g : Graph) (hostname : String) : Option Ru :=
  (g.indexes.rusByHostname.find? hostname).bind fun ru => ru.get? g.rus

/-- The event manager. -/
def evm? (g : Graph) : Option Ru := g.rus.find? (·.isEvm)

/-- The FEDs plugged into a card, by input. -/
def frlFeds (g : Graph) (id : FrlId) : List Fed :=
  ((id.get? g.frls).map fun frl => frl.feds.values.filterMap fun fed => fed.get? g.feds).getD []

/-- The FEDs plugged into the cards of a sub-FED-builder. -/
def subFedBuilderFeds (g : Graph) (id : SubFedBuilderId) : List Fed :=
  ((id.get? g.subFedBuilders).map fun s => s.frls.flatMap g.frlFeds).getD []

/-- The FEDs that are read out through a FED builder. -/
def fedBuilderFeds (g : Graph) (id : FedBuilderId) : List Fed :=
  ((id.get? g.fedBuilders).map fun f => f.subFedBuilders.flatMap g.subFedBuilderFeds).getD []

/-- The targets for the entities of one arena. -/
def arenaTargets {α : Type} {arena : Arena} (make : EntityId arena → Target)
    (entities : List α) : List Target :=
  (List.range entities.length).map fun i => make (.ofNat i)

/-- Everything in the graph that takes up rows. -/
def targets (g : Graph) : List Target :=
  [.run, .tcds] ++ arenaTargets .fed g.feds ++ arenaTargets .frl g.frls ++
    arenaTargets .frlPc g.frlPcs ++ arenaTargets .ru g.rus ++ arenaTargets .bu g.bus ++
    arenaTargets .fmm g.fmms ++ arenaTargets .fmmApplication g.fmmApplications ++
    arenaTargets .ttcPartition g.ttcPartitions ++ arenaTargets .subSystem g.subSystems

/-! ## Rows and resets for one target -/

/-- Replaces the entity at a position by what `f` makes of it; `none` where no entity stands
    there. -/
def modifyAt? {α ε : Type} {arena : Arena} (id : EntityId arena) (entities : List α)
    (f : α → Except ε α) : Option (Except ε (List α)) :=
  (id.get? entities).map fun a => (f a).map fun b => entities.set id.toNat b

/-- The graph after a row for one target: `none` where the graph has no such target, and else the
    new graph, or why the row is refused. -/
def update? (g : Graph) (target : Target) (kind : Kind) (row : Row) :
    Option (Except RowError Graph) :=
  match target with
  | .run => some ((g.run.update kind row).map fun run => { g with run })
  | .tcds => some ((g.tcds.update kind row).map fun tcds => { g with tcds })
  | .fed id => (modifyAt? id g.feds (·.update kind row)).map
      (·.map fun feds => { g with feds })
  | .frl id => (modifyAt? id g.frls (·.update kind row)).map
      (·.map fun frls => { g with frls })
  | .frlPc id => (modifyAt? id g.frlPcs (·.update kind row)).map
      (·.map fun frlPcs => { g with frlPcs })
  | .ru id => (modifyAt? id g.rus (·.update kind row)).map
      (·.map fun rus => { g with rus })
  | .bu id => (modifyAt? id g.bus (·.update kind row)).map
      (·.map fun bus => { g with bus })
  | .fmm id => (modifyAt? id g.fmms (·.update kind row)).map
      (·.map fun fmms => { g with fmms })
  | .fmmApplication id => (modifyAt? id g.fmmApplications (·.update kind row)).map
      (·.map fun fmmApplications => { g with fmmApplications })
  | .ttcPartition id => (modifyAt? id g.ttcPartitions (·.update kind row)).map
      (·.map fun ttcPartitions => { g with ttcPartitions })
  | .subSystem id => (modifyAt? id g.subSystems (·.update kind row)).map
      (·.map fun subSystems => { g with subSystems })

/-- Replaces the entity at a position; `none` where no entity stands there. -/
def resetAt? {α : Type} {arena : Arena} (id : EntityId arena) (entities : List α) (f : α → α) :
    Option (List α) :=
  (id.get? entities).map fun a => entities.set id.toNat (f a)

/-- The graph with one target as before any row; `none` where the graph has no such target. -/
def reset? (g : Graph) (target : Target) : Option Graph :=
  match target with
  | .run => some { g with run := g.run.reset }
  | .tcds => some { g with tcds := g.tcds.reset }
  | .fed id => (resetAt? id g.feds Fed.reset).map fun feds => { g with feds }
  | .frl id => (resetAt? id g.frls Frl.reset).map fun frls => { g with frls }
  | .frlPc id => (resetAt? id g.frlPcs FrlPc.reset).map fun frlPcs => { g with frlPcs }
  | .ru id => (resetAt? id g.rus Ru.reset).map fun rus => { g with rus }
  | .bu id => (resetAt? id g.bus Bu.reset).map fun bus => { g with bus }
  | .fmm id => (resetAt? id g.fmms Fmm.reset).map fun fmms => { g with fmms }
  | .fmmApplication id => (resetAt? id g.fmmApplications FmmApplication.reset).map
      fun fmmApplications => { g with fmmApplications }
  | .ttcPartition id => (resetAt? id g.ttcPartitions TtcPartition.reset).map
      fun ttcPartitions => { g with ttcPartitions }
  | .subSystem id => (resetAt? id g.subSystems SubSystem.reset).map
      fun subSystems => { g with subSystems }

end Graph

end DaqMonitor

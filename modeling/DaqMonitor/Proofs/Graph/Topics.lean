/-
  DaqMonitor.Proofs.Graph.Topics

  What tables speak about.

  Everything that takes up rows is an entity of one of eleven sorts: the run and
  the TCDS record, of which a graph has one each, and the entities of nine arenas.
  The fields of an entity that can change fall into topics, and the tables of a
  kind speak about the topics of that kind only. Two kinds of tables whose topics
  are apart cannot disturb each other.

    * `TargetSort.fixed s e` — what no table changes of an entity.
    * `TargetSort.reset s e` — the entity as before any row.
    * `TargetSort.part s t e` — that, together with the fields of topic `t`.
    * `topics kind` — the topics of a kind of tables.
    * `TargetSort.part_eq_fixed` — what has nothing of a topic.
-/
import DaqMonitor.Graph.Basic

namespace DaqMonitor

open Flashlist

/-! ## Sorts of targets -/

/-- The sorts of what takes up rows. -/
inductive TargetSort where
  | run
  | tcds
  | fed
  | frl
  | frlPc
  | ru
  | bu
  | fmm
  | fmmApplication
  | ttcPartition
  | subSystem
  deriving DecidableEq, Repr

/-- The entities of a sort. -/
abbrev TargetSort.Entity : TargetSort → Type
  | run => RunInfo
  | tcds => TcdsInfo
  | fed => Fed
  | frl => Frl
  | frlPc => FrlPc
  | ru => Ru
  | bu => Bu
  | fmm => Fmm
  | fmmApplication => FmmApplication
  | ttcPartition => TtcPartition
  | subSystem => SubSystem

/-- The sort of a target. -/
def Target.sort : Target → TargetSort
  | run => .run
  | tcds => .tcds
  | fed _ => .fed
  | frl _ => .frl
  | frlPc _ => .frlPc
  | ru _ => .ru
  | bu _ => .bu
  | fmm _ => .fmm
  | fmmApplication _ => .fmmApplication
  | ttcPartition _ => .ttcPartition
  | subSystem _ => .subSystem

namespace TargetSort

/-- The entity after a row of a kind of tables, or why the row is refused. -/
def update : (s : TargetSort) → s.Entity → Kind → Row → Except RowError s.Entity
  | run => RunInfo.update
  | tcds => TcdsInfo.update
  | fed => Fed.update
  | frl => Frl.update
  | frlPc => FrlPc.update
  | ru => Ru.update
  | bu => Bu.update
  | fmm => Fmm.update
  | fmmApplication => FmmApplication.update
  | ttcPartition => TtcPartition.update
  | subSystem => SubSystem.update

/-- What no table changes of an entity: the entity as before any row, for the run without its
    session too. -/
def fixed : (s : TargetSort) → s.Entity → s.Entity
  | run => fun _ => {}
  | tcds => TcdsInfo.reset
  | fed => Fed.reset
  | frl => Frl.reset
  | frlPc => FrlPc.reset
  | ru => Ru.reset
  | bu => Bu.reset
  | fmm => Fmm.reset
  | fmmApplication => FmmApplication.reset
  | ttcPartition => TtcPartition.reset
  | subSystem => SubSystem.reset

/-- The entity as before any row: its fixed part, and for the run its session as well. -/
def reset : (s : TargetSort) → s.Entity → s.Entity
  | run => RunInfo.reset
  | s => s.fixed

end TargetSort

/-! ## Topics -/

/-- What tables speak about. -/
inductive Topic where
  /-- What is worked out after the tables, and the time of the cycle. -/
  | derived
  /-- The report of a readout unit. -/
  | unitReport
  /-- The allocation rates that only the event manager reports. -/
  | allocation
  /-- The flags of the FEDs that readout units list. -/
  | problems
  | builderReport
  /-- The counters of an input stream, with the running total of its backpressure. -/
  | stream
  /-- The input of the FMM that a FED is plugged into. -/
  | throttling
  /-- Whether the stream of a FED is switched off. -/
  | masking
  | cardState
  /-- The outputs of an FMM, as it and its partitions see them. -/
  | fmmOutputs
  /-- Whether a process has crashed. -/
  | crashes
  /-- The session and the other values of the run. -/
  | runValues
  /-- The states of the subsystems, that of the data acquisition included. -/
  | subSystemStates
  | triggerCounts
  | deadtimes
  | triggerRates
  | actionCounts
  /-- The states that come through TTS channels, and the service they come from. -/
  | channels
  deriving DecidableEq, Repr

/-- The topics of a kind of tables. -/
def topics : Kind → List Topic
  | .ru => [.unitReport, .problems]
  | .evm => [.unitReport, .allocation]
  | .bu => [.builderReport]
  | .ferolInputStream | .ferol40InputStream => [.stream]
  | .fmmInput => [.throttling]
  | .ferolStatus | .ferol40Status => [.cardState]
  | .ferolConfiguration | .ferol40StreamConfiguration => [.masking]
  | .fmmStatus => [.fmmOutputs]
  | .jobControl => [.crashes]
  | .levelZeroSubsystems => [.subSystemStates]
  | .levelZeroDynamic => [.runValues]
  | .tcdsCounts => [.triggerCounts]
  | .tcdsDeadtimes => [.deadtimes]
  | .tcdsRates => [.triggerRates]
  | .tcdsActionCounts => [.actionCounts]
  | .tcdsTtsChannels => [.channels]
  | .frlMonitoring | .levelZeroStatic | .ferol40Configuration => []

/-- The sorts whose entities have something of a topic. -/
def Topic.sorts : Topic → List TargetSort
  | .derived => [.run, .ru]
  | .unitReport | .allocation => [.ru]
  | .problems | .stream | .throttling | .masking => [.fed]
  | .builderReport => [.bu]
  | .cardState => [.frl]
  | .fmmOutputs => [.fmm, .ttcPartition]
  | .crashes => [.frlPc, .ru, .bu, .fmmApplication]
  | .runValues => [.run]
  | .subSystemStates => [.run, .subSystem]
  | .triggerCounts | .deadtimes | .triggerRates | .actionCounts => [.tcds]
  | .channels => [.tcds, .ttcPartition]

theorem derived_not_mem_topics (kind : Kind) : .derived ∉ topics kind := by
  cases kind <;> decide

/-! ## Parts of entities -/

/-- The values of the run that belong to a topic. -/
def RunInfo.part : Topic → RunInfo → RunInfo
  | .runValues => fun run => { run with daqState := none, lastUpdate := 0 }
  | .subSystemStates => fun run => { daqState := run.daqState }
  | .derived => fun run => { lastUpdate := run.lastUpdate }
  | _ => fun _ => {}

/-- The values of the TCDS record that belong to a topic. -/
def TcdsInfo.part : Topic → TcdsInfo → TcdsInfo
  | .triggerCounts => fun tcds =>
    { triggersTotal := tcds.triggersTotal, suppressedTotal := tcds.suppressedTotal }
  | .deadtimes => fun tcds =>
    { deadtimeTotal := tcds.deadtimeTotal
      deadtimeTts := tcds.deadtimeTts
      deadtimeTriggerRules := tcds.deadtimeTriggerRules
      deadtimeBunchMaskVeto := tcds.deadtimeBunchMaskVeto
      deadtimeRetri := tcds.deadtimeRetri
      deadtimeDaqBackpressure := tcds.deadtimeDaqBackpressure }
  | .triggerRates => fun tcds =>
    { triggerRateTotal := tcds.triggerRateTotal
      suppressedRateTotal := tcds.suppressedRateTotal
      triggerRateBeamActive := tcds.triggerRateBeamActive }
  | .actionCounts => fun tcds =>
    { resyncs := tcds.resyncs, oc0s := tcds.oc0s, hardResets := tcds.hardResets
      starts := tcds.starts }
  | .channels => fun tcds =>
    { serviceName := tcds.serviceName
      serviceContext := tcds.serviceContext
      globalTtsStates := tcds.globalTtsStates }
  | _ => fun _ => {}

/-- The values of a FED that belong to a topic. -/
def Fed.State.part : Topic → Fed.State → Fed.State
  | .stream => fun state =>
    { receivedId := state.receivedId
      linkCrcErrors := state.linkCrcErrors
      fedCrcErrors := state.fedCrcErrors
      triggers := state.triggers
      eventCounter := state.eventCounter
      percentBackpressure := state.percentBackpressure
      timestamp := state.timestamp
      backpressure := state.backpressure }
  | .throttling => fun state =>
    { percentWarning := state.percentWarning
      percentBusy := state.percentBusy
      ttsState := state.ttsState
      fmmMasked := state.fmmMasked }
  | .masking => fun state => { frlMasked := state.frlMasked }
  | .problems => fun state =>
    { inError := state.inError, withoutFragments := state.withoutFragments }
  | _ => fun _ => {}

/-- The values of a readout unit that belong to a topic. -/
def Ru.State.part : Topic → Ru.State → Ru.State
  | .unitReport => fun state =>
    { state with allocateRate := 0.0, allocateRetryRate := 0.0, masked := false, crashed := false }
  | .allocation => fun state =>
    { allocateRate := state.allocateRate, allocateRetryRate := state.allocateRetryRate }
  | .crashes => fun state => { crashed := state.crashed }
  | .derived => fun state => { masked := state.masked }
  | _ => fun _ => {}

/-- The values of a builder unit that belong to a topic. -/
def Bu.State.part : Topic → Bu.State → Bu.State
  | .builderReport => fun state => { state with crashed := false }
  | .crashes => fun state => { crashed := state.crashed }
  | _ => fun _ => {}

/-- The values of a partition that belong to a topic. -/
def TtcPartition.part : Topic → TtcPartition → TtcPartition
  | .fmmOutputs => fun p => { p with tcdsPmTtsState := none, tcdsApvPmTtsState := none }
  | .channels => fun p => { p with ttsState := none, percentBusy := 0.0, percentWarning := 0.0 }
  | _ => TtcPartition.reset

namespace TargetSort

/-- What no table changes of an entity, together with the values that belong to a topic. -/
def part : (s : TargetSort) → Topic → s.Entity → s.Entity
  | run => RunInfo.part
  | tcds => TcdsInfo.part
  | fed => fun t fed => { fed with state := fed.state.part t }
  | frl => fun t frl => if t = .cardState then frl else frl.reset
  | frlPc => fun t pc => if t = .crashes then pc else pc.reset
  | ru => fun t ru => { ru with state := ru.state.part t }
  | bu => fun t bu => { bu with state := bu.state.part t }
  | fmm => fun t fmm => if t = .fmmOutputs then fmm else fmm.reset
  | fmmApplication => fun t app => if t = .crashes then app else app.reset
  | ttcPartition => TtcPartition.part
  | subSystem => fun t s => if t = .subSystemStates then s else s.reset

/-- Where a topic says nothing about a sort, its part of an entity is the fixed part. -/
theorem part_eq_fixed {s : TargetSort} {t : Topic} (h : s ∉ t.sorts) (e : s.Entity) :
    s.part t e = s.fixed e := by
  cases s <;> cases t <;> first | rfl | exact absurd (by decide) h

theorem fixed_fixed (s : TargetSort) (e : s.Entity) : s.fixed (s.fixed e) = s.fixed e := by
  cases s <;> rfl

theorem fixed_reset (s : TargetSort) (e : s.Entity) : s.fixed (s.reset e) = s.fixed e := by
  cases s <;> rfl

theorem reset_reset (s : TargetSort) (e : s.Entity) : s.reset (s.reset e) = s.reset e := by
  cases s <;> rfl

end TargetSort

end DaqMonitor

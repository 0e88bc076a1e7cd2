/-
  DaqMonitor.Graph.Run

  The records at the root of a graph: the run, the TCDS partition manager in use,
  and the sums and means over all readout units and all builder units.
-/
import DaqMonitor.Flashlist.Kind
import DaqMonitor.Flashlist.Row
import DaqMonitor.Json.Form

namespace DaqMonitor

open Flashlist Json

/-! ## The run -/

/-- What the level-zero function manager tells about the run. -/
structure RunInfo where
  sessionId : Option Int64 := none
  runNumber : Option Int64 := none
  levelZeroState : Option String := none
  daqState : Option String := none
  lhcMachineMode : Option String := none
  lhcBeamMode : Option String := none
  /-- When the last cycle was completed, in milliseconds. -/
  lastUpdate : UInt64 := 0
  deriving DecidableEq

namespace RunInfo

/-- Reads a column as a text, `none` where the row does not have it. -/
def optionalText (row : Row) (column : String) : Except RowError (Option String) :=
  row.optional column none fun row column => (row.text column).map some

/-- The run after a row with its values. -/
def afterDynamic (run : RunInfo) (row : Row) : Except RowError RunInfo := do
  let sessionId ← row.integer "SID"
  let runNumber ← row.integer "RUN_NUMBER"
  let levelZeroState ← row.text "STATE"
  let lhcMachineMode ← optionalText row "LHC_MACHINE_MODE"
  let lhcBeamMode ← optionalText row "LHC_BEAM_MODE"
  .ok { run with
    sessionId := some sessionId
    runNumber := some runNumber
    levelZeroState := some levelZeroState
    lhcMachineMode
    lhcBeamMode }

/-- The run after a row of the given kind. -/
def update (run : RunInfo) (kind : Kind) (row : Row) : Except RowError RunInfo :=
  match kind with
  | .levelZeroDynamic => run.afterDynamic row
  | .levelZeroSubsystems =>
    (row.text "STATE").map fun state => { run with daqState := some state }
  | _ => .ok run

/-- The run as before any row, but in the same session: rows of the session go on to be told apart
    by it until a row names another one. -/
def reset (run : RunInfo) : RunInfo := { sessionId := run.sessionId }

/-- The JSON form of the run. -/
def form : Form RunInfo where
  shape := .record (.ofList [
    ("sessionId", .omissible, .option .int64),
    ("runNumber", .omissible, .option .int64),
    ("levelZeroState", .omissible, .option .text),
    ("daqState", .omissible, .option .text),
    ("lhcMachineMode", .omissible, .option .text),
    ("lhcBeamMode", .omissible, .option .text),
    ("lastUpdate", .required, .uint64)])
  toVal r :=
    (r.sessionId, r.runNumber, r.levelZeroState, r.daqState, r.lhcMachineMode, r.lhcBeamMode,
      r.lastUpdate, ())
  ofVal
    | (sessionId, runNumber, levelZeroState, daqState, lhcMachineMode, lhcBeamMode,
        lastUpdate, ()) =>
      { sessionId, runNumber, levelZeroState, daqState, lhcMachineMode, lhcBeamMode, lastUpdate }
  ofVal_toVal _ := rfl

@[simp] theorem form_kept (r : RunInfo) : form.kept r = r := rfl

end RunInfo

/-! ## The TCDS -/

/-- A global TTS output of the TCDS partition manager. -/
structure GlobalTtsState where
  state : String
  percentBusy : Float
  percentWarning : Float
  deriving DecidableEq

/-- The JSON form of a global TTS output. -/
def GlobalTtsState.form : Form GlobalTtsState where
  shape := .record (.ofList [
    ("state", .required, .text),
    ("percentBusy", .required, .double),
    ("percentWarning", .required, .double)])
  toVal g := (g.state, g.percentBusy, g.percentWarning, ())
  ofVal | (state, percentBusy, percentWarning, ()) => { state, percentBusy, percentWarning }
  ofVal_toVal _ := rfl

/-- What the TCDS partition manager in use tells: counts, deadtimes, rates and TTS states. -/
structure TcdsInfo where
  serviceName : Option String := none
  serviceContext : Option String := none
  triggersTotal : UInt64 := 0
  suppressedTotal : UInt64 := 0
  deadtimeTotal : Float := 0.0
  deadtimeTts : Float := 0.0
  deadtimeTriggerRules : Float := 0.0
  deadtimeBunchMaskVeto : Float := 0.0
  deadtimeRetri : Float := 0.0
  deadtimeDaqBackpressure : Float := 0.0
  triggerRateTotal : Float := 0.0
  suppressedRateTotal : Float := 0.0
  triggerRateBeamActive : Float := 0.0
  resyncs : UInt64 := 0
  oc0s : UInt64 := 0
  hardResets : UInt64 := 0
  starts : UInt64 := 0
  globalTtsStates : SortedMap String GlobalTtsState := ∅
  deriving DecidableEq

namespace TcdsInfo

/-- The record after a row with trigger counts. -/
def afterCounts (tcds : TcdsInfo) (row : Row) : Except RowError TcdsInfo := do
  let triggersTotal ← row.count "trg_cnt_total"
  let suppressedTotal ← row.count "sup_trg_cnt_total"
  .ok { tcds with triggersTotal, suppressedTotal }

/-- The record after a row with deadtimes. -/
def afterDeadtimes (tcds : TcdsInfo) (row : Row) : Except RowError TcdsInfo := do
  let deadtimeTotal ← row.double "deadtime_total"
  let deadtimeTts ← row.double "deadtime_tts"
  let deadtimeTriggerRules ← row.double "deadtime_trg_rules"
  let deadtimeBunchMaskVeto ← row.double "deadtime_bunch_mask_veto"
  let deadtimeRetri ← row.double "deadtime_retri"
  let deadtimeDaqBackpressure ← row.double "deadtime_daq_bp"
  .ok { tcds with
    deadtimeTotal, deadtimeTts, deadtimeTriggerRules, deadtimeBunchMaskVeto, deadtimeRetri
    deadtimeDaqBackpressure }

/-- The record after a row with trigger rates. -/
def afterRates (tcds : TcdsInfo) (row : Row) : Except RowError TcdsInfo := do
  let triggerRateTotal ← row.double "trg_rate_total"
  let suppressedRateTotal ← row.double "sup_trg_rate_total"
  let triggerRateBeamActive ← row.double "trg_rate_beamactive_total"
  .ok { tcds with triggerRateTotal, suppressedRateTotal, triggerRateBeamActive }

/-- The record after a row with counts of actions. -/
def afterActions (tcds : TcdsInfo) (row : Row) : Except RowError TcdsInfo := do
  let resyncs ← row.count "cnt_resync"
  let oc0s ← row.count "cnt_oc0"
  let hardResets ← row.count "cnt_hard_reset"
  let starts ← row.count "cnt_start"
  .ok { tcds with resyncs, oc0s, hardResets, starts }

/-- The record after a row of the given kind. -/
def update (tcds : TcdsInfo) (kind : Kind) (row : Row) : Except RowError TcdsInfo :=
  match kind with
  | .tcdsCounts => tcds.afterCounts row
  | .tcdsDeadtimes => tcds.afterDeadtimes row
  | .tcdsRates => tcds.afterRates row
  | .tcdsActionCounts => tcds.afterActions row
  | _ => .ok tcds

/-- The record as before any row. -/
def reset (_ : TcdsInfo) : TcdsInfo := {}

/-- The JSON form of the record. -/
def form : Form TcdsInfo where
  shape := .record (.ofList [
    ("tcdsControllerServiceName", .omissible, .option .text),
    ("tcdsControllerContext", .omissible, .option .text),
    ("trgCntTotal", .required, .uint64),
    ("supTrgCntTotal", .required, .uint64),
    ("deadtimeTotal", .required, .double),
    ("deadtimeTts", .required, .double),
    ("deadtimeTrgRules", .required, .double),
    ("deadtimeBunchMaskVeto", .required, .double),
    ("deadtimeRetri", .required, .double),
    ("deadtimeDaqBp", .required, .double),
    ("trgRateTotal", .required, .double),
    ("supTrgRateTotal", .required, .double),
    ("trgRateBeamactiveTotal", .required, .double),
    ("cntResync", .required, .uint64),
    ("cntOc0", .required, .uint64),
    ("cntHardReset", .required, .uint64),
    ("cntStart", .required, .uint64),
    ("globalTtsStates", .required, GlobalTtsState.form.textMap.shape)])
  toVal t :=
    (t.serviceName, t.serviceContext, t.triggersTotal, t.suppressedTotal, t.deadtimeTotal,
      t.deadtimeTts, t.deadtimeTriggerRules, t.deadtimeBunchMaskVeto, t.deadtimeRetri,
      t.deadtimeDaqBackpressure, t.triggerRateTotal, t.suppressedRateTotal,
      t.triggerRateBeamActive, t.resyncs, t.oc0s, t.hardResets, t.starts,
      GlobalTtsState.form.textMap.toVal t.globalTtsStates, ())
  ofVal
    | (serviceName, serviceContext, triggersTotal, suppressedTotal, deadtimeTotal, deadtimeTts,
        deadtimeTriggerRules, deadtimeBunchMaskVeto, deadtimeRetri, deadtimeDaqBackpressure,
        triggerRateTotal, suppressedRateTotal, triggerRateBeamActive, resyncs, oc0s,
        hardResets, starts, globalTtsStates, ()) =>
      { serviceName, serviceContext, triggersTotal, suppressedTotal, deadtimeTotal, deadtimeTts
        deadtimeTriggerRules, deadtimeBunchMaskVeto, deadtimeRetri, deadtimeDaqBackpressure
        triggerRateTotal, suppressedRateTotal, triggerRateBeamActive, resyncs, oc0s
        hardResets, starts
        globalTtsStates := GlobalTtsState.form.textMap.ofVal globalTtsStates }
  ofVal_toVal t := by
    have h : GlobalTtsState.form.textMap.kept t.globalTtsStates = t.globalTtsStates :=
      SortedMap.mapValues_id _
    simp [h]

@[simp] theorem form_kept (t : TcdsInfo) : form.kept t = t := rfl

end TcdsInfo

/-! ## Summaries -/

/-- Sums and means over all readout units. -/
structure FedBuilderSummary where
  rate : Float := 0.0
  throughput : Float := 0.0
  sizeMean : Float := 0.0
  sizeStddev : Float := 0.0
  deltaEvents : UInt64 := 0
  eventsInRu : UInt64 := 0
  fragmentsInRu : UInt64 := 0
  requests : UInt64 := 0
  deriving DecidableEq

/-- The JSON form of the summary of the readout units. -/
def FedBuilderSummary.form : Form FedBuilderSummary where
  shape := .record (.ofList [
    ("rate", .required, .double),
    ("throughput", .required, .double),
    ("superFragmentSizeMean", .required, .double),
    ("superFragmentSizeStddev", .required, .double),
    ("deltaEvents", .required, .uint64),
    ("sumEventsInRu", .required, .uint64),
    ("sumFragmentsInRu", .required, .uint64),
    ("sumRequests", .required, .uint64)])
  toVal s :=
    (s.rate, s.throughput, s.sizeMean, s.sizeStddev, s.deltaEvents, s.eventsInRu,
      s.fragmentsInRu, s.requests, ())
  ofVal
    | (rate, throughput, sizeMean, sizeStddev, deltaEvents, eventsInRu, fragmentsInRu,
        requests, ()) =>
      { rate, throughput, sizeMean, sizeStddev, deltaEvents, eventsInRu, fragmentsInRu, requests }
  ofVal_toVal _ := rfl

@[simp] theorem FedBuilderSummary.form_kept (s : FedBuilderSummary) :
    FedBuilderSummary.form.kept s = s := rfl

/-- Sums and means over all builder units. -/
structure BuSummary where
  rate : Float := 0.0
  throughput : Float := 0.0
  sizeMean : Float := 0.0
  eventsInBu : UInt64 := 0
  eventsBuilt : UInt64 := 0
  numberOfBus : UInt64 := 0
  deriving DecidableEq

/-- The JSON form of the summary of the builder units. -/
def BuSummary.form : Form BuSummary where
  shape := .record (.ofList [
    ("rate", .required, .double),
    ("throughput", .required, .double),
    ("eventSizeMean", .required, .double),
    ("eventsInBu", .required, .uint64),
    ("eventsBuilt", .required, .uint64),
    ("numberOfBus", .required, .uint64)])
  toVal s :=
    (s.rate, s.throughput, s.sizeMean, s.eventsInBu, s.eventsBuilt, s.numberOfBus, ())
  ofVal
    | (rate, throughput, sizeMean, eventsInBu, eventsBuilt, numberOfBus, ()) =>
      { rate, throughput, sizeMean, eventsInBu, eventsBuilt, numberOfBus }
  ofVal_toVal _ := rfl

@[simp] theorem BuSummary.form_kept (s : BuSummary) : BuSummary.form.kept s = s := rfl

end DaqMonitor

/-
  DaqMonitor.Graph.ReadoutUnit

  Readout units: the computers that put the fragments of one FED builder together.
  One of them, the event manager, hands out the events to the builder units; it
  reports through a table of its own, which also carries its allocation rates.

    * `Ru.Report.read row withAllocation` — all values of a row, or why it is
      refused. The four lists with an item per builder unit have one length.
    * `Ru.update kind row ru` — the unit after a row.
-/
import DaqMonitor.Flashlist.Kind
import DaqMonitor.Flashlist.Process
import DaqMonitor.Graph.IdentityForm

namespace DaqMonitor

open Flashlist Json

/-- What the tables tell about a readout unit. -/
structure Ru.State where
  port : UInt16 := 0
  stateName : Option String := none
  errorMessage : Option String := none
  rate : Float := 0.0
  /-- The rate times the mean size. -/
  throughput : Float := 0.0
  sizeMean : Float := 0.0
  sizeStddev : Float := 0.0
  fragmentsInRu : UInt64 := 0
  eventsInRu : UInt64 := 0
  eventCount : UInt64 := 0
  requests : UInt64 := 0
  incompleteFragments : UInt64 := 0
  throughputPerBu : List Float := []
  buTids : List Int64 := []
  fragmentRatePerBu : List Float := []
  retryRatePerBu : List Float := []
  allocateRate : Float := 0.0
  allocateRetryRate : Float := 0.0
  /-- All FEDs of its FED builder are masked; worked out after each cycle. -/
  masked : Bool := false
  crashed : Bool := false
  deriving DecidableEq

/-- A readout unit. -/
structure Ru where
  uid : Uid
  hostname : String
  instanceId : Option UInt32 := none
  /-- Whether it is the event manager. -/
  isEvm : Bool := false
  fedBuilder : FedBuilderId
  state : Ru.State := {}
  deriving DecidableEq

namespace Ru

/-! ## Rows -/

/-- The values of a row of a readout unit or of the event manager. -/
structure Report where
  port : UInt16
  stateName : String
  errorMessage : String
  rate : Float
  sizeMean : Float
  sizeStddev : Float
  fragmentsInRu : UInt64
  eventsInRu : UInt64
  eventCount : UInt64
  requests : UInt64
  incompleteFragments : UInt64
  throughputPerBu : List Float
  buTids : List Int64
  fragmentRatePerBu : List Float
  retryRatePerBu : List Float
  /-- The rates of allocations and of repeated ones, where the row has them. -/
  allocation : Option (Float × Float)

/-- Refuses a list that has not the expected length. -/
def checkLength (column : String) (length expected : Nat) : Except RowError Unit :=
  if length = expected then .ok ()
  else .error (.malformed column (.unequalLength length expected))

/-- The allocation rates of a row; without repeated allocations their rate is zero. -/
def readAllocation (row : Row) : Except RowError (Float × Float) := do
  let retryRate ← row.optional "allocateRetryRate" 0.0 Row.double
  let rate ← row.double "allocateRate"
  .ok (rate, retryRate)

/-- Reads a whole row. -/
def Report.read (row : Row) (withAllocation : Bool) : Except RowError Report := do
  let port ← row.port
  let throughputPerBu ← row.doubleList "throughputPerBU"
  let buTids ← row.integerList "buTids"
  let fragmentRatePerBu ← row.doubleList "fragmentRatePerBU"
  let retryRatePerBu ← row.doubleList "retryRatePerBU"
  checkLength "buTids" buTids.length throughputPerBu.length
  checkLength "fragmentRatePerBU" fragmentRatePerBu.length throughputPerBu.length
  checkLength "retryRatePerBU" retryRatePerBu.length throughputPerBu.length
  let allocation ← if withAllocation then (readAllocation row).map some else .ok none
  let stateName ← row.text "stateName"
  let errorMessage ← row.text "errorMsg"
  let rate ← row.double "eventRate"
  let sizeMean ← row.double "superFragmentSize"
  let sizeStddev ← row.double "superFragmentSizeStdDev"
  let fragmentsInRu ← row.count "fragmentsInRU"
  let eventsInRu ← row.count "eventsInRU"
  let eventCount ← row.count "eventCount"
  let requests ← row.count "activeRequests"
  let incompleteFragments ← row.count "incompleteSuperFragmentCount"
  .ok {
    port, stateName, errorMessage, rate, sizeMean, sizeStddev, fragmentsInRu, eventsInRu
    eventCount, requests, incompleteFragments, throughputPerBu, buTids, fragmentRatePerBu
    retryRatePerBu, allocation }

/-- The state after a row was read. Without allocation rates in the row, these stay as they are. -/
def State.after (state : State) (report : Report) : State :=
  { state with
    port := report.port
    stateName := some report.stateName
    errorMessage := some report.errorMessage
    rate := report.rate
    throughput := report.rate * report.sizeMean
    sizeMean := report.sizeMean
    sizeStddev := report.sizeStddev
    fragmentsInRu := report.fragmentsInRu
    eventsInRu := report.eventsInRu
    eventCount := report.eventCount
    requests := report.requests
    incompleteFragments := report.incompleteFragments
    throughputPerBu := report.throughputPerBu
    buTids := report.buTids
    fragmentRatePerBu := report.fragmentRatePerBu
    retryRatePerBu := report.retryRatePerBu
    allocateRate := (report.allocation.map (·.1)).getD state.allocateRate
    allocateRetryRate := (report.allocation.map (·.2)).getD state.allocateRetryRate }

/-- The state after a row of the given kind. The event manager does not listen to the table of the
    other units. -/
def nextState (ru : Ru) (kind : Kind) (row : Row) : Except RowError State :=
  match kind with
  | .ru => if ru.isEvm then .ok ru.state else (Report.read row false).map ru.state.after
  | .evm => (Report.read row true).map ru.state.after
  | .jobControl => row.crashed.map fun crashed => { ru.state with crashed }
  | _ => .ok ru.state

/-- The unit after a row of the given kind. -/
def update (ru : Ru) (kind : Kind) (row : Row) : Except RowError Ru :=
  (ru.nextState kind row).map fun state => { ru with state }

/-- The unit as before any row. -/
def reset (ru : Ru) : Ru := { ru with state := {} }

/-! ## JSON form -/

/-- The JSON form of a readout unit. -/
def form : Form Ru where
  shape := .record (.ofList [
    ("uid", .required, .uint64),
    ("hostname", .required, .text),
    ("instance", .omissible, .option .uint32),
    ("isEvm", .required, .bool false),
    ("fedBuilder", .required, .uint32),
    ("port", .required, .uint16),
    ("stateName", .omissible, .option .text),
    ("errorMsg", .omissible, .option .text),
    ("rate", .required, .double),
    ("throughput", .required, .double),
    ("superFragmentSizeMean", .required, .double),
    ("superFragmentSizeStddev", .required, .double),
    ("fragmentsInRu", .required, .uint64),
    ("eventsInRu", .required, .uint64),
    ("eventCount", .required, .uint64),
    ("requests", .required, .uint64),
    ("incompleteSuperFragmentCount", .required, .uint64),
    ("throughputPerBu", .required, .list .double),
    ("buTids", .required, .list .int64),
    ("fragmentRatePerBu", .required, .list .double),
    ("retryRatePerBu", .required, .list .double),
    ("allocateRate", .required, .double),
    ("allocateRetryRate", .required, .double),
    ("masked", .required, .bool false),
    ("crashed", .required, .bool false)])
  toVal r :=
    (r.uid.value, r.hostname, r.instanceId, r.isEvm, r.fedBuilder.index, r.state.port,
      r.state.stateName, r.state.errorMessage, r.state.rate, r.state.throughput,
      r.state.sizeMean, r.state.sizeStddev, r.state.fragmentsInRu, r.state.eventsInRu,
      r.state.eventCount, r.state.requests, r.state.incompleteFragments,
      r.state.throughputPerBu, r.state.buTids, r.state.fragmentRatePerBu,
      r.state.retryRatePerBu, r.state.allocateRate, r.state.allocateRetryRate,
      r.state.masked, r.state.crashed, ())
  ofVal
    | (uid, hostname, instanceId, isEvm, fedBuilder, port, stateName, errorMessage, rate,
        throughput, sizeMean, sizeStddev, fragmentsInRu, eventsInRu, eventCount, requests,
        incompleteFragments, throughputPerBu, buTids, fragmentRatePerBu, retryRatePerBu,
        allocateRate, allocateRetryRate, masked, crashed, ()) =>
      { uid := ⟨uid⟩, hostname, instanceId, isEvm, fedBuilder := ⟨fedBuilder⟩
        state := {
          port, stateName, errorMessage, rate, throughput, sizeMean, sizeStddev
          fragmentsInRu, eventsInRu, eventCount, requests, incompleteFragments
          throughputPerBu, buTids, fragmentRatePerBu, retryRatePerBu, allocateRate
          allocateRetryRate, masked, crashed } }
  ofVal_toVal _ := rfl

@[simp] theorem form_kept (ru : Ru) : form.kept ru = ru := rfl

end Ru

end DaqMonitor

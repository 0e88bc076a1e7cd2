/-
  DaqMonitor.Graph.BuilderUnit

  Builder units: the computers that build whole events from what the readout units
  send them.
-/
import DaqMonitor.Flashlist.Kind
import DaqMonitor.Flashlist.Process
import DaqMonitor.Graph.IdentityForm

namespace DaqMonitor

open Flashlist Json

/-- What the tables tell about a builder unit. -/
structure Bu.State where
  port : UInt16 := 0
  stateName : Option String := none
  errorMessage : Option String := none
  rate : Float := 0.0
  throughput : Float := 0.0
  sizeMean : Float := 0.0
  sizeStddev : Float := 0.0
  eventsInBu : UInt64 := 0
  eventsBuilt : UInt64 := 0
  requestRate : Float := 0.0
  crashed : Bool := false
  deriving DecidableEq

/-- A builder unit. -/
structure Bu where
  uid : Uid
  hostname : String
  instanceId : Option UInt32 := none
  state : Bu.State := {}
  deriving DecidableEq

namespace Bu

/-! ## Rows -/

/-- The state after a row of the table of builder units. -/
def State.after (state : State) (row : Row) : Except RowError State := do
  let port ← row.port
  let stateName ← row.text "stateName"
  let errorMessage ← row.text "errorMsg"
  let rate ← row.double "eventRate"
  let throughput ← row.double "bandwidth"
  let sizeMean ← row.double "eventSize"
  let sizeStddev ← row.double "eventSizeStdDev"
  let eventsInBu ← row.count "nbEventsInBU"
  let eventsBuilt ← row.count "nbEventsBuilt"
  let requestRate ← row.double "requestRate"
  .ok { state with
    port, stateName := some stateName, errorMessage := some errorMessage, rate, throughput
    sizeMean, sizeStddev, eventsInBu, eventsBuilt, requestRate }

/-- The state after a row of the given kind. -/
def nextState (bu : Bu) (kind : Kind) (row : Row) : Except RowError State :=
  match kind with
  | .bu => bu.state.after row
  | .jobControl => row.crashed.map fun crashed => { bu.state with crashed }
  | _ => .ok bu.state

/-- The unit after a row of the given kind. -/
def update (bu : Bu) (kind : Kind) (row : Row) : Except RowError Bu :=
  (bu.nextState kind row).map fun state => { bu with state }

/-- The unit as before any row. -/
def reset (bu : Bu) : Bu := { bu with state := {} }

/-! ## JSON form -/

/-- The JSON form of a builder unit. -/
def form : Form Bu where
  shape := .record (.ofList [
    ("uid", .required, .uint64),
    ("hostname", .required, .text),
    ("instance", .omissible, .option .uint32),
    ("port", .required, .uint16),
    ("stateName", .omissible, .option .text),
    ("errorMsg", .omissible, .option .text),
    ("rate", .required, .double),
    ("throughput", .required, .double),
    ("eventSizeMean", .required, .double),
    ("eventSizeStddev", .required, .double),
    ("eventsInBu", .required, .uint64),
    ("eventsBuilt", .required, .uint64),
    ("requestRate", .required, .double),
    ("crashed", .required, .bool false)])
  toVal b :=
    (b.uid.value, b.hostname, b.instanceId, b.state.port, b.state.stateName,
      b.state.errorMessage, b.state.rate, b.state.throughput, b.state.sizeMean,
      b.state.sizeStddev, b.state.eventsInBu, b.state.eventsBuilt, b.state.requestRate,
      b.state.crashed, ())
  ofVal
    | (uid, hostname, instanceId, port, stateName, errorMessage, rate, throughput, sizeMean,
        sizeStddev, eventsInBu, eventsBuilt, requestRate, crashed, ()) =>
      { uid := ⟨uid⟩, hostname, instanceId
        state := {
          port, stateName, errorMessage, rate, throughput, sizeMean, sizeStddev, eventsInBu
          eventsBuilt, requestRate, crashed } }
  ofVal_toVal _ := rfl

@[simp] theorem form_kept (bu : Bu) : form.kept bu = bu := rfl

end Bu

end DaqMonitor

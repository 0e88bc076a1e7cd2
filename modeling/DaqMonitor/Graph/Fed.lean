/-
  DaqMonitor.Graph.Fed

  Front-end drivers: the sources of the fragments that the readout collects.

  What a FED is and where it is plugged in is fixed; `Fed.State` is what the
  tables tell about it, and the standard state is that of a FED no table has told
  anything about.

    * `Fed.update kind row fed` — the FED after a row of a table, or why the row is
      refused. Rows of tables that do not speak of FEDs change nothing.
-/
import DaqMonitor.Flashlist.Kind
import DaqMonitor.Graph.IdentityForm
import DaqMonitor.Graph.RunningTotal

namespace DaqMonitor

open Flashlist Json

/-- What the tables tell about a FED. -/
structure Fed.State where
  receivedId : Int64 := 0
  linkCrcErrors : UInt64 := 0
  fedCrcErrors : UInt64 := 0
  triggers : UInt64 := 0
  eventCounter : UInt64 := 0
  percentBackpressure : Float := 0.0
  percentWarning : Float := 0.0
  percentBusy : Float := 0.0
  ttsState : Option String := none
  fmmMasked : Bool := false
  frlMasked : Bool := false
  /-- The last row of the readout units that names the FED lists it among those with errors. -/
  inError : Bool := false
  /-- The last row of the readout units that names the FED lists it among those without
      fragments. -/
  withoutFragments : Bool := false
  /-- The time of the last row of an input stream. -/
  timestamp : Option String := none
  /-- The backpressure that the card has added up over the run. -/
  backpressure : RunningTotal := {}
  deriving DecidableEq

/-- A front-end driver. -/
structure Fed where
  uid : Uid
  id : UInt32
  /-- The id that its fragments should carry. -/
  expectedId : UInt32
  frl : Option FrlId := none
  /-- The input of the FRL that it is plugged into. -/
  frlInput : Option UInt8 := none
  fmm : Option FmmId := none
  fmmInput : Option UInt32 := none
  /-- For a pseudo-FED: the FEDs whose TTS it stands for. -/
  mainFeds : List FedId := []
  hasSlink : Bool := false
  hasTts : Bool := false
  state : Fed.State := {}
  deriving DecidableEq

namespace Fed

/-! ## Rows -/

/-- The state after a row about an input of an FMM. -/
def State.afterFmmInput (state : State) (row : Row) : Except RowError State := do
  let percentWarning ← Column.double ⟨"fractionWarning", .percent⟩ row
  let percentBusy ← Column.double ⟨"fractionBusy", .percent⟩ row
  let ttsState ← row.text "inputState"
  let fmmMasked ← Column.flag ⟨"isActive", .inverted⟩ row
  .ok { state with percentWarning, percentBusy, ttsState := some ttsState, fmmMasked }

/-- The state after a row about an input stream. The backpressure is what the running total has
    grown by between the last two times. -/
def State.afterInputStream (state : State) (row : Row) : Except RowError State := do
  let receivedId ← row.integer "WrongFEDId"
  let linkCrcErrors ← row.count "LinkCRCError"
  let fedCrcErrors ← row.count "FEDCRCError"
  let triggers ← row.count "TriggerNumber"
  let eventCounter ← row.count "EventCounter"
  let timestamp ← row.text "timestamp"
  let accumulated ← row.double "AccBackpressureSecond"
  let backpressure := state.backpressure.observe timestamp accumulated
  .ok { state with
    receivedId, linkCrcErrors, fedCrcErrors, triggers, eventCounter, backpressure
    percentBackpressure :=
      if state.backpressure.isNew timestamp then backpressure.delta
      else state.percentBackpressure
    timestamp := some timestamp }

/-- The column that says whether the stream of the given input of a card is enabled. -/
def enableColumn? : Option UInt8 → Option String
  | some 0 => some "enableStream0"
  | some 1 => some "enableStream1"
  | _ => none

/-- The state after a row about a whole card, which has a column for each of its two inputs. -/
def State.afterCardConfiguration (state : State) (input : Option UInt8) (row : Row) :
    Except RowError State :=
  match enableColumn? input with
  | none => .ok state
  | some column => do
    let frlMasked ← Column.flag ⟨column, .inverted⟩ row
    .ok { state with frlMasked }

/-- The state after a row about one stream of a card. -/
def State.afterStreamConfiguration (state : State) (row : Row) : Except RowError State := do
  let frlMasked ← Column.flag ⟨"enable", .inverted⟩ row
  .ok { state with frlMasked }

/-- The state after a row of a readout unit that lists FEDs with problems by the id that their
    fragments should carry. -/
def State.afterProblemLists (state : State) (expectedId : UInt32) (row : Row) :
    Except RowError State := do
  let withErrors ← row.optional "fedIdsWithErrors" [] Row.integerList
  let lacking ← row.optional "fedIdsWithoutFragments" [] Row.integerList
  let expected := Int64.ofNat expectedId.toNat
  .ok { state with
    inError := withErrors.contains expected
    withoutFragments := lacking.contains expected }

/-- The state after a row of the given kind. -/
def nextState (fed : Fed) (kind : Kind) (row : Row) : Except RowError State :=
  match kind with
  | .fmmInput => fed.state.afterFmmInput row
  | .ferolInputStream | .ferol40InputStream => fed.state.afterInputStream row
  | .ferolConfiguration => fed.state.afterCardConfiguration fed.frlInput row
  | .ferol40StreamConfiguration => fed.state.afterStreamConfiguration row
  | .ru => fed.state.afterProblemLists fed.expectedId row
  | _ => .ok fed.state

/-- The FED after a row of the given kind. -/
def update (fed : Fed) (kind : Kind) (row : Row) : Except RowError Fed :=
  (fed.nextState kind row).map fun state => { fed with state }

/-- The FED as before any row. -/
def reset (fed : Fed) : Fed := { fed with state := {} }

/-- The FED without the flags that come from the lists of the readout units. -/
def clearProblems (fed : Fed) : Fed :=
  { fed with state := { fed.state with inError := false, withoutFragments := false } }

/-! ## JSON form -/

/-- The FED with a running total that has observed nothing. -/
def withoutTotal (fed : Fed) : Fed := { fed with state := { fed.state with backpressure := {} } }

/-- The JSON form of a FED, which leaves its running total out. -/
def form : Form Fed where
  shape := .record (.ofList [
    ("uid", .required, .uint64),
    ("id", .required, .uint32),
    ("srcIdExpected", .required, .uint32),
    ("frl", .omissible, .option .uint32),
    ("frlIo", .omissible, .option .uint8),
    ("fmm", .omissible, .option .uint32),
    ("fmmIo", .omissible, .option .uint32),
    ("mainFeds", .required, .list .uint32),
    ("hasSlink", .required, .bool false),
    ("hasTts", .required, .bool false),
    ("srcIdReceived", .required, .int64),
    ("numScrcErrors", .required, .uint64),
    ("numFrcErrors", .required, .uint64),
    ("numTriggers", .required, .uint64),
    ("eventCounter", .required, .uint64),
    ("percentBackpressure", .required, .double),
    ("percentWarning", .required, .double),
    ("percentBusy", .required, .double),
    ("ttsState", .omissible, .option .text),
    ("fmmMasked", .required, .bool false),
    ("frlMasked", .required, .bool false),
    ("ruFedInError", .required, .bool false),
    ("ruFedWithoutFragments", .required, .bool false),
    ("timestamp", .omissible, .option .text)])
  toVal f :=
    (f.uid.value, f.id, f.expectedId, EntityId.optionForm.toVal f.frl, f.frlInput,
      EntityId.optionForm.toVal f.fmm, f.fmmInput, EntityId.listForm.toVal f.mainFeds,
      f.hasSlink, f.hasTts, f.state.receivedId,
      f.state.linkCrcErrors, f.state.fedCrcErrors, f.state.triggers, f.state.eventCounter,
      f.state.percentBackpressure, f.state.percentWarning, f.state.percentBusy,
      f.state.ttsState, f.state.fmmMasked, f.state.frlMasked, f.state.inError,
      f.state.withoutFragments, f.state.timestamp, ())
  ofVal
    | (uid, id, expectedId, frl, frlInput, fmm, fmmInput, mainFeds, hasSlink, hasTts,
        receivedId, linkCrcErrors, fedCrcErrors, triggers, eventCounter, percentBackpressure,
        percentWarning, percentBusy, ttsState, fmmMasked, frlMasked, inError, withoutFragments,
        timestamp, ()) =>
      { uid := ⟨uid⟩, id, expectedId, frl := EntityId.optionForm.ofVal frl, frlInput
        fmm := EntityId.optionForm.ofVal fmm, fmmInput, mainFeds := EntityId.listForm.ofVal mainFeds
        hasSlink, hasTts
        state := {
          receivedId, linkCrcErrors, fedCrcErrors, triggers, eventCounter, percentBackpressure
          percentWarning, percentBusy, ttsState, fmmMasked, frlMasked, inError
          withoutFragments, timestamp } }
  kept := withoutTotal
  ofVal_toVal f := by simp [withoutTotal]

end Fed

end DaqMonitor

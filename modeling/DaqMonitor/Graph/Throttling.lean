/-
  DaqMonitor.Graph.Throttling

  The side of the graph that holds triggers back: FMMs merge the states of FEDs,
  an FMM application drives the FMMs of a crate, TTC partitions get the merged
  states, and subsystems of the detector own the partitions.
-/
import DaqMonitor.Flashlist.Kind
import DaqMonitor.Flashlist.Process
import DaqMonitor.Graph.IdentityForm

namespace DaqMonitor

open Flashlist Json

/-! ## Outputs of an FMM -/

/-- What a row tells about one output of an FMM. -/
structure FmmOutput where
  ttsState : String
  percentBusy : Float
  percentWarning : Float
  deriving DecidableEq

/-- Reads the output with the given letter. -/
def FmmOutput.read (letter : String) (row : Row) : Except RowError FmmOutput := do
  let ttsState ← row.text ("outputState" ++ letter)
  let percentBusy ← Column.double ⟨"outputFractionBusy" ++ letter, .percent⟩ row
  let percentWarning ← Column.double ⟨"outputFractionWarning" ++ letter, .percent⟩ row
  .ok { ttsState, percentBusy, percentWarning }

/-! ## FMMs -/

/-- A fast merging module in a slot of a crate. -/
structure Fmm where
  uid : Uid
  slot : UInt32
  dual : Bool := false
  application : FmmApplicationId
  ttcPartition : Option TtcPartitionId := none
  feds : List FedId := []
  outputStateA : Option String := none
  outputStateB : Option String := none
  percentBusy : Float := 0.0
  percentWarning : Float := 0.0
  deriving DecidableEq

namespace Fmm

/-- The module after a row of the given kind. Its percentages are those of the output `A`. -/
def update (fmm : Fmm) (kind : Kind) (row : Row) : Except RowError Fmm :=
  match kind with
  | .fmmStatus => do
    let outputA ← FmmOutput.read "A" row
    let stateB ← row.text "outputStateB"
    .ok { fmm with
      outputStateA := some outputA.ttsState
      outputStateB := some stateB
      percentBusy := outputA.percentBusy
      percentWarning := outputA.percentWarning }
  | _ => .ok fmm

/-- The module as before any row. -/
def reset (fmm : Fmm) : Fmm :=
  { fmm with outputStateA := none, outputStateB := none, percentBusy := 0.0, percentWarning := 0.0 }

/-- The JSON form of an FMM. -/
def form : Form Fmm where
  shape := .record (.ofList [
    ("uid", .required, .uint64),
    ("geoslot", .required, .uint32),
    ("dual", .required, .bool false),
    ("fmmApplication", .required, .uint32),
    ("ttcPartition", .omissible, .option .uint32),
    ("feds", .required, .list .uint32),
    ("outputStateA", .omissible, .option .text),
    ("outputStateB", .omissible, .option .text),
    ("percentBusy", .required, .double),
    ("percentWarning", .required, .double)])
  toVal f :=
    (f.uid.value, f.slot, f.dual, f.application.index,
      EntityId.optionForm.toVal f.ttcPartition, EntityId.listForm.toVal f.feds, f.outputStateA,
      f.outputStateB, f.percentBusy, f.percentWarning, ())
  ofVal
    | (uid, slot, dual, application, ttcPartition, feds, outputStateA, outputStateB,
        percentBusy, percentWarning, ()) =>
      { uid := ⟨uid⟩, slot, dual, application := ⟨application⟩
        ttcPartition := EntityId.optionForm.ofVal ttcPartition
        feds := EntityId.listForm.ofVal feds, outputStateA, outputStateB, percentBusy
        percentWarning }
  ofVal_toVal f := by simp

@[simp] theorem form_kept (f : Fmm) : form.kept f = f := rfl

end Fmm

/-- The application that drives the FMMs of a crate. -/
structure FmmApplication where
  uid : Uid
  hostname : String
  crashed : Bool := false
  deriving DecidableEq

namespace FmmApplication

/-- The application after a row of the given kind. -/
def update (app : FmmApplication) (kind : Kind) (row : Row) : Except RowError FmmApplication :=
  match kind with
  | .jobControl => row.crashed.map fun crashed => { app with crashed }
  | _ => .ok app

/-- The application as before any row. -/
def reset (app : FmmApplication) : FmmApplication := { app with crashed := false }

/-- The JSON form of an FMM application. -/
def form : Form FmmApplication where
  shape := .record (.ofList [
    ("uid", .required, .uint64),
    ("hostname", .required, .text),
    ("crashed", .required, .bool false)])
  toVal a := (a.uid.value, a.hostname, a.crashed, ())
  ofVal | (uid, hostname, crashed, ()) => { uid := ⟨uid⟩, hostname, crashed }
  ofVal_toVal _ := rfl

@[simp] theorem form_kept (a : FmmApplication) : form.kept a = a := rfl

end FmmApplication

/-! ## Partitions -/

/-- Where a partition is wired into the TCDS. -/
structure TcdsAddress where
  pmNumber : Int64 := 0
  iciNumber : Int64 := 0
  /-- Why the partition has no place in the TCDS, where it has none. It then stands for both TCDS
      states of the partition. -/
  nullCause : Option String := none
  deriving DecidableEq

/-- The JSON form of an address in the TCDS. -/
def TcdsAddress.form : Form TcdsAddress where
  shape := .record (.ofList [
    ("pmNr", .required, .int64),
    ("iciNr", .required, .int64),
    ("nullCause", .omissible, .option .text)])
  toVal a := (a.pmNumber, a.iciNumber, a.nullCause, ())
  ofVal | (pmNumber, iciNumber, nullCause, ()) => { pmNumber, iciNumber, nullCause }
  ofVal_toVal _ := rfl

@[simp] theorem TcdsAddress.form_kept (a : TcdsAddress) : TcdsAddress.form.kept a = a := rfl

/-- A TTC partition. -/
structure TtcPartition where
  uid : Uid
  name : String
  number : UInt32
  /-- The FMM that merges the states of the partition. -/
  fmm : Option FmmId := none
  /-- The output of that FMM: zero for `A`, all others for `B`. -/
  fmmOutput : UInt8 := 0
  subSystem : Option SubSystemId := none
  tcds : TcdsAddress := {}
  ttsState : Option String := none
  percentBusy : Float := 0.0
  percentWarning : Float := 0.0
  tcdsPmTtsState : Option String := none
  tcdsApvPmTtsState : Option String := none
  deriving DecidableEq

namespace TtcPartition

/-- The letter of the output that the partition is wired to. -/
def outputLetter (p : TtcPartition) : String := if p.fmmOutput = 0 then "A" else "B"

/-- The partition after a row of the given kind. -/
def update (p : TtcPartition) (kind : Kind) (row : Row) : Except RowError TtcPartition :=
  match kind with
  | .fmmStatus => (FmmOutput.read p.outputLetter row).map fun output =>
      { p with
        ttsState := some output.ttsState
        percentBusy := output.percentBusy
        percentWarning := output.percentWarning }
  | _ => .ok p

/-- The partition as before any row. -/
def reset (p : TtcPartition) : TtcPartition :=
  { p with
    ttsState := none, percentBusy := 0.0, percentWarning := 0.0, tcdsPmTtsState := none
    tcdsApvPmTtsState := none }

/-- The JSON form of a partition. -/
def form : Form TtcPartition where
  shape := .record (.ofList [
    ("uid", .required, .uint64),
    ("name", .required, .text),
    ("ttcpNr", .required, .uint32),
    ("fmm", .omissible, .option .uint32),
    ("fmmIo", .required, .uint8),
    ("subSystem", .omissible, .option .uint32),
    ("tcdsPartitionInfo", .required, TcdsAddress.form.shape),
    ("ttsState", .omissible, .option .text),
    ("percentBusy", .required, .double),
    ("percentWarning", .required, .double),
    ("tcdsPmTtsState", .omissible, .option .text),
    ("tcdsApvPmTtsState", .omissible, .option .text)])
  toVal p :=
    (p.uid.value, p.name, p.number, EntityId.optionForm.toVal p.fmm, p.fmmOutput,
      EntityId.optionForm.toVal p.subSystem, TcdsAddress.form.toVal p.tcds, p.ttsState,
      p.percentBusy, p.percentWarning, p.tcdsPmTtsState, p.tcdsApvPmTtsState, ())
  ofVal
    | (uid, name, number, fmm, fmmOutput, subSystem, tcds, ttsState, percentBusy,
        percentWarning, tcdsPmTtsState, tcdsApvPmTtsState, ()) =>
      { uid := ⟨uid⟩, name, number, fmm := EntityId.optionForm.ofVal fmm, fmmOutput
        subSystem := EntityId.optionForm.ofVal subSystem, tcds := TcdsAddress.form.ofVal tcds
        ttsState, percentBusy, percentWarning, tcdsPmTtsState, tcdsApvPmTtsState }
  ofVal_toVal p := by simp

@[simp] theorem form_kept (p : TtcPartition) : form.kept p = p := rfl

end TtcPartition

/-! ## Subsystems -/

/-- A subsystem of the detector. -/
structure SubSystem where
  uid : Uid
  name : String
  ttcPartitions : List TtcPartitionId := []
  status : Option String := none
  deriving DecidableEq

namespace SubSystem

/-- The subsystem after a row of the given kind. -/
def update (s : SubSystem) (kind : Kind) (row : Row) : Except RowError SubSystem :=
  match kind with
  | .levelZeroSubsystems => (row.text "STATE").map fun state => { s with status := some state }
  | _ => .ok s

/-- The subsystem as before any row. -/
def reset (s : SubSystem) : SubSystem := { s with status := none }

/-- The JSON form of a subsystem. -/
def form : Form SubSystem where
  shape := .record (.ofList [
    ("uid", .required, .uint64),
    ("name", .required, .text),
    ("ttcPartitions", .required, .list .uint32),
    ("status", .omissible, .option .text)])
  toVal s := (s.uid.value, s.name, EntityId.listForm.toVal s.ttcPartitions, s.status, ())
  ofVal
    | (uid, name, ttcPartitions, status, ()) =>
      { uid := ⟨uid⟩, name, ttcPartitions := EntityId.listForm.ofVal ttcPartitions, status }
  ofVal_toVal s := by simp

@[simp] theorem form_kept (s : SubSystem) : form.kept s = s := rfl

end SubSystem

end DaqMonitor

/-
  DaqMonitor.Topology.Spec

  The description of a session's topology: what there is and how it is wired.

  Entities refer to each other by name. Most parts may be left out; they then have
  their standard value.

    * `Spec.ofText` — reads a description.
    * `Spec.toJson` — writes one, with all standard values filled in.
-/
import DaqMonitor.Graph.Frl

namespace DaqMonitor.Topology

open Json

/-- A subsystem of the detector. -/
structure SubSystemSpec where
  name : String
  deriving DecidableEq

/-- An FMM, by the application that drives it and by its slot. -/
structure FmmRef where
  application : String
  slot : UInt32
  deriving DecidableEq

/-- An input of an FMM. -/
structure FmmInputRef where
  application : String
  slot : UInt32
  input : UInt32
  deriving DecidableEq

/-- The FMM that an input belongs to. -/
def FmmInputRef.fmm (r : FmmInputRef) : FmmRef := ⟨r.application, r.slot⟩

/-- The place of a partition in the TCDS. -/
structure TcdsSpec where
  pmNumber : Int64
  iciNumber : Int64
  nullCause : Option String := none
  deriving DecidableEq

/-- A TTC partition. -/
structure TtcPartitionSpec where
  name : String
  number : UInt32
  subsystem : Option String := none
  fmm : Option FmmRef := none
  fmmOutput : UInt8 := 0
  tcds : Option TcdsSpec := none
  deriving DecidableEq

/-- An FMM. -/
structure FmmSpec where
  application : String
  slot : UInt32
  dual : Bool := false
  deriving DecidableEq

/-- How an FMM is referred to. -/
def FmmSpec.ref (f : FmmSpec) : FmmRef := ⟨f.application, f.slot⟩

/-- A readout unit or a builder unit. -/
structure UnitSpec where
  hostname : String
  instanceId : Option UInt32 := none
  evm : Bool := false
  deriving DecidableEq

/-- A FED. -/
structure FedSpec where
  id : UInt32
  /-- The id that its fragments should carry, its own where it is left out. -/
  expectedId : Option UInt32 := none
  input : UInt8 := 0
  fmm : Option FmmInputRef := none
  slink : Bool := true
  tts : Bool := true
  mainFeds : List UInt32 := []
  deriving DecidableEq

/-- A readout card with the FEDs plugged into it. -/
structure FrlSpec where
  slot : UInt32
  kind : CardKind := .ferol
  feds : List FedSpec := []
  deriving DecidableEq

/-- A line of cards. -/
structure SubFedBuilderSpec where
  name : String
  ttcPartition : String
  frlPc : Option String := none
  frls : List FrlSpec := []
  deriving DecidableEq

/-- A slice of the event building. -/
structure FedBuilderSpec where
  name : String
  ru : UnitSpec
  subFedBuilders : List SubFedBuilderSpec := []
  deriving DecidableEq

/-- The description of a topology. -/
structure Spec where
  sessionId : Option Int64 := none
  subsystems : List SubSystemSpec := []
  ttcPartitions : List TtcPartitionSpec := []
  frlPcs : List String := []
  fmmApplications : List String := []
  fmms : List FmmSpec := []
  bus : List UnitSpec := []
  fedBuilders : List FedBuilderSpec := []
  deriving DecidableEq

/-- The FEDs of a slice, in order. -/
def FedBuilderSpec.feds (f : FedBuilderSpec) : List FedSpec :=
  f.subFedBuilders.flatMap fun s => s.frls.flatMap (·.feds)

/-- All FEDs of a topology, in order. -/
def Spec.feds (spec : Spec) : List FedSpec := spec.fedBuilders.flatMap (·.feds)

/-! ## JSON forms -/

namespace SubSystemSpec

/-- The JSON form of a subsystem. -/
def form : Form SubSystemSpec where
  shape := .record (.ofList [("name", .required, .text)])
  toVal s := (s.name, ())
  ofVal | (name, ()) => { name }
  ofVal_toVal _ := rfl

@[simp] theorem form_kept (s : SubSystemSpec) : form.kept s = s := rfl

end SubSystemSpec

namespace FmmRef

/-- The JSON form of a reference to an FMM. -/
def form : Form FmmRef where
  shape := .record (.ofList [
    ("application", .required, .text),
    ("geoslot", .required, .uint32)])
  toVal r := (r.application, r.slot, ())
  ofVal | (application, slot, ()) => { application, slot }
  ofVal_toVal _ := rfl

/-- The JSON form of a reference to an FMM that may be left out. -/
def optionForm : Form (Option FmmRef) where
  shape := .option form.shape
  toVal := form.option.toVal
  ofVal := form.option.ofVal
  ofVal_toVal r := by cases r <;> rfl

@[simp] theorem optionForm_kept (r : Option FmmRef) : optionForm.kept r = r := rfl

end FmmRef

namespace FmmInputRef

/-- The JSON form of a reference to an input of an FMM. -/
def form : Form FmmInputRef where
  shape := .record (.ofList [
    ("application", .required, .text),
    ("geoslot", .required, .uint32),
    ("io", .required, .uint32)])
  toVal r := (r.application, r.slot, r.input, ())
  ofVal | (application, slot, input, ()) => { application, slot, input }
  ofVal_toVal _ := rfl

/-- The JSON form of a reference to an input of an FMM that may be left out. -/
def optionForm : Form (Option FmmInputRef) where
  shape := .option form.shape
  toVal := form.option.toVal
  ofVal := form.option.ofVal
  ofVal_toVal r := by cases r <;> rfl

@[simp] theorem optionForm_kept (r : Option FmmInputRef) : optionForm.kept r = r := rfl

end FmmInputRef

namespace TcdsSpec

/-- The JSON form of a place in the TCDS. -/
def form : Form TcdsSpec where
  shape := .record (.ofList [
    ("pmNr", .required, .int64),
    ("iciNr", .required, .int64),
    ("nullCause", .defaulted, .option .text)])
  toVal t := (t.pmNumber, t.iciNumber, t.nullCause, ())
  ofVal | (pmNumber, iciNumber, nullCause, ()) => { pmNumber, iciNumber, nullCause }
  ofVal_toVal _ := rfl

/-- The JSON form of a place in the TCDS that may be left out. -/
def optionForm : Form (Option TcdsSpec) where
  shape := .option form.shape
  toVal := form.option.toVal
  ofVal := form.option.ofVal
  ofVal_toVal t := by cases t <;> rfl

@[simp] theorem optionForm_kept (t : Option TcdsSpec) : optionForm.kept t = t := rfl

end TcdsSpec

namespace TtcPartitionSpec

/-- The JSON form of a TTC partition. -/
def form : Form TtcPartitionSpec where
  shape := .record (.ofList [
    ("name", .required, .text),
    ("ttcpNr", .required, .uint32),
    ("subsystem", .defaulted, .option .text),
    ("fmm", .defaulted, FmmRef.optionForm.shape),
    ("fmmIo", .defaulted, .uint8),
    ("tcds", .defaulted, TcdsSpec.optionForm.shape)])
  toVal p :=
    (p.name, p.number, p.subsystem, FmmRef.optionForm.toVal p.fmm, p.fmmOutput,
      TcdsSpec.optionForm.toVal p.tcds, ())
  ofVal
    | (name, number, subsystem, fmm, fmmOutput, tcds, ()) =>
      { name, number, subsystem, fmm := FmmRef.optionForm.ofVal fmm, fmmOutput
        tcds := TcdsSpec.optionForm.ofVal tcds }
  ofVal_toVal p := by simp

@[simp] theorem form_kept (p : TtcPartitionSpec) : form.kept p = p := rfl

end TtcPartitionSpec

namespace FmmSpec

/-- The JSON form of an FMM. -/
def form : Form FmmSpec where
  shape := .record (.ofList [
    ("application", .required, .text),
    ("geoslot", .required, .uint32),
    ("dual", .defaulted, .bool false)])
  toVal f := (f.application, f.slot, f.dual, ())
  ofVal | (application, slot, dual, ()) => { application, slot, dual }
  ofVal_toVal _ := rfl

@[simp] theorem form_kept (f : FmmSpec) : form.kept f = f := rfl

end FmmSpec

namespace UnitSpec

/-- The JSON form of a unit. -/
def form : Form UnitSpec where
  shape := .record (.ofList [
    ("hostname", .required, .text),
    ("instance", .defaulted, .option .uint32),
    ("evm", .defaulted, .bool false)])
  toVal u := (u.hostname, u.instanceId, u.evm, ())
  ofVal | (hostname, instanceId, evm, ()) => { hostname, instanceId, evm }
  ofVal_toVal _ := rfl

@[simp] theorem form_kept (u : UnitSpec) : form.kept u = u := rfl

end UnitSpec

namespace FedSpec

/-- The JSON form of a FED. -/
def form : Form FedSpec where
  shape := .record (.ofList [
    ("id", .required, .uint32),
    ("srcIdExpected", .defaulted, .option .uint32),
    ("io", .defaulted, .uint8),
    ("fmm", .defaulted, FmmInputRef.optionForm.shape),
    ("slink", .defaulted, .bool true),
    ("tts", .defaulted, .bool true),
    ("mainFeds", .defaulted, .list .uint32)])
  toVal f :=
    (f.id, f.expectedId, f.input, FmmInputRef.optionForm.toVal f.fmm, f.slink, f.tts,
      f.mainFeds, ())
  ofVal
    | (id, expectedId, input, fmm, slink, tts, mainFeds, ()) =>
      { id, expectedId, input, fmm := FmmInputRef.optionForm.ofVal fmm, slink, tts, mainFeds }
  ofVal_toVal f := by simp

@[simp] theorem form_kept (f : FedSpec) : form.kept f = f := rfl

end FedSpec

namespace FrlSpec

/-- The JSON form of a card. -/
def form : Form FrlSpec where
  shape := .record (.ofList [
    ("geoSlot", .required, .uint32),
    ("kind", .defaulted, CardKind.form.shape),
    ("feds", .defaulted, FedSpec.form.list.shape)])
  toVal f := (f.slot, CardKind.form.toVal f.kind, FedSpec.form.list.toVal f.feds, ())
  ofVal
    | (slot, kind, feds, ()) =>
      { slot, kind := CardKind.form.ofVal kind, feds := FedSpec.form.list.ofVal feds }
  ofVal_toVal f := by simp [Form.list_kept FedSpec.form_kept]

@[simp] theorem form_kept (f : FrlSpec) : form.kept f = f := rfl

end FrlSpec

namespace SubFedBuilderSpec

/-- The JSON form of a sub-FED-builder. -/
def form : Form SubFedBuilderSpec where
  shape := .record (.ofList [
    ("name", .required, .text),
    ("ttcPartition", .required, .text),
    ("frlPc", .defaulted, .option .text),
    ("frls", .defaulted, FrlSpec.form.list.shape)])
  toVal s := (s.name, s.ttcPartition, s.frlPc, FrlSpec.form.list.toVal s.frls, ())
  ofVal
    | (name, ttcPartition, frlPc, frls, ()) =>
      { name, ttcPartition, frlPc, frls := FrlSpec.form.list.ofVal frls }
  ofVal_toVal s := by simp [Form.list_kept FrlSpec.form_kept]

@[simp] theorem form_kept (s : SubFedBuilderSpec) : form.kept s = s := rfl

end SubFedBuilderSpec

namespace FedBuilderSpec

/-- The JSON form of a FED builder. -/
def form : Form FedBuilderSpec where
  shape := .record (.ofList [
    ("name", .required, .text),
    ("ru", .required, UnitSpec.form.shape),
    ("subFedBuilders", .defaulted, SubFedBuilderSpec.form.list.shape)])
  toVal f :=
    (f.name, UnitSpec.form.toVal f.ru, SubFedBuilderSpec.form.list.toVal f.subFedBuilders, ())
  ofVal
    | (name, ru, subFedBuilders, ()) =>
      { name, ru := UnitSpec.form.ofVal ru
        subFedBuilders := SubFedBuilderSpec.form.list.ofVal subFedBuilders }
  ofVal_toVal f := by simp [Form.list_kept SubFedBuilderSpec.form_kept]

@[simp] theorem form_kept (f : FedBuilderSpec) : form.kept f = f := rfl

end FedBuilderSpec

namespace Spec

/-- The JSON form of a description. -/
def form : Form Spec where
  shape := .record (.ofList [
    ("sessionId", .defaulted, .option .int64),
    ("subsystems", .defaulted, SubSystemSpec.form.list.shape),
    ("ttcPartitions", .defaulted, TtcPartitionSpec.form.list.shape),
    ("frlPcs", .defaulted, .list .text),
    ("fmmApplications", .defaulted, .list .text),
    ("fmms", .defaulted, FmmSpec.form.list.shape),
    ("bus", .defaulted, UnitSpec.form.list.shape),
    ("fedBuilders", .defaulted, FedBuilderSpec.form.list.shape)])
  toVal s :=
    (s.sessionId, SubSystemSpec.form.list.toVal s.subsystems,
      TtcPartitionSpec.form.list.toVal s.ttcPartitions, s.frlPcs, s.fmmApplications,
      FmmSpec.form.list.toVal s.fmms, UnitSpec.form.list.toVal s.bus,
      FedBuilderSpec.form.list.toVal s.fedBuilders, ())
  ofVal
    | (sessionId, subsystems, ttcPartitions, frlPcs, fmmApplications, fmms, bus,
        fedBuilders, ()) =>
      { sessionId
        subsystems := SubSystemSpec.form.list.ofVal subsystems
        ttcPartitions := TtcPartitionSpec.form.list.ofVal ttcPartitions
        frlPcs
        fmmApplications
        fmms := FmmSpec.form.list.ofVal fmms
        bus := UnitSpec.form.list.ofVal bus
        fedBuilders := FedBuilderSpec.form.list.ofVal fedBuilders }
  ofVal_toVal s := by
    simp [Form.list_kept SubSystemSpec.form_kept, Form.list_kept TtcPartitionSpec.form_kept,
      Form.list_kept FmmSpec.form_kept, Form.list_kept UnitSpec.form_kept,
      Form.list_kept FedBuilderSpec.form_kept]

/-- Reads the text of a description. -/
def ofText (text : String) : Except Fault Spec := form.ofText text

/-- The JSON value of a description. -/
def toJson (spec : Spec) : Json := form.encode spec

end Spec

end DaqMonitor.Topology

/-
  DaqMonitor.Graph.Frl

  Readout cards, which FEDs are plugged into, and the computers that control them.
-/
import DaqMonitor.Flashlist.Kind
import DaqMonitor.Flashlist.Process
import DaqMonitor.Graph.IdentityForm

namespace DaqMonitor

open Flashlist Json

/-- The generations of readout cards. -/
inductive CardKind where
  /-- The older card, with two inputs. -/
  | ferol
  /-- The newer card, with four inputs. -/
  | ferol40
  deriving DecidableEq, Repr, Inhabited

namespace CardKind

/-- The kind of flashlist that tells the state of such a card. -/
def statusKind : CardKind → Kind
  | ferol => .ferolStatus
  | ferol40 => .ferol40Status

/-- The greatest input of such a card. -/
def lastInput : CardKind → UInt8
  | ferol => 1
  | ferol40 => 3

/-- The name of a generation in messages. -/
def label : CardKind → String
  | ferol => "Ferol"
  | ferol40 => "Ferol40"

/-- The JSON form of a generation: its name, the older one where it may be left out. -/
def form : Form CardKind where
  shape := .choice "FEROL" ["FEROL40"]
  toVal
    | ferol => (0 : Fin 2)
    | ferol40 => (1 : Fin 2)
  ofVal := fun (i : Fin 2) => if i = 0 then ferol else ferol40
  ofVal_toVal kind := by cases kind <;> rfl

@[simp] theorem form_kept (kind : CardKind) : form.kept kind = kind := rfl

end CardKind

/-! ## Cards -/

/-- A readout card in a slot of a crate. -/
structure Frl where
  uid : Uid
  slot : UInt32
  kind : CardKind
  subFedBuilder : SubFedBuilderId
  /-- The computer that controls the card. -/
  pc : Option FrlPcId := none
  /-- The FEDs by the input they are plugged into. -/
  feds : SortedMap UInt8 FedId := ∅
  stateName : Option String := none
  deriving DecidableEq

namespace Frl

/-- The card after a row of the given kind. A card listens to the status table of its own generation
    only. -/
def update (frl : Frl) (kind : Kind) (row : Row) : Except RowError Frl :=
  if kind = frl.kind.statusKind then
    (row.text "stateName").map fun stateName => { frl with stateName := some stateName }
  else .ok frl

/-- The card as before any row. -/
def reset (frl : Frl) : Frl := { frl with stateName := none }

/-- The JSON form of a card. -/
def form : Form Frl where
  shape := .record (.ofList [
    ("uid", .required, .uint64),
    ("geoSlot", .required, .uint32),
    ("kind", .required, CardKind.form.shape),
    ("subFedBuilder", .required, .uint32),
    ("frlPc", .omissible, .option .uint32),
    ("feds", .required, .byteMap .uint32),
    ("stateName", .omissible, .option .text)])
  toVal f :=
    (f.uid.value, f.slot, CardKind.form.toVal f.kind, f.subFedBuilder.index,
      EntityId.optionForm.toVal f.pc, EntityId.byteMapForm.toVal f.feds, f.stateName, ())
  ofVal
    | (uid, slot, kind, subFedBuilder, pc, feds, stateName, ()) =>
      { uid := ⟨uid⟩, slot, kind := CardKind.form.ofVal kind, subFedBuilder := ⟨subFedBuilder⟩
        pc := EntityId.optionForm.ofVal pc, feds := EntityId.byteMapForm.ofVal feds, stateName }
  ofVal_toVal f := by simp

@[simp] theorem form_kept (f : Frl) : form.kept f = f := rfl

end Frl

/-! ## Computers that control cards -/

/-- A computer that controls the cards of some crates. -/
structure FrlPc where
  uid : Uid
  hostname : String
  crashed : Bool := false
  deriving DecidableEq

namespace FrlPc

/-- The computer after a row of the given kind. -/
def update (pc : FrlPc) (kind : Kind) (row : Row) : Except RowError FrlPc :=
  match kind with
  | .jobControl => row.crashed.map fun crashed => { pc with crashed }
  | _ => .ok pc

/-- The computer as before any row. -/
def reset (pc : FrlPc) : FrlPc := { pc with crashed := false }

/-- The JSON form of a computer. -/
def form : Form FrlPc where
  shape := .record (.ofList [
    ("uid", .required, .uint64),
    ("hostname", .required, .text),
    ("crashed", .required, .bool false)])
  toVal p := (p.uid.value, p.hostname, p.crashed, ())
  ofVal | (uid, hostname, crashed, ()) => { uid := ⟨uid⟩, hostname, crashed }
  ofVal_toVal _ := rfl

@[simp] theorem form_kept (p : FrlPc) : form.kept p = p := rfl

end FrlPc

end DaqMonitor

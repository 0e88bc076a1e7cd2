/-
  DaqMonitor.Graph.IdentityForm

  The JSON forms of identities and positions: plain numbers.
-/
import DaqMonitor.Graph.Identity
import DaqMonitor.Json.Form

namespace DaqMonitor

open Json

/-- An identity as a number. -/
def Uid.form : Form Uid := ⟨.uint64, Uid.value, Uid.mk, id, fun _ => rfl⟩

/-- A position as a number. -/
def EntityId.form {arena : Arena} : Form (EntityId arena) :=
  ⟨.uint32, EntityId.index, EntityId.mk, id, fun _ => rfl⟩

namespace EntityId

variable {arena : Arena}

/-- A position, or `null`. -/
def optionForm : Form (Option (EntityId arena)) where
  shape := .option .uint32
  toVal id := id.map EntityId.index
  ofVal n := Option.map EntityId.mk n
  ofVal_toVal id := by cases id <;> rfl

/-- A list of positions. -/
def listForm : Form (List (EntityId arena)) where
  shape := .list .uint32
  toVal ids := ids.map EntityId.index
  ofVal ns := List.map EntityId.mk ns
  ofVal_toVal ids := by
    induction ids with
    | nil => rfl
    | cons id ids ih => exact congrArg (id :: ·) ih

/-- Positions by numbers below 256. -/
def byteMapForm : Form (SortedMap UInt8 (EntityId arena)) where
  shape := .byteMap .uint32
  toVal m := m.mapValues EntityId.index
  ofVal m := SortedMap.mapValues EntityId.mk m
  ofVal_toVal m := (form.byteMap.ofVal_toVal m).trans (SortedMap.mapValues_id m)

@[simp] theorem byteMapForm_kept (m : SortedMap UInt8 (EntityId arena)) :
    byteMapForm.kept m = m := rfl

@[simp] theorem optionForm_kept (id : Option (EntityId arena)) : optionForm.kept id = id := rfl

@[simp] theorem listForm_kept (ids : List (EntityId arena)) : listForm.kept ids = ids := rfl

end EntityId

end DaqMonitor

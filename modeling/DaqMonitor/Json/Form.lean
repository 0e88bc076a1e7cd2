/-
  DaqMonitor.Json.Form

  The JSON form of a type: its shape, and the two conversions between the type and
  what the shape carries. Reading back what was converted gives what the form
  keeps of a value, mostly all of it; that law is part of the form.
-/
import DaqMonitor.Json.Shape

namespace DaqMonitor.Json

/-- The JSON form of a type. -/
structure Form (α : Type) where
  shape : Shape
  toVal : α → shape.Val
  ofVal : shape.Val → α
  /-- What is left of a value that is written and read back. -/
  kept : α → α := fun a => a
  ofVal_toVal : ∀ a, ofVal (toVal a) = kept a

namespace Form

variable {α : Type}

attribute [simp] ofVal_toVal

/-- The JSON value that stands for `a`. -/
def encode (f : Form α) (a : α) : Json := f.shape.encode (f.toVal a)

/-- What the tree of a text stands for. -/
def decode (f : Form α) (source : Source) : Except Fault α := (f.shape.decode source).map f.ofVal

/-- Reads a text. -/
def ofText (f : Form α) (text : String) : Except Fault α := (f.shape.ofText text).map f.ofVal

/-- Reads a value. -/
def ofJson (f : Form α) (json : Json) : Except Fault α := (f.shape.ofJson json).map f.ofVal

/-! ## Forms of single values -/

/-- A truth value, false where it may be left out. -/
def bool : Form Bool := ⟨.bool false, id, id, id, fun _ => rfl⟩

/-- A number below `2 ^ 8`. -/
def uint8 : Form UInt8 := ⟨.uint8, id, id, id, fun _ => rfl⟩

/-- A number below `2 ^ 16`. -/
def uint16 : Form UInt16 := ⟨.uint16, id, id, id, fun _ => rfl⟩

/-- A number below `2 ^ 32`. -/
def uint32 : Form UInt32 := ⟨.uint32, id, id, id, fun _ => rfl⟩

/-- A number below `2 ^ 64`. -/
def uint64 : Form UInt64 := ⟨.uint64, id, id, id, fun _ => rfl⟩

/-- A whole number of 64 bits, one of them for the sign. -/
def int64 : Form Int64 := ⟨.int64, id, id, id, fun _ => rfl⟩

/-- A double. -/
def double : Form Float := ⟨.double, id, id, id, fun _ => rfl⟩

/-- A text. -/
def text : Form String := ⟨.text, id, id, id, fun _ => rfl⟩

/-! ## Forms of collections -/

/-- A value or `null`. -/
def option (f : Form α) : Form (Option α) where
  shape := .option f.shape
  toVal v := v.map f.toVal
  ofVal v := Option.map f.ofVal v
  kept v := v.map f.kept
  ofVal_toVal v := by cases v <;> simp

/-- A list. -/
def list (f : Form α) : Form (List α) where
  shape := .list f.shape
  toVal vs := vs.map f.toVal
  ofVal vs := List.map f.ofVal vs
  kept vs := vs.map f.kept
  ofVal_toVal vs := by simp [List.map_map, Function.comp_def]

/-- A form that keeps all of its values keeps all of a list of them. -/
theorem list_kept {f : Form α} (h : ∀ a, f.kept a = a) (as : List α) : f.list.kept as = as :=
  (List.map_congr_left fun a _ => h a).trans (List.map_id as)

/-- An object whose keys are any texts. -/
def textMap (f : Form α) : Form (SortedMap String α) where
  shape := .textMap f.shape
  toVal m := m.mapValues f.toVal
  ofVal m := SortedMap.mapValues f.ofVal m
  kept m := m.mapValues f.kept
  ofVal_toVal m := by
    rw [SortedMap.mapValues_mapValues]
    exact SortedMap.mapValues_congr f.ofVal_toVal m

/-- An object whose keys are numbers below 256. -/
def byteMap (f : Form α) : Form (SortedMap UInt8 α) where
  shape := .byteMap f.shape
  toVal m := m.mapValues f.toVal
  ofVal m := SortedMap.mapValues f.ofVal m
  kept m := m.mapValues f.kept
  ofVal_toVal m := by
    rw [SortedMap.mapValues_mapValues]
    exact SortedMap.mapValues_congr f.ofVal_toVal m

end Form

end DaqMonitor.Json

/-
  DaqMonitor.Service.Directory

  Directories as the service sees them: names with what they stand for, in whatever
  order they are listed. Nothing below a name is looked at.

  Names are texts. A system may have names that are not UTF-8; there is no directory
  here that has one, and nothing is said of what the service makes of it.

  The extension of a name is what follows its last dot; a name that has no dot, or
  only one in front, has no extension.
-/
import DaqMonitor.Text.Basic

namespace DaqMonitor.Service

/-! ## Names -/

/-- A name without its extension, and the extension where it has one. -/
def splitExtension (name : String) : String × Option String :=
  match Text.cutAtLast? '.' name.toList with
  | some (stem@(_ :: _), extension) => (String.ofList stem, some (String.ofList extension))
  | _ => (name, none)

/-- A name without its extension. -/
def stemOf (name : String) : String := (splitExtension name).1

/-- The extension of a name. -/
def extension? (name : String) : Option String := (splitExtension name).2

/-! ## Entries -/

/-- What a name in a directory stands for. -/
inductive Content where
  | folder
  | file (bytes : ByteArray)

/-- The text of a file; `none` for a folder, and for a file that is not UTF-8. -/
def Content.text? : Content → Option String
  | .folder => none
  | .file bytes => String.fromUTF8? bytes

/-- A name in a directory. What the service may do with it depends on the rights that it has. -/
structure Entry where
  name : String
  content : Content
  /-- Whether the service may read it. -/
  readable : Bool := true
  /-- Whether the service may remove it. -/
  removable : Bool := true

namespace Entry

/-- The text that is read from an entry; `none` where it cannot be read, or is no text. -/
def text? (e : Entry) : Option String := if e.readable then e.content.text? else none

/-- Whether an entry can be removed as a file. A folder cannot. -/
def isRemovable (e : Entry) : Bool :=
  match e.content with
  | .file _ => e.removable
  | .folder => false

end Entry

/-- A directory, in the order in which it is listed. -/
abbrev Directory := List Entry

/-- Texts in increasing order. -/
def sortNames (names : List String) : List String := names.mergeSort fun a b => a ≤ b

end DaqMonitor.Service

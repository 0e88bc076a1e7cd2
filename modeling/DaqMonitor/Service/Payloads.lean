/-
  DaqMonitor.Service.Payloads

  The flashlists of a cycle, read from a directory with a file for each of them. A
  file is named for its flashlist and has the extension `json`. A file that cannot
  be read, or is no payload, stands for a flashlist that could not be retrieved.

  The files are read at the same time, and may be finished in any order. Each one
  keeps the place that its name has among the others, and `assemble` puts them
  together by their places.
-/
import DaqMonitor.Flashlist.Basic
import DaqMonitor.Service.Directory

namespace DaqMonitor.Service

/-- Whether an entry is named as a payload is. -/
def Entry.isPayload (e : Entry) : Bool := extension? e.name == some "json"

/-- The entries that hold payloads, in the order of their names. -/
def payloadEntries (directory : Directory) : List Entry :=
  (directory.filter Entry.isPayload).mergeSort fun a b => a.name ≤ b.name

/-- The flashlist that is read from an entry. -/
def readPayload (e : Entry) : Flashlist :=
  let name := stemOf e.name
  match e.text? with
  | none => .unavailable name
  | some text =>
    match Flashlist.ofPayload name text with
    | .ok f => f
    | .error _ => .unavailable name

/-- What the log is told of a payload that is JSON and has no rows. -/
def payloadWarning? (e : Entry) : Option String :=
  match e.text?.map (Flashlist.ofPayload (stemOf e.name)) with
  | some (.error error) => error.message?
  | _ => none

/-- The warnings about a directory, in the order of the names. -/
def payloadWarnings (directory : Directory) : List String :=
  (payloadEntries directory).filterMap payloadWarning?

/-- The flashlist of every payload, with its place. -/
def placedFlashlists (directory : Directory) : List (Nat × Flashlist) :=
  (payloadEntries directory).zipIdx.map fun e => (e.2, readPayload e.1)

/-- The flashlists in the order of their places, in whichever order they come. -/
def assemble (placed : List (Nat × Flashlist)) : List Flashlist :=
  (placed.mergeSort fun a b => a.1 ≤ b.1).map (·.2)

/-- The flashlists of a directory, in the order of their names. -/
def readFlashlists (directory : Directory) : List Flashlist :=
  assemble (placedFlashlists directory)

end DaqMonitor.Service

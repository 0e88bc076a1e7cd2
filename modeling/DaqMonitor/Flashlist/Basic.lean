/-
  DaqMonitor.Flashlist.Basic

  One flashlist as it was retrieved for a cycle.

  The payload of a flashlist is an object whose member `table` is an object with
  the list `rows`. An object with the list `rows` itself, and a list of rows, are
  taken as well.
-/
import DaqMonitor.Flashlist.Kind
import DaqMonitor.Flashlist.Row
import DaqMonitor.Json.Reader

namespace DaqMonitor

/-- One flashlist as it was retrieved for a cycle. -/
structure Flashlist where
  /-- The name it is published under. -/
  name : String
  /-- Its kind, where the name is one that the monitor knows. -/
  kind : Option Flashlist.Kind
  /-- False where it could not be retrieved. -/
  available : Bool
  rows : List Flashlist.Row

namespace Flashlist

/-- A flashlist of a known kind. -/
def ofKind (kind : Kind) (rows : List Row) : Flashlist :=
  { name := kind.publishedName, kind := some kind, available := true, rows }

/-- A flashlist that could not be retrieved. -/
def unavailable (name : String) : Flashlist :=
  { name, kind := Kind.ofName? name, available := false, rows := [] }

/-- Whether a flashlist has no rows. -/
def isEmpty (f : Flashlist) : Bool := f.rows.isEmpty

/-! ## Payloads -/

/-- Why a payload is no flashlist. -/
inductive PayloadError where
  /-- It is not JSON. -/
  | fault (fault : Json.Fault)
  /-- It has no rows. -/
  | missingRows (name : String)
  deriving DecidableEq, Repr

/-- The message for a payload that is no flashlist; `none` where its text is at fault. -/
def PayloadError.message? : PayloadError → Option String
  | fault _ => none
  | missingRows name => some ("flashlist " ++ name ++ " has no table.rows array")

/-- The rows of a payload. -/
def payloadRows? : Json → Option (List Row)
  | .list rows => some rows
  | .object members =>
    let table :=
      match (Json.object members).find? "table" with
      | some (.object table) => Json.object table
      | _ => .object members
    table.find? "rows" >>= Json.items?
  | _ => none

/-- Reads a payload. -/
def ofPayload (name payload : String) : Except PayloadError Flashlist :=
  match Json.ofText payload with
  | .error fault => .error (.fault fault)
  | .ok json =>
    match payloadRows? json with
    | none => .error (.missingRows name)
    | some rows => .ok { name, kind := Kind.ofName? name, available := true, rows }

end Flashlist

end DaqMonitor

/-
  DaqMonitor.Matching.Rules

  Rules that match a row by a name or number in one of its columns: the host in
  the address of a process, the instance number of an application, the ids in some
  lists.
-/
import DaqMonitor.Flashlist.Context
import DaqMonitor.Flashlist.Row
import DaqMonitor.Matching.Outcome

namespace DaqMonitor.Matching

open Flashlist

variable {arena : Arena}

/-! ## By host -/

/-- The entity on the host in the given column. -/
def byHostname (column : String) (pool : SortedMap String (EntityId arena))
    (make : EntityId arena → Target) (row : Row) : RowMatch :=
  match row.text column with
  | .error _ => .miss
  | .ok context => .ofTargets ((pool.find? (hostOfContext context)).map make).toList

/-! ## By instance number -/

/-- Why a row has no instance number. -/
inductive InstanceProblem where
  | unreadable (error : RowError)
  | outOfRange (value : Int64)

/-- The words for a row without an instance number. -/
def InstanceProblem.words : InstanceProblem → String
  | unreadable error => error.message
  | outOfRange value => "instance " ++ Text.ofInt value.toInt ++ " out of range"

/-- The instance number in the given column. -/
def readInstance (column : String) (row : Row) : Except InstanceProblem UInt32 :=
  match row.integer column with
  | .error error => .error (.unreadable error)
  | .ok value =>
    if 0 ≤ value.toInt ∧ value.toInt.toNat < UInt32.size then .ok (UInt32.ofNat value.toInt.toNat)
    else .error (.outOfRange value)

/-- The entity with the instance number in the given column. -/
def byInstance (column : String) (pool : SortedMap UInt32 (EntityId arena))
    (make : EntityId arena → Target) (row : Row) : RowMatch :=
  match readInstance column row with
  | .error _ => .miss
  | .ok number => .ofTargets ((pool.find? number).map make).toList

/-- The problems of the rows without an instance number, with their positions. -/
def instanceProblems (column : String) (rows : List Row) : List (Nat × InstanceProblem) :=
  rows.zipIdx.filterMap fun r =>
    match readInstance column r.1 with
    | .error problem => some (r.2, problem)
    | .ok _ => none

/-! ## By listed ids -/

/-- The columns of a readout unit that list FEDs with problems. -/
def problemColumns : List String := ["fedIdsWithErrors", "fedIdsWithoutFragments"]

/-- The entity with a listed id. -/
def byListedId (pool : SortedMap UInt32 (EntityId arena)) (make : EntityId arena → Target)
    (id : Int64) : RowMatch :=
  if 0 ≤ id.toInt ∧ id.toInt.toNat < UInt32.size then
    .ofTargets ((pool.find? (UInt32.ofNat id.toInt.toNat)).map make).toList
  else .miss

/-- The entities with the ids that the given columns list. Each id is a unit of the row, and so is a
    column that is no list of ids. -/
def byIdLists (columns : List String) (pool : SortedMap UInt32 (EntityId arena))
    (make : EntityId arena → Target) (row : Row) : RowMatch :=
  columns.foldl (fun m column =>
    match row.integerList column with
    | .error _ => m.append .miss
    | .ok ids => ids.foldl (fun m id => m.append (byListedId pool make id)) m) .ignored

end DaqMonitor.Matching

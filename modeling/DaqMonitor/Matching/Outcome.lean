/-
  DaqMonitor.Matching.Outcome

  What comes of matching the rows of a table with entities.

  A rule says for a single row which targets it is about and how many of its units
  (the row itself, or the ids that it lists) are about something and about
  nothing. The outcome for a table puts the rows together: a target gets the last
  row that is about it.
-/
import DaqMonitor.Graph.Identity

namespace DaqMonitor.Matching

/-- What a row is about. -/
structure RowMatch where
  targets : List Target := []
  /-- The units of the row that are about something. -/
  hits : Nat := 0
  /-- The units of the row that are about nothing. -/
  misses : Nat := 0
  deriving DecidableEq

namespace RowMatch

/-- A row that is not considered. -/
def ignored : RowMatch := {}

/-- A row that is about some targets. -/
def hit (targets : List Target) : RowMatch := { targets, hits := 1 }

/-- A row that is about nothing. -/
def miss : RowMatch := { misses := 1 }

/-- A row that is about the given targets, or about nothing where there are none. -/
def ofTargets (targets : List Target) : RowMatch :=
  if targets.isEmpty then miss else hit targets

/-- The units of two parts of a row together. -/
def append (a b : RowMatch) : RowMatch :=
  { targets := a.targets ++ b.targets, hits := a.hits + b.hits, misses := a.misses + b.misses }

end RowMatch

/-- What comes of matching a table. -/
structure Outcome where
  /-- The row that each target gets. -/
  rowOf : SortedMap Target Nat
  /-- The number of units that are about something. -/
  matched : Nat
  /-- The number of units that are about nothing. -/
  unmatched : Nat
  /-- The rows with a unit that is about something, in order. -/
  resolvedRows : List Nat
  /-- The rows with a unit that is about nothing, in order. -/
  missedRows : List Nat
  deriving DecidableEq

namespace Outcome

/-- The outcome for the rows of a table. -/
def ofRows (rows : List RowMatch) : Outcome :=
  let numbered := rows.zipIdx
  { rowOf := SortedMap.ofList (numbered.flatMap fun r => r.1.targets.map fun t => (t, r.2))
    matched := rows.foldr (·.hits + ·) 0
    unmatched := rows.foldr (·.misses + ·) 0
    resolvedRows := (numbered.filter fun r => 0 < r.1.hits).map (·.2)
    missedRows := (numbered.filter fun r => 0 < r.1.misses).map (·.2) }

/-- The row that a target gets. -/
def rowFor? (o : Outcome) (target : Target) : Option Nat := o.rowOf.find? target

/-- The number of units. -/
def total (o : Outcome) : Nat := o.matched + o.unmatched

/-- The rows that are about nothing at all, in order. -/
def unresolvedRows (o : Outcome) : List Nat :=
  o.missedRows.filter fun n => !o.resolvedRows.contains n

end Outcome

end DaqMonitor.Matching

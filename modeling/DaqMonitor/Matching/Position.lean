/-
  DaqMonitor.Matching.Position

  Matching by position: a row names a host, a slot and, for some tables, an input
  of the card in that slot; an entity stands at the position that its links lead
  to. A row about a whole card stands for both of its first two inputs.

    * `Finder.rowPositions` — the positions that a row names.
    * `Finder.candidates` — the entities that have a position, in order.
    * `Finder.matchRow` — the first entity at each position of a row.
-/
import DaqMonitor.Flashlist.Context
import DaqMonitor.Graph.Basic
import DaqMonitor.Matching.Outcome

namespace DaqMonitor.Matching

open Flashlist

/-- A place in the hardware. -/
structure Position where
  host : String
  slot : Int64
  input : Option Int64 := none
  deriving DecidableEq

/-- What is looked for at a position. -/
inductive Finder where
  /-- The FED on a stream of a FEROL card. -/
  | fedOnFerolStream
  /-- The FED on a stream of a FEROL40 card. -/
  | fedOnFerol40Stream
  /-- The FEDs on a FEROL card. -/
  | fedOnFrl
  /-- The FED on an input of an FMM. -/
  | fedOnFmm
  | frl
  | fmm
  /-- The partitions on the outputs of an FMM. -/
  | ttcPartition
  deriving DecidableEq, Repr

/-! ## Positions of entities -/

/-- The position in a slot, given as numbers of the graph. -/
def Position.ofSlot (host : String) (slot : UInt32) (input : Option Nat := none) : Position :=
  { host, slot := Int64.ofNat slot.toNat, input := input.map Int64.ofNat }

/-- The position of a FED on a card of the given kind. -/
def fedOnCard? (g : Graph) (kind : CardKind) (fed : Fed) : Option Position := do
  let frl ← (← fed.frl).get? g.frls
  if frl.kind = kind then
    let pc ← (← frl.pc).get? g.frlPcs
    return .ofSlot pc.hostname frl.slot (some (← fed.frlInput).toNat)
  else none

/-- The position of a FED on an input of an FMM. -/
def fedOnFmm? (g : Graph) (fed : Fed) : Option Position := do
  let fmm ← (← fed.fmm).get? g.fmms
  let app ← fmm.application.get? g.fmmApplications
  return .ofSlot app.hostname fmm.slot (some (← fed.fmmInput).toNat)

/-- The position of a card. -/
def frlPosition? (g : Graph) (frl : Frl) : Option Position := do
  let pc ← (← frl.pc).get? g.frlPcs
  return .ofSlot pc.hostname frl.slot

/-- The position of an FMM. -/
def fmmPosition? (g : Graph) (fmm : Fmm) : Option Position := do
  let app ← fmm.application.get? g.fmmApplications
  return .ofSlot app.hostname fmm.slot

/-- The position of a partition: the output of the FMM that it is wired to. -/
def partitionPosition? (g : Graph) (p : TtcPartition) : Option Position := do
  let fmm ← (← p.fmm).get? g.fmms
  let app ← fmm.application.get? g.fmmApplications
  return .ofSlot app.hostname fmm.slot (some p.fmmOutput.toNat)

/-- The entities of an arena that have a position, in order. -/
def positioned {α : Type} {arena : Arena} (position? : α → Option Position)
    (make : EntityId arena → Target) (entities : List α) : List (Position × Target) :=
  entities.zipIdx.filterMap fun e => (position? e.1).map fun p => (p, make (.ofNat e.2))

namespace Finder

/-- The entities that can be found, in order, with their positions. -/
def candidates (finder : Finder) (g : Graph) : List (Position × Target) :=
  match finder with
  | fedOnFerolStream | fedOnFrl => positioned (fedOnCard? g .ferol) .fed g.feds
  | fedOnFerol40Stream => positioned (fedOnCard? g .ferol40) .fed g.feds
  | fedOnFmm => positioned (fedOnFmm? g) .fed g.feds
  | frl => positioned (frlPosition? g) .frl g.frls
  | fmm => positioned (fmmPosition? g) .fmm g.fmms
  | ttcPartition => positioned (partitionPosition? g) .ttcPartition g.ttcPartitions

/-! ## Positions of rows -/

/-- The positions that a row names. -/
def rowPositions (finder : Finder) (row : Row) : Except RowError (List Position) := do
  let host := hostOfContext (← row.text "context")
  match finder with
  | fedOnFerolStream | fedOnFerol40Stream =>
    let slot ← row.integer "slotNumber"
    let input ← row.integer "streamNumber"
    return [{ host, slot, input := some input }]
  | fedOnFrl =>
    let slot ← row.integer "slotNumber"
    return [{ host, slot, input := some 0 }, { host, slot, input := some 1 }]
  | fedOnFmm =>
    let slot ← row.integer "geoslot"
    let input ← row.integer "io"
    return [{ host, slot, input := some input }]
  | frl =>
    let slot ← row.integer "slotNumber"
    return [{ host, slot }]
  | fmm =>
    let slot ← row.integer "geoslot"
    return [{ host, slot }]
  | ttcPartition =>
    let slot ← row.integer "geoslot"
    return [{ host, slot, input := some 0 }, { host, slot, input := some 1 }]

/-! ## The rule -/

/-- The first candidate at a position. -/
def at? (candidates : List (Position × Target)) (position : Position) : Option Target :=
  (candidates.find? fun c => c.1 = position).map (·.2)

/-- The candidates at the positions of a row. -/
def matchRow (finder : Finder) (candidates : List (Position × Target)) (row : Row) : RowMatch :=
  match finder.rowPositions row with
  | .error _ => .miss
  | .ok positions => .ofTargets (positions.filterMap (at? candidates))

/-- The outcome for a table. -/
def matchRows (finder : Finder) (g : Graph) (rows : List Row) : Outcome :=
  let candidates := finder.candidates g
  .ofRows (rows.map (finder.matchRow candidates))

end Finder

end DaqMonitor.Matching

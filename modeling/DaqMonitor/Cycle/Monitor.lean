/-
  DaqMonitor.Cycle.Monitor

  The monitor of one session: its graph, the filters of the session, the counts of
  rows so far, and the graphs that it has published.

  A cycle takes the flashlists of one retrieval. The table with the number of the
  session comes before the tables that are filtered by that number; apart from
  that, the flashlists keep their order. After the last of them everything is
  worked out that depends on several tables, the graph gets the time of the cycle,
  and is published.

    * `Monitor.runCycle m flashlists time` — the monitor after a cycle.
    * `Monitor.resetTargets m targets` — the monitor with some targets as before any row.

  Each step also returns what it has to say.
-/
import DaqMonitor.Cycle.Derive
import DaqMonitor.Cycle.Dispatch
import DaqMonitor.Cycle.Publication

namespace DaqMonitor

open Flashlist

/-- The monitor of a session. -/
structure Monitor where
  graph : Graph
  session : Session
  stats : MatchStats := ∅
  published : Publication Graph := {}
  /-- The number of cycles so far. -/
  cycles : Nat := 0

namespace Monitor

/-! ## Single flashlists -/

/-- The place of a flashlist in a cycle: the smaller, the earlier. Those of no known kind come
    last. -/
def placeOf (f : Flashlist) : Nat := (f.kind.map Kind.priority).getD 255

/-- The flashlists of a cycle in the order in which they are dispatched. -/
def inOrder (flashlists : List Flashlist) : List Flashlist :=
  flashlists.mergeSort fun a b => placeOf a ≤ placeOf b

/-- The monitor after some dispatch of a kind of flashlist. -/
def after (m : Monitor) (kind : Kind) (d : Dispatched) : Monitor :=
  { m with
    graph := d.graph
    stats := match d.recorded? with
      | some counts => m.stats.record kind counts
      | none => m.stats }

/-- The monitor after one flashlist. -/
def dispatch (m : Monitor) (f : Flashlist) : Monitor × List Notice :=
  match f.dispatchKind? with
  | none => (m, [])
  | some kind =>
    let d := DaqMonitor.dispatch m.session m.graph f
    (m.after kind d, d.notices)

/-- The monitor after some flashlists, one after the other. -/
def dispatchAll (m : Monitor) (flashlists : List Flashlist) : Monitor × List Notice :=
  flashlists.foldl (fun r f =>
    let (m, notices) := r.1.dispatch f
    (m, r.2 ++ notices)) (m, [])

/-! ## Cycles -/

/-- The graph as it is published: with everything worked out, and the time of the cycle. -/
def finish (g : Graph) (time : UInt64) : Graph :=
  let g := g.derived
  { g with run := { g.run with lastUpdate := time } }

/-- The monitor after a cycle. -/
def runCycle (m : Monitor) (flashlists : List Flashlist) (time : UInt64) :
    Monitor × List Notice :=
  let (m, notices) := m.dispatchAll (inOrder flashlists)
  let graph := finish m.graph time
  ({ m with graph, published := m.published.publish graph, cycles := m.cycles + 1 }, notices)

/-- The graph of the last cycle. -/
def latest (m : Monitor) : Option Graph := m.published.newest

/-! ## Resets -/

/-- The monitor with one target as before any row. -/
def resetTarget (m : Monitor) (target : Target) : Monitor × List Notice :=
  match m.graph.reset? target with
  | some graph => ({ m with graph }, [])
  | none => (m, [.notInGraph target])

/-- The monitor with some targets as before any row. -/
def resetTargets (m : Monitor) (targets : List Target) : Monitor × List Notice :=
  targets.foldl (fun r target =>
    let (m, notices) := r.1.resetTarget target
    (m, r.2 ++ notices)) (m, [])

/-- The monitor with all targets as before any row. -/
def resetAll (m : Monitor) : Monitor × List Notice := m.resetTargets m.graph.targets

end Monitor

end DaqMonitor

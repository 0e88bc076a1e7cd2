/-
  DaqMonitor.Service.Snapshot

  Writing published graphs. A snapshot is a file with the JSON form of a graph,
  named for the time of its cycle.

  An exporter follows what a monitor publishes. Each time it is free and a graph is
  there that it has not seen, it writes the newest one.
-/
import DaqMonitor.Cycle.Publication
import DaqMonitor.Graph.GraphForm

namespace DaqMonitor.Service

/-- A file with a graph. -/
structure Snapshot where
  name : String
  content : String
  deriving DecidableEq

/-- The snapshot of a graph. -/
def Snapshot.ofGraph (g : Graph) : Snapshot where
  name := "snapshot_" ++ Text.ofNat g.run.lastUpdate.toNat ++ ".json"
  content := g.toJson.indent

/-- Where snapshots go. -/
inductive Output where
  /-- Nothing can be written. -/
  | blocked
  /-- The files by their names. -/
  | folder (files : SortedMap String String)

/-- The output with a snapshot, in place of any of the same name; `none` where it cannot be
    written. -/
def Output.write? (output : Output) (s : Snapshot) : Option Output :=
  match output with
  | .blocked => none
  | .folder files => some (.folder (files.insert s.name s.content))

/-- Follows what a monitor publishes. -/
structure Exporter where
  reader : Reader
  output : Output

namespace Exporter

/-- An exporter that has seen everything that is published so far. -/
def follow (p : Publication Graph) (output : Output) : Exporter := { reader := p.subscribe, output }

/-- The snapshot that is next to be written, and the exporter that has taken it up; `none` while
    nothing new is published. -/
def next? (e : Exporter) (p : Publication Graph) : Option (Option Snapshot × Exporter) :=
  if e.reader.hasNews p then
    let (graph, reader) := e.reader.look p
    some (graph.map Snapshot.ofGraph, { e with reader })
  else none

/-- The exporter after a step: it writes the newest graph if it has not seen it. A snapshot that
    cannot be written is given up. -/
def step (e : Exporter) (p : Publication Graph) : Exporter :=
  match e.next? p with
  | none => e
  | some (none, e) => e
  | some (some snapshot, e) => { e with output := (e.output.write? snapshot).getD e.output }

/-- After a step there is nothing new to write until more is published. -/
theorem next?_step (e : Exporter) (p : Publication Graph) : (e.step p).next? p = none := by
  unfold step
  split
  · assumption
  all_goals
    rename_i h
    simp only [next?] at h
    split at h
    · simp only [Option.some.injEq, Prod.mk.injEq] at h
      obtain ⟨-, rfl⟩ := h
      simp [next?, Reader.look]
    · simp at h

end Exporter

end DaqMonitor.Service

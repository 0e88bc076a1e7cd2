/-
  DaqMonitor.Cycle.Notice

  What a cycle has to say about rows that it could not use.
-/
import DaqMonitor.Cycle.LogLevel
import DaqMonitor.Flashlist.Kind
import DaqMonitor.Matching.Rules

namespace DaqMonitor

open Flashlist Matching

/-- Something that a cycle has to say. -/
inductive Notice where
  /-- A target refused its row. -/
  | rowRejected (kind : Kind) (row : Nat) (target : Target) (error : RowError)
  /-- The table of the event manager has not the one row that it should have. -/
  | evmRowCount (rows : Nat)
  /-- No row of a table is that of the TCDS service in use. -/
  | noServiceRow (service : String) (rows : Nat)
  /-- A TTS channel of a partition cannot be read. -/
  | partitionUnreadable (name : String) (error : RowError)
  /-- A global TTS output cannot be read. -/
  | globalOutputUnreadable (type : String) (error : RowError)
  /-- A row has no instance number. -/
  | noInstance (row : Nat) (column : String) (problem : InstanceProblem)
  /-- A target to be reset is not in the graph. -/
  | notInGraph (target : Target)

namespace Notice

/-- How weighty a notice is. -/
def level : Notice → LogLevel
  | evmRowCount _ => .error
  | _ => .warn

/-- The text of a notice. -/
def text : Notice → String
  | rowRejected kind row target error =>
    kind.shortName ++ " row " ++ Text.ofNat row ++ " rejected by " ++ target.label ++ ": " ++
      error.message
  | evmRowCount rows =>
    "EVM flashlist must carry exactly one row, got " ++ Text.ofNat rows
  | noServiceRow service rows =>
    "No row for TCDS service " ++ service ++ " among " ++ Text.ofNat rows ++ " rows"
  | partitionUnreadable name error =>
    "TCDS channel of partition " ++ name ++ " unreadable: " ++ error.message
  | globalOutputUnreadable type error =>
    "Global TTS output " ++ type ++ " unreadable: " ++ error.message
  | noInstance row column problem =>
    "Row " ++ Text.ofNat row ++ " carries no usable " ++ column ++ ": " ++ problem.words
  | notInGraph target => "Cannot reset " ++ target.label ++ ": not in the graph"

end Notice

end DaqMonitor

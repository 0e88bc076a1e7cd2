/-
  DaqMonitor.Flashlist.Process

  What several tables tell about a process: the port it answers on, and whether
  its jobs are alive.
-/
import DaqMonitor.Flashlist.Context
import DaqMonitor.Flashlist.Row

namespace DaqMonitor.Flashlist.Row

/-- The port in the address of the process that the row is about. -/
def port (row : Row) : Except RowError UInt16 := do
  let context ← row.text "context"
  match portOfContext? context with
  | some port => .ok port
  | none => .error (.malformed "context" (.noPort context))

/-- Whether a process has crashed: one of its jobs has another status than `alive`. -/
def crashed (row : Row) : Except RowError Bool := do
  let jobs ← row.table "jobTable"
  let states ← jobs.mapM fun job => job.text "status"
  .ok (states.any fun status => !Text.equalsFolded status "alive")

end DaqMonitor.Flashlist.Row

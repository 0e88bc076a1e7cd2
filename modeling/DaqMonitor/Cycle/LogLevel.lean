/-
  DaqMonitor.Cycle.LogLevel

  How weighty a message of the log is.
-/
import DaqMonitor.Text.Basic

namespace DaqMonitor

/-- The weight of a message. -/
inductive LogLevel where
  | trace
  | debug
  | info
  | warn
  | error
  deriving DecidableEq, Repr

namespace LogLevel

/-- The name of a level in the log. -/
def name : LogLevel → String
  | trace => "TRACE"
  | debug => "DEBUG"
  | info => "INFO"
  | warn => "WARN"
  | error => "ERROR"

/-- The level of a name, in capitals or not; `info` for all other names. -/
def ofName (name : String) : LogLevel :=
  let name := Text.lowerLatin name
  if name == "trace" then trace
  else if name == "debug" then debug
  else if name == "warn" then warn
  else if name == "error" then error
  else info

theorem ofName_name (level : LogLevel) : ofName level.name = level := by
  cases level <;> decide

/-- The rank of a level: the greater, the weightier. -/
def rank (level : LogLevel) : Nat := level.ctorIdx

end LogLevel

end DaqMonitor

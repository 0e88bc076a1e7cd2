/-
  DaqMonitor.Cycle.Session

  What tells the rows of a session apart from those of others: the level-zero
  instance and the TCDS partition manager in use. The number of the session is not
  kept here; it comes with the rows and lives in the graph.
-/
import DaqMonitor.Json.Form
import DaqMonitor.Text.Basic

namespace DaqMonitor

/-- The filters of a session. -/
structure Session where
  /-- What the address of the level-zero instance contains. -/
  levelZeroFilter : String := ""
  /-- The name of the service of the TCDS partition manager. -/
  tcdsService : Option String := none
  /-- The address of the TCDS partition manager. -/
  tcdsContext : Option String := none
  deriving DecidableEq

namespace Session

/-- The session with a TCDS partition manager. -/
def withTcds (s : Session) (service context : String) : Session :=
  { s with tcdsService := some service, tcdsContext := some context }

/-- The service and the address of the TCDS partition manager, where both are known. -/
def tcds? (s : Session) : Option (String × String) := do
  return (← s.tcdsService, ← s.tcdsContext)

/-- Whether an address is that of the level-zero instance. -/
def accepts (s : Session) (url : String) : Bool := Text.contains url s.levelZeroFilter

/-- The JSON form of a session. -/
def form : Json.Form Session where
  shape := .record (.ofList [
    ("l0Filter", .required, .text),
    ("tcdsPmService", .omissible, .option .text),
    ("tcdsPmContext", .omissible, .option .text)])
  toVal s := (s.levelZeroFilter, s.tcdsService, s.tcdsContext, ())
  ofVal
    | (levelZeroFilter, tcdsService, tcdsContext, ()) =>
      { levelZeroFilter, tcdsService, tcdsContext }
  ofVal_toVal _ := rfl

end Session

end DaqMonitor

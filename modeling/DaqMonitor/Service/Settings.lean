/-
  DaqMonitor.Service.Settings

  The settings of the service. Each of them may be left open. They come from the
  command line, from a file, and from fixed values, in this order: what one leaves
  open is taken from the next.

  A file that is absent, or cannot be read, or is not of the form of settings,
  leaves everything open.
-/
import DaqMonitor.Json.Form
import DaqMonitor.Service.Directory

namespace DaqMonitor.Service

open Json

/-- The settings of the service. -/
structure Settings where
  configPath : Option String := none
  logDir : Option String := none
  logLevel : Option String := none
  topologyPath : Option String := none
  flashlistDir : Option String := none
  outputDir : Option String := none
  /-- The time between two cycles, in milliseconds. -/
  intervalMs : Option UInt64 := none
  /-- The number of cycles after which the service ends. -/
  maxCycles : Option UInt64 := none
  levelZeroFilter : Option String := none
  tcdsService : Option String := none
  tcdsContext : Option String := none
  deriving DecidableEq

namespace Settings

/-- The settings with what they leave open taken from others. -/
def orElse (s others : Settings) : Settings where
  configPath := s.configPath.or others.configPath
  logDir := s.logDir.or others.logDir
  logLevel := s.logLevel.or others.logLevel
  topologyPath := s.topologyPath.or others.topologyPath
  flashlistDir := s.flashlistDir.or others.flashlistDir
  outputDir := s.outputDir.or others.outputDir
  intervalMs := s.intervalMs.or others.intervalMs
  maxCycles := s.maxCycles.or others.maxCycles
  levelZeroFilter := s.levelZeroFilter.or others.levelZeroFilter
  tcdsService := s.tcdsService.or others.tcdsService
  tcdsContext := s.tcdsContext.or others.tcdsContext

theorem orElse_open (s : Settings) : s.orElse {} = s := by simp [orElse]

theorem open_orElse (s : Settings) : ({} : Settings).orElse s = s := by simp [orElse]

theorem orElse_orElse (s t u : Settings) : (s.orElse t).orElse u = s.orElse (t.orElse u) := by
  simp [orElse, Option.or_assoc]

/-- The fixed values. -/
def standard : Settings where
  logDir := some "./logs"
  logLevel := some "info"
  topologyPath := some "topology.json"
  flashlistDir := some "./flashlists"
  outputDir := some "./snapshots"
  intervalMs := some 3000
  levelZeroFilter := some "toppro"

/-- The JSON form of the settings. -/
def form : Form Settings where
  shape := .record (.ofList [
    ("configPath", .omissible, .option .text),
    ("logDir", .omissible, .option .text),
    ("logLevel", .omissible, .option .text),
    ("topologyPath", .omissible, .option .text),
    ("flashlistDir", .omissible, .option .text),
    ("outputDir", .omissible, .option .text),
    ("intervalMs", .omissible, .option .uint64),
    ("maxCycles", .omissible, .option .uint64),
    ("l0Filter", .omissible, .option .text),
    ("tcdsPmService", .omissible, .option .text),
    ("tcdsPmContext", .omissible, .option .text)])
  toVal s :=
    (s.configPath, s.logDir, s.logLevel, s.topologyPath, s.flashlistDir, s.outputDir,
      s.intervalMs, s.maxCycles, s.levelZeroFilter, s.tcdsService, s.tcdsContext, ())
  ofVal
    | (configPath, logDir, logLevel, topologyPath, flashlistDir, outputDir, intervalMs,
        maxCycles, levelZeroFilter, tcdsService, tcdsContext, ()) =>
      { configPath, logDir, logLevel, topologyPath, flashlistDir, outputDir, intervalMs
        maxCycles, levelZeroFilter, tcdsService, tcdsContext }
  ofVal_toVal _ := rfl

/-- The file that is read where no other one is named. -/
def standardPath : String := "server_aggregator.conf"

/-- What a file settles. -/
def ofFile (content : Option Content) : Settings :=
  match content >>= Content.text? with
  | none => {}
  | some content => (form.ofText content).toOption.getD {}

/-- The settings in force. -/
def inForce (commandLine : Settings) (file : Option Content) : Settings :=
  commandLine.orElse ((ofFile file).orElse standard)

end Settings

end DaqMonitor.Service

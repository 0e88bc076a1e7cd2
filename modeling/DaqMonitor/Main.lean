/-
  DaqMonitor.Main

  The service: at every tick it reads the flashlists that there are files for, runs
  a cycle on them and writes the graph that the cycle published. It ends after the
  number of cycles that the settings give, or goes on for ever.

  Only files of flashlists that the monitor knows are looked for; all others have no
  effect on a cycle. The log goes to standard output: no log is left in a directory,
  and so none of earlier runs are removed from there.
-/
import DaqMonitor.Cycle.Monitor
import DaqMonitor.Service.CommandLine
import DaqMonitor.Service.Payloads
import DaqMonitor.Service.Snapshot
import DaqMonitor.Topology.Build
import DaqMonitor.Topology.Load
import Std.Time.DateTime.Timestamp

namespace DaqMonitor.Service

open Flashlist DaqMonitor.Topology

/-! ## Log and files -/

/-- Writes a line of the log if it is weighty enough. -/
def logLine (least level : LogLevel) (text : String) : IO Unit := do
  if least.rank ≤ level.rank then
    IO.println ("[" ++ level.name ++ "] " ++ text)

/-- The bytes of a file, `none` where it cannot be read. -/
def readBytes? (path : String) : IO (Option ByteArray) := do
  try
    return some (← IO.FS.readBinFile path)
  catch _ => return none

/-- The names of the files that hold flashlists of known kinds. -/
def payloadNames : List String :=
  (Kind.all.flatMap fun kind => [kind.shortName, kind.bareName, kind.publishedName]).eraseDups.map
    (· ++ ".json")

/-- What a name in a directory stands for, where it stands for anything. -/
def readPayloadFile? (directory name : String) : IO (Option Entry) := do
  try
    let bytes ← IO.FS.readBinFile (directory ++ "/" ++ name)
    return some { name, content := .file bytes }
  catch
    | .noFileOrDirectory .. => return none
    | _ => return some { name, content := .folder }

/-- The payloads of a directory, all read at the same time. -/
def readPayloads (directory : String) : IO Directory := do
  let tasks ← payloadNames.mapM fun name => IO.asTask (readPayloadFile? directory name)
  let entries ← tasks.mapM fun task => do
    match ← IO.wait task with
    | .ok entry => return entry
    | .error _ => return none
  return entries.filterMap id

/-- Writes a snapshot to a directory. -/
def writeSnapshot (directory : String) (s : Snapshot) : IO Unit := do
  IO.FS.createDirAll directory
  IO.FS.writeFile (directory ++ "/" ++ s.name) s.content

/-- The time in milliseconds. -/
def now : IO UInt64 := do
  let time ← Std.Time.Timestamp.now
  return UInt64.ofNat time.toMillisecondsSinceUnixEpoch.val.toNat

/-! ## The loop -/

/-- What does not change while the service runs. -/
structure RunSettings where
  logLevel : LogLevel
  flashlistDir : String
  outputDir : String
  intervalMs : UInt64
  maxCycles : Option UInt64

/-- Runs a cycle on the flashlists that there are. -/
def RunSettings.cycle (s : RunSettings) (m : Monitor) : IO Monitor := do
  let directory ← readPayloads s.flashlistDir
  for warning in payloadWarnings directory do
    logLine s.logLevel .warn warning
  let flashlists := readFlashlists directory
  let (m, notices) := m.runCycle flashlists (← now)
  for notice in notices do
    logLine s.logLevel notice.level notice.text
  logLine s.logLevel .info
    ("Cycle " ++ Text.ofNat m.cycles ++ " applied " ++ Text.ofNat flashlists.length ++
      " flashlists")
  return m

/-- Writes what a monitor has published since the exporter looked. -/
def RunSettings.exportNewest (s : RunSettings) (m : Monitor) (e : Exporter) : IO Exporter := do
  match e.next? m.published with
  | none => return e
  | some (snapshot, e) =>
    for snapshot in snapshot.toList do
      try
        writeSnapshot s.outputDir snapshot
        logLine s.logLevel .debug ("Snapshot written to " ++ snapshot.name)
      catch error =>
        logLine s.logLevel .error ("Snapshot export failed: " ++ toString error)
    return e

/-- Runs cycles until there were enough. -/
partial def RunSettings.run (s : RunSettings) (m : Monitor) (e : Exporter) : IO Unit := do
  let started ← IO.monoMsNow
  let m ← s.cycle m
  let e ← s.exportNewest m e
  if s.maxCycles.any fun n => n.toNat ≤ m.cycles then
    logLine s.logLevel .info ("Reached " ++ Text.ofNat m.cycles ++ " cycles, stopping.")
    for line in m.stats.summary do
      logLine s.logLevel line.1 line.2
  else
    let elapsed := (← IO.monoMsNow) - started
    IO.sleep (UInt32.ofNat (s.intervalMs.toNat - elapsed))
    s.run m e

/-- Reads the topology and starts the loop. -/
def start (settings : Settings) : IO UInt32 := do
  let path := settings.topologyPath.getD ""
  match Spec.load (← readBytes? path) with
  | .error e =>
    let reason := (e.message? path).getD "it is no topology description"
    IO.eprintln ("cannot load topology " ++ path ++ ": " ++ reason)
    return 1
  | .ok spec =>
    match (spec.build {}).1 with
    | .error e =>
      IO.eprintln ("invalid topology: " ++ e.message)
      return 1
    | .ok graph =>
      let session : Session := {
        levelZeroFilter := settings.levelZeroFilter.getD ""
        tcdsService := settings.tcdsService
        tcdsContext := settings.tcdsContext }
      let service : RunSettings := {
        logLevel := LogLevel.ofName (settings.logLevel.getD "info")
        flashlistDir := settings.flashlistDir.getD ""
        outputDir := settings.outputDir.getD ""
        intervalMs := settings.intervalMs.getD 3000
        maxCycles := settings.maxCycles }
      if session.tcds?.isNone then
        logLine service.logLevel .warn
          "No TCDS partition manager configured, TCDS flashlists will be skipped."
      let m : Monitor := { graph, session }
      service.run m (.follow m.published (.folder ∅))
      return 0

end DaqMonitor.Service

open DaqMonitor.Service in
/-- Runs the service with the settings that the command line and the file give. -/
def main (arguments : List String) : IO UInt32 := do
  match readCommandLine arguments with
  | .error .help =>
    IO.print UsageError.help.message
    return 0
  | .error .version =>
    IO.println UsageError.version.message
    return 0
  | .error e =>
    IO.eprintln ("error: " ++ e.message)
    return 2
  | .ok commandLine =>
    let path := commandLine.configPath.getD Settings.standardPath
    let file := (← readBytes? path).map Content.file
    start (.inForce commandLine file)

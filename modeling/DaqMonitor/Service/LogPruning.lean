/-
  DaqMonitor.Service.LogPruning

  Removing the logs of earlier runs. The name of a log carries the time of its run
  in a form that sorts, so the greatest names are those of the latest runs. Only
  these are kept; nothing but logs of this service is touched.

  This is what a run does to the directory of its logs before it opens its own. The
  `main` of this project writes its log to standard output and has no such directory,
  so it does not prune.
-/
import DaqMonitor.Service.Directory

namespace DaqMonitor.Service

/-- What the names of the logs of this service start with. -/
def logPrefix : String := "server_aggregator_"

/-- Whether a name is that of a log of this service. -/
def isServerLog (name : String) : Bool :=
  extension? name == some "log" && logPrefix.toList.isPrefixOf name.toList

/-- The names to be removed, in increasing order: all logs but the latest `keep`. -/
def staleLogs (names : List String) (keep : Nat) : List String :=
  let logs := sortNames (names.filter isServerLog)
  logs.take (logs.length - keep)

/-- The directory without an entry, and whether it could be removed. -/
def removeEntry (directory : Directory) (name : String) : Directory × Bool :=
  if directory.any fun e => e.name == name && e.isRemovable then
    (directory.filter fun e => e.name != name, true)
  else (directory, false)

/-- What comes of removing logs. -/
structure Pruned where
  directory : Directory
  /-- The names that were to be removed, in order, and whether they could be. -/
  removals : List (String × Bool) := []

/-- Tries to remove an entry. One that cannot be removed stays. -/
def Pruned.remove (p : Pruned) (name : String) : Pruned :=
  let (directory, removed) := removeEntry p.directory name
  { directory, removals := p.removals ++ [(name, removed)] }

/-- Removes the logs of all but the latest `keep` runs. A log that cannot be removed stays, and the
    others are removed all the same. -/
def pruneLogs (directory : Directory) (keep : Nat) : Pruned :=
  (staleLogs (directory.map (·.name)) keep).foldl Pruned.remove { directory }

end DaqMonitor.Service

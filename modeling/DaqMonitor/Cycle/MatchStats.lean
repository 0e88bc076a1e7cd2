/-
  DaqMonitor.Cycle.MatchStats

  How many rows were about something, for each kind of flashlist, added up over
  all cycles. The ids that rows list are counted apart from the rows. Counts are
  words of 64 bits, and sums that do not fit one wrap around.
-/
import DaqMonitor.Cycle.LogLevel
import DaqMonitor.Flashlist.Kind

namespace DaqMonitor

open Flashlist

/-- The counts for one kind of flashlist. -/
structure MatchCounts where
  /-- The rows that were considered. -/
  total : UInt64 := 0
  /-- Those of them that were about nothing. -/
  missing : UInt64 := 0
  /-- The targets that refused their row. -/
  failed : UInt64 := 0
  /-- The ids that rows listed. -/
  listEntries : UInt64 := 0
  /-- Those of them that are of no entity. -/
  missingListEntries : UInt64 := 0
  deriving DecidableEq, Repr

namespace MatchCounts

/-- The rows that were about something. -/
def matched (c : MatchCounts) : UInt64 := c.total - c.missing

/-- Two counts together. -/
def add (a b : MatchCounts) : MatchCounts :=
  { total := a.total + b.total
    missing := a.missing + b.missing
    failed := a.failed + b.failed
    listEntries := a.listEntries + b.listEntries
    missingListEntries := a.missingListEntries + b.missingListEntries }

instance : Add MatchCounts := ⟨add⟩

/-- The counts of some rows. -/
def ofRows (matched unmatched : Nat) : MatchCounts :=
  { total := .ofNat (matched + unmatched), missing := .ofNat unmatched }

/-- The counts of some listed ids. -/
def ofListEntries (matched unmatched : Nat) : MatchCounts :=
  { listEntries := .ofNat (matched + unmatched), missingListEntries := .ofNat unmatched }

/-- The counts of some refusals. -/
def ofFailures (failed : Nat) : MatchCounts := { failed := .ofNat failed }

end MatchCounts

/-- The counts for every kind that something was recorded for. -/
abbrev MatchStats := SortedMap Kind MatchCounts

namespace MatchStats

/-- Adds counts to those of a kind. -/
def record (stats : MatchStats) (kind : Kind) (counts : MatchCounts) : MatchStats :=
  stats.alter kind fun old => (old.getD {}).add counts

/-- Adds some refusals to the counts of a kind; none at all leave no trace. -/
def recordFailures (stats : MatchStats) (kind : Kind) (failed : Nat) : MatchStats :=
  if failed = 0 then stats else stats.record kind (.ofFailures failed)

/-- The counts of a kind, zeros where nothing was recorded. -/
def of (stats : MatchStats) (kind : Kind) : MatchCounts := (stats.find? kind).getD {}

/-- The lines of the log that sum up the counts of a kind. -/
def summaryLines (kind : Kind) (c : MatchCounts) : List (LogLevel × String) :=
  let rows :=
    if 0 < c.missing ∨ 0 < c.failed then
      (.warn, kind.shortName ++ ": " ++ Text.ofNat c.missing.toNat ++ " of " ++
        Text.ofNat c.total.toNat ++ " unmatched, " ++ Text.ofNat c.failed.toNat ++ " failed")
    else (LogLevel.debug, kind.shortName ++ ": all " ++ Text.ofNat c.total.toNat ++ " matched")
  let ids :=
    if 0 < c.missingListEntries then
      [(LogLevel.warn, kind.shortName ++ ": " ++ Text.ofNat c.missingListEntries.toNat ++ " of " ++
        Text.ofNat c.listEntries.toNat ++ " listed ids not in the topology")]
    else []
  rows :: ids

/-- The lines of the log that sum everything up. -/
def summary (stats : MatchStats) : List (LogLevel × String) :=
  SortedMap.entries stats |>.flatMap fun e => summaryLines e.1 e.2

end MatchStats

end DaqMonitor

/-
  DaqMonitor.Graph.RunningTotal

  From a total that the source adds up over the whole run to what was added since
  the observation before. Rows come with the time at which they were filled, and
  a row that comes twice says nothing new: the difference moves only with a new
  time.
-/
import DaqMonitor.Flashlist.Row

namespace DaqMonitor

/-- A running total: its last observation, and the difference between the last two. -/
structure RunningTotal where
  lastTimestamp : Option String := none
  lastRaw : Float := 0.0
  delta : Float := 0.0
  deriving DecidableEq

namespace RunningTotal

/-- Whether an observation at the given time is a new one. -/
def isNew (total : RunningTotal) (timestamp : String) : Bool :=
  total.lastTimestamp != some timestamp

/-- Takes up an observation. One that is not new changes nothing. -/
def observe (total : RunningTotal) (timestamp : String) (raw : Float) : RunningTotal :=
  if total.isNew timestamp then
    { lastTimestamp := some timestamp, lastRaw := raw, delta := raw - total.lastRaw }
  else total

/-- A second observation at the same time changes nothing. -/
theorem observe_observe (total : RunningTotal) (timestamp : String) (raw raw' : Float) :
    (total.observe timestamp raw).observe timestamp raw' = total.observe timestamp raw := by
  unfold observe
  split <;> simp_all [isNew]

end RunningTotal

end DaqMonitor

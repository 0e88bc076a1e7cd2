/-
  DaqMonitor.Cycle.Derive

  What is worked out anew after the tables of a cycle: the range of the event
  counters of each sub-FED-builder, which readout units are masked, and the
  summaries over all readout units and all builder units. Nothing of it depends on
  what was worked out before.

  A sum of doubles is taken from zero and in the order of the units.
-/
import DaqMonitor.Graph.Basic

namespace DaqMonitor

/-! ## Over lists of values -/

/-- How far some counts of events are apart: from the least that is not zero to the greatest. Zero
    where nothing was counted. -/
def eventSpread (counts : List UInt64) : UInt64 :=
  match counts.filter (· != 0) with
  | [] => 0
  | count :: rest => rest.foldl max count - rest.foldl min count

/-- The sum of some doubles, from zero and in order. -/
def sumDoubles (xs : List Float) : Float := xs.foldl (· + ·) 0.0

/-- The mean of some doubles, zero where there are none. -/
def meanDoubles (xs : List Float) : Float :=
  if xs.isEmpty then 0.0 else sumDoubles xs / Float.ofNat xs.length

/-- The sum of some counts. -/
def sumCounts (counts : List UInt64) : UInt64 := counts.foldl (· + ·) 0

/-! ## Summaries -/

/-- The sums and means over some readout units. -/
def FedBuilderSummary.ofRus (rus : List Ru) : FedBuilderSummary where
  rate := meanDoubles (rus.map (·.state.rate))
  throughput := sumDoubles (rus.map (·.state.throughput))
  sizeMean := meanDoubles (rus.map (·.state.sizeMean))
  sizeStddev := meanDoubles (rus.map (·.state.sizeStddev))
  deltaEvents := eventSpread (rus.map (·.state.eventsInRu))
  eventsInRu := sumCounts (rus.map (·.state.eventsInRu))
  fragmentsInRu := sumCounts (rus.map (·.state.fragmentsInRu))
  requests := sumCounts (rus.map (·.state.requests))

/-- The sums and means over some builder units. -/
def BuSummary.ofBus (bus : List Bu) : BuSummary where
  rate := sumDoubles (bus.map (·.state.rate))
  throughput := sumDoubles (bus.map (·.state.throughput))
  sizeMean := meanDoubles (bus.map (·.state.sizeMean))
  eventsInBu := sumCounts (bus.map (·.state.eventsInBu))
  eventsBuilt := sumCounts (bus.map (·.state.eventsBuilt))
  numberOfBus := UInt64.ofNat bus.length

/-! ## The graph -/

namespace Graph

/-- The graph with the range of the event counters of every sub-FED-builder. -/
def withTriggerRanges (g : Graph) : Graph :=
  { g with
    subFedBuilders := g.subFedBuilders.zipIdx.map fun s =>
      s.1.setTriggerRange ((g.subFedBuilderFeds (.ofNat s.2)).map (·.state.eventCounter)) }

/-- Whether a readout unit has FEDs and all of them are masked. -/
def allFedsMasked (g : Graph) (ru : Ru) : Bool :=
  let feds := g.fedBuilderFeds ru.fedBuilder
  !feds.isEmpty && feds.all (·.state.frlMasked)

/-- The graph with every readout unit marked that has only masked FEDs. -/
def withMaskedRus (g : Graph) : Graph :=
  { g with
    rus := g.rus.map fun ru => { ru with state := { ru.state with masked := g.allFedsMasked ru } } }

/-- The graph with the summaries of its units. -/
def withSummaries (g : Graph) : Graph :=
  { g with fedBuilderSummary := .ofRus g.rus, buSummary := .ofBus g.bus }

/-- The graph with everything worked out anew that is worked out from the tables. -/
def derived (g : Graph) : Graph := g.withTriggerRanges.withMaskedRus.withSummaries

end Graph

end DaqMonitor

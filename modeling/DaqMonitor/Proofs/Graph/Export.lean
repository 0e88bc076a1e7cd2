/-
  DaqMonitor.Proofs.Graph.Export

  Graphs that are exported and read back.

  The export of a graph has every field of every entity, but for the running total of a
  FED and for the look-up tables, which are made anew from the entities. So a graph is
  given back by its export, with totals that have observed nothing, unless one of its
  doubles is not finite: such a one comes from a row that has it as a text, and its
  export cannot be read at all.

    * `Graph.doubles g` — the doubles of a graph, entity by entity.
    * `Graph.doubles_form` — they are those that its JSON form carries.
    * `Graph.ofJson_toJson_iff` — what is read of the export of a graph.
-/
import DaqMonitor.Graph.GraphForm
import DaqMonitor.Proofs.Json.RoundTrip
import DaqMonitor.Proofs.Matching.Finding

namespace DaqMonitor

open Json

/-! ## Doubles -/

/-- The doubles of a FED. -/
def Fed.doubles (fed : Fed) : List Float :=
  [fed.state.percentBackpressure, fed.state.percentWarning, fed.state.percentBusy]

/-- The doubles of a readout unit. -/
def Ru.doubles (ru : Ru) : List Float :=
  [ru.state.rate, ru.state.throughput, ru.state.sizeMean, ru.state.sizeStddev] ++
    ru.state.throughputPerBu ++ ru.state.fragmentRatePerBu ++ ru.state.retryRatePerBu ++
    [ru.state.allocateRate, ru.state.allocateRetryRate]

/-- The doubles of a builder unit. -/
def Bu.doubles (bu : Bu) : List Float :=
  [bu.state.rate, bu.state.throughput, bu.state.sizeMean, bu.state.sizeStddev,
    bu.state.requestRate]

/-- The doubles of an FMM. -/
def Fmm.doubles (fmm : Fmm) : List Float := [fmm.percentBusy, fmm.percentWarning]

/-- The doubles of a TTC partition. -/
def TtcPartition.doubles (p : TtcPartition) : List Float := [p.percentBusy, p.percentWarning]

/-- The doubles of a global TTS output. -/
def GlobalTtsState.doubles (g : GlobalTtsState) : List Float := [g.percentBusy, g.percentWarning]

/-- The doubles of what the TCDS tells. -/
def TcdsInfo.doubles (tcds : TcdsInfo) : List Float :=
  [tcds.deadtimeTotal, tcds.deadtimeTts, tcds.deadtimeTriggerRules, tcds.deadtimeBunchMaskVeto,
    tcds.deadtimeRetri, tcds.deadtimeDaqBackpressure, tcds.triggerRateTotal,
    tcds.suppressedRateTotal, tcds.triggerRateBeamActive] ++
    tcds.globalTtsStates.values.flatMap GlobalTtsState.doubles

/-- The doubles of the summary of the readout units. -/
def FedBuilderSummary.doubles (s : FedBuilderSummary) : List Float :=
  [s.rate, s.throughput, s.sizeMean, s.sizeStddev]

/-- The doubles of the summary of the builder units. -/
def BuSummary.doubles (s : BuSummary) : List Float := [s.rate, s.throughput, s.sizeMean]

/-- The doubles of a graph. -/
def Graph.doubles (g : Graph) : List Float :=
  g.fedBuilderSummary.doubles ++ g.buSummary.doubles ++ g.tcds.doubles ++
    g.feds.flatMap Fed.doubles ++ g.rus.flatMap Ru.doubles ++ g.bus.flatMap Bu.doubles ++
    g.fmms.flatMap Fmm.doubles ++ g.ttcPartitions.flatMap TtcPartition.doubles

/-! ## Doubles of JSON forms -/

section Forms

variable {α : Type} (f : Form α)

theorem Form.doubles_list (as : List α) : f.list.doubles as = as.flatMap f.doubles := by
  show (as.map f.toVal).flatMap f.shape.doubles = as.flatMap f.doubles
  rw [List.flatMap_map]
  rfl

theorem Form.doubles_textMap (m : SortedMap String α) :
    f.textMap.doubles m = m.values.flatMap f.doubles := by
  show ((m.mapValues f.toVal).entries.map Prod.snd).flatMap f.shape.doubles = _
  rw [SortedMap.mapValues, SortedMap.values, List.map_map, List.flatMap_map, List.flatMap_map]
  rfl

end Forms

theorem Fed.doubles_form (fed : Fed) : Fed.form.doubles fed = fed.doubles := rfl

theorem Bu.doubles_form (bu : Bu) : Bu.form.doubles bu = bu.doubles := rfl

theorem Fmm.doubles_form (fmm : Fmm) : Fmm.form.doubles fmm = fmm.doubles := rfl

theorem TtcPartition.doubles_form (p : TtcPartition) :
    TtcPartition.form.doubles p = p.doubles := rfl

theorem Ru.doubles_form (ru : Ru) : Ru.form.doubles ru = ru.doubles := by
  have hlists : ∀ xs : List Float, xs.flatMap (fun x => [x]) = xs := List.flatMap_singleton'
  have hform : Ru.form.doubles ru = ru.state.rate :: ru.state.throughput :: ru.state.sizeMean ::
      ru.state.sizeStddev :: (ru.state.throughputPerBu.flatMap (fun x => [x]) ++
        (ru.state.fragmentRatePerBu.flatMap (fun x => [x]) ++
          (ru.state.retryRatePerBu.flatMap (fun x => [x]) ++
            [ru.state.allocateRate, ru.state.allocateRetryRate]))) := rfl
  rw [hform, hlists, hlists, hlists, Ru.doubles, List.append_assoc, List.append_assoc,
    List.append_assoc]
  rfl

theorem TcdsInfo.doubles_form (tcds : TcdsInfo) : TcdsInfo.form.doubles tcds = tcds.doubles := by
  have hform : TcdsInfo.form.doubles tcds = [tcds.deadtimeTotal, tcds.deadtimeTts,
      tcds.deadtimeTriggerRules, tcds.deadtimeBunchMaskVeto, tcds.deadtimeRetri,
      tcds.deadtimeDaqBackpressure, tcds.triggerRateTotal, tcds.suppressedRateTotal,
      tcds.triggerRateBeamActive] ++
        (GlobalTtsState.form.textMap.doubles tcds.globalTtsStates ++ []) := rfl
  rw [hform, Form.doubles_textMap, List.append_nil]
  rfl

/-- The doubles that the JSON form of a graph carries are the doubles of its records. -/
theorem Graph.doubles_form (g : Graph) : Graph.form.doubles g = g.doubles := by
  have hform : Graph.form.doubles g = FedBuilderSummary.form.doubles g.fedBuilderSummary ++
      (BuSummary.form.doubles g.buSummary ++ (TcdsInfo.form.doubles g.tcds ++
        (Fed.form.list.doubles g.feds ++ (Ru.form.list.doubles g.rus ++
          (Bu.form.list.doubles g.bus ++ (Fmm.form.list.doubles g.fmms ++
            (TtcPartition.form.list.doubles g.ttcPartitions ++ []))))))) := rfl
  have hru : Ru.form.doubles = Ru.doubles := funext Ru.doubles_form
  rw [hform, TcdsInfo.doubles_form]
  simp only [Form.doubles_list, hru, List.append_nil, Graph.doubles, List.append_assoc]
  rfl

/-! ## Exported and read back -/

namespace Graph

theorem sound_form : form.shape.sound = true := by decide +kernel

/-- The export keeps everything that the look-up tables are made from. -/
theorem indexed_exported {g : Graph} (h : g.indexes = g.makeIndexes) :
    g.exported.indexed = { g with feds := g.feds.map Fed.withoutTotal } := by
  have hindexes : g.exported.makeIndexes = g.makeIndexes := by
    simp only [makeIndexes, exported, Matching.indexBy_map]
    rfl
  rw [indexed, hindexes, ← h]
  rfl

/-- The export of a graph can be read exactly if all doubles of the graph are finite. It then gives
    the graph with its look-up tables, but that no running total has observed anything. -/
theorem ofJson_toJson_iff {g : Graph} (h : g.indexes = g.makeIndexes) (k : Graph) :
    (ofJson g.toJson).map indexed = .ok k ↔
      (∀ x ∈ g.doubles, x.isFinite = true) ∧
        k = { g with feds := g.feds.map Fed.withoutTotal } := by
  have hread := form.ofJson_encode_iff sound_form g
  rw [doubles_form] at hread
  unfold ofJson toJson
  constructor
  · intro hk
    obtain ⟨k', hk'⟩ := exists_of_map_eq_ok hk
    obtain ⟨hfinite, rfl⟩ := (hread k').1 hk'
    rw [hk'] at hk
    exact ⟨hfinite, (Except.ok.inj hk).symm.trans (indexed_exported h)⟩
  · rintro ⟨hfinite, rfl⟩
    rw [(hread _).2 ⟨hfinite, rfl⟩]
    exact congrArg Except.ok (indexed_exported h)

/-- A graph with a FED that has observed its backpressure and a unit with some rate: a number, or
    none. -/
theorem ofJson_toJson_iff_rate :
    let graph (backpressure : RunningTotal) (rate : Float) : Graph := Graph.indexed
      { uid := ⟨1⟩, feds := [{ uid := ⟨2⟩, id := 7, expectedId := 7, state := { backpressure } }]
        bus := [{ uid := ⟨3⟩, hostname := "bu-1", state := { rate } }] }
    let observed : RunningTotal := { lastTimestamp := some "t", lastRaw := 4.0 }
    (graph observed 2.5).indexes = (graph observed 2.5).makeIndexes ∧
      (ofJson (graph observed 2.5).toJson).map indexed = .ok (graph {} 2.5) ∧
      ∀ k, (ofJson (graph observed (0.0 / 0.0)).toJson).map indexed ≠ .ok k := by
  intro graph observed
  have hfinite : ∀ x ∈ (graph observed 2.5).doubles, x.isFinite = true := by decide +kernel
  have hnot : ¬ ∀ x ∈ (graph observed (0.0 / 0.0)).doubles, x.isFinite = true := by decide +kernel
  refine ⟨rfl, (ofJson_toJson_iff rfl _).2 ⟨hfinite, rfl⟩, fun k hk => hnot ?_⟩
  exact ((ofJson_toJson_iff rfl k).1 hk).1

end Graph

end DaqMonitor

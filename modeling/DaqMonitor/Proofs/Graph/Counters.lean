/-
  DaqMonitor.Proofs.Graph.Counters

  The counters of entities, and the columns that they come from.

  A counter is a field with whole numbers. It belongs to a topic, so rows of the
  tables that do not speak about the topic leave it alone. Any other row that the
  entity accepts tells it in one column, and what that column holds is then the value
  of the counter; only the event manager does not listen to the rows of the other
  units.

    * `Counter α` — a counter, its topic and its column.
    * `TargetSort.counters s` — the counters of the entities of a sort.
    * `TargetSort.values_update` — a counter after a row is what its column holds.
-/
import DaqMonitor.Proofs.Flashlist.Integers
import DaqMonitor.Proofs.Graph.Rows

namespace DaqMonitor

open Flashlist

/-- A field with whole numbers, which rows tell in one column. -/
structure Counter (α : Type) where
  topic : Topic
  column : String
  /-- The numbers in the field: one, none where no row has told it yet, or those of a list. -/
  values : α → List Int

/-- The counters of the entities of a sort. -/
def TargetSort.counters : (s : TargetSort) → List (Counter s.Entity)
  | .run => [
      ⟨.runValues, "SID", fun run : RunInfo => (run.sessionId.map Int64.toInt).toList⟩,
      ⟨.runValues, "RUN_NUMBER", fun run : RunInfo => (run.runNumber.map Int64.toInt).toList⟩]
  | .tcds => [
      ⟨.triggerCounts, "trg_cnt_total", fun tcds : TcdsInfo => [tcds.triggersTotal.toNat]⟩,
      ⟨.triggerCounts, "sup_trg_cnt_total", fun tcds : TcdsInfo => [tcds.suppressedTotal.toNat]⟩,
      ⟨.actionCounts, "cnt_resync", fun tcds : TcdsInfo => [tcds.resyncs.toNat]⟩,
      ⟨.actionCounts, "cnt_oc0", fun tcds : TcdsInfo => [tcds.oc0s.toNat]⟩,
      ⟨.actionCounts, "cnt_hard_reset", fun tcds : TcdsInfo => [tcds.hardResets.toNat]⟩,
      ⟨.actionCounts, "cnt_start", fun tcds : TcdsInfo => [tcds.starts.toNat]⟩]
  | .fed => [
      ⟨.stream, "WrongFEDId", fun fed : Fed => [fed.state.receivedId.toInt]⟩,
      ⟨.stream, "LinkCRCError", fun fed : Fed => [fed.state.linkCrcErrors.toNat]⟩,
      ⟨.stream, "FEDCRCError", fun fed : Fed => [fed.state.fedCrcErrors.toNat]⟩,
      ⟨.stream, "TriggerNumber", fun fed : Fed => [fed.state.triggers.toNat]⟩,
      ⟨.stream, "EventCounter", fun fed : Fed => [fed.state.eventCounter.toNat]⟩]
  | .ru => [
      ⟨.unitReport, "fragmentsInRU", fun ru : Ru => [ru.state.fragmentsInRu.toNat]⟩,
      ⟨.unitReport, "eventsInRU", fun ru : Ru => [ru.state.eventsInRu.toNat]⟩,
      ⟨.unitReport, "eventCount", fun ru : Ru => [ru.state.eventCount.toNat]⟩,
      ⟨.unitReport, "activeRequests", fun ru : Ru => [ru.state.requests.toNat]⟩,
      ⟨.unitReport, "incompleteSuperFragmentCount",
        fun ru : Ru => [ru.state.incompleteFragments.toNat]⟩,
      ⟨.unitReport, "buTids", fun ru : Ru => ru.state.buTids.map Int64.toInt⟩]
  | .bu => [
      ⟨.builderReport, "nbEventsInBU", fun bu : Bu => [bu.state.eventsInBu.toNat]⟩,
      ⟨.builderReport, "nbEventsBuilt", fun bu : Bu => [bu.state.eventsBuilt.toNat]⟩]
  | .frl | .frlPc | .fmm | .fmmApplication | .ttcPartition | .subSystem => []

/-- The kinds of the tables that speak about a topic. -/
def Topic.kinds (t : Topic) : List Kind := Kind.all.filter fun kind => t ∈ topics kind

theorem Topic.mem_kinds {t : Topic} {kind : Kind} : kind ∈ t.kinds ↔ t ∈ topics kind := by
  simp [kinds, Kind.mem_all]

/-- Whether an entity listens to the rows of a kind that it gets: the event manager does not to those
    of the other units. -/
def TargetSort.heeds : (s : TargetSort) → Kind → s.Entity → Bool
  | .ru => fun kind ru => !(kind == .ru && Ru.isEvm ru)
  | _ => fun _ _ => true

/-! ## Rows that tell counters -/

section Rows

variable {row : Row}

theorem RunInfo.holds_afterDynamic {run run' : RunInfo} (h : run.afterDynamic row = .ok run') :
    ∀ c ∈ TargetSort.run.counters, row.Bounded c.column → row.Holds c.column (c.values run') := by
  obtain ⟨sessionId, hsession, h⟩ := exists_of_bind_eq_ok h
  obtain ⟨runNumber, hnumber, h⟩ := exists_of_bind_eq_ok h
  obtain ⟨levelZeroState, -, h⟩ := exists_of_bind_eq_ok h
  obtain ⟨lhcMachineMode, -, h⟩ := exists_of_bind_eq_ok h
  obtain ⟨lhcBeamMode, -, h⟩ := exists_of_bind_eq_ok h
  cases h
  simp only [TargetSort.counters, List.forall_mem_cons]
  exact ⟨fun hb => hb.holds_integer hsession, fun hb => hb.holds_integer hnumber,
    List.forall_mem_nil _⟩

theorem TcdsInfo.holds_afterCounts {tcds tcds' : TcdsInfo} (h : tcds.afterCounts row = .ok tcds') :
    ∀ c ∈ TargetSort.tcds.counters, c.topic = .triggerCounts → row.Bounded c.column →
      row.Holds c.column (c.values tcds') := by
  obtain ⟨triggersTotal, htriggers, h⟩ := exists_of_bind_eq_ok h
  obtain ⟨suppressedTotal, hsuppressed, h⟩ := exists_of_bind_eq_ok h
  cases h
  simp only [TargetSort.counters, List.forall_mem_cons]
  exact ⟨fun _ hb => hb.holds_count htriggers, fun _ hb => hb.holds_count hsuppressed, nofun,
    nofun, nofun, nofun, List.forall_mem_nil _⟩

theorem TcdsInfo.holds_afterActions {tcds tcds' : TcdsInfo} (h : tcds.afterActions row = .ok tcds') :
    ∀ c ∈ TargetSort.tcds.counters, c.topic = .actionCounts → row.Bounded c.column →
      row.Holds c.column (c.values tcds') := by
  obtain ⟨resyncs, hresyncs, h⟩ := exists_of_bind_eq_ok h
  obtain ⟨oc0s, hoc0s, h⟩ := exists_of_bind_eq_ok h
  obtain ⟨hardResets, hhardResets, h⟩ := exists_of_bind_eq_ok h
  obtain ⟨starts, hstarts, h⟩ := exists_of_bind_eq_ok h
  cases h
  simp only [TargetSort.counters, List.forall_mem_cons]
  exact ⟨nofun, nofun, fun _ hb => hb.holds_count hresyncs, fun _ hb => hb.holds_count hoc0s,
    fun _ hb => hb.holds_count hhardResets, fun _ hb => hb.holds_count hstarts,
    List.forall_mem_nil _⟩

theorem Fed.holds_afterInputStream {fed : Fed} {state : Fed.State}
    (h : fed.state.afterInputStream row = .ok state) :
    ∀ c ∈ TargetSort.fed.counters, row.Bounded c.column →
      row.Holds c.column (c.values { fed with state }) := by
  obtain ⟨time, sum, hstreamed⟩ := Fed.State.exists_streamed_of_afterInputStream row h
  simp only [TargetSort.counters, List.forall_mem_cons]
  exact ⟨fun hb => hb.holds_integer hstreamed.receivedId,
    fun hb => hb.holds_count hstreamed.linkCrcErrors,
    fun hb => hb.holds_count hstreamed.fedCrcErrors,
    fun hb => hb.holds_count hstreamed.triggers,
    fun hb => hb.holds_count hstreamed.eventCounter, List.forall_mem_nil _⟩

theorem Ru.holds_report {ru : Ru} {report : Ru.Report} {withAllocation : Bool}
    (h : Ru.Report.read row withAllocation = .ok report) :
    ∀ c ∈ TargetSort.ru.counters, row.Bounded c.column →
      row.Holds c.column (c.values { ru with state := ru.state.after report }) := by
  have hread := Ru.Report.readFrom_of_read row h
  simp only [TargetSort.counters, List.forall_mem_cons]
  exact ⟨fun hb => hb.holds_count hread.fragmentsInRu, fun hb => hb.holds_count hread.eventsInRu,
    fun hb => hb.holds_count hread.eventCount, fun hb => hb.holds_count hread.requests,
    fun hb => hb.holds_count hread.incompleteFragments,
    fun hb => hb.holds_integerList hread.buTids, List.forall_mem_nil _⟩

theorem Bu.holds_after {bu : Bu} {state : Bu.State} (h : bu.state.after row = .ok state) :
    ∀ c ∈ TargetSort.bu.counters, row.Bounded c.column →
      row.Holds c.column (c.values { bu with state }) := by
  obtain ⟨port, -, h⟩ := exists_of_bind_eq_ok h
  obtain ⟨stateName, -, h⟩ := exists_of_bind_eq_ok h
  obtain ⟨errorMessage, -, h⟩ := exists_of_bind_eq_ok h
  obtain ⟨rate, -, h⟩ := exists_of_bind_eq_ok h
  obtain ⟨throughput, -, h⟩ := exists_of_bind_eq_ok h
  obtain ⟨sizeMean, -, h⟩ := exists_of_bind_eq_ok h
  obtain ⟨sizeStddev, -, h⟩ := exists_of_bind_eq_ok h
  obtain ⟨eventsInBu, hinside, h⟩ := exists_of_bind_eq_ok h
  obtain ⟨eventsBuilt, hbuilt, h⟩ := exists_of_bind_eq_ok h
  obtain ⟨requestRate, -, h⟩ := exists_of_bind_eq_ok h
  cases h
  simp only [TargetSort.counters, List.forall_mem_cons]
  exact ⟨fun hb => hb.holds_count hinside, fun hb => hb.holds_count hbuilt, List.forall_mem_nil _⟩

end Rows

/-! ## Counters of all sorts -/

namespace TargetSort

variable {s : TargetSort} {c : Counter s.Entity} {kind : Kind} {row : Row} {e e' : s.Entity}

/-- A counter is in the part of its topic. -/
theorem values_part (hc : c ∈ s.counters) (e : s.Entity) :
    c.values (s.part c.topic e) = c.values e := by
  have hall : ∀ c ∈ s.counters, c.values (s.part c.topic e) = c.values e := by
    cases s <;> simp [counters, part, RunInfo.part, TcdsInfo.part, Fed.State.part, Ru.State.part,
      Bu.State.part]
  exact hall c hc

/-- The rows of a kind that does not speak about a counter leave it as it is. -/
theorem values_take_of_not_mem (hc : c ∈ s.counters) (htopic : c.topic ∉ topics kind)
    (row? : Option Row) (e : s.Entity) : c.values (s.take kind row? e) = c.values e := by
  have hspeaks : Speaks s (topics kind) (s.take kind row?) := take_speaks row?
  rw [← values_part hc, hspeaks.others c.topic htopic, values_part hc]

theorem values_update_of_not_mem (hc : c ∈ s.counters) (htopic : c.topic ∉ topics kind)
    (h : s.update e kind row = .ok e') : c.values e' = c.values e := by
  have htake : s.take kind (some row) e = e' := by simp only [take, h]
  rw [← htake, values_take_of_not_mem hc htopic]

/-- The counters of a sort are told by the rows of few kinds. -/
theorem topic_of_mem_counters (hc : c ∈ s.counters) :
    c.topic ∈ match s with
      | .run => [Topic.runValues]
      | .tcds => [Topic.triggerCounts, .actionCounts]
      | .fed => [Topic.stream]
      | .ru => [Topic.unitReport]
      | .bu => [Topic.builderReport]
      | _ => [] := by
  revert c
  cases s <;> simp [counters]

theorem eq_of_not_heeds (hheeds : s.heeds kind e = false) (h : s.update e kind row = .ok e') :
    e' = e := by
  cases s with
  | ru =>
    cases kind with
    | ru =>
      have hevm : Ru.isEvm e = true := by simpa [heeds] using hheeds
      obtain ⟨state, hstate, rfl⟩ := map_eq_ok_iff.1 h
      cases (if_pos hevm).symm.trans hstate
      rfl
    | _ => cases hheeds
  | _ => cases hheeds

/-- An accepted row that speaks about a counter tells it in its column, where the entity listens to
    the rows of its kind. -/
theorem values_update (hc : c ∈ s.counters) (htopic : c.topic ∈ topics kind)
    (hheeds : s.heeds kind e = true) (hbounded : row.Bounded c.column)
    (h : s.update e kind row = .ok e') : row.Holds c.column (c.values e') := by
  have ht := topic_of_mem_counters hc
  have hkind : kind ∈ c.topic.kinds := Topic.mem_kinds.2 htopic
  cases s with
  | run =>
    rw [List.mem_singleton.1 ht] at hkind
    obtain rfl : kind = .levelZeroDynamic := List.mem_singleton.1 hkind
    exact RunInfo.holds_afterDynamic h c hc hbounded
  | tcds =>
    rcases List.mem_pair.1 ht with hcounts | hactions
    · rw [hcounts] at hkind
      obtain rfl : kind = .tcdsCounts := List.mem_singleton.1 hkind
      exact TcdsInfo.holds_afterCounts h c hc hcounts hbounded
    · rw [hactions] at hkind
      obtain rfl : kind = .tcdsActionCounts := List.mem_singleton.1 hkind
      exact TcdsInfo.holds_afterActions h c hc hactions hbounded
  | fed =>
    rw [List.mem_singleton.1 ht] at hkind
    have htotal : carriesTotal kind = true := by
      rcases List.mem_pair.1 hkind with rfl | rfl <;> rfl
    obtain ⟨state, hstate, rfl⟩ :=
      map_eq_ok_iff.1 ((Fed.update_of_carriesTotal row htotal e).symm.trans h)
    exact Fed.holds_afterInputStream hstate c hc hbounded
  | ru =>
    rw [List.mem_singleton.1 ht] at hkind
    obtain ⟨state, hstate, rfl⟩ := map_eq_ok_iff.1 h
    rcases List.mem_pair.1 hkind with rfl | rfl
    · have hevm : ¬ Ru.isEvm e = true := by simpa [heeds] using hheeds
      obtain ⟨report, hreport, rfl⟩ := map_eq_ok_iff.1 ((if_neg hevm).symm.trans hstate)
      exact Ru.holds_report hreport c hc hbounded
    · obtain ⟨report, hreport, rfl⟩ := map_eq_ok_iff.1 hstate
      exact Ru.holds_report hreport c hc hbounded
  | bu =>
    rw [List.mem_singleton.1 ht] at hkind
    obtain rfl : kind = .bu := List.mem_singleton.1 hkind
    obtain ⟨state, hstate, rfl⟩ := map_eq_ok_iff.1 h
    exact Bu.holds_after hstate c hc hbounded
  | _ => cases hc

/-- A counter after an accepted row is what the row tells of it, and as before where it tells
    nothing. -/
theorem values_update_cases (hc : c ∈ s.counters) (hbounded : row.Bounded c.column)
    (h : s.update e kind row = .ok e') :
    if c.topic ∈ topics kind ∧ s.heeds kind e = true then row.Holds c.column (c.values e')
    else c.values e' = c.values e := by
  by_cases htopic : c.topic ∈ topics kind
  · cases hheeds : s.heeds kind e with
    | true =>
      rw [if_pos ⟨htopic, rfl⟩]
      exact values_update hc htopic hheeds hbounded h
    | false =>
      rw [if_neg (by simp), eq_of_not_heeds hheeds h]
  · rw [if_neg fun hspeaks => htopic hspeaks.1]
    exact values_update_of_not_mem hc htopic h

end TargetSort

end DaqMonitor

/-
  DaqMonitor.Proofs.Graph.Rows

  How entities take rows.

  Whether a row is refused, and why, depends on the row and on the fixed part of
  the entity alone. Where it is accepted, it speaks about the topics of its kind,
  and, unless its kind carries a running total, it settles them.

    * `uptake s kind row b` — a row is refused by all entities with the fixed part
      `b`, or accepted by all of them in one way.
    * `TargetSort.take s kind row? e` — the entity after the row that it gets.
    * `take_speaks`, `take_settles` — the same for the change that a row makes.
-/
import DaqMonitor.Proofs.Failing
import DaqMonitor.Proofs.Graph.Footprint

namespace DaqMonitor

open Flashlist

/-- Whether the rows of a kind carry a running total. -/
def carriesTotal : Kind → Bool
  | .ferolInputStream | .ferol40InputStream => true
  | _ => false

/-- What an accepted row of a kind does to the entities of a sort. -/
structure Tells (s : TargetSort) (kind : Kind) (f : s.Entity → s.Entity) : Prop where
  speaks : Speaks s (topics kind) f
  settles : carriesTotal kind = false → Settles s (topics kind) f

/-- A row is refused by all entities with the fixed part `b` for one reason, or accepted by all of
    them in one way. -/
def Uptake (s : TargetSort) (kind : Kind) (b : s.Entity)
    (update : s.Entity → Except RowError s.Entity) : Prop :=
  (∃ error, ∀ e, s.fixed e = b → update e = .error error) ∨
    ∃ f, Tells s kind f ∧ ∀ e, s.fixed e = b → update e = .ok (f e)

namespace Uptake

variable {s : TargetSort} {kind : Kind} {b : s.Entity}
variable {update update' : s.Entity → Except RowError s.Entity}

theorem of_tells {f : s.Entity → s.Entity} (h : Tells s kind f) :
    Uptake s kind b fun e => .ok (f e) := .inr ⟨f, h, fun _ _ => rfl⟩

theorem of_eq_ok (h : ∀ e, s.fixed e = b → update e = .ok e) : Uptake s kind b update :=
  .inr ⟨id, ⟨.of_eq_self fun _ => rfl, fun _ => .of_eq_self fun _ => rfl⟩, h⟩

/-- Reading a column goes well or not, whatever the entity is. -/
theorem bind {α : Type} (x : Except RowError α) {next : α → s.Entity → Except RowError s.Entity}
    (h : ∀ a, Uptake s kind b (next a)) : Uptake s kind b fun e => x >>= fun a => next a e := by
  cases x with
  | error error => exact .inl ⟨error, fun _ _ => rfl⟩
  | ok a => exact h a

/-- What is read in one go is then taken over. -/
theorem map {α : Type} {x : Except RowError α} {next : α → s.Entity → s.Entity}
    (h : ∀ a, x = .ok a → Tells s kind (next a)) :
    Uptake s kind b fun e => x.map fun a => next a e := by
  cases x with
  | error error => exact .inl ⟨error, fun _ _ => rfl⟩
  | ok a => exact .of_tells (h a rfl)

theorem congr (h : Uptake s kind b update) (heq : ∀ e, s.fixed e = b → update' e = update e) :
    Uptake s kind b update' := by
  rcases h with ⟨error, h⟩ | ⟨f, hf, h⟩
  · exact .inl ⟨error, fun e he => (heq e he).trans (h e he)⟩
  · exact .inr ⟨f, hf, fun e he => (heq e he).trans (h e he)⟩

end Uptake

/-- A change whose topics can be worked out from the fixed part alone. Where the kind and the change
    are given, looking at every topic shows that it is one. -/
theorem Tells.of_sets {s : TargetSort} {kind : Kind} {f : s.Entity → s.Entity}
    (fixed : ∀ e, s.fixed (f e) = s.fixed e)
    (parts : ∀ t, if t ∈ topics kind then ∀ e, s.part t (f e) = s.part t (f (s.fixed e))
      else ∀ e, s.part t (f e) = s.part t e) :
    Tells s kind f := by
  have others : ∀ t ∉ topics kind, ∀ e, s.part t (f e) = s.part t e := by
    intro t ht
    have h := parts t
    rwa [if_neg ht] at h
  have sets : ∀ t ∈ topics kind, ∀ e, s.part t (f e) = s.part t (f (s.fixed e)) := by
    intro t ht
    have h := parts t
    rwa [if_pos ht] at h
  refine ⟨⟨fixed, others, fun t ht e e' h _ => ?_⟩, fun _ b => .inr fun t ht e e' he he' => ?_⟩
  · rw [sets t ht e, h, ← sets t ht e']
  · rw [sets t ht e, he, ← he', ← sets t ht e']

/-! ## FEDs -/

section Feds

variable {kind : Kind} {b : Fed} (row : Row)

theorem Fed.uptake_fmmInput :
    Uptake .fed .fmmInput b fun fed => fed.update .fmmInput row := by
  simp only [Fed.update, Fed.nextState, Fed.State.afterFmmInput, map_bind]
  exact .bind _ fun percentWarning => .bind _ fun percentBusy => .bind _ fun ttsState =>
    .bind _ fun fmmMasked => .of_tells (.of_sets (fun _ => rfl)
      fun t => by cases t <;> exact fun _ => rfl)

/-- The counters of a stream are replaced, and its running total goes on from its own old value. -/
theorem Fed.uptake_stream (hkind : topics kind = [.stream]) (htotal : carriesTotal kind = true) :
    Uptake .fed kind b fun fed =>
      (fed.state.afterInputStream row).map fun state => { fed with state } := by
  simp only [Fed.State.afterInputStream, map_bind]
  refine .bind _ fun receivedId => .bind _ fun linkCrcErrors => .bind _ fun fedCrcErrors =>
    .bind _ fun triggers => .bind _ fun eventCounter => .bind _ fun timestamp =>
    .bind _ fun accumulated => .of_tells ⟨⟨fun _ => rfl, ?_, ?_⟩, ?_⟩
  -- Here `Tells.of_sets` does not apply: the new total hangs on the old one.
  · intro t ht fed
    rw [hkind] at ht
    cases t <;> first | rfl | exact absurd (by decide) ht
  · rw [hkind]
    intro t ht fed fed' hfixed hown
    obtain rfl : t = .stream := List.mem_singleton.1 ht
    have hstream := hown .stream ht
    obtain ⟨_, _, _, _, _, _, _, _, _, _, ⟨⟩⟩ := fed
    obtain ⟨_, _, _, _, _, _, _, _, _, _, ⟨⟩⟩ := fed'
    simp_all [TargetSort.part, Fed.State.part]
  · intro hno
    rw [htotal] at hno
    cases hno

/-- After an observation another one at the same time is not new. -/
theorem RunningTotal.isNew_observe (total : RunningTotal) (timestamp : String) (raw : Float) :
    (total.observe timestamp raw).isNew timestamp = false := by
  unfold observe
  split
  · simp [isNew]
  · simp_all

/-- A state after a row of a stream with a time and the sum of the backpressure by then: the counters
    are what their columns read as, and the running total has observed the rest. -/
structure Fed.State.Streamed (state state' : Fed.State) (time : String) (sum : Float) : Prop where
  receivedId : row.integer "WrongFEDId" = .ok state'.receivedId
  linkCrcErrors : row.count "LinkCRCError" = .ok state'.linkCrcErrors
  fedCrcErrors : row.count "FEDCRCError" = .ok state'.fedCrcErrors
  triggers : row.count "TriggerNumber" = .ok state'.triggers
  eventCounter : row.count "EventCounter" = .ok state'.eventCounter
  timestamp : row.text "timestamp" = .ok time
  accumulated : row.double "AccBackpressureSecond" = .ok sum
  shownTime : state'.timestamp = some time
  total : state'.backpressure = state.backpressure.observe time sum
  shownTotal : state'.percentBackpressure =
    if state.backpressure.isNew time then state'.backpressure.delta
    else state.percentBackpressure

theorem Fed.State.exists_streamed_of_afterInputStream {state state' : Fed.State}
    (h : state.afterInputStream row = .ok state') :
    ∃ time sum, Streamed row state state' time sum := by
  obtain ⟨receivedId, hreceivedId, h⟩ := exists_of_bind_eq_ok h
  obtain ⟨linkCrcErrors, hlinkCrcErrors, h⟩ := exists_of_bind_eq_ok h
  obtain ⟨fedCrcErrors, hfedCrcErrors, h⟩ := exists_of_bind_eq_ok h
  obtain ⟨triggers, htriggers, h⟩ := exists_of_bind_eq_ok h
  obtain ⟨eventCounter, heventCounter, h⟩ := exists_of_bind_eq_ok h
  obtain ⟨timestamp, htimestamp, h⟩ := exists_of_bind_eq_ok h
  obtain ⟨accumulated, haccumulated, h⟩ := exists_of_bind_eq_ok h
  cases h
  exact ⟨timestamp, accumulated, hreceivedId, hlinkCrcErrors, hfedCrcErrors, htriggers,
    heventCounter, htimestamp, haccumulated, rfl, rfl, rfl⟩

/-- A row of a stream that comes twice tells nothing new the second time. -/
theorem Fed.State.afterInputStream_again {state state' : Fed.State}
    (h : state.afterInputStream row = .ok state') : state'.afterInputStream row = .ok state' := by
  obtain ⟨time, sum, hstreamed⟩ := exists_streamed_of_afterInputStream row h
  have hold : state'.backpressure.isNew time = false := by
    rw [hstreamed.total, RunningTotal.isNew_observe]
  have htotal : state'.backpressure.observe time sum = state'.backpressure := by
    rw [hstreamed.total, RunningTotal.observe_observe]
  -- The second time all columns read as before, and the timestamp is no longer new.
  simp only [afterInputStream, hstreamed.receivedId, hstreamed.linkCrcErrors,
    hstreamed.fedCrcErrors, hstreamed.triggers, hstreamed.eventCounter, hstreamed.timestamp,
    hstreamed.accumulated, ok_bind, hold, htotal, ← hstreamed.shownTime, Bool.false_eq_true,
    if_false]

theorem Fed.update_of_carriesTotal (hkind : carriesTotal kind = true) (fed : Fed) :
    TargetSort.fed.update fed kind row = (fed.state.afterInputStream row).map
      fun state => { fed with state } := by
  cases kind <;> first | exact absurd hkind (by decide) | rfl

theorem Fed.tells_masking (hkind : topics kind = [.masking]) (frlMasked : Bool) :
    Tells .fed kind fun fed => { fed with state := { fed.state with frlMasked } } := by
  refine .of_sets (fun _ => rfl) ?_
  rw [hkind]
  intro t
  cases t <;> exact fun _ => rfl

/-- Which column of the row counts hangs on the input of the card, which is fixed. -/
theorem Fed.uptake_ferolConfiguration :
    Uptake .fed .ferolConfiguration b fun fed => fed.update .ferolConfiguration row := by
  have hinput : ∀ fed : Fed, fed.reset = b → fed.frlInput = b.frlInput := by
    rintro fed rfl
    rfl
  cases hcolumn : Fed.enableColumn? b.frlInput with
  | none =>
    refine .of_eq_ok fun fed hfed => ?_
    rw [← hinput fed hfed] at hcolumn
    simp only [Fed.update, Fed.nextState, Fed.State.afterCardConfiguration, hcolumn]
    rfl
  | some column =>
    refine Uptake.congr (.bind (Column.flag ⟨column, .inverted⟩ row) fun frlMasked =>
      .of_tells (Fed.tells_masking rfl frlMasked)) fun fed hfed => ?_
    simp only [Fed.update, Fed.nextState, Fed.State.afterCardConfiguration, hinput fed hfed,
      hcolumn, map_bind]
    rfl

theorem Fed.uptake_ferol40StreamConfiguration :
    Uptake .fed .ferol40StreamConfiguration b fun fed =>
      fed.update .ferol40StreamConfiguration row := by
  simp only [Fed.update, Fed.nextState, Fed.State.afterStreamConfiguration, map_bind]
  exact .bind _ fun frlMasked => .of_tells (Fed.tells_masking rfl frlMasked)

theorem Fed.uptake_ru : Uptake .fed .ru b fun fed => fed.update .ru row := by
  simp only [Fed.update, Fed.nextState, Fed.State.afterProblemLists, map_bind]
  exact .bind _ fun withErrors => .bind _ fun lacking => .of_tells (.of_sets (fun _ => rfl)
    fun t => by cases t <;> exact fun _ => rfl)

theorem Fed.uptake (kind : Kind) : Uptake .fed kind b fun fed => fed.update kind row := by
  cases kind with
  | fmmInput => exact uptake_fmmInput row
  | ferolInputStream => exact uptake_stream row rfl rfl
  | ferol40InputStream => exact uptake_stream row rfl rfl
  | ferolConfiguration => exact uptake_ferolConfiguration row
  | ferol40StreamConfiguration => exact uptake_ferol40StreamConfiguration row
  | ru => exact uptake_ru row
  | _ => exact .of_eq_ok fun _ _ => rfl

end Feds

/-! ## Readout units -/

section ReadoutUnits

variable {b : Ru} (row : Row)

theorem Ru.eq_of_checkLength {column : String} {length expected : Nat}
    (h : checkLength column length expected = .ok ()) : length = expected := by
  unfold checkLength at h
  split at h
  · assumption
  · cases h

/-- A report and the row that it is read from: its values are what their columns read as, its lists
    are of one length, and it has allocation rates exactly if they are asked for. -/
structure Ru.Report.ReadFrom (withAllocation : Bool) (report : Ru.Report) : Prop where
  port : row.port = .ok report.port
  throughputPerBu : row.doubleList "throughputPerBU" = .ok report.throughputPerBu
  buTids : row.integerList "buTids" = .ok report.buTids
  fragmentRatePerBu : row.doubleList "fragmentRatePerBU" = .ok report.fragmentRatePerBu
  retryRatePerBu : row.doubleList "retryRatePerBU" = .ok report.retryRatePerBu
  length_buTids : report.buTids.length = report.throughputPerBu.length
  length_fragmentRatePerBu : report.fragmentRatePerBu.length = report.throughputPerBu.length
  length_retryRatePerBu : report.retryRatePerBu.length = report.throughputPerBu.length
  allocation : (if withAllocation then (readAllocation row).map some else .ok none)
    = .ok report.allocation
  stateName : row.text "stateName" = .ok report.stateName
  errorMessage : row.text "errorMsg" = .ok report.errorMessage
  rate : row.double "eventRate" = .ok report.rate
  sizeMean : row.double "superFragmentSize" = .ok report.sizeMean
  sizeStddev : row.double "superFragmentSizeStdDev" = .ok report.sizeStddev
  fragmentsInRu : row.count "fragmentsInRU" = .ok report.fragmentsInRu
  eventsInRu : row.count "eventsInRU" = .ok report.eventsInRu
  eventCount : row.count "eventCount" = .ok report.eventCount
  requests : row.count "activeRequests" = .ok report.requests
  incompleteFragments :
    row.count "incompleteSuperFragmentCount" = .ok report.incompleteFragments

/-- A report is read from its row column by column. -/
theorem Ru.Report.readFrom_of_read {withAllocation : Bool} {report : Ru.Report}
    (h : Ru.Report.read row withAllocation = .ok report) :
    Ru.Report.ReadFrom row withAllocation report := by
  unfold Ru.Report.read at h
  obtain ⟨port, hport, h⟩ := exists_of_bind_eq_ok h
  obtain ⟨throughputPerBu, hthroughputs, h⟩ := exists_of_bind_eq_ok h
  obtain ⟨buTids, hbuTids, h⟩ := exists_of_bind_eq_ok h
  obtain ⟨fragmentRatePerBu, hfragmentRates, h⟩ := exists_of_bind_eq_ok h
  obtain ⟨retryRatePerBu, hretryRates, h⟩ := exists_of_bind_eq_ok h
  obtain ⟨⟨⟩, hlengthTids, h⟩ := exists_of_bind_eq_ok h
  obtain ⟨⟨⟩, hlengthFragments, h⟩ := exists_of_bind_eq_ok h
  obtain ⟨⟨⟩, hlengthRetries, h⟩ := exists_of_bind_eq_ok h
  -- The columns that follow are the same with and without allocation rates.
  cases withAllocation
  all_goals
    obtain ⟨allocation, hallocation, h⟩ := exists_of_bind_eq_ok h
    obtain ⟨stateName, hstateName, h⟩ := exists_of_bind_eq_ok h
    obtain ⟨errorMessage, herrorMessage, h⟩ := exists_of_bind_eq_ok h
    obtain ⟨rate, hrate, h⟩ := exists_of_bind_eq_ok h
    obtain ⟨sizeMean, hsizeMean, h⟩ := exists_of_bind_eq_ok h
    obtain ⟨sizeStddev, hsizeStddev, h⟩ := exists_of_bind_eq_ok h
    obtain ⟨fragmentsInRu, hfragmentsInRu, h⟩ := exists_of_bind_eq_ok h
    obtain ⟨eventsInRu, heventsInRu, h⟩ := exists_of_bind_eq_ok h
    obtain ⟨eventCount, heventCount, h⟩ := exists_of_bind_eq_ok h
    obtain ⟨requests, hrequests, h⟩ := exists_of_bind_eq_ok h
    obtain ⟨incompleteFragments, hincomplete, h⟩ := exists_of_bind_eq_ok h
    cases h
    exact {
      port := hport
      throughputPerBu := hthroughputs
      buTids := hbuTids
      fragmentRatePerBu := hfragmentRates
      retryRatePerBu := hretryRates
      length_buTids := eq_of_checkLength hlengthTids
      length_fragmentRatePerBu := eq_of_checkLength hlengthFragments
      length_retryRatePerBu := eq_of_checkLength hlengthRetries
      allocation := hallocation
      stateName := hstateName
      errorMessage := herrorMessage
      rate := hrate
      sizeMean := hsizeMean
      sizeStddev := hsizeStddev
      fragmentsInRu := hfragmentsInRu
      eventsInRu := heventsInRu
      eventCount := heventCount
      requests := hrequests
      incompleteFragments := hincomplete }

/-- A row that is read without allocation rates has none. -/
theorem Ru.Report.allocation_of_read {report : Ru.Report}
    (h : Ru.Report.read row false = .ok report) : report.allocation = none :=
  (Except.ok.inj (readFrom_of_read row h).allocation).symm

theorem Ru.Report.allocation_of_read_true {report : Ru.Report}
    (h : Ru.Report.read row true = .ok report) : ∃ rates, report.allocation = some rates := by
  obtain ⟨rates, -, hrates⟩ := map_eq_ok_iff.1 (readFrom_of_read row h).allocation
  exact ⟨rates, hrates.symm⟩

/-- The event manager does not listen to the table of the other units. -/
theorem Ru.uptake_ru : Uptake .ru .ru b fun ru => ru.update .ru row := by
  have hevm : ∀ ru : Ru, ru.reset = b → ru.isEvm = b.isEvm := by
    rintro ru rfl
    rfl
  -- Which unit is the event manager is fixed.
  by_cases hb : b.isEvm
  · refine .of_eq_ok fun ru hru => ?_
    rw [← hevm ru hru] at hb
    simp only [Ru.update, Ru.nextState, if_pos hb]
    rfl
  · have hreport : Uptake .ru .ru b fun ru =>
        (Ru.Report.read row false).map fun report => { ru with state := ru.state.after report } := by
      refine .map fun report hreport => .of_sets (fun _ => rfl) fun t => ?_
      have hnone := Ru.Report.allocation_of_read row hreport
      cases t with
      | allocation =>
        intro ru
        simp [TargetSort.part, Ru.State.part, Ru.State.after, hnone]
      | _ => exact fun _ => rfl
    refine hreport.congr fun ru hru => ?_
    rw [← hevm ru hru] at hb
    simp only [Ru.update, Ru.nextState, if_neg hb, map_map]

theorem Ru.uptake_evm : Uptake .ru .evm b fun ru => ru.update .evm row := by
  simp only [Ru.update, Ru.nextState, map_map]
  refine .map fun report hreport => .of_sets (fun _ => rfl) fun t => ?_
  obtain ⟨rates, hrates⟩ := Ru.Report.allocation_of_read_true row hreport
  cases t with
  | allocation =>
    intro ru
    simp [TargetSort.part, TargetSort.fixed, Ru.reset, Ru.State.part, Ru.State.after, hrates]
  | _ => exact fun _ => rfl

theorem Ru.uptake_jobControl : Uptake .ru .jobControl b fun ru => ru.update .jobControl row := by
  simp only [Ru.update, Ru.nextState, map_map]
  exact .map fun crashed _ => .of_sets (fun _ => rfl) fun t => by
    cases t <;> exact fun _ => rfl

theorem Ru.uptake (kind : Kind) : Uptake .ru kind b fun ru => ru.update kind row := by
  cases kind with
  | ru => exact uptake_ru row
  | evm => exact uptake_evm row
  | jobControl => exact uptake_jobControl row
  | _ => exact .of_eq_ok fun _ _ => rfl

end ReadoutUnits

/-! ## Builder units -/

section BuilderUnits

variable {b : Bu} (row : Row)

theorem Bu.uptake_bu : Uptake .bu .bu b fun bu => bu.update .bu row := by
  simp only [Bu.update, Bu.nextState, Bu.State.after, map_bind]
  exact .bind _ fun port => .bind _ fun stateName => .bind _ fun errorMessage =>
    .bind _ fun rate => .bind _ fun throughput => .bind _ fun sizeMean =>
    .bind _ fun sizeStddev => .bind _ fun eventsInBu => .bind _ fun eventsBuilt =>
    .bind _ fun requestRate => .of_tells (.of_sets (fun _ => rfl)
      fun t => by cases t <;> exact fun _ => rfl)

theorem Bu.uptake_jobControl : Uptake .bu .jobControl b fun bu => bu.update .jobControl row := by
  simp only [Bu.update, Bu.nextState, map_map]
  exact .map fun crashed _ => .of_sets (fun _ => rfl) fun t => by
    cases t <;> exact fun _ => rfl

theorem Bu.uptake (kind : Kind) : Uptake .bu kind b fun bu => bu.update kind row := by
  cases kind with
  | bu => exact uptake_bu row
  | jobControl => exact uptake_jobControl row
  | _ => exact .of_eq_ok fun _ _ => rfl

end BuilderUnits

/-! ## Cards and their computers -/

section Cards

variable (row : Row)

/-- A card takes the rows of the status table of its generation, which is fixed. -/
theorem Frl.uptake {b : Frl} (kind : Kind) : Uptake .frl kind b fun frl => frl.update kind row := by
  have hkind : ∀ frl : Frl, frl.reset = b → frl.kind = b.kind := by
    rintro frl rfl
    rfl
  by_cases hstatus : kind = b.kind.statusKind
  · have htopics : topics kind = [.cardState] := by
      rw [hstatus]
      cases b.kind <;> rfl
    have hrow : Uptake .frl kind b fun frl =>
        (row.text "stateName").map fun stateName => { frl with stateName := some stateName } := by
      refine .map fun stateName _ => .of_sets (fun _ => rfl) ?_
      rw [htopics]
      intro t
      cases t <;> exact fun _ => rfl
    refine hrow.congr fun frl hfrl => ?_
    rw [← hkind frl hfrl] at hstatus
    simp only [Frl.update, if_pos hstatus]
  · refine .of_eq_ok fun frl hfrl => ?_
    rw [← hkind frl hfrl] at hstatus
    simp only [Frl.update, if_neg hstatus]

theorem FrlPc.uptake {b : FrlPc} (kind : Kind) :
    Uptake .frlPc kind b fun pc => pc.update kind row := by
  cases kind with
  | jobControl =>
    exact .map fun crashed _ => .of_sets (fun _ => rfl) fun t => by
      cases t <;> exact fun _ => rfl
  | _ => exact .of_eq_ok fun _ _ => rfl

end Cards

/-! ## Throttling -/

section Throttling

variable (row : Row)

theorem Fmm.uptake {b : Fmm} (kind : Kind) : Uptake .fmm kind b fun fmm => fmm.update kind row := by
  cases kind with
  | fmmStatus =>
    exact .bind _ fun outputA => .bind _ fun stateB => .of_tells (.of_sets (fun _ => rfl)
      fun t => by cases t <;> exact fun _ => rfl)
  | _ => exact .of_eq_ok fun _ _ => rfl

theorem FmmApplication.uptake {b : FmmApplication} (kind : Kind) :
    Uptake .fmmApplication kind b fun app => app.update kind row := by
  cases kind with
  | jobControl =>
    exact .map fun crashed _ => .of_sets (fun _ => rfl) fun t => by
      cases t <;> exact fun _ => rfl
  | _ => exact .of_eq_ok fun _ _ => rfl

/-- Which output of the FMM counts is fixed. -/
theorem TtcPartition.uptake {b : TtcPartition} (kind : Kind) :
    Uptake .ttcPartition kind b fun p => p.update kind row := by
  cases kind with
  | fmmStatus =>
    have hrow : Uptake .ttcPartition .fmmStatus b fun p =>
        (FmmOutput.read b.outputLetter row).map fun output =>
          { p with
            ttsState := some output.ttsState
            percentBusy := output.percentBusy
            percentWarning := output.percentWarning } := by
      exact .map fun output _ => .of_sets (fun _ => rfl) fun t => by
        cases t <;> exact fun _ => rfl
    refine hrow.congr ?_
    rintro p rfl
    rfl
  | _ => exact .of_eq_ok fun _ _ => rfl

theorem SubSystem.uptake {b : SubSystem} (kind : Kind) :
    Uptake .subSystem kind b fun s => s.update kind row := by
  cases kind with
  | levelZeroSubsystems =>
    exact .map fun state _ => .of_sets (fun _ => rfl) fun t => by
      cases t <;> exact fun _ => rfl
  | _ => exact .of_eq_ok fun _ _ => rfl

end Throttling

/-! ## The run and the TCDS record -/

section Root

variable (row : Row)

theorem RunInfo.uptake {b : RunInfo} (kind : Kind) :
    Uptake .run kind b fun run => run.update kind row := by
  cases kind with
  | levelZeroDynamic =>
    exact .bind _ fun sessionId => .bind _ fun runNumber => .bind _ fun levelZeroState =>
      .bind _ fun lhcMachineMode => .bind _ fun lhcBeamMode =>
      .of_tells (.of_sets (fun _ => rfl)
        fun t => by cases t <;> exact fun _ => rfl)
  | levelZeroSubsystems =>
    exact .map fun state _ => .of_sets (fun _ => rfl) fun t => by
      cases t <;> exact fun _ => rfl
  | _ => exact .of_eq_ok fun _ _ => rfl

theorem TcdsInfo.uptake {b : TcdsInfo} (kind : Kind) :
    Uptake .tcds kind b fun tcds => tcds.update kind row := by
  cases kind with
  | tcdsCounts =>
    exact .bind _ fun triggersTotal => .bind _ fun suppressedTotal =>
      .of_tells (.of_sets (fun _ => rfl)
        fun t => by cases t <;> exact fun _ => rfl)
  | tcdsDeadtimes =>
    exact .bind _ fun total => .bind _ fun tts => .bind _ fun triggerRules =>
      .bind _ fun bunchMaskVeto => .bind _ fun retri => .bind _ fun daqBackpressure =>
      .of_tells (.of_sets (fun _ => rfl)
        fun t => by cases t <;> exact fun _ => rfl)
  | tcdsRates =>
    exact .bind _ fun total => .bind _ fun suppressed => .bind _ fun beamActive =>
      .of_tells (.of_sets (fun _ => rfl)
        fun t => by cases t <;> exact fun _ => rfl)
  | tcdsActionCounts =>
    exact .bind _ fun resyncs => .bind _ fun oc0s => .bind _ fun hardResets =>
      .bind _ fun starts => .of_tells (.of_sets (fun _ => rfl)
        fun t => by cases t <;> exact fun _ => rfl)
  | _ => exact .of_eq_ok fun _ _ => rfl

end Root

/-! ## All sorts -/

namespace TargetSort

variable (s : TargetSort) (kind : Kind)

theorem uptake (row : Row) (b : s.Entity) : Uptake s kind b fun e => s.update e kind row := by
  cases s with
  | run => exact RunInfo.uptake row kind
  | tcds => exact TcdsInfo.uptake row kind
  | fed => exact Fed.uptake row kind
  | frl => exact Frl.uptake row kind
  | frlPc => exact FrlPc.uptake row kind
  | ru => exact Ru.uptake row kind
  | bu => exact Bu.uptake row kind
  | fmm => exact Fmm.uptake row kind
  | fmmApplication => exact FmmApplication.uptake row kind
  | ttcPartition => exact TtcPartition.uptake row kind
  | subSystem => exact SubSystem.uptake row kind

/-- Whether an entity refuses a row. -/
def refuses (row : Row) (e : s.Entity) : Bool :=
  match s.update e kind row with
  | .ok _ => false
  | .error _ => true

/-- The entity after the row that it gets: a row that is refused leaves it as it is. -/
def take (row? : Option Row) (e : s.Entity) : s.Entity :=
  match row? with
  | none => e
  | some row =>
    match s.update e kind row with
    | .ok e' => e'
    | .error _ => e

variable {s kind}

theorem refuses_congr {row : Row} {e e' : s.Entity} (h : s.fixed e = s.fixed e') :
    s.refuses kind row e = s.refuses kind row e' := by
  rcases s.uptake kind row (s.fixed e) with ⟨error, herror⟩ | ⟨f, -, hf⟩
  · simp only [refuses, herror e rfl, herror e' h.symm]
  · simp only [refuses, hf e rfl, hf e' h.symm]

/-- A row that is refused leaves an entity as it is. -/
theorem take_of_refuses {row : Row} {e : s.Entity} (h : s.refuses kind row e = true) :
    s.take kind (some row) e = e := by
  unfold refuses at h
  cases hrow : s.update e kind row with
  | ok e' => simp [hrow] at h
  | error error => simp only [take, hrow]

theorem update_of_refuses_eq_false {row : Row} {e : s.Entity}
    (h : s.refuses kind row e = false) : s.update e kind row = .ok (s.take kind (some row) e) := by
  unfold refuses at h
  cases hrow : s.update e kind row with
  | ok e' => simp only [take, hrow]
  | error error => simp [hrow] at h

/-- On the entities with one fixed part a row either does nothing or what a row of its kind does. -/
theorem take_cases (kind : Kind) (row? : Option Row) (b : s.Entity) :
    ∃ f, Tells s kind f ∧ ∀ e, s.fixed e = b → s.take kind row? e = f e := by
  have hid : Tells s kind id := ⟨.of_eq_self fun _ => rfl, fun _ => .of_eq_self fun _ => rfl⟩
  cases row? with
  | none => exact ⟨id, hid, fun _ _ => rfl⟩
  | some row =>
    rcases s.uptake kind row b with ⟨error, herror⟩ | ⟨f, htells, hf⟩
    · refine ⟨id, hid, fun e he => ?_⟩
      simp only [take, herror e he]
      rfl
    · refine ⟨f, htells, fun e he => ?_⟩
      simp only [take, hf e he]

/-- The change that a row makes speaks about the topics of its kind. -/
theorem take_speaks (row? : Option Row) : Speaks s (topics kind) (s.take kind row?) where
  fixed e := by
    obtain ⟨f, htells, hf⟩ := take_cases kind row? (s.fixed e)
    rw [hf e rfl, htells.speaks.fixed]
  others t ht e := by
    obtain ⟨f, htells, hf⟩ := take_cases kind row? (s.fixed e)
    rw [hf e rfl, htells.speaks.others t ht]
  own t ht e e' hfixed hown := by
    obtain ⟨f, htells, hf⟩ := take_cases kind row? (s.fixed e)
    rw [hf e rfl, hf e' hfixed.symm]
    exact htells.speaks.own t ht e e' hfixed hown

/-- The change that a row without a running total makes settles the topics of its kind. -/
theorem take_settles (htotal : carriesTotal kind = false) (row? : Option Row) :
    Settles s (topics kind) (s.take kind row?) := by
  intro b
  obtain ⟨f, htells, hf⟩ := take_cases kind row? b
  rcases htells.settles htotal b with hid | hsets
  · exact .inl fun e he => (hf e he).trans (hid e he)
  · refine .inr fun t ht e e' he he' => ?_
    rw [hf e he, hf e' he']
    exact hsets t ht e e' he he'

/-- A row that comes twice tells nothing new the second time. -/
theorem take_take (row? : Option Row) (e : s.Entity) :
    s.take kind row? (s.take kind row? e) = s.take kind row? e := by
  cases htotal : carriesTotal kind with
  | false =>
    -- The row settles its topics, so its first coming is void.
    have hid : Settles s [] (id : s.Entity → s.Entity) := .of_eq_self fun _ => rfl
    exact (take_settles htotal row?).absorb hid (take_speaks row?) (.of_eq_self fun _ => rfl) e
  | true =>
    -- Only FEDs listen to a stream; its running total does not go on at the same time.
    cases row? with
    | none => rfl
    | some row =>
      cases s with
      | fed =>
        simp only [take, Fed.update_of_carriesTotal row htotal]
        cases hstate : Fed.State.afterInputStream e.state row with
        | error error => simp [hstate, Except.map]
        | ok state => simp [Except.map, Fed.State.afterInputStream_again row hstate]
      | frl =>
        have hstatus : kind ≠ CardKind.statusKind (Frl.kind e) := by
          rintro rfl
          cases hcard : Frl.kind e <;> simp [CardKind.statusKind, hcard, carriesTotal] at htotal
        simp [take, TargetSort.update, Frl.update, hstatus]
      | _ => cases kind <;> first | exact absurd htotal (by decide) | rfl

end TargetSort

end DaqMonitor

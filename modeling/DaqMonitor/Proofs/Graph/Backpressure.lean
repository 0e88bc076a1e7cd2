/-
  DaqMonitor.Proofs.Graph.Backpressure

  The backpressure of a FED, from the readings of its input stream.

  A row of an input stream that a FED accepts is a reading: a time and what the
  card has added up by then. The log of a FED keeps its readings since the last
  reset. A reading at the time of the one before it says nothing new, and what the
  remaining ones say is all that the FED has to remember: the last of them, and how
  much it is above the one before.

    * `Fed.log fed events` — the readings of a FED since the last reset.
    * `newTimes readings` — the readings without those at the time of the one before.
    * `growth readings` — the last reading less the one before it.
    * `Metered state readings` — the state agrees with the readings.
    * `Metered.after`, `Metered.afterAll` — every step keeps that, and so does a run.
    * `Fed.meter_afterAll` — the backpressure after any run.
-/
import DaqMonitor.Proofs.Graph.Rows

namespace DaqMonitor

open Flashlist

/-! ## Readings -/

/-- What a row of an input stream reads off the card. -/
structure Reading where
  timestamp : String
  /-- The backpressure that the card has added up over the run. -/
  accumulated : Float
  deriving DecidableEq

/-- Reads the time of a row of an input stream, and what the card has added up by then. -/
def Reading.read (row : Row) : Except RowError Reading := do
  let timestamp ← row.text "timestamp"
  let accumulated ← row.double "AccBackpressureSecond"
  .ok { timestamp, accumulated }

/-- The readings without those at the time of the reading before, of which the first one has the
    time `before?`. -/
def newTimesFrom (before? : Option String) : List Reading → List Reading
  | [] => []
  | r :: readings =>
    if before? = some r.timestamp then newTimesFrom (some r.timestamp) readings
    else r :: newTimesFrom (some r.timestamp) readings

/-- The readings without those at the time of the reading before. -/
def newTimes (readings : List Reading) : List Reading := newTimesFrom none readings

/-- What was added up by the last reading, nothing where there is none. -/
def lastAccumulated (readings : List Reading) : Float :=
  (readings.getLast?.map Reading.accumulated).getD 0.0

/-- What was added up between the last two readings; before the first there was nothing. -/
def growth (readings : List Reading) : Float :=
  match readings.getLast? with
  | none => 0.0
  | some r => r.accumulated - lastAccumulated readings.dropLast

/-- The time of the last reading. -/
def lastTime? (readings : List Reading) : Option String :=
  readings.getLast?.map Reading.timestamp

@[simp] theorem lastTime?_concat (readings : List Reading) (r : Reading) :
    lastTime? (readings ++ [r]) = some r.timestamp := by
  simp [lastTime?]

@[simp] theorem lastAccumulated_concat (readings : List Reading) (r : Reading) :
    lastAccumulated (readings ++ [r]) = r.accumulated := by
  simp [lastAccumulated]

@[simp] theorem growth_concat (readings : List Reading) (r : Reading) :
    growth (readings ++ [r]) = r.accumulated - lastAccumulated readings := by
  simp [growth]

/-- The times that are new in a part of the readings hang on the last time before that part. -/
theorem newTimesFrom_append (before? : Option String) (readings further : List Reading) :
    newTimesFrom before? (readings ++ further) = newTimesFrom before? readings ++
      newTimesFrom ((lastTime? readings).or before?) further := by
  induction readings generalizing before? with
  | nil => rfl
  | cons r readings ih =>
    -- The last time of the first part is that of `r` only if nothing comes after `r`.
    have hlast : (lastTime? (r :: readings)).or before?
        = (lastTime? readings).or (some r.timestamp) := by
      unfold lastTime?
      rw [List.getLast?_cons]
      cases readings.getLast? <;> rfl
    rw [List.cons_append, newTimesFrom, newTimesFrom, hlast, ih]
    split <;> rfl

/-- A further reading is a new one unless it has the time of the last. -/
theorem newTimes_concat (readings : List Reading) (r : Reading) :
    newTimes (readings ++ [r])
      = if lastTime? readings = some r.timestamp then newTimes readings
        else newTimes readings ++ [r] := by
  rw [newTimes, newTimesFrom_append, Option.or_none, newTimesFrom]
  split
  · exact List.append_nil _
  · rfl

/-! ## Runs of a FED -/

namespace Fed

/-- What a FED can meet with. -/
inductive Event where
  | row (kind : Kind) (row : Row)
  | reset

/-- The reading that a row of a kind gives a FED: none unless it is a row of an input stream that
    the FED accepts. -/
def reading? (kind : Kind) (row : Row) (fed : Fed) : Option Reading :=
  if carriesTotal kind && !TargetSort.fed.refuses kind row fed then (Reading.read row).toOption
  else none

/-- A FED and the readings that it got since the last reset. -/
structure Logged where
  fed : Fed
  log : List Reading := []

/-- A FED and its log after an event: a row that is refused leaves the FED as it is. -/
def Logged.after (l : Logged) : Event → Logged
  | .row kind row =>
    { fed := TargetSort.fed.take kind (some row) l.fed
      log := l.log ++ (l.fed.reading? kind row).toList }
  | .reset => { fed := l.fed.reset }

/-- A FED and its log after a run. -/
def Logged.afterAll (l : Logged) (events : List Event) : Logged := events.foldl Logged.after l

/-- A FED after a run. -/
def afterAll (fed : Fed) (events : List Event) : Fed := (Logged.afterAll { fed } events).fed

/-- The readings of a FED in a run, since its last reset. -/
def log (fed : Fed) (events : List Event) : List Reading := (Logged.afterAll { fed } events).log

/-- Whether a row gives a FED a reading hangs on what is fixed of the FED alone. -/
theorem reading?_congr (kind : Kind) (row : Row) {fed fed' : Fed} (h : fed.reset = fed'.reset) :
    fed.reading? kind row = fed'.reading? kind row := by
  have hrefuses : TargetSort.fed.refuses kind row fed = TargetSort.fed.refuses kind row fed' :=
    TargetSort.refuses_congr h
  rw [reading?, reading?, hrefuses]

theorem reading?_eq_none {kind : Kind} {row : Row} {fed : Fed}
    (h : carriesTotal kind = false ∨ TargetSort.fed.refuses kind row fed = true) :
    fed.reading? kind row = none := by
  rcases h with h | h <;> simp [reading?, h]

/-- An accepted row of an input stream is a reading, and the running total observes it. -/
theorem State.exists_reading_of_afterInputStream {state state' : State} {row : Row}
    (h : state.afterInputStream row = .ok state') :
    ∃ r, Reading.read row = .ok r ∧ state'.timestamp = some r.timestamp ∧
      state'.backpressure = state.backpressure.observe r.timestamp r.accumulated ∧
      state'.percentBackpressure =
        if state.backpressure.isNew r.timestamp then state'.backpressure.delta
        else state.percentBackpressure := by
  obtain ⟨time, sum, hstreamed⟩ := exists_streamed_of_afterInputStream row h
  refine ⟨⟨time, sum⟩, ?_, hstreamed.shownTime, hstreamed.total, hstreamed.shownTotal⟩
  simp only [Reading.read, hstreamed.timestamp, hstreamed.accumulated, ok_bind]

end Fed

/-! ## What a FED remembers of its readings -/

/-- What a FED knows of its backpressure agrees with its readings. -/
structure Metered (state : Fed.State) (readings : List Reading) : Prop where
  timestamp : state.timestamp = lastTime? readings
  lastTimestamp : state.backpressure.lastTimestamp = lastTime? readings
  lastRaw : state.backpressure.lastRaw = lastAccumulated (newTimes readings)
  percentBackpressure : state.percentBackpressure = growth (newTimes readings)

namespace Metered

variable {state state' : Fed.State} {readings : List Reading}

theorem nil : Metered {} [] := ⟨rfl, rfl, rfl, rfl⟩

/-- Everything that is metered belongs to the stream. -/
theorem congr (h : Metered state readings) (hpart : state'.part .stream = state.part .stream) :
    Metered state' readings := by
  have hfields := Fed.State.mk.inj hpart
  obtain ⟨-, -, -, -, -, hpercent, -, -, -, -, -, -, -, htimestamp, htotal⟩ := hfields
  refine ⟨htimestamp.trans h.timestamp, ?_, ?_, hpercent.trans h.percentBackpressure⟩
  · rw [htotal]
    exact h.lastTimestamp
  · rw [htotal]
    exact h.lastRaw

/-- An observation is new exactly if its time is not that of the last reading. -/
theorem isNew_iff (h : Metered state readings) (timestamp : String) :
    state.backpressure.isNew timestamp = true ↔ lastTime? readings ≠ some timestamp := by
  rw [RunningTotal.isNew, bne_iff_ne, h.lastTimestamp]

/-- The running total of a FED observes its readings. -/
theorem after_reading (h : Metered state readings) {r : Reading}
    (htimestamp : state'.timestamp = some r.timestamp)
    (htotal : state'.backpressure = state.backpressure.observe r.timestamp r.accumulated)
    (hpercent : state'.percentBackpressure =
      if state.backpressure.isNew r.timestamp then state'.backpressure.delta
      else state.percentBackpressure) :
    Metered state' (readings ++ [r]) := by
  have hreadings := newTimes_concat readings r
  by_cases hnew : state.backpressure.isNew r.timestamp = true
  · rw [if_neg ((h.isNew_iff r.timestamp).1 hnew)] at hreadings
    rw [if_pos hnew] at hpercent
    rw [RunningTotal.observe, if_pos hnew] at htotal
    refine ⟨?_, ?_, ?_, ?_⟩
    · rw [htimestamp, lastTime?_concat]
    · rw [htotal, lastTime?_concat]
    · rw [htotal, hreadings, lastAccumulated_concat]
    · rw [hpercent, htotal, hreadings, growth_concat, h.lastRaw]
  · -- The total stands, and the reading adds nothing to the new times.
    have hlast : lastTime? readings = some r.timestamp := by
      by_contra hother
      exact hnew ((h.isNew_iff r.timestamp).2 hother)
    rw [if_pos hlast] at hreadings
    rw [if_neg hnew] at hpercent
    rw [RunningTotal.observe, if_neg hnew] at htotal
    refine ⟨?_, ?_, ?_, ?_⟩
    · rw [htimestamp, lastTime?_concat]
    · rw [htotal, lastTime?_concat, h.lastTimestamp, hlast]
    · rw [htotal, hreadings, h.lastRaw]
    · rw [hpercent, hreadings, h.percentBackpressure]

/-- A row adds to the readings of a FED what it gives it, and leaves everything that is metered alone
    where it gives none. -/
theorem after_row {fed : Fed} (h : Metered fed.state readings) (kind : Kind) (row : Row) :
    Metered (TargetSort.fed.take kind (some row) fed).state
      (readings ++ (fed.reading? kind row).toList) := by
  cases hrefuses : TargetSort.fed.refuses kind row fed with
  | true =>
    rw [Fed.reading?_eq_none (.inr hrefuses), TargetSort.take_of_refuses hrefuses]
    simpa using h
  | false =>
    cases htotal : carriesTotal kind with
    | false =>
      have hstream : .stream ∉ topics kind := by
        cases kind <;> first | decide | exact absurd htotal (by decide)
      have hspeaks : Speaks .fed (topics kind) (TargetSort.fed.take kind (some row)) :=
        TargetSort.take_speaks (some row)
      have hpart := hspeaks.others .stream hstream fed
      rw [Fed.reading?_eq_none (.inl htotal)]
      simpa using h.congr (congrArg Fed.state hpart)
    | true =>
      have hrow := TargetSort.update_of_refuses_eq_false hrefuses
      rw [Fed.update_of_carriesTotal row htotal] at hrow
      cases hstate : fed.state.afterInputStream row with
      | error error => simp [hstate, Except.map] at hrow
      | ok state =>
        rw [hstate] at hrow
        obtain ⟨r, hread, htimestamp, hobserve, hpercent⟩ :=
          Fed.State.exists_reading_of_afterInputStream hstate
        have hreading : fed.reading? kind row = some r := by
          simp [Fed.reading?, htotal, hrefuses, hread, Except.toOption]
        rw [hreading, ← Except.ok.inj hrow]
        exact h.after_reading htimestamp hobserve hpercent

/-- A FED and its log agree after every event. -/
theorem after {l : Fed.Logged} (h : Metered l.fed.state l.log) (event : Fed.Event) :
    Metered (l.after event).fed.state (l.after event).log := by
  cases event with
  | row kind row => exact h.after_row kind row
  | reset => exact nil

/-- A FED and its log agree after every run. -/
theorem afterAll {l : Fed.Logged} (h : Metered l.fed.state l.log) (events : List Fed.Event) :
    Metered (l.afterAll events).fed.state (l.afterAll events).log := by
  induction events generalizing l with
  | nil => exact h
  | cons event events ih => exact ih (h.after event)

end Metered

namespace Fed

/-! ## Which readings a FED gets -/

theorem Logged.afterAll_append (l : Logged) (events further : List Event) :
    l.afterAll (events ++ further) = (l.afterAll events).afterAll further := List.foldl_append

/-- No event changes what is fixed of a FED. -/
theorem Logged.reset_after (l : Logged) (event : Event) :
    (l.after event).fed.reset = l.fed.reset := by
  cases event with
  | row kind row =>
    have hspeaks : Speaks .fed (topics kind) (TargetSort.fed.take kind (some row)) :=
      TargetSort.take_speaks (some row)
    exact hspeaks.fixed l.fed
  | reset => rfl

/-- Which readings come in a run hangs on what is fixed of the FED alone. -/
theorem Logged.log_afterAll_congr {l l' : Logged} (hfixed : l.fed.reset = l'.fed.reset)
    (hlog : l.log = l'.log) (events : List Event) :
    (l.afterAll events).log = (l'.afterAll events).log := by
  induction events generalizing l l' with
  | nil => exact hlog
  | cons event events ih =>
    have hfixed' : (l.after event).fed.reset = (l'.after event).fed.reset := by
      rw [reset_after, reset_after, hfixed]
    -- Both logs get the same reading, for whether there is one hangs on the fixed part.
    refine ih hfixed' ?_
    cases event with
    | row kind row => simp only [after, hlog, reading?_congr kind row hfixed]
    | reset => rfl

/-- A row that gives the FED no reading leaves no trace in its log. -/
theorem log_without (fed : Fed) (before after : List Event) {kind : Kind} {row : Row}
    (h : (fed.afterAll before).reading? kind row = none) :
    fed.log (before ++ .row kind row :: after) = fed.log (before ++ after) := by
  rw [log, log, Logged.afterAll_append, Logged.afterAll_append]
  refine Logged.log_afterAll_congr (Logged.reset_after _ (.row kind row)) ?_ after
  have hnone : ((Logged.afterAll { fed } before).fed.reading? kind row) = none := h
  simp only [Logged.after, hnone, Option.toList_none, List.append_nil]

/-! ## The main result -/

/-- What a FED shows of the backpressure of its stream, with the total that it goes on from. -/
structure Meter where
  percentBackpressure : Float
  lastRaw : Float
  timestamp : Option String
  deriving DecidableEq

/-- What a FED shows of its backpressure. -/
def meter (fed : Fed) : Meter where
  percentBackpressure := fed.state.percentBackpressure
  lastRaw := fed.state.backpressure.lastRaw
  timestamp := fed.state.timestamp

/-- What is to be shown after some readings. -/
def Meter.of (readings : List Reading) : Meter where
  percentBackpressure := growth (newTimes readings)
  lastRaw := lastAccumulated (newTimes readings)
  timestamp := lastTime? readings

/-- The backpressure of a FED is what was added up between the last two new times of the readings
    since the last reset, its running total the last of these, and its time that of the last reading.
    Rows that the FED refuses and rows of other tables have no part in this. -/
theorem meter_afterAll (fed : Fed) (hfresh : fed.state = {}) (events : List Event) :
    (fed.afterAll events).meter = .of (fed.log events) ∧
      ∀ before kind row after, events = before ++ .row kind row :: after →
        carriesTotal kind = false ∨
          TargetSort.fed.refuses kind row (fed.afterAll before) = true →
        (fed.afterAll (before ++ after)).meter = (fed.afterAll events).meter := by
  have hmeter : ∀ events : List Event, (fed.afterAll events).meter = .of (fed.log events) := by
    intro events
    have hnil : Metered (Logged.mk fed []).fed.state (Logged.mk fed []).log := by
      rw [hfresh]
      exact .nil
    have h := hnil.afterAll events
    simp only [meter, Meter.of, Meter.mk.injEq]
    exact ⟨h.percentBackpressure, h.lastRaw, h.timestamp⟩
  refine ⟨hmeter events, ?_⟩
  rintro before kind row after rfl hno
  rw [hmeter, hmeter, log_without fed before after (reading?_eq_none hno)]

/-- A FED that no table has told anything about. -/
def silent : Fed where
  uid := ⟨7⟩
  id := 3
  expectedId := 3
  frlInput := some 0

/-- A row of an input stream at a time, with what has been added up. -/
def streamRow (timestamp : String) (accumulated : Float) : Row :=
  .object [
    ("WrongFEDId", .text "3"), ("LinkCRCError", .text "0"), ("FEDCRCError", .text "0"),
    ("TriggerNumber", .text "1"), ("EventCounter", .text "1"), ("timestamp", .text timestamp),
    ("AccBackpressureSecond", .number (.real accumulated))]

/-- Of the rows since the reset, the second repeats the time of the first, a row of another table
    comes in between, one without columns is refused, and the last goes back to the first time. -/
theorem meter_afterAll_streams :
    (silent.afterAll [.row .ferolInputStream (streamRow "t0" 7.5), .reset,
      .row .ferolInputStream (streamRow "t0" 1.0), .row .ferol40InputStream (streamRow "t0" 2.0),
      .row .ferolConfiguration (.object [("enableStream0", .bool false)]),
      .row .ferolInputStream (streamRow "t1" 4.5), .row .ferolInputStream (.object []),
      .row .ferolInputStream (streamRow "t0" 6.0)]).meter
        = { percentBackpressure := 1.5, lastRaw := 6.0, timestamp := some "t0" } ∧
    (silent.afterAll [.row .ferolInputStream (streamRow "t0" 1.0),
      .row .ferolInputStream (streamRow "t1" 4.5)]).meter
        = (silent.afterAll [.row .ferolInputStream (streamRow "t0" 1.0),
          .row .ferolInputStream (.object []),
          .row .ferolInputStream (streamRow "t1" 4.5)]).meter :=
  ⟨(meter_afterAll silent rfl _).1.trans (by decide +kernel),
    (meter_afterAll silent rfl _).2 [.row .ferolInputStream (streamRow "t0" 1.0)] .ferolInputStream
      (.object []) [.row .ferolInputStream (streamRow "t1" 4.5)] rfl (.inr (by decide +kernel))⟩

end Fed

end DaqMonitor

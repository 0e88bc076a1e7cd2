/-
  DaqMonitor.Proofs.Cycle.Counters

  Where the counters of a graph come from.

  A record stands beside a run: the rows that an entity accepts, one after the other.
  A counter of the entity is at any time as at the start, as before any row, or it
  is what one of these rows holds in the column of the counter. As columns are read
  exactly, no counter has a value that no row carried, unless a row had a whole
  number there that does not fit in 64 bits with a sign.

    * `Monitor.accepted m s n operations` — the rows that an entity accepts in a run.
    * `Counter.Recorded c start rows e` — the counter comes from the rows, or from
      before them.
    * `Counter.Recorded.performAll` — every run keeps that.
    * `Monitor.integers_exact` — columns, lists and counters.
-/
import DaqMonitor.Proofs.Cycle.History
import DaqMonitor.Proofs.Cycle.Rejection
import DaqMonitor.Proofs.Graph.Counters

namespace DaqMonitor

open Flashlist

/-! ## Counters by row -/

namespace TargetSort

variable {s : TargetSort} {c : Counter s.Entity} {kind : Kind} {e e' : s.Entity}

/-- A counter comes row by row. -/
theorem values_congr (hc : c ∈ s.counters) (h : s.rowFed e = s.rowFed e') :
    c.values e = c.values e' := by
  have hrowFed : ∀ e, c.values (s.rowFed e) = c.values e := by
    intro e
    revert c
    cases s <;> simp [counters, rowFed]
  rw [← hrowFed e, h, hrowFed]

/-- Before any row a counter has the same value in all entities. -/
theorem values_fixed (hc : c ∈ s.counters) (e e' : s.Entity) :
    c.values (s.fixed e) = c.values (s.fixed e') := by
  revert c
  cases s <;> simp [counters, fixed, TcdsInfo.reset, Fed.reset, Ru.reset, Bu.reset]

/-- A reset takes every counter back to before any row, but leaves the session of the run. -/
theorem values_reset (hc : c ∈ s.counters) (e : s.Entity) :
    c.values (s.reset e) = c.values (s.fixed e) ∨ c.values (s.reset e) = c.values e := by
  revert c
  cases s <;> simp [counters, reset, fixed, RunInfo.reset]

/-- A counter after the row that the entity gets. -/
theorem values_take (hc : c ∈ s.counters) (row? : Option Row)
    (hbounded : ∀ row ∈ row?, s.refuses kind row e = false → row.Bounded c.column) :
    c.values (s.take kind row? e) = c.values e ∨
      ∃ row ∈ row?, s.refuses kind row e = false ∧ c.topic ∈ topics kind ∧
        row.Holds c.column (c.values (s.take kind row? e)) := by
  by_cases htopic : c.topic ∈ topics kind
  · cases row? with
    | none => exact .inl rfl
    | some row =>
      cases hrefuses : s.refuses kind row e with
      | true =>
        rw [take_of_refuses hrefuses]
        exact .inl rfl
      | false =>
        have htaken := update_of_refuses_eq_false hrefuses
        cases hheeds : s.heeds kind e with
        | true =>
          have hholds := values_update hc htopic hheeds (hbounded row rfl hrefuses) htaken
          exact .inr ⟨row, rfl, hrefuses, htopic, hholds⟩
        | false => exact .inl (congrArg c.values (eq_of_not_heeds hheeds htaken))
  · exact .inl (values_take_of_not_mem hc htopic row? e)

end TargetSort

/-! ## The rows of a run -/

namespace Monitor

/-- The row of a flashlist that the entity of a sort at a position accepts, with its kind. -/
def acceptedRow? (m : Monitor) (s : TargetSort) (n : Nat) (f : Flashlist) :
    Option (Kind × Row) := do
  let kind ← f.dispatchKind?
  let row ← Table.row? m.session m.graph f.rows s n kind
  let e ← (m.graph.entities s)[n]?
  if s.refuses kind row e then none else some (kind, row)

/-- The rows of some flashlists that it accepts, one flashlist after the other. -/
def acceptedRows (m : Monitor) (s : TargetSort) (n : Nat) : List Flashlist → List (Kind × Row)
  | [] => []
  | f :: flashlists =>
    (m.acceptedRow? s n f).toList ++ (m.dispatch f).1.acceptedRows s n flashlists

/-- The rows that it accepts in an operation. -/
def acceptedIn (m : Monitor) (s : TargetSort) (n : Nat) : Operation → List (Kind × Row)
  | .cycle flashlists _ => m.acceptedRows s n (inOrder flashlists)
  | .reset _ | .resetAll | .filter _ => []

/-- The rows that it accepts in a run. -/
def accepted (m : Monitor) (s : TargetSort) (n : Nat) : List Operation → List (Kind × Row)
  | [] => []
  | operation :: operations =>
    m.acceptedIn s n operation ++ (m.perform operation).accepted s n operations

end Monitor

/-! ## Where a counter comes from -/

/-- Whether an operation resets the entity of a sort at a position. -/
def Operation.Resets (s : TargetSort) (n : Nat) : Operation → Prop
  | .reset targets => s.target n ∈ targets
  | .resetAll => True
  | .cycle _ _ | .filter _ => False

/-- The counter of an entity is as at the start, or as before any row and the entity was reset, or it
    is what one of the given rows holds in its column. -/
def Counter.Recorded {s : TargetSort} (c : Counter s.Entity) (start : List Int) (n : Nat)
    (past : List Operation) (rows : List (Kind × Row)) (e : s.Entity) : Prop :=
  c.values e = start ∨
    (c.values e = c.values (s.fixed e) ∧ ∃ operation ∈ past, operation.Resets s n) ∨
    ∃ told ∈ rows, c.topic ∈ topics told.1 ∧ told.2.Holds c.column (c.values e)

namespace Counter.Recorded

variable {s : TargetSort} {c : Counter s.Entity} {start : List Int} {n : Nat}
  {past past' : List Operation} {rows rows' : List (Kind × Row)}

theorem mono {e : s.Entity} (h : c.Recorded start n past rows e) (hpast : past ⊆ past')
    (hrows : rows ⊆ rows') : c.Recorded start n past' rows' e := by
  rcases h with hstart | ⟨hblank, operation, hmem, hresets⟩ | ⟨told, hmem, hholds⟩
  · exact .inl hstart
  · exact .inr (.inl ⟨hblank, operation, hpast hmem, hresets⟩)
  · exact .inr (.inr ⟨told, hrows hmem, hholds⟩)

/-- It hangs on the value of the counter alone. -/
theorem congr (hc : c ∈ s.counters) {e e' : s.Entity} (h : c.Recorded start n past rows e)
    (hvalues : c.values e' = c.values e) : c.Recorded start n past rows e' := by
  unfold Recorded
  rw [hvalues, TargetSort.values_fixed hc e' e]
  exact h

theorem dispatch (hc : c ∈ s.counters) {m : Monitor} {f : Flashlist}
    (h : ∀ e, (m.graph.entities s)[n]? = some e → c.Recorded start n past rows e)
    (hbounded : ∀ told ∈ m.acceptedRow? s n f, told.2.Bounded c.column) :
    ∀ e, ((m.dispatch f).1.graph.entities s)[n]? = some e →
      c.Recorded start n past (rows ++ (m.acceptedRow? s n f).toList) e := by
  intro e' he'
  rw [m.graph_dispatch] at he'
  cases hkind : f.dispatchKind? with
  | none =>
    simp only [DaqMonitor.dispatch, hkind] at he'
    exact (h e' he').mono (List.Subset.refl _) (List.subset_append_left _ _)
  | some kind =>
    rw [dispatch_graph m.session m.graph hkind, Graph.entities_apply, List.getElem?_mapIdx] at he'
    obtain ⟨e, he, rfl⟩ := Option.map_eq_some_iff.1 he'
    rw [Table.effect_eq_take]
    have haccepted : ∀ row ∈ Table.row? m.session m.graph f.rows s n kind,
        s.refuses kind row e = false → m.acceptedRow? s n f = some (kind, row) := by
      intro row hrow hrefuses
      simp [Monitor.acceptedRow?, hkind, Option.mem_def.1 hrow, he, hrefuses]
    generalize Table.row? m.session m.graph f.rows s n kind = row? at haccepted ⊢
    -- What the table does besides does not change the counter.
    have haside : c.values (s.take kind row? (Table.aside m.session kind f.rows s n e))
        = c.values (s.take kind row? e) :=
      TargetSort.values_congr hc
        (TargetSort.rowFed_take_congr (Table.rowFed_aside m.session kind f.rows e) row?)
    refine congr hc ?_ haside
    rcases TargetSort.values_take hc row?
        (fun row hrow hrefuses => hbounded _ (haccepted row hrow hrefuses)) with
      hsame | ⟨row, hrow, hrefuses, htopic, hholds⟩
    · exact congr hc ((h e he).mono (List.Subset.refl _) (List.subset_append_left _ _)) hsame
    · refine .inr (.inr ⟨(kind, row), List.mem_append_right _ ?_, htopic, hholds⟩)
      rw [haccepted row hrow hrefuses]
      exact List.mem_singleton_self _

theorem dispatchAll (hc : c ∈ s.counters) (flashlists : List Flashlist) {m : Monitor}
    (h : ∀ e, (m.graph.entities s)[n]? = some e → c.Recorded start n past rows e)
    (hbounded : ∀ told ∈ m.acceptedRows s n flashlists, told.2.Bounded c.column) :
    ∀ e, ((m.dispatchAll flashlists).1.graph.entities s)[n]? = some e →
      c.Recorded start n past (rows ++ m.acceptedRows s n flashlists) e := by
  rw [Monitor.dispatchAll_eq_foldl]
  -- By induction on the flashlists, with the rows of those before added to the given ones.
  induction flashlists generalizing m rows with
  | nil => simpa [Monitor.acceptedRows] using h
  | cons f flashlists ih =>
    rw [Monitor.acceptedRows, List.forall_mem_append] at hbounded
    rw [Monitor.acceptedRows, ← List.append_assoc]
    exact ih (dispatch hc h fun told htold => hbounded.1 told (Option.mem_toList.2 htold)) hbounded.2

theorem reset (hc : c ∈ s.counters) {g : Graph} {operation : Operation} {targets : List Target}
    (hresets : s.target n ∈ targets → operation.Resets s n)
    (h : ∀ e, (g.entities s)[n]? = some e → c.Recorded start n past rows e) :
    ∀ e, ((g.apply (.reset targets)).entities s)[n]? = some e →
      c.Recorded start n (past ++ [operation]) rows e := by
  intro e' he'
  rw [Graph.entities_apply, List.getElem?_mapIdx] at he'
  obtain ⟨e, he, rfl⟩ := Option.map_eq_some_iff.1 he'
  have hbefore : c.Recorded start n (past ++ [operation]) rows e :=
    (h e he).mono (List.subset_append_left _ _) (List.Subset.refl _)
  by_cases hreset : n < UInt32.size ∧ s.target n ∈ targets
  · rw [Effect.reset_of_mem hreset.1 hreset.2]
    -- The session of the run outlives the reset.
    rcases TargetSort.values_reset hc e with hblank | hsame
    · rw [← s.fixed_reset] at hblank
      exact .inr (.inl ⟨hblank, operation, List.mem_append_right _ (List.mem_singleton_self _),
        hresets hreset.2⟩)
    · exact congr hc hbefore hsame
  · rw [Effect.reset_of_not_mem fun hlt hmem => hreset ⟨hlt, hmem⟩]
    exact hbefore

/-- Every operation adds the rows that it has for the entity. -/
theorem perform (hc : c ∈ s.counters) (operation : Operation) {m : Monitor}
    (h : ∀ e, (m.graph.entities s)[n]? = some e → c.Recorded start n past rows e)
    (hbounded : ∀ told ∈ m.acceptedIn s n operation, told.2.Bounded c.column) :
    ∀ e, ((m.perform operation).graph.entities s)[n]? = some e →
      c.Recorded start n (past ++ [operation]) (rows ++ m.acceptedIn s n operation) e := by
  have hpast := List.subset_append_left past [operation]
  cases operation with
  | cycle flashlists time =>
    -- What is worked out after the tables is no counter.
    intro e' he'
    obtain ⟨e, he, hsame⟩ := Graph.exists_entity_of_finish he'
    have htables := dispatchAll hc (Monitor.inOrder flashlists) h hbounded e he
    exact congr hc (htables.mono hpast (List.Subset.refl _)) (TargetSort.values_congr hc hsame)
  | reset targets =>
    rw [Monitor.perform, Monitor.resetTargets_eq, Monitor.acceptedIn, List.append_nil]
    exact reset hc id h
  | resetAll =>
    rw [Monitor.perform, Monitor.resetAll_eq, Monitor.acceptedIn, List.append_nil]
    exact reset hc (fun _ => trivial) h
  | filter session =>
    exact fun e he => (h e he).mono hpast (List.subset_append_left _ _)

/-- So does a run. -/
theorem performAll (hc : c ∈ s.counters) (operations : List Operation) {m : Monitor}
    (h : ∀ e, (m.graph.entities s)[n]? = some e → c.Recorded start n past rows e)
    (hbounded : ∀ told ∈ m.accepted s n operations, told.2.Bounded c.column) :
    ∀ e, ((m.performAll operations).graph.entities s)[n]? = some e →
      c.Recorded start n (past ++ operations) (rows ++ m.accepted s n operations) e := by
  unfold Monitor.performAll
  induction operations generalizing m past rows with
  | nil => simpa [Monitor.accepted] using h
  | cons operation operations ih =>
    rw [Monitor.accepted, List.forall_mem_append] at hbounded
    rw [Monitor.accepted, ← List.append_assoc, List.append_cons]
    exact ih (perform hc operation h hbounded.1) hbounded.2

end Counter.Recorded

/-! ## The main result -/

namespace Monitor

/-- Columns with numbers are read exactly, unless the number is a whole one that does not fit in 64
    bits with a sign: an integer is what the number is and any other number is refused, counts below
    zero are refused too, and the decimal text of the number is read alike; so are the items of
    lists. A whole number that does not fit is taken for the end of the range. Where there is none, a
    row that an entity accepts holds in its columns what the counters are then that it speaks about;
    and at any time of a run a counter is what one of the accepted rows holds, unless it is still as
    at the start or the entity was reset. -/
theorem integers_exact (row : Row) (column : String) (m : Monitor) (operations : List Operation) :
    (∀ n : Json.Number, row.find? column = some (.number n) → ¬ n.Oversized →
      row.ReadsNumber column n) ∧
    (∀ (n : Json.Number) (i : Int), row.find? column = some (.number n) →
      numberValue? n = some (i : ℚ) → ¬ Fits64 i →
      row.integer column = .ok (if i < 0 then Int64.minValue else Int64.maxValue) ∧
        ∀ row' : Row, row'.find? column = some (.text (Text.ofInt i)) →
          row'.integer column = .error (.wrongKind column .integer (.text (Text.ofInt i)))) ∧
    (∀ items : List Json, row.find? column = some (.list items) →
      (∀ item ∈ items, item.BoundedItem) → row.ReadsList column items) ∧
    (∀ (s : TargetSort) (kind : Kind) (e e' : s.Entity), s.update e kind row = .ok e' →
      ∀ c ∈ s.counters, row.Bounded c.column →
        if c.topic ∈ topics kind ∧ s.heeds kind e = true then row.Holds c.column (c.values e')
        else c.values e' = c.values e) ∧
    ∀ (s : TargetSort) (n : Nat) (e : s.Entity),
      ((m.performAll operations).graph.entities s)[n]? = some e →
      ∀ c ∈ s.counters, (∀ told ∈ m.accepted s n operations, told.2.Bounded c.column) →
        (∃ first, (m.graph.entities s)[n]? = some first ∧ c.values e = c.values first) ∨
        (c.values e = c.values (s.fixed e) ∧ ∃ operation ∈ operations, operation.Resets s n) ∨
        ∃ told ∈ m.accepted s n operations, c.topic ∈ topics told.1 ∧
          told.2.Holds c.column (c.values e) := by
  refine ⟨fun n => Row.readsNumber, fun n i => Row.integer_of_not_fits64,
    fun items => Row.readsList, fun s kind e e' h c hc hbounded => ?_, ?_⟩
  · exact TargetSort.values_update_cases hc hbounded h
  · intro s n e he c hc hbounded
    -- A run adds no entities, so this one was there at the start.
    obtain ⟨first, hfirst, -⟩ :=
      Graph.exists_entity_of_skeleton_eq (skeleton_performAll m operations) he
    have hstart : ∀ e, (m.graph.entities s)[n]? = some e →
        c.Recorded (c.values first) n [] [] e := by
      intro e he
      cases he.symm.trans hfirst
      exact .inl rfl
    have hrecorded := Counter.Recorded.performAll hc operations hstart hbounded e he
    exact hrecorded.imp_left fun hsame => ⟨first, hfirst, hsame⟩

end Monitor

/-- A row with values of the run, whose number is the given value. -/
def numberedRow (number : Json) : Row :=
  .object [("FMURL", .text "http://l0:1"), ("SID", .text "12"), ("RUN_NUMBER", number),
    ("STATE", .text "Running")]

/-- The number of the run as a counter. -/
def runNumberCounter : Counter RunInfo :=
  ⟨.runValues, "RUN_NUMBER", fun run => (run.runNumber.map Int64.toInt).toList⟩

namespace Monitor

/-- A number that is no double is read as it is, as a number, as a text and in a list, and so it is
    the number of the run, which was reset before. -/
theorem integers_exact_beyond_doubles :
    let number : Json := .number (.natural 9007199254740993)
    let row := numberedRow number
    let row' := numberedRow (.text "9007199254740993")
    let large := numberedRow (.number (.real 1e19))
    let tids : Row := .object [("buTids", .list [number, .text " 7 "])]
    let m : Monitor := { graph := Graph.indexed { uid := ⟨1⟩ }, session := {} }
    let operations : List Operation := [.resetAll, .cycle [.ofKind .levelZeroDynamic [row]] 1]
    row.integer "RUN_NUMBER" = .ok 9007199254740993 ∧
      row'.integer "RUN_NUMBER" = row.integer "RUN_NUMBER" ∧
      large.integer "RUN_NUMBER" = .ok Int64.maxValue ∧
      tids.integerList "buTids" = .ok [9007199254740993, 7] ∧
      (∃ e, TargetSort.run.update {} .levelZeroDynamic row = .ok e ∧
        row.Holds "RUN_NUMBER" (runNumberCounter.values e)) ∧
      ∃ e : RunInfo, ((m.performAll operations).graph.entities .run)[0]? = some e ∧
        e.runNumber = some 9007199254740993 ∧
        ∃ told ∈ m.accepted .run 0 operations, .runValues ∈ topics told.1 ∧
          told.2.Holds "RUN_NUMBER" [9007199254740993] := by
  intro number row row' large tids m operations
  obtain ⟨hnumbers, -, -, hrows, hruns⟩ := integers_exact row "RUN_NUMBER" m operations
  have hnumber := hnumbers (.natural 9007199254740993) rfl (by decide)
  have hread : row.integer "RUN_NUMBER" = .ok 9007199254740993 := (hnumber.integer _).2 rfl
  have htext := hnumber.respelled row' 9007199254740993 rfl rfl
  have hlarge := (integers_exact large "RUN_NUMBER" m operations).2.1 (.real 1e19)
    10000000000000000000 rfl (wholeNumber?_eq_some_iff.1 (by decide +kernel)) (by decide)
  have hlist := (integers_exact tids "buTids" m operations).2.2.1 _ rfl (by decide)
  have hitems : tids.integerList "buTids" = .ok [9007199254740993, 7] :=
    (hlist.integerList _).2 (.cons rfl (.cons rfl .nil))
  have hmem : runNumberCounter ∈ TargetSort.run.counters :=
    List.mem_cons_of_mem _ (List.mem_singleton_self _)
  obtain ⟨e, he⟩ : ∃ e, TargetSort.run.update {} .levelZeroDynamic row = .ok e := ⟨_, rfl⟩
  have hstep := hrows .run .levelZeroDynamic {} e he runNumberCounter hmem (by decide)
  rw [if_pos (by decide)] at hstep
  have hbounded : ∀ told ∈ m.accepted .run 0 operations, told.2.Bounded "RUN_NUMBER" := by
    simp only [operations, accepted, acceptedIn, acceptedRows, inOrder, List.mergeSort_singleton]
    decide +kernel
  have hnumber : ((m.performAll operations).graph.entities .run)[0]?.map RunInfo.runNumber
      = some (some 9007199254740993) := by
    simp only [operations, performAll, perform, runCycle, inOrder, List.foldl_cons, List.foldl_nil,
      List.mergeSort_singleton]
    decide +kernel
  obtain ⟨k, hk, hvalue⟩ := Option.map_eq_some_iff.1 hnumber
  have hvalues : runNumberCounter.values k = [9007199254740993] := by
    simp only [runNumberCounter, hvalue]
    rfl
  refine ⟨hread, htext.1, hlarge.1, hitems, ⟨e, he, hstep⟩, k, hk, hvalue, ?_⟩
  rcases hruns .run 0 k hk runNumberCounter hmem hbounded with
    ⟨first, hfirst, hsame⟩ | ⟨hsame, -⟩ | ⟨told, htold, htopic, hholds⟩
  · -- The graph at the start has no number of the run.
    cases hfirst
    rw [hvalues] at hsame
    cases hsame
  · rw [hvalues] at hsame
    cases hsame
  · rw [hvalues] at hholds
    exact ⟨told, htold, htopic, hholds⟩

/-- The first whole number beyond the range is read as the last one within it, and the run goes by
    that number; its decimal text is refused. -/
theorem integers_exact_oversized :
    let number : Json.Number := .natural 9223372036854775808
    let row := numberedRow (.number number)
    let row' := numberedRow (.text "9223372036854775808")
    numberValue? number = some 9223372036854775808 ∧
      row.integer "RUN_NUMBER" = .ok 9223372036854775807 ∧
      row.count "RUN_NUMBER" = .ok 9223372036854775807 ∧
      row'.integer "RUN_NUMBER"
        = .error (.wrongKind "RUN_NUMBER" .integer (.text "9223372036854775808")) ∧
      ∃ e : RunInfo, TargetSort.run.update {} .levelZeroDynamic row = .ok e ∧
        e.runNumber = some 9223372036854775807 ∧
        ¬ row.Holds "RUN_NUMBER" (runNumberCounter.values e) := by
  intro number row row'
  refine ⟨rfl, rfl, rfl, rfl, _, rfl, rfl, ?_⟩
  rintro ⟨json, hfind, hholds⟩
  cases hfind
  obtain ⟨i, hi, hcarries⟩ := hholds
  obtain rfl : 9223372036854775807 = i := (List.cons.inj hi).1
  exact absurd (Option.some.inj hcarries) (by decide +kernel)

end Monitor

end DaqMonitor

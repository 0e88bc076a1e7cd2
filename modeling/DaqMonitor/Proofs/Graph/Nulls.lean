/-
  DaqMonitor.Proofs.Graph.Nulls

  Rows with columns that are `null`, and the entities that take them.

  A column that is `null` reads as one that is missing, and so a row may lose such
  columns without anyone who reads it noticing. There is one exception: whoever
  reads a column that may be absent first asks whether the row has it, and a row
  has a column that is `null`. Where such a column is `null` the row is therefore
  refused; without the column it would be taken.

    * `Row.withoutNulls row` — the row without the columns that are `null`.
    * `Row.value_withoutNulls` — every column has the value that it had.
    * `TargetSort.optionalColumns` — the columns that entities may do without.
    * `TargetSort.update_withoutNulls` — entities take both rows in one way.
    * `TargetSort.refuses_of_isNull` — what a `null` in an optional column does.
-/
import DaqMonitor.Matching.Rules
import DaqMonitor.Proofs.Graph.Rows

namespace DaqMonitor

open Flashlist

/-! ## Rows -/

namespace Flashlist.Row

/-- Whether a column of a row is there and `null`. -/
def isNull (row : Row) (column : String) : Bool :=
  match row.find? column with
  | some .null => true
  | _ => false

/-- The row without the columns that are `null`. -/
def withoutNulls : Row → Row
  | .object members => .object (members.filter fun m => !isNull (.object members) m.1)
  | row => row

theorem find?_withoutNulls (row : Row) (column : String) :
    row.withoutNulls.find? column = if row.isNull column then none else row.find? column := by
  cases row with
  | object members =>
    simp only [withoutNulls, Json.find?, List.find?_filter]
    -- Of the members with the key of the column either all are kept or none.
    have hkeep : (fun m : String × Json =>
          decide ((!isNull (.object members) m.1) = true ∧ decide (m.1 = column) = true))
        = fun m => !isNull (.object members) column && decide (m.1 = column) := by
      funext m
      by_cases hkey : m.1 = column
      · simp [hkey]
      · simp [hkey]
    rw [hkeep]
    cases isNull (.object members) column <;> simp
  | _ => cases h : isNull _ column <;> rfl

section Reading

variable (row : Row) (column : String)

/-- Every column has the value that it had; one that was `null` had none. -/
@[simp] theorem value_withoutNulls : row.withoutNulls.value column = row.value column := by
  unfold value
  rw [find?_withoutNulls]
  cases hnull : row.isNull column with
  | false => rfl
  | true =>
    unfold isNull at hnull
    split at hnull
    · rename_i hfind
      rw [hfind]
      rfl
    · cases hnull

@[simp] theorem read_withoutNulls {α : Type} (wanted : Wanted) (as? : Json → Option α) :
    row.withoutNulls.read wanted as? column = row.read wanted as? column := by
  simp only [read, value_withoutNulls]

@[simp] theorem text_withoutNulls : row.withoutNulls.text column = row.text column :=
  row.read_withoutNulls column .text asText?

@[simp] theorem integer_withoutNulls : row.withoutNulls.integer column = row.integer column :=
  row.read_withoutNulls column .integer asInteger?

@[simp] theorem double_withoutNulls : row.withoutNulls.double column = row.double column :=
  row.read_withoutNulls column .double asDouble?

@[simp] theorem truth_withoutNulls : row.withoutNulls.truth column = row.truth column :=
  row.read_withoutNulls column .truth asTruth?

@[simp] theorem table_withoutNulls : row.withoutNulls.table column = row.table column :=
  row.read_withoutNulls column .table asTable?

@[simp] theorem integerList_withoutNulls :
    row.withoutNulls.integerList column = row.integerList column := by
  simp only [integerList, readList, read_withoutNulls]

@[simp] theorem doubleList_withoutNulls :
    row.withoutNulls.doubleList column = row.doubleList column := by
  simp only [doubleList, readList, read_withoutNulls]

@[simp] theorem count_withoutNulls : row.withoutNulls.count column = row.count column := by
  simp only [count, integer_withoutNulls]

@[simp] theorem port_withoutNulls : row.withoutNulls.port = row.port := by
  simp only [port, text_withoutNulls]

@[simp] theorem crashed_withoutNulls : row.withoutNulls.crashed = row.crashed := by
  simp only [crashed, table_withoutNulls]

@[simp] theorem columnDouble_withoutNulls (c : Column) :
    c.double row.withoutNulls = c.double row := by
  simp only [Column.double, double_withoutNulls]

@[simp] theorem columnFlag_withoutNulls (c : Column) : c.flag row.withoutNulls = c.flag row := by
  simp only [Column.flag, truth_withoutNulls]

/-- What is read has a value. -/
theorem exists_value_of_read {α : Type} {wanted : Wanted} {as? : Json → Option α} {a : α}
    (h : row.read wanted as? column = .ok a) : ∃ v, row.value column = .ok v := by
  obtain ⟨v, hv, -⟩ := exists_of_bind_eq_ok h
  exact ⟨v, hv⟩

section Optional

variable {row column} {α : Type} {absent : α} {reader : Row → String → Except RowError α}

/-- A column that may be absent is read alike, if it is not `null`. -/
theorem optional_withoutNulls (hreader : reader row.withoutNulls column = reader row column)
    (hnull : row.isNull column = false) :
    row.withoutNulls.optional column absent reader = row.optional column absent reader := by
  have hhas : row.withoutNulls.has column = row.has column := by
    rw [has, has, find?_withoutNulls, hnull]
    rfl
  rw [optional, optional, hhas, hreader]

/-- A column that may be absent, but is `null`, cannot be read. -/
theorem optional_ne_ok (hnull : row.isNull column = true)
    (hreader : ∀ a, reader row column = .ok a → ∃ v, row.value column = .ok v) (a : α) :
    row.optional column absent reader ≠ .ok a := by
  unfold isNull at hnull
  split at hnull
  · rename_i hfind
    simp only [optional, has, hfind, Option.isSome_some, if_true]
    intro hread
    obtain ⟨v, hv⟩ := hreader a hread
    simp [value, hfind] at hv
  · cases hnull

end Optional

end Reading

end Flashlist.Row

/-! ## Entities -/

/-- The columns of a kind of rows that the entities of a sort may do without. -/
def TargetSort.optionalColumns : TargetSort → Kind → List String
  | run, .levelZeroDynamic => ["LHC_MACHINE_MODE", "LHC_BEAM_MODE"]
  | fed, .ru => Matching.problemColumns
  | ru, .evm => ["allocateRetryRate"]
  | _, _ => []

section Entities

variable {row : Row}

theorem RunInfo.update_withoutNulls (run : RunInfo) (kind : Kind)
    (h : ∀ column ∈ TargetSort.run.optionalColumns kind, row.isNull column = false) :
    run.update kind row.withoutNulls = run.update kind row := by
  cases kind with
  | levelZeroDynamic =>
    have hoptional : ∀ column ∈ TargetSort.run.optionalColumns .levelZeroDynamic,
        optionalText row.withoutNulls column = optionalText row column := fun column hcolumn =>
      Row.optional_withoutNulls (by rw [Row.text_withoutNulls]) (h column hcolumn)
    simp only [update, afterDynamic, Row.integer_withoutNulls, Row.text_withoutNulls,
      hoptional "LHC_MACHINE_MODE" (by decide), hoptional "LHC_BEAM_MODE" (by decide)]
  | levelZeroSubsystems => simp only [update, Row.text_withoutNulls]
  | _ => rfl

theorem TcdsInfo.update_withoutNulls (tcds : TcdsInfo) (kind : Kind) :
    tcds.update kind row.withoutNulls = tcds.update kind row := by
  cases kind <;> simp only [update, afterCounts, afterDeadtimes, afterRates, afterActions,
    Row.count_withoutNulls, Row.double_withoutNulls]

theorem Fed.update_withoutNulls (fed : Fed) (kind : Kind)
    (h : ∀ column ∈ TargetSort.fed.optionalColumns kind, row.isNull column = false) :
    fed.update kind row.withoutNulls = fed.update kind row := by
  cases kind with
  | ru =>
    have hoptional : ∀ column ∈ TargetSort.fed.optionalColumns .ru,
        row.withoutNulls.optional column [] Row.integerList
          = row.optional column [] Row.integerList := fun column hcolumn =>
      Row.optional_withoutNulls (row.integerList_withoutNulls column) (h column hcolumn)
    simp only [update, nextState, State.afterProblemLists,
      hoptional "fedIdsWithErrors" (by decide), hoptional "fedIdsWithoutFragments" (by decide)]
  | _ =>
    simp only [update, nextState, State.afterFmmInput, State.afterInputStream,
      State.afterCardConfiguration, State.afterStreamConfiguration, Row.integer_withoutNulls,
      Row.count_withoutNulls, Row.text_withoutNulls, Row.double_withoutNulls,
      Row.columnDouble_withoutNulls, Row.columnFlag_withoutNulls]

theorem Frl.update_withoutNulls (frl : Frl) (kind : Kind) :
    frl.update kind row.withoutNulls = frl.update kind row := by
  simp only [update, Row.text_withoutNulls]

theorem FrlPc.update_withoutNulls (pc : FrlPc) (kind : Kind) :
    pc.update kind row.withoutNulls = pc.update kind row := by
  cases kind <;> simp only [update, Row.crashed_withoutNulls]

theorem Ru.Report.read_withoutNulls (withAllocation : Bool)
    (h : withAllocation = true → row.isNull "allocateRetryRate" = false) :
    read row.withoutNulls withAllocation = read row withAllocation := by
  cases withAllocation with
  | false =>
    simp only [read, Bool.false_eq_true, if_false, Row.port_withoutNulls,
      Row.doubleList_withoutNulls, Row.integerList_withoutNulls, Row.text_withoutNulls,
      Row.double_withoutNulls, Row.count_withoutNulls]
  | true =>
    have hallocation : readAllocation row.withoutNulls = readAllocation row := by
      simp only [readAllocation, Row.double_withoutNulls,
        Row.optional_withoutNulls (row.double_withoutNulls "allocateRetryRate") (h rfl)]
    simp only [read, if_true, hallocation, Row.port_withoutNulls, Row.doubleList_withoutNulls,
      Row.integerList_withoutNulls, Row.text_withoutNulls, Row.double_withoutNulls,
      Row.count_withoutNulls]

theorem Ru.update_withoutNulls (ru : Ru) (kind : Kind)
    (h : ∀ column ∈ TargetSort.ru.optionalColumns kind, row.isNull column = false) :
    ru.update kind row.withoutNulls = ru.update kind row := by
  cases kind with
  | ru =>
    simp only [update, nextState,
      Report.read_withoutNulls false fun hno => absurd hno Bool.false_ne_true]
  | evm =>
    simp only [update, nextState,
      Report.read_withoutNulls true fun _ => h "allocateRetryRate" (by decide)]
  | jobControl => simp only [update, nextState, Row.crashed_withoutNulls]
  | _ => rfl

theorem Bu.update_withoutNulls (bu : Bu) (kind : Kind) :
    bu.update kind row.withoutNulls = bu.update kind row := by
  cases kind <;> simp only [update, nextState, State.after, Row.port_withoutNulls,
    Row.text_withoutNulls, Row.double_withoutNulls, Row.count_withoutNulls,
    Row.crashed_withoutNulls]

theorem FmmOutput.read_withoutNulls (letter : String) :
    read letter row.withoutNulls = read letter row := by
  simp only [read, Row.text_withoutNulls, Row.columnDouble_withoutNulls]

theorem Fmm.update_withoutNulls (fmm : Fmm) (kind : Kind) :
    fmm.update kind row.withoutNulls = fmm.update kind row := by
  cases kind <;> simp only [update, FmmOutput.read_withoutNulls, Row.text_withoutNulls]

theorem FmmApplication.update_withoutNulls (app : FmmApplication) (kind : Kind) :
    app.update kind row.withoutNulls = app.update kind row := by
  cases kind <;> simp only [update, Row.crashed_withoutNulls]

theorem TtcPartition.update_withoutNulls (p : TtcPartition) (kind : Kind) :
    p.update kind row.withoutNulls = p.update kind row := by
  cases kind <;> simp only [update, FmmOutput.read_withoutNulls]

theorem SubSystem.update_withoutNulls (s : SubSystem) (kind : Kind) :
    s.update kind row.withoutNulls = s.update kind row := by
  cases kind <;> simp only [update, Row.text_withoutNulls]

/-- An entity takes or refuses a row as it does the row without the columns that are `null`, if none
    of these is optional. -/
theorem TargetSort.update_withoutNulls (s : TargetSort) (e : s.Entity) (kind : Kind)
    (h : ∀ column ∈ s.optionalColumns kind, row.isNull column = false) :
    s.update e kind row.withoutNulls = s.update e kind row := by
  cases s with
  | run => exact RunInfo.update_withoutNulls e kind h
  | tcds => exact TcdsInfo.update_withoutNulls e kind
  | fed => exact Fed.update_withoutNulls e kind h
  | frl => exact Frl.update_withoutNulls e kind
  | frlPc => exact FrlPc.update_withoutNulls e kind
  | ru => exact Ru.update_withoutNulls e kind h
  | bu => exact Bu.update_withoutNulls e kind
  | fmm => exact Fmm.update_withoutNulls e kind
  | fmmApplication => exact FmmApplication.update_withoutNulls e kind
  | ttcPartition => exact TtcPartition.update_withoutNulls e kind
  | subSystem => exact SubSystem.update_withoutNulls e kind

/-! ## Refusals -/

theorem TargetSort.refuses_of_ne_ok {s : TargetSort} {kind : Kind} {e : s.Entity}
    (h : ∀ e', s.update e kind row ≠ .ok e') : s.refuses kind row e = true := by
  unfold refuses
  cases hrow : s.update e kind row with
  | ok e' => exact absurd hrow (h e')
  | error error => rfl

variable {column : String}

theorem RunInfo.update_ne_ok_of_isNull (run : RunInfo) {kind : Kind}
    (hcolumn : column ∈ TargetSort.run.optionalColumns kind) (hnull : row.isNull column = true)
    (run' : RunInfo) : run.update kind row ≠ .ok run' := by
  have htext : ∀ text, optionalText row column ≠ .ok text := by
    refine Row.optional_ne_ok hnull fun text h => ?_
    obtain ⟨text, htext⟩ := exists_of_map_eq_ok h
    exact Row.exists_value_of_read row column htext
  cases kind with
  | levelZeroDynamic =>
    intro h
    obtain ⟨sessionId, -, h⟩ := exists_of_bind_eq_ok h
    obtain ⟨runNumber, -, h⟩ := exists_of_bind_eq_ok h
    obtain ⟨levelZeroState, -, h⟩ := exists_of_bind_eq_ok h
    obtain ⟨machineMode, hmachineMode, h⟩ := exists_of_bind_eq_ok h
    obtain ⟨beamMode, hbeamMode, h⟩ := exists_of_bind_eq_ok h
    rcases List.mem_pair.1 hcolumn with rfl | rfl
    · exact htext machineMode hmachineMode
    · exact htext beamMode hbeamMode
  | _ => cases hcolumn

theorem Fed.update_ne_ok_of_isNull (fed : Fed) {kind : Kind}
    (hcolumn : column ∈ TargetSort.fed.optionalColumns kind) (hnull : row.isNull column = true)
    (fed' : Fed) : fed.update kind row ≠ .ok fed' := by
  have hlist : ∀ ids, row.optional column [] Row.integerList ≠ .ok ids := by
    refine Row.optional_ne_ok hnull fun ids h => ?_
    obtain ⟨items, hitems, -⟩ := exists_of_bind_eq_ok h
    exact Row.exists_value_of_read row column hitems
  cases kind with
  | ru =>
    intro h
    obtain ⟨state, h⟩ := exists_of_map_eq_ok h
    obtain ⟨withErrors, hwithErrors, h⟩ := exists_of_bind_eq_ok h
    obtain ⟨lacking, hlacking, h⟩ := exists_of_bind_eq_ok h
    rcases List.mem_pair.1 hcolumn with rfl | rfl
    · exact hlist withErrors hwithErrors
    · exact hlist lacking hlacking
  | _ => cases hcolumn

theorem Ru.update_ne_ok_of_isNull (ru : Ru) {kind : Kind}
    (hcolumn : column ∈ TargetSort.ru.optionalColumns kind) (hnull : row.isNull column = true)
    (ru' : Ru) : ru.update kind row ≠ .ok ru' := by
  cases kind with
  | evm =>
    obtain rfl := List.mem_singleton.1 hcolumn
    have hrate : ∀ rate, row.optional "allocateRetryRate" 0.0 Row.double ≠ .ok rate :=
      Row.optional_ne_ok hnull fun rate h => Row.exists_value_of_read row _ h
    intro h
    obtain ⟨state, h⟩ := exists_of_map_eq_ok h
    obtain ⟨report, h⟩ := exists_of_map_eq_ok h
    have hallocation := (Report.readFrom_of_read row h).allocation
    obtain ⟨rates, hrates⟩ := exists_of_map_eq_ok hallocation
    obtain ⟨retryRate, hretryRate, -⟩ := exists_of_bind_eq_ok hrates
    exact hrate retryRate hretryRate
  | _ => cases hcolumn

/-- An entity refuses a row with a `null` in a column that it may do without. -/
theorem TargetSort.refuses_of_isNull (s : TargetSort) (e : s.Entity) (kind : Kind)
    (hcolumn : column ∈ s.optionalColumns kind) (hnull : row.isNull column = true) :
    s.refuses kind row e = true := by
  apply refuses_of_ne_ok
  cases s with
  | run => exact RunInfo.update_ne_ok_of_isNull e hcolumn hnull
  | fed => exact Fed.update_ne_ok_of_isNull e hcolumn hnull
  | ru => exact Ru.update_ne_ok_of_isNull e hcolumn hnull
  | _ => cases hcolumn

end Entities

end DaqMonitor

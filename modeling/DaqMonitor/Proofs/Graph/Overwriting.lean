/-
  DaqMonitor.Proofs.Graph.Overwriting

  A row stands over the earlier rows of its kind.

  Not all of an entity comes row by row. The flags of FEDs are given and taken by
  whole tables, the backpressure of a FED is what a total has grown by, the states
  of channels come past the rows, and some values are worked out after all tables.
  Of the rest of an entity a row writes the values of its kind, whatever was there,
  or it has nothing to say to the entity at all.

    * `TargetSort.rowFed s e` — the entity without what does not come row by row.
    * `overlooks` — what does not come row by row is no matter for a row.
    * `overwrites` — of two rows of one kind the first is void.
    * `rowFed_take_congr`, `rowFed_take_take` — the same for the row that an entity gets.
-/
import DaqMonitor.Proofs.Graph.Rows

namespace DaqMonitor

open Flashlist

namespace TargetSort

/-- The entity without what does not come row by row: the flags of a FED that units list, its
    backpressure and the total that this is read from, the mask of a readout unit, the states of
    channels and their service, and the time of the cycle. -/
def rowFed : (s : TargetSort) → s.Entity → s.Entity
  | run => fun run => { run with lastUpdate := 0 }
  | tcds => fun tcds =>
    { tcds with serviceName := none, serviceContext := none, globalTtsStates := ∅ }
  | fed => fun fed =>
    { fed with
      state := { fed.state with
        inError := false, withoutFragments := false, percentBackpressure := 0.0
        backpressure := {} } }
  | ru => fun ru => { ru with state := { ru.state with masked := false } }
  | ttcPartition => fun p => { p with tcdsPmTtsState := none, tcdsApvPmTtsState := none }
  | _ => fun e => e

theorem fixed_rowFed (s : TargetSort) (e : s.Entity) : s.fixed (s.rowFed e) = s.fixed e := by
  cases s <;> rfl

theorem fixed_eq_of_rowFed_eq {s : TargetSort} {e e' : s.Entity} (h : s.rowFed e = s.rowFed e') :
    s.fixed e = s.fixed e' := by
  rw [← fixed_rowFed, h, fixed_rowFed]

end TargetSort

/-! ## Reading past what does not come row by row -/

/-- What a row writes over the row-fed values of an entity does not hang on the other values. -/
def TargetSort.Overlooks (s : TargetSort) (kind : Kind) (row : Row) (e : s.Entity) : Prop :=
  (s.update (s.rowFed e) kind row).map s.rowFed = (s.update e kind row).map s.rowFed

section Overlooks

variable (kind : Kind) (row : Row)

theorem Fed.overlooks (fed : Fed) : TargetSort.fed.Overlooks kind row fed := by
  -- Once the reading of the columns is out of the way, both sides write one and the same record.
  simp only [TargetSort.Overlooks, TargetSort.update, Fed.update, map_map]
  cases kind with
  | fmmInput =>
    simp only [Fed.nextState, Fed.State.afterFmmInput, map_bind]
    rfl
  | ferolInputStream =>
    simp only [Fed.nextState, Fed.State.afterInputStream, map_bind]
    rfl
  | ferol40InputStream =>
    simp only [Fed.nextState, Fed.State.afterInputStream, map_bind]
    rfl
  | ferolConfiguration =>
    -- Which column is read hangs on the input of the card, which is fixed.
    have hinput : (TargetSort.fed.rowFed fed).frlInput = fed.frlInput := rfl
    simp only [Fed.nextState, Fed.State.afterCardConfiguration, hinput]
    cases Fed.enableColumn? fed.frlInput with
    | none => rfl
    | some column =>
      simp only [map_bind]
      rfl
  | ferol40StreamConfiguration =>
    simp only [Fed.nextState, Fed.State.afterStreamConfiguration, map_bind]
    rfl
  | ru =>
    simp only [Fed.nextState, Fed.State.afterProblemLists, map_bind]
    rfl
  | _ => rfl

theorem Ru.overlooks (ru : Ru) : TargetSort.ru.Overlooks kind row ru := by
  have hevm : (TargetSort.ru.rowFed ru).isEvm = ru.isEvm := rfl
  simp only [TargetSort.Overlooks, TargetSort.update, Ru.update, map_map]
  cases kind with
  | ru =>
    simp only [Ru.nextState, hevm]
    split
    · rfl
    · simp only [map_map]
      rfl
  | evm =>
    simp only [Ru.nextState, map_map]
    rfl
  | jobControl =>
    simp only [Ru.nextState, map_map]
    rfl
  | _ => rfl

theorem TtcPartition.overlooks (p : TtcPartition) :
    TargetSort.ttcPartition.Overlooks kind row p := by
  cases kind with
  | fmmStatus =>
    simp only [TargetSort.Overlooks, TargetSort.update, TtcPartition.update, map_map]
    rfl
  | _ => rfl

theorem RunInfo.overlooks (run : RunInfo) : TargetSort.run.Overlooks kind row run := by
  cases kind with
  | levelZeroDynamic =>
    simp only [TargetSort.Overlooks, TargetSort.update, RunInfo.update, RunInfo.afterDynamic,
      map_bind]
    rfl
  | levelZeroSubsystems =>
    simp only [TargetSort.Overlooks, TargetSort.update, RunInfo.update, map_map]
    rfl
  | _ => rfl

theorem TcdsInfo.overlooks (tcds : TcdsInfo) : TargetSort.tcds.Overlooks kind row tcds := by
  simp only [TargetSort.Overlooks, TargetSort.update, TcdsInfo.update]
  cases kind with
  | tcdsCounts =>
    simp only [TcdsInfo.afterCounts, map_bind]
    rfl
  | tcdsDeadtimes =>
    simp only [TcdsInfo.afterDeadtimes, map_bind]
    rfl
  | tcdsRates =>
    simp only [TcdsInfo.afterRates, map_bind]
    rfl
  | tcdsActionCounts =>
    simp only [TcdsInfo.afterActions, map_bind]
    rfl
  | _ => rfl

/-- What does not come row by row is no matter for a row. -/
theorem TargetSort.overlooks (s : TargetSort) (e : s.Entity) : s.Overlooks kind row e := by
  cases s with
  | run => exact RunInfo.overlooks kind row e
  | tcds => exact TcdsInfo.overlooks kind row e
  | fed => exact Fed.overlooks kind row e
  | ru => exact Ru.overlooks kind row e
  | ttcPartition => exact TtcPartition.overlooks kind row e
  | _ => rfl

end Overlooks

/-! ## Two rows of one kind -/

/-- Once a row was accepted, a second one of its kind is accepted or refused, and writes over the
    row-fed values of the entity, as if the first had not come. -/
def TargetSort.Overwrites (s : TargetSort) (kind : Kind) (row row' : Row) (e : s.Entity) : Prop :=
  (s.update e kind row >>= fun told => (s.update told kind row').map s.rowFed)
    = s.update e kind row >>= fun _ => (s.update e kind row').map s.rowFed

section Overwrites

variable (kind : Kind) (row row' : Row)

theorem Fed.overwrites (fed : Fed) : TargetSort.fed.Overwrites kind row row' fed := by
  -- Both rows are read in turn, and the second record covers all that the first one wrote; only the
  -- total of a stream goes on from the first, and that does not come row by row.
  simp only [TargetSort.Overwrites, TargetSort.update, Fed.update, bind_map, map_map]
  cases kind with
  | fmmInput => simp only [Fed.nextState, Fed.State.afterFmmInput, map_bind, bind_assoc, ok_bind]
  | ferolInputStream =>
    simp only [Fed.nextState, Fed.State.afterInputStream, map_bind, bind_assoc, ok_bind]
    rfl
  | ferol40InputStream =>
    simp only [Fed.nextState, Fed.State.afterInputStream, map_bind, bind_assoc, ok_bind]
    rfl
  | ferolConfiguration =>
    simp only [Fed.nextState, Fed.State.afterCardConfiguration]
    cases Fed.enableColumn? fed.frlInput with
    | none => rfl
    | some column => simp only [map_bind, bind_assoc, ok_bind]
  | ferol40StreamConfiguration =>
    simp only [Fed.nextState, Fed.State.afterStreamConfiguration, map_bind, bind_assoc, ok_bind]
  | ru => simp only [Fed.nextState, Fed.State.afterProblemLists, map_bind, bind_assoc, ok_bind]
  | _ => rfl

/-- Of two reports with the same values the first is void. -/
theorem Ru.State.after_after (state : Ru.State) {report report' : Ru.Report}
    (h : report'.allocation = none → report.allocation = none) :
    (state.after report).after report' = state.after report' := by
  unfold after
  cases hallocation : report'.allocation with
  | none => rw [h hallocation]; rfl
  | some rates => rfl

/-- Of two rows of readout units the report of the second covers that of the first. -/
theorem Ru.Report.read_read (ru : Ru) (withAllocation : Bool) :
    (Ru.Report.read row withAllocation >>= fun report =>
        (Ru.Report.read row' withAllocation).map fun report' =>
          TargetSort.ru.rowFed { ru with state := (ru.state.after report).after report' })
      = Ru.Report.read row withAllocation >>= fun _ =>
        (Ru.Report.read row' withAllocation).map fun report' =>
          TargetSort.ru.rowFed { ru with state := ru.state.after report' } := by
  cases hread : Ru.Report.read row withAllocation with
  | error error => rfl
  | ok report =>
    cases hread' : Ru.Report.read row' withAllocation with
    | error error => rfl
    | ok report' =>
      -- Rows of one kind all have allocation rates, or have none.
      have hboth : report'.allocation = none → report.allocation = none := by
        cases withAllocation with
        | false => exact fun _ => Ru.Report.allocation_of_read row hread
        | true =>
          obtain ⟨rates, hrates⟩ := Ru.Report.allocation_of_read_true row' hread'
          intro hnone
          rw [hrates] at hnone
          cases hnone
      simp only [ok_bind, map_ok, Ru.State.after_after ru.state hboth]

theorem Ru.overwrites (ru : Ru) : TargetSort.ru.Overwrites kind row row' ru := by
  simp only [TargetSort.Overwrites, TargetSort.update, Ru.update, bind_map, map_map]
  cases kind with
  | ru =>
    simp only [Ru.nextState]
    split
    · rfl
    · simp only [bind_map, map_map]
      exact Ru.Report.read_read row row' ru false
  | evm =>
    simp only [Ru.nextState, bind_map, map_map]
    exact Ru.Report.read_read row row' ru true
  | jobControl => simp only [Ru.nextState, bind_map, map_map]
  | _ => rfl

theorem Bu.overwrites (bu : Bu) : TargetSort.bu.Overwrites kind row row' bu := by
  simp only [TargetSort.Overwrites, TargetSort.update, Bu.update, bind_map, map_map]
  cases kind with
  | bu => simp only [Bu.nextState, Bu.State.after, map_bind, bind_assoc, ok_bind]
  | jobControl => simp only [Bu.nextState, bind_map, map_map]
  | _ => rfl

theorem Frl.overwrites (frl : Frl) : TargetSort.frl.Overwrites kind row row' frl := by
  simp only [TargetSort.Overwrites, TargetSort.update, Frl.update]
  by_cases hstatus : kind = frl.kind.statusKind
  · simp only [if_pos hstatus, bind_map, map_map]
  · simp only [if_neg hstatus, ok_bind]

theorem FrlPc.overwrites (pc : FrlPc) : TargetSort.frlPc.Overwrites kind row row' pc := by
  cases kind with
  | jobControl =>
    simp only [TargetSort.Overwrites, TargetSort.update, FrlPc.update, bind_map, map_map]
  | _ => rfl

theorem Fmm.overwrites (fmm : Fmm) : TargetSort.fmm.Overwrites kind row row' fmm := by
  cases kind with
  | fmmStatus =>
    simp only [TargetSort.Overwrites, TargetSort.update, Fmm.update, map_bind, bind_assoc, ok_bind]
  | _ => rfl

theorem FmmApplication.overwrites (app : FmmApplication) :
    TargetSort.fmmApplication.Overwrites kind row row' app := by
  cases kind with
  | jobControl =>
    simp only [TargetSort.Overwrites, TargetSort.update, FmmApplication.update, bind_map, map_map]
  | _ => rfl

theorem TtcPartition.overwrites (p : TtcPartition) :
    TargetSort.ttcPartition.Overwrites kind row row' p := by
  cases kind with
  | fmmStatus =>
    simp only [TargetSort.Overwrites, TargetSort.update, TtcPartition.update, bind_map, map_map]
    rfl
  | _ => rfl

theorem SubSystem.overwrites (sub : SubSystem) :
    TargetSort.subSystem.Overwrites kind row row' sub := by
  cases kind with
  | levelZeroSubsystems =>
    simp only [TargetSort.Overwrites, TargetSort.update, SubSystem.update, bind_map, map_map]
  | _ => rfl

theorem RunInfo.overwrites (run : RunInfo) : TargetSort.run.Overwrites kind row row' run := by
  cases kind with
  | levelZeroDynamic =>
    simp only [TargetSort.Overwrites, TargetSort.update, RunInfo.update, RunInfo.afterDynamic,
      map_bind, bind_assoc, ok_bind]
  | levelZeroSubsystems =>
    simp only [TargetSort.Overwrites, TargetSort.update, RunInfo.update, bind_map, map_map]
  | _ => rfl

theorem TcdsInfo.overwrites (tcds : TcdsInfo) : TargetSort.tcds.Overwrites kind row row' tcds := by
  simp only [TargetSort.Overwrites, TargetSort.update, TcdsInfo.update]
  cases kind with
  | tcdsCounts => simp only [TcdsInfo.afterCounts, map_bind, bind_assoc, ok_bind]
  | tcdsDeadtimes => simp only [TcdsInfo.afterDeadtimes, map_bind, bind_assoc, ok_bind]
  | tcdsRates => simp only [TcdsInfo.afterRates, map_bind, bind_assoc, ok_bind]
  | tcdsActionCounts => simp only [TcdsInfo.afterActions, map_bind, bind_assoc, ok_bind]
  | _ => rfl

/-- Of two rows of one kind the first is void. -/
theorem TargetSort.overwrites (s : TargetSort) (e : s.Entity) : s.Overwrites kind row row' e := by
  cases s with
  | run => exact RunInfo.overwrites kind row row' e
  | tcds => exact TcdsInfo.overwrites kind row row' e
  | fed => exact Fed.overwrites kind row row' e
  | frl => exact Frl.overwrites kind row row' e
  | frlPc => exact FrlPc.overwrites kind row row' e
  | ru => exact Ru.overwrites kind row row' e
  | bu => exact Bu.overwrites kind row row' e
  | fmm => exact Fmm.overwrites kind row row' e
  | fmmApplication => exact FmmApplication.overwrites kind row row' e
  | ttcPartition => exact TtcPartition.overwrites kind row row' e
  | subSystem => exact SubSystem.overwrites kind row row' e

end Overwrites

/-! ## The row that an entity gets -/

namespace TargetSort

variable {s : TargetSort} {kind : Kind}

theorem fixed_take (row? : Option Row) (e : s.Entity) :
    s.fixed (s.take kind row? e) = s.fixed e := (take_speaks row?).fixed e

/-- Entities with the same row-fed values have the same ones after a row. -/
theorem rowFed_take_congr {e e' : s.Entity} (h : s.rowFed e = s.rowFed e') (row? : Option Row) :
    s.rowFed (s.take kind row? e) = s.rowFed (s.take kind row? e') := by
  cases row? with
  | none => exact h
  | some row =>
    have hrow : (s.update e kind row).map s.rowFed = (s.update e' kind row).map s.rowFed := by
      rw [← s.overlooks kind row e, h, s.overlooks kind row e']
    -- Whether the row is refused is fixed, so both entities take it or none does.
    cases hrefuses : s.refuses kind row e with
    | true =>
      have hrefuses' : s.refuses kind row e' = true := by
        rw [← refuses_congr (fixed_eq_of_rowFed_eq h), hrefuses]
      rw [take_of_refuses hrefuses, take_of_refuses hrefuses', h]
    | false =>
      have hrefuses' : s.refuses kind row e' = false := by
        rw [← refuses_congr (fixed_eq_of_rowFed_eq h), hrefuses]
      rw [update_of_refuses_eq_false hrefuses, update_of_refuses_eq_false hrefuses', map_ok,
        map_ok] at hrow
      exact Except.ok.inj hrow

/-- Of two rows of one kind the first is void. -/
theorem rowFed_take_take {row : Row} {e : s.Entity} (h : s.refuses kind row e = false)
    (row? : Option Row) :
    s.rowFed (s.take kind (some row) (s.take kind row? e))
      = s.rowFed (s.take kind (some row) e) := by
  cases row? with
  | none => rfl
  | some earlier =>
    cases hearlier : s.refuses kind earlier e with
    | true => rw [take_of_refuses hearlier]
    | false =>
      have htold := update_of_refuses_eq_false hearlier
      have hboth := s.overwrites kind earlier row e
      have hagain : s.refuses kind row (s.take kind (some earlier) e) = false := by
        rw [refuses_congr (fixed_take (some earlier) e), h]
      rw [Overwrites, htold, ok_bind, ok_bind, update_of_refuses_eq_false h,
        update_of_refuses_eq_false hagain, map_ok, map_ok] at hboth
      exact Except.ok.inj hboth

end TargetSort

end DaqMonitor

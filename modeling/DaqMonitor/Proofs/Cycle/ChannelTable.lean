/-
  DaqMonitor.Proofs.Cycle.ChannelTable

  What a table of TTS channels says, and that a graph follows it.

  Of the rows that carry an address the last one stands for it. A partition with
  a place in the TCDS goes by the rows for its own channel and for that of the emulator
  in front of it, and only where all of them that there are can be read. A global
  output goes by the row for its channel (0, 0).

    * `StandsFor` — the row for an address.
    * `Row.TellsState`, `Row.TellsEmulatorState`, `Row.TellsOutput` — what rows tell.
    * `TtcPartition.Follows`, `OutputTold` — what becomes of partitions and outputs.
    * `IsUsed`, `IsCounted` — the rows that are used, and those of the service.
    * `applyTtsChannels_follows` — the graph and the counts after a table.
-/
import DaqMonitor.Proofs.Cycle.Considered
import DaqMonitor.Proofs.Cycle.Rejection
import Mathlib.Data.List.Perm.Subperm

namespace DaqMonitor

open Flashlist Matching Text

/-! ## Rows -/

namespace Flashlist.Row

/-- The state with the code in the row. -/
def TellsState (row : Row) (state : String) : Prop :=
  ∃ code, row.integer "value" = .ok code ∧ ttsStateOfCode code = state

/-- The state of an emulator: `x` where the label says that it is unused, else that with the code. -/
def TellsEmulatorState (row : Row) (state : String) : Prop :=
  ∃ label, row.text "label" = .ok label ∧
    if SameButCase label "Unused" then state = "x" else row.TellsState state

/-- A fraction, which is zero in a row without the column. -/
def TellsFraction (row : Row) (column : String) (fraction : Float) : Prop :=
  if row.has column then row.double column = .ok fraction else fraction = 0.0

/-- The state of a global output, with its fractions. -/
def TellsOutput (row : Row) (state : GlobalTtsState) : Prop :=
  row.TellsState state.state ∧ row.TellsFraction "outputFractionBusy" state.percentBusy ∧
    row.TellsFraction "outputFractionWarning" state.percentWarning

section Readings

variable {row : Row}

theorem readTtsState_eq_ok_iff {state : String} :
    readTtsState row = .ok state ↔ row.TellsState state := map_eq_ok_iff

theorem readEmulatorState_eq_ok_iff {state : String} :
    readEmulatorState row = .ok state ↔ row.TellsEmulatorState state := by
  unfold readEmulatorState TellsEmulatorState
  rw [bind_eq_ok_iff]
  refine exists_congr fun label => and_congr_right fun _ => ?_
  simp only [equalsFolded_iff]
  split
  · rw [Except.ok.injEq, eq_comm]
  · exact readTtsState_eq_ok_iff

theorem optional_double_eq_ok_iff {column : String} {fraction : Float} :
    row.optional column 0.0 Row.double = .ok fraction ↔ row.TellsFraction column fraction := by
  unfold Row.optional TellsFraction
  split
  · exact Iff.rfl
  · rw [Except.ok.injEq, eq_comm]

theorem readGlobalState_eq_ok_iff {state : GlobalTtsState} :
    readGlobalState row = .ok state ↔ row.TellsOutput state := by
  simp only [readGlobalState, bind_eq_ok_iff, readTtsState_eq_ok_iff, optional_double_eq_ok_iff,
    Except.ok.injEq, TellsOutput]
  constructor
  · rintro ⟨_, hstate, _, hbusy, _, hwarning, rfl⟩
    exact ⟨hstate, hbusy, hwarning⟩
  · rintro ⟨hstate, hbusy, hwarning⟩
    exact ⟨_, hstate, _, hbusy, _, hwarning, rfl⟩

end Readings

end Flashlist.Row

/-! ## The row for an address -/

/-- A row stands for an address: it is the last one of the table that carries it. -/
def StandsFor (rows : List Row) (service type : String) (pmNumber iciNumber : Int64) (n : Nat)
    (row : Row) : Prop :=
  LastWith (Row.CarriesAddress service type pmNumber iciNumber) rows n row

section Standing

variable {rows : List Row} {service type : String} {pmNumber iciNumber : Int64}

theorem Channels.ofRows_eq (rows : List Row) :
    ofRows rows = rows.zipIdx.filterMap fun r =>
      (ChannelAddress.ofRow r.1).toOption.map fun address => .mk address r.2 r.1 := by
  unfold ofRows
  congr 1
  funext r
  cases ChannelAddress.ofRow r.1 <;> rfl

/-- The channel at an address is the last row with it. -/
theorem Channels.at?_ofRows_eq_some_iff {address : ChannelAddress} {c : Channel} :
    (ofRows rows).at? address = some c ↔
      c.address = address ∧
        LastWith (ChannelAddress.ofRow · = .ok address) rows c.number c.row := by
  classical
  have hany : ∀ r : Row × Nat,
      ((ChannelAddress.ofRow r.1).toOption.map fun a => Channel.mk a r.2 r.1).any
          (fun c => c.address = address)
        = decide (ChannelAddress.ofRow r.1 = .ok address) := by
    intro r
    cases ChannelAddress.ofRow r.1 <;> simp [Except.toOption]
  have hfind : ∀ row n,
      (rows.zipIdx.reverse.find? fun r => ChannelAddress.ofRow r.1 = .ok address) = some (row, n) ↔
        LastWith (ChannelAddress.ofRow · = .ok address) rows n row :=
    fun row n => find?_reverse_zipIdx_eq_some_iff (p := (ChannelAddress.ofRow · = .ok address))
  -- The channels from the back are the numbered rows from the back, without those that have none.
  unfold at?
  rw [ofRows_eq, ← List.filterMap_reverse, List.find?_filterMap, Option.bind_eq_some_iff]
  simp only [hany]
  constructor
  · rintro ⟨⟨row, n⟩, hlast, hc⟩
    have hlast := (hfind row n).1 hlast
    simp only [hlast.has, Except.toOption, Option.map_some, Option.some.injEq] at hc
    subst hc
    exact ⟨rfl, hlast⟩
  · rintro ⟨rfl, hlast⟩
    refine ⟨(c.row, c.number), (hfind _ _).2 hlast, ?_⟩
    simp only [hlast.has, Except.toOption, Option.map_some]

/-- The channel at an address of a service is the row that stands for it. -/
theorem standsFor_iff {n : Nat} {row : Row} :
    StandsFor rows service type pmNumber iciNumber n row ↔
      ∃ c, (Channels.ofRows rows).at? (.make service type pmNumber iciNumber) = some c ∧
        c.number = n ∧ c.row = row := by
  simp only [Channels.at?_ofRows_eq_some_iff, StandsFor, Row.ofRow_eq_ok_iff]
  constructor
  · intro hlast
    exact ⟨⟨_, n, row⟩, ⟨rfl, hlast⟩, rfl, rfl⟩
  · rintro ⟨c, ⟨-, hlast⟩, rfl, rfl⟩
    exact hlast

end Standing

/-! ## What is told for an address -/

/-- What the row that stands for an address tells; nothing, where no row stands for it. -/
def Told {α : Type} (stands : Nat → Row → Prop) (tells : Row → α → Prop) : Option α → Prop
  | none => ∀ n row, ¬ stands n row
  | some a => ∃ n row, stands n row ∧ tells row a

/-- A row stands for an address and tells nothing. -/
def Garbled {α : Type} (stands : Nat → Row → Prop) (tells : Row → α → Prop) : Prop :=
  ∃ n row, stands n row ∧ ∀ a, ¬ tells row a

section Telling

variable {α : Type} {rows : List Row} {service type : String} {pmNumber iciNumber : Int64}
  {read : Row → Except RowError α} {tells : Row → α → Prop}
  (hread : ∀ {row a}, read row = .ok a ↔ tells row a)

include hread

theorem told_some_iff {a : α} :
    Told (StandsFor rows service type pmNumber iciNumber) tells (some a) ↔
      ∃ c, (Channels.ofRows rows).at? (.make service type pmNumber iciNumber) = some c ∧
        read c.row = .ok a := by
  simp only [Told, standsFor_iff, ← hread]
  constructor
  · rintro ⟨_, _, ⟨c, hc, rfl, rfl⟩, ha⟩
    exact ⟨c, hc, ha⟩
  · rintro ⟨c, hc, ha⟩
    exact ⟨_, _, ⟨c, hc, rfl, rfl⟩, ha⟩

theorem Channels.unreadable_iff :
    (ofRows rows).Unreadable read (.make service type pmNumber iciNumber) ↔
      Garbled (StandsFor rows service type pmNumber iciNumber) tells := by
  simp only [Unreadable, Garbled, standsFor_iff, ← hread]
  constructor
  · rintro ⟨c, error, hc, herror⟩
    exact ⟨_, _, ⟨c, hc, rfl, rfl⟩, fun a ha => by rw [herror] at ha; cases ha⟩
  · rintro ⟨_, _, ⟨c, hc, rfl, rfl⟩, hnone⟩
    cases hrow : read c.row with
    | error error => exact ⟨c, error, hc, hrow⟩
    | ok a => exact absurd hrow (hnone a)

end Telling

section Channel

variable {rows : List Row} {service type : String} {pmNumber iciNumber : Int64}
  {read : Row → Except RowError String} {tells : Row → String → Prop}
  (hread : ∀ {row state}, read row = .ok state ↔ tells row state)

include hread

theorem readChannel?_eq_ok_iff {state? : Option String} :
    readChannel? read ((Channels.ofRows rows).at? (.make service type pmNumber iciNumber))
        = .ok state? ↔
      Told (StandsFor rows service type pmNumber iciNumber) tells state? := by
  cases state? with
  | none =>
    simp only [Told, standsFor_iff]
    cases (Channels.ofRows rows).at? (.make service type pmNumber iciNumber) with
    | none => simp [readChannel?]
    | some c => simp [readChannel?, map_eq_ok_iff]
  | some state =>
    rw [told_some_iff hread]
    cases (Channels.ofRows rows).at? (.make service type pmNumber iciNumber) with
    | none => simp [readChannel?]
    | some c => simp [readChannel?, map_eq_ok_iff]

end Channel

/-! ## Partitions -/

namespace TtcPartition

variable (rows : List Row) (service : String) (p : TtcPartition)

/-- The row for the channel of a type at the place of a partition in the TCDS. -/
def ChannelRow (type : String) : Nat → Row → Prop :=
  StandsFor rows service type p.tcds.pmNumber p.tcds.iciNumber

/-- A partition has a place in the TCDS, and the row for one of its channels tells no state. -/
def Garbled : Prop :=
  p.tcds.nullCause = none ∧
    (DaqMonitor.Garbled (p.ChannelRow rows service partitionType) Row.TellsState ∨
      DaqMonitor.Garbled (p.ChannelRow rows service emulatorType) Row.TellsEmulatorState)

/-- What a partition is after a table. -/
inductive Follows : TtcPartition → Prop
  /-- Without a place in the TCDS it has the cause of that as both of its states. -/
  | cause {cause : String} (h : p.tcds.nullCause = some cause) :
    Follows { p with tcdsPmTtsState := some cause, tcdsApvPmTtsState := some cause }
  /-- With a place there it has the states that its channels tell; where there is no channel, the
      state that it had. -/
  | told {own emulator : Option String} (h : p.tcds.nullCause = none)
    (hown : Told (p.ChannelRow rows service partitionType) Row.TellsState own)
    (hemulator : Told (p.ChannelRow rows service emulatorType) Row.TellsEmulatorState emulator) :
    Follows { p with
      tcdsPmTtsState := own.or p.tcdsPmTtsState
      tcdsApvPmTtsState := emulator.or p.tcdsApvPmTtsState }
  /-- It stays as it was if a row tells no state. -/
  | garbled (h : p.Garbled rows service) : Follows p

variable {rows service p}

theorem unreadable_iff_garbled :
    p.Unreadable (Channels.ofRows rows) service ↔ p.Garbled rows service := by
  unfold Unreadable Garbled ChannelRow
  rw [Channels.unreadable_iff Row.readTtsState_eq_ok_iff,
    Channels.unreadable_iff Row.readEmulatorState_eq_ok_iff]

end TtcPartition

section Partitions

variable {channels : Channels} {service : String} {p : TtcPartition}

theorem exists_readChannel?_eq_ok {read : Row → Except RowError String}
    {address : ChannelAddress} (h : ¬ channels.Unreadable read address) :
    ∃ state?, readChannel? read (channels.at? address) = .ok state? := by
  cases hc : channels.at? address with
  | none => exact ⟨none, rfl⟩
  | some c =>
    cases hrow : read c.row with
    | error error => exact absurd ⟨c, error, hc, hrow⟩ h
    | ok state => exact ⟨some state, map_eq_ok_iff.2 ⟨state, hrow, rfl⟩⟩

theorem partitionAfter_of_states (hcause : p.tcds.nullCause = none) {own emulator : Option String}
    (hown : readChannel? readTtsState
      (channels.at? (.make service partitionType p.tcds.pmNumber p.tcds.iciNumber)) = .ok own)
    (hemulator : readChannel? readEmulatorState
      (channels.at? (.make service emulatorType p.tcds.pmNumber p.tcds.iciNumber)) = .ok emulator) :
    (partitionAfter channels service p).value
        = { p with
            tcdsPmTtsState := own.or p.tcdsPmTtsState
            tcdsApvPmTtsState := emulator.or p.tcdsApvPmTtsState } ∧
      (partitionAfter channels service p).error = none := by
  simp only [partitionAfter, hcause, hown, hemulator, and_self]

theorem exists_states (hcause : p.tcds.nullCause = none) (h : ¬ p.Unreadable channels service) :
    ∃ own emulator,
      readChannel? readTtsState
        (channels.at? (.make service partitionType p.tcds.pmNumber p.tcds.iciNumber)) = .ok own ∧
      readChannel? readEmulatorState
        (channels.at? (.make service emulatorType p.tcds.pmNumber p.tcds.iciNumber))
          = .ok emulator := by
  have hreadable := not_or.1 fun hor => h ⟨hcause, hor⟩
  obtain ⟨own, hown⟩ := exists_readChannel?_eq_ok hreadable.1
  obtain ⟨emulator, hemulator⟩ := exists_readChannel?_eq_ok hreadable.2
  exact ⟨own, emulator, hown, hemulator⟩

theorem isSome_error_partitionAfter :
    (partitionAfter channels service p).error.isSome = true ↔ p.Unreadable channels service := by
  constructor
  · intro herror
    by_contra hreadable
    cases hcause : p.tcds.nullCause with
    | some cause => simp [partitionAfter, hcause] at herror
    | none =>
      obtain ⟨own, emulator, hown, hemulator⟩ := exists_states hcause hreadable
      rw [(partitionAfter_of_states hcause hown hemulator).2] at herror
      cases herror
  · rintro ⟨hcause, hown | hemulator⟩
    · obtain ⟨error, hown⟩ := exists_readChannel?_eq_error hown
      simp only [partitionAfter, hcause, hown, Option.isSome_some]
    · obtain ⟨error, hemulator⟩ := exists_readChannel?_eq_error hemulator
      -- The partition's own channel may be readable or not.
      cases hown : readChannel? readTtsState
          (channels.at? (.make service partitionType p.tcds.pmNumber p.tcds.iciNumber)) with
      | error error' => simp only [partitionAfter, hcause, hown, Option.isSome_some]
      | ok state => simp only [partitionAfter, hcause, hown, hemulator, Option.isSome_some]

theorem partitionAfter_eq_iff {rows : List Row} {p' : TtcPartition} :
    (partitionAfter (Channels.ofRows rows) service p).value = p' ↔ p.Follows rows service p' := by
  constructor
  · rintro rfl
    by_cases hgarbled : p.Garbled rows service
    · rw [partitionAfter_of_unreadable (TtcPartition.unreadable_iff_garbled.2 hgarbled)]
      exact .garbled hgarbled
    · rw [← TtcPartition.unreadable_iff_garbled] at hgarbled
      cases hcause : p.tcds.nullCause with
      | some cause =>
        simp only [partitionAfter, hcause]
        exact .cause hcause
      | none =>
        obtain ⟨own, emulator, hown, hemulator⟩ := exists_states hcause hgarbled
        rw [(partitionAfter_of_states hcause hown hemulator).1]
        exact .told hcause ((readChannel?_eq_ok_iff Row.readTtsState_eq_ok_iff).1 hown)
          ((readChannel?_eq_ok_iff Row.readEmulatorState_eq_ok_iff).1 hemulator)
  · intro hfollows
    cases hfollows with
    | cause hcause => simp only [partitionAfter, hcause]
    | told hcause hown hemulator =>
      exact (partitionAfter_of_states hcause
        ((readChannel?_eq_ok_iff Row.readTtsState_eq_ok_iff).2 hown)
        ((readChannel?_eq_ok_iff Row.readEmulatorState_eq_ok_iff).2 hemulator)).1
    | garbled hgarbled =>
      exact partitionAfter_of_unreadable (TtcPartition.unreadable_iff_garbled.2 hgarbled)

/-- The partitions that cannot be read. -/
theorem countOf_garbled (g : Graph) (rows : List Row) (service : String) :
    CountOf (fun n : Nat => ∃ p, g.ttcPartitions[n]? = some p ∧ p.Garbled rows service)
      ((g.ttcPartitions.map (partitionAfter (Channels.ofRows rows) service)).countP
        (·.error.isSome)) := by
  rw [List.countP_map]
  refine (CountOf.congr fun n => ?_).1 (countOf_countP g.ttcPartitions _)
  simp only [Function.comp_apply, isSome_error_partitionAfter, TtcPartition.unreadable_iff_garbled]

end Partitions

/-! ## Global outputs -/

/-- The row for the channel (0, 0) of a global output tells a state. -/
def OutputTold (rows : List Row) (service type : String) (state : GlobalTtsState) : Prop :=
  IsOutput type ∧ Told (StandsFor rows service type 0 0) Row.TellsOutput (some state)

/-- The row for the channel (0, 0) of a global output tells no state. -/
def OutputGarbled (rows : List Row) (service type : String) : Prop :=
  IsOutput type ∧ Garbled (StandsFor rows service type 0 0) Row.TellsOutput

section Outputs

variable {rows : List Row} {service type : String}

theorem value_globalOutput_eq_some_iff {state : GlobalTtsState} :
    (globalOutput (Channels.ofRows rows) service type).value = some state ↔
      Told (StandsFor rows service type 0 0) Row.TellsOutput (some state) := by
  rw [told_some_iff Row.readGlobalState_eq_ok_iff, globalOutput]
  cases (Channels.ofRows rows).at? (.make service type 0 0) with
  | none => simp
  | some c =>
    cases hrow : readGlobalState c.row with
    | error error => simp [hrow]
    | ok state' => simp [hrow]

theorem isSome_error_globalOutput :
    (globalOutput (Channels.ofRows rows) service type).error.isSome = true ↔
      Garbled (StandsFor rows service type 0 0) Row.TellsOutput := by
  rw [← Channels.unreadable_iff Row.readGlobalState_eq_ok_iff, globalOutput, Channels.Unreadable]
  cases (Channels.ofRows rows).at? (.make service type 0 0) with
  | none => simp
  | some c =>
    cases hrow : readGlobalState c.row with
    | error error => simp [hrow]
    | ok state' => simp [hrow]

/-- A type occurs in a table if a row stands for an address with it. -/
theorem mem_types_of_standsFor {pmNumber iciNumber : Int64} {n : Nat} {row : Row}
    (h : StandsFor rows service type pmNumber iciNumber n row) :
    type ∈ (Channels.ofRows rows).types service := by
  obtain ⟨c, hc, -, -⟩ := standsFor_iff.1 h
  obtain ⟨hmem, haddress⟩ := Channels.of_at?_eq_some hc
  exact Channels.mem_types.2 ⟨c, hmem, by rw [haddress]; rfl, by rw [haddress]; rfl⟩

/-- A global output has the state that is told for it, or else the state that it had. -/
theorem find?_globalOutputs {state : GlobalTtsState} (states : SortedMap String GlobalTtsState) :
    (takeOutputs states (globalOutputs (Channels.ofRows rows) service)).find? type = some state ↔
      OutputTold rows service type state ∨
        (¬ ∃ state', OutputTold rows service type state') ∧ states.find? type = some state := by
  have hstate : ∀ state', outputState? (globalOutputs (Channels.ofRows rows) service) type
      = some state' ↔ OutputTold rows service type state' := by
    intro state'
    rw [outputState?_globalOutputs, value_globalOutput_eq_some_iff, Channels.mem_outputTypes]
    constructor
    · rintro ⟨⟨-, houtput⟩, htold⟩
      exact ⟨houtput, htold⟩
    · rintro ⟨houtput, n, row, hstands, htells⟩
      exact ⟨⟨mem_types_of_standsFor hstands, houtput⟩, n, row, hstands, htells⟩
  rw [find?_takeOutputs, Option.or_eq_some_iff]
  simp only [← hstate, Option.eq_none_iff_forall_ne_some, not_exists, ne_eq]

/-- The global outputs that cannot be read. -/
theorem countOf_outputGarbled (rows : List Row) (service : String) :
    CountOf (OutputGarbled rows service)
      ((globalOutputs (Channels.ofRows rows) service).countP (·.2.error.isSome)) := by
  rw [globalOutputs_eq, List.countP_map, List.countP_eq_length_filter]
  refine ⟨_, Channels.nodup_outputTypes.filter _, fun type => ?_, rfl⟩
  simp only [List.mem_filter, Function.comp_apply, isSome_error_globalOutput,
    Channels.mem_outputTypes, OutputGarbled]
  constructor
  · rintro ⟨⟨-, houtput⟩, hgarbled⟩
    exact ⟨houtput, hgarbled⟩
  · rintro ⟨houtput, n, row, hstands, hnone⟩
    exact ⟨⟨mem_types_of_standsFor hstands, houtput⟩, n, row, hstands, hnone⟩

end Outputs

/-! ## Counted rows -/

/-- A row is used: it stands for an address that is that of a channel of a partition with a place in
    the TCDS, or for that of a global output. -/
def IsUsed (g : Graph) (service : String) (rows : List Row) (n : Nat) : Prop :=
  ∃ row,
    (∃ p ∈ g.ttcPartitions, p.tcds.nullCause = none ∧
      (p.ChannelRow rows service partitionType n row ∨
        p.ChannelRow rows service emulatorType n row)) ∨
    ∃ type, IsOutput type ∧ StandsFor rows service type 0 0 n row

/-- A row is counted: it carries an address of the service. -/
def IsCounted (service : String) (rows : List Row) (n : Nat) : Prop :=
  ∃ row, rows[n]? = some row ∧
    ∃ type pmNumber iciNumber, row.CarriesAddress service type pmNumber iciNumber

section Counting

variable (g : Graph) (service : String) (rows : List Row)

/-- The rows whose numbers are noted are those that are used. -/
theorem mem_usedRows_iff {n : Nat} : n ∈ g.usedRows service rows ↔ IsUsed g service rows n := by
  simp only [Graph.usedRows, globalOutputs_eq, List.mem_eraseDups, List.mem_append,
    List.mem_flatMap, List.mem_map, Channels.mem_outputTypes]
  constructor
  · rintro (⟨_, ⟨p, hp, rfl⟩, hused⟩ | ⟨_, ⟨type, ⟨-, houtput⟩, rfl⟩, hused⟩)
    · obtain ⟨hcause, type, htype, c, hc, rfl⟩ := (mem_used_partitionAfter service).1 hused
      have hstands := standsFor_iff.2 ⟨c, hc, rfl, rfl⟩
      rcases htype with rfl | rfl
      · exact ⟨c.row, .inl ⟨p, hp, hcause, .inl hstands⟩⟩
      · exact ⟨c.row, .inl ⟨p, hp, hcause, .inr hstands⟩⟩
    · obtain ⟨c, hc, rfl⟩ := (mem_used_globalOutput service).1 hused
      exact ⟨c.row, .inr ⟨type, houtput, standsFor_iff.2 ⟨c, hc, rfl, rfl⟩⟩⟩
  · rintro ⟨row, ⟨p, hp, hcause, hstands⟩ | ⟨type, houtput, hstands⟩⟩
    · refine .inl ⟨_, ⟨p, hp, rfl⟩, (mem_used_partitionAfter service).2 ⟨hcause, ?_⟩⟩
      rcases hstands with hstands | hstands
      · obtain ⟨c, hc, hn, -⟩ := standsFor_iff.1 hstands
        exact ⟨_, .inl rfl, c, hc, hn⟩
      · obtain ⟨c, hc, hn, -⟩ := standsFor_iff.1 hstands
        exact ⟨_, .inr rfl, c, hc, hn⟩
    · obtain ⟨c, hc, hn, -⟩ := standsFor_iff.1 hstands
      exact .inr ⟨_, ⟨type, ⟨mem_types_of_standsFor hstands, houtput⟩, rfl⟩,
        (mem_used_globalOutput service).2 ⟨c, hc, hn⟩⟩

theorem countOf_isUsed : CountOf (IsUsed g service rows) (g.usedRows service rows).length :=
  ⟨_, g.nodup_usedRows service rows, fun _ => mem_usedRows_iff g service rows, rfl⟩

theorem countOf_isCounted : CountOf (IsCounted service rows)
    ((Channels.ofRows rows).ofService service).length := by
  have hnumbers := congrArg List.length (Channels.numbers_ofService rows service)
  rw [List.length_map, length_numbers rows (isChannelOf service)] at hnumbers
  rw [hnumbers]
  refine (CountOf.congr fun n => ?_).1 (countOf_countP rows _)
  simp only [IsCounted, isChannelOf_iff]

/-- No more rows are used than are counted. -/
theorem length_usedRows_le :
    (g.usedRows service rows).length ≤ ((Channels.ofRows rows).ofService service).length := by
  have hsubset : g.usedRows service rows
      ⊆ ((Channels.ofRows rows).ofService service).map (·.number) := by
    intro n hn
    obtain ⟨row, hrow, huses⟩ := (g.mem_usedRows service rows).1 hn
    rw [Channels.numbers_ofService, mem_numbers]
    exact ⟨row, hrow, isChannelOf_of_uses g service rows huses⟩
  have hle := (List.subperm_of_subset (g.nodup_usedRows service rows) hsubset).length_le
  rwa [List.length_map] at hle

end Counting

/-! ## The whole table -/

/-- What comes of a table follows from its rows. -/
structure TtsResult.Follows (result : TtsResult) (g : Graph) (service context : String)
    (rows : List Row) : Prop where
  length_partitions : result.graph.ttcPartitions.length = g.ttcPartitions.length
  partition_iff : ∀ (n : Nat) p, g.ttcPartitions[n]? = some p → ∀ p',
    result.graph.ttcPartitions[n]? = some p' ↔ p.Follows rows service p'
  /-- A global output has the state that is told for it, and without one it stays as it was. -/
  output_iff : ∀ type state, result.graph.tcds.globalTtsStates.find? type = some state ↔
    OutputTold rows service type state ∨
      (¬ ∃ state', OutputTold rows service type state') ∧
        g.tcds.globalTtsStates.find? type = some state
  /-- The service and its address are recorded, and nothing else changes. -/
  graph_eq : result.graph = { g with
    ttcPartitions := result.graph.ttcPartitions
    tcds := { g.tcds with
      serviceName := some service
      serviceContext := some context
      globalTtsStates := result.graph.tcds.globalTtsStates } }
  /-- The rows that are used, each counted once. -/
  matched : CountOf (IsUsed g service rows) result.matched
  /-- The rows with an address of the service. -/
  counted : CountOf (IsCounted service rows) (result.matched + result.unmatched)
  /-- The partitions and the global outputs that cannot be read. -/
  failed : ∃ partitions outputs,
    CountOf (fun n : Nat => ∃ p, g.ttcPartitions[n]? = some p ∧ p.Garbled rows service) partitions ∧
      CountOf (OutputGarbled rows service) outputs ∧ result.failed = partitions + outputs

/-- With a TCDS partition manager a table is taken in, and the graph and the counts follow it. -/
theorem applyTtsChannels_follows (g : Graph) (session : Session) (rows : List Row)
    {service context : String} (htcds : session.tcds? = some (service, context)) :
    ∃ result, applyTtsChannels g session rows = some result ∧
      result.Follows g service context rows := by
  obtain ⟨result, hresult, hmatched, hunmatched, hfailed⟩ :=
    applyTtsChannels_counts session rows htcds g
  obtain ⟨result', hresult', hgraph⟩ := applyTtsChannels_graph session rows htcds g
  obtain rfl : result = result' := Option.some.inj (hresult.symm.trans hresult')
  change result.matched = (g.usedRows service rows).length at hmatched
  change result.unmatched = _ - (g.usedRows service rows).length at hunmatched
  have hpartitions : result.graph.ttcPartitions
      = g.ttcPartitions.map fun p => (partitionAfter (Channels.ofRows rows) service p).value := by
    rw [hgraph]
    exact mapIdx_const _ _
  have houtputs : result.graph.tcds.globalTtsStates
      = takeOutputs g.tcds.globalTtsStates (globalOutputs (Channels.ofRows rows) service) := by
    rw [hgraph]
    rfl
  refine ⟨result, hresult, ?_⟩
  constructor
  case length_partitions => rw [hpartitions, List.length_map]
  case partition_iff =>
    intro n p hp p'
    rw [hpartitions, List.getElem?_map, hp, Option.map_some, Option.some.injEq,
      partitionAfter_eq_iff]
  case output_iff =>
    intro type state
    rw [houtputs, find?_globalOutputs]
  case graph_eq =>
    simp only [applyTtsChannels, htcds, Option.map_some, Option.some.injEq] at hresult
    subst hresult
    rfl
  case matched =>
    rw [hmatched]
    exact countOf_isUsed g service rows
  case counted =>
    have hle := length_usedRows_le g service rows
    rw [hunmatched, hmatched, Nat.add_sub_cancel' hle]
    exact countOf_isCounted service rows
  case failed =>
    exact ⟨_, _, countOf_garbled g rows service, countOf_outputGarbled rows service, hfailed⟩

/-- Two partitions share their channels. One of these is spelled in another case and has two rows, the
    last of which stands, and the emulator is unused. A third partition has a channel that carries no
    number, and a fourth one no place. One output has no channel (0, 0). -/
theorem applyTtsChannels_follows_shared_channels :
    let partition (uid : UInt64) (iciNumber : Int64) (nullCause : Option String) : TtcPartition :=
      { uid := ⟨uid⟩, name := "TK", number := 1, tcds := { pmNumber := 1, iciNumber, nullCause }
        tcdsPmTtsState := some "old", tcdsApvPmTtsState := some "old" }
    let g : Graph :=
      { uid := ⟨1⟩, ttcPartitions := [partition 2 2 none, partition 3 2 none, partition 4 3 none,
          partition 5 2 (some "masked")] }
    let session : Session := ({} : Session).withTcds "PM" "http://pm"
    let channel (service type : String) (pmNumber iciNumber : Nat) (column : String × Json) : Row :=
      .object [("service", .text service), ("type", .text type), ("pm_number", .ofNat pmNumber),
        ("ici_number", .ofNat iciNumber), column]
    let rows :=
      [channel "pm" "tts_ici" 1 2 ("value", .ofNat 4), channel "Pm" "tts_ici" 1 2 ("value", .ofNat 8),
        channel "PM" "tts_apve" 1 2 ("label", .text "UNUSED"),
        channel "pm" "tts_ici" 1 3 ("value", .text "x"), channel "pm" "tts_all" 0 0 ("value", .ofNat 2),
        channel "pm" "tts_bad" 0 1 ("value", .ofNat 2),
        channel "other" "tts_ici" 1 2 ("value", .ofNat 1)]
    session.tcds? = some ("PM", "http://pm") ∧
      ∃ result, applyTtsChannels g session rows = some result ∧
        result.Follows g "PM" "http://pm" rows ∧
        result.graph.ttcPartitions.map (fun p => (p.tcdsPmTtsState, p.tcdsApvPmTtsState))
          = [(some "READY", some "x"), (some "READY", some "x"), (some "old", some "old"),
            (some "masked", some "masked")] ∧
        (result.graph.tcds.globalTtsStates.find? "tts_all").map (·.state) = some "OUT_OF_SYNC" ∧
        (result.graph.tcds.globalTtsStates.find? "tts_bad").isNone = true ∧
        result.matched = 4 ∧ result.unmatched = 2 ∧ result.failed = 1 := by
  intro partition g session channel rows
  have htcds : session.tcds? = some ("PM", "http://pm") := rfl
  obtain ⟨result, hresult, hfollows⟩ := applyTtsChannels_follows g session rows htcds
  have hpartitions : (applyTtsChannels g session rows).map (fun r =>
      r.graph.ttcPartitions.map fun p => (p.tcdsPmTtsState, p.tcdsApvPmTtsState))
      = some [(some "READY", some "x"), (some "READY", some "x"), (some "old", some "old"),
          (some "masked", some "masked")] := by decide +kernel
  have houtputs : (applyTtsChannels g session rows).map (fun r =>
      ((r.graph.tcds.globalTtsStates.find? "tts_all").map (·.state),
        (r.graph.tcds.globalTtsStates.find? "tts_bad").isNone))
      = some (some "OUT_OF_SYNC", true) := by decide +kernel
  have hcounts : (applyTtsChannels g session rows).map (fun r => (r.matched, r.unmatched, r.failed))
      = some (4, 2, 1) := by decide +kernel
  simp only [hresult, Option.map_some, Option.some.injEq, Prod.mk.injEq]
    at hpartitions houtputs hcounts
  exact ⟨htcds, result, hresult, hfollows, hpartitions, houtputs.1, houtputs.2, hcounts⟩

end DaqMonitor

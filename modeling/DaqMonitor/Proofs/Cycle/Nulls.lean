/-
  DaqMonitor.Proofs.Cycle.Nulls

  A table whose rows have columns that are `null`.

  No rule that matches rows can tell a `null` from a column that is not there, nor
  can the channels of a TTS table. So a table makes the same of a graph, and counts
  the same, with and without such columns, unless one of them is a column that a
  row may do without: with a `null` there the row is refused, and without the column
  it is taken.

    * `Flashlist.withoutNulls f` — the flashlist without columns that are `null`.
    * `Kind.optionalColumns kind` — the columns that rows of a kind may do without.
    * `Monitor.dispatch_withoutNulls` — both flashlists come to the same.
-/
import DaqMonitor.Cycle.Monitor
import DaqMonitor.Proofs.Cycle.Channels
import DaqMonitor.Proofs.Graph.Nulls

namespace DaqMonitor

open Flashlist Matching

/-! ## Columns that may be absent -/

/-- The columns that the channel of a global output may do without. -/
def outputColumns : List String := ["outputFractionBusy", "outputFractionWarning"]

/-- The columns that rows of a kind may do without. -/
def Flashlist.Kind.optionalColumns (kind : Kind) : List String :=
  TargetSort.run.optionalColumns kind ++ TargetSort.fed.optionalColumns kind ++
    TargetSort.ru.optionalColumns kind ++ if kind = .tcdsTtsChannels then outputColumns else []

/-- Whether none of the columns that a row of a kind may do without is `null`. -/
def Flashlist.Row.Definite (kind : Kind) (row : Row) : Prop :=
  ∀ column ∈ kind.optionalColumns, row.isNull column = false

instance (kind : Kind) (row : Row) : Decidable (row.Definite kind) :=
  inferInstanceAs (Decidable (∀ column ∈ kind.optionalColumns, row.isNull column = false))

theorem TargetSort.mem_optionalColumns {s : TargetSort} {kind : Kind} {column : String}
    (h : column ∈ s.optionalColumns kind) : column ∈ kind.optionalColumns := by
  unfold Kind.optionalColumns
  cases s with
  | run => simp [h]
  | fed => simp [h]
  | ru => simp [h]
  | _ => cases h

/-! ## Rules -/

section Rules

variable (row : Row)

theorem matchHostname_withoutNulls (g : Graph) (pool : HostPool) :
    matchHostname g pool row.withoutNulls = matchHostname g pool row := by
  cases pool <;> simp only [matchHostname, byHostname, Row.text_withoutNulls]

theorem Matching.Finder.matchRow_withoutNulls (finder : Finder)
    (candidates : List (Position × Target)) :
    finder.matchRow candidates row.withoutNulls = finder.matchRow candidates row := by
  cases finder <;>
    simp only [matchRow, rowPositions, Row.text_withoutNulls, Row.integer_withoutNulls]

theorem Matching.byIdLists_withoutNulls {arena : Arena} (columns : List String)
    (pool : SortedMap UInt32 (EntityId arena)) (make : EntityId arena → Target) :
    byIdLists columns pool make row.withoutNulls = byIdLists columns pool make row := by
  simp only [byIdLists, Row.integerList_withoutNulls]

theorem ofLevelZero_withoutNulls (session : Session) :
    ofLevelZero session row.withoutNulls = ofLevelZero session row := by
  simp only [ofLevelZero, Row.text_withoutNulls]

theorem matchLevelZeroDynamic_withoutNulls (session : Session) :
    matchLevelZeroDynamic session row.withoutNulls = matchLevelZeroDynamic session row := by
  simp only [matchLevelZeroDynamic, ofLevelZero_withoutNulls]

theorem ofSession_withoutNulls (sessionId : Int64) :
    ofSession sessionId row.withoutNulls = ofSession sessionId row := by
  simp only [ofSession, Row.text_withoutNulls]

theorem matchLevelZeroSubsystem_withoutNulls (g : Graph) (session : Session) :
    matchLevelZeroSubsystem g session row.withoutNulls
      = matchLevelZeroSubsystem g session row := by
  simp only [matchLevelZeroSubsystem, ofSession_withoutNulls, ofLevelZero_withoutNulls,
    Row.text_withoutNulls]

theorem ofService_withoutNulls (service : String) :
    ofService service row.withoutNulls = ofService service row := by
  simp only [ofService, Row.text_withoutNulls]

theorem matchTcdsService_withoutNulls (service : String) (rows : List Row) :
    matchTcdsService service (rows.map Row.withoutNulls) = matchTcdsService service rows := by
  have hfirst : (rows.map Row.withoutNulls).findIdx? (ofService service)
      = rows.findIdx? (ofService service) := by
    rw [List.findIdx?_map]
    simp only [Function.comp_def, ofService_withoutNulls]
  simp only [matchTcdsService, hfirst, List.map_map]
  cases rows.findIdx? (ofService service) with
  | none => rfl
  | some n =>
    apply List.ext_getElem?
    intro i
    simp only [List.getElem?_mapIdx, List.getElem?_map, Option.map_map]
    rfl

end Rules

/-! ## Targets -/

section Targets

variable {kind : Kind} {row : Row} {rows : List Row}

theorem Graph.update?_withoutNulls (g : Graph) (target : Target) (h : row.Definite kind) :
    g.update? target kind row.withoutNulls = g.update? target kind row := by
  have hcolumns : ∀ (s : TargetSort), ∀ column ∈ s.optionalColumns kind,
      row.isNull column = false := fun s column hcolumn => h column (s.mem_optionalColumns hcolumn)
  cases target <;> simp only [update?, RunInfo.update_withoutNulls _ _ (hcolumns .run),
    TcdsInfo.update_withoutNulls, Fed.update_withoutNulls _ _ (hcolumns .fed),
    Frl.update_withoutNulls, FrlPc.update_withoutNulls,
    Ru.update_withoutNulls _ _ (hcolumns .ru), Bu.update_withoutNulls, Fmm.update_withoutNulls,
    FmmApplication.update_withoutNulls, TtcPartition.update_withoutNulls,
    SubSystem.update_withoutNulls]

theorem Applied.give_withoutNulls (h : ∀ row ∈ rows, row.Definite kind) (a : Applied)
    (target : Target) (number : Nat) :
    a.give kind (rows.map Row.withoutNulls) target number = a.give kind rows target number := by
  unfold give
  rw [List.getElem?_map]
  cases hrow : rows[number]? with
  | none => rfl
  | some row =>
    rw [Option.map_some]
    dsimp only
    rw [Graph.update?_withoutNulls a.graph target (h row (List.mem_of_getElem? hrow))]

theorem applyOutcome_withoutNulls (h : ∀ row ∈ rows, row.Definite kind) (g : Graph) (o : Outcome) :
    applyOutcome g kind (rows.map Row.withoutNulls) o = applyOutcome g kind rows o := by
  simp only [applyOutcome, Applied.give_withoutNulls h]

theorem Dispatched.apply_withoutNulls (h : ∀ row ∈ rows, row.Definite kind) (d : Dispatched)
    (o : Outcome) (ofLists : Bool) :
    d.apply kind (rows.map Row.withoutNulls) o ofLists = d.apply kind rows o ofLists := by
  simp only [apply, applyOutcome_withoutNulls h]

end Targets

/-! ## Channels -/

namespace Channels

/-- The channels with rows without the columns that are `null`. -/
def withoutNulls (channels : Channels) : Channels :=
  channels.map fun c => { c with row := c.row.withoutNulls }

theorem ofRows_withoutNulls (rows : List Row) :
    ofRows (rows.map Row.withoutNulls) = (ofRows rows).withoutNulls := by
  have haddress : ∀ row : Row, ChannelAddress.ofRow row.withoutNulls = ChannelAddress.ofRow row := by
    intro row
    simp only [ChannelAddress.ofRow, Row.text_withoutNulls, Row.integer_withoutNulls]
  rw [ofRows, ofRows, withoutNulls, List.zipIdx_map, List.filterMap_map, List.map_filterMap]
  congr 1
  funext r
  simp only [Function.comp_apply, Prod.map_fst, Prod.map_snd, haddress, id_eq]
  cases ChannelAddress.ofRow r.1 <;> rfl

theorem at?_withoutNulls (channels : Channels) (address : ChannelAddress) :
    channels.withoutNulls.at? address
      = (channels.at? address).map fun c => { c with row := c.row.withoutNulls } := by
  rw [at?, at?, withoutNulls, ← List.map_reverse, List.find?_map]
  rfl

theorem ofService_withoutNulls (channels : Channels) (service : String) :
    channels.withoutNulls.ofService service = (channels.ofService service).withoutNulls := by
  rw [ofService, ofService, withoutNulls, withoutNulls, List.filter_map]
  rfl

theorem types_withoutNulls (channels : Channels) (service : String) :
    channels.withoutNulls.types service = channels.types service := by
  rw [types, types, ofService_withoutNulls, withoutNulls, List.map_map]
  rfl

end Channels

section Channels

variable {rows : List Row} {channels : Channels}

theorem readTtsState_withoutNulls (row : Row) :
    readTtsState row.withoutNulls = readTtsState row := by
  simp only [readTtsState, Row.integer_withoutNulls]

theorem readEmulatorState_withoutNulls (row : Row) :
    readEmulatorState row.withoutNulls = readEmulatorState row := by
  simp only [readEmulatorState, Row.text_withoutNulls, readTtsState_withoutNulls]

theorem readGlobalState_withoutNulls {row : Row} (h : row.Definite .tcdsTtsChannels) :
    readGlobalState row.withoutNulls = readGlobalState row := by
  have hoptional : ∀ column ∈ outputColumns,
      row.withoutNulls.optional column 0.0 Row.double = row.optional column 0.0 Row.double :=
    fun column hcolumn =>
      Row.optional_withoutNulls (row.double_withoutNulls column) (h column hcolumn)
  simp only [readGlobalState, readTtsState_withoutNulls,
    hoptional "outputFractionBusy" (by decide), hoptional "outputFractionWarning" (by decide)]

theorem partitionAfter_withoutNulls (service : String) (p : TtcPartition) :
    partitionAfter channels.withoutNulls service p = partitionAfter channels service p := by
  have hread : ∀ (read : Row → Except RowError String) (address : ChannelAddress),
      (∀ row : Row, read row.withoutNulls = read row) →
      readChannel? read (channels.withoutNulls.at? address)
        = readChannel? read (channels.at? address) := by
    intro read address hrow
    rw [Channels.at?_withoutNulls]
    cases channels.at? address with
    | none => rfl
    | some c => simp only [Option.map_some, readChannel?, hrow]
  have hnumber : ∀ address, (channels.withoutNulls.at? address).toList.map (·.number)
      = (channels.at? address).toList.map (·.number) := by
    intro address
    rw [Channels.at?_withoutNulls]
    cases channels.at? address <;> rfl
  simp only [partitionAfter, List.map_append, hnumber, hread _ _ readTtsState_withoutNulls,
    hread _ _ readEmulatorState_withoutNulls]

theorem globalOutput_withoutNulls (h : ∀ row ∈ rows, row.Definite .tcdsTtsChannels)
    (service type : String) :
    globalOutput (Channels.ofRows rows).withoutNulls service type
      = globalOutput (Channels.ofRows rows) service type := by
  rw [globalOutput, globalOutput, Channels.at?_withoutNulls]
  cases hchannel : (Channels.ofRows rows).at? (.make service type 0 0) with
  | none => rfl
  | some c =>
    have hrow := (Channels.mem_ofRows.1 (Channels.of_at?_eq_some hchannel).1).1
    have hread := readGlobalState_withoutNulls (h c.row (List.mem_of_getElem? hrow))
    simp only [Option.map_some, hread]

theorem applyTtsChannels_withoutNulls (h : ∀ row ∈ rows, row.Definite .tcdsTtsChannels)
    (g : Graph) (session : Session) :
    applyTtsChannels g session (rows.map Row.withoutNulls) = applyTtsChannels g session rows := by
  have hlength : ∀ service, ((Channels.ofRows rows).ofService service).withoutNulls.length
      = ((Channels.ofRows rows).ofService service).length := fun _ => List.length_map _
  have hpartition : ∀ service, partitionAfter (Channels.ofRows rows).withoutNulls service
      = partitionAfter (Channels.ofRows rows) service :=
    fun service => funext (partitionAfter_withoutNulls service)
  simp only [applyTtsChannels, Channels.ofRows_withoutNulls, Channels.types_withoutNulls,
    Channels.ofService_withoutNulls, hlength, hpartition, globalOutput_withoutNulls h]

end Channels

/-! ## Routes -/

section Routes

variable {kind : Kind} {rows : List Row}

/-- A route makes the same of both tables. -/
theorem Dispatched.route_withoutNulls (h : ∀ row ∈ rows, row.Definite kind) (session : Session)
    (d : Dispatched) {r : Route} (hplan : r ∈ plan kind) :
    d.route session kind (rows.map Row.withoutNulls) r = d.route session kind rows r := by
  have hrows : ∀ matchRow : Row → RowMatch,
      (∀ row : Row, matchRow row.withoutNulls = matchRow row) →
      (rows.map Row.withoutNulls).map matchRow = rows.map matchRow := by
    intro matchRow hrow
    rw [List.map_map]
    exact List.map_congr_left fun row _ => hrow row
  cases r with
  | hostname pool =>
    simp only [route, hrows _ fun row => matchHostname_withoutNulls row _ pool,
      apply_withoutNulls h]
  | position finder =>
    simp only [route, Finder.matchRows, hrows _ fun row => finder.matchRow_withoutNulls row _,
      apply_withoutNulls h]
  | problemLists =>
    simp only [route, hrows _ fun row => byIdLists_withoutNulls row _ _ _, apply_withoutNulls h]
  | evm => simp only [route, List.length_map, apply_withoutNulls h]
  | levelZeroDynamic =>
    simp only [route, hrows _ fun row => matchLevelZeroDynamic_withoutNulls row session,
      apply_withoutNulls h]
  | levelZeroSubsystems =>
    simp only [route, hrows _ fun row => matchLevelZeroSubsystem_withoutNulls row _ session,
      apply_withoutNulls h]
  | tcdsService =>
    have hany : ∀ service, (rows.map Row.withoutNulls).any (ofService service)
        = rows.any (ofService service) := by
      intro service
      rw [List.any_map]
      simp only [Function.comp_def, ofService_withoutNulls]
    simp only [route, hany, matchTcdsService_withoutNulls, List.length_map, apply_withoutNulls h]
  | ttsChannels =>
    obtain rfl := kind_of_ttsChannels_mem_plan hplan
    simp only [route, applyTtsChannels_withoutNulls h]

end Routes

/-! ## Flashlists -/

/-- The flashlist without the columns that are `null`. -/
def Flashlist.withoutNulls (f : Flashlist) : Flashlist :=
  { f with rows := f.rows.map Row.withoutNulls }

section Flashlists

variable {f : Flashlist}

theorem Flashlist.dispatchKind?_withoutNulls : f.withoutNulls.dispatchKind? = f.dispatchKind? := by
  simp only [dispatchKind?, withoutNulls, isEmpty, List.isEmpty_map]

/-- Whether no row of a flashlist has a `null` in a column that it may do without. -/
def Flashlist.Definite (f : Flashlist) : Prop :=
  ∀ kind, f.dispatchKind? = some kind → ∀ row ∈ f.rows, row.Definite kind

theorem dispatch_eq_of_definite (hdefinite : f.Definite) (session : Session) (g : Graph) :
    dispatch session g f.withoutNulls = dispatch session g f := by
  unfold dispatch
  rw [Flashlist.dispatchKind?_withoutNulls]
  cases hkind : f.dispatchKind? with
  | none => rfl
  | some kind =>
    -- By induction on the routes that are left of the plan, for whatever came of those before.
    have hroutes : ∀ routes ⊆ plan kind, ∀ d : Dispatched,
        routes.foldl (Dispatched.route session kind f.withoutNulls.rows) d
          = routes.foldl (Dispatched.route session kind f.rows) d := by
      intro routes
      induction routes with
      | nil => exact fun _ _ => rfl
      | cons r routes ih =>
        intro hplan d
        obtain ⟨hr, hrest⟩ := List.cons_subset.1 hplan
        have hroute := Dispatched.route_withoutNulls (hdefinite kind hkind) session d hr
        rw [List.foldl_cons, List.foldl_cons, ih hrest, Flashlist.withoutNulls, hroute]
    exact hroutes (plan kind) (List.Subset.refl _) { graph := g }

/-- A flashlist comes to the same as without the columns that are `null`: the same graph, counts and
    notices; and every entity takes or refuses a row alike with and without them. All of that unless
    a column that may be absent is `null`: such a row is refused by an entity that reads the
    column. -/
theorem Monitor.dispatch_withoutNulls (m : Monitor) (f : Flashlist) :
    (f.Definite → m.dispatch f.withoutNulls = m.dispatch f) ∧
    ∀ (s : TargetSort) (e : s.Entity) (kind : Kind) (row : Row),
      ((∀ column ∈ s.optionalColumns kind, row.isNull column = false) →
        s.update e kind row.withoutNulls = s.update e kind row) ∧
      ∀ column ∈ s.optionalColumns kind, row.isNull column = true →
        s.refuses kind row e = true := by
  refine ⟨fun hdefinite => ?_, fun s e kind row => ⟨s.update_withoutNulls e kind,
    fun column => s.refuses_of_isNull e kind⟩⟩
  simp only [dispatch, Flashlist.dispatchKind?_withoutNulls,
    dispatch_eq_of_definite hdefinite]

/-- A row with values of the run, the beam mode and the fill left open. -/
def runRow (beamMode fill : Option Json) : Row :=
  .object ([("FMURL", .text "http://l0:1"), ("SID", .ofNat 12), ("RUN_NUMBER", .ofNat 7),
    ("STATE", .text "Running")] ++ (beamMode.map fun mode => ("LHC_BEAM_MODE", mode)).toList ++
    (fill.map fun fill => ("LHC_FILL", fill)).toList)

/-- With a `null` in a column that nobody reads the run takes the row; with one as the beam mode it
    refuses it. -/
theorem Monitor.dispatch_withoutNulls_fill :
    let m : Monitor := { graph := Graph.indexed { uid := ⟨1⟩ }, session := {} }
    let f : Flashlist := .ofKind .levelZeroDynamic [runRow none (some .null)]
    f.Definite ∧ m.dispatch f.withoutNulls = m.dispatch f ∧
      (m.dispatch f).1.graph.run.runNumber = some 7 ∧
      TargetSort.run.update {} .levelZeroDynamic (runRow none (some .null)).withoutNulls
        = TargetSort.run.update {} .levelZeroDynamic (runRow none (some .null)) ∧
      TargetSort.run.refuses .levelZeroDynamic (runRow (some .null) none) {} = true := by
  intro m f
  obtain ⟨hdispatch, hrows⟩ := m.dispatch_withoutNulls f
  have hrow : (runRow none (some .null)).Definite .levelZeroDynamic := by decide
  have hdefinite : f.Definite := by
    intro kind hkind row hmem
    obtain rfl := List.mem_singleton.1 hmem
    cases hkind
    exact hrow
  exact ⟨hdefinite, hdispatch hdefinite, by decide, (hrows .run {} .levelZeroDynamic _).1 hrow,
    (hrows .run {} .levelZeroDynamic _).2 "LHC_BEAM_MODE" (by decide) (by decide)⟩

/-- A run in a beam mode that is `null`: the row is refused and counted as failed, and without the
    column the run takes it. -/
theorem Monitor.dispatch_withoutNulls_beam_mode :
    let m : Monitor := { graph := Graph.indexed { uid := ⟨1⟩ }, session := {} }
    let f : Flashlist := .ofKind .levelZeroDynamic [runRow (some .null) none]
    (m.dispatch f).1.graph.run.runNumber = none ∧
      (m.dispatch f.withoutNulls).1.graph.run.runNumber = some 7 ∧
      ((m.dispatch f).1.stats.of .levelZeroDynamic).failed = 1 ∧
      ((m.dispatch f.withoutNulls).1.stats.of .levelZeroDynamic).failed = 0 := by
  decide

end Flashlists

end DaqMonitor

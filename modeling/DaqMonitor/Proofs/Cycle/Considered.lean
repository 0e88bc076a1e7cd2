/-
  DaqMonitor.Proofs.Cycle.Considered

  The rows of a table that count, and the ids that they list.

  Which rows count is said by what they carry: an address of a function manager that
  contains the filter of the session, a session id that contains that of the session,
  the service of the session in any case, or the address of a channel. Each route has
  a test of its own for that, and the routes of one kind agree.

    * `Row.OfLevelZero`, `Row.OfSession`, `Row.OfService`, `Row.CarriesAddress` — what
      rows carry.
    * `Table.Considers`, `Table.considered` — the rows that count.
    * `Table.considers_iff` — these are the rows that the routes of the table look at.
    * `Table.listed` — the ids that the rows of a table list.
-/
import DaqMonitor.Proofs.Cycle.Channels
import DaqMonitor.Proofs.Failing
import DaqMonitor.Proofs.Text.Cutting
import DaqMonitor.Proofs.Text.Folding

namespace DaqMonitor

open Flashlist Matching Text

/-! ## What rows carry -/

namespace Flashlist.Row

/-- The address of the function manager in a row contains the filter. -/
def OfLevelZero (filter : String) (row : Row) : Prop :=
  ∃ url, row.text "FMURL" = .ok url ∧ filter.toList <:+: url.toList

/-- The session id of a row contains the digits of the given one. -/
def OfSession (sessionId : Int64) (row : Row) : Prop :=
  ∃ sid, row.text "SID" = .ok sid ∧ (toString sessionId.toInt).toList <:+: sid.toList

/-- The service of a row is the given one, in any case. -/
def OfService (service : String) (row : Row) : Prop :=
  ∃ s, row.text "service" = .ok s ∧ SameButCase s service

/-- A row carries an address: all columns of it can be read and tell it, the service in any case. -/
def CarriesAddress (service type : String) (pmNumber iciNumber : Int64) (row : Row) : Prop :=
  (∃ s, row.text "service" = .ok s ∧ SameButCase s service) ∧ row.text "type" = .ok type ∧
    row.integer "pm_number" = .ok pmNumber ∧ row.integer "ici_number" = .ok iciNumber

/-- What a row lists in a column: ids, or one entry that is no id where the column is no list. -/
def listedIn (column : String) (row : Row) : List (Option Int64) :=
  match row.integerList column with
  | .ok ids => ids.map some
  | .error _ => [none]

end Flashlist.Row

section Tests

variable {row : Row}

theorem Text.ofInt_eq_toString (i : Int) : ofInt i = toString i := by
  cases i with
  | ofNat n => rfl
  | negSucc n =>
    rw [ofInt, if_pos (Int.negSucc_lt_zero n)]
    rfl

theorem ofLevelZero_iff {session : Session} :
    ofLevelZero session row = true ↔ row.OfLevelZero session.levelZeroFilter := by
  unfold ofLevelZero Row.OfLevelZero
  cases row.text "FMURL" with
  | error error => simp
  | ok url => simp [Session.accepts, contains_iff]

theorem ofSession_iff {sessionId : Int64} :
    ofSession sessionId row = true ↔ row.OfSession sessionId := by
  unfold ofSession Row.OfSession
  cases row.text "SID" with
  | error error => simp
  | ok sid => simp [contains_iff, Text.ofInt_eq_toString]

theorem ofService_iff {service : String} :
    ofService service row = true ↔ row.OfService service := by
  unfold ofService Row.OfService
  cases row.text "service" with
  | error error => simp
  | ok s => simp [equalsFolded_iff]

theorem Flashlist.Row.ofRow_eq_ok_iff {service type : String} {pmNumber iciNumber : Int64} :
    ChannelAddress.ofRow row = .ok (.make service type pmNumber iciNumber) ↔
      row.CarriesAddress service type pmNumber iciNumber := by
  simp only [ChannelAddress.ofRow, bind_eq_ok_iff, ChannelAddress.make, Except.ok.injEq,
    ChannelAddress.mk.injEq, lowerLatin_eq_iff, CarriesAddress]
  constructor
  · rintro ⟨s, hs, _, htype, _, hpm, _, hici, hsame, rfl, rfl, rfl⟩
    exact ⟨⟨s, hs, hsame⟩, htype, hpm, hici⟩
  · rintro ⟨⟨s, hs, hsame⟩, htype, hpm, hici⟩
    exact ⟨s, hs, _, htype, _, hpm, _, hici, hsame, rfl, rfl, rfl⟩

theorem isChannelOf_iff {service : String} : isChannelOf service row = true ↔
    ∃ type pmNumber iciNumber, row.CarriesAddress service type pmNumber iciNumber := by
  simp only [← Row.ofRow_eq_ok_iff, isChannelOf]
  cases haddress : ChannelAddress.ofRow row with
  | error error => simp
  | ok address =>
    simp only [beq_iff_eq, Except.ok.injEq]
    constructor
    · intro hservice
      exact ⟨_, _, _, ChannelAddress.eq_make service hservice⟩
    · rintro ⟨type, pmNumber, iciNumber, rfl⟩
      rfl

theorem Session.tcds?_eq_some_iff {session : Session} {service context : String} :
    session.tcds? = some (service, context) ↔
      session.tcdsService = some service ∧ session.tcdsContext = some context := by
  obtain ⟨filter, service?, context?⟩ := session
  cases service? <;> cases context? <;> simp [Session.tcds?]

end Tests

/-! ## Rows that count -/

section Rows

variable (session : Session) (g : Graph) (kind : Kind) (rows : List Row)

/-- A row counts for a table of the given kind. -/
def Table.Considers (n : Nat) (row : Row) : Prop :=
  match kind with
  | .evm => rows.length = 1
  | .levelZeroDynamic => row.OfLevelZero session.levelZeroFilter
  | .levelZeroSubsystems => ∃ sessionId, g.sessionId = some sessionId ∧ row.OfSession sessionId
  | .tcdsCounts | .tcdsDeadtimes | .tcdsRates | .tcdsActionCounts =>
    ∃ service context, session.tcdsService = some service ∧ session.tcdsContext = some context ∧
      ∃ first, FirstWith (Row.OfService service) rows n first
  | .tcdsTtsChannels =>
    ∃ service context, session.tcdsService = some service ∧ session.tcdsContext = some context ∧
      ∃ type pmNumber iciNumber, row.CarriesAddress service type pmNumber iciNumber
  | .levelZeroStatic => False
  | _ => True

/-- Whether a route counts a row. -/
def Route.considers (r : Route) (n : Nat) (row : Row) : Bool :=
  match r with
  | hostname _ | position _ | problemLists => true
  | evm => rows.length = 1
  | levelZeroDynamic => ofLevelZero session row
  | levelZeroSubsystems => g.sessionId.any fun sessionId => ofSession sessionId row
  | tcdsService => session.tcds?.any fun tcds => rows.findIdx? (ofService tcds.1) = some n
  | ttsChannels => session.tcds?.any fun tcds => isChannelOf tcds.1 row

variable {session g kind rows} {n : Nat} {row : Row}

theorem Session.any_tcds?_iff (session : Session) {p : String → Bool} :
    (session.tcds?.any fun tcds => p tcds.1) = true ↔
      ∃ service context, session.tcdsService = some service ∧
        session.tcdsContext = some context ∧ p service = true := by
  simp only [Option.any_eq_true, Prod.exists, tcds?_eq_some_iff, and_assoc]

/-- The row of a service that counts is the first one. -/
theorem findIdx?_ofService_iff {service : String} :
    rows.findIdx? (ofService service) = some n ↔
      ∃ first, FirstWith (Row.OfService service) rows n first := by
  classical
  have htest : ofService service = fun row => decide (row.OfService service) := by
    funext row
    rw [Bool.eq_iff_iff, ofService_iff, decide_eq_true_eq]
  rw [htest, findIdx?_eq_some_iff_firstWith]

/-- The routes of a kind agree on the rows that count. -/
theorem Table.considers_iff {r : Route} (hplan : r ∈ plan kind) :
    Considers session g kind rows n row ↔ r.considers session g rows n row = true := by
  -- A route stands in the plans of a few kinds only, and there its test decides the condition of
  -- the kind; the plans of all other kinds are ruled out.
  cases r with
  | hostname pool => cases kind <;> first | exact iff_of_true trivial rfl | simp [plan] at hplan
  | position finder => cases kind <;> first | exact iff_of_true trivial rfl | simp [plan] at hplan
  | problemLists =>
    cases kind <;> first | exact iff_of_true trivial rfl | exact absurd hplan (by decide)
  | evm =>
    have hroute : decide (rows.length = 1) = true ↔ rows.length = 1 := decide_eq_true_iff
    cases kind <;> first | exact hroute.symm | exact absurd hplan (by decide)
  | levelZeroDynamic =>
    cases kind <;> first | exact ofLevelZero_iff.symm | exact absurd hplan (by decide)
  | levelZeroSubsystems =>
    have hroute : (Route.considers session g rows .levelZeroSubsystems n row = true) ↔
        ∃ sessionId, g.sessionId = some sessionId ∧ row.OfSession sessionId := by
      simp only [Route.considers, Option.any_eq_true, ofSession_iff]
    cases kind <;> first | exact hroute.symm | exact absurd hplan (by decide)
  | tcdsService =>
    have hroute := session.any_tcds?_iff
      (p := fun service => rows.findIdx? (ofService service) = some n)
    simp only [decide_eq_true_eq, findIdx?_ofService_iff] at hroute
    cases kind <;> first | exact hroute.symm | exact absurd hplan (by decide)
  | ttsChannels =>
    have hroute := session.any_tcds?_iff (p := (isChannelOf · row))
    simp only [isChannelOf_iff] at hroute
    cases kind <;> first | exact hroute.symm | exact absurd hplan (by decide)

/-- A row that counts is looked at by a route, and by one that may miss it. -/
theorem Table.exists_mem_plan (h : Considers session g kind rows n row) :
    ∃ r ∈ plan kind, r ≠ .problemLists := by
  cases kind <;> first | exact ⟨_, List.mem_cons_self, by simp⟩ | cases h

theorem Table.any_considers_iff :
    (plan kind).any (·.considers session g rows n row) = true ↔
      Considers session g kind rows n row := by
  rw [List.any_eq_true]
  constructor
  · rintro ⟨r, hplan, hroute⟩
    exact (considers_iff hplan).2 hroute
  · intro h
    obtain ⟨r, hplan, -⟩ := exists_mem_plan h
    exact ⟨r, hplan, (considers_iff hplan).1 h⟩

instance : Decidable (Table.Considers session g kind rows n row) :=
  decidable_of_iff _ Table.any_considers_iff

variable (session g kind rows)

/-- The numbers of the rows that count for a table of the given kind. -/
def Table.considered : List Nat :=
  (rows.zipIdx.filter fun r => Considers session g kind rows r.2 r.1).map (·.2)

theorem Table.mem_considered {n : Nat} :
    n ∈ considered session g kind rows ↔
      ∃ row, rows[n]? = some row ∧ Considers session g kind rows n row := by
  rw [considered, mem_numbers]
  simp only [decide_eq_true_eq]

theorem Table.nodup_considered : (considered session g kind rows).Nodup := nodup_numbers

/-- The rows that count for a kind are those that any route of it counts. -/
theorem Table.considered_eq {r : Route} (hplan : r ∈ plan kind) :
    considered session g kind rows
      = (rows.zipIdx.filter fun e => r.considers session g rows e.2 e.1).map (·.2) := by
  have hroute : ∀ e : Row × Nat,
      decide (Considers session g kind rows e.2 e.1) = r.considers session g rows e.2 e.1 := by
    intro e
    rw [Bool.eq_iff_iff, decide_eq_true_eq, considers_iff hplan]
  simp only [considered, hroute]

/-! ## Listed ids -/

/-- The ids that the rows of a table list. -/
def Table.listed : List (Option Int64) :=
  if kind = .ru then
    rows.flatMap fun row =>
      row.listedIn "fedIdsWithErrors" ++ row.listedIn "fedIdsWithoutFragments"
  else []

theorem Table.listed_ru : listed .ru rows = rows.flatMap (listedIds problemColumns) := by
  have hcolumns : ∀ columns row, listedIds columns row = columns.flatMap (row.listedIn ·) :=
    fun _ _ => rfl
  rw [listed, if_pos rfl]
  refine List.flatMap_congr fun row _ => ?_
  rw [hcolumns, problemColumns, List.flatMap_cons, List.flatMap_cons, List.flatMap_nil,
    List.append_nil]

end Rows

end DaqMonitor

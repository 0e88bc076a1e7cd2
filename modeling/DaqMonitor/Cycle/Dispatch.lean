/-
  DaqMonitor.Cycle.Dispatch

  From the rows of a flashlist to the targets that they are about.

  Every kind of flashlist has a plan: the routes that its rows take, one after the
  other. A route first matches the rows against the graph and then gives every
  target its row. A flashlist that was not retrieved, or is of no known kind, or
  has no rows, is passed over; only the table of the event manager is looked at
  even without rows, since it should have exactly one.

  A row counts once for its flashlist, however many routes look at it: as matched
  where one of them finds it to be about something, and else as missing where one
  of them finds it to be about nothing.

    * `dispatch session g f` — the graph after a flashlist, and what was recorded.
-/
import DaqMonitor.Cycle.MatchStats
import DaqMonitor.Cycle.Notice
import DaqMonitor.Cycle.TtsChannels
import DaqMonitor.Flashlist.Basic
import DaqMonitor.Matching.Position

namespace DaqMonitor

open Flashlist Matching

/-! ## Plans -/

/-- The entities that are found by their host. -/
inductive HostPool where
  | rus
  | bus
  | frlPcs
  | fmmApplications
  deriving DecidableEq, Repr

/-- The entities that are found by their instance number. -/
inductive InstancePool where
  | rus
  | bus
  deriving DecidableEq, Repr

/-- A way from rows to targets. -/
inductive Route where
  /-- To the entity on the host of the row. -/
  | hostname (pool : HostPool)
  /-- To the entities at the positions of the row. -/
  | position (finder : Finder)
  /-- To the FEDs that the row lists. -/
  | problemLists
  /-- To the event manager. -/
  | evm
  /-- To the run, for rows of the level-zero instance in use. -/
  | levelZeroDynamic
  /-- To subsystems and the run, for rows of the session. -/
  | levelZeroSubsystems
  /-- To the TCDS record, for the first row of the service in use. -/
  | tcdsService
  /-- To partitions and global outputs. -/
  | ttsChannels
  deriving DecidableEq, Repr

/-- The routes of a kind of flashlist, in order. -/
def plan : Kind → List Route
  | .ru => [.hostname .rus, .problemLists]
  | .evm => [.evm]
  | .bu => [.hostname .bus]
  | .jobControl =>
    [.hostname .frlPcs, .hostname .fmmApplications, .hostname .rus, .hostname .bus]
  | .ferolInputStream => [.position .fedOnFerolStream]
  | .ferol40InputStream | .ferol40StreamConfiguration => [.position .fedOnFerol40Stream]
  | .fmmInput => [.position .fedOnFmm]
  | .ferolStatus | .ferol40Status => [.position .frl]
  | .ferolConfiguration | .frlMonitoring => [.hostname .frlPcs, .position .fedOnFrl]
  | .ferol40Configuration => [.hostname .frlPcs]
  | .fmmStatus => [.position .fmm, .position .ttcPartition]
  | .levelZeroDynamic => [.levelZeroDynamic]
  | .levelZeroSubsystems => [.levelZeroSubsystems]
  | .tcdsCounts | .tcdsDeadtimes | .tcdsRates | .tcdsActionCounts => [.tcdsService]
  | .tcdsTtsChannels => [.ttsChannels]
  | .levelZeroStatic => []

/-! ## Matching -/

/-- Matches a row by its host. -/
def matchHostname (g : Graph) (pool : HostPool) (row : Row) : RowMatch :=
  match pool with
  | .rus => byHostname "context" g.indexes.rusByHostname .ru row
  | .bus => byHostname "context" g.indexes.busByHostname .bu row
  | .frlPcs => byHostname "context" g.indexes.frlPcsByHostname .frlPc row
  | .fmmApplications =>
    byHostname "context" g.indexes.fmmApplicationsByHostname .fmmApplication row

/-- Matches a row by its instance number. -/
def matchInstance (g : Graph) (pool : InstancePool) (row : Row) : RowMatch :=
  match pool with
  | .rus => byInstance "instance" g.indexes.rusByInstance .ru row
  | .bus => byInstance "instance" g.indexes.busByInstance .bu row

/-- Matches the one row of the event manager: it is about every unit that is one. -/
def matchEvm (g : Graph) : RowMatch :=
  .ofTargets ((g.rus.zipIdx.filter fun r => r.1.isEvm).map fun r => .ru (.ofNat r.2))

/-- Whether a row is of the level-zero instance in use. -/
def ofLevelZero (session : Session) (row : Row) : Bool :=
  match row.text "FMURL" with
  | .ok url => session.accepts url
  | .error _ => false

/-- Matches a row with values of the run. -/
def matchLevelZeroDynamic (session : Session) (row : Row) : RowMatch :=
  if ofLevelZero session row then .hit [.run] else .ignored

/-- Whether a row is of the given session: its session id, as a text, contains that of the
    session. -/
def ofSession (sessionId : Int64) (row : Row) : Bool :=
  match row.text "SID" with
  | .ok sid => Text.contains sid (Text.ofInt sessionId.toInt)
  | .error _ => false

/-- Matches a row with the state of a subsystem. That of the subsystem `DAQ` at the level-zero
    instance in use is about the run as well. -/
def matchLevelZeroSubsystem (g : Graph) (session : Session) (row : Row) : RowMatch :=
  match g.sessionId with
  | none => .ignored
  | some sessionId =>
    if !ofSession sessionId row then .ignored
    else
      match row.text "SUBSYS" with
      | .error _ => .miss
      | .ok name =>
        let run := if name == "DAQ" && ofLevelZero session row then [Target.run] else []
        let subSystem := (g.indexes.subSystemsByName.find? name).map Target.subSystem
        .ofTargets (run ++ subSystem.toList)

/-- Whether a row is of the given TCDS service. -/
def ofService (service : String) (row : Row) : Bool :=
  match row.text "service" with
  | .ok s => Text.equalsFolded s service
  | .error _ => false

/-- Matches the rows of a TCDS table: only the first row of the service counts. -/
def matchTcdsService (service : String) (rows : List Row) : List RowMatch :=
  match rows.findIdx? (ofService service) with
  | none => rows.map fun _ => .ignored
  | some n => rows.mapIdx fun i _ => if i = n then .hit [.tcds] else .ignored

/-! ## Giving targets their rows -/

/-- What comes of giving targets their rows. -/
structure Applied where
  graph : Graph
  failed : Nat := 0
  notices : List Notice := []

/-- Gives a target its row. A row that is refused leaves the graph as it is. -/
def Applied.give (kind : Kind) (rows : List Row) (a : Applied) (target : Target) (number : Nat) :
    Applied :=
  match rows[number]? with
  | none => a
  | some row =>
    match a.graph.update? target kind row with
    | none => a
    | some (.ok graph) => { a with graph }
    | some (.error e) =>
      { a with
        failed := a.failed + 1
        notices := a.notices ++ [.rowRejected kind number target e] }

/-- Gives all targets of an outcome their rows. -/
def applyOutcome (g : Graph) (kind : Kind) (rows : List Row) (o : Outcome) : Applied :=
  o.rowOf.entries.foldl (fun a e => a.give kind rows e.1 e.2) { graph := g }

/-! ## Routes -/

/-- The rows that some routes found to be about something, and about nothing. -/
structure RowTally where
  resolved : List Nat := []
  missed : List Nat := []
  deriving DecidableEq

/-- The rows of two tallies together. -/
def RowTally.add (a b : RowTally) : RowTally :=
  { resolved := a.resolved ++ b.resolved, missed := a.missed ++ b.missed }

/-- The counts of the rows of a tally, each row once. -/
def RowTally.counts (t : RowTally) : MatchCounts :=
  -- A row that one route resolves is not missing, whatever other routes make of it.
  let resolved := t.resolved.eraseDups
  let missed := t.missed.eraseDups.filter fun n => !resolved.contains n
  .ofRows resolved.length missed.length

/-- What comes of a flashlist, or of some of its routes. -/
structure Dispatched where
  graph : Graph
  /-- The rows looked at, where a route has counted them. -/
  tally : Option RowTally := none
  /-- What is recorded besides the rows. -/
  counts : MatchCounts := {}
  notices : List Notice := []

/-- Goes on after a route has matched the rows: gives the targets their rows and takes the outcome
    into account. Entries of lists that are about nothing are no rows that are about nothing. -/
def Dispatched.apply (d : Dispatched) (kind : Kind) (rows : List Row) (o : Outcome)
    (ofLists : Bool := false) : Dispatched :=
  let applied := applyOutcome d.graph kind rows o
  let tally : RowTally :=
    { resolved := o.resolvedRows, missed := if ofLists then [] else o.missedRows }
  let lists := if ofLists then MatchCounts.ofListEntries o.matched o.unmatched else {}
  { graph := applied.graph
    tally := some ((d.tally.getD {}).add tally)
    counts := d.counts + lists + .ofFailures applied.failed
    notices := d.notices ++ applied.notices }

/-- Takes a route. -/
def Dispatched.route (session : Session) (kind : Kind) (rows : List Row) (d : Dispatched)
    (route : Route) : Dispatched :=
  let g := d.graph
  match route with
  | .hostname pool => d.apply kind rows (.ofRows (rows.map (matchHostname g pool)))
  | .position finder => d.apply kind rows (finder.matchRows g rows)
  | .problemLists =>
    -- A FED that no row lists any more has to lose its flags.
    let o := Outcome.ofRows
      (rows.map (byIdLists problemColumns g.indexes.fedsByExpectedId .fed))
    let cleared := { g with feds := g.feds.map Fed.clearProblems }
    { d with graph := cleared }.apply kind rows o true
  | .evm =>
    if rows.length = 1 then d.apply kind rows (.ofRows [matchEvm g])
    else { d with notices := d.notices ++ [.evmRowCount rows.length] }
  | .levelZeroDynamic =>
    d.apply kind rows (.ofRows (rows.map (matchLevelZeroDynamic session)))
  | .levelZeroSubsystems =>
    d.apply kind rows (.ofRows (rows.map (matchLevelZeroSubsystem g session)))
  | .tcdsService =>
    match session.tcds? with
    | none => d
    | some (service, _) =>
      -- Without a row of the service the table still counts as looked at.
      let d :=
        if rows.any (ofService service) then d
        else { d with notices := d.notices ++ [.noServiceRow service rows.length] }
      d.apply kind rows (.ofRows (matchTcdsService service rows))
  | .ttsChannels =>
    match applyTtsChannels g session rows with
    | none => d
    | some result =>
      -- The rows are counted by the result; the tally only tells that there is something to record.
      { graph := result.graph
        tally := some (d.tally.getD {})
        counts := d.counts + .ofRows result.matched result.unmatched +
          .ofFailures result.failed
        notices := d.notices ++ result.notices }

/-- What is recorded for the flashlist; nothing where no route has counted its rows. -/
def Dispatched.recorded? (d : Dispatched) : Option MatchCounts :=
  d.tally.map fun t => t.counts + d.counts

/-! ## Flashlists -/

/-- The kind of a flashlist that is not passed over. -/
def Flashlist.dispatchKind? (f : Flashlist) : Option Kind :=
  if f.available then f.kind.filter fun kind => !f.isEmpty || kind == .evm else none

/-- Sends the rows of a flashlist on the routes of its kind. -/
def dispatch (session : Session) (g : Graph) (f : Flashlist) : Dispatched :=
  match f.dispatchKind? with
  | none => { graph := g }
  | some kind => (plan kind).foldl (Dispatched.route session kind f.rows) { graph := g }

/-- Gives rows to units by instance number. No plan does this; it is for tables whose rows do not
    tell a host. -/
def dispatchByInstance (g : Graph) (kind : Kind) (pool : InstancePool) (rows : List Row) :
    Dispatched :=
  let notices := (instanceProblems "instance" rows).map fun p =>
    Notice.noInstance p.1 "instance" p.2
  { graph := g, notices : Dispatched }.apply kind rows
    (.ofRows (rows.map (matchInstance g pool)))

end DaqMonitor

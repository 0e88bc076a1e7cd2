/-
  DaqMonitor.Proofs.Cycle.Accounting

  What is recorded for a table, row by row.

  Routes keep tallies of row numbers, and some record counts of their own. All of
  that comes to a simple account: a table adds the rows that are considered for
  its kind, those of them that no route resolves, the updates that are rejected,
  and the ids that its rows list. A row counts once, however many routes look at
  it. What is recorded are the counts of that account.

    * `Table.resolves` — the rows that are about something.
    * `Table.account`, `Table.accountByInstance` — what a table adds.
    * `Table.recorded?_eq_account`, `Table.recorded?_dispatchByInstance` — that is what
      is recorded.
-/
import DaqMonitor.Proofs.Cycle.Considered
import Mathlib.Algebra.GroupWithZero.Nat

namespace DaqMonitor

open Flashlist Matching

/-! ## The account of a table -/

section Account

variable (session : Session) (g : Graph) (kind : Kind) (rows : List Row)

/-- Whether a route resolves a row: it finds a target for it, or uses it as a channel. -/
def Route.resolves (r : Route) (n : Nat) : Bool :=
  match r with
  | ttsChannels => session.tcds?.any fun tcds => rows[n]?.any (g.uses tcds.1 rows n)
  | r => (r.matches? session g rows).any fun ms => ms[n]?.any fun m => !m.targets.isEmpty

/-- Whether a route of a table resolves a row. -/
def Table.resolves (n : Nat) : Bool := (plan kind).any (·.resolves session g rows n)

/-- Whether the update of a target with a row is rejected. -/
def Graph.rejects (t : Target) (row : Row) : Bool :=
  match g.update? t kind row with
  | some (.error _) => true
  | _ => false

/-- The targets whose update with the row that an outcome has for them is rejected. -/
def Matching.Outcome.rejected (o : Outcome) : List Target :=
  o.rowOf.keys.filter fun t => (o.given rows t).any (g.rejects kind t)

/-- The number of updates on a route that are rejected: of targets with their rows, or of partitions
    and global outputs with channels. -/
def Route.rejections (r : Route) : Nat :=
  match r with
  | ttsChannels =>
    (session.tcds?.map fun tcds =>
      (g.ttcPartitions.countP fun p =>
        (partitionAfter (Channels.ofRows rows) tcds.1 p).error.isSome) +
      (globalOutputs (Channels.ofRows rows) tcds.1).countP (·.2.error.isSome)).getD 0
  | r =>
    ((r.matches? session g rows).map fun ms =>
      ((Outcome.ofRows ms).rejected g kind rows).length).getD 0

/-- What a table adds to the counts of its kind. -/
def Table.account : Account where
  total := (considered session g kind rows).length
  missing := ((considered session g kind rows).filter (!resolves session g kind rows ·)).length
  failed := ((plan kind).map (·.rejections session g kind rows)).sum
  listEntries := (listed kind rows).length
  missingListEntries := (listed kind rows).countP (!isListed g.indexes.fedsByExpectedId ·)

end Account

/-! ## Tallies -/

section Tallies

/-- The counts of a tally, where the rows that count are known. -/
theorem RowTally.counts_eq {t : RowTally} {considered : List Nat} (hnodup : considered.Nodup)
    (hmem : ∀ n, n ∈ considered ↔ n ∈ t.resolved ∨ n ∈ t.missed) {resolves : Nat → Bool}
    (hresolves : ∀ n, n ∈ t.resolved ↔ resolves n = true) :
    t.counts
      = ({ total := considered.length
           missing := (considered.filter (!resolves ·)).length } : Account).counts := by
  -- Lists without repetition that hold the same numbers are of one length.
  have hresolved : t.resolved.eraseDups.Perm (considered.filter resolves) := by
    refine (List.perm_ext_iff_of_nodup (nodup_eraseDups _) (hnodup.filter _)).2 fun n => ?_
    rw [List.mem_eraseDups, List.mem_filter, hmem, ← hresolves]
    tauto
  have hmissed : (t.missed.eraseDups.filter fun n => !t.resolved.eraseDups.contains n).Perm
      (considered.filter (!resolves ·)) := by
    refine (List.perm_ext_iff_of_nodup ((nodup_eraseDups _).filter _) (hnodup.filter _)).2 ?_
    intro n
    rw [List.mem_filter, List.mem_filter, List.mem_eraseDups, hmem]
    have hcontains : t.resolved.eraseDups.contains n = resolves n := by
      rw [Bool.eq_iff_iff, List.contains_iff_mem, List.mem_eraseDups, hresolves]
    rw [hcontains, hresolves]
    cases resolves n <;> simp
  have hlength := considered.length_eq_length_filter_add resolves
  simp only [counts, Account.counts_ofRows, hresolved.length_eq, hmissed.length_eq, hlength]

variable (session : Session) (g : Graph) (kind : Kind) (rows : List Row)

/-- The tally of some routes is made up of their tallies. -/
theorem Table.tallyOn_eq (routes : List Route) :
    (tallyOn? session g rows routes).getD {}
      = { resolved := routes.flatMap fun r => ((r.tally? session g rows).getD {}).resolved
          missed := routes.flatMap fun r => ((r.tally? session g rows).getD {}).missed } := by
  induction routes with
  | nil => rfl
  | cons r routes ih =>
    have hadd : ∀ a b : Option RowTally, (addTally a b).getD {} = (a.getD {}).add (b.getD {}) := by
      intro a b
      cases b with
      | none => simp [addTally, RowTally.add]
      | some b => rfl
    change (addTally (r.tally? session g rows) (tallyOn? session g rows routes)).getD {} = _
    rw [hadd, ih]
    rfl

theorem Route.counts_eq_zero {r : Route} (h : r.tally? session g rows = none) :
    r.counts session g kind rows = 0 := by
  cases r with
  | ttsChannels =>
    have htcds : session.tcds? = none := Option.map_eq_none_iff.1 h
    simp only [counts, applyTtsChannels, htcds, Option.map_none]
  | _ =>
    simp only [tally?, Option.map_eq_none_iff] at h
    simp only [counts, h]

/-- Where nothing is recorded for a table, zero would have been recorded. -/
theorem Table.recorded?_getD :
    (recorded? session g kind rows).getD 0
      = ((tallyOn? session g rows (plan kind)).getD {}).counts
          + countsOn session g kind rows (plan kind) := by
  unfold recorded?
  cases htally : tallyOn? session g rows (plan kind) with
  | some t => rfl
  | none =>
    have hnone : ∀ routes, tallyOn? session g rows routes = none →
        countsOn session g kind rows routes = 0 := by
      intro routes
      induction routes with
      | nil => exact fun _ => rfl
      | cons r routes ih =>
        intro h
        change addTally (r.tally? session g rows) (tallyOn? session g rows routes) = none at h
        cases hrest : tallyOn? session g rows routes with
        | some t => simp [hrest, addTally] at h
        | none =>
          rw [hrest] at h
          rw [countsOn, List.map_cons, List.sum_cons, r.counts_eq_zero session g kind rows h, zero_add]
          exact ih hrest
    rw [hnone _ htally]
    rfl

end Tallies

/-! ## Rows of a table -/

section Rows

variable (session : Session) (g : Graph) (kind : Kind) (rows : List Row) {n : Nat}

/-- Routes are fair to rows: there are hits for a row where targets were found for it. -/
theorem Route.fair_matches {r : Route} {ms : List RowMatch} (hms : r.matches? session g rows = some ms) :
    ∀ m ∈ ms, m.Fair := by
  intro m hm
  cases r with
  | hostname pool =>
    cases hms
    obtain ⟨row, -, rfl⟩ := List.mem_map.1 hm
    cases pool <;>
    · simp only [matchHostname, byHostname]
      split
      · exact RowMatch.fair_miss
      · exact RowMatch.fair_ofTargets _
  | position finder =>
    cases hms
    obtain ⟨row, -, rfl⟩ := List.mem_map.1 hm
    exact finder.fair_matchRow _ row
  | problemLists =>
    cases hms
    obtain ⟨row, -, rfl⟩ := List.mem_map.1 hm
    exact fair_byIdLists _ _ _ row
  | evm =>
    by_cases hlength : rows.length = 1
    · rw [matches?, if_pos hlength] at hms
      cases hms
      obtain rfl := List.mem_singleton.1 hm
      exact RowMatch.fair_ofTargets _
    · rw [matches?, if_neg hlength] at hms
      cases hms
  | levelZeroDynamic =>
    cases hms
    obtain ⟨row, -, rfl⟩ := List.mem_map.1 hm
    unfold matchLevelZeroDynamic
    split
    · exact RowMatch.fair_hit (List.cons_ne_nil _ _)
    · exact RowMatch.fair_ignored
  | levelZeroSubsystems =>
    cases hms
    obtain ⟨row, -, rfl⟩ := List.mem_map.1 hm
    unfold matchLevelZeroSubsystem
    split
    · exact RowMatch.fair_ignored
    · split
      · exact RowMatch.fair_ignored
      · split
        · exact RowMatch.fair_miss
        · exact RowMatch.fair_ofTargets _
  | tcdsService =>
    obtain ⟨tcds, -, rfl⟩ := Option.map_eq_some_iff.1 hms
    unfold matchTcdsService at hm
    split at hm
    · obtain ⟨row, -, rfl⟩ := List.mem_map.1 hm
      exact RowMatch.fair_ignored
    · obtain ⟨i, hi, rfl⟩ := List.mem_mapIdx.1 hm
      split
      · exact RowMatch.fair_hit (List.cons_ne_nil _ _)
      · exact RowMatch.fair_ignored
  | ttsChannels => cases hms

theorem Route.mem_resolved {r : Route} (hr : r ≠ ttsChannels) :
    n ∈ ((r.tally? session g rows).getD {}).resolved ↔ r.resolves session g rows n = true := by
  have htally : ((r.tally? session g rows).getD {}).resolved
      = ((r.matches? session g rows).map fun ms => (Outcome.ofRows ms).resolvedRows).getD [] := by
    cases r with
    | ttsChannels => exact absurd rfl hr
    | _ =>
      simp only [tally?]
      cases matches? session g rows _ <;> rfl
  have hresolves : r.resolves session g rows n
      = (r.matches? session g rows).any fun ms => ms[n]?.any fun m => !m.targets.isEmpty := by
    cases r with
    | ttsChannels => exact absurd rfl hr
    | _ => rfl
  rw [htally, hresolves]
  cases hms : r.matches? session g rows with
  | none => simp
  | some ms =>
    rw [Option.map_some, Option.getD_some, Outcome.mem_resolvedRows, Option.any_some]
    cases hm : ms[n]? with
    | none => simp
    | some m =>
      have hfair := r.fair_matches session g rows hms m (List.mem_of_getElem? hm)
      simp only [Option.some.injEq, exists_eq_left', Option.any_some, Bool.not_eq_true',
        List.isEmpty_eq_false_iff]
      exact hfair

section Units

variable (row : Row)

theorem units_matchHostname (pool : HostPool) : (matchHostname g pool row).units = 1 := by
  cases pool <;>
  · simp only [matchHostname, byHostname]
    split <;> simp

theorem units_matchLevelZeroDynamic :
    (matchLevelZeroDynamic session row).units = if ofLevelZero session row then 1 else 0 := by
  unfold matchLevelZeroDynamic
  split <;> simp

theorem units_matchLevelZeroSubsystem :
    (matchLevelZeroSubsystem g session row).units
      = if g.sessionId.any fun sessionId => ofSession sessionId row then 1 else 0 := by
  unfold matchLevelZeroSubsystem
  cases g.sessionId with
  | none => rfl
  | some sessionId =>
    by_cases hsession : ofSession sessionId row = true
    · simp only [Option.any_some, hsession, Bool.not_true, Bool.false_eq_true, if_false, if_true]
      split <;> simp
    · simp [hsession]

/-- Of the rows of a service the first one counts. -/
theorem matchTcdsService_units (service : String) :
    (∃ m, (matchTcdsService service rows)[n]? = some m ∧ 0 < m.units) ↔
      rows.findIdx? (ofService service) = some n := by
  unfold matchTcdsService
  cases hfind : rows.findIdx? (ofService service) with
  | none =>
    simp only [List.getElem?_map]
    cases rows[n]? <;> simp
  | some i =>
    have hlt := (List.findIdx?_eq_some_iff_getElem.1 hfind).1
    simp only [List.getElem?_mapIdx, Option.some.injEq]
    constructor
    · rintro ⟨m, hm, hunits⟩
      obtain ⟨row, -, rfl⟩ := Option.map_eq_some_iff.1 hm
      by_contra hne
      rw [if_neg (Ne.symm hne)] at hunits
      simp at hunits
    · rintro rfl
      rw [List.getElem?_eq_getElem hlt]
      exact ⟨_, rfl, by simp⟩

end Units

/-- The rows that a route tallies are those that it counts. -/
theorem Route.mem_resolved_or_missed {r : Route} (hlists : r ≠ problemLists)
    (hchannels : r ≠ ttsChannels) :
    n ∈ ((r.tally? session g rows).getD {}).resolved ∨
        n ∈ ((r.tally? session g rows).getD {}).missed ↔
      ∃ row, rows[n]? = some row ∧ r.considers session g rows n row = true := by
  cases r with
  | hostname pool =>
    refine Outcome.mem_resolvedRows_or_missedRows_map.trans (exists_congr fun row => ?_)
    simp [units_matchHostname, considers]
  | position finder =>
    refine Outcome.mem_resolvedRows_or_missedRows_map.trans (exists_congr fun row => ?_)
    simp [Finder.units_matchRow, considers]
  | levelZeroDynamic =>
    refine Outcome.mem_resolvedRows_or_missedRows_map.trans (exists_congr fun row => ?_)
    rw [units_matchLevelZeroDynamic, considers]
    split <;> simp_all
  | levelZeroSubsystems =>
    refine Outcome.mem_resolvedRows_or_missedRows_map.trans (exists_congr fun row => ?_)
    rw [units_matchLevelZeroSubsystem, considers]
    split <;> simp_all
  | evm =>
    by_cases hlength : rows.length = 1
    · obtain ⟨row, rfl⟩ := List.length_eq_one_iff.1 hlength
      have hmatches : matches? session g [row] .evm = some ([row].map fun _ => matchEvm g) := rfl
      simp only [tally?, hmatches]
      refine Outcome.mem_resolvedRows_or_missedRows_map.trans (exists_congr fun row => ?_)
      simp [matchEvm, considers]
    · have hmatches : matches? session g rows .evm = none := if_neg hlength
      simp [tally?, hmatches, considers, hlength]
  | tcdsService =>
    cases htcds : session.tcds? with
    | none => simp [tally?, matches?, considers, htcds]
    | some tcds =>
      simp only [tally?, matches?, considers, htcds, Option.map_some, Option.any_some,
        decide_eq_true_eq]
      refine (Outcome.mem_resolvedRows_or_missedRows.trans
        (matchTcdsService_units rows tcds.1)).trans ?_
      constructor
      · intro hfind
        have hlt := (List.findIdx?_eq_some_iff_getElem.1 hfind).1
        exact ⟨rows[n], List.getElem?_eq_getElem hlt, hfind⟩
      · rintro ⟨row, -, hfind⟩
        exact hfind
  | problemLists => exact absurd rfl hlists
  | ttsChannels => exact absurd rfl hchannels

end Rows

/-! ## Whole tables -/

section Tables

variable (session : Session) (g : Graph) {kind : Kind} (rows : List Row) {n : Nat}

theorem ne_ttsChannels_of_mem_plan (hkind : kind ≠ .tcdsTtsChannels) {r : Route}
    (hplan : r ∈ plan kind) : r ≠ .ttsChannels := by
  rintro rfl
  exact hkind (kind_of_ttsChannels_mem_plan hplan)

theorem Table.mem_tally_resolved (hkind : kind ≠ .tcdsTtsChannels) :
    n ∈ ((tallyOn? session g rows (plan kind)).getD {}).resolved ↔
      resolves session g kind rows n = true := by
  rw [tallyOn_eq, List.mem_flatMap, resolves, List.any_eq_true]
  refine exists_congr fun r => and_congr_right fun hplan => ?_
  exact r.mem_resolved session g rows (ne_ttsChannels_of_mem_plan hkind hplan)

/-- The rows that are tallied are those that count. -/
theorem Table.mem_considered_iff_tally (hkind : kind ≠ .tcdsTtsChannels) :
    n ∈ considered session g kind rows ↔
      n ∈ ((tallyOn? session g rows (plan kind)).getD {}).resolved ∨
        n ∈ ((tallyOn? session g rows (plan kind)).getD {}).missed := by
  rw [mem_considered, tallyOn_eq, List.mem_flatMap, List.mem_flatMap]
  constructor
  · rintro ⟨row, hrow, hconsiders⟩
    obtain ⟨r, hplan, hlists⟩ := exists_mem_plan hconsiders
    rw [considers_iff hplan] at hconsiders
    have hchannels := ne_ttsChannels_of_mem_plan hkind hplan
    rcases (r.mem_resolved_or_missed session g rows hlists hchannels).2 ⟨row, hrow, hconsiders⟩
      with hresolved | hmissed
    · exact .inl ⟨r, hplan, hresolved⟩
    · exact .inr ⟨r, hplan, hmissed⟩
  · intro h
    obtain ⟨r, hplan, hn⟩ : ∃ r ∈ plan kind,
        n ∈ ((r.tally? session g rows).getD {}).resolved ∨
          n ∈ ((r.tally? session g rows).getD {}).missed := by
      rcases h with ⟨r, hplan, hn⟩ | ⟨r, hplan, hn⟩
      · exact ⟨r, hplan, .inl hn⟩
      · exact ⟨r, hplan, .inr hn⟩
    simp only [considers_iff hplan]
    by_cases hlists : r = .problemLists
    · subst hlists
      rcases hn with hresolved | hmissed
      · obtain ⟨m, hm, -⟩ := Outcome.mem_resolvedRows.1 hresolved
        rw [List.getElem?_map] at hm
        obtain ⟨row, hrow, -⟩ := Option.map_eq_some_iff.1 hm
        exact ⟨row, hrow, rfl⟩
      · -- No row is missed by its lists.
        simp [Route.tally?, Route.matches?] at hmissed
    · have hchannels := ne_ttsChannels_of_mem_plan hkind hplan
      exact (r.mem_resolved_or_missed session g rows hlists hchannels).1 hn

theorem Graph.refuses_eq_rejects (t : Target) (row : Row) :
    g.refuses kind t row = g.rejects kind t row := by
  unfold refuses rejects
  cases he : (g.entities t.sort)[t.place]? with
  | none => simp [update?_of_none he]
  | some e =>
    cases hupdate : t.sort.update e kind row with
    | ok e' => simp [update?_of_ok he hupdate, TargetSort.refuses, hupdate]
    | error error => simp [update?_of_error he hupdate, TargetSort.refuses, hupdate]

/-- The refusals of an outcome are its updates that are rejected. -/
theorem Matching.Outcome.refusals_eq (o : Outcome) :
    o.refusals g kind rows = (o.rejected g kind rows).length := by
  have hrejects : g.refuses kind = g.rejects kind := by
    funext t row
    exact g.refuses_eq_rejects t row
  unfold refusals rejected SortedMap.keys
  rw [hrejects, ← List.countP_eq_length_filter, List.countP_map]
  refine List.countP_congr fun e he => ?_
  have hgiven : o.given rows e.1 = rows[e.2]? := by
    rw [given, rowFor?, SortedMap.mem_entries_iff.1 he, Option.bind_some]
  rw [Function.comp_apply, hgiven]

theorem Route.counts_eq {r : Route} (hlists : r ≠ problemLists) (hchannels : r ≠ ttsChannels) :
    r.counts session g kind rows
      = ({ failed := r.rejections session g kind rows } : Account).counts := by
  have hcounts : r.counts session g kind rows
      = ((r.matches? session g rows).map fun ms =>
          .ofFailures ((Outcome.ofRows ms).refusals g kind rows)).getD 0 := by
    cases r with
    | problemLists => exact absurd rfl hlists
    | ttsChannels => exact absurd rfl hchannels
    | _ =>
      simp only [counts]
      cases matches? session g rows _ with
      | none => rfl
      | some ms => exact zero_add _
  have hrejections : r.rejections session g kind rows
      = ((r.matches? session g rows).map fun ms =>
          (Outcome.ofRows ms).refusals g kind rows).getD 0 := by
    simp only [Outcome.refusals_eq]
    cases r with
    | ttsChannels => exact absurd rfl hchannels
    | _ => rfl
  rw [hcounts, hrejections]
  cases r.matches? session g rows <;> rfl

/-- What the lists of a table record besides the rows. -/
theorem Route.counts_problemLists :
    problemLists.counts session g .ru rows
      = ({ failed := problemLists.rejections session g .ru rows
           listEntries := (Table.listed .ru rows).length
           missingListEntries :=
             (Table.listed .ru rows).countP (!isListed g.indexes.fedsByExpectedId ·) } :
          Account).counts := by
  have hlength := (rows.flatMap (listedIds problemColumns)).length_eq_countP_add_countP
    (isListed g.indexes.fedsByExpectedId)
  simp only [counts, rejections, matches?, if_true, Option.map_some, Option.getD_some,
    Outcome.refusals_eq, matched_byIdLists, unmatched_byIdLists, Account.counts_ofListEntries,
    Account.counts_ofFailures, ← Account.counts_add, Table.listed_ru]
  refine congrArg Account.counts ?_
  ext <;> simp [hlength]

/-- What the routes of a table record besides the rows. -/
theorem Table.countsOn_plan (hkind : kind ≠ .tcdsTtsChannels) :
    countsOn session g kind rows (plan kind)
      = ({ failed := ((plan kind).map (·.rejections session g kind rows)).sum
           listEntries := (listed kind rows).length
           missingListEntries :=
             (listed kind rows).countP (!isListed g.indexes.fedsByExpectedId ·) } :
          Account).counts := by
  have hroutes : ∀ routes : List Route, (∀ r ∈ routes, r ≠ .problemLists ∧ r ≠ .ttsChannels) →
      countsOn session g kind rows routes
        = ({ failed := (routes.map (·.rejections session g kind rows)).sum } : Account).counts := by
    intro routes
    induction routes with
    | nil => exact fun _ => rfl
    | cons r routes ih =>
      intro hplain
      obtain ⟨hlists, hchannels⟩ := hplain r List.mem_cons_self
      have hrest := ih fun r' hr' => hplain r' (List.mem_cons_of_mem r hr')
      unfold countsOn at hrest ⊢
      rw [List.map_cons, List.sum_cons, hrest, r.counts_eq session g rows hlists hchannels,
        List.map_cons, List.sum_cons]
      exact (Account.counts_add _ _).symm
  -- Of all kinds the readout units alone have a route with counts of its own.
  by_cases hru : kind = .ru
  · subst hru
    have hhostname : (Route.hostname .rus).counts session g .ru rows
        = ({ failed := (Route.hostname .rus).rejections session g .ru rows } : Account).counts :=
      Route.counts_eq session g rows (by simp) (by simp)
    simp only [countsOn, plan, List.map_cons, List.map_nil, List.sum_cons, List.sum_nil, hhostname,
      Route.counts_problemLists, add_zero, ← Account.counts_add]
    refine congrArg Account.counts ?_
    ext <;> simp
  · have hlisted : listed kind rows = [] := if_neg hru
    have hplain : ∀ r ∈ plan kind, r ≠ .problemLists ∧ r ≠ .ttsChannels := by
      intro r hplan
      refine ⟨?_, ne_ttsChannels_of_mem_plan hkind hplan⟩
      rintro rfl
      exact hru (kind_of_problemLists_mem_plan hplan)
    rw [hroutes _ hplain, hlisted]
    rfl

/-- The rows of a table of TTS channels that count and are used. -/
theorem Table.usedRows_perm {service context : String}
    (htcds : session.tcds? = some (service, context)) :
    (g.usedRows service rows).Perm
      ((considered session g .tcdsTtsChannels rows).filter
        (resolves session g .tcdsTtsChannels rows)) := by
  refine (List.perm_ext_iff_of_nodup (g.nodup_usedRows service rows)
    ((nodup_considered session g .tcdsTtsChannels rows).filter _)).2 fun n => ?_
  have hresolves : resolves session g .tcdsTtsChannels rows n
      = rows[n]?.any (g.uses service rows n) := by
    simp [resolves, plan, Route.resolves, htcds]
  rw [g.mem_usedRows, List.mem_filter, mem_considered, hresolves, Option.any_eq_true]
  constructor
  · rintro ⟨row, hrow, huses⟩
    refine ⟨⟨row, hrow, ?_⟩, row, hrow, huses⟩
    rw [considers_iff (r := .ttsChannels) List.mem_cons_self, Route.considers, htcds]
    exact isChannelOf_of_uses g service rows huses
  · exact fun h => h.2

/-- What is recorded for a table of TTS channels. -/
theorem Table.recorded?_channels :
    (recorded? session g .tcdsTtsChannels rows).getD 0
      = (account session g .tcdsTtsChannels rows).counts := by
  have hlisted : listed .tcdsTtsChannels rows = [] := rfl
  have hplan : plan .tcdsTtsChannels = [.ttsChannels] := rfl
  have hrows := considered_eq session g .tcdsTtsChannels rows (r := .ttsChannels) List.mem_cons_self
  cases htcds : session.tcds? with
  | none =>
    have hconsidered : considered session g .tcdsTtsChannels rows = [] := by
      simp [hrows, Route.considers, htcds]
    have hrecorded : recorded? session g .tcdsTtsChannels rows = none := by
      simp [recorded?, tallyOn?, hplan, Route.tally?, htcds, addTally]
    rw [hrecorded, account, hconsidered, hlisted, hplan]
    simp [Route.rejections, htcds]
    rfl
  | some tcds =>
    obtain ⟨service, context⟩ := tcds
    obtain ⟨result, hresult, hmatched, hunmatched, hfailed⟩ :=
      applyTtsChannels_counts session rows htcds g
    have hrecorded : recorded? session g .tcdsTtsChannels rows
        = some (.ofRows 0 0 + (.ofRows result.matched result.unmatched +
            .ofFailures result.failed + 0)) := by
      simp only [recorded?, tallyOn?, countsOn, hplan, List.foldr_cons, List.foldr_nil, List.map_cons,
        List.map_nil, List.sum_cons, List.sum_nil, Route.tally?, Route.counts, htcds, hresult]
      rfl
    have hconsidered : ((Channels.ofRows rows).ofService service).length
        = (considered session g .tcdsTtsChannels rows).length := by
      have hnumbers := congrArg List.length (Channels.numbers_ofService rows service)
      simpa [hrows, Route.considers, htcds] using hnumbers
    have hused : (g.usedRows service rows).length
        = ((considered session g .tcdsTtsChannels rows).filter
            (resolves session g .tcdsTtsChannels rows)).length :=
      (usedRows_perm session g rows htcds).length_eq
    have hlength := (considered session g .tcdsTtsChannels rows).length_eq_length_filter_add
      (resolves session g .tcdsTtsChannels rows)
    change result.matched = (g.usedRows service rows).length at hmatched
    change result.unmatched = _ - (g.usedRows service rows).length at hunmatched
    have hrejections : Route.rejections session g .tcdsTtsChannels rows .ttsChannels
        = result.failed := by
      simp [Route.rejections, htcds, hfailed, List.countP_map, Function.comp_def]
    rw [hrecorded, Option.getD_some]
    simp only [Account.counts_ofRows, Account.counts_ofFailures, add_zero, ← Account.counts_add]
    -- Rows that are not used are missing, for no more rows are used than count.
    refine congrArg Account.counts ?_
    ext
    · simp only [account, Account.add_total]
      omega
    · simp only [account, Account.add_missing]
      omega
    · simp [account, hplan, hrejections]
    · rfl
    · rfl

/-- What is recorded for a table is its account. -/
theorem Table.recorded?_eq_account :
    (recorded? session g kind rows).getD 0 = (account session g kind rows).counts := by
  by_cases hkind : kind = .tcdsTtsChannels
  · subst hkind
    exact recorded?_channels session g rows
  · have hcounts := RowTally.counts_eq (nodup_considered session g kind rows)
      (fun n => mem_considered_iff_tally session g rows hkind)
      (fun n => mem_tally_resolved session g rows hkind)
    rw [recorded?_getD, hcounts, countsOn_plan session g rows hkind, ← Account.counts_add]
    refine congrArg Account.counts ?_
    ext <;> simp [account]

/-- An account has no more misses than rows, or ids. -/
theorem Table.sound_account (kind : Kind) : (account session g kind rows).Sound :=
  ⟨List.length_filter_le _ _, List.countP_le_length⟩

end Tables

/-! ## Rows by instance number -/

section Instances

variable (g : Graph) (kind : Kind) (pool : InstancePool) (rows : List Row)

/-- What a table adds whose rows are matched by instance number. All of its rows count. -/
def Table.accountByInstance : Account where
  total := rows.length
  missing := rows.countP fun row => (matchInstance g pool row).targets.isEmpty
  failed := ((Outcome.ofRows (rows.map (matchInstance g pool))).rejected g kind rows).length

theorem fair_matchInstance (row : Row) : (matchInstance g pool row).Fair := by
  cases pool <;>
  · simp only [matchInstance, byInstance]
    split
    · exact RowMatch.fair_miss
    · exact RowMatch.fair_ofTargets _

theorem units_matchInstance (row : Row) : (matchInstance g pool row).units = 1 := by
  cases pool <;>
  · simp only [matchInstance, byInstance]
    split <;> simp

/-- The counts of the rows of such a table. -/
theorem counts_byInstance :
    let o := Outcome.ofRows (rows.map (matchInstance g pool))
    RowTally.counts { resolved := o.resolvedRows, missed := o.missedRows }
      = ({ total := rows.length
           missing := rows.countP fun row => (matchInstance g pool row).targets.isEmpty } :
          Account).counts := by
  intro o
  -- The tally goes by the numbers of the rows, the account by the rows themselves.
  let resolves : Nat → Bool := fun n =>
    rows[n]?.any fun row => !(matchInstance g pool row).targets.isEmpty
  have hmem : ∀ n, n ∈ List.range rows.length ↔ n ∈ o.resolvedRows ∨ n ∈ o.missedRows := by
    intro n
    rw [Outcome.mem_resolvedRows_or_missedRows_map, List.mem_range]
    simp [units_matchInstance, List.getElem?_eq_some_iff]
  have hresolves : ∀ n, n ∈ o.resolvedRows ↔ resolves n = true := by
    intro n
    rw [Outcome.mem_resolvedRows_map, Option.any_eq_true]
    refine exists_congr fun row => and_congr_right fun _ => (fair_matchInstance g pool row).trans ?_
    rw [Bool.not_eq_true', List.isEmpty_eq_false_iff]
  have hmissing : ((List.range rows.length).filter (!resolves ·)).length
      = rows.countP fun row => (matchInstance g pool row).targets.isEmpty := by
    rw [← length_numbers rows fun row => (matchInstance g pool row).targets.isEmpty]
    refine List.Perm.length_eq ?_
    refine (List.perm_ext_iff_of_nodup (List.nodup_range.filter _) nodup_numbers).2 fun n => ?_
    rw [List.mem_filter, List.mem_range, mem_numbers]
    by_cases hn : n < rows.length
    · simp [resolves, hn]
    · simp [hn]
  rw [RowTally.counts_eq List.nodup_range hmem hresolves, hmissing, List.length_range]

/-- What is recorded for such a table is its account. -/
theorem Table.recorded?_dispatchByInstance :
    (dispatchByInstance g kind pool rows).recorded?.getD 0
      = (accountByInstance g kind pool rows).counts := by
  let ms := rows.map (matchInstance g pool)
  let d : Dispatched :=
    { graph := g, notices := (instanceProblems "instance" rows).map fun p =>
        Notice.noInstance p.1 "instance" p.2 }
  have hafter : d.After (d.apply kind rows (.ofRows ms)) _ _ _ := d.after_apply kind rows ms
  have hrecorded : (d.apply kind rows (.ofRows ms)).recorded?.getD 0
      = RowTally.counts { resolved := (Outcome.ofRows ms).resolvedRows
                          missed := (Outcome.ofRows ms).missedRows } +
        ({ failed := ((Outcome.ofRows ms).rejected g kind rows).length } : Account).counts := by
    have hnone : d.counts = 0 := rfl
    rw [Dispatched.recorded?, hafter.tally, hafter.counts, Outcome.refusals_eq, hnone, zero_add,
      zero_add]
    rfl
  change (d.apply kind rows (.ofRows ms)).recorded?.getD 0 = _
  rw [hrecorded, counts_byInstance, ← Account.counts_add]
  refine congrArg Account.counts ?_
  ext <;> simp [accountByInstance, ms]

/-- Neither has such an account more misses than rows. -/
theorem Table.sound_accountByInstance : (accountByInstance g kind pool rows).Sound :=
  ⟨List.countP_le_length, Nat.le_refl 0⟩

end Instances

end DaqMonitor

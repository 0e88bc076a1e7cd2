/-
  DaqMonitor.Proofs.Cycle.Ledger

  The counts of a monitor over any run.

  Each flashlist that is dispatched adds its account to the counts of its kind and
  nothing to those of other kinds; some flashlists add theirs one after the other,
  each on the graph that it finds. A ledger keeps what all of them have added since
  the start. The counts are those of the ledger, which has no more misses than rows;
  neither have the counts, as long as the rows in the ledger are fewer than `2 ^ 64`.

    * `Monitor.account m f kind` — what a flashlist adds.
    * `Monitor.Reachable` — the monitors that there can be, each with its ledger.
    * `Monitor.stats_exact` — the counts are exact, and have no more misses than rows.
-/
import DaqMonitor.Proofs.Cycle.Accounting
import DaqMonitor.Proofs.Cycle.Tables

namespace DaqMonitor

open Flashlist Matching

namespace Monitor

/-! ## Flashlists -/

/-- What a flashlist adds to the counts of a kind. -/
def account (m : Monitor) (f : Flashlist) (kind : Kind) : Account :=
  if f.dispatchKind? = some kind then Table.account m.session m.graph kind f.rows else 0

/-- What some flashlists, one after the other, add to the counts of a kind. -/
def accounts (kind : Kind) : Monitor → List Flashlist → Account
  | _, [] => 0
  | m, f :: rest => m.account f kind + accounts kind (m.dispatch f).1 rest

section Flashlists

variable (m : Monitor)

theorem stats_after (kind : Kind) (d : Dispatched) (kind' : Kind) :
    (m.after kind d).stats.of kind'
      = m.stats.of kind' + if kind' = kind then d.recorded?.getD 0 else 0 :=
  m.stats.of_record? kind d.recorded? kind'

/-- A flashlist adds its account to the counts. -/
theorem stats_dispatch (f : Flashlist) (kind : Kind) :
    (m.dispatch f).1.stats.of kind = m.stats.of kind + (m.account f kind).counts := by
  unfold dispatch account
  cases hkind : f.dispatchKind? with
  | none => exact (add_zero _).symm
  | some k =>
    have hrecorded : ((DaqMonitor.dispatch m.session m.graph f).recorded?).getD 0
        = (Table.account m.session m.graph k f.rows).counts := by
      rw [dispatch_recorded? m.session m.graph hkind]
      exact Table.recorded?_eq_account m.session m.graph f.rows
    simp only [stats_after, hrecorded, Option.some.injEq]
    by_cases heq : kind = k
    · subst heq
      simp
    · simp [heq, Ne.symm heq, Account.counts_zero]

/-- For a table of the event manager that has not one row nothing is recorded. -/
theorem stats_dispatch_evm {f : Flashlist} (hkind : f.dispatchKind? = some .evm)
    (hlength : f.rows.length ≠ 1) : (m.dispatch f).1.stats = m.stats := by
  have hrecorded : (DaqMonitor.dispatch m.session m.graph f).recorded? = none := by
    rw [dispatch_recorded? m.session m.graph hkind]
    simp [Table.recorded?, Table.tallyOn?, plan, Route.tally?, Route.matches?, hlength, addTally]
  simp only [dispatch, hkind, after, hrecorded]

/-- Flashlists add their accounts, each on the graph that it finds. -/
theorem stats_dispatchAll (flashlists : List Flashlist) (kind : Kind) :
    (m.dispatchAll flashlists).1.stats.of kind
      = m.stats.of kind + (accounts kind m flashlists).counts := by
  rw [dispatchAll_eq_foldl]
  induction flashlists generalizing m with
  | nil => exact (add_zero _).symm
  | cons f rest ih =>
    rw [List.foldl_cons, ih, stats_dispatch, add_assoc, accounts, Account.counts_add]

/-- A cycle adds the accounts of its flashlists, in the order in which they are dispatched. -/
theorem stats_runCycle (flashlists : List Flashlist) (time : UInt64) (kind : Kind) :
    (m.runCycle flashlists time).1.stats.of kind
      = m.stats.of kind + (accounts kind m (inOrder flashlists)).counts :=
  m.stats_dispatchAll (inOrder flashlists) kind

theorem stats_resetTargets (targets : List Target) : (m.resetTargets targets).1.stats = m.stats := by
  have hreset : ∀ (m : Monitor) (t : Target), (m.resetTarget t).1.stats = m.stats := by
    intro m t
    unfold resetTarget
    cases m.graph.reset? t <;> rfl
  have hfst : (m.resetTargets targets).1
      = targets.foldl (fun m target => (m.resetTarget target).1) m :=
    (List.foldl_hom Prod.fst fun _ _ => rfl).symm
  rw [hfst]
  clear hfst
  induction targets generalizing m with
  | nil => rfl
  | cons t rest ih => rw [List.foldl_cons, ih, hreset]

end Flashlists

/-! ## Runs -/

/-- The monitors that there can be, with what has been added to each kind: one starts on any graph,
    without counts, and goes on by cycles, by single flashlists, by tables whose rows are matched by
    instance number, by resets, and by other filters for its session. -/
inductive Reachable : Monitor → (Kind → Account) → Prop
  | start (graph : Graph) (session : Session) : Reachable { graph, session } fun _ => 0
  | runCycle {m : Monitor} {ledger : Kind → Account} (flashlists : List Flashlist) (time : UInt64) :
    Reachable m ledger → Reachable (m.runCycle flashlists time).1 fun kind =>
      ledger kind + accounts kind m (inOrder flashlists)
  | dispatch {m : Monitor} {ledger : Kind → Account} (f : Flashlist) :
    Reachable m ledger → Reachable (m.dispatch f).1 fun kind => ledger kind + m.account f kind
  | dispatchByInstance {m : Monitor} {ledger : Kind → Account} (kind : Kind) (pool : InstancePool)
      (rows : List Row) :
    Reachable m ledger →
      Reachable (m.after kind (DaqMonitor.dispatchByInstance m.graph kind pool rows)) fun kind' =>
        ledger kind' +
          if kind' = kind then Table.accountByInstance m.graph kind pool rows else 0
  | resetTargets {m : Monitor} {ledger : Kind → Account} (targets : List Target) :
    Reachable m ledger → Reachable (m.resetTargets targets).1 ledger
  | withSession {m : Monitor} {ledger : Kind → Account} (session : Session) :
    Reachable m ledger → Reachable { m with session } ledger

section Runs

variable (m : Monitor)

theorem sound_account (f : Flashlist) (kind : Kind) : (m.account f kind).Sound := by
  unfold account
  split
  · exact Table.sound_account m.session m.graph f.rows kind
  · exact Account.sound_zero

theorem sound_accounts (kind : Kind) (flashlists : List Flashlist) :
    (accounts kind m flashlists).Sound := by
  induction flashlists generalizing m with
  | nil => exact Account.sound_zero
  | cons f rest ih => exact (m.sound_account f kind).add (ih _)

variable {m} {ledger : Kind → Account}

/-- A ledger has no more misses than rows, or ids. -/
theorem Reachable.sound (h : m.Reachable ledger) (kind : Kind) : (ledger kind).Sound := by
  -- The induction is on how the monitor was reached; every step adds a sound account, or none.
  induction h with
  | start graph session => exact Account.sound_zero
  | @runCycle m ledger flashlists time _ ih => exact ih.add (m.sound_accounts kind _)
  | @dispatch m ledger f _ ih => exact ih.add (m.sound_account f kind)
  | @dispatchByInstance m ledger kind' pool rows _ ih =>
    refine ih.add ?_
    split
    · exact Table.sound_accountByInstance m.graph kind' pool rows
    · exact Account.sound_zero
  | resetTargets targets _ ih => exact ih
  | withSession session _ ih => exact ih

/-- The counts of a monitor are those of its ledger. -/
theorem Reachable.stats_eq (h : m.Reachable ledger) (kind : Kind) :
    m.stats.of kind = (ledger kind).counts := by
  -- Counts are added up as accounts are (`counts_add`), so every step keeps the equation.
  induction h with
  | start graph session => rfl
  | runCycle flashlists time _ ih => rw [stats_runCycle, ih, Account.counts_add]
  | dispatch f _ ih => rw [stats_dispatch, ih, Account.counts_add]
  | dispatchByInstance kind' pool rows _ ih =>
    rw [stats_after, ih, Account.counts_add, Table.recorded?_dispatchByInstance]
    split <;> rfl
  | resetTargets targets _ ih => rw [stats_resetTargets, ih]
  | withSession session _ ih => exact ih

/-- The counts are exact over every run. A flashlist adds its account to the counts of its kind, and
    a table of the event manager that has not one row leaves no trace; flashlists one after the
    other add their accounts. So the counts are those of everything that was added, up to multiples
    of `2 ^ 64`. While there are fewer rows than that, there are never more misses than rows, and all
    rows are matched or missing; while there are fewer listed ids, no more of them are missing. -/
theorem stats_exact :
    (∀ (m : Monitor) (f : Flashlist) (kind : Kind),
      (m.dispatch f).1.stats.of kind = m.stats.of kind + (m.account f kind).counts) ∧
    (∀ (m : Monitor) (f : Flashlist), f.dispatchKind? = some .evm → f.rows.length ≠ 1 →
      (m.dispatch f).1.stats = m.stats) ∧
    (∀ (m : Monitor) (flashlists : List Flashlist) (kind : Kind),
      (m.dispatchAll flashlists).1.stats.of kind
        = m.stats.of kind + (accounts kind m flashlists).counts) ∧
    ∀ (m : Monitor) (ledger : Kind → Account), m.Reachable ledger → ∀ kind : Kind,
      m.stats.of kind = (ledger kind).counts ∧
      ((ledger kind).total < UInt64.size →
        (m.stats.of kind).missing ≤ (m.stats.of kind).total ∧
        (m.stats.of kind).matched.toNat + (m.stats.of kind).missing.toNat
          = (m.stats.of kind).total.toNat) ∧
      ((ledger kind).listEntries < UInt64.size →
        (m.stats.of kind).missingListEntries ≤ (m.stats.of kind).listEntries) := by
  refine ⟨stats_dispatch, fun m f => m.stats_dispatch_evm, stats_dispatchAll, ?_⟩
  intro m ledger hm kind
  have hsound := hm.sound kind
  rw [hm.stats_eq kind]
  exact ⟨rfl, fun hfits => ⟨hsound.missing_le hfits, hsound.matched_add_missing hfits⟩,
    hsound.missingListEntries_le⟩

/-- Of two rows of builder units one is on no known host, and the other is rejected for want of its
    columns. -/
theorem stats_exact_rejected_row :
    let m : Monitor :=
      { graph := Graph.indexed { uid := ⟨1⟩, bus := [{ uid := ⟨2⟩, hostname := "bu-1" }] }
        session := {} }
    let f : Flashlist := .ofKind .bu
      [.object [("context", .text "http://bu-1:1972")], .object [("context", .text "bu-9:1972")]]
    let evm : Flashlist := .ofKind .evm []
    let ledger : Kind → Account := fun kind => 0 + m.account f kind
    evm.dispatchKind? = some .evm ∧ evm.rows.length ≠ 1 ∧ (m.dispatch evm).1.stats = m.stats ∧
      m.account f .bu = { total := 2, missing := 1, failed := 1 } ∧
      (m.dispatch f).1.stats.of .bu = m.stats.of .bu + (m.account f .bu).counts ∧
      (m.dispatch f).1.Reachable ledger ∧ (ledger .bu).total < UInt64.size ∧
      (ledger .bu).listEntries < UInt64.size ∧
      ((m.dispatch f).1.stats.of .bu).missing ≤ ((m.dispatch f).1.stats.of .bu).total ∧
      ((m.dispatch f).1.stats.of .bu).missingListEntries
        ≤ ((m.dispatch f).1.stats.of .bu).listEntries ∧
      ((m.dispatch f).1.stats.of .bu).matched.toNat
          + ((m.dispatch f).1.stats.of .bu).missing.toNat
        = ((m.dispatch f).1.stats.of .bu).total.toNat ∧
      ((m.dispatch f).1.stats.of .bu).matched = 1 := by
  intro m f evm ledger
  obtain ⟨hstep, hevm, -, hrun⟩ := stats_exact
  have hkind : evm.dispatchKind? = some .evm := rfl
  have hlength : evm.rows.length ≠ 1 := by decide
  have hreachable : (m.dispatch f).1.Reachable ledger := .dispatch f (.start m.graph m.session)
  have haccount : m.account f .bu = { total := 2, missing := 1, failed := 1 } := by decide
  have hledger : ledger .bu = { total := 2, missing := 1, failed := 1 } := by
    simp only [ledger, haccount]
    rfl
  have hrows : (ledger .bu).total < UInt64.size := by rw [hledger]; decide
  have hentries : (ledger .bu).listEntries < UInt64.size := by rw [hledger]; decide
  obtain ⟨hcounts, hmisses, hmissingEntries⟩ := hrun _ ledger hreachable .bu
  have hmatched : ((m.dispatch f).1.stats.of .bu).matched = 1 := by
    rw [hcounts, hledger]
    rfl
  exact ⟨hkind, hlength, hevm m evm hkind hlength, haccount, hstep m f .bu, hreachable, hrows,
    hentries, (hmisses hrows).1, hmissingEntries hentries, (hmisses hrows).2, hmatched⟩

end Runs

end Monitor

end DaqMonitor

/-
  DaqMonitor.Proofs.Cycle.MatchStats

  Adding up counts.

  Counts form a commutative monoid, and so what was recorded for a kind is a sum.
  Records for different kinds do not get into each other's way.

  The counts wrap around. What they should say is an account, with numbers of any
  size: counts are those of an account as long as its numbers fit 64 bits, and up
  to multiples of `2 ^ 64` after that. That there are no more misses than rows is
  a fact of accounts, and one of counts only while the rows fit.

    * `Account.counts_add` — counts add up as accounts do.
    * `Account.Sound.missing_le`, `Account.Sound.matched_add_missing` — no more misses
      than rows.
    * `MatchStats.of_record?` — the counts of each kind after a record.
    * `MatchStats.recordFailures_record` — refusals may be recorded apart.
    * `MatchStats.record?_comm` — records for different kinds change places.
-/
import DaqMonitor.Cycle.MatchStats
import DaqMonitor.Proofs.SortedMap.Lookup
import Mathlib.Algebra.Group.Defs

namespace DaqMonitor

open Flashlist

/-! ## Counts -/

namespace MatchCounts

@[ext] theorem ext {a b : MatchCounts} (htotal : a.total = b.total) (hmissing : a.missing = b.missing)
    (hfailed : a.failed = b.failed) (hentries : a.listEntries = b.listEntries)
    (hmissingEntries : a.missingListEntries = b.missingListEntries) : a = b := by
  cases a; cases b
  simp_all

instance : Zero MatchCounts := ⟨{}⟩

instance : AddCommMonoid MatchCounts where
  add_assoc a b c := by apply ext <;> exact UInt64.add_assoc _ _ _
  zero_add a := by apply ext <;> exact UInt64.zero_add _
  add_zero a := by apply ext <;> exact UInt64.add_zero _
  add_comm a b := by apply ext <;> exact UInt64.add_comm _ _
  nsmul := nsmulRec

end MatchCounts

/-! ## Accounts -/

/-- Counts that do not wrap around. -/
@[ext] structure Account where
  total : Nat := 0
  missing : Nat := 0
  failed : Nat := 0
  listEntries : Nat := 0
  missingListEntries : Nat := 0
  deriving DecidableEq, Repr

namespace Account

instance : Zero Account := ⟨{}⟩

/-- Two accounts together. -/
instance : Add Account where
  add a b :=
    { total := a.total + b.total
      missing := a.missing + b.missing
      failed := a.failed + b.failed
      listEntries := a.listEntries + b.listEntries
      missingListEntries := a.missingListEntries + b.missingListEntries }

section Fields

variable (a b : Account)

@[simp] theorem add_total : (a + b).total = a.total + b.total := rfl

@[simp] theorem add_missing : (a + b).missing = a.missing + b.missing := rfl

@[simp] theorem add_failed : (a + b).failed = a.failed + b.failed := rfl

@[simp] theorem add_listEntries : (a + b).listEntries = a.listEntries + b.listEntries := rfl

@[simp] theorem add_missingListEntries :
    (a + b).missingListEntries = a.missingListEntries + b.missingListEntries := rfl

end Fields

/-- The counts of an account, wrapped around. -/
def counts (a : Account) : MatchCounts :=
  { total := .ofNat a.total
    missing := .ofNat a.missing
    failed := .ofNat a.failed
    listEntries := .ofNat a.listEntries
    missingListEntries := .ofNat a.missingListEntries }

theorem counts_zero : (0 : Account).counts = 0 := rfl

theorem counts_add (a b : Account) : (a + b).counts = a.counts + b.counts := by
  apply MatchCounts.ext <;> exact UInt64.ofNat_add _ _

theorem counts_ofRows (matched unmatched : Nat) :
    MatchCounts.ofRows matched unmatched
      = ({ total := matched + unmatched, missing := unmatched } : Account).counts := rfl

theorem counts_ofListEntries (matched unmatched : Nat) :
    MatchCounts.ofListEntries matched unmatched
      = ({ listEntries := matched + unmatched
           missingListEntries := unmatched } : Account).counts := rfl

theorem counts_ofFailures (failed : Nat) :
    MatchCounts.ofFailures failed = ({ failed } : Account).counts := rfl

/-- An account with no more misses than there are rows, or ids. -/
def Sound (a : Account) : Prop :=
  a.missing ≤ a.total ∧ a.missingListEntries ≤ a.listEntries

instance (a : Account) : Decidable a.Sound := inferInstanceAs (Decidable (_ ∧ _))

theorem sound_zero : Sound 0 := ⟨Nat.le_refl 0, Nat.le_refl 0⟩

variable {a b : Account}

theorem Sound.add (ha : a.Sound) (hb : b.Sound) : (a + b).Sound :=
  ⟨Nat.add_le_add ha.1 hb.1, Nat.add_le_add ha.2 hb.2⟩

theorem Sound.missing_le (h : a.Sound) (hfits : a.total < UInt64.size) :
    a.counts.missing ≤ a.counts.total :=
  (UInt64.ofNat_le_iff_le (Nat.lt_of_le_of_lt h.1 hfits) hfits).2 h.1

theorem Sound.missingListEntries_le (h : a.Sound) (hfits : a.listEntries < UInt64.size) :
    a.counts.missingListEntries ≤ a.counts.listEntries :=
  (UInt64.ofNat_le_iff_le (Nat.lt_of_le_of_lt h.2 hfits) hfits).2 h.2

/-- Nothing is taken from too little where the rows that are about something are counted. -/
theorem Sound.matched_add_missing (h : a.Sound) (hfits : a.total < UInt64.size) :
    a.counts.matched.toNat + a.counts.missing.toNat = a.counts.total.toNat := by
  have hle := h.missing_le hfits
  rw [MatchCounts.matched, UInt64.toNat_sub_of_le _ _ hle]
  exact Nat.sub_add_cancel (UInt64.le_iff_toNat_le.1 hle)

/-- Once the rows do not fit any more, there may well be more misses. -/
example : ({ total := 2 ^ 64, missing := 1 } : Account).Sound ∧
    ({ total := 2 ^ 64, missing := 1 } : Account).counts.total = 0 ∧
    ({ total := 2 ^ 64, missing := 1 } : Account).counts.missing = 1 := by
  decide

end Account

/-! ## Records -/

namespace MatchStats

variable (stats : MatchStats)

/-- Records counts for a kind, where there are any. -/
def record? (kind : Kind) (counts? : Option MatchCounts) : MatchStats :=
  match counts? with
  | some counts => stats.record kind counts
  | none => stats

theorem of_record (kind : Kind) (counts : MatchCounts) (kind' : Kind) :
    (stats.record kind counts).of kind'
      = stats.of kind' + if kind' = kind then counts else 0 := by
  by_cases h : kind' = kind
  · subst h
    simp only [of, record, SortedMap.alter, SortedMap.find?_insert, if_true, Option.getD_some]
    rfl
  · simp only [of, record, SortedMap.alter, SortedMap.find?_insert, if_neg h, add_zero]

/-- Two records for one kind are a record of their sum. -/
theorem record_record (kind : Kind) (a b : MatchCounts) :
    (stats.record kind a).record kind b = stats.record kind (a + b) := by
  apply SortedMap.ext_find?
  intro kind'
  by_cases h : kind' = kind
  · subst h
    simp only [record, SortedMap.alter, SortedMap.find?_insert, if_true, Option.getD_some]
    exact congrArg some (add_assoc _ a b)
  · simp only [record, SortedMap.alter, SortedMap.find?_insert, if_neg h]

/-- Whether the refusals of a table are recorded after its rows or together with them is one. -/
theorem recordFailures_record (kind : Kind) (counts : MatchCounts) (failed : Nat) :
    (stats.record kind counts).recordFailures kind failed
      = stats.record kind (counts + .ofFailures failed) := by
  unfold recordFailures
  split
  · subst failed
    exact congrArg (stats.record kind) (add_zero counts).symm
  · exact stats.record_record kind counts _

/-- A record adds to the counts of its kind and leaves those of all others. -/
theorem of_record? (kind : Kind) (counts? : Option MatchCounts) (kind' : Kind) :
    (stats.record? kind counts?).of kind'
      = stats.of kind' + if kind' = kind then counts?.getD 0 else 0 := by
  cases counts? with
  | none => simp [record?]
  | some counts => exact stats.of_record kind counts kind'

theorem record?_comm {k l : Kind} (h : k ≠ l) (c d : Option MatchCounts) :
    (stats.record? k c).record? l d = (stats.record? l d).record? k c := by
  cases c with
  | none => rfl
  | some c =>
    cases d with
    | none => rfl
    | some d =>
      simp only [record?, record, SortedMap.alter, SortedMap.find?_insert, if_neg h, if_neg h.symm]
      exact SortedMap.insert_comm stats h _ _

end MatchStats

end DaqMonitor

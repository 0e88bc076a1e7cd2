/-
  DaqMonitor.Proofs.Service.Reading

  The payloads of a directory, read at the same time.

  All reads are under way at once, and any of them may be the next to end. After each
  step what has come and what is still to come make up the flashlists of all payloads,
  each with its place. So a reading that is over has all of them, in some order, and
  the places put them into the order of the names.

  A payload that cannot be read, or is none, stands for a flashlist that was not
  retrieved. A cycle passes over such a flashlist: the cycle is the same without it.

    * `Reading.run? r ends` — the reading after some reads have ended, in this order.
    * `Reading.perm_of_run?` — nothing is lost on the way, and nothing comes twice.
    * `Yields d flashlists` — what a reading of a directory may come to.
    * `Monitor.runCycle_filter` — a cycle without flashlists that are passed over.
    * `yields_readFlashlists` — what a reading comes to, and the cycle on it.
-/
import DaqMonitor.Proofs.Cycle.Tables
import DaqMonitor.Proofs.Service.Directory
import DaqMonitor.Service.Payloads
import Mathlib.Data.List.Forall2
import Mathlib.Data.List.Perm.Basic

namespace DaqMonitor

open Flashlist

/-! ## Flashlists that are passed over -/

/-- A flashlist that is read from a payload counts as retrieved. -/
theorem Flashlist.available_of_ofPayload {name payload : String} {f : Flashlist}
    (h : Flashlist.ofPayload name payload = .ok f) : f.available = true := by
  unfold Flashlist.ofPayload at h
  split at h
  · cases h
  · split at h
    · cases h
    · cases h
      rfl

theorem Flashlist.dispatchKind?_of_not_available {f : Flashlist} (h : f.available = false) :
    f.dispatchKind? = none := by
  simp [Flashlist.dispatchKind?, h]

namespace Monitor

variable (m : Monitor) {p : Flashlist → Bool}

/-- Flashlists that are passed over may as well be missing. -/
theorem dispatchAll_filter (hp : ∀ f, p f = false → f.dispatchKind? = none)
    (flashlists : List Flashlist) :
    m.dispatchAll (flashlists.filter p) = m.dispatchAll flashlists := by
  unfold dispatchAll
  rw [List.foldl_filter]
  congr 1
  funext r f
  by_cases hf : p f = true
  · rw [if_pos hf]
  · -- Such a flashlist changes nothing, and there is nothing to say about it.
    have hnone := hp f (Bool.eq_false_iff.2 hf)
    simp only [if_neg hf, dispatch, hnone, List.append_nil]

/-- A cycle is the same without flashlists that are passed over. -/
theorem runCycle_filter (hp : ∀ f, p f = false → f.dispatchKind? = none)
    (flashlists : List Flashlist) (time : UInt64) :
    m.runCycle (flashlists.filter p) time = m.runCycle flashlists time := by
  have hdispatch : m.dispatchAll (inOrder (flashlists.filter p))
      = m.dispatchAll (inOrder flashlists) := by
    rw [inOrder_eq_sortBy, ← filter_sortBy, m.dispatchAll_filter hp, inOrder_eq_sortBy]
  simp only [runCycle, hdispatch]

end Monitor

namespace Service

/-! ## Payloads -/

namespace Entry

/-- An entry has a name with the extension `json`. -/
def IsPayload (e : Entry) : Prop := ∃ stem, stem ≠ "" ∧ e.name = stem ++ ".json"

/-- An entry is named as a payload, but it cannot be read, or what is in it is no payload. -/
def IsBroken (e : Entry) : Prop :=
  ∃ stem, stem ≠ "" ∧ e.name = stem ++ ".json" ∧
    ∀ text f, e.text? = some text → Flashlist.ofPayload stem text ≠ .ok f

/-- The flashlist that an entry stands for. -/
inductive Gives (e : Entry) : Flashlist → Prop
  /-- The payload in it, under its name without the extension. -/
  | payload {stem text : String} {f : Flashlist} (hname : e.name = stem ++ ".json")
    (htext : e.text? = some text) (hread : Flashlist.ofPayload stem text = .ok f) : Gives e f
  /-- One that was not retrieved, where there is no payload in it. -/
  | broken {stem : String} (hname : e.name = stem ++ ".json")
    (hread : ∀ text f, e.text? = some text → Flashlist.ofPayload stem text ≠ .ok f) :
    Gives e (.unavailable stem)

theorem isPayload_iff {e : Entry} : e.isPayload = true ↔ e.IsPayload := by
  rw [isPayload, beq_iff_eq, extension?_eq_some_iff (by decide)]
  simp only [String.append_assoc]
  rfl

end Entry

variable {e : Entry} {d d' : Directory} {flashlists : List Flashlist}

theorem stemOf_payload {stem : String} (hstem : stem ≠ "") (hname : e.name = stem ++ ".json") :
    stemOf e.name = stem := by
  rw [hname, show ".json" = "." ++ "json" from rfl, ← String.append_assoc]
  exact stemOf_append hstem (by decide)

/-- What is read from a payload, and whether it is a flashlist that was retrieved. -/
theorem readPayload_cases {stem : String} (hstem : stem ≠ "") (hname : e.name = stem ++ ".json") :
    (∃ text f, e.text? = some text ∧ Flashlist.ofPayload stem text = .ok f ∧
        readPayload e = f ∧ f.available = true) ∨
      (∀ text f, e.text? = some text → Flashlist.ofPayload stem text ≠ .ok f) ∧
        readPayload e = .unavailable stem := by
  simp only [readPayload, stemOf_payload hstem hname]
  cases htext : e.text? with
  | none => exact .inr ⟨fun _ _ h => (Option.some_ne_none _ h.symm).elim, rfl⟩
  | some text =>
    cases hread : Flashlist.ofPayload stem text with
    | error error =>
      refine .inr ⟨fun text' f h => ?_, by simp only [hread]⟩
      obtain rfl := Option.some.inj h
      simp [hread]
    | ok f =>
      exact .inl ⟨text, f, rfl, hread, by simp only [hread], Flashlist.available_of_ofPayload hread⟩

theorem gives_readPayload (h : e.IsPayload) : e.Gives (readPayload e) := by
  obtain ⟨stem, hstem, hname⟩ := h
  rcases readPayload_cases hstem hname with ⟨text, f, htext, hread, rfl, -⟩ | ⟨hbroken, hread⟩
  · exact .payload hname htext hread
  · rw [hread]
    exact .broken hname hbroken

theorem available_readPayload_iff (h : e.IsPayload) :
    (readPayload e).available = true ↔ ¬ e.IsBroken := by
  obtain ⟨stem, hstem, hname⟩ := h
  rcases readPayload_cases hstem hname with
    ⟨text, f, htext, hread, hf, havailable⟩ | ⟨hbroken, hread⟩
  · rw [hf]
    refine iff_of_true havailable ?_
    rintro ⟨stem', -, hname', hbroken⟩
    obtain rfl : stem = stem' := by simpa [hname] using hname'
    exact hbroken text f htext hread
  · rw [hread]
    exact iff_of_false Bool.false_ne_true (not_not_intro ⟨stem, hstem, hname, hbroken⟩)

/-- There is a warning about the payloads that are JSON and have no rows, and it names the
    flashlist. -/
theorem payloadWarning?_eq_some_iff {stem warning : String} (hstem : stem ≠ "")
    (hname : e.name = stem ++ ".json") :
    payloadWarning? e = some warning ↔
      (∃ text json, e.text? = some text ∧ Json.ofText text = .ok json ∧
        payloadRows? json = none) ∧
      warning = "flashlist " ++ stem ++ " has no table.rows array" := by
  rw [payloadWarning?, stemOf_payload hstem hname]
  cases htext : e.text? with
  | none => simp
  | some text =>
    simp only [Option.map_some, Flashlist.ofPayload, Option.some.injEq, exists_and_left,
      exists_eq_left']
    cases hjson : Json.ofText text with
    | error fault => simp [PayloadError.message?]
    | ok json =>
      cases hrows : payloadRows? json with
      | none => simp [PayloadError.message?, hrows, eq_comm]
      | some rows => simp [hrows]

/-! ## Reads that are under way -/

/-- The reading of the payloads of a directory. -/
structure Reading where
  /-- The payloads that are still being read, with their places. -/
  inFlight : List (Nat × Entry)
  /-- The flashlists that have come, with their places, in the order in which they came. -/
  arrived : List (Nat × Flashlist) := []

namespace Reading

/-- All reads have begun, and none has ended. -/
def start (d : Directory) : Reading where
  inFlight := (payloadEntries d).zipIdx.map fun e => (e.2, e.1)

/-- The reading after one of the reads has ended; `none` where there is no such read. -/
def arrive? (r : Reading) (n : Nat) : Option Reading :=
  r.inFlight[n]?.map fun e =>
    { inFlight := r.inFlight.eraseIdx n
      arrived := r.arrived ++ [(e.1, readPayload e.2)] }

/-- The reading after some reads have ended, in this order. -/
def run? (r : Reading) (ends : List Nat) : Option Reading := ends.foldlM arrive? r

/-- The flashlists that have come, and those that will come. -/
def all (r : Reading) : List (Nat × Flashlist) :=
  r.arrived ++ r.inFlight.map fun e => (e.1, readPayload e.2)

variable {r r' : Reading}

theorem all_start (d : Directory) : (start d).all = placedFlashlists d := by
  simp [all, start, placedFlashlists, Function.comp_def]

/-- The end of a read loses nothing and adds nothing. -/
theorem perm_of_arrive? {n : Nat} (h : r.arrive? n = some r') : r'.all.Perm r.all := by
  obtain ⟨e, he, rfl⟩ := Option.map_eq_some_iff.1 h
  obtain ⟨hn, rfl⟩ := List.getElem?_eq_some_iff.1 he
  have herase := (List.getElem_cons_eraseIdx_perm hn).map fun e => (e.1, readPayload e.2)
  rw [all, all, List.append_assoc]
  exact herase.append_left r.arrived

/-- Nothing is lost on the way, and nothing comes twice. -/
theorem perm_of_run? {ends : List Nat} (h : r.run? ends = some r') : r'.all.Perm r.all := by
  induction ends generalizing r with
  | nil =>
    cases h
    exact .refl _
  | cons n ends ih =>
    rw [run?, List.foldlM_cons] at h
    obtain ⟨between, hfirst, hrest⟩ := Option.bind_eq_some_iff.1 h
    exact (ih hrest).trans (perm_of_arrive? hfirst)

/-- Every reading can come to its end. -/
theorem exists_run? (r : Reading) : ∃ ends r', r.run? ends = some r' ∧ r'.inFlight = [] := by
  obtain ⟨inFlight, arrived⟩ := r
  -- The reads end in the order of the places: the first one that is left is the next.
  induction inFlight generalizing arrived with
  | nil => exact ⟨[], _, rfl, rfl⟩
  | cons e rest ih =>
    obtain ⟨ends, r', hrun, hover⟩ := ih (arrived ++ [(e.1, readPayload e.2)])
    exact ⟨0 :: ends, r', hrun, hover⟩

end Reading

/-- What a reading of a directory may come to: the flashlists that it has when no read is under way
    any more. -/
def Yields (d : Directory) (flashlists : List Flashlist) : Prop :=
  ∃ ends r, (Reading.start d).run? ends = some r ∧ r.inFlight = [] ∧
    flashlists = assemble r.arrived

/-! ## What a reading comes to -/

/-- The places put the flashlists into the order of the names, in whichever order they have come. -/
theorem assemble_of_perm {placed : List (Nat × Flashlist)}
    (h : placed.Perm (placedFlashlists d)) :
    assemble placed = (payloadEntries d).map readPayload := by
  have hplaces : (placedFlashlists d).map (·.1) = List.range (payloadEntries d).length := by
    rw [placedFlashlists, List.map_map, List.range_eq_range', ← List.zipIdx_map_snd]
    rfl
  have hnodup : ((placedFlashlists d).map (·.1)).Nodup := by
    rw [hplaces]
    exact List.nodup_range
  have hsorted : (placedFlashlists d).Pairwise fun a b => a.1 ≤ b.1 := by
    rw [← List.pairwise_map (R := (· ≤ ·)) (f := Prod.fst), hplaces]
    exact List.pairwise_le_range
  have hassemble : assemble placed = (sortBy Prod.fst placed).map (·.2) := rfl
  rw [hassemble, sortBy_eq_of_perm Prod.fst h hnodup hsorted, placedFlashlists, List.map_map]
  conv_rhs => rw [← List.zipIdx_map_fst 0 (payloadEntries d), List.map_map]
  rfl

theorem readFlashlists_eq (d : Directory) :
    readFlashlists d = (payloadEntries d).map readPayload := assemble_of_perm (.refl _)

/-- Whatever the order in which the reads end, a reading comes to the same. -/
theorem yields_iff : Yields d flashlists ↔ flashlists = readFlashlists d := by
  have hover : ∀ {ends r}, (Reading.start d).run? ends = some r → r.inFlight = [] →
      assemble r.arrived = readFlashlists d := by
    intro ends r hrun hover
    -- When no read is under way any more, all that there is has come.
    have hperm := Reading.perm_of_run? hrun
    rw [Reading.all_start, Reading.all, hover, List.map_nil, List.append_nil] at hperm
    rw [assemble_of_perm hperm, readFlashlists_eq]
  constructor
  · rintro ⟨ends, r, hrun, hend, rfl⟩
    exact hover hrun hend
  · rintro rfl
    obtain ⟨ends, r, hrun, hend⟩ := (Reading.start d).exists_run?
    exact ⟨ends, r, hrun, hend, (hover hrun hend).symm⟩

theorem mem_payloadEntries_iff : e ∈ payloadEntries d ↔ e ∈ d ∧ e.IsPayload := by
  rw [payloadEntries, List.mem_mergeSort, List.mem_filter, Entry.isPayload_iff]

theorem payloadEntries_eq_sortBy (d : Directory) :
    payloadEntries d = sortBy Entry.name (d.filter Entry.isPayload) := rfl

theorem nodup_names_filter (hnames : (d.map (·.name)).Nodup) (p : Entry → Bool) :
    ((d.filter p).map (·.name)).Nodup :=
  hnames.sublist (List.filter_sublist.map _)

/-- The payloads come in the order of their names. -/
theorem pairwise_payloadEntries (hnames : (d.map (·.name)).Nodup) :
    (payloadEntries d).Pairwise fun a b => a.name < b.name :=
  pairwise_lt_sortBy Entry.name (nodup_names_filter hnames Entry.isPayload)

/-- Without the broken payloads the others are left. -/
theorem payloadEntries_of_unbroken (hnames : (d.map (·.name)).Nodup)
    (hnames' : (d'.map (·.name)).Nodup) (h : ∀ e, e ∈ d' ↔ e ∈ d ∧ ¬ e.IsBroken) :
    payloadEntries d' = (payloadEntries d).filter fun e => (readPayload e).available := by
  have hlt := (pairwise_payloadEntries hnames).filter fun e => (readPayload e).available
  rw [payloadEntries_eq_sortBy d']
  refine sortBy_eq_of_perm Entry.name ?_ ?_ ?_
  · have hnodup : (payloadEntries d).Nodup :=
      (pairwise_payloadEntries hnames).imp fun hab heq =>
        String.ne_of_lt hab (congrArg Entry.name heq)
    rw [List.perm_ext_iff_of_nodup (hnames'.of_map.filter _) (hnodup.filter _)]
    intro e
    simp only [List.mem_filter, mem_payloadEntries_iff, h, Entry.isPayload_iff, and_assoc]
    refine and_congr_right fun _ => ?_
    rw [and_comm]
    exact and_congr_right fun hpayload => (available_readPayload_iff hpayload).symm
  · exact List.pairwise_map.2 (hlt.imp String.ne_of_lt)
  · exact hlt.imp Std.le_of_lt

/-- The flashlists of a directory. Whatever the order in which the reads end, a reading comes to one
    flashlist for every payload, in the order of the names: the one in it, or the one that was
    not retrieved where there is none. A cycle on them is as the cycle on the directory without the
    broken payloads. -/
theorem yields_readFlashlists (hnames : (d.map (·.name)).Nodup) :
    (∀ flashlists, Yields d flashlists ↔ flashlists = readFlashlists d) ∧
      (∃ entries : List Entry, (∀ e, e ∈ entries ↔ e ∈ d ∧ e.IsPayload) ∧
        (entries.Pairwise fun a b => a.name < b.name) ∧
        List.Forall₂ Entry.Gives entries (readFlashlists d)) ∧
      ∀ (m : Monitor) (time : UInt64) (d' : Directory), (d'.map (·.name)).Nodup →
        (∀ e, e ∈ d' ↔ e ∈ d ∧ ¬ e.IsBroken) →
        m.runCycle (readFlashlists d) time = m.runCycle (readFlashlists d') time := by
  refine ⟨fun _ => yields_iff, ⟨payloadEntries d, fun _ => mem_payloadEntries_iff,
    pairwise_payloadEntries hnames, ?_⟩, fun m time d' hnames' h => ?_⟩
  · rw [readFlashlists_eq, List.forall₂_map_right_iff, List.forall₂_same]
    exact fun e he => gives_readPayload (mem_payloadEntries_iff.1 he).2
  · -- What was not retrieved is passed over, and these are the flashlists of the broken payloads.
    have hothers : readFlashlists d' = (readFlashlists d).filter Flashlist.available := by
      rw [readFlashlists_eq, readFlashlists_eq, payloadEntries_of_unbroken hnames hnames' h,
        List.filter_map]
      rfl
    rw [hothers, m.runCycle_filter fun f hf => Flashlist.dispatchKind?_of_not_available hf]

/-- A directory that is not listed in order, with a text that is cut off, a folder in place of the
    table of the event manager, and a file of another kind. -/
theorem yields_readFlashlists_broken :
    let ru : Entry := { name := "RU.json", content := .file "[".toUTF8 }
    let notes : Entry := { name := "README.txt", content := .file "ignored".toUTF8 }
    let evm : Entry := { name := "EVM.json", content := .folder }
    let bu : Entry := { name := "BU.json", content := .file "[\x7b\x7d]".toUTF8 }
    let d : Directory := [ru, notes, evm, bu]
    let table : Flashlist :=
      { name := "BU", kind := some .bu, available := true, rows := [.object []] }
    let all := [table, .unavailable "EVM", .unavailable "RU"]
    (d.map (·.name)).Nodup ∧ (∀ flashlists, Yields d flashlists ↔ flashlists = all) ∧
      (∀ e, e ∈ [bu, notes] ↔ e ∈ d ∧ ¬ e.IsBroken) ∧
      ∀ (m : Monitor) (time : UInt64),
        m.runCycle all time = m.runCycle (readFlashlists [bu, notes]) time := by
  intro ru notes evm bu d table all
  have hnames : (d.map (·.name)).Nodup := by decide
  have hpayloads : d.filter Entry.isPayload = [bu, evm, ru].reverse := by
    dsimp only [d, bu, evm, ru, notes]
    rfl
  have hentries : payloadEntries d = [bu, evm, ru] := by
    rw [payloadEntries_eq_sortBy, hpayloads]
    exact sortBy_eq_of_perm Entry.name (List.reverse_perm [bu, evm, ru]) (by decide) (by decide)
  have hall : readFlashlists d = all := by
    rw [readFlashlists_eq, hentries]
    dsimp only [all, table, bu, evm, ru]
    rfl
  have hru : ru.IsBroken := not_not.1 <|
    (available_readPayload_iff ⟨"RU", by decide, rfl⟩).not.1 (by decide +kernel)
  have hevm : evm.IsBroken := not_not.1 <|
    (available_readPayload_iff ⟨"EVM", by decide, rfl⟩).not.1 (by decide +kernel)
  have hbu : ¬ bu.IsBroken :=
    (available_readPayload_iff ⟨"BU", by decide, rfl⟩).1 (by decide +kernel)
  have hnotes : ¬ notes.IsBroken := fun ⟨stem, hstem, hname, _⟩ =>
    absurd (Entry.isPayload_iff.2 ⟨stem, hstem, hname⟩) (by decide)
  have hothers : ∀ e, e ∈ [bu, notes] ↔ e ∈ d ∧ ¬ e.IsBroken := by
    intro e
    simp only [d, List.mem_cons, List.not_mem_nil, or_false]
    constructor
    · rintro (rfl | rfl)
      · exact ⟨.inr (.inr (.inr rfl)), hbu⟩
      · exact ⟨.inr (.inl rfl), hnotes⟩
    · rintro ⟨rfl | rfl | rfl | rfl, hunbroken⟩
      · exact absurd hru hunbroken
      · exact .inr rfl
      · exact absurd hevm hunbroken
      · exact .inl rfl
  obtain ⟨hyields, -, hcycle⟩ := yields_readFlashlists hnames
  rw [hall] at hyields hcycle
  exact ⟨hnames, hyields, hothers, fun m time => hcycle m time [bu, notes] (by decide) hothers⟩

end Service

end DaqMonitor

/-
  DaqMonitor.Proofs.Service.LogPruning

  The logs that are left after pruning.

  A log of this service is told by both ends of its name. Of the names of all logs,
  which increase with the time of the runs, those are tried that at least `keep`
  others are greater than. Each of them is tried once, and what comes of it has no
  effect on the others: an entry is gone afterwards if its name was tried and it can
  be removed.

    * `isServerLog_iff` — the names of logs.
    * `mem_staleLogs_iff` — the names that are tried.
    * `pruneLogs_eq` — what is left, and what is reported.
    * `prunes_pruneLogs` — the two together, for any order of the entries.
-/
import DaqMonitor.Proofs.Service.Directory
import DaqMonitor.Proofs.Sorting
import DaqMonitor.Service.LogPruning

namespace DaqMonitor.Service

/-! ## Names of logs -/

/-- The name of a log of this service. -/
def ServerLog (name : String) : Prop := ∃ run, name = "server_aggregator_" ++ run ++ ".log"

/-- The names of logs are those with the right beginning and the right extension. -/
theorem isServerLog_iff {name : String} : isServerLog name = true ↔ ServerLog name := by
  rw [isServerLog, Bool.and_eq_true, beq_iff_eq, extension?_eq_some_iff (by decide),
    List.isPrefixOf_iff_prefix]
  constructor
  · rintro ⟨⟨stem, -, rfl⟩, hprefix⟩
    -- The beginning has no dot in it, so it ends before the extension begins.
    rw [String.toList_append, String.toList_append, List.append_assoc] at hprefix
    obtain ⟨run, hrun⟩ := Text.prefix_of_prefix_append (by decide) hprefix
    refine ⟨String.ofList run, ?_⟩
    rw [← String.toList_inj]
    simp [← hrun, logPrefix]
  · rintro ⟨run, rfl⟩
    refine ⟨⟨"server_aggregator_" ++ run, ?_, ?_⟩, ?_⟩
    · simp
    · simp [String.append_assoc]
    · simp [logPrefix]

instance (name : String) : Decidable (ServerLog name) := decidable_of_iff _ isServerLog_iff

/-! ## The names that are tried -/

section Names

variable {names names' : List String} {keep : Nat}

theorem sortNames_eq_sortBy (names : List String) : sortNames names = sortBy id names := rfl

theorem nodup_logs (hnames : names.Nodup) : ((names.filter isServerLog).map id).Nodup := by
  rw [List.map_id]
  exact hnames.filter _

theorem length_sortNames (names : List String) : (sortNames names).length = names.length :=
  List.length_mergeSort names

theorem pairwise_sortNames_logs (hnames : names.Nodup) :
    (sortNames (names.filter isServerLog)).Pairwise (· < ·) :=
  pairwise_lt_sortBy id (nodup_logs hnames)

/-- The names that are tried increase. -/
theorem pairwise_staleLogs (hnames : names.Nodup) : (staleLogs names keep).Pairwise (· < ·) :=
  (pairwise_sortNames_logs hnames).sublist (List.take_sublist _ _)

/-- How many names are tried. -/
theorem length_staleLogs : (staleLogs names keep).length = names.countP (ServerLog ·) - keep := by
  have hcount : names.countP (ServerLog ·) = (names.filter isServerLog).length := by
    rw [List.countP_eq_length_filter]
    simp [← isServerLog_iff]
  simp only [staleLogs, List.length_take, length_sortNames, hcount]
  omega

/-- The logs that are tried: at least `keep` others have greater names. -/
theorem mem_staleLogs_iff (hnames : names.Nodup) {name : String} :
    name ∈ staleLogs names keep ↔ name ∈ names ∧ ServerLog name ∧
      keep ≤ names.countP fun other => ServerLog other ∧ name < other := by
  have hcount : (sortNames (names.filter isServerLog)).countP (name < ·)
      = names.countP fun other => ServerLog other ∧ name < other := by
    -- How many there are does not hang on their order, so they are counted as they are listed.
    rw [sortNames_eq_sortBy, (sortBy_perm id _).countP_eq, List.countP_filter]
    refine List.countP_congr fun other _ => ?_
    simp [isServerLog_iff, and_comm]
  rw [staleLogs, mem_take_iff_countP (pairwise_sortNames_logs hnames), hcount, sortNames,
    List.mem_mergeSort, List.mem_filter, isServerLog_iff, and_assoc]

/-- The order in which the names are listed does not count. -/
theorem staleLogs_congr (hnames : names.Nodup) (h : names'.Perm names) :
    staleLogs names' keep = staleLogs names keep := by
  have hsort : sortNames (names'.filter isServerLog) = sortNames (names.filter isServerLog) := by
    have hperm := (h.filter isServerLog).trans (sortBy_perm id (names.filter isServerLog)).symm
    refine sortBy_eq_of_perm id hperm ?_ (pairwise_sortBy id _)
    exact ((sortBy_perm id _).map id).nodup_iff.2 (nodup_logs hnames)
  rw [staleLogs, staleLogs, hsort]

end Names

/-! ## Removing entries -/

/-- Whether there is an entry of a name that can be removed. -/
def canRemove (d : Directory) (name : String) : Bool :=
  d.any fun e => e.name == name && e.isRemovable

/-- A directory without the entries of some names, as far as these can be removed. -/
def without (d : Directory) (names : List String) : Directory :=
  d.filter fun e => ¬ (e.name ∈ names ∧ e.isRemovable = true)

section Removals

variable {d d' : Directory} {name : String}

theorem canRemove_iff :
    canRemove d name = true ↔ ∃ e ∈ d, e.name = name ∧ e.isRemovable = true := by
  simp [canRemove]

theorem canRemove_congr (h : d'.Perm d) (name : String) : canRemove d' name = canRemove d name :=
  h.any_eq

theorem nodup_without (hnames : (d.map (·.name)).Nodup) (names : List String) :
    ((without d names).map (·.name)).Nodup :=
  hnames.sublist (List.filter_sublist.map _)

theorem without_cons (d : Directory) (name : String) (names : List String) :
    without d (name :: names) = without (without d [name]) names := by
  rw [without, without, without, List.filter_filter]
  refine List.filter_congr fun e _ => ?_
  rw [← Bool.decide_and]
  refine decide_eq_decide.2 ?_
  rw [List.mem_cons, List.mem_singleton, or_and_right, not_or, and_comm]

/-- Removing an entry has no effect on those of other names. -/
theorem canRemove_without {other : String} (h : other ≠ name) :
    canRemove (without d [name]) other = canRemove d other := by
  rw [canRemove, canRemove, without, List.any_filter]
  congr 1
  funext e
  by_cases hother : e.name = other
  · simp [hother, h]
  · simp [hother]

/-- An entry that can be removed is gone afterwards, and nothing else is. -/
theorem removeEntry_eq (hnames : (d.map (·.name)).Nodup) :
    removeEntry d name = (without d [name], canRemove d name) := by
  have hremove : removeEntry d name
      = if canRemove d name then (d.filter fun e => e.name != name, true) else (d, false) := rfl
  rw [hremove]
  by_cases h : canRemove d name = true
  · obtain ⟨found, hfound, hname, hremovable⟩ := canRemove_iff.1 h
    rw [if_pos h, h]
    congr 1
    refine List.filter_congr fun e he => ?_
    by_cases heq : e.name = name
    · -- There is only one entry of that name.
      obtain rfl : e = found := List.inj_on_of_nodup_map hnames he hfound (heq.trans hname.symm)
      simp [hname, hremovable]
    · simp [heq, bne_iff_ne]
  · rw [if_neg h, Bool.eq_false_iff.2 h, without, List.filter_eq_self.2]
    intro e he
    refine decide_eq_true fun hmatch => h (canRemove_iff.2 ⟨e, he, ?_⟩)
    rwa [List.mem_singleton] at hmatch

/-- Entries that are tried one after the other. -/
theorem foldl_remove {names : List String} (hdistinct : names.Nodup)
    (hnames : (d.map (·.name)).Nodup) (removals : List (String × Bool)) :
    names.foldl Pruned.remove { directory := d, removals }
      = { directory := without d names
          removals := removals ++ names.map fun name => (name, canRemove d name) } := by
  -- The induction is on the names that are left. The first one is tried in `d` itself, and the
  -- others find in what is left of `d` what they would have found in `d`.
  induction names generalizing d removals with
  | nil => simp [without]
  | cons name rest ih =>
    obtain ⟨hname, hrest⟩ := List.nodup_cons.1 hdistinct
    have hstep : Pruned.remove { directory := d, removals } name
        = { directory := without d [name]
            removals := removals ++ [(name, canRemove d name)] } := by
      simp only [Pruned.remove, removeEntry_eq hnames]
    have hothers : rest.map (fun other => (other, canRemove (without d [name]) other))
        = rest.map fun other => (other, canRemove d other) :=
      List.map_congr_left fun other hother => by
        rw [canRemove_without (by rintro rfl; exact hname hother)]
    rw [List.foldl_cons, hstep, ih hrest (nodup_without hnames _), hothers, ← without_cons,
      List.map_cons, List.append_assoc, List.singleton_append]

end Removals

/-! ## Pruning -/

section Pruning

variable {d : Directory}

/-- The logs that are tried are gone as far as they can be removed. -/
theorem pruneLogs_eq (hnames : (d.map (·.name)).Nodup) (keep : Nat) :
    let stale := staleLogs (d.map (·.name)) keep
    pruneLogs d keep
      = { directory := without d stale
          removals := stale.map fun name => (name, canRemove d name) } := by
  have hdistinct : (staleLogs (d.map (·.name)) keep).Nodup :=
    -- Each log is tried once, as the names that are tried increase.
    (pairwise_staleLogs hnames).imp fun hlt => Std.ne_of_lt hlt
  exact foldl_remove hdistinct hnames []

/-- The names of the logs that were tried, in the order in which they were. -/
def Pruned.tried (p : Pruned) : List String := p.removals.map (·.1)

/-- What pruning a directory to the latest `keep` logs must lead to. -/
structure Prunes (d : Directory) (keep : Nat) (p : Pruned) : Prop where
  /-- Those logs are tried that are not among the `keep` greatest by name. -/
  tried_iff : ∀ name, name ∈ p.tried ↔ name ∈ d.map (·.name) ∧ ServerLog name ∧
    keep ≤ d.countP fun e => ServerLog e.name ∧ name < e.name
  increasing : p.tried.Pairwise (· < ·)
  count : p.tried.length = d.countP (ServerLog ·.name) - keep
  /-- What is said of a log that was tried does not depend on the others. -/
  reported : ∀ name removed, (name, removed) ∈ p.removals →
    (removed = true ↔ ∃ e ∈ d, e.name = name ∧ e.isRemovable = true)
  left : p.directory.Perm (d.filter fun e => ¬ (e.name ∈ p.tried ∧ e.isRemovable = true))

theorem tried_pruneLogs (hnames : (d.map (·.name)).Nodup) (keep : Nat) :
    (pruneLogs d keep).tried = staleLogs (d.map (·.name)) keep := by
  rw [pruneLogs_eq hnames, Pruned.tried, List.map_map]
  exact List.map_id _

/-- What is left of a directory in the order in which it is listed. -/
theorem prunes_self (hnames : (d.map (·.name)).Nodup) (keep : Nat) :
    Prunes d keep (pruneLogs d keep) where
  tried_iff name := by
    rw [tried_pruneLogs hnames, mem_staleLogs_iff hnames, List.countP_map]
    rfl
  increasing := by
    rw [tried_pruneLogs hnames]
    exact pairwise_staleLogs hnames
  count := by
    rw [tried_pruneLogs hnames, length_staleLogs, List.countP_map]
    rfl
  reported name removed hmem := by
    rw [pruneLogs_eq hnames] at hmem
    obtain ⟨tried, -, heq⟩ := List.mem_map.1 hmem
    obtain ⟨rfl, rfl⟩ := Prod.mk.inj heq
    exact canRemove_iff
  left := by
    rw [tried_pruneLogs hnames, pruneLogs_eq hnames, without]

/-- The order of the entries makes no difference to what must be left. -/
theorem Prunes.congr {d' : Directory} {keep : Nat} {p : Pruned} (h : d'.Perm d)
    (hp : Prunes d' keep p) : Prunes d keep p where
  tried_iff name := by
    rw [hp.tried_iff, (h.map _).mem_iff, h.countP_eq]
  increasing := hp.increasing
  count := by rw [hp.count, h.countP_eq]
  reported name removed hmem := by
    rw [hp.reported name removed hmem, ← canRemove_iff, canRemove_congr h, canRemove_iff]
  left := hp.left.trans (h.filter _)

/-- In whichever order the entries are listed, the same logs are tried with the same outcome, and
    of all entries those are gone that were tried and can be removed. -/
theorem prunes_pruneLogs {d' : Directory} (hnames : (d.map (·.name)).Nodup) (keep : Nat)
    (horder : d'.Perm d) :
    Prunes d keep (pruneLogs d' keep) ∧
      (pruneLogs d' keep).removals = (pruneLogs d keep).removals := by
  have hnames' : (d'.map (·.name)).Nodup := (horder.map _).nodup_iff.2 hnames
  refine ⟨(prunes_self hnames' keep).congr horder, ?_⟩
  rw [pruneLogs_eq hnames', pruneLogs_eq hnames, staleLogs_congr hnames (horder.map _)]
  simp [canRemove_congr horder]

/-- Of three logs the two earlier ones are tried. The first of them is a folder, and stays; the
    second one is removed all the same, and what is no log of the service is not touched. -/
theorem prunes_pruneLogs_folder :
    let folder : Entry := { name := "server_aggregator_1.log", content := .folder }
    let earlier : Entry := { name := "server_aggregator_2.log", content := .file .empty }
    let latest : Entry := { name := "server_aggregator_3.log", content := .file .empty }
    let foreign : Entry := { name := "other_service.log", content := .file .empty }
    let d : Directory := [folder, earlier, latest, foreign]
    let listed : Directory := [latest, foreign, earlier, folder]
    Prunes d 1 (pruneLogs listed 1) ∧
      (pruneLogs listed 1).removals
        = [("server_aggregator_1.log", false), ("server_aggregator_2.log", true)] ∧
      (pruneLogs listed 1).directory = [latest, foreign, folder] := by
  intro folder earlier latest foreign d listed
  have horder : listed.Perm d := by
    have hswap : ([earlier, folder] : Directory).Perm [folder, earlier] := .swap _ _ _
    have hends : ([latest, foreign] ++ [earlier, folder]).Perm
        ([earlier, folder] ++ [latest, foreign]) := List.perm_append_comm
    exact hends.trans (hswap.append_right _)
  have hsort : sortNames ["server_aggregator_3.log", "server_aggregator_2.log",
        "server_aggregator_1.log"]
      = ["server_aggregator_1.log", "server_aggregator_2.log", "server_aggregator_3.log"] :=
    sortBy_eq_of_perm id (List.reverse_perm ["server_aggregator_1.log", "server_aggregator_2.log",
      "server_aggregator_3.log"]) (by decide) (by decide)
  have hstale : staleLogs (listed.map (·.name)) 1
      = ["server_aggregator_1.log", "server_aggregator_2.log"] := by
    have hlogs : (listed.map (·.name)).filter isServerLog = ["server_aggregator_3.log",
        "server_aggregator_2.log", "server_aggregator_1.log"] := by
      dsimp only [listed, latest, foreign, earlier, folder]
      decide
    rw [staleLogs, hlogs, hsort]
    rfl
  refine ⟨(prunes_pruneLogs (by decide) 1 horder).1, ?_⟩
  rw [pruneLogs, hstale]
  dsimp only [listed, latest, foreign, earlier, folder]
  exact ⟨rfl, rfl⟩

end Pruning

end DaqMonitor.Service

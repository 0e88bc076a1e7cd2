/-
  DaqMonitor.Proofs.Cycle.ProblemLists

  What the lists of the readout units make of the FEDs, and of the counts.

  The rows of the readout units name FEDs by the id that their fragments should
  carry. Whether a row names a FED is found out twice: by the rule that matches the
  rows, which looks an id of a list up among the ids of 32 bits, and by the FED
  itself, which looks for its own id in the lists. Both come to the same, so a FED
  has the flags that the last row that names it says, and one that no row names has
  none of them.

    * `Row.lists row column id` — whether a row lists an id in a column.
    * `Row.names row id` — whether it does so in one of the columns for problems.
    * `leads_problemLists` — the FEDs that a row leads to are those that it names.
    * `Fed.take_lists` — the flags of a FED after its row.
    * `Monitor.dispatch_problemLists` — all FEDs, and the counts, after a table.
-/
import DaqMonitor.Proofs.Cycle.Ledger
import DaqMonitor.Proofs.Cycle.Rejection

namespace DaqMonitor

open Flashlist Matching

/-! ## Listed ids -/

/-- An id of a FED as it stands in a list. -/
def listedAs (id : UInt32) : Int64 := Int64.ofNat id.toNat

theorem toInt_listedAs (id : UInt32) : (listedAs id).toInt = id.toNat :=
  Int64.toInt_ofNat_of_lt (by have := id.toNat_lt; omega)

/-- The id of 32 bits that an entry of a list is, if it is one. -/
def listedId? (entry : Option Int64) : Option UInt32 :=
  entry.bind fun id =>
    if 0 ≤ id.toInt ∧ id.toInt.toNat < UInt32.size then some (UInt32.ofNat id.toInt.toNat) else none

/-- An entry is the id of a FED exactly if it reads as that id. -/
theorem listedId?_eq_some_iff {entry : Option Int64} {id : UInt32} :
    listedId? entry = some id ↔ entry = some (listedAs id) := by
  have hlt := id.toNat_lt
  cases entry with
  | none => simp [listedId?]
  | some listed =>
    rw [listedId?, Option.bind_some, Option.some.injEq, ← Int64.toInt_inj, toInt_listedAs]
    constructor
    · intro h
      split at h
      · rename_i hrange
        have hnat := congrArg UInt32.toNat (Option.some.inj h)
        rw [UInt32.toNat_ofNat_of_lt' hrange.2] at hnat
        omega
      · cases h
    · intro h
      have hrange : 0 ≤ listed.toInt ∧ listed.toInt.toNat < UInt32.size := by
        rw [h]
        exact ⟨Int.natCast_nonneg _, hlt⟩
      rw [if_pos hrange, h, Int.toNat_natCast, UInt32.ofNat_toNat]

namespace Flashlist.Row

/-- Whether a row lists an id in a column. -/
def lists (row : Row) (column : String) (id : UInt32) : Bool :=
  match row.integerList column with
  | .ok ids => ids.contains (listedAs id)
  | .error _ => false

/-- Whether a row lists an id in one of the columns for FEDs with problems. -/
def names (row : Row) (id : UInt32) : Bool := problemColumns.any (row.lists · id)

/-- Whether a row lacks a column, or has a list of integers there. -/
def listsOrLacks (row : Row) (column : String) : Bool :=
  !row.has column || (row.integerList column).toBool

end Flashlist.Row

/-- The ids of 32 bits that a row lists. -/
def problemKeys (row : Row) : List UInt32 := (listedIds problemColumns row).filterMap listedId?

theorem mem_problemKeys {row : Row} {id : UInt32} : id ∈ problemKeys row ↔ row.names id = true := by
  simp only [problemKeys, List.mem_filterMap, listedId?_eq_some_iff, exists_eq_right, listedIds,
    List.mem_flatMap, Row.names, List.any_eq_true]
  refine exists_congr fun column => and_congr_right fun _ => ?_
  unfold Row.lists
  cases row.integerList column with
  | error error => simp
  | ok ids => simp

/-- Whether an entry of a list is the id that the fragments of a FED should carry. -/
def Graph.knows (g : Graph) (entry : Option Int64) : Bool :=
  entry.any fun id => g.feds.any fun fed => listedAs fed.expectedId = id

/-! ## The rule -/

section Rule

variable {g : Graph} (hindexes : g.indexes = g.makeIndexes)

include hindexes

theorem targets_byListed (entry : Option Int64) :
    (byListed g.indexes.fedsByExpectedId Target.fed entry).targets
      = ((listedId? entry).bind fun id =>
          (g.feds.findIdx? fun fed => fed.expectedId = id).map TargetSort.fed.target).toList := by
  have hfind : ∀ id, (g.indexes.fedsByExpectedId.find? id).map Target.fed
      = (g.feds.findIdx? fun fed => fed.expectedId = id).map TargetSort.fed.target := by
    intro id
    simp only [hindexes, Graph.makeIndexes, find?_indexBy, Option.map_map, Option.some.injEq]
    rfl
  cases entry with
  | none => rfl
  | some id =>
    simp only [byListed, byListedId, listedId?, Option.bind_some]
    split
    · rw [RowMatch.targets_ofTargets, hfind, Option.bind_some]
    · rfl

/-- A row leads to the first FED with each id that it lists. -/
theorem leads_problemLists :
    Leads g (byIdLists problemColumns g.indexes.fedsByExpectedId .fed) .fed
      (fun fed => some fed.expectedId) problemKeys := by
  intro row
  have htargets : ∀ (entries : List (Option Int64)) (m : RowMatch),
      (entries.foldl (fun m id =>
          m.append (byListed g.indexes.fedsByExpectedId .fed id)) m).targets
        = m.targets ++ entries.flatMap fun id =>
            (byListed g.indexes.fedsByExpectedId Target.fed id).targets := by
    intro entries
    induction entries with
    | nil => exact fun m => (List.append_nil _).symm
    | cons entry entries ih =>
      intro m
      rw [List.foldl_cons, ih, List.flatMap_cons, ← List.append_assoc]
      rfl
  rw [byIdLists_eq_foldl, htargets, problemKeys, List.filterMap_filterMap]
  simp only [targets_byListed hindexes, RowMatch.ignored, List.nil_append, Option.some.injEq]
  exact (List.filterMap_eq_flatMap_toList _ _).symm

/-- The entries that are of no FED are those that no FED has as the id that its fragments should
    carry. -/
theorem isListed_eq_knows (entry : Option Int64) :
    isListed g.indexes.fedsByExpectedId entry = g.knows entry := by
  have hfind : ∀ id, (g.indexes.fedsByExpectedId.find? id).isSome
      = g.feds.any fun fed => fed.expectedId = id := by
    intro id
    simp only [hindexes, Graph.makeIndexes, find?_indexBy, Option.isSome_map,
      List.findIdx?_isSome, Option.some.injEq]
  -- The index finds an id of 32 bits; the entry reads as it exactly if it is one.
  have hlisted : isListed g.indexes.fedsByExpectedId entry
      = (listedId? entry).any fun id => g.feds.any fun fed => fed.expectedId = id := by
    cases entry with
    | none => rfl
    | some id =>
      simp only [isListed, Option.any_some, listedId?, Option.bind_some, ← hfind]
      by_cases hrange : 0 ≤ id.toInt ∧ id.toInt.toNat < UInt32.size
      · rw [if_pos hrange, decide_eq_true hrange, Bool.true_and, Option.any_some]
      · rw [if_neg hrange, decide_eq_false hrange, Bool.false_and, Option.any_none]
  rw [hlisted, Bool.eq_iff_iff, Graph.knows]
  simp only [Option.any_eq_true, List.any_eq_true, decide_eq_true_eq, listedId?_eq_some_iff]
  constructor
  · rintro ⟨id, hentry, fed, hfed, rfl⟩
    exact ⟨_, hentry, fed, hfed, rfl⟩
  · rintro ⟨id, hentry, fed, hfed, rfl⟩
    exact ⟨_, hentry, fed, hfed, rfl⟩

end Rule

/-! ## FEDs -/

namespace Fed

/-- A FED with the given flags. -/
def withProblems (inError withoutFragments : Bool) (fed : Fed) : Fed :=
  { fed with state := { fed.state with inError, withoutFragments } }

section Flags

variable (fed : Fed) (row : Row)

theorem toBool_optional (column : String) :
    (row.optional column [] Row.integerList).toBool = row.listsOrLacks column := by
  unfold Row.optional Row.listsOrLacks
  cases row.has column <;> rfl

/-- What a FED looks for in a column that may be absent is what the row lists there. -/
theorem contains_of_optional {column : String} {ids : List Int64}
    (h : row.optional column [] Row.integerList = .ok ids) (id : UInt32) :
    ids.contains (listedAs id) = row.lists column id := by
  unfold Row.optional at h
  cases hhas : row.has column with
  | true =>
    rw [hhas, if_pos rfl] at h
    simp only [Row.lists, h]
  | false =>
    rw [hhas, if_neg Bool.false_ne_true] at h
    have habsent : row.find? column = none := by simpa [Row.has] using hhas
    have hmissing : row.integerList column = .error (.missing column) := by
      rw [Row.integerList, Row.readList, Row.read, Row.value, habsent]
      rfl
    rw [Row.lists, hmissing, ← Except.ok.inj h]
    rfl

/-- The flags of a FED after a row: what the row lists. The row is refused if it has a column that is
    no list of integers. -/
theorem take_lists :
    TargetSort.fed.take .ru (some row) fed =
      if problemColumns.all row.listsOrLacks then
        fed.withProblems (row.lists "fedIdsWithErrors" fed.expectedId)
          (row.lists "fedIdsWithoutFragments" fed.expectedId)
      else fed := by
  have hupdate : TargetSort.fed.update fed .ru row
      = (fed.state.afterProblemLists fed.expectedId row).map fun state => { fed with state } := rfl
  have hall : problemColumns.all row.listsOrLacks
      = ((row.optional "fedIdsWithErrors" [] Row.integerList).toBool &&
          (row.optional "fedIdsWithoutFragments" [] Row.integerList).toBool) := by
    simp only [problemColumns, List.all_cons, List.all_nil, Bool.and_true, toBool_optional]
  rw [hall, TargetSort.take, hupdate, State.afterProblemLists]
  cases herrors : row.optional "fedIdsWithErrors" [] Row.integerList with
  | error error => rfl
  | ok withErrors =>
    cases hlacking : row.optional "fedIdsWithoutFragments" [] Row.integerList with
    | error error => rfl
    | ok lacking =>
      rw [← contains_of_optional row herrors, ← contains_of_optional row hlacking]
      rfl

end Flags

end Fed

/-! ## Tables -/

section Tables

variable (session : Session) {g : Graph} (hindexes : g.indexes = g.makeIndexes)
  (hfeds : g.Addressable .fed) (rows : List Row) {n : Nat} {fed : Fed}

include hindexes hfeds

/-- A FED gets the last row that names it, unless an earlier FED has the same id. -/
theorem Table.row?_problemLists (hfed : g.feds[n]? = some fed) :
    Table.row? session g rows .fed n .ru =
      if (g.feds.take n).any (·.expectedId = fed.expectedId) then none
      else rows.reverse.find? (·.names fed.expectedId) := by
  have he : (g.entities .fed)[n]? = some fed := hfed
  have hunits : (Route.hostname .rus).row? session g rows .fed n = none :=
    Route.row?_eq_none (by decide)
  rw [Table.row?, plan, List.findSome?_cons, hunits, List.findSome?_singleton, Route.row?,
    if_pos (hfeds.lt he)]
  refine ((leads_problemLists hindexes).given_self hfeds he).trans ?_
  simp only [dueRow, he, Option.bind_some, Option.some.injEq]
  congr 2
  funext row
  rw [Bool.eq_iff_iff, decide_eq_true_iff, mem_problemKeys]

/-- A FED after a table: cleared, or with the flags of the last row that names it. -/
theorem getElem?_feds_dispatch {f : Flashlist} (hkind : f.dispatchKind? = some .ru)
    (hfed : g.feds[n]? = some fed) :
    (dispatch session g f).graph.feds[n]? = some (
      match if (g.feds.take n).any (·.expectedId = fed.expectedId) then none
        else f.rows.reverse.find? (·.names fed.expectedId) with
      | none => fed.withProblems false false
      | some row =>
        if problemColumns.all row.listsOrLacks then
          fed.withProblems (row.lists "fedIdsWithErrors" fed.expectedId)
            (row.lists "fedIdsWithoutFragments" fed.expectedId)
        else fed.withProblems false false) := by
  have he : (g.entities .fed)[n]? = some fed := hfed
  have hafter := getElem?_dispatch session g hkind he
  rw [Table.row?_problemLists session hindexes hfeds f.rows hfed] at hafter
  refine hafter.trans (congrArg some ?_)
  -- All flags are cleared before the row is given out.
  have haside : Table.aside session .ru f.rows .fed n fed = fed.withProblems false false := rfl
  rw [haside]
  generalize (if (g.feds.take n).any (·.expectedId = fed.expectedId) then none
    else f.rows.reverse.find? (·.names fed.expectedId)) = row?
  cases row? with
  | none => rfl
  | some row => exact Fed.take_lists (fed.withProblems false false) row

end Tables

theorem find?_reverse_of_last {α : Type} (p : α → Bool) {a : α} {after : List α} (ha : p a = true)
    (hafter : ∀ later ∈ after, p later = false) (before : List α) :
    (before ++ a :: after).reverse.find? p = some a := by
  have hnone : after.reverse.find? p = none :=
    List.find?_eq_none.2 fun later hlater => by
      simp [hafter later (List.mem_reverse.1 hlater)]
  rw [List.reverse_append, List.reverse_cons, List.append_assoc, List.find?_append, hnone,
    List.singleton_append, List.find?_cons_of_pos ha, Option.none_or]

/-! ## The main result -/

namespace Monitor

/-- After a table of the readout units no FED has changed but for the two flags. A FED that no row
    names has none of them, nor has one whose id an earlier FED has as well. Any other FED has those
    that the last row that names it says; but that row is refused, and the FED has none, if one of
    the columns of the row is no list of integers. The counts grow by the ids that are listed, and by
    one for each column that is no list; what is of no FED is missing. -/
theorem dispatch_problemLists (m : Monitor) (hindexes : m.graph.indexes = m.graph.makeIndexes)
    (hfeds : m.graph.Addressable .fed) (f : Flashlist) (hkind : f.dispatchKind? = some .ru) :
    (m.dispatch f).1.graph.feds.length = m.graph.feds.length ∧
    (∀ n fed, m.graph.feds[n]? = some fed →
      ((∀ row ∈ f.rows, row.names fed.expectedId = false) ∨
          (m.graph.feds.take n).any (·.expectedId = fed.expectedId) = true →
        (m.dispatch f).1.graph.feds[n]? = some (fed.withProblems false false)) ∧
      ∀ before row after, f.rows = before ++ row :: after →
        row.names fed.expectedId = true → (∀ later ∈ after, later.names fed.expectedId = false) →
        (m.graph.feds.take n).any (·.expectedId = fed.expectedId) = false →
        (m.dispatch f).1.graph.feds[n]? = some (
          if problemColumns.all row.listsOrLacks then
            fed.withProblems (row.lists "fedIdsWithErrors" fed.expectedId)
              (row.lists "fedIdsWithoutFragments" fed.expectedId)
          else fed.withProblems false false)) ∧
    ((m.dispatch f).1.stats.of .ru).listEntries
      = (m.stats.of .ru).listEntries +
          .ofNat (f.rows.flatMap (listedIds problemColumns)).length ∧
    ((m.dispatch f).1.stats.of .ru).missingListEntries
      = (m.stats.of .ru).missingListEntries +
          .ofNat ((f.rows.flatMap (listedIds problemColumns)).countP (!m.graph.knows ·)) := by
  have hgraph := m.graph_dispatch f
  have hstats := m.stats_dispatch f .ru
  rw [account, if_pos hkind] at hstats
  have hentries : (Table.account m.session m.graph .ru f.rows).counts.listEntries
      = .ofNat (f.rows.flatMap (listedIds problemColumns)).length := by
    rw [← Table.listed_ru]
    rfl
  have hmissing : (Table.account m.session m.graph .ru f.rows).counts.missingListEntries
      = .ofNat ((f.rows.flatMap (listedIds problemColumns)).countP (!m.graph.knows ·)) := by
    simp only [Account.counts, Table.account, Table.listed_ru, isListed_eq_knows hindexes]
  refine ⟨?_, fun n fed hfed => ⟨fun hnone => ?_, ?_⟩, ?_, ?_⟩
  · rw [hgraph, dispatch_graph m.session m.graph hkind]
    exact List.length_mapIdx
  · rw [hgraph, getElem?_feds_dispatch m.session hindexes hfeds hkind hfed]
    rcases hnone with hnone | hearlier
    · have hfind : f.rows.reverse.find? (·.names fed.expectedId) = none :=
        List.find?_eq_none.2 fun row hrow => by simp [hnone row (List.mem_reverse.1 hrow)]
      rw [hfind, ite_self]
    · rw [if_pos hearlier]
  · intro before row after hrows hnames hlater hfirst
    have hlast : f.rows.reverse.find? (·.names fed.expectedId) = some row := by
      rw [hrows]
      exact find?_reverse_of_last (·.names fed.expectedId) hnames hlater before
    rw [hgraph, getElem?_feds_dispatch m.session hindexes hfeds hkind hfed, hlast, hfirst,
      if_neg Bool.false_ne_true]
  · rw [hstats, ← hentries]
    rfl
  · rw [hstats, ← hmissing]
    rfl

/-- Of three FEDs that all have flags the first is named by two rows, the second by none, and the
    third has the id of the first. The last row repeats the id, and lists ids of no FED, one of them
    negative and one that is the known id beyond 32 bits. -/
theorem dispatch_problemLists_repeated :
    let fed (uid : UInt64) (expectedId : UInt32) : Fed :=
      { uid := ⟨uid⟩, id := 1, expectedId, state := { inError := true, withoutFragments := true } }
    let m : Monitor :=
      { graph := Graph.indexed { uid := ⟨1⟩, feds := [fed 2 7, fed 3 8, fed 4 7] }, session := {} }
    let last : Row := .object [("fedIdsWithErrors", .list []), ("fedIdsWithoutFragments",
      .list [.ofNat 7, .ofNat 7, .ofInt64 (-1), .ofNat 4294967303, .ofNat 9])]
    let f : Flashlist := .ofKind .ru [.object [("fedIdsWithErrors", .list [.ofNat 7])], last]
    m.graph.indexes = m.graph.makeIndexes ∧ m.graph.Addressable .fed ∧ f.dispatchKind? = some .ru ∧
      (m.dispatch f).1.graph.feds = [(fed 2 7).withProblems false true,
        (fed 3 8).withProblems false false, (fed 4 7).withProblems false false] ∧
      ((m.dispatch f).1.stats.of .ru).listEntries = 7 ∧
      ((m.dispatch f).1.stats.of .ru).missingListEntries = 4 := by
  intro fed m last f
  have hindexes : m.graph.indexes = m.graph.makeIndexes := rfl
  have hfeds : m.graph.Addressable .fed := by decide
  have hkind : f.dispatchKind? = some .ru := rfl
  obtain ⟨hlength, hfed, hentries, hmissing⟩ := m.dispatch_problemLists hindexes hfeds f hkind
  refine ⟨hindexes, hfeds, hkind, List.ext_getElem? fun n => ?_, hentries.trans (by decide),
    hmissing.trans (by decide)⟩
  match n with
  | 0 =>
    exact (hfed 0 (fed 2 7) rfl).2 [.object [("fedIdsWithErrors", .list [.ofNat 7])]] last [] rfl
      (by decide) (List.forall_mem_nil _) (by decide)
  | 1 => exact (hfed 1 (fed 3 8) rfl).1 (.inl (by decide))
  | 2 => exact (hfed 2 (fed 4 7) rfl).1 (.inr (by decide))
  | n + 3 =>
    rw [List.getElem?_eq_none (by rw [hlength]; exact Nat.le_add_left 3 n)]
    rfl

end Monitor

end DaqMonitor

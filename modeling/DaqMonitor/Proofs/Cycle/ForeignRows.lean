/-
  DaqMonitor.Proofs.Cycle.ForeignRows

  States of subsystems that belong to another session.

  The tables with values of the run come first in a cycle and leave the session
  that all other tables find. A row with the state of a subsystem is passed over
  unless its session id, as a text, contains the id of that session. Rows that are
  passed over have no effect on the entities and are not counted, so a cycle hangs
  on the other rows alone.

  A part of a text is not the whole of it: in session 35 the rows of session 351
  are taken for rows of the session.

    * `Monitor.sessionInForce m flashlists` — the session that a cycle comes to.
    * `runCycle_of_withoutForeign_eq` — a cycle hangs on the rows of its session.
    * `runCycle_without_foreign_row` — a row of a session whose id does not contain
      that of the session in force may be left out.
    * `runCycle_with_longer_id` — one whose id does contain it may not.
-/
import DaqMonitor.Proofs.Cycle.Accounting
import DaqMonitor.Proofs.Cycle.Refinement
import DaqMonitor.Proofs.Cycle.Tables

namespace DaqMonitor

open Flashlist Matching

/-! ## Session ids of rows -/

/-- A row is of session `id`: its session id is that whole number, or the digits of it. -/
def Flashlist.Row.isOfSession (row : Row) (id : Int) : Prop :=
  (row.find? "SID").bind Json.int? = some id ∨ row.find? "SID" = some (.text (Text.ofInt id))

theorem Text.ofInt_natCast (n : Nat) : Text.ofInt n = Text.ofNat n := by
  rw [Text.ofInt, if_neg (by omega), Int.natAbs_natCast]

/-- A row of a session has the digits of its id as the text of its session id. -/
theorem Flashlist.Row.text_of_isOfSession {row : Row} {id : Int} (h : row.isOfSession id) :
    row.text "SID" = .ok (Text.ofInt id) := by
  unfold Row.text Row.read Row.value
  rcases h with hnumber | htext
  · obtain ⟨sid, hsid, hint⟩ := Option.bind_eq_some_iff.1 hnumber
    rw [hsid]
    cases sid with
    | number n =>
      cases n with
      | natural n =>
        obtain rfl : (n.toNat : Int) = id := Option.some.inj hint
        exact congrArg Except.ok (Text.ofInt_natCast n.toNat).symm
      | negative i =>
        obtain rfl : i.toInt = id := Option.some.inj hint
        rfl
      | real x => cases hint
    | _ => cases hint
  · rw [htext]
    rfl

/-- Such a row is of the session in force where the one id contains the other. -/
theorem ofSession_of_isOfSession {row : Row} {id : Int} (h : row.isOfSession id)
    (sessionId : Int64) :
    ofSession sessionId row = Text.contains (Text.ofInt id) (Text.ofInt sessionId.toInt) := by
  unfold ofSession
  rw [row.text_of_isOfSession h]

/-! ## Tables without foreign rows -/

section Tables

variable (session : Session) (g : Graph) (rows : List Row)

/-- Whether a row with the state of a subsystem is one of the session of the graph. -/
def Graph.ofItsSession (row : Row) : Bool := g.sessionId.any fun sessionId => ofSession sessionId row

theorem matchLevelZeroSubsystem_of_foreign {row : Row} (h : g.ofItsSession row = false) :
    matchLevelZeroSubsystem g session row = .ignored := by
  unfold Graph.ofItsSession at h
  unfold matchLevelZeroSubsystem
  cases hid : g.sessionId with
  | none => rfl
  | some id =>
    rw [hid, Option.any_some] at h
    simp [h]

/-- Who is given a row by a table is given the same by the table without foreign rows. -/
theorem given_filter_ofItsSession (t : Target) :
    (Outcome.ofRows ((rows.filter g.ofItsSession).map (matchLevelZeroSubsystem g session))).given
        (rows.filter g.ofItsSession) t
      = (Outcome.ofRows (rows.map (matchLevelZeroSubsystem g session))).given rows t := by
  rw [Outcome.given_ofRows, Outcome.given_ofRows, ← List.filter_reverse, List.find?_filter]
  congr 1
  funext row
  cases hrow : g.ofItsSession row with
  | true => simp
  | false => simp [matchLevelZeroSubsystem_of_foreign session g hrow, RowMatch.ignored]

/-- Foreign rows change nothing. -/
theorem Table.effect_filter_ofItsSession :
    Table.effect session g .levelZeroSubsystems (rows.filter g.ofItsSession)
      = Table.effect session g .levelZeroSubsystems rows := by
  simp only [effect, effectOn, plan, List.foldr_cons, List.foldr_nil, Route.effect, Route.matches?,
    Route.gives, funext (given_filter_ofItsSession session g rows)]

/-- The targets that an outcome has rejected are those that reject what it has for them. -/
theorem Matching.Outcome.mem_rejected {o : Outcome} {kind : Kind} {t : Target} :
    t ∈ o.rejected g kind rows ↔ (o.given rows t).any (g.rejects kind t) = true := by
  rw [rejected, List.mem_filter, SortedMap.mem_keys_iff]
  refine and_iff_right_of_imp fun hany => ?_
  -- Whoever is given a row has one.
  unfold given rowFor? at hany
  cases hrow : o.rowOf.find? t with
  | none =>
    rw [hrow] at hany
    cases hany
  | some n => rfl

theorem Matching.Outcome.nodup_rejected (o : Outcome) (kind : Kind) :
    (o.rejected g kind rows).Nodup :=
  (SortedMap.nodup_keys o.rowOf).filter _

/-- Outcomes that have the same for all targets have as many rejected. -/
theorem Matching.Outcome.length_rejected_congr (kind : Kind) {o o' : Outcome} {rows' : List Row}
    (h : ∀ t, o.given rows t = o'.given rows' t) :
    (o.rejected g kind rows).length = (o'.rejected g kind rows').length := by
  refine List.Perm.length_eq ((List.perm_ext_iff_of_nodup ?_ ?_).2 fun t => ?_)
  · exact o.nodup_rejected g rows kind
  · exact o'.nodup_rejected g rows' kind
  · rw [mem_rejected, mem_rejected, h]

theorem countP_zipIdx {α : Type} (p : α → Bool) (l : List α) :
    l.zipIdx.countP (fun e => p e.1) = l.countP p := by
  conv_rhs => rw [← List.zipIdx_map_fst 0 l, List.countP_map]
  rfl

/-- The rows that are considered are those of the session. -/
theorem Table.considered_levelZeroSubsystems :
    considered session g .levelZeroSubsystems rows
      = (rows.zipIdx.filter fun r => g.ofItsSession r.1).map (·.2) :=
  considered_eq session g .levelZeroSubsystems rows (r := .levelZeroSubsystems) List.mem_cons_self

theorem Table.length_considered_levelZeroSubsystems :
    (considered session g .levelZeroSubsystems rows).length = rows.countP g.ofItsSession := by
  rw [considered_levelZeroSubsystems, List.length_map, ← List.countP_eq_length_filter]
  exact countP_zipIdx g.ofItsSession rows

/-- Those of them that are missing lead to no target. -/
theorem Table.length_missing_levelZeroSubsystems :
    ((considered session g .levelZeroSubsystems rows).filter
        (!resolves session g .levelZeroSubsystems rows ·)).length
      = rows.countP fun row =>
          g.ofItsSession row && (matchLevelZeroSubsystem g session row).targets.isEmpty := by
  rw [considered_levelZeroSubsystems, List.filter_map, List.length_map, List.filter_filter,
    ← List.countP_eq_length_filter]
  conv_rhs => rw [← countP_zipIdx]
  refine List.countP_congr fun r hr => ?_
  have hrow : rows[r.2]? = some r.1 := List.mem_zipIdx_iff_getElem?.1 hr
  simp [resolves, plan, Route.resolves, Route.matches?, hrow, and_comm]

/-- Foreign rows are not counted. -/
theorem Table.account_filter_ofItsSession :
    Table.account session g .levelZeroSubsystems (rows.filter g.ofItsSession)
      = Table.account session g .levelZeroSubsystems rows := by
  have hfailed := Outcome.length_rejected_congr g (rows.filter g.ofItsSession) .levelZeroSubsystems
    (given_filter_ofItsSession session g rows)
  ext
  · simp [account, length_considered_levelZeroSubsystems, List.countP_filter]
  · simp only [account, length_missing_levelZeroSubsystems, List.countP_filter]
    refine List.countP_congr fun row _ => ?_
    simp [and_comm]
  · simpa [account, plan, Route.rejections, Route.matches?] using hfailed
  · rfl
  · rfl

/-- Without rows nothing changes. -/
theorem Table.effect_levelZeroSubsystems_nil :
    Table.effect session g .levelZeroSubsystems [] = .none := by
  funext s n e
  have hnone : ∀ t, (Outcome.ofRows []).given [] t = none := by
    intro t
    unfold Outcome.given
    cases (Outcome.ofRows []).rowFor? t <;> rfl
  exact Effect.give_of_eq_none (hnone _) e

theorem Table.account_levelZeroSubsystems_nil :
    Table.account session g .levelZeroSubsystems [] = 0 := by
  ext <;> rfl

end Tables

/-! ## Cycles -/

/-- A flashlist with states of subsystems without the rows that are not of a session. -/
def Flashlist.withoutForeign (sessionId? : Option Int64) (f : Flashlist) : Flashlist :=
  if f.kind = some .levelZeroSubsystems then
    { f with rows := f.rows.filter fun row => sessionId?.any fun id => ofSession id row }
  else f

namespace Monitor

/-- The session that is in force in a cycle after its tables with values of the run. -/
def sessionInForce (m : Monitor) (flashlists : List Flashlist) : Option Int64 :=
  (m.dispatchAll (dispatchable .levelZeroDynamic flashlists)).1.graph.sessionId

theorem sessionInForce_eq (m : Monitor) (flashlists : List Flashlist) :
    m.sessionInForce flashlists = (m.afterRunTables flashlists).graph.sessionId := by
  have htables : tables (dispatchable .levelZeroDynamic flashlists) = runTables flashlists := by
    rw [runTables, filter_tables]
    unfold tables
    refine List.filterMap_eq_map_iff_forall_eq_some.2 fun f hf => ?_
    have hkind := of_decide_eq_true (List.mem_filter.1 hf).2
    rw [Flashlist.table?, hkind]
    rfl
  have hrun : ∀ t ∈ runTables flashlists, t.kind = .levelZeroDynamic :=
    fun _ ht => kind_of_mem_runTables flashlists ht
  rw [sessionInForce, dispatchAll_eq, htables, foldl_taking_of_runValues hrun rfl]
  rfl

/-- Two monitors have the same graph, and their counts are the same for each kind. -/
structure Agrees (m m' : Monitor) : Prop where
  graph : m.graph = m'.graph
  session : m.session = m'.session
  counts : ∀ kind, m.stats.of kind = m'.stats.of kind

namespace Agrees

variable {m m' m'' : Monitor}

theorem refl (m : Monitor) : m.Agrees m := ⟨rfl, rfl, fun _ => rfl⟩

theorem symm (h : m.Agrees m') : m'.Agrees m :=
  ⟨h.graph.symm, h.session.symm, fun kind => (h.counts kind).symm⟩

theorem trans (h : m.Agrees m') (h' : m'.Agrees m'') : m.Agrees m'' :=
  ⟨h.graph.trans h'.graph, h.session.trans h'.session,
    fun kind => (h.counts kind).trans (h'.counts kind)⟩

/-- Tables of one kind that do and count the same. -/
theorem taking (h : m.Agrees m') (c : Graph) (kind : Kind) {rows rows' : List Row}
    (heffect : Table.effect m.session c kind rows = Table.effect m.session c kind rows')
    (haccount : Table.account m.session c kind rows = Table.account m.session c kind rows') :
    (m.taking c ⟨kind, rows⟩).Agrees (m'.taking c ⟨kind, rows'⟩) where
  graph := by simp only [Monitor.taking, ← h.graph, ← h.session, heffect]
  session := h.session
  counts kind' := by
    simp only [Monitor.taking, MatchStats.of_record?, Table.recorded?_eq_account, h.counts,
      ← h.session, haccount]

/-- A table that does nothing and counts nothing may be left out. -/
theorem taking_of_idle (h : m.Agrees m') (c : Graph) {t : Table}
    (heffect : Table.effect m.session c t.kind t.rows = .none)
    (haccount : Table.account m.session c t.kind t.rows = 0) : (m.taking c t).Agrees m' where
  graph := by
    simp only [Monitor.taking, heffect, h.graph]
    exact m'.graph.apply_none
  session := h.session
  counts kind' := by
    simp [Monitor.taking, MatchStats.of_record?, Table.recorded?_eq_account, h.counts, haccount,
      Account.counts_zero]

end Agrees

section Thinning

variable {c : Graph} {m m' : Monitor}

/-- Flashlists with states of subsystems that were retrieved may be taken as tables, even those that
    are passed over for want of rows. -/
theorem agrees_foldl_table? (c : Graph) (m : Monitor) {f : Flashlist}
    (hkind : f.kind = some .levelZeroSubsystems) (havailable : f.available = true) :
    (f.table?.toList.foldl (taking c) m).Agrees (m.taking c ⟨.levelZeroSubsystems, f.rows⟩) := by
  cases hrows : f.rows with
  | nil =>
    have hnone : f.table? = none := by
      simp [Flashlist.table?, Flashlist.dispatchKind?, Flashlist.isEmpty, havailable, hkind, hrows]
    rw [hnone]
    exact ((Agrees.refl m).taking_of_idle c (t := ⟨.levelZeroSubsystems, []⟩)
      (Table.effect_levelZeroSubsystems_nil m.session c)
      (Table.account_levelZeroSubsystems_nil m.session c)).symm
  | cons row rows =>
    have hsome : f.table? = some ⟨.levelZeroSubsystems, row :: rows⟩ := by
      simp [Flashlist.table?, Flashlist.dispatchKind?, Flashlist.isEmpty, havailable, hkind, hrows]
    rw [hsome]
    exact .refl _

/-- A flashlist does the same with and without its foreign rows. -/
theorem agrees_withoutForeign (h : m.Agrees m') (c : Graph) (f : Flashlist) :
    (f.table?.toList.foldl (taking c) m).Agrees
      ((f.withoutForeign c.sessionId).table?.toList.foldl (taking c) m') := by
  by_cases hkind : f.kind = some .levelZeroSubsystems
  · have hthin : f.withoutForeign c.sessionId = { f with rows := f.rows.filter c.ofItsSession } :=
      if_pos hkind
    rw [hthin]
    by_cases havailable : f.available = true
    · have hrows := h.taking c .levelZeroSubsystems
        (Table.effect_filter_ofItsSession m.session c f.rows).symm
        (Table.account_filter_ofItsSession m.session c f.rows).symm
      refine (agrees_foldl_table? c m hkind havailable).trans (hrows.trans ?_)
      exact (agrees_foldl_table? (f := { f with rows := f.rows.filter c.ofItsSession }) c m' hkind
        havailable).symm
    · have hnone : ∀ rows, ({ f with rows } : Flashlist).table? = none := by
        intro rows
        simp [Flashlist.table?, Flashlist.dispatchKind?, havailable]
      rw [hnone, hnone]
      exact h
  · rw [show f.withoutForeign c.sessionId = f from if_neg hkind]
    cases f.table? with
    | none => exact h
    | some t => exact h.taking c t.kind rfl rfl

theorem tables_cons (f : Flashlist) (rest : List Flashlist) :
    tables (f :: rest) = f.table?.toList ++ tables rest := by
  unfold tables
  cases ht : f.table? with
  | none => rw [List.filterMap_cons_none ht, Option.toList_none, List.nil_append]
  | some t => rw [List.filterMap_cons_some ht, Option.toList_some, List.singleton_append]

/-- Flashlists one after the other do the same with and without their foreign rows. -/
theorem agrees_foldl_withoutForeign (h : m.Agrees m') (c : Graph) (flashlists : List Flashlist) :
    ((tables flashlists).foldl (taking c) m).Agrees
      ((tables (flashlists.map (·.withoutForeign c.sessionId))).foldl (taking c) m') := by
  induction flashlists generalizing m m' with
  | nil => exact h
  | cons f rest ih =>
    rw [List.map_cons, tables_cons, tables_cons, List.foldl_append, List.foldl_append]
    exact ih (agrees_withoutForeign h c f)

end Thinning

/-- Leaving foreign rows out keeps the order of the flashlists. -/
theorem inOrder_map_withoutForeign (sessionId? : Option Int64) (flashlists : List Flashlist) :
    inOrder (flashlists.map (·.withoutForeign sessionId?))
      = (inOrder flashlists).map (·.withoutForeign sessionId?) := by
  have hplace : ∀ f : Flashlist, placeOf (f.withoutForeign sessionId?) = placeOf f := by
    intro f
    unfold Flashlist.withoutForeign
    split <;> rfl
  refine (List.map_mergeSort fun f _ g _ => ?_).symm
  rw [hplace, hplace]

theorem dispatchable_map_withoutForeign (sessionId? : Option Int64) (flashlists : List Flashlist) :
    dispatchable .levelZeroDynamic (flashlists.map (·.withoutForeign sessionId?))
      = dispatchable .levelZeroDynamic flashlists := by
  have hother : ∀ f : Flashlist, f.kind = some .levelZeroSubsystems →
      f.dispatchKind? ≠ some .levelZeroDynamic := by
    intro f hkind hdynamic
    rw [Flashlist.kind_of_dispatchKind? hdynamic] at hkind
    cases hkind
  induction flashlists with
  | nil => rfl
  | cons f rest ih =>
    unfold dispatchable at ih ⊢
    by_cases hkind : f.kind = some .levelZeroSubsystems
    · have hthin : (f.withoutForeign sessionId?).kind = some .levelZeroSubsystems := by
        rw [Flashlist.withoutForeign, if_pos hkind]
        exact hkind
      rw [List.map_cons, List.filter_cons_of_neg (by simpa using hother _ hthin),
        List.filter_cons_of_neg (by simpa using hother f hkind), ih]
    · have hsame : f.withoutForeign sessionId? = f := if_neg hkind
      rw [List.map_cons, hsame, List.filter_cons, List.filter_cons, ih]

/-- All dispatches of a cycle come to the same without foreign rows. -/
theorem agrees_dispatchAll_withoutForeign (m : Monitor) (flashlists : List Flashlist) :
    (m.dispatchAll (inOrder flashlists)).1.Agrees
      (m.dispatchAll (inOrder
        (flashlists.map (·.withoutForeign (m.sessionInForce flashlists))))).1 := by
  have hrun : runTables (flashlists.map (·.withoutForeign (m.sessionInForce flashlists)))
      = runTables flashlists := by
    rw [runTables, runTables, filter_tables, filter_tables, dispatchable_map_withoutForeign]
  have hafter : m.afterRunTables (flashlists.map (·.withoutForeign (m.sessionInForce flashlists)))
      = m.afterRunTables flashlists := by
    rw [afterRunTables, hrun, afterRunTables]
  rw [dispatchAll_inOrder, dispatchAll_inOrder, hafter, inOrder_map_withoutForeign,
    sessionInForce_eq]
  exact agrees_foldl_withoutForeign (.refl m) _ _

/-- What a cycle makes of the graph and of the counts hangs on the rows of its session alone. -/
theorem runCycle_of_withoutForeign_eq (m : Monitor) (time : UInt64) {xs ys : List Flashlist}
    (hsession : m.sessionInForce xs = m.sessionInForce ys)
    (h : xs.map (·.withoutForeign (m.sessionInForce xs))
      = ys.map (·.withoutForeign (m.sessionInForce xs))) :
    (m.runCycle xs time).1.Agrees (m.runCycle ys time).1 := by
  have hxs := m.agrees_dispatchAll_withoutForeign xs
  have hys := m.agrees_dispatchAll_withoutForeign ys
  rw [← hsession, ← h] at hys
  have hall := hxs.trans hys.symm
  refine ⟨?_, hall.session, hall.counts⟩
  exact congrArg (finish · time) hall.graph

/-- A row with the state of a subsystem may be left out of a cycle if it is of a session whose id, in
    digits, does not contain the id of the session in force: the graph is the same, and so are the
    counts of all kinds. Where no session is in force that goes for every row. -/
theorem runCycle_without_foreign_row (m : Monitor) (time : UInt64) {before after : List Flashlist}
    {f : Flashlist} (hkind : f.kind = some .levelZeroSubsystems) {above below : List Row} {row : Row}
    (hrows : f.rows = above ++ row :: below) {id : Int} (hid : row.isOfSession id)
    (hother : ∀ current, m.sessionInForce (before ++ f :: after) = some current →
      Text.contains (Text.ofInt id) (Text.ofInt current.toInt) = false) :
    let all := (m.runCycle (before ++ f :: after) time).1
    let fewer := (m.runCycle (before ++ { f with rows := above ++ below } :: after) time).1
    all.graph = fewer.graph ∧ ∀ kind, all.stats.of kind = fewer.stats.of kind := by
  intro all fewer
  have hforeign : ((m.sessionInForce (before ++ f :: after)).any fun current =>
      ofSession current row) = false := by
    cases hcurrent : m.sessionInForce (before ++ f :: after) with
    | none => rfl
    | some current =>
      rw [Option.any_some, ofSession_of_isOfSession hid, hother current hcurrent]
  have hthin : f.withoutForeign (m.sessionInForce (before ++ f :: after))
      = ({ f with rows := above ++ below } : Flashlist).withoutForeign
          (m.sessionInForce (before ++ f :: after)) := by
    simp only [Flashlist.withoutForeign, hkind, if_true, hrows, List.filter_append,
      List.filter_cons, hforeign, Bool.false_eq_true, if_false]
  have hsession : m.sessionInForce (before ++ f :: after)
      = m.sessionInForce (before ++ { f with rows := above ++ below } :: after) := by
    unfold sessionInForce
    rw [← dispatchable_map_withoutForeign (m.sessionInForce (before ++ f :: after)),
      ← dispatchable_map_withoutForeign (m.sessionInForce (before ++ f :: after)) (before ++ _ :: _),
      List.map_append, List.map_cons, List.map_append, List.map_cons, hthin]
  have hagrees := m.runCycle_of_withoutForeign_eq time hsession (by
    rw [List.map_append, List.map_cons, List.map_append, List.map_cons, hthin])
  exact ⟨hagrees.graph, hagrees.counts⟩

/-- The cycle itself comes to session 12, and the last row of the table is of session 352. -/
theorem runCycle_without_foreign_row_of_new_session :
    let m : Monitor :=
      { graph := Graph.indexed
          { uid := ⟨1⟩, run := { sessionId := some 352 }
            subSystems := [{ uid := ⟨2⟩, name := "ECAL" }] }
        session := {} }
    let run : Flashlist := .ofKind .levelZeroDynamic
      [.object [("FMURL", .text "http://l0"), ("SID", .ofNat 12), ("RUN_NUMBER", .ofNat 1),
        ("STATE", .text "Running")]]
    let row (id state : String) : Row :=
      .object [("SID", .text id), ("SUBSYS", .text "ECAL"), ("STATE", .text state)]
    let f : Flashlist := .ofKind .levelZeroSubsystems [row "12" "Running", row "352" "Error"]
    let all := (m.runCycle [f, run] 1).1
    let fewer := (m.runCycle [{ f with rows := [row "12" "Running"] }, run] 1).1
    m.sessionInForce [f, run] = some 12 ∧ (row "352" "Error").isOfSession 352 ∧
      Text.contains (Text.ofInt 352) (Text.ofInt (12 : Int64).toInt) = false ∧
      all.graph = fewer.graph ∧ ∀ kind, all.stats.of kind = fewer.stats.of kind := by
  intro m run row f all fewer
  have hsession : m.sessionInForce [f, run] = some 12 := by decide +kernel
  have hdigits : Text.ofInt 352 = "352" := by decide +kernel
  have hid : (row "352" "Error").isOfSession 352 :=
    .inr (congrArg (some ∘ Json.text) hdigits.symm)
  have hother : Text.contains (Text.ofInt 352) (Text.ofInt (12 : Int64).toInt) = false := by
    decide +kernel
  refine ⟨hsession, hid, hother, ?_⟩
  refine @runCycle_without_foreign_row m 1 [] [run] f rfl [row "12" "Running"] [] (row "352" "Error")
    rfl 352 hid fun current hcurrent => ?_
  obtain rfl : (12 : Int64) = current := Option.some.inj (hsession.symm.trans hcurrent)
  exact hother

/-- In session 35 a row of session 351 is not left out: it overrides the state that a row of the
    session names. -/
theorem runCycle_with_longer_id :
    let m : Monitor :=
      { graph := Graph.indexed
          { uid := ⟨1⟩, run := { sessionId := some 35 }
            subSystems := [{ uid := ⟨2⟩, name := "ECAL" }] }
        session := {} }
    let row (id : Nat) (state : String) : Row :=
      .object [("SID", .ofNat id), ("SUBSYS", .text "ECAL"), ("STATE", .text state)]
    let f : Flashlist := .ofKind .levelZeroSubsystems [row 35 "Running", row 351 "Error"]
    let all := (m.runCycle [f] 1).1
    let fewer := (m.runCycle [{ f with rows := [row 35 "Running"] }] 1).1
    m.sessionInForce [f] = some 35 ∧ (row 351 "Error").isOfSession 351 ∧
      all.graph.subSystems.map (·.status) = [some "Error"] ∧
      fewer.graph.subSystems.map (·.status) = [some "Running"] ∧
      (all.stats.of .levelZeroSubsystems).total = 2 ∧
      (fewer.stats.of .levelZeroSubsystems).total = 1 := by
  intro m row f all fewer
  refine ⟨?_, ?_, ?_, ?_, ?_, ?_⟩
  · decide +kernel
  · exact .inl rfl
  · simp only [all, runCycle, inOrder, List.mergeSort_singleton]
    decide +kernel
  · simp only [fewer, runCycle, inOrder, List.mergeSort_singleton]
    decide +kernel
  · simp only [all, runCycle, inOrder, List.mergeSort_singleton]
    decide +kernel
  · simp only [fewer, runCycle, inOrder, List.mergeSort_singleton]
    decide +kernel

end Monitor

end DaqMonitor

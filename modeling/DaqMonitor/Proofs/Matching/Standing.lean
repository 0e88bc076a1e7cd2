/-
  DaqMonitor.Proofs.Matching.Standing

  Who stands at a position, and which row it gets there.

  An entity stands at a position if everything on the way there exists: the card or
  FMM that it refers to, and the computer or application that controls it. A row
  names one position, or the first two inputs of a whole card. Of the entities at a
  position the first one keeps it, and of the rows that name it the last one counts.
  A row that names a position where somebody stands is resolved, and every other row
  is missed.

    * `Finder.Stands`, `Finder.Names` — where an entity stands, and what a row names.
    * `Finder.Pairing` — the first entity and the last row of every position.
    * `Finder.pairing_matchRows` — matching by position pairs them.
-/
import DaqMonitor.Proofs.Cycle.Accounting
import DaqMonitor.Proofs.Cycle.Refinement

namespace DaqMonitor

open Flashlist Matching

/-! ## Standing at a position -/

/-- A FED is on an input of a card of the given kind, in a slot of a computer. -/
def Fed.OnCard (g : Graph) (kind : CardKind) (fed : Fed) (p : Position) : Prop :=
  ∃ frlId ∈ fed.frl, ∃ frl ∈ frlId.get? g.frls, frl.kind = kind ∧
    ∃ pcId ∈ frl.pc, ∃ pc ∈ pcId.get? g.frlPcs, ∃ input ∈ fed.frlInput,
      p = .ofSlot pc.hostname frl.slot (some input.toNat)

/-- A FED is on an input of an FMM, in a slot of an application. -/
def Fed.OnFmm (g : Graph) (fed : Fed) (p : Position) : Prop :=
  ∃ fmmId ∈ fed.fmm, ∃ fmm ∈ fmmId.get? g.fmms, ∃ app ∈ fmm.application.get? g.fmmApplications,
    ∃ input ∈ fed.fmmInput, p = .ofSlot app.hostname fmm.slot (some input.toNat)

/-- A card is in a slot of a computer. -/
def Frl.InSlot (g : Graph) (frl : Frl) (p : Position) : Prop :=
  ∃ pcId ∈ frl.pc, ∃ pc ∈ pcId.get? g.frlPcs, p = .ofSlot pc.hostname frl.slot

/-- An FMM is in a slot of an application. -/
def Fmm.InSlot (g : Graph) (fmm : Fmm) (p : Position) : Prop :=
  ∃ app ∈ fmm.application.get? g.fmmApplications, p = .ofSlot app.hostname fmm.slot

/-- A partition is on an output of an FMM, in a slot of an application. -/
def TtcPartition.OnFmm (g : Graph) (partition : TtcPartition) (p : Position) : Prop :=
  ∃ fmmId ∈ partition.fmm, ∃ fmm ∈ fmmId.get? g.fmms,
    ∃ app ∈ fmm.application.get? g.fmmApplications,
      p = .ofSlot app.hostname fmm.slot (some partition.fmmOutput.toNat)

namespace Matching.Finder

/-- An entity stands at a position. -/
def Stands (g : Graph) : (finder : Finder) → finder.sort.Entity → Position → Prop
  | fedOnFerolStream | fedOnFrl => Fed.OnCard g .ferol
  | fedOnFerol40Stream => Fed.OnCard g .ferol40
  | fedOnFmm => Fed.OnFmm g
  | frl => Frl.InSlot g
  | fmm => Fmm.InSlot g
  | ttcPartition => TtcPartition.OnFmm g

theorem position?_eq_some_iff {g : Graph} (finder : Finder) {e : finder.sort.Entity}
    {p : Position} : finder.position? g e = some p ↔ finder.Stands g e p := by
  cases finder <;>
  · simp only [position?, Stands, fedOnCard?, Fed.OnCard, fedOnFmm?, Fed.OnFmm, frlPosition?,
      Frl.InSlot, fmmPosition?, Fmm.InSlot, partitionPosition?, TtcPartition.OnFmm,
      Option.bind_eq_bind, Option.bind_eq_some_iff, Option.mem_def, Option.pure_def,
      Option.ite_none_right_eq_some, Option.some.injEq, eq_comm (a := p)]

/-! ## Naming a position -/

/-- The column with the slot. -/
def slotColumn : Finder → String
  | fedOnFerolStream | fedOnFerol40Stream | fedOnFrl | frl => "slotNumber"
  | fedOnFmm | fmm | ttcPartition => "geoslot"

/-- The inputs that a row names: that of its own column, the first two for a whole card, and no input
    for what is looked for in the slot itself. -/
def inputs (row : Row) : Finder → Except RowError (List (Option Int64))
  | fedOnFerolStream | fedOnFerol40Stream => (row.integer "streamNumber").map fun i => [some i]
  | fedOnFmm => (row.integer "io").map fun i => [some i]
  | fedOnFrl | ttcPartition => .ok [some 0, some 1]
  | frl | fmm => .ok [none]

/-- A row names a position: all its columns can be read, and what they tell is the position. -/
def Names (finder : Finder) (row : Row) (p : Position) : Prop :=
  ∃ context inputs, row.text "context" = .ok context ∧
    row.integer finder.slotColumn = .ok p.slot ∧ finder.inputs row = .ok inputs ∧
    p.host = hostOfContext context ∧ p.input ∈ inputs

theorem rowPositions_eq (finder : Finder) (row : Row) :
    finder.rowPositions row = row.text "context" >>= fun context =>
      row.integer finder.slotColumn >>= fun slot => finder.inputs row >>= fun inputs =>
        .ok (inputs.map fun input => { host := hostOfContext context, slot, input }) := by
  cases finder <;> simp only [rowPositions, slotColumn, inputs, bind_map, ok_bind] <;> rfl

theorem mem_positionKeys (finder : Finder) {row : Row} {p : Position} :
    p ∈ finder.positionKeys row ↔ finder.Names row p := by
  have hmem : p ∈ finder.positionKeys row ↔ ∃ ps, finder.rowPositions row = .ok ps ∧ p ∈ ps := by
    unfold positionKeys
    cases finder.rowPositions row <;> simp
  rw [hmem, rowPositions_eq]
  constructor
  · rintro ⟨ps, hps, hp⟩
    obtain ⟨context, hcontext, hps⟩ := bind_eq_ok_iff.1 hps
    obtain ⟨slot, hslot, hps⟩ := bind_eq_ok_iff.1 hps
    obtain ⟨inputs, hinputs, hps⟩ := bind_eq_ok_iff.1 hps
    cases hps
    obtain ⟨input, hinput, rfl⟩ := List.mem_map.1 hp
    exact ⟨context, inputs, hcontext, hslot, hinputs, rfl, hinput⟩
  · rintro ⟨context, inputs, hcontext, hslot, hinputs, hhost, hinput⟩
    refine ⟨inputs.map fun input => { host := hostOfContext context, slot := p.slot, input }, ?_, ?_⟩
    · rw [hcontext, ok_bind, hslot, ok_bind, hinputs, ok_bind]
    · exact List.mem_map.2 ⟨p.input, hinput, by rw [← hhost]⟩

/-! ## Entities and rows -/

section Pairing

variable (g : Graph) (finder : Finder) (rows : List Row)

/-- A row is about a target: it names a position, and the target is that of the first entity
    there. -/
def Reaches (row : Row) (t : Target) : Prop :=
  ∃ p n e, finder.Names row p ∧ FirstWith (finder.Stands g · p) (g.entities finder.sort) n e ∧
    finder.sort.target n = t

/-- An outcome pairs the first entity at each position with the last row that names it. -/
structure Pairing (o : Matching.Outcome) : Prop where
  /-- A target gets the last of the rows that are about it. -/
  target_iff : ∀ t i, o.rowFor? t = some i ↔ ∃ row, LastWith (finder.Reaches g · t) rows i row
  /-- So the first entity at a position gets the last row that names it, and no entity gets any other
      row; past the range of ids entities share their target. -/
  entity_iff : g.Addressable finder.sort → ∀ n e i, (g.entities finder.sort)[n]? = some e →
    (o.rowFor? (finder.sort.target n) = some i ↔
      ∃ p row, FirstWith (finder.Stands g · p) (g.entities finder.sort) n e ∧
        LastWith (finder.Names · p) rows i row)
  /-- A row is resolved if somebody stands at a position that it names. -/
  resolved_iff : ∀ i, i ∈ o.resolvedRows ↔ ∃ row, rows[i]? = some row ∧
    ∃ p, finder.Names row p ∧ ∃ e ∈ g.entities finder.sort, finder.Stands g e p
  /-- A row is missed if nobody does, be it that it names no position. -/
  missed_iff : ∀ i, i ∈ o.missedRows ↔ ∃ row, rows[i]? = some row ∧
    ∀ p, finder.Names row p → ∀ e ∈ g.entities finder.sort, ¬ finder.Stands g e p
  /-- Every row is either resolved or missed. -/
  rows_perm : (o.resolvedRows ++ o.missedRows).Perm (List.range rows.length)
  matched_eq : o.matched = o.resolvedRows.length
  unmatched_eq : o.unmatched = o.missedRows.length

variable {g finder rows}

theorem Stands.unique {e : finder.sort.Entity} {p p' : Position} (h : finder.Stands g e p)
    (h' : finder.Stands g e p') : p = p' := by
  rw [← position?_eq_some_iff] at h h'
  rw [h] at h'
  exact Option.some.inj h'

/-- What a row is about. -/
theorem mem_targets_matchRow (row : Row) (t : Target) :
    t ∈ (finder.matchRow (finder.candidates g) row).targets ↔ finder.Reaches g row t := by
  have hfirst : ∀ p n, (g.entities finder.sort).findIdx? (finder.position? g · = some p) = some n ↔
      ∃ e, FirstWith (finder.Stands g · p) (g.entities finder.sort) n e := by
    intro p n
    simp only [findIdx?_eq_some_iff_firstWith, position?_eq_some_iff]
  rw [leads_position finder row, List.mem_filterMap]
  constructor
  · rintro ⟨p, hp, htarget⟩
    obtain ⟨n, hn, rfl⟩ := Option.map_eq_some_iff.1 htarget
    obtain ⟨e, he⟩ := (hfirst p n).1 hn
    exact ⟨p, n, e, finder.mem_positionKeys.1 hp, he, rfl⟩
  · rintro ⟨p, n, e, hp, he, rfl⟩
    exact ⟨p, finder.mem_positionKeys.2 hp, by rw [(hfirst p n).2 ⟨e, he⟩, Option.map_some]⟩

/-- A row is about something where somebody stands at a position that it names. -/
theorem exists_reaches_iff {row : Row} : (∃ t, finder.Reaches g row t) ↔
    ∃ p, finder.Names row p ∧ ∃ e ∈ g.entities finder.sort, finder.Stands g e p := by
  constructor
  · rintro ⟨t, p, n, e, hp, he, -⟩
    exact ⟨p, hp, e, List.mem_of_getElem? he.value, he.has⟩
  · rintro ⟨p, hp, hstands⟩
    obtain ⟨n, e, he⟩ := exists_firstWith_iff.2 hstands
    exact ⟨_, p, n, e, hp, he, rfl⟩

theorem hits_matchRow_iff (row : Row) :
    0 < (finder.matchRow (finder.candidates g) row).hits ↔
      ∃ p, finder.Names row p ∧ ∃ e ∈ g.entities finder.sort, finder.Stands g e p := by
  have hfair : 0 < (finder.matchRow (finder.candidates g) row).hits ↔
      (finder.matchRow (finder.candidates g) row).targets ≠ [] := finder.fair_matchRow _ row
  rw [hfair, ← List.isEmpty_eq_false_iff, List.isEmpty_eq_false_iff_exists_mem, ← exists_reaches_iff]
  exact exists_congr fun t => mem_targets_matchRow row t

/-- A row that is no hit is a miss. -/
theorem misses_matchRow_iff (candidates : List (Position × Target)) (row : Row) :
    0 < (finder.matchRow candidates row).misses ↔ ¬ 0 < (finder.matchRow candidates row).hits := by
  have hunits := finder.units_matchRow candidates row
  unfold RowMatch.units at hunits
  omega

theorem units_of_mem_matches :
    ∀ m ∈ rows.map (finder.matchRow (finder.candidates g)), m.units = 1 :=
  List.forall_mem_map.2 fun row _ => finder.units_matchRow _ row

theorem rowFor?_matchRows (t : Target) (i : Nat) :
    (finder.matchRows g rows).rowFor? t = some i ↔
      ∃ row, LastWith (finder.Reaches g · t) rows i row := by
  unfold matchRows
  rw [Outcome.rowFor?_ofRows_eq_some_iff, exists_lastWith_map]
  exact exists_congr fun row => LastWith.congr fun row => mem_targets_matchRow row t

/-- The rows that are about the target of an entity are those that name its position, if it is the
    first one there. -/
theorem reaches_target_iff (hs : g.Addressable finder.sort) {n : Nat} {e : finder.sort.Entity}
    (he : (g.entities finder.sort)[n]? = some e) (row : Row) :
    finder.Reaches g row (finder.sort.target n) ↔
      ∃ p, FirstWith (finder.Stands g · p) (g.entities finder.sort) n e ∧ finder.Names row p := by
  constructor
  · rintro ⟨p, n', e', hp, hfirst, htarget⟩
    obtain rfl : n' = n := g.target_inj hs hfirst.value he htarget
    obtain rfl : e' = e := Option.some.inj (hfirst.value.symm.trans he)
    exact ⟨p, hfirst, hp⟩
  · rintro ⟨p, hfirst, hp⟩
    exact ⟨p, n, e, hp, hfirst, rfl⟩

/-- Matching by position pairs the first entity at each position with the last row that names it. -/
theorem pairing_matchRows : finder.Pairing g rows (finder.matchRows g rows) where
  target_iff := rowFor?_matchRows
  entity_iff := by
    intro hs n e i he
    rw [rowFor?_matchRows]
    constructor
    · rintro ⟨row, hvalue, hreaches, hlast⟩
      obtain ⟨p, hfirst, hp⟩ := (reaches_target_iff hs he row).1 hreaches
      refine ⟨p, row, hfirst, hvalue, hp, fun j row' hj hrow' hp' => ?_⟩
      exact hlast j row' hj hrow' ((reaches_target_iff hs he row').2 ⟨p, hfirst, hp'⟩)
    · rintro ⟨p, row, hfirst, hvalue, hp, hlast⟩
      refine ⟨row, hvalue, (reaches_target_iff hs he row).2 ⟨p, hfirst, hp⟩, ?_⟩
      intro j row' hj hrow' hreaches
      obtain ⟨p', hfirst', hp'⟩ := (reaches_target_iff hs he row').1 hreaches
      obtain rfl : p = p' := hfirst.has.unique hfirst'.has
      exact hlast j row' hj hrow' hp'
  resolved_iff := by
    intro i
    unfold matchRows
    simp only [Outcome.mem_resolvedRows_map, hits_matchRow_iff]
  missed_iff := by
    intro i
    unfold matchRows
    simp only [Outcome.mem_missedRows_map, misses_matchRow_iff, hits_matchRow_iff, not_exists,
      not_and]
  rows_perm := by
    unfold matchRows
    refine (List.perm_ext_iff_of_nodup ?_ List.nodup_range).2 fun i => ?_
    · refine List.nodup_append.2 ⟨nodup_numbers, nodup_numbers, fun i hi j hj => ?_⟩
      rintro rfl
      obtain ⟨row, hrow, hhits⟩ := Outcome.mem_resolvedRows_map.1 hi
      obtain ⟨row', hrow', hmisses⟩ := Outcome.mem_missedRows_map.1 hj
      obtain rfl : row = row' := Option.some.inj (hrow.symm.trans hrow')
      exact (misses_matchRow_iff _ row).1 hmisses hhits
    · rw [List.mem_append, Outcome.mem_resolvedRows_or_missedRows_map, List.mem_range]
      simp [finder.units_matchRow, List.getElem?_eq_some_iff]
  matched_eq := (Outcome.matched_eq_length units_of_mem_matches).1
  unmatched_eq := (Outcome.matched_eq_length units_of_mem_matches).2

end Pairing

/-- A card with two FEDs on one input, and one FED whose card is missing. The last row about the card
    names two inputs and goes to the first FED; a slot that cannot be read and an empty one are
    missed. -/
theorem pairing_matchRows_shared_input :
    let fed (uid : UInt64) (id : UInt32) (frl : UInt32) (input : UInt8) : Fed :=
      { uid := ⟨uid⟩, id, expectedId := id, frl := some ⟨frl⟩, frlInput := some input }
    let card : Frl := { uid := ⟨3⟩, slot := 7, kind := .ferol, subFedBuilder := ⟨0⟩, pc := some ⟨0⟩ }
    let g : Graph :=
      { uid := ⟨1⟩, frlPcs := [{ uid := ⟨2⟩, hostname := "frlpc" }], frls := [card]
        feds := [fed 4 1 0 0, fed 5 2 0 0, fed 6 3 1 1] }
    let row (slot : String) : Row :=
      .object [("context", .text "http://frlpc:1972"), ("slotNumber", .text slot)]
    let rows := [row "7", row "x", row "7", row "8"]
    let o := fedOnFrl.matchRows g rows
    g.Addressable .fed ∧ (g.entities .fed)[0]? = some (fed 4 1 0 0) ∧
      o.rowFor? (.fed ⟨0⟩) = some 2 ∧ o.rowFor? (.fed ⟨1⟩) = none ∧ o.rowFor? (.fed ⟨2⟩) = none ∧
      (o.resolvedRows, o.missedRows) = ([0, 2], [1, 3]) ∧
      ∃ p row, FirstWith (fedOnFrl.Stands g · p) (g.entities .fed) 0 (fed 4 1 0 0) ∧
        LastWith (fedOnFrl.Names · p) rows 2 row := by
  intro fed card g row rows o
  have hfeds : g.Addressable .fed := by decide
  have hfed : (g.entities .fed)[0]? = some (fed 4 1 0 0) := rfl
  have hrow : o.rowFor? (.fed ⟨0⟩) = some 2 := rfl
  have hpairing : fedOnFrl.Pairing g rows o := pairing_matchRows
  exact ⟨hfeds, hfed, hrow, rfl, rfl, rfl, (hpairing.entity_iff hfeds 0 _ 2 hfed).1 hrow⟩

end Matching.Finder

end DaqMonitor

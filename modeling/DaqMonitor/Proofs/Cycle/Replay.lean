/-
  DaqMonitor.Proofs.Cycle.Replay

  One row of each kind, in any order of the kinds.

  Where an entity stands decides which of two kinds with one topic has rows for it:
  a FED is on a card of one generation, and only the event manager gets the rows of
  its table. So the rows of different kinds that an entity got may change places,
  and a new row of a kind takes the place of the last one before.

    * `Graph.Suits g s n kind` — a table of the kind may have rows for an entity.
    * `TargetSort.replay s lastRow kinds e` — an entity after one row of each kind.
    * `Fits.takeAll_perm` — the order of the kinds is of no matter.
    * `Fits.remember` — a new row takes the place of the last one, unless it is refused.
-/
import DaqMonitor.Proofs.Cycle.Order
import DaqMonitor.Proofs.Cycle.Rowwise
import DaqMonitor.Proofs.Graph.Overwriting

namespace DaqMonitor

open Flashlist Matching

/-! ## Who has rows in which tables -/

/-- Tables about cards of one generation have rows for the FEDs on these cards alone, and the table
    of the event manager has rows for no other unit. -/
def Graph.Suits (g : Graph) (s : TargetSort) (n : Nat) : Kind → Prop
  | .evm => s = .ru → g.rus[n]?.any (·.isEvm)
  | .ferolInputStream | .ferolConfiguration => s = .fed → g.OnCard .ferol n
  | .ferol40InputStream | .ferol40StreamConfiguration => s = .fed → g.OnCard .ferol40 n
  | _ => True

namespace Graph

theorem onCard_skeleton (g : Graph) (card : CardKind) (n : Nat) :
    g.skeleton.OnCard card n ↔ g.OnCard card n := by
  have hcard : ∀ fed : Fed, fedOnCard? g.skeleton card fed.reset = fedOnCard? g card fed :=
    fedOnCard?_context g card
  have hfeds : g.skeleton.feds = g.feds.map Fed.reset := g.entities_skeleton .fed
  unfold OnCard
  rw [hfeds, List.getElem?_map]
  cases g.feds[n]? with
  | none => simp
  | some fed => simp [hcard]

/-- Who has rows in which tables is a matter of the skeleton. -/
theorem suits_skeleton (g : Graph) (s : TargetSort) (n : Nat) (kind : Kind) :
    g.skeleton.Suits s n kind ↔ g.Suits s n kind := by
  -- Which unit is the event manager is fixed, and so is where cards and FEDs are plugged in.
  have hevm : g.skeleton.rus[n]?.any (·.isEvm) = g.rus[n]?.any (·.isEvm) := by
    have hrus : g.skeleton.rus = g.rus.map Ru.reset := g.entities_skeleton .ru
    rw [hrus, List.getElem?_map, Option.any_map]
    rfl
  cases kind <;> simp only [Suits, onCard_skeleton, hevm]

theorem Suits.congr {g h : Graph} {s : TargetSort} {n : Nat} {kind : Kind}
    (hsuits : g.Suits s n kind) (hskel : g.skeleton = h.skeleton) : h.Suits s n kind := by
  rwa [← suits_skeleton, ← hskel, suits_skeleton]

end Graph

section Rows

variable {session : Session} {g : Graph} {rows : List Row} {row : Row}

theorem Graph.onCard_of_row? {finder : Finder} {card : CardKind}
    (hcandidates : finder.candidates g = positioned (fedOnCard? g card) .fed g.feds)
    (hfeds : g.Addressable .fed) {n : Nat}
    (h : (Route.position finder).row? session g rows .fed n = some row) : g.OnCard card n := by
  unfold Route.row? at h
  split at h
  · rename_i hn
    exact Finder.exists_fed_of_given hcandidates hfeds hn h
  · cases h

theorem Graph.isEvm_of_row? (hrus : g.Addressable .ru) {n : Nat} {ru : Ru}
    (hru : g.rus[n]? = some ru) (h : Route.evm.row? session g rows .ru n = some row) :
    g.rus[n]?.any (·.isEvm) := by
  have hentity : (g.entities .ru)[n]? = some ru := hru
  unfold Route.row? at h
  split at h
  · obtain ⟨ms, hms, hgiven⟩ := Option.bind_eq_some_iff.1 h
    obtain ⟨m, hm, ht⟩ := Outcome.exists_of_given_eq_some hgiven
    by_cases hlength : rows.length = 1
    · rw [Route.matches?, if_pos hlength] at hms
      cases hms
      obtain rfl := List.mem_singleton.1 hm
      exact ((target_mem_matchEvm hrus hentity).1 ht).2
    · rw [Route.matches?, if_neg hlength] at hms
      cases hms
  · cases h

/-- Whoever has a row in a table may have one. -/
theorem Graph.suits_of_row? (hrus : g.Addressable .ru) (hfeds : g.Addressable .fed)
    {s : TargetSort} {n : Nat} {e : s.Entity} (he : (g.entities s)[n]? = some e) {kind : Kind}
    (h : Table.row? session g rows s n kind = some row) : g.Suits s n kind := by
  obtain ⟨r, hr, hrow⟩ := Table.exists_route_of_row? h
  cases kind with
  | evm =>
    rintro rfl
    obtain rfl := List.mem_singleton.1 hr
    exact isEvm_of_row? hrus he hrow
  | ferolInputStream =>
    rintro rfl
    obtain rfl := List.mem_singleton.1 hr
    exact onCard_of_row? rfl hfeds hrow
  | ferol40InputStream =>
    rintro rfl
    obtain rfl := List.mem_singleton.1 hr
    exact onCard_of_row? rfl hfeds hrow
  | ferolConfiguration =>
    rintro rfl
    -- The route by host is for the computers of the cards.
    rcases List.mem_cons.1 hr with rfl | hr
    · rw [Route.row?_eq_none (by decide)] at hrow
      cases hrow
    · obtain rfl := List.mem_singleton.1 hr
      exact onCard_of_row? rfl hfeds hrow
  | ferol40StreamConfiguration =>
    rintro rfl
    obtain rfl := List.mem_singleton.1 hr
    exact onCard_of_row? rfl hfeds hrow
  | _ => trivial

end Rows

/-! ## One row of each kind -/

namespace TargetSort

variable (s : TargetSort) (lastRow : Kind → Option Row) (kinds : List Kind) (e : s.Entity)

/-- The entity after one row of each of some kinds, as far as there is one, or why a row is
    refused. -/
def replay : Except RowError s.Entity :=
  kinds.foldlM (fun e kind =>
    match lastRow kind with
    | none => .ok e
    | some row => s.update e kind row) e

/-- The entity after one row of each of some kinds, where rows that are refused change nothing. -/
def takeAll : s.Entity := kinds.foldl (fun e kind => s.take kind (lastRow kind) e) e

theorem fixed_takeAll : s.fixed (s.takeAll lastRow kinds e) = s.fixed e := by
  unfold takeAll
  induction kinds generalizing e with
  | nil => rfl
  | cons kind kinds ih => rw [List.foldl_cons, ih, fixed_take]

theorem takeAll_none : s.takeAll (fun _ => none) kinds e = e := by
  unfold takeAll
  induction kinds with
  | nil => rfl
  | cons kind kinds ih => exact ih

variable {lastRow kinds e}

/-- If the entity accepts the row of each kind, it accepts all of them in a row. -/
theorem replay_eq_takeAll
    (h : ∀ kind row, lastRow kind = some row → s.refuses kind row e = false) :
    s.replay lastRow kinds e = .ok (s.takeAll lastRow kinds e) := by
  induction kinds generalizing e with
  | nil => rfl
  | cons kind kinds ih =>
    have hrest := ih (e := s.take kind (lastRow kind) e) fun kind' row hrow => by
      rw [refuses_congr (fixed_take _ e), h kind' row hrow]
    have hfirst : (match lastRow kind with
        | none => .ok e
        | some row => s.update e kind row : Except RowError s.Entity)
          = .ok (s.take kind (lastRow kind) e) := by
      cases hrow : lastRow kind with
      | none => rfl
      | some row => exact update_of_refuses_eq_false (h kind row hrow)
    unfold replay at hrest ⊢
    rw [List.foldlM_cons, hfirst]
    exact hrest

end TargetSort

/-! ## Rows that may change places -/

/-- A row of a kind, if there is one, changes nothing. -/
def TargetSort.Idle (s : TargetSort) (b : s.Entity) (kind : Kind) (row? : Option Row) : Prop :=
  ∀ e, s.fixed e = s.fixed b → s.take kind row? e = e

/-- Rows that the entity of a sort at a position may have got and accepts, one of each kind. -/
structure Fits (g : Graph) (s : TargetSort) (n : Nat) (b : s.Entity)
    (lastRow : Kind → Option Row) : Prop where
  there : (g.entities s)[n]? = some b
  suits : ∀ {kind row}, lastRow kind = some row → g.Suits s n kind
  accepted : ∀ {kind row}, lastRow kind = some row → s.refuses kind row b = false

/-- The rows that an entity keeps in mind after another one of a kind: the last one of the kind is the
    new one, if there is one and it is not refused. -/
def TargetSort.remember (s : TargetSort) (kind : Kind) (row? : Option Row) (e : s.Entity)
    (lastRow : Kind → Option Row) : Kind → Option Row :=
  match row? with
  | none => lastRow
  | some row => if s.refuses kind row e then lastRow else Function.update lastRow kind (some row)

namespace Fits

variable {g : Graph} {s : TargetSort} {n : Nat} {b : s.Entity} {lastRow : Kind → Option Row}
  {k l : Kind}

/-- No rows at all. -/
theorem of_none (there : (g.entities s)[n]? = some b) : Fits g s n b fun _ => none where
  there := there
  suits hrow := by cases hrow
  accepted hrow := by cases hrow

/-- Rows about other sorts are no matter for an entity. -/
theorem idle_of_ne {s' : TargetSort} (hsorts : ∀ t ∈ topics k, t.sorts = [s']) (hs : s ≠ s') :
    s.Idle b k (lastRow k) := by
  refine fun e _ => (TargetSort.take_speaks _).eq_self (fun t ht => s.part_eq_fixed ?_) e
  rw [hsorts t ht, List.mem_singleton]
  exact hs

section Order

variable (hfits : Fits g s n b lastRow)

include hfits

/-- Rows that an entity cannot have got. -/
theorem idle_of_not_suits (h : ¬ g.Suits s n k) : s.Idle b k (lastRow k) := by
  cases hrow : lastRow k with
  | none => exact fun _ _ => rfl
  | some row => exact absurd (hfits.suits hrow) h

/-- A readout unit is the event manager or is not. -/
theorem idle_units : s.Idle b .ru (lastRow .ru) ∨ s.Idle b .evm (lastRow .evm) := by
  by_cases hs : s = .ru
  · subst hs
    have hb : g.rus[n]? = some b := hfits.there
    cases hevm : Ru.isEvm b with
    | true =>
      refine .inl fun ru hru => Ru.take_ru_of_isEvm ?_ _
      have hsame := congrArg Ru.isEvm hru
      exact hsame.trans hevm
    | false =>
      refine .inr (hfits.idle_of_not_suits fun hsuits => ?_)
      have hany := hsuits rfl
      rw [hb, Option.any_some, hevm] at hany
      cases hany
  · exact .inr (idle_of_ne (by decide) hs)

/-- Of two tables about FEDs on cards of one generation each, a FED gets rows of one alone. -/
theorem idle_feds (hk : g.Suits s n k → s = .fed → g.OnCard .ferol n)
    (hl : g.Suits s n l → s = .fed → g.OnCard .ferol40 n)
    (hsorts : ∀ t ∈ topics k, t.sorts = [.fed]) :
    s.Idle b k (lastRow k) ∨ s.Idle b l (lastRow l) := by
  by_cases hs : s = .fed
  · by_cases hcard : g.OnCard .ferol n
    · exact .inr (hfits.idle_of_not_suits fun hsuits => Graph.not_onCard_both hcard (hl hsuits hs))
    · exact .inl (hfits.idle_of_not_suits fun hsuits => hcard (hk hsuits hs))
  · exact .inl (idle_of_ne hsorts hs)

omit hfits in
/-- A card is of one generation. -/
theorem idle_cards :
    s.Idle b .ferolStatus (lastRow .ferolStatus) ∨
      s.Idle b .ferol40Status (lastRow .ferol40Status) := by
  by_cases hs : s = .frl
  · subst hs
    cases hcard : Frl.kind b with
    | ferol =>
      refine .inr fun frl hfrl => Frl.take_of_ne_statusKind ?_ _
      have hsame := congrArg Frl.kind hfrl
      rw [show frl.kind = .ferol from hsame.trans hcard]
      decide
    | ferol40 =>
      refine .inl fun frl hfrl => Frl.take_of_ne_statusKind ?_ _
      have hsame := congrArg Frl.kind hfrl
      rw [show frl.kind = .ferol40 from hsame.trans hcard]
      decide
  · exact .inl (idle_of_ne (by decide) hs)

/-- No entity gets rows of both kinds of a pair and listens to them. -/
theorem idle_of_rivals (hrivals : (k, l) ∈ rivals) :
    s.Idle b k (lastRow k) ∨ s.Idle b l (lastRow l) := by
  simp only [rivals, List.mem_cons, List.not_mem_nil, or_false, Prod.mk.injEq] at hrivals
  rcases hrivals with ⟨rfl, rfl⟩ | ⟨rfl, rfl⟩ | ⟨rfl, rfl⟩ | ⟨rfl, rfl⟩
  · exact hfits.idle_units
  · exact hfits.idle_feds id id (by decide)
  · exact idle_cards
  · exact hfits.idle_feds id id (by decide)

omit hfits in
/-- Rows of which one changes nothing may change places. -/
theorem comm_of_idle (h : s.Idle b k (lastRow k) ∨ s.Idle b l (lastRow l)) {e : s.Entity}
    (he : s.fixed e = s.fixed b) :
    s.take k (lastRow k) (s.take l (lastRow l) e) = s.take l (lastRow l) (s.take k (lastRow k) e) := by
  rcases h with hidle | hidle
  · rw [hidle e he, hidle _ ((s.fixed_take _ e).trans he)]
  · rw [hidle e he, hidle _ ((s.fixed_take _ e).trans he)]

/-- Rows of different kinds may change places. -/
theorem comm (hne : k ≠ l) {e : s.Entity} (he : s.fixed e = s.fixed b) :
    s.take k (lastRow k) (s.take l (lastRow l) e)
      = s.take l (lastRow l) (s.take k (lastRow k) e) := by
  rcases disjoint_or_rivals hne with hdisjoint | hrivals | hrivals
  · exact (TargetSort.take_speaks _).comm (TargetSort.take_speaks _) hdisjoint e
  · exact comm_of_idle (hfits.idle_of_rivals hrivals) he
  · exact (comm_of_idle (hfits.idle_of_rivals hrivals) he).symm

/-- The order of the kinds is of no matter. -/
theorem takeAll_perm {kinds kinds' : List Kind} (h : kinds.Perm kinds') :
    s.takeAll lastRow kinds b = s.takeAll lastRow kinds' b := by
  refine foldl_eq_of_filter_eq (id : Kind → Kind) (fun e => s.fixed e = s.fixed b) ?_ ?_ ?_ rfl
  · intro e kind he
    rw [s.fixed_take, he]
  · intro e kind kind' he hne
    exact (hfits.comm hne he).symm
  · intro kind
    simp only [id, List.filter_eq, h.count_eq]

end Order

section Accepting

variable (hfits : Fits g s n b lastRow) {row : Row} (hsuits : g.Suits s n k)
  (haccepted : s.refuses k row b = false)

include hfits hsuits haccepted

theorem accept : Fits g s n b (Function.update lastRow k (some row)) where
  there := hfits.there
  suits {kind row'} hrow := by
    by_cases hkind : kind = k
    · rw [hkind]
      exact hsuits
    · rw [Function.update_of_ne hkind] at hrow
      exact hfits.suits hrow
  accepted {kind row'} hrow := by
    by_cases hkind : kind = k
    · subst hkind
      rw [Function.update_self] at hrow
      rw [← Option.some.inj hrow]
      exact haccepted
    · rw [Function.update_of_ne hkind] at hrow
      exact hfits.accepted hrow

/-- A row that is accepted takes the place of the last one of its kind. -/
theorem rowFed_take_takeAll {kinds : List Kind} (hkinds : kinds.Nodup) (hmem : k ∈ kinds) :
    s.rowFed (s.take k (some row) (s.takeAll lastRow kinds b))
      = s.rowFed (s.takeAll (Function.update lastRow k (some row)) kinds b) := by
  -- The kind may come last, after all others, whose rows are the same.
  have hperm : kinds.Perm (kinds.erase k ++ [k]) :=
    (List.perm_cons_erase hmem).trans (List.perm_append_singleton k _).symm
  have hlast : ∀ lastRow', Fits g s n b lastRow' → s.takeAll lastRow' kinds b
      = s.take k (lastRow' k) (s.takeAll lastRow' (kinds.erase k) b) := by
    intro lastRow' hfits'
    rw [hfits'.takeAll_perm hperm, TargetSort.takeAll, List.foldl_append]
    rfl
  have hothers : s.takeAll (Function.update lastRow k (some row)) (kinds.erase k) b
      = s.takeAll lastRow (kinds.erase k) b := by
    refine List.foldl_ext _ _ _ fun e kind hkind => ?_
    have hne : kind ≠ k := by
      rintro rfl
      exact hkinds.not_mem_erase hkind
    rw [Function.update_of_ne hne]
  have haccepted' : s.refuses k row (s.takeAll lastRow (kinds.erase k) b) = false := by
    rw [TargetSort.refuses_congr (s.fixed_takeAll _ _ b), haccepted]
  rw [hlast _ hfits, hlast _ (hfits.accept hsuits haccepted), hothers, Function.update_self,
    TargetSort.rowFed_take_take haccepted']

end Accepting

/-- With another row of a table, the rows that the entity keeps in mind fit again, and make of it what
    the row made of the entity. -/
theorem remember (hfits : Fits g s n b lastRow) {e : s.Entity}
    (hrows : s.rowFed e = s.rowFed (s.takeAll lastRow Kind.all b)) {row? : Option Row}
    (hsuits : ∀ row, row? = some row → g.Suits s n k) :
    Fits g s n b (s.remember k row? e lastRow) ∧
      s.rowFed (s.take k row? e)
        = s.rowFed (s.takeAll (s.remember k row? e lastRow) Kind.all b) := by
  cases row? with
  | none => exact ⟨hfits, hrows⟩
  | some row =>
    -- The entity refuses what it would refuse as built.
    cases hrefuses : s.refuses k row e with
    | true =>
      have hkept : s.remember k (some row) e lastRow = lastRow := if_pos hrefuses
      rw [hkept, TargetSort.take_of_refuses hrefuses]
      exact ⟨hfits, hrows⟩
    | false =>
      have hnew : s.remember k (some row) e lastRow = Function.update lastRow k (some row) :=
        if_neg (by simp [hrefuses])
      have hfixed : s.fixed e = s.fixed b :=
        (TargetSort.fixed_eq_of_rowFed_eq hrows).trans (s.fixed_takeAll _ _ b)
      have haccepted : s.refuses k row b = false := by
        rw [← TargetSort.refuses_congr hfixed, hrefuses]
      have hnodup : Kind.all.Nodup := by decide
      rw [hnew, TargetSort.rowFed_take_congr hrows]
      exact ⟨hfits.accept (hsuits row rfl) haccepted,
        hfits.rowFed_take_takeAll (hsuits row rfl) haccepted hnodup k.mem_all⟩

end Fits

end DaqMonitor

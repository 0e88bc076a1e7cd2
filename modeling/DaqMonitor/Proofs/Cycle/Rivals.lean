/-
  DaqMonitor.Proofs.Cycle.Rivals

  Kinds of tables that share a topic, and why they do not get into each other's way.

  Four pairs of kinds share a topic: the tables of the readout units and of the
  event manager, and three pairs of tables about FEROL and FEROL40 cards. Which of
  the two an entity listens to is fixed: a readout unit is the event manager or is
  not, a card is of one generation. That holds as long as the ids of a graph tell
  its entities apart, and so for no more than `2 ^ 32` entities of one sort.

    * `Graph.Addressable g s` — the ids of a sort tell its entities apart.
    * `Table.comm` — tables of different kinds may change places.
    * `Table.absorb` — a table that comes again makes its first coming void.
-/
import DaqMonitor.Proofs.Cycle.Independence
import DaqMonitor.Proofs.Matching.Finding

namespace DaqMonitor

open Flashlist Matching

/-! ## Ids -/

/-- There are no more entities of a sort than ids, which have 32 bits. Past that entities share their
    ids, and with them their rows. -/
def Graph.Addressable (g : Graph) (s : TargetSort) : Prop := (g.entities s).length ≤ UInt32.size

instance (g : Graph) (s : TargetSort) : Decidable (g.Addressable s) :=
  inferInstanceAs (Decidable (_ ≤ _))

theorem Graph.Addressable.congr {g h : Graph} {s : TargetSort} (hg : g.Addressable s)
    (hskel : g.skeleton = h.skeleton) : h.Addressable s := by
  have hlength := congrArg (fun k : Graph => (k.entities s).length) hskel
  simp only [entities_skeleton, List.length_map] at hlength
  unfold Addressable at hg ⊢
  omega

theorem Graph.Addressable.lt {g : Graph} {s : TargetSort} (hg : g.Addressable s) {n : Nat}
    {e : s.Entity} (he : (g.entities s)[n]? = some e) : n < UInt32.size :=
  Nat.lt_of_lt_of_le (List.getElem?_eq_some_iff.1 he).1 hg

theorem Graph.Addressable.ofNat_inj {g : Graph} {s : TargetSort} (hg : g.Addressable s)
    {arena : Arena} {n m : Nat} {e : s.Entity} (hm : (g.entities s)[m]? = some e)
    (hn : n < UInt32.size) (hid : (EntityId.ofNat n : EntityId arena) = .ofNat m) : n = m := by
  have hnumbers := congrArg EntityId.toNat hid
  rwa [EntityId.toNat_ofNat hn, EntityId.toNat_ofNat (hg.lt hm)] at hnumbers

/-! ## Entities that get no row -/

section NoRow

variable {g : Graph} {kind : Kind} {rows : List Row} {ms : List RowMatch}

theorem Route.gives_eq_self {s : TargetSort} {n : Nat}
    (h : n < UInt32.size → (Outcome.ofRows ms).given rows (s.target n) = none) (e : s.Entity) :
    gives kind rows (some ms) s n e = e := by
  by_cases hlt : n < UInt32.size
  · exact Effect.give_of_eq_none (h hlt) e
  · exact Effect.give_of_not_lt hlt e

theorem Matching.Outcome.exists_of_given_eq_some {t : Target} {row : Row}
    (h : (Outcome.ofRows ms).given rows t = some row) : ∃ m ∈ ms, t ∈ m.targets := by
  obtain ⟨n, hn, -⟩ := Option.bind_eq_some_iff.1 h
  obtain ⟨m, hm, ht⟩ := Outcome.exists_of_rowFor?_eq_some hn
  exact ⟨m, List.mem_of_getElem? hm, ht⟩

/-- A FED that gets a row by its position has one. -/
theorem Matching.Finder.exists_fed_of_given {finder : Finder} {position? : Fed → Option Position}
    (hcandidates : finder.candidates g = positioned position? .fed g.feds)
    (hfeds : g.Addressable .fed) {n : Nat} (hn : n < UInt32.size) {row : Row}
    (h : (Outcome.ofRows (rows.map (finder.matchRow (finder.candidates g)))).given rows
      (.fed (.ofNat n)) = some row) :
    ∃ fed p, g.feds[n]? = some fed ∧ position? fed = some p := by
  obtain ⟨m, hm, ht⟩ := Outcome.exists_of_given_eq_some h
  obtain ⟨row', -, rfl⟩ := List.mem_map.1 hm
  unfold Finder.matchRow at ht
  split at ht
  · simp [RowMatch.miss] at ht
  · rename_i positions hpositions
    rw [RowMatch.targets_ofTargets, List.mem_filterMap] at ht
    obtain ⟨p, -, hp⟩ := ht
    rw [hcandidates, at?_positioned] at hp
    obtain ⟨i, hi, htarget⟩ := Option.map_eq_some_iff.1 hp
    obtain ⟨hlt, hposition, -⟩ := List.findIdx?_eq_some_iff_getElem.1 hi
    have hfed : (g.entities .fed)[i]? = some g.feds[i] := List.getElem?_eq_getElem hlt
    obtain rfl : n = i := by
      exact hfeds.ofNat_inj hfed hn (Target.fed.inj htarget).symm
    exact ⟨_, p, hfed, by simpa using hposition⟩

end NoRow

/-! ## Who does not listen -/

section Idle

variable (session : Session) {g : Graph} (rows : List Row)

/-- The event manager does not listen to the rows of the other units. -/
theorem Ru.take_ru_of_isEvm {ru : Ru} (hevm : ru.isEvm = true) (row? : Option Row) :
    TargetSort.ru.take .ru row? ru = ru := by
  cases row? with
  | none => rfl
  | some row =>
    simp only [TargetSort.take, TargetSort.update, Ru.update, Ru.nextState, if_pos hevm]
    rfl

theorem Table.ru_eq_self (ru : Ru) (hevm : ru.isEvm = true) (n : Nat) :
    Table.effect session g .ru rows .ru n ru = ru := by
  have hgives : ∀ ms, Route.gives .ru rows (some ms) .ru n ru = ru :=
    fun ms => Ru.take_ru_of_isEvm hevm _
  simp only [effect, effectOn, plan, List.foldr_cons, List.foldr_nil, Effect.andThen, Route.effect,
    Route.matches?, hgives, Effect.clearing, Effect.none]

/-- The other units get no row of the table of the event manager. -/
theorem Table.evm_eq_self (hrus : g.Addressable .ru) {n : Nat} {ru : Ru} (hru : g.rus[n]? = some ru)
    (hevm : ru.isEvm = false) (ru' : Ru) : Table.effect session g .evm rows .ru n ru' = ru' := by
  have hgives : Route.gives .evm rows (Route.evm.matches? session g rows) .ru n ru' = ru' := by
    by_cases hlength : rows.length = 1
    · simp only [Route.matches?, if_pos hlength]
      refine Route.gives_eq_self (s := .ru) (fun hn => ?_) ru'
      by_contra hsome
      obtain ⟨row, hrow⟩ := Option.ne_none_iff_exists'.1 hsome
      obtain ⟨m, hm, ht⟩ := Outcome.exists_of_given_eq_some hrow
      obtain rfl := List.mem_singleton.1 hm
      -- The row is about units that are event managers, and about no others.
      rw [matchEvm, RowMatch.targets_ofTargets, List.mem_map] at ht
      obtain ⟨⟨other, i⟩, hother, htarget⟩ := ht
      obtain ⟨hmem, hisEvm⟩ := List.mem_filter.1 hother
      have hi : (g.entities .ru)[i]? = some other := List.mem_zipIdx_iff_getElem?.1 hmem
      obtain rfl : n = i := hrus.ofNat_inj hi hn (Target.ru.inj htarget).symm
      rw [show g.rus[n]? = some other from hi] at hru
      cases hru
      simp [hevm] at hisEvm
    · simp only [Route.matches?, if_neg hlength]
      rfl
  exact hgives

/-- Whether a FED is on a card of a generation. -/
def Graph.OnCard (g : Graph) (kind : CardKind) (n : Nat) : Prop :=
  ∃ fed p, g.feds[n]? = some fed ∧ fedOnCard? g kind fed = some p

/-- The generation of the card of a FED that stands on one. -/
theorem Matching.exists_of_fedOnCard?_eq_some {kind : CardKind} {fed : Fed} {p : Position}
    (h : fedOnCard? g kind fed = some p) :
    ∃ frl, (fed.frl.bind fun id => id.get? g.frls) = some frl ∧ frl.kind = kind := by
  unfold fedOnCard? at h
  simp only [Option.bind_eq_bind] at h
  obtain ⟨id, hid, h⟩ := Option.bind_eq_some_iff.1 h
  obtain ⟨frl, hfrl, h⟩ := Option.bind_eq_some_iff.1 h
  refine ⟨frl, by rw [hid]; exact hfrl, ?_⟩
  by_contra hkind
  rw [if_neg hkind] at h
  cases h

/-- No FED is on cards of both generations. -/
theorem Graph.not_onCard_both {n : Nat} (h : g.OnCard .ferol n) : ¬ g.OnCard .ferol40 n := by
  obtain ⟨fed, p, hfed, hp⟩ := h
  rintro ⟨fed', p', hfed', hp'⟩
  rw [hfed] at hfed'
  cases hfed'
  obtain ⟨frl, hfrl, hkind⟩ := exists_of_fedOnCard?_eq_some hp
  obtain ⟨frl', hfrl', hkind'⟩ := exists_of_fedOnCard?_eq_some hp'
  rw [hfrl] at hfrl'
  cases hfrl'
  rw [hkind] at hkind'
  cases hkind'

/-- FEDs that are on no card of a generation get no row from a table about these cards. -/
theorem Route.gives_position_eq_self {finder : Finder} {card : CardKind}
    (hcandidates : finder.candidates g = positioned (fedOnCard? g card) .fed g.feds)
    (hfeds : g.Addressable .fed) {n : Nat} (hn : ¬ g.OnCard card n) (kind : Kind) (fed : Fed) :
    gives kind rows ((Route.position finder).matches? session g rows) .fed n fed = fed := by
  refine Route.gives_eq_self (s := .fed) (fun hlt => ?_) fed
  by_contra hsome
  obtain ⟨row, hrow⟩ := Option.ne_none_iff_exists'.1 hsome
  exact hn (Finder.exists_fed_of_given hcandidates hfeds hlt hrow)

theorem Route.gives_frlPcs_eq_self (kind : Kind) (n : Nat) (fed : Fed) :
    gives kind rows ((Route.hostname .frlPcs).matches? session g rows) .fed n fed = fed := by
  refine Route.gives_eq_self (s := .fed) (fun hlt => ?_) fed
  by_contra hsome
  obtain ⟨row, hrow⟩ := Option.ne_none_iff_exists'.1 hsome
  obtain ⟨m, hm, ht⟩ := Outcome.exists_of_given_eq_some hrow
  obtain ⟨row', -, rfl⟩ := List.mem_map.1 hm
  unfold matchHostname byHostname at ht
  simp only at ht
  split at ht
  · simp [RowMatch.miss] at ht
  · rw [RowMatch.targets_ofTargets] at ht
    simp [TargetSort.target] at ht

/-- Cards do not listen to rows about the status of the other generation. -/
theorem Frl.take_of_ne_statusKind {frl : Frl} {kind : Kind} (hkind : kind ≠ frl.kind.statusKind)
    (row? : Option Row) : TargetSort.frl.take kind row? frl = frl := by
  cases row? with
  | none => rfl
  | some row => simp only [TargetSort.take, TargetSort.update, Frl.update, if_neg hkind]

theorem Table.status_eq_self {kind : Kind} (hplan : plan kind = [.position .frl]) (frl : Frl)
    (hkind : kind ≠ frl.kind.statusKind) (n : Nat) :
    Table.effect session g kind rows .frl n frl = frl := by
  have hgives : ∀ ms, Route.gives kind rows (some ms) .frl n frl = frl :=
    fun ms => Frl.take_of_ne_statusKind hkind _
  simp only [effect, effectOn, hplan, List.foldr_cons, List.foldr_nil, Effect.andThen, Route.effect,
    Route.matches?, hgives, Effect.none]

end Idle

/-! ## Pairs of kinds -/

/-- The pairs of kinds that share a topic. -/
def rivals : List (Kind × Kind) :=
  [(.ru, .evm), (.ferolInputStream, .ferol40InputStream), (.ferolStatus, .ferol40Status),
    (.ferolConfiguration, .ferol40StreamConfiguration)]

/-- Kinds that are no such pair share no topic. -/
theorem disjoint_or_rivals {k l : Kind} (hne : k ≠ l) :
    (∀ t ∈ topics k, t ∉ topics l) ∨ (k, l) ∈ rivals ∨ (l, k) ∈ rivals := by
  -- There are finitely many kinds, and the tables of topics can be compared.
  have hall : ∀ k ∈ Kind.all, ∀ l ∈ Kind.all, k ≠ l →
      (∀ t ∈ topics k, t ∉ topics l) ∨ (k, l) ∈ rivals ∨ (l, k) ∈ rivals := by decide
  exact hall k k.mem_all l l.mem_all hne

/-- Different kinds share no topic, or both settle theirs, or are those of the streams. -/
theorem disjoint_or_settling {k l : Kind} (hne : k ≠ l) :
    (∀ t ∈ topics k, t ∉ topics l) ∨
      (k = .ferolInputStream ∧ l = .ferol40InputStream) ∨
      (k = .ferol40InputStream ∧ l = .ferolInputStream) ∨
      (carriesTotal k = false ∧ k ≠ .tcdsTtsChannels) ∧
        carriesTotal l = false ∧ l ≠ .tcdsTtsChannels := by
  have hall : ∀ k ∈ Kind.all, ∀ l ∈ Kind.all, k ≠ l →
      (∀ t ∈ topics k, t ∉ topics l) ∨
        (k = .ferolInputStream ∧ l = .ferol40InputStream) ∨
        (k = .ferol40InputStream ∧ l = .ferolInputStream) ∨
        (carriesTotal k = false ∧ k ≠ .tcdsTtsChannels) ∧
          carriesTotal l = false ∧ l ≠ .tcdsTtsChannels := by decide
  exact hall k k.mem_all l l.mem_all hne

section Pairs

variable (session : Session) {g : Graph} {k l : Kind} (rows rows' : List Row)

/-- A table whose topics are about one sort leaves the entities of other sorts alone. -/
theorem Table.eq_self_of_ne {s s' : TargetSort} (hsorts : ∀ t ∈ topics k, t.sorts = [s'])
    (hs : s ≠ s') (n : Nat) (e : s.Entity) : Table.effect session g k rows s n e = e := by
  refine (Table.speaks session g k rows s n).eq_self (fun t ht => s.part_eq_fixed ?_) e
  rw [hsorts t ht, List.mem_singleton]
  exact hs

/-- On the entities with one fixed part, one of two tables does nothing. -/
def Table.Apart (session : Session) (g : Graph) (k l : Kind) (rows rows' : List Row)
    {s : TargetSort} (n : Nat) (e₀ : s.Entity) : Prop :=
  (∀ e, s.fixed e = s.fixed e₀ → Table.effect session g k rows s n e = e) ∨
    ∀ e, s.fixed e = s.fixed e₀ → Table.effect session g l rows' s n e = e

section Apart

variable {s : TargetSort} {n : Nat} {e₀ : s.Entity}

/-- A readout unit is the event manager or is not. -/
theorem Table.apart_units (hrus : g.Addressable .ru) (he₀ : (g.entities s)[n]? = some e₀) :
    Table.Apart session g .ru .evm rows rows' n e₀ := by
  by_cases hs : s = .ru
  · subst hs
    cases hevm : Ru.isEvm e₀ with
    | true =>
      refine .inl fun e he => Table.ru_eq_self session rows e ?_ n
      exact (congrArg Ru.isEvm he).trans hevm
    | false => exact .inr fun e _ => Table.evm_eq_self session rows' hrus he₀ hevm e
  · exact .inr fun e _ => Table.eq_self_of_ne session rows' (by decide) hs n e

/-- A FED is on a stream of a card of one generation. -/
theorem Table.apart_streams (hfeds : g.Addressable .fed) :
    Table.Apart session g .ferolInputStream .ferol40InputStream rows rows' n e₀ := by
  by_cases hs : s = .fed
  · subst hs
    by_cases hcard : g.OnCard .ferol n
    · exact .inr fun e _ => Route.gives_position_eq_self session rows' rfl hfeds
        (Graph.not_onCard_both hcard) .ferol40InputStream e
    · exact .inl fun e _ => Route.gives_position_eq_self session rows rfl hfeds hcard
        .ferolInputStream e
  · exact .inl fun e _ => Table.eq_self_of_ne session rows (by decide) hs n e

/-- A card is of one generation. -/
theorem Table.apart_cards :
    Table.Apart session g .ferolStatus .ferol40Status rows rows' n e₀ := by
  by_cases hs : s = .frl
  · subst hs
    cases hcard : Frl.kind e₀ with
    | ferol =>
      refine .inr fun e he => Table.status_eq_self session rows' rfl e ?_ n
      rw [show Frl.kind e = .ferol from (congrArg Frl.kind he).trans hcard]
      decide
    | ferol40 =>
      refine .inl fun e he => Table.status_eq_self session rows rfl e ?_ n
      rw [show Frl.kind e = .ferol40 from (congrArg Frl.kind he).trans hcard]
      decide
  · exact .inl fun e _ => Table.eq_self_of_ne session rows (by decide) hs n e

/-- A FED is masked on a card of one generation. -/
theorem Table.apart_masks (hfeds : g.Addressable .fed) :
    Table.Apart session g .ferolConfiguration .ferol40StreamConfiguration rows rows' n e₀ := by
  by_cases hs : s = .fed
  · subst hs
    by_cases hcard : g.OnCard .ferol n
    · exact .inr fun e _ => Route.gives_position_eq_self session rows' rfl hfeds
        (Graph.not_onCard_both hcard) .ferol40StreamConfiguration e
    · -- Neither the route by host nor that by position has a row for the FED.
      refine .inl fun e _ => ?_
      have hpcs := Route.gives_frlPcs_eq_self session (g := g) rows .ferolConfiguration n e
      have hferol : Finder.fedOnFrl.candidates g = positioned (fedOnCard? g .ferol) .fed g.feds := rfl
      have hcards := Route.gives_position_eq_self session rows hferol hfeds hcard
        .ferolConfiguration e
      exact (congrArg _ hpcs).trans hcards
  · exact .inl fun e _ => Table.eq_self_of_ne session rows (by decide) hs n e

/-- No entity listens to both kinds of a pair. -/
theorem Table.apart_of_rivals (hrivals : (k, l) ∈ rivals) (hrus : g.Addressable .ru)
    (hfeds : g.Addressable .fed) (he₀ : (g.entities s)[n]? = some e₀) :
    Table.Apart session g k l rows rows' n e₀ := by
  simp only [rivals, List.mem_cons, List.not_mem_nil, or_false, Prod.mk.injEq] at hrivals
  rcases hrivals with ⟨rfl, rfl⟩ | ⟨rfl, rfl⟩ | ⟨rfl, rfl⟩ | ⟨rfl, rfl⟩
  · exact Table.apart_units session rows rows' hrus he₀
  · exact Table.apart_streams session rows rows' hfeds
  · exact Table.apart_cards session rows rows'
  · exact Table.apart_masks session rows rows' hfeds

end Apart

variable {session rows rows'}

/-- Tables of which one does nothing may change places. -/
theorem Table.Apart.comm {s : TargetSort} {n : Nat} {e₀ e : s.Entity}
    (h : Table.Apart session g k l rows rows' n e₀) (he : s.fixed e = s.fixed e₀) :
    Table.effect session g k rows s n (Table.effect session g l rows' s n e)
      = Table.effect session g l rows' s n (Table.effect session g k rows s n e) := by
  have hk : s.fixed (Table.effect session g k rows s n e) = s.fixed e₀ :=
    (Table.fixed_effect session k rows s n e).trans he
  have hl : s.fixed (Table.effect session g l rows' s n e) = s.fixed e₀ :=
    (Table.fixed_effect session l rows' s n e).trans he
  rcases h with hid | hid
  · rw [hid e he, hid _ hl]
  · rw [hid e he, hid _ hk]

/-- Tables of different kinds may change places on an entity of the graph. -/
theorem Table.comm (hne : k ≠ l) (hrus : g.Addressable .ru) (hfeds : g.Addressable .fed)
    {s : TargetSort} {n : Nat} {e₀ : s.Entity} (he₀ : (g.entities s)[n]? = some e₀) {e : s.Entity}
    (he : s.fixed e = s.fixed e₀) :
    Table.effect session g k rows s n (Table.effect session g l rows' s n e)
      = Table.effect session g l rows' s n (Table.effect session g k rows s n e) := by
  rcases disjoint_or_rivals hne with hdisjoint | hrivals | hrivals
  · exact (Table.speaks session g k rows s n).comm (Table.speaks session g l rows' s n) hdisjoint e
  · exact (Table.apart_of_rivals session rows rows' hrivals hrus hfeds he₀).comm he
  · exact ((Table.apart_of_rivals session rows' rows hrivals hrus hfeds he₀).comm he).symm

/-- Of three tables the first is void if it is the third as well, and may change places with the
    second. -/
theorem Table.absorb_of_comm {s : TargetSort} {n : Nat} {e₀ : s.Entity}
    (hcomm : ∀ e, s.fixed e = s.fixed e₀ →
      Table.effect session g k rows s n (Table.effect session g l rows' s n e)
        = Table.effect session g l rows' s n (Table.effect session g k rows s n e))
    {e : s.Entity} (he : s.fixed e = s.fixed e₀) :
    Table.effect session g k rows s n
        (Table.effect session g l rows' s n (Table.effect session g k rows s n e))
      = Table.effect session g k rows s n (Table.effect session g l rows' s n e) := by
  have hk : s.fixed (Table.effect session g k rows s n e) = s.fixed e₀ :=
    (Table.fixed_effect session k rows s n e).trans he
  rw [hcomm _ hk, Table.again, hcomm e he]

/-- Of three tables the first is void if it is the third as well. For tables with running totals of
    one kind that holds if all three are the same table. -/
theorem Table.absorb (htotal : k = l → carriesTotal k = true → rows = rows')
    (hfeds : g.Addressable .fed) {s : TargetSort} {n : Nat} {e₀ e : s.Entity}
    (he : s.fixed e = s.fixed e₀) :
    Table.effect session g k rows s n
        (Table.effect session g l rows' s n (Table.effect session g k rows s n e))
      = Table.effect session g k rows s n (Table.effect session g l rows' s n e) := by
  by_cases hkind : k = l
  · subst hkind
    cases htotal' : carriesTotal k with
    | false => exact Table.absorb_of_kind_eq session g k rows htotal' rows' s n e
    | true =>
      obtain rfl := htotal rfl htotal'
      simp only [Table.again]
  · rcases disjoint_or_settling hkind with hdisjoint | ⟨rfl, rfl⟩ | ⟨rfl, rfl⟩ | ⟨⟨hk, hk'⟩, hl, hl'⟩
    · -- Kinds apart change places; so do the two kinds of streams.
      refine Table.absorb_of_comm (fun e' _ => ?_) he
      exact (Table.speaks session g k rows s n).comm (Table.speaks session g l rows' s n) hdisjoint e'
    · exact Table.absorb_of_comm
        (fun _ he' => (Table.apart_streams session rows rows' hfeds).comm he') he
    · exact Table.absorb_of_comm
        (fun _ he' => ((Table.apart_streams session rows' rows hfeds).comm he').symm) he
    · -- All other kinds with a topic in common settle what they speak about.
      exact (Table.settles session g k rows hk hk' s n).absorb
        (Table.settles session g l rows' hl hl' s n) (Table.speaks session g k rows s n)
        (Table.speaks session g l rows' s n) e

end Pairs

/-! ## On graphs -/

section Graphs

variable {session : Session} {g h : Graph} {k l : Kind} {rows rows' : List Row}

/-- Tables of different kinds may change places. -/
theorem Table.apply_comm (session : Session) (rows rows' : List Row) (hne : k ≠ l)
    (hrus : g.Addressable .ru) (hfeds : g.Addressable .fed) (hskel : h.skeleton = g.skeleton) :
    (h.apply (Table.effect session g k rows)).apply (Table.effect session g l rows')
      = (h.apply (Table.effect session g l rows')).apply (Table.effect session g k rows) := by
  refine Graph.apply_comm fun s n e he => ?_
  obtain ⟨e₀, he₀, hfixed⟩ := Graph.exists_entity_of_skeleton_eq hskel he
  exact Table.comm hne hrus hfeds he₀ hfixed.symm

/-- Of three tables the first has no effect where it is the third as well. -/
theorem Table.apply_absorb (htotal : k = l → carriesTotal k = true → rows = rows')
    (hfeds : g.Addressable .fed) (h : Graph) :
    ((h.apply (Table.effect session g k rows)).apply (Table.effect session g l rows')).apply
        (Table.effect session g k rows)
      = (h.apply (Table.effect session g l rows')).apply (Table.effect session g k rows) := by
  rw [Graph.apply_apply, Graph.apply_apply, Graph.apply_apply]
  exact Graph.apply_congr fun s n e _ => Table.absorb htotal hfeds rfl

theorem Table.apply_again (h : Graph) :
    (h.apply (Table.effect session g k rows)).apply (Table.effect session g k rows)
      = h.apply (Table.effect session g k rows) := by
  rw [Graph.apply_apply]
  exact Graph.apply_congr fun s n e _ => Table.again session g k rows s n e

end Graphs

end DaqMonitor

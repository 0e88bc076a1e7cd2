/-
  DaqMonitor.Proofs.Cycle.Rowwise

  The one row that a table has for an entity, on any of its routes.

  A route has rows for entities of certain sorts only, and no two routes of a plan
  have a sort in common. So each entity gets one row of a table at most. What a
  table does besides is to clear the flags of the lists of the readout units, or to
  take up the states of channels; then every entity takes its row.

    * `Route.row?`, `Table.row?` — the row for an entity.
    * `Route.sort_mem_sorts` — who gets rows on a route.
    * `Table.effect_eq_take` — a table comes to what is done besides, and one row.
-/
import DaqMonitor.Proofs.Cycle.Refinement
import DaqMonitor.Proofs.Matching.Counting

namespace DaqMonitor

open Flashlist Matching

/-! ## Rows on routes -/

section Definitions

variable (session : Session) (g : Graph) (rows : List Row) (s : TargetSort) (n : Nat)

/-- The row that a route has for the entity of a sort at a position. -/
def Route.row? (r : Route) : Option Row :=
  if n < UInt32.size then
    (r.matches? session g rows).bind fun ms => (Outcome.ofRows ms).given rows (s.target n)
  else none

/-- The row that a table has for the entity of a sort at a position. -/
def Table.row? (kind : Kind) : Option Row := (plan kind).findSome? (·.row? session g rows s n)

end Definitions

/-- The sorts of the targets of a route. -/
def Route.sorts : Route → List TargetSort
  | hostname pool => [pool.sort]
  | position finder => [finder.sort]
  | problemLists => [.fed]
  | evm => [.ru]
  | levelZeroDynamic => [.run]
  | levelZeroSubsystems => [.run, .subSystem]
  | tcdsService => [.tcds]
  | ttsChannels => []

/-- No two routes of a kind have a sort in common. -/
theorem plan_sorts_differ (kind : Kind) :
    (plan kind).Pairwise fun r r' => ∀ s ∈ r.sorts, s ∉ r'.sorts := by
  have hall : ∀ kind ∈ Kind.all, (plan kind).Pairwise fun r r' => ∀ s ∈ r.sorts, s ∉ r'.sorts := by
    decide
  exact hall kind kind.mem_all

/-! ## Sorts of targets -/

section Sorts

variable {session : Session} {g : Graph} {rows : List Row}

theorem sort_of_mem_first {arena : Arena} {make : EntityId arena → Target}
    {id? : Option (EntityId arena)} {t : Target}
    (ht : t ∈ (RowMatch.ofTargets (id?.map make).toList).targets) {sort : TargetSort}
    (hmake : ∀ id, (make id).sort = sort) : t.sort = sort := by
  rw [RowMatch.targets_ofTargets, Option.mem_toList] at ht
  obtain ⟨id, -, rfl⟩ := Option.map_eq_some_iff.1 ht
  exact hmake id

theorem sort_of_mem_hostname {pool : HostPool} {row : Row} {t : Target}
    (ht : t ∈ (matchHostname g pool row).targets) : t.sort = pool.sort := by
  cases pool <;>
  · simp only [matchHostname, byHostname] at ht
    split at ht
    · cases ht
    · exact sort_of_mem_first ht fun _ => rfl

theorem sort_of_mem_position {finder : Finder} {row : Row} {t : Target}
    (ht : t ∈ (finder.matchRow (finder.candidates g) row).targets) : t.sort = finder.sort := by
  rw [leads_position finder row, List.mem_filterMap] at ht
  obtain ⟨p, -, hp⟩ := ht
  obtain ⟨i, -, rfl⟩ := Option.map_eq_some_iff.1 hp
  exact finder.sort.sort_target i

theorem sort_of_mem_lists {columns : List String} {pool : SortedMap UInt32 FedId} {row : Row}
    {t : Target} (ht : t ∈ (byIdLists columns pool .fed row).targets) : t.sort = .fed := by
  have hid : ∀ id, ∀ t ∈ (byListed pool Target.fed id).targets, t.sort = .fed := by
    intro id t ht
    cases id with
    | none => cases ht
    | some id =>
      simp only [byListed, byListedId] at ht
      split at ht
      · exact sort_of_mem_first ht fun _ => rfl
      · cases ht
  -- Each listed id adds its targets to those so far.
  have hids : ∀ (ids : List (Option Int64)) (m : RowMatch), (∀ t ∈ m.targets, t.sort = .fed) →
      ∀ t ∈ (ids.foldl (fun m id => m.append (byListed pool .fed id)) m).targets, t.sort = .fed := by
    intro ids
    induction ids with
    | nil => exact fun m hm => hm
    | cons id ids ih =>
      refine fun m hm => ih _ fun t ht => ?_
      rcases List.mem_append.1 ht with ht | ht
      · exact hm t ht
      · exact hid id t ht
  rw [byIdLists_eq_foldl] at ht
  exact hids _ .ignored (fun _ h => by cases h) t ht

theorem sort_of_mem_subSystem {row : Row} {t : Target}
    (ht : t ∈ (matchLevelZeroSubsystem g session row).targets) : t.sort ∈ [.run, .subSystem] := by
  unfold matchLevelZeroSubsystem at ht
  split at ht
  · cases ht
  · split at ht
    · cases ht
    · split at ht
      · cases ht
      · rw [RowMatch.targets_ofTargets, List.mem_append] at ht
        rcases ht with ht | ht
        · split at ht
          · rw [List.mem_singleton.1 ht]
            exact List.mem_cons_self
          · cases ht
        · obtain ⟨id, -, rfl⟩ := Option.map_eq_some_iff.1 (Option.mem_toList.1 ht)
          exact List.mem_cons_of_mem _ (List.mem_singleton_self _)

theorem sort_of_mem_service {service : String} {m : RowMatch} (hm : m ∈ matchTcdsService service rows)
    {t : Target} (ht : t ∈ m.targets) : t.sort = .tcds := by
  unfold matchTcdsService at hm
  split at hm
  · obtain ⟨row, -, rfl⟩ := List.mem_map.1 hm
    cases ht
  · obtain ⟨i, hi, rfl⟩ := List.mem_mapIdx.1 hm
    split at ht
    · rw [List.mem_singleton.1 ht]
      rfl
    · cases ht

/-- The targets of a route are of its sorts. -/
theorem Route.sort_mem_sorts {r : Route} {ms : List RowMatch}
    (hms : r.matches? session g rows = some ms) {m : RowMatch} (hm : m ∈ ms) {t : Target}
    (ht : t ∈ m.targets) : t.sort ∈ r.sorts := by
  cases r with
  | hostname pool =>
    cases hms
    obtain ⟨row, -, rfl⟩ := List.mem_map.1 hm
    exact List.mem_singleton.2 (sort_of_mem_hostname ht)
  | position finder =>
    cases hms
    obtain ⟨row, -, rfl⟩ := List.mem_map.1 hm
    exact List.mem_singleton.2 (sort_of_mem_position ht)
  | problemLists =>
    cases hms
    obtain ⟨row, -, rfl⟩ := List.mem_map.1 hm
    exact List.mem_singleton.2 (sort_of_mem_lists ht)
  | evm =>
    by_cases hlength : rows.length = 1
    · rw [matches?, if_pos hlength] at hms
      cases hms
      obtain rfl := List.mem_singleton.1 hm
      rw [matchEvm, RowMatch.targets_ofTargets] at ht
      obtain ⟨ru, -, rfl⟩ := List.mem_map.1 ht
      exact List.mem_singleton_self _
    · rw [matches?, if_neg hlength] at hms
      cases hms
  | levelZeroDynamic =>
    cases hms
    obtain ⟨row, -, rfl⟩ := List.mem_map.1 hm
    unfold matchLevelZeroDynamic at ht
    split at ht
    · rw [List.mem_singleton.1 ht]
      exact List.mem_singleton_self _
    · cases ht
  | levelZeroSubsystems =>
    cases hms
    obtain ⟨row, -, rfl⟩ := List.mem_map.1 hm
    exact sort_of_mem_subSystem ht
  | tcdsService =>
    obtain ⟨tcds, -, rfl⟩ := Option.map_eq_some_iff.1 hms
    exact List.mem_singleton.2 (sort_of_mem_service hm ht)
  | ttsChannels => cases hms

variable {s : TargetSort} {n : Nat}

theorem Route.row?_eq_none {r : Route} (hs : s ∉ r.sorts) :
    r.row? session g rows s n = none := by
  by_contra hsome
  obtain ⟨row, hrow⟩ := Option.ne_none_iff_exists'.1 hsome
  unfold row? at hrow
  split at hrow
  · obtain ⟨ms, hms, hgiven⟩ := Option.bind_eq_some_iff.1 hrow
    obtain ⟨m, hm, ht⟩ := Outcome.exists_of_given_eq_some hgiven
    have hsort := r.sort_mem_sorts hms hm ht
    rw [s.sort_target] at hsort
    exact hs hsort
  · cases hrow

/-- The row that a table has for an entity is that of one of its routes. -/
theorem Table.exists_route_of_row? {kind : Kind} {row : Row}
    (h : Table.row? session g rows s n kind = some row) :
    ∃ r ∈ plan kind, r.row? session g rows s n = some row :=
  List.exists_of_findSome?_eq_some h

end Sorts

/-! ## Effects by rows -/

section Effects

variable (session : Session) (kind : Kind) (rows : List Row)

/-- What a table does to an entity besides giving it a row. -/
def Table.aside : Effect := fun s n e =>
  match kind with
  | .ru => Effect.clearing s n e
  | .tcdsTtsChannels =>
    match session.tcds? with
    | none => e
    | some (service, context) => Effect.channels service context rows s n e
  | _ => e

variable (g : Graph) (s : TargetSort) (n : Nat)

/-- A route gives every entity its row, after it has cleared the flags of lists. -/
theorem Route.effect_eq_take {r : Route} (hr : r ≠ ttsChannels) (e : s.Entity) :
    r.effect session g kind rows s n e
      = s.take kind (r.row? session g rows s n)
          (if r = problemLists then Effect.clearing s n e else e) := by
  have hgives : ∀ (matches? : Option (List RowMatch)) (e : s.Entity),
      gives kind rows matches? s n e
        = s.take kind (if n < UInt32.size then
            matches?.bind fun ms => (Outcome.ofRows ms).given rows (s.target n) else none) e := by
    intro matches? e
    cases matches? with
    | none => simp only [Option.bind_none, ite_self]; rfl
    | some ms => rfl
  cases r with
  | ttsChannels => exact absurd rfl hr
  | problemLists => exact hgives (problemLists.matches? session g rows) (Effect.clearing s n e)
  | hostname pool => exact hgives ((hostname pool).matches? session g rows) e
  | position finder => exact hgives ((position finder).matches? session g rows) e
  | evm => exact hgives (evm.matches? session g rows) e
  | levelZeroDynamic => exact hgives (levelZeroDynamic.matches? session g rows) e
  | levelZeroSubsystems => exact hgives (levelZeroSubsystems.matches? session g rows) e
  | tcdsService => exact hgives (tcdsService.matches? session g rows) e

variable {s n}

/-- Where flags are cleared for no FED, nothing is. -/
theorem Effect.ite_clearing {p : Prop} [Decidable p] (hp : p → s ≠ .fed) (e : s.Entity) :
    (if p then Effect.clearing s n e else e) = e := by
  split
  · rename_i h
    exact Effect.clearing_of_ne (hp h) n e
  · rfl

/-- Among routes for different sorts, the row of the first route that has one for an entity is its
    only row; and none of them does more than to clear the flags of lists. -/
theorem Table.effectOn_eq_take {routes : List Route} (hchannels : .ttsChannels ∉ routes)
    (hdiffer : routes.Pairwise fun r r' => ∀ s ∈ r.sorts, s ∉ r'.sorts) (e : s.Entity) :
    Table.effectOn session g kind rows routes s n e
      = s.take kind (routes.findSome? (·.row? session g rows s n))
          (if .problemLists ∈ routes then Effect.clearing s n e else e) := by
  induction routes generalizing e with
  | nil => rfl
  | cons r routes ih =>
    obtain ⟨hr, hrest⟩ := List.pairwise_cons.1 hdiffer
    have hroute := r.effect_eq_take session kind rows g s n
      (fun h => hchannels (h ▸ List.mem_cons_self)) e
    have hothers := ih (fun h => hchannels (List.mem_cons_of_mem r h)) hrest
    change effectOn session g kind rows routes s n (r.effect session g kind rows s n e) = _
    rw [hothers, hroute, List.findSome?_cons]
    by_cases hs : s ∈ r.sorts
    · -- The routes that follow have no row for the entity, and nothing to clear.
      have hnone : routes.findSome? (·.row? session g rows s n) = none :=
        List.findSome?_eq_none_iff.2 fun r' hr' => Route.row?_eq_none (hr r' hr' s hs)
      have hlists : .problemLists ∈ routes → s ≠ .fed := by
        rintro hmem rfl
        exact hr _ hmem .fed hs (List.mem_singleton_self _)
      have hfirst : (if .problemLists ∈ r :: routes then Effect.clearing s n e else e)
          = if r = .problemLists then Effect.clearing s n e else e := by
        by_cases hlist : r = .problemLists
        · rw [if_pos (hlist ▸ List.mem_cons_self), if_pos hlist]
        · rw [if_neg hlist]
          exact Effect.ite_clearing
            (fun h => hlists ((List.mem_cons.1 h).resolve_left (Ne.symm hlist))) e
      rw [hnone, Effect.ite_clearing hlists, hfirst]
      cases r.row? session g rows s n <;> rfl
    · -- This route has none, and what it clears is of another sort.
      have hlist : r = .problemLists → s ≠ .fed := by
        rintro rfl rfl
        exact hs (List.mem_singleton_self _)
      have hothers : (if .problemLists ∈ r :: routes then Effect.clearing s n e else e)
          = if .problemLists ∈ routes then Effect.clearing s n e else e := by
        by_cases hmem : .problemLists ∈ routes
        · rw [if_pos (List.mem_cons_of_mem r hmem), if_pos hmem]
        · rw [if_neg hmem]
          exact Effect.ite_clearing
            (fun h => hlist ((List.mem_cons.1 h).resolve_right hmem).symm) e
      rw [Route.row?_eq_none hs, Effect.ite_clearing hlist, hothers]
      rfl

/-- A table comes to what it does besides, and the one row that it has for each entity. -/
theorem Table.effect_eq_take (e : s.Entity) :
    Table.effect session g kind rows s n e
      = s.take kind (Table.row? session g rows s n kind) (Table.aside session kind rows s n e) := by
  by_cases hkind : kind = .tcdsTtsChannels
  · -- Channels are no rows for single entities.
    subst hkind
    have hrow : Table.row? session g rows s n .tcdsTtsChannels = none := by
      rw [Table.row?, plan, List.findSome?_singleton, Route.row?_eq_none List.not_mem_nil]
    rw [hrow]
    unfold Table.effect Table.effectOn plan aside
    simp only [List.foldr_cons, List.foldr_nil, Route.effect]
    cases session.tcds? <;> rfl
  · have hchannels : .ttsChannels ∉ plan kind := by
      cases kind <;> first | decide | exact absurd rfl hkind
    have haside : Table.aside session kind rows s n e
        = if .problemLists ∈ plan kind then Effect.clearing s n e else e := by
      cases kind <;> first | rfl | exact absurd rfl hkind
    rw [haside]
    exact Table.effectOn_eq_take session kind rows g hchannels (plan_sorts_differ kind) e

end Effects

end DaqMonitor

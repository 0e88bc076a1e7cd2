/-
  DaqMonitor.Proofs.Cycle.Refinement

  What a table comes to for a single entity.

  A dispatch looks keys up, puts matches of rows together, and gives all targets
  their rows, route after route. For tables that are matched by host, by position
  or to the event manager all of that comes to a rule for each entity alone: it
  takes the last row that has its key, unless an entity before it has the same key.
  A row that is refused changes nothing, and no earlier row stands in for it.

    * `dueRow` — the row for an entity, by its key.
    * `Table.due g kind rows` — the row for the entity of a sort at a position.
    * `dispatch_eq_apply_due` — a dispatch comes to what each entity makes of its row.
-/
import DaqMonitor.Proofs.Cycle.Rivals

namespace DaqMonitor

open Flashlist Matching

/-! ## The row for an entity -/

/-- The row for the entity at a position, by a key: the last row that has the key of the entity, if
    no entity before it has that key. -/
def dueRow {α κ : Type} [DecidableEq κ] (key? : α → Option κ) (keys : Row → List κ)
    (rows : List Row) (entities : List α) (n : Nat) : Option Row :=
  (entities[n]?.bind key?).bind fun k =>
    if (entities.take n).any (key? · = some k) then none
    else rows.reverse.find? (k ∈ keys ·)

/-- The host of a row. -/
def hostKeys (row : Row) : List String :=
  match row.text "context" with
  | .ok context => [hostOfContext context]
  | .error _ => []

/-- The instance number of a row, where its column holds a number of 32 bits. -/
def instanceKeys (row : Row) : List UInt32 :=
  match row.integer "instance" with
  | .ok value =>
    if 0 ≤ value.toInt ∧ value.toInt < 4294967296 then [.ofNat value.toInt.toNat] else []
  | .error _ => []

/-- A row has the instance number that stands in its column. -/
theorem mem_instanceKeys {row : Row} {number : UInt32} :
    number ∈ instanceKeys row ↔
      ∃ value, row.integer "instance" = .ok value ∧ value.toInt = number.toNat := by
  unfold instanceKeys
  cases row.integer "instance" with
  | error error => simp
  | ok value =>
    -- In range the number and its word of 32 bits determine each other.
    have hlt := number.toNat_lt
    simp only [Except.ok.injEq, exists_eq_left']
    constructor
    · intro hmem
      split at hmem
      · rename_i hrange
        have hfits : value.toInt.toNat < UInt32.size := by
          rw [UInt32.size]
          omega
        rw [List.mem_singleton.1 hmem, UInt32.toNat_ofNat_of_lt' hfits]
        omega
      · cases hmem
    · intro hvalue
      rw [if_pos (by omega), List.mem_singleton, hvalue, Int.toNat_natCast, UInt32.ofNat_toNat]

/-- That is the number that the rows are matched by. -/
theorem readInstance_keys (row : Row) :
    instanceKeys row = (readInstance "instance" row).toOption.toList := by
  unfold instanceKeys readInstance
  cases row.integer "instance" with
  | error error => rfl
  | ok value =>
    have hrange : (0 ≤ value.toInt ∧ value.toInt < 4294967296) ↔
        0 ≤ value.toInt ∧ value.toInt.toNat < UInt32.size := by
      rw [UInt32.size]
      omega
    simp only [hrange]
    split <;> rfl

/-- The positions that a row names. -/
def Matching.Finder.positionKeys (finder : Finder) (row : Row) : List Position :=
  match finder.rowPositions row with
  | .ok positions => positions
  | .error _ => []

/-! ## Pools -/

/-- The sort of the entities that are found by host. -/
def HostPool.sort : HostPool → TargetSort
  | rus => .ru
  | bus => .bu
  | frlPcs => .frlPc
  | fmmApplications => .fmmApplication

/-- The host of an entity. -/
def HostPool.hostname : (pool : HostPool) → pool.sort.Entity → String
  | rus => Ru.hostname
  | bus => Bu.hostname
  | frlPcs => FrlPc.hostname
  | fmmApplications => FmmApplication.hostname

/-- The sort of the entities that are found by instance number. -/
def InstancePool.sort : InstancePool → TargetSort
  | rus => .ru
  | bus => .bu

/-- The instance number of an entity. -/
def InstancePool.instanceId : (pool : InstancePool) → pool.sort.Entity → Option UInt32
  | rus => Ru.instanceId
  | bus => Bu.instanceId

namespace Matching.Finder

/-- The sort of the entities that are found by position. -/
def sort : Finder → TargetSort
  | fedOnFerolStream | fedOnFerol40Stream | fedOnFrl | fedOnFmm => .fed
  | frl => .frl
  | fmm => .fmm
  | ttcPartition => .ttcPartition

/-- The position of an entity. -/
def position? (g : Graph) : (finder : Finder) → finder.sort.Entity → Option Position
  | fedOnFerolStream | fedOnFrl => fedOnCard? g .ferol
  | fedOnFerol40Stream => fedOnCard? g .ferol40
  | fedOnFmm => fedOnFmm? g
  | frl => frlPosition? g
  | fmm => fmmPosition? g
  | ttcPartition => partitionPosition? g

end Matching.Finder

/-- The sort of the entities that a route addresses by host, by position or as the event manager. -/
def Route.pool? : Route → Option TargetSort
  | hostname pool => some pool.sort
  | position finder => some finder.sort
  | evm => some .ru
  | _ => none

/-- The row that a route has for the entity at a position of its pool. The one row for the event
    manager is for every unit that is one. -/
def Route.due (g : Graph) (rows : List Row) : Route → Nat → Option Row
  | hostname pool =>
    dueRow (fun e => some (pool.hostname e)) hostKeys rows (g.entities pool.sort)
  | position finder =>
    dueRow (finder.position? g) finder.positionKeys rows (g.entities finder.sort)
  | evm => fun n =>
    if rows.length = 1 ∧ g.rus[n]?.any (·.isEvm) then rows.head? else none
  | _ => fun _ => none

/-- The row that a table has for the entity of a sort at a position. -/
def Table.due (g : Graph) (kind : Kind) (rows : List Row) (s : TargetSort) (n : Nat) : Option Row :=
  ((plan kind).find? (·.pool? = some s)).bind (·.due g rows n)

/-- The row that a table whose rows are matched by instance number has for an entity. -/
def InstancePool.due (g : Graph) (pool : InstancePool) (rows : List Row) (s : TargetSort) (n : Nat) :
    Option Row :=
  if s = pool.sort then dueRow pool.instanceId instanceKeys rows (g.entities pool.sort) n else none

/-- Every entity takes the row that is due to it. -/
def Effect.due (kind : Kind) (rowFor : TargetSort → Nat → Option Row) : Effect := fun s n e =>
  s.take kind (rowFor s n) e

/-! ## Rows by target -/

section Rows

variable {rows : List Row}

/-- What an outcome has for a target is the last row that is about it. -/
theorem Matching.Outcome.given_ofRows (matchRow : Row → RowMatch) (t : Target) :
    (Outcome.ofRows (rows.map matchRow)).given rows t
      = rows.reverse.find? fun row => t ∈ (matchRow row).targets := by
  have hnumbered : (rows.map matchRow).zipIdx.reverse
      = rows.zipIdx.reverse.map fun r => (matchRow r.1, r.2) := by
    rw [List.zipIdx_map, ← List.map_reverse]
    rfl
  have hrows : rows.reverse = rows.zipIdx.reverse.map (·.1) := by
    rw [List.map_reverse, List.zipIdx_map_fst]
  rw [hrows, given, Outcome.rowFor?_ofRows, hnumbered, List.find?_map, List.find?_map, Option.map_map]
  -- Both sides now look for the same numbered row.
  simp only [Function.comp_def]
  cases hfind : rows.zipIdx.reverse.find? fun r => decide (t ∈ (matchRow r.1).targets) with
  | none => rfl
  | some r =>
    have hmem := List.mem_reverse.1 (List.mem_of_find?_eq_some hfind)
    exact List.mem_zipIdx_iff_getElem?.1 hmem

theorem Graph.target_inj {g : Graph} {s : TargetSort} (hs : g.Addressable s) {n m : Nat}
    {e e' : s.Entity} (hn : (g.entities s)[n]? = some e) (hm : (g.entities s)[m]? = some e')
    (htarget : s.target n = s.target m) : n = m := by
  have hplace := congrArg Target.place htarget
  rwa [TargetSort.place_target hn (hs.lt hn), TargetSort.place_target hm (hs.lt hm)] at hplace

/-- An entity is the first one of its kind if it is of the kind and none before it is. -/
theorem findIdx?_eq_some_iff_take {α : Type} {p : α → Bool} {entities : List α} {n : Nat} {e : α}
    (he : entities[n]? = some e) :
    entities.findIdx? p = some n ↔ p e ∧ ¬ (entities.take n).any p := by
  obtain ⟨hlt, rfl⟩ := List.getElem?_eq_some_iff.1 he
  rw [List.findIdx?_eq_some_iff_getElem]
  constructor
  · rintro ⟨_, hp, hfirst⟩
    refine ⟨hp, fun hany => ?_⟩
    obtain ⟨e, hmem, hpe⟩ := List.any_eq_true.1 hany
    obtain ⟨j, hj, rfl⟩ := List.mem_take_iff_getElem.1 hmem
    exact hfirst j (by omega) hpe
  · rintro ⟨hp, hfirst⟩
    refine ⟨hlt, hp, fun j hj hpj => hfirst (List.any_eq_true.2 ⟨entities[j], ?_, hpj⟩)⟩
    exact List.mem_take_iff_getElem.2 ⟨j, by omega, rfl⟩

/-- Rows that lead, by their keys, to the first entity with each of them. -/
def Leads {κ : Type} [DecidableEq κ] (g : Graph) (matchRow : Row → RowMatch) (s : TargetSort)
    (key? : s.Entity → Option κ) (keys : Row → List κ) : Prop :=
  ∀ row, (matchRow row).targets = (keys row).filterMap fun k =>
    ((g.entities s).findIdx? (key? · = some k)).map s.target

section Leading

variable {κ : Type} [DecidableEq κ] {g : Graph} {matchRow : Row → RowMatch} {s : TargetSort}
  {key? : s.Entity → Option κ} {keys : Row → List κ}

/-- The rows that lead to an entity: those with its key, if it is the first one with that key. -/
theorem Leads.mem_targets (hleads : Leads g matchRow s key? keys) (hs : g.Addressable s) {n : Nat}
    {e : s.Entity} (he : (g.entities s)[n]? = some e) (row : Row) :
    s.target n ∈ (matchRow row).targets ↔
      ∃ k ∈ keys row, key? e = some k ∧ ¬ ((g.entities s).take n).any (key? · = some k) := by
  rw [hleads row, List.mem_filterMap]
  constructor
  · rintro ⟨k, hmem, hk⟩
    obtain ⟨i, hi, htarget⟩ := Option.map_eq_some_iff.1 hk
    have hlt := (List.findIdx?_eq_some_iff_getElem.1 hi).1
    obtain rfl : i = n := g.target_inj hs (List.getElem?_eq_getElem hlt) he htarget
    obtain ⟨hkey, hfirst⟩ := (findIdx?_eq_some_iff_take he).1 hi
    exact ⟨k, hmem, of_decide_eq_true hkey, hfirst⟩
  · rintro ⟨k, hmem, hkey, hfirst⟩
    have hi := (findIdx?_eq_some_iff_take (p := fun e => decide (key? e = some k)) he).2
      ⟨decide_eq_true hkey, hfirst⟩
    exact ⟨k, hmem, by rw [hi, Option.map_some]⟩

theorem Leads.given_other (hleads : Leads g matchRow s key? keys) {s' : TargetSort} (hs' : s' ≠ s)
    (n : Nat) : (Outcome.ofRows (rows.map matchRow)).given rows (s'.target n) = none := by
  rw [Outcome.given_ofRows, List.find?_eq_none]
  intro row _ hmem
  have htarget := of_decide_eq_true hmem
  rw [hleads row, List.mem_filterMap] at htarget
  obtain ⟨k, -, hk⟩ := htarget
  obtain ⟨i, -, hi⟩ := Option.map_eq_some_iff.1 hk
  have hsort := congrArg Target.sort hi
  rw [TargetSort.sort_target, TargetSort.sort_target] at hsort
  exact hs' hsort.symm

/-- What an entity of the sort has from the rows: the row that is due to it. -/
theorem Leads.given_self (hleads : Leads g matchRow s key? keys) (hs : g.Addressable s) {n : Nat}
    {e : s.Entity} (he : (g.entities s)[n]? = some e) :
    (Outcome.ofRows (rows.map matchRow)).given rows (s.target n)
      = dueRow key? keys rows (g.entities s) n := by
  rw [Outcome.given_ofRows]
  unfold dueRow
  rw [he, Option.bind_some]
  cases hkey : key? e with
  | none =>
    -- Without a key no row leads to the entity.
    rw [Option.bind_none, List.find?_eq_none]
    intro row _ hmem
    obtain ⟨k, -, hk, -⟩ := (hleads.mem_targets hs he row).1 (of_decide_eq_true hmem)
    rw [hkey] at hk
    cases hk
  | some k =>
    rw [Option.bind_some]
    by_cases hearlier : ((g.entities s).take n).any (key? · = some k)
    · -- All rows with the key lead to an entity before it.
      rw [if_pos hearlier, List.find?_eq_none]
      intro row _ hmem
      obtain ⟨k', -, hk', hfirst⟩ := (hleads.mem_targets hs he row).1 (of_decide_eq_true hmem)
      rw [hkey] at hk'
      cases hk'
      exact hfirst hearlier
    · -- The rows that lead to the entity are those with its key.
      rw [if_neg hearlier]
      congr 1
      funext row
      rw [decide_eq_decide, hleads.mem_targets hs he row]
      constructor
      · rintro ⟨k', hmem, hk', -⟩
        rw [hkey] at hk'
        cases hk'
        exact hmem
      · exact fun hmem => ⟨k, hmem, hkey, hearlier⟩

end Leading

end Rows

/-! ## Routes by key -/

section Routes

variable {g : Graph}

/-- A row with one key leads to the first entity with it, if there is one. -/
theorem Matching.RowMatch.targets_first {κ : Type} (k : κ) (first? : κ → Option Nat)
    (target : Nat → Target) :
    (RowMatch.ofTargets ((first? k).map target).toList).targets
      = [k].filterMap fun k => (first? k).map target := by
  rw [RowMatch.targets_ofTargets, List.filterMap_cons]
  cases first? k with
  | none => rfl
  | some n => rfl

theorem leads_hostname (hindexes : g.indexes = g.makeIndexes) (pool : HostPool) :
    Leads g (matchHostname g pool) pool.sort (fun e => some (pool.hostname e)) hostKeys := by
  intro row
  cases pool <;>
  · simp only [matchHostname, byHostname, hostKeys, hindexes, Graph.makeIndexes]
    cases row.text "context" with
    | error error => rfl
    | ok context =>
      simp only [find?_indexBy, Option.map_map]
      exact RowMatch.targets_first _ _ _

theorem leads_instance (hindexes : g.indexes = g.makeIndexes) (pool : InstancePool) :
    Leads g (matchInstance g pool) pool.sort pool.instanceId instanceKeys := by
  intro row
  cases pool <;>
  · simp only [matchInstance, byInstance, readInstance_keys, hindexes, Graph.makeIndexes]
    cases readInstance "instance" row with
    | error error => rfl
    | ok number =>
      simp only [find?_indexBy, Option.map_map]
      exact RowMatch.targets_first _ _ _

theorem leads_position (finder : Finder) :
    Leads g (finder.matchRow (finder.candidates g)) finder.sort (finder.position? g)
      finder.positionKeys := by
  intro row
  have hat : ∀ p, Finder.at? (finder.candidates g) p
      = ((g.entities finder.sort).findIdx? (finder.position? g · = some p)).map
          finder.sort.target := by
    intro p
    cases finder <;> exact at?_positioned _ _ _ p
  simp only [Finder.matchRow, Finder.positionKeys]
  cases finder.rowPositions row with
  | error error => rfl
  | ok positions => simp only [RowMatch.targets_ofTargets, ← hat]

/-- A unit is a target of the row for the event manager if it is one. -/
theorem target_mem_matchEvm (hrus : g.Addressable .ru) {s : TargetSort} {n : Nat} {e : s.Entity}
    (he : (g.entities s)[n]? = some e) :
    s.target n ∈ (matchEvm g).targets ↔ s = .ru ∧ g.rus[n]?.any (·.isEvm) := by
  rw [matchEvm, RowMatch.targets_ofTargets, List.mem_map]
  constructor
  · rintro ⟨⟨ru, i⟩, hru, htarget⟩
    obtain ⟨hmem, hevm⟩ := List.mem_filter.1 hru
    obtain rfl : TargetSort.ru = s := by
      rw [← s.sort_target n, ← htarget]
      rfl
    have hi : (g.entities .ru)[i]? = some ru := List.mem_zipIdx_iff_getElem?.1 hmem
    obtain rfl : i = n := g.target_inj hrus hi he htarget
    have hru' : g.rus[i]? = some ru := hi
    rw [hru']
    exact ⟨rfl, hevm⟩
  · rintro ⟨rfl, hevm⟩
    have hru : g.rus[n]? = some e := he
    rw [hru] at hevm
    refine ⟨(e, n), List.mem_filter.2 ⟨List.mem_zipIdx_iff_getElem?.2 hru, hevm⟩, rfl⟩

theorem Effect.give_of_some {s : TargetSort} (hs : g.Addressable s) {n : Nat} {e₀ : s.Entity}
    (he₀ : (g.entities s)[n]? = some e₀) (kind : Kind) (rowOf : Target → Option Row)
    (e : s.Entity) : Effect.give kind rowOf s n e = s.take kind (rowOf (s.target n)) e :=
  Effect.give_of_lt (hs.lt he₀) e

variable (session : Session) (kind : Kind) (rows : List Row)

/-- Rows with keys give an entity the row that is due to it, and the entities of other sorts
    nothing. -/
theorem Leads.gives {κ : Type} [DecidableEq κ] {matchRow : Row → RowMatch} {pool : TargetSort}
    {key? : pool.Entity → Option κ} {keys : Row → List κ} (hleads : Leads g matchRow pool key? keys)
    {s : TargetSort} (hs : g.Addressable s) {n : Nat} {e₀ : s.Entity}
    (he₀ : (g.entities s)[n]? = some e₀) (e : s.Entity) :
    Route.gives kind rows (some (rows.map matchRow)) s n e
      = s.take kind
          (if s = pool then dueRow key? keys rows (g.entities pool) n else none) e := by
  rw [Route.gives, Effect.give_of_some hs he₀]
  by_cases hpool : s = pool
  · subst hpool
    rw [if_pos rfl, hleads.given_self hs he₀]
  · rw [if_neg hpool, hleads.given_other hpool]

/-- The row for the event manager goes to every unit that is one. -/
theorem gives_matchEvm (hrus : g.Addressable .ru) {s : TargetSort} (hs : g.Addressable s) {n : Nat}
    {e₀ : s.Entity} (he₀ : (g.entities s)[n]? = some e₀) (e : s.Entity) :
    Route.gives kind rows (Route.evm.matches? session g rows) s n e
      = s.take kind (if s = .ru then Route.evm.due g rows n else none) e := by
  by_cases hlength : rows.length = 1
  · obtain ⟨row, rfl⟩ := List.length_eq_one_iff.1 hlength
    have hmatches : [matchEvm g] = [row].map fun _ => matchEvm g := rfl
    simp only [Route.matches?, List.length_singleton, if_true]
    rw [Route.gives, Effect.give_of_some hs he₀, hmatches, Outcome.given_ofRows]
    congr 1
    simp only [List.reverse_singleton, List.find?_singleton, target_mem_matchEvm hrus he₀, Route.due,
      List.length_singleton, true_and, List.head?_cons]
    by_cases hsort : s = .ru
    · simp [hsort]
    · simp [hsort]
  · have hdue : Route.evm.due g rows n = none := if_neg fun h => hlength h.1
    rw [Route.matches?, if_neg hlength, hdue, ite_self]
    rfl

/-- A route by key gives every entity of its pool the row that is due to it. -/
theorem Route.effect_eq_take_due (hindexes : g.indexes = g.makeIndexes)
    (hsized : ∀ s, g.Addressable s) {r : Route} (hpool : r.pool?.isSome) {s : TargetSort} {n : Nat}
    {e₀ : s.Entity} (he₀ : (g.entities s)[n]? = some e₀) (e : s.Entity) :
    r.effect session g kind rows s n e
      = s.take kind (if r.pool? = some s then r.due g rows n else none) e := by
  have hiff : ∀ pool : TargetSort, some pool = some s ↔ s = pool := by
    intro pool
    rw [Option.some_inj, eq_comm]
  cases r with
  | hostname pool =>
    simp only [pool?, due, hiff]
    exact (leads_hostname hindexes pool).gives kind rows (hsized s) he₀ e
  | position finder =>
    simp only [pool?, due, hiff]
    exact (leads_position finder).gives kind rows (hsized s) he₀ e
  | evm =>
    simp only [pool?, hiff]
    exact gives_matchEvm session kind rows (hsized .ru) (hsized s) he₀ e
  | _ => exact absurd hpool (by decide)

/-- No two routes of a kind have a pool in common. -/
theorem plan_pools_differ (kind : Kind) :
    (plan kind).Pairwise fun r r' => ∀ pool, r.pool? = some pool → r'.pool? ≠ some pool := by
  -- A bounded statement, which can be decided kind by kind.
  have hall : ∀ kind ∈ Kind.all, (plan kind).Pairwise fun r r' =>
      ∀ pool ∈ r.pool?.toList, r'.pool? ≠ some pool := by decide
  refine (hall kind kind.mem_all).imp fun {r r'} h pool hpool => h pool ?_
  rw [hpool]
  exact List.mem_singleton_self pool

/-- Routes by key, with no pool in common, give every entity the row that is due to it. -/
theorem Table.effectOn_eq_take_due (hindexes : g.indexes = g.makeIndexes)
    (hsized : ∀ s, g.Addressable s) {s : TargetSort} {n : Nat} {e₀ : s.Entity}
    (he₀ : (g.entities s)[n]? = some e₀) {routes : List Route}
    (hpools : ∀ r ∈ routes, r.pool?.isSome)
    (hdiffer : routes.Pairwise fun r r' => ∀ pool, r.pool? = some pool → r'.pool? ≠ some pool)
    (e : s.Entity) :
    Table.effectOn session g kind rows routes s n e
      = s.take kind ((routes.find? (·.pool? = some s)).bind (·.due g rows n)) e := by
  induction routes generalizing e with
  | nil => rfl
  | cons r routes ih =>
    obtain ⟨hr, hrest⟩ := List.pairwise_cons.1 hdiffer
    have hroute := Route.effect_eq_take_due session kind rows hindexes hsized
      (hpools r List.mem_cons_self) he₀ e
    have hothers := ih (fun r' hr' => hpools r' (List.mem_cons_of_mem r hr')) hrest
    change effectOn session g kind rows routes s n (r.effect session g kind rows s n e) = _
    rw [hothers, hroute, List.find?_cons]
    by_cases hpool : r.pool? = some s
    · -- The routes that follow have no row for the sort.
      have hnone : routes.find? (·.pool? = some s) = none := by
        rw [List.find?_eq_none]
        intro r' hr' hs
        exact hr r' hr' s hpool (of_decide_eq_true hs)
      simp only [hpool, hnone, if_true, decide_true, Option.bind_none, Option.bind_some]
      rfl
    · simp only [hpool, if_false, decide_false]
      rfl

end Routes

/-! ## Dispatch -/

/-- A dispatch by host, by position or to the event manager, and one by instance number, comes to
    what each entity makes of the row that is due to it, and changes nothing else. The tables that
    entities are looked up in have to be up to date, and ids to tell the entities apart. -/
theorem dispatch_eq_apply_due (session : Session) {g : Graph} (hindexes : g.indexes = g.makeIndexes)
    (hsized : ∀ s, g.Addressable s) :
    (∀ (f : Flashlist) (kind : Kind), f.dispatchKind? = some kind →
      (∀ r ∈ plan kind, r.pool?.isSome) →
      (dispatch session g f).graph = g.apply (.due kind (Table.due g kind f.rows))) ∧
    ∀ (kind : Kind) (pool : InstancePool) (rows : List Row),
      (dispatchByInstance g kind pool rows).graph = g.apply (.due kind (pool.due g rows)) := by
  constructor
  · intro f kind hkind hpools
    rw [dispatch_graph session g hkind]
    refine Graph.apply_congr fun s n e he => ?_
    exact Table.effectOn_eq_take_due session kind f.rows hindexes hsized he hpools
      (plan_pools_differ kind) e
  · intro kind pool rows
    have hgraph : (dispatchByInstance g kind pool rows).graph
        = g.apply (Route.gives kind rows (some (rows.map (matchInstance g pool)))) :=
      applyOutcome_graph g _
    rw [hgraph]
    refine Graph.apply_congr fun s n e he => ?_
    exact (leads_instance hindexes pool).gives kind rows (hsized s) he e

/-- Of two units on one host the first takes the last of the rows for the host, and of two with one
    instance number the first the last of the rows for the number, where a number beyond 32 bits is
    no number at all. The row for an FMM at a slot is for a partition at one of its outputs as well,
    and the one row for the event manager is for all units that are one. -/
theorem dispatch_eq_apply_due_shared_host :
    let bu (uid : UInt64) (hostname : String) (number : UInt32) : Bu :=
      { uid := ⟨uid⟩, hostname, instanceId := some number }
    let ru (uid : UInt64) (hostname : String) (isEvm : Bool) : Ru :=
      { uid := ⟨uid⟩, hostname, isEvm, fedBuilder := .ofNat 0 }
    let g : Graph := Graph.indexed {
      uid := ⟨1⟩
      bus := [bu 2 "bu-1" 7, bu 3 "bu-1" 8, bu 4 "bu-2" 8]
      rus := [ru 5 "ru-1" true, ru 6 "ru-2" false, ru 7 "ru-3" true]
      fmmApplications := [{ uid := ⟨8⟩, hostname := "fmmpc" }]
      fmms := [{ uid := ⟨9⟩, slot := 3, application := .ofNat 0 }]
      ttcPartitions := [{ uid := ⟨10⟩, name := "EB+", number := 1, fmm := some (.ofNat 0)
                          fmmOutput := 1, tcds := {} }] }
    let row (status : String) (columns : List (String × Json)) : Row :=
      .object (columns ++
        [("jobTable", .object [("rows", .list [.object [("status", .text status)]])])])
    let host (name status : String) : Row := row status [("context", .text (name ++ ":1972"))]
    let number (n : UInt64) (status : String) : Row := row status [("instance", .ofUInt64 n)]
    let slot (n : UInt64) (status : String) : Row :=
      row status [("context", .text "fmmpc:1972"), ("geoslot", .ofUInt64 n)]
    let jobs : Flashlist :=
      .ofKind .jobControl [host "bu-1" "alive", host "bu-2" "alive", host "bu-1" "dead"]
    let numbers : List Row := [number 8 "alive", number 8 "dead", number 4294967304 "alive"]
    let slots : Flashlist := .ofKind .fmmStatus [slot 3 "alive", slot 3 "dead", slot 4 "alive"]
    let evm : Flashlist := .ofKind .evm [host "ru-2" "alive"]
    let rowsOf (f : Flashlist) (kind : Kind) := Table.due g kind f.rows
    let byNumber := InstancePool.bus.due g numbers .bu
    (g.indexes = g.makeIndexes ∧ ∀ s, g.Addressable s) ∧
      (jobs.dispatchKind? = some .jobControl ∧ (∀ r ∈ plan .jobControl, r.pool?.isSome) ∧
        rowsOf jobs .jobControl .bu 0 = some (host "bu-1" "dead") ∧
        rowsOf jobs .jobControl .bu 1 = none ∧
        rowsOf jobs .jobControl .bu 2 = some (host "bu-2" "alive") ∧
        (dispatch {} g jobs).graph = g.apply (.due .jobControl (rowsOf jobs .jobControl))) ∧
      (slots.dispatchKind? = some .fmmStatus ∧ (∀ r ∈ plan .fmmStatus, r.pool?.isSome) ∧
        rowsOf slots .fmmStatus .fmm 0 = some (slot 3 "dead") ∧
        rowsOf slots .fmmStatus .ttcPartition 0 = some (slot 3 "dead") ∧
        (dispatch {} g slots).graph = g.apply (.due .fmmStatus (rowsOf slots .fmmStatus))) ∧
      (evm.dispatchKind? = some .evm ∧ (∀ r ∈ plan .evm, r.pool?.isSome) ∧
        rowsOf evm .evm .ru 0 = some (host "ru-2" "alive") ∧ rowsOf evm .evm .ru 1 = none ∧
        rowsOf evm .evm .ru 2 = some (host "ru-2" "alive") ∧
        (dispatch {} g evm).graph = g.apply (.due .evm (rowsOf evm .evm))) ∧
      byNumber 0 = none ∧ byNumber 1 = some (number 8 "dead") ∧ byNumber 2 = none ∧
        (dispatchByInstance g .jobControl .bus numbers).graph
          = g.apply (.due .jobControl (InstancePool.bus.due g numbers)) := by
  intro bu ru g row host number slot jobs numbers slots evm rowsOf byNumber
  have hindexes : g.indexes = g.makeIndexes := rfl
  have hsized : ∀ s, g.Addressable s := by
    intro s
    cases s <;> decide
  have hjobs : ∀ r ∈ plan .jobControl, r.pool?.isSome := by decide
  have hslots : ∀ r ∈ plan .fmmStatus, r.pool?.isSome := by decide
  have hevm : ∀ r ∈ plan .evm, r.pool?.isSome := by decide
  obtain ⟨hdispatch, hbyInstance⟩ := dispatch_eq_apply_due {} hindexes hsized
  refine ⟨⟨hindexes, hsized⟩, ⟨rfl, hjobs, rfl, rfl, rfl, hdispatch jobs _ rfl hjobs⟩,
    ⟨rfl, hslots, rfl, rfl, hdispatch slots _ rfl hslots⟩,
    ⟨rfl, hevm, rfl, rfl, rfl, hdispatch evm _ rfl hevm⟩, rfl, rfl, rfl, ?_⟩
  exact hbyInstance .jobControl .bus numbers

end DaqMonitor

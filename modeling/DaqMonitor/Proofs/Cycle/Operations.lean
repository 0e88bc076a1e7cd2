/-
  DaqMonitor.Proofs.Cycle.Operations

  Runs of a monitor, and resets as effects.

  A run is any sequence of cycles, resets and changes of the session filter. None of
  them changes the skeleton of the graph. A reset is an effect like that of a table:
  it makes of every entity with an id among the targets what it was before any row.

    * `Monitor.performAll m operations` — the monitor after a run.
    * `resetTargets_graph`, `resetAll_eq` — resets as effects.
    * `skeleton_performAll` — a run keeps the skeleton.
    * `published_cycle`, `published_perform` — a cycle publishes its graph, and nothing
      else publishes any.
-/
import DaqMonitor.Proofs.Cycle.Repetition

namespace DaqMonitor

open Flashlist

/-! ## Operations -/

/-- What a monitor is asked to do. -/
inductive Operation where
  | cycle (flashlists : List Flashlist) (time : UInt64)
  | reset (targets : List Target)
  | resetAll
  /-- Go on with another filter for the session. -/
  | filter (session : Session)

namespace Monitor

/-- The monitor after an operation. -/
def perform (m : Monitor) : Operation → Monitor
  | .cycle flashlists time => (m.runCycle flashlists time).1
  | .reset targets => (m.resetTargets targets).1
  | .resetAll => m.resetAll.1
  | .filter session => { m with session }

/-- The monitor after a run. -/
def performAll (m : Monitor) (operations : List Operation) : Monitor := operations.foldl perform m

end Monitor

/-! ## Resets as effects -/

/-- Every entity that one of the targets names is as before any row. -/
def Effect.reset (targets : List Target) : Effect := fun s n e =>
  if n < UInt32.size ∧ s.target n ∈ targets then s.reset e else e

namespace Effect

variable {s : TargetSort} {n : Nat}

theorem fixed_ofReset (targets : List Target) (s : TargetSort) (n : Nat) (e : s.Entity) :
    s.fixed (Effect.reset targets s n e) = s.fixed e := by
  unfold Effect.reset
  split
  · exact s.fixed_reset e
  · rfl

theorem reset_of_not_mem {targets : List Target} (h : n < UInt32.size → s.target n ∉ targets)
    (e : s.Entity) : Effect.reset targets s n e = e :=
  if_neg fun ⟨hlt, hmem⟩ => h hlt hmem

theorem reset_of_mem {targets : List Target} (hlt : n < UInt32.size) (h : s.target n ∈ targets)
    (e : s.Entity) : Effect.reset targets s n e = s.reset e := if_pos ⟨hlt, h⟩

/-- Targets that are reset one after the other. -/
theorem reset_cons (t : Target) (targets : List Target) :
    (Effect.reset [t]).andThen (Effect.reset targets) = Effect.reset (t :: targets) := by
  funext s n e
  change Effect.reset targets s n (Effect.reset [t] s n e) = _
  by_cases hlt : n < UInt32.size
  · by_cases ht : s.target n = t
    · -- A second reset changes nothing.
      subst ht
      rw [reset_of_mem hlt List.mem_cons_self, reset_of_mem hlt List.mem_cons_self]
      by_cases hmem : s.target n ∈ targets
      · rw [reset_of_mem hlt hmem, s.reset_reset]
      · rw [reset_of_not_mem fun _ => hmem]
    · have hnot : s.target n ∉ [t] := fun hmem => ht (List.mem_singleton.1 hmem)
      rw [reset_of_not_mem fun _ => hnot]
      simp only [Effect.reset, List.mem_cons, ht, false_or]
  · rw [reset_of_not_mem fun h => absurd h hlt, reset_of_not_mem fun h => absurd h hlt,
      reset_of_not_mem fun h => absurd h hlt]

end Effect

namespace Graph

variable {g : Graph} {t : Target}

theorem resetAt?_of_some {α : Type} {arena : Arena} {id : EntityId arena} {entities : List α} {a : α}
    {f : α → α} (h : entities[id.toNat]? = some a) :
    resetAt? id entities f = some (entities.set id.toNat (f a)) := by
  simp only [resetAt?, EntityId.get?, h, Option.map_some]

theorem resetAt?_of_none {α : Type} {arena : Arena} {id : EntityId arena} {entities : List α}
    {f : α → α} (h : entities[id.toNat]? = none) : resetAt? id entities f = none := by
  simp only [resetAt?, EntityId.get?, h, Option.map_none]

theorem reset?_of_none (he : (g.entities t.sort)[t.place]? = none) : g.reset? t = none := by
  cases t with
  | run => cases he
  | tcds => cases he
  | _ => exact congrArg (Option.map _) (resetAt?_of_none he)

/-- A target that is reset is replaced, and all else is as before. -/
theorem exists_reset? {e : t.sort.Entity} (he : (g.entities t.sort)[t.place]? = some e) :
    ∃ h, g.reset? t = some h ∧ h.surroundings = g.surroundings ∧
      h.entities t.sort = (g.entities t.sort).set t.place (t.sort.reset e) ∧
      ∀ s ≠ t.sort, h.entities s = g.entities s := by
  have hothers : ∀ {h : Graph}, (∀ s, s = t.sort ∨ h.entities s = g.entities s) →
      ∀ s ≠ t.sort, h.entities s = g.entities s :=
    fun hor s hs => (hor s).resolve_left hs
  cases t with
  | run =>
    cases he
    refine ⟨{ g with run := g.run.reset }, rfl, rfl, rfl, ?_⟩
    exact hothers fun s => by cases s <;> first | exact .inr rfl | exact .inl rfl
  | tcds =>
    cases he
    refine ⟨{ g with tcds := g.tcds.reset }, rfl, rfl, rfl, ?_⟩
    exact hothers fun s => by cases s <;> first | exact .inr rfl | exact .inl rfl
  | _ =>
    refine ⟨_, congrArg (Option.map _) (resetAt?_of_some he), rfl, rfl, ?_⟩
    exact hothers fun s => by cases s <;> first | exact .inr rfl | exact .inl rfl

theorem mapIdx_reset_self {e : t.sort.Entity} (he : (g.entities t.sort)[t.place]? = some e) :
    (g.entities t.sort).mapIdx (Effect.reset [t] t.sort)
      = (g.entities t.sort).set t.place (t.sort.reset e) := by
  apply List.ext_getElem?
  intro n
  rw [List.getElem?_mapIdx, List.getElem?_set]
  by_cases hn : t.place = n
  · subst hn
    have hlen : t.place < (g.entities t.sort).length := (List.getElem?_eq_some_iff.1 he).1
    rw [he, Option.map_some, if_pos rfl, if_pos hlen, Effect.reset_of_mem t.place_lt]
    exact List.mem_singleton.2 t.target_place
  · rw [if_neg hn]
    cases hentity : (g.entities t.sort)[n]? with
    | none => rfl
    | some a =>
      -- Another position is that of another target, or of none.
      rw [Option.map_some, Effect.reset_of_not_mem]
      intro hlt hmem
      have hplace := TargetSort.place_target hentity hlt
      rw [List.mem_singleton.1 hmem] at hplace
      exact hn hplace

theorem mapIdx_reset_other {s : TargetSort} (hs : s ≠ t.sort) (l : List s.Entity) :
    l.mapIdx (Effect.reset [t] s) = l := by
  apply List.ext_getElem?
  intro n
  have hne : s.target n ∉ [t] := by
    intro hmem
    have hsort := congrArg Target.sort (List.mem_singleton.1 hmem)
    rw [TargetSort.sort_target] at hsort
    exact hs hsort
  rw [List.getElem?_mapIdx]
  cases l[n]? with
  | none => rfl
  | some e => rw [Option.map_some, Effect.reset_of_not_mem fun _ => hne]

/-- The graph with one target as before any row, where the graph has it. -/
theorem reset?_getD (g : Graph) (t : Target) : (g.reset? t).getD g = g.apply (.reset [t]) := by
  cases he : (g.entities t.sort)[t.place]? with
  | none =>
    rw [reset?_of_none he, Option.getD_none]
    refine (apply_eq_self fun s n e hentity => Effect.reset_of_not_mem (fun hlt hmem => ?_) e).symm
    obtain rfl := List.mem_singleton.1 hmem
    rw [TargetSort.sort_target, TargetSort.place_target hentity hlt, hentity] at he
    cases he
  | some e =>
    obtain ⟨h, hreset, haround, hself, hothers⟩ := exists_reset? he
    rw [hreset, Option.getD_some]
    refine ext_entities haround fun s => ?_
    rw [entities_apply]
    by_cases hs : s = t.sort
    · subst hs
      rw [hself, mapIdx_reset_self he]
    · rw [hothers s hs, mapIdx_reset_other hs]

theorem mem_arenaTargets {α : Type} {arena : Arena} {make : EntityId arena → Target}
    {entities : List α} {n : Nat} {e : α} (he : entities[n]? = some e) :
    make (.ofNat n) ∈ arenaTargets make entities :=
  List.mem_map.2 ⟨n, List.mem_range.2 (List.getElem?_eq_some_iff.1 he).1, rfl⟩

/-- Whatever is in a graph is among its targets. -/
theorem target_mem_targets {s : TargetSort} {n : Nat} {e : s.Entity}
    (he : (g.entities s)[n]? = some e) : s.target n ∈ g.targets := by
  simp only [targets, List.mem_append]
  cases s with
  | run => simp [TargetSort.target]
  | tcds => simp [TargetSort.target]
  | _ => repeat first | exact .inr (mem_arenaTargets he) | apply Or.inl

end Graph

/-! ## Resets of a monitor -/

namespace Monitor

variable (m : Monitor)

theorem resetTarget_graph (t : Target) : (m.resetTarget t).1.graph = m.graph.apply (.reset [t]) := by
  rw [← Graph.reset?_getD]
  unfold resetTarget
  cases m.graph.reset? t <;> rfl

/-- Resets one after the other. -/
theorem resetTargets_eq_foldl (targets : List Target) :
    (m.resetTargets targets).1 = targets.foldl (fun m target => (m.resetTarget target).1) m :=
  (List.foldl_hom Prod.fst fun _ _ => rfl).symm

theorem resetTargets_graph (targets : List Target) :
    (m.resetTargets targets).1.graph = m.graph.apply (.reset targets) := by
  rw [resetTargets_eq_foldl]
  induction targets generalizing m with
  | nil => exact (Graph.apply_eq_self fun s n e _ => Effect.reset_of_not_mem (fun _ => by simp) e).symm
  | cons t rest ih =>
    rw [List.foldl_cons, ih, resetTarget_graph, Graph.apply_apply, Effect.reset_cons]

/-- A reset leaves all of a monitor but its graph alone. -/
theorem resetTargets_eq (targets : List Target) :
    (m.resetTargets targets).1 = { m with graph := m.graph.apply (.reset targets) } := by
  rw [← resetTargets_graph, resetTargets_eq_foldl]
  induction targets generalizing m with
  | nil => rfl
  | cons t rest ih =>
    have hreset : (m.resetTarget t).1 = { m with graph := (m.resetTarget t).1.graph } := by
      unfold resetTarget
      cases m.graph.reset? t <;> rfl
    rw [List.foldl_cons, ih, hreset]

theorem resetAll_eq :
    m.resetAll.1 = { m with graph := m.graph.apply (.reset m.graph.targets) } :=
  m.resetTargets_eq m.graph.targets

/-! ## Runs -/

theorem skeleton_perform (operation : Operation) :
    (m.perform operation).graph.skeleton = m.graph.skeleton := by
  have hreset : ∀ targets, (m.graph.apply (.reset targets)).skeleton = m.graph.skeleton :=
    fun targets => Graph.skeleton_apply (Effect.fixed_ofReset targets)
  cases operation with
  | cycle flashlists time =>
    rw [perform, runCycle_graph, Graph.skeleton_finish, afterTables_skeleton]
  | reset targets =>
    rw [perform, resetTargets_eq]
    exact hreset targets
  | resetAll =>
    rw [perform, resetAll_eq]
    exact hreset m.graph.targets
  | filter session => rfl

/-- A run keeps the skeleton. -/
theorem skeleton_performAll (operations : List Operation) :
    (m.performAll operations).graph.skeleton = m.graph.skeleton := by
  unfold performAll
  induction operations generalizing m with
  | nil => rfl
  | cons operation rest ih => rw [List.foldl_cons, ih, skeleton_perform]

end Monitor

/-! ## What a monitor publishes -/

/-- The time of a cycle. -/
def Operation.time? : Operation → Option UInt64
  | .cycle _ time => some time
  | _ => none

namespace Monitor

variable (m : Monitor)

theorem published_dispatchAll (flashlists : List Flashlist) :
    (m.dispatchAll flashlists).1.published = m.published := by
  unfold dispatchAll
  refine List.foldlRecOn flashlists _
    (motive := fun (r : Monitor × List Notice) => r.1.published = m.published) rfl ?_
  intro r hr f _
  rw [← hr, dispatch]
  cases f.dispatchKind? <;> rfl

/-- A cycle publishes its graph. -/
theorem published_cycle (flashlists : List Flashlist) (time : UInt64) :
    (m.perform (.cycle flashlists time)).published
      = m.published.publish (m.runCycle flashlists time).1.graph := by
  rw [← m.published_dispatchAll (inOrder flashlists)]
  rfl

/-- Only cycles publish. -/
theorem published_perform {operation : Operation} (h : operation.time? = none) :
    (m.perform operation).published = m.published := by
  cases operation with
  | cycle flashlists time => cases h
  | reset targets => rw [perform, resetTargets_eq]
  | resetAll => rw [perform, resetAll_eq]
  | filter session => rfl

theorem cycles_perform {operation : Operation} (h : operation.time? = none) :
    (m.perform operation).cycles = m.cycles := by
  cases operation with
  | cycle flashlists time => cases h
  | reset targets => rw [perform, resetTargets_eq]
  | resetAll => rw [perform, resetAll_eq]
  | filter session => rfl

theorem latest_perform {operation : Operation} (h : operation.time? = none) :
    (m.perform operation).latest = m.latest := congrArg Publication.newest (m.published_perform h)

theorem latest_cycle (flashlists : List Flashlist) (time : UInt64) :
    (m.perform (.cycle flashlists time)).latest = some (m.runCycle flashlists time).1.graph := rfl

theorem count_le_perform (operation : Operation) :
    m.published.count ≤ (m.perform operation).published.count := by
  cases operation with
  | cycle flashlists time =>
    rw [m.published_cycle]
    exact Nat.le_succ _
  | reset targets => exact Nat.le_of_eq (congrArg _ (m.published_perform rfl).symm)
  | resetAll => exact Nat.le_of_eq (congrArg _ (m.published_perform rfl).symm)
  | filter session => exact Nat.le_refl _

end Monitor

end DaqMonitor

/-
  DaqMonitor.Proofs.Graph.Effect

  What becomes of a graph, entity by entity.

  An effect says for every sort and every position what becomes of the entity
  there. Taking a table has an effect; effects follow each other, and those that
  agree on the entities of a graph change it in the same way. What no effect of a
  table changes is the skeleton of the graph: who is there, how all are linked and
  by what they are found.

    * `Graph.apply g effect` — the graph after an effect.
    * `Graph.apply_apply`, `Graph.apply_congr` — effects in a row, and alike.
    * `Graph.skeleton g` — what no table changes of a graph.
-/
import DaqMonitor.Proofs.Graph.Rows

namespace DaqMonitor

open Flashlist

/-! ## Entities by sort -/

/-- The entities of a sort, by position. -/
def Graph.entities (g : Graph) : (s : TargetSort) → List s.Entity
  | .run => [g.run]
  | .tcds => [g.tcds]
  | .fed => g.feds
  | .frl => g.frls
  | .frlPc => g.frlPcs
  | .ru => g.rus
  | .bu => g.bus
  | .fmm => g.fmms
  | .fmmApplication => g.fmmApplications
  | .ttcPartition => g.ttcPartitions
  | .subSystem => g.subSystems

/-! ## Effects -/

/-- What becomes of the entity of a sort at a position. -/
abbrev Effect := (s : TargetSort) → Nat → s.Entity → s.Entity

/-- The effect that changes nothing. -/
def Effect.none : Effect := fun _ _ e => e

/-- The effect that leaves what no table changes. -/
def Effect.fixed : Effect := fun s _ => s.fixed

/-- One effect after another. -/
def Effect.andThen (a b : Effect) : Effect := fun s n e => b s n (a s n e)

theorem mapIdx_const {α : Type} (f : α → α) (entities : List α) :
    entities.mapIdx (fun _ => f) = entities.map f := by
  apply List.ext_getElem?
  intro n
  rw [List.getElem?_mapIdx, List.getElem?_map]

namespace Graph

/-- The graph after an effect. -/
def apply (g : Graph) (effect : Effect) : Graph :=
  { g with
    run := effect .run 0 g.run
    tcds := effect .tcds 0 g.tcds
    feds := g.feds.mapIdx (effect .fed)
    frls := g.frls.mapIdx (effect .frl)
    frlPcs := g.frlPcs.mapIdx (effect .frlPc)
    rus := g.rus.mapIdx (effect .ru)
    bus := g.bus.mapIdx (effect .bu)
    fmms := g.fmms.mapIdx (effect .fmm)
    fmmApplications := g.fmmApplications.mapIdx (effect .fmmApplication)
    ttcPartitions := g.ttcPartitions.mapIdx (effect .ttcPartition)
    subSystems := g.subSystems.mapIdx (effect .subSystem) }

@[simp] theorem entities_apply (g : Graph) (effect : Effect) (s : TargetSort) :
    (g.apply effect).entities s = (g.entities s).mapIdx (effect s) := by
  cases s <;> simp [entities, apply]

/-- What of a graph takes up no rows. -/
def surroundings (g : Graph) : Graph :=
  { g with
    run := {}, tcds := {}, feds := [], frls := [], frlPcs := [], rus := [], bus := [], fmms := []
    fmmApplications := [], ttcPartitions := [], subSystems := [] }

/-- A graph is made up of its entities and what is around them. -/
theorem ext_entities {g h : Graph} (haround : g.surroundings = h.surroundings)
    (hentities : ∀ s, g.entities s = h.entities s) : g = h := by
  have hrun := hentities .run
  have htcds := hentities .tcds
  have hfeds := hentities .fed
  have hfrls := hentities .frl
  have hfrlPcs := hentities .frlPc
  have hrus := hentities .ru
  have hbus := hentities .bu
  have hfmms := hentities .fmm
  have happs := hentities .fmmApplication
  have hpartitions := hentities .ttcPartition
  have hsubSystems := hentities .subSystem
  cases g; cases h
  simp_all [surroundings, entities]

/-- Effects that agree on the entities of a graph change it in the same way. -/
theorem apply_congr {g : Graph} {a b : Effect}
    (h : ∀ s n e, (g.entities s)[n]? = some e → a s n e = b s n e) : g.apply a = g.apply b := by
  refine ext_entities rfl fun s => ?_
  rw [entities_apply, entities_apply]
  apply List.ext_getElem?
  intro n
  rw [List.getElem?_mapIdx, List.getElem?_mapIdx]
  cases hn : (g.entities s)[n]? with
  | none => rfl
  | some e => exact congrArg some (h s n e hn)

theorem apply_none (g : Graph) : g.apply .none = g := by
  refine ext_entities rfl fun s => ?_
  rw [entities_apply]
  exact (mapIdx_const id _).trans (List.map_id _)

theorem apply_eq_self {g : Graph} {effect : Effect}
    (h : ∀ s n e, (g.entities s)[n]? = some e → effect s n e = e) : g.apply effect = g := by
  have hnone : g.apply effect = g.apply .none := apply_congr h
  rw [hnone, apply_none]

theorem apply_apply (g : Graph) (a b : Effect) : (g.apply a).apply b = g.apply (a.andThen b) := by
  simp only [apply, List.mapIdx_mapIdx]
  rfl

theorem apply_comm {g : Graph} {a b : Effect}
    (h : ∀ s n e, (g.entities s)[n]? = some e → a s n (b s n e) = b s n (a s n e)) :
    (g.apply a).apply b = (g.apply b).apply a := by
  rw [apply_apply, apply_apply]
  exact apply_congr fun s n e hn => (h s n e hn).symm

/-! ## The skeleton -/

/-- What no table changes of a graph, and nothing that is worked out after the tables. -/
def skeleton (g : Graph) : Graph :=
  { g.apply .fixed with
    fedBuilderSummary := {}
    buSummary := {}
    subFedBuilders := g.subFedBuilders.map fun s => { s with minTrigger := 0, maxTrigger := 0 } }

@[simp] theorem entities_skeleton (g : Graph) (s : TargetSort) :
    g.skeleton.entities s = (g.entities s).map s.fixed := by
  -- What the skeleton blanks besides is not in any arena of targets.
  rw [show g.skeleton.entities s = (g.apply .fixed).entities s by cases s <;> rfl, entities_apply]
  exact mapIdx_const s.fixed _

@[simp] theorem indexes_skeleton (g : Graph) : g.skeleton.indexes = g.indexes := rfl

/-- An effect that keeps what is fixed keeps the skeleton. -/
theorem skeleton_apply {g : Graph} {effect : Effect}
    (h : ∀ (s : TargetSort) n e, s.fixed (effect s n e) = s.fixed e) :
    (g.apply effect).skeleton = g.skeleton := by
  have hsame : (g.apply effect).apply .fixed = g.apply .fixed := by
    rw [apply_apply]
    exact apply_congr fun s n e _ => h s n e
  simp only [skeleton, hsame]
  rfl

/-- Where two graphs have one skeleton, one has an entity where the other has one, with the same
    fixed part. -/
theorem exists_entity_of_skeleton_eq {g h : Graph} (hskel : g.skeleton = h.skeleton)
    {s : TargetSort} {n : Nat} {e : s.Entity} (he : (g.entities s)[n]? = some e) :
    ∃ e', (h.entities s)[n]? = some e' ∧ s.fixed e' = s.fixed e := by
  have hn : (h.skeleton.entities s)[n]? = some (s.fixed e) := by
    rw [← hskel, entities_skeleton, List.getElem?_map, he]
    rfl
  rw [entities_skeleton, List.getElem?_map] at hn
  obtain ⟨e', he', hfixed⟩ := Option.map_eq_some_iff.1 hn
  exact ⟨e', he', hfixed⟩

end Graph

end DaqMonitor

/-
  DaqMonitor.Proofs.Topology.Assembly

  What holds of every graph that is built from a description.

  FEDs are plugged into cards, cards stand in lines, lines belong to slices. Each of
  them is named twice: the parent lists its children, and every child names its
  parent. A built graph is the declared one but for its uids, where both are read off
  the same places, so both say the same. Nothing has been told of the entities of a new
  graph, and no two of its FEDs have one id.

    * `Linked up down` — children name the parents that list them.
    * `Graph.AsBuilt g` — what holds of a graph that was just built.
    * `Spec.asBuilt_of_build` — it holds of every graph that is built.
-/
import DaqMonitor.Proofs.Graph.Effect
import DaqMonitor.Proofs.Topology.Acceptance
import DaqMonitor.Proofs.Topology.Places

namespace DaqMonitor

open DaqMonitor.Topology

/-! ## Links in both directions -/

/-- Children name the parents that list them: `up` has for each child the parent that it names, and
    `down` has for each parent the children that it lists. -/
structure Linked {parents children : Arena} (up : List (Option (EntityId parents)))
    (down : List (List (EntityId children))) : Prop where
  listed : ∀ (n : Nat) parent?, up[n]? = some parent? → ∃ (m : Nat) (ids : _),
    down[m]? = some ids ∧ parent? = some (.ofNat m) ∧ (EntityId.ofNat n : EntityId children) ∈ ids
  named : ∀ (m : Nat) ids, down[m]? = some ids → ∀ id ∈ ids,
    ∃ n : Nat, id = .ofNat n ∧ up[n]? = some (some (.ofNat m))

/-- Children that name what they belong to, and parents that list what belongs to them. -/
theorem Linked.of_childIds {α β : Type} {parents children : Arena} {bs : List (Below α β)}
    {up : List (Option (EntityId parents))} {down : List (List (EntityId children))}
    (hup : up = bs.map fun b => some (.ofNat b.position))
    (hdown : ∀ m ids, down[m]? = some ids → ∀ id, id ∈ ids ↔ id ∈ childIds m bs)
    (hpositions : ∀ b ∈ bs, b.position < down.length) : Linked up down where
  listed n parent? hn := by
    rw [hup, List.getElem?_map, Option.map_eq_some_iff] at hn
    obtain ⟨b, hb, rfl⟩ := hn
    have hm := List.getElem?_eq_getElem (hpositions b (List.mem_of_getElem? hb))
    refine ⟨b.position, _, hm, rfl, (hdown _ _ hm _).2 ?_⟩
    exact mem_idsWhere.2 ⟨n, b, hb, beq_self_eq_true _, rfl⟩
  named m ids hm id hid := by
    obtain ⟨n, b, hb, hposition, rfl⟩ := mem_idsWhere.1 ((hdown m ids hm id).1 hid)
    refine ⟨n, rfl, ?_⟩
    rw [hup, List.getElem?_map, hb, Option.map_some, beq_iff_eq.1 hposition]

/-! ## The whole graph -/

/-- What holds of a graph that was just built. -/
structure Graph.AsBuilt (g : Graph) : Prop where
  /-- Nothing has been told of its entities. -/
  blank : ∀ s : TargetSort, ∀ e ∈ g.entities s, s.reset e = e
  fedIds : (g.feds.map (·.id)).Nodup
  cards : Linked (g.feds.map (·.frl)) (g.frls.map (·.feds.values))
  lines : Linked (g.frls.map fun frl => some frl.subFedBuilder) (g.subFedBuilders.map (·.frls))
  slices : Linked (g.subFedBuilders.map fun s => some s.fedBuilder)
    (g.fedBuilders.map (·.subFedBuilders))

/-- Entities of which nothing has been told, whatever their uids. -/
theorem reset_of_map_eq {α : Type} {view reset : α → α} {l target : List α}
    (h : l.map view = target) (htarget : ∀ a ∈ target, reset a = a)
    (hview : ∀ a, reset (view a) = view a → reset a = a) : ∀ a ∈ l, reset a = a :=
  fun a ha => hview a (htarget _ (h ▸ List.mem_map_of_mem ha))

theorem forall_mem_mapIdx {α β : Type} {f : Nat → α → β} {l : List α} {P : β → Prop}
    (h : ∀ n, ∀ a ∈ l, P (f n a)) : ∀ b ∈ l.mapIdx f, P b := by
  intro b hb
  obtain ⟨n, hn, rfl⟩ := List.mem_mapIdx.1 hb
  exact h n _ (List.getElem_mem hn)

section Declared

variable {spec : Spec} {g : Graph} (hg : g.anonymous = spec.declared)

include hg

/-- A declared graph tells nothing but what was declared. -/
theorem blank_of_declared (s : TargetSort) : ∀ e ∈ g.entities s, s.reset e = e := by
  cases s with
  | run =>
    have hrun : g.run = { sessionId := spec.sessionId } := congrArg Graph.run hg
    refine List.forall_mem_singleton.2 ?_
    rw [hrun]
    rfl
  | tcds =>
    have htcds : g.tcds = {} := congrArg Graph.tcds hg
    refine List.forall_mem_singleton.2 ?_
    rw [htcds]
    rfl
  | fed =>
    exact reset_of_map_eq (map_feds_of_declared hg) (List.forall_mem_map.2 fun _ _ => rfl)
      fun fed h => congrArg (fun e : Fed => { e with uid := fed.uid }) h
  | frl =>
    exact reset_of_map_eq (map_frls_of_declared hg) (forall_mem_mapIdx fun _ _ _ => rfl)
      fun frl h => congrArg (fun e : Frl => { e with uid := frl.uid }) h
  | frlPc =>
    exact reset_of_map_eq (map_frlPcs_of_declared hg) (List.forall_mem_map.2 fun _ _ => rfl)
      fun pc h => congrArg (fun e : FrlPc => { e with uid := pc.uid }) h
  | ru =>
    exact reset_of_map_eq (map_rus_of_declared hg) (forall_mem_mapIdx fun _ _ _ => rfl)
      fun ru h => congrArg (fun e : Ru => { e with uid := ru.uid }) h
  | bu =>
    exact reset_of_map_eq (map_bus_of_declared hg) (List.forall_mem_map.2 fun _ _ => rfl)
      fun bu h => congrArg (fun e : Bu => { e with uid := bu.uid }) h
  | fmm =>
    refine reset_of_map_eq (map_fmms_of_declared hg) (forall_mem_mapIdx fun n b hb => ?_)
      fun fmm h => congrArg (fun e : Fmm => { e with uid := fmm.uid }) h
    obtain ⟨f, -, rfl⟩ := List.mem_map.1 hb
    rfl
  | fmmApplication =>
    exact reset_of_map_eq (map_fmmApplications_of_declared hg) (List.forall_mem_map.2 fun _ _ => rfl)
      fun app h => congrArg (fun e : FmmApplication => { e with uid := app.uid }) h
  | ttcPartition =>
    exact reset_of_map_eq (map_ttcPartitions_of_declared hg) (List.forall_mem_map.2 fun _ _ => rfl)
      fun p h => congrArg (fun e : TtcPartition => { e with uid := p.uid }) h
  | subSystem =>
    refine reset_of_map_eq (map_subSystems_of_declared hg) (forall_mem_mapIdx fun n b hb => ?_)
      fun s h => congrArg (fun e : SubSystem => { e with uid := s.uid }) h
    obtain ⟨s, -, rfl⟩ := List.mem_map.1 hb
    rfl

theorem asBuilt_of_declared (hspec : spec.WellFormed) : g.AsBuilt where
  blank := blank_of_declared hg
  fedIds := by
    rw [map_id_feds hg]
    exact hspec.feds
  cards := by
    refine .of_childIds (map_frl_feds hg) (fun m ids hids id => ?_) fun b hb => ?_
    · rw [List.getElem?_map, Option.map_eq_some_iff] at hids
      obtain ⟨frl, hfrl, rfl⟩ := hids
      simp only [SortedMap.mem_values_iff, find?_frl_feds_iff hg hspec hfrl]
      rw [childIds, mem_idsWhere]
      constructor
      · rintro ⟨_, n, b, hb, hposition, -, rfl⟩
        exact ⟨n, b, hb, beq_iff_eq.2 hposition, rfl⟩
      · rintro ⟨n, b, hb, hposition, rfl⟩
        exact ⟨_, n, b, hb, beq_iff_eq.1 hposition, rfl, rfl⟩
    · rw [List.length_map, ← length_cards hg]
      exact position_lt_of_mem_below hb
  lines := by
    refine .of_childIds (map_subFedBuilder_frls hg) (fun m ids hids id => ?_) fun b hb => ?_
    · rw [List.getElem?_map, Option.map_eq_some_iff] at hids
      obtain ⟨s, hs, rfl⟩ := hids
      obtain ⟨b, -, hview⟩ := exists_of_map_eq_mapIdx (map_subFedBuilders_of_declared hg) hs
      exact iff_of_eq (congrArg (id ∈ ·) (congrArg SubFedBuilder.frls hview).symm)
    · rw [List.length_map, ← length_lines hg]
      exact position_lt_of_mem_below hb
  slices := by
    refine .of_childIds (map_fedBuilder_subFedBuilders hg) (fun m ids hids id => ?_) fun b hb => ?_
    · rw [List.getElem?_map, Option.map_eq_some_iff] at hids
      obtain ⟨f, hf, rfl⟩ := hids
      obtain ⟨b, -, hview⟩ := exists_of_map_eq_mapIdx (map_fedBuilders_of_declared hg) hf
      exact iff_of_eq (congrArg (id ∈ ·) (congrArg FedBuilder.subFedBuilders hview).symm)
    · rw [List.length_map, ← length_slices hg]
      exact position_lt_of_mem_below hb

end Declared

theorem Topology.Spec.asBuilt_of_build {spec : Spec} {uids uids' : UidSource} {g : Graph}
    (h : spec.build uids = (.ok g, uids')) : g.AsBuilt := by
  obtain ⟨hspec, hg⟩ := Spec.declared_of_build h
  exact asBuilt_of_declared hg hspec

end DaqMonitor

/-
  DaqMonitor.Proofs.Topology.Places

  Where the entities of a declared graph stand.

  A graph that is the declared one but for its uids has the declared entities, in
  their places. This is said entity by entity here, whatever the number of entities:
  an id is that of a position, even where two positions have one id.

    * `exists_of_map_eq_mapIdx` — what an entity was made of.
    * `exists_line_of_card` — the line of a card.
    * `find?_frl_feds_iff` — the FEDs at the inputs of a card.
-/
import DaqMonitor.Proofs.Topology.Declared

namespace DaqMonitor

open DaqMonitor.Topology

/-! ## The entities of a declared graph -/

section Entities

variable {α β γ : Type}

/-- What stands in a list was made of what is declared in its place. -/
theorem exists_of_map_eq_mapIdx {view : α → γ} {make : Nat → β → γ} {l : List α} {bs : List β}
    (h : l.map view = bs.mapIdx make) {n : Nat} {a : α} (ha : l[n]? = some a) :
    ∃ b, bs[n]? = some b ∧ make n b = view a := by
  have hn : (l.map view)[n]? = some (view a) := by rw [List.getElem?_map, ha, Option.map_some]
  rw [h, List.getElem?_mapIdx, Option.map_eq_some_iff] at hn
  exact hn

theorem exists_of_map_eq_map {view : α → γ} {make : β → γ} {l : List α} {bs : List β}
    (h : l.map view = bs.map make) {n : Nat} {a : α} (ha : l[n]? = some a) :
    ∃ b, bs[n]? = some b ∧ make b = view a := by
  have hn : (l.map view)[n]? = some (view a) := by rw [List.getElem?_map, ha, Option.map_some]
  rw [h, List.getElem?_map, Option.map_eq_some_iff] at hn
  exact hn

/-- What a view leaves alone is what was declared. -/
theorem map_eq_of_mapIdx {δ : Type} {view : α → α} {make : Nat → β → α} {l : List α} {bs : List β}
    (h : l.map view = bs.mapIdx make) {f : α → δ} {k : β → δ} (hview : ∀ a, f (view a) = f a)
    (hmake : ∀ n b, f (make n b) = k b) : l.map f = bs.map k := by
  have hmap := congrArg (List.map f) h
  rw [List.map_map] at hmap
  refine (List.map_congr_left fun a _ => (hview a).symm).trans (hmap.trans ?_)
  apply List.ext_getElem?
  intro n
  simp only [List.getElem?_map, List.getElem?_mapIdx, Option.map_map]
  exact congrArg (Option.map · bs[n]?) (funext fun b => hmake n b)

theorem map_eq_of_map {δ : Type} {view : α → α} {make : β → α} {l : List α} {bs : List β}
    (h : l.map view = bs.map make) {f : α → δ} {k : β → δ} (hview : ∀ a, f (view a) = f a)
    (hmake : ∀ b, f (make b) = k b) : l.map f = bs.map k := by
  have hmap := congrArg (List.map f) h
  rw [List.map_map, List.map_map] at hmap
  refine (List.map_congr_left fun a _ => (hview a).symm).trans (hmap.trans ?_)
  exact List.map_congr_left fun b _ => hmake b

end Entities

section Declared

variable {spec : Spec} {g : Graph} (hg : g.anonymous = spec.declared)

include hg

theorem map_feds_of_declared : g.feds.map .anonymous = spec.fedsBelow.map spec.fed :=
  congrArg Graph.feds hg

theorem map_frls_of_declared : g.frls.map .anonymous = spec.cardsBelow.mapIdx spec.frl :=
  congrArg Graph.frls hg

theorem map_subFedBuilders_of_declared :
    g.subFedBuilders.map .anonymous = spec.linesBelow.mapIdx spec.subFedBuilder :=
  congrArg Graph.subFedBuilders hg

theorem map_fedBuilders_of_declared :
    g.fedBuilders.map .anonymous = spec.fedBuilders.mapIdx spec.fedBuilder :=
  congrArg Graph.fedBuilders hg

theorem map_rus_of_declared : g.rus.map .anonymous = spec.fedBuilders.mapIdx Spec.ru :=
  congrArg Graph.rus hg

theorem map_frlPcs_of_declared : g.frlPcs.map .anonymous = spec.frlPcs.map Spec.frlPc :=
  congrArg Graph.frlPcs hg

theorem map_bus_of_declared : g.bus.map .anonymous = spec.bus.map Spec.bu := congrArg Graph.bus hg

theorem map_fmmApplications_of_declared :
    g.fmmApplications.map .anonymous = spec.fmmApplications.map Spec.fmmApplication :=
  congrArg Graph.fmmApplications hg

theorem map_ttcPartitions_of_declared :
    g.ttcPartitions.map .anonymous = spec.ttcPartitions.map spec.ttcPartition :=
  congrArg Graph.ttcPartitions hg

theorem map_fmms_of_declared :
    g.fmms.map .anonymous = linkFmms (g.feds.map .anonymous) (g.ttcPartitions.map .anonymous)
      (spec.fmms.map spec.fmm) := by
  rw [map_feds_of_declared hg, map_ttcPartitions_of_declared hg]
  exact congrArg Graph.fmms hg

theorem map_subSystems_of_declared :
    g.subSystems.map .anonymous
      = linkSubSystems (g.ttcPartitions.map .anonymous) (spec.subsystems.map Spec.subSystem) := by
  rw [map_ttcPartitions_of_declared hg]
  exact congrArg Graph.subSystems hg

end Declared

/-! ## How many there are -/

section Lengths

variable {spec : Spec} {g : Graph} (hg : g.anonymous = spec.declared)

include hg

theorem length_linesBelow : spec.linesBelow.length = g.subFedBuilders.length := by
  simpa using (congrArg List.length (map_subFedBuilders_of_declared hg)).symm

theorem length_cardsBelow : spec.cardsBelow.length = g.frls.length := by
  simpa using (congrArg List.length (map_frls_of_declared hg)).symm

theorem length_fedsBelow : spec.fedsBelow.length = g.feds.length := by
  simpa using (congrArg List.length (map_feds_of_declared hg)).symm

theorem length_slices : spec.fedBuilders.length = g.fedBuilders.length := by
  simpa using (congrArg List.length (map_fedBuilders_of_declared hg)).symm

theorem length_units : spec.fedBuilders.length = g.rus.length := by
  simpa using (congrArg List.length (map_rus_of_declared hg)).symm

theorem length_lines : spec.lines.length = g.subFedBuilders.length := by
  rw [← length_linesBelow hg, Spec.linesBelow, length_below]
  rfl

theorem length_cards : spec.cards.length = g.frls.length := by
  rw [← length_cardsBelow hg, Spec.cardsBelow, length_below]
  rfl

theorem length_feds : spec.feds.length = g.feds.length := by
  rw [← length_fedsBelow hg, Spec.fedsBelow, length_below, spec.feds_eq]

theorem length_ttcPartitions : spec.ttcPartitions.length = g.ttcPartitions.length := by
  simpa using (congrArg List.length (map_ttcPartitions_of_declared hg)).symm

theorem length_fmms : spec.fmms.length = g.fmms.length := by
  simpa [linkFmms] using (congrArg List.length (map_fmms_of_declared hg)).symm

theorem length_subSystems : spec.subsystems.length = g.subSystems.length := by
  simpa [linkSubSystems] using (congrArg List.length (map_subSystems_of_declared hg)).symm

theorem length_frlPcs : spec.frlPcs.length = g.frlPcs.length := by
  simpa using (congrArg List.length (map_frlPcs_of_declared hg)).symm

theorem length_fmmApplications : spec.fmmApplications.length = g.fmmApplications.length := by
  simpa using (congrArg List.length (map_fmmApplications_of_declared hg)).symm

theorem indexes_eq_makeIndexes : g.indexes = g.makeIndexes := by
  have hindexes : g.anonymous.indexes = spec.declared.indexes := congrArg Graph.indexes hg
  rw [← Graph.makeIndexes_anonymous, hg]
  exact hindexes

end Lengths

/-! ## What the entities name -/

section Names

variable {spec : Spec} {g : Graph} (hg : g.anonymous = spec.declared)

include hg

/-- A card stands below its line. -/
theorem exists_line_of_card {n : Nat} {frl : Frl} (hn : g.frls[n]? = some frl) :
    ∃ c s, spec.cardsBelow[n]? = some c ∧ spec.frl n c = frl.anonymous ∧
      g.subFedBuilders[c.position]? = some s ∧ s.frlPc = c.parent.frlPc.map spec.frlPcId := by
  obtain ⟨c, hc, hview⟩ := exists_of_map_eq_mapIdx (map_frls_of_declared hg) hn
  obtain ⟨-, hparent, -⟩ := mem_below (List.mem_of_getElem? hc)
  have hlt : c.position < g.subFedBuilders.length :=
    length_lines hg ▸ (List.getElem?_eq_some_iff.1 hparent).1
  obtain ⟨b, hb, hline⟩ := exists_of_map_eq_mapIdx (map_subFedBuilders_of_declared hg)
    (List.getElem?_eq_getElem hlt)
  have hself : b.self = c.parent :=
    Option.some.inj ((getElem?_flatMap_of_below hb).symm.trans hparent)
  refine ⟨c, _, hc, hview, List.getElem?_eq_getElem hlt, ?_⟩
  rw [← hself]
  exact (congrArg SubFedBuilder.frlPc hline).symm

theorem map_subFedBuilder_frls : (g.frls.map fun frl => some frl.subFedBuilder)
    = spec.cardsBelow.map fun c => some (.ofNat c.position) :=
  map_eq_of_mapIdx (map_frls_of_declared hg) (fun _ => rfl) fun _ _ => rfl

theorem map_fedBuilder_subFedBuilders : (g.subFedBuilders.map fun s => some s.fedBuilder)
    = spec.linesBelow.map fun s => some (.ofNat s.position) :=
  map_eq_of_mapIdx (map_subFedBuilders_of_declared hg) (fun _ => rfl) fun _ _ => rfl

theorem map_id_feds : g.feds.map (·.id) = spec.feds.map (·.id) := by
  have hids := map_eq_of_map (f := Fed.id) (k := fun b => b.self.id) (map_feds_of_declared hg)
    (fun _ => rfl) fun _ => rfl
  rw [spec.feds_eq, ← map_self_below 0, List.map_map]
  exact hids

theorem map_frl_feds : g.feds.map (·.frl) = spec.fedsBelow.map fun f => some (.ofNat f.position) :=
  map_eq_of_map (map_feds_of_declared hg) (fun _ => rfl) fun _ => rfl

/-- The inputs of a card, by the positions of its FEDs. -/
theorem find?_frl_feds_iff (hspec : spec.WellFormed) {n : Nat} {frl : Frl} (hn : g.frls[n]? = some frl)
    (input : UInt8) (fedId : FedId) :
    frl.feds.find? input = some fedId ↔
      ∃ m b, spec.fedsBelow[m]? = some b ∧ b.position = n ∧ b.self.input = input ∧
        fedId = .ofNat m := by
  obtain ⟨c, hc, hview⟩ := exists_of_map_eq_mapIdx (map_frls_of_declared hg) hn
  have hfeds : .ofList ((c.self.feds.map (·.input)).zip (childIds n spec.fedsBelow)) = frl.feds :=
    congrArg Frl.feds hview
  -- The description up to the card, the card, and the rest.
  have hself : spec.cards[n]? = some c.self := getElem?_flatMap_of_below hc
  obtain ⟨before, after, hcards, rfl⟩ := exists_append_of_getElem? hself
  have hids : (childIds before.length spec.fedsBelow : List FedId)
      = idsFrom (before.flatMap (·.feds)).length c.self.feds.length := by
    rw [Spec.fedsBelow, hcards, childIds_below]
  have hplace : ∀ m b, spec.fedsBelow[m]? = some b ∧ b.position = before.length ↔
      ∃ i f, c.self.feds[i]? = some f ∧ m = (before.flatMap (·.feds)).length + i ∧
        b = ⟨c.self, before.length, f⟩ := by
    intro m b
    rw [Spec.fedsBelow, hcards]
    exact getElem?_below_iff
  have hkeys : ((c.self.feds.map (·.input)).zip
      (childIds before.length spec.fedsBelow : List FedId)).map (·.1) = c.self.feds.map (·.input) :=
    List.map_fst_zip (Nat.le_of_eq (by rw [hids, length_idsFrom, List.length_map]))
  have hnodup : (((c.self.feds.map (·.input)).zip
      (childIds before.length spec.fedsBelow : List FedId)).map (·.1)).Nodup := by
    rw [hkeys]
    exact hspec.inputs _ (List.mem_of_getElem? hself)
  rw [← hfeds, SortedMap.find?_ofList_iff hnodup, List.mem_iff_getElem?]
  simp only [List.getElem?_zip_eq_some, hids, List.getElem?_map, Option.map_eq_some_iff,
    getElem?_idsFrom]
  constructor
  · rintro ⟨i, ⟨f, hf, rfl⟩, -, rfl⟩
    obtain ⟨hb, hpos⟩ := (hplace _ _).2 ⟨i, f, hf, rfl, rfl⟩
    exact ⟨_, _, hb, hpos, rfl, rfl⟩
  · rintro ⟨m, b, hb, hpos, rfl, rfl⟩
    obtain ⟨i, f, hf, rfl, rfl⟩ := (hplace m b).1 ⟨hb, hpos⟩
    exact ⟨i, ⟨f, hf, rfl⟩, (List.getElem?_eq_some_iff.1 hf).1, rfl⟩

end Names

end DaqMonitor

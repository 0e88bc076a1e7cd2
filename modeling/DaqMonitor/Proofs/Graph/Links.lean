/-
  DaqMonitor.Proofs.Graph.Links

  The links of the readout, both ways.

  FEDs name the card that they are plugged into, cards the sub-FED-builder and
  sub-FED-builders the FED builder that they belong to; each of these lists what
  names it. Walking down the lists of a sub-FED-builder or of a FED builder finds
  exactly the FEDs that lead up to it. The links are part of the skeleton, so a run
  keeps them; and ids have to tell apart what they link.

    * `Graph.Wired g` — the links of the graph agree in both directions.
    * `mem_subFedBuilderFeds`, `mem_fedBuilderFeds` — who is found on the way down.
    * `Graph.AsBuilt.wired`, `Graph.Wired.congr` — where that holds.
-/
import DaqMonitor.Proofs.Cycle.Erasure

namespace DaqMonitor

/-! ## One step up or down -/

section Step

variable {α β : Type} {parentArena childArena : Arena} {children : List α} {parents : List β}
  {up : α → Option (EntityId parentArena)} {down : β → List (EntityId childArena)}

/-- A parent lists a child exactly if the child names it. -/
theorem Linked.mem_iff (h : Linked (children.map up) (parents.map down))
    (hchildren : children.length ≤ UInt32.size) (hparents : parents.length ≤ UInt32.size)
    (child : EntityId childArena) (parent : EntityId parentArena) :
    (∃ b, parent.get? parents = some b ∧ child ∈ down b) ↔
      ∃ a, child.get? children = some a ∧ up a = some parent := by
  constructor
  · rintro ⟨b, hb, hmem⟩
    have hids : (parents.map down)[parent.toNat]? = some (down b) := by
      rw [List.getElem?_map]
      exact congrArg (Option.map down) hb
    obtain ⟨n, rfl, hn⟩ := h.named parent.toNat (down b) hids child hmem
    rw [List.getElem?_map, EntityId.ofNat_toNat] at hn
    obtain ⟨a, ha, hup⟩ := Option.map_eq_some_iff.1 hn
    have hlt : n < UInt32.size :=
      Nat.lt_of_lt_of_le (List.getElem?_eq_some_iff.1 ha).1 hchildren
    refine ⟨a, ?_, hup⟩
    rw [EntityId.get?, EntityId.toNat_ofNat hlt, ha]
  · rintro ⟨a, ha, hup⟩
    have hparent : (children.map up)[child.toNat]? = some (some parent) := by
      rw [List.getElem?_map, ← hup]
      exact congrArg (Option.map up) ha
    obtain ⟨m, ids, hids, hname, hmem⟩ := h.listed child.toNat _ hparent
    rw [List.getElem?_map] at hids
    obtain ⟨b, hb, rfl⟩ := Option.map_eq_some_iff.1 hids
    have hlt : m < UInt32.size :=
      Nat.lt_of_lt_of_le (List.getElem?_eq_some_iff.1 hb).1 hparents
    rw [EntityId.ofNat_toNat] at hmem
    refine ⟨b, ?_, hmem⟩
    rw [Option.some.inj hname, EntityId.get?, EntityId.toNat_ofNat hlt, hb]

/-- Ids find all elements of a list that is not longer than there are ids. -/
theorem EntityId.exists_get?_iff {arena : Arena} (hsize : children.length ≤ UInt32.size) (a : α) :
    (∃ id : EntityId arena, id.get? children = some a) ↔ a ∈ children := by
  constructor
  · rintro ⟨id, hid⟩
    exact List.mem_of_getElem? hid
  · intro ha
    obtain ⟨n, hn⟩ := List.mem_iff_getElem?.1 ha
    have hlt : n < UInt32.size := Nat.lt_of_lt_of_le (List.getElem?_eq_some_iff.1 hn).1 hsize
    refine ⟨.ofNat n, ?_⟩
    rw [EntityId.get?, EntityId.toNat_ofNat hlt, hn]

theorem mem_map_getD_nil {o : Option α} {f : α → List β} {b : β} :
    b ∈ (o.map f).getD [] ↔ ∃ a, o = some a ∧ b ∈ f a := by
  cases o <;> simp

end Step

/-! ## The readout -/

namespace Graph

variable (g : Graph)

/-- The sub-FED-builder that a FED leads to, by its card. -/
def subFedBuilderOf? (fed : Fed) : Option SubFedBuilderId :=
  (fed.frl.bind fun id => id.get? g.frls).map (·.subFedBuilder)

/-- The FED builder that a FED leads to. -/
def fedBuilderOf? (fed : Fed) : Option FedBuilderId :=
  ((g.subFedBuilderOf? fed).bind fun id => id.get? g.subFedBuilders).map (·.fedBuilder)

/-- The links of the readout agree in both directions, and ids tell apart what they link. -/
structure Wired : Prop where
  cards : Linked (g.feds.map (·.frl)) (g.frls.map (·.feds.values))
  lines : Linked (g.frls.map fun frl => some frl.subFedBuilder)
    (g.subFedBuilders.map (·.frls))
  slices : Linked (g.subFedBuilders.map fun s => some s.fedBuilder)
    (g.fedBuilders.map (·.subFedBuilders))
  feds : g.Addressable .fed
  frls : g.Addressable .frl
  subFedBuilders : g.subFedBuilders.length ≤ UInt32.size
  fedBuilders : g.fedBuilders.length ≤ UInt32.size

variable {g}

theorem AsBuilt.wired (hg : g.AsBuilt) (hfrls : g.Addressable .frl)
    (hsubFedBuilders : g.subFedBuilders.length ≤ UInt32.size)
    (hfedBuilders : g.fedBuilders.length ≤ UInt32.size) : g.Wired :=
  ⟨hg.cards, hg.lines, hg.slices, hg.addressable_fed, hfrls, hsubFedBuilders, hfedBuilders⟩

/-- What is fixed of the entities of a sort can be seen from the skeleton. -/
theorem map_entities_congr {h : Graph} (hskel : g.skeleton = h.skeleton) {s : TargetSort}
    {α : Type} {f : s.Entity → α} (hf : ∀ e, f (s.fixed e) = f e) :
    (g.entities s).map f = (h.entities s).map f := by
  have hfixed : ∀ k : Graph, (k.entities s).map f = (k.skeleton.entities s).map f := by
    intro k
    rw [entities_skeleton, List.map_map]
    exact List.map_congr_left fun e _ => (hf e).symm
  rw [hfixed g, hfixed h, hskel]

theorem map_subFedBuilders_congr {h : Graph} (hskel : g.skeleton = h.skeleton) {α : Type}
    {f : SubFedBuilder → α} (hf : ∀ s, f { s with minTrigger := 0, maxTrigger := 0 } = f s) :
    g.subFedBuilders.map f = h.subFedBuilders.map f := by
  have hfixed : ∀ k : Graph, k.subFedBuilders.map f = k.skeleton.subFedBuilders.map f := by
    intro k
    simp only [skeleton, List.map_map]
    exact List.map_congr_left fun s _ => (hf s).symm
  rw [hfixed g, hfixed h, hskel]

/-- The links are part of the skeleton. -/
theorem Wired.congr {h : Graph} (hg : g.Wired) (hskel : g.skeleton = h.skeleton) : h.Wired := by
  have hbuilders : g.skeleton.fedBuilders = h.skeleton.fedBuilders := by rw [hskel]
  change g.fedBuilders = h.fedBuilders at hbuilders
  have hcount : g.subFedBuilders.length = h.subFedBuilders.length := by
    have hnames := congrArg List.length (map_subFedBuilders_congr hskel (f := (·.name)) fun _ => rfl)
    simpa only [List.length_map] using hnames
  refine ⟨?_, ?_, ?_, hg.feds.congr hskel, hg.frls.congr hskel, hcount ▸ hg.subFedBuilders,
    hbuilders ▸ hg.fedBuilders⟩
  · have hup := map_entities_congr hskel (s := .fed) (f := Fed.frl) fun _ => rfl
    have hdown := map_entities_congr hskel (s := .frl) (f := fun frl => frl.feds.values) fun _ => rfl
    exact hup ▸ hdown ▸ hg.cards
  · have hup := map_entities_congr hskel (s := .frl) (f := fun frl => some frl.subFedBuilder)
      fun _ => rfl
    have hdown := map_subFedBuilders_congr hskel (f := (·.frls)) fun _ => rfl
    exact hup ▸ hdown ▸ hg.lines
  · have hup := map_subFedBuilders_congr hskel (f := fun s => some s.fedBuilder) fun _ => rfl
    exact hup ▸ hbuilders ▸ hg.slices

/-! ## FEDs on the way down -/

namespace Wired

variable (hg : g.Wired)

include hg

theorem mem_frlFeds (id : FrlId) (fed : Fed) :
    fed ∈ g.frlFeds id ↔ fed ∈ g.feds ∧ fed.frl = some id := by
  have hlink := fun child => hg.cards.mem_iff hg.feds hg.frls child id
  simp only [frlFeds, mem_map_getD_nil, List.mem_filterMap]
  constructor
  · rintro ⟨frl, hfrl, child, hchild, hfed⟩
    obtain ⟨fed', hfed', hname⟩ := (hlink child).1 ⟨frl, hfrl, hchild⟩
    rw [hfed] at hfed'
    exact ⟨List.mem_of_getElem? hfed, Option.some.inj hfed' ▸ hname⟩
  · rintro ⟨hmem, hname⟩
    obtain ⟨child, hfed⟩ : ∃ id : FedId, id.get? g.feds = some fed :=
      (EntityId.exists_get?_iff hg.feds fed).2 hmem
    obtain ⟨frl, hfrl, hchild⟩ := (hlink child).2 ⟨fed, hfed, hname⟩
    exact ⟨frl, hfrl, child, hchild, hfed⟩

/-- Down from a sub-FED-builder are the FEDs that lead up to it. -/
theorem mem_subFedBuilderFeds (id : SubFedBuilderId) (fed : Fed) :
    fed ∈ g.subFedBuilderFeds id ↔ fed ∈ g.feds ∧ g.subFedBuilderOf? fed = some id := by
  have hlink := fun child => hg.lines.mem_iff hg.frls hg.subFedBuilders child id
  simp only [subFedBuilderFeds, mem_map_getD_nil, List.mem_flatMap, hg.mem_frlFeds]
  constructor
  · rintro ⟨s, hs, child, hchild, hmem, hcard⟩
    obtain ⟨frl, hfrl, hname⟩ := (hlink child).1 ⟨s, hs, hchild⟩
    refine ⟨hmem, ?_⟩
    rw [subFedBuilderOf?, hcard, Option.bind_some, hfrl]
    exact hname
  · rintro ⟨hmem, hlead⟩
    obtain ⟨frl, hfrl, hname⟩ := Option.map_eq_some_iff.1 hlead
    obtain ⟨child, hcard, hfrl⟩ := Option.bind_eq_some_iff.1 hfrl
    obtain ⟨s, hs, hchild⟩ := (hlink child).2 ⟨frl, hfrl, congrArg some hname⟩
    exact ⟨s, hs, child, hchild, hmem, hcard⟩

/-- Down from a FED builder are the FEDs that lead up to it. -/
theorem mem_fedBuilderFeds (id : FedBuilderId) (fed : Fed) :
    fed ∈ g.fedBuilderFeds id ↔ fed ∈ g.feds ∧ g.fedBuilderOf? fed = some id := by
  have hlink := fun child => hg.slices.mem_iff hg.subFedBuilders hg.fedBuilders child id
  simp only [fedBuilderFeds, mem_map_getD_nil, List.mem_flatMap, hg.mem_subFedBuilderFeds]
  constructor
  · rintro ⟨f, hf, child, hchild, hmem, hline⟩
    obtain ⟨s, hs, hname⟩ := (hlink child).1 ⟨f, hf, hchild⟩
    refine ⟨hmem, ?_⟩
    rw [fedBuilderOf?, hline, Option.bind_some, hs]
    exact hname
  · rintro ⟨hmem, hlead⟩
    obtain ⟨s, hs, hname⟩ := Option.map_eq_some_iff.1 hlead
    obtain ⟨child, hline, hs⟩ := Option.bind_eq_some_iff.1 hs
    obtain ⟨f, hf, hchild⟩ := (hlink child).2 ⟨s, hs, congrArg some hname⟩
    exact ⟨f, hf, child, hchild, hmem, hline⟩

end Wired

end Graph

end DaqMonitor

/-
  DaqMonitor.Proofs.Cycle.Constancy

  What a run leaves as it is.

  Rows, resets and what is worked out after the tables change what is known of the
  entities. Who they are, what they are called, where they are plugged in and what
  they refer to stays the same for the whole session, and so the look-up tables that
  were right at the start are right in the end: they find for every key the first
  entity that carries it, and nothing for any other key.

    * `Graph.SameConstants g h` — two graphs with the same entities, names and links.
    * `Graph.IndexedByFirst g` — the look-up tables of the graph find the first
      entities.
    * `Graph.fedById?_eq`, `Graph.ruByHostname?_eq` — so do the questions that use them.
    * `performAll_constants` — both hold over every run.
-/
import DaqMonitor.Proofs.Cycle.Operations
import DaqMonitor.Proofs.Graph.Links

namespace DaqMonitor

open Flashlist

/-! ## What is fixed of the entities -/

/-- What is fixed of a line of cards. -/
def SubFedBuilder.constants (s : SubFedBuilder) :=
  (s.uid, s.name, s.fedBuilder, s.frls, s.ttcPartition, s.frlPc)

/-- What is fixed of a card. -/
def Frl.constants (frl : Frl) :=
  (frl.uid, frl.slot, frl.kind, frl.subFedBuilder, frl.pc, frl.feds)

/-- What is fixed of a computer of cards. -/
def FrlPc.constants (pc : FrlPc) := (pc.uid, pc.hostname)

/-- What is fixed of a FED. -/
def Fed.constants (fed : Fed) :=
  (fed.uid, fed.id, fed.expectedId, fed.frl, fed.frlInput, fed.fmm, fed.fmmInput, fed.mainFeds,
    fed.hasSlink, fed.hasTts)

/-- What is fixed of a readout unit. -/
def Ru.constants (ru : Ru) := (ru.uid, ru.hostname, ru.instanceId, ru.isEvm, ru.fedBuilder)

/-- What is fixed of a builder unit. -/
def Bu.constants (bu : Bu) := (bu.uid, bu.hostname, bu.instanceId)

/-- What is fixed of an FMM. -/
def Fmm.constants (fmm : Fmm) :=
  (fmm.uid, fmm.slot, fmm.dual, fmm.application, fmm.ttcPartition, fmm.feds)

/-- What is fixed of an FMM application. -/
def FmmApplication.constants (app : FmmApplication) := (app.uid, app.hostname)

/-- What is fixed of a partition. -/
def TtcPartition.constants (p : TtcPartition) :=
  (p.uid, p.name, p.number, p.fmm, p.fmmOutput, p.subSystem, p.tcds.pmNumber, p.tcds.iciNumber,
    p.tcds.nullCause)

/-- What is fixed of a subsystem. -/
def SubSystem.constants (s : SubSystem) := (s.uid, s.name, s.ttcPartitions)

namespace Graph

/-- Two graphs with the same entities in the same places: the same identities, names, numbers and
    links, whatever else is known of them. -/
structure SameConstants (g h : Graph) : Prop where
  uid : g.uid = h.uid
  fedBuilders : g.fedBuilders = h.fedBuilders
  subFedBuilders :
    g.subFedBuilders.map SubFedBuilder.constants = h.subFedBuilders.map SubFedBuilder.constants
  frls : g.frls.map Frl.constants = h.frls.map Frl.constants
  frlPcs : g.frlPcs.map FrlPc.constants = h.frlPcs.map FrlPc.constants
  feds : g.feds.map Fed.constants = h.feds.map Fed.constants
  rus : g.rus.map Ru.constants = h.rus.map Ru.constants
  bus : g.bus.map Bu.constants = h.bus.map Bu.constants
  fmms : g.fmms.map Fmm.constants = h.fmms.map Fmm.constants
  fmmApplications :
    g.fmmApplications.map FmmApplication.constants = h.fmmApplications.map FmmApplication.constants
  ttcPartitions :
    g.ttcPartitions.map TtcPartition.constants = h.ttcPartitions.map TtcPartition.constants
  subSystems : g.subSystems.map SubSystem.constants = h.subSystems.map SubSystem.constants

/-- The skeleton has all constants: no entity loses one by being as before any row. -/
theorem SameConstants.of_skeleton {g h : Graph} (hskel : g.skeleton = h.skeleton) :
    g.SameConstants h where
  uid := show g.skeleton.uid = h.skeleton.uid by rw [hskel]
  fedBuilders := show g.skeleton.fedBuilders = h.skeleton.fedBuilders by rw [hskel]
  subFedBuilders := map_subFedBuilders_congr hskel fun _ => rfl
  frls := map_entities_congr hskel (s := .frl) fun _ => rfl
  frlPcs := map_entities_congr hskel (s := .frlPc) fun _ => rfl
  feds := map_entities_congr hskel (s := .fed) fun _ => rfl
  rus := map_entities_congr hskel (s := .ru) fun _ => rfl
  bus := map_entities_congr hskel (s := .bu) fun _ => rfl
  fmms := map_entities_congr hskel (s := .fmm) fun _ => rfl
  fmmApplications := map_entities_congr hskel (s := .fmmApplication) fun _ => rfl
  ttcPartitions := map_entities_congr hskel (s := .ttcPartition) fun _ => rfl
  subSystems := map_entities_congr hskel (s := .subSystem) fun _ => rfl

end Graph

/-! ## Look-up tables -/

section Tables

variable {α β κ : Type} [Ord κ] [Std.TransOrd κ] {arena : Arena}

/-- A table of entities with the same keys is the same table. -/
theorem indexBy_congr {constants : α → β} {key : α → Option κ} (key' : β → Option κ)
    (hkey : ∀ e, key e = key' (constants e)) {entities entities' : List α}
    (h : entities.map constants = entities'.map constants) :
    (indexBy key entities : SortedMap κ (EntityId arena)) = indexBy key entities' := by
  obtain rfl : key = fun e => key' (constants e) := funext hkey
  rw [← Matching.indexBy_map constants key', ← Matching.indexBy_map constants key', h]

/-- A table finds for every key the first entity that carries it, and nothing else. -/
def FindsFirst (table : SortedMap κ (EntityId arena)) (key : α → Option κ) (entities : List α) :
    Prop :=
  ∀ k id, table.find? k = some id ↔ ∃ n e, entities[n]? = some e ∧ key e = some k ∧
    (∀ m < n, ∀ e', entities[m]? = some e' → key e' ≠ some k) ∧ id = .ofNat n

theorem findsFirst_indexBy [Std.LawfulEqOrd κ] [DecidableEq κ] (key : α → Option κ)
    (entities : List α) :
    FindsFirst (indexBy key entities : SortedMap κ (EntityId arena)) key entities := by
  intro k id
  rw [Matching.find?_indexBy, Option.map_eq_some_iff]
  simp only [List.findIdx?_eq_some_iff_getElem, decide_eq_true_eq]
  constructor
  · rintro ⟨n, ⟨hn, hkey, hfirst⟩, rfl⟩
    refine ⟨n, entities[n], List.getElem?_eq_getElem hn, hkey, fun m hm e' he' => ?_, rfl⟩
    obtain ⟨hlt, rfl⟩ := List.getElem?_eq_some_iff.1 he'
    exact hfirst m hm
  · rintro ⟨n, e, he, hkey, hfirst, rfl⟩
    obtain ⟨hn, rfl⟩ := List.getElem?_eq_some_iff.1 he
    exact ⟨n, ⟨hn, hkey, fun m hm => hfirst m hm _ (List.getElem?_eq_getElem _)⟩, rfl⟩

/-- What stands where a table of the entities points to is the first entity with the key. -/
theorem get?_indexBy [Std.LawfulEqOrd κ] [DecidableEq κ] (key : α → Option κ) {entities : List α}
    (hfits : entities.length ≤ UInt32.size) (k : κ) :
    ((indexBy key entities : SortedMap κ (EntityId arena)).find? k).bind (·.get? entities)
      = entities.find? (key · = some k) := by
  rw [Matching.find?_indexBy]
  cases hidx : entities.findIdx? (key · = some k) with
  | none =>
    rw [Option.map_none, Option.bind_none, eq_comm, List.find?_eq_none]
    intro e he
    rw [List.findIdx?_eq_none_iff.1 hidx e he]
    exact Bool.false_ne_true
  | some n =>
    obtain ⟨hn, hkey, hfirst⟩ := List.findIdx?_eq_some_iff_getElem.1 hidx
    rw [Option.map_some, Option.bind_some, EntityId.get?,
      EntityId.toNat_ofNat (Nat.lt_of_lt_of_le hn hfits), List.getElem?_eq_getElem hn, eq_comm,
      List.find?_eq_some_iff_getElem]
    exact ⟨hkey, n, hn, rfl, fun m hm => by simpa using hfirst m hm⟩

end Tables

namespace Graph

/-- Every look-up table of a graph finds the first entity that carries a key, and nothing else. -/
structure IndexedByFirst (g : Graph) : Prop where
  rusByHostname : FindsFirst g.indexes.rusByHostname (fun ru => some ru.hostname) g.rus
  busByHostname : FindsFirst g.indexes.busByHostname (fun bu => some bu.hostname) g.bus
  frlPcsByHostname : FindsFirst g.indexes.frlPcsByHostname (fun pc => some pc.hostname) g.frlPcs
  fmmApplicationsByHostname :
    FindsFirst g.indexes.fmmApplicationsByHostname (fun app => some app.hostname) g.fmmApplications
  rusByInstance : FindsFirst g.indexes.rusByInstance (fun ru => ru.instanceId) g.rus
  busByInstance : FindsFirst g.indexes.busByInstance (fun bu => bu.instanceId) g.bus
  fedsById : FindsFirst g.indexes.fedsById (fun fed => some fed.id) g.feds
  fedsByExpectedId : FindsFirst g.indexes.fedsByExpectedId (fun fed => some fed.expectedId) g.feds
  subSystemsByName : FindsFirst g.indexes.subSystemsByName (fun s => some s.name) g.subSystems

/-- That holds of tables that were just made. -/
theorem indexedByFirst_of_eq {g : Graph} (h : g.indexes = g.makeIndexes) : g.IndexedByFirst := by
  constructor <;> rw [h] <;> exact findsFirst_indexBy _ _

/-- The FED with an id is the first one with it. -/
theorem fedById?_eq {g : Graph} (h : g.indexes = g.makeIndexes)
    (hfits : g.feds.length ≤ UInt32.size) (id : UInt32) :
    g.fedById? id = g.feds.find? (·.id = id) := by
  rw [fedById?, h, makeIndexes]
  simpa using get?_indexBy (fun fed : Fed => some fed.id) hfits id

/-- The readout unit on a host is the first one there. -/
theorem ruByHostname?_eq {g : Graph} (h : g.indexes = g.makeIndexes)
    (hfits : g.rus.length ≤ UInt32.size) (hostname : String) :
    g.ruByHostname? hostname = g.rus.find? (·.hostname = hostname) := by
  rw [ruByHostname?, h, makeIndexes]
  simpa using get?_indexBy (fun ru : Ru => some ru.hostname) hfits hostname

/-- Graphs with the same constants have the same tables to make. -/
theorem SameConstants.makeIndexes_eq {g h : Graph} (hsame : g.SameConstants h) :
    g.makeIndexes = h.makeIndexes := by
  unfold makeIndexes
  congr 1
  · exact indexBy_congr (fun c => some c.2.1) (fun _ => rfl) hsame.rus
  · exact indexBy_congr (fun c => some c.2.1) (fun _ => rfl) hsame.bus
  · exact indexBy_congr (fun c => some c.2) (fun _ => rfl) hsame.frlPcs
  · exact indexBy_congr (fun c => some c.2) (fun _ => rfl) hsame.fmmApplications
  · exact indexBy_congr (fun c => c.2.2.1) (fun _ => rfl) hsame.rus
  · exact indexBy_congr (fun c => c.2.2) (fun _ => rfl) hsame.bus
  · exact indexBy_congr (fun c => some c.2.1) (fun _ => rfl) hsame.feds
  · exact indexBy_congr (fun c => some c.2.2.1) (fun _ => rfl) hsame.feds
  · exact indexBy_congr (fun c => some c.2.1) (fun _ => rfl) hsame.subSystems

/-- Look-up tables that are right stay right while the skeleton stays. -/
theorem indexes_eq_of_skeleton {g h : Graph} (hskel : g.skeleton = h.skeleton)
    (hg : g.indexes = g.makeIndexes) : h.indexes = h.makeIndexes := by
  have hindexes : g.indexes = h.indexes := by
    rw [← Graph.indexes_skeleton g, hskel, Graph.indexes_skeleton]
  rw [← hindexes, hg, (SameConstants.of_skeleton hskel).makeIndexes_eq]

end Graph

/-! ## Over a run -/

namespace Monitor

/-- A run changes neither the entities of the graph nor their identities, names, numbers and links,
    whatever its tables, its resets and its sessions are; and look-up tables that are those of the
    graph at the start are those of the graph in the end. -/
theorem performAll_constants (m : Monitor) (hindexes : m.graph.indexes = m.graph.makeIndexes)
    (operations : List Operation) :
    let g := (m.performAll operations).graph
    g.SameConstants m.graph ∧ g.indexes = g.makeIndexes ∧ g.IndexedByFirst := by
  intro g
  have hskel : g.skeleton = m.graph.skeleton := skeleton_performAll m operations
  have hkept : g.indexes = g.makeIndexes := Graph.indexes_eq_of_skeleton hskel.symm hindexes
  exact ⟨.of_skeleton hskel, hkept, Graph.indexedByFirst_of_eq hkept⟩

/-- Two builder units on one host: the first of them is still found there after it was reset, also
    by a reset that names a third one, and after a row about it. -/
theorem performAll_constants_shared_host :
    let m : Monitor :=
      { graph := Graph.indexed
          { uid := ⟨1⟩
            bus := [{ uid := ⟨2⟩, hostname := "bu-1", instanceId := some 4 },
              { uid := ⟨3⟩, hostname := "bu-1" }] }
        session := {} }
    let operations : List Operation :=
      [.cycle [.ofKind .jobControl [.object [("context", .text "http://bu-1:80")]]] 1,
        .reset [.bu (.ofNat 0), .bu (.ofNat 2)], .filter { levelZeroFilter := "toppro" }, .resetAll]
    let g := (m.performAll operations).graph
    m.graph.indexes = m.graph.makeIndexes ∧ g.SameConstants m.graph ∧
      g.indexes = g.makeIndexes ∧ g.IndexedByFirst ∧
      g.indexes.busByHostname.find? "bu-1" = some (.ofNat 0) ∧
      g.bus.map (·.hostname) = ["bu-1", "bu-1"] := by
  intro m operations g
  have hindexes : m.graph.indexes = m.graph.makeIndexes := rfl
  obtain ⟨hsame, hkept, hfirst⟩ := m.performAll_constants hindexes operations
  have hhosts : g.bus.map (·.hostname) = ["bu-1", "bu-1"] := by
    simp only [g, operations, performAll, perform, runCycle, inOrder, List.foldl_cons,
      List.foldl_nil, List.mergeSort_singleton]
    decide +kernel
  have hfound : g.indexes.busByHostname.find? "bu-1" = some (.ofNat 0) := by
    simp only [g, operations, performAll, perform, runCycle, inOrder, List.foldl_cons,
      List.foldl_nil, List.mergeSort_singleton]
    decide +kernel
  exact ⟨hindexes, hsame, hkept, hfirst, hfound, hhosts⟩

end Monitor

end DaqMonitor

/-
  DaqMonitor.Proofs.Topology.Readout

  The readout as it is assembled.

  Slices are added with their lines, lines with their cards and cards with their
  FEDs. At every moment the assembled parts are the first ones that are declared, so
  many of each kind as are complete; and what was declared so far has passed its
  checks. A step that fails has found something that is wrong with the description.

    * `Assembled spec units slices lines cards feds a` — how far the assembly is.
    * `meets_addFed`, `meets_addFrl`, `meets_addSubFedBuilder`, `meets_addFedBuilder`
      — what a further entity makes of it.
-/
import DaqMonitor.Proofs.SortedMap.Lookup
import DaqMonitor.Proofs.Topology.Declared
import DaqMonitor.Proofs.Topology.Outcomes

namespace DaqMonitor.Topology

/-! ## Checks of one element -/

/-- An element of the description that was declared before is declared twice. -/
theorem duplicate_of_mem {α : Type} {l : List α} {x : α} {before after : List α}
    (hl : l = before ++ x :: after) (h : x ∈ before) : l.Duplicate x := by
  rw [hl]
  have hpair : [x, x].Sublist (before ++ x :: after) :=
    (List.singleton_sublist.2 h).append (List.singleton_sublist.2 List.mem_cons_self)
  exact (List.duplicate_iff_sublist).2 hpair

theorem nodup_map_snoc {α κ : Type} {key : α → κ} {l : List α} {x : α} (h : (l.map key).Nodup)
    (hx : key x ∉ l.map key) : ((l ++ [x]).map key).Nodup := by
  rw [List.map_append, List.map_singleton]
  refine List.nodup_append.2 ⟨h, List.nodup_singleton _, fun k hk k' hk' heq => hx ?_⟩
  rw [← List.mem_singleton.1 hk', ← heq]
  exact hk

/-- What a line refers to is declared. -/
structure Spec.LineFits (spec : Spec) (s : SubFedBuilderSpec) : Prop where
  ttcPartition : s.ttcPartition ∈ spec.ttcPartitions.map (·.name)
  frlPc : ∀ hostname, s.frlPc = some hostname → hostname ∈ spec.frlPcs

/-- The FEDs of a card have inputs of their own, which the card has. -/
structure CardFits (c : FrlSpec) : Prop where
  nodup : (c.feds.map (·.input)).Nodup
  le : ∀ f ∈ c.feds, f.input ≤ c.kind.lastInput

/-- What a FED is wired to is declared. -/
def Spec.FedFits (spec : Spec) (f : FedSpec) : Prop :=
  ∀ r, f.fmm = some r → r.fmm ∈ spec.fmms.map (·.ref)

/-! ## How far the assembly is -/

/-- The parts are the first ones that are declared: the units, the slices and so on, up to those that
    are given; and these have passed their checks. -/
structure Assembled (spec : Spec) (units slices : List FedBuilderSpec)
    (lines : List SubFedBuilderSpec) (cards : List FrlSpec) (feds : List FedSpec) (a : Assembly) :
    Prop where
  rus_eq : a.rus.map .anonymous = (spec.fedBuilders.mapIdx Spec.ru).take units.length
  fedBuilders_eq :
    a.fedBuilders.map .anonymous = (spec.fedBuilders.mapIdx spec.fedBuilder).take slices.length
  subFedBuilders_eq :
    a.subFedBuilders.map .anonymous = (spec.linesBelow.mapIdx spec.subFedBuilder).take lines.length
  frls_eq : a.frls.map .anonymous = (spec.cardsBelow.mapIdx spec.frl).take cards.length
  feds_eq : a.feds.map .anonymous = (spec.fedsBelow.map spec.unpairedFed).take feds.length
  hostnames : (units.map (·.ru.hostname)).Nodup
  lines_fit : ∀ s ∈ lines, spec.LineFits s
  cards_fit : ∀ c ∈ cards, CardFits c
  feds_fit : ∀ f ∈ feds, spec.FedFits f
  fedIds : (feds.map (·.id)).Nodup

section Take

variable {α β : Type} {f : α → β} {l : List α} {declared : List β} {n : Nat}

/-- One more of what is declared. -/
theorem map_snoc_eq_take {γ : Type} {done : List γ} {x : γ} (h : l.map f = declared.take done.length)
    {e : α} (he : declared[done.length]? = some (f e)) :
    (l ++ [e]).map f = declared.take (done ++ [x]).length := by
  rw [List.map_append, h, List.length_append, List.length_singleton, List.take_add_one, he]
  rfl

theorem length_of_map_eq_take (h : l.map f = declared.take n) (hn : n ≤ declared.length) :
    l.length = n := by
  rw [← List.length_map f, h, List.length_take, Nat.min_eq_left hn]

end Take

namespace Assembled

variable {spec : Spec} {units slices : List FedBuilderSpec} {lines : List SubFedBuilderSpec}
  {cards : List FrlSpec} {feds : List FedSpec} {a : Assembly}

/-- Uids that are taken change no part. -/
theorem withUids (h : Assembled spec units slices lines cards feds a) (uids : UidSource) :
    Assembled spec units slices lines cards feds { a with uids } :=
  ⟨h.rus_eq, h.fedBuilders_eq, h.subFedBuilders_eq, h.frls_eq, h.feds_eq, h.hostnames, h.lines_fit,
    h.cards_fit, h.feds_fit, h.fedIds⟩

/-- The assembly knows the FEDs by their ids. -/
theorem map_id_feds (h : Assembled spec units slices lines cards feds a) {later : List FedSpec}
    (hfeds : spec.feds = feds ++ later) : a.feds.map (·.id) = feds.map (·.id) := by
  have hid : (a.feds.map Fed.anonymous).map (·.id) = a.feds.map (·.id) := by
    rw [List.map_map]
    rfl
  have hdeclared : (spec.fedsBelow.map spec.unpairedFed).map (·.id) = spec.feds.map (·.id) := by
    rw [spec.feds_eq, ← map_self_below 0 spec.cards, List.map_map, List.map_map]
    rfl
  rw [← hid, h.feds_eq, List.map_take, hdeclared, hfeds, List.map_append,
    List.take_left' (List.length_map _)]

end Assembled

/-! ## FEDs -/

/-- FEDs in a row by their inputs. -/
def plugs (start : Nat) (feds : List FedSpec) : SortedMap UInt8 FedId :=
  .ofList ((feds.map (·.input)).zip (idsFrom start feds.length))

theorem plugs_snoc (start : Nat) (feds : List FedSpec) (f : FedSpec) :
    plugs start (feds ++ [f]) = (plugs start feds).insert f.input (.ofNat (start + feds.length)) := by
  have hlength : (feds.map (·.input)).length = (idsFrom start feds.length : List FedId).length := by
    rw [length_idsFrom, List.length_map]
  rw [plugs, idsFrom_length_concat, List.map_append, List.zip_append hlength, SortedMap.ofList,
    List.foldl_append]
  rfl

theorem isSome_find?_plugs {start : Nat} {feds : List FedSpec} {input : UInt8} :
    ((plugs start feds).find? input).isSome ↔ input ∈ feds.map (·.input) := by
  have hkeys : ((feds.map (·.input)).zip (idsFrom start feds.length : List FedId)).map (·.1)
      = feds.map (·.input) :=
    List.map_fst_zip (Nat.le_of_eq (by rw [length_idsFrom, List.length_map]))
  refine Iff.trans ?_ (iff_of_eq (congrArg (input ∈ ·) hkeys))
  rw [plugs, SortedMap.find?_ofList, Option.isSome_map, List.find?_isSome]
  simp

section Card

variable {spec : Spec} {units slices : List FedBuilderSpec} {lines : List SubFedBuilderSpec}
  {cards later : List FrlSpec} {c : FrlSpec} {a : Assembly}

/-- A FED goes to the next place, and to a free input of its card. -/
theorem meets_addFed (hcards : spec.cards = cards ++ c :: later) {before after : List FedSpec}
    {f : FedSpec} (hf : c.feds = before ++ f :: after)
    (h : Assembled spec units slices lines cards (cards.flatMap (·.feds) ++ before) a) :
    Meets (spec.addFed (.ofNat cards.length) c.kind
        (plugs (cards.flatMap (·.feds)).length before) f) a
      (fun plugged a' =>
        Assembled spec units slices lines cards (cards.flatMap (·.feds) ++ (before ++ [f])) a' ∧
          plugged = plugs (cards.flatMap (·.feds)).length (before ++ [f]) ∧
          f.input ≤ c.kind.lastInput ∧ f.input ∉ before.map (·.input))
      spec.Violation := by
  have hcard : c ∈ spec.cards := by simp [hcards]
  have hfeds : spec.feds
      = (cards.flatMap (·.feds) ++ before) ++ f :: (after ++ later.flatMap (·.feds)) := by
    simp [spec.feds_eq, hcards, hf]
  have hmem : f ∈ spec.feds := by simp [hfeds]
  have hids := h.map_id_feds hfeds
  have hlength : a.feds.length = (cards.flatMap (·.feds)).length + before.length := by
    simpa using congrArg List.length hids
  unfold Spec.addFed
  refine Meets.check (fun hrange => .inputOutOfRange hcard (by simp [hf])
    (CardKind.lastInput_lt_iff.1 hrange)) fun hrange => ?_
  refine Meets.check (fun htaken => .inputTaken hcard hf (isSome_find?_plugs.1 htaken)) fun hfree => ?_
  refine Meets.get (Meets.check (fun htwice => .fedTwice ?_) fun hnew => ?_)
  · rw [hids, List.contains_iff_mem] at htwice
    rw [hfeds, List.map_append, List.map_cons]
    exact duplicate_of_mem rfl htwice
  rw [hids, List.contains_iff_mem] at hnew
  refine Meets.newUid fun uid uids => ?_
  refine Meets.after (.optionMapM fun r hr =>
    .lookUpFmm fun hundeclared => .fmmOfFed hmem hr hundeclared) ?_
  rintro fmm uids' ⟨hfmm, rfl⟩
  -- The FEDs it stands for may come later in the description, so they are left out until the end.
  refine Meets.modify (Meets.pure ⟨?_, ?_, UInt8.not_lt.1 hrange, mt isSome_find?_plugs.2 hfree⟩)
  · have hplace : (spec.fedsBelow.map spec.unpairedFed)[(cards.flatMap (·.feds) ++ before).length]?
        = some (spec.unpairedFed ⟨c, cards.length, f⟩) := by
      rw [Spec.fedsBelow, hcards, List.getElem?_map, getElem?_below hf]
      rfl
    rw [← List.append_assoc]
    refine ⟨h.rus_eq, h.fedBuilders_eq, h.subFedBuilders_eq, h.frls_eq, ?_, h.hostnames, h.lines_fit,
      h.cards_fit, ?_, nodup_map_snoc h.fedIds hnew⟩
    · exact map_snoc_eq_take h.feds_eq hplace
    · exact List.forall_mem_append.2 ⟨h.feds_fit, List.forall_mem_singleton.2 hfmm⟩
  · rw [plugs_snoc, hlength]

end Card

/-! ## Cards, lines and slices -/

section Levels

variable {spec : Spec} {units slices : List FedBuilderSpec} {lines : List SubFedBuilderSpec}
  {cards : List FrlSpec} {a : Assembly}

/-- A card goes to the next place, with its FEDs. -/
theorem meets_addFrl {later : List FrlSpec} {c : FrlSpec} (hcards : spec.cards = cards ++ c :: later)
    {s : SubFedBuilderSpec} {n : Nat} (hplace : spec.cardsBelow[cards.length]? = some ⟨s, n, c⟩)
    (h : Assembled spec units slices lines cards (cards.flatMap (·.feds)) a) :
    Meets (spec.addFrl (.ofNat n) (s.frlPc.map spec.frlPcId) c) a
      (fun id a' => id = .ofNat cards.length ∧
        Assembled spec units slices lines (cards ++ [c]) ((cards ++ [c]).flatMap (·.feds)) a')
      spec.Violation := by
  have hlength : a.frls.length = cards.length := by
    refine length_of_map_eq_take h.frls_eq ?_
    rw [List.length_mapIdx]
    exact Nat.le_of_lt (List.getElem?_eq_some_iff.1 hplace).1
  unfold Spec.addFrl
  refine Meets.get (Meets.newUid fun uid uids => ?_)
  rw [hlength]
  refine Meets.bind (Meets.foldlM (fun done plugged a' =>
    Assembled spec units slices lines cards (cards.flatMap (·.feds) ++ done) a' ∧
      plugged = plugs (cards.flatMap (·.feds)).length done ∧
      (∀ f ∈ done, f.input ≤ c.kind.lastInput) ∧ (done.map (·.input)).Nodup) ?_ ?_) ?_
  · rintro done f rest plugged a' hf ⟨hdone, rfl, hle, hnodup⟩
    refine (meets_addFed hcards hf hdone).mono ?_
    rintro plugged' a'' ⟨hdone', rfl, hle', hnew⟩
    exact ⟨hdone', rfl, List.forall_mem_append.2 ⟨hle, List.forall_mem_singleton.2 hle'⟩,
      nodup_map_snoc hnodup hnew⟩
  · refine ⟨?_, rfl, List.forall_mem_nil _, List.nodup_nil⟩
    rw [List.append_nil]
    exact h.withUids uids
  rintro plugged a' ⟨hdone, rfl, hle, hnodup⟩
  -- The FEDs of the card are those that the description places there.
  have hids : (childIds cards.length spec.fedsBelow : List FedId)
      = idsFrom (cards.flatMap (·.feds)).length c.feds.length := by
    rw [Spec.fedsBelow, hcards, childIds_below]
  have hcard : (spec.cardsBelow.mapIdx spec.frl)[cards.length]?
      = some (spec.frl cards.length ⟨s, n, c⟩) := by
    rw [List.getElem?_mapIdx, hplace]
    rfl
  rw [Spec.frl, hids] at hcard
  refine Meets.modify (Meets.pure ⟨rfl, ?_⟩)
  rw [List.flatMap_append, List.flatMap_singleton]
  refine ⟨hdone.rus_eq, hdone.fedBuilders_eq, hdone.subFedBuilders_eq, ?_, hdone.feds_eq,
    hdone.hostnames, hdone.lines_fit, ?_, hdone.feds_fit, hdone.fedIds⟩
  · exact map_snoc_eq_take hdone.frls_eq hcard
  · exact List.forall_mem_append.2 ⟨hdone.cards_fit, List.forall_mem_singleton.2 ⟨hnodup, hle⟩⟩

/-- The parts whenever a line is complete. -/
abbrev AssembledLines (spec : Spec) (units slices : List FedBuilderSpec)
    (lines : List SubFedBuilderSpec) (a : Assembly) : Prop :=
  Assembled spec units slices lines (lines.flatMap (·.frls))
    ((lines.flatMap (·.frls)).flatMap (·.feds)) a

/-- A line goes to the next place, with its cards. -/
theorem meets_addSubFedBuilder {later : List SubFedBuilderSpec} {s : SubFedBuilderSpec}
    (hlines : spec.lines = lines ++ s :: later) {f : FedBuilderSpec} {n : Nat}
    (hplace : spec.linesBelow[lines.length]? = some ⟨f, n, s⟩)
    (h : AssembledLines spec units slices lines a) :
    Meets (spec.addSubFedBuilder (.ofNat n) s) a
      (fun id a' => id = .ofNat lines.length ∧
        AssembledLines spec units slices (lines ++ [s]) a')
      spec.Violation := by
  have hline : s ∈ spec.lines := by simp [hlines]
  have hlength : a.subFedBuilders.length = lines.length := by
    refine length_of_map_eq_take h.subFedBuilders_eq ?_
    rw [List.length_mapIdx]
    exact Nat.le_of_lt (List.getElem?_eq_some_iff.1 hplace).1
  unfold Spec.addSubFedBuilder
  refine Meets.get ?_
  rw [hlength]
  refine Meets.after (.lookUp fun hundeclared => .partitionOfLine hline hundeclared) ?_
  rintro ttcPartition uids ⟨hpartition, rfl⟩
  refine Meets.after (.optionMapM fun hostname hhost =>
    .lookUp fun hundeclared => .frlPcOfLine hline hhost hundeclared) ?_
  rintro frlPc uids' ⟨hfrlPc, rfl⟩
  refine Meets.bind (Meets.mapM (fun done ids a' =>
    ids = idsFrom (lines.flatMap (·.frls)).length done.length ∧
      Assembled spec units slices lines (lines.flatMap (·.frls) ++ done)
        ((lines.flatMap (·.frls) ++ done).flatMap (·.feds)) a') ?_ ?_) ?_
  · rintro done c rest ids a' hc ⟨rfl, hdone⟩
    have hcards : spec.cards
        = (lines.flatMap (·.frls) ++ done) ++ c :: (rest ++ later.flatMap (·.frls)) := by
      simp [Spec.cards, hlines, hc]
    have hcard : spec.cardsBelow[(lines.flatMap (·.frls) ++ done).length]?
        = some ⟨s, lines.length, c⟩ := by
      rw [Spec.cardsBelow, hlines]
      exact getElem?_below hc
    refine (meets_addFrl hcards hcard hdone).mono ?_
    rintro id a'' ⟨rfl, hdone'⟩
    rw [← List.append_assoc]
    refine ⟨?_, hdone'⟩
    rw [idsFrom_length_concat, List.length_append]
  · refine ⟨rfl, ?_⟩
    rw [List.append_nil]
    exact (h.withUids uids).withUids uids'
  rintro ids a' ⟨rfl, hdone⟩
  -- The cards of the line are those that the description places there.
  have hids : (childIds lines.length spec.cardsBelow : List FrlId)
      = idsFrom (lines.flatMap (·.frls)).length s.frls.length := by
    rw [Spec.cardsBelow, hlines, childIds_below]
  have hnext : (spec.linesBelow.mapIdx spec.subFedBuilder)[lines.length]?
      = some (spec.subFedBuilder lines.length ⟨f, n, s⟩) := by
    rw [List.getElem?_mapIdx, hplace]
    rfl
  rw [Spec.subFedBuilder, hids] at hnext
  refine Meets.newUid fun uid uids'' => Meets.modify (Meets.pure ⟨rfl, ?_⟩)
  rw [AssembledLines, List.flatMap_append, List.flatMap_singleton]
  refine ⟨hdone.rus_eq, hdone.fedBuilders_eq, ?_, hdone.frls_eq, hdone.feds_eq, hdone.hostnames, ?_,
    hdone.cards_fit, hdone.feds_fit, hdone.fedIds⟩
  · exact map_snoc_eq_take hdone.subFedBuilders_eq hnext
  · exact List.forall_mem_append.2
      ⟨hdone.lines_fit, List.forall_mem_singleton.2 ⟨hpartition, hfrlPc⟩⟩

/-- The parts whenever a slice is complete. -/
abbrev AssembledSlices (spec : Spec) (slices : List FedBuilderSpec) (a : Assembly) : Prop :=
  AssembledLines spec slices slices (slices.flatMap (·.subFedBuilders)) a

/-- A slice goes to the next place, with its readout unit and its lines. -/
theorem meets_addFedBuilder {later : List FedBuilderSpec} {f : FedBuilderSpec}
    (hslices : spec.fedBuilders = slices ++ f :: later) (h : AssembledSlices spec slices a) :
    Meets (spec.addFedBuilder slices.reverse f) a
      (fun _ a' => AssembledSlices spec (slices ++ [f]) a') spec.Violation := by
  have hcount : slices.length ≤ spec.fedBuilders.length := by simp [hslices]
  have hplace : spec.fedBuilders[slices.length]? = some f := by simp [hslices]
  have hlength : a.fedBuilders.length = slices.length :=
    length_of_map_eq_take h.fedBuilders_eq (by rwa [List.length_mapIdx])
  have hlength' : a.rus.length = slices.length :=
    length_of_map_eq_take h.rus_eq (by rwa [List.length_mapIdx])
  unfold Spec.addFedBuilder
  refine Meets.check (fun htwice => .ruTwice ?_) fun hnew => ?_
  · rw [List.contains_iff_mem, List.map_reverse, List.mem_reverse] at htwice
    rw [hslices, List.map_append, List.map_cons]
    exact duplicate_of_mem rfl htwice
  rw [List.contains_iff_mem, List.map_reverse, List.mem_reverse] at hnew
  refine Meets.get (Meets.get ?_)
  rw [hlength, hlength']
  -- The unit is there before the lines, so units and slices are counted apart until the slice is.
  refine Meets.newUid fun ruUid uids => Meets.modify ?_
  have hunit : (spec.fedBuilders.mapIdx Spec.ru)[slices.length]? = some (Spec.ru slices.length f) := by
    rw [List.getElem?_mapIdx, hplace]
    rfl
  refine Meets.bind (Meets.mapM (fun done ids a' =>
    ids = idsFrom (slices.flatMap (·.subFedBuilders)).length done.length ∧
      AssembledLines spec (slices ++ [f]) slices (slices.flatMap (·.subFedBuilders) ++ done) a')
    ?_ ?_) ?_
  · rintro done s rest ids a' hs ⟨rfl, hdone⟩
    have hlines : spec.lines = (slices.flatMap (·.subFedBuilders) ++ done)
        ++ s :: (rest ++ later.flatMap (·.subFedBuilders)) := by
      simp [Spec.lines, hslices, hs]
    have hline : spec.linesBelow[(slices.flatMap (·.subFedBuilders) ++ done).length]?
        = some ⟨f, slices.length, s⟩ := by
      rw [Spec.linesBelow, hslices]
      exact getElem?_below hs
    refine (meets_addSubFedBuilder hlines hline hdone).mono ?_
    rintro id a'' ⟨rfl, hdone'⟩
    rw [← List.append_assoc]
    refine ⟨?_, hdone'⟩
    rw [idsFrom_length_concat, List.length_append]
  · refine ⟨rfl, ?_⟩
    rw [List.append_nil]
    refine ⟨?_, h.fedBuilders_eq, h.subFedBuilders_eq, h.frls_eq, h.feds_eq,
      nodup_map_snoc h.hostnames hnew, h.lines_fit, h.cards_fit, h.feds_fit, h.fedIds⟩
    exact map_snoc_eq_take h.rus_eq hunit
  rintro ids a' ⟨rfl, hdone⟩
  -- The lines of the slice are those that the description places there.
  have hids : (childIds slices.length spec.linesBelow : List SubFedBuilderId)
      = idsFrom (slices.flatMap (·.subFedBuilders)).length f.subFedBuilders.length := by
    rw [Spec.linesBelow, hslices, childIds_below]
  have hnext : (spec.fedBuilders.mapIdx spec.fedBuilder)[slices.length]?
      = some (spec.fedBuilder slices.length f) := by
    rw [List.getElem?_mapIdx, hplace]
    rfl
  rw [Spec.fedBuilder, hids] at hnext
  refine Meets.newUid fun uid uids' => Meets.modify (Meets.pure ?_)
  rw [AssembledSlices, List.flatMap_append, List.flatMap_singleton]
  refine ⟨hdone.rus_eq, ?_, hdone.subFedBuilders_eq, hdone.frls_eq, hdone.feds_eq, hdone.hostnames,
    hdone.lines_fit, hdone.cards_fit, hdone.feds_fit, hdone.fedIds⟩
  exact map_snoc_eq_take hdone.fedBuilders_eq hnext

end Levels

end DaqMonitor.Topology

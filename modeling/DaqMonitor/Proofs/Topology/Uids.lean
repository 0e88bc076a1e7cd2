/-
  DaqMonitor.Proofs.Topology.Uids

  No uid is handed out twice.

  A build takes uids at many places, some of them before and some after it makes what
  an entity consists of. Whatever their order, all uids that a source has handed out
  since the build began belong to one entity each: to one that has its place among the
  parts, or to one that is kept elsewhere until the end. So the uids of a graph are as
  many as were taken for it, in another order, and the next build goes on after them.

    * `UidSource.handOut source n` — the next uids of a source.
    * `Took a us b` — the way from an assembly to a later one, by the uids taken.
    * `Graph.uids g` — the uids of a graph: that of its root and those of all arenas.
    * `Spec.uids_build` — the uids of a graph are those that its build took.
    * `nodup_uids_graphsOf` — over all builds from one source no uid comes twice, and
      they increase from graph to graph.
-/
import DaqMonitor.Proofs.Topology.Acceptance

namespace DaqMonitor

/-! ## What a source hands out -/

namespace UidSource

/-- The next uids of a source. -/
def handOut (source : UidSource) : Nat → List Uid
  | 0 => []
  | n + 1 => source.take.1 :: source.take.2.handOut n

/-- The source after it has handed out some uids. -/
def after (source : UidSource) : Nat → UidSource
  | 0 => source
  | n + 1 => source.take.2.after n

variable (source : UidSource) (m n : Nat)

theorem length_handOut : (source.handOut n).length = n := by
  induction n generalizing source with
  | zero => rfl
  | succ n ih => rw [handOut, List.length_cons, ih]

theorem handOut_add : source.handOut (m + n) = source.handOut m ++ (source.after m).handOut n := by
  induction m generalizing source with
  | zero => rw [Nat.zero_add]; rfl
  | succ m ih => rw [Nat.succ_add, handOut, ih, handOut, List.cons_append, after]

theorem after_add : source.after (m + n) = (source.after m).after n := by
  induction m generalizing source with
  | zero => rw [Nat.zero_add]; rfl
  | succ m ih => rw [Nat.succ_add, after, ih, after]

theorem take_ofNat (start : Nat) :
    (⟨UInt64.ofNat start⟩ : UidSource).take
      = (⟨UInt64.ofNat start⟩, ⟨UInt64.ofNat (start + 1)⟩) := by
  rw [UInt64.ofNat_add]
  rfl

theorem after_ofNat (start : Nat) :
    (⟨UInt64.ofNat start⟩ : UidSource).after n = ⟨UInt64.ofNat (start + n)⟩ := by
  induction n generalizing start with
  | zero => rfl
  | succ n ih => rw [after, take_ofNat, ih, Nat.add_assoc, Nat.add_comm 1 n]

/-- While 64 bits last, uids are consecutive numbers. -/
theorem toNat_handOut {start : Nat} (h : start + n ≤ UInt64.size) :
    ((⟨UInt64.ofNat start⟩ : UidSource).handOut n).map (fun uid => uid.value.toNat)
      = List.range' start n := by
  induction n generalizing start with
  | zero => rfl
  | succ n ih =>
    have hstart : start < UInt64.size := by omega
    have hrest : start + 1 + n ≤ UInt64.size := by omega
    rw [handOut, take_ofNat, List.map_cons, ih hrest, List.range'_succ,
      UInt64.toNat_ofNat_of_lt' hstart]

end UidSource

/-- The uids of a graph: that of its root and those of the entities of all arenas. -/
def Graph.uids (g : Graph) : List Uid :=
  g.uid :: (g.fedBuilders.map FedBuilder.uid ++ g.subFedBuilders.map SubFedBuilder.uid ++
    g.frls.map Frl.uid ++ g.frlPcs.map FrlPc.uid ++ g.feds.map Fed.uid ++ g.rus.map Ru.uid ++
    g.bus.map Bu.uid ++ g.fmms.map Fmm.uid ++ g.fmmApplications.map FmmApplication.uid ++
    g.ttcPartitions.map TtcPartition.uid ++ g.subSystems.map SubSystem.uid)

namespace Topology

/-- The uids of the parts assembled so far. -/
def Assembly.partUids (a : Assembly) : List Uid :=
  a.feds.map Fed.uid ++ a.frls.map Frl.uid ++ a.subFedBuilders.map SubFedBuilder.uid ++
    a.rus.map Ru.uid ++ a.fedBuilders.map FedBuilder.uid

theorem Assembly.count_partUids (a : Assembly) (uid : Uid) :
    a.partUids.count uid = (a.feds.map Fed.uid).count uid + (a.frls.map Frl.uid).count uid +
      (a.subFedBuilders.map SubFedBuilder.uid).count uid + (a.rus.map Ru.uid).count uid +
      (a.fedBuilders.map FedBuilder.uid).count uid := by
  simp only [partUids, List.count_append]

theorem count_map_snoc {α : Type} (uidOf : α → Uid) (l : List α) (x : α) (uid : Uid) :
    ((l ++ [x]).map uidOf).count uid
      = (l.map uidOf).count uid + if uidOf x == uid then 1 else 0 := by
  rw [List.map_append, List.count_append, List.map_singleton, List.count_singleton]

/-! ## Uids taken on the way -/

/-- On the way from `a` to `b` some uids were taken: those of the parts that came to it, and `us`,
    those of entities that are kept elsewhere. -/
def Took (a : Assembly) (us : List Uid) (b : Assembly) : Prop :=
  ∃ n, b.uids = a.uids.after n ∧ (us ++ b.partUids).Perm (a.partUids ++ a.uids.handOut n)

namespace Took

variable {a b c : Assembly} {us vs : List Uid}

theorem refl (a : Assembly) : Took a [] a :=
  ⟨0, rfl, by rw [List.nil_append, UidSource.handOut, List.append_nil]⟩

theorem trans (h : Took a us b) (h' : Took b vs c) : Took a (us ++ vs) c := by
  obtain ⟨m, hb, hus⟩ := h
  obtain ⟨n, hc, hvs⟩ := h'
  refine ⟨m + n, by rw [hc, hb, UidSource.after_add], ?_⟩
  rw [UidSource.handOut_add, ← hb, List.append_assoc, ← List.append_assoc a.partUids]
  -- What was taken first, with the parts as they were then, comes before what was taken later.
  exact (hvs.append_left us).trans ((List.append_assoc us _ _ ▸ hus.append_right _))

/-- A uid for an entity that is kept elsewhere. -/
theorem one (a : Assembly) : Took a [a.uids.take.1] { a with uids := a.uids.take.2 } :=
  ⟨1, rfl, List.perm_append_comm⟩

/-- An entity that was kept elsewhere becomes a part. -/
theorem place {uid : Uid} (h : Took a [uid] b) (huids : c.uids = b.uids)
    (hparts : ∀ u, c.partUids.count u = b.partUids.count u + if uid == u then 1 else 0) :
    Took a [] c := by
  obtain ⟨n, hb, hus⟩ := h
  have hperm : c.partUids.Perm (uid :: b.partUids) := by
    refine List.perm_iff_count.2 fun u => ?_
    rw [hparts, List.count_cons]
  exact ⟨n, huids.trans hb, hperm.trans hus⟩

end Took

/-! ## Steps -/

/-- A step that changes nothing of the assembly where it goes well. -/
def Looks {α : Type} (x : Builder α) : Prop := ∀ a, Meets x a (fun _ b => b = a) fun _ => True

section Steps

variable {α β : Type} {a : Assembly} {E : BuildError → Prop}

theorem Meets.takeUid {next : Uid → Builder β} {P : β → Assembly → Prop}
    (h : Meets (next a.uids.take.1) { a with uids := a.uids.take.2 } P E) :
    Meets (Topology.newUid >>= next) a P E := h

theorem Meets.look {x : Builder α} (hx : Looks x) {next : α → Builder β}
    {P : β → Assembly → Prop} (hnext : ∀ v, Meets (next v) a P fun _ => True) :
    Meets (x >>= next) a P fun _ => True := by
  refine Meets.bind (hx a) ?_
  rintro v _ rfl
  exact hnext v

theorem Meets.and {x : Builder α} {P Q : α → Assembly → Prop} {E' : BuildError → Prop}
    (h : Meets x a P E) (h' : Meets x a Q E') :
    Meets x a (fun v b => P v b ∧ Q v b) fun _ => True := by
  unfold Meets at *
  split at h
  · simp_all
  · trivial

namespace Looks

theorem pure (v : α) : Looks (Pure.pure v) := fun _ => Meets.pure rfl

theorem idxOf? [DecidableEq α] {arena : Arena} {l : List α} {x : α} {e : BuildError} :
    Looks (match l.idxOf? x with
      | some n => Pure.pure (EntityId.ofNat n : EntityId arena)
      | none => MonadExcept.throw e) := by
  cases l.idxOf? x with
  | none => exact fun _ => Meets.throw trivial
  | some n => exact pure _

theorem optionMapM {f : α → Builder β} (hf : ∀ x, Looks (f x)) (x? : Option α) :
    Looks (x?.mapM f) := by
  cases x? with
  | none => exact pure none
  | some x => exact fun _ => Meets.look (hf x) fun v => Meets.pure rfl

theorem listMapM {f : α → Builder β} (hf : ∀ x, Looks (f x)) (l : List α) : Looks (l.mapM f) :=
  fun a => Meets.mapM (fun _ _ b => b = a) (fun _ x _ _ _ _ hb => hb ▸ hf x _) rfl

end Looks

/-- Entities that take one uid each. -/
theorem took_forEachAfter {make : List α → α → Builder β} {uid : β → Uid}
    (hmake : ∀ a earlier x, Meets (make earlier x) a (fun v b => Took a [uid v] b) fun _ => True)
    (l : List α) (a : Assembly) :
    Meets (forEachAfter make [] l) a (fun vs b => Took a (vs.map uid) b) fun _ => True := by
  refine Meets.forEachAfter (fun _ vs b => Took a (vs.map uid) b) ?_ (.refl a)
  intro done x rest vs b _ hvs
  refine (hmake b done.reverse x).mono fun v c hv => ?_
  rw [List.map_append, List.map_singleton]
  exact hvs.trans hv

end Steps

/-! ## The throttling side -/

section Throttling

variable (spec : Spec) (a : Assembly)

theorem took_newSubSystem (earlier : List SubSystemSpec) (s : SubSystemSpec) :
    Meets (newSubSystem earlier s) a (fun v b => Took a [v.uid] b) fun _ => True := by
  unfold newSubSystem
  refine Meets.check (fun _ => trivial) fun _ => Meets.takeUid ?_
  exact Meets.pure (.one a)

theorem took_newFmmApplication (earlier : List String) (hostname : String) :
    Meets (newFmmApplication earlier hostname) a (fun v b => Took a [v.uid] b) fun _ => True := by
  unfold newFmmApplication
  refine Meets.check (fun _ => trivial) fun _ => Meets.takeUid ?_
  exact Meets.pure (.one a)

theorem took_newFmm (earlier : List FmmSpec) (f : FmmSpec) :
    Meets (spec.newFmm earlier f) a (fun v b => Took a [v.uid] b) fun _ => True := by
  unfold Spec.newFmm
  refine Meets.look .idxOf? fun application => ?_
  refine Meets.check (fun _ => trivial) fun _ => Meets.takeUid ?_
  exact Meets.pure (.one a)

theorem took_newTtcPartition (earlier : List TtcPartitionSpec) (p : TtcPartitionSpec) :
    Meets (spec.newTtcPartition earlier p) a (fun v b => Took a [v.uid] b) fun _ => True := by
  unfold Spec.newTtcPartition
  refine Meets.check (fun _ => trivial) fun _ => Meets.takeUid ?_
  -- What the partition is wired to is looked up after its uid was taken.
  refine Meets.look (.optionMapM (fun _ => .idxOf?) p.fmm) fun fmm => ?_
  refine Meets.look (.optionMapM (fun _ => .idxOf?) p.subsystem) fun subSystem => ?_
  exact Meets.pure (.one a)

theorem took_newFrlPc (earlier : List String) (hostname : String) :
    Meets (newFrlPc earlier hostname) a (fun v b => Took a [v.uid] b) fun _ => True := by
  unfold newFrlPc
  refine Meets.check (fun _ => trivial) fun _ => Meets.takeUid ?_
  exact Meets.pure (.one a)

theorem took_newBu (earlier : List UnitSpec) (u : UnitSpec) :
    Meets (newBu earlier u) a (fun v b => Took a [v.uid] b) fun _ => True := by
  unfold newBu
  refine Meets.check (fun _ => trivial) fun _ => Meets.takeUid ?_
  exact Meets.pure (.one a)

end Throttling

/-! ## The readout side -/

section Readout

variable (spec : Spec) (a : Assembly)

/-- Steps that place what they take uids for. -/
theorem took_mapM {α β : Type} {f : α → Builder β}
    (hf : ∀ x a, Meets (f x) a (fun _ b => Took a [] b) fun _ => True) (l : List α) :
    Meets (l.mapM f) a (fun _ b => Took a [] b) fun _ => True :=
  Meets.mapM (fun _ _ b => Took a [] b) (fun _ x _ _ b _ hb => (hf x b).mono fun _ _ => hb.trans)
    (.refl a)

theorem took_addFed (frl : FrlId) (kind : CardKind) (plugged : SortedMap UInt8 FedId)
    (f : FedSpec) :
    Meets (spec.addFed frl kind plugged f) a (fun _ b => Took a [] b) fun _ => True := by
  unfold Spec.addFed
  refine Meets.check (fun _ => trivial) fun _ => Meets.check (fun _ => trivial) fun _ => ?_
  refine Meets.get (Meets.check (fun _ => trivial) fun _ => Meets.takeUid ?_)
  refine Meets.look (.optionMapM (fun _ => .idxOf?) f.fmm) fun fmm => ?_
  refine Meets.modify (Meets.pure ?_)
  refine (Took.one a).place rfl fun uid => ?_
  simp only [Assembly.count_partUids, count_map_snoc]
  omega

theorem took_addFrl (subFedBuilder : SubFedBuilderId) (pc : Option FrlPcId) (c : FrlSpec) :
    Meets (spec.addFrl subFedBuilder pc c) a (fun _ b => Took a [] b) fun _ => True := by
  unfold Spec.addFrl
  refine Meets.get (Meets.takeUid ?_)
  -- The uid of the card is kept while its FEDs are plugged in.
  refine Meets.bind (Meets.foldlM (fun _ _ b => Took a [a.uids.take.1] b) ?_ (.one a)) ?_
  · intro _ f _ plugged b _ hb
    exact (took_addFed spec b _ c.kind plugged f).mono fun _ _ hfed => hb.trans hfed
  intro feds b hb
  refine Meets.modify (Meets.pure ?_)
  refine hb.place rfl fun uid => ?_
  simp only [Assembly.count_partUids, count_map_snoc]
  omega

theorem took_addSubFedBuilder (fedBuilder : FedBuilderId) (s : SubFedBuilderSpec) :
    Meets (spec.addSubFedBuilder fedBuilder s) a (fun _ b => Took a [] b) fun _ => True := by
  unfold Spec.addSubFedBuilder
  refine Meets.get (Meets.look .idxOf? fun ttcPartition => ?_)
  refine Meets.look (.optionMapM (fun _ => .idxOf?) s.frlPc) fun frlPc => ?_
  refine Meets.bind (took_mapM a (fun c b => took_addFrl spec b _ frlPc c) s.frls) ?_
  intro frls b hb
  refine Meets.takeUid (Meets.modify (Meets.pure ?_))
  refine (hb.trans (.one b)).place rfl fun uid => ?_
  simp only [Assembly.count_partUids, count_map_snoc]
  omega

theorem took_addFedBuilder (earlier : List FedBuilderSpec) (f : FedBuilderSpec) :
    Meets (spec.addFedBuilder earlier f) a (fun _ b => Took a [] b) fun _ => True := by
  unfold Spec.addFedBuilder
  refine Meets.check (fun _ => trivial) fun _ => Meets.get (Meets.get (Meets.takeUid ?_))
  -- The unit is a part before its lines are added, the slice only after them.
  refine Meets.modify ?_
  have hru : ∀ ru : Ru, ru.uid = a.uids.take.1 →
      Took a [] { a with uids := a.uids.take.2, rus := a.rus ++ [ru] } := by
    intro ru huid
    refine (Took.one a).place rfl fun uid => ?_
    simp only [Assembly.count_partUids, count_map_snoc, huid]
    omega
  refine Meets.bind (took_mapM _ (fun s b => took_addSubFedBuilder spec b _ s) f.subFedBuilders) ?_
  intro subFedBuilders b hb
  refine Meets.takeUid (Meets.modify (Meets.pure ?_))
  refine (((hru _ rfl).trans hb).trans (.one b)).place rfl fun uid => ?_
  simp only [Assembly.count_partUids, count_map_snoc]
  omega

theorem took_addFedBuilders :
    Meets (forEachAfter spec.addFedBuilder [] spec.fedBuilders) a (fun _ b => Took a [] b)
      fun _ => True := by
  refine Meets.forEachAfter (fun _ _ b => Took a [] b) ?_ (.refl a)
  intro done f _ _ b _ hb
  exact (took_addFedBuilder spec b done.reverse f).mono fun _ _ => hb.trans

end Readout

/-! ## The whole graph -/

section Links

variable (feds : List Fed) (partitions : List TtcPartition)

theorem map_uid_linkFmms (fmms : List Fmm) :
    (linkFmms feds partitions fmms).map Fmm.uid = fmms.map Fmm.uid := by
  refine List.ext_getElem? fun n => ?_
  simp only [linkFmms, List.getElem?_map, List.getElem?_mapIdx, Option.map_map]
  rfl

theorem map_uid_linkSubSystems (subSystems : List SubSystem) :
    (linkSubSystems partitions subSystems).map SubSystem.uid = subSystems.map SubSystem.uid := by
  refine List.ext_getElem? fun n => ?_
  simp only [linkSubSystems, List.getElem?_map, List.getElem?_mapIdx, Option.map_map]
  rfl

theorem map_uid_zip {feds : List Fed} {mainFeds : List (List FedId)}
    (h : feds.length ≤ mainFeds.length) :
    ((feds.zip mainFeds).map fun f => { f.1 with mainFeds := f.2 }).map Fed.uid
      = feds.map Fed.uid := by
  have hfeds : (feds.zip mainFeds).map (·.1) = feds := List.map_fst_zip h
  conv_rhs => rw [← hfeds]
  rw [List.map_map, List.map_map]
  rfl

theorem looks_lookUpMainFeds (f : FedSpec) : Looks (lookUpMainFeds feds f) :=
  .listMapM (fun _ => .idxOf?) f.mainFeds

end Links

section Whole

variable {α β : Type} {a : Assembly}

/-- Entities that take one uid each and are kept elsewhere. -/
theorem Meets.takeEach {make : List α → α → Builder β} {uid : β → Uid} {l : List α}
    {Q : List β → Prop} {E : BuildError → Prop} {next : List β → Builder Graph}
    {P : Graph → Assembly → Prop}
    (htook : ∀ a earlier x, Meets (make earlier x) a (fun v b => Took a [uid v] b) fun _ => True)
    (hmakes : Makes (Topology.forEachAfter make [] l) Q E)
    (hnext : ∀ vs uids, Took a (vs.map uid) { a with uids } →
      Meets (next vs) { a with uids } P fun _ => True) :
    Meets (Topology.forEachAfter make [] l >>= next) a P fun _ => True := by
  refine Meets.bind ((took_forEachAfter htook l a).and (hmakes a)) ?_
  rintro vs _ ⟨hvs, ⟨uids, rfl⟩, -⟩
  exact hnext vs uids hvs

/-- A graph has, in some order, the uids that were taken for it. -/
theorem took_assemble (spec : Spec) (uids : UidSource) :
    Meets spec.assemble { uids }
      (fun g b => ∃ n, b.uids = uids.after n ∧ g.uids.Perm (uids.handOut n)) fun _ => True := by
  unfold Spec.assemble
  refine Meets.takeUid ?_
  have hroot := Took.one { uids }
  refine Meets.takeEach took_newSubSystem (.forEachAfter fun _ _ _ => makes_newSubSystem) ?_
  intro subSystems uids₂ hsubSystems
  refine Meets.takeEach took_newFmmApplication
    (.forEachAfter fun _ _ _ => makes_newFmmApplication) ?_
  intro fmmApplications uids₃ hfmmApplications
  refine Meets.takeEach (took_newFmm spec) (.forEachAfter fun _ _ _ => makes_newFmm) ?_
  intro fmms uids₄ hfmms
  refine Meets.takeEach (took_newTtcPartition spec)
    (.forEachAfter fun _ _ _ => makes_newTtcPartition) ?_
  intro ttcPartitions uids₅ hpartitions
  refine Meets.takeEach took_newFrlPc (.forEachAfter fun _ _ _ => makes_newFrlPc) ?_
  intro frlPcs uids₆ hfrlPcs
  refine Meets.takeEach took_newBu (.forEachAfter fun _ _ _ => makes_newBu) ?_
  intro bus uids₇ hbus
  refine Meets.bind ((took_addFedBuilders spec _).and (meets_addFedBuilders spec uids₇)) ?_
  rintro _ readout ⟨hparts, hreadout⟩
  refine Meets.get (Meets.check (fun _ => trivial) fun _ => ?_)
  have hlooked := Looks.listMapM (looks_lookUpMainFeds readout.feds) spec.feds readout
  have hfound := Makes.listMapM (fun f hf => makes_lookUpMainFeds hreadout.map_id_feds hf) readout
  refine Meets.bind (hlooked.and hfound) ?_
  rintro mainFeds readout ⟨rfl, -, -, rfl⟩
  -- All uids that were taken are with a part, with an entity of the throttling side or the root.
  obtain ⟨n, huids, hperm⟩ := (((((((hroot.trans hsubSystems).trans hfmmApplications).trans
    hfmms).trans hpartitions).trans hfrlPcs).trans hbus).trans hparts)
  refine Meets.pure ⟨n, huids, List.perm_iff_count.2 fun uid => ?_⟩
  have hcount := hperm.count_eq uid
  have hlength :
      readout.feds.length ≤ (spec.feds.map fun f => f.mainFeds.map spec.fedId).length := by
    have hids := congrArg List.length hreadout.map_id_feds
    simp only [List.length_map] at hids ⊢
    omega
  have hstart : ({ uids } : Assembly).partUids = [] := rfl
  rw [hstart, List.nil_append] at hcount
  rw [← hcount]
  simp only [Graph.uids, Graph.indexed, map_uid_zip hlength, map_uid_linkFmms,
    map_uid_linkSubSystems, List.count_append, List.count_cons, Assembly.count_partUids,
    List.count_nil]
  omega

end Whole

namespace Spec

/-- The uids of a built graph are, in some order, those that the build took, and the next build goes
    on after them. -/
theorem uids_build {spec : Spec} {uids uids' : UidSource} {g : Graph}
    (h : spec.build uids = (.ok g, uids')) :
    g.uids.Perm (uids.handOut g.uids.length) ∧ uids' = uids.after g.uids.length := by
  have htook := took_assemble spec uids
  unfold Meets at htook
  unfold build EStateM.run at h
  cases hrun : spec.assemble { uids } with
  | ok g' a =>
    rw [hrun] at h htook
    obtain ⟨n, huids, hperm⟩ := htook
    obtain ⟨hg, rfl⟩ := Prod.mk.inj h
    obtain rfl := Except.ok.inj hg
    have hn : g'.uids.length = n := hperm.length_eq.trans (uids.length_handOut n)
    rw [hn]
    exact ⟨hperm, huids⟩
  | error e a =>
    rw [hrun] at h
    cases (Prod.mk.inj h).1

/-- How many uids a build takes. For one that fails it is how far the source went on, counted in 64
    bits, which is never more than it took. -/
def taken (spec : Spec) (uids : UidSource) : Nat :=
  match spec.build uids with
  | (.ok g, _) => g.uids.length
  | (.error _, uids') => (uids'.next - uids.next).toNat

/-- A build leaves the source behind the uids that it took. -/
theorem build_ofNat (spec : Spec) (start : Nat) :
    (spec.build ⟨UInt64.ofNat start⟩).2
      = ⟨UInt64.ofNat (start + spec.taken ⟨UInt64.ofNat start⟩)⟩ := by
  unfold taken
  cases hbuild : spec.build ⟨UInt64.ofNat start⟩ with
  | mk result uids' =>
    cases result with
    | ok g =>
      have huids := (uids_build hbuild).2
      rw [UidSource.after_ofNat] at huids
      exact huids
    | error e =>
      obtain ⟨next⟩ := uids'
      show (⟨next⟩ : UidSource) = ⟨UInt64.ofNat (start + (next - UInt64.ofNat start).toNat)⟩
      rw [UInt64.ofNat_add, UInt64.ofNat_toNat, UInt64.add_comm, UInt64.sub_add_cancel]

theorem uids_build_ofNat {spec : Spec} {start : Nat} {uids' : UidSource} {g : Graph}
    (h : spec.build ⟨UInt64.ofNat start⟩ = (.ok g, uids'))
    (hlast : start + g.uids.length ≤ UInt64.size) :
    g.uids.Nodup ∧ ∀ uid ∈ g.uids,
      start ≤ uid.value.toNat ∧ uid.value.toNat < start + g.uids.length := by
  have hperm := (uids_build h).1.map fun uid => uid.value.toNat
  rw [UidSource.toNat_handOut _ hlast] at hperm
  refine ⟨List.Nodup.of_map _ (hperm.nodup_iff.2 List.nodup_range'), fun uid huid => ?_⟩
  exact List.mem_range'_1.1 (hperm.subset (List.mem_map_of_mem huid))

end Spec

/-! ## Builds one after the other -/

/-- The graphs that are built from some descriptions, one after the other and from one source. A
    build that fails gives no graph. -/
def graphsOf (uids : UidSource) : List Spec → List Graph
  | [] => []
  | spec :: specs =>
    (spec.build uids).1.toOption.toList ++ graphsOf (spec.build uids).2 specs

/-- How many uids some builds take, one after the other and from one source. -/
def takenByAll (uids : UidSource) : List Spec → Nat
  | [] => 0
  | spec :: specs => spec.taken uids + takenByAll (spec.build uids).2 specs

/-- Every graph has its uids above those that were taken before it was built. -/
theorem uids_graphsOf_ofNat {specs : List Spec} {start : Nat}
    (h : start + takenByAll ⟨UInt64.ofNat start⟩ specs ≤ UInt64.size) :
    (∀ g ∈ graphsOf ⟨UInt64.ofNat start⟩ specs,
      g.uids.Nodup ∧ ∀ uid ∈ g.uids, start ≤ uid.value.toNat) ∧
    (graphsOf ⟨UInt64.ofNat start⟩ specs).Pairwise fun earlier later =>
      ∀ u ∈ earlier.uids, ∀ v ∈ later.uids, u.value < v.value := by
  induction specs generalizing start with
  | nil => exact ⟨fun _ h => (nomatch h), List.Pairwise.nil⟩
  | cons spec specs ih =>
    rw [takenByAll, spec.build_ofNat, ← Nat.add_assoc] at h
    rw [graphsOf, spec.build_ofNat]
    obtain ⟨hlater, hpairwise⟩ := ih h
    -- What comes later stays above what this build took, whether or not it gave a graph.
    have habove : ∀ g ∈ graphsOf ⟨UInt64.ofNat (start + spec.taken ⟨UInt64.ofNat start⟩)⟩ specs,
        g.uids.Nodup ∧ ∀ uid ∈ g.uids, start ≤ uid.value.toNat := fun g hg =>
      ⟨(hlater g hg).1, fun uid huid =>
        Nat.le_trans (Nat.le_add_right _ _) ((hlater g hg).2 uid huid)⟩
    cases hbuild : spec.build ⟨UInt64.ofNat start⟩ with
    | mk result uids' =>
      cases result with
      | error e => exact ⟨habove, hpairwise⟩
      | ok g =>
        have htaken : spec.taken ⟨UInt64.ofNat start⟩ = g.uids.length := by
          rw [Spec.taken, hbuild]
        have hlast : start + g.uids.length ≤ UInt64.size := by omega
        obtain ⟨hnodup, hrange⟩ := Spec.uids_build_ofNat hbuild hlast
        refine ⟨List.forall_mem_cons.2 ⟨⟨hnodup, fun uid huid => (hrange uid huid).1⟩, habove⟩,
          List.pairwise_cons.2 ⟨fun g' hg' u hu v hv => ?_, hpairwise⟩⟩
        have hu' := (hrange u hu).2
        have hv' := (hlater g' hg').2 v hv
        rw [UInt64.lt_iff_toNat_lt]
        omega

/-- No uid is ever in two places: while fewer than `2 ^ 64` are taken, all uids of all graphs that
    are built from one source differ, and they increase from graph to graph. -/
theorem nodup_uids_graphsOf (specs : List Spec) (h : takenByAll {} specs < UInt64.size) :
    ((graphsOf {} specs).flatMap Graph.uids).Nodup ∧
      (graphsOf {} specs).Pairwise fun earlier later =>
        ∀ u ∈ earlier.uids, ∀ v ∈ later.uids, u.value < v.value := by
  -- The first uid is 1, so the last one still fits.
  have hstart : ({} : UidSource) = ⟨UInt64.ofNat 1⟩ := rfl
  have hlast : 1 + takenByAll ⟨UInt64.ofNat 1⟩ specs ≤ UInt64.size := by
    rw [← hstart]
    omega
  obtain ⟨hnodup, hpairwise⟩ := uids_graphsOf_ofNat hlast
  refine ⟨List.nodup_flatMap.2 ⟨fun g hg => (hnodup g hg).1, hpairwise.imp ?_⟩, hpairwise⟩
  intro earlier later hlt uid hu hv
  exact UInt64.lt_irrefl _ (hlt uid hu uid hv)

/-- Three descriptions, the second of which fails after it has taken uids. -/
theorem nodup_uids_graphsOf_failing :
    let host (name : String) : Spec := { frlPcs := [name], bus := [{ hostname := name }] }
    let specs := [host "a", { frlPcs := ["b", "b"] }, host "c"]
    takenByAll {} specs = 8 ∧ (graphsOf {} specs).map (fun g => g.uids.map (·.value)) =
        [[1, 2, 3], [6, 7, 8]] ∧
      ((graphsOf {} specs).flatMap Graph.uids).Nodup ∧
      (graphsOf {} specs).Pairwise fun earlier later =>
        ∀ u ∈ earlier.uids, ∀ v ∈ later.uids, u.value < v.value := by
  intro host specs
  have htaken : takenByAll {} specs = 8 := by decide +kernel
  have hvalues : (graphsOf {} specs).map (fun g => g.uids.map (·.value)) =
      [[1, 2, 3], [6, 7, 8]] := by decide +kernel
  exact ⟨htaken, hvalues, nodup_uids_graphsOf specs (htaken ▸ by decide)⟩

end Topology

end DaqMonitor

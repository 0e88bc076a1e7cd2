/-
  DaqMonitor.Proofs.Topology.Outcomes

  Reasoning about both outcomes of a step of the assembly of a topology.

  A step goes well or finds something wrong. What is said of it is said of its
  result and of the assembly after it in the one case, and of the error in the
  other, so a description is shown to be accepted for what it has and to be
  refused for what it lacks in one walk over the steps. The rules for lists give each
  step the place of its element in the whole list.

    * `Meets x a P E` — where `x` goes well on `a`, `P` holds of its result and of the
      assembly after it; where it fails, `E` holds of the error.
    * `Makes x P E` — the same of a step that leaves the parts as they are, on every
      assembly.
-/
import DaqMonitor.Topology.Build
import Mathlib.Data.List.Duplicate

namespace DaqMonitor.Topology

variable {α β γ : Type}

/-- Where a step goes well on an assembly, `P` holds of its result and of the assembly after it; where
    it fails, `E` holds of the error. -/
def Meets (x : Builder α) (a : Assembly) (P : α → Assembly → Prop) (E : BuildError → Prop) : Prop :=
  match x a with
  | .ok b a' => P b a'
  | .error e _ => E e

namespace Meets

variable {a : Assembly} {P : β → Assembly → Prop} {E : BuildError → Prop}

theorem mono {Q : β → Assembly → Prop} {x : Builder β} (h : Meets x a Q E)
    (himp : ∀ b a', Q b a' → P b a') : Meets x a P E := by
  unfold Meets at *
  split at h
  · exact himp _ _ h
  · exact h

theorem pure {b : β} (h : P b a) : Meets (Pure.pure b) a P E := h

theorem throw {e : BuildError} (h : E e) : Meets (MonadExcept.throw e : Builder β) a P E := h

theorem bind {Q : α → Assembly → Prop} {x : Builder α} {next : α → Builder β} (hx : Meets x a Q E)
    (hnext : ∀ v a', Q v a' → Meets (next v) a' P E) : Meets (x >>= next) a P E := by
  change match EStateM.bind x next a with
    | .ok b a' => P b a'
    | .error e _ => E e
  unfold Meets at hx
  unfold EStateM.bind
  cases hstep : x a with
  | ok v a' =>
    rw [hstep] at hx
    exact hnext v a' hx
  | error e a' =>
    rw [hstep] at hx
    exact hx

/-- A check that fails has to be right to do so, and what comes after it may rely on it. -/
theorem check {c : Prop} [Decidable c] {e : BuildError} {next : PUnit → Builder β} (hc : c → E e)
    (h : ¬ c → Meets (next ⟨⟩) a P E) :
    Meets (if c then MonadExcept.throw e >>= next else next ⟨⟩) a P E := by
  by_cases hcase : c
  · rw [if_pos hcase]
    exact hc hcase
  · rw [if_neg hcase]
    exact h hcase

theorem get {next : Assembly → Builder β} (h : Meets (next a) a P E) :
    Meets (MonadState.get >>= next) a P E := h

theorem modify {f : Assembly → Assembly} {next : PUnit → Builder β} (h : Meets (next ⟨⟩) (f a) P E) :
    Meets (modify f >>= next) a P E := h

theorem newUid {next : Uid → Builder β} (h : ∀ uid uids, Meets (next uid) { a with uids } P E) :
    Meets (newUid >>= next) a P E := h _ _

/-! ## All elements of a list -/

variable {l : List α}

/-- Steps with a result for each element. The invariant speaks of the elements that are done, of
    their results and of the assembly. -/
theorem mapM {f : α → Builder β} (I : List α → List β → Assembly → Prop)
    (hstep : ∀ done x rest bs a, l = done ++ x :: rest → I done bs a →
      Meets (f x) a (fun b => I (done ++ [x]) (bs ++ [b])) E)
    (h : I [] [] a) : Meets (l.mapM f) a (I l) E := by
  -- The induction is on what is left; the invariant holds of what is done.
  have hrest : ∀ (rest done : List α) (bs : List β) (a : Assembly), l = done ++ rest → I done bs a →
      Meets (rest.mapM f) a (fun bs' => I l (bs ++ bs')) E := by
    intro rest
    induction rest with
    | nil =>
      intro done bs a hl hI
      rw [List.mapM_nil, hl]
      refine Meets.pure ?_
      simpa using hI
    | cons x rest ih =>
      intro done bs a hl hI
      rw [List.mapM_cons]
      refine bind (hstep done x rest bs a hl hI) fun b a' hI' => ?_
      refine bind (ih (done ++ [x]) (bs ++ [b]) a' (by rw [hl, List.append_cons]) hI') ?_
      intro bs' a'' hI''
      refine Meets.pure ?_
      simpa using hI''
  exact hrest l [] [] a rfl h

/-- Steps that pass a value on. -/
theorem foldlM {f : β → α → Builder β} (I : List α → β → Assembly → Prop)
    (hstep : ∀ done x rest b a, l = done ++ x :: rest → I done b a →
      Meets (f b x) a (I (done ++ [x])) E)
    {b : β} (h : I [] b a) : Meets (l.foldlM f b) a (I l) E := by
  have hrest : ∀ (rest done : List α) (b : β) (a : Assembly), l = done ++ rest → I done b a →
      Meets (rest.foldlM f b) a (I l) E := by
    intro rest
    induction rest with
    | nil =>
      intro done b a hl hI
      rw [List.foldlM_nil, hl, List.append_nil]
      exact Meets.pure hI
    | cons x rest ih =>
      intro done b a hl hI
      rw [List.foldlM_cons]
      refine bind (hstep done x rest b a hl hI) fun b' a' hI' => ?_
      exact ih (done ++ [x]) b' a' (by rw [hl, List.append_cons]) hI'
  exact hrest l [] b a rfl h

/-- Steps that have the elements before them at hand. -/
theorem forEachAfter {make : List α → α → Builder β} (I : List α → List β → Assembly → Prop)
    (hstep : ∀ done x rest bs a, l = done ++ x :: rest → I done bs a →
      Meets (make done.reverse x) a (fun b => I (done ++ [x]) (bs ++ [b])) E)
    (h : I [] [] a) : Meets (forEachAfter make [] l) a (I l) E := by
  have hrest : ∀ (rest done : List α) (bs : List β) (a : Assembly), l = done ++ rest → I done bs a →
      Meets (Topology.forEachAfter make done.reverse rest) a (fun bs' => I l (bs ++ bs')) E := by
    intro rest
    induction rest with
    | nil =>
      intro done bs a hl hI
      refine Meets.pure ?_
      simpa [hl] using hI
    | cons x rest ih =>
      intro done bs a hl hI
      refine bind (hstep done x rest bs a hl hI) fun b a' hI' => ?_
      -- The elements before are kept with the last one first.
      have hdone := ih (done ++ [x]) (bs ++ [b]) a' (by rw [hl, List.append_cons]) hI'
      rw [List.reverse_append] at hdone
      refine bind hdone fun bs' a'' hI'' => Meets.pure ?_
      simpa using hI''
  exact hrest l [] [] a rfl h

end Meets

/-! ## Steps that leave the parts alone -/

/-- Wherever a step goes well it leaves the parts as they are, and `P` holds of its result; wherever it
    fails, `E` holds of the error. -/
def Makes (x : Builder α) (P : α → Prop) (E : BuildError → Prop) : Prop :=
  ∀ a, Meets x a (fun b a' => (∃ uids, a' = { a with uids }) ∧ P b) E

/-- A step that leaves the parts alone, before any other. -/
theorem Meets.after {Q : α → Prop} {x : Builder α} {next : α → Builder β} {a : Assembly}
    {P : β → Assembly → Prop} {E : BuildError → Prop} (hx : Makes x Q E)
    (hnext : ∀ v uids, Q v → Meets (next v) { a with uids } P E) : Meets (x >>= next) a P E := by
  refine Meets.bind (hx a) ?_
  rintro v _ ⟨⟨uids, rfl⟩, hv⟩
  exact hnext v uids hv

namespace Makes

variable {P : β → Prop} {E : BuildError → Prop}

theorem pure {b : β} (h : P b) : Makes (Pure.pure b) P E := fun a => Meets.pure ⟨⟨a.uids, rfl⟩, h⟩

theorem throw {e : BuildError} (h : E e) : Makes (MonadExcept.throw e : Builder β) P E :=
  fun _ => Meets.throw h

theorem bind {Q : α → Prop} {x : Builder α} {next : α → Builder β} (hx : Makes x Q E)
    (hnext : ∀ v, Q v → Makes (next v) P E) : Makes (x >>= next) P E := by
  intro a
  refine Meets.after hx fun v uids hv => (hnext v hv _).mono ?_
  rintro b _ ⟨⟨uids', rfl⟩, hb⟩
  exact ⟨⟨uids', rfl⟩, hb⟩

theorem check {c : Prop} [Decidable c] {e : BuildError} {next : PUnit → Builder β} (hc : c → E e)
    (h : ¬ c → Makes (next ⟨⟩) P E) :
    Makes (if c then MonadExcept.throw e >>= next else next ⟨⟩) P E :=
  fun a => Meets.check hc fun hcase => h hcase a

theorem newUid {next : Uid → Builder β} (h : ∀ uid, Makes (next uid) P E) :
    Makes (newUid >>= next) P E := by
  intro a
  refine Meets.newUid fun uid uids => (h uid _).mono ?_
  rintro b _ ⟨⟨uids', rfl⟩, hb⟩
  exact ⟨⟨uids', rfl⟩, hb⟩

/-- The position of something that is declared. -/
theorem idxOf? [DecidableEq α] {arena : Arena} {l : List α} {x : α} {e : BuildError}
    (h : x ∉ l → E e) :
    Makes (match l.idxOf? x with
      | some n => Pure.pure (EntityId.ofNat n : EntityId arena)
      | none => MonadExcept.throw e) (fun id => x ∈ l ∧ id = .ofNat (l.idxOf x)) E := by
  cases hx : l.idxOf? x with
  | none => exact .throw (h (List.idxOf?_eq_none_iff.1 hx))
  | some n =>
    have hmem : x ∈ l := Decidable.of_not_not fun hnot => by
      rw [List.idxOf?_eq_none_iff.2 hnot] at hx
      cases hx
    refine .pure ⟨hmem, ?_⟩
    rw [List.idxOf_eq_getD_idxOf?, hx, Option.getD_some]

theorem lookUp {arena : Arena} {kind : Declared} {names : List String} {name : String}
    (h : name ∉ names → E (.unknownReference kind name)) :
    Makes (lookUp kind names name : Builder (EntityId arena))
      (fun id => name ∈ names ∧ id = .ofNat (names.idxOf name)) E :=
  idxOf? h

theorem lookUpFmm {spec : Spec} {r : FmmRef}
    (h : r ∉ spec.fmms.map (·.ref) → E (.unknownReference .fmm r.label)) :
    Makes (spec.lookUpFmm r)
      (fun id => r ∈ spec.fmms.map (·.ref) ∧ id = .ofNat ((spec.fmms.map (·.ref)).idxOf r)) E :=
  idxOf? h

/-- A step for what may be left out. -/
theorem optionMapM {f : α → Builder β} {Good : α → Prop} {g : α → β} {x? : Option α}
    (hf : ∀ x, x? = some x → Makes (f x) (fun b => Good x ∧ b = g x) E) :
    Makes (x?.mapM f) (fun b? => (∀ x, x? = some x → Good x) ∧ b? = x?.map g) E := by
  cases x? with
  | none => exact .pure ⟨fun _ h => (nomatch h), rfl⟩
  | some x =>
    refine .bind (hf x rfl) ?_
    rintro b ⟨hgood, rfl⟩
    exact .pure ⟨fun _ h => Option.some.inj h ▸ hgood, rfl⟩

/-- Steps with a result for each element, which they do not share. -/
theorem listMapM {f : α → Builder β} {Good : α → Prop} {g : α → β} {l : List α}
    (hf : ∀ x ∈ l, Makes (f x) (fun b => Good x ∧ b = g x) E) :
    Makes (l.mapM f) (fun bs => (∀ x ∈ l, Good x) ∧ bs = l.map g) E := by
  intro a
  refine Meets.mapM (fun done bs a' => (∃ uids, a' = { a with uids }) ∧
    (∀ x ∈ done, Good x) ∧ bs = done.map g) ?_ ⟨⟨a.uids, rfl⟩, fun _ h => (nomatch h), rfl⟩
  rintro done x rest bs _ hl ⟨⟨uids, rfl⟩, hdone, rfl⟩
  have hx : x ∈ l := by simp [hl]
  refine (hf x hx _).mono ?_
  rintro b _ ⟨⟨uids', rfl⟩, hgood, rfl⟩
  refine ⟨⟨uids', rfl⟩, ?_, by simp⟩
  rw [List.forall_mem_append]
  exact ⟨hdone, List.forall_mem_singleton.2 hgood⟩

end Makes

end DaqMonitor.Topology

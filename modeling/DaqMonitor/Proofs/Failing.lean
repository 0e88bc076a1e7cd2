/-
  DaqMonitor.Proofs.Failing

  Computations that give a result or fail. A row, a member of an object or a whole
  document is read step by step, and the first step that fails is what all fails with.

    * `exists_of_bind_eq_ok` — where a computation gives a result, its first step did.
    * `exists_of_mapM_eq_ok`, `exists_of_foldlM_eq_ok` — so did each step over a list.
    * `mapM_of_forall₂`, `forall₂_of_mapM_eq_ok` — where each item gives its result, the
      list does, and the other way round.
-/
import Mathlib.Data.List.Forall2

namespace DaqMonitor

variable {ε α β γ : Type}

/-! ## Equations -/

theorem map_bind (x : Except ε α) (next : α → Except ε β) (f : β → γ) :
    (x >>= next).map f = x >>= fun a => (next a).map f := by
  cases x <;> rfl

theorem ok_bind (a : α) (next : α → Except ε β) : (Except.ok a >>= next) = next a := rfl

theorem bind_map (x : Except ε α) (f : α → β) (next : β → Except ε γ) :
    (x.map f >>= next) = x >>= fun a => next (f a) := by
  cases x <;> rfl

theorem map_ok (a : α) (f : α → β) : (Except.ok a : Except ε α).map f = .ok (f a) := rfl

theorem map_map (x : Except ε α) (f : α → β) (g : β → γ) :
    (x.map f).map g = x.map fun a => g (f a) := by
  cases x <;> rfl

/-! ## Results -/

theorem exists_of_bind_eq_ok {x : Except ε α} {next : α → Except ε β} {b : β}
    (h : x >>= next = .ok b) : ∃ a, x = .ok a ∧ next a = .ok b := by
  cases x with
  | error error => cases h
  | ok a => exact ⟨a, rfl, h⟩

theorem bind_eq_ok_iff {x : Except ε α} {next : α → Except ε β} {b : β} :
    x >>= next = .ok b ↔ ∃ a, x = .ok a ∧ next a = .ok b := by
  refine ⟨exists_of_bind_eq_ok, ?_⟩
  rintro ⟨a, rfl, h⟩
  exact h

theorem map_eq_ok_iff {x : Except ε α} {f : α → β} {b : β} :
    x.map f = .ok b ↔ ∃ a, x = .ok a ∧ f a = b := by
  cases x <;> simp [Except.map]

theorem exists_of_map_eq_ok {x : Except ε α} {f : α → β} {b : β} (h : x.map f = .ok b) :
    ∃ a, x = .ok a := by
  obtain ⟨a, ha, -⟩ := map_eq_ok_iff.1 h
  exact ⟨a, ha⟩

/-- Where all items give a result, each of them does. -/
theorem exists_of_mapM_eq_ok {f : α → Except ε β} {as : List α} {bs : List β}
    (h : as.mapM f = .ok bs) : ∀ a ∈ as, ∃ b, f a = .ok b := by
  induction as generalizing bs with
  | nil => exact List.forall_mem_nil _
  | cons a as ih =>
    rw [List.mapM_cons] at h
    obtain ⟨b, hb, h⟩ := exists_of_bind_eq_ok h
    obtain ⟨bs', hbs', -⟩ := exists_of_bind_eq_ok h
    exact List.forall_mem_cons.2 ⟨⟨b, hb⟩, ih hbs'⟩

/-- Where all items are taken in, each of them is, after some others. -/
theorem exists_of_foldlM_eq_ok {f : β → α → Except ε β} {as : List α} {b c : β}
    (h : as.foldlM f b = .ok c) : ∀ a ∈ as, ∃ b' c', f b' a = .ok c' := by
  induction as generalizing b with
  | nil => exact List.forall_mem_nil _
  | cons a as ih =>
    rw [List.foldlM_cons] at h
    obtain ⟨b', hb', h⟩ := exists_of_bind_eq_ok h
    exact List.forall_mem_cons.2 ⟨⟨b, b', hb'⟩, ih h⟩

/-- Where each item gives its result, all give theirs. -/
theorem mapM_of_forall₂ {f : β → Except ε α} {as : List α} {bs : List β}
    (h : List.Forall₂ (fun a b => f b = .ok a) as bs) : bs.mapM f = .ok as := by
  induction h with
  | nil => rfl
  | cons hfirst _ ih =>
    rw [List.mapM_cons, hfirst, ih]
    rfl

/-- Where all items give theirs, each item gives its own. -/
theorem forall₂_of_mapM_eq_ok {f : β → Except ε α} {as : List α} {bs : List β}
    (h : bs.mapM f = .ok as) : List.Forall₂ (fun a b => f b = .ok a) as bs := by
  induction bs generalizing as with
  | nil =>
    cases h
    exact .nil
  | cons b bs ih =>
    rw [List.mapM_cons] at h
    obtain ⟨a, ha, h⟩ := exists_of_bind_eq_ok h
    obtain ⟨as', has', h⟩ := exists_of_bind_eq_ok h
    cases h
    exact .cons ha (ih has')

/-- Lists whose items come to the same, one by one, come to the same. -/
theorem mapM_congr_forall₂ {f : β → Except ε α} {bs bs' : List β}
    (h : List.Forall₂ (fun b b' => f b = f b') bs bs') : bs.mapM f = bs'.mapM f := by
  induction h with
  | nil => rfl
  | cons hfirst _ ih => rw [List.mapM_cons, List.mapM_cons, hfirst, ih]

end DaqMonitor

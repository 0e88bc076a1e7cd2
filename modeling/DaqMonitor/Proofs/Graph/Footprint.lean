/-
  DaqMonitor.Proofs.Graph.Footprint

  Changes of entities by what they touch.

  A change speaks about some topics when it leaves all other parts of an entity as
  they are, and takes nothing from them: what it makes of its own topics depends on
  these topics and on the fixed part alone. Changes that speak about different
  topics may change places. A change settles its topics when what it leaves there
  does not depend on what was there before; a change that settles its topics makes
  every earlier one of its kind void.

    * `Speaks.comm` — changes with different topics commute.
    * `Settles.absorb` — a change before others is void if it comes again after them.
-/
import DaqMonitor.Proofs.Graph.Topics

namespace DaqMonitor

open Flashlist

namespace TargetSort

/-- An entity is made up of its parts. -/
theorem ext_parts {s : TargetSort} {e e' : s.Entity} (h : ∀ t, s.part t e = s.part t e') :
    e = e' := by
  -- Every field that can change is in one part, and the others are in all of them.
  cases s with
  | run =>
    have h1 := h .runValues
    have h2 := h .subSystemStates
    have h3 := h .derived
    cases e; cases e'
    simp_all [part, RunInfo.part]
  | tcds =>
    have h1 := h .triggerCounts
    have h2 := h .deadtimes
    have h3 := h .triggerRates
    have h4 := h .actionCounts
    have h5 := h .channels
    cases e; cases e'
    simp_all [part, TcdsInfo.part]
  | fed =>
    have h1 := h .stream
    have h2 := h .throttling
    have h3 := h .masking
    have h4 := h .problems
    obtain ⟨_, _, _, _, _, _, _, _, _, _, ⟨⟩⟩ := e
    obtain ⟨_, _, _, _, _, _, _, _, _, _, ⟨⟩⟩ := e'
    simp_all [part, Fed.State.part]
  | frl => simpa [part] using h .cardState
  | frlPc => simpa [part] using h .crashes
  | ru =>
    have h1 := h .unitReport
    have h2 := h .allocation
    have h3 := h .crashes
    have h4 := h .derived
    obtain ⟨_, _, _, _, _, ⟨⟩⟩ := e
    obtain ⟨_, _, _, _, _, ⟨⟩⟩ := e'
    simp_all [part, Ru.State.part]
  | bu =>
    have h1 := h .builderReport
    have h2 := h .crashes
    obtain ⟨_, _, _, ⟨⟩⟩ := e
    obtain ⟨_, _, _, ⟨⟩⟩ := e'
    simp_all [part, Bu.State.part]
  | fmm => simpa [part] using h .fmmOutputs
  | fmmApplication => simpa [part] using h .crashes
  | ttcPartition =>
    have h1 := h .fmmOutputs
    have h2 := h .channels
    cases e; cases e'
    simp_all [part, TtcPartition.part]
  | subSystem => simpa [part] using h .subSystemStates

end TargetSort

/-! ## Changes that speak about some topics -/

variable {s : TargetSort} {ts us : List Topic} {f g : s.Entity → s.Entity}

/-- A change of entities that touches and looks at the given topics only. -/
structure Speaks (s : TargetSort) (ts : List Topic) (f : s.Entity → s.Entity) : Prop where
  fixed : ∀ e, s.fixed (f e) = s.fixed e
  others : ∀ t ∉ ts, ∀ e, s.part t (f e) = s.part t e
  own : ∀ t ∈ ts, ∀ e e', s.fixed e = s.fixed e' → (∀ u ∈ ts, s.part u e = s.part u e') →
    s.part t (f e) = s.part t (f e')

namespace Speaks

theorem of_eq_self (h : ∀ e, f e = e) : Speaks s ts f where
  fixed e := by rw [h]
  others t _ e := by rw [h]
  own t ht e e' _ hown := by rw [h, h]; exact hown t ht

/-- Changes may be put one after the other. -/
theorem comp (hf : Speaks s ts f) (hg : Speaks s ts g) : Speaks s ts fun e => g (f e) where
  fixed e := by rw [hg.fixed, hf.fixed]
  others t ht e := by rw [hg.others t ht, hf.others t ht]
  own t ht e e' hfixed hown := by
    apply hg.own t ht
    · rw [hf.fixed, hf.fixed, hfixed]
    · exact fun u hu => hf.own u hu e e' hfixed hown

/-- Changes that speak about different topics may change places. -/
theorem comm (hf : Speaks s ts f) (hg : Speaks s us g) (hdisj : ∀ t ∈ ts, t ∉ us) (e : s.Entity) :
    f (g e) = g (f e) := by
  apply TargetSort.ext_parts
  intro t
  by_cases hts : t ∈ ts
  · -- `g` leaves alone what `f` looks at here.
    have hsame : ∀ u ∈ ts, s.part u (g e) = s.part u e :=
      fun u hu => hg.others u (hdisj u hu) e
    rw [hf.own t hts (g e) e (hg.fixed e) hsame, hg.others t (hdisj t hts)]
  · by_cases hus : t ∈ us
    · -- The same the other way round.
      have hsame : ∀ u ∈ us, s.part u (f e) = s.part u e :=
        fun u hu => hf.others u (fun hu' => hdisj u hu' hu) e
      rw [hf.others t hts, hg.own t hus (f e) e (hf.fixed e) hsame]
    · -- Nobody speaks about `t`.
      rw [hf.others t hts, hg.others t hus, hg.others t hus, hf.others t hts]

/-- A change that speaks about nothing that the entities of a sort have. -/
theorem eq_self (hf : Speaks s ts f) (hts : ∀ t ∈ ts, ∀ e, s.part t e = s.fixed e) (e : s.Entity) :
    f e = e := by
  apply TargetSort.ext_parts
  intro t
  by_cases ht : t ∈ ts
  · rw [hts t ht, hts t ht, hf.fixed]
  · exact hf.others t ht e

end Speaks

/-! ## Changes that settle their topics -/

/-- For each fixed part, the change either does nothing or leaves values in the given topics that do
    not depend on the values before. -/
def Settles (s : TargetSort) (ts : List Topic) (f : s.Entity → s.Entity) : Prop :=
  ∀ b : s.Entity, (∀ e, s.fixed e = b → f e = e) ∨
    ∀ t ∈ ts, ∀ e e', s.fixed e = b → s.fixed e' = b → s.part t (f e) = s.part t (f e')

namespace Settles

theorem of_eq_self (h : ∀ e, f e = e) : Settles s ts f := fun _ => .inl fun e _ => h e

/-- Of two changes that settle the same topics the later one stands. -/
theorem comp (hf : Settles s ts f) (hg : Settles s ts g) (hf' : Speaks s ts f) :
    Settles s ts fun e => g (f e) := by
  intro b
  rcases hg b with hid | hsets
  · -- Where `g` does nothing, what `f` leaves stands.
    have hgf : ∀ e, s.fixed e = b → g (f e) = f e := fun e he => hid (f e) ((hf'.fixed e).trans he)
    rcases hf b with hid' | hsets'
    · exact .inl fun e he => (hgf e he).trans (hid' e he)
    · refine .inr fun t ht e e' he he' => ?_
      simp only [hgf e he, hgf e' he']
      exact hsets' t ht e e' he he'
  · -- Where it sets its topics, it does not matter what `f` left.
    refine .inr fun t ht e e' he he' => ?_
    exact hsets t ht (f e) (f e') ((hf'.fixed e).trans he) ((hf'.fixed e').trans he')

/-- Of two changes that settle their topics the first has no effect where it comes again after the
    second. -/
theorem absorb (hf : Settles s ts f) (hg : Settles s us g) (hf' : Speaks s ts f)
    (hg' : Speaks s us g) (e : s.Entity) : f (g (f e)) = f (g e) := by
  rcases hf (s.fixed e) with hid | hsets
  · rw [hid e rfl]
  · apply TargetSort.ext_parts
    intro t
    by_cases hts : t ∈ ts
    · -- The last coming of `f` sets `t`, whatever `g` and the first one left there.
      apply hsets t hts <;> simp only [hf'.fixed, hg'.fixed]
    · -- Only `g` can have changed `t`, and it could not see that `f` came before it.
      rw [hf'.others t hts, hf'.others t hts]
      rcases hg (s.fixed e) with hid | hsets'
      · rw [hid _ (hf'.fixed e), hid e rfl, hf'.others t hts]
      · by_cases hus : t ∈ us
        · exact hsets' t hus _ _ (hf'.fixed e) rfl
        · rw [hg'.others t hus, hg'.others t hus, hf'.others t hts]

end Settles

end DaqMonitor

/-
  DaqMonitor.Proofs.Text.Cutting

  Texts that are trimmed, cut at a character, and searched for a part.

  What stands before the first of some characters does not have it, and neither does
  what stands behind the last of them: so a text that is put together from two parts
  is cut into these parts again.

    * `cutAtFirst_eq_some_iff`, `cutAtLast?_eq_some_iff` — the two sides of a cut.
    * `contains_iff` — the parts of a text.
-/
import DaqMonitor.Text.Basic
import Mathlib.Data.List.Infix
import Mathlib.Data.List.TakeWhile

namespace DaqMonitor.Text

/-! ## Trimming -/

/-- Blanks in front are dropped. -/
theorem trimChars_append_left {before : List Char} (h : ∀ c ∈ before, isBlank c = true)
    (cs : List Char) : trimChars (before ++ cs) = trimChars cs := by
  rw [trimChars, List.dropWhile_append_of_pos h, ← trimChars]

/-- Blanks behind are dropped. -/
theorem trimChars_append_right {after : List Char} (h : ∀ c ∈ after, isBlank c = true)
    (cs : List Char) : trimChars (cs ++ after) = trimChars cs := by
  have hreverse : ∀ c ∈ after.reverse, isBlank c = true := fun c hc => h c (List.mem_reverse.1 hc)
  rw [trimChars, List.dropWhile_append, trimChars]
  split
  · -- There is nothing but blanks.
    rename_i hempty
    have hnone : (after ++ []).dropWhile isBlank = [] := List.dropWhile_append_of_pos h
    rw [List.append_nil] at hnone
    rw [hnone, List.isEmpty_iff.1 hempty]
  · rw [List.reverse_append, List.dropWhile_append_of_pos hreverse]

/-! ## Cutting -/

theorem cutAtFirst_append {c : Char} {before : List Char} (h : c ∉ before) (after : List Char) :
    cutAtFirst c (before ++ c :: after) = (before, some after) := by
  have hother : ∀ d ∈ before, (d != c) = true := by
    rintro d hd
    exact bne_iff_ne.2 fun heq => h (heq ▸ hd)
  simp [cutAtFirst, List.dropWhile_append_of_pos hother, List.takeWhile_append_of_pos hother]

theorem cutAtLast?_append {c : Char} {after : List Char} (h : c ∉ after) (before : List Char) :
    cutAtLast? c (before ++ c :: after) = some (before, after) := by
  have hreverse : (before ++ c :: after).reverse = after.reverse ++ c :: before.reverse := by simp
  rw [cutAtLast?, hreverse, cutAtFirst_append (by simpa using h)]
  simp

/-- What is cut off at the first of some characters. -/
theorem cutAtFirst_eq_some_iff {c : Char} {cs before after : List Char} :
    cutAtFirst c cs = (before, some after) ↔ cs = before ++ c :: after ∧ c ∉ before := by
  constructor
  · intro h
    have hsplit := List.takeWhile_append_dropWhile (p := (· != c)) (l := cs)
    rw [cutAtFirst] at h
    split at h
    · cases h
    · rename_i d rest hrest
      obtain ⟨rfl, hafter⟩ := Prod.mk.inj h
      have hhead := List.head?_dropWhile_not (· != c) cs
      rw [hrest] at hhead hsplit
      obtain rfl : d = c := by simpa using hhead
      refine ⟨?_, fun hc => ?_⟩
      · rw [← Option.some.inj hafter, hsplit]
      · simpa using List.mem_takeWhile_imp hc
  · rintro ⟨rfl, hbefore⟩
    exact cutAtFirst_append hbefore after

theorem cutAtLast?_eq_some_iff {c : Char} {cs before after : List Char} :
    cutAtLast? c cs = some (before, after) ↔ cs = before ++ c :: after ∧ c ∉ after := by
  constructor
  · intro h
    rw [cutAtLast?] at h
    split at h
    · cases h
    · rename_i after' before' hcut
      obtain ⟨rfl, rfl⟩ := Prod.mk.inj (Option.some.inj h)
      obtain ⟨hreverse, hnot⟩ := cutAtFirst_eq_some_iff.1 hcut
      refine ⟨?_, fun hc => hnot (List.mem_reverse.1 hc)⟩
      rw [← List.reverse_reverse cs, hreverse]
      simp
  · rintro ⟨rfl, hafter⟩
    exact cutAtLast?_append hafter before

/-! ## Parts -/

theorem hasPart_iff {part cs : List Char} : hasPart part cs = true ↔ part <:+: cs := by
  induction cs with
  | nil => rw [hasPart, List.isEmpty_iff, List.infix_nil]
  | cons c rest ih =>
    rw [hasPart, Bool.or_eq_true, List.isPrefixOf_iff_prefix, ih, List.infix_cons_iff]

/-- A text contains those whose characters stand in it one after the other. -/
theorem contains_iff {s part : String} : contains s part = true ↔ part.toList <:+: s.toList :=
  hasPart_iff

/-- What begins a text and does not have some character ends before that character comes. -/
theorem prefix_of_prefix_append {c : Char} {part before after : List Char} (hc : c ∉ part)
    (h : part <+: before ++ c :: after) : part <+: before := by
  rcases List.prefix_or_prefix_of_prefix h (List.prefix_append before (c :: after)) with
    hshort | ⟨rest, rfl⟩
  · exact hshort
  · rw [List.prefix_append_right_inj] at h
    cases rest with
    | nil => simp
    | cons d rest =>
      obtain rfl : d = c := (List.cons_prefix_cons.1 h).1
      exact absurd (List.mem_append_right before List.mem_cons_self) hc

/-- A part that begins with a character is not found before the first such character. -/
theorem afterPart?_append {c : Char} {part before : List Char} (h : c ∉ before)
    (rest : List Char) :
    afterPart? (c :: part) (before ++ rest) = afterPart? (c :: part) rest := by
  induction before with
  | nil => rfl
  | cons d before ih =>
    obtain ⟨hne, hbefore⟩ := not_or.1 (mt List.mem_cons.2 h)
    have hprefix : (c :: part).isPrefixOf (d :: (before ++ rest)) = false := by
      simp [List.isPrefixOf, hne]
    rw [List.cons_append, afterPart?, hprefix, if_neg Bool.false_ne_true, ih hbefore]

/-- A part with a character that does not occur is not found. -/
theorem afterPart?_of_not_mem {c : Char} {part cs : List Char} (hpart : c ∈ part) (h : c ∉ cs) :
    afterPart? part cs = none := by
  induction cs with
  | nil =>
    have hsome : part.isEmpty = false := List.isEmpty_eq_false_iff.2 (List.ne_nil_of_mem hpart)
    rw [afterPart?, hsome, if_neg Bool.false_ne_true]
  | cons d cs ih =>
    have hprefix : ¬ part.isPrefixOf (d :: cs) = true := fun hprefix =>
      h ((List.isPrefixOf_iff_prefix.1 hprefix).subset hpart)
    rw [afterPart?, if_neg hprefix, ih fun hc => h (List.mem_cons_of_mem d hc)]

theorem afterPart?_self (part rest : List Char) : afterPart? part (part ++ rest) = some rest := by
  cases part with
  | nil => cases rest <;> simp [afterPart?]
  | cons c part =>
    have hprefix : (c :: part).isPrefixOf (c :: (part ++ rest)) = true :=
      List.isPrefixOf_iff_prefix.2 (List.prefix_append (c :: part) rest)
    rw [List.cons_append, afterPart?, if_pos hprefix]
    simp

end DaqMonitor.Text

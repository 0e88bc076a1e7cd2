/-
  DaqMonitor.Proofs.Text.Folding

  Texts that differ in the case of Latin letters at most.

  Comparing without regard to case turns both texts into lower case. That only
  touches the letters `A` to `Z`: any other character, letters beyond the Latin ones
  among them, has to be the same in both texts.

    * `SameLetter`, `SameButCase` — characters and texts that differ in case at most.
    * `lowerLatin_eq_iff` — these are the texts with one lower-case form.
-/
import DaqMonitor.Text.Basic
import Mathlib.Data.List.Forall2

namespace DaqMonitor.Text

/-- One character twice, or an upper-case Latin letter and its lower case, in either order. -/
def SameLetter (c d : Char) : Prop :=
  c = d ∨ (c.isUpper = true ∧ d.toNat = c.toNat + 32) ∨ (d.isUpper = true ∧ c.toNat = d.toNat + 32)

instance (c d : Char) : Decidable (SameLetter c d) := inferInstanceAs (Decidable (_ ∨ _ ∨ _))

/-- Texts with the same characters but for the case of Latin letters. -/
def SameButCase (s t : String) : Prop := List.Forall₂ SameLetter s.toList t.toList

instance (s t : String) : Decidable (SameButCase s t) :=
  inferInstanceAs (Decidable (List.Forall₂ _ _ _))

theorem isUpper_iff_val {c : Char} : c.isUpper = true ↔ c.val ≥ 'A'.val ∧ c.val ≤ 'Z'.val :=
  decide_eq_true_iff

theorem isUpper_iff {c : Char} : c.isUpper = true ↔ 65 ≤ c.toNat ∧ c.toNat ≤ 90 := by
  rw [isUpper_iff_val, ge_iff_le, UInt32.le_iff_toNat_le, UInt32.le_iff_toNat_le]
  rfl

theorem toNat_toLower (c : Char) :
    c.toLower.toNat = if c.isUpper then c.toNat + 32 else c.toNat := by
  unfold Char.toLower
  split
  · rename_i hrange
    have hupper : c.isUpper = true := isUpper_iff_val.2 hrange
    obtain ⟨hlow, hhigh⟩ := isUpper_iff.1 hupper
    rw [if_pos hupper]
    change (c.val + 32).toNat = c.val.toNat + 32
    rw [UInt32.toNat_add]
    change (c.toNat + 32) % 2 ^ 32 = c.toNat + 32
    omega
  · rename_i hrange
    have hupper : ¬ c.isUpper = true := fun hupper => hrange (isUpper_iff_val.1 hupper)
    rw [if_neg hupper]

/-- Lower case tells all characters apart but the two cases of a letter. -/
theorem toLower_eq_iff {c d : Char} : c.toLower = d.toLower ↔ SameLetter c d := by
  have hext : ∀ {c d : Char}, c = d ↔ c.toNat = d.toNat :=
    ⟨congrArg _, fun h => Char.ext (UInt32.toNat_inj.1 h)⟩
  rw [SameLetter, hext, toNat_toLower, toNat_toLower, hext]
  simp only [isUpper_iff]
  split <;> split <;> omega

/-- The texts with one lower-case form are those that differ in case at most. -/
theorem lowerLatin_eq_iff {s t : String} : lowerLatin s = lowerLatin t ↔ SameButCase s t := by
  unfold lowerLatin SameButCase
  rw [String.ofList_inj, ← List.forall₂_eq_eq_eq, List.forall₂_map_left_iff,
    List.forall₂_map_right_iff]
  simp only [toLower_eq_iff]

theorem equalsFolded_iff {s t : String} : equalsFolded s t = true ↔ SameButCase s t := by
  rw [equalsFolded, beq_iff_eq, lowerLatin_eq_iff]

/-- The Greek letters, for one, are not folded. -/
example : SameButCase "Cms-PM" "cMS-pm" ∧ ¬ SameButCase "Σ" "σ" := by decide

end DaqMonitor.Text

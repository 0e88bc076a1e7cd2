/-
  DaqMonitor.Proofs.Service.Directory

  The names in a directory.

  The extension of a name stands behind its last dot, and something has to stand in
  front of that dot. So the names with an extension are told by their ends.

    * `extension?_eq_some_iff` — the names with some extension.
-/
import DaqMonitor.Proofs.Text.Cutting
import DaqMonitor.Service.Directory

namespace DaqMonitor.Service

variable {name stem extension : String}

theorem splitExtension_append (hstem : stem ≠ "") (hextension : '.' ∉ extension.toList) :
    splitExtension (stem ++ "." ++ extension) = (stem, some extension) := by
  have hcut : Text.cutAtLast? '.' (stem ++ "." ++ extension).toList
      = some (stem.toList, extension.toList) := by
    rw [String.toList_append, String.toList_append, List.append_assoc]
    exact Text.cutAtLast?_append hextension stem.toList
  rw [splitExtension, hcut]
  cases hchars : stem.toList with
  | nil => exact absurd (String.toList_eq_nil_iff.1 hchars) hstem
  | cons c rest => simp [← hchars]

/-- The names with some extension are those that end in a dot and that extension, after
    something. -/
theorem extension?_eq_some_iff (hextension : '.' ∉ extension.toList) :
    extension? name = some extension ↔ ∃ stem, stem ≠ "" ∧ name = stem ++ "." ++ extension := by
  constructor
  · intro h
    unfold extension? splitExtension at h
    split at h
    · rename_i c rest after hcut
      obtain rfl := Option.some.inj h
      refine ⟨String.ofList (c :: rest), by simp, ?_⟩
      rw [← String.toList_inj, (Text.cutAtLast?_eq_some_iff.1 hcut).1]
      simp
    · cases h
  · rintro ⟨stem, hstem, rfl⟩
    rw [extension?, splitExtension_append hstem hextension]

theorem stemOf_append (hstem : stem ≠ "") (hextension : '.' ∉ extension.toList) :
    stemOf (stem ++ "." ++ extension) = stem := by
  rw [stemOf, splitExtension_append hstem hextension]

end DaqMonitor.Service

/-
  DaqMonitor.Proofs.SortedMap.Lookup

  Sorted maps through their look-ups. A map is what `find?` says of it: two maps
  with the same look-ups are one map, and every operation is given by what it does
  to the look-ups.

    * `find?_insert` — insertion changes the look-up of its own key alone.
    * `ext_find?` — equal look-ups, equal maps.
    * `mem_entries_iff` — the entries are the bindings that are found.
    * `find?_ofList` — of several bindings of one key the last stands.
-/
import DaqMonitor.SortedMap
import Mathlib.Data.List.Nodup

namespace DaqMonitor

universe u v

section Entries

variable {κ : Type u} {ν : Type v} [Ord κ]

/-- A key below the keys of all entries has no entry. -/
theorem entryOf?_eq_none_of_below [Std.OrientedOrd κ] {k : κ} {entries : List (κ × ν)}
    (h : ∀ e ∈ entries, compare k e.1 = .lt) : entryOf? k entries = none := by
  induction entries with
  | nil => rfl
  | cons head rest ih =>
    obtain ⟨k', v'⟩ := head
    have hk : compare k k' = .lt := h (k', v') List.mem_cons_self
    have hrest := ih fun e he => h e (List.mem_cons_of_mem _ he)
    simp [entryOf?, hk, hrest]

/-- After an insertion the look-up of the inserted key finds the new value, and all other look-ups
    find what they found before. -/
theorem entryOf?_insertEntry [Std.TransOrd κ] [Std.LawfulEqOrd κ] [DecidableEq κ] (k : κ) (v : ν)
    (k' : κ) (entries : List (κ × ν)) :
    entryOf? k' (insertEntry k v entries) = if k' = k then some v else entryOf? k' entries := by
  induction entries with
  | nil => by_cases h : k' = k <;> simp [insertEntry, entryOf?, h]
  | cons head rest ih =>
    obtain ⟨kh, vh⟩ := head
    -- The key goes before the head, in its place, or after it.
    unfold insertEntry
    split
    · by_cases h : k' = k <;> simp [entryOf?, h]
    · rename_i heq
      obtain rfl : k = kh := Std.LawfulEqOrd.eq_of_compare heq
      by_cases h : k' = k <;> simp [entryOf?, h]
    · rename_i hgt
      have hne : kh ≠ k := by
        rintro rfl
        simp at hgt
      by_cases hh : k' = kh
      · subst hh
        simp [entryOf?, hne]
      · simp only [entryOf?, ih, Std.LawfulEqOrd.compare_eq_iff_eq, hh, if_false]

/-- In increasing entries the entry that stands in the list is the one that is found. -/
theorem KeysIncrease.entryOf?_eq_some_iff [Std.TransOrd κ] [Std.LawfulEqOrd κ]
    {entries : List (κ × ν)} (h : KeysIncrease entries) {k : κ} {v : ν} :
    entryOf? k entries = some v ↔ (k, v) ∈ entries := by
  induction entries with
  | nil => simp [entryOf?]
  | cons head rest ih =>
    obtain ⟨kh, vh⟩ := head
    have hbelow := (List.pairwise_cons.1 h).1
    have hrest : KeysIncrease rest := List.Pairwise.of_cons h
    by_cases hk : k = kh
    · subst hk
      have hnone : (k, v) ∉ rest := by
        intro hmem
        have := hbelow _ hmem
        simp at this
      simp [entryOf?, hnone, eq_comm]
    · simp [entryOf?, hk, ih hrest]

end Entries

namespace SortedMap

variable {κ : Type u} {ν : Type v} [Ord κ]

/-! ## Look-ups -/

@[simp] theorem find?_empty (k : κ) : (∅ : SortedMap κ ν).find? k = none := rfl

@[simp] theorem find?_insert [Std.TransOrd κ] [Std.LawfulEqOrd κ] [DecidableEq κ]
    (m : SortedMap κ ν) (k : κ) (v : ν) (k' : κ) :
    (m.insert k v).find? k' = if k' = k then some v else m.find? k' :=
  entryOf?_insertEntry k v k' m.entries

/-- A binding that is made unless there is one. -/
theorem find?_insertNew [Std.TransOrd κ] [Std.LawfulEqOrd κ] [DecidableEq κ] (m : SortedMap κ ν)
    (k : κ) (v : ν) (k' : κ) :
    (m.insertNew k v).find? k' = (m.find? k').or (if k' = k then some v else none) := by
  unfold insertNew
  cases hk : m.find? k with
  | some old =>
    by_cases heq : k' = k
    · subst heq
      simp [hk]
    · simp [heq]
  | none =>
    by_cases heq : k' = k
    · subst heq
      simp [hk]
    · simp [heq]

theorem mem_entries_iff [Std.TransOrd κ] [Std.LawfulEqOrd κ] {m : SortedMap κ ν} {k : κ} {v : ν} :
    (k, v) ∈ m.entries ↔ m.find? k = some v :=
  (m.increasing.entryOf?_eq_some_iff).symm

theorem nodup_keys [Std.TransOrd κ] (m : SortedMap κ ν) : (m.entries.map (·.1)).Nodup := by
  rw [List.Nodup, List.pairwise_map]
  refine m.increasing.imp ?_
  intro a b hlt heq
  rw [heq] at hlt
  simp at hlt

/-- Two maps in which the same is found are one map. -/
theorem ext_find? [Std.TransOrd κ] [Std.LawfulEqOrd κ] {m n : SortedMap κ ν}
    (h : ∀ k, m.find? k = n.find? k) : m = n := by
  have hmem : ∀ e, e ∈ m.entries ↔ e ∈ n.entries := by
    rintro ⟨k, v⟩
    rw [mem_entries_iff, mem_entries_iff, h]
  -- The same entries in increasing order are the same list.
  have hperm : m.entries.Perm n.entries :=
    (List.perm_ext_iff_of_nodup (List.Nodup.of_map _ m.nodup_keys)
      (List.Nodup.of_map _ n.nodup_keys)).2 hmem
  ext1
  refine hperm.eq_of_pairwise ?_ m.increasing n.increasing
  intro a b _ _ hab hba
  have := Std.OrientedCmp.gt_of_lt hab
  rw [hba] at this
  cases this

/-! ## Insertions in any order -/

theorem insert_comm [Std.TransOrd κ] [Std.LawfulEqOrd κ] [DecidableEq κ] (m : SortedMap κ ν)
    {k l : κ} (h : k ≠ l) (v w : ν) : (m.insert k v).insert l w = (m.insert l w).insert k v := by
  apply ext_find?
  intro x
  simp only [find?_insert]
  by_cases hl : x = l
  · have hk : x ≠ k := fun hk => h (hk.symm.trans hl)
    simp [hl, h.symm]
  · simp [hl]

/-- Of the bindings of a key the last one in the list is the one that is found. -/
theorem find?_ofList [Std.TransOrd κ] [Std.LawfulEqOrd κ] [DecidableEq κ]
    (bindings : List (κ × ν)) (k : κ) :
    (ofList bindings).find? k = (bindings.reverse.find? (·.1 = k)).map (·.2) := by
  have hfold : ∀ m : SortedMap κ ν,
      (bindings.foldl (fun m b => m.insert b.1 b.2) m).find? k
        = ((bindings.reverse.find? (·.1 = k)).map (·.2)).or (m.find? k) := by
    induction bindings with
    | nil => intro m; simp
    | cons b rest ih =>
      intro m
      rw [List.foldl_cons, ih, find?_insert, List.reverse_cons, List.find?_append]
      cases List.find? (fun x => decide (x.1 = k)) rest.reverse with
      | some c => simp
      | none => by_cases hk : k = b.1 <;> simp [hk, eq_comm]
  have h := hfold empty
  rw [show (empty : SortedMap κ ν).find? k = none from rfl, Option.or_none] at h
  exact h

/-- Where no key is bound twice, all bindings are found. -/
theorem find?_ofList_iff [Std.TransOrd κ] [Std.LawfulEqOrd κ] [DecidableEq κ]
    {bindings : List (κ × ν)} (h : (bindings.map (·.1)).Nodup) {k : κ} {v : ν} :
    (ofList bindings).find? k = some v ↔ (k, v) ∈ bindings := by
  rw [find?_ofList, Option.map_eq_some_iff]
  constructor
  · rintro ⟨b, hb, rfl⟩
    have hkey : b.1 = k := by simpa using List.find?_some hb
    subst hkey
    exact List.mem_reverse.1 (List.mem_of_find?_eq_some hb)
  · intro hmem
    have hsome : (bindings.reverse.find? (·.1 = k)).isSome :=
      List.find?_isSome.2 ⟨(k, v), List.mem_reverse.2 hmem, decide_eq_true rfl⟩
    obtain ⟨b, hb⟩ := Option.isSome_iff_exists.1 hsome
    have hkey : b.1 = k := by simpa using List.find?_some hb
    have hbound := List.mem_reverse.1 (List.mem_of_find?_eq_some hb)
    obtain rfl : b = (k, v) := List.inj_on_of_nodup_map h hbound hmem hkey
    exact ⟨_, hb, rfl⟩

theorem mem_values_iff [Std.TransOrd κ] [Std.LawfulEqOrd κ] {m : SortedMap κ ν} {v : ν} :
    v ∈ m.values ↔ ∃ k, m.find? k = some v := by
  simp only [values, List.mem_map, Prod.exists, exists_eq_right, mem_entries_iff]

theorem mem_keys_iff [Std.TransOrd κ] [Std.LawfulEqOrd κ] {m : SortedMap κ ν} {k : κ} :
    k ∈ m.keys ↔ (m.find? k).isSome := by
  rw [Option.isSome_iff_exists, keys, List.mem_map]
  constructor
  · rintro ⟨⟨k, v⟩, hmem, rfl⟩
    exact ⟨v, mem_entries_iff.1 hmem⟩
  · rintro ⟨v, hv⟩
    exact ⟨(k, v), mem_entries_iff.2 hv, rfl⟩

end SortedMap

end DaqMonitor

/-
  DaqMonitor.SortedMap

  Finite maps kept as a list of entries in strictly increasing key order.

  The order is part of the type, so a map has one representation: two maps with
  the same entries are equal, and reading a map out in key order needs no
  further step.

    * `SortedMap.insert m k v` — `m` with `k` bound to `v`, whatever was there.
    * `SortedMap.insertNew m k v` — `m` with `k` bound to `v` unless `k` is
      bound already: the first binding of a key is kept.
    * `SortedMap.find? m k` — the value bound to `k`.
-/

namespace DaqMonitor

universe u v w x

/-! ## Entries in key order -/

section Entries

variable {κ : Type u} {ν : Type v} [Ord κ]

/-- Entries whose keys strictly increase. -/
def KeysIncrease (entries : List (κ × ν)) : Prop :=
  entries.Pairwise fun a b => compare a.1 b.1 = .lt

instance (entries : List (κ × ν)) : Decidable (KeysIncrease entries) :=
  inferInstanceAs (Decidable (entries.Pairwise _))

/-- `entries` with `k` bound to `v`: the entry takes the place that the key order
    gives it and replaces an entry of the same key. -/
def insertEntry (k : κ) (v : ν) : List (κ × ν) → List (κ × ν)
  | [] => [(k, v)]
  | (k', v') :: rest =>
    match compare k k' with
    | .lt => (k, v) :: (k', v') :: rest
    | .eq => (k, v) :: rest
    | .gt => (k', v') :: insertEntry k v rest

/-- The value that the first entry of key `k` carries. -/
def entryOf? (k : κ) : List (κ × ν) → Option ν
  | [] => none
  | (k', v) :: rest => if compare k k' = .eq then some v else entryOf? k rest

theorem insertEntry_nil (k : κ) (v : ν) : insertEntry k v [] = [(k, v)] := rfl

/-- Every entry after an insertion is the new one or an old one. -/
theorem eq_or_mem_of_mem_insertEntry {k : κ} {v : ν} {entries : List (κ × ν)} {e : κ × ν}
    (h : e ∈ insertEntry k v entries) : e = (k, v) ∨ e ∈ entries := by
  induction entries with
  | nil => simpa [insertEntry] using h
  | cons head rest ih =>
    obtain ⟨k', v'⟩ := head
    unfold insertEntry at h
    split at h
    · simpa using h
    · rcases List.mem_cons.1 h with h | h
      · exact .inl h
      · exact .inr (List.mem_cons_of_mem _ h)
    · rcases List.mem_cons.1 h with h | h
      · exact .inr (h ▸ List.mem_cons_self)
      · exact (ih h).imp id (List.mem_cons_of_mem _)

/-- Insertion keeps the keys increasing. -/
theorem KeysIncrease.insertEntry [Std.TransOrd κ] {entries : List (κ × ν)}
    (h : KeysIncrease entries) (k : κ) (v : ν) :
    KeysIncrease (insertEntry k v entries) := by
  induction entries with
  | nil => exact List.pairwise_singleton _ _
  | cons head rest ih =>
    obtain ⟨k', v'⟩ := head
    have hrest : KeysIncrease rest := List.Pairwise.of_cons h
    have hbelow := (List.pairwise_cons.1 h).1
    unfold DaqMonitor.insertEntry
    split
    · rename_i hlt
      refine List.pairwise_cons.2 ⟨fun e he => ?_, h⟩
      rcases List.mem_cons.1 he with rfl | he
      · exact hlt
      · exact Std.TransCmp.lt_trans hlt (hbelow e he)
    · rename_i heq
      refine List.pairwise_cons.2 ⟨fun e he => ?_, hrest⟩
      exact Std.TransCmp.lt_of_eq_of_lt heq (hbelow e he)
    · rename_i hgt
      refine List.pairwise_cons.2 ⟨fun e he => ?_, ih hrest⟩
      rcases eq_or_mem_of_mem_insertEntry he with rfl | he
      · exact Std.OrientedCmp.lt_of_gt hgt
      · exact hbelow e he

end Entries

/-! ## The map -/

/-- A finite map from `κ` to `ν`, its entries in increasing key order. -/
structure SortedMap (κ : Type u) (ν : Type v) [Ord κ] where
  entries : List (κ × ν)
  increasing : KeysIncrease entries
  deriving DecidableEq

namespace SortedMap

variable {κ : Type u} {ν : Type v} [Ord κ]

/-- The map without entries. -/
def empty : SortedMap κ ν := ⟨[], List.Pairwise.nil⟩

instance : EmptyCollection (SortedMap κ ν) := ⟨empty⟩

instance : Inhabited (SortedMap κ ν) := ⟨empty⟩

@[ext] theorem ext {m n : SortedMap κ ν} (h : m.entries = n.entries) : m = n := by
  cases m; cases n; cases h; rfl

/-- Binds `k` to `v`. -/
def insert [Std.TransOrd κ] (m : SortedMap κ ν) (k : κ) (v : ν) : SortedMap κ ν :=
  ⟨insertEntry k v m.entries, m.increasing.insertEntry k v⟩

/-- The value bound to `k`. -/
def find? (m : SortedMap κ ν) (k : κ) : Option ν := entryOf? k m.entries

/-- Binds `k` to `v` unless `k` is bound: the first binding is kept. -/
def insertNew [Std.TransOrd κ] (m : SortedMap κ ν) (k : κ) (v : ν) : SortedMap κ ν :=
  if (m.find? k).isSome then m else m.insert k v

/-- Replaces the value bound to `k` by its image under `f`, `f none` where there is none. -/
def alter [Std.TransOrd κ] (m : SortedMap κ ν) (k : κ) (f : Option ν → ν) : SortedMap κ ν :=
  m.insert k (f (m.find? k))

/-- The map with the given bindings, made in the order of the list: the last binding of a key
    stands. -/
def ofList [Std.TransOrd κ] (bindings : List (κ × ν)) : SortedMap κ ν :=
  bindings.foldl (fun m b => m.insert b.1 b.2) empty

/-- The keys in increasing order. -/
def keys (m : SortedMap κ ν) : List κ := m.entries.map (·.1)

/-- The values in the order of their keys. -/
def values (m : SortedMap κ ν) : List ν := m.entries.map (·.2)

/-- The number of keys. -/
def size (m : SortedMap κ ν) : Nat := m.entries.length

/-! ## Mapping the values -/

variable {μ : Type w} {ξ : Type x}

/-- The map with every value replaced by its image. -/
def mapValues (f : ν → μ) (m : SortedMap κ ν) : SortedMap κ μ :=
  ⟨m.entries.map fun e => (e.1, f e.2), by
    simpa [KeysIncrease, List.pairwise_map] using m.increasing⟩

theorem mapValues_mapValues (f : ν → μ) (g : μ → ξ) (m : SortedMap κ ν) :
    (m.mapValues f).mapValues g = m.mapValues fun a => g (f a) := by
  ext1; simp [mapValues]

theorem mapValues_id (m : SortedMap κ ν) : m.mapValues id = m := by
  ext1; simp [mapValues]

theorem mapValues_congr {f g : ν → μ} (h : ∀ a, f a = g a) (m : SortedMap κ ν) :
    m.mapValues f = m.mapValues g := by
  ext1; simp [mapValues, h]

end SortedMap

end DaqMonitor

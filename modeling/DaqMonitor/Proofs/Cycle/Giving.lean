/-
  DaqMonitor.Proofs.Cycle.Giving

  Giving targets their rows, as an effect.

  Rows are given one target after the other, on a graph that changes from target
  to target. But no target has two rows, and whether a row is refused hangs on what
  is fixed. So all targets get their rows at once: each entity takes the row that
  the outcome has for it, and the refusals are those of the graph before.

    * `Effect.give kind rowOf` — every entity takes its row.
    * `Applied.give_graph` — one target gets its row.
    * `applyOutcome_graph`, `applyOutcome_failed` — the graph after an outcome, and
      the number of refusals.
-/
import DaqMonitor.Cycle.Dispatch
import DaqMonitor.Proofs.Graph.Effect
import DaqMonitor.Proofs.SortedMap.Lookup

namespace DaqMonitor

open Flashlist Matching

/-! ## Targets and positions -/

/-- The target at a position of a sort. -/
def TargetSort.target : TargetSort → Nat → Target
  | run => fun _ => .run
  | tcds => fun _ => .tcds
  | fed => fun n => .fed (.ofNat n)
  | frl => fun n => .frl (.ofNat n)
  | frlPc => fun n => .frlPc (.ofNat n)
  | ru => fun n => .ru (.ofNat n)
  | bu => fun n => .bu (.ofNat n)
  | fmm => fun n => .fmm (.ofNat n)
  | fmmApplication => fun n => .fmmApplication (.ofNat n)
  | ttcPartition => fun n => .ttcPartition (.ofNat n)
  | subSystem => fun n => .subSystem (.ofNat n)

/-- The position of a target among the entities of its sort. -/
def Target.place (t : Target) : Nat := t.position?.getD 0

@[simp] theorem TargetSort.sort_target (s : TargetSort) (n : Nat) : (s.target n).sort = s := by
  cases s <;> rfl

theorem EntityId.toNat_lt {arena : Arena} (id : EntityId arena) : id.toNat < UInt32.size :=
  id.index.toNat_lt

theorem EntityId.toNat_ofNat {arena : Arena} {n : Nat} (h : n < UInt32.size) :
    (EntityId.ofNat n : EntityId arena).toNat = n :=
  UInt32.toNat_ofNat_of_lt' h

theorem EntityId.ofNat_toNat {arena : Arena} (id : EntityId arena) : .ofNat id.toNat = id :=
  congrArg EntityId.mk UInt32.ofNat_toNat

theorem Target.place_lt (t : Target) : t.place < UInt32.size := by
  cases t with
  | run => decide
  | tcds => decide
  | _ => exact EntityId.toNat_lt _

theorem Target.target_place (t : Target) : t.sort.target t.place = t := by
  cases t with
  | run => rfl
  | tcds => rfl
  | fed id => exact congrArg Target.fed id.ofNat_toNat
  | frl id => exact congrArg Target.frl id.ofNat_toNat
  | frlPc id => exact congrArg Target.frlPc id.ofNat_toNat
  | ru id => exact congrArg Target.ru id.ofNat_toNat
  | bu id => exact congrArg Target.bu id.ofNat_toNat
  | fmm id => exact congrArg Target.fmm id.ofNat_toNat
  | fmmApplication id => exact congrArg Target.fmmApplication id.ofNat_toNat
  | ttcPartition id => exact congrArg Target.ttcPartition id.ofNat_toNat
  | subSystem id => exact congrArg Target.subSystem id.ofNat_toNat

/-- A position that an id can name is the place of its target, in a sort with any number of
    entities. -/
theorem TargetSort.place_target {g : Graph} {s : TargetSort} {n : Nat} {e : s.Entity}
    (he : (g.entities s)[n]? = some e) (hn : n < UInt32.size) : (s.target n).place = n := by
  -- There is one run and one TCDS record; the ids of the others are their positions.
  have hroot : ∀ {α : Type} {a b : α}, [a][n]? = some b → 0 = n := by
    intro α a b h
    cases n with
    | zero => rfl
    | succ m => simp at h
  cases s with
  | run => exact hroot he
  | tcds => exact hroot he
  | _ => exact EntityId.toNat_ofNat hn

/-! ## One target -/

/-- Every entity takes the row that its target has. Entities whose position no id can name have no
    target. -/
def Effect.give (kind : Kind) (rowOf : Target → Option Row) : Effect := fun s n e =>
  s.take kind (if n < UInt32.size then rowOf (s.target n) else .none) e

/-- Only one target has a row. -/
def onlyFor (target : Target) (row? : Option Row) : Target → Option Row := fun t =>
  if t = target then row? else none

/-- Whether the graph has a target, and the target refuses a row. -/
def Graph.refuses (g : Graph) (kind : Kind) (target : Target) (row : Row) : Bool :=
  (g.entities target.sort)[target.place]?.any (target.sort.refuses kind row)

section Give

variable {kind : Kind} {rowOf : Target → Option Row} {s : TargetSort} {n : Nat}

theorem Effect.give_of_lt (hn : n < UInt32.size) (e : s.Entity) :
    Effect.give kind rowOf s n e = s.take kind (rowOf (s.target n)) e := by
  rw [give, if_pos hn]

theorem Effect.give_of_not_lt (hn : ¬ n < UInt32.size) (e : s.Entity) :
    Effect.give kind rowOf s n e = e := by
  rw [give, if_neg hn]
  rfl

theorem Effect.give_of_eq_none (h : rowOf (s.target n) = Option.none) (e : s.Entity) :
    Effect.give kind rowOf s n e = e := by
  by_cases hn : n < UInt32.size
  · rw [give_of_lt hn, h]
    rfl
  · exact give_of_not_lt hn e

@[simp] theorem onlyFor_self (t : Target) (row? : Option Row) : onlyFor t row? t = row? := if_pos rfl

theorem onlyFor_other {t t' : Target} (h : t' ≠ t) (row? : Option Row) : onlyFor t row? t' = none :=
  if_neg h

end Give

section One

variable {g : Graph} {t : Target} {kind : Kind} {row : Row} {rows : List Row}

theorem Effect.give_onlyFor_other {s : TargetSort} {row? : Option Row} (hs : s ≠ t.sort)
    (l : List s.Entity) : l.mapIdx (Effect.give kind (onlyFor t row?) s) = l := by
  apply List.ext_getElem?
  intro n
  have hne : s.target n ≠ t := by
    rintro rfl
    exact hs (s.sort_target n).symm
  rw [List.getElem?_mapIdx]
  cases l[n]? with
  | none => rfl
  | some e => rw [Option.map_some, give_of_eq_none (onlyFor_other hne row?)]

theorem Effect.give_onlyFor_self {e e' : t.sort.Entity}
    (he : (g.entities t.sort)[t.place]? = some e) (hrow : t.sort.update e kind row = .ok e') :
    (g.entities t.sort).mapIdx (Effect.give kind (onlyFor t (some row)) t.sort)
      = (g.entities t.sort).set t.place e' := by
  apply List.ext_getElem?
  intro n
  rw [List.getElem?_mapIdx, List.getElem?_set]
  by_cases hn : t.place = n
  · -- The target itself.
    subst hn
    have hlen : t.place < (g.entities t.sort).length := (List.getElem?_eq_some_iff.1 he).1
    rw [he, Option.map_some, if_pos rfl, if_pos hlen, give_of_lt t.place_lt, t.target_place,
      onlyFor_self]
    simp only [TargetSort.take, hrow]
  · -- Another position is that of another target, or of none.
    rw [if_neg hn]
    cases hentity : (g.entities t.sort)[n]? with
    | none => rfl
    | some a =>
      rw [Option.map_some]
      by_cases hlt : n < UInt32.size
      · have hne : t.sort.target n ≠ t := by
          intro heq
          exact hn ((congrArg Target.place heq).symm.trans
            (TargetSort.place_target hentity hlt))
        rw [give_of_eq_none (onlyFor_other hne (some row))]
      · rw [give_of_not_lt hlt]

theorem Graph.modifyAt?_of_none {α ε : Type} {arena : Arena} {id : EntityId arena}
    {entities : List α} {f : α → Except ε α} (h : entities[id.toNat]? = none) :
    Graph.modifyAt? id entities f = none := by
  simp only [modifyAt?, EntityId.get?, h, Option.map_none]

theorem Graph.modifyAt?_of_some {α ε : Type} {arena : Arena} {id : EntityId arena}
    {entities : List α} {a : α} {f : α → Except ε α} (h : entities[id.toNat]? = some a) :
    Graph.modifyAt? id entities f = some ((f a).map fun b => entities.set id.toNat b) := by
  simp only [modifyAt?, EntityId.get?, h, Option.map_some]

theorem Graph.update?_of_none (he : (g.entities t.sort)[t.place]? = none) :
    g.update? t kind row = none := by
  cases t with
  | run => cases he
  | tcds => cases he
  | _ => exact congrArg (Option.map _) (modifyAt?_of_none he)

theorem Graph.update?_of_error {e : t.sort.Entity} {error : RowError}
    (he : (g.entities t.sort)[t.place]? = some e)
    (hrow : t.sort.update e kind row = .error error) :
    g.update? t kind row = some (.error error) := by
  cases t with
  | run =>
    cases he
    exact congrArg (fun r => some (Except.map _ r)) hrow
  | tcds =>
    cases he
    exact congrArg (fun r => some (Except.map _ r)) hrow
  | _ =>
    refine (congrArg (Option.map _) (modifyAt?_of_some he)).trans ?_
    exact congrArg (fun r => some (Except.map _ (Except.map _ r))) hrow

/-- A target that takes its row is replaced, and all else is as before. -/
theorem Graph.exists_update?_of_ok {e e' : t.sort.Entity}
    (he : (g.entities t.sort)[t.place]? = some e) (hrow : t.sort.update e kind row = .ok e') :
    ∃ h, g.update? t kind row = some (.ok h) ∧ h.surroundings = g.surroundings ∧
      h.entities t.sort = (g.entities t.sort).set t.place e' ∧
      ∀ s ≠ t.sort, h.entities s = g.entities s := by
  have hothers : ∀ {h : Graph}, (∀ s, s = t.sort ∨ h.entities s = g.entities s) →
      ∀ s ≠ t.sort, h.entities s = g.entities s :=
    fun hor s hs => (hor s).resolve_left hs
  cases t with
  | run =>
    cases he
    refine ⟨{ g with run := e' }, congrArg (fun r => some (Except.map _ r)) hrow, rfl, rfl, ?_⟩
    exact hothers fun s => by cases s <;> first | exact .inr rfl | exact .inl rfl
  | tcds =>
    cases he
    refine ⟨{ g with tcds := e' }, congrArg (fun r => some (Except.map _ r)) hrow, rfl, rfl, ?_⟩
    exact hothers fun s => by cases s <;> first | exact .inr rfl | exact .inl rfl
  | _ =>
    refine ⟨_, (congrArg (Option.map _) (modifyAt?_of_some he)).trans
      (congrArg (fun r => some (Except.map _ (Except.map _ r))) hrow), rfl, rfl, ?_⟩
    exact hothers fun s => by cases s <;> first | exact .inr rfl | exact .inl rfl

theorem Graph.update?_of_ok {e e' : t.sort.Entity} (he : (g.entities t.sort)[t.place]? = some e)
    (hrow : t.sort.update e kind row = .ok e') :
    g.update? t kind row = some (.ok (g.apply (.give kind (onlyFor t (some row))))) := by
  obtain ⟨h, hupdate, haround, hself, hothers⟩ := Graph.exists_update?_of_ok he hrow
  have hgraph : h = g.apply (.give kind (onlyFor t (some row))) := by
    refine Graph.ext_entities haround fun s => ?_
    rw [Graph.entities_apply]
    by_cases hs : s = t.sort
    · subst hs
      rw [hself, Effect.give_onlyFor_self he hrow]
    · rw [hothers s hs, Effect.give_onlyFor_other hs]
  rw [hupdate, hgraph]

/-- Where the target has no entity, or refuses its row, nobody is changed. -/
theorem Graph.apply_give_onlyFor_eq_self {row? : Option Row}
    (h : ∀ e, (g.entities t.sort)[t.place]? = some e → t.sort.take kind row? e = e) :
    g.apply (.give kind (onlyFor t row?)) = g := by
  refine Graph.apply_eq_self fun s n e he => ?_
  by_cases hlt : n < UInt32.size
  · by_cases htarget : s.target n = t
    · subst htarget
      rw [TargetSort.sort_target, TargetSort.place_target he hlt] at h
      rw [Effect.give_of_lt hlt, onlyFor_self]
      exact h e he
    · exact Effect.give_of_eq_none (onlyFor_other htarget row?) e
  · exact Effect.give_of_not_lt hlt e

/-- A target gets its row: the entity takes it. -/
theorem Applied.give_graph (a : Applied) (n : Nat) :
    (a.give kind rows t n).graph = a.graph.apply (.give kind (onlyFor t rows[n]?)) := by
  unfold Applied.give
  -- There may be no such row, no such target, or a target that refuses the row.
  cases hrow : rows[n]? with
  | none => exact (Graph.apply_give_onlyFor_eq_self fun e _ => rfl).symm
  | some row =>
    cases he : (a.graph.entities t.sort)[t.place]? with
    | none =>
      simp only [Graph.update?_of_none he]
      refine (Graph.apply_give_onlyFor_eq_self fun e he' => ?_).symm
      rw [he] at he'
      cases he'
    | some e =>
      cases hupdate : t.sort.update e kind row with
      | ok e' => simp only [Graph.update?_of_ok he hupdate]
      | error error =>
        simp only [Graph.update?_of_error he hupdate]
        refine (Graph.apply_give_onlyFor_eq_self fun e' he' => ?_).symm
        rw [he] at he'
        cases he'
        simp only [TargetSort.take, hupdate]

theorem Applied.give_failed (a : Applied) (n : Nat) :
    (a.give kind rows t n).failed
      = a.failed + if rows[n]?.any (a.graph.refuses kind t) then 1 else 0 := by
  unfold Applied.give
  cases hrow : rows[n]? with
  | none => simp
  | some row =>
    cases he : (a.graph.entities t.sort)[t.place]? with
    | none => simp [Graph.update?_of_none he, Graph.refuses, he]
    | some e =>
      cases hupdate : t.sort.update e kind row with
      | ok e' => simp [Graph.update?_of_ok he hupdate, Graph.refuses, he, TargetSort.refuses, hupdate]
      | error error =>
        simp [Graph.update?_of_error he hupdate, Graph.refuses, he, TargetSort.refuses, hupdate]

end One

/-! ## All targets of an outcome -/

section Outcomes

variable {kind : Kind} {rows : List Row}

theorem Effect.fixed_give (rowOf : Target → Option Row) (s : TargetSort) (n : Nat) (e : s.Entity) :
    s.fixed (Effect.give kind rowOf s n e) = s.fixed e :=
  (TargetSort.take_speaks _).fixed e

theorem Graph.skeleton_give (g : Graph) (rowOf : Target → Option Row) :
    (g.apply (.give kind rowOf)).skeleton = g.skeleton :=
  skeleton_apply (Effect.fixed_give rowOf)

/-- Whether a target refuses a row can be seen from the skeleton. -/
theorem Graph.refuses_congr {g h : Graph} (hskel : g.skeleton = h.skeleton) (t : Target)
    (row : Row) : g.refuses kind t row = h.refuses kind t row := by
  unfold Graph.refuses
  cases he : (g.entities t.sort)[t.place]? with
  | none =>
    cases he' : (h.entities t.sort)[t.place]? with
    | none => rfl
    | some e' =>
      obtain ⟨e, hsome, -⟩ := exists_entity_of_skeleton_eq hskel.symm he'
      rw [he] at hsome
      cases hsome
  | some e =>
    obtain ⟨e', he', hfixed⟩ := exists_entity_of_skeleton_eq hskel he
    rw [he']
    exact TargetSort.refuses_congr hfixed.symm

/-- The rows of the first target, and then those of the others. -/
theorem Effect.give_cons {t : Target} {n : Nat} {entries : List (Target × Nat)}
    (hbelow : ∀ e ∈ entries, compare t e.1 = .lt) (g : Graph) :
    (g.apply (.give kind (onlyFor t rows[n]?))).apply
        (.give kind fun t' => (entryOf? t' entries).bind (rows[·]?))
      = g.apply (.give kind fun t' => (entryOf? t' ((t, n) :: entries)).bind (rows[·]?)) := by
  rw [Graph.apply_apply]
  refine Graph.apply_congr fun s m e _ => ?_
  have hafter : ∀ e' : s.Entity, andThen (give kind (onlyFor t rows[n]?))
      (give kind fun t' => (entryOf? t' entries).bind (rows[·]?)) s m e'
        = give kind (fun t' => (entryOf? t' entries).bind (rows[·]?)) s m
            (give kind (onlyFor t rows[n]?) s m e') := fun _ => rfl
  rw [hafter]
  by_cases hlt : m < UInt32.size
  · by_cases htarget : s.target m = t
    · -- The keys increase, so `t` has no other row.
      have hnone : entryOf? (s.target m) entries = Option.none := by
        rw [htarget]
        exact entryOf?_eq_none_of_below hbelow
      rw [give_of_eq_none (by rw [hnone]; rfl), give_of_lt hlt, give_of_lt hlt, htarget, onlyFor_self]
      simp [entryOf?]
    · have hne : ¬ compare (s.target m) t = .eq := fun h =>
        htarget (Std.LawfulEqOrd.eq_of_compare h)
      rw [give_of_eq_none (onlyFor_other htarget rows[n]?), give_of_lt hlt, give_of_lt hlt]
      simp [entryOf?, hne]
  · rw [give_of_not_lt hlt, give_of_not_lt hlt, give_of_not_lt hlt]

/-- Targets that get their rows one after the other, each once. -/
theorem Applied.foldl_give_graph {entries : List (Target × Nat)} (h : KeysIncrease entries)
    (a : Applied) :
    (entries.foldl (fun a e => a.give kind rows e.1 e.2) a).graph
      = a.graph.apply (.give kind fun t => (entryOf? t entries).bind (rows[·]?)) := by
  -- Each step changes the graph that the next target is looked up in.
  induction entries generalizing a with
  | nil =>
    exact (Graph.apply_eq_self fun s n e _ => Effect.give_of_eq_none rfl e).symm
  | cons entry rest ih =>
    obtain ⟨hbelow, hrest⟩ := List.pairwise_cons.1 h
    rw [List.foldl_cons, ih hrest, Applied.give_graph, Effect.give_cons hbelow]

/-- Who refuses a row is seen on the graph before. -/
theorem Applied.foldl_give_failed (entries : List (Target × Nat)) (a : Applied) :
    (entries.foldl (fun a e => a.give kind rows e.1 e.2) a).failed
      = a.failed + entries.countP fun e => rows[e.2]?.any (a.graph.refuses kind e.1) := by
  induction entries generalizing a with
  | nil => rfl
  | cons entry rest ih =>
    -- The row that was given before keeps the skeleton, and with it who refuses a row.
    have hskel : (a.give kind rows entry.1 entry.2).graph.skeleton = a.graph.skeleton := by
      rw [Applied.give_graph, Graph.skeleton_give]
    have hsame : (a.give kind rows entry.1 entry.2).graph.refuses kind = a.graph.refuses kind := by
      funext t row
      exact Graph.refuses_congr hskel t row
    rw [List.foldl_cons, ih, hsame, Applied.give_failed, List.countP_cons]
    omega

/-- The row that an outcome has for a target. -/
def Matching.Outcome.given (o : Outcome) (rows : List Row) (target : Target) : Option Row :=
  (o.rowFor? target).bind (rows[·]?)

/-- After an outcome every entity has taken the row that the outcome has for it. -/
theorem applyOutcome_graph (g : Graph) (o : Outcome) :
    (applyOutcome g kind rows o).graph = g.apply (.give kind (o.given rows)) :=
  Applied.foldl_give_graph o.rowOf.increasing { graph := g }

/-- The number of targets that refuse the row that an outcome has for them. -/
def Matching.Outcome.refusals (o : Outcome) (g : Graph) (kind : Kind) (rows : List Row) : Nat :=
  o.rowOf.entries.countP fun e => rows[e.2]?.any (g.refuses kind e.1)

theorem Matching.Outcome.refusals_congr {g h : Graph} (hskel : g.skeleton = h.skeleton)
    (o : Outcome) : o.refusals g kind rows = o.refusals h kind rows := by
  have hrefuses : g.refuses kind = h.refuses kind := by
    funext t row
    exact Graph.refuses_congr hskel t row
  simp only [refusals, hrefuses]

/-- The failures of an outcome are its refusals on the graph before. -/
theorem applyOutcome_failed (g : Graph) (o : Outcome) :
    (applyOutcome g kind rows o).failed = o.refusals g kind rows := by
  have h := @Applied.foldl_give_failed kind rows o.rowOf.entries { graph := g }
  rwa [Nat.zero_add] at h

end Outcomes

end DaqMonitor

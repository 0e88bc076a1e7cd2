/-
  DaqMonitor.Graph.Identity

  How the parts of the graph are named.

  Entities of one kind stand in a list of their own, their arena, and refer to
  each other by positions in these lists. An `EntityId` carries the arena in its
  type, so a position in one arena is not taken for one in another. Besides,
  every entity has a `Uid` that no other entity of the process ever has.

  A `Target` names anything in a graph that takes up rows.
-/
import DaqMonitor.SortedMap
import DaqMonitor.Text.Basic

namespace DaqMonitor

/-! ## Unique identities -/

/-- An identity that is handed out once in a process. -/
structure Uid where
  value : UInt64
  deriving DecidableEq, Repr, Inhabited

/-- Hands out identities, each one greater than the one before. -/
structure UidSource where
  next : UInt64 := 1
  deriving DecidableEq, Repr

/-- The next identity, and the source after it. -/
def UidSource.take (source : UidSource) : Uid × UidSource :=
  (⟨source.next⟩, ⟨source.next + 1⟩)

/-! ## Positions in arenas -/

/-- The kinds of entities that a graph has any number of. -/
inductive Arena where
  | fed
  | frl
  | frlPc
  | ru
  | bu
  | fedBuilder
  | subFedBuilder
  | fmm
  | fmmApplication
  | ttcPartition
  | subSystem
  deriving DecidableEq, Repr

/-- A position in the arena of one kind. -/
structure EntityId (arena : Arena) where
  index : UInt32
  deriving DecidableEq, Repr

namespace EntityId

variable {arena : Arena}

/-- The id of the entity at position `n`. -/
def ofNat (n : Nat) : EntityId arena := ⟨UInt32.ofNat n⟩

/-- The position that an id stands for. -/
def toNat (id : EntityId arena) : Nat := id.index.toNat

/-- The entity at the position, if there is one. -/
def get? {α : Type} (id : EntityId arena) (entities : List α) : Option α := entities[id.toNat]?

end EntityId

/-- A position among the FEDs. -/
abbrev FedId := EntityId .fed

/-- A position among the cards. -/
abbrev FrlId := EntityId .frl

/-- A position among the computers that control cards. -/
abbrev FrlPcId := EntityId .frlPc

/-- A position among the readout units. -/
abbrev RuId := EntityId .ru

/-- A position among the builder units. -/
abbrev BuId := EntityId .bu

/-- A position among the FED builders. -/
abbrev FedBuilderId := EntityId .fedBuilder

/-- A position among the sub-FED-builders. -/
abbrev SubFedBuilderId := EntityId .subFedBuilder

/-- A position among the FMMs. -/
abbrev FmmId := EntityId .fmm

/-- A position among the FMM applications. -/
abbrev FmmApplicationId := EntityId .fmmApplication

/-- A position among the TTC partitions. -/
abbrev TtcPartitionId := EntityId .ttcPartition

/-- A position among the subsystems. -/
abbrev SubSystemId := EntityId .subSystem

/-! ## What takes up rows -/

/-- What takes up rows: the two records at the root of a graph, and its entities. -/
inductive Target where
  | run
  | tcds
  | fed (id : FedId)
  | frl (id : FrlId)
  | frlPc (id : FrlPcId)
  | ru (id : RuId)
  | bu (id : BuId)
  | fmm (id : FmmId)
  | fmmApplication (id : FmmApplicationId)
  | ttcPartition (id : TtcPartitionId)
  | subSystem (id : SubSystemId)
  deriving DecidableEq, Repr

namespace Target

/-- The sort of a target and its position, as one number. Targets are ordered by it: first by their
    sort, then by their position. -/
def rank : Target → Nat
  | run => 0
  | tcds => 1 * UInt32.size
  | fed id => 2 * UInt32.size + id.toNat
  | frl id => 3 * UInt32.size + id.toNat
  | frlPc id => 4 * UInt32.size + id.toNat
  | ru id => 5 * UInt32.size + id.toNat
  | bu id => 6 * UInt32.size + id.toNat
  | fmm id => 7 * UInt32.size + id.toNat
  | fmmApplication id => 8 * UInt32.size + id.toNat
  | ttcPartition id => 9 * UInt32.size + id.toNat
  | subSystem id => 10 * UInt32.size + id.toNat

/-- The target of a rank. -/
def ofRank (n : Nat) : Target :=
  match n / UInt32.size with
  | 0 => run
  | 1 => tcds
  | 2 => fed (.ofNat n)
  | 3 => frl (.ofNat n)
  | 4 => frlPc (.ofNat n)
  | 5 => ru (.ofNat n)
  | 6 => bu (.ofNat n)
  | 7 => fmm (.ofNat n)
  | 8 => fmmApplication (.ofNat n)
  | 9 => ttcPartition (.ofNat n)
  | _ => subSystem (.ofNat n)

private theorem ofNat_rank {arena : Arena} (k : Nat) (id : EntityId arena) :
    EntityId.ofNat (k * UInt32.size + id.toNat) = id := by
  have h : UInt32.ofNat (k * UInt32.size + id.index.toNat) = id.index := by
    apply UInt32.toNat_inj.1
    rw [UInt32.toNat_ofNat', Nat.mul_add_mod_self_right]
    exact Nat.mod_eq_of_lt id.index.toNat_lt
  exact congrArg EntityId.mk h

private theorem rank_div {arena : Arena} (k : Nat) (id : EntityId arena) :
    (k * UInt32.size + id.toNat) / UInt32.size = k := by
  have hlt : id.toNat < UInt32.size := id.index.toNat_lt_size
  rw [Nat.mul_comm, Nat.mul_add_div (by decide), Nat.div_eq_of_lt hlt, Nat.add_zero]

theorem ofRank_rank (t : Target) : ofRank t.rank = t := by
  cases t <;> simp only [rank, ofRank, rank_div, ofNat_rank] <;> rfl

theorem rank_injective {a b : Target} (h : a.rank = b.rank) : a = b := by
  rw [← ofRank_rank a, ← ofRank_rank b, h]

instance : Ord Target := ⟨compareOn rank⟩

instance : Std.TransOrd Target := inferInstanceAs (Std.TransCmp (compareOn rank))

instance : Std.LawfulEqOrd Target where
  eq_of_compare h := rank_injective (Std.LawfulEqOrd.eq_of_compare (α := Nat) h)

/-- The name of the sort of a target. -/
def sortName : Target → String
  | run => "Run"
  | tcds => "TcdsGlobalInfo"
  | fed _ => "Fed"
  | frl _ => "Frl"
  | frlPc _ => "FrlPc"
  | ru _ => "Ru"
  | bu _ => "Bu"
  | fmm _ => "Fmm"
  | fmmApplication _ => "FmmApplication"
  | ttcPartition _ => "TtcPartition"
  | subSystem _ => "SubSystem"

/-- The position of a target, where its sort has any number of entities. -/
def position? : Target → Option Nat
  | run | tcds => none
  | fed id => some id.toNat
  | frl id => some id.toNat
  | frlPc id => some id.toNat
  | ru id => some id.toNat
  | bu id => some id.toNat
  | fmm id => some id.toNat
  | fmmApplication id => some id.toNat
  | ttcPartition id => some id.toNat
  | subSystem id => some id.toNat

/-- How messages name a target: `Bu(BuId(1))`. -/
def label (t : Target) : String :=
  match t.position? with
  | none => t.sortName
  | some n => t.sortName ++ "(" ++ t.sortName ++ "Id(" ++ Text.ofNat n ++ "))"

end Target

end DaqMonitor

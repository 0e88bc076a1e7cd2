/-
  DaqMonitor.Json.Basic

  JSON values.

  Numbers keep the kind in which they were written: a whole number that is not
  negative, a negative whole number, or a double. `1` and `1.0` are different
  values. An object is the list of its members in the order in which they are
  written.
-/
import DaqMonitor.SortedMap
import DaqMonitor.Text.Basic

namespace DaqMonitor

/-- A JSON number, in the kind in which it was written. -/
inductive Json.Number where
  | natural (n : UInt64)
  /-- A negative whole number. -/
  | negative (i : Int64)
  | real (x : Float)
  deriving DecidableEq

/-- A JSON value. -/
inductive Json where
  | null
  | bool (b : Bool)
  | number (n : Json.Number)
  | text (s : String)
  | list (items : List Json)
  | object (members : List (String × Json))

namespace Json

instance : Inhabited Json := ⟨null⟩

/-! ## Making values -/

/-- A whole number that is not negative. -/
def ofUInt64 (n : UInt64) : Json := .number (.natural n)

/-- A whole number; one that is not negative is written as such. -/
def ofInt64 (i : Int64) : Json :=
  .number (if i < 0 then .negative i else .natural i.toUInt64)

/-- A natural number below `2 ^ 64`. -/
def ofNat (n : Nat) : Json := .number (.natural (UInt64.ofNat n))

/-- A double; one that is not finite has no JSON form and becomes `null`. -/
def ofFloat (x : Float) : Json := if x.isFinite then .number (.real x) else .null

/-- The value inside an option, `null` where there is none. -/
def ofOption {α : Type} (f : α → Json) : Option α → Json
  | none => .null
  | some a => f a

/-! ## Looking into values -/

/-- The member of an object with the given key. -/
def find? (json : Json) (key : String) : Option Json :=
  match json with
  | .object members => (members.find? (·.1 = key)).map (·.2)
  | _ => none

/-- The text that a value is. -/
def text? : Json → Option String
  | .text s => some s
  | _ => none

/-- The items of a list. -/
def items? : Json → Option (List Json)
  | .list items => some items
  | _ => none

/-- The whole number that a value is. -/
def int? : Json → Option Int
  | .number (.natural n) => some n.toNat
  | .number (.negative i) => some i.toInt
  | _ => none

/-- The double nearest to a number. -/
def Number.toFloat : Number → Float
  | .natural n => n.toFloat
  | .negative i => i.toFloat
  | .real x => x

/-! ## Equality -/

mutual
/-- Whether two values are written alike. -/
def same : Json → Json → Bool
  | .null, .null => true
  | .bool a, .bool b => a == b
  | .number a, .number b => decide (a = b)
  | .text a, .text b => a == b
  | .list as, .list bs => sameItems as bs
  | .object as, .object bs => sameMembers as bs
  | _, _ => false

/-- Whether two lists of values are written alike. -/
def sameItems : List Json → List Json → Bool
  | [], [] => true
  | a :: as, b :: bs => same a b && sameItems as bs
  | _, _ => false

/-- Whether two lists of members are written alike. -/
def sameMembers : List (String × Json) → List (String × Json) → Bool
  | [], [] => true
  | (k, a) :: as, (l, b) :: bs => k == l && same a b && sameMembers as bs
  | _, _ => false
end

instance : BEq Json := ⟨same⟩

end Json

end DaqMonitor

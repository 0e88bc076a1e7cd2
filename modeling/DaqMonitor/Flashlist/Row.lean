/-
  DaqMonitor.Flashlist.Row

  Reading the columns of one row.

  The monitoring system writes most numbers as texts, truth values as words, and
  a table within a row as an object with its rows. So every column is read as the
  kind of value that is wanted of it, from each of the forms in which that value
  may come. A column that is absent, or `null`, is missing; one whose value has no
  such form is refused together with the value found.
-/
import DaqMonitor.Json.Printer
import DaqMonitor.Decimal.Reading

namespace DaqMonitor.Flashlist

/-- A row: an object with a member for each column. -/
abbrev Row := Json

/-! ## Why a row is refused -/

/-- What a column is read as. -/
inductive Wanted where
  | text
  | integer
  | double
  | truth
  | list
  | integerList
  | doubleList
  | table
  deriving DecidableEq, Repr

/-- The words for what a column is read as. -/
def Wanted.words : Wanted → String
  | text => "text"
  | integer => "integer"
  | double => "floating point"
  | truth => "boolean"
  | list => "list"
  | integerList => "integer list"
  | doubleList => "floating point list"
  | table => "table"

/-- What is wrong with a value that was read. -/
inductive Flaw where
  /-- A count below zero. -/
  | negative (value : Int64)
  /-- The address of a process that does not end in a port. -/
  | noPort (context : String)
  /-- A list that has not the length of the list it belongs to. -/
  | unequalLength (length expected : Nat)
  deriving DecidableEq, Repr

/-- The words for what is wrong with a value. -/
def Flaw.words : Flaw → String
  | negative value => "negative value " ++ Text.ofInt value.toInt
  | noPort context => "no port in '" ++ context ++ "'"
  | unequalLength length expected =>
    Text.ofNat length ++ " entries where throughputPerBU has " ++ Text.ofNat expected

/-- Why a row is refused. -/
inductive RowError where
  | missing (column : String)
  | wrongKind (column : String) (wanted : Wanted) (found : Json)
  | malformed (column : String) (flaw : Flaw)

/-- The message for a refused row. -/
def RowError.message : RowError → String
  | missing column => "field '" ++ column ++ "' is missing from the row"
  | wrongKind column wanted found =>
    "field '" ++ column ++ "' is not a valid " ++ wanted.words ++ " (found " ++ found.render ++ ")"
  | malformed column flaw => "field '" ++ column ++ "' is malformed: " ++ flaw.words

/-! ## What a value can be read as -/

/-- The text that a value is, or that a number or truth value is written as. -/
def asText? : Json → Option String
  | .text s => some s
  | .number n => some n.render
  | .bool b => some (Json.bool b).render
  | _ => none

/-- The whole number that a double is, if it is one. -/
def wholeDouble? (x : Float) : Option Int :=
  match x.toModel.unpack with
  | .zero _ => some 0
  | .finite sign mantissa exponent _ =>
    -- Where the exponent is not negative, the point stands behind all bits of the mantissa.
    let scale := Nat.pow 2 (-exponent).toNat
    if mantissa % scale = 0 then
      some (sign.apply (mantissa / scale * Nat.pow 2 exponent.toNat : Nat))
    else none
  | _ => none

/-- The whole number that a number is, if it is one. -/
def wholeNumber? : Json.Number → Option Int
  | .natural n => some n.toNat
  | .negative i => some i.toInt
  | .real x => wholeDouble? x

/-- The integer that a value stands for. A whole number beyond the range of 64 bits with a sign
    stands for the end of the range on its side; a text has to write a number within the range. -/
def asInteger? : Json → Option Int64
  | .number n => (wholeNumber? n).map Int64.ofIntClamp
  | .text s => do
    let i ← Text.readInteger? (Text.trimChars s.toList)
    if Int64.minValue.toInt ≤ i ∧ i ≤ Int64.maxValue.toInt then some (Int64.ofInt i) else none
  | .bool b => some (if b then 1 else 0)
  | _ => none

/-- The double that a value stands for. -/
def asDouble? : Json → Option Float
  | .number n => some n.toFloat
  | .text s => Decimal.readDouble? (Text.trimChars s.toList)
  | _ => none

/-- The truth value that a value stands for. A whole number is true unless it is zero. -/
def asTruth? : Json → Option Bool
  | .bool b => some b
  | .text s =>
    let word := Text.lowerLatin (Text.trim s)
    if word == "true" || word == "1" then some true
    else if word == "false" || word == "0" then some false
    else none
  | .number (.natural n) => if n.toNat < 0x8000000000000000 then some (n != 0) else none
  | .number (.negative i) => some (i != 0)
  | _ => none

/-- The rows of the table that a value is. -/
def asTable? : Json → Option (List Row)
  | .list rows => some rows
  | .object members => (Json.object members).find? "rows" >>= Json.items?
  | _ => none

/-! ## Reading a column -/

namespace Row

/-- Whether the row has the column at all, be it with the value `null`. -/
def has (row : Row) (column : String) : Bool := (row.find? column).isSome

/-- The value of a column. -/
def value (row : Row) (column : String) : Except RowError Json :=
  match row.find? column with
  | none | some .null => .error (.missing column)
  | some v => .ok v

/-- The value of a column as what `as?` makes of it. -/
def read {α : Type} (wanted : Wanted) (as? : Json → Option α) (row : Row) (column : String) :
    Except RowError α := do
  let v ← row.value column
  match as? v with
  | some a => .ok a
  | none => .error (.wrongKind column wanted v)

/-- Reads a column as a text. -/
def text (row : Row) (column : String) : Except RowError String :=
  row.read .text asText? column

/-- Reads a column as an integer. -/
def integer (row : Row) (column : String) : Except RowError Int64 :=
  row.read .integer asInteger? column

/-- Reads a column as a double. -/
def double (row : Row) (column : String) : Except RowError Float :=
  row.read .double asDouble? column

/-- Reads a column as a truth value. -/
def truth (row : Row) (column : String) : Except RowError Bool :=
  row.read .truth asTruth? column

/-- Reads a column as the rows of a table. -/
def table (row : Row) (column : String) : Except RowError (List Row) :=
  row.read .table asTable? column

/-- Reads a column as a list, and each item as what `as?` makes of it. The first item that is none
    of these is the one that is reported. -/
def readList {α : Type} (wanted : Wanted) (as? : Json → Option α) (row : Row)
    (column : String) : Except RowError (List α) := do
  let items ← row.read .list Json.items? column
  items.mapM fun item =>
    match as? item with
    | some a => .ok a
    | none => .error (.wrongKind column wanted item)

/-- Reads a column as a list of integers. -/
def integerList (row : Row) (column : String) : Except RowError (List Int64) :=
  row.readList .integerList asInteger? column

/-- Reads a column as a list of doubles. -/
def doubleList (row : Row) (column : String) : Except RowError (List Float) :=
  row.readList .doubleList asDouble? column

/-- Reads a column as a count. -/
def count (row : Row) (column : String) : Except RowError UInt64 := do
  let i ← row.integer column
  if i < 0 then .error (.malformed column (.negative i)) else .ok i.toUInt64

/-- Reads a column that may be absent; it is then the given value. -/
def optional {α : Type} (row : Row) (column : String) (absent : α)
    (read : Row → String → Except RowError α) : Except RowError α :=
  if row.has column then read row column else .ok absent

end Row

/-! ## Columns with a conversion -/

/-- How the value of a column becomes the value of a field. -/
inductive Conversion where
  | direct
  /-- A fraction becomes a percentage. -/
  | percent
  /-- A truth value becomes its opposite. -/
  | inverted
  deriving DecidableEq, Repr

/-- A column with the conversion of its value. -/
structure Column where
  name : String
  conversion : Conversion := .direct
  deriving DecidableEq, Repr

namespace Column

/-- Reads a double; a fraction is scaled to a percentage. -/
def double (c : Column) (row : Row) : Except RowError Float :=
  (row.double c.name).map fun x =>
    match c.conversion with
    | .percent => x * 100.0
    | _ => x

/-- Reads a flag; an inverted one is the opposite of the column. -/
def flag (c : Column) (row : Row) : Except RowError Bool :=
  (row.truth c.name).map fun b =>
    match c.conversion with
    | .inverted => !b
    | _ => b

/-- Reads a count. -/
def count (c : Column) (row : Row) : Except RowError UInt64 := row.count c.name

/-- Reads a text. -/
def text (c : Column) (row : Row) : Except RowError String := row.text c.name

end Column

end DaqMonitor.Flashlist

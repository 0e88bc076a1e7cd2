/-
  DaqMonitor.Json.Shape

  Shapes of JSON values, with one reader and one writer for all of them.

  A shape says what a value looks like: a number of some width, a text, a list, a
  record with named fields. `Shape.Val s` is the type of what a value of shape `s`
  carries; a record carries the product of what its fields carry. So a type of the
  domain gets its JSON form by naming its shape and its two conversions.

  A record is written as an object with its fields in order. It is read from an
  object with its fields in any order, where fields it does not know are passed
  over, or from the list of its fields in order.

    * `Shape.encode s v` — the JSON form of `v`.
    * `Shape.decode s source` — what stands in a text, or the first fault in it.
-/
import DaqMonitor.Json.Source
import DaqMonitor.Json.Reader

namespace DaqMonitor.Json

/-! ## Shapes and what they carry -/

/-- What a record does about a field that is not given. -/
inductive Presence where
  /-- The field has to be given. -/
  | required
  /-- The field takes its standard value. -/
  | defaulted
  /-- The field takes its standard value in an object; a list has to give it. -/
  | omissible
  deriving DecidableEq, Repr

mutual
/-- The shape of a JSON value. -/
inductive Shape where
  /-- A truth value; the standard value is the given one. -/
  | bool (standard : Bool)
  | uint8
  | uint16
  | uint32
  | uint64
  | int64
  | double
  | text
  /-- A value of a shape, or `null`. -/
  | option (shape : Shape)
  | list (shape : Shape)
  /-- An object whose keys are any texts. -/
  | textMap (shape : Shape)
  /-- An object whose keys are numbers below 256. -/
  | byteMap (shape : Shape)
  /-- One of some names, the first of them the standard value. -/
  | choice (first : String) (others : List String)
  | record (fields : Fields)

/-- The fields of a record, in order. -/
inductive Fields where
  | nil
  | cons (name : String) (presence : Presence) (shape : Shape) (rest : Fields)
end

mutual
/-- What a value of a shape carries. -/
def Shape.Val : Shape → Type
  | .bool _ => Bool
  | .uint8 => UInt8
  | .uint16 => UInt16
  | .uint32 => UInt32
  | .uint64 => UInt64
  | .int64 => Int64
  | .double => Float
  | .text => String
  | .option shape => Option shape.Val
  | .list shape => List shape.Val
  | .textMap shape => SortedMap String shape.Val
  | .byteMap shape => SortedMap UInt8 shape.Val
  | .choice _ others => Fin (others.length + 1)
  | .record fields => fields.Val

/-- What the fields of a record carry. -/
def Fields.Val : Fields → Type
  | .nil => Unit
  | .cons _ _ shape rest => shape.Val × rest.Val
end

mutual
/-- The standard value of a shape. -/
def Shape.standard : (s : Shape) → s.Val
  | .bool standard => standard
  | .uint8 => (0 : UInt8)
  | .uint16 => (0 : UInt16)
  | .uint32 => (0 : UInt32)
  | .uint64 => (0 : UInt64)
  | .int64 => (0 : Int64)
  | .double => (0.0 : Float)
  | .text => ""
  | .option _ => none
  | .list _ => []
  | .textMap _ => (SortedMap.empty : SortedMap _ _)
  | .byteMap _ => (SortedMap.empty : SortedMap _ _)
  | .choice _ others => (0 : Fin (others.length + 1))
  | .record fields => fields.standard

/-- The standard values of the fields of a record. -/
def Fields.standard : (fs : Fields) → fs.Val
  | .nil => ()
  | .cons _ _ shape rest => (shape.standard, rest.standard)
end

/-- Builds the fields of a record from a list. -/
def Fields.ofList : List (String × Presence × Shape) → Fields
  | [] => .nil
  | (name, presence, shape) :: rest => .cons name presence shape (ofList rest)

/-- The names of the fields of a record, in order. -/
def Fields.names : Fields → List String
  | .nil => []
  | .cons name _ _ rest => name :: rest.names

/-! ## Writing -/

mutual
/-- The JSON form of what a shape carries. -/
def Shape.encode : (s : Shape) → s.Val → Json
  | .bool _, b => .bool b
  | .uint8, n => ofUInt64 (UInt8.toUInt64 n)
  | .uint16, n => ofUInt64 (UInt16.toUInt64 n)
  | .uint32, n => ofUInt64 (UInt32.toUInt64 n)
  | .uint64, n => ofUInt64 n
  | .int64, i => ofInt64 i
  | .double, x => ofFloat x
  | .text, s => .text s
  | .option shape, v => ofOption shape.encode v
  | .list shape, vs => .list (List.map shape.encode vs)
  | .textMap shape, m =>
    .object ((SortedMap.entries m).map fun e => (e.1, shape.encode e.2))
  | .byteMap shape, m =>
    .object ((SortedMap.entries m).map fun e => (Text.ofNat e.1.toNat, shape.encode e.2))
  | .choice first others, i => .text ((first :: others).get i)
  | .record fields, v => .object (fields.encode v)

/-- The members of the object that a record is written as. -/
def Fields.encode : (fs : Fields) → fs.Val → List (String × Json)
  | .nil, _ => []
  | .cons name _ shape rest, v => (name, shape.encode v.1) :: rest.encode v.2
end

/-! ## Reading single values -/

/-- The fault for a reader who wants something else than what stands here. -/
def Source.fault : Source → Fault
  | .unreadable => .malformed
  | .broken b => b.onRead
  | _ => .wrongKind

/-- Reads a natural number below `bound`. -/
def Source.natural (bound : Nat) : Source → Except Fault Nat
  | .number (.natural n) => if n.toNat < bound then .ok n.toNat else .error .outOfRange
  | .number (.negative _) => .error .outOfRange
  | source => .error source.fault

/-- Reads a whole number of 64 bits with a sign. -/
def Source.integer : Source → Except Fault Int64
  | .number (.natural n) =>
    if n.toNat < 0x8000000000000000 then .ok (Int64.ofNat n.toNat) else .error .outOfRange
  | .number (.negative i) => .ok i
  | source => .error source.fault

/-- Reads any number as a double. -/
def Source.double : Source → Except Fault Float
  | .number n => .ok n.toFloat
  | source => .error source.fault

/-- Reads a truth value. -/
def Source.truth : Source → Except Fault Bool
  | .bool b => .ok b
  | source => .error source.fault

/-- Reads a text. -/
def Source.string : Source → Except Fault String
  | .text s => .ok s
  | source => .error source.fault

/-- Reads the number below 256 that a key writes. -/
def byteKey (key : String) : Except Fault UInt8 :=
  let found : Found :=
    match key.toList with
    | '-' :: rest => readNumber true rest
    | c :: rest => if c.isDigit then readNumber false (c :: rest) else (.broken .junk, none)
    | [] => (.broken .junk, none)
  match found with
  | (.number n, after) => do
    let n ← (Source.number n).natural 256
    if after = some [] then .ok (UInt8.ofNat n) else .error .malformed
  | _ => .error .malformed

/-- Ends the reading of a list or an object: with the fault where the text breaks off, if it
    does. -/
def finish {α : Type} (stop : Option Fault) (a : α) : Except Fault α :=
  match stop with
  | some fault => .error fault
  | none => .ok a

/-- The position of a name among those to choose from. -/
def choiceOf (first : String) (others : List String) (name : String) :
    Except Fault (Fin (others.length + 1)) :=
  match (first :: others).finIdxOf? name with
  | some i => .ok i
  | none => .error (.unknownChoice name)

/-- Reads a choice: its name, or the object whose only member has that name and the value `null`. -/
def Source.choose (first : String) (others : List String) :
    Source → Except Fault (Fin (others.length + 1))
  | .text name => choiceOf first others name
  | .object [] none => .error .noChoice
  | .object [] (some stop) => .error stop.onChoice
  | .object ((none, _) :: _) _ => .error .malformed
  | .object ((some name, v) :: rest) stop => do
    let i ← choiceOf first others name
    match v, rest with
    | .null, [] => finish (stop.map (·.onChoice)) i
    -- A choice has one name; more members are too many, whatever they are.
    | .null, _ :: _ => .error .surplus
    | v, _ => .error v.fault
  | .unreadable => .error .malformed
  | .broken b => .error b.onChoice
  | _ => .error .noChoice

/-! ## Reading -/

/-- What has been read of the fields of a record so far. -/
def Fields.Slots : Fields → Type
  | .nil => Unit
  | .cons _ _ shape rest => Option shape.Val × rest.Slots

/-- Nothing read yet. -/
def Fields.noSlots : (fs : Fields) → fs.Slots
  | .nil => ()
  | .cons _ _ _ rest => (none, rest.noSlots)

/-- The record of the fields read, with standard values for the others where these may be left
    out. -/
def Fields.complete : (fs : Fields) → fs.Slots → Except Fault fs.Val
  | .nil, _ => .ok ()
  | .cons name presence shape rest, slots =>
    match slots.1, presence with
    | some v, _ => (rest.complete slots.2).map fun vs => (v, vs)
    | none, .required => .error (.missing name)
    | none, _ => (rest.complete slots.2).map fun vs => (shape.standard, vs)

mutual
/-- Reads what a shape carries. -/
def Shape.decode : (s : Shape) → Source → Except Fault s.Val
  | .bool _, source => source.truth
  | .uint8, source => (source.natural UInt8.size).map UInt8.ofNat
  | .uint16, source => (source.natural UInt16.size).map UInt16.ofNat
  | .uint32, source => (source.natural UInt32.size).map UInt32.ofNat
  | .uint64, source => (source.natural UInt64.size).map UInt64.ofNat
  | .int64, source => source.integer
  | .double, source => source.double
  | .text, source => source.string
  | .option shape, source =>
    match source with
    | .null => .ok none
    | source => (shape.decode source).map some
  | .list shape, source =>
    match source with
    | .list items stop => do
      let vs ← items.mapM shape.decode
      finish (stop.map (·.onRead)) vs
    | source => .error source.fault
  | .textMap shape, source =>
    match source with
    | .object members stop => do
      let m ← members.foldlM (fun (m : SortedMap String shape.Val) member =>
        match member with
        | (none, _) => .error .malformed
        | (some key, v) => (shape.decode v).map fun v => m.insert key v) SortedMap.empty
      finish (stop.map (·.onRead)) m
    | source => .error source.fault
  | .byteMap shape, source =>
    match source with
    | .object members stop => do
      let m ← members.foldlM (fun (m : SortedMap UInt8 shape.Val) member =>
        match member with
        | (none, _) => .error .malformed
        | (some key, v) => do
          let key ← byteKey key
          let v ← shape.decode v
          pure (m.insert key v)) SortedMap.empty
      finish (stop.map (·.onRead)) m
    | source => .error source.fault
  | .choice first others, source => source.choose first others
  | .record fields, source =>
    match source with
    | .object members stop => do
      let slots ← members.foldlM (fun slots member =>
        match member with
        | (none, _) => .error .malformed
        | (some key, v) => fields.place key v slots) fields.noSlots
      let slots ← finish (stop.map (·.onRead)) slots
      fields.complete slots
    | .list items stop => fields.decodeItems items (stop.map (·.onRead))
    | source => .error source.fault

/-- Reads a member of the object that stands for a record. -/
def Fields.place : (fs : Fields) → String → Source → fs.Slots → Except Fault fs.Slots
  | .nil, _, source, _ => finish source.skipFault? ()
  | .cons name _ shape rest, key, source, slots =>
    if key = name then
      match slots.1 with
      | some _ => .error (.repeated name)
      | none => (shape.decode source).map fun v => (some v, slots.2)
    else (rest.place key source slots.2).map fun others => (slots.1, others)

/-- Reads the items of the list that stands for a record. -/
def Fields.decodeItems :
    (fs : Fields) → List Source → Option Fault → Except Fault fs.Val
  | .nil, items, stop =>
    match items with
    | [] => finish stop ()
    | _ :: _ => .error .surplus
  | .cons name presence shape rest, items, stop =>
    match items with
    | item :: items => do
      let v ← shape.decode item
      let vs ← rest.decodeItems items stop
      pure (v, vs)
    | [] =>
      match stop, presence with
      | some fault, _ => .error fault
      | none, .defaulted =>
        (rest.decodeItems [] none).map fun vs => (shape.standard, vs)
      | none, _ => .error (.missing name)
end

/-- Reads a text that holds one value of a shape. -/
def Shape.ofText (s : Shape) (text : String) : Except Fault s.Val :=
  (Document.ofText text).read s.decode

/-- Reads a value as one of a shape. -/
def Shape.ofJson (s : Shape) (json : Json) : Except Fault s.Val :=
  s.decode (Source.ofJson json)

end DaqMonitor.Json

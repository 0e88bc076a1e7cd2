/-
  DaqMonitor.Json.Source

  What stands in a JSON text, before anything is asked of it.

  A text is looked at from left to right and refused at the first thing that is
  wrong with it, and a value of the wrong shape is as wrong as a missing bracket.
  So which of several faults is reported depends on what the reader wants. A
  `Source` is the tree of a text as far as it can be told without knowing that;
  where the text breaks off, the tree ends in the fault found there.

  Some faults show only when a value is used: a number beyond all doubles, a half
  of a surrogate pair. In a member that nobody asks for they are passed over.
-/
import DaqMonitor.Json.Basic

namespace DaqMonitor.Json

/-! ## Faults -/

/-- Why a text, or a value, is refused. -/
inductive Fault where
  /-- The text ends too early. -/
  | unexpectedEnd
  /-- The text is not JSON. -/
  | malformed
  /-- The value is of another kind than the wanted one. -/
  | wrongKind
  /-- The number does not fit the wanted width. -/
  | outOfRange
  /-- A field that has to be given is not. -/
  | missing (field : String)
  /-- A field is given twice. -/
  | repeated (field : String)
  /-- A name that is none of those to choose from. -/
  | unknownChoice (name : String)
  /-- An item or member more than the wanted shape has. -/
  | surplus
  /-- A value that is neither a name to choose nor an object of one member. -/
  | noChoice
  deriving DecidableEq, Repr

/-! ## The tree of a text -/

/-- Where a text breaks off: the fault for a reader who wants what stands here, for one who only
    wants to get past it, and for one who wants a choice. A choice begins with a quote or a brace,
    so its reader refuses the first letter of a word or digit of a number. -/
structure Break where
  onRead : Fault
  onSkip : Fault
  onChoice : Fault
  deriving DecidableEq, Repr

namespace Break

/-- The text ends here. -/
def atEnd : Break := ⟨.unexpectedEnd, .unexpectedEnd, .unexpectedEnd⟩

/-- Something stands here that does not belong into JSON. -/
def junk : Break := ⟨.malformed, .malformed, .malformed⟩

/-- The text ends in the midst of a word. -/
def inWord : Break := ⟨.unexpectedEnd, .unexpectedEnd, .malformed⟩

/-- The text ends in the midst of a number: for a reader who does not want the number, it is no
    number. -/
def inNumber : Break := ⟨.unexpectedEnd, .malformed, .malformed⟩

/-- The text ends in the midst of a text; `spoilt` tells that a half of a surrogate pair came
    before. -/
def inText (spoilt : Bool) : Break :=
  let fault := if spoilt then .malformed else .unexpectedEnd
  ⟨fault, .unexpectedEnd, fault⟩

/-- The break after a comma between members: the object of a choice has no second member. -/
def afterComma (b : Break) : Break := { b with onChoice := .malformed }

end Break

/-- The tree of a JSON text. -/
inductive Source where
  | null
  | bool (b : Bool)
  | number (n : Number)
  | text (s : String)
  /-- A number or text that is complete but has no value. -/
  | unreadable
  | broken (b : Break)
  | list (items : List Source) (stop : Option Break)
  /-- Members in the order of the text; a key is `none` where it is a text without a value. -/
  | object (members : List (Option String × Source)) (stop : Option Break)

namespace Source

instance : Inhabited Source := ⟨null⟩

/-! ## Values as trees -/

mutual
/-- The tree of a value. -/
def ofJson : Json → Source
  | .null => .null
  | .bool b => .bool b
  | .number n => .number n
  | .text s => .text s
  | .list items => .list (ofItems items) none
  | .object members => .object (ofMembers members) none

/-- The trees of the items of a list. -/
def ofItems : List Json → List Source
  | [] => []
  | item :: rest => ofJson item :: ofItems rest

/-- The trees of the members of an object. -/
def ofMembers : List (String × Json) → List (Option String × Source)
  | [] => []
  | (k, v) :: rest => (some k, ofJson v) :: ofMembers rest
end

/-! ## Passing over a value -/

mutual
/-- The fault met on the way past a value that nobody asks for. -/
def skipFault? : Source → Option Fault
  | .broken b => some b.onSkip
  | .list items stop => skipItems items (stop.map (·.onSkip))
  | .object members stop => skipMembers members (stop.map (·.onSkip))
  | _ => none

/-- The fault met on the way past some items, `after` where these have none. -/
def skipItems : List Source → Option Fault → Option Fault
  | [], after => after
  | item :: rest, after =>
    match skipFault? item with
    | some fault => some fault
    | none => skipItems rest after

/-- The fault met on the way past some members, `after` where these have none. -/
def skipMembers : List (Option String × Source) → Option Fault → Option Fault
  | [], after => after
  | (_, v) :: rest, after =>
    match skipFault? v with
    | some fault => some fault
    | none => skipMembers rest after
end

/-! ## Any value -/

mutual
/-- The value of a tree with at most `depth` levels of lists and objects. The members of an object
    come in key order; of those with one key the last stands. -/
def toJson (depth : Nat) : Source → Except Fault Json
  | .null => .ok .null
  | .bool b => .ok (.bool b)
  | .number n => .ok (.number n)
  | .text s => .ok (.text s)
  | .unreadable => .error .malformed
  | .broken b => .error b.onRead
  | .list items stop =>
    match depth with
    | 0 => .error .malformed
    | depth + 1 => do
      let items ← toItems depth items
      match stop with
      | some b => .error b.onRead
      | none => .ok (.list items)
  | .object members stop =>
    match depth with
    | 0 => .error .malformed
    | depth + 1 => do
      let members ← toMembers depth [] members
      match stop with
      | some b => .error b.onRead
      | none => .ok (.object members)

/-- The values of the items of a list. -/
def toItems (depth : Nat) : List Source → Except Fault (List Json)
  | [] => .ok []
  | item :: rest => do
    let item ← toJson depth item
    let rest ← toItems depth rest
    .ok (item :: rest)

/-- The values of the members of an object, added to those collected so far. -/
def toMembers (depth : Nat) (collected : List (String × Json)) :
    List (Option String × Source) → Except Fault (List (String × Json))
  | [] => .ok collected
  | (none, _) :: _ => .error .malformed
  | (some k, v) :: rest => do
    let v ← toJson depth v
    toMembers depth (insertEntry k v collected) rest
end

end Source

/-- The greatest number of levels of lists and objects that a value is read with. -/
def maxDepth : Nat := 127

/-- A whole text: its tree, and whether something follows it. -/
structure Document where
  root : Source
  followed : Bool

/-- Reads a document by a way to read its tree. What follows the tree is looked at last. -/
def Document.read {α : Type} (d : Document) (readRoot : Source → Except Fault α) :
    Except Fault α := do
  let a ← readRoot d.root
  if d.followed then .error .malformed else .ok a

/-- The value of a document. -/
def Document.toJson (d : Document) : Except Fault Json := d.read (Source.toJson maxDepth)

end DaqMonitor.Json

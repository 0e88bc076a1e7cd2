/-
  DaqMonitor.Json.Printer

  Writing JSON values: compact, on one line without blanks, and indented, two
  spaces for each level with every item and member on a line of its own.

  A quote, a backslash and the control characters below the space are escaped,
  and no other character is. A double is written by the fewest digits that read
  back to it.
-/
import DaqMonitor.Json.Basic
import DaqMonitor.Decimal.Notation

namespace DaqMonitor.Json

/-- Doubles from `1e-5` to below `1e16` are written in positions, all others with an exponent that
    carries its sign. -/
def doubleNotation : Decimal.Notation :=
  { leastPositional := -5, beyondPositional := 16, plus := "+" }

/-- A double as it is written; one that is not finite is written `null`. -/
def renderDouble (x : Float) : String :=
  if x.isFinite then doubleNotation.render x else "null"

/-- A number as it is written. -/
def Number.render : Number → String
  | .natural n => Text.ofNat n.toNat
  | .negative i => Text.ofInt i.toInt
  | .real x => renderDouble x

/-- A number of hexadecimal digits, with zeros in front up to four. -/
def fourHexDigits (n : Nat) : String :=
  let digits := Nat.toDigits 16 n
  String.ofList (List.replicate (4 - digits.length) '0' ++ digits)

/-- The written form of one character within a text. -/
def escapeChar (c : Char) : String :=
  if c == '"' then "\\\""
  else if c == '\\' then "\\\\"
  else if 0x20 ≤ c.toNat then String.singleton c
  else if c == '\n' then "\\n"
  else if c == '\r' then "\\r"
  else if c == '\t' then "\\t"
  else if c.toNat == 8 then "\\b"
  else if c.toNat == 12 then "\\f"
  else "\\u" ++ fourHexDigits c.toNat

/-- A text between quotes. -/
def renderText (s : String) : String :=
  "\"" ++ s.foldl (fun out c => out ++ escapeChar c) "" ++ "\""

/-! ## Compact -/

mutual
/-- Writes a value on one line, without blanks. -/
def render : Json → String
  | .null => "null"
  | .bool true => "true"
  | .bool false => "false"
  | .number n => n.render
  | .text s => renderText s
  | .list items => "[" ++ renderItems items ++ "]"
  | .object members => "\x7b" ++ renderMembers members ++ "\x7d"

/-- Writes the items of a list with commas between them. -/
def renderItems : List Json → String
  | [] => ""
  | [item] => render item
  | item :: rest => render item ++ "," ++ renderItems rest

/-- Writes the members of an object with commas between them. -/
def renderMembers : List (String × Json) → String
  | [] => ""
  | [(k, v)] => renderText k ++ ":" ++ render v
  | (k, v) :: rest => renderText k ++ ":" ++ render v ++ "," ++ renderMembers rest
end

/-! ## Indented -/

/-- A new line that starts with two spaces for each level. -/
def newLine (level : Nat) : String := "\n" ++ String.ofList (List.replicate (2 * level) ' ')

mutual
/-- Writes a value that stands at the given level. -/
def indentAt (level : Nat) : Json → String
  | .list [] => "[]"
  | .list items => "[" ++ indentItems (level + 1) items ++ newLine level ++ "]"
  | .object [] => "\x7b\x7d"
  | .object members =>
    "\x7b" ++ indentMembers (level + 1) members ++ newLine level ++ "\x7d"
  | .null => "null"
  | .bool true => "true"
  | .bool false => "false"
  | .number n => n.render
  | .text s => renderText s

/-- Writes the items of a list, each on a line of its own. -/
def indentItems (level : Nat) : List Json → String
  | [] => ""
  | [item] => newLine level ++ indentAt level item
  | item :: rest => newLine level ++ indentAt level item ++ "," ++ indentItems level rest

/-- Writes the members of an object, each on a line of its own. -/
def indentMembers (level : Nat) : List (String × Json) → String
  | [] => ""
  | [(k, v)] => newLine level ++ renderText k ++ ": " ++ indentAt level v
  | (k, v) :: rest =>
    newLine level ++ renderText k ++ ": " ++ indentAt level v ++ "," ++
      indentMembers level rest
end

/-- Writes a value on several lines. -/
def indent (json : Json) : String := indentAt 0 json

end DaqMonitor.Json

/-
  DaqMonitor.Json.Reader

  From a text to the tree of what stands in it.

  Each reader takes the characters from where it stands and answers with what it
  found and with the characters that follow, `none` where the text breaks off.
  The readers that call each other count down a bound on their depth, twice the
  length of the text and some, which no text can exhaust.
-/
import DaqMonitor.Json.Source
import DaqMonitor.Decimal.Nearest

namespace DaqMonitor.Json

/-- The blanks between the parts of a JSON text. -/
def isSpace (c : Char) : Bool := c == ' ' || c == '\n' || c == '\t' || c == '\r'

/-- The characters after the blanks. -/
def skipSpace (cs : List Char) : List Char := cs.dropWhile isSpace

/-! ## Numbers -/

/-- The double nearest to `10 ^ n`. -/
def powerOfTen (n : Nat) : Float := Decimal.nearestDouble (Nat.pow 10 n) 1

/-- Divides by `10 ^ n` in steps of at most `10 ^ 308`, each quotient rounded. -/
def divideByPower : Nat → Float → Nat → Float
  | 0, x, _ => x
  | fuel + 1, x, n =>
    if n ≤ 308 then x / powerOfTen n
    else if x == 0.0 then x
    else divideByPower fuel (x / powerOfTen 308) (n - 308)

/-- The double for `significand * 10 ^ exponent`: the significand is rounded to a double and then
    scaled, so the result can be off by a rounding. There is none beyond the greatest double. -/
def scaledDouble? (significand : UInt64) (exponent : Int) : Option Float :=
  let x := significand.toFloat
  -- There are no more steps than the exponent has units.
  if exponent < 0 then some (divideByPower exponent.natAbs x exponent.natAbs)
  else if 308 < exponent then if x == 0.0 then some x else none
  else
    let y := x * powerOfTen exponent.toNat
    if y.isFinite then some y else none

/-- The significand of a number as far as 64 bits hold it, with the exponent that belongs to it. -/
structure Significand where
  value : UInt64
  exponent : Int

/-- Takes up digits until one no longer fits into 64 bits. Answers with the digits that remain. -/
def takeUp (value : UInt64) : List Char → UInt64 × List Char
  | [] => (value, [])
  | c :: cs =>
    let next := value.toNat * 10 + Text.digitValue c
    if next < UInt64.size then takeUp (UInt64.ofNat next) cs else (value, c :: cs)

/-- The significand of the digits before and after the point. A digit before the point that is not
    taken up counts in the exponent; one after the point has no effect. -/
def Significand.ofDigits (whole part : List Char) : Significand :=
  let (value, left) := takeUp 0 whole
  let (value', left') := takeUp value part
  { value := value', exponent := (left.length : Int) - ((part.length : Int) - left'.length) }

/-- Whether a number has digits that 64 bits do not hold. -/
def exceedsWord (whole : List Char) : Bool := !(takeUp 0 whole).2.isEmpty

/-- A whole number. A negative zero, and a number beyond 64 bits, is a double. -/
def wholeNumber (negative : Bool) (digits : List Char) : Source :=
  let s := Significand.ofDigits digits []
  let real : Source :=
    match scaledDouble? s.value s.exponent with
    | some x => .number (.real (if negative then -x else x))
    | none => .unreadable
  if exceedsWord digits then real
  else if !negative then .number (.natural s.value)
  else if s.value = 0 || 0x8000000000000000 < s.value.toNat then real
  else .number (.negative (Int64.ofInt (-(s.value.toNat : Int))))

/-- A number with a point or an exponent. An exponent beyond 31 bits makes the number zero, or none
    at all. -/
def realNumber (negative : Bool) (whole part : List Char) (exponent : Int) : Source :=
  let s := Significand.ofDigits whole part
  let size :=
    if 0x80000000 ≤ exponent then if s.value = 0 then some 0.0 else none
    else if exponent ≤ -0x80000000 then some 0.0
    else scaledDouble? s.value (s.exponent + exponent)
  match size with
  | some x => .number (.real (if negative then -x else x))
  | none => .unreadable

/-- What a reader answers: what it found, and the characters after it. -/
abbrev Found := Source × Option (List Char)

/-- Reads the exponent after its mark. -/
def readExponent (negative : Bool) (whole part : List Char) (cs : List Char) : Found :=
  let (down, cs) :=
    match cs with
    | '-' :: rest => (true, rest)
    | '+' :: rest => (false, rest)
    | rest => (false, rest)
  match cs with
  | [] => (.broken .inNumber, none)
  | _ =>
    let digits := cs.takeWhile Char.isDigit
    if digits.isEmpty then (.broken .junk, none)
    else
      let n : Int := Text.digitsValue digits
      (realNumber negative whole part (if down then -n else n),
        some (cs.dropWhile Char.isDigit))

/-- Reads what follows the whole part of a number. -/
def readFraction (negative : Bool) (whole : List Char) (cs : List Char) : Found :=
  match cs with
  | '.' :: rest =>
    let part := rest.takeWhile Char.isDigit
    match part, rest.dropWhile Char.isDigit with
    | [], [] => (.broken .inNumber, none)
    | [], _ => (.broken .junk, none)
    | _, c :: after =>
      if c == 'e' || c == 'E' then readExponent negative whole part after
      else (realNumber negative whole part 0, some (c :: after))
    | _, [] => (realNumber negative whole part 0, some [])
  | c :: rest =>
    if c == 'e' || c == 'E' then readExponent negative whole [] rest
    else (wholeNumber negative whole, some (c :: rest))
  | [] => (wholeNumber negative whole, some [])

/-- Reads a number after its sign. No digit follows a leading zero. -/
def readNumber (negative : Bool) (cs : List Char) : Found :=
  match cs with
  | [] => (.broken .inNumber, none)
  | '0' :: rest =>
    if (rest.takeWhile Char.isDigit).isEmpty then readFraction negative ['0'] rest
    else (.broken .junk, none)
  | c :: _ =>
    if c.isDigit then
      readFraction negative (cs.takeWhile Char.isDigit) (cs.dropWhile Char.isDigit)
    else (.broken .junk, none)

/-! ## Texts -/

/-- A text as a reader finds it: with its value, without one, or not to its end. -/
inductive TextFound where
  | value (s : String) (rest : List Char)
  | unreadable (rest : List Char)
  | broken (b : Break)

/-- Four hexadecimal digits as a reader finds them. -/
inductive HexFound where
  | value (n : Nat) (rest : List Char)
  | tooShort
  | junk

/-- The value of a hexadecimal digit. -/
def hexValue? (c : Char) : Option Nat :=
  let n := c.toNat
  if 0x30 ≤ n && n ≤ 0x39 then some (n - 0x30)
  else if 0x41 ≤ n && n ≤ 0x46 then some (n - 0x41 + 10)
  else if 0x61 ≤ n && n ≤ 0x66 then some (n - 0x61 + 10)
  else none

/-- Reads four hexadecimal digits. A text with fewer than four bytes left has ended too early. -/
def readHex (cs : List Char) : HexFound :=
  if (String.ofList (cs.take 4)).utf8ByteSize < 4 then .tooShort
  else
    match cs with
    | a :: b :: c :: d :: rest =>
      match hexValue? a, hexValue? b, hexValue? c, hexValue? d with
      | some a, some b, some c, some d => .value (((a * 16 + b) * 16 + c) * 16 + d) rest
      | _, _, _, _ => .junk
    | _ => .junk

/-- Whether a number is the first half of a surrogate pair. -/
def isLeadSurrogate (n : Nat) : Bool := 0xD800 ≤ n && n ≤ 0xDBFF

/-- Whether a number is the second half of a surrogate pair. -/
def isTrailSurrogate (n : Nat) : Bool := 0xDC00 ≤ n && n ≤ 0xDFFF

/-- The character that a pair of surrogates stands for. -/
def joinSurrogates (lead trail : Nat) : Char :=
  Char.ofNat (0x10000 + (lead - 0xD800) * 0x400 + (trail - 0xDC00))

/-- The character that a letter after a backslash stands for. -/
def unescape? (c : Char) : Option Char :=
  if c == '"' || c == '\\' || c == '/' then some c
  else if c == 'b' then some (Char.ofNat 8)
  else if c == 'f' then some (Char.ofNat 12)
  else if c == 'n' then some '\n'
  else if c == 'r' then some '\r'
  else if c == 't' then some '\t'
  else none

/-- Reads a text after its opening quote. `seen` are the characters so far, the last one first;
    `spoilt` tells that they hold a half of a surrogate pair. -/
def readText : Nat → List Char → List Char → Bool → TextFound
  | 0, _, _, spoilt => .broken (.inText spoilt)
  | fuel + 1, cs, seen, spoilt =>
    match cs with
    | [] => .broken (.inText spoilt)
    | '"' :: rest =>
      if spoilt then .unreadable rest else .value (String.ofList seen.reverse) rest
    | '\\' :: 'u' :: rest =>
      match readHex rest with
      | .tooShort => .broken (.inText spoilt)
      | .junk => .broken .junk
      | .value n rest =>
        -- Half a pair spoils the text, which is read to its end all the same.
        if spoilt || isTrailSurrogate n then readText fuel rest seen true
        else if isLeadSurrogate n then
          match rest with
          -- After a first half the reader looks for the second one before anything else.
          | [] | ['\\'] => .broken .atEnd
          | '\\' :: 'u' :: after =>
            match readHex after with
            | .tooShort => .broken .atEnd
            | .junk => .broken .junk
            | .value m after =>
              if isTrailSurrogate m then
                readText fuel after (joinSurrogates n m :: seen) false
              else readText fuel after seen true
          | _ => readText fuel rest seen true
        else readText fuel rest (Char.ofNat n :: seen) false
    | '\\' :: c :: rest =>
      match unescape? c with
      | some c => readText fuel rest (c :: seen) spoilt
      | none => .broken .junk
    | ['\\'] => .broken (.inText spoilt)
    | c :: rest =>
      if c.toNat < 0x20 then .broken .junk else readText fuel rest (c :: seen) spoilt

/-- Reads the rest of a word that stands for `found`. -/
def readWord (found : Source) : List Char → List Char → Found
  | [], cs => (found, some cs)
  | _, [] => (.broken .inWord, none)
  | w :: ws, c :: cs => if w == c then readWord found ws cs else (.broken .junk, none)

/-! ## Lists and objects -/

mutual
/-- Reads a value. -/
def readValue : Nat → List Char → Found
  | 0, _ => (.broken .junk, none)
  | fuel + 1, cs =>
    match skipSpace cs with
    | [] => (.broken .atEnd, none)
    | 'n' :: rest => readWord .null "ull".toList rest
    | 't' :: rest => readWord (.bool true) "rue".toList rest
    | 'f' :: rest => readWord (.bool false) "alse".toList rest
    | '-' :: rest => readNumber true rest
    | '"' :: rest =>
      match readText fuel rest [] false with
      | .value s rest => (.text s, some rest)
      | .unreadable rest => (.unreadable, some rest)
      | .broken b => (.broken b, none)
    | '[' :: rest =>
      match skipSpace rest with
      | [] => (.list [] (some .atEnd), none)
      | ']' :: rest => (.list [] none, some rest)
      | _ =>
        let (items, stop, after) := readItems fuel rest
        (.list items stop, after)
    | '{' :: rest =>
      match skipSpace rest with
      | [] => (.object [] (some .atEnd), none)
      | '}' :: rest => (.object [] none, some rest)
      | _ =>
        let (members, stop, after) := readMembers fuel rest
        (.object members stop, after)
    | c :: rest => if c.isDigit then readNumber false (c :: rest) else (.broken .junk, none)

/-- Reads the items of a list, of which there is at least one. A comma before the closing bracket
    stands for an item that is missing. -/
def readItems : Nat → List Char → List Source × Option Break × Option (List Char)
  | 0, _ => ([], some .junk, none)
  | fuel + 1, cs =>
    match readValue fuel cs with
    | (item, none) => ([item], none, none)
    | (item, some rest) =>
      match skipSpace rest with
      | [] => ([item], some .atEnd, none)
      | ']' :: rest => ([item], none, some rest)
      | ',' :: rest =>
        match skipSpace rest with
        | ']' :: _ => ([item, .broken .junk], none, none)
        | _ =>
          let (items, stop, after) := readItems fuel rest
          (item :: items, stop, after)
      | _ => ([item], some .junk, none)

/-- Reads the members of an object, of which there is at least one. -/
def readMembers :
    Nat → List Char → List (Option String × Source) × Option Break × Option (List Char)
  | 0, _ => ([], some .junk, none)
  | fuel + 1, cs =>
    match skipSpace cs with
    | '"' :: rest =>
      match readText fuel rest [] false with
      | .broken b => ([], some b, none)
      | .unreadable rest => readMember fuel none rest
      | .value key rest => readMember fuel (some key) rest
    | _ => ([], some .junk, none)

/-- Reads a member after its key, and the members after it. -/
def readMember : Nat → Option String → List Char →
    List (Option String × Source) × Option Break × Option (List Char)
  | 0, _, _ => ([], some .junk, none)
  | fuel + 1, key, cs =>
    match skipSpace cs with
    | [] => ([(key, .broken .atEnd)], none, none)
    | ':' :: rest =>
      match readValue fuel rest with
      | (v, none) => ([(key, v)], none, none)
      | (v, some rest) =>
        match skipSpace rest with
        | [] => ([(key, v)], some .atEnd, none)
        | '}' :: rest => ([(key, v)], none, some rest)
        | ',' :: rest =>
          match skipSpace rest with
          | [] => ([(key, v)], some Break.atEnd.afterComma, none)
          | '}' :: _ => ([(key, v)], some .junk, none)
          | _ =>
            let (members, stop, after) := readMembers fuel rest
            ((key, v) :: members, stop.map (·.afterComma), after)
        | _ => ([(key, v)], some .junk, none)
    | _ => ([(key, .broken .junk)], none, none)
end

/-! ## Whole texts -/

/-- The tree of a text. -/
def Document.ofText (s : String) : Document :=
  let cs := s.toList
  -- A value, its members and a text in it take at most three steps for a character.
  match readValue (3 * cs.length + 3) cs with
  | (root, none) => { root, followed := false }
  | (root, some rest) => { root, followed := !(skipSpace rest).isEmpty }

/-- The value of a text. -/
def ofText (s : String) : Except Fault Json := (Document.ofText s).toJson

end DaqMonitor.Json

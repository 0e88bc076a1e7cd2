/-
  DaqMonitor.Text.Basic

  The text operations that reading monitoring tables needs: trimming blanks,
  comparing without regard to the case of the Latin letters, searching for a
  part, cutting at a character, and reading whole numbers.

  Everything is defined on the list of characters of a text. A text is ordered
  by its code points, which is also the order of its UTF-8 bytes.
-/

namespace DaqMonitor.Text

/-! ## Blanks -/

/-- The characters with the Unicode property White_Space. -/
def isBlank (c : Char) : Bool :=
  let n := c.toNat
  (9 ≤ n && n ≤ 13) || n == 0x20 || n == 0x85 || n == 0xA0 || n == 0x1680 ||
    (0x2000 ≤ n && n ≤ 0x200A) || n == 0x2028 || n == 0x2029 || n == 0x202F ||
    n == 0x205F || n == 0x3000

/-- Every whitespace character of the core library is a blank. -/
theorem isBlank_of_isWhitespace {c : Char} (h : c.isWhitespace = true) : isBlank c = true := by
  simp only [Char.isWhitespace, Bool.or_eq_true, decide_eq_true_eq] at h
  rcases h with ((rfl | rfl) | rfl) | rfl <;> decide

/-- Drops the blanks at both ends of a list of characters. -/
def trimChars (cs : List Char) : List Char :=
  ((cs.dropWhile isBlank).reverse.dropWhile isBlank).reverse

/-- Drops the blanks at both ends of a text. -/
def trim (s : String) : String := String.ofList (trimChars s.toList)

/-! ## Case and search -/

/-- The text with `A` to `Z` turned into `a` to `z`. -/
def lowerLatin (s : String) : String := String.ofList (s.toList.map Char.toLower)

/-- Equality without regard to the case of the Latin letters. -/
def equalsFolded (s t : String) : Bool := lowerLatin s == lowerLatin t

theorem equalsFolded_self (s : String) : equalsFolded s s = true := by simp [equalsFolded]

/-- Whether `part` stands somewhere within `cs`, letter for letter. -/
def hasPart (part : List Char) : List Char → Bool
  | [] => part.isEmpty
  | c :: rest => part.isPrefixOf (c :: rest) || hasPart part rest

/-- Whether the text `part` stands somewhere within `s`. -/
def contains (s part : String) : Bool := hasPart part.toList s.toList

/-- The text without the leading `part`, where it has one. -/
def dropLeading? (part s : String) : Option String :=
  if part.toList.isPrefixOf s.toList then
    some (String.ofList (s.toList.drop part.toList.length))
  else none

/-! ## Cutting -/

/-- The characters before the first `c`, and those after it where there is one. -/
def cutAtFirst (c : Char) (cs : List Char) : List Char × Option (List Char) :=
  match cs.dropWhile (· != c) with
  | [] => (cs, none)
  | _ :: rest => (cs.takeWhile (· != c), some rest)

/-- The characters before and after the last `c`, where there is one. -/
def cutAtLast? (c : Char) (cs : List Char) : Option (List Char × List Char) :=
  match cutAtFirst c cs.reverse with
  | (_, none) => none
  | (after, some before) => some (before.reverse, after.reverse)

/-- The characters that follow the first occurrence of `part`. -/
def afterPart? (part : List Char) : List Char → Option (List Char)
  | [] => if part.isEmpty then some [] else none
  | c :: rest =>
    if part.isPrefixOf (c :: rest) then some ((c :: rest).drop part.length)
    else afterPart? part rest

/-! ## Whole numbers -/

/-- The number that a digit stands for. -/
def digitValue (c : Char) : Nat := c.toNat - '0'.toNat

/-- The number written by a list of digits, most significant first. -/
def digitsValue (cs : List Char) : Nat := cs.foldl (fun n c => 10 * n + digitValue c) 0

/-- Reads one or more digits and nothing else. -/
def readDigits? (cs : List Char) : Option Nat :=
  if !cs.isEmpty && cs.all Char.isDigit then some (digitsValue cs) else none

/-- Reads digits after an optional plus sign. -/
def readNatural? : List Char → Option Nat
  | '+' :: cs => readDigits? cs
  | cs => readDigits? cs

/-- Reads digits after an optional sign. -/
def readInteger? : List Char → Option Int
  | '-' :: cs => (readDigits? cs).map fun n => -(n : Int)
  | cs => (readNatural? cs).map fun n => (n : Int)

/-- The decimal digits of a number, without leading zeros. -/
def ofNat (n : Nat) : String := String.ofList (Nat.toDigits 10 n)

/-- The decimal digits of a number after a minus sign where it is negative. -/
def ofInt (i : Int) : String :=
  if i < 0 then "-" ++ ofNat i.natAbs else ofNat i.natAbs

end DaqMonitor.Text

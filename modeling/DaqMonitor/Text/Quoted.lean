/-
  DaqMonitor.Text.Quoted

  Texts between double quotes, as messages show a list of names.

  A quote and a backslash are written after a backslash, the usual control
  characters by their letters, and every character that does not show on its own
  by its code point. So the written form is one line, and what stands in it can
  be told apart.
-/
import DaqMonitor.Text.Basic
import DaqMonitor.Text.Concealed

namespace DaqMonitor.Text

/-- The hexadecimal digits of a number, in lower case. -/
def hexDigits (n : Nat) : String := String.ofList (Nat.toDigits 16 n)

/-- The written form of one character within quotes. -/
def quotedChar (c : Char) : String :=
  if c == '"' then "\\\""
  else if c == '\\' then "\\\\"
  else if c == '\n' then "\\n"
  else if c == '\r' then "\\r"
  else if c == '\t' then "\\t"
  else if c.toNat == 0 then "\\0"
  else if isConcealed c then "\\u\x7b" ++ hexDigits c.toNat ++ "\x7d"
  else String.singleton c

/-- A text between quotes. -/
def quoted (s : String) : String := "\"" ++ String.join (s.toList.map quotedChar) ++ "\""

/-- A list of texts between brackets, each between quotes. -/
def quotedList (ss : List String) : String := "[" ++ ", ".intercalate (ss.map quoted) ++ "]"

end DaqMonitor.Text

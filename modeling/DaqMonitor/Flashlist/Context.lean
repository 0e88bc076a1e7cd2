/-
  DaqMonitor.Flashlist.Context

  The address of a process, as rows give it: `http://host:port`, `host:port` or
  `host:instance:port`, with blanks around it and slashes behind it.

    * `hostOfContext` — what stands before the first colon, the scheme left out.
    * `portOfContext?` — the number after the last colon.
-/
import DaqMonitor.Text.Basic

namespace DaqMonitor.Flashlist

/-- The host part of an address. -/
def hostOfContext (context : String) : String :=
  let cs := Text.trimChars context.toList
  let address := (Text.afterPart? "://".toList cs).getD cs
  String.ofList (Text.cutAtFirst ':' address).1

/-- Drops the slashes at the end. -/
def dropSlashes (cs : List Char) : List Char := (cs.reverse.dropWhile (· == '/')).reverse

/-- The port at the end of an address. -/
def portOfContext? (context : String) : Option UInt16 := do
  let (_, port) ← Text.cutAtLast? ':' (Text.trimChars context.toList)
  let n ← Text.readNatural? (dropSlashes port)
  if n < UInt16.size then some (UInt16.ofNat n) else none

end DaqMonitor.Flashlist

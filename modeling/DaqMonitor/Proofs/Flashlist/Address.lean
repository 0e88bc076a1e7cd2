/-
  DaqMonitor.Proofs.Flashlist.Address

  The spellings of the address of a process.

  The host and the port are cut out of an address by two rules that know nothing of
  each other: one looks for a scheme and then for the first colon, the other for the
  last colon, and drops slashes. Still they agree on every spelling of an address,
  with blanks around it or without.

    * `Spells host port address` — the spellings of a host and a port.
    * `hostOfContext_of_spells`, `portOfContext?_of_spells` — what is read from them.
-/
import DaqMonitor.Flashlist.Context
import DaqMonitor.Proofs.Flashlist.Integers
import DaqMonitor.Proofs.Text.Cutting

namespace DaqMonitor.Flashlist

open Text

/-! ## Spellings -/

/-- A text without colons and blanks. -/
def Plain (s : String) : Prop := ∀ c ∈ s.toList, c ≠ ':' ∧ isBlank c = false

instance (s : String) : Decidable (Plain s) :=
  List.decidableBAll _ _

/-- A text of blanks. -/
def Blank (s : String) : Prop := ∀ c ∈ s.toList, isBlank c = true

instance (s : String) : Decidable (Blank s) :=
  List.decidableBAll _ _

/-- A text of digits, signs and points, as any decimal number is. -/
def Numeral (s : String) : Prop := ∀ c ∈ s.toList, c.isDigit = true ∨ c ∈ ['+', '-', '.']

instance (s : String) : Decidable (Numeral s) :=
  List.decidableBAll _ _

/-- The spellings of the address of the process on a host that answers on a port. -/
inductive Spells (host : String) (port : UInt16) : String → Prop
  /-- With a scheme in front, and any number of slashes behind. -/
  | url {scheme : String} (hscheme : Plain scheme) (slashes : Nat) :
    Spells host port (scheme ++ "://" ++ host ++ ":" ++ Text.ofNat port.toNat ++
      String.ofList (List.replicate slashes '/'))
  | plain : Spells host port (host ++ ":" ++ Text.ofNat port.toNat)
  /-- With the number of the instance in between. -/
  | numbered {number : String} (hnumber : Numeral number) :
    Spells host port (host ++ ":" ++ number ++ ":" ++ Text.ofNat port.toNat)

theorem plain_of_numeral {s : String} (h : Numeral s) : Plain s := by
  intro c hc
  rcases h c hc with hdigit | hsign
  · refine ⟨?_, Json.isBlank_of_isDigit hdigit⟩
    rintro rfl
    exact absurd hdigit (by decide)
  · simp only [List.mem_cons, List.not_mem_nil, or_false] at hsign
    rcases hsign with rfl | rfl | rfl <;> decide

theorem slash_not_mem_of_numeral {s : String} (h : Numeral s) : '/' ∉ s.toList := by
  intro hc
  rcases h '/' hc with hdigit | hsign
  · exact absurd hdigit (by decide)
  · exact absurd hsign (by decide)

theorem numeral_ofNat (n : Nat) : Numeral (Text.ofNat n) := by
  intro c hc
  rw [Text.ofNat, String.toList_ofList] at hc
  exact .inl (Json.isDigit_of_mem_toDigits c hc)

theorem colon_not_mem_of_plain {s : String} (h : Plain s) : ':' ∉ s.toList := fun hc =>
  (h ':' hc).1 rfl

section Spellings

variable {host address before after : String} {port : UInt16}

/-- There are no blanks within an address. -/
theorem Spells.not_isBlank (h : Spells host port address) (hhost : Plain host) :
    ∀ c ∈ address.toList, isBlank c = false := by
  have hplain : ∀ {s : String}, Plain s → ∀ c ∈ s.toList, isBlank c = false :=
    fun hs c hc => (hs c hc).2
  have hcolon : ∀ c ∈ ":".toList, isBlank c = false := by simp [isBlank]
  have hsep : ∀ c ∈ "://".toList, isBlank c = false := by simp [isBlank]
  have hport := hplain (plain_of_numeral (numeral_ofNat port.toNat))
  cases h with
  | url hscheme slashes =>
    have hslashes : ∀ c ∈ List.replicate slashes '/', isBlank c = false := by
      intro c hc
      rw [List.eq_of_mem_replicate hc]
      decide
    simp only [String.toList_append, String.toList_ofList, List.forall_mem_append]
    exact ⟨⟨⟨⟨⟨hplain hscheme, hsep⟩, hplain hhost⟩, hcolon⟩, hport⟩, hslashes⟩
  | plain =>
    simp only [String.toList_append, List.forall_mem_append]
    exact ⟨⟨hplain hhost, hcolon⟩, hport⟩
  | numbered hnumber =>
    simp only [String.toList_append, List.forall_mem_append]
    exact ⟨⟨⟨⟨hplain hhost, hcolon⟩, hplain (plain_of_numeral hnumber)⟩, hcolon⟩, hport⟩

/-- Blanks around an address are dropped. -/
theorem Spells.trimChars_eq (h : Spells host port address) (hhost : Plain host)
    (hbefore : Blank before) (hafter : Blank after) :
    trimChars (before ++ address ++ after).toList = address.toList := by
  rw [String.toList_append, String.toList_append, trimChars_append_right hafter,
    trimChars_append_left hbefore, Json.trimChars_of_not_isBlank (h.not_isBlank hhost)]

/-- The host of an address. -/
theorem hostOfContext_of_spells (h : Spells host port address) (hhost : Plain host)
    (hbefore : Blank before) (hafter : Blank after) :
    hostOfContext (before ++ address ++ after) = host := by
  have hcolon := colon_not_mem_of_plain hhost
  have hcut : ∀ rest, String.ofList (cutAtFirst ':' (host.toList ++ ':' :: rest)).1 = host := by
    intro rest
    rw [cutAtFirst_append hcolon, String.ofList_toList]
  -- Without a scheme there is no slash behind the host.
  have hnone : ∀ rest, '/' ∉ rest →
      afterPart? "://".toList (host.toList ++ ':' :: rest) = none := by
    intro rest hrest
    refine (afterPart?_append hcolon _).trans (afterPart?_of_not_mem (c := '/') (by decide) ?_)
    simpa using hrest
  have hport := slash_not_mem_of_numeral (numeral_ofNat port.toNat)
  rw [hostOfContext, h.trimChars_eq hhost hbefore hafter]
  cases h with
  | url hscheme slashes =>
    have hsome : ∀ rest, afterPart? "://".toList (_ ++ ("://".toList ++ rest)) = some rest :=
      fun rest => (afterPart?_append (colon_not_mem_of_plain hscheme) _).trans
        (afterPart?_self "://".toList rest)
    simp only [String.toList_append, List.append_assoc, hsome, Option.getD_some]
    exact hcut _
  | plain =>
    simp only [String.toList_append, List.append_assoc]
    rw [show ":".toList = [':'] from rfl, List.singleton_append, hnone _ hport, Option.getD_none]
    exact hcut _
  | numbered hnumber =>
    have hslash := slash_not_mem_of_numeral hnumber
    simp only [String.toList_append, List.append_assoc]
    rw [show ":".toList = [':'] from rfl, List.singleton_append, hnone, Option.getD_none]
    · exact hcut _
    · simp [hslash, hport]

/-- What stands behind the last colon is the port, and slashes. -/
theorem Spells.exists_port (h : Spells host port address) :
    ∃ front slashes, address.toList
      = front ++ ':' :: (Nat.toDigits 10 port.toNat ++ List.replicate slashes '/') := by
  cases h with
  | @url scheme hscheme slashes =>
    exact ⟨scheme.toList ++ "://".toList ++ host.toList, slashes, by simp [Text.ofNat]⟩
  | plain => exact ⟨host.toList, 0, by simp [Text.ofNat]⟩
  | @numbered number hnumber =>
    exact ⟨host.toList ++ ":".toList ++ number.toList, 0, by simp [Text.ofNat]⟩

theorem dropSlashes_append {cs : List Char} (h : '/' ∉ cs) (slashes : Nat) :
    dropSlashes (cs ++ List.replicate slashes '/') = cs := by
  have hslashes : ∀ c ∈ List.replicate slashes '/', (c == '/') = true := by
    intro c hc
    rw [List.eq_of_mem_replicate hc]
    decide
  have hkept : cs.reverse.dropWhile (· == '/') = cs.reverse := by
    cases hcs : cs.reverse with
    | nil => rfl
    | cons c rest =>
      have hc : c ∈ cs := List.mem_reverse.1 (hcs ▸ List.mem_cons_self)
      exact List.dropWhile_cons_of_neg fun heq => h (eq_of_beq heq ▸ hc)
  rw [dropSlashes, List.reverse_append, List.reverse_replicate,
    List.dropWhile_append_of_pos hslashes, hkept, List.reverse_reverse]

/-- The port of an address. -/
theorem portOfContext?_of_spells (h : Spells host port address) (hhost : Plain host)
    (hbefore : Blank before) (hafter : Blank after) :
    portOfContext? (before ++ address ++ after) = some port := by
  have hdigits : ∀ c ∈ Nat.toDigits 10 port.toNat, c.isDigit = true := Json.isDigit_of_mem_toDigits
  have hslash : '/' ∉ Nat.toDigits 10 port.toNat := fun hc => absurd (hdigits _ hc) (by decide)
  have hcolon : ':' ∉ Nat.toDigits 10 port.toNat := fun hc => absurd (hdigits _ hc) (by decide)
  obtain ⟨front, slashes, haddress⟩ := h.exists_port
  have hlast : ':' ∉ Nat.toDigits 10 port.toNat ++ List.replicate slashes '/' := by
    simp [hcolon, List.mem_replicate]
  have hlt : port.toNat < UInt16.size := port.toNat_lt
  simp only [portOfContext?, h.trimChars_eq hhost hbefore hafter, haddress,
    cutAtLast?_append hlast, dropSlashes_append hslash, Json.readNatural?_of_isDigit hdigits,
    Json.readDigits?_toDigits, Option.bind_eq_bind, Option.bind_some, if_pos hlt,
    UInt16.ofNat_toNat]

end Spellings

end DaqMonitor.Flashlist

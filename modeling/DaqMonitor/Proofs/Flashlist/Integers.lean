/-
  DaqMonitor.Proofs.Flashlist.Integers

  How exactly columns are read as integers.

  A number has an exact value, a rational one; a text writes an integer or none. A
  value that is read as an integer is read as the one that it carries, and one that
  carries none is refused. There is one exception: a whole number that is too large
  for 64 bits with a sign is read as the end of the range on its side, whereas the
  text that writes it is refused.

    * `numberValue? n` — the exact value of a number.
    * `Json.Carries json i`, `Json.Holds json is` — the integer that a value carries,
      and those that it or its items carry.
    * `Json.Number.Oversized n`, `Json.Bounded json` — a whole number beyond the range,
      and a value without any.
    * `asInteger?_eq_some_iff` — a value is read as the integer that it carries.
    * `Json.carries_ofInt` — the decimal text of an integer carries it.
    * `Row.readsNumber`, `Row.readsList` — what columns are read as.
-/
import DaqMonitor.Flashlist.Row
import DaqMonitor.Proofs.Failing
import Mathlib.Algebra.Order.Field.Rat
import Mathlib.Tactic.FieldSimp
import Mathlib.Tactic.Ring

namespace DaqMonitor.Flashlist

open Float.Model UnpackedFloat

/-! ## Exact values -/

/-- The exact value of a double that is a number. -/
def doubleValue? (x : Float) : Option ℚ :=
  match x.toModel.unpack with
  | .zero _ => some 0
  | .finite sign mantissa exponent _ => some (sign.apply mantissa * 2 ^ exponent)
  | _ => none

/-- The exact value of a number. -/
def numberValue? : Json.Number → Option ℚ
  | .natural n => some n.toNat
  | .negative i => some i.toInt
  | .real x => doubleValue? x

theorem apply_mul (sign : Sign) (m n : Int) : sign.apply (m * n) = sign.apply m * n := by
  cases sign with
  | positive => rfl
  | negative => exact (Int.neg_mul m n).symm

theorem dvd_apply_iff (sign : Sign) (m n : Int) : m ∣ sign.apply n ↔ m ∣ n := by
  cases sign with
  | positive => rfl
  | negative => exact Int.dvd_neg

/-- A mantissa with an exponent is an integer if both are the same over one power of two. -/
theorem mul_zpow_eq_iff (m exponent i : Int) :
    (m : ℚ) * 2 ^ exponent = i ↔ m * 2 ^ exponent.toNat = i * 2 ^ (-exponent).toNat := by
  have hsplit : exponent = (exponent.toNat : Int) - ((-exponent).toNat : Int) := by omega
  have hpower : (2 : ℚ) ^ exponent = 2 ^ exponent.toNat / 2 ^ (-exponent).toNat := by
    conv_lhs => rw [hsplit]
    rw [zpow_sub₀ two_ne_zero, zpow_natCast, zpow_natCast]
  have hne : (2 : ℚ) ^ (-exponent).toNat ≠ 0 := pow_ne_zero _ two_ne_zero
  rw [hpower, ← mul_div_assoc, div_eq_iff hne]
  exact_mod_cast Iff.rfl

/-- A double is the whole number that is its exact value. -/
theorem wholeDouble?_eq_some_iff {x : Float} {i : Int} :
    wholeDouble? x = some i ↔ doubleValue? x = some (i : ℚ) := by
  unfold wholeDouble? doubleValue?
  cases x.toModel.unpack with
  | zero sign => simp [eq_comm]
  | infinity sign => simp
  | notANumber => simp
  | finite sign mantissa exponent hpos =>
    simp only [Nat.pow_eq]
    rw [Option.some.injEq, mul_zpow_eq_iff]
    split
    · -- The point stands behind the mantissa, or comes there as its last bits are dropped.
      rename_i hdvd
      obtain ⟨q, rfl⟩ := Nat.dvd_of_mod_eq_zero hdvd
      have hscale : (2 : Int) ^ (-exponent).toNat ≠ 0 := pow_ne_zero _ (by decide)
      rw [Nat.mul_div_cancel_left _ (Nat.two_pow_pos _), Option.some.injEq]
      push_cast
      rw [apply_mul, mul_comm ((2 : Int) ^ (-exponent).toNat), apply_mul, mul_right_comm]
      exact (mul_left_inj' hscale).symm
    · -- The bits that would be dropped are not all zero, so there are some to drop.
      rename_i hdvd
      have hexponent : exponent.toNat = 0 := by
        rcases Nat.eq_zero_or_pos (-exponent).toNat with h | h
        · rw [h, pow_zero, Nat.mod_one] at hdvd
          exact absurd rfl hdvd
        · omega
      rw [hexponent, pow_zero, mul_one]
      refine ⟨nofun, fun h => absurd ?_ hdvd⟩
      have hpower : (2 : Int) ^ (-exponent).toNat ∣ mantissa :=
        (dvd_apply_iff sign _ _).mp ⟨i, h.trans (mul_comm _ _)⟩
      exact Nat.mod_eq_zero_of_dvd (by exact_mod_cast hpower)

/-- A number is the whole number that is its exact value. -/
theorem wholeNumber?_eq_some_iff {n : Json.Number} {i : Int} :
    wholeNumber? n = some i ↔ numberValue? n = some (i : ℚ) := by
  cases n with
  | natural n =>
    simp only [wholeNumber?, numberValue?, Option.some.injEq]
    exact_mod_cast Iff.rfl
  | negative j =>
    simp only [wholeNumber?, numberValue?, Option.some.injEq]
    exact_mod_cast Iff.rfl
  | real x => exact wholeDouble?_eq_some_iff

/-! ## Integers in values -/

/-- An integer that fits in 64 bits with a sign. -/
def Fits64 (i : Int) : Prop := Int64.minValue.toInt ≤ i ∧ i ≤ Int64.maxValue.toInt

instance (i : Int) : Decidable (Fits64 i) :=
  inferInstanceAs (Decidable (Int64.minValue.toInt ≤ i ∧ i ≤ Int64.maxValue.toInt))

theorem Fits64.toInt_ofInt {i : Int} (h : Fits64 i) : (Int64.ofInt i).toInt = i :=
  Int64.toInt_ofInt_of_le h.1 (Int.lt_of_le_sub_one h.2)

end DaqMonitor.Flashlist

namespace DaqMonitor.Json

open Flashlist

/-- The integer that a value carries: the number itself, the one that a text writes, blanks at its
    ends aside, or one and zero for the truth values. -/
def Carries : Json → Int → Prop
  | number n, i => numberValue? n = some (i : ℚ)
  | text s, i => Text.readInteger? (Text.trimChars s.toList) = some i
  | bool b, i => i = if b then 1 else 0
  | _, _ => False

/-- The integers of a value: those that the items of a list carry, else the one that it carries. -/
def Holds : Json → List Int → Prop
  | list items, is => List.Forall₂ Carries items is
  | json, is => ∃ i, is = [i] ∧ json.Carries i

/-- A whole number that does not fit in 64 bits with a sign. -/
def Number.Oversized (n : Number) : Prop := ∃ i : Int, numberValue? n = some (i : ℚ) ∧ ¬ Fits64 i

instance (n : Number) : Decidable n.Oversized :=
  decidable_of_iff (∃ i ∈ wholeNumber? n, ¬ Fits64 i) <| by
    simp only [Number.Oversized, Option.mem_def, wholeNumber?_eq_some_iff]

theorem Number.fits64 {n : Number} (h : ¬ n.Oversized) {i : Int}
    (hi : numberValue? n = some (i : ℚ)) : Fits64 i := by
  by_contra hlarge
  exact h ⟨i, hi, hlarge⟩

/-- A value that is no whole number which does not fit. -/
def BoundedItem : Json → Prop
  | number n => ¬ n.Oversized
  | _ => True

/-- A value without a whole number that does not fit, be it the value itself or an item of it. -/
def Bounded : Json → Prop
  | list items => ∀ item ∈ items, item.BoundedItem
  | json => json.BoundedItem

theorem Bounded.item {json : Json} (h : json.Bounded) : json.BoundedItem := by
  cases json with
  | list items => trivial
  | _ => exact h

instance : DecidablePred BoundedItem
  | number n => inferInstanceAs (Decidable (¬ n.Oversized))
  | null | bool _ | text _ | list _ | object _ => inferInstanceAs (Decidable True)

instance : DecidablePred Bounded
  | list items => inferInstanceAs (Decidable (∀ item ∈ items, item.BoundedItem))
  | number n => inferInstanceAs (Decidable (¬ n.Oversized))
  | null | bool _ | text _ | object _ => inferInstanceAs (Decidable True)

/-! ## Decimal texts -/

theorem isBlank_of_isDigit {c : Char} (h : c.isDigit = true) : Text.isBlank c = false := by
  obtain ⟨hlow, hhigh⟩ : 48 ≤ c.toNat ∧ c.toNat ≤ 57 := Char.isDigit_iff_toNat.1 h
  simp only [Text.isBlank, Bool.or_eq_false_iff, Bool.and_eq_false_iff, decide_eq_false_iff_not,
    beq_eq_false_iff_ne]
  omega

theorem trimChars_of_not_isBlank {cs : List Char} (h : ∀ c ∈ cs, Text.isBlank c = false) :
    Text.trimChars cs = cs := by
  have hkeep : ∀ cs : List Char, (∀ c ∈ cs, Text.isBlank c = false) →
      cs.dropWhile Text.isBlank = cs := by
    intro cs h
    cases cs with
    | nil => rfl
    | cons c cs => exact List.dropWhile_cons_of_neg (by simp [h c List.mem_cons_self])
  unfold Text.trimChars
  rw [hkeep cs h, hkeep cs.reverse fun c hc => h c (List.mem_reverse.1 hc), List.reverse_reverse]

theorem isDigit_of_mem_toDigits {n : Nat} : ∀ c ∈ Nat.toDigits 10 n, c.isDigit = true :=
  fun _ => Nat.isDigit_of_mem_toDigits (by decide) (by decide)

theorem readDigits?_toDigits (n : Nat) : Text.readDigits? (Nat.toDigits 10 n) = some n := by
  have hdigits : (Nat.toDigits 10 n).all Char.isDigit = true :=
    List.all_eq_true.2 isDigit_of_mem_toDigits
  have hsome : (Nat.toDigits 10 n).isEmpty = false := List.isEmpty_eq_false_iff.2 Nat.toDigits_ne_nil
  have hvalue : Text.digitsValue (Nat.toDigits 10 n) = n := by
    conv_rhs => rw [← Nat.ofDigitChars_ten_toDigits (n := n), Nat.ofDigitChars_eq_foldl]
    rfl
  simp only [Text.readDigits?, hdigits, hsome, hvalue, Bool.not_false, Bool.and_self, if_true]

/-- Digits without a sign are read as they are. -/
theorem readNatural?_of_isDigit {cs : List Char} (h : ∀ c ∈ cs, c.isDigit = true) :
    Text.readNatural? cs = Text.readDigits? cs := by
  unfold Text.readNatural?
  split
  · exact absurd (h '+' List.mem_cons_self) (by decide)
  · rfl

theorem readInteger?_of_isDigit {cs : List Char} (h : ∀ c ∈ cs, c.isDigit = true) :
    Text.readInteger? cs = (Text.readDigits? cs).map Int.ofNat := by
  unfold Text.readInteger?
  split
  · exact absurd (h '-' List.mem_cons_self) (by decide)
  · rw [readNatural?_of_isDigit h]
    cases Text.readDigits? cs <;> rfl

/-- The decimal text of an integer carries it. -/
theorem carries_ofInt (i : Int) : (text (Text.ofInt i)).Carries i := by
  have hblank : ∀ c ∈ Nat.toDigits 10 i.natAbs, Text.isBlank c = false :=
    fun c hc => isBlank_of_isDigit (isDigit_of_mem_toDigits c hc)
  change Text.readInteger? (Text.trimChars (Text.ofInt i).toList) = some i
  unfold Text.ofInt
  by_cases hneg : i < 0
  · have hchars : ("-" ++ Text.ofNat i.natAbs).toList = '-' :: Nat.toDigits 10 i.natAbs := by
      simp [Text.ofNat]
    rw [if_pos hneg, hchars, trimChars_of_not_isBlank (List.forall_mem_cons.2 ⟨by decide, hblank⟩)]
    rw [Text.readInteger?, readDigits?_toDigits]
    exact congrArg some (by omega : -(i.natAbs : Int) = i)
  · have hchars : (Text.ofNat i.natAbs).toList = Nat.toDigits 10 i.natAbs := by simp [Text.ofNat]
    rw [if_neg hneg, hchars, trimChars_of_not_isBlank hblank,
      readInteger?_of_isDigit isDigit_of_mem_toDigits, readDigits?_toDigits]
    exact congrArg some (Int.natAbs_of_nonneg (Int.not_lt.1 hneg))

/-! ## Other spellings -/

/-- A value, or the decimal text of the integer that it is as a number. -/
def Respelled (json json' : Json) : Prop :=
  json' = json ∨ ∃ n i, json = number n ∧ numberValue? n = some ((i : Int) : ℚ) ∧
    json' = text (Text.ofInt i)

end DaqMonitor.Json

namespace DaqMonitor.Flashlist

/-! ## Reading values -/

/-- A value is read as the integer that it carries, and one that carries none is refused. -/
theorem asInteger?_eq_some_iff {json : Json} (h : json.BoundedItem) {v : Int64} :
    asInteger? json = some v ↔ json.Carries v.toInt := by
  cases json with
  | number n =>
    simp only [asInteger?, Json.Carries, ← wholeNumber?_eq_some_iff, Option.map_eq_some_iff]
    constructor
    · rintro ⟨i, hi, rfl⟩
      -- Within the range nothing is cut off.
      have hfits := Json.Number.fits64 h (wholeNumber?_eq_some_iff.1 hi)
      rwa [Int64.toInt_ofIntClamp hfits.1 hfits.2]
    · exact fun hv => ⟨_, hv, v.ofIntClamp_toInt⟩
  | text s =>
    simp only [asInteger?, Json.Carries, Option.bind_eq_bind, Option.bind_eq_some_iff]
    constructor
    · rintro ⟨i, hi, hv⟩
      split at hv
      · rename_i hfits
        cases hv
        rwa [Fits64.toInt_ofInt hfits]
      · cases hv
    · intro hv
      refine ⟨_, hv, ?_⟩
      rw [if_pos ⟨v.minValue_le_toInt, v.toInt_le⟩, v.ofInt_toInt]
  | bool b =>
    simp only [asInteger?, Json.Carries, Option.some.injEq, ← Int64.toInt_inj]
    cases b <;> exact eq_comm
  | _ => simp [asInteger?, Json.Carries]

theorem asInteger?_number {n : Json.Number} (h : ¬ n.Oversized) {v : Int64} :
    asInteger? (.number n) = some v ↔ numberValue? n = some (v.toInt : ℚ) :=
  have hbounded : (Json.number n).BoundedItem := h
  asInteger?_eq_some_iff hbounded

/-- A whole number that does not fit is read as the end of the range on its side, and its decimal
    text is refused. -/
theorem asInteger?_of_not_fits64 {n : Json.Number} {i : Int}
    (hi : numberValue? n = some (i : ℚ)) (h : ¬ Fits64 i) :
    asInteger? (.number n) = some (if i < 0 then Int64.minValue else Int64.maxValue) ∧
      asInteger? (.text (Text.ofInt i)) = none := by
  constructor
  · simp only [asInteger?, wholeNumber?_eq_some_iff.2 hi, Option.map_some, Option.some.injEq]
    have hmin : Int64.minValue.toInt < 0 := by decide
    have hmax : 0 ≤ Int64.maxValue.toInt := by decide
    unfold Int64.ofIntClamp
    split
    · -- Not below the range, so above it.
      rename_i hlow
      rw [dif_neg fun hhigh => h ⟨hlow, hhigh⟩]
      have hlarge : ¬ i ≤ Int64.maxValue.toInt := fun hhigh => h ⟨hlow, hhigh⟩
      rw [if_neg (by omega)]
    · rw [if_pos (by omega)]
  · have hread : Text.readInteger? (Text.trimChars (Text.ofInt i).toList) = some i :=
      Json.carries_ofInt i
    simp only [asInteger?, hread]
    exact if_neg h

/-- A whole number and its decimal text are read alike. -/
theorem exists_asInteger?_ofInt {n : Json.Number} (h : ¬ n.Oversized) {i : Int}
    (hi : numberValue? n = some (i : ℚ)) :
    ∃ v, asInteger? (.number n) = some v ∧ asInteger? (.text (Text.ofInt i)) = some v := by
  have hvalue := (Json.Number.fits64 h hi).toInt_ofInt
  have hbounded : (Json.text (Text.ofInt i)).BoundedItem := trivial
  refine ⟨.ofInt i, (asInteger?_number h).2 ?_, (asInteger?_eq_some_iff hbounded).2 ?_⟩
  · rwa [hvalue]
  · rw [hvalue]
    exact Json.carries_ofInt i

/-! ## Reading columns -/

/-- What is not negative is the same without a sign. -/
theorem toNat_toUInt64 {i : Int64} (h : ¬ i < 0) : (i.toUInt64.toNat : Int) = i.toInt := by
  have hnonneg : 0 ≤ i.toInt := by simpa [Int64.lt_iff_toInt_lt] using h
  -- Both are values of the same bits, of which the first is not set.
  have hbits : i.toInt = i.toBitVec.toInt := rfl
  rw [hbits, BitVec.toInt_eq_toNat_cond] at hnonneg ⊢
  have hlt := i.toBitVec.isLt
  change (i.toBitVec.toNat : Int) = _
  split at hnonneg <;> split <;> omega

namespace Row

/-- The integer that the value of a column carries. -/
def Carries (row : Row) (column : String) (i : Int) : Prop :=
  ∃ json, row.find? column = some json ∧ json.Carries i

/-- The integers of the value of a column. -/
def Holds (row : Row) (column : String) (is : List Int) : Prop :=
  ∃ json, row.find? column = some json ∧ json.Holds is

/-- No number in a column is a whole number that does not fit in 64 bits with a sign. -/
def Bounded (row : Row) (column : String) : Prop := ∀ json ∈ row.find? column, json.Bounded

instance (row : Row) (column : String) : Decidable (row.Bounded column) :=
  inferInstanceAs (Decidable (∀ json ∈ row.find? column, json.Bounded))

variable {row row' : Row} {column : String}

theorem value_eq_ok_iff {json : Json} :
    row.value column = .ok json ↔ row.find? column = some json ∧ json ≠ .null := by
  unfold value
  cases row.find? column with
  | none => simp
  | some json' => cases json' <;> simp <;> rintro rfl <;> simp

theorem read_eq_ok_iff {α : Type} {wanted : Wanted} {as? : Json → Option α} {a : α} :
    row.read wanted as? column = .ok a ↔
      ∃ json, row.value column = .ok json ∧ as? json = some a := by
  unfold read
  cases row.value column with
  | error error => simp [bind, Except.bind]
  | ok json => cases h : as? json <;> simp [bind, Except.bind, h]

theorem integer_of_find? {json : Json} (hfind : row.find? column = some json)
    (hnull : json ≠ .null) :
    row.integer column = match asInteger? json with
      | some i => .ok i
      | none => .error (.wrongKind column .integer json) := by
  have hvalue : row.value column = .ok json := value_eq_ok_iff.2 ⟨hfind, hnull⟩
  unfold integer read
  rw [hvalue, ok_bind]
  cases asInteger? json <;> rfl

/-- A column is read as the integer that it carries. -/
theorem integer_eq_ok_iff (h : row.Bounded column) {v : Int64} :
    row.integer column = .ok v ↔ row.Carries column v.toInt := by
  simp only [integer, read_eq_ok_iff, value_eq_ok_iff, Carries]
  refine exists_congr fun json => ?_
  constructor
  · rintro ⟨⟨hfind, -⟩, hread⟩
    exact ⟨hfind, (asInteger?_eq_some_iff (h json hfind).item).1 hread⟩
  · rintro ⟨hfind, hcarries⟩
    refine ⟨⟨hfind, ?_⟩, (asInteger?_eq_some_iff (h json hfind).item).2 hcarries⟩
    rintro rfl
    exact hcarries

/-- A count is an integer without a sign. -/
theorem count_eq_ok_iff {v : UInt64} :
    row.count column = .ok v ↔ ∃ i, row.integer column = .ok i ∧ i.toInt = v.toNat := by
  unfold count
  cases row.integer column with
  | error error => simp [bind, Except.bind]
  | ok i =>
    simp only [ok_bind, Except.ok.injEq, exists_eq_left']
    split
    · rename_i hneg
      have hbelow : i.toInt < 0 := by simpa [Int64.lt_iff_toInt_lt] using hneg
      refine ⟨nofun, fun h => ?_⟩
      omega
    · rename_i hnonneg
      rw [← toNat_toUInt64 hnonneg, Except.ok.injEq, ← UInt64.toNat_inj]
      exact Int.ofNat_inj.symm

/-- What an item of a list is read as. -/
def integerItem (column : String) (item : Json) : Except RowError Int64 :=
  match asInteger? item with
  | some i => .ok i
  | none => .error (.wrongKind column .integerList item)

theorem integerItem_eq_ok_iff {item : Json} (h : item.BoundedItem) {v : Int64} :
    integerItem column item = .ok v ↔ item.Carries v.toInt := by
  rw [← asInteger?_eq_some_iff h]
  unfold integerItem
  cases asInteger? item <;> simp

theorem integerList_of_list {items : List Json} (hfind : row.find? column = some (.list items)) :
    row.integerList column = items.mapM (integerItem column) := by
  have hvalue : row.value column = .ok (.list items) := value_eq_ok_iff.2 ⟨hfind, nofun⟩
  have hread : row.read .list Json.items? column = .ok items :=
    read_eq_ok_iff.2 ⟨_, hvalue, rfl⟩
  unfold integerList readList
  rw [hread, ok_bind]
  congr 1
  funext item
  unfold integerItem
  cases asInteger? item <;> rfl

/-- A list is read as the integers that its items carry. -/
theorem mapM_integerItem_eq_ok_iff {items : List Json} (h : ∀ item ∈ items, item.BoundedItem)
    {vs : List Int64} :
    items.mapM (integerItem column) = .ok vs ↔
      List.Forall₂ Json.Carries items (vs.map Int64.toInt) := by
  rw [List.forall₂_map_right_iff]
  constructor
  · -- That an item is bounded goes with it, as reading it hangs on that.
    intro hread
    have hitems := (List.forall₂_and_left _ _).2 ⟨h, (forall₂_of_mapM_eq_ok hread).flip⟩
    exact hitems.imp fun item v ⟨hbounded, hitem⟩ => (integerItem_eq_ok_iff hbounded).1 hitem
  · intro hcarry
    have hitems := (List.forall₂_and_left _ _).2 ⟨h, hcarry⟩
    refine mapM_of_forall₂ (List.Forall₂.flip (hitems.imp ?_))
    exact fun item v ⟨hbounded, hitem⟩ => (integerItem_eq_ok_iff hbounded).2 hitem

/-- A column is read as a list of the integers that the items of its list carry. -/
theorem integerList_eq_ok_iff (h : row.Bounded column) {vs : List Int64} :
    row.integerList column = .ok vs ↔ ∃ items, row.find? column = some (.list items) ∧
      List.Forall₂ Json.Carries items (vs.map Int64.toInt) := by
  constructor
  · intro hread
    obtain ⟨items, hitems, hread'⟩ := exists_of_bind_eq_ok hread
    obtain ⟨json, hvalue, hlist⟩ := read_eq_ok_iff.1 hitems
    obtain rfl : json = .list items := by
      cases json <;> cases hlist
      rfl
    obtain ⟨hfind, -⟩ := value_eq_ok_iff.1 hvalue
    rw [integerList_of_list hfind, mapM_integerItem_eq_ok_iff (h _ hfind)] at hread
    exact ⟨items, hfind, hread⟩
  · rintro ⟨items, hfind, hcarry⟩
    rwa [integerList_of_list hfind, mapM_integerItem_eq_ok_iff (h _ hfind)]

/-! ## What is read is held -/

theorem holds_of_carries {i : Int} (h : row.Carries column i) : row.Holds column [i] := by
  obtain ⟨json, hfind, hcarries⟩ := h
  refine ⟨json, hfind, ?_⟩
  cases json with
  | list items => exact hcarries.elim
  | _ => exact ⟨i, rfl, hcarries⟩

theorem Bounded.holds_integer (h : row.Bounded column) {v : Int64}
    (hread : row.integer column = .ok v) : row.Holds column [v.toInt] :=
  holds_of_carries ((integer_eq_ok_iff h).1 hread)

theorem Bounded.holds_count (h : row.Bounded column) {v : UInt64}
    (hread : row.count column = .ok v) : row.Holds column [(v.toNat : Int)] := by
  obtain ⟨i, hi, hsame⟩ := count_eq_ok_iff.1 hread
  rw [← hsame]
  exact h.holds_integer hi

theorem Bounded.holds_integerList (h : row.Bounded column) {vs : List Int64}
    (hread : row.integerList column = .ok vs) : row.Holds column (vs.map Int64.toInt) := by
  obtain ⟨items, hfind, hcarry⟩ := (integerList_eq_ok_iff h).1 hread
  exact ⟨.list items, hfind, hcarry⟩

/-! ## Exactness -/

/-- A column with a number is read exactly. -/
structure ReadsNumber (row : Row) (column : String) (n : Json.Number) : Prop where
  /-- It is read as an integer that the number is. -/
  integer (v : Int64) : row.integer column = .ok v ↔ numberValue? n = some (v.toInt : ℚ)
  /-- A count likewise. -/
  count (v : UInt64) : row.count column = .ok v ↔ numberValue? n = some (v.toNat : ℚ)
  /-- A number that is no integer within the range is refused. -/
  refused : (∀ v : Int64, numberValue? n ≠ some (v.toInt : ℚ)) →
    row.integer column = .error (.wrongKind column .integer (.number n)) ∧
      row.count column = .error (.wrongKind column .integer (.number n))
  /-- So is a count below zero. -/
  negative (v : Int64) : v < 0 → numberValue? n = some (v.toInt : ℚ) →
    row.count column = .error (.malformed column (.negative v))
  /-- The decimal text of the integer that the number is is read alike. -/
  respelled (row' : Row) (i : Int) : numberValue? n = some (i : ℚ) →
    row'.find? column = some (.text (Text.ofInt i)) →
    row'.integer column = row.integer column ∧ row'.count column = row.count column

/-- A column with a list is read exactly. -/
structure ReadsList (row : Row) (column : String) (items : List Json) : Prop where
  /-- It is read as the integers that its items carry. -/
  integerList (vs : List Int64) : row.integerList column = .ok vs ↔
    List.Forall₂ Json.Carries items (vs.map Int64.toInt)
  /-- The decimal texts of integers among its items are read alike. -/
  respelled (row' : Row) (items' : List Json) : row'.find? column = some (.list items') →
    List.Forall₂ Json.Respelled items items' →
    row'.integerList column = row.integerList column

/-- A column with a whole number that does not fit is read as the end of the range on its side; the
    decimal text of the number is refused. -/
theorem integer_of_not_fits64 {n : Json.Number} {i : Int}
    (hfind : row.find? column = some (.number n)) (hi : numberValue? n = some (i : ℚ))
    (h : ¬ Fits64 i) :
    row.integer column = .ok (if i < 0 then Int64.minValue else Int64.maxValue) ∧
      ∀ row' : Row, row'.find? column = some (.text (Text.ofInt i)) →
        row'.integer column = .error (.wrongKind column .integer (.text (Text.ofInt i))) := by
  obtain ⟨hnumber, htext⟩ := asInteger?_of_not_fits64 hi h
  constructor
  · rw [integer_of_find? hfind nofun, hnumber]
  · intro row' hfind'
    rw [integer_of_find? hfind' nofun, htext]

theorem readsNumber {n : Json.Number} (hfind : row.find? column = some (.number n))
    (h : ¬ n.Oversized) : row.ReadsNumber column n := by
  have hread := integer_of_find? hfind nofun
  have hinteger : ∀ v, row.integer column = .ok v ↔ numberValue? n = some (v.toInt : ℚ) := by
    intro v
    rw [hread, ← asInteger?_number h]
    cases asInteger? (.number n) <;> simp
  constructor
  case integer => exact hinteger
  case count =>
    intro v
    rw [count_eq_ok_iff]
    constructor
    · rintro ⟨i, hi, hsame⟩
      rw [(hinteger i).1 hi, hsame, Int.cast_natCast]
    · -- As a count the number may seem to need the first bit, but then it would be oversized.
      intro hv
      have hint : numberValue? n = some (((v.toNat : Int) : ℚ)) := by rw [hv, Int.cast_natCast]
      have hvalue := (Json.Number.fits64 h hint).toInt_ofInt
      exact ⟨_, (hinteger _).2 (by rw [hvalue, hint]), hvalue⟩
  case refused =>
    intro hno
    have hnone : asInteger? (.number n) = none :=
      Option.eq_none_iff_forall_not_mem.2 fun v hv => hno v ((asInteger?_number h).1 hv)
    rw [hnone] at hread
    refine ⟨hread, ?_⟩
    unfold count
    rw [hread]
    rfl
  case negative =>
    intro v hneg hv
    unfold count
    rw [(hinteger v).2 hv, ok_bind, if_pos hneg]
  case respelled =>
    intro row' i hi hfind'
    obtain ⟨v, hnumber, htext⟩ := exists_asInteger?_ofInt h hi
    have hsame : row'.integer column = row.integer column := by
      rw [hread, integer_of_find? hfind' nofun, hnumber, htext]
    refine ⟨hsame, ?_⟩
    unfold count
    rw [hsame]

theorem readsList {items : List Json} (hfind : row.find? column = some (.list items))
    (h : ∀ item ∈ items, item.BoundedItem) : row.ReadsList column items where
  integerList vs := by rw [integerList_of_list hfind, mapM_integerItem_eq_ok_iff h]
  respelled row' items' hfind' hspelled := by
    rw [integerList_of_list hfind, integerList_of_list hfind']
    refine (mapM_congr_forall₂ ?_).symm
    have hitems := (List.forall₂_and_left _ _).2 ⟨h, hspelled⟩
    refine hitems.imp fun item item' ⟨hbounded, hitem⟩ => ?_
    obtain rfl | ⟨n, i, rfl, hi, rfl⟩ := hitem
    · rfl
    · obtain ⟨v, hnumber, htext⟩ := exists_asInteger?_ofInt hbounded hi
      simp only [integerItem, hnumber, htext]

end Row

end DaqMonitor.Flashlist

import Mathlib.Data.Rat.Defs
import Mathlib.Tactic.Ring
import PortableSql.Proofs.Number.Numeral
import PortableSql.Proofs.Number.Scanner

namespace PortableSql

inductive Sign where
  | none
  | plus
  | minus
deriving DecidableEq

namespace Sign

def chars : Sign → List Char
  | none => []
  | plus => ['+']
  | minus => ['-']

def factor : Sign → Int
  | none => 1
  | plus => 1
  | minus => -1

/-- The sign that a text begins with. -/
def ofChars : List Char → Sign
  | '+' :: _ => plus
  | '-' :: _ => minus
  | _ => none

end Sign

/-- An optional sign, digits, and an optional fraction of digits behind a point. -/
structure DecimalText where
  sign : Sign
  whole : List Char
  fraction : Option (List Char)
  whole_digits : IsDigits whole
  fraction_digits : ∀ digits ∈ fraction, IsDigits digits

namespace DecimalText

open Numeral

def fractionChars (a : DecimalText) : List Char :=
  match a.fraction with
  | none => []
  | some digits => '.' :: digits

/-- The number without its sign. -/
def unsigned (a : DecimalText) : List Char := a.whole ++ a.fractionChars

def chars (a : DecimalText) : List Char := a.sign.chars ++ a.unsigned

def text (a : DecimalText) : String := String.ofList a.chars

/-- The number before the point, with its sign. -/
def integer (a : DecimalText) : Int := a.sign.factor * Nat.ofDigitChars 10 a.whole 0

/-- The number behind the point. -/
def fractionValue (a : DecimalText) : ℚ :=
  match a.fraction with
  | none => 0
  | some digits => Nat.ofDigitChars 10 digits 0 / 10 ^ digits.length

def value (a : DecimalText) : ℚ :=
  a.sign.factor * (Nat.ofDigitChars 10 a.whole 0 + a.fractionValue)

variable {a b : DecimalText}

theorem value_of_integer (h : a.fraction = none) : a.value = a.integer := by
  rw [value, integer, fractionValue, h, add_zero]
  push_cast
  rfl

/-- A number without its sign begins with a digit, which is no sign. -/
theorem unsigned_eq_cons (a : DecimalText) :
    ∃ c rest, a.unsigned = c :: rest ∧ c ≠ '+' ∧ c ≠ '-' := by
  obtain ⟨c, rest, hwhole⟩ := List.exists_cons_of_ne_nil a.whole_digits.1
  have hc : c.isDigit = true := a.whole_digits.2 c (by simp [hwhole])
  refine ⟨c, rest ++ a.fractionChars, by rw [unsigned, hwhole, List.cons_append], ?_, ?_⟩
  all_goals
    rintro rfl
    exact absurd hc (by decide)

theorem ofChars_chars (a : DecimalText) : Sign.ofChars a.chars = a.sign := by
  obtain ⟨c, rest, hunsigned, hplus, hminus⟩ := a.unsigned_eq_cons
  rw [chars, hunsigned]
  cases a.sign with
  | none => simp [Sign.chars, Sign.ofChars, hplus, hminus]
  | plus | minus => rfl

theorem isBlank_of_mem_chars {c : Char} (h : c ∈ a.chars) : Chars.isBlank c = false := by
  have hsign : ∀ sign : Sign, ∀ c ∈ sign.chars, Chars.isBlank c = false := by
    intro sign
    cases sign <;> decide
  rw [chars, unsigned, List.mem_append, List.mem_append] at h
  rcases h with h | h | h
  · exact hsign a.sign c h
  · exact isBlank_of_isDigit (a.whole_digits.2 c h)
  · unfold fractionChars at h
    split at h
    next => cases h
    next digits hfraction =>
      rcases List.mem_cons.mp h with rfl | h
      · decide
      · exact isBlank_of_isDigit ((a.fraction_digits digits hfraction).2 c h)

theorem takeWhile_unsigned (a : DecimalText) :
    a.unsigned.takeWhile Char.isDigit = a.whole ∧
      a.unsigned.dropWhile Char.isDigit = a.fractionChars := by
  refine Scanner.takeWhile_dropWhile_append a.whole_digits.2 fun c hc => ?_
  unfold fractionChars at hc
  split at hc
  next => cases hc
  next =>
    obtain rfl : '.' = c := Option.some.inj hc
    decide

theorem fractionChars_inj (h : a.fractionChars = b.fractionChars) : a.fraction = b.fraction := by
  unfold fractionChars at h
  cases ha : a.fraction with
  | none =>
    cases hb : b.fraction with
    | none => rfl
    | some digits => simp [ha, hb] at h
  | some digits =>
    cases hb : b.fraction with
    | none => simp [ha, hb] at h
    | some others => simpa [ha, hb] using h

theorem text_injective : Function.Injective text := by
  intro a b h
  have hchars : a.chars = b.chars := String.ofList_injective h
  have hsign : a.sign = b.sign := by rw [← a.ofChars_chars, hchars, b.ofChars_chars]
  have hunsigned : a.unsigned = b.unsigned := by
    rw [chars, chars, hsign] at hchars
    exact List.append_cancel_left hchars
  have hwhole : a.whole = b.whole := by
    rw [← a.takeWhile_unsigned.1, hunsigned, b.takeWhile_unsigned.1]
  have hfraction : a.fraction = b.fraction := by
    refine fractionChars_inj ?_
    rw [← a.takeWhile_unsigned.2, hunsigned, b.takeWhile_unsigned.2]
  cases a
  cases b
  simp_all

/-- An integer, with a sign where it is negative. -/
def ofInt (n : Int) : DecimalText where
  sign := if n < 0 then .minus else .none
  whole := Nat.toDigits 10 n.natAbs
  fraction := none
  whole_digits := ⟨Nat.toDigits_ne_nil, fun _ hc => isDigit_of_mem_digits hc⟩
  fraction_digits := nofun

theorem chars_ofInt (n : Int) : (ofInt n).chars = (toString n).toList := by
  have hchars : (ofInt n).chars =
      (if n < 0 then Sign.minus else Sign.none).chars ++ (Nat.toDigits 10 n.natAbs ++ []) := rfl
  rw [hchars, toList_toString_int, List.append_nil]
  split <;> rfl

theorem integer_ofInt (n : Int) : (ofInt n).integer = n := by
  have hdigits : Nat.ofDigitChars 10 (ofInt n).whole 0 = n.natAbs := Nat.ofDigitChars_ten_toDigits
  have hsign : (ofInt n).sign = if n < 0 then .minus else .none := rfl
  rw [integer, hdigits, hsign]
  split
  next => rw [Sign.factor]; omega
  next => rw [Sign.factor]; omega

theorem value_ofInt (n : Int) : (ofInt n).value = n := by
  rw [value_of_integer rfl, integer_ofInt]

/-- The number with a plus sign where it has none. -/
def explicit (a : DecimalText) : DecimalText :=
  { a with sign := if a.sign = .none then .plus else a.sign }

theorem value_explicit (a : DecimalText) : a.explicit.value = a.value := by
  have hfactor : a.explicit.sign.factor = a.sign.factor := by
    cases hsign : a.sign <;> simp [explicit, hsign, Sign.factor]
  rw [value, hfactor]
  rfl

theorem natural?_unsigned (a : DecimalText) :
    natural? a.unsigned =
      if a.fraction = none then some (Nat.ofDigitChars 10 a.whole 0) else none := by
  have hne : a.unsigned.isEmpty = false := by
    obtain ⟨c, rest, hunsigned, _⟩ := a.unsigned_eq_cons
    rw [hunsigned]
    rfl
  rw [natural?, hne, Bool.false_or]
  cases hfraction : a.fraction with
  | none =>
    have hwhole : a.unsigned = a.whole := by
      rw [unsigned, fractionChars, hfraction, List.append_nil]
    have hall : a.whole.all Char.isDigit = true := List.all_eq_true.mpr a.whole_digits.2
    rw [hwhole, hall]
    rfl
  | some digits =>
    have hpoint : '.' ∈ a.unsigned := by simp [unsigned, fractionChars, hfraction]
    have hall : a.unsigned.all Char.isDigit = false :=
      List.all_eq_false.mpr ⟨'.', hpoint, by decide⟩
    rw [hall]
    rfl

/-- An integer is read as what it is, and a number with a fraction is not read as an integer. -/
theorem int64?_chars (a : DecimalText) :
    int64? a.chars = if a.fraction = none then (some a.integer).filter fitsInt64 else none := by
  obtain ⟨c, rest, hunsigned, hplus, hminus⟩ := a.unsigned_eq_cons
  have hread : int64? a.chars =
      ((natural? a.unsigned).map fun n : Nat => a.sign.factor * n).filter fitsInt64 := by
    rw [chars]
    cases a.sign with
    | none =>
      simp only [Sign.chars, Sign.factor, List.nil_append, one_mul]
      rw [hunsigned, int64?_unsigned hminus hplus]
      rfl
    | plus =>
      simp only [Sign.chars, Sign.factor, one_mul]
      rfl
    | minus =>
      simp only [Sign.chars, Sign.factor, neg_one_mul]
      rfl
  rw [hread, natural?_unsigned]
  split
  next => rfl
  next => rfl

end DecimalText

end PortableSql

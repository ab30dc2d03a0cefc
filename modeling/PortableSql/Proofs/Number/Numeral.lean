import PortableSql.Number.Numeral
import PortableSql.Text.Blank

namespace PortableSql.Numeral

open Chars

variable {c : Char}

theorem isDigit_of_mem_digits {n : Nat} (h : c ∈ Nat.toDigits 10 n) : c.isDigit = true :=
  Nat.isDigit_of_mem_toDigits (by decide) (by decide) h

theorem toNat_of_isDigit (h : c.isDigit = true) : 48 ≤ c.toNat ∧ c.toNat ≤ 57 := by
  simpa [Char.isDigit, UInt32.le_iff_toNat_le] using h

theorem isBlank_of_isDigit (h : c.isDigit = true) : isBlank c = false := by
  have := toNat_of_isDigit h
  simp [isBlank]
  omega

theorem natural?_digits (n : Nat) : natural? (Nat.toDigits 10 n) = some n := by
  have hall : (Nat.toDigits 10 n).all Char.isDigit = true :=
    List.all_eq_true.mpr fun _ hc => isDigit_of_mem_digits hc
  have hempty : (Nat.toDigits 10 n).isEmpty = false :=
    List.isEmpty_eq_false_iff.mpr Nat.toDigits_ne_nil
  have hvalue : digitsValue (Nat.toDigits 10 n) = n := Nat.ofDigitChars_ten_toDigits
  rw [natural?, hall, hempty, hvalue]
  rfl

/-- A digit is no sign. -/
theorem digits_eq_cons (n : Nat) : ∃ c rest, Nat.toDigits 10 n = c :: rest ∧ c ≠ '-' ∧ c ≠ '+' := by
  obtain ⟨c, rest, h⟩ := List.exists_cons_of_ne_nil (Nat.toDigits_ne_nil (n := n) (b := 10))
  have hc : c.isDigit = true := by
    refine isDigit_of_mem_digits (n := n) ?_
    rw [h]
    exact List.mem_cons_self
  refine ⟨c, rest, h, ?_, ?_⟩
  all_goals
    rintro rfl
    exact absurd hc (by decide)

/-- The text of an integer: its digits, after a sign if it is negative. -/
theorem toList_toString_int (n : Int) :
    (toString n).toList =
      if n < 0 then '-' :: Nat.toDigits 10 n.natAbs else Nat.toDigits 10 n.natAbs := by
  cases n with
  | ofNat m => exact Nat.toList_repr
  | negSucc m =>
    change ("-" ++ (m + 1).repr).toList = _
    rw [if_pos (Int.negSucc_lt_zero m), String.toList_append, Nat.toList_repr]
    rfl

/-- The text of an integer has digits and a minus sign only. -/
theorem toNat_of_mem_toString {n : Int} (h : c ∈ (toString n).toList) :
    45 ≤ c.toNat ∧ c.toNat ≤ 57 := by
  have hdigits : ∀ x ∈ Nat.toDigits 10 n.natAbs, 45 ≤ x.toNat ∧ x.toNat ≤ 57 := by
    intro x hx
    have := toNat_of_isDigit (isDigit_of_mem_digits hx)
    omega
  rw [toList_toString_int] at h
  split at h
  next =>
    rcases List.mem_cons.mp h with rfl | h
    · decide
    · exact hdigits c h
  next => exact hdigits c h

theorem digits_injective {m n : Nat} (h : Nat.toDigits 10 m = Nat.toDigits 10 n) : m = n := by
  have hread := natural?_digits m
  rw [h, natural?_digits] at hread
  exact (Option.some.inj hread).symm

theorem toString_int_injective {m n : Int} (h : (toString m).toList = (toString n).toList) :
    m = n := by
  obtain ⟨c, rest, hm, hc, _⟩ := digits_eq_cons m.natAbs
  obtain ⟨d, tail, hn, hd, _⟩ := digits_eq_cons n.natAbs
  rw [toList_toString_int, toList_toString_int] at h
  split at h
  next =>
    split at h
    next =>
      have := digits_injective (List.cons.inj h).2
      omega
    next =>
      rw [hn] at h
      exact absurd (List.cons.inj h).1.symm hd
  next =>
    split at h
    next =>
      rw [hm] at h
      exact absurd (List.cons.inj h).1 hc
    next =>
      have := digits_injective h
      omega

theorem int64?_unsigned {rest : List Char} (hminus : c ≠ '-') (hplus : c ≠ '+') :
    int64? (c :: rest) = ((natural? (c :: rest)).map Int.ofNat).filter fitsInt64 := by
  simp [int64?, hminus, hplus]

theorem uint32?_unsigned {rest : List Char} (hplus : c ≠ '+') :
    uint32? (c :: rest) =
      ((natural? (c :: rest)).filter (· < 0x100000000)).map UInt32.ofNat := by
  simp [uint32?, hplus]

theorem int64?_toString {n : Int} (h : fitsInt64 n = true) :
    int64? (toString n).toList = some n := by
  have hread := natural?_digits n.natAbs
  rw [toList_toString_int]
  by_cases hn : n < 0
  · have hvalue : -Int.ofNat n.natAbs = n := by
      change -(n.natAbs : Int) = n
      omega
    rw [if_pos hn, int64?, hread, Option.map_some, hvalue, Option.filter_some, if_pos h]
  · obtain ⟨c, rest, hm, hminus, hplus⟩ := digits_eq_cons n.natAbs
    have hvalue : Int.ofNat n.natAbs = n := by
      change (n.natAbs : Int) = n
      omega
    rw [if_neg hn, hm, int64?_unsigned hminus hplus, ← hm, hread, Option.map_some, hvalue,
      Option.filter_some, if_pos h]

theorem uint32?_digits (n : UInt32) : uint32? (Nat.toDigits 10 n.toNat) = some n := by
  have hfits : decide (n.toNat < 0x100000000) = true := decide_eq_true n.toNat_lt
  obtain ⟨c, rest, hm, _, hplus⟩ := digits_eq_cons n.toNat
  rw [hm, uint32?_unsigned hplus, ← hm, natural?_digits, Option.filter_some, if_pos hfits,
    Option.map_some, UInt32.ofNat_toNat]

end PortableSql.Numeral

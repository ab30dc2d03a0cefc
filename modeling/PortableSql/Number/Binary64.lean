namespace PortableSql

/-- A binary64 floating point number, given by its sixty-four bits. -/
structure Binary64 where
  bits : UInt64
deriving DecidableEq, Inhabited

/-- The nearest integer to `num / den`, a tie going to the even one. -/
def roundHalfEven (num den : Nat) : Nat :=
  let whole := num / den
  let rest := num % den
  if den < 2 * rest ∨ (2 * rest = den ∧ whole % 2 = 1) then whole + 1 else whole

namespace Binary64

def isNegative (x : Binary64) : Bool := 0x8000000000000000 ≤ x.bits

def exponentField (x : Binary64) : Nat := x.bits.toNat / 1 <<< 52 % 1 <<< 11

def fractionField (x : Binary64) : Nat := x.bits.toNat % 1 <<< 52

def isFinite (x : Binary64) : Bool := x.exponentField < 2047

def isZero (x : Binary64) : Bool := x.exponentField == 0 && x.fractionField == 0

/-- A finite number is its sign times `significand * 2 ^ scale`. -/
def significand (x : Binary64) : Nat :=
  if x.exponentField = 0 then x.fractionField else x.fractionField + 1 <<< 52

def scale (x : Binary64) : Int := Int.ofNat (max x.exponentField 1) - 1075

/-- The magnitude of a finite number as a quotient of two naturals. -/
def magnitude (x : Binary64) : Nat × Nat :=
  if 0 ≤ x.scale then (x.significand <<< x.scale.toNat, 1)
  else (x.significand, 1 <<< (-x.scale).toNat)

def ofFields (negative : Bool) (magnitudeBits : Nat) : Binary64 :=
  ⟨UInt64.ofNat ((if negative then 1 <<< 63 else 0) + magnitudeBits)⟩

def zero (negative : Bool) : Binary64 := ofFields negative 0

def infinity (negative : Bool) : Binary64 := ofFields negative (2047 <<< 52)

/-- The number nearest to `num / den`, a tie going to the even significand; a quotient beyond the
largest number becomes infinity. -/
def ofRatio (negative : Bool) (num den : Nat) : Binary64 :=
  if num = 0 then zero negative
  else
    let lead := Int.ofNat num.log2 - Int.ofNat den.log2 - 53
    let scaled (q : Int) : Nat × Nat :=
      if 0 ≤ q then (num, den <<< q.toNat) else (num <<< (-q).toNat, den)
    let (n, d) := scaled lead
    let q := max (if n / d < 1 <<< 53 then lead else lead + 1) (-1074)
    let (n, d) := scaled q
    let m := roundHalfEven n d
    if m < 1 <<< 52 then ofFields negative m
    else
      let (m, q) := if m = 1 <<< 53 then (1 <<< 52, q + 1) else (m, q)
      let field := (q + 1075).toNat
      if 2047 ≤ field then infinity negative else ofFields negative (field <<< 52 + (m - 1 <<< 52))

/-- The number nearest to `digits * 10 ^ exponent`. -/
def ofDecimal (negative : Bool) (digits : Nat) (exponent : Int) : Binary64 :=
  let lead := Int.ofNat (Nat.toDigits 10 digits).length + exponent
  if digits = 0 ∨ lead < -330 then zero negative
  else if 310 < lead then infinity negative
  else if 0 ≤ exponent then ofRatio negative (digits * Nat.pow 10 exponent.toNat) 1
  else ofRatio negative digits (Nat.pow 10 (-exponent).toNat)

def ofInt (n : Int) : Binary64 := ofRatio (n < 0) n.natAbs 1

/-- The value of a finite number that is an integer. -/
def toInt? (x : Binary64) : Option Int :=
  if !x.isFinite then none
  else
    let (num, den) := x.magnitude
    if num % den = 0 then some ((if x.isNegative then -1 else 1) * Int.ofNat (num / den)) else none

end Binary64

end PortableSql

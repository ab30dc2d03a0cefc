import PortableSql.Number.Binary64

namespace PortableSql

/-- The number `digits * 10 ^ exponent`. -/
structure Decimal where
  digits : Nat
  exponent : Int
deriving DecidableEq

namespace Decimal

def digitChars (d : Decimal) : List Char := Nat.toDigits 10 d.digits

/-- The exponent of the first digit. -/
def lead (d : Decimal) : Int := Int.ofNat d.digitChars.length + d.exponent - 1

/-- Moves trailing zeros from the digits into the exponent. -/
def strip (d : Decimal) : Decimal :=
  go d.digits.log2 d
where
  go : Nat → Decimal → Decimal
    | 0, d => d
    | fuel + 1, d =>
      if d.digits ≠ 0 ∧ d.digits % 10 = 0 then go fuel ⟨d.digits / 10, d.exponent + 1⟩ else d

/-- The least `k ≤ 0` with `num / den < 10 ^ k`, where `num < den`, searched for downwards. -/
def smallOrder (num den : Nat) : Nat → Int → Int
  | 0, k => k
  | fuel + 1, k => if num * 10 < den then smallOrder (num * 10) den fuel (k - 1) else k

/-- The least `k` with `num / den < 10 ^ k`. -/
def order (num den : Nat) : Int :=
  if num < den then smallOrder num den 400 0
  else Int.ofNat (Nat.toDigits 10 (num / den)).length

/-- `num / den` in units of `10 ^ grid`, as a quotient. -/
def inUnits (num den : Nat) (grid : Int) : Nat × Nat :=
  if 0 ≤ grid then (num, den * Nat.pow 10 grid.toNat) else (num * Nat.pow 10 (-grid).toNat, den)

/-- The nearest integer to `num / den`, a tie going up. -/
def roundHalfUp (num den : Nat) : Nat := (2 * num + den) / (2 * den)

/-- `num / den` rounded to `places` significant digits, a tie going up. -/
def rounded (num den places : Nat) : Decimal :=
  if num = 0 then ⟨0, 0⟩
  else
    let grid := order num den - Int.ofNat places
    let (n, d) := inUnits num den grid
    strip ⟨roundHalfUp n d, grid⟩

/-- The open or closed interval of numbers that read back as one binary64 number, with the number
itself, all as numerators over one denominator. -/
structure Interval where
  low : Nat
  value : Nat
  high : Nat
  den : Nat
  closed : Bool

namespace Interval

def ofBinary (x : Binary64) : Interval :=
  let m := x.significand
  let narrow := x.fractionField = 0 ∧ 1 < x.exponentField
  let low := if narrow then 4 * m - 1 else 4 * m - 2
  let (up, den) :=
    if 2 ≤ x.scale then (1 <<< (x.scale - 2).toNat, 1) else (1, 1 <<< (2 - x.scale).toNat)
  ⟨low * up, 4 * m * up, (4 * m + 2) * up, den, m % 2 = 0⟩

/-- Whether the number of `count` grid units lies in the interval. -/
def accepts (i : Interval) (count : Nat) (grid : Int) : Bool :=
  let (lowNum, lowDen) := inUnits i.low i.den grid
  let (highNum, highDen) := inUnits i.high i.den grid
  if i.closed then lowNum ≤ count * lowDen && count * highDen ≤ highNum
  else lowNum < count * lowDen && count * highDen < highNum

/-- The multiple of `10 ^ grid` nearest to the value among the two neighbours that read back. -/
def nearest? (i : Interval) (grid : Int) : Option Decimal :=
  let (num, den) := inUnits i.value i.den grid
  let below := num / den
  match i.accepts below grid, i.accepts (below + 1) grid with
  | true, true => some ⟨roundHalfEven num den, grid⟩
  | true, false => some ⟨below, grid⟩
  | false, true => some ⟨below + 1, grid⟩
  | false, false => none

end Interval

/-- The decimal with the fewest digits that reads back as the finite number `x`, up to the sign; of
several the nearest. -/
def shortest (x : Binary64) : Decimal :=
  if x.isZero then ⟨0, 0⟩
  else
    let i := Interval.ofBinary x
    let k := order i.value i.den
    let grids := (List.range 17).map fun n => k - Int.ofNat (n + 1)
    match grids.findSome? i.nearest? with
    | some d => d.strip
    | none => rounded i.value i.den 17

end Decimal

end PortableSql

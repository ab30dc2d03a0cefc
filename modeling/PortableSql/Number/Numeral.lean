import PortableSql.Number.Binary64

namespace PortableSql

/-- Integers of sixty-four bits, signed. -/
def fitsInt64 (n : Int) : Bool := -0x8000000000000000 ≤ n && n < 0x8000000000000000

/-- Integers of sixty-four bits, unsigned. -/
def fitsUInt64 (n : Int) : Bool := 0 ≤ n && n < 0x10000000000000000

namespace Numeral

def digitsValue (digits : List Char) : Nat :=
  digits.foldl (fun n c => 10 * n + (c.toNat - 48)) 0

def natural? (text : List Char) : Option Nat :=
  if text.isEmpty || !text.all Char.isDigit then none else some (digitsValue text)

/-- Digits after an optional sign, within the signed sixty-four bits. -/
def int64? (text : List Char) : Option Int :=
  let value? :=
    match text with
    | '-' :: rest => (natural? rest).map fun n => -Int.ofNat n
    | '+' :: rest => (natural? rest).map Int.ofNat
    | rest => (natural? rest).map Int.ofNat
  value?.filter fitsInt64

/-- Digits after an optional plus sign, within the unsigned thirty-two bits. -/
def uint32? (text : List Char) : Option UInt32 :=
  let value? :=
    match text with
    | '+' :: rest => natural? rest
    | rest => natural? rest
  (value?.filter (· < 0x100000000)).map UInt32.ofNat

/-- A decimal numeral without sign: its digits read as one integer, and the power of ten. -/
structure Parts where
  digits : Nat
  exponent : Int

/-- The signed exponent after `e` or `E`, if one is written; `none` if it has no digits. -/
def exponent? : List Char → Option (Int × List Char)
  | c :: rest =>
    if c = 'e' ∨ c = 'E' then
      let (negative, rest) :=
        match rest with
        | '-' :: more => (true, more)
        | '+' :: more => (false, more)
        | more => (false, more)
      let digits := rest.takeWhile Char.isDigit
      if digits.isEmpty then none
      else
        let size := Int.ofNat (digitsValue digits)
        some (if negative then -size else size, rest.dropWhile Char.isDigit)
    else some (0, c :: rest)
  | [] => some (0, [])

/-- Digits with an optional point, on at least one side of which there is a digit, and an optional
exponent, up to the end of the text. -/
def unsigned? (text : List Char) : Option Parts :=
  let whole := text.takeWhile Char.isDigit
  let (fraction, rest) :=
    match text.dropWhile Char.isDigit with
    | '.' :: more => (more.takeWhile Char.isDigit, more.dropWhile Char.isDigit)
    | more => ([], more)
  if whole.isEmpty && fraction.isEmpty then none
  else
    match exponent? rest with
    | some (e, []) => some ⟨digitsValue (whole ++ fraction), e - Int.ofNat fraction.length⟩
    | _ => none

def signed? (text : List Char) : Option (Bool × Parts) :=
  match text with
  | '-' :: rest => (unsigned? rest).map (true, ·)
  | '+' :: rest => (unsigned? rest).map (false, ·)
  | rest => (unsigned? rest).map (false, ·)

/-- The number nearest to a decimal numeral, where that is finite. -/
def real? (text : List Char) : Option Binary64 :=
  match signed? text with
  | some (negative, parts) =>
    (some (Binary64.ofDecimal negative parts.digits parts.exponent)).filter Binary64.isFinite
  | none => none

end Numeral

end PortableSql

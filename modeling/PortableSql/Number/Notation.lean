import PortableSql.Number.Decimal

namespace PortableSql

/-- How a decimal is laid out: the exponents written positionally, and the form of the exponent
in the other notation. -/
structure Notation where
  /-- Exponents of the first digit from `least` to `greatest` are written positionally. -/
  least : Int
  greatest : Int
  plusSign : Bool
  exponentWidth : Nat
  /-- Whether a single digit before an exponent is followed by `.0`. -/
  pointBeforeExponent : Bool

namespace Notation

def zeros (n : Nat) : List Char := List.replicate n '0'

def positional (d : Decimal) : List Char :=
  let digits := d.digitChars
  if 0 ≤ d.exponent then digits ++ zeros d.exponent.toNat ++ ['.', '0']
  else
    let after := (-d.exponent).toNat
    if digits.length ≤ after then ['0', '.'] ++ zeros (after - digits.length) ++ digits
    else digits.take (digits.length - after) ++ '.' :: digits.drop (digits.length - after)

def exponential (n : Notation) (d : Decimal) : List Char :=
  let mantissa :=
    match d.digitChars with
    | [c] => if n.pointBeforeExponent then [c, '.', '0'] else [c]
    | c :: rest => c :: '.' :: rest
    | [] => []
  let sign := if d.lead < 0 then ['-'] else if n.plusSign then ['+'] else []
  let size := Nat.toDigits 10 d.lead.natAbs
  mantissa ++ 'e' :: sign ++ zeros (n.exponentWidth - size.length) ++ size

def render (n : Notation) (negative : Bool) (d : Decimal) : String :=
  let body :=
    if n.least ≤ d.lead ∧ d.lead ≤ n.greatest then positional d else n.exponential d
  String.ofList (if negative then '-' :: body else body)

end Notation

end PortableSql

import PortableSql.Number.Notation
import PortableSql.Number.Numeral
import PortableSql.Store.Value
import PortableSql.Text.Chars

namespace PortableSql.Store

/-- Fifteen digits, positional while the first has an exponent from -4 to 14. -/
def realNotation : Notation := ⟨-4, 14, true, 2, true⟩

/-- The text into which a column of texts turns a real number. -/
def realText (x : Binary64) : String :=
  if x.isFinite then
    let (num, den) := x.magnitude
    realNotation.render (x.isNegative && !x.isZero) (Decimal.rounded num den 15)
  else if x.isNegative then "-Inf" else "Inf"

/-- The integer that a real number equals, if it lies strictly inside sixty-four bits. -/
def tighten (x : Binary64) : Value :=
  match x.toInt? with
  | some n => if fitsInt64 n && n != -0x8000000000000000 then .int n else .real x
  | none => .real x

def isSpace (c : Char) : Bool := c = ' ' || ('\x09' ≤ c && c ≤ '\x0d')

/-- The number that a text is from end to end, apart from spaces around it. Digits alone are an
integer if sixty-four bits hold it. -/
def number? (bytes : Bytes) : Option Value :=
  let text := bytes.map fun b => Char.ofNat b.toNat
  let text := ((text.dropWhile isSpace).reverse.dropWhile isSpace).reverse
  match Numeral.signed? text with
  | none => none
  | some (negative, parts) =>
    let x := Binary64.ofDecimal negative parts.digits parts.exponent
    if text.any fun c => c = '.' || c = 'e' || c = 'E' then some (tighten x)
    else
      let n := if negative then -Int.ofNat parts.digits else Int.ofNat parts.digits
      some (if fitsInt64 n then .int n else .real x)

/-- What a column prefers its values to be. -/
inductive Affinity where
  | integer
  | text
  | blob
  | real
  | numeric
deriving DecidableEq, Repr

namespace Affinity

/-- The first rule that fits the declared type decides. -/
def ofType (type : String) : Affinity :=
  let lower := Chars.asciiLower type.toList
  let has (mark : String) : Bool := Chars.includes mark.toList lower
  if has "int" then integer
  else if has "char" || has "clob" || has "text" then text
  else if has "blob" || lower.isEmpty then blob
  else if has "real" || has "floa" || has "doub" then real
  else numeric

/-- The real number that a value of a column of reals is kept as; zero has no sign there. -/
def toReal : Value → Value
  | .int n => .real (Binary64.ofInt n)
  | .real x => if x.isZero then .real (Binary64.zero false) else .real x
  | v => v

/-- The value as a column keeps it. -/
def apply (a : Affinity) (v : Value) : Value :=
  match a, v with
  | text, .int n => .ofText (toString n)
  | text, .real x => .ofText (realText x)
  | integer, .text bytes | numeric, .text bytes => (number? bytes).getD v
  | integer, .real x | numeric, .real x => tighten x
  | real, .text bytes => toReal ((number? bytes).getD v)
  | real, v => toReal v
  | _, v => v

end Affinity

end PortableSql.Store

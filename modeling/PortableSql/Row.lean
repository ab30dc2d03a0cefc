import PortableSql.Json.Printer
import PortableSql.Text.Blank
import PortableSql.Text.Chars

namespace PortableSql

/-- A result row: its columns in result order. Names may repeat and are looked up without regard
to the case of ASCII letters. -/
abbrev Row := List (String × Json)

namespace Row

def find? (row : Row) (name : String) : Option Json :=
  match List.find? (fun entry => sameIgnoringCase entry.1 name) row with
  | some (_, value) => some value
  | none => none

/-- The named value as text, unless it is null. -/
def text? (row : Row) (name : String) : Option String :=
  match row.find? name with
  | none => none
  | some .null => none
  | some (.str s) => some s
  | some value => some value.render

/-- The named value as a text that is not empty. -/
def filledText? (row : Row) (name : String) : Option String :=
  (row.text? name).filter (· != "")

/-- The named value as an integer, read from text where it is text. -/
def int? (row : Row) (name : String) : Option Int :=
  match row.find? name with
  | some (.int n) => if fitsInt64 n then some n else none
  | some (.bool b) => some (if b then 1 else 0)
  | some (.str s) => Numeral.int64? (Chars.trim s.toList)
  | _ => none

def uint32? (row : Row) (name : String) : Option UInt32 :=
  match row.int? name with
  | some n => if 0 ≤ n ∧ n < 0x100000000 then some (UInt32.ofNat n.toNat) else none
  | none => none

/-- The words that count as true, in lower case. -/
def trueWords : List (List Char) :=
  [['1'], ['t'], ['t', 'r', 'u', 'e'], ['y', 'e', 's'], ['y']]

/-- Whether the named value is true, a number other than zero, or a word for true. -/
def isTrue (row : Row) (name : String) : Bool :=
  match row.find? name with
  | some (.bool b) => b
  | some (.int n) => n != 0
  | some (.float x) => !x.isZero
  | some (.str s) => trueWords.contains (Chars.asciiLower (Chars.trim s.toList))
  | _ => false

end Row

end PortableSql

import PortableSql.Number.Numeral
import PortableSql.Table.Basic
import PortableSql.Text.Blank
import PortableSql.Text.Chars

namespace PortableSql

/-- A native type text in parts: its words, its two arguments and its sign. -/
structure NativeType where
  base : String
  length : Option UInt32
  precision : Option UInt32
  unsigned : Bool
deriving DecidableEq, Repr

namespace NativeType

/-- The text around the outermost parentheses, and the text in them. -/
def cutArguments (text : List Char) : List Char × Option (List Char) :=
  match Chars.cutFirst '(' text with
  | none => (text, none)
  | some (before, rest) =>
    match Chars.cutLast ')' rest with
    | none => (text, none)
    | some (inside, after) => (before ++ ' ' :: after, some inside)

/-- Words that qualify a type without naming it. -/
def modifierWords : List (List Char) :=
  ["unsigned".toList, "signed".toList, "zerofill".toList]

def numbers (arguments : Option (List Char)) : List (Option UInt32) :=
  match arguments with
  | none => []
  | some text => (Chars.splitOn ',' text).map fun part => Numeral.uint32? (Chars.trim part)

def ofText (text : String) : NativeType :=
  let (outside, arguments) := cutArguments (Chars.lower (Chars.trim text.toList))
  let words := Chars.words outside
  let base := [' '].intercalate (words.filter (!modifierWords.contains ·))
  { base := String.ofList base
    length := (numbers arguments)[0]?.join
    precision := (numbers arguments)[1]?.join
    unsigned := words.contains "unsigned".toList }

end NativeType

/-- What a native type name stands for. -/
structure TypeRule where
  name : String
  type : ColumnType
  fixed : Bool := false
  /-- The length that the name itself gives. -/
  impliedLength : Option UInt32 := none

namespace NativeType

/-- The type, the fixed width and the length that a name stands for. A name without a rule is a
string if it speaks of characters, and a text otherwise. -/
def meaning (rules : List TypeRule) (base : String) : ColumnType × Bool × Option UInt32 :=
  match rules.find? (·.name == base) with
  | some rule => (rule.type, rule.fixed, rule.impliedLength)
  | none =>
    if Chars.includes "char".toList base.toList then (.string, false, none)
    else (.text, false, none)

/-- Fixed strings of thirty-six characters hold identifiers where there is no type for these. -/
def charsToUuid (column : Column) : Column :=
  if column.type = .string ∧ column.fixed ∧ column.length = some 36 then
    { column with type := .uuid, fixed := false, length := none }
  else column

/-- The column that a native type text describes. -/
def toColumn (rules : List TypeRule) (uuidFromChars : Bool) (text : String) : Column :=
  let native := ofText text
  let (type, fixed, implied) := meaning rules native.base
  let column : Column := { Column.ofType type with unsigned := native.unsigned }
  let column : Column :=
    match type with
    | .string | .binary => { column with length := native.length.or implied, fixed }
    | .text => { column with length := implied }
    | .decimal => { column with length := native.length, precision := native.precision }
    | .float => { column with precision := native.length }
    | _ => column
  if uuidFromChars then charsToUuid column else column

end NativeType

end PortableSql

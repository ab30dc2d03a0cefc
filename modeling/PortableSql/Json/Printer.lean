import PortableSql.Json.Basic
import PortableSql.Number.Notation

namespace PortableSql.Json

/-- Numbers with an exponent from -5 to 15 are positional, others have a signed exponent. -/
def numberNotation : Notation := ⟨-5, 15, true, 0, false⟩

def floatText (x : Binary64) : String :=
  numberNotation.render x.isNegative (Decimal.shortest x)

def hexDigit (n : Nat) : Char := (Nat.digitChar n)

/-- A character inside a string: only quotes, backslashes and controls are escaped. -/
def escapeChar (c : Char) : List Char :=
  if c = '"' then ['\\', '"']
  else if c = '\\' then ['\\', '\\']
  else if c = '\x08' then ['\\', 'b']
  else if c = '\x0C' then ['\\', 'f']
  else if c = '\n' then ['\\', 'n']
  else if c = '\r' then ['\\', 'r']
  else if c = '\t' then ['\\', 't']
  else if c.toNat < 0x20 then
    ['\\', 'u', '0', '0', hexDigit (c.toNat / 16), hexDigit (c.toNat % 16)]
  else [c]

def quoteText (s : String) : String :=
  String.ofList ('"' :: s.toList.flatMap escapeChar ++ ['"'])

mutual

/-- The compact text of a value. -/
def render : Json → String
  | .null => "null"
  | .bool b => if b then "true" else "false"
  | .int n => toString n
  | .float x => floatText x
  | .str s => quoteText s
  | .arr items => "[" ++ renderItems items ++ "]"
  | .obj fields => "\x7b" ++ renderFields fields ++ "\x7d"

def renderItems : List Json → String
  | [] => ""
  | [item] => render item
  | item :: items => render item ++ "," ++ renderItems items

def renderFields : List (String × Json) → String
  | [] => ""
  | [(name, value)] => quoteText name ++ ":" ++ render value
  | (name, value) :: fields => quoteText name ++ ":" ++ render value ++ "," ++ renderFields fields

end

end PortableSql.Json

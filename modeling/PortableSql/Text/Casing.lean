import PortableSql.Text.CaseTable

namespace PortableSql.Chars

open PortableSql.Text

def mapped (runs : Array CaseRun) (expansions : Array (Nat × List Nat)) (c : Char) :
    List Char :=
  match runs.find? (·.contains c.toNat) with
  | some run => [run.shift c.toNat]
  | none =>
    match expansions.find? (·.1 == c.toNat) with
    | some (_, expansion) => expansion.map Char.ofNat
    | none => [c]

/-- The upper case of one character, which may be several characters. -/
def upperChar (c : Char) : List Char :=
  if c.toNat < 0x80 then [c.toUpper] else mapped upperRuns upperExpansions c

/-- The lower case of one character on its own. -/
def lowerChar (c : Char) : List Char :=
  if c.toNat < 0x80 then [c.toLower] else mapped lowerRuns lowerExpansions c

def upper (text : List Char) : List Char := text.flatMap upperChar

/-- Whether the nearest character that is not case-ignorable has case. -/
def casedNeighbour : List Char → Bool
  | [] => false
  | c :: rest =>
    if caseIgnorable.contains c then casedNeighbour rest else casedCharacters.contains c

def lowerAfter (before : List Char) : List Char → List Char
  | [] => []
  | c :: rest =>
    let image :=
      if c = 'Σ' then
        if casedNeighbour before && !casedNeighbour rest then ['ς'] else ['σ']
      else lowerChar c
    image ++ lowerAfter (c :: before) rest

/-- Lower case of a text; a capital sigma that ends a word becomes a final sigma. -/
def lower (text : List Char) : List Char := lowerAfter [] text

end PortableSql.Chars

namespace PortableSql

def upperCase (text : String) : String := String.ofList (Chars.upper text.toList)

def lowerCase (text : String) : String := String.ofList (Chars.lower text.toList)

end PortableSql

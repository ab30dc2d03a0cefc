namespace PortableSql.Chars

/-- The text before and after the first `c`. -/
def cutFirst (c : Char) : List Char → Option (List Char × List Char)
  | [] => none
  | x :: xs =>
    if x = c then some ([], xs)
    else (cutFirst c xs).map fun (before, after) => (x :: before, after)

/-- The text before and after the last `c`. -/
def cutLast (c : Char) : List Char → Option (List Char × List Char)
  | [] => none
  | x :: xs =>
    match cutLast c xs with
    | some (before, after) => some (x :: before, after)
    | none => if x = c then some ([], xs) else none

/-- The text before and after the last occurrence of a two-character mark. -/
def cutLastPair (c d : Char) : List Char → Option (List Char × List Char)
  | [] => none
  | x :: xs =>
    match cutLastPair c d xs with
    | some (before, after) => some (x :: before, after)
    | none =>
      match xs with
      | y :: rest => if x = c ∧ y = d then some ([], rest) else none
      | [] => none

def stripStart? (mark : List Char) : List Char → Option (List Char) :=
  fun text =>
    match mark, text with
    | [], rest => some rest
    | _ :: _, [] => none
    | m :: ms, x :: xs => if m = x then stripStart? ms xs else none

def stripEnd? (mark text : List Char) : Option (List Char) :=
  (stripStart? mark.reverse text.reverse).map List.reverse

def startsWith (mark text : List Char) : Bool := mark.isPrefixOf text

def endsWith (mark text : List Char) : Bool := mark.isSuffixOf text

def includes (mark : List Char) : List Char → Bool
  | [] => mark.isEmpty
  | x :: xs => startsWith mark (x :: xs) || includes mark xs

/-- The text before and after the first occurrence of `mark`. -/
def cutFirstMark (mark : List Char) : List Char → Option (List Char × List Char)
  | [] => (stripStart? mark []).map fun rest => ([], rest)
  | x :: xs =>
    match stripStart? mark (x :: xs) with
    | some rest => some ([], rest)
    | none => (cutFirstMark mark xs).map fun (before, after) => (x :: before, after)

/-- The pieces between the occurrences of `c`; there is always at least one. -/
def splitOn (c : Char) : List Char → List (List Char)
  | [] => [[]]
  | x :: xs =>
    if x = c then [] :: splitOn c xs
    else
      match splitOn c xs with
      | [] => [[x]]
      | piece :: pieces => (x :: piece) :: pieces

/-- Every `c` written twice. -/
def double (c : Char) : List Char → List Char
  | [] => []
  | x :: xs => if x = c then c :: c :: double c xs else x :: double c xs

/-- Every two adjacent `c` read as one, from the left. -/
def halve (c : Char) : List Char → List Char
  | x :: y :: rest => if x = c ∧ y = c then c :: halve c rest else x :: halve c (y :: rest)
  | rest => rest

/-- The text without the `c` at either end. -/
def stripAround (c : Char) (text : List Char) : List Char :=
  ((text.dropWhile (· == c)).reverse.dropWhile (· == c)).reverse

def asciiLower (text : List Char) : List Char := text.map Char.toLower

end PortableSql.Chars

namespace PortableSql

/-- Equality up to the case of ASCII letters. -/
def sameIgnoringCase (a b : String) : Bool :=
  Chars.asciiLower a.toList == Chars.asciiLower b.toList

/-- The items with a comma and a space between them. -/
def commaSeparated (items : List String) : String := String.intercalate ", " items

end PortableSql

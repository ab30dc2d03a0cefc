namespace PortableSql.Chars

/-- The white space of all scripts: twenty-five characters. -/
def isBlank (c : Char) : Bool :=
  let n := c.toNat
  (0x09 ≤ n && n ≤ 0x0D) || n == 0x20 || n == 0x85 || n == 0xA0 || n == 0x1680 ||
    (0x2000 ≤ n && n ≤ 0x200A) || n == 0x2028 || n == 0x2029 || n == 0x202F || n == 0x205F ||
    n == 0x3000

def trimStart (text : List Char) : List Char := text.dropWhile isBlank

def trimEnd (text : List Char) : List Char := (text.reverse.dropWhile isBlank).reverse

def trim (text : List Char) : List Char := trimEnd (trimStart text)

/-- Puts a character in front of the word that `words` found at the start of the rest. -/
def extendWord (c : Char) (next : List Char) (found : List (List Char)) :
    List (List Char) :=
  match next, found with
  | d :: _, word :: others => if isBlank d then [c] :: word :: others else (c :: word) :: others
  | _, found => [c] :: found

/-- The maximal runs of characters that are not blank. -/
def words : List Char → List (List Char)
  | [] => []
  | c :: rest => if isBlank c then words rest else extendWord c rest (words rest)

end PortableSql.Chars

namespace PortableSql

def trimmed (text : String) : String := String.ofList (Chars.trim text.toList)

end PortableSql

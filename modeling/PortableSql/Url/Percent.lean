import PortableSql.Json.Parser
import PortableSql.Text.Utf8

namespace PortableSql.Percent

def hexDigit (n : Nat) : Char := if n < 10 then Char.ofNat (48 + n) else Char.ofNat (55 + n)

def encodeByte (b : UInt8) : List Char :=
  ['%', hexDigit (b.toNat / 16), hexDigit (b.toNat % 16)]

def charBytes (c : Char) : Bytes := Bytes.ofText (String.singleton c)

/-- Controls and everything beyond ASCII. -/
def isControl (c : Char) : Bool := c.toNat < 0x20 || 0x7F ≤ c.toNat

def inFragment (c : Char) : Bool := isControl c || [' ', '"', '<', '>', '\x60'].contains c

def inPath (c : Char) : Bool := inFragment c || ['#', '?', '\x7b', '\x7d'].contains c

def inUserInfo (c : Char) : Bool :=
  inPath c || ['/', ':', ';', '=', '@', '[', '\\', ']', '^', '|'].contains c

def inQuery (c : Char) : Bool := isControl c || [' ', '"', '#', '<', '>'].contains c

/-- The text with the bytes of the chosen characters as a percent sign and two digits. -/
def encode (chosen : Char → Bool) (text : List Char) : List Char :=
  text.flatMap fun c => if chosen c then (charBytes c).flatMap encodeByte else [c]

/-- The bytes of a text in which a percent sign and two hexadecimal digits are one byte. -/
def decode : List Char → Bytes
  | '%' :: a :: b :: rest =>
    match Json.Parser.hexValue? a, Json.Parser.hexValue? b with
    | some x, some y => UInt8.ofNat (16 * x + y) :: decode rest
    | _, _ => charBytes '%' ++ decode (a :: b :: rest)
  | c :: rest => charBytes c ++ decode rest
  | [] => []

end PortableSql.Percent

import PortableSql.Text.Chars
import PortableSql.Url.Library
import PortableSql.Url.Percent

namespace PortableSql.Form

def isPlain (c : Char) : Bool := c.isAlphanum || ['*', '-', '.', '_'].contains c

def encodeChar (c : Char) : List Char :=
  if isPlain c then [c]
  else if c = ' ' then ['+']
  else (Percent.charBytes c).flatMap Percent.encodeByte

def encodeText (text : String) : List Char := text.toList.flatMap encodeChar

def decodeText (text : List Char) : String :=
  String.ofList (Percent.decode (text.map fun c => if c = '+' then ' ' else c)).lossy

def encodePair (pair : Pair) : List Char := encodeText pair.1 ++ '=' :: encodeText pair.2

/-- The text of a list of pairs. -/
def encode (pairs : List Pair) : List Char := ['&'].intercalate (pairs.map encodePair)

def decodePair (text : List Char) : Pair :=
  match Chars.cutFirst '=' text with
  | some (name, value) => (decodeText name, decodeText value)
  | none => (decodeText text, "")

/-- The pairs of a text; empty pieces are none. -/
def decode (text : List Char) : List Pair :=
  ((Chars.splitOn '&' text).filter (!·.isEmpty)).map decodePair

end PortableSql.Form

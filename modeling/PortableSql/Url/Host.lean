import PortableSql.Number.Numeral
import PortableSql.Text.Chars
import PortableSql.Url.Percent

namespace PortableSql

/-- Why a text is not a URL. -/
inductive UrlFault where
  | relative
  | emptyHost
  | port
  | ipv6
  | hostCharacter
  | domain
deriving DecidableEq, Repr

def UrlFault.message : UrlFault → String
  | relative => "relative URL without a base"
  | emptyHost => "empty host"
  | port => "invalid port number"
  | ipv6 => "invalid IPv6 address"
  | hostCharacter => "invalid domain character"
  | domain => "invalid international domain name"

/-- An IPv6 address as its eight pieces. -/
abbrev Ipv6 := List Nat

namespace Ipv6

/-- The pieces read so far, in reverse, and how many of them stand before a double colon. -/
structure Progress where
  pieces : List Nat := []
  gap : Option Nat := none

/-- One number of a dotted address, of at most three digits and without leading zeros. -/
def dottedNumber? (text : List Char) : Option Nat :=
  match text with
  | '0' :: _ :: _ => none
  | _ => (Numeral.natural? text).filter (· ≤ 255)

/-- A dotted address as two pieces. -/
def dotted? (text : List Char) : Option (Nat × Nat) :=
  match (Chars.splitOn '.' text).mapM dottedNumber? with
  | some [a, b, c, d] => some (a * 256 + b, c * 256 + d)
  | _ => none

def hexNumber (digits : List Char) : Nat :=
  digits.foldl (fun n c => 16 * n + (Json.Parser.hexValue? c).getD 0) 0

def isHex (c : Char) : Bool := (Json.Parser.hexValue? c).isSome

/-- Reads the pieces from the start of a piece on. -/
def pieces? : Nat → Progress → List Char → Option Progress
  | 0, _, _ => none
  | _, p, [] => some p
  | fuel + 1, p, ':' :: rest =>
    if p.gap.isSome || p.pieces.length = 8 then none
    else pieces? fuel { p with gap := some p.pieces.length } rest
  | fuel + 1, p, text =>
    if p.pieces.length = 8 then none
    else
      let digits := (text.take 4).takeWhile isHex
      match text.drop digits.length with
      | [] => some { p with pieces := hexNumber digits :: p.pieces }
      | '.' :: _ =>
        if digits.isEmpty || 6 < p.pieces.length then none
        else (dotted? text).map fun (a, b) => { p with pieces := b :: a :: p.pieces }
      | ':' :: rest =>
        if rest.isEmpty then none
        else pieces? fuel { p with pieces := hexNumber digits :: p.pieces } rest
      | _ => none

/-- The eight pieces, with zeros where the double colon stands. -/
def complete? (p : Progress) : Option Ipv6 :=
  let pieces := p.pieces.reverse
  match p.gap with
  | none => if pieces.length = 8 then some pieces else none
  | some n =>
    if pieces.length < 8 then
      some (pieces.take n ++ List.replicate (8 - pieces.length) 0 ++ pieces.drop n)
    else none

def read? (text : List Char) : Option Ipv6 :=
  let start : Option (Progress × List Char) :=
    match text with
    | ':' :: ':' :: rest => some ({ gap := some 0 }, rest)
    | ':' :: _ => none
    | _ :: _ :: _ => some ({}, text)
    | _ => none
  start.bind fun (p, rest) => (pieces? (text.length + 1) p rest).bind complete?

/-- How many zeros the list begins with. -/
def zeroRun (pieces : Ipv6) : Nat := (pieces.takeWhile (· == 0)).length

/-- The start and the length of the longest run of zeros, the first of several. -/
def longestZeroRun (pieces : Ipv6) : Nat × Nat :=
  (List.range pieces.length).foldl
    (fun best i =>
      let n := zeroRun (pieces.drop i)
      if best.2 < n then (i, n) else best)
    (0, 0)

def joined (pieces : Ipv6) : List Char :=
  [':'].intercalate (pieces.map (Nat.toDigits 16))

/-- The text of an address, where a run of two or more zeros is a double colon. -/
def text (pieces : Ipv6) : List Char :=
  let (start, length) := longestZeroRun pieces
  if length < 2 then joined pieces
  else joined (pieces.take start) ++ [':', ':'] ++ joined (pieces.drop (start + length))

end Ipv6

inductive Host where
  | name (text : List Char)
  | address (pieces : Ipv6)

namespace Host

def isEmpty : Host → Bool
  | name [] => true
  | _ => false

def text : Host → List Char
  | name text => text
  | address pieces => '[' :: pieces.text ++ [']']

def opaqueForbidden : List Char :=
  ['\x00', '\t', '\n', '\r', ' ', '#', '/', ':', '<', '>', '?', '@', '[', '\\', ']', '^', '|']

def domainForbidden : List Char :=
  ['%', '#', '/', ':', '<', '>', '?', '@', '[', '\\', ']', '^', '|', ' ', '\x7f']

def bracketed (inner : List Char) : Except UrlFault Host :=
  match Chars.stripEnd? [']'] inner with
  | none => .error .ipv6
  | some text =>
    match Ipv6.read? text with
    | some pieces => .ok (address pieces)
    | none => .error .ipv6

/-- The host of a scheme that gives hosts no meaning. -/
def readOpaque : List Char → Except UrlFault Host
  | '[' :: inner => bracketed inner
  | text =>
    if text.any opaqueForbidden.contains then .error .hostCharacter
    else .ok (name (Percent.encode Percent.isControl text))

/-- The host of a scheme whose hosts are domains. -/
def readDomain : List Char → Except UrlFault Host
  | '[' :: inner => bracketed inner
  | text =>
    let domain := Chars.asciiLower (Percent.decode text).lossy
    if domain.any fun c => domainForbidden.contains c || c.toNat < 0x20 then .error .domain
    else if domain.isEmpty then .error .emptyHost
    else .ok (name domain)

end Host

end PortableSql

namespace PortableSql

abbrev Bytes := List UInt8

namespace Bytes

def alphabet : List Char :=
  "ABCDEFGHIJKLMNOPQRSTUVWXYZabcdefghijklmnopqrstuvwxyz0123456789+/".toList

def sextet (n : Nat) : Char := alphabet.getD (n % 64) '='

/-- Three bytes make four characters of the alphabet, and the last group is padded. -/
def base64 : Bytes → List Char
  | a :: b :: c :: rest =>
    let n := a.toNat * 65536 + b.toNat * 256 + c.toNat
    sextet (n / 262144) :: sextet (n / 4096) :: sextet (n / 64) :: sextet n :: base64 rest
  | [a, b] =>
    let n := a.toNat * 1024 + b.toNat * 4
    [sextet (n / 4096), sextet (n / 64), sextet n, '=']
  | [a] =>
    let n := a.toNat * 16
    [sextet (n / 64), sextet n, '=', '=']
  | [] => []

def text? (bytes : Bytes) : Option String := String.fromUTF8? ⟨bytes.toArray⟩

def ofText (s : String) : Bytes := s.toUTF8.toList

/-- The text that the bytes encode, or else their base64 form. -/
def readable (bytes : Bytes) : String :=
  match bytes.text? with
  | some s => s
  | none => String.ofList bytes.base64

end Bytes

end PortableSql

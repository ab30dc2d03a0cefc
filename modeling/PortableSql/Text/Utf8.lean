import PortableSql.Text.Bytes

namespace PortableSql.Bytes

def isContinuation (b : UInt8) : Bool := 0x80 ≤ b && b < 0xC0

/-- The second bytes that may follow the first byte of a longer sequence. -/
def isSecond (first second : UInt8) : Bool :=
  isContinuation second &&
    (first != 0xE0 || 0xA0 ≤ second) && (first != 0xED || second < 0xA0) &&
    (first != 0xF0 || 0x90 ≤ second) && (first != 0xF4 || second < 0x90)

/-- How many bytes a sequence has that starts with the given byte, if one can. -/
def sequenceLength (first : UInt8) : Nat :=
  if first < 0x80 then 1
  else if 0xC2 ≤ first && first < 0xE0 then 2
  else if 0xE0 ≤ first && first < 0xF0 then 3
  else if 0xF0 ≤ first && first < 0xF5 then 4
  else 0

def low (b : UInt8) : Nat := b.toNat % 64

def replacement : Char := Char.ofNat 0xFFFD

/-- The first character of bytes that start with `first`, and how many bytes after `first` belong to
it. Bytes that begin a sequence without ending it are one replacement character. -/
def step (first : UInt8) (rest : Bytes) : Char × Nat :=
  let n := first.toNat
  match sequenceLength first, rest with
  | 1, _ => (Char.ofNat n, 0)
  | 2, b :: _ =>
    if isSecond first b then (Char.ofNat (n % 32 * 64 + low b), 1) else (replacement, 0)
  | 3, b :: more =>
    if !isSecond first b then (replacement, 0)
    else
      match more with
      | c :: _ =>
        if isContinuation c then (Char.ofNat (n % 16 * 4096 + low b * 64 + low c), 2)
        else (replacement, 1)
      | [] => (replacement, 1)
  | 4, b :: more =>
    if !isSecond first b then (replacement, 0)
    else
      match more with
      | c :: more =>
        if !isContinuation c then (replacement, 1)
        else
          match more with
          | d :: _ =>
            if isContinuation d then
              (Char.ofNat (n % 8 * 262144 + low b * 4096 + low c * 64 + low d), 3)
            else (replacement, 2)
          | [] => (replacement, 2)
      | [] => (replacement, 1)
  | _, _ => (replacement, 0)

def lossyWithin : Nat → Bytes → List Char
  | 0, _ => []
  | _, [] => []
  | fuel + 1, first :: rest =>
    let (c, taken) := step first rest
    c :: lossyWithin fuel (rest.drop taken)

/-- The text that the bytes encode, with a replacement character for what encodes nothing. -/
def lossy (bytes : Bytes) : List Char := lossyWithin bytes.length bytes

end PortableSql.Bytes

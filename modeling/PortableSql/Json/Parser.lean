import PortableSql.Json.Basic

namespace PortableSql.Json.Parser

def isSpace (c : Char) : Bool := c == ' ' || c == '\n' || c == '\r' || c == '\t'

def skipSpace (text : List Char) : List Char := text.dropWhile isSpace

def hexValue? (c : Char) : Option Nat :=
  if '0' ≤ c ∧ c ≤ '9' then some (c.toNat - 48)
  else if 'a' ≤ c ∧ c ≤ 'f' then some (c.toNat - 87)
  else if 'A' ≤ c ∧ c ≤ 'F' then some (c.toNat - 55)
  else none

def unit? (a b c d : Char) : Option Nat := do
  some (((← hexValue? a) * 16 + (← hexValue? b)) * 256 + (← hexValue? c) * 16 + (← hexValue? d))

def escaped? (c : Char) : Option Char :=
  match c with
  | '"' => some '"'
  | '\\' => some '\\'
  | '/' => some '/'
  | 'b' => some '\x08'
  | 'f' => some '\x0C'
  | 'n' => some '\n'
  | 'r' => some '\r'
  | 't' => some '\t'
  | _ => none

def isHighSurrogate (u : Nat) : Bool := 0xD800 ≤ u && u < 0xDC00

def isLowSurrogate (u : Nat) : Bool := 0xDC00 ≤ u && u < 0xE000

/-- The rest of a string after its opening quote, and the text after it. An escaped surrogate has
to be half of a pair. -/
def string? : List Char → Option (List Char × List Char)
  | [] => none
  | '"' :: rest => some ([], rest)
  | '\\' :: 'u' :: a :: b :: c :: d :: rest =>
    match unit? a b c d with
    | none => none
    | some u =>
      if isHighSurrogate u then
        match rest with
        | '\\' :: 'u' :: e :: f :: g :: h :: more =>
          match unit? e f g h with
          | none => none
          | some v =>
            if isLowSurrogate v then
              (string? more).map fun (s, after) =>
                (Char.ofNat (0x10000 + (u - 0xD800) * 0x400 + (v - 0xDC00)) :: s, after)
            else none
        | _ => none
      else if isLowSurrogate u then none
      else (string? rest).map fun (s, after) => (Char.ofNat u :: s, after)
  | '\\' :: c :: rest =>
    match escaped? c with
    | none => none
    | some e => (string? rest).map fun (s, after) => (e :: s, after)
  | c :: rest =>
    if c.toNat < 0x20 ∨ c = '\\' then none
    else (string? rest).map fun (s, after) => (c :: s, after)

/-- An integer numeral is an integer where it fits sixty-four bits; minus zero and all other
numerals are binary64 numbers. -/
def ofNumeral? (negative : Bool) (digits : Nat) (exponent : Int) (isInteger : Bool) :
    Option Json :=
  let value : Int := if negative then -Int.ofNat digits else Int.ofNat digits
  if isInteger && !(negative && digits == 0) && (fitsInt64 value || fitsUInt64 value) then
    some (.int value)
  else
    let x := Binary64.ofDecimal negative digits exponent
    if x.isFinite then some (.float x) else none

/-- A number whose sign has been read. -/
def number? (negative : Bool) (text : List Char) : Option (Json × List Char) :=
  let whole :=
    match text with
    | '0' :: _ => ['0']
    | _ => text.takeWhile Char.isDigit
  let rest := text.drop whole.length
  if whole.isEmpty then none
  else
    let fraction? :=
      match rest with
      | '.' :: more =>
        let digits := more.takeWhile Char.isDigit
        if digits.isEmpty then none else some (digits, more.dropWhile Char.isDigit)
      | more => some ([], more)
    match fraction? with
    | none => none
    | some (fraction, rest') =>
      match Numeral.exponent? rest' with
      | none => none
      | some (e, after) =>
        (ofNumeral? negative (Numeral.digitsValue (whole ++ fraction))
          (e - Int.ofNat fraction.length) (after.length == rest.length)).map (·, after)

mutual

/-- A value at the start of the text. `depth` is one more than the levels of nesting still
allowed. -/
def value? (depth : Nat) : Nat → List Char → Option (Json × List Char)
  | 0, _ => none
  | fuel + 1, text =>
    match text with
    | 'n' :: 'u' :: 'l' :: 'l' :: rest => some (.null, rest)
    | 't' :: 'r' :: 'u' :: 'e' :: rest => some (.bool true, rest)
    | 'f' :: 'a' :: 'l' :: 's' :: 'e' :: rest => some (.bool false, rest)
    | '"' :: rest => (string? rest).map fun (s, after) => (.str (String.ofList s), after)
    | '-' :: rest => number? true rest
    | '[' :: rest =>
      if depth ≤ 1 then none
      else
        match skipSpace rest with
        | ']' :: after => some (.arr [], after)
        | start => (items? (depth - 1) fuel start).map fun (xs, after) => (.arr xs, after)
    | '{' :: rest =>
      if depth ≤ 1 then none
      else
        match skipSpace rest with
        | '}' :: after => some (.obj [], after)
        | start => (fields? (depth - 1) fuel start).map fun (xs, after) => (.ofFields xs, after)
    | rest => number? false rest

def items? (depth : Nat) : Nat → List Char → Option (List Json × List Char)
  | 0, _ => none
  | fuel + 1, text =>
    match value? depth fuel text with
    | none => none
    | some (x, rest) =>
      match skipSpace rest with
      | ']' :: after => some ([x], after)
      | ',' :: more => (items? depth fuel (skipSpace more)).map fun (xs, after) => (x :: xs, after)
      | _ => none

def fields? (depth : Nat) : Nat → List Char → Option (List (String × Json) × List Char)
  | 0, _ => none
  | fuel + 1, text =>
    match text with
    | '"' :: start =>
      match string? start with
      | none => none
      | some (name, rest) =>
        match skipSpace rest with
        | ':' :: more =>
          match value? depth fuel (skipSpace more) with
          | none => none
          | some (x, rest) =>
            match skipSpace rest with
            | '}' :: after => some ([(String.ofList name, x)], after)
            | ',' :: more =>
              (fields? depth fuel (skipSpace more)).map fun (xs, after) =>
                ((String.ofList name, x) :: xs, after)
            | _ => none
        | _ => none
    | _ => none

end

end Parser

/-- Reads a text that is one JSON value with at most 127 levels of nesting. -/
def parse? (text : List Char) : Option Json :=
  match Parser.value? 128 (2 * text.length + 2) (Parser.skipSpace text) with
  | some (x, rest) => if (Parser.skipSpace rest).isEmpty then some x else none
  | none => none

end PortableSql.Json

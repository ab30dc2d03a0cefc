import PortableSql.Store.Affinity

namespace PortableSql.Store

inductive TokenKind where
  | word
  | quotedName
  | string
  | number
  | blob
  /-- A question mark, which stands for a parameter. -/
  | mark
  | symbol
  /-- Characters that begin no token. -/
  | unknown
deriving DecidableEq, Repr

structure Token where
  kind : TokenKind
  /-- The token as it is written. -/
  text : List Char
  /-- The spaces before it. -/
  gap : List Char := []

namespace Token

def startsWord (c : Char) : Bool := c.isAlpha || c == '_' || 0x80 ≤ c.toNat

def inWord (c : Char) : Bool := startsWord c || c.isDigit || c == '$'

/-- What follows an opening quote up to the closing one, and the rest. A quote written twice does
not close. -/
def cutQuoted (quote : Char) : List Char → Option (List Char × List Char)
  | [] => none
  | c :: rest =>
    if c = quote then
      match rest with
      | d :: more =>
        if d = quote then (cutQuoted quote more).map fun (inner, r) => (c :: d :: inner, r)
        else some ([c], rest)
      | [] => some ([c], [])
    else (cutQuoted quote rest).map fun (inner, r) => (c :: inner, r)

/-- The part of a numeral after its first digits: a point with digits. -/
def cutFraction : List Char → List Char × List Char
  | '.' :: rest => ('.' :: rest.takeWhile Char.isDigit, rest.dropWhile Char.isDigit)
  | rest => ([], rest)

/-- The exponent at the start of a text, if there is one with digits. -/
def cutExponent (text : List Char) : List Char × List Char :=
  let digits (opening rest : List Char) : List Char × List Char :=
    match rest with
    | d :: _ =>
      if d.isDigit then (opening ++ rest.takeWhile Char.isDigit, rest.dropWhile Char.isDigit)
      else ([], text)
    | [] => ([], text)
  match text with
  | e :: s :: rest =>
    if e = 'e' ∨ e = 'E' then
      if s = '+' ∨ s = '-' then digits [e, s] rest else digits [e] (s :: rest)
    else ([], text)
  | _ => ([], text)

def cutNumber (text : List Char) : List Char × List Char :=
  let (fraction, rest) := cutFraction (text.dropWhile Char.isDigit)
  let (exponent, rest) := cutExponent rest
  (text.takeWhile Char.isDigit ++ fraction ++ exponent, rest)

/-- The token that `first` begins, and the rest of the text. -/
def next (first : Char) (rest : List Char) : Token × List Char :=
  let quoted (kind : TokenKind) (opening : List Char) (quote : Char) (rest : List Char) :
      Token × List Char :=
    match cutQuoted quote rest with
    | some (inner, rest) => (⟨kind, opening ++ inner, []⟩, rest)
    | none => (⟨.unknown, opening ++ rest, []⟩, [])
  match first, rest with
  | '"', _ => quoted .quotedName ['"'] '"' rest
  | '\x60', _ => quoted .quotedName ['\x60'] '\x60' rest
  | '\'', _ => quoted .string ['\''] '\'' rest
  | 'x', '\'' :: more => quoted .blob ['x', '\''] '\'' more
  | 'X', '\'' :: more => quoted .blob ['X', '\''] '\'' more
  | '?', _ => (⟨.mark, '?' :: rest.takeWhile Char.isDigit, []⟩, rest.dropWhile Char.isDigit)
  | '.', d :: _ =>
    if d.isDigit then
      let (number, rest) := cutNumber ('.' :: rest)
      (⟨.number, number, []⟩, rest)
    else (⟨.symbol, ['.'], []⟩, rest)
  | _, _ =>
    if first.isDigit then
      let (number, rest) := cutNumber (first :: rest)
      (⟨.number, number, []⟩, rest)
    else if startsWord first then
      (⟨.word, first :: rest.takeWhile inWord, []⟩, rest.dropWhile inWord)
    else (⟨.symbol, [first], []⟩, rest)

def scanWithin : Nat → List Char → List Token
  | 0, _ => []
  | fuel + 1, text =>
    match text.dropWhile isSpace with
    | [] => []
    | c :: rest =>
      let (token, rest) := next c rest
      { token with gap := text.takeWhile isSpace } :: scanWithin fuel rest

/-- The tokens of a text. -/
def scan (text : List Char) : List Token := scanWithin text.length text

/-- The name that a token writes, without its quotes. -/
def name (t : Token) : String :=
  match t.kind, t.text with
  | .quotedName, quote :: inner | .string, quote :: inner =>
    String.ofList (Chars.halve quote inner.dropLast)
  | _, text => String.ofList text

/-- The words that are no names. -/
def reserved : List String :=
  ["add", "all", "alter", "and", "as", "autoincrement", "between", "case", "check", "collate",
   "commit", "constraint", "create", "default", "deferrable", "delete", "distinct", "drop", "else",
   "escape", "exists", "foreign", "from", "group", "having", "in", "index", "insert", "into", "is",
   "isnull", "join", "limit", "not", "nothing", "notnull", "null", "on", "or", "order", "primary",
   "references", "returning", "select", "set", "table", "then", "to", "transaction", "union",
   "unique", "update", "using", "values", "when", "where"]

/-- Whether the token is the given word, in any case. -/
def isWord (t : Token) (word : String) : Bool :=
  t.kind == .word && String.ofList (Chars.asciiLower t.text) == word

def isName (t : Token) : Bool :=
  match t.kind with
  | .quotedName | .string => true
  | .word => !reserved.contains (String.ofList (Chars.asciiLower t.text))
  | _ => false

/-- Tokens as they stand in the text, without the spaces before the first. -/
def span : List Token → String
  | [] => ""
  | t :: ts => String.ofList (t.text ++ ts.flatMap fun u => u.gap ++ u.text)

end Token

end PortableSql.Store

import PortableSql.Json.Parser
import PortableSql.Table.Basic
import PortableSql.Text.Blank
import PortableSql.Text.Chars

namespace PortableSql

/-- What a catalog says about a column's default. -/
inductive CatalogDefault where
  | absent
  /-- The database generates the values. -/
  | generated
  | value (text : String)
deriving DecidableEq, Repr

namespace CatalogDefault

/-- Whether the parentheses, those in quotes left aside, are all closed before the end. -/
def closesEarly (depth : Int) (quotes : Bool) : List Char → Bool
  | [] => false
  | c :: rest =>
    if c = '\'' then closesEarly depth (!quotes) rest
    else if c = '(' ∧ !quotes then closesEarly (depth + 1) quotes rest
    else if c = ')' ∧ !quotes then
      if depth = 1 ∧ rest ≠ [] then true else closesEarly (depth - 1) quotes rest
    else closesEarly depth quotes rest

/-- The inside of parentheses that enclose the whole text. -/
def stripParens (text : List Char) : List Char :=
  let inner := Chars.trim text
  if inner.head? = some '(' ∧ inner.getLast? = some ')' ∧ !closesEarly 0 false inner then
    Chars.trim (inner.drop 1).dropLast
  else inner

/-- The text before the last cast, unless a quote or a parenthesis follows it. -/
def stripCast (text : List Char) : List Char :=
  match Chars.cutLastPair ':' ':' text with
  | some (before, after) =>
    if after.contains '\'' || after.contains ')' then text else Chars.trim before
  | none => text

/-- Strips until nothing is left to strip. -/
def strip : Nat → List Char → List Char
  | 0, text => text
  | fuel + 1, text =>
    let stripped := stripCast (stripParens text)
    if stripped = text then text else strip fuel stripped

/-- The text of a string literal, with or without the mark of a national string. -/
def unquote? (text : List Char) : Option (List Char) :=
  let inside :=
    match text with
    | 'N' :: '\'' :: rest => some rest
    | '\'' :: rest => some rest
    | _ => none
  (inside.bind (Chars.stripEnd? ['\''])).map (Chars.halve '\'')

/-- Reads a default as a catalog writes it: in parentheses, casts and quotes. -/
def ofCatalog (text : String) : CatalogDefault :=
  let start := Chars.trim text.toList
  if Chars.startsWith "nextval(".toList (Chars.lower start) then generated
  else
    let bare := strip (start.length + 1) start
    if bare.isEmpty || Chars.asciiLower bare == "null".toList then absent
    else value (String.ofList ((unquote? bare).getD bare))

def ofCatalog? : Option String → CatalogDefault
  | some text => ofCatalog text
  | none => absent

/-- The value that a default text has in a column of the given type. Decimals stay texts, and so
does whatever cannot be read. -/
def parse (text : String) (type : ColumnType) : Json :=
  let chars := text.toList
  let read : Option Json :=
    match type with
    | .integer | .bigInteger => (Numeral.int64? chars).map .int
    | .float => (Numeral.real? chars).map .float
    | .boolean =>
      match lowerCase text with
      | "true" | "1" | "t" | "b'1'" => some (.bool true)
      | "false" | "0" | "f" | "b'0'" => some (.bool false)
      | _ => none
    | .json => Json.parse? chars
    | _ => none
  read.getD (.str text)

def apply (column : Column) : CatalogDefault → Column
  | absent => column
  | generated => { column with autoIncrement := some true }
  | value text => { column with default := some (parse text column.type) }

end CatalogDefault

end PortableSql

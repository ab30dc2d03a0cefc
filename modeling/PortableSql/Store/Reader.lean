import PortableSql.Catalog.Query
import PortableSql.Json.Parser
import PortableSql.Store.Statement

namespace PortableSql.Store

/-- Takes tokens from the front of a text. -/
abbrev Reader := StateT (List Token) (Except Fault)

namespace Reader

def fail {α : Type} : Reader α := fun tokens => .error (Fault.at tokens)

/-- The next token, if it passes the test. -/
def token? (test : Token → Bool) : Reader (Option Token) := fun tokens =>
  match tokens with
  | t :: rest => if test t then .ok (some t, rest) else .ok (none, tokens)
  | [] => .ok (none, [])

def token (test : Token → Bool) : Reader Token := do
  match ← token? test with
  | some t => return t
  | none => fail

def word? (w : String) : Reader Bool := return (← token? (·.isWord w)).isSome

def word (w : String) : Reader Unit := discard (token (·.isWord w))

def isSymbol (c : Char) (t : Token) : Bool := t.kind == .symbol && t.text == [c]

def symbol? (c : Char) : Reader Bool := return (← token? (isSymbol c)).isSome

def symbol (c : Char) : Reader Unit := discard (token (isSymbol c))

def name : Reader Token := token Token.isName

def objectName : Reader ObjectName := do
  let first ← name
  if ← symbol? '.' then return ⟨some first, ← name⟩ else return ⟨none, first⟩

/-- Items for as long as the reader finds them. -/
def manyWithin {α : Type} (one? : Reader (Option α)) : Nat → Reader (List α)
  | 0 => pure []
  | fuel + 1 => do
    match ← one? with
    | none => return []
    | some a => return a :: (← manyWithin one? fuel)

def many {α : Type} (one? : Reader (Option α)) : Reader (List α) := do
  manyWithin one? (← get).length

def commaList {α : Type} (one : Reader α) : Reader (List α) := do
  let first ← one
  let rest ← many do
    if ← symbol? ',' then return some (← one) else return none
  return first :: rest

def parenthesized {α : Type} (inner : Reader α) : Reader α := do
  symbol '('
  let a ← inner
  symbol ')'
  return a

def names : Reader (List String) := parenthesized (commaList (return (← name).name))

/-- The bytes of hexadecimal digits. -/
def hexBytes : List Char → Option Bytes
  | [] => some []
  | a :: b :: rest => do
    let x ← Json.Parser.hexValue? a
    let y ← Json.Parser.hexValue? b
    return UInt8.ofNat (16 * x + y) :: (← hexBytes rest)
  | [_] => none

/-- The number that a numeral writes. -/
def numeral (negative : Bool) (text : List Char) : Value :=
  match Numeral.natural? text, Numeral.unsigned? text with
  | some n, _ =>
    let n := if negative then -Int.ofNat n else Int.ofNat n
    if fitsInt64 n then .int n else .real (Binary64.ofInt n)
  | none, some parts => .real (Binary64.ofDecimal negative parts.digits parts.exponent)
  | none, none => .null

def isLiteral (t : Token) : Bool :=
  t.kind == .number || t.kind == .string || t.kind == .blob || t.isWord "null" ||
    t.isWord "true" || t.isWord "false"

def literal : Reader Value := do
  let t ← token isLiteral
  match t.kind with
  | .number => return numeral false t.text
  | .string => return .ofText t.name
  | .blob =>
    match hexBytes (t.text.drop 2).dropLast with
    | some bytes => return .blob bytes
    | none => throw (.unrecognized (String.ofList t.text))
  | _ =>
    if t.isWord "true" then return .int 1
    else if t.isWord "false" then return .int 0
    else return .null

/-- A literal, a literal read as text, or a parameter. -/
def term : Reader Term := do
  if (← token? (·.kind == .mark)).isSome then return .mark
  else if ← word? "cast" then
    parenthesized do
      let v ← literal
      word "as"
      word "text"
      match v with
      | .blob bytes => return .constant (.text bytes)
      | v => return .constant (Affinity.text.apply v)
  else return .constant (← literal)

/-- The tokens of a declared type: names, and lengths in parentheses. -/
def typeName : Reader String := do
  let words ← many (token? Token.isName)
  if words.isEmpty then return ""
  match ← token? (isSymbol '(') with
  | none => return Token.span words
  | some opening =>
    let number : Reader (List Token) := do
      let sign ← token? fun t => isSymbol '-' t || isSymbol '+' t
      return sign.toList ++ [← token (·.kind == .number)]
    let first ← number
    let second ←
      match ← token? (isSymbol ',') with
      | some comma => pure (comma :: (← number))
      | none => pure []
    let closing ← token (isSymbol ')')
    return Token.span (words ++ opening :: first ++ second ++ [closing])

/-- What follows the word that introduces a default. A name is a text, or a truth value. -/
def defaultClause : Reader DefaultClause := do
  match ← token? fun t => isSymbol '-' t || isSymbol '+' t with
  | some sign =>
    let t ← token (·.kind == .number)
    return ⟨Token.span [sign, t], numeral (sign.text == ['-']) t.text⟩
  | none =>
    match (← get).head? with
    | none => fail
    | some t =>
      let value ←
        if isLiteral t then literal
        else do
          let t ← name
          pure (.ofText t.name)
      return ⟨Token.span [{ t with gap := [] }], value⟩

/-- The clauses after the type of a column. -/
def columnClauses (c : StoredColumn) : Nat → Reader StoredColumn
  | 0 => pure c
  | fuel + 1 => do
    if ← word? "not" then
      word "null"
      columnClauses { c with notNull := true } fuel
    else if ← word? "null" then columnClauses c fuel
    else if ← word? "default" then
      columnClauses { c with default := some (← defaultClause) } fuel
    else return c

def column : Reader TableItem := do
  let name ← name
  let type ← typeName
  return .column (← columnClauses { name := name.name, type } (← get).length)

def action : Reader ReferentialAction := do
  if ← word? "cascade" then return .cascade
  else if ← word? "restrict" then return .restrict
  else if ← word? "set" then
    word "null"
    return .setNull
  else
    word "no"
    word "action"
    return .noAction

/-- The actions of a foreign key; one that is not written is none. -/
def actions (onUpdate onDelete : ReferentialAction) :
    Nat → Reader (ReferentialAction × ReferentialAction)
  | 0 => pure (onUpdate, onDelete)
  | fuel + 1 => do
    if ← word? "on" then
      if ← word? "update" then actions (← action) onDelete fuel
      else
        word "delete"
        actions onUpdate (← action) fuel
    else return (onUpdate, onDelete)

def tableConstraint : Reader TableItem := do
  if ← word? "constraint" then discard name
  if ← word? "primary" then
    word "key"
    return .primary (← names)
  else if ← word? "unique" then return .unique (← names)
  else
    word "foreign"
    word "key"
    let columns ← names
    word "references"
    let target ← name
    let targetColumns ← names
    let (onUpdate, onDelete) ← actions .noAction .noAction (← get).length
    return .foreign columns target.name targetColumns onUpdate onDelete

def startsConstraint (t : Token) : Bool :=
  t.isWord "constraint" || t.isWord "primary" || t.isWord "unique" || t.isWord "foreign"

/-- A statement is over at the end of the text, before which semicolons may stand. -/
def finish : Reader Unit := do
  discard (many (token? (isSymbol ';')))
  unless (← get).isEmpty do fail

/-- The items of a table up to its end, and what stops the reading before that. Columns come before
constraints. -/
def tableItems (constraints : Bool) : Nat → List Token → List TableItem × Option Fault
  | 0, tokens => ([], some (Fault.at tokens))
  | fuel + 1, tokens =>
    let constraints := constraints || tokens.head?.any startsConstraint
    match (if constraints then tableConstraint else column).run tokens with
    | .error f => ([], some f)
    | .ok (item, rest) =>
      match rest with
      | t :: more =>
        if isSymbol ',' t then
          let (items, fault?) := tableItems constraints fuel more
          (item :: items, fault?)
        else
          match (do symbol ')'; finish : Reader Unit).run rest with
          | .ok _ => ([item], none)
          | .error f => ([item], some f)
      | [] => ([item], some .incomplete)

def tableBody (tokens : List Token) : List TableItem × Option Fault :=
  match (symbol '(').run tokens with
  | .error f => ([], some f)
  | .ok (_, first :: rest) =>
    if startsConstraint first then ([], some (Fault.at (first :: rest)))
    else tableItems false (rest.length + 1) (first :: rest)
  | .ok (_, []) => ([], some .incomplete)

def createTable (temporary : Bool) : Reader Statement := do
  let name ← objectName
  let (items, fault?) := tableBody (← get)
  set ([] : List Token)
  return .createTable ⟨temporary, name, items, fault?⟩

def createIndex (isUnique : Bool) : Reader Statement := do
  let index ← objectName
  word "on"
  let table ← name
  return .createIndex isUnique index table (← names)

def create : Reader Statement := do
  if ← word? "unique" then
    word "index"
    createIndex true
  else if ← word? "index" then createIndex false
  else
    let temporary := (← word? "temporary") || (← word? "temp")
    word "table"
    createTable temporary

def insert : Reader Statement := do
  word "into"
  let name ← objectName
  let columns? ←
    match (← get).head? with
    | some t => if isSymbol '(' t then pure (some (← names)) else pure none
    | none => pure none
  word "values"
  return .insert name columns? (← parenthesized (commaList term))

/-- What follows the catalog table in the question for the tables of a schema. -/
def tablesTail : List (List Char) :=
  ((Token.scan (Sqlite.tablesSql "main").toList).map (·.text)).drop 6

def namedTerm : Reader (Term × String) := do
  let before ← get
  let t ← term
  let written := before.take (before.length - (← get).length)
  if ← word? "as" then return (t, (← name).name) else return (t, Token.span written)

def select : Reader Statement := do
  if ← symbol? '*' then
    word "from"
    let name ← objectName
    if ← word? "order" then
      word "by"
      word "rowid"
    return .rows name
  else if ← word? "name" then
    word "from"
    let schema ← name
    symbol '.'
    unless (← name).isWord "sqlite_master" do fail
    for text in tablesTail do
      discard (token (·.text == text))
    return .tables schema
  else return .values (← commaList namedTerm)

def pragma : Reader Statement := do
  word "foreign_keys"
  symbol '='
  let on ← word? "on"
  unless on do word "off"
  return .enforce on

def rollback : Reader Statement := do
  discard (word? "transaction")
  if ← word? "to" then
    discard (word? "savepoint")
    return .rollbackTo (← name).name
  else return .rollback

def statement : Reader Statement := do
  let s ←
    if ← word? "begin" then pure .begin
    else if ← word? "commit" then pure .commit
    else if ← word? "rollback" then rollback
    else if ← word? "savepoint" then pure (.savePoint (← name).name)
    else if ← word? "release" then do
      discard (word? "savepoint")
      pure (.release (← name).name)
    else if ← word? "pragma" then pragma
    else if ← word? "create" then create
    else if ← word? "drop" then do
      word "table"
      pure (.dropTable (← objectName))
    else if ← word? "delete" then do
      word "from"
      pure (.delete (← objectName))
    else if ← word? "insert" then insert
    else do
      word "select"
      select
  finish
  return s

end Reader

/-- The statement that a text writes. -/
def Statement.read (sql : String) : Except Fault Statement :=
  (Reader.statement.run (Token.scan sql.toList)).map (·.1)

end PortableSql.Store

import PortableSql.Dialect
import PortableSql.Number.Numeral
import PortableSql.Text.Blank

namespace PortableSql

/-- A number of days beyond sixty-four bits. -/
inductive Overflow where
  | days
deriving DecidableEq, Repr

/-- Writes a call from the arguments, which are fragments of SQL. -/
abbrev FunctionRule := List String → Except Overflow String

namespace FunctionCall

def argument (args : List String) (i : Nat) : String := args.getD i "NULL"

def plain (name : String) (args : List String) : String :=
  s!"{name}({commaSeparated args})"

def joined (operator : String) (args : List String) : String :=
  "(" ++ String.intercalate s!" {operator} " args ++ ")"

/-- An amount and its unit, in upper case. -/
structure Interval where
  amount : List Char
  unit : List Char

/-- The text without a leading keyword. -/
def dropIntervalWord (text : List Char) : List Char :=
  match Chars.stripStart? "INTERVAL ".toList text with
  | some rest => rest
  | none => (Chars.stripStart? "interval ".toList text).getD text

/-- The interval to add: amount and unit as two arguments, or both as one text. -/
def interval (args : List String) : Interval :=
  let part (i : Nat) : List Char := Chars.trim (argument args i).toList
  if 3 ≤ args.length then ⟨part 1, Chars.upper (Chars.stripAround '\'' (part 2))⟩
  else
    match Chars.words (dropIntervalWord (Chars.stripAround '\'' (part 1))) with
    | [] => ⟨['0'], "DAY".toList⟩
    | [amount] => ⟨Chars.stripAround '\'' amount, "DAY".toList⟩
    | amount :: unit :: _ => ⟨Chars.stripAround '\'' amount, Chars.upper unit⟩

/-- A unit in upper case without the S of the plural. -/
def singular (unit : List Char) : List Char :=
  let upper := Chars.upper (Chars.stripAround '\'' (Chars.trim unit))
  match Chars.stripEnd? ['S'] upper with
  | some (c :: rest) => c :: rest
  | _ => upper

def extractFrom : FunctionRule := fun args =>
  .ok (s!"EXTRACT({String.ofList (singular (argument args 0).toList)} " ++
    s!"FROM {argument args 1})")

/-- A call that is the same text for all arguments. -/
def constant (text : String) : FunctionRule := fun _ => .ok text

def infixOperator (operator : String) : FunctionRule := fun args => .ok (joined operator args)

end FunctionCall

open FunctionCall

namespace Mysql

def dateAdd : FunctionRule := fun args =>
  let i := interval args
  .ok (s!"DATE_ADD({argument args 0}, INTERVAL {String.ofList i.amount} " ++
    s!"{String.ofList (singular i.unit)})")

def functionRules : List (String × FunctionRule) :=
  [("DATE_ADD", dateAdd), ("EXTRACT", extractFrom)]

end Mysql

namespace Postgresql

def dateAdd : FunctionRule := fun args =>
  let i := interval args
  .ok (s!"({argument args 0} + INTERVAL '{String.ofList i.amount} " ++
    s!"{String.ofList (singular i.unit)}')")

def functionRules : List (String × FunctionRule) :=
  [("CONCAT", infixOperator "||"),
   ("DATEDIFF", fun args => .ok s!"({argument args 0} - {argument args 1})"),
   ("NOW", constant "LOCALTIMESTAMP(0)"),
   ("CURRENT_DATE", constant "CURRENT_DATE"),
   ("CURRENT_TIME", constant "CURRENT_TIME"),
   ("DAYOFWEEK", fun args => .ok s!"(EXTRACT(DOW FROM {argument args 0}) + 1)"),
   ("DATE_ADD", dateAdd),
   ("RAND", constant "RANDOM()"),
   ("EXTRACT", extractFrom)]

end Postgresql

namespace Sqlite

/-- Weeks as days: seven times an integer, which has to fit sixty-four bits again. Any other amount
is kept. -/
def inDays (amount : List Char) : Except Overflow (List Char) :=
  match Numeral.int64? amount with
  | none => .ok amount
  | some weeks => if fitsInt64 (weeks * 7) then .ok (toString (weeks * 7)).toList else .error .days

/-- The amount and the unit of a date modifier, which has no weeks. -/
def modifierInterval (i : Interval) : Except Overflow Interval :=
  let unit := singular i.unit
  if unit = "WEEK".toList then (inDays i.amount).map (⟨·, "DAY".toList⟩) else .ok ⟨i.amount, unit⟩

def modifierSign (amount : List Char) : List Char :=
  match amount with
  | '-' :: _ | '+' :: _ => []
  | _ => ['+']

def dateAdd : FunctionRule := fun args => do
  let i ← modifierInterval (interval args)
  return s!"DATETIME({argument args 0}, " ++
    s!"'{String.ofList (modifierSign i.amount ++ i.amount)} {String.ofList (Chars.lower i.unit)}')"

/-- The format letter for a part of a date. -/
def formatLetter? (unit : String) : Option String :=
  [("YEAR", "Y"), ("MONTH", "m"), ("DAY", "d"), ("HOUR", "H"), ("MINUTE", "M"), ("SECOND", "S"),
   ("WEEK", "W"), ("DOW", "w"), ("DOY", "j")].lookup unit

def extract : FunctionRule := fun args =>
  match formatLetter? (String.ofList (singular (argument args 0).toList)) with
  | some letter => .ok s!"CAST(STRFTIME('%{letter}', {argument args 1}) AS INTEGER)"
  | none => .ok (plain "EXTRACT" args)

def functionRules : List (String × FunctionRule) :=
  [("CONCAT", infixOperator "||"),
   ("DATEDIFF", fun args => .ok s!"(julianday({argument args 0}) - julianday({argument args 1}))"),
   ("NOW", constant "DATETIME('now')"),
   ("CURRENT_DATE", constant "DATE('now')"),
   ("CURRENT_TIME", constant "TIME('now')"),
   ("DAYOFWEEK", fun args => .ok s!"(CAST(STRFTIME('%w', {argument args 0}) AS INTEGER) + 1)"),
   ("DATE_ADD", dateAdd),
   ("RAND", constant "ABS(RANDOM() / 9223372036854775808.0)"),
   ("EXTRACT", extract)]

end Sqlite

namespace Sqlserver

/-- The name of a date part. -/
def datePart (unit : List Char) : String :=
  match String.ofList (singular unit) with
  | "DOW" => "weekday"
  | "DOY" => "dayofyear"
  | part => lowerCase part

def dateAdd : FunctionRule := fun args =>
  let i := interval args
  .ok s!"DATEADD({datePart i.unit}, {String.ofList i.amount}, {argument args 0})"

def extract : FunctionRule := fun args =>
  .ok s!"DATEPART({datePart (argument args 0).toList}, {argument args 1})"

def functionRules : List (String × FunctionRule) :=
  [("CONCAT", infixOperator "+"),
   ("DATEDIFF", fun args => .ok s!"DATEDIFF(day, {argument args 1}, {argument args 0})"),
   ("NOW", constant "GETDATE()"),
   ("CURRENT_DATE", constant "CONVERT(date, GETDATE())"),
   ("CURRENT_TIME", constant "CONVERT(time, GETDATE())"),
   ("DAYOFWEEK", fun args => .ok s!"DATEPART(weekday, {argument args 0})"),
   ("DATE_ADD", dateAdd),
   ("RAND", constant "RAND()"),
   ("EXTRACT", extract)]

end Sqlserver

namespace Dialect

/-- The rules for the functions that the dialect writes in its own way, by upper-case name. -/
def functionRules : Dialect → List (String × FunctionRule)
  | mysql => Mysql.functionRules
  | postgresql => Postgresql.functionRules
  | sqlite => Sqlite.functionRules
  | sqlserver => Sqlserver.functionRules

/-- A portable call in the dialect; a name without a rule is kept. -/
def functionSql (d : Dialect) (name : String) (args : List String) : Except Overflow String :=
  match d.functionRules.lookup (upperCase name) with
  | some rule => rule args
  | none => .ok (plain name args)

end Dialect

end PortableSql

import PortableSql.Error
import PortableSql.Text.Blank
import PortableSql.Text.Casing

namespace PortableSql

inductive IndexKind where
  | plain
  | fulltext
deriving DecidableEq, Repr, Inhabited

namespace IndexKind

def name : IndexKind → String
  | plain => "index"
  | fulltext => "fulltext"

def ofName? (name : String) : Option IndexKind := [plain, fulltext].find? (·.name == name)

def read (text : String) : Except Error IndexKind :=
  match ofName? (lowerCase text) with
  | some kind => .ok kind
  | none => .error (.validation s!"Unknown index kind '{text}'" text)

end IndexKind

inductive ConstraintKind where
  | primary
  | unique
  | foreign
deriving DecidableEq, Repr, Inhabited

namespace ConstraintKind

def name : ConstraintKind → String
  | primary => "primary"
  | unique => "unique"
  | foreign => "foreign"

def ofName? (name : String) : Option ConstraintKind :=
  [primary, unique, foreign].find? (·.name == name)

def read (text : String) : Except Error ConstraintKind :=
  match ofName? (lowerCase text) with
  | some kind => .ok kind
  | none => .error (.validation s!"Unknown constraint kind '{text}'" text)

end ConstraintKind

/-- What happens to referring rows when a referenced row changes or goes. -/
inductive ReferentialAction where
  | cascade
  | setNull
  | restrict
  | noAction
deriving DecidableEq, Repr, Inhabited

namespace ReferentialAction

def all : List ReferentialAction := [cascade, setNull, restrict, noAction]

def name : ReferentialAction → String
  | cascade => "cascade"
  | setNull => "setNull"
  | restrict => "restrict"
  | noAction => "noAction"

def ofName? (name : String) : Option ReferentialAction := all.find? (·.name == name)

def sql : ReferentialAction → String
  | cascade => "CASCADE"
  | setNull => "SET NULL"
  | restrict => "RESTRICT"
  | noAction => "NO ACTION"

/-- The value of a catalog: SQL words, or the single letters some catalogs keep. Whatever is not
known restricts. -/
def ofCatalog (text : String) : ReferentialAction :=
  match upperCase (trimmed text) with
  | "CASCADE" | "C" => cascade
  | "SET NULL" | "SET_NULL" | "N" => setNull
  | "NO ACTION" | "NO_ACTION" | "A" => noAction
  | _ => restrict

/-- A name in any case, with or without spaces and underscores. -/
def read (text : String) : Except Error ReferentialAction :=
  let kept := text.toList.filter fun c => c != '_' && c != ' '
  match String.ofList (Chars.lower kept) with
  | "cascade" => .ok cascade
  | "setnull" => .ok setNull
  | "restrict" => .ok restrict
  | "noaction" => .ok noAction
  | _ => .error (.validation s!"Unknown foreign key action '{text}'" text)

end ReferentialAction

end PortableSql

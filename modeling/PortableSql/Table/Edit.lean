import PortableSql.Table.Basic

namespace PortableSql

/-- Why a table refuses a change. -/
inductive TableFault where
  | undefinedColumn (column : String)
  | usedByIndex (column index : String)
  | usedByConstraint (column constraint : String)
  | noColumns (owner : String)
  | unknownColumn (owner column : String)
  | uncoveredLength (index column : String)
  | missingReference (constraint : String)
  | secondPrimaryKey (existing : String)
deriving DecidableEq, Repr

namespace TableFault

def message : TableFault → String
  | undefinedColumn column => s!"Column '{column}' is not defined"
  | usedByIndex column index => s!"Column '{column}' is used by index '{index}'"
  | usedByConstraint column constraint =>
    s!"Column '{column}' is used by constraint '{constraint}'"
  | noColumns owner => s!"'{owner}' must reference at least one column"
  | unknownColumn owner column => s!"'{owner}' references unknown column '{column}'"
  | uncoveredLength index column =>
    s!"Index '{index}' sets a length for column '{column}' it does not cover"
  | missingReference constraint =>
    s!"Foreign constraint '{constraint}' needs a referenced table and at least one column"
  | secondPrimaryKey existing => s!"Table already has primary key '{existing}'"

end TableFault

namespace Table

/-- The error for a refused change, with the table as its object. -/
def refusal (t : Table) (fault : TableFault) : Error := .validation fault.message t.name

/-- A change of a table, which may be refused; what it changed before it was refused stays
changed. -/
abbrev Mutation (α : Type) := ExceptT TableFault (StateM Table) α

/-- What comes of a change, and the table after it. -/
def Mutation.runOn {α : Type} (change : Mutation α) (t : Table) : Except TableFault α × Table :=
  StateT.run (ExceptT.run change) t

def checkColumns (owner : String) (columns : List String) : Mutation Unit := do
  let t ← get
  if columns.isEmpty then throw (.noColumns owner)
  if let some missing := columns.find? (!t.hasColumn ·) then throw (.unknownColumn owner missing)

/-- Adds a column at the end, or in the place of the column with its name. -/
def addColumn (t : Table) (column : Column) : Table :=
  { t with columns := Keyed.put Column.name column t.columns }

/-- Removes a column that no index and no constraint covers. -/
def removeColumn (name : String) : Mutation Unit := do
  let t ← get
  if !t.hasColumn name then throw (.undefinedColumn name)
  if let some index := t.indexes.find? (·.columns.contains name) then
    throw (.usedByIndex name index.name)
  if let some constraint := t.constraints.find? (·.columns.contains name) then
    throw (.usedByConstraint name constraint.name)
  set { t with columns := Keyed.erase Column.name name t.columns }

def addIndex (index : Index) : Mutation Unit := do
  checkColumns index.name index.columns
  if let some column := index.lengths.keys.find? (!index.columns.contains ·) then
    throw (.uncoveredLength index.name column)
  modify fun t => { t with indexes := Keyed.put Index.name index t.indexes }

/-- A constraint as the table keeps it: only foreign keys have references and actions. -/
def kept (constraint : Constraint) : Constraint :=
  match constraint.kind with
  | .foreign => constraint
  | _ => { constraint with references := [], onUpdate := .restrict, onDelete := .restrict }

/-- What forbids a constraint whose columns are on the table. -/
def constraintFault? (t : Table) (constraint : Constraint) : Option TableFault :=
  match constraint.kind with
  | .foreign =>
    if constraint.references.length < 2 then some (.missingReference constraint.name) else none
  | .primary =>
    (t.constraints.find? fun c => c.kind == .primary && c.name != constraint.name).map
      fun c => .secondPrimaryKey c.name
  | .unique => none

def addConstraint (constraint : Constraint) : Mutation Unit := do
  checkColumns constraint.name constraint.columns
  let t ← get
  if let some fault := t.constraintFault? constraint then throw fault
  set { t with constraints := Keyed.put Constraint.name (kept constraint) t.constraints }

def setOption (t : Table) (key value : String) : Table :=
  { t with options := t.options.insert key value }

def setOptions (t : Table) (options : SortedMap String) : Table := { t with options }

def setTemporary (t : Table) (temporary : Bool) : Table := { t with temporary }

end Table

end PortableSql

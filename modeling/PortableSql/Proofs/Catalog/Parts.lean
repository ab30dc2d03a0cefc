import PortableSql.Catalog.Listing

namespace PortableSql

/-- What an index is for. -/
inductive IndexRole where
  | primary
  | unique
  | plain
deriving DecidableEq

/-- One column of an index, as a row of an index listing gives it. -/
structure IndexPart where
  name : String
  column : String
  role : IndexRole
  /-- The kind, if the index is a plain one. -/
  kind : IndexKind
  /-- How much of the column's text is indexed, if the index is a plain one. -/
  length : Option UInt32

namespace IndexPart

/-- The constraint that the part belongs to, before its first column. -/
def begun (part : IndexPart) : Constraint :=
  match part.role with
  | .primary => { name := Table.primaryConstraintName, kind := .primary, columns := [] }
  | _ => { name := part.name, kind := .unique, columns := [] }

theorem begun_of_primary {part : IndexPart} (h : part.role = .primary) :
    part.begun = { name := Table.primaryConstraintName, kind := .primary, columns := [] } := by
  rw [begun, h]

theorem begun_of_unique {part : IndexPart} (h : part.role = .unique) :
    part.begun = { name := part.name, kind := .unique, columns := [] } := by
  rw [begun, h]

theorem begun_kind_ne_foreign (part : IndexPart) : part.begun.kind ≠ .foreign := by
  unfold begun
  split
  · simp
  · simp

/-- Of the parts of constraints, the kind tells the role. -/
theorem role_eq_of_kind {part other : IndexPart} (hpart : part.role ≠ .plain)
    (hother : other.role ≠ .plain) (h : part.begun.kind = other.begun.kind) :
    part.role = other.role := by
  unfold begun at h
  cases hp : part.role with
  | plain => exact absurd hp hpart
  | primary | unique =>
    cases ho : other.role with
    | plain => exact absurd ho hother
    | primary | unique => simp_all

theorem begun_eq_of_role {part other : IndexPart} (hrole : part.role = other.role)
    (hname : part.begun.name = other.begun.name) : part.begun = other.begun := by
  unfold begun at hname ⊢
  cases ho : other.role with
  | primary => rw [hrole, ho]
  | unique | plain =>
    rw [hrole, ho] at hname
    obtain hname : part.name = other.name := hname
    rw [hrole, ho, hname]

/-- The name of that constraint. A plain index is none. -/
def slot? (part : IndexPart) : Option String :=
  if part.role = .plain then none else some part.begun.name

theorem slot?_eq_some_iff {part : IndexPart} {name : String} :
    part.slot? = some name ↔ part.role ≠ .plain ∧ part.begun.name = name := by
  simp [slot?]

end IndexPart

/-- What catalogs write for an action, in upper case. -/
def ReferentialAction.words : ReferentialAction → List String
  | cascade => ["CASCADE", "C"]
  | setNull => ["SET NULL", "SET_NULL", "N"]
  | noAction => ["NO ACTION", "NO_ACTION", "A"]
  | restrict => ["RESTRICT", "R"]

theorem ReferentialAction.ofCatalog_eq (text : String) :
    ofCatalog text =
      (all.find? (·.words.contains (upperCase (trimmed text)))).getD .restrict := by
  unfold ofCatalog
  generalize upperCase (trimmed text) = word
  split
  iterate 8 rfl
  next hcascade hc hset hset' hn hno hno' ha =>
    -- what is left of the words is that of the action for unknown ones
    have hwords (action : ReferentialAction) (hmem : word ∈ action.words) : action = restrict := by
      cases action <;> simp_all [words]
    cases hfound : all.find? (·.words.contains word) with
    | none => rfl
    | some action =>
      have hmem : action.words.contains word = true :=
        List.find?_some (p := fun a : ReferentialAction => a.words.contains word) hfound
      exact (hwords action (List.contains_iff_mem.mp hmem)).symm

namespace Row

/-- The action for which a row has one of the words, in any case and between blanks. Without such a
word it is to restrict. -/
def listedAction (row : Row) (key : String) : ReferentialAction :=
  match row.text? key with
  | none => .restrict
  | some text =>
    (ReferentialAction.all.find? (·.words.contains (upperCase (trimmed text)))).getD .restrict

theorem action_eq (row : Row) (key : String) : row.action key = row.listedAction key := by
  unfold action listedAction
  cases row.text? key with
  | none => rfl
  | some text => exact ReferentialAction.ofCatalog_eq text

/-- The words that say yes, in lower case. -/
def yesWords : List String := ["1", "t", "true", "yes", "y"]

/-- Whether a row says yes under a key, by a truth value, a number or a word. -/
def saysYes (row : Row) (key : String) : Bool :=
  (row.find? key).any fun
    | .bool yes => yes
    | .int n => n != 0
    | .float x => !x.isZero
    | .str text => yesWords.any (·.toList == Chars.asciiLower (Chars.trim text.toList))
    | _ => false

theorem isTrue_eq (row : Row) (key : String) : row.isTrue key = row.saysYes key := by
  unfold isTrue saysYes
  cases row.find? key with
  | none => rfl
  | some value =>
    cases value with
    | str text =>
      have hwords : trueWords = yesWords.map String.toList := by decide
      rw [Option.any_some]
      dsimp only
      rw [hwords, List.contains_eq_any_beq, List.any_map]
      congr 1
      funext word
      exact Bool.beq_comm
    | _ => rfl

/-- The part of a foreign key that a row gives, given the keys of its six values. -/
def keyPart? (row : Row) (name column table referenced onUpdate onDelete : String) :
    Option ForeignKeyPart :=
  (row.text? name).bind fun name =>
  (row.text? column).bind fun column =>
  (row.text? table).bind fun referencedTable =>
  (row.text? referenced).map fun referencedColumn =>
    { name, column, referencedTable, referencedColumn,
      onUpdate := row.listedAction onUpdate, onDelete := row.listedAction onDelete }

end Row

namespace Dialect

/-- The part of an index that a row of the product's index listing gives. -/
def indexPart? (d : Dialect) (row : Row) : Option IndexPart :=
  match d with
  | mysql =>
    (row.text? "INDEX_NAME").bind fun name =>
    (row.text? "COLUMN_NAME").map fun column =>
      { name, column
        role :=
          if name = "PRIMARY" then .primary
          else if row.int? "NON_UNIQUE" = some 0 then .unique
          else .plain
        kind :=
          if (row.text? "INDEX_TYPE").any (sameIgnoringCase · "FULLTEXT") then .fulltext else .plain
        length := row.uint32? "SUB_PART" }
  | postgresql =>
    (row.text? "name").bind fun name =>
    (row.text? "column_name").map fun column =>
      { name, column
        role :=
          if row.saysYes "is_primary" then .primary
          else if row.saysYes "is_unique" then .unique
          else .plain
        kind := if row.text? "method" = some "gin" then .fulltext else .plain
        length := none }
  | sqlserver =>
    (row.text? "name").bind fun name =>
    (row.text? "column_name").map fun column =>
      { name, column
        role :=
          if row.saysYes "is_primary" then .primary
          else if row.saysYes "is_unique" then .unique
          else .plain
        kind := .plain
        length := none }
  -- its index listing leaves the primary key to the column listing
  | sqlite => none

/-- The part of a foreign key that a row of the product's foreign key listing gives. -/
def keyPart? (d : Dialect) (row : Row) : Option ForeignKeyPart :=
  match d with
  | mysql =>
    row.keyPart? "CONSTRAINT_NAME" "COLUMN_NAME" "REFERENCED_TABLE_NAME" "REFERENCED_COLUMN_NAME"
      "UPDATE_RULE" "DELETE_RULE"
  | postgresql | sqlserver =>
    row.keyPart? "name" "column_name" "referenced_table" "referenced_column" "on_update"
      "on_delete"
  -- its foreign keys have numbers in place of names
  | sqlite => none

end Dialect

namespace Table

/-- Folds a part of an index into the primary key, a unique constraint or a plain index. -/
def foldPart (t : Table) (part : IndexPart) : Folding :=
  match part.role with
  | .primary => t.foldConstraint primaryConstraintName .primary part.column none
  | .unique => t.foldConstraint part.name .unique part.column none
  | .plain => t.foldIndex part.name part.kind part.column part.length

variable {t : Table}

theorem withText_of_some {row : Row} {key text : String} (h : row.text? key = some text)
    (next : String → Folding) : t.withText row key next = next text := by
  rw [withText, h]

theorem foldKeyRow_of_part {row : Row} {name column table referenced onUpdate onDelete : String}
    {part : ForeignKeyPart}
    (h : row.keyPart? name column table referenced onUpdate onDelete = some part) :
    t.foldKeyRow row name column table referenced onUpdate onDelete = t.foldForeignKey part := by
  obtain ⟨keyName, hname, h⟩ := Option.bind_eq_some_iff.mp h
  obtain ⟨keyColumn, hcolumn, h⟩ := Option.bind_eq_some_iff.mp h
  obtain ⟨target, htable, h⟩ := Option.bind_eq_some_iff.mp h
  obtain ⟨targetColumn, hreferenced, rfl⟩ := Option.map_eq_some_iff.mp h
  rw [foldKeyRow, withText_of_some hname, withText_of_some hcolumn, withText_of_some htable,
    withText_of_some hreferenced, Row.action_eq, Row.action_eq]

/-- A choice by role is the choice by what decides the role. -/
theorem foldPart_of_tests {primary unique : Prop} [Decidable primary] [Decidable unique]
    (name column : String) (kind : IndexKind) (length : Option UInt32) :
    t.foldPart
        { name, column, role := if primary then .primary else if unique then .unique else .plain,
          kind, length } =
      if primary then t.foldConstraint primaryConstraintName .primary column none
      else if unique then t.foldConstraint name .unique column none
      else t.foldIndex name kind column length := by
  by_cases hp : primary
  · simp [foldPart, hp]
  · by_cases hu : unique
    · simp [foldPart, hp, hu]
    · simp [foldPart, hp, hu]

end Table

namespace Dialect

variable {d : Dialect} {t : Table}

theorem foldIndex_of_part {row : Row} {part : IndexPart} (h : d.indexPart? row = some part) :
    d.foldIndex t row = t.foldPart part := by
  cases d with
  | sqlite => cases h
  | mysql =>
    obtain ⟨name, hname, h⟩ := Option.bind_eq_some_iff.mp h
    obtain ⟨column, hcolumn, rfl⟩ := Option.map_eq_some_iff.mp h
    rw [Table.foldPart_of_tests]
    change Mysql.foldIndex t row = _
    rw [Mysql.foldIndex, Table.withText_of_some hname, Table.withText_of_some hcolumn]
  | postgresql =>
    obtain ⟨name, hname, h⟩ := Option.bind_eq_some_iff.mp h
    obtain ⟨column, hcolumn, rfl⟩ := Option.map_eq_some_iff.mp h
    rw [Table.foldPart_of_tests]
    change Postgresql.foldIndex t row = _
    rw [Postgresql.foldIndex, Table.withText_of_some hname, hcolumn, Row.isTrue_eq, Row.isTrue_eq]
  | sqlserver =>
    obtain ⟨name, hname, h⟩ := Option.bind_eq_some_iff.mp h
    obtain ⟨column, hcolumn, rfl⟩ := Option.map_eq_some_iff.mp h
    rw [Table.foldPart_of_tests]
    change Sqlserver.foldIndex t row = _
    rw [Sqlserver.foldIndex, Table.withText_of_some hname, Table.withText_of_some hcolumn,
      Row.isTrue_eq, Row.isTrue_eq]

theorem foldForeignKey_of_part {row : Row} {part : ForeignKeyPart}
    (h : d.keyPart? row = some part) : d.foldForeignKey t row = t.foldForeignKey part := by
  cases d with
  | sqlite => cases h
  | mysql | postgresql | sqlserver => exact Table.foldKeyRow_of_part h

end Dialect

end PortableSql

import PortableSql.Proofs.Catalog.GeneratedColumns
import PortableSql.Proofs.Catalog.Listing
import PortableSql.Proofs.Catalog.Updates

namespace PortableSql

/-- The default that a column of the given type has from its row. -/
def CatalogDefault.columnValue? (type : ColumnType) : CatalogDefault → Option Json
  | value text => some (parse text type)
  | _ => none

namespace Column

variable {c : Column}

theorem withCatalog_type (c : Column) (nullable : Bool) (default : CatalogDefault) :
    (c.withCatalog nullable default).type = c.type := by
  cases default <;> rfl

theorem withCatalog_default (h : c.default = none) (nullable : Bool) (default : CatalogDefault) :
    (c.withCatalog nullable default).default = default.columnValue? c.type := by
  cases default with
  | absent | generated => exact h
  | value text => rfl

theorem markGenerated_type (c : Column) (generated : Bool) :
    (c.markGenerated generated).type = c.type := by
  cases generated <;> rfl

end Column

namespace Row

variable {key name : String} {value : Json} {row : Row}

theorem find?_cons_self (key : String) (value : Json) (row : Row) :
    find? ((key, value) :: row) key = some value := by
  simp [find?, sameIgnoringCase]

theorem find?_cons_of_ne (h : sameIgnoringCase key name = false) :
    find? ((key, value) :: row) name = find? row name := by
  simp [find?, h]

variable (h : sameIgnoringCase key name = false)
include h

theorem text?_cons_of_ne : text? ((key, value) :: row) name = row.text? name := by
  rw [text?, find?_cons_of_ne h, ← text?]

theorem filledText?_cons_of_ne : filledText? ((key, value) :: row) name = row.filledText? name := by
  rw [filledText?, text?_cons_of_ne h, ← filledText?]

theorem int?_cons_of_ne : int? ((key, value) :: row) name = row.int? name := by
  rw [int?, find?_cons_of_ne h, ← int?]

theorem uint32?_cons_of_ne : uint32? ((key, value) :: row) name = row.uint32? name := by
  rw [uint32?, int?_cons_of_ne h, ← uint32?]

theorem isTrue_cons_of_ne : isTrue ((key, value) :: row) name = row.isTrue name := by
  rw [isTrue, find?_cons_of_ne h, ← isTrue]

end Row

namespace Sqlite

open Table

theorem foldColumn_named {t : Table} {row : Row} {name : String}
    (hname : row.text? "name" = some name) :
    (t.Catalogued → (foldColumn t row).error? = none) ∧
      (foldColumn t row).table.column? name = some (column name row) := by
  have hadded := t.column?_addColumn (column name row)
  have hhas : (t.addColumn (column name row)).hasColumn name = true := by
    rw [hasColumn, Keyed.has]
    exact congrArg Option.isSome hadded
  simp only [foldColumn, withText, hname]
  cases keyPlace? row with
  | none => exact ⟨fun _ => rfl, hadded⟩
  | some place =>
    dsimp only
    have hcolumns := keepsColumns_foldConstraint (t := t.addColumn (column name row))
      primaryConstraintName .primary name (some (place - 1))
    refine ⟨fun h => ?_, ?_⟩
    · have hfollows := foldConstraint_follows (h.addColumn (column name row))
        (by decide : ConstraintKind.primary ≠ .foreign) (fun _ => rfl) name (some (place - 1))
      simp only [foldConstraint, hhas, Bool.not_true, Bool.false_eq_true, if_false] at hfollows ⊢
      obtain ⟨changed, hadd⟩ := ok_of_follows hfollows
      rw [Folding.ofChange_of_ok hadd]
    · rw [column?, hcolumns]
      exact hadded

end Sqlite

namespace Dialect

open Folding

variable {d : Dialect}

/-- A column has the default that its row gives, read by its type. -/
theorem describedColumn?_default {row : Row} {c : Column} (h : d.describedColumn? row = some c) :
    c.default = (row.default d.defaultKey).columnValue? c.type := by
  have hread : ∀ base : Column, base.default = none → ∀ nullable default,
      (base.withCatalog nullable default).default =
        default.columnValue? (base.withCatalog nullable default).type := by
    intro base hbase nullable default
    rw [Column.withCatalog_default hbase, Column.withCatalog_type]
  have hmark : ∀ (full : Column) (generated : Bool) (default : CatalogDefault),
      full.default = default.columnValue? full.type →
      (full.markGenerated generated).default =
        default.columnValue? (full.markGenerated generated).type := by
    intro full generated default hdefault
    rw [Column.default_markGenerated, Column.markGenerated_type, hdefault]
  obtain ⟨name, _, hcolumn⟩ := Option.bind_eq_some_iff.mp h
  cases d with
  | mysql =>
    obtain ⟨type, _, rfl⟩ := Option.map_eq_some_iff.mp hcolumn
    refine hread _ ?_ _ (row.default "COLUMN_DEFAULT")
    rw [Column.default_markGenerated]
    split
    next => rfl
    next => exact (NativeType.toColumn_fresh Mysql.typeRules true type).1
  | postgresql =>
    obtain ⟨type, _, rfl⟩ := Option.map_eq_some_iff.mp hcolumn
    have hfresh := (NativeType.toColumn_fresh Postgresql.typeRules false type).1
    exact hmark _ _ _ (hread _ hfresh (row.isTrue "nullable") (row.default "column_default"))
  | sqlite =>
    cases hcolumn
    exact hread _ (NativeType.toColumn_fresh Sqlite.typeRules true _).1 _ (row.default "dflt_value")
  | sqlserver =>
    obtain ⟨type, _, rfl⟩ := Option.map_eq_some_iff.mp hcolumn
    have hfresh := (Sqlserver.sized_fresh
      (NativeType.toColumn_fresh Sqlserver.typeRules false type) (row.int? "char_length") row).1
    exact hmark _ _ _ (hread _ hfresh (row.isTrue "is_nullable") (row.default "column_default"))

/-- A row that describes a column puts it on the table, without an error where the table is as
catalogs give it. -/
theorem foldColumn_described (t : Table) {row : Row} {c : Column}
    (hdescribed : d.describedColumn? row = some c) :
    (t.Catalogued → (d.foldColumn t row).error? = none) ∧
      (d.foldColumn t row).table.column? c.name = some c := by
  by_cases hd : d = .sqlite
  · subst hd
    obtain ⟨name, hname, hcolumn⟩ := Option.bind_eq_some_iff.mp hdescribed
    cases hcolumn
    exact Sqlite.foldColumn_named hname
  · rcases foldColumn_cases hd t row with ⟨described, hsome, hfold⟩ | ⟨hnone, _⟩
    · obtain rfl := Option.some.inj (hdescribed.symm.trans hsome)
      rw [hfold]
      exact ⟨fun _ => rfl, t.column?_addColumn c⟩
    · rw [hnone] at hdescribed
      cases hdescribed

/-- Nothing but the default of a row counts of what it says under the key of the default. -/
theorem foldColumn_shadowed {row : Row} {text : String}
    (h : row.default d.defaultKey = .ofCatalog text) (t : Table) :
    d.foldColumn t ((d.defaultKey, .str text) :: row) = d.foldColumn t row := by
  have hdefault : Row.default ((d.defaultKey, .str text) :: row) d.defaultKey =
      row.default d.defaultKey := by
    rw [h, Row.default, Row.text?, Row.find?_cons_self]
    rfl
  cases d with
  | mysql =>
    simp only [defaultKey] at hdefault ⊢
    simp (disch := decide) only [foldColumn, Mysql.foldColumn, Mysql.column, Table.withText,
      Row.text?_cons_of_ne, Row.filledText?_cons_of_ne, hdefault]
  | postgresql =>
    simp only [defaultKey] at hdefault ⊢
    simp (disch := decide) only [foldColumn, Postgresql.foldColumn, Postgresql.column,
      Table.withText, Row.text?_cons_of_ne, Row.filledText?_cons_of_ne, Row.isTrue_cons_of_ne,
      hdefault]
  | sqlite =>
    simp only [defaultKey] at hdefault ⊢
    simp (disch := decide) only [foldColumn, Sqlite.foldColumn, Sqlite.column, Sqlite.keyPlace?,
      Table.withText, Row.text?_cons_of_ne, Row.isTrue_cons_of_ne, Row.int?_cons_of_ne, hdefault]
  | sqlserver =>
    simp only [defaultKey] at hdefault ⊢
    simp (disch := decide) only [foldColumn, Sqlserver.foldColumn, Sqlserver.column,
      Sqlserver.withDigits, Table.withText, Row.text?_cons_of_ne, Row.isTrue_cons_of_ne,
      Row.int?_cons_of_ne, Row.uint32?_cons_of_ne, hdefault]

end Dialect

end PortableSql

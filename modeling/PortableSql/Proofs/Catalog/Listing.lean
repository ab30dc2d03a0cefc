import PortableSql.Catalog.Listing
import PortableSql.Proofs.Catalog.Folding

namespace PortableSql

open Folding Table

variable {t : Table}

theorem Table.foldKeyRow_follows (h : t.Catalogued) (row : Row)
    (name column table referenced onUpdate onDelete : String) :
    Follows t (t.foldKeyRow row name column table referenced onUpdate onDelete) := by
  refine follows_withText h fun _ => ?_
  refine follows_withText h fun _ => ?_
  refine follows_withText h fun _ => ?_
  refine follows_withText h fun _ => ?_
  exact foldForeignKey_follows h _

/-- A part of an index goes to the primary key, to a unique constraint or to a plain index. -/
theorem Table.follows_indexPart (h : t.Catalogued) {primary unique : Prop} [Decidable primary]
    [Decidable unique] (name : String) (kind : IndexKind) (column : String)
    (length : Option UInt32) :
    Follows t
      (if primary then t.foldConstraint primaryConstraintName .primary column none
      else if unique then t.foldConstraint name .unique column none
      else t.foldIndex name kind column length) := by
  split
  next => exact foldConstraint_follows h (by decide) (fun _ => rfl) column none
  next =>
    split
    next => exact foldConstraint_follows h (by decide) (by simp) column none
    next => exact foldIndex_follows h name kind column length

namespace Mysql

theorem foldColumn_follows (h : t.Catalogued) (row : Row) : Follows t (foldColumn t row) := by
  refine follows_withText h fun name => ?_
  refine follows_withText h fun type => ?_
  exact follows_addColumn h _

theorem foldIndex_follows (h : t.Catalogued) (row : Row) : Follows t (foldIndex t row) := by
  refine follows_withText h fun name => ?_
  refine follows_withText h fun column => ?_
  exact follows_indexPart h name _ column _

end Mysql

namespace Postgresql

theorem foldColumn_follows (h : t.Catalogued) (row : Row) : Follows t (foldColumn t row) := by
  refine follows_withText h fun name => ?_
  refine follows_withText h fun type => ?_
  exact follows_addColumn h _

theorem foldDocument_follows (h : t.Catalogued) (name : String) (columns : List String) :
    Follows t (foldDocument t name columns) := by
  induction columns generalizing t with
  | nil => exact follows_table h rfl []
  | cons column columns ih =>
    exact (Table.foldIndex_follows h name .fulltext column none).andThen fun u hu => ih hu

theorem foldIndex_follows (h : t.Catalogued) (row : Row) : Follows t (foldIndex t row) := by
  refine follows_withText h fun name => ?_
  dsimp only
  split
  next =>
    split
    next => exact foldDocument_follows h name _
    next => exact follows_table h rfl []
  next column _ => exact follows_indexPart h name _ column none

end Postgresql

namespace Sqlite

theorem foldColumn_follows (h : t.Catalogued) (row : Row) : Follows t (foldColumn t row) := by
  refine follows_withText h fun name => ?_
  dsimp only
  split
  next place _ =>
    obtain ⟨hcat, hname, herror⟩ := foldConstraint_follows (h.addColumn (column name row))
      (by decide : ConstraintKind.primary ≠ .foreign) (fun _ => rfl) name (some (place - 1))
    exact ⟨hcat, hname, herror⟩
  next => exact follows_addColumn h _

theorem keyColumns_subset (t : Table) (rows : List Row) : keyColumns t rows ⊆ t.columnNames := by
  intro name hn
  obtain ⟨⟨place, name⟩, hm, rfl⟩ := List.mem_map.mp hn
  obtain ⟨row, _, hrow⟩ := List.mem_filterMap.mp (List.mem_mergeSort.mp hm)
  obtain ⟨place, _, hrow⟩ := Option.bind_eq_some_iff.mp hrow
  obtain ⟨named, _, hrow⟩ := Option.bind_eq_some_iff.mp hrow
  split at hrow
  next hhas =>
    cases hrow
    exact hasColumn_iff.mp hhas
  next => cases hrow

theorem foldColumns_follows (h : t.Catalogued) (rows : List Row) :
    Follows t (foldColumns t rows) := by
  refine (follows_ofRows (fun u row hu => foldColumn_follows hu row) h rows).andThen ?_
  intro u hu
  dsimp only
  split
  next => exact follows_table hu rfl []
  next hlength =>
    refine follows_addConstraint hu ⟨?_, keyColumns_subset u rows⟩ (by simp) (fun _ => rfl)
    intro (hnil : keyColumns u rows = [])
    simp [hnil] at hlength

theorem foldIndex_follows (h : t.Catalogued) (row : Row) : Follows t (foldIndex t row) := by
  unfold foldIndex
  split
  next => exact follows_table h rfl []
  next =>
    refine follows_withText h fun name => ?_
    split
    next => exact follows_table h rfl []
    next column _ =>
      split
      next => exact foldConstraint_follows h (by decide) (by simp) column none
      next => exact Table.foldIndex_follows h name _ column none

theorem foldForeignKey_follows (h : t.Catalogued) (row : Row) :
    Follows t (foldForeignKey t row) := by
  refine follows_withText h fun _ => ?_
  refine follows_withText h fun _ => ?_
  refine follows_withText h fun _ => ?_
  exact Table.foldForeignKey_follows h _

end Sqlite

namespace Sqlserver

theorem foldColumn_follows (h : t.Catalogued) (row : Row) : Follows t (foldColumn t row) := by
  refine follows_withText h fun name => ?_
  refine follows_withText h fun type => ?_
  exact follows_addColumn h _

theorem foldIndex_follows (h : t.Catalogued) (row : Row) : Follows t (foldIndex t row) := by
  refine follows_withText h fun name => ?_
  refine follows_withText h fun column => ?_
  exact follows_indexPart h name .plain column none

end Sqlserver

/-- A row, or all rows of a column listing, that a product's catalog gives for a table. -/
inductive CatalogCall where
  | column (row : Row)
  | columns (rows : List Row)
  | index (row : Row)
  | foreignKey (row : Row)

namespace CatalogCall

def fold (d : Dialect) (t : Table) : CatalogCall → Folding
  | column row => d.foldColumn t row
  | columns rows => d.foldColumns t rows
  | index row => d.foldIndex t row
  | foreignKey row => d.foldForeignKey t row

end CatalogCall

namespace Dialect

variable (d : Dialect)

theorem foldColumn_follows (h : t.Catalogued) (row : Row) : Follows t (d.foldColumn t row) := by
  cases d with
  | mysql => exact Mysql.foldColumn_follows h row
  | postgresql => exact Postgresql.foldColumn_follows h row
  | sqlite => exact Sqlite.foldColumn_follows h row
  | sqlserver => exact Sqlserver.foldColumn_follows h row

theorem foldColumns_follows (h : t.Catalogued) (rows : List Row) :
    Follows t (d.foldColumns t rows) := by
  have hrows : Follows t (.ofRows d.foldColumn t rows) :=
    follows_ofRows (fun u row hu => d.foldColumn_follows hu row) h rows
  cases d with
  | sqlite => exact Sqlite.foldColumns_follows h rows
  | mysql | postgresql | sqlserver => exact hrows

theorem foldIndex_follows (h : t.Catalogued) (row : Row) : Follows t (d.foldIndex t row) := by
  cases d with
  | mysql => exact Mysql.foldIndex_follows h row
  | postgresql => exact Postgresql.foldIndex_follows h row
  | sqlite => exact Sqlite.foldIndex_follows h row
  | sqlserver => exact Sqlserver.foldIndex_follows h row

theorem foldForeignKey_follows (h : t.Catalogued) (row : Row) :
    Follows t (d.foldForeignKey t row) := by
  cases d with
  | sqlite => exact Sqlite.foldForeignKey_follows h row
  | mysql | postgresql | sqlserver => exact foldKeyRow_follows h row _ _ _ _ _ _

end Dialect

namespace CatalogCall

theorem fold_follows (d : Dialect) (h : t.Catalogued) (call : CatalogCall) :
    Follows t (call.fold d t) := by
  cases call with
  | column row => exact d.foldColumn_follows h row
  | columns rows => exact d.foldColumns_follows h rows
  | index row => exact d.foldIndex_follows h row
  | foreignKey row => exact d.foldForeignKey_follows h row

end CatalogCall

namespace Table

/-- The table after calls, each on what the one before has left, also where that has failed. -/
def foldAll (d : Dialect) (t : Table) (calls : List CatalogCall) : Table :=
  calls.foldl (fun t call => (call.fold d t).table) t

theorem Catalogued.foldAll (h : t.Catalogued) (d : Dialect) (calls : List CatalogCall) :
    (t.foldAll d calls).Catalogued ∧ (t.foldAll d calls).name = t.name := by
  induction calls generalizing t with
  | nil => exact ⟨h, rfl⟩
  | cons call calls ih =>
    have hf := call.fold_follows d h
    obtain ⟨hcat, hname⟩ := ih hf.catalogued
    exact ⟨hcat, hname.trans hf.name_eq⟩

/-- Whatever a catalog says of a table, and in whatever order, the table folded from it stays
well-formed, and a further call ends without an error or with that of an introspection. -/
theorem foldAll_new_wellFormed (d : Dialect) (name : String) (calls : List CatalogCall)
    (call : CatalogCall) :
    (foldAll d { name } calls).WellFormed ∧
      ((call.fold d (foldAll d { name } calls)).error? = none ∨
        ∃ message, (call.fold d (foldAll d { name } calls)).error? =
          some (.introspection message name none)) := by
  obtain ⟨hcat, hname⟩ := (Catalogued.new name).foldAll d calls
  refine ⟨hcat.toWellFormed, (call.fold_follows d hcat).error.imp_right ?_⟩
  rintro ⟨key, he⟩
  rw [missingValue, hname] at he
  exact ⟨_, he⟩

end Table

end PortableSql

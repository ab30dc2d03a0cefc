import PortableSql.Proofs.Catalog.UniqueIndexes
import PortableSql.Proofs.Connection.Description

namespace PortableSql

open Folding

/-- The first of the values under some keys that a row lacks. -/
def Row.lacking? (row : Row) (keys : List String) : Option String :=
  keys.find? fun key => (row.text? key).isNone

theorem Row.lacking?_eq_none_iff {row : Row} {keys : List String} :
    row.lacking? keys = none ↔ ∀ key ∈ keys, (row.text? key).isSome := by
  simp [lacking?, Option.isSome_iff_ne_none]

namespace Dialect

def columnNeeds : Dialect → List String
  | mysql => ["COLUMN_NAME", "COLUMN_TYPE"]
  | postgresql | sqlserver => ["name", "type"]
  | sqlite => ["name"]

/-- Two of the products have indexes over expressions in mind, whose rows have no column name. -/
def indexNeeds (d : Dialect) (row : Row) : List String :=
  match d with
  | mysql => ["INDEX_NAME", "COLUMN_NAME"]
  | postgresql => ["name"]
  | sqlite => if row.text? "origin" = some "pk" then [] else ["name"]
  | sqlserver => ["name", "column_name"]

def foreignKeyNeeds : Dialect → List String
  | mysql =>
    ["CONSTRAINT_NAME", "COLUMN_NAME", "REFERENCED_TABLE_NAME", "REFERENCED_COLUMN_NAME"]
  | postgresql | sqlserver => ["name", "column_name", "referenced_table", "referenced_column"]
  | sqlite => ["from", "table", "to"]

end Dialect

/-- A reader of rows that fails on those that lack a value it needs, and on no others. -/
structure Folding.Reads (needs : Row → List String) (step : Table → Row → Folding) : Prop where
  follows : ∀ {t : Table}, t.Catalogued → ∀ row, Follows t (step t row)
  error_eq : ∀ {t : Table}, t.Catalogued → ∀ row,
    (step t row).error? = (row.lacking? (needs row)).map t.missingValue

namespace Table

variable {t : Table} {row : Row}

theorem error_withText {key : String} {keys : List String} {next : String → Folding}
    (h : ∀ text, (next text).error? = (row.lacking? keys).map t.missingValue) :
    (t.withText row key next).error? = (row.lacking? (key :: keys)).map t.missingValue := by
  unfold withText
  rw [Row.lacking?, List.find?_cons]
  cases hkey : row.text? key with
  | some text => exact h text
  | none => rfl

theorem error_foldIndex (h : t.Catalogued) (name : String) (kind : IndexKind) (column : String)
    (length : Option UInt32) : (t.foldIndex name kind column length).error? = none :=
  (takes_foldPart h { name, column, role := .plain, kind, length }).ok

theorem error_foldConstraint (h : t.Catalogued) {name column : String} {kind : ConstraintKind}
    (plain : kind ≠ .foreign) (named : kind = .primary → name = primaryConstraintName)
    (place : Option Nat) : (t.foldConstraint name kind column place).error? = none := by
  have hfollows := foldConstraint_follows h plain named column place
  unfold foldConstraint at hfollows ⊢
  by_cases hhas : t.hasColumn column = true
  · simp only [hhas, Bool.not_true, Bool.false_eq_true, if_false] at hfollows ⊢
    obtain ⟨changed, hadd⟩ := ok_of_follows hfollows
    rw [ofChange_of_ok hadd]
  · simp [hhas]

theorem error_foldForeignKey (h : t.Catalogued) (part : ForeignKeyPart) :
    (t.foldForeignKey part).error? = none := by
  by_cases hhas : t.hasColumn part.column = true
  · exact (updates_foldForeignKey h (hasColumn_iff.mp hhas)).ok
  · simp [foldForeignKey, hhas]

end Table

namespace Dialect

variable (d : Dialect) {t : Table}

theorem reads_foldColumn : Reads (fun _ => d.columnNeeds) d.foldColumn := by
  refine ⟨fun h row => d.foldColumn_follows h row, fun {t} h row => ?_⟩
  cases d with
  | mysql | postgresql | sqlserver =>
    apply Table.error_withText
    intro name
    apply Table.error_withText
    intro type
    rfl
  | sqlite =>
    apply Table.error_withText
    intro name
    dsimp only
    split
    next => exact Table.error_foldConstraint (h.addColumn _) (by decide) (fun _ => rfl) _
    next => rfl

theorem reads_foldIndex : Reads d.indexNeeds d.foldIndex := by
  refine ⟨fun h row => d.foldIndex_follows h row, fun {t} h row => ?_⟩
  cases d with
  | mysql | sqlserver =>
    apply Table.error_withText
    intro name
    apply Table.error_withText
    intro column
    rw [← Table.foldPart_of_tests]
    exact (Table.takes_foldPart h _).ok
  | postgresql =>
    apply Table.error_withText
    intro name
    dsimp only
    split
    next =>
      split
      next => exact (Postgresql.foldDocument_takes h name _).ok
      next => rfl
    next column _ =>
      rw [← Table.foldPart_of_tests]
      exact (Table.takes_foldPart h _).ok
  | sqlite =>
    change (Sqlite.foldIndex t row).error? = _
    unfold Sqlite.foldIndex indexNeeds
    by_cases hkey : row.text? "origin" = some "pk"
    · simp [hkey, Row.lacking?]
    · simp only [hkey, if_false]
      apply Table.error_withText
      intro name
      split
      next => rfl
      next column _ =>
        split
        next => exact Table.error_foldConstraint h (by decide) (by simp) none
        next => exact Table.error_foldIndex h name _ column none

theorem reads_foldForeignKey : Reads (fun _ => d.foreignKeyNeeds) d.foldForeignKey := by
  refine ⟨fun h row => d.foldForeignKey_follows h row, fun {t} h row => ?_⟩
  cases d with
  | mysql | postgresql | sqlserver =>
    apply Table.error_withText
    intro name
    apply Table.error_withText
    intro column
    apply Table.error_withText
    intro table
    apply Table.error_withText
    intro referenced
    exact Table.error_foldForeignKey h _
  | sqlite =>
    apply Table.error_withText
    intro column
    apply Table.error_withText
    intro table
    apply Table.error_withText
    intro referenced
    exact Table.error_foldForeignKey h _

end Dialect

namespace Folding.Reads

variable {needs : Row → List String} {step : Table → Row → Folding} {t : Table}

/-- A listing is read up to its first row that lacks a value. -/
theorem error_ofRows (h : Reads needs step) (ht : t.Catalogued) (rows : List Row) :
    (ofRows step t rows).error? =
      (rows.findSome? fun row => row.lacking? (needs row)).map t.missingValue := by
  induction rows generalizing t with
  | nil => rfl
  | cons row rows ih =>
    have herror := h.error_eq ht row
    rw [List.findSome?_cons]
    cases hlack : row.lacking? (needs row) with
    | some key =>
      rw [hlack] at herror
      rw [ofRows, andThen_of_error herror]
      exact herror
    | none =>
      rw [hlack] at herror
      obtain ⟨_, hnext⟩ := andThen_of_ok herror (ofRows step · rows)
      have hfollows := h.follows ht row
      rw [ofRows, hnext, ih hfollows.catalogued]
      unfold Table.missingValue
      rw [hfollows.name_eq]

theorem ok_iff (h : Reads needs step) (ht : t.Catalogued) (row : Row) :
    (step t row).error? = none ↔ row.lacking? (needs row) = none := by
  rw [h.error_eq ht, Option.map_eq_none_iff]

theorem ofRows_ok_iff (h : Reads needs step) (ht : t.Catalogued) (rows : List Row) :
    (ofRows step t rows).error? = none ↔ ∀ row ∈ rows, row.lacking? (needs row) = none := by
  rw [h.error_ofRows ht, Option.map_eq_none_iff, List.findSome?_eq_none_iff]

end Folding.Reads

namespace Dialect

variable {d : Dialect} {t : Table} {columns indexes keys : List Row}

/-- Putting the columns of a primary key into their order is no reason to fail. -/
theorem error_foldColumns (d : Dialect) (h : t.Catalogued) (rows : List Row) :
    (d.foldColumns t rows).error? = (ofRows d.foldColumn t rows).error? := by
  cases d with
  | mysql | postgresql | sqlserver => rfl
  | sqlite =>
    change (Sqlite.foldColumns t rows).error? = (ofRows Sqlite.foldColumn t rows).error?
    have hfollows := Sqlite.foldColumns_follows h rows
    unfold Sqlite.foldColumns at hfollows ⊢
    cases herror : (ofRows Sqlite.foldColumn t rows).error? with
    | some e =>
      rw [andThen_of_error herror]
      exact herror
    | none =>
      have hmissing := hfollows.error
      rw [(andThen_of_ok herror _).2] at hmissing ⊢
      dsimp only at hmissing ⊢
      split at hmissing
      next hshort => rw [if_pos hshort]
      next hlong =>
        rw [if_neg hlong]
        -- a refused constraint is no missing value
        unfold ofChange at hmissing ⊢
        generalize Table.Mutation.runOn _ _ = outcome at hmissing ⊢
        rcases outcome with ⟨fault | _, changed⟩
        · rcases hmissing with hnone | ⟨key, hsome⟩
          · cases hnone
          · cases hsome
        · rfl

theorem readColumns_ok_iff (h : t.Catalogued) :
    (d.readColumns t columns).error? = none ↔
      columns ≠ [] ∧ ∀ row ∈ columns, row.lacking? d.columnNeeds = none := by
  unfold readColumns
  cases columns with
  | nil => simp [failed]
  | cons row rows =>
    have hread := d.reads_foldColumn.ofRows_ok_iff h (row :: rows)
    rw [List.isEmpty_cons, if_neg Bool.false_ne_true, d.error_foldColumns h, hread]
    exact (and_iff_right (List.cons_ne_nil _ _)).symm

theorem catalogued_readColumns (h : t.Catalogued) : (d.readColumns t columns).table.Catalogued := by
  unfold readColumns
  split
  next => exact h
  next => exact (d.foldColumns_follows h columns).catalogued

theorem isOk_result_bind {f : Folding} {next : Table → Except Error Table} :
    (f.result >>= next).isOk ↔ f.error? = none ∧ (next f.table).isOk := by
  unfold Folding.result
  cases f.error? with
  | some e => exact iff_of_false Bool.false_ne_true (by simp)
  | none => exact (and_iff_right rfl).symm

/-- A table is described unless it has no columns or a row of a listing lacks a value that it is
read for. -/
theorem described_isOk_iff (d : Dialect) (name : String) (columns indexes keys : List Row) :
    (d.described name [columns, indexes, keys]).isOk ↔
      (columns ≠ [] ∧ ∀ row ∈ columns, row.lacking? d.columnNeeds = none) ∧
        (∀ row ∈ indexes, row.lacking? (d.indexNeeds row) = none) ∧
          ∀ row ∈ keys, row.lacking? d.foreignKeyNeeds = none := by
  have hnew := Table.Catalogued.new name
  have hread : (d.readColumns { name := name } columns).table.Catalogued :=
    catalogued_readColumns hnew
  have hfold := follows_ofRows (fun u row hu => d.foldIndex_follows hu row) hread indexes
  rw [described, readings, Table.withListings, isOk_result_bind, Table.withListings,
    isOk_result_bind, Table.withListings, isOk_result_bind, readColumns_ok_iff hnew,
    d.reads_foldIndex.ofRows_ok_iff hread, d.reads_foldForeignKey.ofRows_ok_iff hfold.catalogued]
  exact and_congr_right fun _ => and_congr_right fun _ => and_iff_left rfl

/-- A null for the column of a MySQL index over an expression, or for the target of a SQLite foreign
key that refers to the primary key, cannot be read, and a table that has one cannot be described. -/
theorem nulls_readable_iff (h : t.Catalogued)
    (named : ∀ row ∈ indexes, (row.text? "INDEX_NAME").isSome)
    (placed : ∀ row ∈ keys, (row.text? "from").isSome ∧ (row.text? "table").isSome) :
    (∀ row ∈ indexes, (mysql.foldIndex t row).error? = none ↔ (row.text? "COLUMN_NAME").isSome) ∧
    (∀ row ∈ keys, (sqlite.foldForeignKey t row).error? = none ↔ (row.text? "to").isSome) ∧
    ((ofRows mysql.foldIndex t indexes).error? = none ↔
      ∀ row ∈ indexes, (row.text? "COLUMN_NAME").isSome) ∧
    ((ofRows sqlite.foldForeignKey t keys).error? = none ↔
      ∀ row ∈ keys, (row.text? "to").isSome) ∧
    (∀ name columns others, (mysql.described name [columns, [], others]).isOk →
      ((mysql.described name [columns, indexes, others]).isOk ↔
        ∀ row ∈ indexes, (row.text? "COLUMN_NAME").isSome)) ∧
    ∀ name columns others, (sqlite.described name [columns, others, []]).isOk →
      ((sqlite.described name [columns, others, keys]).isOk ↔
        ∀ row ∈ keys, (row.text? "to").isSome) := by
  have hindex : ∀ row ∈ indexes,
      row.lacking? (mysql.indexNeeds row) = none ↔ (row.text? "COLUMN_NAME").isSome := by
    intro row hm
    have hname := named row hm
    simp [Row.lacking?_eq_none_iff, indexNeeds, hname]
  have hkey : ∀ row ∈ keys,
      row.lacking? sqlite.foreignKeyNeeds = none ↔ (row.text? "to").isSome := by
    intro row hm
    obtain ⟨hfrom, htable⟩ := placed row hm
    simp [Row.lacking?_eq_none_iff, foreignKeyNeeds, hfrom, htable]
  refine ⟨?_, ?_, ?_, ?_, ?_, ?_⟩
  · intro row hm
    rw [mysql.reads_foldIndex.ok_iff h, hindex row hm]
  · intro row hm
    rw [sqlite.reads_foldForeignKey.ok_iff h, hkey row hm]
  · rw [mysql.reads_foldIndex.ofRows_ok_iff h]
    exact forall₂_congr hindex
  · rw [sqlite.reads_foldForeignKey.ofRows_ok_iff h]
    exact forall₂_congr hkey
  · intro name columns others hwithout
    rw [described_isOk_iff] at hwithout ⊢
    obtain ⟨hcolumns, -, hothers⟩ := hwithout
    rw [and_iff_right hcolumns, and_iff_left hothers]
    exact forall₂_congr hindex
  · intro name columns others hwithout
    rw [described_isOk_iff] at hwithout ⊢
    obtain ⟨hcolumns, hothers, -⟩ := hwithout
    rw [and_iff_right hcolumns, and_iff_right hothers]
    exact forall₂_congr hkey

/-- Of a listing with an expression among the columns of an index, and of one with a key that gives
its target and one that does not. -/
theorem nulls_readable_iff_mixed :
    let t : Table := { name := "t", columns := [{ name := "a", type := .integer }] }
    let part (column : Json) : Row :=
      [("INDEX_NAME", .str "i"), ("COLUMN_NAME", column), ("NON_UNIQUE", .int 1)]
    let key (id : Int) (target : Json) : Row :=
      [("id", .int id), ("seq", .int 0), ("table", .str "u"), ("from", .str "a"), ("to", target)]
    let indexes := [part (.str "a"), part .null]
    let keys := [key 0 (.str "x"), key 1 .null]
    let mysqlColumns : List Row := [[("COLUMN_NAME", .str "a"), ("COLUMN_TYPE", .str "int")]]
    let sqliteColumns : List Row := [[("name", .str "a"), ("type", .str "integer")]]
    t.Catalogued ∧ (∀ row ∈ indexes, (row.text? "INDEX_NAME").isSome) ∧
      (∀ row ∈ keys, (row.text? "from").isSome ∧ (row.text? "table").isSome) ∧
      (mysql.described "t" [mysqlColumns, [], []]).isOk ∧
      (sqlite.described "t" [sqliteColumns, [], []]).isOk ∧
      (mysql.foldIndex t (part (.str "a"))).error? = none ∧
      (mysql.foldIndex t (part .null)).error? ≠ none ∧
      (sqlite.foldForeignKey t (key 0 (.str "x"))).error? = none ∧
      (sqlite.foldForeignKey t (key 1 .null)).error? ≠ none ∧
      ¬(mysql.described "t" [mysqlColumns, indexes, []]).isOk ∧
      ¬(sqlite.described "t" [sqliteColumns, [], keys]).isOk := by
  intro t part key indexes keys mysqlColumns sqliteColumns
  have hbare : t.Bare := ⟨by decide, rfl, rfl⟩
  have hnamed : ∀ row ∈ indexes, (row.text? "INDEX_NAME").isSome := by decide +kernel
  have hplaced : ∀ row ∈ keys, (row.text? "from").isSome ∧ (row.text? "table").isSome := by
    decide +kernel
  have hmysql : (mysql.described "t" [mysqlColumns, [], []]).isOk := by decide +kernel
  have hsqlite : (sqlite.described "t" [sqliteColumns, [], []]).isOk := by decide +kernel
  have hindex : ¬((part .null).text? "COLUMN_NAME").isSome := by decide +kernel
  have hkey : ¬((key 1 .null).text? "to").isSome := by decide +kernel
  obtain ⟨hparts, hkeys, -, -, hindexes, hforeign⟩ :=
    nulls_readable_iff hbare.catalogued hnamed hplaced
  refine ⟨hbare.catalogued, hnamed, hplaced, hmysql, hsqlite, ?_, ?_, ?_, ?_, ?_, ?_⟩
  · exact (hparts (part (.str "a")) (by simp [indexes])).mpr (by decide +kernel)
  · exact (hparts (part .null) (by simp [indexes])).not.mpr hindex
  · exact (hkeys (key 0 (.str "x")) (by simp [keys])).mpr (by decide +kernel)
  · exact (hkeys (key 1 .null) (by simp [keys])).not.mpr hkey
  · intro hok
    exact hindex ((hindexes "t" mysqlColumns [] hmysql).mp hok (part .null) (by simp [indexes]))
  · intro hok
    exact hkey ((hforeign "t" sqliteColumns [] hsqlite).mp hok (key 1 .null) (by simp [keys]))

/-- An index on an expression and a key without a target name, as the catalogs list them, each with
all other values there. -/
theorem foldIndex_expression_fails :
    let t : Table := { name := "t", columns := [{ name := "a", type := .integer }] }
    let index : Row :=
      [("INDEX_NAME", .str "i"), ("COLUMN_NAME", .null), ("NON_UNIQUE", .int 1),
       ("SEQ_IN_INDEX", .int 1), ("INDEX_TYPE", .str "BTREE"), ("SUB_PART", .null)]
    let key : Row :=
      [("id", .int 0), ("seq", .int 0), ("table", .str "u"), ("from", .str "a"), ("to", .null),
       ("on_update", .str "NO ACTION"), ("on_delete", .str "CASCADE")]
    t.Bare ∧ (mysql.foldIndex t index).error? = some (t.missingValue "COLUMN_NAME") ∧
      (sqlite.foldForeignKey t key).error? = some (t.missingValue "to") := by
  intro t index key
  have hbare : t.Bare := ⟨by decide, rfl, rfl⟩
  have hindex : index.lacking? (mysql.indexNeeds index) = some "COLUMN_NAME" := by decide +kernel
  have hkey : key.lacking? sqlite.foreignKeyNeeds = some "to" := by decide +kernel
  refine ⟨hbare, ?_, ?_⟩
  · rw [mysql.reads_foldIndex.error_eq hbare.catalogued, hindex]
    rfl
  · rw [sqlite.reads_foldForeignKey.error_eq hbare.catalogued, hkey]
    rfl

end Dialect

end PortableSql

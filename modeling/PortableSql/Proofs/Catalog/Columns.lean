import PortableSql.Catalog.Listing
import PortableSql.Proofs.Table.Editing

namespace PortableSql

open Folding

namespace Folding

variable {f : Folding}

theorem andThen_of_ok (h : f.error? = none) (next : Table → Folding) :
    (f.andThen next).table = (next f.table).table ∧
      (f.andThen next).error? = (next f.table).error? := by
  simp [andThen, h]

theorem andThen_of_error {e : Error} (h : f.error? = some e) (next : Table → Folding) :
    f.andThen next = f := by
  simp [andThen, h]

/-- Whether a folding leaves the columns of a table as they are. -/
def KeepsColumns (t : Table) (f : Folding) : Prop := f.table.columns = t.columns

theorem KeepsColumns.andThen {t : Table} {next : Table → Folding} (h : KeepsColumns t f)
    (hnext : ∀ u, KeepsColumns u (next u)) : KeepsColumns t (f.andThen next) := by
  cases he : f.error? with
  | some e => rwa [andThen_of_error he]
  | none =>
    obtain ⟨htable, _⟩ := andThen_of_ok he next
    rw [KeepsColumns, htable]
    exact (hnext f.table).trans h

theorem keepsColumns_ofRows {step : Table → Row → Folding}
    (hstep : ∀ t row, KeepsColumns t (step t row)) (t : Table) (rows : List Row) :
    KeepsColumns t (ofRows step t rows) := by
  induction rows generalizing t with
  | nil => rfl
  | cons row rows ih => exact (hstep t row).andThen ih

end Folding

namespace Table

variable {t changed : Table}

theorem keepsColumns_withText {row : Row} {key : String} {next : String → Folding}
    (h : ∀ text, KeepsColumns t (next text)) : KeepsColumns t (t.withText row key next) := by
  unfold withText
  split
  · exact h _
  · rfl

theorem keepsColumns_ofChange {change : Mutation Unit} {allowed : Prop}
    (h : change.Guarded t allowed changed) (hcolumns : changed.columns = t.columns) :
    KeepsColumns t (.ofChange t change) := by
  unfold ofChange
  cases h with
  | made _ run =>
    rw [run]
    exact hcolumns
  | refused _ fault run =>
    rw [run]
    rfl

theorem keepsColumns_foldIndex (name : String) (kind : IndexKind) (column : String)
    (length : Option UInt32) : KeepsColumns t (t.foldIndex name kind column length) := by
  unfold foldIndex
  split
  · rfl
  · exact keepsColumns_ofChange (guarded_addIndex t _) rfl

theorem keepsColumns_foldConstraint (name : String) (kind : ConstraintKind) (column : String)
    (place : Option Nat) : KeepsColumns t (t.foldConstraint name kind column place) := by
  unfold foldConstraint
  split
  · rfl
  · exact keepsColumns_ofChange (guarded_addConstraint t _) rfl

/-- A part of an index goes to the primary key, to a unique constraint or to a plain index. -/
theorem keepsColumns_indexPart {primary unique : Prop} [Decidable primary] [Decidable unique]
    (name : String) (kind : IndexKind) (column : String) (length : Option UInt32) :
    KeepsColumns t
      (if primary then t.foldConstraint primaryConstraintName .primary column none
      else if unique then t.foldConstraint name .unique column none
      else t.foldIndex name kind column length) := by
  split
  · exact keepsColumns_foldConstraint _ _ _ _
  · split
    · exact keepsColumns_foldConstraint _ _ _ _
    · exact keepsColumns_foldIndex _ _ _ _

end Table

namespace Dialect

variable {d : Dialect}

def nameKey : Dialect → String
  | mysql => "COLUMN_NAME"
  | _ => "name"

/-- The column that a row of the product's column listing describes. -/
def describedColumn? (d : Dialect) (row : Row) : Option Column :=
  (row.text? d.nameKey).bind fun name =>
    match d with
    | mysql => (row.text? "COLUMN_TYPE").map fun type => Mysql.column name type row
    | postgresql => (row.text? "type").map fun type => Postgresql.column name type row
    | sqlite => some (Sqlite.column name row)
    | sqlserver => (row.text? "type").map fun type => Sqlserver.column name type row

theorem describedColumn?_name {row : Row} {c : Column} (h : d.describedColumn? row = some c) :
    row.text? d.nameKey = some c.name := by
  obtain ⟨name, hname, hcolumn⟩ := Option.bind_eq_some_iff.mp h
  rw [hname]
  cases d with
  | sqlite =>
    cases hcolumn
    rfl
  | mysql | postgresql | sqlserver =>
    obtain ⟨type, _, rfl⟩ := Option.map_eq_some_iff.mp hcolumn
    rfl

theorem withTexts_cases (t : Table) (row : Row) (first second : String)
    (column : String → String → Column) :
    (∃ c, ((row.text? first).bind fun name => (row.text? second).map (column name)) = some c ∧
        (t.withText row first fun name => t.withText row second fun type =>
          { table := t.addColumn (column name type) }) = { table := t.addColumn c }) ∨
      ((row.text? first).bind fun name => (row.text? second).map (column name)) = none ∧
        ∃ e, (t.withText row first fun name => t.withText row second fun type =>
          { table := t.addColumn (column name type) }) = failed t e := by
  unfold Table.withText
  cases row.text? first with
  | none => exact .inr ⟨rfl, _, rfl⟩
  | some name =>
    cases row.text? second with
    | none => exact .inr ⟨rfl, _, rfl⟩
    | some type => exact .inl ⟨_, rfl, rfl⟩

/-- A row either describes a column, which goes on the table, or fails. -/
theorem foldColumn_cases (hd : d ≠ .sqlite) (t : Table) (row : Row) :
    (∃ c, d.describedColumn? row = some c ∧ d.foldColumn t row = { table := t.addColumn c }) ∨
      d.describedColumn? row = none ∧ ∃ e, d.foldColumn t row = failed t e := by
  cases d with
  | sqlite => exact absurd rfl hd
  | mysql => exact withTexts_cases t row _ _ fun name type => Mysql.column name type row
  | postgresql => exact withTexts_cases t row _ _ fun name type => Postgresql.column name type row
  | sqlserver => exact withTexts_cases t row _ _ fun name type => Sqlserver.column name type row

theorem foldDocument_keepsColumns (t : Table) (name : String) (columns : List String) :
    KeepsColumns t (Postgresql.foldDocument t name columns) := by
  induction columns generalizing t with
  | nil => rfl
  | cons column columns ih =>
    exact (Table.keepsColumns_foldIndex name .fulltext column none).andThen ih

theorem foldIndex_keepsColumns (hd : d ≠ .sqlite) (t : Table) (row : Row) :
    KeepsColumns t (d.foldIndex t row) := by
  cases d with
  | sqlite => exact absurd rfl hd
  | mysql =>
    refine Table.keepsColumns_withText fun name => Table.keepsColumns_withText fun column => ?_
    exact Table.keepsColumns_indexPart name _ column _
  | postgresql =>
    refine Table.keepsColumns_withText fun name => ?_
    dsimp only
    split
    next =>
      split
      next => exact foldDocument_keepsColumns t name _
      next => rfl
    next column _ => exact Table.keepsColumns_indexPart name _ column none
  | sqlserver =>
    refine Table.keepsColumns_withText fun name => Table.keepsColumns_withText fun column => ?_
    exact Table.keepsColumns_indexPart name _ column none

/-- A listing goes on the table column by column, up to the first row that describes none. -/
theorem foldRows_eq (hd : d ≠ .sqlite) (t : Table) (rows : List Row) :
    ∃ folded rest, rows = folded ++ rest ∧
      ((ofRows d.foldColumn t rows).error? = none → rest = []) ∧
      (∀ row ∈ folded, (d.describedColumn? row).isSome) ∧
      (ofRows d.foldColumn t rows).table =
        (folded.filterMap d.describedColumn?).foldl Table.addColumn t := by
  induction rows generalizing t with
  | nil => exact ⟨[], [], rfl, fun _ => rfl, by simp, rfl⟩
  | cons row rows ih =>
    rw [ofRows]
    rcases foldColumn_cases hd t row with ⟨c, hc, hfold⟩ | ⟨_, e, hfold⟩
    · obtain ⟨folded, rest, hrows, hrest, hdescribed, htable⟩ := ih (t.addColumn c)
      have hok : (d.foldColumn t row).error? = none := by rw [hfold]
      obtain ⟨hnext, herror⟩ := andThen_of_ok hok fun t => ofRows d.foldColumn t rows
      rw [hnext, herror, hfold]
      refine ⟨row :: folded, rest, by rw [hrows, List.cons_append], hrest, ?_, ?_⟩
      · intro r hr
        rcases List.mem_cons.mp hr with rfl | hr
        · simp [hc]
        · exact hdescribed r hr
      · rw [List.filterMap_cons_some hc]
        exact htable
    · refine ⟨[], row :: rows, rfl, fun herror => ?_, by simp, ?_⟩
      · rw [hfold, andThen_of_error (e := e) rfl] at herror
        cases herror
      · rw [hfold, andThen_of_error (e := e) rfl]
        rfl

theorem columns_foldl_addColumn (t : Table) (columns : List Column) :
    (columns.foldl Table.addColumn t).columns =
      columns.foldl (fun acc c => Keyed.put Column.name c acc) t.columns := by
  induction columns generalizing t with
  | nil => rfl
  | cons c columns ih => exact ih (t.addColumn c)

/-- Each column of a table is described by the last of the listed rows with its name. -/
theorem exists_row_of_mem_columns (hd : d ≠ .sqlite) {name : String} {rows : List Row} {c : Column}
    (hc : c ∈ (ofRows d.foldColumn { name } rows).table.columns) :
    ∃ before row after, rows = before ++ row :: after ∧ d.describedColumn? row = some c ∧
      ((ofRows d.foldColumn { name } rows).error? = none →
        ∀ later ∈ after, later.text? d.nameKey ≠ some c.name) := by
  obtain ⟨folded, rest, hrows, hrest, hdescribed, htable⟩ := foldRows_eq hd { name } rows
  rw [htable, columns_foldl_addColumn] at hc
  rcases Keyed.mem_foldl_put (by simp) hc with ⟨hm, _⟩ | ⟨before, after, hlist, hafter⟩
  · cases hm
  · obtain ⟨first, last, rfl, _, hlast⟩ := List.filterMap_eq_append_iff.mp hlist
    obtain ⟨skipped, row, after', rfl, _, hrow, hlater⟩ := List.filterMap_eq_cons_iff.mp hlast
    refine ⟨first ++ skipped, row, after' ++ rest, by simp [hrows], hrow, ?_⟩
    intro herror later hm hname
    rw [hrest herror, List.append_nil] at hm
    have hin : later ∈ first ++ (skipped ++ row :: after') := by simp [hm]
    obtain ⟨other, hother⟩ := Option.isSome_iff_exists.mp (hdescribed later hin)
    have hmem : other ∈ after := by
      rw [← hlater]
      exact List.mem_filterMap.mpr ⟨later, hm, hother⟩
    have hsame := (describedColumn?_name hother).symm.trans hname
    exact hafter other hmem (Option.some.inj hsame)

end Dialect

end PortableSql

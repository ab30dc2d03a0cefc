import PortableSql.Proofs.Catalog.Columns
import PortableSql.Proofs.Dialect.Generated
import PortableSql.Proofs.NativeType

namespace PortableSql

open Dialect

/-- Whether a default takes its values from a sequence. -/
def takesNextValue (default : Option String) : Bool :=
  default.any fun text => Chars.startsWith "nextval(".toList (Chars.lower (Chars.trim text.toList))

theorem CatalogDefault.ofCatalog?_eq_generated {default : Option String} :
    ofCatalog? default = .generated ↔ takesNextValue default = true := by
  cases default with
  | none => simp [ofCatalog?, takesNextValue]
  | some text =>
    rw [ofCatalog?, takesNextValue, Option.any_some, ofCatalog]
    dsimp only
    split
    next h => exact iff_of_true rfl h
    next h =>
      have hplain : ∀ (missing : Bool) (read : String),
          (if missing = true then absent else value read) ≠ .generated := by
        intro missing read
        cases missing <;> simp
      exact iff_of_false (hplain _ _) h

/-- A column as its catalog row has it: generated where the row says so, and with no default but one
read by the type of the column. -/
structure Column.FollowsRow (c : Column) (generated : Bool) (default : Option String) : Prop where
  autoIncrement : c.autoIncrement = if generated || takesNextValue default then some true else none
  default : c.default = none ∨ ∃ text, c.default = some (CatalogDefault.parse text c.type)

namespace Column

variable {c : Column}

variable {generated : Bool} {default : Option String}

theorem followsRow_withCatalog (generated : Bool) (hdefault : c.default = none)
    (hauto : c.autoIncrement = if generated then some true else none) (nullable : Bool)
    (default : Option String) :
    (c.withCatalog nullable (.ofCatalog? default)).FollowsRow generated default := by
  have hsequence : CatalogDefault.ofCatalog? default = .generated ↔ takesNextValue default = true :=
    CatalogDefault.ofCatalog?_eq_generated
  have hplain : CatalogDefault.ofCatalog? default ≠ .generated →
      c.autoIncrement = if generated || takesNextValue default then some true else none := by
    intro hne
    rw [Bool.eq_false_iff.mpr fun h => hne (hsequence.mpr h), Bool.or_false]
    exact hauto
  cases hread : CatalogDefault.ofCatalog? default with
  | generated =>
    refine ⟨?_, .inl hdefault⟩
    rw [hsequence.mp hread, Bool.or_true]
    rfl
  | absent => exact ⟨hplain (by simp [hread]), .inl hdefault⟩
  | value text => exact ⟨hplain (by simp [hread]), .inr ⟨text, rfl⟩⟩

theorem autoIncrement_markGenerated (hauto : c.autoIncrement = none) (generated : Bool) :
    (c.markGenerated generated).autoIncrement = if generated then some true else none := by
  cases generated with
  | false => exact hauto
  | true => rfl

theorem default_markGenerated (generated : Bool) :
    (c.markGenerated generated).default = c.default := by
  cases generated <;> rfl

theorem FollowsRow.markGenerated (h : c.FollowsRow false default) (generated : Bool) :
    (c.markGenerated generated).FollowsRow generated default := by
  cases generated with
  | false => exact h
  | true => exact ⟨rfl, h.default⟩

/-- An integer column is generated by the row that it is read from, or as the whole primary key. -/
theorem FollowsRow.isSerial_iff {t : Table} (h : c.FollowsRow generated default)
    (htype : c.type.isInteger = true) :
    t.isSerial c = true ↔
      generated = true ∨ takesNextValue default = true ∨ t.primaryKey? = some [c.name] := by
  rw [Table.isSerial, htype, Bool.true_and, h.autoIncrement, ← or_assoc, ← Bool.or_eq_true]
  cases hmark : generated || takesNextValue default with
  | true => simp
  | false => simp

theorem FollowsRow.integerDefault (h : c.FollowsRow generated default)
    (htype : c.type.isInteger = true) : IntegerDefault c := by
  intro value hvalue
  rcases h.default with hnone | ⟨text, hsome⟩
  · simp [defaultValue?, hnone] at hvalue
  · have hparse : CatalogDefault.parse text c.type =
        ((Numeral.int64? text.toList).map Json.int).getD (.str text) := by
      rcases ColumnType.isInteger_iff.mp htype with ht | ht
      · rw [ht, CatalogDefault.parse]
      · rw [ht, CatalogDefault.parse]
    rw [defaultValue?, hsome, hparse] at hvalue
    have hread := (Option.filter_eq_some_iff.mp hvalue).1
    cases hnumber : Numeral.int64? text.toList with
    | none => exact .inr ⟨text, by simpa [hnumber] using hread.symm⟩
    | some n => exact .inl ⟨n, by simpa [hnumber] using hread.symm⟩

end Column

theorem Mysql.base_followsRow (type : String) (generated nullable : Bool)
    (default : Option String) :
    (((if Chars.startsWith "tinyint(1)".toList (Chars.lower (Chars.trim type.toList)) then
      Column.ofType .boolean
    else NativeType.toColumn Mysql.typeRules true type).markGenerated generated).withCatalog nullable
      (.ofCatalog? default)).FollowsRow generated default := by
  have hfresh : ∀ base : Column, base.default = none ∧ base.autoIncrement = none →
      ((base.markGenerated generated).withCatalog nullable
        (.ofCatalog? default)).FollowsRow generated default := by
    rintro base ⟨hdefault, hauto⟩
    exact Column.followsRow_withCatalog generated
      ((Column.default_markGenerated generated).trans hdefault)
      (Column.autoIncrement_markGenerated hauto generated) nullable default
  split
  · exact hfresh _ ⟨rfl, rfl⟩
  · exact hfresh _ (NativeType.toColumn_fresh Mysql.typeRules true type)

theorem Sqlserver.sized_fresh {c : Column} (hfresh : c.default = none ∧ c.autoIncrement = none)
    (length : Option Int) (row : Row) :
    (Sqlserver.withDigits (Sqlserver.withLength c length) row).default = none ∧
      (Sqlserver.withDigits (Sqlserver.withLength c length) row).autoIncrement = none := by
  have hlength : (Sqlserver.withLength c length).default = none ∧
      (Sqlserver.withLength c length).autoIncrement = none := by
    unfold Sqlserver.withLength
    split
    · exact hfresh
    · split
      · exact hfresh
      · exact hfresh
    · split
      · exact hfresh
      · exact hfresh
    · exact hfresh
  unfold Sqlserver.withDigits
  split
  · exact hlength
  · exact hlength

namespace Dialect

variable {d : Dialect}

def defaultKey : Dialect → String
  | mysql => "COLUMN_DEFAULT"
  | sqlite => "dflt_value"
  | _ => "column_default"

/-- Whether a row of the product's column listing has the mark of generated values. -/
def marksGenerated (d : Dialect) (row : Row) : Bool :=
  match d with
  | mysql =>
    (row.text? "EXTRA").any fun extra =>
      Chars.includes "auto_increment".toList (Chars.lower extra.toList)
  | sqlite => false
  | _ => row.isTrue "is_identity"

theorem describedColumn?_followsRow (hd : d ≠ .sqlite) {row : Row} {c : Column}
    (h : d.describedColumn? row = some c) :
    c.FollowsRow (d.marksGenerated row) (row.text? d.defaultKey) := by
  obtain ⟨name, _, hcolumn⟩ := Option.bind_eq_some_iff.mp h
  cases d with
  | sqlite => exact absurd rfl hd
  | mysql =>
    obtain ⟨type, _, rfl⟩ := Option.map_eq_some_iff.mp hcolumn
    have hread := Mysql.base_followsRow type (mysql.marksGenerated row)
      ((row.text? "IS_NULLABLE").any (sameIgnoringCase · "YES")) (row.text? "COLUMN_DEFAULT")
    exact ⟨hread.autoIncrement, hread.default⟩
  | postgresql =>
    obtain ⟨type, _, rfl⟩ := Option.map_eq_some_iff.mp hcolumn
    obtain ⟨hdefault, hauto⟩ := NativeType.toColumn_fresh Postgresql.typeRules false type
    have hread := (Column.followsRow_withCatalog false hdefault hauto (row.isTrue "nullable")
      (row.text? "column_default")).markGenerated (row.isTrue "is_identity")
    exact ⟨hread.autoIncrement, hread.default⟩
  | sqlserver =>
    obtain ⟨type, _, rfl⟩ := Option.map_eq_some_iff.mp hcolumn
    obtain ⟨hdefault, hauto⟩ := Sqlserver.sized_fresh
      (NativeType.toColumn_fresh Sqlserver.typeRules false type) (row.int? "char_length") row
    have hread := (Column.followsRow_withCatalog false hdefault hauto (row.isTrue "is_nullable")
      (row.text? "column_default")).markGenerated (row.isTrue "is_identity")
    exact ⟨hread.autoIncrement, hread.default⟩

/-- The table that a column listing and an index listing describe. -/
def listedTable (d : Dialect) (name : String) (rows indexRows : List Row) : Table :=
  (Folding.ofRows d.foldIndex (d.foldColumns { name } rows).table indexRows).table

/-- An integer column of a described table is created as one with generated values if and only if its
catalog row marks it so, takes its default from a sequence, or names the whole primary key. -/
theorem columnSql_saysGenerated_iff (hd : d ≠ .sqlite) (name : String) (rows indexRows : List Row) :
    let t := d.listedTable name rows indexRows
    ∀ c ∈ t.columns, c.type.isInteger →
      ∃ before row after, rows = before ++ row :: after ∧ row.text? d.nameKey = some c.name ∧
        ((d.foldColumns { name } rows).error? = none →
          ∀ later ∈ after, later.text? d.nameKey ≠ some c.name) ∧
        (SaysGenerated d (d.columnSql t c) ↔
          d.marksGenerated row ∨ takesNextValue (row.text? d.defaultKey) ∨
            t.primaryKey? = some [c.name]) := by
  intro t c hc htype
  have hrows : d.foldColumns { name } rows = Folding.ofRows d.foldColumn { name } rows := by
    cases d with
    | sqlite => exact absurd rfl hd
    | mysql | postgresql | sqlserver => rfl
  have hcolumns : t.columns = (d.foldColumns { name } rows).table.columns :=
    Folding.keepsColumns_ofRows (foldIndex_keepsColumns hd) _ indexRows
  rw [hcolumns, hrows] at hc
  obtain ⟨before, row, after, hsplit, hrow, hlast⟩ := exists_row_of_mem_columns hd hc
  have hfollows := describedColumn?_followsRow hd hrow
  rw [hrows]
  refine ⟨before, row, after, hsplit, describedColumn?_name hrow, hlast, ?_⟩
  rw [saysGenerated_columnSql_iff hd htype (hfollows.integerDefault htype)]
  exact hfollows.isSerial_iff htype

instance (d : Dialect) (sql : String) : Decidable (SaysGenerated d sql) :=
  inferInstanceAs (Decidable (∃ word ∈ generatedWords d, _))

/-- The mark of a column counts also where the column is a part of the primary key only. -/
theorem columnSql_saysGenerated_iff_partOfKey :
    let id : Row :=
      [("COLUMN_NAME", .str "id"), ("COLUMN_TYPE", .str "int(11)"), ("IS_NULLABLE", .str "NO"),
       ("EXTRA", .str "auto_increment")]
    let code : Row :=
      [("COLUMN_NAME", .str "code"), ("COLUMN_TYPE", .str "bigint(20)"),
       ("IS_NULLABLE", .str "NO"), ("EXTRA", .str "")]
    let key (column : String) : Row :=
      [("INDEX_NAME", .str "PRIMARY"), ("COLUMN_NAME", .str column), ("NON_UNIQUE", .int 0)]
    let t := mysql.listedTable "t" [id, code] [key "id", key "code"]
    mysql ≠ .sqlite ∧ ∃ c ∈ t.columns, c.name = "code" ∧ c.type.isInteger ∧
      ∃ before row after, [id, code] = before ++ row :: after ∧
        row.text? mysql.nameKey = some c.name ∧
        ((mysql.foldColumns { name := "t" } [id, code]).error? = none →
          ∀ later ∈ after, later.text? mysql.nameKey ≠ some c.name) ∧
        (SaysGenerated mysql (mysql.columnSql t c) ↔
          mysql.marksGenerated row ∨ takesNextValue (row.text? mysql.defaultKey) ∨
            t.primaryKey? = some [c.name]) := by
  intro id code key t
  have hany : t.columns.any (fun c => c.name == "code" && c.type.isInteger) = true := by
    decide +kernel
  obtain ⟨c, hc, hcolumn⟩ := List.any_eq_true.mp hany
  obtain ⟨hname, htype⟩ := Bool.and_eq_true_iff.mp hcolumn
  exact ⟨by decide, c, hc, beq_iff_eq.mp hname, htype,
    columnSql_saysGenerated_iff (by decide) "t" [id, code] [key "id", key "code"] c hc htype⟩

/-- Where nothing marks a column as generated, it still becomes generated as the whole primary key,
and by a default from a sequence also where the product has another mark. -/
theorem columnSql_saysGenerated_unmarked :
    let id : Row :=
      [("COLUMN_NAME", .str "id"), ("COLUMN_TYPE", .str "int(11)"), ("IS_NULLABLE", .str "NO"),
       ("EXTRA", .str "")]
    let key : Row :=
      [("INDEX_NAME", .str "PRIMARY"), ("COLUMN_NAME", .str "id"), ("NON_UNIQUE", .int 0)]
    let keyed := mysql.listedTable "t" [id] [key]
    let n : Row :=
      [("name", .str "n"), ("type", .str "int"), ("is_nullable", .bool true),
       ("column_default", .str "nextval('s')"), ("is_identity", .bool false)]
    let sequenced := sqlserver.listedTable "t" [n] []
    mysql.marksGenerated id = false ∧ sqlserver.marksGenerated n = false ∧
      (∃ c ∈ keyed.columns, c.name = "id" ∧ c.type.isInteger ∧
        SaysGenerated mysql (mysql.columnSql keyed c)) ∧
      ∃ c ∈ sequenced.columns, c.name = "n" ∧ c.type.isInteger ∧
        SaysGenerated sqlserver (sqlserver.columnSql sequenced c) := by
  intro id key keyed n sequenced
  have hkeyed : keyed.columns.any (fun c => c.name == "id" && (c.type.isInteger &&
      decide (SaysGenerated mysql (mysql.columnSql keyed c)))) = true := by
    decide +kernel
  have hsequenced : sequenced.columns.any (fun c => c.name == "n" && (c.type.isInteger &&
      decide (SaysGenerated sqlserver (sqlserver.columnSql sequenced c)))) = true := by
    decide +kernel
  simp only [List.any_eq_true, Bool.and_eq_true, beq_iff_eq, decide_eq_true_eq] at hkeyed hsequenced
  exact ⟨by decide +kernel, by decide +kernel, hkeyed, hsequenced⟩

end Dialect

end PortableSql

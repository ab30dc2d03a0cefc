import PortableSql.Proofs.Catalog.SqliteTypes
import PortableSql.Proofs.Table.Editing

namespace PortableSql

open Dialect

open CatalogDefault (ofCatalog ofCatalog_quoteString ofCatalog_toString parse)

namespace Sqlite

/-- The types of which a default is written as a text. -/
def textTypes : List ColumnType :=
  [.string, .text, .uuid, .decimal, .binary, .json, .date, .time, .dateTime, .timestamp]

/-- The defaults that a type can be given: none, a truth value, a signed integer of sixty-four bits
or any text. -/
def DefaultFits (type : ColumnType) : Option Json → Prop
  | none => True
  | some (.bool _) => type = .boolean
  | some (.int n) => type.isInteger ∧ fitsInt64 n
  | some (.str _) => type ∈ textTypes
  | some _ => False

/-- What the definition of a column has after the word for its default. -/
def defaultText? (c : Column) : Option String :=
  match c.defaultValue? with
  | some value => some (sqlite.quote value (some c.type))
  | none => if c.nullable = some true then some "NULL" else none

/-- The row that lists a column created by its definition: the type and the default as they are
written there. -/
def catalogRow (c : Column) : Row :=
  [("name", .str c.name), ("type", .str (sqlite.columnType c)),
   ("notnull", .int (if c.nullable = some false then 1 else 0)),
   ("dflt_value", Json.ofOption .str (defaultText? c)), ("pk", .int 0)]

theorem columnSql_eq (t : Table) (c : Column) :
    sqlite.columnSql t c =
      sqlite.quoteIdentifier c.name ++ " " ++ sqlite.columnType c ++
        (if c.nullable = some false then " NOT NULL" else "") ++
          ((defaultText? c).map (" DEFAULT " ++ ·)).getD "" := by
  have hclause : sqlite.defaultClause c = ((defaultText? c).map (" DEFAULT " ++ ·)).getD "" := by
    unfold defaultClause defaultText?
    cases c.defaultValue? with
    | some value => rfl
    | none =>
      dsimp only
      split
      · rfl
      · rfl
  have hmodifiers : sqlite.columnModifiers t c = [] := rfl
  have hserial : sqlite.serialType? c = none := rfl
  rw [columnSql, hclause, hmodifiers, hserial]
  simp

theorem timeKeyword_reads {text : String} (h : text ∈ timeKeywords) :
    ofCatalog text = .value text ∧ upperCase text = text := by
  have hall : ∀ word ∈ timeKeywords, ofCatalog word = .value word ∧ upperCase word = word := by
    decide +kernel
  exact hall text h

theorem storedType_mem_textTypes {c : Column} (h : c.type ∈ textTypes) :
    storedType c ∈ textTypes ∧ storedType c ≠ .json ∧
      (storedType c).isTemporal = c.type.isTemporal := by
  unfold storedType
  split
  next htype =>
    rw [htype]
    split <;> decide
  next htype =>
    rw [htype]
    decide
  next htype => exact ⟨h, htype, rfl⟩

theorem parse_of_mem_textTypes {type : ColumnType} (h : type ∈ textTypes) (hjson : type ≠ .json)
    (text : String) : parse text type = .str text := by
  cases type with
  | json => exact absurd rfl hjson
  | integer | bigInteger | float | boolean => exact absurd h (by decide)
  | _ => rfl

theorem quoteText_of_mem_textTypes {type : ColumnType} (h : type ∈ textTypes) (text : String) :
    sqlite.quoteText text (some type) =
      if type.isTemporal && timeKeywords.contains (upperCase text) then upperCase text
      else quoteString text := by
  have hboolean : ¬ some type = some ColumnType.boolean := by
    rintro ⟨rfl⟩
    exact absurd h (by decide)
  rw [quoteText, if_neg hboolean]
  rfl

/-- A default that was written is read as a value that is written the same. -/
theorem quote_reads {c : Column} {value : Json} (h : DefaultFits c.type (some value)) :
    ∃ text, ofCatalog (sqlite.quote value (some c.type)) = .value text ∧
      (parse text (storedType c)).isNull = false ∧
      sqlite.quote (parse text (storedType c)) (some (storedType c)) =
        sqlite.quote value (some c.type) := by
  cases value with
  | bool b =>
    have htype : c.type = .boolean := h
    have hstored : storedType c = .boolean := by simp [storedType, htype]
    rw [htype, hstored]
    cases b with
    | true => exact ⟨"TRUE", by decide +kernel, by decide +kernel, by decide +kernel⟩
    | false => exact ⟨"FALSE", by decide +kernel, by decide +kernel, by decide +kernel⟩
  | int n =>
    obtain ⟨htype, hfits⟩ : c.type.isInteger ∧ fitsInt64 n := h
    have hparse : parse (toString n) (storedType c) = .int n := by
      have hstored : storedType c = .integer ∨ storedType c = .bigInteger := by
        rcases ColumnType.isInteger_iff.mp htype with ht | ht
        · simp [storedType, ht]
        · simp [storedType, ht]
      rcases hstored with hs | hs
      all_goals
        rw [hs]
        simp only [parse, Numeral.int64?_toString hfits]
        rfl
    refine ⟨toString n, ofCatalog_toString n, ?_, ?_⟩
    · rw [hparse]
      rfl
    · rw [hparse]
      rfl
  | str text =>
    have htype : c.type ∈ textTypes := h
    obtain ⟨hstored, hjson, htemporal⟩ := storedType_mem_textTypes htype
    have hparse := parse_of_mem_textTypes hstored hjson
    simp only [quote, quoteText_of_mem_textTypes htype]
    split
    next hword =>
      obtain ⟨htime, hmem⟩ : c.type.isTemporal = true ∧ upperCase text ∈ timeKeywords := by
        simpa using hword
      obtain ⟨hcatalog, hupper⟩ := timeKeyword_reads hmem
      refine ⟨upperCase text, hcatalog, ?_, ?_⟩
      · rw [hparse]
        rfl
      · rw [hparse]
        simp only [quoteText_of_mem_textTypes hstored, hupper, htemporal, hword, if_true]
    next hword =>
      refine ⟨text, ofCatalog_quoteString text, ?_, ?_⟩
      · rw [hparse]
        rfl
      · rw [hparse]
        simp only [quoteText_of_mem_textTypes hstored, htemporal, hword]
        rfl
  | null | float | arr | obj => exact h.elim

theorem row_text?_name (c : Column) : (catalogRow c).text? "name" = some c.name := by
  simp [catalogRow, Row.text?, Row.find?, sameIgnoringCase, Chars.asciiLower]

theorem row_text?_type (c : Column) : (catalogRow c).text? "type" = some (sqliteType c) := by
  simp [catalogRow, Row.text?, Row.find?, sameIgnoringCase, Chars.asciiLower, columnType]

theorem row_text?_default (c : Column) : (catalogRow c).text? "dflt_value" = defaultText? c := by
  cases h : defaultText? c <;>
    simp [catalogRow, Row.text?, Row.find?, sameIgnoringCase, Chars.asciiLower, h, Json.ofOption]

theorem row_isTrue_notnull (c : Column) :
    (catalogRow c).isTrue "notnull" = decide (c.nullable = some false) := by
  by_cases h : c.nullable = some false <;>
    simp [catalogRow, Row.isTrue, Row.find?, sameIgnoringCase, Chars.asciiLower, h]

theorem keyPlace?_row (c : Column) : keyPlace? (catalogRow c) = none := by
  have hplace : (catalogRow c).find? "pk" = some (.int 0) := by
    simp [catalogRow, Row.find?, sameIgnoringCase, Chars.asciiLower]
  rw [keyPlace?, Row.int?, hplace]
  rfl

theorem foldColumn_row (t : Table) (c : Column) :
    sqlite.foldColumn t (catalogRow c) = { table := t.addColumn (column c.name (catalogRow c)) } := by
  change Sqlite.foldColumn t (catalogRow c) = _
  simp only [Sqlite.foldColumn, Table.withText, row_text?_name, keyPlace?_row]

theorem nullable_apply (default : CatalogDefault) (c : Column) (name : String) :
    { default.apply c with name }.nullable = c.nullable := by
  cases default <;> rfl

theorem columnType_apply (default : CatalogDefault) (c : Column) (nullable : Option Bool)
    (name : String) :
    sqlite.columnType { default.apply { c with nullable } with name } = sqliteType c := by
  cases default <;> rfl

/-- The column read back, from the type as it was written. -/
theorem column_row (c : Column) (hnullable : c.nullable.isSome) :
    column c.name (catalogRow c) =
      { (CatalogDefault.ofCatalog? (defaultText? c)).apply
          { NativeType.toColumn typeRules true (sqliteType c) with nullable := c.nullable } with
        name := c.name } := by
  have hnotnull : some (!(catalogRow c).isTrue "notnull") = c.nullable := by
    obtain ⟨allowed, hallowed⟩ := Option.isSome_iff_exists.mp hnullable
    rw [row_isTrue_notnull, hallowed]
    cases allowed <;> rfl
  rw [column, Column.withCatalog, hnotnull, row_text?_type, Row.default, row_text?_default]
  rfl

theorem defaultText?_column_row {c : Column} (hnullable : c.nullable.isSome)
    (hdefault : DefaultFits c.type c.defaultValue?) :
    defaultText? (column c.name (catalogRow c)) = defaultText? c := by
  have htype := (toColumn_sqliteType c).1
  have hfresh := (NativeType.toColumn_fresh typeRules true (sqliteType c)).1
  rw [column_row c hnullable]
  cases hvalue : c.defaultValue? with
  | none =>
    have htext : defaultText? c = if c.nullable = some true then some "NULL" else none := by
      rw [defaultText?, hvalue]
    have habsent : CatalogDefault.ofCatalog? (defaultText? c) = .absent := by
      rw [htext]
      split
      next => decide +kernel
      next => rfl
    rw [habsent, htext]
    simp [defaultText?, CatalogDefault.apply, Column.defaultValue?, hfresh]
  | some value =>
    rw [hvalue] at hdefault
    obtain ⟨text, hcatalog, hnull, hquote⟩ := quote_reads hdefault
    have htext : defaultText? c = some (sqlite.quote value (some c.type)) := by
      rw [defaultText?, hvalue]
    have hread : CatalogDefault.ofCatalog? (defaultText? c) = .value text := by
      rw [htext]
      exact hcatalog
    rw [hread, htext, ← hquote, ← htype]
    rw [← htype] at hnull
    simp [defaultText?, CatalogDefault.apply, Column.defaultValue?, Option.filter_some, hnull]

/-- A column of which the definition is listed as it was written is read back with the same
definition: its default may be any text, and its type may come back as another that is written the
same. -/
theorem sqlite_columnSql_foldColumn_catalogRow (t u : Table) (c : Column)
    (hnullable : c.nullable.isSome) (hdefault : DefaultFits c.type c.defaultValue?) :
    sqlite.columnSql u c =
        sqlite.quoteIdentifier c.name ++ " " ++ sqlite.columnType c ++
          (if c.nullable = some false then " NOT NULL" else "") ++
            ((defaultText? c).map (" DEFAULT " ++ ·)).getD "" ∧
      (sqlite.foldColumn t (catalogRow c)).error? = none ∧
      ∃ read, (sqlite.foldColumn t (catalogRow c)).table.column? c.name = some read ∧
        sqlite.columnSql (sqlite.foldColumn t (catalogRow c)).table read = sqlite.columnSql u c := by
  have hread := column_row c hnullable
  have hname : (column c.name (catalogRow c)).name = c.name := rfl
  have hallowed : (column c.name (catalogRow c)).nullable = c.nullable := by
    rw [hread, nullable_apply]
  have htype : sqlite.columnType (column c.name (catalogRow c)) = sqlite.columnType c := by
    rw [hread, columnType_apply]
    exact (toColumn_sqliteType c).2
  have hadded := t.column?_addColumn (column c.name (catalogRow c))
  rw [foldColumn_row]
  refine ⟨columnSql_eq u c, rfl, column c.name (catalogRow c), hadded, ?_⟩
  rw [columnSql_eq, columnSql_eq, hname, htype, hallowed,
    defaultText?_column_row hnullable hdefault]

/-- A fixed text of thirty-six characters comes back as an identifier, a quote in its default is
kept, and what looks like a cast in it is not stripped. -/
theorem sqlite_columnSql_foldColumn_catalogRow_char :
    let c : Column :=
      { name := "id", type := .string, length := some 36, nullable := some false,
        default := some (.str "(it's)::text"), fixed := true }
    c.nullable.isSome ∧ DefaultFits c.type c.defaultValue? ∧
      ∃ read, (sqlite.foldColumn { name := "t" } (catalogRow c)).table.column? "id" = some read ∧
        sqlite.columnSql (sqlite.foldColumn { name := "t" } (catalogRow c)).table read =
          "\"id\" CHAR(36) NOT NULL DEFAULT '(it''s)::text'" := by
  intro c
  have hdefault : DefaultFits c.type c.defaultValue? := List.mem_cons_self
  obtain ⟨_, _, read, hread, hsql⟩ :=
    sqlite_columnSql_foldColumn_catalogRow { name := "t" } { name := "t" } c rfl hdefault
  exact ⟨rfl, hdefault, read, hread, hsql.trans (by decide +kernel)⟩

end Sqlite

end PortableSql

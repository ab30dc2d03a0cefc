import PortableSql.Catalog.Listing
import PortableSql.Proofs.Catalog.TypeTexts
import PortableSql.Proofs.Table.Editing

namespace PortableSql

open NativeType Dialect

namespace Mysql

/-- The column that a native type text alone describes. -/
def readType (text : String) : Column :=
  if Chars.startsWith "tinyint(1)".toList (Chars.lower (Chars.trim text.toList)) then
    Column.ofType .boolean
  else toColumn typeRules true text

theorem columnType_column (name text : String) (row : Row) :
    mysql.columnType (column name text row) = mysql.columnType (readType text) := by
  have hmark : ∀ (base : Column) (generated : Bool),
      mysqlType (base.markGenerated generated) = mysqlType base := by
    intro base generated
    cases generated <;> rfl
  have hdefault : ∀ (base : Column) (nullable : Bool) (default : CatalogDefault)
      (comment : Option String),
      mysqlType { base.withCatalog nullable default with name, comment } = mysqlType base := by
    intro base nullable default comment
    cases default <;> rfl
  exact (hdefault _ _ _ _).trans (hmark _ _)

/-- Only a text that begins with the letter t can be a truth value in disguise. -/
theorem readType_of_first {text : String} {word : List Char} (hword : IsTypeWord word)
    (hbegin : word <+: text.toList) (ht : word.head?.map Char.toLower ≠ some 't') :
    readType text = toColumn typeRules true text := by
  obtain ⟨c, others, rfl⟩ := List.exists_cons_of_ne_nil hword.1
  obtain ⟨rest, htext⟩ := hbegin
  obtain ⟨hascii, hblank, _⟩ := hword.2.2 c List.mem_cons_self
  have htrim : Chars.trim text.toList = c :: Chars.trimEnd (others ++ rest) := by
    have hstart : Chars.trimStart text.toList = c :: (others ++ rest) := by
      rw [← htext, List.cons_append, Chars.trimStart, List.dropWhile_cons_of_neg (by simp [hblank])]
    rw [Chars.trim, hstart]
    exact Chars.trimEnd_append_cons hblank [] _
  have hother : Chars.startsWith "tinyint(1)".toList
      (Chars.lower (Chars.trim text.toList)) = false := by
    rw [htrim]
    exact Chars.startsWith_lower_cons hascii (fun heq => ht (congrArg some heq)) _ _
  rw [readType, hother, if_neg Bool.false_ne_true]

/-- A type text that is read as a column with the same type text. -/
def Stable (text : String) : Prop := mysql.columnType (readType text) = text

/-- The type texts in which no number of the column stands. -/
def plainTypes : List String :=
  ["TINYTEXT", "TEXT", "MEDIUMTEXT", "LONGTEXT", "CHAR(36)", "INTEGER", "INTEGER UNSIGNED",
   "BIGINT", "BIGINT UNSIGNED", "FLOAT", "FLOAT UNSIGNED", "DECIMAL", "DECIMAL UNSIGNED",
   "BOOLEAN", "DATE", "TIME", "DATETIME", "TIMESTAMP", "TINYBLOB", "BLOB", "MEDIUMBLOB",
   "LONGBLOB", "JSON"]

theorem stable_plainType {text : String} (h : text ∈ plainTypes) : Stable text := by
  have hall : ∀ word ∈ plainTypes, mysql.columnType (readType word) = word := by decide +kernel
  exact hall text h

theorem stable_of_read {text : String} {word : List Char} (hbegin : word <+: text.toList)
    (hword : IsTypeWord word) (ht : word.head?.map Char.toLower ≠ some 't') {read : Column}
    (hread : toColumn typeRules true text = read) (hsame : mysql.columnType read = text) :
    Stable text := by
  rw [Stable, readType_of_first hword hbegin ht, hread, hsame]

theorem prefix_sized (name : String) (n : UInt32) : name.toList <+: (sized name (some n)).toList := by
  rw [toList_sized]
  exact List.prefix_append _ _

theorem prefix_markUnsigned {word : List Char} {text : String} (h : word <+: text.toList)
    (unsigned : Bool) : word <+: (markUnsigned unsigned text).toList := by
  rw [toList_markUnsigned]
  exact h.trans (List.prefix_append _ _)

theorem stable_varchar (n : UInt32) : Stable (sized "VARCHAR" (some n)) :=
  stable_of_read (prefix_sized "VARCHAR" n) (by decide) (by decide)
    (toColumn_sized "VARCHAR" false (by decide) (.inl rfl) (by decide) n) rfl

/-- A fixed string of thirty-six characters comes back as an identifier. -/
theorem stable_char (n : UInt32) : Stable (sized "CHAR" (some n)) := by
  have hread : toColumn typeRules true (sized "CHAR" (some n)) =
      charsToUuid { Column.ofType .string with length := some n, fixed := true } :=
    toColumn_sized "CHAR" true (by decide) (.inl rfl) (by decide) n
  refine stable_of_read (prefix_sized "CHAR" n) (by decide) (by decide) hread ?_
  by_cases hn : n = 36
  · subst hn
    rfl
  · have hkept : charsToUuid { Column.ofType .string with length := some n, fixed := true } =
        { Column.ofType .string with length := some n, fixed := true } := by
      simp [charsToUuid, hn]
    rw [hkept]
    rfl

theorem stable_binary (n : UInt32) : Stable (sized "BINARY" (some n)) :=
  stable_of_read (prefix_sized "BINARY" n) (by decide) (by decide)
    (toColumn_sized "BINARY" true (by decide) (.inr rfl) (by decide) n) rfl

theorem stable_float (n : UInt32) (unsigned : Bool) :
    Stable (markUnsigned unsigned (sized "FLOAT" (some n))) := by
  refine stable_of_read (prefix_markUnsigned (prefix_sized "FLOAT" n) unsigned) (by decide)
    (by decide) (toColumn_float (by decide) n unsigned) ?_
  cases unsigned <;> rfl

theorem stable_decimal (n scale : UInt32) (unsigned : Bool) :
    Stable (markUnsigned unsigned s!"DECIMAL({n},{scale})") := by
  have hbegin : "DECIMAL".toList <+: s!"DECIMAL({n},{scale})".toList := by
    rw [toList_decimal]
    exact List.prefix_append _ _
  refine stable_of_read (prefix_markUnsigned hbegin unsigned) (by decide) (by decide)
    (toColumn_decimal (by decide) n scale unsigned) ?_
  cases unsigned <;> rfl

theorem mysqlTextType_mem (length : Option UInt32) : mysqlTextType length ∈ plainTypes := by
  unfold mysqlTextType
  split
  · decide
  · repeat' split
    all_goals decide

theorem mysqlBlobType_mem (length : Option UInt32) : mysqlBlobType length ∈ plainTypes := by
  unfold mysqlBlobType
  split
  · decide
  · repeat' split
    all_goals decide

theorem columnType_of_numeric {c : Column} (h : c.type.isNumeric = true) :
    mysql.columnType c = markUnsigned c.unsigned (mysqlBaseType c) := by
  rw [columnType, mysqlType, h, Bool.and_true, markUnsigned]

theorem columnType_of_not_numeric {c : Column} (h : c.type.isNumeric = false) :
    mysql.columnType c = mysqlBaseType c := by
  rw [columnType, mysqlType, h, Bool.and_false, if_neg Bool.false_ne_true]

/-- The type text of a column is read as a column that is written the same again. -/
theorem stable_columnType (c : Column) : Stable (mysql.columnType c) := by
  obtain ⟨name, type, length, precision, nullable, default, fixed, comment, unsigned, auto⟩ := c
  cases type with
  | string =>
    rw [columnType_of_not_numeric rfl]
    cases fixed with
    | false => exact stable_varchar _
    | true => exact stable_char _
  | text =>
    rw [columnType_of_not_numeric rfl]
    exact stable_plainType (mysqlTextType_mem length)
  | binary =>
    rw [columnType_of_not_numeric rfl]
    cases length with
    | none => exact stable_plainType (mysqlBlobType_mem none)
    | some n =>
      cases fixed with
      | false => exact stable_plainType (mysqlBlobType_mem (some n))
      | true => exact stable_binary n
  | float =>
    rw [columnType_of_numeric rfl]
    cases precision with
    | none =>
      have hmem : ∀ mark, markUnsigned mark "FLOAT" ∈ plainTypes := by decide
      exact stable_plainType (hmem unsigned)
    | some n => exact stable_float n unsigned
  | decimal =>
    rw [columnType_of_numeric rfl]
    cases length with
    | none =>
      have hmem : ∀ mark, markUnsigned mark "DECIMAL" ∈ plainTypes := by decide
      exact stable_plainType (hmem unsigned)
    | some n =>
      change Stable (markUnsigned unsigned (decimalTypeSql _))
      rw [decimalTypeSql_of_length rfl]
      exact stable_decimal n (precision.getD 0) unsigned
  | integer =>
    rw [columnType_of_numeric rfl]
    have hmem : ∀ mark, markUnsigned mark "INTEGER" ∈ plainTypes := by decide
    exact stable_plainType (hmem unsigned)
  | bigInteger =>
    rw [columnType_of_numeric rfl]
    have hmem : ∀ mark, markUnsigned mark "BIGINT" ∈ plainTypes := by decide
    exact stable_plainType (hmem unsigned)
  | uuid | boolean | date | time | dateTime | timestamp | json =>
    rw [columnType_of_not_numeric rfl]
    exact stable_plainType (by simp [mysqlBaseType, plainTypes])

/-- How many bytes a text or binary type without a length of its own holds. -/
def capacity? (type : String) : Option Nat :=
  if type ∈ ["TINYTEXT", "TINYBLOB"] then some 255
  else if type ∈ ["TEXT", "BLOB"] then some 65535
  else if type ∈ ["MEDIUMTEXT", "MEDIUMBLOB"] then some 16777215
  else if type ∈ ["LONGTEXT", "LONGBLOB"] then some 4294967295
  else none

/-- A type that is chosen by comparing a length with the sizes of its class. -/
theorem capacity?_of_size {tiny plain medium long : String} (n : UInt32)
    (htiny : capacity? tiny = some 255) (hplain : capacity? plain = some 65535)
    (hmedium : capacity? medium = some 16777215) (hlong : capacity? long = some 4294967295) :
    ∃ bound, capacity? (if n ≤ 255 then tiny else if n ≤ 65535 then plain
      else if n ≤ 16777215 then medium else long) = some bound ∧ n.toNat ≤ bound := by
  split
  next h => exact ⟨255, htiny, UInt32.le_iff_toNat_le.mp h⟩
  next =>
    split
    next h => exact ⟨65535, hplain, UInt32.le_iff_toNat_le.mp h⟩
    next =>
      split
      next h => exact ⟨16777215, hmedium, UInt32.le_iff_toNat_le.mp h⟩
      next =>
        have := n.toNat_lt
        exact ⟨4294967295, hlong, by omega⟩

/-- A column is read with the type text it was written with, whatever else its catalog row says, and
the type of a text or binary column of no fixed width holds the length of the column. -/
theorem mysql_columnType_foldColumn (c : Column) :
    (∀ (t : Table) (row : Row) (name : String), row.text? "COLUMN_NAME" = some name →
      (row.text? "COLUMN_TYPE" = some (mysql.columnType c) ∨
        c.type = .boolean ∧ row.text? "COLUMN_TYPE" = some "tinyint(1)") →
      (mysql.foldColumn t row).error? = none ∧
        ∃ read, (mysql.foldColumn t row).table.column? name = some read ∧
          mysql.columnType read = mysql.columnType c) ∧
    ∀ n, c.length = some n → (c.type = .text ∨ c.type = .binary ∧ c.fixed = false) →
      ∃ bound, capacity? (mysql.columnType c) = some bound ∧ n.toNat ≤ bound := by
  constructor
  · intro t row name hname htype
    obtain ⟨text, htext, hsame⟩ : ∃ text, row.text? "COLUMN_TYPE" = some text ∧
        mysql.columnType (readType text) = mysql.columnType c := by
      rcases htype with htype | ⟨hboolean, htype⟩
      · exact ⟨_, htype, stable_columnType c⟩
      · have hwritten : mysql.columnType c = "BOOLEAN" := by
          have hnumeric : c.type.isNumeric = false := by rw [hboolean]; rfl
          rw [columnType_of_not_numeric hnumeric, mysqlBaseType, hboolean]
        exact ⟨_, htype, hwritten ▸ by decide +kernel⟩
    have hfold : mysql.foldColumn t row = { table := t.addColumn (column name text row) } := by
      change foldColumn t row = _
      simp only [foldColumn, Table.withText, hname, htext]
    rw [hfold]
    exact ⟨rfl, column name text row, t.column?_addColumn (column name text row),
      (columnType_column name text row).trans hsame⟩
  · intro n hlength htype
    rcases htype with htext | ⟨hbinary, hfixed⟩
    · have hnumeric : c.type.isNumeric = false := by rw [htext]; rfl
      have hwritten : mysql.columnType c = mysqlTextType (some n) := by
        rw [columnType_of_not_numeric hnumeric, mysqlBaseType, htext, hlength]
      rw [hwritten]
      exact capacity?_of_size n (by decide) (by decide) (by decide) (by decide)
    · have hnumeric : c.type.isNumeric = false := by rw [hbinary]; rfl
      have hwritten : mysql.columnType c = mysqlBlobType (some n) := by
        rw [columnType_of_not_numeric hnumeric, mysqlBaseType, hbinary, hlength, hfixed]
      rw [hwritten]
      exact capacity?_of_size n (by decide) (by decide) (by decide) (by decide)

/-- The first length that needs the third class of binary types, in a row that marks the column as
generated. -/
theorem mysql_columnType_foldColumn_mediumblob :
    let c : Column := { name := "data", type := .binary, length := some 65536 }
    let row : Row := [("COLUMN_NAME", .str "data"), ("COLUMN_TYPE", .str "MEDIUMBLOB"),
      ("EXTRA", .str "auto_increment"), ("COLUMN_DEFAULT", .str "x")]
    row.text? "COLUMN_NAME" = some "data" ∧
      row.text? "COLUMN_TYPE" = some (mysql.columnType c) ∧
      (∃ read, (mysql.foldColumn { name := "t" } row).table.column? "data" = some read ∧
        mysql.columnType read = "MEDIUMBLOB") ∧
      c.length = some 65536 ∧ c.type = .binary ∧ c.fixed = false ∧
      ∃ bound, capacity? (mysql.columnType c) = some bound ∧ (65536 : UInt32).toNat ≤ bound := by
  intro c row
  have hname : row.text? "COLUMN_NAME" = some "data" := by decide +kernel
  have htype : row.text? "COLUMN_TYPE" = some (mysql.columnType c) := by decide +kernel
  obtain ⟨hread, hbound⟩ := mysql_columnType_foldColumn c
  obtain ⟨_, read, hcolumn, hsame⟩ := hread { name := "t" } row "data" hname (.inl htype)
  exact ⟨hname, htype, ⟨read, hcolumn, hsame.trans (by decide +kernel)⟩, rfl, rfl, rfl,
    hbound 65536 rfl (.inr ⟨rfl, rfl⟩)⟩

end Mysql

end PortableSql

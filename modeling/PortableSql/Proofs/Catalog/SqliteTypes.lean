import PortableSql.Catalog.Listing
import PortableSql.Proofs.Catalog.TypeTexts
import PortableSql.Proofs.CatalogDefault.Dressing
import PortableSql.Proofs.Keyed

namespace PortableSql

open NativeType Dialect

namespace Sqlite

/-- What a written type stands for when it is read: JSON is kept as text, and fixed strings of
thirty-six characters are read as identifiers. -/
def storedType (c : Column) : ColumnType :=
  match c.type with
  | .string => if c.fixed ∧ c.length = some 36 then .uuid else .string
  | .json => .text
  | type => type

theorem toColumn_word {word : String} {type : ColumnType} (hword : IsTypeWord word.toList)
    (hmeaning : meaning typeRules (String.ofList (word.toList.map Char.toLower)) =
      (type, false, none)) :
    toColumn typeRules true word = Column.ofType type := by
  have hread := ofText_of_word hword false
  change ofText word = _ at hread
  rw [toColumn, hread]
  simp only [hmeaning]
  cases type <;> rfl

theorem toColumn_charWord :
    toColumn typeRules true "CHAR" = { Column.ofType .string with fixed := true } := by
  have hword : IsTypeWord "CHAR".toList := by decide
  have hread := ofText_of_word hword false
  have hmeaning : meaning typeRules (String.ofList ("CHAR".toList.map Char.toLower)) =
      (.string, true, none) := by
    decide
  change ofText "CHAR" = _ at hread
  rw [toColumn, hread]
  simp only [hmeaning]
  rfl

theorem toColumn_unsignedInteger :
    toColumn typeRules true "UNSIGNED INTEGER" =
      { Column.ofType .integer with unsigned := true } := by
  have htext : ofText "UNSIGNED INTEGER" =
      { base := "integer", length := none, precision := none, unsigned := true } := by
    decide +kernel
  have hmeaning : meaning typeRules "integer" = (.integer, false, none) := by
    decide
  rw [toColumn, htext]
  simp only [hmeaning]
  rfl

theorem toColumn_char (n : UInt32) :
    toColumn typeRules true (sized "CHAR" (some n)) =
      charsToUuid { Column.ofType .string with length := some n, fixed := true } :=
  toColumn_sized "CHAR" true (by decide) (.inl rfl) (by decide) n

theorem reads_of_eq {c read : Column} {text : String} (htext : sqliteType c = text)
    (h : toColumn typeRules true text = read) (htype : read.type = storedType c)
    (hsql : sqliteType read = text) :
    (toColumn typeRules true (sqliteType c)).type = storedType c ∧
      sqliteType (toColumn typeRules true (sqliteType c)) = sqliteType c := by
  rw [htext, h]
  exact ⟨htype, hsql⟩

theorem reads_of_word {c : Column} (word : String) (type : ColumnType) (htext : sqliteType c = word)
    (hword : IsTypeWord word.toList)
    (hmeaning : meaning typeRules (String.ofList (word.toList.map Char.toLower)) =
      (type, false, none))
    (htype : type = storedType c) (hsql : sqliteType (Column.ofType type) = word) :
    (toColumn typeRules true (sqliteType c)).type = storedType c ∧
      sqliteType (toColumn typeRules true (sqliteType c)) = sqliteType c :=
  reads_of_eq htext (toColumn_word hword hmeaning) htype hsql

/-- A written type is read as the type it stands for, and written the same again. -/
theorem toColumn_sqliteType (c : Column) :
    (toColumn typeRules true (sqliteType c)).type = storedType c ∧
      sqliteType (toColumn typeRules true (sqliteType c)) = sqliteType c := by
  obtain ⟨name, type, length, precision, nullable, default, fixed, comment, unsigned, auto⟩ := c
  cases type with
  | string =>
    cases fixed with
    | false =>
      cases length with
      | none => exact reads_of_word "VARCHAR" .string rfl (by decide) (by decide) rfl rfl
      | some n =>
        exact reads_of_eq rfl (toColumn_sized "VARCHAR" false (by decide) (.inl rfl) (by decide) n)
          rfl rfl
    | true =>
      cases length with
      | none => exact reads_of_eq rfl toColumn_charWord rfl rfl
      | some n =>
        by_cases hn : n = 36
        · subst hn
          exact reads_of_eq rfl (toColumn_char 36) rfl rfl
        · refine reads_of_eq rfl (toColumn_char n) ?_ ?_
          · simp [charsToUuid, storedType, Column.ofType, hn]
          · simp [charsToUuid, sqliteType, Column.ofType, hn]
  | uuid => exact reads_of_eq rfl (toColumn_char 36) rfl rfl
  | integer =>
    cases unsigned with
    | false => exact reads_of_word "INTEGER" .integer rfl (by decide) (by decide) rfl rfl
    | true => exact reads_of_eq rfl toColumn_unsignedInteger rfl rfl
  | float =>
    cases precision with
    | none => exact reads_of_word "FLOAT" .float rfl (by decide) (by decide) rfl rfl
    | some n => exact reads_of_eq rfl (toColumn_float (by decide) n false) rfl rfl
  | decimal =>
    cases length with
    | none => exact reads_of_word "DECIMAL" .decimal rfl (by decide) (by decide) rfl rfl
    | some n =>
      -- a scale that is not set is written as zero, and comes back as zero
      exact reads_of_eq (decimalTypeSql_of_length rfl)
        (toColumn_decimal (by decide) n (precision.getD 0) false) rfl rfl
  | text | json => exact reads_of_word "TEXT" .text rfl (by decide) (by decide) rfl rfl
  | bigInteger => exact reads_of_word "BIGINT" .bigInteger rfl (by decide) (by decide) rfl rfl
  | boolean => exact reads_of_word "BOOLEAN" .boolean rfl (by decide) (by decide) rfl rfl
  | date => exact reads_of_word "DATE" .date rfl (by decide) (by decide) rfl rfl
  | time => exact reads_of_word "TIME" .time rfl (by decide) (by decide) rfl rfl
  | dateTime => exact reads_of_word "DATETIME" .dateTime rfl (by decide) (by decide) rfl rfl
  | timestamp => exact reads_of_word "TIMESTAMP" .timestamp rfl (by decide) (by decide) rfl rfl
  | binary => exact reads_of_word "BLOB" .binary rfl (by decide) (by decide) rfl rfl

end Sqlite

end PortableSql

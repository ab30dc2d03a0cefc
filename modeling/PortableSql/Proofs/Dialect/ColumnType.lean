import PortableSql.Dialect.Definition
import PortableSql.Proofs.Dialect.Quoting

namespace PortableSql

open Dialect

variable {d : Dialect} {commas : Bool}

theorem clause_word {text : String} (h : ∀ c ∈ text.toList, c ∉ structureMarks) :
    Clause d commas text.toList := (flat_of_forall h).clause

theorem clause_of_eq {a b : String} (ha : Clause d commas a.toList) (h : a.toList = b.toList) :
    Clause d commas b.toList := h ▸ ha

theorem clause_sized {name : String} (hname : Flat d name.toList) (length : Option UInt32) :
    Clause d commas (sized name length).toList := by
  cases length with
  | none => exact hname.clause
  | some n =>
    have hgroup : Clause d commas (name.toList ++ '(' :: (Nat.toDigits 10 n.toNat ++ [')'])) :=
      hname.clause.group (flat_digits n.toNat).clause
    simpa [sized, toString] using hgroup

theorem clause_floatTypeSql (c : Column) : Clause d commas (floatTypeSql c).toList :=
  clause_sized (flat_of_forall (by decide)) c.precision

theorem clause_decimalTypeSql (c : Column) : Clause d commas (decimalTypeSql c).toList := by
  have hname : Flat d "DECIMAL".toList := flat_of_forall (by decide)
  have harguments : ∀ n scale : Nat, Clause d commas ("DECIMAL".toList ++
      '(' :: ((Nat.toDigits 10 n ++ ',' :: Nat.toDigits 10 scale) ++ [')'])) := by
    intro n scale
    exact hname.clause.group ((flat_digits n).clause.separated (flat_digits scale).clause
      (by decide) rfl)
  unfold decimalTypeSql
  split
  next => exact hname.clause
  next _ _ n _ _ => simpa [toString] using harguments n.toNat 0
  next _ _ n scale _ _ => simpa [toString] using harguments n.toNat scale.toNat

/-- A property that two texts with a space between them have if both have it. -/
def Spaced (reads : List Char → Prop) : Prop := ∀ a b, reads a → reads b → reads (a ++ ' ' :: b)

theorem clause_spaced : Spaced (Clause d commas) :=
  fun _ _ ha hb => ha.separated hb (by decide) rfl

theorem Spaced.space {reads : List Char → Prop} (h : Spaced reads) {a b : String}
    (ha : reads a.toList) (hb : reads b.toList) : reads (a ++ " " ++ b).toList := by
  simpa using h _ _ ha hb

theorem clause_mysqlTextType (length : Option UInt32) :
    Clause d commas (mysqlTextType length).toList := by
  refine Flat.clause (flat_of_forall ?_)
  unfold mysqlTextType
  split
  · decide
  · repeat' split
    all_goals decide

theorem clause_mysqlBlobType (length : Option UInt32) :
    Clause d commas (mysqlBlobType length).toList := by
  refine Flat.clause (flat_of_forall ?_)
  unfold mysqlBlobType
  split
  · decide
  · repeat' split
    all_goals decide

/-- The types that are written with parentheses of their own. -/
def groupedWords : List String :=
  ["CHAR(36)", "NVARCHAR(MAX)", "VARBINARY(MAX)", "INTEGER IDENTITY(1, 1)",
   "BIGINT IDENTITY(1, 1)"]

/-- The types that are written without the length of a column, and those that replace them. -/
def typeWords : List String :=
  ["TEXT", "UUID", "INTEGER", "UNSIGNED INTEGER", "BIGINT", "BOOLEAN", "BIT", "DATE", "TIME",
   "DATETIME", "DATETIME2", "TIMESTAMP", "BLOB", "BYTEA", "JSON", "JSONB", "UNIQUEIDENTIFIER",
   "SERIAL", "BIGSERIAL"] ++ groupedWords

theorem clause_typeWord {text : String} (h : text ∈ typeWords) : Clause d commas text.toList := by
  have hgrouped : ∀ word ∈ groupedWords, Clause d commas word.toList := by
    cases d <;> cases commas <;> decide +kernel
  have hflat : ∀ word ∈ typeWords,
      word ∈ groupedWords ∨ ∀ c ∈ word.toList, c ∉ structureMarks := by
    decide +kernel
  exact (hflat text h).elim (hgrouped text) clause_word

/-- The types that may have a length. -/
def sizedWords : List String := ["CHAR", "VARCHAR", "NCHAR", "NVARCHAR", "BINARY", "VARBINARY"]

theorem clause_sizedWord {name : String} (h : name ∈ sizedWords) (length : Option UInt32) :
    Clause d commas (sized name length).toList := by
  have hall : ∀ word ∈ sizedWords, ∀ c ∈ word.toList, c ∉ structureMarks := by decide
  exact clause_sized (flat_of_forall (hall name h)) length

theorem clause_mysqlBaseType (c : Column) : Clause d commas (mysqlBaseType c).toList := by
  unfold mysqlBaseType
  cases c.type with
  | string =>
    dsimp only
    split
    · exact clause_sizedWord (by decide) _
    · exact clause_sizedWord (by decide) _
  | text => exact clause_mysqlTextType _
  | float => exact clause_floatTypeSql c
  | decimal => exact clause_decimalTypeSql c
  | binary =>
    dsimp only
    split
    · exact clause_sizedWord (by decide) _
    · exact clause_mysqlBlobType _
  | uuid | integer | bigInteger | boolean | date | time | dateTime | timestamp | json =>
    dsimp only
    exact clause_typeWord (by decide)

theorem clause_mysqlType (c : Column) : Clause d commas (mysqlType c).toList := by
  have hunsigned : Clause d commas "UNSIGNED".toList := clause_word (by decide)
  unfold mysqlType
  split
  · refine clause_of_eq (clause_spaced.space (clause_mysqlBaseType c) hunsigned) ?_
    simp
  · exact clause_mysqlBaseType c

theorem clause_postgresqlType (c : Column) : Clause d commas (postgresqlType c).toList := by
  unfold postgresqlType
  cases c.type with
  | string =>
    dsimp only
    split
    · split
      · exact clause_typeWord (by decide)
      · exact clause_sizedWord (by decide) _
    · exact clause_sizedWord (by decide) _
  | float => exact clause_floatTypeSql c
  | decimal => exact clause_decimalTypeSql c
  | text | uuid | integer | bigInteger | boolean | date | time | dateTime | timestamp | binary
    | json =>
    dsimp only
    exact clause_typeWord (by decide)

theorem clause_sqliteType (c : Column) : Clause d commas (sqliteType c).toList := by
  unfold sqliteType
  cases c.type with
  | string =>
    dsimp only
    split
    · exact clause_sizedWord (by decide) _
    · exact clause_sizedWord (by decide) _
  | integer =>
    dsimp only
    split
    · exact clause_typeWord (by decide)
    · exact clause_typeWord (by decide)
  | float => exact clause_floatTypeSql c
  | decimal => exact clause_decimalTypeSql c
  | text | uuid | bigInteger | boolean | date | time | dateTime | timestamp | binary | json =>
    dsimp only
    exact clause_typeWord (by decide)

theorem clause_sqlserverType (c : Column) : Clause d commas (sqlserverType c).toList := by
  unfold sqlserverType
  cases c.type with
  | string =>
    dsimp only
    split
    · split
      · exact clause_typeWord (by decide)
      · exact clause_sizedWord (by decide) _
    · exact clause_sizedWord (by decide) _
  | float => exact clause_floatTypeSql c
  | decimal => exact clause_decimalTypeSql c
  | binary =>
    dsimp only
    split
    · exact clause_sizedWord (by decide) _
    · exact clause_typeWord (by decide)
  | text | uuid | integer | bigInteger | boolean | date | time | dateTime | timestamp | json =>
    dsimp only
    exact clause_typeWord (by decide)

theorem clause_columnType (e : Dialect) (c : Column) :
    Clause d commas (e.columnType c).toList := by
  cases e with
  | mysql => exact clause_mysqlType c
  | postgresql => exact clause_postgresqlType c
  | sqlite => exact clause_sqliteType c
  | sqlserver => exact clause_sqlserverType c

theorem clause_serialType {e : Dialect} {c : Column} {text : String}
    (h : e.serialType? c = some text) : Clause d commas text.toList := by
  unfold serialType? at h
  split at h
  all_goals cases h
  all_goals exact clause_typeWord (by decide)

end PortableSql

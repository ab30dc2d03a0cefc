import PortableSql.Proofs.Dialect.Generated
import PortableSql.Proofs.Table.WellFormed

namespace PortableSql

open Dialect

variable {d : Dialect} {t : Table} {c : Column}

/-- Whether the definition of a column says, outside of names and texts, that it has a default. -/
def GivesDefault (d : Dialect) (sql : String) : Prop :=
  Chars.includes "DEFAULT".toList (bareText d sql.toList) = true

instance (d : Dialect) (sql : String) : Decidable (GivesDefault d sql) :=
  inferInstanceAs (Decidable (_ = true))

/-- Whether a column has a default, or is said to be null without a value. -/
def Column.Defaults (c : Column) : Prop := c.defaultValue?.isSome ∨ c.nullable = some true

instance (c : Column) : Decidable c.Defaults := inferInstanceAs (Decidable (_ ∨ _))

theorem not_givesDefault_of_shows {sql : String} (h : Shows d (· ≠ 'F') sql.toList) :
    ¬ GivesDefault d sql := by
  intro hincluded
  have hmark : 'F' ∈ bareText d sql.toList :=
    (Chars.includes_iff.mp hincluded).subset (by decide)
  exact h.of_mem_bareText 'F' hmark rfl

theorem defaultClause_of_defaults (h : c.Defaults) :
    ∃ rest : String, d.defaultClause c = " DEFAULT" ++ rest := by
  unfold defaultClause
  split
  next value _ =>
    refine ⟨" " ++ d.quote value (some c.type), ?_⟩
    rw [← String.append_assoc]
    rfl
  next hnone =>
    have hnull : c.nullable = some true := h.resolve_left (by simp [hnone])
    rw [if_pos hnull]
    exact ⟨" NULL", rfl⟩

theorem defaultClause_of_not_defaults (h : ¬ c.Defaults) : d.defaultClause c = "" := by
  obtain ⟨hdefault, hnull⟩ := not_or.mp h
  unfold defaultClause
  split
  next value hsome => exact absurd (by simp [hsome]) hdefault
  next => exact if_neg hnull

/-- What stands before the default. -/
def typedName (d : Dialect) (c : Column) : String :=
  d.quoteIdentifier c.name ++ " " ++ d.columnType c ++
    if c.nullable = some false then " NOT NULL" else ""

theorem Spaced.typedName {reads : List Char → Prop} (h : Spaced reads)
    (hname : reads (d.quoteIdentifier c.name).toList) (htype : reads (d.columnType c).toList)
    (hnull : reads "NOT NULL".toList) : reads (typedName d c).toList := by
  apply h.followed (h.space hname htype)
  split
  next => exact .inr ⟨"NOT NULL", rfl, hnull⟩
  next => exact .inl rfl

theorem clause_typedName (d : Dialect) (c : Column) : Clause d false (typedName d c).toList :=
  clause_spaced.typedName (flat_quoteIdentifier _).clause (clause_columnType d c)
    (clause_word (by decide))

theorem shows_named (name : String) : Shows d (· ≠ 'F') (d.quoteIdentifier name).toList :=
  shows_quoteIdentifier (by decide) (by decide) name

theorem shows_typedName (htype : c.type.isInteger = true) :
    Shows mysql (· ≠ 'F') (typedName mysql c).toList := by
  have hwords : ∀ word ∈ ["INTEGER", "BIGINT", "INTEGER UNSIGNED", "BIGINT UNSIGNED"],
      ∀ x ∈ word.toList, x ∉ quoteMarks ∧ x ≠ 'F' := by
    decide
  have hcolumn : Shows mysql (· ≠ 'F') (mysql.columnType c).toList :=
    shows_of_forall (hwords _ (mysql_columnType_mem htype))
  have hnull : Shows mysql (· ≠ 'F') "NOT NULL".toList := shows_of_forall (by decide)
  exact (shows_spaced (by decide)).typedName (shows_named c.name) hcolumn hnull

/-- A default that is written is there for a reader, whatever its value is. -/
theorem givesDefault_of_defaults (h : c.Defaults) (more : String) :
    GivesDefault d (columnHead d c ++ more) := by
  obtain ⟨rest, hrest⟩ := defaultClause_of_defaults (d := d) h
  have hsql : (columnHead d c ++ more).toList =
      (typedName d c).toList ++ ' ' :: ("DEFAULT".toList ++ (rest ++ more).toList) := by
    have hhead : columnHead d c = typedName d c ++ d.defaultClause c := rfl
    rw [hhead, hrest]
    simp
  exact includes_bareText hsql (clause_typedName d c).rests (by decide) (by decide)

/-- Neither the attribute for generated values nor a comment gives a default. -/
theorem not_givesDefault_of_not_defaults (htype : c.type.isInteger = true) (h : ¬ c.Defaults) :
    ¬ GivesDefault mysql
      (columnHead mysql c ++ String.join ((mysql.columnModifiers t c).map (" " ++ ·))) := by
  have hspaced : Spaced (Shows mysql (· ≠ 'F')) := shows_spaced (by decide)
  have hhead : columnHead mysql c = typedName mysql c := by
    change typedName mysql c ++ mysql.defaultClause c = typedName mysql c
    rw [defaultClause_of_not_defaults h, String.append_empty]
  apply not_givesDefault_of_shows
  rw [hhead]
  apply hspaced.followed_join (shows_typedName htype)
  intro part hpart
  rcases mem_columnModifiers hpart with ⟨rfl, _⟩ | ⟨text, rfl⟩
  · exact shows_of_forall (by decide)
  · have hword : Shows mysql (· ≠ 'F') "COMMENT".toList := shows_of_forall (by decide)
    exact hspaced.space hword (shows_quoteString text)

/-- A type that stands for generated values leaves no room for a default. -/
theorem not_givesDefault_of_serialType {serial : String} (h : d.serialType? c = some serial) :
    ¬ GivesDefault d (d.quoteIdentifier c.name ++ " " ++ serial) := by
  have hserial : Shows d (· ≠ 'F') serial.toList := by
    apply shows_of_forall
    unfold serialType? at h
    split at h
    all_goals cases h
    all_goals decide
  apply not_givesDefault_of_shows
  exact (shows_spaced (by decide)).space (shows_named c.name) hserial

theorem serialType?_eq_none_iff (hd : d ≠ .sqlite) (htype : c.type.isInteger = true) :
    d.serialType? c = none ↔ d = .mysql := by
  have hinteger := ColumnType.isInteger_iff.mp htype
  cases d with
  | sqlite => exact absurd rfl hd
  | mysql => simp [serialType?]
  | postgresql | sqlserver => rcases hinteger with ht | ht <;> simp [serialType?, ht]

/-- The definition of a column with generated values says so, and gives no default where the type
itself stands for the generated values. MySQL has an attribute for them, which follows the default of
a column that has one, or that may be null. -/
theorem givesDefault_columnSql_iff (hd : d ≠ .sqlite) (hserial : t.isSerial c = true) :
    SaysGenerated d (d.columnSql t c) ∧
      (GivesDefault d (d.columnSql t c) ↔
        d = .mysql ∧ (c.defaultValue?.isSome ∨ c.nullable = some true)) := by
  have htype : c.type.isInteger = true :=
    ColumnType.isInteger_iff.mpr (Table.isInteger_of_isSerial hserial)
  have hmysql := serialType?_eq_none_iff hd htype
  refine ⟨saysGenerated_columnSql hd hserial, ?_⟩
  rw [columnSql_eq, hserial, if_pos rfl]
  cases hs : d.serialType? c with
  | some serial =>
    have hne : d ≠ .mysql := fun hd => by simp [hmysql.mpr hd] at hs
    exact iff_of_false (not_givesDefault_of_serialType hs) fun h => hne h.1
  | none =>
    obtain rfl := hmysql.mp hs
    rw [and_iff_right rfl]
    by_cases hdefaults : c.Defaults
    · exact iff_of_true (givesDefault_of_defaults hdefaults _) hdefaults
    · exact iff_of_false (not_givesDefault_of_not_defaults htype hdefaults) hdefaults

/-- The name of a column is no default, and its comment is none either. -/
theorem givesDefault_columnSql_iff_named :
    let c : Column :=
      { name := "DEFAULT", type := .bigInteger, autoIncrement := some true,
        comment := some "DEFAULT 1" }
    let t : Table := Table.editAll { name := "t" } [.addColumn c]
    mysql ≠ .sqlite ∧ c ∈ t.columns ∧ t.isSerial c = true ∧
      SaysGenerated mysql (mysql.columnSql t c) ∧ ¬ GivesDefault mysql (mysql.columnSql t c) := by
  intro c t
  have hd : mysql ≠ .sqlite := by decide
  have hserial : t.isSerial c = true := by decide +kernel
  have hplain : ¬(c.defaultValue?.isSome ∨ c.nullable = some true) := by decide
  obtain ⟨hgenerated, hiff⟩ := givesDefault_columnSql_iff hd hserial
  refine ⟨hd, List.mem_singleton_self c, hserial, hgenerated, ?_⟩
  intro hdefault
  exact hplain (hiff.mp hdefault).2

/-- The default of a primary key stands before the attribute for its generated values. -/
theorem columnSql_generated_default :
    let c : Column := { name := "id", type := .integer, default := some (.int 7) }
    let t : Table := Table.editAll { name := "t" }
      [.addColumn c, .addConstraint { name := "pk", kind := .primary, columns := ["id"] }]
    c ∈ t.columns ∧ t.isSerial c = true ∧
      mysql.columnSql t c = "\x60id\x60 INTEGER DEFAULT 7 AUTO_INCREMENT" ∧
      GivesDefault mysql (mysql.columnSql t c) := by
  intro c t
  have hsql : mysql.columnSql t c = "\x60id\x60 INTEGER DEFAULT 7 AUTO_INCREMENT" := by
    decide +kernel
  refine ⟨List.mem_singleton_self c, by decide +kernel, hsql, ?_⟩
  rw [hsql]
  decide +kernel

end PortableSql

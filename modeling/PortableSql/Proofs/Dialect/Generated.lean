import PortableSql.Proofs.Dialect.Definition
import PortableSql.Proofs.Text.Chars

namespace PortableSql

open Dialect

variable {d : Dialect}

/-- What a reader finds outside of names and texts. -/
def bareText (d : Dialect) (text : List Char) : List Char :=
  ((glyphs d .outside text).filter Glyph.bare).map Glyph.char

/-- The words that say that the database generates the values of a column, on their own or in a
longer word. -/
def generatedWords : Dialect → List String
  | mysql => ["AUTO_INCREMENT"]
  | postgresql => ["SERIAL"]
  | sqlite => []
  | sqlserver => ["IDENTITY"]

/-- Whether the definition of a column says, outside of names and texts, that its values are
generated. -/
def SaysGenerated (d : Dialect) (sql : String) : Prop :=
  ∃ word ∈ generatedWords d, Chars.includes word.toList (bareText d sql.toList) = true

/-- A character of the words for generated values that no other word near them has. -/
def generatedMark : Dialect → Char
  | mysql => '_'
  | postgresql => 'S'
  | sqlite | sqlserver => 'Y'

theorem Shows.of_mem_bareText {allowed : Char → Prop} {text : List Char}
    (h : Shows d allowed text) : ∀ c ∈ bareText d text, allowed c := by
  intro c hc
  obtain ⟨g, hg, rfl⟩ := List.mem_map.mp hc
  obtain ⟨hg, hbare⟩ := List.mem_filter.mp hg
  exact h.shown g hg hbare

theorem bareText_separated {a b : List Char} {c : Char}
    (ha : (Mode.after d .outside a).Rests d) (hc : c ∉ quoteMarks) :
    bareText d (a ++ c :: b) = bareText d a ++ c :: bareText d b := by
  rw [bareText, glyphs_separated ha hc, List.filter_append, List.filter_cons, if_pos rfl,
    List.map_append, List.map_cons]
  rfl

theorem bareText_append_of_forall {word : List Char} (h : ∀ c ∈ word, c ∉ quoteMarks)
    (rest : List Char) : bareText d (word ++ rest) = word ++ bareText d rest := by
  induction word with
  | nil => rfl
  | cons c word ih =>
    have hcons := bareText_separated (d := d) (a := []) (b := word ++ rest) (.inl rfl)
      (h c List.mem_cons_self)
    rw [List.nil_append] at hcons
    rw [List.cons_append, hcons, ih fun x hx => h x (List.mem_cons_of_mem _ hx)]
    rfl

/-- A word behind a text that leaves nothing open is there for a reader. -/
theorem includes_bareText {sql word : String} {head stem rest : List Char}
    (hsql : sql.toList = head ++ ' ' :: (stem ++ rest))
    (hhead : (Mode.after d .outside head).Rests d) (hstem : ∀ c ∈ stem, c ∉ quoteMarks)
    (hin : Chars.includes word.toList stem = true) :
    Chars.includes word.toList (bareText d sql.toList) = true := by
  rw [Chars.includes_iff, hsql, bareText_separated hhead (by decide),
    bareText_append_of_forall hstem]
  have hbare : stem <:+: bareText d head ++ [' '] ++ stem ++ bareText d rest :=
    List.infix_append _ _ _
  simpa using (Chars.includes_iff.mp hin).trans hbare

theorem saysGenerated_of_word {sql word : String} {head stem rest : List Char}
    (hword : word ∈ generatedWords d) (hsql : sql.toList = head ++ ' ' :: (stem ++ rest))
    (hhead : (Mode.after d .outside head).Rests d) (hstem : ∀ c ∈ stem, c ∉ quoteMarks)
    (hin : Chars.includes word.toList stem = true) : SaysGenerated d sql :=
  ⟨word, hword, includes_bareText hsql hhead hstem hin⟩

theorem not_saysGenerated_of_shows {sql : String}
    (h : Shows d (· ≠ generatedMark d) sql.toList) : ¬ SaysGenerated d sql := by
  rintro ⟨word, hword, hincluded⟩
  have hmark : ∀ word ∈ generatedWords d, generatedMark d ∈ word.toList := by
    cases d <;> decide
  have hmem := (Chars.includes_iff.mp hincluded).subset (hmark word hword)
  exact h.of_mem_bareText _ hmem rfl

/-- The defaults that the catalogs of integer columns give: integers, and texts for what is none. -/
def IntegerDefault (c : Column) : Prop :=
  ∀ value, c.defaultValue? = some value → (∃ n, value = .int n) ∨ ∃ s, value = .str s

theorem shows_spaced {allowed : Char → Prop} (h : allowed ' ') : Spaced (Shows d allowed) :=
  fun _ _ ha hb => ha.separated hb (by decide) h

theorem shows_toString_int (n : Int) : Shows d (· ≠ generatedMark d) (toString n).toList := by
  have hmark : 57 < (generatedMark d).toNat := by cases d <;> decide
  have hquote : ∀ x ∈ quoteMarks, x.toNat < 45 ∨ 57 < x.toNat := by decide
  refine shows_of_forall fun c hc => ?_
  have hchar := Numeral.toNat_of_mem_toString hc
  refine ⟨fun hm => ?_, ?_⟩
  · have := hquote c hm
    omega
  · rintro rfl
    omega

/-- The words around a type that is not generated, and the types of integers. -/
def plainWords : Dialect → List String
  | mysql =>
    ["INTEGER", "BIGINT", "INTEGER UNSIGNED", "BIGINT UNSIGNED", "NOT NULL", "DEFAULT",
     "DEFAULT NULL", "COMMENT"]
  | _ => ["INTEGER", "BIGINT", "NOT NULL", "DEFAULT", "DEFAULT NULL"]

theorem shows_plainWord {word : String} (h : word ∈ plainWords d) :
    Shows d (· ≠ generatedMark d) word.toList := by
  have hall : ∀ word ∈ plainWords d, ∀ c ∈ word.toList, c ∉ quoteMarks ∧ c ≠ generatedMark d := by
    cases d <;> decide
  exact shows_of_forall (hall word h)

theorem shows_plain_spaced : Spaced (Shows d (· ≠ generatedMark d)) :=
  shows_spaced (by cases d <;> decide)

theorem shows_defaultClause {c : Column} (htype : c.type.isInteger = true)
    (hdefault : IntegerDefault c) :
    MayFollow (Shows d (· ≠ generatedMark d)) (d.defaultClause c) := by
  have hword : "DEFAULT" ∈ plainWords d ∧ "DEFAULT NULL" ∈ plainWords d := by cases d <;> decide
  unfold defaultClause
  split
  next value hvalue =>
    refine .inr ⟨"DEFAULT" ++ " " ++ d.quote value (some c.type), ?_, ?_⟩
    · rw [← String.append_assoc]
      rfl
    · refine shows_plain_spaced.space (shows_plainWord hword.1) ?_
      rcases hdefault value hvalue with ⟨n, rfl⟩ | ⟨s, rfl⟩
      · exact shows_toString_int n
      · have htext : d.quote (.str s) (some c.type) = quoteString s := by
          rcases ColumnType.isInteger_iff.mp htype with ht | ht
          · simp [ht, quote, quoteText, ColumnType.isTemporal]
          · simp [ht, quote, quoteText, ColumnType.isTemporal]
        rw [htext]
        exact shows_quoteString s
  next =>
    split
    next => exact .inr ⟨"DEFAULT NULL", rfl, shows_plainWord hword.2⟩
    next => exact .inl rfl

theorem mysql_columnType_mem {c : Column} (htype : c.type.isInteger = true) :
    mysql.columnType c ∈ ["INTEGER", "BIGINT", "INTEGER UNSIGNED", "BIGINT UNSIGNED"] := by
  rcases ColumnType.isInteger_iff.mp htype with ht | ht
  all_goals
    cases hu : c.unsigned <;>
      simp [columnType, mysqlType, mysqlBaseType, ht, hu, ColumnType.isNumeric]

theorem columnType_mem_plainWords (hd : d ≠ .sqlite) {c : Column}
    (htype : c.type.isInteger = true) : d.columnType c ∈ plainWords d := by
  have hinteger := ColumnType.isInteger_iff.mp htype
  cases d with
  | sqlite => exact absurd rfl hd
  | mysql => exact List.mem_append_left _ (mysql_columnType_mem htype)
  | postgresql =>
    rcases hinteger with ht | ht <;> simp [columnType, postgresqlType, ht, plainWords]
  | sqlserver =>
    rcases hinteger with ht | ht <;> simp [columnType, sqlserverType, ht, plainWords]

theorem shows_columnHead (hd : d ≠ .sqlite) {c : Column} (htype : c.type.isInteger = true)
    (hdefault : IntegerDefault c) :
    Shows d (· ≠ generatedMark d) (columnHead d c).toList := by
  have hname : Shows d (· ≠ generatedMark d) (d.quoteIdentifier c.name).toList :=
    shows_quoteIdentifier (by cases d <;> decide) (by cases d <;> decide) c.name
  exact shows_plain_spaced.columnHead hname (shows_plainWord (columnType_mem_plainWords hd htype))
    (shows_plainWord (by cases d <;> decide)) (shows_defaultClause htype hdefault)

theorem shows_columnModifiers {t : Table} {c : Column} (hserial : t.isSerial c = false) :
    ∀ part ∈ d.columnModifiers t c, Shows d (· ≠ generatedMark d) part.toList := by
  intro part hpart
  rcases mem_columnModifiers hpart with ⟨_, htrue⟩ | ⟨text, rfl⟩
  · exact absurd htrue (by simp [hserial])
  · have hword : Shows d (· ≠ generatedMark d) "COMMENT".toList :=
      shows_of_forall (by cases d <;> decide)
    exact shows_plain_spaced.space hword (shows_quoteString text)

theorem Table.isInteger_of_isSerial {t : Table} {c : Column} (h : t.isSerial c = true) :
    c.type = .integer ∨ c.type = .bigInteger :=
  ColumnType.isInteger_iff.mp (Bool.and_eq_true_iff.mp h).1

theorem saysGenerated_columnSql {t : Table} {c : Column} (hd : d ≠ .sqlite)
    (hserial : t.isSerial c = true) : SaysGenerated d (d.columnSql t c) := by
  have hname : (Mode.after d .outside (d.quoteIdentifier c.name).toList).Rests d :=
    (flat_quoteIdentifier c.name).rests
  -- a generated type takes the place of the type, and an attribute follows the default
  have hreplaced : ∀ word ∈ generatedWords d, ∀ serial : String,
      (∀ x ∈ serial.toList, x ∉ quoteMarks) → Chars.includes word.toList serial.toList = true →
        SaysGenerated d (d.quoteIdentifier c.name ++ " " ++ serial) := by
    intro word hword serial hquote hin
    have hsql : (d.quoteIdentifier c.name ++ " " ++ serial).toList =
        (d.quoteIdentifier c.name).toList ++ ' ' :: (serial.toList ++ []) := by
      simp
    exact saysGenerated_of_word hword hsql hname hquote hin
  rw [columnSql_eq, hserial, if_pos rfl]
  cases d with
  | sqlite => exact absurd rfl hd
  | mysql =>
    have hnone : mysql.serialType? c = none := by simp [serialType?]
    have hhead : Clause .mysql false (columnHead .mysql c).toList := clause_columnHead c
    have hsql : (columnHead .mysql c ++
        String.join ((mysql.columnModifiers t c).map (" " ++ ·))).toList =
          (columnHead .mysql c).toList ++ ' ' :: ("AUTO_INCREMENT".toList ++
            (String.join (((c.filledComment?.map fun text =>
              s!"COMMENT {quoteString text}").toList).map (" " ++ ·))).toList) := by
      simp [columnModifiers, hserial]
    rw [hnone]
    exact saysGenerated_of_word List.mem_cons_self hsql hhead.rests (by decide) (by decide)
  | postgresql =>
    rcases Table.isInteger_of_isSerial hserial with ht | ht
    · simp only [serialType?, ht]
      exact hreplaced "SERIAL" (by decide) "SERIAL" (by decide) (by decide)
    · simp only [serialType?, ht]
      exact hreplaced "SERIAL" (by decide) "BIGSERIAL" (by decide) (by decide)
  | sqlserver =>
    rcases Table.isInteger_of_isSerial hserial with ht | ht
    · simp only [serialType?, ht]
      exact hreplaced "IDENTITY" (by decide) "INTEGER IDENTITY(1, 1)" (by decide) (by decide)
    · simp only [serialType?, ht]
      exact hreplaced "IDENTITY" (by decide) "BIGINT IDENTITY(1, 1)" (by decide) (by decide)

/-- The definition of an integer column says that its values are generated if and only if the table
takes it for generated. -/
theorem saysGenerated_columnSql_iff {t : Table} {c : Column} (hd : d ≠ .sqlite)
    (htype : c.type.isInteger = true) (hdefault : IntegerDefault c) :
    SaysGenerated d (d.columnSql t c) ↔ t.isSerial c = true := by
  constructor
  · intro hsays
    cases hserial : t.isSerial c with
    | true => rfl
    | false =>
      refine absurd hsays (not_saysGenerated_of_shows ?_)
      rw [columnSql_eq, hserial]
      exact shows_plain_spaced.followed_join (shows_columnHead hd htype hdefault)
        (shows_columnModifiers hserial)
  · exact saysGenerated_columnSql hd

end PortableSql

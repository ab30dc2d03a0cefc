import Mathlib.Data.List.Forall2
import PortableSql.Proofs.Dialect.Definition

namespace PortableSql

open Dialect

variable {d : Dialect}

/-- A piece that has the text and white space around it. -/
def Padded (piece : List Glyph) (text : String) : Prop :=
  ∃ before behind : List Char, (∀ c ∈ before ++ behind, Chars.isBlank c = true) ∧
    textOf piece = before ++ text.toList ++ behind

def indent : List Char := "\n    ".toList

/-- What is in the parentheses of a table: each part on a line of its own. -/
def lines (parts : List String) : List Char :=
  indent ++ (',' :: indent).intercalate (parts.map String.toList) ++ ['\n']

theorem clause_indent {commas : Bool} {text : String} (h : Clause d commas text.toList) :
    Clause d commas (indent ++ text.toList) := by
  have hspaces : Flat d "\n   ".toList := flat_of_forall (by decide)
  exact hspaces.clause.separated h (c := ' ') (by decide) rfl

theorem clause_line {commas : Bool} {text : String} (h : Clause d commas text.toList) :
    Clause d commas (indent ++ text.toList ++ ['\n']) :=
  (clause_indent h).separated flat_nil.clause (by decide) rfl

theorem lines_cons_cons (first second : String) (parts : List String) :
    lines (first :: second :: parts) =
      indent ++ first.toList ++ ',' :: lines (second :: parts) := by
  simp [lines, List.intercalate_cons_cons]

theorem lines_singleton (part : String) : lines [part] = indent ++ part.toList ++ ['\n'] := by
  simp [lines]

theorem Clause.allow {text : List Char} (h : Clause d false text) : Clause d true text :=
  have hnests : depth? true (0 + 0) (glyphs d .outside text) = some (0 + 0) :=
    depth?_add h.nests nofun
  ⟨h.rests, hnests⟩

theorem clause_lines {parts : List String} (hne : parts ≠ [])
    (h : ∀ part ∈ parts, Clause d false part.toList) : Clause d true (lines parts) := by
  induction parts with
  | nil => exact absurd rfl hne
  | cons first parts ih =>
    have hfirst := (h first List.mem_cons_self).allow
    cases parts with
    | nil =>
      rw [lines_singleton]
      exact clause_line hfirst
    | cons second parts =>
      rw [lines_cons_cons]
      refine (clause_indent hfirst).separated (ih (List.cons_ne_nil _ _) ?_) (by decide) rfl
      exact fun part hp => h part (List.mem_cons_of_mem _ hp)

/-- The parts are what the commas separate. -/
theorem splitTop_lines {parts : List String} (hne : parts ≠ [])
    (h : ∀ part ∈ parts, Clause d false part.toList) :
    List.Forall₂ Padded (splitTop 0 (glyphs d .outside (lines parts))) parts := by
  have hblank : ∀ c ∈ indent ++ ['\n'], Chars.isBlank c = true := by decide
  induction parts with
  | nil => exact absurd rfl hne
  | cons first parts ih =>
    have hfirst := h first List.mem_cons_self
    cases parts with
    | nil =>
      have hpiece := splitTop_append (clause_line hfirst).nests []
      rw [List.append_nil] at hpiece
      rw [lines_singleton, hpiece]
      refine .cons ⟨indent, ['\n'], hblank, ?_⟩ .nil
      rw [List.append_nil, textOf_glyphs]
    | cons second parts =>
      have hindented := clause_indent hfirst
      rw [lines_cons_cons, glyphs_separated hindented.rests (by decide),
        splitTop_append hindented.nests]
      refine .cons ⟨indent, [], fun c hc => hblank c ?_, ?_⟩ ?_
      · exact List.mem_append_left _ (by simpa using hc)
      · rw [List.append_nil, textOf_glyphs, List.append_nil]
      · exact ih (List.cons_ne_nil _ _) fun part hp => h part (List.mem_cons_of_mem _ hp)

theorem clause_tableParts (t : Table) : ∀ part ∈ d.tableParts t, Clause d false part.toList := by
  intro part hpart
  rcases List.mem_append.mp hpart with hm | hm
  · rcases List.mem_append.mp hm with hm | hm
    · obtain ⟨c, _, rfl⟩ := List.mem_map.mp hm
      exact clause_columnSql t c
    · obtain ⟨c, _, rfl⟩ := List.mem_map.mp hm
      exact clause_constraintSql c
  · cases d with
    | mysql =>
      obtain ⟨i, _, rfl⟩ := List.mem_map.mp hm
      exact clause_mysqlIndexSql t i
    | postgresql | sqlite | sqlserver => cases hm

/-- What stands before the parentheses of a table. -/
theorem flat_tableHead (t : Table) :
    Flat d (d.createKeyword t ++ " " ++ d.tableName t ++ " ").toList := by
  have hkeyword : Flat d (d.createKeyword t).toList := by
    refine flat_of_forall ?_
    unfold createKeyword
    repeat' split
    all_goals decide
  have hname : Flat d (d.tableName t).toList := by
    unfold tableName
    split
    · exact flat_quoteIdentifier _
    · exact flat_quoteIdentifier _
  simpa using (hkeyword.separated hname (c := ' ') (by decide)).separated flat_nil (c := ' ')
    (by decide)

theorem tableOptions_eq_empty {t : Table} (h : d = .mysql → t.options = []) :
    d.tableOptions t = "" := by
  cases d with
  | mysql => simp [tableOptions, h rfl, SortedMap.find?]
  | postgresql | sqlite | sqlserver => rfl

/-- The statement that creates the table itself. -/
def tableSql (d : Dialect) (t : Table) : String :=
  d.createKeyword t ++ " " ++ d.tableName t ++ " (\n    " ++
    String.intercalate ",\n    " (d.tableParts t) ++ "\n)" ++ d.tableOptions t

theorem toList_tableSql {t : Table} (h : d = .mysql → t.options = []) :
    (tableSql d t).toList =
      (d.createKeyword t ++ " " ++ d.tableName t ++ " ").toList ++
        '(' :: (lines (d.tableParts t) ++ [')']) := by
  simp [tableSql, tableOptions_eq_empty h, lines, indent]

/-- What a reader finds in a statement: nothing is left open, and it ends with its first
parentheses, in which commas separate the given parts. -/
structure Outlines (d : Dialect) (statement : String) (parts : List String) : Prop where
  quotes_closed : (Mode.after d .outside statement.toList).Rests d
  balanced : depth? true 0 (glyphs d .outside statement.toList) = some 0
  enclosed : ∃ head inside, enclosed? (glyphs d .outside statement.toList) = some (head, inside, []) ∧
    List.Forall₂ Padded (splitTop 0 inside) parts

theorem outlines_tableSql {t : Table} (hne : d.tableParts t ≠ [])
    (hoptions : d = .mysql → t.options = []) : Outlines d (tableSql d t) (d.tableParts t) := by
  have hhead := flat_tableHead (d := d) t
  have hparts := clause_tableParts (d := d) t
  have hlines := clause_lines hne hparts
  have hclause : Clause d true (_ ++ '(' :: (lines (d.tableParts t) ++ [')'])) :=
    hhead.clause.group hlines
  have hopen : '(' ∉ quoteMarks := by decide
  have hclose : ')' ∉ quoteMarks := by decide
  rw [← toList_tableSql hoptions] at hclause
  have henclosed : enclosed? (glyphs d .outside (tableSql d t).toList) =
      some (glyphs d .outside (d.createKeyword t ++ " " ++ d.tableName t ++ " ").toList,
        glyphs d .outside (lines (d.tableParts t)), []) := by
    rw [toList_tableSql hoptions, glyphs_separated hhead.rests hopen,
      glyphs_separated hlines.rests hclose]
    exact enclosed?_append hhead.other rfl rfl hlines.nests
  exact ⟨hclause.rests, hclause.nests, _, _, henclosed, splitTop_lines hne hparts⟩

theorem forall₂_filterMap {α β : Type} {f : α → Option β} {xs : List α}
    (h : ∀ x ∈ xs, (f x).isSome) : List.Forall₂ (fun x y => f x = some y) xs (xs.filterMap f) := by
  induction xs with
  | nil => exact .nil
  | cons x xs ih =>
    obtain ⟨y, hy⟩ := Option.isSome_iff_exists.mp (h x List.mem_cons_self)
    rw [List.filterMap_cons_some hy]
    exact .cons hy (ih fun z hz => h z (List.mem_cons_of_mem _ hz))

/-- The comment statements of a table. -/
theorem comments_eq (t : Table) :
    if d = .postgresql ∨ d = .sqlserver then
      List.Forall₂ (fun c text => d.commentSql? t c = some text)
        (t.columns.filter (·.filledComment?.isSome))
        ((t.columns.filter (·.filledComment?.isSome)).filterMap (d.commentSql? t))
    else (t.columns.filter (·.filledComment?.isSome)).filterMap (d.commentSql? t) = [] := by
  have hcomment : ∀ c ∈ t.columns.filter (·.filledComment?.isSome),
      ∃ text, c.comment = some text := by
    intro c hc
    obtain ⟨text, htext⟩ := Option.isSome_iff_exists.mp (List.mem_filter.mp hc).2
    exact ⟨text, (Option.filter_eq_some_iff.mp htext).1⟩
  split
  next hd =>
    refine forall₂_filterMap fun c hc => ?_
    obtain ⟨text, htext⟩ := hcomment c hc
    rcases hd with rfl | rfl
    · simp [commentSql?, htext]
    · simp [commentSql?, htext]
  next hd =>
    refine List.filterMap_eq_nil_iff.mpr fun c _ => ?_
    cases d with
    | mysql | sqlite => rfl
    | postgresql => exact absurd (.inl rfl) hd
    | sqlserver => exact absurd (.inr rfl) hd

/-- The structure of what creates a table does not depend on any text in the table: the first
statement has exactly the columns, constraints and inline indexes between its parentheses, and the
other indexes and the comments follow it. -/
theorem createTable_outlines (d : Dialect) (t : Table) (hcolumns : t.columns ≠ [])
    (hoptions : d = .mysql → t.options = []) :
    ∃ statement comments,
      d.createTable t =
          statement :: ((if d = .mysql then [] else t.indexes.map (d.indexSql t)) ++ comments) ∧
        Outlines d statement
          (t.columns.map (d.columnSql t) ++ t.constraints.map d.constraintSql ++
            if d = .mysql then t.indexes.map (d.indexSql t) else []) ∧
        if d = .postgresql ∨ d = .sqlserver then
          List.Forall₂ (fun c text => d.commentSql? t c = some text)
            (t.columns.filter (·.filledComment?.isSome)) comments
        else comments = [] := by
  have hinline : (d.inlineIndexes = true) = (d = .mysql) := by cases d <;> simp [inlineIndexes]
  have hparts : d.tableParts t = t.columns.map (d.columnSql t) ++ t.constraints.map d.constraintSql ++
      if d = .mysql then t.indexes.map (d.indexSql t) else [] := by
    simp only [tableParts, hinline]
  have hne : d.tableParts t ≠ [] := by
    rw [hparts]
    simp [hcolumns]
  refine ⟨tableSql d t, _, ?_, ?_, comments_eq t⟩
  · simp only [createTable, hinline]
    rfl
  · rw [← hparts]
    exact outlines_tableSql hne hoptions

/-- Quotes, commas and parentheses in a name, a default and a comment separate nothing. -/
theorem createTable_outlines_quotes :
    let column : Column :=
      { name := "a\x60), (", type := .string, default := some (.str "it's, ("),
        comment := some "')" }
    let t : Table :=
      { name := "t", columns := [column],
        constraints := [{ name := "primary", kind := .primary, columns := ["a\x60), ("] }] }
    t.columns ≠ [] ∧ (mysql = .mysql → t.options = []) ∧
      ∃ statement, mysql.createTable t = [statement] ∧
        Outlines .mysql statement
          ["\x60a\x60\x60), (\x60 VARCHAR(255) DEFAULT 'it''s, (' COMMENT ''')'",
           "PRIMARY KEY (\x60a\x60\x60), (\x60)"] := by
  intro column t
  have hne : t.columns ≠ [] := List.cons_ne_nil _ _
  have hoptions : mysql = .mysql → t.options = [] := fun _ => rfl
  obtain ⟨statement, comments, hsql, houtline, hcomments⟩ :=
    createTable_outlines mysql t hne hoptions
  have hnone : comments = [] := by simpa using hcomments
  have hparts : t.columns.map (mysql.columnSql t) ++ t.constraints.map mysql.constraintSql ++
      (if mysql = .mysql then t.indexes.map (mysql.indexSql t) else []) =
        ["\x60a\x60\x60), (\x60 VARCHAR(255) DEFAULT 'it''s, (' COMMENT ''')'",
         "PRIMARY KEY (\x60a\x60\x60), (\x60)"] := by
    decide +kernel
  rw [hparts] at houtline
  rw [hnone] at hsql
  exact ⟨hne, hoptions, statement, hsql, houtline⟩

end PortableSql

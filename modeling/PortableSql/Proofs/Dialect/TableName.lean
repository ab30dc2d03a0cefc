import PortableSql.Proofs.Dialect.Outline
import PortableSql.Proofs.Table.WellFormed

namespace PortableSql

open Dialect

variable {d : Dialect}

/-- What stands between the spaces of a statement, those in names and texts left aside. -/
def words (d : Dialect) (statement : String) : List String :=
  ((glyphs d .outside statement.toList).splitOn ⟨' ', true⟩).map fun gs => String.ofList (textOf gs)

/-- A text that has no spaces outside of names and texts. -/
def IsWord (d : Dialect) (text : String) : Prop := Shows d (· ≠ ' ') text.toList

theorem words_of_isWord {word : String} (h : IsWord d word) : words d word = [word] := by
  have hspace : (⟨' ', true⟩ : Glyph) ∉ glyphs d .outside word.toList :=
    fun hm => h.shown _ hm rfl rfl
  rw [words, List.splitOn_eq_singleton hspace, List.map_singleton, textOf_glyphs,
    String.ofList_toList]

theorem words_space {word : String} (h : IsWord d word) (rest : String) :
    words d (word ++ (" " ++ rest)) = word :: words d rest := by
  have htext : (word ++ (" " ++ rest)).toList = word.toList ++ ' ' :: rest.toList := by simp
  have hword := words_of_isWord h
  unfold words at hword ⊢
  rw [htext, glyphs_separated h.rests (by decide), List.splitOn_append_cons_self, List.map_append,
    hword, List.singleton_append]

theorem isWord_quoteIdentifier (name : String) : IsWord d (d.quoteIdentifier name) :=
  shows_quoteIdentifier (by decide) (by decide) name

theorem isWord_of_forall {word : String} (h : ∀ c ∈ word.toList, c ∉ quoteMarks ∧ c ≠ ' ') :
    IsWord d word :=
  shows_of_forall h

/-- The table that a statement creates. -/
def createdTable? (d : Dialect) (statement : String) : Option String :=
  match words d statement with
  | "CREATE" :: "TABLE" :: name :: _ => some name
  | "CREATE" :: "TEMPORARY" :: "TABLE" :: name :: _ => some name
  | _ => none

/-- The table that a statement drops. -/
def droppedTable? (d : Dialect) (statement : String) : Option String :=
  match words d statement with
  | "DROP" :: "TABLE" :: name :: _ => some name
  | _ => none

def CreatesIndex (d : Dialect) (statement : String) : Prop :=
  (words d statement).take 2 = ["CREATE", "INDEX"]

/-- The table on which a statement creates an index. -/
def indexedTable? (d : Dialect) (statement : String) : Option String :=
  match words d statement with
  | "CREATE" :: "INDEX" :: _ :: "ON" :: name :: _ => some name
  | _ => none

theorem words_indexSql (hd : d ≠ .mysql) (t : Table) (i : Index) :
    ∃ rest, words d (d.indexSql t i) =
      "CREATE" :: "INDEX" :: d.quoteIdentifier i.name :: "ON" :: d.quoteIdentifier t.name :: rest := by
  have hsql : ∃ rest, d.indexSql t i = "CREATE" ++ (" " ++ ("INDEX" ++ (" " ++
      (d.quoteIdentifier i.name ++ (" " ++ ("ON" ++ (" " ++
        (d.quoteIdentifier t.name ++ (" " ++ rest))))))))) := by
    cases d with
    | mysql => exact absurd rfl hd
    | postgresql =>
      cases hkind : i.kind with
      | plain =>
        refine ⟨"(" ++ postgresql.quoteIdentifiers i.columns ++ ")", String.toList_inj.mp ?_⟩
        simp [indexSql, hkind, toString]
      | fulltext =>
        refine ⟨"USING gin(to_tsvector('english', " ++ String.intercalate " || ' ' || "
          (i.columns.map fun c => s!"COALESCE({postgresql.quoteIdentifier c}, '')") ++ "))",
          String.toList_inj.mp ?_⟩
        simp [indexSql, hkind, toString]
    | sqlite =>
      refine ⟨"(" ++ sqlite.quoteIdentifiers i.columns ++ ")", String.toList_inj.mp ?_⟩
      simp [indexSql, toString]
    | sqlserver =>
      refine ⟨"(" ++ sqlserver.quoteIdentifiers i.columns ++ ")", String.toList_inj.mp ?_⟩
      simp [indexSql, toString]
  obtain ⟨rest, hsql⟩ := hsql
  refine ⟨words d rest, ?_⟩
  rw [hsql, words_space (isWord_of_forall (by decide)), words_space (isWord_of_forall (by decide)),
    words_space (isWord_quoteIdentifier _), words_space (isWord_of_forall (by decide)),
    words_space (isWord_quoteIdentifier _)]

theorem isWord_tableName (t : Table) : IsWord d (d.tableName t) := by
  unfold tableName
  split
  · exact isWord_quoteIdentifier _
  · exact isWord_quoteIdentifier _

theorem words_tableSql (t : Table) : ∃ rest,
    words d (tableSql d t) = "CREATE" :: "TABLE" :: d.tableName t :: rest ∨
      words d (tableSql d t) = "CREATE" :: "TEMPORARY" :: "TABLE" :: d.tableName t :: rest := by
  have hcreate : IsWord d "CREATE" := isWord_of_forall (by decide)
  have htemporary : IsWord d "TEMPORARY" := isWord_of_forall (by decide)
  have htable : IsWord d "TABLE" := isWord_of_forall (by decide)
  have hname := isWord_tableName (d := d) t
  obtain ⟨rest, hsql⟩ : ∃ rest, tableSql d t =
      d.createKeyword t ++ (" " ++ (d.tableName t ++ (" " ++ rest))) := by
    refine ⟨"(\n    " ++ String.intercalate ",\n    " (d.tableParts t) ++ "\n)" ++ d.tableOptions t,
      String.toList_inj.mp ?_⟩
    simp [tableSql]
  have hkeyword : d.createKeyword t = "CREATE" ++ (" " ++ "TABLE") ∨
      d.createKeyword t = "CREATE" ++ (" " ++ ("TEMPORARY" ++ (" " ++ "TABLE"))) := by
    unfold createKeyword
    repeat' split
    · exact .inl rfl
    · exact .inr rfl
    · exact .inl rfl
  refine ⟨words d rest, ?_⟩
  rcases hkeyword with hk | hk
  · refine .inl ?_
    rw [hsql, hk]
    simp only [String.append_assoc, words_space hcreate, words_space htable, words_space hname]
  · refine .inr ?_
    rw [hsql, hk]
    simp only [String.append_assoc, words_space hcreate, words_space htemporary,
      words_space htable, words_space hname]

theorem words_dropTable (t : Table) : ∃ rest,
    words d (d.dropTable t) = "DROP" :: "TABLE" :: d.tableName t :: rest := by
  have hdrop : IsWord d "DROP" := isWord_of_forall (by decide)
  have htable : IsWord d "TABLE" := isWord_of_forall (by decide)
  have hname := isWord_tableName (d := d) t
  have hsql : d.dropTable t =
      "DROP" ++ (" " ++ ("TABLE" ++ (" " ++ if d = .postgresql then d.tableName t ++ (" " ++ "CASCADE")
        else d.tableName t))) := by
    refine String.toList_inj.mp ?_
    cases d <;> simp [dropTable, toString]
  rw [hsql, words_space hdrop, words_space htable]
  split
  · exact ⟨_, congrArg _ (congrArg _ (words_space hname _))⟩
  · exact ⟨_, congrArg _ (congrArg _ (words_of_isWord hname))⟩

theorem words_commentSql {t : Table} {column : Column} {sql : String}
    (h : d.commentSql? t column = some sql) :
    ∃ word rest, word ≠ "CREATE" ∧ words d sql = word :: rest := by
  have hwords : ∀ word rest : String, IsWord d word → word ≠ "CREATE" →
      sql = word ++ (" " ++ rest) → ∃ word rest, word ≠ "CREATE" ∧ words d sql = word :: rest := by
    rintro word rest hword hne rfl
    exact ⟨word, words d rest, hne, words_space hword rest⟩
  cases hcomment : column.comment with
  | none => cases d <;> simp [commentSql?, hcomment] at h
  | some text =>
    cases d with
    | mysql | sqlite => simp [commentSql?] at h
    | postgresql =>
      refine hwords "COMMENT"
        (s!"ON COLUMN {postgresql.quoteIdentifier t.name}.{postgresql.quoteIdentifier column.name} " ++
          s!"IS {quoteString text}") (isWord_of_forall (by decide)) (by decide) ?_
      simp only [commentSql?, hcomment, Option.some.injEq] at h
      rw [← h]
      refine String.toList_inj.mp ?_
      simp [toString]
    | sqlserver =>
      refine hwords "EXEC"
        (s!"sp_addextendedproperty N'MS_Description', N{quoteString text}, " ++
          s!"N'SCHEMA', N'dbo', N'TABLE', N{quoteString t.name}, " ++
          s!"N'COLUMN', N{quoteString column.name}") (isWord_of_forall (by decide)) (by decide) ?_
      simp only [commentSql?, hcomment, Option.some.injEq] at h
      rw [← h]
      refine String.toList_inj.mp ?_
      simp [toString]

theorem quoteSegment_hash_ne (segment : List Char) :
    d.quoteSegment ('#' :: segment) ≠ d.quoteSegment segment := by
  have hlength : (d.quoteSegment ('#' :: segment)).length =
      (Chars.double d.endQuote segment).length + 3 := by
    have hhash : '#' ≠ d.endQuote := by cases d <;> decide
    simp [quoteSegment, Chars.double, hhash]
  intro h
  rw [h] at hlength
  unfold quoteSegment at hlength
  split at hlength
  · simp at hlength
  · simp at hlength

/-- A hash in front of a name is seen in its quotes. -/
theorem quoteIdentifier_hash_ne (name : String) :
    d.quoteIdentifier ("#" ++ name) ≠ d.quoteIdentifier name := by
  obtain ⟨first, others, hsplit⟩ := List.exists_cons_of_ne_nil (Chars.splitOn_ne_nil '.' name.toList)
  have hhash : Chars.splitOn '.' ('#' :: name.toList) = ('#' :: first) :: others := by
    simp [Chars.splitOn, hsplit]
  intro h
  have hname : d.quoteName ('#' :: name.toList) = d.quoteName name.toList := by
    simpa [quoteIdentifier] using congrArg String.toList h
  rw [quoteName, quoteName, hhash, hsplit, List.map_cons, List.map_cons,
    Chars.intercalate_cons, Chars.intercalate_cons] at hname
  exact quoteSegment_hash_ne first (List.append_cancel_right hname)

/-- The statements for a table are all about the table that the first of them creates and that the
statement for dropping it names. -/
def NamesOneTable (d : Dialect) (t : Table) : Prop :=
  ∃ table, (d.createTable t).head?.bind (createdTable? d) = some table ∧
    droppedTable? d (d.dropTable t) = some table ∧
    ∀ statement ∈ d.createTable t, CreatesIndex d statement →
      indexedTable? d statement = some table

theorem createdTable?_tableSql (t : Table) :
    createdTable? d (tableSql d t) = some (d.tableName t) := by
  obtain ⟨rest, hwords | hwords⟩ := words_tableSql (d := d) t
  · simp [createdTable?, hwords]
  · simp [createdTable?, hwords]

theorem droppedTable?_dropTable (t : Table) :
    droppedTable? d (d.dropTable t) = some (d.tableName t) := by
  obtain ⟨rest, hwords⟩ := words_dropTable (d := d) t
  simp [droppedTable?, hwords]

theorem createsIndex_indexSql (hd : d ≠ .mysql) (t : Table) (i : Index) :
    CreatesIndex d (d.indexSql t i) ∧
      indexedTable? d (d.indexSql t i) = some (d.quoteIdentifier t.name) := by
  obtain ⟨rest, hwords⟩ := words_indexSql hd t i
  simp [CreatesIndex, indexedTable?, hwords]

theorem not_createsIndex_tableSql (t : Table) : ¬ CreatesIndex d (tableSql d t) := by
  obtain ⟨rest, hwords | hwords⟩ := words_tableSql (d := d) t
  · simp [CreatesIndex, hwords]
  · simp [CreatesIndex, hwords]

theorem not_createsIndex_commentSql {t : Table} {column : Column} {sql : String}
    (h : d.commentSql? t column = some sql) : ¬ CreatesIndex d sql := by
  obtain ⟨word, rest, hne, hwords⟩ := words_commentSql h
  simp [CreatesIndex, hwords, hne]

theorem mem_createTable {t : Table} {statement : String} (h : statement ∈ d.createTable t) :
    statement = tableSql d t ∨ (d ≠ .mysql ∧ ∃ i ∈ t.indexes, statement = d.indexSql t i) ∨
      ∃ column, d.commentSql? t column = some statement := by
  rcases List.mem_cons.mp h with rfl | h
  · exact .inl rfl
  · rcases List.mem_append.mp h with h | h
    · cases d with
      | mysql => cases h
      | postgresql | sqlite | sqlserver =>
        obtain ⟨i, hi, rfl⟩ := List.mem_map.mp h
        exact .inr (.inl ⟨by decide, i, hi, rfl⟩)
    · obtain ⟨column, _, hcomment⟩ := List.mem_filterMap.mp h
      exact .inr (.inr ⟨column, hcomment⟩)

theorem createsIndex_iff {t : Table} {statement : String} (h : statement ∈ d.createTable t) :
    CreatesIndex d statement ↔ d ≠ .mysql ∧ ∃ i ∈ t.indexes, statement = d.indexSql t i := by
  constructor
  · intro hcreates
    rcases mem_createTable h with rfl | hindex | ⟨column, hcomment⟩
    · exact absurd hcreates (not_createsIndex_tableSql t)
    · exact hindex
    · exact absurd hcreates (not_createsIndex_commentSql hcomment)
  · rintro ⟨hd, i, _, rfl⟩
    exact (createsIndex_indexSql hd t i).1

theorem indexSql_mem_createTable (hd : d ≠ .mysql) {t : Table} {i : Index} (hi : i ∈ t.indexes) :
    d.indexSql t i ∈ d.createTable t := by
  have hinline : d.inlineIndexes = false := by
    cases d with
    | mysql => exact absurd rfl hd
    | postgresql | sqlite | sqlserver => rfl
  simp only [createTable, hinline, if_neg Bool.false_ne_true]
  exact List.mem_cons_of_mem _ (List.mem_append_left _ (List.mem_map_of_mem hi))

/-- Indexes are created on the name under which the table is created and dropped, but for those of
temporary tables of SQL Server: these tables have a hash in front of their names, which the
statements for their indexes leave out. -/
theorem createTable_namesOneTable_iff (d : Dialect) (t : Table) :
    (∀ statement ∈ d.createTable t, CreatesIndex d statement ↔
      d ≠ .mysql ∧ ∃ i ∈ t.indexes, statement = d.indexSql t i) ∧
    (NamesOneTable d t ↔ ¬ (d = .sqlserver ∧ t.temporary = true ∧ t.indexes ≠ [])) := by
  have hfirst : (d.createTable t).head? = some (tableSql d t) := rfl
  have hcreated : (d.createTable t).head?.bind (createdTable? d) = some (d.tableName t) := by
    rw [hfirst, Option.bind_some, createdTable?_tableSql]
  refine ⟨fun statement hs => createsIndex_iff hs, ?_, ?_⟩
  · rintro ⟨table, htable, _, hindexed⟩ ⟨rfl, htemporary, hindexes⟩
    obtain ⟨i, hi⟩ := List.exists_mem_of_ne_nil _ hindexes
    have hd : sqlserver ≠ .mysql := by decide
    obtain ⟨hcreates, hon⟩ := createsIndex_indexSql hd t i
    have hsame := hindexed _ (indexSql_mem_createTable hd hi) hcreates
    obtain rfl : sqlserver.tableName t = table := Option.some.inj (hcreated.symm.trans htable)
    have hname : sqlserver.quoteIdentifier t.name = sqlserver.tableName t :=
      Option.some.inj (hon.symm.trans hsame)
    rw [tableName, if_pos htemporary] at hname
    exact quoteIdentifier_hash_ne t.name hname.symm
  · intro hnot
    refine ⟨d.tableName t, hcreated, droppedTable?_dropTable t, ?_⟩
    intro statement hs hcreates
    obtain ⟨hd, i, hi, rfl⟩ := (createsIndex_iff hs).mp hcreates
    rw [(createsIndex_indexSql hd t i).2]
    have hplain : d.tableName t = d.quoteIdentifier t.name := by
      cases d with
      | mysql | postgresql | sqlite => rfl
      | sqlserver =>
        have htemporary : ¬ t.temporary = true :=
          fun ht => hnot ⟨rfl, ht, List.ne_nil_of_mem hi⟩
        rw [tableName, if_neg htemporary]
    rw [hplain]

/-- A temporary table with one index: the index is created on another table. -/
theorem createTable_names_other_table :
    let t := Table.editAll { name := "t" }
      [.addColumn { name := "a", type := .integer }, .addIndex { name := "i", kind := .plain, columns := ["a"] },
       .setTemporary true]
    sqlserver.createTable t =
        ["CREATE TABLE [#t] (\n    [a] INTEGER\n)", "CREATE INDEX [i] ON [t] ([a])"] ∧
      ¬ NamesOneTable sqlserver t := by
  intro t
  have hsql : sqlserver.createTable t =
      ["CREATE TABLE [#t] (\n    [a] INTEGER\n)", "CREATE INDEX [i] ON [t] ([a])"] := by
    decide +kernel
  have hcreated : createdTable? sqlserver "CREATE TABLE [#t] (\n    [a] INTEGER\n)" = some "[#t]" := by
    decide +kernel
  have hcreates : CreatesIndex sqlserver "CREATE INDEX [i] ON [t] ([a])" := by
    unfold CreatesIndex
    decide +kernel
  have hon : indexedTable? sqlserver "CREATE INDEX [i] ON [t] ([a])" = some "[t]" := by
    decide +kernel
  refine ⟨hsql, ?_⟩
  rintro ⟨table, htable, _, hindexed⟩
  rw [hsql] at htable hindexed
  have hsame := hindexed _ (by simp) hcreates
  rw [hon] at hsame
  rw [← hsame] at htable
  exact absurd (hcreated.symm.trans htable) (by decide)

end PortableSql

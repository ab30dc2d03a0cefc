import PortableSql.Proofs.Dialect.ColumnType

namespace PortableSql

open Dialect

variable {d : Dialect} {commas : Bool}

/-- A text that may stand behind another: nothing, or a text behind a space. -/
def MayFollow (reads : List Char → Prop) (text : String) : Prop :=
  text = "" ∨ ∃ rest, text = " " ++ rest ∧ reads rest.toList

section

variable {reads : List Char → Prop}

theorem Spaced.followed (h : Spaced reads) {text more : String} (ht : reads text.toList)
    (hmore : MayFollow reads more) : reads (text ++ more).toList := by
  rcases hmore with rfl | ⟨rest, rfl, hrest⟩
  · rwa [String.append_empty]
  · rw [← String.append_assoc]
    exact h.space ht hrest

theorem Spaced.followed_join (h : Spaced reads) {text : String} {parts : List String}
    (ht : reads text.toList) (hparts : ∀ part ∈ parts, reads part.toList) :
    reads (text ++ String.join (parts.map (" " ++ ·))).toList := by
  induction parts generalizing text with
  | nil => simpa using ht
  | cons part parts ih =>
    rw [List.map_cons, String.join_cons, ← String.append_assoc]
    refine ih (h.followed ht (.inr ⟨part, rfl, hparts part List.mem_cons_self⟩)) fun x hx => ?_
    exact hparts x (List.mem_cons_of_mem _ hx)

end

/-- The definition of a column up to its attributes. -/
def columnHead (d : Dialect) (c : Column) : String :=
  d.quoteIdentifier c.name ++ " " ++ d.columnType c ++
    (if c.nullable = some false then " NOT NULL" else "") ++ d.defaultClause c

theorem columnSql_eq (t : Table) (c : Column) :
    d.columnSql t c =
      if t.isSerial c then
        match d.serialType? c with
        | some serial => d.quoteIdentifier c.name ++ " " ++ serial
        | none => columnHead d c ++ String.join ((d.columnModifiers t c).map (" " ++ ·))
      else columnHead d c ++ String.join ((d.columnModifiers t c).map (" " ++ ·)) := rfl

theorem Spaced.columnHead {reads : List Char → Prop} (h : Spaced reads) {c : Column}
    (hname : reads (d.quoteIdentifier c.name).toList) (htype : reads (d.columnType c).toList)
    (hnull : reads "NOT NULL".toList) (hdefault : MayFollow reads (d.defaultClause c)) :
    reads (columnHead d c).toList := by
  refine h.followed (h.followed (h.space hname htype) ?_) hdefault
  split
  · exact .inr ⟨"NOT NULL", rfl, hnull⟩
  · exact .inl rfl

theorem defaultClause_mayFollow (e : Dialect) (c : Column) :
    MayFollow (Clause d commas) (e.defaultClause c) := by
  have hword : Clause d commas "DEFAULT".toList := clause_word (by decide)
  unfold defaultClause
  split
  next value _ =>
    refine .inr ⟨"DEFAULT" ++ " " ++ e.quote value (some c.type), ?_, ?_⟩
    · rw [← String.append_assoc]
      rfl
    · exact clause_spaced.space hword (clause_quote e value _)
  next =>
    split
    next => exact .inr ⟨"DEFAULT NULL", rfl, clause_word (by decide)⟩
    next => exact .inl rfl

theorem mem_columnModifiers {t : Table} {c : Column} {part : String}
    (h : part ∈ d.columnModifiers t c) :
    part = "AUTO_INCREMENT" ∧ t.isSerial c = true ∨
      ∃ text, part = "COMMENT" ++ " " ++ quoteString text := by
  cases d with
  | mysql =>
    rcases List.mem_append.mp h with hm | hm
    · split at hm
      next hserial => exact .inl ⟨List.mem_singleton.mp hm, hserial⟩
      next => cases hm
    · obtain ⟨text, _, rfl⟩ := Option.map_eq_some_iff.mp (Option.mem_toList.mp hm)
      refine .inr ⟨text, String.toList_inj.mp ?_⟩
      simp [toString]
  | postgresql | sqlite | sqlserver => cases h

theorem clause_columnModifiers (e : Dialect) (t : Table) (c : Column) :
    ∀ part ∈ e.columnModifiers t c, Clause d commas part.toList := by
  intro part hpart
  rcases mem_columnModifiers hpart with ⟨rfl, _⟩ | ⟨text, rfl⟩
  · exact clause_word (by decide)
  · exact clause_spaced.space (clause_word (by decide)) (flat_quoteString text).clause

theorem clause_columnHead (c : Column) : Clause d commas (columnHead d c).toList :=
  clause_spaced.columnHead (flat_quoteIdentifier _).clause (clause_columnType d c)
    (clause_word (by decide)) (defaultClause_mayFollow d c)

theorem clause_columnSql (t : Table) (c : Column) : Clause d commas (d.columnSql t c).toList := by
  have hplain : Clause d commas
      (columnHead d c ++ String.join ((d.columnModifiers t c).map (" " ++ ·))).toList :=
    clause_spaced.followed_join (clause_columnHead c) (clause_columnModifiers d t c)
  rw [columnSql_eq]
  split
  next =>
    split
    next serial hserial =>
      exact clause_spaced.space (flat_quoteIdentifier _).clause (clause_serialType hserial)
    next => exact hplain
  next => exact hplain

/-- Parentheses behind a space. -/
theorem clause_call {text inside : String} (h : Clause d commas text.toList)
    (hinside : Clause d true inside.toList) :
    Clause d commas (text ++ " (" ++ inside ++ ")").toList := by
  have hspace := h.separated flat_nil.clause (c := ' ') (by decide) rfl
  simpa using hspace.group hinside

theorem clause_actionSql (e : Dialect) (action : ReferentialAction) :
    Clause d commas (e.actionSql action).toList := by
  refine Flat.clause (flat_of_forall ?_)
  cases e <;> cases action <;> decide

theorem clause_uniqueSql (c : Constraint) : Clause d commas (d.uniqueSql c).toList := by
  have hname : Clause d commas (d.quoteIdentifier c.name).toList := (flat_quoteIdentifier _).clause
  have hcolumns : Clause d true (d.quoteIdentifiers c.columns).toList := clause_quoteIdentifiers _
  have hkey : Clause d commas "UNIQUE KEY".toList := clause_word (by decide)
  have hconstraint : Clause d commas "CONSTRAINT".toList := clause_word (by decide)
  have hunique : Clause d commas "UNIQUE".toList := clause_word (by decide)
  unfold uniqueSql
  dsimp only
  split
  next =>
    refine clause_of_eq (clause_call (clause_spaced.space hkey hname) hcolumns) ?_
    simp [toString]
  next =>
    have hhead := clause_spaced.space (clause_spaced.space hconstraint hname) hunique
    refine clause_of_eq (clause_call hhead hcolumns) ?_
    simp [toString]

theorem clause_constraintSql (c : Constraint) : Clause d commas (d.constraintSql c).toList := by
  have hname : ∀ name, Clause d commas (d.quoteIdentifier name).toList :=
    fun name => (flat_quoteIdentifier name).clause
  have hcolumns : Clause d true (d.quoteIdentifiers c.columns).toList := clause_quoteIdentifiers _
  unfold constraintSql
  dsimp only
  cases c.kind with
  | primary =>
    have hword : Clause d commas "PRIMARY KEY".toList := clause_word (by decide)
    refine clause_of_eq (clause_call hword hcolumns) ?_
    simp [toString]
  | unique => exact clause_uniqueSql c
  | foreign =>
    have hword : ∀ word ∈ ["CONSTRAINT", "FOREIGN KEY", "REFERENCES", "ON UPDATE", "ON DELETE"],
        Clause d commas word.toList := by
      intro word hword
      refine clause_word ?_
      revert word
      decide
    have hspace : Spaced (Clause d commas) := clause_spaced
    have hkey := clause_call (hspace.space
      (hspace.space (hword "CONSTRAINT" (by decide)) (hname c.name))
      (hword "FOREIGN KEY" (by decide))) hcolumns
    have htarget := clause_call (hspace.space
      (hspace.space hkey (hword "REFERENCES" (by decide))) (hname (c.referencedTable?.getD "")))
      (clause_quoteIdentifiers c.referencedColumns)
    have hupdate := hspace.space (hspace.space htarget (hword "ON UPDATE" (by decide)))
      (clause_actionSql d c.onUpdate)
    have hdelete := hspace.space (hspace.space hupdate (hword "ON DELETE" (by decide)))
      (clause_actionSql d c.onDelete)
    refine clause_of_eq hdelete ?_
    simp [toString]

theorem clause_mysqlIndexSql (t : Table) (i : Index) :
    Clause .mysql commas (mysql.indexSql t i).toList := by
  have hname : Clause .mysql commas (mysql.quoteIdentifier i.name).toList :=
    (flat_quoteIdentifier _).clause
  have hcolumn : ∀ column, Clause .mysql true (mysql.indexColumn i column).toList := by
    intro column
    have hquoted : Clause .mysql true (mysql.quoteIdentifier column).toList :=
      (flat_quoteIdentifier _).clause
    unfold indexColumn
    split
    next n _ => simpa [toString] using hquoted.group (flat_digits n.toNat).clause
    next => exact hquoted
  have hcolumns :
      Clause .mysql true (commaSeparated (i.columns.map (mysql.indexColumn i))).toList := by
    refine clause_commaSeparated fun s hs => ?_
    obtain ⟨column, _, rfl⟩ := List.mem_map.mp hs
    exact hcolumn column
  have hkeyword : ∀ keyword ∈ ["KEY", "FULLTEXT KEY"], Clause .mysql commas keyword.toList := by
    cases commas <;> decide
  unfold indexSql
  dsimp only
  cases i.kind with
  | plain =>
    refine clause_of_eq
      (clause_call (clause_spaced.space (hkeyword "KEY" (by decide)) hname) hcolumns) ?_
    simp [toString]
  | fulltext =>
    refine clause_of_eq
      (clause_call (clause_spaced.space (hkeyword "FULLTEXT KEY" (by decide)) hname) hcolumns) ?_
    simp [toString]

end PortableSql

import PortableSql.Dialect.Tuple
import PortableSql.Proofs.Dialect.Condition

namespace PortableSql

open Template

namespace TupleValues

/-- Whether a row, or the sub-select, has another width than the columns. -/
def Misfits (width : Nat) : TupleValues → Prop
  | rows list => ∃ row ∈ list, row.length ≠ width
  | subquery _ inner _ => inner.length ≠ width

theorem fault?_eq_none_iff (columns : List String) (values : TupleValues) :
    fault? columns values = none ↔ columns ≠ [] ∧ ¬ values.Misfits columns.length := by
  cases columns with
  | nil => simp [fault?]
  | cons first others => cases values <;> simp [fault?, Misfits]

end TupleValues

namespace Dialect

variable {α : Type}

theorem tupleSql_ok_iff (d : Dialect) (columns : List String) (values : TupleValues) :
    (∃ sql, d.tupleSql columns values = .ok sql) ↔ TupleValues.fault? columns values = none := by
  unfold tupleSql
  cases TupleValues.fault? columns values <;> simp

theorem tupleSql_error_iff (d : Dialect) (columns : List String) (values : TupleValues) :
    (∃ fault, d.tupleSql columns values = .error fault) ↔
      columns = [] ∨ values.Misfits columns.length := by
  have herror : (∃ fault, d.tupleSql columns values = .error fault) ↔
      TupleValues.fault? columns values ≠ none := by
    unfold tupleSql
    cases TupleValues.fault? columns values <;> simp
  rw [herror, Ne, TupleValues.fault?_eq_none_iff]
  by_cases hcolumns : columns = [] <;> simp [hcolumns]

/-- The comparison with rows is written as the template, whatever stands for the fragments. -/
def WritesRows (d : Dialect) (columns : List α) (rows : List (List α)) (text : Template α) : Prop :=
  ∀ name : α → String,
    d.tupleSql (columns.map name) (.rows (rows.map (·.map name))) = .ok (text.fill name)

theorem WritesRows.unique {d : Dialect} {columns : List α} {rows : List (List α)}
    {first second : Template α} (hfirst : d.WritesRows columns rows first)
    (hsecond : d.WritesRows columns rows second) : first = second :=
  fill_injective fun name => Except.ok.inj ((hfirst name).symm.trans (hsecond name))

end Dialect

namespace Template

variable {α : Type}

def fragments (fields : List α) : List (Template α) := fields.map ([.inr ·])

def equalities (left right : List α) : List (Template α) :=
  (left.zip right).map fun pair => .inr pair.1 :: (ofText " = " ++ [.inr pair.2])

def rowValue (columns : List α) (rows : List (List α)) : Template α :=
  enclosed ", " (fragments columns) ++
    (ofText " IN " ++ enclosed ", " (rows.map fun row => enclosed ", " (fragments row)))

def expanded (columns : List α) (rows : List (List α)) : Template α :=
  enclosed " OR " (rows.map fun row => enclosed " AND " (equalities columns row))

/-- The comparison with rows, as a row value or without one. -/
def comparison (rowValues : Bool) (columns : List α) (rows : List (List α)) : Template α :=
  if rows.isEmpty then ofText "1 = 0"
  else if rowValues then rowValue columns rows
  else expanded columns rows

theorem comparison_of_ne_nil (rowValues : Bool) (columns : List α) {rows : List (List α)}
    (h : rows ≠ []) : comparison rowValues columns rows =
      if rowValues then rowValue columns rows else expanded columns rows :=
  if_neg (by simpa using h)

theorem fill_fragments (name : α → String) (fields : List α) :
    (fragments fields).map (fill name) = fields.map name := by
  simp [fragments, fill]

theorem fill_row (name : α → String) (fields : List α) :
    fill name (enclosed ", " (fragments fields)) =
      TupleValues.parenthesized (fields.map name) := by
  rw [fill_enclosed, fill_fragments]
  rfl

theorem fill_equalities (name : α → String) (left right : List α) :
    (equalities left right).map (fill name) =
      TupleValues.equalities (left.map name) (right.map name) := by
  rw [equalities, TupleValues.equalities, List.zipWith_map, List.map_map, List.zip_eq_zipWith,
    List.map_zipWith]
  refine congrArg (fun f => List.zipWith f left right) (funext fun l => funext fun r => ?_)
  exact String.toList_inj.mp (by simp [fill, ofText, toString])

theorem fill_rowValue (name : α → String) (columns : List α) {rows : List (List α)}
    (hrows : rows ≠ []) :
    fill name (rowValue columns rows) =
      TupleValues.rowValueSql (columns.map name) (.rows (rows.map (·.map name))) := by
  have hlist : (rows.map fun row => enclosed ", " (fragments row)).map (fill name) =
      (rows.map (·.map name)).map TupleValues.parenthesized := by
    simp only [List.map_map, Function.comp_def, fill_row]
  rw [rowValue, fill_append, fill_append, fill_row, fill_enclosed, hlist, fill_ofText]
  cases rows with
  | nil => exact absurd rfl hrows
  | cons first others =>
    exact String.toList_inj.mp (by simp [TupleValues.rowValueSql, commaSeparated, toString])

theorem fill_expanded (limitFirst : Bool) (name : α → String) (columns : List α)
    {rows : List (List α)} (hrows : rows ≠ []) :
    fill name (expanded columns rows) =
      TupleValues.expandedSql limitFirst (columns.map name) (.rows (rows.map (·.map name))) := by
  have hlist : (rows.map fun row => enclosed " AND " (equalities columns row)).map (fill name) =
      (rows.map (·.map name)).map fun row =>
        "(" ++ String.intercalate " AND " (TupleValues.equalities (columns.map name) row) ++ ")" := by
    simp only [List.map_map, Function.comp_def, fill_enclosed, fill_equalities]
  rw [expanded, fill_enclosed, hlist]
  cases rows with
  | nil => exact absurd rfl hrows
  | cons first others => rfl

theorem lexemes_row (fields : List α) :
    lexemes (enclosed ", " (fragments fields)) = Condition.rowLexemes fields :=
  lexemes_enclosed "," rfl rfl (fun _ => rfl) fields

theorem lexemes_rowValue (columns : List α) (rows : List (List α)) :
    lexemes (rowValue columns rows) = Condition.rowLexemes columns ++
      .symbol "IN" :: Lexeme.enclosed "," (rows.map Condition.rowLexemes) := by
  rw [rowValue, lexemes_append _ rfl, lexemes_append _ rfl, lexemes_row,
    lexemes_enclosed "," rfl rfl fun _ => rfl]
  simp only [lexemes_row]
  rfl

theorem lexemes_expanded (columns : List α) (rows : List (List α)) :
    lexemes (expanded columns rows) =
      Lexeme.enclosed "OR" ((rows.map (columns.zip ·)).map fun pairs =>
        Lexeme.enclosed "AND" (pairs.map Condition.equalityLexemes)) := by
  have hrow (row : List α) : lexemes (enclosed " AND " (equalities columns row)) =
      Lexeme.enclosed "AND" ((columns.zip row).map Condition.equalityLexemes) :=
    lexemes_enclosed "AND" rfl rfl (fun _ => rfl) (columns.zip row)
  rw [expanded, lexemes_enclosed "OR" rfl rfl fun _ => rfl]
  simp only [List.map_map, Function.comp_def, hrow]

section

variable {β : Type} (value : α → Option β) (equal : β → β → Bool) {columns : List α}
  {rows : List (List α)}

theorem truth?_rowValue (hcolumns : columns ≠ []) (hrows : rows ≠ [])
    (hwidth : ∀ row ∈ rows, row.length = columns.length) :
    truth? value equal (rowValue columns rows) =
      some (.isIn equal (columns.map value) (rows.map (·.map value))) := by
  have hlength : 1 ≤ (rowValue columns rows).length := Nat.succ_le_succ (Nat.zero_le _)
  obtain ⟨depth, hdepth⟩ := Nat.exists_eq_add_of_le' hlength
  refine truth?_of_factor ?_
  rw [hdepth, lexemes_rowValue, ← List.append_nil (Lexeme.enclosed "," _)]
  exact Condition.factor_rowLexemes value equal depth hcolumns hrows hwidth []

theorem truth?_expanded (hcolumns : columns ≠ []) (hrows : rows ≠ [])
    (hwidth : ∀ row ∈ rows, row.length = columns.length) :
    truth? value equal (expanded columns rows) =
      some (.isIn equal (columns.map value) (rows.map (·.map value))) := by
  have hlength : 3 ≤ (expanded columns rows).length := by
    obtain ⟨first, others, rfl⟩ := List.exists_cons_of_ne_nil hrows
    obtain ⟨column, columns, rfl⟩ := List.exists_cons_of_ne_nil hcolumns
    obtain ⟨field, fields, rfl⟩ := List.exists_cons_of_length_eq_add_one
      (hwidth first List.mem_cons_self)
    have hrow := length_le_enclosed " AND " (.inr column :: (ofText " = " ++ [.inr field]))
      (equalities columns fields)
    have hrows := length_le_enclosed " OR "
      (enclosed " AND " (equalities (column :: columns) (field :: fields)))
      (others.map fun row => enclosed " AND " (equalities (column :: columns) row))
    exact Nat.le_trans (Nat.le_add_left 3 _) (Nat.le_trans (Nat.add_le_add_right hrow 2) hrows)
  obtain ⟨depth, hdepth⟩ := Nat.exists_eq_add_of_le' hlength
  have hpairs : ∀ pairs ∈ rows.map (columns.zip ·), pairs ≠ [] := by
    simp only [List.mem_map]
    rintro _ ⟨row, hrow, rfl⟩ hnil
    rcases List.zip_eq_nil_iff.mp hnil with hleft | hright
    · exact hcolumns hleft
    · subst hright
      exact hcolumns (List.length_eq_zero_iff.mp (hwidth [] hrow).symm)
  have htruth : ((rows.map (columns.zip ·)).map (Condition.allEqual value equal)).foldr
      Truth.or .false = .isIn equal (columns.map value) (rows.map (·.map value)) := by
    rw [Truth.foldr_or, Truth.isIn]
    simp only [List.map_map, Function.comp_def, Condition.allEqual_zip]
  refine truth?_of_factor ?_
  rw [hdepth, lexemes_expanded, ← List.append_nil (Lexeme.enclosed "OR" _), ← htruth]
  exact Condition.factor_disjuncts value equal depth (by simpa using hrows) hpairs []

theorem truth?_comparison (rowValues : Bool) (hcolumns : columns ≠ [])
    (hwidth : ∀ row ∈ rows, row.length = columns.length) :
    truth? value equal (comparison rowValues columns rows) =
      some (.isIn equal (columns.map value) (rows.map (·.map value))) := by
  by_cases hrows : rows = []
  · subst hrows
    rfl
  · rw [comparison_of_ne_nil _ _ hrows]
    split
    · exact truth?_rowValue value equal hcolumns hrows hwidth
    · exact truth?_expanded value equal hcolumns hrows hwidth

end

end Template

/-- What is compared with rows of the right width is written by the template of the product. -/
theorem Dialect.writesRows_comparison {α : Type} (d : Dialect) {columns : List α}
    {rows : List (List α)} (hcolumns : columns ≠ [])
    (hwidth : ∀ row ∈ rows, row.length = columns.length) :
    d.WritesRows columns rows (comparison d.supportsTupleComparison columns rows) := by
  intro name
  have haccepted : TupleValues.fault? (columns.map name) (.rows (rows.map (·.map name))) = none := by
    rw [TupleValues.fault?_eq_none_iff]
    refine ⟨by simpa using hcolumns, ?_⟩
    simpa [TupleValues.Misfits] using hwidth
  rw [tupleSql, haccepted]
  refine congrArg Except.ok ?_
  by_cases hrows : rows = []
  · subst hrows
    split <;> rfl
  · rw [comparison_of_ne_nil _ _ hrows]
    split
    · rw [fill_rowValue name columns hrows]
    · rw [fill_expanded _ name columns hrows]

/-- Every product accepts the same tuples, and refuses those without columns or of another width.
An accepted list of rows is compared in the same way everywhere, with NULL as in SQL. -/
theorem tupleSql_truth :
    (∀ (columns : List String) (values : TupleValues),
      (∀ d e : Dialect, (∃ sql, d.tupleSql columns values = .ok sql) ↔
        ∃ sql, e.tupleSql columns values = .ok sql) ∧
      ∀ d : Dialect, (∃ fault, d.tupleSql columns values = .error fault) ↔
        columns = [] ∨ values.Misfits columns.length) ∧
    ∀ {α β : Type} (columns : List α) (rows : List (List α)), columns ≠ [] →
      (∀ row ∈ rows, row.length = columns.length) → ∀ d : Dialect,
        (∃ text, d.WritesRows columns rows text) ∧
        ∀ text, d.WritesRows columns rows text →
          ∀ (value : α → Option β) (equal : β → β → Bool),
            text.truth? value equal =
              some (.isIn equal (columns.map value) (rows.map (·.map value))) := by
  refine ⟨fun columns values => ⟨fun d e => ?_, fun d => d.tupleSql_error_iff columns values⟩, ?_⟩
  · rw [d.tupleSql_ok_iff, e.tupleSql_ok_iff]
  · intro α β columns rows hcolumns hwidth d
    have hwrites := d.writesRows_comparison hcolumns hwidth
    refine ⟨⟨_, hwrites⟩, fun text htext value equal => ?_⟩
    rw [htext.unique hwrites]
    exact truth?_comparison value equal _ hcolumns hwidth

/-- A row that differs and a row that has NULL in place of the field that could differ. -/
theorem tupleSql_truth_null : [0, 1] ≠ [] ∧ (∀ row ∈ [[2, 3], [4, 5]], row.length = [0, 1].length) ∧
    ∀ d : Dialect, ∃ text : Template Nat, d.WritesRows [0, 1] [[2, 3], [4, 5]] text ∧
      text.truth? (fun fragment => [some 7, some 8, some 7, none, some 9, some 8][fragment]?.join)
        (· == ·) = some .unknown := by
  refine ⟨by decide, by decide, fun d => ?_⟩
  obtain ⟨⟨text, htext⟩, htruth⟩ :=
    tupleSql_truth.2 [0, 1] [[2, 3], [4, 5]] (by decide) (by decide) d
  exact ⟨text, htext, htruth text htext _ _⟩

end PortableSql

import PortableSql.Catalog.Query
import PortableSql.Proofs.Dialect.QuotedNames

namespace PortableSql

namespace Sqlserver

open Dialect Scanner

/-- What stands in brackets, with the closing bracket doubled in it. -/
def scanBracketed : Scanner (List Char)
  | [] => none
  | c :: rest => if c = '[' then quoted ']' (doubled? ']') rest else none

/-- The names of a whole text: each in brackets, with dots between them. -/
def bracketed? (text : String) : Option (List String) :=
  match separated ['.'] scanBracketed text.toList with
  | some (names, []) => some (names.map String.ofList)
  | _ => none

variable {rest : List Char}

theorem scans_bracketed {segment : List Char} (hstar : segment ≠ ['*'])
    (h : rest.head? ≠ some ']') :
    Scans scanBracketed (sqlserver.quoteSegment segment) segment rest := by
  have hscan := scans_quoted_double segment h
  have hquote : sqlserver.quoteSegment segment = '[' :: (Chars.double ']' segment ++ [']']) :=
    if_neg hstar
  unfold Scans at hscan ⊢
  rw [hquote, List.cons_append, scanBracketed, if_pos rfl, hscan]

/-- Segments in their quotes are read back where all have brackets, which a bare star has not. -/
theorem listed_quoteSegments {segments : List (List Char)} (hne : segments ≠ []) {number : Nat}
    (hnumber : segments.length ≤ number) :
    listed ['.'] scanBracketed number (['.'].intercalate (segments.map sqlserver.quoteSegment)) =
      if ['*'] ∈ segments then none else some (segments, []) := by
  induction segments generalizing number with
  | nil => exact absurd rfl hne
  | cons segment segments ih =>
    obtain ⟨number, rfl⟩ := Nat.exists_eq_add_one_of_ne_zero (Nat.ne_zero_of_lt hnumber)
    by_cases hstar : segment = ['*']
    · have hnone (more : List Char) : scanBracketed (sqlserver.quoteSegment ['*'] ++ more) = none :=
        rfl
      rw [if_pos (by simp [hstar]), hstar, List.map_cons, Chars.intercalate_cons, listed, hnone]
      rfl
    · cases segments with
      | nil =>
        have hlast : Scans (listed ['.'] scanBracketed (number + 1))
            (sqlserver.quoteSegment segment) [segment] [] :=
          listed_last (scans_bracketed hstar (by simp)) rfl
        rw [Scans, List.append_nil] at hlast
        rw [List.map_singleton, List.intercalate_singleton, hlast,
          if_neg fun hmem => hstar (List.mem_singleton.mp hmem).symm]
      | cons second others =>
        have hothers := ih (List.cons_ne_nil _ _) (Nat.le_of_succ_le_succ hnumber)
        have hfirst : Scans scanBracketed (sqlserver.quoteSegment segment) segment
            (['.'] ++ ['.'].intercalate ((second :: others).map sqlserver.quoteSegment)) :=
          scans_bracketed hstar (by simp)
        have hmem : ['*'] ∈ segment :: second :: others ↔ ['*'] ∈ second :: others := by
          rw [List.mem_cons, or_iff_right (Ne.symm hstar)]
        unfold Scans at hfirst
        rw [List.map_cons, List.map_cons, List.intercalate_cons_cons, ← List.map_cons,
          List.append_assoc, listed, hfirst, Option.bind_some]
        simp only [Chars.stripStart?_append, hothers, hmem]
        split <;> rfl

/-- What stands between the dots of a schema and of a table in it. -/
def objectParts (table : String) (schema : Option String) : List (List Char) :=
  Chars.splitOn '.' (schema.getD "dbo").toList ++ Chars.splitOn '.' table.toList

theorem objectParts_ne_nil (table : String) (schema : Option String) :
    objectParts table schema ≠ [] :=
  List.append_ne_nil_of_right_ne_nil _ (Chars.splitOn_ne_nil '.' table.toList)

theorem not_mem_of_mem_objectParts {table : String} {schema : Option String} {part : List Char}
    (h : part ∈ objectParts table schema) : '.' ∉ part := by
  intro hdot
  rcases List.mem_append.mp h with h | h
  · exact (Chars.mem_of_mem_splitOn h '.' hdot).2 rfl
  · exact (Chars.mem_of_mem_splitOn h '.' hdot).2 rfl

theorem toList_objectName (table : String) (schema : Option String) :
    (objectName table schema).toList =
      ['.'].intercalate ((objectParts table schema).map sqlserver.quoteSegment) := by
  have hne (name : String) : (Chars.splitOn '.' name.toList).map sqlserver.quoteSegment ≠ [] :=
    fun h => Chars.splitOn_ne_nil '.' name.toList (List.map_eq_nil_iff.mp h)
  rw [objectParts, List.map_append, Chars.intercalate_append _ (hne _) (hne _)]
  simp [objectName, quoteIdentifier, quoteName, defaultSchema, toString]

/-- The name of an object is read as the parts of its schema and its table, unless one of them is a
bare star. -/
theorem bracketed?_objectName (table : String) (schema : Option String) :
    bracketed? (objectName table schema) =
      if ['*'] ∈ objectParts table schema then none
      else some ((objectParts table schema).map String.ofList) := by
  have hnumber := Chars.length_le_intercalate (List.cons_ne_nil '.' [])
    ((objectParts table schema).map sqlserver.quoteSegment)
  rw [List.length_map] at hnumber
  rw [bracketed?, toList_objectName, separated,
    listed_quoteSegments (objectParts_ne_nil table schema) hnumber]
  by_cases hstar : ['*'] ∈ objectParts table schema
  · rw [if_pos hstar, if_pos hstar]
  · rw [if_neg hstar, if_neg hstar]

/-- A bracket in a name, and a name of no characters. -/
example : bracketed? (objectName "a]" (some "")) = some ["", "a]"] := by
  decide

end Sqlserver

/-- The names in the text that is the only parameter of a query. -/
def CatalogQuery.object? (q : CatalogQuery) : Option (List String) :=
  match q.params with
  | [.string text] => Sqlserver.bracketed? text
  | _ => none

namespace Sqlserver

open Dialect

/-- Columns are asked for by table and schema as they are, and indexes and foreign keys by a text of
names in brackets. The text names this schema and this table if and only if neither has a dot or is
a bare star. -/
theorem catalogQueries_object_iff (table : String) (schema : Option String) :
    let name := schema.getD "dbo"
    (sqlserver.columnsQuery table schema).params = [.string table, .string name] ∧
    ((sqlserver.indexesQuery table schema).object? = some [name, table] ∧
        (sqlserver.foreignKeysQuery table schema).object? = some [name, table] ↔
      ('.' ∉ name.toList ∧ '.' ∉ table.toList) ∧ name ≠ "*" ∧ table ≠ "*") := by
  intro name
  have hschema : sqlserver.schemaParam schema = .string name := by
    cases schema <;> rfl
  refine ⟨by rw [columnsQuery, hschema], ?_⟩
  change bracketed? (objectName table schema) = some [name, table] ∧
    bracketed? (objectName table schema) = some [name, table] ↔ _
  rw [and_self, bracketed?_objectName]
  constructor
  · intro hread
    split at hread
    next => cases hread
    next hstar =>
      have hparts : objectParts table schema = [name.toList, table.toList] := by
        have htexts := congrArg (List.map String.toList) (Option.some.inj hread)
        simpa [Function.comp_def] using htexts
      have hdot {part : List Char} (h : part ∈ [name.toList, table.toList]) : '.' ∉ part :=
        not_mem_of_mem_objectParts (hparts ▸ h)
      rw [hparts] at hstar
      exact ⟨⟨hdot (by simp), hdot (by simp)⟩, fun h => hstar (by simp [h]),
        fun h => hstar (by simp [h])⟩
  · rintro ⟨⟨hname, htable⟩, hnames, htables⟩
    have hparts : objectParts table schema = [name.toList, table.toList] := by
      rw [objectParts, Chars.splitOn_of_not_mem hname, Chars.splitOn_of_not_mem htable]
      rfl
    have hstar : ['*'] ∉ [name.toList, table.toList] := by
      intro hmem
      simp only [List.mem_cons, List.not_mem_nil, or_false] at hmem
      rcases hmem with h | h
      · exact hnames (String.toList_inj.mp h.symm)
      · exact htables (String.toList_inj.mp h.symm)
    rw [hparts, if_neg hstar]
    simp

/-- A table whose name has a dot: its columns are asked for under its name, its indexes and foreign
keys under three names, as if they were those of another table. -/
theorem catalogQueries_object_dotted :
    (sqlserver.columnsQuery "order.items" none).params = [.string "order.items", .string "dbo"] ∧
      (sqlserver.indexesQuery "order.items" none).object? = some ["dbo", "order", "items"] ∧
      (sqlserver.foreignKeysQuery "order.items" none).object? = some ["dbo", "order", "items"] ∧
      (sqlserver.indexesQuery "order.items" none).object? ≠ some ["dbo", "order.items"] :=
  ⟨rfl, by decide +kernel, by decide +kernel, by decide +kernel⟩

end Sqlserver

end PortableSql

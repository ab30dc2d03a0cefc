import PortableSql.Dialect.Definition
import PortableSql.Proofs.Catalog.Grouping
import PortableSql.Proofs.Text.Marks

namespace PortableSql

namespace Keyed

variable {α : Type} {key : α → String} {x y : α} {xs : List α}

/-- An entry with a new key goes to the end. -/
theorem put_of_find?_eq_none (h : find? key (key x) xs = none) : put key x xs = xs ++ [x] := by
  induction xs with
  | nil => rfl
  | cons z zs ih =>
    by_cases hz : key z = key x
    · simp [find?, hz] at h
    · rw [find?, if_neg hz] at h
      rw [put, if_neg hz, ih h, List.cons_append]

theorem put_concat (h : find? key (key x) xs = none) (hy : key y = key x) :
    put key y (xs ++ [x]) = xs ++ [y] := by
  induction xs with
  | nil => simp [put, hy]
  | cons z zs ih =>
    by_cases hz : key z = key x
    · simp [find?, hz] at h
    · rw [find?, if_neg hz] at h
      rw [List.cons_append, put, if_neg (by rwa [hy]), ih h, List.cons_append]

end Keyed

theorem appendNew_subset {names columns : List String} {column : String} (h : columns ⊆ names)
    (hcolumn : column ∈ names) : appendNew columns column ⊆ names := by
  intro x hx
  rcases mem_appendNew.mp hx with rfl | hx
  · exact hcolumn
  · exact h hx

namespace Table

variable {t : Table} {name : String}

/-- The full-text index over columns as a listing gives it. -/
def documentIndex (name : String) (columns : List String) : Index :=
  { name, kind := .fulltext, columns }

/-- The table with a full-text index behind its indexes, if the index has any columns. -/
def withDocument (t : Table) (name : String) (columns : List String) : Table :=
  if columns = [] then t else { t with indexes := t.indexes ++ [documentIndex name columns] }

theorem withDocument_columns (t : Table) (name : String) (columns : List String) :
    (t.withDocument name columns).columns = t.columns := by
  unfold withDocument
  split <;> rfl

/-- A new index over columns is behind the other indexes only if it covers those columns. -/
theorem withDocument_eq_iff {columns others : List String} (h : others ≠ []) :
    t.withDocument name columns = { t with indexes := t.indexes ++ [documentIndex name others] } ↔
      columns = others := by
  unfold withDocument
  constructor
  · intro heq
    have hindexes := congrArg Table.indexes heq
    split at hindexes
    next => simp at hindexes
    next => simpa [documentIndex] using hindexes
  · rintro rfl
    rw [if_neg h]

theorem withDocument_index? (hnew : t.index? name = none) (columns : List String) :
    ((t.withDocument name columns).index? name).getD (documentIndex name []) =
      documentIndex name columns := by
  unfold withDocument
  split
  next hempty => rw [hnew, hempty, Option.getD_none]
  next =>
    have hfound : Keyed.find? Index.name name
        (Keyed.put Index.name (documentIndex name columns) t.indexes) =
          some (documentIndex name columns) := Keyed.find?_put (documentIndex name columns)
    rw [Keyed.put_of_find?_eq_none (x := documentIndex name columns) hnew] at hfound
    exact congrArg (·.getD (documentIndex name [])) hfound

theorem addIndex_withDocument (hnew : t.index? name = none) {columns more : List String}
    (hne : more ≠ []) (hsubset : more ⊆ t.columnNames) :
    (addIndex (documentIndex name more)).runOn (t.withDocument name columns) =
      (.ok (), t.withDocument name more) := by
  have hfits : (documentIndex name more).Fits (t.withDocument name columns).columnNames :=
    ⟨⟨hne, by rwa [columnNames, withDocument_columns]⟩, List.nil_subset _⟩
  refine (guarded_addIndex _ _).ok_iff.mpr ⟨hfits, ?_⟩
  unfold withDocument
  rw [if_neg hne]
  split
  next => rw [Keyed.put_of_find?_eq_none (x := documentIndex name more) hnew]
  next =>
    have hput := Keyed.put_concat (x := documentIndex name columns) (y := documentIndex name more)
      hnew rfl
    exact congrArg (fun indexes => { t with indexes }) hput

/-- A column of a document is added to the index, which begins with the first. -/
theorem foldIndex_withDocument (hnew : t.index? name = none) {columns : List String}
    (hsubset : columns ⊆ t.columnNames) {column : String} (hcolumn : column ∈ t.columnNames) :
    (t.withDocument name columns).foldIndex name .fulltext column none =
      { table := t.withDocument name (appendNew columns column) } := by
  have hne : appendNew columns column ≠ [] := List.ne_nil_of_mem (mem_appendNew.mpr (.inl rfl))
  have hmore := appendNew_subset hsubset hcolumn
  have hhas : (t.withDocument name columns).hasColumn column = true := by
    rwa [hasColumn_iff, columnNames, withDocument_columns]
  have hindex := withDocument_index? hnew columns
  unfold documentIndex at hindex
  unfold foldIndex
  rw [hhas, hindex]
  exact Folding.ofChange_of_ok (addIndex_withDocument hnew hne hmore)

theorem foldIndex_skipped {column : String} (h : column ∉ t.columnNames) (name : String)
    (kind : IndexKind) :
    t.foldIndex name kind column none =
      { table := t, events := [.skippedIndexColumn name column] } := by
  have hhas : t.hasColumn column = false :=
    Bool.eq_false_iff.mpr fun hhas => h (hasColumn_iff.mp hhas)
  rw [foldIndex, hhas]
  rfl

end Table

namespace Postgresql

open Chars Dialect

/-- What stands before each column of a document. -/
def documentMark : List Char := "COALESCE(".toList

/-- What stands behind each occurrence of a mark is read up to the next, where the mark is in none
of the texts. -/
theorem piecesAfter_marked {mark before : List Char} {terms : List (List Char)} (hmark : mark ≠ [])
    (hbefore : Passes mark before) (hterms : ∀ term ∈ terms, Passes mark term) {fuel : Nat}
    (hfuel : terms.length ≤ fuel) :
    piecesAfter mark fuel (before ++ (terms.map (mark ++ ·)).flatten) = terms := by
  induction terms generalizing before fuel with
  | nil =>
    cases fuel with
    | zero => rfl
    | succ fuel => simp [piecesAfter, hbefore.cutFirstMark_eq_none hmark]
  | cons term terms ih =>
    obtain ⟨fuel, rfl⟩ : ∃ n, fuel = n + 1 :=
      Nat.exists_eq_add_one.mpr (Nat.lt_of_lt_of_le (Nat.succ_pos _) hfuel)
    have hterm := hterms term List.mem_cons_self
    have hmore := ih hterm (fun other hm => hterms other (List.mem_cons_of_mem _ hm))
      (Nat.le_of_succ_le_succ hfuel)
    rw [List.map_cons, List.flatten_cons, List.append_assoc, piecesAfter, hbefore.cutFirstMark_mark]
    dsimp only
    cases terms with
    | nil => simp [hterm.cutFirstMark_eq_none hmark]
    | cons second others =>
      have hcut : cutFirstMark mark (term ++ ((second :: others).map (mark ++ ·)).flatten) =
          some (term, second ++ (others.map (mark ++ ·)).flatten) := by
        rw [List.map_cons, List.flatten_cons, List.append_assoc, hterm.cutFirstMark_mark]
      rw [hcut, hmore]

/-- A text search document over columns, each with an empty text in place of null. -/
def documentText (columns : List String) : String :=
  "to_tsvector('english', " ++ String.intercalate " || ' ' || "
    (columns.map fun c => s!"COALESCE({postgresql.quoteIdentifier c}, '')") ++ ")"

theorem indexSql_fulltext (t : Table) {i : Index} (h : i.kind = .fulltext) :
    postgresql.indexSql t i = s!"CREATE INDEX {postgresql.quoteIdentifier i.name} ON " ++
      s!"{postgresql.quoteIdentifier t.name} USING gin({documentText i.columns})" := by
  unfold indexSql documentText
  simp only [h, toString, String.append_assoc]
  rfl

/-- The term of a column in a document, from its name on. -/
def documentTerm (column : String) : List Char :=
  (postgresql.quoteIdentifier column).toList ++ ", '')".toList

/-- What stands behind each mark of a document. -/
def documentTerms : List String → List (List Char)
  | [] => []
  | [column] => [documentTerm column ++ ")".toList]
  | column :: columns => (documentTerm column ++ " || ' ' || ".toList) :: documentTerms columns

theorem intercalate_documentTerm {columns : List String} (h : columns ≠ []) :
    " || ' ' || ".toList.intercalate (columns.map (documentMark ++ documentTerm ·)) ++ ")".toList =
      ((documentTerms columns).map (documentMark ++ ·)).flatten := by
  induction columns with
  | nil => exact absurd rfl h
  | cons column columns ih =>
    cases columns with
    | nil => simp [documentTerms]
    | cons second others =>
      have hrest := ih (List.cons_ne_nil _ _)
      rw [List.map_cons] at hrest
      have hterms : documentTerms (column :: second :: others) =
          (documentTerm column ++ " || ' ' || ".toList) :: documentTerms (second :: others) := rfl
      rw [List.map_cons, List.map_cons, List.intercalate_cons_cons, hterms, List.map_cons,
        List.flatten_cons, ← hrest]
      simp only [List.append_assoc]

theorem toList_documentText {columns : List String} (h : columns ≠ []) :
    (documentText columns).toList = "to_tsvector('english', ".toList ++
      ((documentTerms columns).map (documentMark ++ ·)).flatten := by
  unfold documentText
  simp only [String.toList_append, String.toList_intercalate, List.map_map, Function.comp_def,
    List.append_assoc]
  exact congrArg ("to_tsvector('english', ".toList ++ ·) (intercalate_documentTerm h)

/-- A column whose term in a document ends where the name does. -/
structure Documentable (column : String) : Prop where
  comma : ',' ∉ column.toList
  dot : '.' ∉ column.toList
  mark : ¬ documentMark <:+: column.toList

/-- A name in quotes has a mark without quotes only where the name has it. -/
theorem infix_of_infix_quoteSegment {mark name : List Char} (hquote : '"' ∉ mark)
    (h : mark <:+: postgresql.quoteSegment name) : mark <:+: name := by
  unfold quoteSegment at h
  split at h
  next hstar => rwa [hstar]
  next =>
    exact infix_of_infix_double hquote (infix_of_infix_cons hquote (infix_of_infix_concat hquote h))

theorem mem_of_mem_quoteSegment {c : Char} {name : List Char} (hquote : c ≠ '"')
    (h : c ∈ postgresql.quoteSegment name) : c ∈ name := by
  obtain ⟨before, after, heq⟩ := List.append_of_mem h
  have hinfix : [c] <:+: postgresql.quoteSegment name := ⟨before, after, by simp [heq]⟩
  have hmark : '"' ∉ [c] := fun hm => hquote (List.mem_singleton.mp hm).symm
  have hname := infix_of_infix_quoteSegment hmark hinfix
  exact hname.subset List.mem_cons_self

/-- Between its quotes a name is read without the quotes at its ends, those of its own as well. -/
theorem unquoted_quoteSegment (name : List Char) :
    halve '"' (stripAround '"' (trim (postgresql.quoteSegment name))) = stripAround '"' name := by
  unfold quoteSegment
  split
  next hstar =>
    rw [hstar]
    decide
  next =>
    have htrim : trim ('"' :: double '"' name ++ ['"']) = '"' :: double '"' name ++ ['"'] := by
      refine trim_eq_self (fun c hc => ?_) fun c hc => ?_
      · obtain rfl : '"' = c := by simpa using hc
        decide
      · rw [List.getLast?_concat] at hc
        obtain rfl : '"' = c := Option.some.inj hc
        decide
    change halve '"' (stripAround '"' (trim ('"' :: double '"' name ++ ['"']))) = _
    rw [htrim, stripAround_concat, stripAround_cons, stripAround_double, halve_double]

/-- The name that is read from the term of a column. -/
def termName (term : List Char) : List Char :=
  halve '"' (stripAround '"' (trim (term.takeWhile (· != ','))))

/-- A column as it is read from a document: without the quotes at its ends, and not at all if it has
nothing else. -/
def unquoted? (column : String) : Option String :=
  let name := stripAround '"' column.toList
  if name.isEmpty then none else some (String.ofList name)

namespace Documentable

variable {column : String}

theorem toList_quoteIdentifier (h : Documentable column) :
    (postgresql.quoteIdentifier column).toList = postgresql.quoteSegment column.toList := by
  simp [quoteIdentifier, quoteName, splitOn_of_not_mem h.dot]

theorem termName_documentTerm (h : Documentable column) (rest : List Char) :
    termName (documentTerm column ++ rest) = stripAround '"' column.toList := by
  have hcomma : ∀ c ∈ postgresql.quoteSegment column.toList, (c != ',') = true := by
    rintro c hc
    refine bne_iff_ne.mpr ?_
    rintro rfl
    exact h.comma (mem_of_mem_quoteSegment (by decide) hc)
  have hterm : documentTerm column ++ rest =
      postgresql.quoteSegment column.toList ++ ',' :: (" '')".toList ++ rest) := by
    rw [documentTerm, h.toList_quoteIdentifier, List.append_assoc]
    rfl
  have hcut : (documentTerm column ++ rest).takeWhile (· != ',') =
      postgresql.quoteSegment column.toList := by
    rw [hterm, List.takeWhile_append_of_pos hcomma]
    simp
  rw [termName, hcut, unquoted_quoteSegment]

theorem passes (h : Documentable column) {rest : List Char} (hrest : ∀ c ∈ rest, c ∉ documentMark) :
    Passes documentMark (documentTerm column ++ rest) := by
  have hname : Passes documentMark (postgresql.quoteSegment column.toList ++ [',']) :=
    passes_concat (by decide) fun hinfix =>
      h.mark (infix_of_infix_quoteSegment (by decide) hinfix)
  have hend : Passes documentMark " '')".toList := passes_of_forall (by decide) (by decide)
  have hterm : documentTerm column =
      (postgresql.quoteSegment column.toList ++ [',']) ++ " '')".toList := by
    rw [documentTerm, h.toList_quoteIdentifier, List.append_assoc]
    rfl
  rw [hterm]
  exact (hname.append hend).append (passes_of_forall (by decide) hrest)

end Documentable

theorem passes_documentHead : Passes documentMark "to_tsvector('english', ".toList := by
  have hend : "to_tsvector('english', ".toList = "to_tsvector('english',".toList ++ [' '] := by
    decide
  have hmark : ¬ documentMark <:+: "to_tsvector('english',".toList := by
    rw [← includes_iff]
    decide
  exact hend ▸ passes_concat (by decide) hmark

theorem length_le_flatten {mark : List Char} (hmark : mark ≠ []) (terms : List (List Char)) :
    terms.length ≤ ((terms.map (mark ++ ·)).flatten).length := by
  have hlength : 0 < mark.length := List.length_pos_iff.mpr hmark
  induction terms with
  | nil => exact Nat.zero_le _
  | cons term terms ih =>
    rw [List.map_cons, List.flatten_cons, List.length_append, List.length_append, List.length_cons]
    omega

section

variable {columns : List String} (h : ∀ column ∈ columns, Documentable column)
include h

theorem passes_documentTerms : ∀ term ∈ documentTerms columns, Passes documentMark term := by
  fun_induction documentTerms columns with
  | case1 => simp
  | case2 column =>
    intro term hm
    rw [List.mem_singleton.mp hm]
    exact (h column List.mem_cons_self).passes (by decide)
  | case3 column columns hne ih =>
    intro term hm
    rcases List.mem_cons.mp hm with heq | hm
    · rw [heq]
      exact (h column List.mem_cons_self).passes (by decide)
    · exact ih (fun other ho => h other (List.mem_cons_of_mem _ ho)) term hm

theorem map_termName_documentTerms :
    (documentTerms columns).map termName =
      columns.map fun column => stripAround '"' column.toList := by
  fun_induction documentTerms columns with
  | case1 => rfl
  | case2 column => simp [(h column List.mem_cons_self).termName_documentTerm]
  | case3 column columns hne ih =>
    rw [List.map_cons, (h column List.mem_cons_self).termName_documentTerm,
      ih fun other ho => h other (List.mem_cons_of_mem _ ho), List.map_cons]

theorem documentColumns_documentText (hne : columns ≠ []) :
    documentColumns (documentText columns) = columns.filterMap unquoted? := by
  have htext := toList_documentText hne
  have hincludes : includes "to_tsvector".toList (documentText columns).toList = true := by
    have hstart : "to_tsvector".toList <+: "to_tsvector('english', ".toList := by decide
    rw [includes_iff, htext]
    exact (hstart.trans (List.prefix_append _ _)).isInfix
  have hpieces : piecesAfter documentMark (documentText columns).length
      (documentText columns).toList = documentTerms columns := by
    rw [htext]
    refine piecesAfter_marked (by decide) passes_documentHead (passes_documentTerms h) ?_
    rw [← String.length_toList, htext, List.length_append]
    exact Nat.le_add_left_of_le (length_le_flatten (by decide) _)
  have hnames : columns.filterMap unquoted? =
      ((documentTerms columns).map termName).filterMap fun name =>
        if name.isEmpty then none else some (String.ofList name) := by
    rw [map_termName_documentTerms h, List.filterMap_map]
    rfl
  rw [hnames, ← hpieces, documentColumns, hincludes]
  rfl

end

theorem unquoted?_eq_some_iff {column : String} (h : column ≠ "") :
    unquoted? column = some column ↔
      column.toList.head? ≠ some '"' ∧ column.toList.getLast? ≠ some '"' := by
  rw [← stripAround_eq_self_iff, unquoted?]
  constructor
  · intro hname
    split at hname
    next => cases hname
    next =>
      have htext := congrArg String.toList (Option.some.inj hname)
      rwa [String.toList_ofList] at htext
  · intro hname
    have hsome : column.toList.isEmpty = false := by simpa using h
    simp [hname, hsome]

theorem filterMap_eq_self_iff {α : Type} {f : α → Option α} {xs : List α} :
    xs.filterMap f = xs ↔ ∀ x ∈ xs, f x = some x := by
  induction xs with
  | nil => simp
  | cons x xs ih =>
    rw [List.forall_mem_cons, ← ih]
    cases hx : f x with
    | none =>
      refine iff_of_false (fun heq => ?_) fun h => nomatch h.1
      have hlength := List.length_filterMap_le f xs
      rw [← List.filterMap_cons_none hx, heq, List.length_cons] at hlength
      omega
    | some y => rw [List.filterMap_cons_some hx, List.cons.injEq, Option.some.injEq]

/-- The columns that come back, where they are on the table, are the columns of the document just
where none begins or ends with a quote of its own. -/
theorem distinct_unquoted?_iff {t : Table} {columns : List String} (hnodup : columns.Nodup)
    (hnonempty : ∀ column ∈ columns, column ≠ "") (hsubset : columns ⊆ t.columnNames) :
    distinct ((columns.filterMap unquoted?).filter t.hasColumn) = columns ↔
      ∀ column ∈ columns,
        column.toList.head? ≠ some '"' ∧ column.toList.getLast? ≠ some '"' := by
  have hquotes : (∀ column ∈ columns, column.toList.head? ≠ some '"' ∧
      column.toList.getLast? ≠ some '"') ↔ columns.filterMap unquoted? = columns := by
    rw [filterMap_eq_self_iff]
    exact forall₂_congr fun column hm => (unquoted?_eq_some_iff (hnonempty column hm)).symm
  rw [hquotes]
  constructor
  · intro heq
    -- whatever is left out makes the list shorter than the columns
    have hsub := (distinct_sublist _).trans
      (List.filter_sublist (p := t.hasColumn) (l := columns.filterMap unquoted?))
    rw [heq] at hsub
    exact (hsub.eq_of_length_le (List.length_filterMap_le _ _)).symm
  · intro heq
    have hkept : columns.filter t.hasColumn = columns :=
      List.filter_eq_self.mpr fun column hm => Table.hasColumn_iff.mpr (hsubset hm)
    rw [heq, hkept]
    exact foldl_appendNew_eq_iff.mpr hnodup

/-- The index over the columns of a document, each at its first place, is behind the indexes of the
table. -/
theorem foldDocument_withDocument {t : Table} {name : String} (hnew : t.index? name = none)
    (added : List String) {columns : List String} (hsubset : columns ⊆ t.columnNames) :
    (foldDocument (t.withDocument name columns) name added).error? = none ∧
      (foldDocument (t.withDocument name columns) name added).table =
        t.withDocument name ((added.filter t.hasColumn).foldl appendNew columns) := by
  induction added generalizing columns with
  | nil => exact ⟨rfl, rfl⟩
  | cons column added ih =>
    by_cases hcolumn : column ∈ t.columnNames
    · have hhas : t.hasColumn column = true := Table.hasColumn_iff.mpr hcolumn
      have hmore := appendNew_subset hsubset hcolumn
      have hstep := Table.foldIndex_withDocument hnew hsubset hcolumn
      have hok : ((t.withDocument name columns).foldIndex name .fulltext column none).error? =
          none := by rw [hstep]
      obtain ⟨htable, herror⟩ := Folding.andThen_of_ok hok fun t => foldDocument t name added
      rw [foldDocument, htable, herror, hstep, List.filter_cons_of_pos hhas, List.foldl_cons]
      exact ih hmore
    · have hhas : ¬t.hasColumn column = true := fun hhas => hcolumn (Table.hasColumn_iff.mp hhas)
      have hother : column ∉ (t.withDocument name columns).columnNames := by
        rwa [Table.columnNames, Table.withDocument_columns]
      have hskip := Table.foldIndex_skipped hother name .fulltext
      have hok : ((t.withDocument name columns).foldIndex name .fulltext column none).error? =
          none := by rw [hskip]
      obtain ⟨htable, herror⟩ := Folding.andThen_of_ok hok fun t => foldDocument t name added
      rw [foldDocument, htable, herror, hskip, List.filter_cons_of_neg hhas]
      exact ih hsubset

/-- A full-text index is read back from the expression it is written as if and only if no column of
it begins or ends with a double quote. -/
theorem foldIndex_fulltext_iff {t : Table} {i : Index} {row : Row} {expression : String}
    (hkind : i.kind = .fulltext) (hne : i.columns ≠ []) (hnodup : i.columns.Nodup)
    (hcolumns : i.columns ⊆ t.columnNames)
    (hnames : ∀ column ∈ i.columns, column ≠ "" ∧ ',' ∉ column.toList ∧ '.' ∉ column.toList ∧
      ¬ "COALESCE(".toList <:+: column.toList)
    (hnew : t.index? i.name = none)
    (hsql : postgresql.indexSql t i = s!"CREATE INDEX {postgresql.quoteIdentifier i.name} ON " ++
      s!"{postgresql.quoteIdentifier t.name} USING gin({expression})")
    (hname : row.text? "name" = some i.name) (hmethod : row.text? "method" = some "gin")
    (hcolumn : row.text? "column_name" = none)
    (hexpression : row.text? "expression" = some expression) :
    (postgresql.foldIndex t row).error? = none ∧
      ((postgresql.foldIndex t row).table =
          { t with
            indexes := t.indexes ++
              [{ name := i.name, kind := .fulltext, columns := i.columns }] } ↔
        ∀ column ∈ i.columns,
          column.toList.head? ≠ some '"' ∧ column.toList.getLast? ≠ some '"') := by
  have hdocumentable : ∀ column ∈ i.columns, Documentable column := by
    intro column hm
    obtain ⟨_, hcomma, hdot, hmark⟩ := hnames column hm
    exact ⟨hcomma, hdot, hmark⟩
  obtain rfl : expression = documentText i.columns := by
    rw [indexSql_fulltext t hkind] at hsql
    simp only [toString, String.append_assoc, String.append_right_inj, String.append_left_inj]
      at hsql
    exact hsql.symm
  have hfold : postgresql.foldIndex t row =
      foldDocument (t.withDocument i.name []) i.name (i.columns.filterMap unquoted?) := by
    rw [← documentColumns_documentText hdocumentable hne]
    simp [Dialect.foldIndex, foldIndex, Table.withText, hname, hmethod, hcolumn, hexpression,
      Table.withDocument]
  obtain ⟨herror, htable⟩ :=
    foldDocument_withDocument hnew (i.columns.filterMap unquoted?) (List.nil_subset _)
  rw [hfold, htable]
  refine ⟨herror, ?_⟩
  rw [← distinct_unquoted?_iff hnodup (fun column hm => (hnames column hm).1) hcolumns]
  exact Table.withDocument_eq_iff hne

/-- Columns with a quote inside, a bare star and a blank in their names come back. -/
theorem foldIndex_fulltext_iff_quoteInside :
    let columns := ["a\"b", "*", "x y"]
    let t : Table := { name := "t", columns := columns.map fun name => { name, type := .text } }
    let i : Index := { name := "i", kind := .fulltext, columns }
    let expression := "to_tsvector('english', COALESCE(\"a\"\"b\", '') || ' ' || " ++
      "COALESCE(*, '') || ' ' || COALESCE(\"x y\", ''))"
    let row : Row :=
      [("name", .str "i"), ("column_name", .null), ("method", .str "gin"),
       ("expression", .str expression)]
    postgresql.indexSql t i = s!"CREATE INDEX {postgresql.quoteIdentifier i.name} ON " ++
        s!"{postgresql.quoteIdentifier t.name} USING gin({expression})" ∧
      (postgresql.foldIndex t row).error? = none ∧
      (postgresql.foldIndex t row).table =
        { t with indexes := t.indexes ++ [{ name := "i", kind := .fulltext, columns }] } := by
  intro columns t i expression row
  have hsql : postgresql.indexSql t i = s!"CREATE INDEX {postgresql.quoteIdentifier i.name} ON " ++
      s!"{postgresql.quoteIdentifier t.name} USING gin({expression})" := by decide +kernel
  have hname : row.text? "name" = some i.name := by decide +kernel
  obtain ⟨herror, hcolumns⟩ := foldIndex_fulltext_iff rfl (by decide) (by decide)
    (by decide +kernel) (by decide +kernel) rfl hsql hname (by decide +kernel) (by decide +kernel)
    (by decide +kernel)
  exact ⟨hsql, herror, hcolumns.mpr (by decide +kernel)⟩

/-- An index over a column that begins with a quote comes back over another column. -/
theorem foldIndex_fulltext_otherColumn :
    let t : Table :=
      { name := "t", columns := ["\"a", "a"].map fun name => { name, type := .text } }
    let i : Index := { name := "i", kind := .fulltext, columns := ["\"a"] }
    let expression := "to_tsvector('english', COALESCE(\"\"\"a\", ''))"
    let row : Row :=
      [("name", .str "i"), ("column_name", .null), ("method", .str "gin"),
       ("expression", .str expression)]
    postgresql.indexSql t i = s!"CREATE INDEX \"i\" ON \"t\" USING gin({expression})" ∧
      (postgresql.foldIndex t row).error? = none ∧
      ((postgresql.foldIndex t row).table.indexes.map fun i => (i.name, i.kind, i.columns)) =
        [("i", .fulltext, ["a"])] := by
  decide +kernel

end Postgresql

end PortableSql

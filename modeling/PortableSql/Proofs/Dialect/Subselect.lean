import PortableSql.Proofs.Dialect.TupleTruth

namespace PortableSql

namespace Truth

protected def not : Truth → Truth
  | false => true
  | unknown => unknown
  | true => false

/-- What a condition is combined with other conditions to, without a negation. -/
inductive Combination where
  | condition
  | other (truth : Truth)
  | and (left right : Combination)
  | or (left right : Combination)

def Combination.eval (truth : Truth) : Combination → Truth
  | condition => truth
  | other fixed => fixed
  | and left right => (left.eval truth).and (right.eval truth)
  | or left right => (left.eval truth).or (right.eval truth)

/-- What is not true selects as little as what is false. -/
theorem Combination.eval_eq_true_iff (combination : Combination) {s t : Truth}
    (h : s = true ↔ t = true) : combination.eval s = true ↔ combination.eval t = true := by
  induction combination with
  | condition => exact h
  | other fixed => exact Iff.rfl
  | and left right hleft hright =>
    rw [eval, eval, and_eq_true_iff, and_eq_true_iff, hleft, hright]
  | or left right hleft hright =>
    rw [eval, eval, or_eq_true_iff, or_eq_true_iff, hleft, hright]

end Truth

/-- A row of the table of a sub-select, with the truth of the conditions for it. -/
structure SourceRow (ι β : Type) where
  field : ι → Option β
  holds : Truth

namespace Subselect

/-- What the fragments of a comparison with a sub-select stand for. -/
inductive Part (α ι : Type) where
  | column (outer : α)
  | selected (inner : ι)
  | table
  | conditions

/-- What the rows of a sub-select are kept by. -/
inductive Filter (α ι : Type) where
  | conditions
  | equality (inner : ι) (outer : α)

section

variable {α ι β : Type} (value : α → Option β) (equal : β → β → Bool)

def Filter.truth (row : SourceRow ι β) : Filter α ι → Truth
  | conditions => row.holds
  | equality inner outer => .ofEqual equal (row.field inner) (value outer)

def kept (filters : List (Filter α ι)) (rows : List (SourceRow ι β)) : List (SourceRow ι β) :=
  rows.filter fun row => (filters.map (·.truth value equal row)).foldr Truth.and .true = .true

/-- The value of a sub-select of a numeral, where NULL stands for no row. Of several rows there is
none. -/
def scalar? (limit : Option Nat) (number : Nat) (rows : List (SourceRow ι β)) :
    Option (Option Nat) :=
  match rows.take (limit.getD rows.length) with
  | [] => some none
  | [_] => some (some number)
  | _ => none

end

open Condition

variable {α ι A : Type}

def column : Reader (Part α ι) α
  | .operand (.column outer) :: rest => some (outer, rest)
  | _ => none

def selected : Reader (Part α ι) ι
  | .operand (.selected inner) :: rest => some (inner, rest)
  | _ => none

def numeral : Reader (Part α ι) Nat
  | .symbol word :: rest => (Numeral.natural? word.toList).map (·, rest)
  | _ => none

def limitAfter (word : String) : Reader (Part α ι) (Option Nat)
  | .symbol next :: rest =>
    if next = word then (numeral rest).map fun (limit, rest) => (some limit, rest)
    else some (none, .symbol next :: rest)
  | rest => some (none, rest)

def filter : Reader (Part α ι) (Filter α ι)
  | .symbol "(" :: .operand .conditions :: .symbol ")" :: rest => some (.conditions, rest)
  | .operand (.selected inner) :: .symbol "=" :: .operand (.column outer) :: rest =>
    some (.equality inner outer, rest)
  | _ => none

/-- Conditions on their own need no parentheses, but nothing can be joined to them. -/
def filters : Reader (Part α ι) (List (Filter α ι))
  | .symbol "WHERE" :: .operand .conditions :: rest => some ([.conditions], rest)
  | .symbol "WHERE" :: rest => separated "AND" filter rest
  | rest => some ([], rest)

def select (what : Reader (Part α ι) A) : Reader (Part α ι) (A × List (Filter α ι))
  | .symbol "SELECT" :: text =>
    (what text).bind fun (a, text) =>
      match text with
      | .symbol "FROM" :: .operand .table :: text =>
        (filters text).map fun (found, rest) => ((a, found), rest)
      | _ => none
  | _ => none

/-- The sub-select of a numeral with a limit of rows, which stands at its start or at its end. -/
def limited (limitFirst : Bool) : Reader (Part α ι) (Option Nat × Nat × List (Filter α ι)) :=
  if limitFirst then fun text =>
    (select (fun text => (limitAfter "TOP" text).bind fun (limit, text) =>
      (numeral text).map fun (number, rest) => ((limit, number), rest)) text).map
        fun (((limit, number), found), rest) => ((limit, number, found), rest)
  else fun text =>
    (select numeral text).bind fun ((number, found), text) =>
      (limitAfter "LIMIT" text).map fun (limit, rest) => ((limit, number, found), rest)

section

variable {β : Type} (value : α → Option β) (equal : β → β → Bool) (rows : List (SourceRow ι β))

/-- Columns that are looked for among as many columns of a sub-select. -/
def inSelect : Reader (Part α ι) Truth := fun text =>
  match enclosed (separated "," column) text with
  | some (outer, .symbol "IN" :: text) =>
    (enclosed (select (separated "," selected)) text).bind fun ((inner, found), rest) =>
      if inner.length = outer.length then
        some (.isIn equal (outer.map value)
          ((kept value equal found rows).map fun row => inner.map row.field), rest)
      else none
  | _ => none

/-- A numeral that is compared with what a sub-select of one row gives. -/
def equalsSelect (limitFirst : Bool) : Reader (Part α ι) Truth := fun text =>
  (numeral text).bind fun (number, text) =>
    match text with
    | .symbol "=" :: text =>
      (enclosed (limited limitFirst) text).bind fun ((limit, result, found), rest) =>
        (scalar? limit result (kept value equal found rows)).map fun looked =>
          (.ofEqual (· == ·) (some number) looked, rest)
    | _ => none

end

end Subselect

open Subselect

/-- The truth of a comparison with a sub-select as the product reads it, where the outer columns
have the given values and the table has the given rows. -/
def Template.subselectTruth? {α ι β : Type} (d : Dialect) (value : α → Option β)
    (equal : β → β → Bool) (rows : List (SourceRow ι β)) (t : Template (Part α ι)) : Option Truth :=
  match (inSelect value equal rows t.lexemes).or
      (equalsSelect value equal rows (d = .sqlserver) t.lexemes) with
  | some (truth, []) => some truth
  | _ => none

/-- The comparison with a sub-select is written as the template, whatever stands for the columns,
the table and the conditions that are not blank. -/
def Dialect.WritesSubselect {α ι : Type} (d : Dialect) (columns : List α) (inner : List ι)
    (filtered : Bool) (text : Template (Part α ι)) : Prop :=
  ∀ (name : Part α ι → String) (conditions : Option String),
    TupleValues.filled? conditions = (if filtered then some (name .conditions) else none) →
      d.tupleSql (columns.map fun a => name (.column a))
        (.subquery (name .table) (inner.map fun i => name (.selected i)) conditions) =
          .ok (text.fill name)

/-- The truth of a comparison with a sub-select where IN has the given truth: what a look-up does
not find is unknown. -/
def Dialect.subselectTruth (d : Dialect) (found : Truth) : Truth :=
  if d.supportsTupleComparison ∨ found = .true then found else .unknown

theorem Dialect.subselectTruth_eq_true_iff (d : Dialect) (found : Truth) :
    d.subselectTruth found = .true ↔ found = .true := by
  unfold subselectTruth
  split
  next => exact Iff.rfl
  next hmissing => exact iff_of_false Truth.noConfusion fun htrue => hmissing (.inr htrue)

theorem Dialect.subselectTruth_of_ne_false (d : Dialect) {found : Truth} (h : found ≠ .false) :
    d.subselectTruth found = found := by
  unfold subselectTruth
  split
  next => rfl
  next hmissing =>
    cases found with
    | false => exact absurd rfl h
    | unknown => rfl
    | true => exact absurd (.inr rfl) hmissing

namespace Template

variable {α ι : Type}

def writeFilter : Filter α ι → Template (Part α ι)
  | .conditions => ofText "(" ++ (.inr .conditions :: ofText ")")
  | .equality inner outer => .inr (.selected inner) :: (ofText " = " ++ [.inr (.column outer)])

def given (filtered : Bool) : List (Filter α ι) := if filtered then [.conditions] else []

/-- What the rows of a look-up are kept by: also the equality of their columns and the outer ones. -/
def lookedUp (columns : List α) (inner : List ι) (filtered : Bool) : List (Filter α ι) :=
  given filtered ++ List.zipWith .equality inner columns

def rowSubselect (columns : List α) (inner : List ι) (filtered : Bool) : Template (Part α ι) :=
  enclosed ", " (fragments (columns.map .column)) ++ (ofText " IN (SELECT " ++
    ((ofText ", ").intercalate (fragments (inner.map .selected)) ++ (ofText " FROM " ++
      (.inr .table :: ((if filtered then ofText " WHERE " ++ [.inr .conditions] else []) ++
        ofText ")")))))

def lookup (limitFirst : Bool) (columns : List α) (inner : List ι) (filtered : Bool) :
    Template (Part α ι) :=
  ofText (if limitFirst then "1 = (SELECT TOP 1 1 FROM " else "1 = (SELECT 1 FROM ") ++
    (.inr .table :: (ofText " WHERE " ++
      ((ofText " AND ").intercalate ((lookedUp columns inner filtered).map writeFilter) ++
        ofText (if limitFirst then ")" else " LIMIT 1)"))))

def subselect (d : Dialect) (columns : List α) (inner : List ι) (filtered : Bool) :
    Template (Part α ι) :=
  if d.supportsTupleComparison then rowSubselect columns inner filtered
  else lookup (d = .sqlserver) columns inner filtered

theorem fill_inr (name : α → String) (a : α) (t : Template α) :
    fill name (.inr a :: t) = name a ++ fill name t :=
  String.toList_inj.mp (by simp [fill])

section

variable (name : Part α ι → String) {columns : List α} {inner : List ι} {filtered : Bool}
  {conditions : Option String}

theorem fill_rowSubselect (hconditions : TupleValues.filled? conditions =
      if filtered then some (name .conditions) else none) :
    fill name (rowSubselect columns inner filtered) =
      TupleValues.rowValueSql (columns.map fun a => name (.column a))
        (.subquery (name .table) (inner.map fun i => name (.selected i)) conditions) := by
  have hcolumns := fill_row name (columns.map (.column : α → Part α ι))
  have hinner := fill_fragments name (inner.map (.selected : ι → Part α ι))
  rw [List.map_map] at hcolumns hinner
  rw [rowSubselect, fill_append, hcolumns, fill_append, fill_append, fill_intercalate, hinner,
    fill_ofText, fill_ofText, TupleValues.rowValueSql, hconditions]
  cases filtered
  · exact String.toList_inj.mp (by simp [fill, ofText, commaSeparated, toString, Function.comp_def])
  · exact String.toList_inj.mp (by simp [fill, ofText, commaSeparated, toString, Function.comp_def])

theorem fill_lookup (limitFirst : Bool) (hconditions : TupleValues.filled? conditions =
      if filtered then some (name .conditions) else none) :
    fill name (lookup limitFirst columns inner filtered) =
      TupleValues.expandedSql limitFirst (columns.map fun a => name (.column a))
        (.subquery (name .table) (inner.map fun i => name (.selected i)) conditions) := by
  have hgiven : ((given filtered).map writeFilter).map (fill name) =
      ((TupleValues.filled? conditions).map fun text => s!"({text})").toList := by
    rw [hconditions]
    cases filtered
    · rfl
    · exact congrArg ([·]) (String.toList_inj.mp (by simp [fill, writeFilter, ofText, toString]))
  have hequalities :
      ((List.zipWith Filter.equality inner columns).map writeFilter).map (fill name) =
        TupleValues.equalities (inner.map fun i => name (.selected i))
          (columns.map fun a => name (.column a)) := by
    rw [TupleValues.equalities, List.zipWith_map, List.map_zipWith, List.map_zipWith]
    refine congrArg (fun f => List.zipWith f inner columns) (funext fun i => funext fun a => ?_)
    exact String.toList_inj.mp (by simp [fill, writeFilter, ofText, toString])
  rw [lookup, fill_append, fill_ofText, fill_inr, fill_append, fill_append, fill_intercalate,
    fill_ofText, fill_ofText, fill_ofText, lookedUp, List.map_append, List.map_append, hgiven,
    hequalities, TupleValues.expandedSql]
  cases limitFirst
  · exact String.toList_inj.mp (by simp [toString])
  · exact String.toList_inj.mp (by simp [toString])

end

def filterLexemes : Filter α ι → List (Lexeme (Part α ι))
  | .conditions => [.symbol "(", .operand .conditions, .symbol ")"]
  | .equality inner outer => [.operand (.selected inner), .symbol "=", .operand (.column outer)]

theorem lexemes_writeFilter (f : Filter α ι) : lexemes (writeFilter f) = filterLexemes f := by
  cases f <;> rfl

theorem lexemes_rowSubselect (columns : List α) (inner : List ι) (filtered : Bool) :
    lexemes (rowSubselect columns inner filtered) =
      Condition.rowLexemes (columns.map .column) ++
        .symbol "IN" :: .symbol "(" :: .symbol "SELECT" ::
          ([.symbol ","].intercalate (inner.map fun i => [.operand (.selected i)]) ++
            .symbol "FROM" :: .operand .table ::
              ((if filtered then [.symbol "WHERE", .operand .conditions] else []) ++
                [.symbol ")"])) := by
  have hfragments : ∀ t ∈ fragments (inner.map (.selected : ι → Part α ι)),
      beginsWord t = false := by
    intro t ht
    obtain ⟨_, _, rfl⟩ := List.mem_map.mp ht
    rfl
  have hinner : lexemes ((ofText ", ").intercalate _) = _ := lexemes_intercalate rfl hfragments
  have hselected : (fragments (inner.map (.selected : ι → Part α ι))).map lexemes =
      inner.map fun i => [.operand (.selected i)] := by
    simp [fragments, lexemes, Function.comp_def]
  have hbegin : beginsWord ((ofText ", ").intercalate _) = false :=
    beginsWord_intercalate rfl hfragments
  rw [rowSubselect, lexemes_append _ rfl, lexemes_row, lexemes_append _ (by
    rwa [beginsWord_append _ rfl]), lexemes_append _ rfl, hinner, hselected]
  cases filtered <;> rfl

theorem lexemes_lookup (limitFirst : Bool) (columns : List α) (inner : List ι) (filtered : Bool) :
    lexemes (lookup limitFirst columns inner filtered) =
      .symbol "1" :: .symbol "=" :: .symbol "(" :: .symbol "SELECT" ::
        ((if limitFirst then [.symbol "TOP", .symbol "1"] else []) ++
          .symbol "1" :: .symbol "FROM" :: .operand .table :: .symbol "WHERE" ::
            ([.symbol "AND"].intercalate ((lookedUp columns inner filtered).map filterLexemes) ++
              ((if limitFirst then [] else [.symbol "LIMIT", .symbol "1"]) ++ [.symbol ")"]))) := by
  have hfilters : ∀ t ∈ (lookedUp columns inner filtered).map writeFilter,
      beginsWord t = false := by
    intro t ht
    obtain ⟨f, _, rfl⟩ := List.mem_map.mp ht
    cases f <;> rfl
  have hbegin : beginsWord ((ofText " AND ").intercalate _) = false :=
    beginsWord_intercalate rfl hfilters
  have hall : lexemes ((ofText " AND ").intercalate _) = _ := lexemes_intercalate rfl hfilters
  rw [List.map_map, funext (f := lexemes ∘ writeFilter) lexemes_writeFilter] at hall
  have hend : beginsWord (α := Part α ι) (ofText (if limitFirst then ")" else " LIMIT 1)")) =
      false := by
    cases limitFirst <;> rfl
  have hrest (text : Template (Part α ι)) (h : beginsWord text = false) :
      lexemes (.inr .table :: (ofText " WHERE " ++ text)) =
        .operand .table :: .symbol "WHERE" :: lexemes text := by
    rw [lexemes, lexemes_append _ h]
    rfl
  rw [lookup, lexemes_append _ rfl, hrest _ (by rwa [beginsWord_append _ hend]),
    lexemes_append _ hend, hall]
  cases limitFirst <;> rfl

end Template

namespace Subselect

open Condition Template

variable {α ι β : Type}

theorem filters_given (filtered : Bool) (rest : List (Lexeme (Part α ι))) :
    filters ((if filtered then [.symbol "WHERE", .operand .conditions] else []) ++
      .symbol ")" :: rest) = some (given filtered, .symbol ")" :: rest) := by
  cases filtered <;> rfl

theorem filters_where {found : List (Filter α ι)} (hne : found ≠ [])
    (rest : List (Lexeme (Part α ι))) (hend : ∀ more, rest ≠ .symbol "AND" :: more) :
    filters (.symbol "WHERE" :: ([.symbol "AND"].intercalate (found.map filterLexemes) ++ rest)) =
      some (found, rest) := by
  have hfilter : ∀ f ∈ found, ∀ rest, True →
      filter (filterLexemes f ++ rest) = some (id f, rest) := by
    intro f _ rest _
    cases f <;> rfl
  have h := separated_intercalate "AND" filterLexemes id (fun _ => True) rest hfilter
    (fun _ => trivial) hne trivial hend
  rw [List.map_id] at h
  obtain ⟨first, others, rfl⟩ := List.exists_cons_of_ne_nil hne
  rw [List.map_cons, Chars.intercalate_cons] at h ⊢
  cases first <;> exact h

theorem enclosed_column {columns : List α} (hne : columns ≠ []) (rest : List (Lexeme (Part α ι))) :
    enclosed (separated "," column) (rowLexemes (columns.map .column) ++ rest) =
      some (columns, rest) := by
  have hcolumn : ∀ a ∈ columns, ∀ rest : List (Lexeme (Part α ι)),
      column ([.operand (.column a)] ++ rest) = some (id a, rest) := fun _ _ _ => rfl
  have h := enclosed_separated "," (fun a => [.operand (.column a)]) id rest hcolumn hne (by decide)
  rw [rowLexemes, List.map_map]
  rwa [List.map_id] at h

theorem separated_selected {inner : List ι} (hne : inner ≠ []) (rest : List (Lexeme (Part α ι))) :
    separated "," selected
        ([.symbol ","].intercalate (inner.map fun i => [.operand (.selected i)]) ++
          .symbol "FROM" :: rest) = some (inner, .symbol "FROM" :: rest) := by
  have hselected : ∀ i ∈ inner, ∀ rest : List (Lexeme (Part α ι)), True →
      selected ([.operand (.selected i)] ++ rest) = some (id i, rest) := fun _ _ _ _ => rfl
  have h := separated_intercalate "," (fun i => [.operand (.selected i)]) id (fun _ => True)
    (.symbol "FROM" :: rest) hselected (fun _ => trivial) hne trivial (by simp)
  rwa [List.map_id] at h

section

variable (value : α → Option β) (equal : β → β → Bool) (rows : List (SourceRow ι β))
  {columns : List α} {inner : List ι}

theorem inSelect_rowSubselect (filtered : Bool) (hcolumns : columns ≠ [])
    (hwidth : inner.length = columns.length) :
    inSelect value equal rows (rowSubselect columns inner filtered).lexemes =
      some (.isIn equal (columns.map value)
        ((kept value equal (given filtered) rows).map fun row => inner.map row.field), []) := by
  have hinner : inner ≠ [] := by
    rintro rfl
    exact hcolumns (List.length_eq_zero_iff.mp hwidth.symm)
  have hfilters := filters_given (α := α) (ι := ι) filtered []
  rw [lexemes_rowSubselect, inSelect, enclosed_column hcolumns]
  simp only [Condition.enclosed, select, separated_selected hinner, Option.bind_some, hfilters,
    Option.map_some, if_pos hwidth]

theorem lookedUp_ne_nil (filtered : Bool) (hcolumns : columns ≠ [])
    (hwidth : inner.length = columns.length) : lookedUp columns inner filtered ≠ [] := by
  have hlength : 0 < columns.length := List.length_pos_iff.mpr hcolumns
  refine List.length_pos_iff.mp ?_
  rw [lookedUp, List.length_append, List.length_zipWith]
  omega

/-- A look-up of one row that is compared with the numeral it gives: with no row it gives NULL. -/
theorem ofEqual_scalar? (found : List (SourceRow ι β)) :
    (scalar? (some 1) 1 found).map (fun looked => Truth.ofEqual (· == ·) (some 1) looked) =
      some (if found = [] then .unknown else .true) := by
  cases found <;> rfl

theorem numeral_one (rest : List (Lexeme (Part α ι))) :
    numeral (.symbol "1" :: rest) = some (1, rest) := rfl

theorem limited_lookup (limitFirst : Bool) {found : List (Filter α ι)} (hne : found ≠ []) :
    limited limitFirst (.symbol "SELECT" ::
        ((if limitFirst then [.symbol "TOP", .symbol "1"] else []) ++
          .symbol "1" :: .symbol "FROM" :: .operand .table :: .symbol "WHERE" ::
            ([.symbol "AND"].intercalate (found.map filterLexemes) ++
              ((if limitFirst then [] else [.symbol "LIMIT", .symbol "1"]) ++ [.symbol ")"])))) =
      some ((some 1, 1, found), [.symbol ")"]) := by
  cases limitFirst with
  | true =>
    have hfilters := filters_where hne [.symbol ")"] (by simp)
    simp [limited, select, limitAfter, numeral_one, hfilters]
  | false =>
    have hfilters := filters_where hne [.symbol "LIMIT", .symbol "1", .symbol ")"] (by simp)
    simp [limited, select, limitAfter, numeral_one, hfilters]

theorem equalsSelect_lookup (limitFirst : Bool) (filtered : Bool) (hcolumns : columns ≠ [])
    (hwidth : inner.length = columns.length) :
    equalsSelect value equal rows limitFirst (lookup limitFirst columns inner filtered).lexemes =
      some (if kept value equal (lookedUp columns inner filtered) rows = [] then .unknown
        else .true, []) := by
  have hlimited := limited_lookup limitFirst (lookedUp_ne_nil filtered hcolumns hwidth)
  have hscalar := ofEqual_scalar? (kept value equal (lookedUp columns inner filtered) rows)
  rw [Option.map_eq_some_iff] at hscalar
  obtain ⟨looked, hlooked, htruth⟩ := hscalar
  rw [lexemes_lookup, equalsSelect]
  simp only [numeral_one, Option.map_some, Option.bind_some, Condition.enclosed, hlimited, hlooked,
    htruth]

theorem kept_given (filtered : Bool) : kept value equal (given filtered : List (Filter α ι)) rows =
    rows.filter fun row => filtered = false ∨ row.holds = .true := by
  refine List.filter_congr fun row _ => ?_
  cases filtered <;> simp [given, Filter.truth, Truth.and_eq_true_iff]

variable {equal}

/-- The look-up finds a row exactly where one is equal to the outer columns. -/
theorem kept_lookedUp_eq_nil_iff (hsymm : ∀ x y, equal x y = equal y x) (filtered : Bool) :
    kept value equal (lookedUp columns inner filtered) rows = [] ↔
      Truth.isIn equal (columns.map value)
        ((kept value equal (given filtered : List (Filter α ι)) rows).map
          fun row => inner.map row.field) ≠ .true := by
  -- the text has the selected column first, IN compares the outer one first
  have hequalities (row : SourceRow ι β) :
      (List.zipWith Filter.equality inner columns).map (·.truth value equal row) =
        List.zipWith (Truth.ofEqual equal) (columns.map value) (inner.map row.field) := by
    rw [List.map_zipWith, List.zipWith_map, List.zipWith_comm]
    refine congrArg (fun f => List.zipWith f columns inner) (funext fun a => funext fun i => ?_)
    exact Truth.ofEqual_comm hsymm _ _
  have hrow (row : SourceRow ι β) :
      ((lookedUp columns inner filtered).map (·.truth value equal row)).foldr Truth.and .true =
          .true ↔
        ((given filtered : List (Filter α ι)).map (·.truth value equal row)).foldr Truth.and .true =
            .true ∧
          Truth.ofRows equal (columns.map value) (inner.map row.field) = .true := by
    rw [lookedUp, List.map_append, hequalities, Truth.ofRows_eq_true_iff,
      Truth.foldr_and_eq_true_iff, Truth.foldr_and_eq_true_iff, List.forall_mem_append]
  rw [Ne, Truth.isIn_eq_true_iff, kept, List.filter_eq_nil_iff]
  constructor
  · rintro h ⟨_, hm, hequal⟩
    obtain ⟨row, hkept, rfl⟩ := List.mem_map.mp hm
    obtain ⟨hmem, hgiven⟩ := List.mem_filter.mp hkept
    exact h row hmem (decide_eq_true ((hrow row).mpr ⟨of_decide_eq_true hgiven, hequal⟩))
  · intro h row hmem hkept
    obtain ⟨hgiven, hequal⟩ := (hrow row).mp (of_decide_eq_true hkept)
    have hrow : row ∈ kept value equal (given filtered : List (Filter α ι)) rows :=
      List.mem_filter.mpr ⟨hmem, decide_eq_true hgiven⟩
    exact h ⟨_, List.mem_map.mpr ⟨row, hrow, rfl⟩, hequal⟩

theorem subselectTruth?_subselect (hsymm : ∀ x y, equal x y = equal y x) (d : Dialect)
    (filtered : Bool) (hcolumns : columns ≠ []) (hwidth : inner.length = columns.length) :
    (subselect d columns inner filtered).subselectTruth? d value equal rows =
      some (d.subselectTruth (.isIn equal (columns.map value)
        ((kept value equal (given filtered : List (Filter α ι)) rows).map
          fun row => inner.map row.field))) := by
  rw [Dialect.subselectTruth]
  by_cases hnative : d.supportsTupleComparison
  · rw [subselectTruth?, subselect, if_pos hnative,
      inSelect_rowSubselect value equal rows filtered hcolumns hwidth, Option.some_or,
      if_pos (.inl hnative)]
  · -- a text that begins with a numeral is not read as a row value
    have hnone : inSelect value equal rows
        (lookup (d = .sqlserver) columns inner filtered).lexemes = none := by
      rw [lexemes_lookup]
      rfl
    rw [subselectTruth?, subselect, if_neg hnative, hnone, Option.none_or,
      equalsSelect_lookup value equal rows _ filtered hcolumns hwidth]
    simp only [hnative, Bool.false_eq_true, false_or, kept_lookedUp_eq_nil_iff value rows hsymm]
    split
    next => rfl
    next hfound =>
      have htrue := Decidable.of_not_not hfound
      rw [if_pos htrue, htrue]

end

end Subselect

open Template

theorem Dialect.writesSubselect_subselect {α ι : Type} (d : Dialect) {columns : List α}
    {inner : List ι} (filtered : Bool) (hcolumns : columns ≠ [])
    (hwidth : inner.length = columns.length) :
    d.WritesSubselect columns inner filtered (subselect d columns inner filtered) := by
  intro name conditions hconditions
  have haccepted : TupleValues.fault? (columns.map fun a => name (.column a))
      (.subquery (name .table) (inner.map fun i => name (.selected i)) conditions) = none := by
    rw [TupleValues.fault?_eq_none_iff]
    exact ⟨by simpa using hcolumns, by simpa [TupleValues.Misfits] using hwidth⟩
  rw [tupleSql, haccepted]
  refine congrArg Except.ok ?_
  rw [subselect]
  split
  · rw [fill_rowSubselect name hconditions]
  · rw [fill_lookup name _ hconditions]

theorem Dialect.WritesSubselect.unique {α ι : Type} {d : Dialect} {columns : List α}
    {inner : List ι} {filtered : Bool} {first second : Template (Part α ι)}
    (hfirst : d.WritesSubselect columns inner filtered first)
    (hsecond : d.WritesSubselect columns inner filtered second) : first = second := by
  -- a letter is not blank, so it can stand for the conditions too
  refine fill_injective_of_letters fun name hname => ?_
  have hfilled : TupleValues.filled? (if filtered then some (name .conditions) else none) =
      if filtered then some (name .conditions) else none := by
    cases filtered
    · rfl
    · rcases hname .conditions with h | h <;> simp only [if_true, h] <;> rfl
  exact Except.ok.inj ((hfirst name _ hfilled).symm.trans (hsecond name _ hfilled))

/-- A row value is compared with a sub-select as SQL compares it with rows. A look-up of one row is
true where that is true, and never false: without a negation the same rows are selected. -/
theorem tupleSql_subselect_truth {α ι β : Type} {columns : List α} {inner : List ι}
    (hcolumns : columns ≠ []) (hwidth : inner.length = columns.length) (filtered : Bool)
    (value : α → Option β) {equal : β → β → Bool} (hsymm : ∀ x y, equal x y = equal y x)
    (rows : List (SourceRow ι β)) :
    let found := Truth.isIn equal (columns.map value)
      ((rows.filter fun row => filtered = false ∨ row.holds = .true).map
        fun row => inner.map row.field)
    (∀ d : Dialect, (∃ text, d.WritesSubselect columns inner filtered text) ∧
      ∀ text, d.WritesSubselect columns inner filtered text →
        text.subselectTruth? d value equal rows = some (d.subselectTruth found)) ∧
    ∀ d e : Dialect, (found ≠ .false → d.subselectTruth found = e.subselectTruth found) ∧
      ∀ combination : Truth.Combination,
        combination.eval (d.subselectTruth found) = .true ↔
          combination.eval (e.subselectTruth found) = .true := by
  intro found
  refine ⟨fun d => ?_, fun d e => ⟨fun hfound => ?_, fun combination => ?_⟩⟩
  · have hwrites := d.writesSubselect_subselect filtered hcolumns hwidth
    refine ⟨⟨_, hwrites⟩, fun text htext => ?_⟩
    rw [htext.unique hwrites, subselectTruth?_subselect value rows hsymm d filtered hcolumns hwidth,
      kept_given]
  · rw [d.subselectTruth_of_ne_false hfound, e.subselectTruth_of_ne_false hfound]
  · have htrue := d.subselectTruth_eq_true_iff found
    exact combination.eval_eq_true_iff (htrue.trans (e.subselectTruth_eq_true_iff found).symm)

/-- A row with the values that are looked for, for which the conditions are unknown, and one for
which they are true, with NULL in place of a value. -/
theorem tupleSql_subselect_truth_null :
    let value (column : Nat) : Option Nat := [some 7, some 8][column]?.join
    let row (fields : List (Option Nat)) (holds : Truth) : SourceRow Nat Nat :=
      { field := fun column => fields[column]?.join, holds }
    let rows := [row [some 8, some 7] .unknown, row [none, some 7] .true]
    [0, 1] ≠ [] ∧ [1, 0].length = [0, 1].length ∧ (∀ x y : Nat, (x == y) = (y == x)) ∧
      ∀ d : Dialect, ∃ text, d.WritesSubselect [0, 1] [1, 0] true text ∧
        text.subselectTruth? d value (· == ·) rows = some .unknown := by
  intro value row rows
  have hsymm : ∀ x y : Nat, (x == y) = (y == x) := fun _ _ => BEq.comm
  have hcolumns : [0, 1] ≠ [] := by decide
  have hwidth : [1, 0].length = [0, 1].length := rfl
  refine ⟨hcolumns, hwidth, hsymm, fun d => ?_⟩
  obtain ⟨⟨text, htext⟩, htruth⟩ :=
    (tupleSql_subselect_truth hcolumns hwidth true value hsymm rows).1 d
  refine ⟨text, htext, (htruth text htext).trans (congrArg some ?_)⟩
  exact d.subselectTruth_of_ne_false (by decide)

/-- A sub-select without rows has no value that is equal, and no value that is different. -/
theorem tupleSql_subselect_truth_differs :
    let value (_ : Unit) : Option Nat := some 7
    let native : Template (Part Unit Unit) := subselect .mysql [()] [()] false
    let expanded : Template (Part Unit Unit) := subselect .sqlite [()] [()] false
    Dialect.mysql.WritesSubselect [()] [()] false native ∧
      Dialect.sqlite.WritesSubselect [()] [()] false expanded ∧
      (native.subselectTruth? .mysql value (· == ·) []).map Truth.not = some .true ∧
      (expanded.subselectTruth? .sqlite value (· == ·) []).map Truth.not = some .unknown := by
  intro value native expanded
  exact ⟨Dialect.writesSubselect_subselect _ _ (by decide) rfl,
    Dialect.writesSubselect_subselect _ _ (by decide) rfl, by decide +kernel, by decide +kernel⟩

end PortableSql

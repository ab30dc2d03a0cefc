import Mathlib.Data.List.Perm.Basic
import PortableSql.Proofs.Catalog.Listing
import PortableSql.Proofs.Catalog.Updates

namespace PortableSql

open Folding

namespace Table

variable {t : Table} {name : String} {key : List String}

/-- The constraints of a table that has no others than a primary key on the named columns. -/
def keyOn (columns : List String) : List Constraint :=
  if columns = [] then []
  else [{ name := primaryConstraintName, kind := .primary, columns }]

theorem primaryKey?_of_keyOn (h : t.constraints = keyOn key) :
    t.primaryKey? = if key = [] then none else some key := by
  rw [primaryKey?, h, keyOn]
  split <;> rfl

/-- A primary key takes the place of the one that is known. -/
theorem addConstraint_keyOn (h : t.Catalogued) (hkey : t.constraints = keyOn key)
    {columns : List String} (hcovers : Covers t.columnNames columns) :
    Folding.ofChange t
        (addConstraint { name := primaryConstraintName, kind := .primary, columns }) =
      { table := { t with constraints := keyOn columns } } := by
  have hfollows := follows_addConstraint
    (c := { name := primaryConstraintName, kind := .primary, columns }) h hcovers (by simp) (fun _ => rfl)
  obtain ⟨changed, hadd⟩ := ok_of_follows hfollows
  obtain ⟨_, rfl⟩ := (guarded_addConstraint t _).ok_iff.mp hadd
  have hput : Keyed.put Constraint.name
      (kept { name := primaryConstraintName, kind := .primary, columns }) t.constraints =
        keyOn columns := by
    rw [hkey, keyOn, keyOn, if_neg hcovers.nonempty]
    split <;> rfl
  rw [Folding.ofChange_of_ok hadd, hput]

theorem foldConstraint_keyOn (h : t.Catalogued) (hkey : t.constraints = keyOn key)
    (hsubset : key ⊆ t.columnNames) (hcolumn : name ∈ t.columnNames) (hnew : name ∉ key)
    (place : Option Nat) :
    ∃ joined, joined.Perm (name :: key) ∧
      t.foldConstraint primaryConstraintName .primary name place =
        { table := { t with constraints := keyOn joined } } := by
  have hhas : t.hasColumn name = true := hasColumn_iff.mpr hcolumn
  have hknown : (t.constraint? primaryConstraintName).getD
      { name := primaryConstraintName, kind := .primary, columns := [] } =
        { name := primaryConstraintName, kind := .primary, columns := key } := by
    rw [constraint?, hkey, keyOn]
    split
    next hnil => rw [hnil]; rfl
    next => rfl
  have hperm : (key.insertIdx (min (place.getD key.length) key.length) name).Perm (name :: key) :=
    List.perm_insertIdx name key (Nat.min_le_right _ _)
  have hcovers : Covers t.columnNames
      (key.insertIdx (min (place.getD key.length) key.length) name) := by
    refine covers_joined hsubset hcolumn fun x => ?_
    rw [hperm.mem_iff, List.mem_cons]
  refine ⟨_, hperm, ?_⟩
  simp only [foldConstraint, hhas, Bool.not_true, Bool.false_eq_true, if_false, hknown,
    List.contains_eq_mem, hnew, decide_false]
  exact addConstraint_keyOn h hkey hcovers

end Table

namespace Sqlite

open Table Dialect

variable {t : Table} {row : Row} {name : String}

/-- A column that a row puts into the primary key, with its place there. -/
def keyed? (row : Row) : Option (Nat × String) :=
  (keyPlace? row).bind fun place => (row.text? "name").map fun name => (place, name)

/-- The columns that rows put into the primary key, in the order of their places. -/
def keyInOrder (rows : List Row) : List (Nat × String) :=
  (rows.filterMap keyed?).mergeSort fun a b => a.1 ≤ b.1

theorem keyPlace?_eq_some_iff {place : Nat} :
    keyPlace? row = some place ↔ 0 < place ∧ row.int? "pk" = some (place : Int) := by
  unfold keyPlace?
  cases row.int? "pk" with
  | none => simp
  | some n =>
    dsimp only
    split
    next hpos =>
      simp only [Option.some.injEq]
      omega
    next hpos =>
      simp only [Option.some.injEq]
      constructor
      · rintro ⟨⟩
      · omega

/-- A table into which rows of a column listing went: it has their columns in their order, and no
constraint but a primary key on those of the columns that have a place. -/
structure Listed (t : Table) (rows : List Row) : Prop where
  catalogued : t.Catalogued
  columns : t.columnNames = rows.filterMap (·.text? "name")
  key : ∃ key, key.Perm ((rows.filterMap keyed?).map (·.2)) ∧ t.constraints = keyOn key

theorem keyed_subset (rows : List Row) :
    (rows.filterMap keyed?).map (·.2) ⊆ rows.filterMap (·.text? "name") := by
  intro name hname
  obtain ⟨⟨place, name⟩, hm, rfl⟩ := List.mem_map.mp hname
  obtain ⟨row, hrow, hkeyed⟩ := List.mem_filterMap.mp hm
  obtain ⟨_, _, hkeyed⟩ := Option.bind_eq_some_iff.mp hkeyed
  obtain ⟨_, htext, heq⟩ := Option.map_eq_some_iff.mp hkeyed
  cases heq
  exact List.mem_filterMap.mpr ⟨row, hrow, htext⟩

theorem Listed.step {rows : List Row} (h : Listed t rows) (hname : row.text? "name" = some name)
    (hnew : name ∉ t.columnNames) :
    (foldColumn t row).error? = none ∧ Listed (foldColumn t row).table (rows ++ [row]) := by
  obtain ⟨key, hperm, hkey⟩ := h.key
  have hcat := (foldColumn_follows h.catalogued row).catalogued
  have hadded : (t.addColumn (column name row)).columnNames = t.columnNames ++ [name] := by
    have hkeys := Keyed.keys_put Column.name (column name row) t.columns
    exact hkeys.trans (if_neg hnew)
  have hcolumns : t.columnNames ++ [name] = (rows ++ [row]).filterMap (·.text? "name") := by
    rw [h.columns, List.filterMap_append,
      List.filterMap_cons_some (f := fun row : Row => row.text? "name") hname, List.filterMap_nil]
  unfold foldColumn at hcat ⊢
  simp only [withText, hname] at hcat ⊢
  cases hplace : keyPlace? row with
  | none =>
    have hkeyed : keyed? row = none := by rw [keyed?, hplace]; rfl
    rw [hplace] at hcat
    refine ⟨rfl, hcat, hadded.trans hcolumns, key, ?_, hkey⟩
    rwa [List.filterMap_append, List.filterMap_cons_none hkeyed, List.filterMap_nil,
      List.append_nil]
  | some place =>
    -- the place that the row gives is clamped, so that only the set of the columns is known
    have hkeyed : keyed? row = some (place, name) := by rw [keyed?, hplace, hname]; rfl
    have hsubset : key ⊆ t.columnNames := by
      rw [h.columns]
      exact fun x hx => keyed_subset rows (hperm.mem_iff.mp hx)
    obtain ⟨joined, hjoined, hfold⟩ := foldConstraint_keyOn
      (h.catalogued.addColumn (column name row)) hkey
      (by rw [hadded]; exact fun x hx => List.mem_append_left _ (hsubset hx))
      (by rw [hadded]; exact List.mem_append_right _ List.mem_cons_self)
      (fun hm => hnew (hsubset hm)) (some (place - 1))
    rw [hplace] at hcat
    dsimp only at hcat ⊢
    rw [hfold] at hcat ⊢
    refine ⟨rfl, hcat, hadded.trans hcolumns, joined, ?_, rfl⟩
    rw [List.filterMap_append, List.filterMap_cons_some hkeyed, List.filterMap_nil,
      List.map_append]
    exact hjoined.trans ((hperm.cons name).trans (List.perm_append_singleton name _).symm)

theorem Listed.ofRows {before rows : List Row} (h : Listed t before)
    (hnamed : ∀ row ∈ rows, (row.text? "name").isSome)
    (hdistinct : ((before ++ rows).filterMap (·.text? "name")).Nodup) :
    (ofRows foldColumn t rows).error? = none ∧
      Listed (ofRows foldColumn t rows).table (before ++ rows) := by
  induction rows generalizing t before with
  | nil => exact ⟨rfl, by rwa [List.append_nil]⟩
  | cons row rows ih =>
    obtain ⟨name, hname⟩ := Option.isSome_iff_exists.mp (hnamed row List.mem_cons_self)
    have hnew : name ∉ t.columnNames := by
      rw [h.columns]
      rw [List.filterMap_append,
        List.filterMap_cons_some (f := fun row : Row => row.text? "name") hname] at hdistinct
      exact fun hm => (List.nodup_append.mp hdistinct).2.2 name hm name List.mem_cons_self rfl
    obtain ⟨herror, hstep⟩ := h.step hname hnew
    obtain ⟨htable, hnext⟩ := andThen_of_ok herror fun t => Folding.ofRows foldColumn t rows
    have hrest := ih hstep (fun row hm => hnamed row (List.mem_cons_of_mem _ hm))
      (by rwa [List.append_assoc, List.singleton_append])
    rw [List.append_assoc, List.singleton_append] at hrest
    rw [Folding.ofRows, htable, hnext]
    exact hrest

theorem Listed.keyColumns_eq {rows : List Row} (h : Listed t rows) :
    keyColumns t rows = (keyInOrder rows).map (·.2) := by
  have hplaced : (rows.filterMap fun row => do
      let place ← keyPlace? row
      let name ← row.text? "name"
      if t.hasColumn name then some (place, name) else none) = rows.filterMap keyed? := by
    refine List.filterMap_congr fun row hrow => ?_
    cases hname : row.text? "name" with
    | none => cases hplace : keyPlace? row <;> simp [keyed?, hname]
    | some name =>
      have hhas : t.hasColumn name = true := by
        rw [hasColumn_iff, h.columns]
        exact List.mem_filterMap.mpr ⟨row, hrow, hname⟩
      cases hplace : keyPlace? row <;> simp [keyed?, hplace, hname, hhas]
  rw [keyColumns, hplaced, keyInOrder]

theorem perm_eq_of_length_lt_two {α : Type} {xs ys : List α} (h : xs.Perm ys)
    (hlength : ys.length < 2) : xs = ys := by
  match ys, hlength with
  | [], _ => exact h.eq_nil
  | [y], _ => exact h.eq_singleton

/-- After the listing the key is in the order of its places, where the rows left it in another too. -/
theorem foldColumns_keyOn (name : String) {rows : List Row}
    (hnamed : ∀ row ∈ rows, (row.text? "name").isSome)
    (hdistinct : (rows.filterMap (·.text? "name")).Nodup) :
    (foldColumns { name } rows).error? = none ∧
      (foldColumns { name } rows).table.columnNames = rows.filterMap (·.text? "name") ∧
      (foldColumns { name } rows).table.constraints = keyOn ((keyInOrder rows).map (·.2)) := by
  have hfresh : Listed { name } [] := ⟨Catalogued.new name, rfl, [], List.Perm.refl _, rfl⟩
  obtain ⟨herror, hlisted⟩ := hfresh.ofRows hnamed hdistinct
  rw [List.nil_append] at hlisted
  obtain ⟨htable, hnext⟩ := andThen_of_ok herror fun t =>
    let columns := keyColumns t rows
    if columns.length < 2 then { table := t }
    else .ofChange t (addConstraint { name := primaryConstraintName, kind := .primary, columns })
  rw [foldColumns, htable, hnext]
  dsimp only
  obtain ⟨key, hperm, hkey⟩ := hlisted.key
  have hcolumns := hlisted.keyColumns_eq
  split
  next hlength =>
    have hsorted : key.Perm ((keyInOrder rows).map (·.2)) :=
      hperm.trans ((List.mergeSort_perm _ _).map _).symm
    rw [hcolumns] at hlength
    rw [perm_eq_of_length_lt_two hsorted hlength] at hkey
    exact ⟨rfl, hlisted.columns, hkey⟩
  next hlength =>
    have hcovers := keyColumns_subset (ofRows foldColumn { name } rows).table rows
    rw [addConstraint_keyOn hlisted.catalogued hkey ⟨fun hnil => hlength (by simp [hnil]), hcovers⟩,
      hcolumns]
    exact ⟨rfl, hlisted.columns, rfl⟩

theorem mem_keyInOrder {rows : List Row} {place : Nat} {column : String} :
    (place, column) ∈ keyInOrder rows ↔ 0 < place ∧
      ∃ row ∈ rows, row.int? "pk" = some (place : Int) ∧ row.text? "name" = some column := by
  rw [keyInOrder, List.mem_mergeSort, List.mem_filterMap]
  constructor
  · rintro ⟨row, hrow, hkeyed⟩
    obtain ⟨_, hplace, hkeyed⟩ := Option.bind_eq_some_iff.mp hkeyed
    obtain ⟨_, hname, heq⟩ := Option.map_eq_some_iff.mp hkeyed
    cases heq
    obtain ⟨hpos, hpk⟩ := keyPlace?_eq_some_iff.mp hplace
    exact ⟨hpos, row, hrow, hpk, hname⟩
  · rintro ⟨hpos, row, hrow, hpk, hname⟩
    refine ⟨row, hrow, ?_⟩
    rw [keyed?, keyPlace?_eq_some_iff.mpr ⟨hpos, hpk⟩, hname]
    rfl

theorem keyInOrder_sorted {rows : List Row}
    (hplaces : ((rows.filterMap (·.int? "pk")).filter (0 < ·)).Nodup) :
    (keyInOrder rows).Pairwise (·.1 < ·.1) := by
  have hapart : (rows.filterMap keyed?).Pairwise (·.1 ≠ ·.1) := by
    rw [List.filter_filterMap, List.Nodup, List.pairwise_filterMap] at hplaces
    refine List.Pairwise.filterMap keyed? ?_ hplaces
    rintro a b hab ⟨m, x⟩ ha ⟨n, y⟩ hb rfl
    obtain ⟨_, hm, ha⟩ := Option.bind_eq_some_iff.mp ha
    obtain ⟨_, _, heq⟩ := Option.map_eq_some_iff.mp ha
    cases heq
    obtain ⟨_, hn, hb⟩ := Option.bind_eq_some_iff.mp hb
    obtain ⟨_, _, heq⟩ := Option.map_eq_some_iff.mp hb
    cases heq
    obtain ⟨hpos, hm⟩ := keyPlace?_eq_some_iff.mp hm
    obtain ⟨_, hn⟩ := keyPlace?_eq_some_iff.mp hn
    refine hab m ?_ m ?_ rfl
    · simp [hm, Option.filter, hpos]
    · simp [hn, Option.filter, hpos]
  have hdifferent : (keyInOrder rows).Pairwise (·.1 ≠ ·.1) :=
    (List.mergeSort_perm _ _).symm.pairwise hapart fun h => Ne.symm h
  have hsorted : (keyInOrder rows).Pairwise fun a b => decide (a.1 ≤ b.1) = true :=
    List.pairwise_mergeSort (by simp; omega) (by simp; omega) _
  refine (hsorted.and hdifferent).imp fun ⟨hle, hne⟩ => ?_
  have := of_decide_eq_true hle
  omega

theorem key_unique {first second : List (Nat × String)} (hfirst : first.Pairwise (·.1 < ·.1))
    (hsecond : second.Pairwise (·.1 < ·.1)) (h : ∀ entry, entry ∈ first ↔ entry ∈ second) :
    first = second := by
  have hnodup {key : List (Nat × String)} (hkey : key.Pairwise (·.1 < ·.1)) : key.Nodup := by
    refine hkey.imp fun hlt => ?_
    rintro rfl
    omega
  have hperm : first.Perm second :=
    (List.perm_ext_iff_of_nodup (hnodup hfirst) (hnodup hsecond)).mpr h
  refine hperm.eq_of_pairwise ?_ hfirst hsecond
  intro a b _ _ hab hba
  omega

/-- The primary key has the columns that have a place in it, in the order of the places, in whatever
order the columns are listed. The columns stay in the order of the listing. -/
theorem sqlite_foldColumns_primaryKey (name : String) {rows : List Row}
    (hnamed : ∀ row ∈ rows, (row.text? "name").isSome)
    (hdistinct : (rows.filterMap (·.text? "name")).Nodup)
    (hplaces : ((rows.filterMap (·.int? "pk")).filter (0 < ·)).Nodup) :
    (sqlite.foldColumns { name } rows).error? = none ∧
      (sqlite.foldColumns { name } rows).table.columnNames = rows.filterMap (·.text? "name") ∧
      (∃ key : List (Nat × String), key.Pairwise (·.1 < ·.1) ∧
        (∀ place column, (place, column) ∈ key ↔ 0 < place ∧
          ∃ row ∈ rows, row.int? "pk" = some (place : Int) ∧ row.text? "name" = some column) ∧
        (sqlite.foldColumns { name } rows).table.primaryKey? =
          (if key = [] then none else some (key.map (·.2))) ∧
        (sqlite.foldColumns { name } rows).table.constraints = keyOn (key.map (·.2))) ∧
      ∀ other : List Row, other.Perm rows →
        (sqlite.foldColumns { name } other).table.primaryKey? =
          (sqlite.foldColumns { name } rows).table.primaryKey? := by
  have hkey {rows : List Row} (hnamed : ∀ row ∈ rows, (row.text? "name").isSome)
      (hdistinct : (rows.filterMap (·.text? "name")).Nodup) :
      (sqlite.foldColumns { name } rows).table.primaryKey? =
        if keyInOrder rows = [] then none else some ((keyInOrder rows).map (·.2)) := by
    have hconstraints := (foldColumns_keyOn name hnamed hdistinct).2.2
    refine (primaryKey?_of_keyOn hconstraints).trans ?_
    simp only [List.map_eq_nil_iff]
  obtain ⟨herror, hcolumns, hconstraints⟩ := foldColumns_keyOn name hnamed hdistinct
  refine ⟨herror, hcolumns, ⟨keyInOrder rows, keyInOrder_sorted hplaces,
    fun _ _ => mem_keyInOrder, hkey hnamed hdistinct, hconstraints⟩, fun other hperm => ?_⟩
  have hsame : keyInOrder other = keyInOrder rows := by
    refine key_unique (keyInOrder_sorted ?_) (keyInOrder_sorted hplaces) ?_
    · exact (((hperm.filterMap _).filter _).nodup_iff).mpr hplaces
    · rintro ⟨place, column⟩
      simp only [mem_keyInOrder, hperm.mem_iff]
  rw [hkey hnamed hdistinct, hkey (fun row hm => hnamed row (hperm.mem_iff.mp hm))
    ((hperm.filterMap _).nodup_iff.mpr hdistinct), hsame]

/-- Places with gaps that come out of order, with a column outside the key between them: row by row
the column that comes first stays in front, and the listing as a whole moves it to its place. -/
theorem sqlite_foldColumns_primaryKey_gaps :
    let row (name : String) (place : Int) : Row := [("name", .str name), ("pk", .int place)]
    let rows := [row "c" 9, row "x" 0, row "a" 2, row "b" 5]
    (∀ row ∈ rows, (row.text? "name").isSome) ∧
      (rows.filterMap (·.text? "name")).Nodup ∧
      ((rows.filterMap (·.int? "pk")).filter (0 < ·)).Nodup ∧
      (ofRows foldColumn { name := "t" } rows).table.primaryKey? = some ["c", "a", "b"] ∧
      (sqlite.foldColumns { name := "t" } rows).table.columnNames = ["c", "x", "a", "b"] ∧
      (sqlite.foldColumns { name := "t" } rows).table.primaryKey? = some ["a", "b", "c"] := by
  intro row rows
  have hnamed : ∀ row ∈ rows, (row.text? "name").isSome := by decide +kernel
  have hdistinct : (rows.filterMap (·.text? "name")).Nodup := by decide +kernel
  have hplaces : ((rows.filterMap (·.int? "pk")).filter (0 < ·)).Nodup := by decide +kernel
  obtain ⟨_, hcolumns, ⟨key, hsorted, hmem, hkey, _⟩, _⟩ :=
    sqlite_foldColumns_primaryKey "t" hnamed hdistinct hplaces
  have hentries : key = [(2, "a"), (5, "b"), (9, "c")] := by
    have hkeyed : rows.filterMap keyed? = [(9, "c"), (2, "a"), (5, "b")] := by decide +kernel
    refine key_unique hsorted (by decide) fun ⟨place, column⟩ => ?_
    rw [hmem, ← mem_keyInOrder, keyInOrder, List.mem_mergeSort, hkeyed]
    simp only [List.mem_cons, List.not_mem_nil, or_false]
    exact or_rotate
  rw [hentries] at hkey
  exact ⟨hnamed, hdistinct, hplaces, by decide +kernel, hcolumns.trans (by decide +kernel), hkey⟩

end Sqlite

end PortableSql

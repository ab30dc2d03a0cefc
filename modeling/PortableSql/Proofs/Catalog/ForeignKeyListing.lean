import PortableSql.Proofs.Catalog.ForeignKeys
import PortableSql.Proofs.Catalog.Grouping

namespace PortableSql

open Folding

namespace Table

/-- The foreign keys among the constraints. -/
def foreignKeys (t : Table) : List Constraint := t.constraints.filter (·.kind = .foreign)

variable {d : Dialect} {keys : List LabelledPart} {key : LabelledPart} {t : Table}

theorem foldForeignKey_assembled (h : Assembled d keys t.constraints)
    (hname : d.Names key.label key.part.name)
    (hcolumns : ∀ other ∈ keys ++ [key], other.part.column ∈ t.columnNames) :
    t.foldForeignKey (key.under keys) =
      { table :=
          { t with
            constraints := Keyed.put Constraint.name
              (key.part.extend (assembled? keys key.label)) t.constraints } } := by
  have hlabel : assembled? (keys ++ [key]) key.label =
      some (key.part.extend (assembled? keys key.label)) := by
    rw [assembled?_concat, if_pos rfl]
  have hhas : t.hasColumn (key.under keys).column = true :=
    hasColumn_iff.mpr (hcolumns key (by simp))
  rw [foldForeignKey_of_column hhas, constraint?, h.extend_find? hname,
    ofChange_of_ok ((guarded_addConstraint t _).ok_iff.mpr ⟨assembled?_admits hcolumns hlabel, rfl⟩),
    kept_of_foreign (kind_foreignKey? hlabel)]

end Table

namespace Sqlite

/-- The part of a foreign key that a row gives, under the name of a key that begins with it. -/
def keyPart? (row : Row) : Option LabelledPart :=
  (row.text? "from").bind fun column =>
  (row.text? "table").bind fun referencedTable =>
  (row.text? "to").map fun referencedColumn =>
    let number := (row.int? "id").getD 0
    { label := .numbered number
      part :=
        { name := column ++ keySuffix number, column, referencedTable, referencedColumn,
          onUpdate := row.listedAction "on_update", onDelete := row.listedAction "on_delete" } }

/-- A row goes to the key with its number, if a part of the key is known. -/
theorem keyName_eq {keys : List LabelledPart} {t : Table}
    (h : Assembled .sqlite keys t.constraints) {row : Row} {number : Int}
    (hid : (row.int? "id").getD 0 = number) (column : String)
    (counted : (assembled? keys (.numbered number)).isSome → 0 < (row.int? "seq").getD 0) :
    keyName t row column =
      ((assembled? keys (.numbered number)).map Constraint.name).getD
        (column ++ keySuffix number) := by
  have hp : ∀ c : Constraint,
      (c.kind == .foreign && Chars.endsWith (keySuffix number).toList c.name.toList) = true ↔
        c.kind = .foreign ∧ Dialect.sqlite.Names (.numbered number) c.name := by
    intro c
    rw [Bool.and_eq_true, beq_iff_eq, Chars.endsWith, List.isSuffixOf_iff_suffix]
    rfl
  have hsuffix : s!"_{number}_fk" = keySuffix number := rfl
  unfold keyName
  rw [hid]
  dsimp only
  rw [hsuffix]
  split
  next c hfound =>
    have hc := List.find?_some hfound
    obtain ⟨hkind, hname⟩ := (hp c).mp hc
    have hknown := h.assembled?_of_names (List.mem_of_find?_eq_some hfound) hkind hname
    rw [hknown] at counted ⊢
    exact if_pos (counted rfl)
  next hnone =>
    cases hknown : assembled? keys (.numbered number) with
    | none => rfl
    | some c =>
      obtain ⟨hm, hkind⟩ := (h.foreign_iff c).mpr ⟨_, hknown⟩
      exact absurd ((hp c).mpr ⟨hkind, h.names hknown⟩) (List.find?_eq_none.mp hnone c hm)

end Sqlite

namespace Dialect

variable {d : Dialect} {t u : Table} {row : Row} {key : LabelledPart} {keys : List LabelledPart}

/-- The part of a foreign key that a row of the product's foreign key listing gives. -/
def listedKey? (d : Dialect) (row : Row) : Option LabelledPart :=
  match d with
  | sqlite => Sqlite.keyPart? row
  | _ => (d.keyPart? row).map fun part => { label := .named part.name, part }

/-- What tells the foreign key of a row from others. -/
def keyLabel? (d : Dialect) (row : Row) : Option KeyLabel :=
  (d.listedKey? row).map LabelledPart.label

/-- The parts that a listing gives for columns of the table. -/
def keysOn (d : Dialect) (t : Table) (rows : List Row) : List LabelledPart :=
  (rows.filterMap d.listedKey?).filter (t.hasColumn ·.part.column)

theorem names_of_listedKey? (h : d.listedKey? row = some key) :
    d.Names key.label key.part.name := by
  cases d with
  | sqlite =>
    obtain ⟨column, _, h⟩ := Option.bind_eq_some_iff.mp h
    obtain ⟨target, _, h⟩ := Option.bind_eq_some_iff.mp h
    obtain ⟨targetColumn, _, rfl⟩ := Option.map_eq_some_iff.mp h
    change (keySuffix _).toList <:+ (column ++ keySuffix _).toList
    rw [String.toList_append]
    exact List.suffix_append _ _
  | mysql | postgresql | sqlserver =>
    obtain ⟨part, _, rfl⟩ := Option.map_eq_some_iff.mp h
    rfl

/-- A row is folded as its part, under the name of its key. -/
theorem foldForeignKey_eq (h : Assembled d keys t.constraints)
    (hkey : d.listedKey? row = some key)
    (counted : d = sqlite → (assembled? keys key.label).isSome → 0 < (row.int? "seq").getD 0) :
    d.foldForeignKey t row = t.foldForeignKey (key.under keys) := by
  cases d with
  | sqlite =>
    obtain ⟨column, hcolumn, hkey⟩ := Option.bind_eq_some_iff.mp hkey
    obtain ⟨target, htable, hkey⟩ := Option.bind_eq_some_iff.mp hkey
    obtain ⟨targetColumn, hreferenced, rfl⟩ := Option.map_eq_some_iff.mp hkey
    change Sqlite.foldForeignKey t row = _
    rw [Sqlite.foldForeignKey, Table.withText_of_some hcolumn, Table.withText_of_some htable,
      Table.withText_of_some hreferenced, Sqlite.keyName_eq h rfl column (counted rfl),
      Row.action_eq, Row.action_eq]
    rfl
  | mysql | postgresql | sqlserver =>
    obtain ⟨part, hpart, rfl⟩ := Option.map_eq_some_iff.mp hkey
    have hunder : LabelledPart.under { label := .named part.name, part } keys = part := by
      unfold LabelledPart.under
      cases hc : assembled? keys (.named part.name) with
      | none => rfl
      | some c =>
        have hname : c.name = part.name := h.names hc
        simp [hname]
    rw [hunder]
    exact foldForeignKey_of_part hpart

/-- A row whose column is on the table puts its part into the key of its label, and any other leaves
the constraints as they are. -/
theorem foldForeignKey_step (h : Assembled d keys u.constraints) (hu : u.columns = t.columns)
    (hcolumns : ∀ other ∈ keys, t.hasColumn other.part.column = true)
    (hkey : d.listedKey? row = some key)
    (counted : d = sqlite → (assembled? keys key.label).isSome → 0 < (row.int? "seq").getD 0) :
    let f := d.foldForeignKey u row
    f.error? = none ∧ f.table.columns = t.columns ∧
      Assembled d (keys ++ [key].filter (t.hasColumn ·.part.column)) f.table.constraints := by
  intro f
  have hf : f = u.foldForeignKey (key.under keys) := foldForeignKey_eq h hkey counted
  rw [← Table.hasColumn_congr hu] at hcolumns ⊢
  by_cases hhas : u.hasColumn key.part.column = true
  · have hall : ∀ other ∈ keys ++ [key], other.part.column ∈ u.columnNames := by
      intro other hm
      rcases List.mem_append.mp hm with hm | hm
      · exact Table.hasColumn_iff.mp (hcolumns other hm)
      · obtain rfl := List.mem_singleton.mp hm
        exact Table.hasColumn_iff.mp hhas
    have hname := names_of_listedKey? hkey
    have htaken : [key].filter (u.hasColumn ·.part.column) = [key] := by simp [hhas]
    rw [hf, Table.foldForeignKey_assembled h hname hall, htaken]
    exact ⟨rfl, hu, h.put hname⟩
  · have hnot : u.hasColumn (key.under keys).column = false := Bool.eq_false_iff.mpr hhas
    have htaken : [key].filter (u.hasColumn ·.part.column) = [] := by simp [hhas]
    rw [hf, Table.foldForeignKey, hnot, htaken, List.append_nil]
    exact ⟨rfl, hu, h⟩

end Dialect

/-- Whether each row but the first of a number has a place after the first. -/
def Sqlite.Counted (rows : List Row) : Prop :=
  rows.Pairwise fun row later => Dialect.sqlite.keyLabel? row = Dialect.sqlite.keyLabel? later →
    0 < (later.int? "seq").getD 0

instance (rows : List Row) : Decidable (Sqlite.Counted rows) :=
  inferInstanceAs (Decidable (rows.Pairwise fun _ _ => _ → _))

namespace Dialect

variable {d : Dialect} {t u : Table}

theorem ofRows_foldForeignKey {before rows : List Row}
    (h : Assembled d (d.keysOn t before) u.constraints) (hu : u.columns = t.columns)
    (listed : ∀ row ∈ rows, (d.listedKey? row).isSome)
    (counted : d = sqlite → Sqlite.Counted (before ++ rows)) :
    let f := ofRows d.foldForeignKey u rows
    f.error? = none ∧ Assembled d (d.keysOn t (before ++ rows)) f.table.constraints := by
  induction rows generalizing u before with
  | nil =>
    rw [List.append_nil]
    exact ⟨rfl, h⟩
  | cons row rows ih =>
    obtain ⟨key, hkey⟩ := Option.isSome_iff_exists.mp (listed row List.mem_cons_self)
    have hcounted : d = sqlite → (assembled? (d.keysOn t before) key.label).isSome →
        0 < (row.int? "seq").getD 0 := by
      rintro rfl hsome
      -- a part that is known comes from a row before, and such a row has the same number
      obtain ⟨c, hc⟩ := Option.isSome_iff_exists.mp hsome
      obtain ⟨known, hm, hlabel, _⟩ := exists_first_of_assembled? hc
      obtain ⟨earlier, hearlier, hknown⟩ := List.mem_filterMap.mp (List.mem_filter.mp hm).1
      refine (List.pairwise_append.mp (counted rfl)).2.2 earlier hearlier row List.mem_cons_self ?_
      rw [keyLabel?, keyLabel?, hknown, hkey, Option.map_some, Option.map_some, hlabel]
    have hcolumns : ∀ other ∈ d.keysOn t before, t.hasColumn other.part.column = true :=
      fun other hm => (List.mem_filter.mp hm).2
    obtain ⟨hok, hcols, hassembled⟩ := foldForeignKey_step h hu hcolumns hkey hcounted
    have hkeys : d.keysOn t before ++ [key].filter (t.hasColumn ·.part.column) =
        d.keysOn t (before ++ [row]) := by
      rw [keysOn, keysOn, List.filterMap_append, List.filterMap_cons_some hkey,
        List.filterMap_nil, List.filter_append]
    rw [hkeys] at hassembled
    obtain ⟨herror, hrest⟩ := ih hassembled hcols
      (fun row hm => listed row (List.mem_cons_of_mem _ hm)) (by simpa using counted)
    obtain ⟨htable, hnext⟩ := andThen_of_ok hok (ofRows d.foldForeignKey · rows)
    simp only [ofRows]
    rw [htable, hnext]
    exact ⟨herror, by simpa using hrest⟩

/-- The foreign keys that the parts of a listing give, one for each label. -/
def foreignKeysOf (keys : List LabelledPart) : List Constraint :=
  (keys.map LabelledPart.label).dedup.filterMap (assembled? keys)

theorem foreignKeys_perm {keys : List LabelledPart} (h : Assembled d keys t.constraints) :
    t.foreignKeys.Perm (foreignKeysOf keys) := by
  have hlisted : (foreignKeysOf keys).Nodup := by
    refine (List.nodup_dedup _).filterMap fun label other c hc ho => ?_
    exact (h.names (Option.mem_def.mp hc)).label_eq (h.names (Option.mem_def.mp ho))
  have hfolded : t.foreignKeys.Nodup := h.distinct.of_map.filter _
  refine (List.perm_ext_iff_of_nodup hfolded hlisted).mpr fun c => ?_
  rw [Table.foreignKeys, List.mem_filter, decide_eq_true_iff, h.foreign_iff, foreignKeysOf,
    List.mem_filterMap]
  constructor
  · rintro ⟨label, hc⟩
    obtain ⟨key, hm, rfl, _⟩ := exists_first_of_assembled? hc
    exact ⟨key.label, List.mem_dedup.mpr (List.mem_map_of_mem hm), hc⟩
  · rintro ⟨label, _, hc⟩
    exact ⟨label, hc⟩

theorem foreignKeysOf_perm {keys others : List LabelledPart}
    (h : Interleaved LabelledPart.label keys others) :
    (foreignKeysOf others).Perm (foreignKeysOf keys) := by
  have hassembled : assembled? others = assembled? keys := by
    funext label
    rw [assembled?, assembled?, h label]
  rw [foreignKeysOf, foreignKeysOf, hassembled]
  refine List.Perm.filterMap _ ?_
  refine (List.perm_ext_iff_of_nodup (List.nodup_dedup _) (List.nodup_dedup _)).mpr fun label => ?_
  rw [List.mem_dedup, List.mem_dedup, h.mem_labels_iff]

/-- A foreign key listing gives a table without foreign keys one for each name, or number, with a
column on the table, with the columns and the referenced columns of its rows in their order; how the
rows of different keys are interleaved does not matter. -/
theorem foldForeignKeys_assembles (d : Dialect) {t : Table}
    (distinct : (t.constraints.map Constraint.name).Nodup) (free : t.foreignKeys = [])
    {rows : List Row} (listed : ∀ row ∈ rows, (d.listedKey? row).isSome)
    (counted : d = sqlite → Sqlite.Counted rows) :
    let f := ofRows d.foldForeignKey t rows
    f.error? = none ∧ f.table.foreignKeys.Perm (foreignKeysOf (d.keysOn t rows)) ∧
      ∀ others, Interleaved d.keyLabel? rows others →
        let g := ofRows d.foldForeignKey t others
        g.error? = none ∧ g.table.foreignKeys.Perm f.table.foreignKeys := by
  intro f
  have hstart : Assembled d (d.keysOn t []) t.constraints := by
    refine ⟨by simp [keysOn], distinct, fun c => ⟨fun ⟨hm, hkind⟩ => ?_, ?_⟩⟩
    · exact absurd (decide_eq_true hkind) (List.filter_eq_nil_iff.mp free c hm)
    · rintro ⟨label, hc⟩
      cases hc
  obtain ⟨herror, hassembled⟩ := ofRows_foldForeignKey hstart rfl listed counted
  have hperm : f.table.foreignKeys.Perm _ := foreignKeys_perm hassembled
  refine ⟨herror, hperm, fun others h => ?_⟩
  -- the other listing has the same rows, so all that is asked of the one holds of it
  have hlisted : ∀ row ∈ others, (d.listedKey? row).isSome :=
    fun row hm => listed row (h.mem_iff.mpr hm)
  have hcounted : d = sqlite → Sqlite.Counted others := by
    rintro rfl
    exact h.pairwise (counted rfl)
  obtain ⟨herror', hassembled'⟩ := ofRows_foldForeignKey hstart rfl hlisted hcounted
  have hkeys : (foreignKeysOf (d.keysOn t others)).Perm (foreignKeysOf (d.keysOn t rows)) :=
    foreignKeysOf_perm (h.parts.filter _)
  exact ⟨herror', ((foreignKeys_perm hassembled').trans hkeys).trans hperm.symm⟩

/-- The name of a column may look like that of a key, and the number of a key may begin with that of
another. The first row of a key says its actions. -/
theorem foldForeignKeys_assembles_numbers :
    let t : Table :=
      { name := "t", columns := ["a", "b", "b_1_fk"].map fun name => { name, type := .integer }
        constraints := [{ name := "a_1_fk", kind := .unique, columns := ["a"] }] }
    let row (id seq : Int) (column target onUpdate : String) : Row :=
      [("id", .int id), ("seq", .int seq), ("table", .str "u"), ("from", .str column),
       ("to", .str target), ("on_update", .str onUpdate), ("on_delete", .str "NO ACTION")]
    let rest :=
      [row 1 1 "b" "y" "SET NULL", row 11 1 "missing" "y" "CASCADE", row 11 2 "a" "z" "CASCADE"]
    let rows := row 11 0 "b_1_fk" "x" "SET DEFAULT" :: row 1 0 "a" "x" " cascade" :: rest
    let others := row 1 0 "a" "x" " cascade" :: row 11 0 "b_1_fk" "x" "SET DEFAULT" :: rest
    let f := ofRows sqlite.foldForeignKey t rows
    let g := ofRows sqlite.foldForeignKey t others
    (t.constraints.map Constraint.name).Nodup ∧ t.foreignKeys = [] ∧
      (∀ row ∈ rows, (sqlite.listedKey? row).isSome) ∧ Sqlite.Counted rows ∧
      Interleaved sqlite.keyLabel? rows others ∧ f.error? = none ∧
      ((foreignKeysOf (sqlite.keysOn t rows)).map fun c =>
          (c.name, c.columns, c.references, c.onUpdate, c.onDelete)) =
        [("a_1_fk", ["a", "b"], ["u", "x", "y"], .cascade, .noAction),
         ("b_1_fk_11_fk", ["b_1_fk", "a"], ["u", "x", "z"], .restrict, .noAction)] ∧
      f.table.foreignKeys.Perm (foreignKeysOf (sqlite.keysOn t rows)) ∧
      g.table.foreignKeys.Perm f.table.foreignKeys := by
  intro t row rest rows others f g
  have hdistinct : (t.constraints.map Constraint.name).Nodup := by decide
  have hlisted : ∀ row ∈ rows, (sqlite.listedKey? row).isSome := by decide +kernel
  have hcounted : Sqlite.Counted rows := by decide +kernel
  have hinterleaved : Interleaved sqlite.keyLabel? rows others :=
    interleaved_swap (by decide +kernel)
  obtain ⟨herror, hkeys, hothers⟩ :=
    foldForeignKeys_assembles sqlite hdistinct rfl hlisted fun _ => hcounted
  obtain ⟨_, hsame⟩ := hothers others hinterleaved
  exact ⟨hdistinct, rfl, hlisted, hcounted, hinterleaved, herror, by decide +kernel, hkeys, hsame⟩

end Dialect

end PortableSql

import PortableSql.Proofs.Catalog.Recorded

namespace PortableSql

open Folding

/-- The table has the primary key, the unique constraints and the foreign keys of two listings. -/
structure Table.Represents (t : Table) (parts : List IndexPart) (keys : List ForeignKeyPart) :
    Prop where
  primary : t.primaryKey? =
    if primaryColumns parts = [] then none else some (primaryColumns parts)
  unique : ∀ part ∈ parts, part.role = .unique →
    t.constraint? part.name =
      some { name := part.name, kind := .unique, columns := uniqueColumns parts part.name }
  foreign : ∀ key ∈ keys, t.constraint? key.name = foreignKey? (keys.filter (·.name == key.name))

/-- Neither the primary key nor a unique index covers a column twice. -/
structure ColumnsApart (parts : List IndexPart) : Prop where
  primary : (primaryColumns parts).Nodup
  unique : ∀ part ∈ parts, part.role = .unique → (uniqueColumns parts part.name).Nodup

namespace Table

variable {t : Table} {parts : List IndexPart} {keys : List ForeignKeyPart}

theorem Catalogued.primaryKey?_eq (h : t.Catalogued) :
    t.primaryKey? =
      ((t.constraint? primaryConstraintName).filter (·.kind == .primary)).map
        Constraint.columns := by
  have hnamed : ∀ c ∈ t.constraints, (c.kind == .primary) = true →
      c.name = primaryConstraintName := by
    simpa using h.primary_named
  rw [primaryKey?, constraint?, Keyed.find?_of_named h.constraints_distinct hnamed]

/-- A represented constraint is found by its name, and is of its kind. -/
theorem Represents.kind_eq (h : t.Catalogued) (hrep : t.Represents parts keys) {c : Constraint}
    (hc : c ∈ listed parts keys) : ∃ known, t.constraint? c.name = some known ∧
      known.kind = c.kind := by
  rcases List.mem_append.mp hc with hc | hc
  · obtain ⟨part, hpart, rfl⟩ := List.mem_map.mp hc
    obtain ⟨hm, hplain⟩ := List.mem_filter.mp hpart
    cases hrole : part.role with
    | plain => simp [hrole] at hplain
    | unique =>
      rw [IndexPart.begun_of_unique hrole]
      exact ⟨_, hrep.unique part hm hrole, rfl⟩
    | primary =>
      have hmem : part.column ∈ primaryColumns parts :=
        List.mem_map_of_mem (List.mem_filter.mpr ⟨hm, by simpa using hrole⟩)
      have hprimary := hrep.primary
      rw [if_neg (List.ne_nil_of_mem hmem), h.primaryKey?_eq] at hprimary
      obtain ⟨known, hknown, _⟩ := Option.map_eq_some_iff.mp hprimary
      obtain ⟨hfound, hkind⟩ := Option.filter_eq_some_iff.mp hknown
      rw [IndexPart.begun_of_primary hrole]
      exact ⟨known, hfound, beq_iff_eq.mp hkind⟩
  · obtain ⟨key, hm, rfl⟩ := List.mem_map.mp hc
    have hforeign := hrep.foreign key hm
    cases hkeys : keys.filter (·.name == key.name) with
    | nil => exact absurd hm (by simpa using List.filter_eq_nil_iff.mp hkeys key)
    | cons first rest =>
      rw [hkeys] at hforeign
      exact ⟨_, hforeign, rfl⟩

theorem Represents.namesApart (h : t.Catalogued) (hrep : t.Represents parts keys) :
    NamesApart parts keys := by
  intro c hc other ho hname
  obtain ⟨known, hknown, hkind⟩ := hrep.kind_eq h hc
  obtain ⟨known', hknown', hkind'⟩ := hrep.kind_eq h ho
  rw [hname, hknown'] at hknown
  obtain rfl := Option.some.inj hknown
  exact hkind.symm.trans hkind'

theorem Catalogued.represents_iff (h : t.Catalogued)
    (hrecorded : ∀ name, t.constraint? name = recorded? parts keys name) :
    t.Represents parts keys ↔ NamesApart parts keys ∧ ColumnsApart parts := by
  have hprimary : NamesApart parts keys → primaryColumns parts ≠ [] →
      t.primaryKey? = some ((primaryColumns parts).foldl appendNew []) := by
    intro hnames hsome
    rw [h.primaryKey?_eq, hrecorded, recorded?_primary hnames hsome]
    rfl
  constructor
  · intro hrep
    have hnames := hrep.namesApart h
    -- a column is folded once, so a list that is found whole has no column twice
    refine ⟨hnames, ?_, fun part hm hrole => ?_⟩
    · by_cases hnone : primaryColumns parts = []
      · rw [hnone]
        exact List.nodup_nil
      · have hcolumns := hrep.primary
        rw [if_neg hnone, hprimary hnames hnone] at hcolumns
        exact foldl_appendNew_eq_iff.mp (Option.some.inj hcolumns)
    · have hunique := hrep.unique part hm hrole
      rw [hrecorded, recorded?_unique hnames hm hrole] at hunique
      exact foldl_appendNew_eq_iff.mp (congrArg Constraint.columns (Option.some.inj hunique))
  · rintro ⟨hnames, hcolumns⟩
    refine ⟨?_, fun part hm hrole => ?_, fun key hm => ?_⟩
    · split
      next hnone =>
        rw [h.primaryKey?_eq]
        cases hc : t.constraint? primaryConstraintName with
        | none => rfl
        | some c =>
          rw [hrecorded] at hc
          simp [Option.filter, recorded?_not_primary hnone hc]
      next hsome => rw [hprimary hnames hsome, foldl_appendNew_eq_iff.mpr hcolumns.primary]
    · rw [hrecorded, recorded?_unique hnames hm hrole,
        foldl_appendNew_eq_iff.mpr (hcolumns.unique part hm hrole)]
    · rw [hrecorded, recorded?_of_key hm]

theorem Catalogued.addColumns (h : t.Catalogued) (columns : List Column) :
    (columns.foldl Table.addColumn t).Catalogued := by
  induction columns generalizing t with
  | nil => exact h
  | cons column columns ih => exact ih (h.addColumn column)

theorem constraints_addColumns (columns : List Column) :
    (columns.foldl Table.addColumn t).constraints = t.constraints := by
  induction columns generalizing t with
  | nil => rfl
  | cons column columns ih => exact ih

theorem mem_columnNames_addColumns {name : String} {columns : List Column}
    (h : name ∈ t.columnNames ∨ name ∈ columns.map Column.name) :
    name ∈ (columns.foldl Table.addColumn t).columnNames := by
  induction columns generalizing t with
  | nil => simpa using h
  | cons column columns ih =>
    refine ih ?_
    rw [List.map_cons, List.mem_cons, ← or_assoc] at h
    refine h.imp_left fun h => ?_
    exact Keyed.mem_keys_put.mpr h.symm

end Table

namespace Dialect

variable {d : Dialect} {t : Table} {row : Row}

theorem updates_foldIndex {part : IndexPart} (h : t.Catalogued)
    (hpart : d.indexPart? row = some part) (hcolumn : part.column ∈ t.columnNames) :
    Updates t (d.foldIndex t row) part.slot? (part.begun.joined part.column) := by
  rw [foldIndex_of_part hpart]
  exact Table.updates_foldPart h hcolumn

theorem updates_foldForeignKey {key : ForeignKeyPart} (h : t.Catalogued)
    (hkey : d.keyPart? row = some key) (hcolumn : key.column ∈ t.columnNames) :
    Updates t (d.foldForeignKey t row) (some key.name) key.extend := by
  rw [foldForeignKey_of_part hkey]
  exact Table.updates_foldForeignKey h hcolumn

/-- Folds an index listing, then a foreign key listing. -/
def foldListings (d : Dialect) (t : Table) (rows keyRows : List Row) : Folding :=
  (ofRows d.foldIndex t rows).andThen fun t => ofRows d.foldForeignKey t keyRows

/-- Of listings whose rows name columns of a table, the table keeps every constraint as it is listed
just where no name is that of two kinds of constraint and no index covers a column twice. -/
theorem foldListings_represents_iff (d : Dialect) (name : String) (columns : List Column)
    (rows keyRows : List Row)
    (hrows : ∀ row ∈ rows, ∃ part ∈ d.indexPart? row, part.column ∈ columns.map Column.name)
    (hkeys : ∀ row ∈ keyRows, ∃ key ∈ d.keyPart? row, key.column ∈ columns.map Column.name) :
    let f := d.foldListings (columns.foldl Table.addColumn { name }) rows keyRows
    let parts := rows.filterMap d.indexPart?
    let keys := keyRows.filterMap d.keyPart?
    f.error? = none ∧
      (f.table.Represents parts keys ↔ NamesApart parts keys ∧ ColumnsApart parts) := by
  intro f parts keys
  have hnames : ∀ x ∈ columns.map Column.name,
      x ∈ (columns.foldl Table.addColumn { name }).columnNames :=
    fun x hx => Table.mem_columnNames_addColumns (.inr hx)
  have hparts : ∀ row ∈ rows, ∃ part, d.indexPart? row = some part ∧
      part.column ∈ (columns.foldl Table.addColumn { name }).columnNames := by
    intro row hm
    obtain ⟨part, hpart, hcolumn⟩ := hrows row hm
    exact ⟨part, hpart, hnames _ hcolumn⟩
  obtain ⟨hindexed, hcatalogued, hcolumns, hindexes⟩ :=
    constraint?_ofRows (updates_foldIndex (d := d)) ((Table.Catalogued.new name).addColumns columns)
      hparts
  have hkeyParts : ∀ row ∈ keyRows, ∃ key, d.keyPart? row = some key ∧ key.column ∈
      (ofRows d.foldIndex (columns.foldl Table.addColumn { name }) rows).table.columnNames := by
    intro row hm
    obtain ⟨key, hkey, hcolumn⟩ := hkeys row hm
    rw [Table.columnNames, hcolumns]
    exact ⟨key, hkey, hnames _ hcolumn⟩
  obtain ⟨hkeyed, hcatalogued', _, hforeign⟩ :=
    constraint?_ofRows (updates_foldForeignKey (d := d)) hcatalogued hkeyParts
  obtain ⟨htable, herror⟩ := andThen_of_ok hindexed fun t => ofRows d.foldForeignKey t keyRows
  rw [← foldListings] at htable herror
  refine ⟨herror.trans hkeyed, ?_⟩
  rw [htable]
  refine hcatalogued'.represents_iff fun name => ?_
  rw [hforeign, hindexes, Table.constraint?, Table.constraints_addColumns]
  rfl

/-- A foreign key may have the name of a plain index. -/
theorem foldListings_represents_iff_sharedName :
    let columns : List Column :=
      ["tenant", "id", "email", "owner"].map fun name => { name, type := .integer }
    let index (name column : String) (nonUnique : Int) : Row :=
      [("INDEX_NAME", .str name), ("COLUMN_NAME", .str column), ("NON_UNIQUE", .int nonUnique)]
    let key (column referenced : String) : Row :=
      [("CONSTRAINT_NAME", .str "owner"), ("COLUMN_NAME", .str column),
       ("REFERENCED_TABLE_NAME", .str "users"), ("REFERENCED_COLUMN_NAME", .str referenced)]
    let rows :=
      [index "PRIMARY" "tenant" 0, index "PRIMARY" "id" 0, index "login" "tenant" 0,
       index "login" "email" 0, index "owner" "tenant" 1, index "owner" "owner" 1]
    let keyRows := [key "tenant" "tenant", key "owner" "id"]
    let f := mysql.foldListings (columns.foldl Table.addColumn { name := "t" }) rows keyRows
    (∀ row ∈ rows, ∃ part ∈ mysql.indexPart? row, part.column ∈ columns.map Column.name) ∧
      (∀ row ∈ keyRows, ∃ key ∈ mysql.keyPart? row, key.column ∈ columns.map Column.name) ∧
      f.error? = none ∧
      f.table.Represents (rows.filterMap mysql.indexPart?) (keyRows.filterMap mysql.keyPart?) := by
  intro columns index key rows keyRows f
  have hrows : ∀ row ∈ rows, ∃ part ∈ mysql.indexPart? row,
      part.column ∈ columns.map Column.name := by decide +kernel
  have hkeys : ∀ row ∈ keyRows, ∃ key ∈ mysql.keyPart? row,
      key.column ∈ columns.map Column.name := by decide +kernel
  obtain ⟨herror, hrepresents⟩ :=
    foldListings_represents_iff mysql "t" columns rows keyRows hrows hkeys
  refine ⟨hrows, hkeys, herror, hrepresents.mpr ⟨?_, ?_, ?_⟩⟩
  · decide +kernel
  · decide +kernel
  · decide +kernel

/-- A unique index by the name of primary keys joins the primary key, and a foreign key by the name
of a unique index takes its place. -/
theorem foldListings_mixes :
    let columns : List Column := ["id", "email"].map fun name => { name, type := .integer }
    let t := columns.foldl Table.addColumn { name := "t" }
    let index (name column : String) (primary : Bool) : Row :=
      [("name", .str name), ("column_name", .str column), ("is_primary", .bool primary),
       ("is_unique", .bool true), ("method", .str "btree")]
    let key : Row :=
      [("name", .str "login"), ("column_name", .str "email"), ("referenced_table", .str "users"),
       ("referenced_column", .str "email")]
    let joined :=
      postgresql.foldListings t [index "t_pkey" "id" true, index "primary" "email" false] []
    let replaced := postgresql.foldListings t [index "login" "email" false] [key]
    (joined.error? = none ∧ joined.table.primaryKey? = some ["id", "email"] ∧
      ∀ c ∈ joined.table.constraints, c.kind ≠ .unique) ∧
    (replaced.error? = none ∧ ∀ c ∈ replaced.table.constraints, c.kind ≠ .unique) := by
  decide +kernel

end Dialect

end PortableSql

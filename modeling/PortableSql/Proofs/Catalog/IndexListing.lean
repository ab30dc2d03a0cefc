import PortableSql.Proofs.Catalog.Indexes

namespace PortableSql

open Folding

/-- Indexes are told apart by their names: parts of one name have one role, and only a primary key
has the name of primary keys. -/
structure IndexesApart (parts : List IndexPart) : Prop where
  role_eq : ∀ part ∈ parts, ∀ other ∈ parts, part.name = other.name → part.role = other.role
  reserved : ∀ part ∈ parts, part.name = Table.primaryConstraintName → part.role = .primary

theorem IndexesApart.role_eq_of_label {parts : List IndexPart} (h : IndexesApart parts) :
    ∀ part ∈ parts, ∀ other ∈ parts, part.label = other.label → part.role = other.role := by
  intro part hm other ho hlabel
  unfold IndexPart.label at hlabel
  split at hlabel
  next hpart =>
    split at hlabel
    next hother => rw [hpart, hother]
    next hother => exact absurd (h.reserved other ho hlabel.symm) hother
  next hpart =>
    split at hlabel
    next => exact absurd (h.reserved part hm hlabel) hpart
    next => exact h.role_eq part hm other ho hlabel

theorem IndexesApart.of_subset {parts more : List IndexPart} (h : IndexesApart more)
    (hs : parts ⊆ more) : IndexesApart parts where
  role_eq part hm other ho := h.role_eq part (hs hm) other (hs ho)
  reserved part hm := h.reserved part (hs hm)

namespace Table

variable {t : Table}

/-- The table with what the parts of an index listing give: for each index a constraint or a plain
index, in the order in which the indexes first appear. -/
def withIndexes (t : Table) (parts : List IndexPart) : Table :=
  let labels := distinct (parts.map IndexPart.label)
  { t with
    constraints := labels.filterMap fun label => constraintOf? (parts.filter (·.label = label))
    indexes := labels.filterMap fun label => plainIndexOf? (parts.filter (·.label = label)) }

theorem foldl_takePart_of_bare (bare : t.Bare) {parts : List IndexPart}
    (apart : IndexesApart parts) : parts.foldl takePart t = t.withIndexes parts := by
  have hrole := apart.role_eq_of_label
  have hgroup : ∀ label, ∀ part ∈ parts.filter (·.label = label),
      ∀ other ∈ parts.filter (·.label = label), part.role = other.role := by
    intro label part hm other ho
    obtain ⟨hm, hpart⟩ := List.mem_filter.mp hm
    obtain ⟨ho, hother⟩ := List.mem_filter.mp ho
    exact hrole part hm other ho ((of_decide_eq_true hpart).trans (of_decide_eq_true hother).symm)
  rw [foldl_takePart, bare.constraints_eq, bare.indexes_eq,
    Keyed.foldl_take IndexPart.join_keepsSlot, Keyed.foldl_take IndexPart.grow_keepsSlot,
    filterMap_distinct_filter (by
      intro part hm other ho hlabel
      rw [hrole part hm other ho hlabel]) rfl,
    filterMap_distinct_filter (by
      intro part hm other ho hlabel
      rw [hrole part hm other ho hlabel]) rfl, withIndexes]
  simp only [gather?_join_filter (hgroup _), gather?_grow_filter (hgroup _)]

/-- The order of the indexes is all that interleaving can change. -/
theorem withIndexes_perm {parts others : List IndexPart}
    (h : Interleaved IndexPart.label parts others) :
    (t.withIndexes others).constraints.Perm (t.withIndexes parts).constraints ∧
      (t.withIndexes others).indexes.Perm (t.withIndexes parts).indexes := by
  have hlabels : (distinct (others.map IndexPart.label)).Perm
      (distinct (parts.map IndexPart.label)) := distinct_perm fun _ => h.mem_labels_iff.symm
  unfold Interleaved at h
  constructor
  · simp only [withIndexes, ← h]
    exact hlabels.filterMap _
  · simp only [withIndexes, ← h]
    exact hlabels.filterMap _

end Table

namespace Sqlite

/-- The part of an index that a row gives, unless it is one of the primary key. -/
def indexPart? (row : Row) : Option IndexPart :=
  if row.text? "origin" = some "pk" then none
  else
    (row.text? "name").bind fun name =>
    (row.text? "column_name").map fun column =>
      { name, column
        role := if row.saysYes "is_unique" then .unique else .plain
        kind := .plain
        length := none }

theorem foldIndex_of_part {t : Table} {row : Row} {part : IndexPart}
    (h : indexPart? row = some part) : foldIndex t row = t.foldPart part := by
  unfold indexPart? at h
  split at h
  next => cases h
  next hkey =>
    obtain ⟨name, hname, h⟩ := Option.bind_eq_some_iff.mp h
    obtain ⟨column, hcolumn, rfl⟩ := Option.map_eq_some_iff.mp h
    rw [foldIndex, if_neg hkey, Table.withText_of_some hname, hcolumn, Table.foldPart, Row.isTrue_eq]
    by_cases hunique : row.saysYes "is_unique" = true
    · simp [hunique]
    · simp [hunique]

end Sqlite

namespace Dialect

variable {d : Dialect} {t : Table}

/-- The part of an index that a row of the product's index listing gives. -/
def listedPart? (d : Dialect) (row : Row) : Option IndexPart :=
  match d with
  | sqlite => Sqlite.indexPart? row
  | _ => d.indexPart? row

theorem foldIndex_of_listed {row : Row} {part : IndexPart} (h : d.listedPart? row = some part) :
    d.foldIndex t row = t.foldPart part := by
  cases d with
  | sqlite => exact Sqlite.foldIndex_of_part h
  | mysql | postgresql | sqlserver => exact foldIndex_of_part h

/-- What tells the index of a row from others. -/
def indexLabel? (d : Dialect) (row : Row) : Option String :=
  (d.listedPart? row).map IndexPart.label

/-- The parts that a listing gives for columns of the table. -/
def partsOn (d : Dialect) (t : Table) (rows : List Row) : List IndexPart :=
  (rows.filterMap d.listedPart?).filter (t.hasColumn ·.column)

theorem foldIndex_takes {u : Table} (h : u.Catalogued) (hu : u.columns = t.columns) {row : Row}
    {part : IndexPart} (hpart : d.listedPart? row = some part) :
    Takes id Table.takePart u (d.foldIndex u row)
      ((d.listedPart? row).filter (t.hasColumn ·.column)) := by
  rw [foldIndex_of_listed hpart, hpart, ← Table.hasColumn_congr hu]
  exact Table.takes_foldPart h part

theorem foldIndexes_eq (bare : t.Bare) {rows : List Row}
    (listed : ∀ row ∈ rows, (d.listedPart? row).isSome)
    (apart : IndexesApart (rows.filterMap d.listedPart?)) :
    (ofRows d.foldIndex t rows).error? = none ∧
      (ofRows d.foldIndex t rows).table = t.withIndexes (d.partsOn t rows) := by
  have htake : ∀ {u : Table}, u.Catalogued → u.columns = t.columns → ∀ row ∈ rows,
      Takes id Table.takePart u (d.foldIndex u row)
        ((d.listedPart? row).filter (t.hasColumn ·.column)) := by
    intro u h hu row hm
    obtain ⟨part, hpart⟩ := Option.isSome_iff_exists.mp (listed row hm)
    exact foldIndex_takes h hu hpart
  obtain ⟨herror, htable⟩ := takes_ofRows htake bare.catalogued rfl
  refine ⟨herror, ?_⟩
  rw [id, id, ← List.filter_filterMap] at htable
  rw [htable]
  exact Table.foldl_takePart_of_bare bare (apart.of_subset fun _ hm => (List.mem_filter.mp hm).1)

/-- Of a listing whose indexes are told apart by their names, each index with a column on the table
becomes one constraint or one plain index with those columns, and nothing else changes; how the rows
of different indexes are interleaved does not matter. -/
theorem foldIndexes_groups (d : Dialect) {t : Table} (bare : t.Bare) {rows : List Row}
    (listed : ∀ row ∈ rows, (d.listedPart? row).isSome)
    (apart : IndexesApart (rows.filterMap d.listedPart?)) :
    let f := ofRows d.foldIndex t rows
    f.error? = none ∧ f.table = t.withIndexes (d.partsOn t rows) ∧
      ∀ others, Interleaved d.indexLabel? rows others →
        let g := ofRows d.foldIndex t others
        g.error? = none ∧ g.table.constraints.Perm f.table.constraints ∧
          g.table.indexes.Perm f.table.indexes := by
  intro f
  obtain ⟨herror, htable⟩ := foldIndexes_eq bare listed apart
  refine ⟨herror, htable, fun others h => ?_⟩
  -- the other listing has the same rows, so all that is asked of the one holds of it
  have hlisted : ∀ row ∈ others, (d.listedPart? row).isSome :=
    fun row hm => listed row (h.mem_iff.mpr hm)
  have hsubset : others.filterMap d.listedPart? ⊆ rows.filterMap d.listedPart? := by
    intro part hm
    obtain ⟨row, hrow, hpart⟩ := List.mem_filterMap.mp hm
    exact List.mem_filterMap.mpr ⟨row, h.mem_iff.mpr hrow, hpart⟩
  obtain ⟨herror', htable'⟩ := foldIndexes_eq bare hlisted (apart.of_subset hsubset)
  refine ⟨herror', ?_⟩
  rw [htable', htable]
  exact Table.withIndexes_perm (h.parts.filter _)

/-- A column that is listed twice is covered once, and one that is not on the table is passed
over. Where a product marks the rows, the marks say what an index is for. -/
theorem foldIndexes_groups_twice :
    let t : Table :=
      { name := "t", columns := ["id", "title", "email"].map fun name => { name, type := .text } }
    let row (name column : String) (nonUnique : Int) (length : Json) : Row :=
      [("INDEX_NAME", .str name), ("COLUMN_NAME", .str column), ("NON_UNIQUE", .int nonUnique),
       ("SUB_PART", length)]
    let rest :=
      [row "by_title" "title" 1 .null, row "PRIMARY" "id" 0 .null, row "login" "email" 0 .null,
       row "by_title" "email" 1 .null]
    let rows := row "login" "tenant" 0 .null :: row "by_title" "title" 1 (.int 10) :: rest
    let others := row "by_title" "title" 1 (.int 10) :: row "login" "tenant" 0 .null :: rest
    let f := ofRows mysql.foldIndex t rows
    let g := ofRows mysql.foldIndex t others
    t.Bare ∧ (∀ row ∈ rows, (mysql.listedPart? row).isSome) ∧
      IndexesApart (rows.filterMap mysql.listedPart?) ∧
      Interleaved mysql.indexLabel? rows others ∧
      (f.table.constraints.map fun c => (c.name, c.kind, c.columns)) =
        [("primary", .primary, ["id"]), ("login", .unique, ["email"])] ∧
      (f.table.indexes.map fun i => (i.name, i.columns, i.lengths)) =
        [("by_title", ["title", "email"], [("title", 10)])] ∧
      g.table.constraints.Perm f.table.constraints ∧ g.table.indexes.Perm f.table.indexes ∧
      (let marked (name column : String) (primary unique : Json) : Row :=
        [("name", .str name), ("column_name", .str column), ("is_primary", primary),
         ("is_unique", unique), ("method", .str "btree")]
      let rows :=
        [marked "t_pkey" "id" (.bool true) (.bool true), marked "login" "email" (.int 0) (.str " T"),
         marked "by_title" "title" .null (.str "f"), marked "login" "id" (.int 0) (.int 1)]
      let f := ofRows postgresql.foldIndex t rows
      (f.table.constraints.map fun c => (c.name, c.kind, c.columns)) =
          [("primary", .primary, ["id"]), ("login", .unique, ["email", "id"])] ∧
        (f.table.indexes.map fun i => (i.name, i.columns)) = [("by_title", ["title"])]) := by
  intro t row rest rows others f g
  have bare : t.Bare := ⟨by decide, rfl, rfl⟩
  have hlisted : ∀ row ∈ rows, (mysql.listedPart? row).isSome := by decide +kernel
  have hrole : ∀ part ∈ rows.filterMap mysql.listedPart?,
      ∀ other ∈ rows.filterMap mysql.listedPart?, part.name = other.name →
        part.role = other.role := by decide +kernel
  have hreserved : ∀ part ∈ rows.filterMap mysql.listedPart?,
      part.name = Table.primaryConstraintName → part.role = .primary := by decide +kernel
  have hinterleaved : Interleaved mysql.indexLabel? rows others :=
    interleaved_swap (by decide +kernel)
  obtain ⟨_, htable, hothers⟩ := foldIndexes_groups mysql bare hlisted ⟨hrole, hreserved⟩
  obtain ⟨_, hconstraints, hindexes⟩ := hothers others hinterleaved
  refine ⟨bare, hlisted, ⟨hrole, hreserved⟩, hinterleaved, ?_, ?_, hconstraints, hindexes, ?_⟩
  · rw [htable]
    decide +kernel
  · rw [htable]
    decide +kernel
  · intro marked rows f
    have hapart : IndexesApart (rows.filterMap postgresql.listedPart?) :=
      ⟨by decide +kernel, by decide +kernel⟩
    obtain ⟨_, htable, _⟩ := foldIndexes_groups postgresql bare (by decide +kernel) hapart
    rw [htable]
    decide +kernel

end Dialect

end PortableSql

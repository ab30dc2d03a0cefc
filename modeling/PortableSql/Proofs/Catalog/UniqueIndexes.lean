import PortableSql.Proofs.Catalog.IndexListing

namespace PortableSql

open Folding

/-- Texts are all kept just where each entry has one that is asked for and none comes twice. -/
theorem length_distinct_filter_iff {α : Type} {text? : α → Option String} {p : String → Bool}
    {xs : List α} :
    (distinct ((xs.filterMap text?).filter p)).length = xs.length ↔
      (∀ x ∈ xs, (text? x).any p = true) ∧ (xs.filterMap text?).Nodup := by
  have hdistinct := (distinct_sublist ((xs.filterMap text?).filter p)).length_le
  have hfilter := List.length_filter_le p (xs.filterMap text?)
  have htexts := List.length_filterMap_le text? xs
  constructor
  · intro h
    -- what is kept is not more than any of the lists between, so these are all of one length
    have hall : ∀ x ∈ xs, (text? x).isSome :=
      List.filterMap_length_eq_length.mp (by omega)
    have hp : ∀ text ∈ xs.filterMap text?, p text = true :=
      List.length_filter_eq_length_iff.mp (by omega)
    have hnodup : ((xs.filterMap text?).filter p).Nodup := length_distinct_iff.mp (by omega)
    refine ⟨fun x hx => ?_, by rwa [List.filter_eq_self.mpr hp] at hnodup⟩
    obtain ⟨text, htext⟩ := Option.isSome_iff_exists.mp (hall x hx)
    rw [htext, Option.any_some]
    exact hp text (List.mem_filterMap.mpr ⟨x, hx, htext⟩)
  · rintro ⟨hall, hnodup⟩
    have hp : ∀ text ∈ xs.filterMap text?, p text = true := by
      intro text hm
      obtain ⟨x, hx, htext⟩ := List.mem_filterMap.mp hm
      have hany := hall x hx
      rwa [htext, Option.any_some] at hany
    have hlength : (xs.filterMap text?).length = xs.length := by
      refine List.filterMap_length_eq_length.mpr fun x hx => ?_
      obtain ⟨text, htext, _⟩ := (Option.any_eq_true _ _).mp (hall x hx)
      exact Option.isSome_iff_exists.mpr ⟨text, htext⟩
    rw [List.filter_eq_self.mpr hp, length_distinct_iff.mpr hnodup, hlength]

section

variable {parts : List IndexPart} {name : String}

theorem NamesApart.of_subset {more : List IndexPart} (h : NamesApart more []) (hs : parts ⊆ more) :
    NamesApart parts [] := by
  have hlisted : ∀ c ∈ listed parts [], c ∈ listed more [] := by
    intro c hm
    obtain ⟨part, hpart, rfl⟩ := List.mem_map.mp ((List.mem_append.mp hm).resolve_right (by simp))
    obtain ⟨hpart, hrole⟩ := List.mem_filter.mp hpart
    exact mem_listed_of_part (hs hpart) (by simpa using hrole)
  exact fun c hm other ho => h c (hlisted c hm) other (hlisted other ho)

/-- The parts of a unique index are all that its constraint is folded from. -/
theorem filter_label_of_unique (apart : NamesApart parts []) {part : IndexPart} (hm : part ∈ parts)
    (hrole : part.role = .unique) :
    (parts.filter (·.role ≠ .plain)).filter (·.label = part.name) =
      parts.filter fun other => other.role = .unique ∧ other.name = part.name := by
  have hlabel : ∀ {other : IndexPart}, other.role = .unique → other.label = other.name :=
    fun hother => IndexPart.label_eq_name (by simp [hother])
  rw [List.filter_filter]
  refine List.filter_congr fun other ho => ?_
  rw [Bool.eq_iff_iff, Bool.and_eq_true, decide_eq_true_iff, decide_eq_true_iff,
    decide_eq_true_iff]
  constructor
  · rintro ⟨hname, hother⟩
    have hnames : other.begun.name = part.begun.name := by
      rw [other.begun_name, part.begun_name, hname, hlabel hrole]
    have hunique : other.role = .unique :=
      (apart.role_eq ho hm hother (by simp [hrole]) hnames).trans hrole
    exact ⟨hunique, by rwa [hlabel hunique] at hname⟩
  · rintro ⟨hother, hname⟩
    exact ⟨by rw [hlabel hother, hname], by simp [hother]⟩

theorem constraintOf?_unique {part : IndexPart} (hm : part ∈ parts) (hrole : part.role = .unique) :
    constraintOf? (parts.filter fun other => other.role = .unique ∧ other.name = part.name) = some
      { name := part.name, kind := .unique,
        columns := distinct (uniqueColumns parts part.name) } := by
  cases hgroup : parts.filter fun other => other.role = .unique ∧ other.name = part.name with
  | nil => simpa [hrole] using List.filter_eq_nil_iff.mp hgroup part hm
  | cons first rest =>
    obtain ⟨_, hfirst⟩ := List.mem_filter.mp (hgroup ▸ List.mem_cons_self : first ∈ _)
    obtain ⟨hunique, hname⟩ := of_decide_eq_true hfirst
    rw [constraintOf?, if_neg (by simp [hunique]), IndexPart.begun_of_unique hunique, hname,
      uniqueColumns, hgroup]
    rfl

/-- The unique constraints that the parts of an index listing give. -/
theorem mem_constraints_unique_iff (t : Table) (apart : NamesApart parts []) {c : Constraint}
    (hkind : c.kind = .unique) :
    c ∈ (t.withIndexes (parts.filter (·.role ≠ .plain))).constraints ↔
      uniqueColumns parts c.name ≠ [] ∧
        c = { name := c.name, kind := .unique,
              columns := distinct (uniqueColumns parts c.name) } := by
  constructor
  · intro hm
    obtain ⟨label, _, hc⟩ := List.mem_filterMap.mp hm
    cases hgroup : (parts.filter (·.role ≠ .plain)).filter (·.label = label) with
    | nil =>
      rw [hgroup] at hc
      cases hc
    | cons first rest =>
      obtain ⟨hfirst, hlabel⟩ := List.mem_filter.mp (hgroup ▸ List.mem_cons_self : first ∈ _)
      obtain ⟨hfirst, hplain⟩ := List.mem_filter.mp hfirst
      have hrole : first.role = .unique := by
        rw [hgroup, constraintOf?, if_neg (by simpa using hplain)] at hc
        obtain rfl := Option.some.inj hc
        cases hrole : first.role with
        | unique => rfl
        | plain => simp [hrole] at hplain
        | primary => simp [IndexPart.begun_of_primary hrole] at hkind
      obtain rfl : first.name = label :=
        (IndexPart.label_eq_name (by simp [hrole])).symm.trans (of_decide_eq_true hlabel)
      rw [filter_label_of_unique apart hfirst hrole, constraintOf?_unique hfirst hrole] at hc
      obtain rfl := Option.some.inj hc
      refine ⟨List.ne_nil_of_mem (List.mem_map_of_mem (List.mem_filter.mpr ⟨hfirst, ?_⟩)), rfl⟩
      simp [hrole]
  · rintro ⟨hsome, hc⟩
    obtain ⟨column, hcolumn⟩ := List.exists_mem_of_ne_nil _ hsome
    obtain ⟨part, hpart, _⟩ := List.mem_map.mp hcolumn
    obtain ⟨hm, hpart⟩ := List.mem_filter.mp hpart
    obtain ⟨hrole, hname⟩ := of_decide_eq_true hpart
    refine List.mem_filterMap.mpr ⟨c.name, mem_distinct.mpr ?_, ?_⟩
    · refine List.mem_map.mpr ⟨part, List.mem_filter.mpr ⟨hm, by simp [hrole]⟩, ?_⟩
      rw [IndexPart.label_eq_name (by simp [hrole]), hname]
    · rw [hc, ← hname, filter_label_of_unique apart hm hrole, constraintOf?_unique hm hrole]

end

namespace Table

variable {t u : Table}

/-- Of what is taken into a table, parts of constraints are what its constraints are taken from. -/
theorem takes_constraints {f : Folding} {part? : Option IndexPart}
    (h : Takes id takePart u f part?) :
    Takes Table.constraints (Keyed.take Constraint.name IndexPart.label IndexPart.join) u f
      (part?.filter (·.role ≠ .plain)) := by
  refine ⟨h.ok, h.catalogued, h.columns_eq, ?_⟩
  have hview := h.view_eq
  rw [id] at hview
  rw [hview]
  cases part? with
  | none => rfl
  | some part =>
    rw [Option.elim_some, id, takePart]
    by_cases hrole : part.role = .plain
    · simp [hrole, Option.filter_some]
    · simp [hrole, Option.filter_some]

theorem takes_nothing (h : u.Catalogued) {σ α : Type} {view : Table → σ} {take : σ → α → σ} :
    Takes view take u { table := u } none :=
  ⟨rfl, h, rfl, rfl⟩

end Table

/-- Columns of a document go into a plain index only. -/
theorem Postgresql.foldDocument_takes {u : Table} (h : u.Catalogued) (name : String)
    (columns : List String) :
    Takes Table.constraints (Keyed.take Constraint.name IndexPart.label IndexPart.join) u
      (foldDocument u name columns) none := by
  induction columns generalizing u with
  | nil => exact Table.takes_nothing h
  | cons column columns ih =>
    let part : IndexPart := { name, column, role := .plain, kind := .fulltext, length := none }
    have hfirst := Table.takes_constraints (Table.takes_foldPart h part)
    have hplain : ((some part).filter (u.hasColumn ·.column)).filter (·.role ≠ .plain) = none := by
      by_cases hhas : u.hasColumn part.column = true
      · simp [Option.filter_some, hhas, part]
      · simp [Option.filter_some, hhas]
    rw [hplain] at hfirst
    obtain ⟨hok, hcat, hcolumns, hview⟩ := hfirst
    obtain ⟨htable, hnext⟩ := andThen_of_ok hok (foldDocument · name columns)
    obtain ⟨hok', hcat', hcolumns', hview'⟩ := ih hcat
    rw [foldDocument]
    exact ⟨hnext.trans hok', htable ▸ hcat', (htable ▸ hcolumns').trans hcolumns,
      (htable ▸ hview').trans hview⟩

/-- Whether a row of an index listing is for a column of the table. -/
def Table.has (t : Table) (key : Row) : Bool := (key.text? "column_name").any t.hasColumn

namespace Dialect

variable {d : Dialect} {t u : Table} {rows : List Row}

/-- Whether a row gives a key part of a unique index that is no primary key, of the two products
that list expressions among the key parts. -/
def isUniquePart (d : Dialect) (row : Row) : Bool :=
  match d with
  | postgresql => !row.saysYes "is_primary" && row.saysYes "is_unique"
  | sqlite => row.text? "origin" != some "pk" && row.saysYes "is_unique"
  | mysql | sqlserver => false

/-- The rows of the key parts of a unique index. -/
def keyParts (d : Dialect) (rows : List Row) (name : String) : List Row :=
  rows.filter fun row => d.isUniquePart row ∧ row.text? "name" = some name

theorem column_of_listedPart? (hd : d = postgresql ∨ d = sqlite) (row : Row) (name : String) :
    ((d.listedPart? row).filter fun part => part.role = .unique ∧ part.name = name).map
        IndexPart.column =
      if d.isUniquePart row ∧ row.text? "name" = some name then row.text? "column_name"
      else none := by
  rcases hd with rfl | rfl
  · cases hname : row.text? "name" with
    | none => simp [listedPart?, indexPart?, hname]
    | some known =>
      cases hcolumn : row.text? "column_name" with
      | none => simp [listedPart?, indexPart?, hname, hcolumn]
      | some column =>
        cases hprimary : row.saysYes "is_primary" <;> cases hunique : row.saysYes "is_unique" <;>
          simp [listedPart?, indexPart?, isUniquePart, hname, hcolumn, hprimary, hunique,
            Option.filter_some]
  · cases hname : row.text? "name" with
    | none => simp [listedPart?, Sqlite.indexPart?, hname]
    | some known =>
      cases hcolumn : row.text? "column_name" with
      | none => simp [listedPart?, Sqlite.indexPart?, hname, hcolumn]
      | some column =>
        by_cases hkey : row.text? "origin" = some "pk" <;>
          cases hunique : row.saysYes "is_unique" <;>
          simp [listedPart?, Sqlite.indexPart?, isUniquePart, hname, hcolumn, hkey, hunique,
            Option.filter_some]

/-- Of the key parts of a unique index its constraint gets the columns of the table. -/
theorem uniqueColumns_partsOn (hd : d = postgresql ∨ d = sqlite) (rows : List Row) (name : String) :
    uniqueColumns (d.partsOn t rows) name =
      ((d.keyParts rows name).filterMap (·.text? "column_name")).filter t.hasColumn := by
  have hcolumns : uniqueColumns (rows.filterMap d.listedPart?) name =
      (d.keyParts rows name).filterMap (·.text? "column_name") := by
    rw [uniqueColumns, List.filter_filterMap, List.map_filterMap, keyParts,
      List.filterMap_filter]
    refine List.filterMap_congr fun row _ => ?_
    simp only [column_of_listedPart? hd, decide_eq_true_eq]
  rw [← hcolumns, uniqueColumns, uniqueColumns, partsOn, List.filter_comm, List.filter_map]
  rfl

theorem foldIndex_takes_constraints (hd : d = postgresql ∨ d = sqlite) (h : u.Catalogued)
    (hu : u.columns = t.columns) {row : Row} (named : (row.text? "name").isSome) :
    Takes Table.constraints (Keyed.take Constraint.name IndexPart.label IndexPart.join) u
      (d.foldIndex u row)
      (((d.listedPart? row).filter (t.hasColumn ·.column)).filter (·.role ≠ .plain)) := by
  cases hpart : d.listedPart? row with
  | some part => exact hpart ▸ Table.takes_constraints (foldIndex_takes h hu hpart)
  | none =>
    obtain ⟨name, hname⟩ := Option.isSome_iff_exists.mp named
    rcases hd with rfl | rfl
    · have hcolumn : row.text? "column_name" = none := by
        simpa [listedPart?, indexPart?, hname] using hpart
      change Takes _ _ u (Postgresql.foldIndex u row) none
      rw [Postgresql.foldIndex, Table.withText_of_some hname, hcolumn]
      dsimp only
      split
      next => exact Postgresql.foldDocument_takes h name _
      next => exact Table.takes_nothing h
    · change Takes _ _ u (Sqlite.foldIndex u row) none
      rw [Sqlite.foldIndex]
      split
      next => exact Table.takes_nothing h
      next hkey =>
        have hcolumn : row.text? "column_name" = none := by
          simpa [listedPart?, Sqlite.indexPart?, hname, hkey] using hpart
        rw [Table.withText_of_some hname, hcolumn]
        exact Table.takes_nothing h

theorem foldIndexes_constraints (hd : d = postgresql ∨ d = sqlite) (bare : t.Bare)
    (named : ∀ row ∈ rows, (row.text? "name").isSome) :
    (ofRows d.foldIndex t rows).error? = none ∧
      (ofRows d.foldIndex t rows).table.constraints =
        (t.withIndexes ((d.partsOn t rows).filter (·.role ≠ .plain))).constraints := by
  have htake : ∀ {u : Table}, u.Catalogued → u.columns = t.columns → ∀ row ∈ rows,
      Takes Table.constraints (Keyed.take Constraint.name IndexPart.label IndexPart.join) u
        (d.foldIndex u row)
        (((d.listedPart? row).filter (t.hasColumn ·.column)).filter (·.role ≠ .plain)) :=
    fun h hu row hm => foldIndex_takes_constraints hd h hu (named row hm)
  obtain ⟨herror, hview⟩ := takes_ofRows htake bare.catalogued rfl
  refine ⟨herror, ?_⟩
  rw [← List.filter_filterMap, ← List.filter_filterMap, bare.constraints_eq,
    Keyed.foldl_take IndexPart.join_keepsSlot] at hview
  rw [hview]
  refine List.filterMap_congr fun label _ => gather?_join fun part hm => ?_
  simpa using (List.mem_filter.mp (List.mem_filter.mp hm).1).2

/-- Every unique constraint has as many columns as its index has key parts just where every unique
index with a column of the table has no other key part, be it an expression, a column that is not on
the table or one that comes twice. -/
theorem foldIndexes_unique_whole_iff (hd : d = postgresql ∨ d = sqlite) (bare : t.Bare)
    (named : ∀ row ∈ rows, (row.text? "name").isSome)
    (apart : NamesApart (rows.filterMap d.listedPart?) []) :
    let f := ofRows d.foldIndex t rows
    f.error? = none ∧
      ((∀ c ∈ f.table.constraints, c.kind = .unique →
          c.columns.length = (d.keyParts rows c.name).length) ↔
        ∀ name, (∃ key ∈ d.keyParts rows name, t.has key) →
          (∀ key ∈ d.keyParts rows name, t.has key) ∧
            ((d.keyParts rows name).filterMap (·.text? "column_name")).Nodup) := by
  intro f
  obtain ⟨herror, hconstraints⟩ := foldIndexes_constraints hd bare named
  refine ⟨herror, ?_⟩
  have hunique : ∀ c : Constraint, c.kind = .unique →
      (c ∈ f.table.constraints ↔ uniqueColumns (d.partsOn t rows) c.name ≠ [] ∧
        c = { name := c.name, kind := .unique,
              columns := distinct (uniqueColumns (d.partsOn t rows) c.name) }) := by
    intro c hkind
    rw [hconstraints]
    exact mem_constraints_unique_iff t (apart.of_subset List.filter_sublist.subset) hkind
  have hlength : ∀ name, (distinct (uniqueColumns (d.partsOn t rows) name)).length =
      (d.keyParts rows name).length ↔ (∀ key ∈ d.keyParts rows name, t.has key) ∧
        ((d.keyParts rows name).filterMap (·.text? "column_name")).Nodup := by
    intro name
    rw [uniqueColumns_partsOn hd]
    exact length_distinct_filter_iff
  have hsome : ∀ name, uniqueColumns (d.partsOn t rows) name ≠ [] ↔
      ∃ key ∈ d.keyParts rows name, t.has key := by
    intro name
    rw [uniqueColumns_partsOn hd]
    constructor
    · intro hne
      obtain ⟨column, hm⟩ := List.exists_mem_of_ne_nil _ hne
      obtain ⟨hm, hhas⟩ := List.mem_filter.mp hm
      obtain ⟨key, hkey, hcolumn⟩ := List.mem_filterMap.mp hm
      exact ⟨key, hkey, (Option.any_eq_true _ _).mpr ⟨column, hcolumn, hhas⟩⟩
    · rintro ⟨key, hkey, hhas⟩
      obtain ⟨column, hcolumn, hhas⟩ := (Option.any_eq_true _ _).mp hhas
      refine List.ne_nil_of_mem (List.mem_filter.mpr ⟨?_, hhas⟩)
      exact List.mem_filterMap.mpr ⟨key, hkey, hcolumn⟩
  constructor
  · intro hwhole name hkey
    let c : Constraint :=
      { name, kind := .unique, columns := distinct (uniqueColumns (d.partsOn t rows) name) }
    have hm : c ∈ f.table.constraints := (hunique c rfl).mpr ⟨(hsome name).mpr hkey, rfl⟩
    exact (hlength name).mp (hwhole c hm rfl)
  · intro hall c hm hkind
    obtain ⟨hne, hc⟩ := (hunique c hkind).mp hm
    rw [hc]
    exact (hlength c.name).mpr (hall c.name ((hsome c.name).mp hne))

/-- An index over an expression alone is passed over. -/
theorem foldIndexes_unique_whole_iff_expression :
    let t : Table :=
      { name := "t", columns := ["id", "tenant", "email"].map fun name => { name, type := .text } }
    let row (name : String) (primary : Bool) (column : Json) : Row :=
      [("name", .str name), ("is_primary", .bool primary), ("is_unique", .bool true),
       ("method", .str "btree"), ("column_name", column), ("expression", .str "lower(title)")]
    let rows :=
      [row "t_pkey" true (.str "id"), row "login" false (.str "tenant"),
       row "lower_title_idx" false .null, row "login" false (.str "email")]
    let f := ofRows postgresql.foldIndex t rows
    t.Bare ∧ (∀ row ∈ rows, (row.text? "name").isSome) ∧
      NamesApart (rows.filterMap postgresql.listedPart?) [] ∧ f.error? = none ∧
      (f.table.constraints.map fun c => (c.name, c.kind, c.columns)) =
        [("primary", .primary, ["id"]), ("login", .unique, ["tenant", "email"])] ∧
      ∀ c ∈ f.table.constraints, c.kind = .unique →
        c.columns.length = (postgresql.keyParts rows c.name).length := by
  intro t row rows f
  have bare : t.Bare := ⟨by decide, rfl, rfl⟩
  have hnamed : ∀ row ∈ rows, (row.text? "name").isSome := by decide +kernel
  have hapart : NamesApart (rows.filterMap postgresql.listedPart?) [] := by decide +kernel
  obtain ⟨herror, hwhole⟩ := foldIndexes_unique_whole_iff (.inl rfl) bare hnamed hapart
  refine ⟨bare, hnamed, hapart, herror, by decide +kernel, hwhole.mpr ?_⟩
  rintro name ⟨key, hm, hhas⟩
  obtain ⟨hm, hkey⟩ := List.mem_filter.mp hm
  obtain ⟨hunique, hname⟩ := of_decide_eq_true hkey
  have hlogin : ∀ key ∈ rows, postgresql.isUniquePart key = true → t.has key = true →
      key.text? "name" = some "login" := by decide +kernel
  obtain rfl := Option.some.inj ((hlogin key hm hunique hhas).symm.trans hname)
  decide +kernel

/-- A unique index over an expression and a column comes back as the column alone being unique. -/
theorem foldIndexes_unique_partial :
    let t : Table :=
      { name := "t", columns := ["tenant", "email"].map fun name => { name, type := .text } }
    let row (column : Json) : Row :=
      [("name", .str "login"), ("is_primary", .bool false), ("is_unique", .bool true),
       ("origin", .str "c"), ("method", .str "btree"), ("column_name", column),
       ("expression", .str "lower(email)")]
    let rows := [row .null, row (.str "tenant")]
    ∀ d ∈ [postgresql, sqlite],
      (d.keyParts rows "login").length = 2 ∧
        ((ofRows d.foldIndex t rows).table.constraints.map fun c => (c.name, c.kind, c.columns)) =
          [("login", .unique, ["tenant"])] := by
  decide +kernel

end Dialect

end PortableSql

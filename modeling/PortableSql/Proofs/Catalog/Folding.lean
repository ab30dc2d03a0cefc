import PortableSql.Catalog.Folding
import PortableSql.Proofs.Table.WellFormed

namespace PortableSql

namespace Table

/-- What folding catalog rows keeps of a table: no constraint but the one under the name of
introspected primary keys is primary. -/
structure Catalogued (t : Table) : Prop extends t.WellFormed where
  primary_named : ∀ c ∈ t.constraints, c.kind = .primary → c.name = primaryConstraintName

theorem Catalogued.new (name : String) : Catalogued { name } :=
  { WellFormed.new name with primary_named := by simp }

namespace Catalogued

variable {t changed : Table}

theorem addColumn (h : t.Catalogued) (column : Column) : (t.addColumn column).Catalogued :=
  { h.toWellFormed.addColumn column with primary_named := h.primary_named }

theorem addIndex (h : t.Catalogued) {i : Index}
    (hok : (Table.addIndex i).runOn t = (.ok (), changed)) : changed.Catalogued := by
  refine { h.toWellFormed.addIndex hok with primary_named := ?_ }
  obtain ⟨_, rfl⟩ := (guarded_addIndex t i).ok_iff.mp hok
  exact h.primary_named

/-- A primary key under the one name is never beside another. -/
theorem admits (h : t.Catalogued) {c : Constraint} (covers : Covers t.columnNames c.columns)
    (references : c.kind = .foreign → 2 ≤ c.references.length)
    (named : c.kind = .primary → c.name = primaryConstraintName) : t.Admits c :=
  ⟨covers, references, fun hc other ho hp => (h.primary_named other ho hp).trans (named hc).symm⟩

theorem addConstraint (h : t.Catalogued) {c : Constraint}
    (named : c.kind = .primary → c.name = primaryConstraintName)
    (hok : (Table.addConstraint c).runOn t = (.ok (), changed)) : changed.Catalogued := by
  refine { h.toWellFormed.addConstraint hok with primary_named := ?_ }
  obtain ⟨_, rfl⟩ := (guarded_addConstraint t c).ok_iff.mp hok
  intro other ho hp
  rcases (Keyed.mem_put h.constraints_distinct).mp ho with rfl | ⟨ho, _⟩
  · rw [kept_kind] at hp
    rw [kept_name]
    exact named hp
  · exact h.primary_named other ho hp

end Catalogued

end Table

/-- A folding leaves a table such as it found, under the same name, and has no error but that of a row
without a value that its reader needs. -/
structure Folding.Follows (t : Table) (f : Folding) : Prop where
  catalogued : f.table.Catalogued
  name_eq : f.table.name = t.name
  error : f.error? = none ∨ ∃ key, f.error? = some (t.missingValue key)

namespace Folding

open Table

variable {t changed : Table}

theorem follows_table (h : changed.Catalogued) (hn : changed.name = t.name) (events : List Event) :
    Follows t { table := changed, events } :=
  ⟨h, hn, .inl rfl⟩

theorem Follows.andThen {f : Folding} {next : Table → Folding} (h : Follows t f)
    (hnext : ∀ u : Table, u.Catalogued → Follows u (next u)) : Follows t (f.andThen next) := by
  unfold Folding.andThen
  split
  next => exact h
  next =>
    obtain ⟨hcat, hname, herror⟩ := hnext f.table h.catalogued
    refine ⟨hcat, hname.trans h.name_eq, ?_⟩
    unfold missingValue at herror ⊢
    rwa [h.name_eq] at herror

/-- A change that is not refused gives its table. -/
theorem ofChange_of_ok {change : Mutation Unit} (h : change.runOn t = (.ok (), changed)) :
    ofChange t change = { table := changed } := by
  rw [ofChange, h]

theorem follows_ofRows {step : Table → Row → Folding}
    (hstep : ∀ (u : Table) (row : Row), u.Catalogued → Follows u (step u row)) (h : t.Catalogued)
    (rows : List Row) : Follows t (ofRows step t rows) := by
  induction rows generalizing t with
  | nil => exact follows_table h rfl []
  | cons row rows ih => exact (hstep t row h).andThen fun u hu => ih hu

end Folding

namespace Table

open Folding

variable {t : Table} {row : Row} {name column : String}

theorem follows_withText (h : t.Catalogued) {key : String} {next : String → Folding}
    (hnext : ∀ text, Follows t (next text)) : Follows t (t.withText row key next) := by
  unfold withText
  split
  next text _ => exact hnext text
  next => exact ⟨h, rfl, .inr ⟨key, rfl⟩⟩

theorem follows_addColumn (h : t.Catalogued) (column : Column) :
    Follows t { table := t.addColumn column } :=
  ⟨h.addColumn column, rfl, .inl rfl⟩

theorem follows_addIndex (h : t.Catalogued) {i : Index} (fits : i.Fits t.columnNames) :
    Follows t (.ofChange t (addIndex i)) := by
  have hok := (guarded_addIndex t i).ok_iff.mpr ⟨fits, rfl⟩
  rw [ofChange_of_ok hok]
  exact ⟨h.addIndex hok, rfl, .inl rfl⟩

theorem follows_addConstraint (h : t.Catalogued) {c : Constraint}
    (covers : Covers t.columnNames c.columns)
    (references : c.kind = .foreign → 2 ≤ c.references.length)
    (named : c.kind = .primary → c.name = primaryConstraintName) :
    Follows t (.ofChange t (addConstraint c)) := by
  have hok := (guarded_addConstraint t c).ok_iff.mpr ⟨h.admits covers references named, rfl⟩
  rw [ofChange_of_ok hok]
  exact ⟨h.addConstraint named hok, rfl, .inl rfl⟩

theorem covers_joined {names columns joined : List String} (hs : columns ⊆ names)
    (hc : column ∈ names) (hj : ∀ x, x ∈ joined ↔ x = column ∨ x ∈ columns) :
    Covers names joined where
  nonempty := List.ne_nil_of_mem ((hj column).mpr (.inl rfl))
  subset x hx := by
    rcases (hj x).mp hx with rfl | hx
    · exact hc
    · exact hs hx

theorem mem_unless_contains {columns added : List String}
    (hadd : ∀ x, x ∈ added ↔ x = column ∨ x ∈ columns) (x : String) :
    x ∈ (if columns.contains column then columns else added) ↔ x = column ∨ x ∈ columns := by
  split
  next hold =>
    refine ⟨.inr, ?_⟩
    rintro (rfl | hx)
    · exact List.contains_iff_mem.mp hold
    · exact hx
  next => exact hadd x

theorem mem_append_singleton {columns : List String} (x : String) :
    x ∈ columns ++ [column] ↔ x = column ∨ x ∈ columns := by
  rw [List.mem_append, List.mem_singleton, Or.comm]

theorem foldIndex_follows (h : t.Catalogued) (name : String) (kind : IndexKind) (column : String)
    (length : Option UInt32) : Follows t (t.foldIndex name kind column length) := by
  unfold foldIndex
  split
  next => exact follows_table h rfl _
  next hhas =>
    have hcolumn : column ∈ t.columnNames := hasColumn_iff.mp (by simpa using hhas)
    -- what was folded before fits, and an index begun here covers nothing yet
    obtain ⟨hcovered, hlengths⟩ : ((t.index? name).getD { name, kind, columns := [] }).columns ⊆
        t.columnNames ∧ ((t.index? name).getD { name, kind, columns := [] }).lengths.keys ⊆
          ((t.index? name).getD { name, kind, columns := [] }).columns := by
      cases hi : t.index? name with
      | none => exact ⟨List.nil_subset _, List.nil_subset _⟩
      | some i =>
        have hfits := h.indexes_fit i (Keyed.mem_of_find? hi).1
        exact ⟨hfits.covers.subset, hfits.lengths⟩
    generalize (t.index? name).getD { name, kind, columns := [] } = i at hcovered hlengths
    have hjoined : ∀ x, x ∈ (if i.columns.contains column then i.columns
        else i.columns ++ [column]) ↔ x = column ∨ x ∈ i.columns :=
      mem_unless_contains mem_append_singleton
    refine follows_addIndex h ⟨covers_joined hcovered hcolumn hjoined, ?_⟩
    intro x hx
    refine (hjoined x).mpr ?_
    cases length with
    | none => exact .inr (hlengths hx)
    | some n => exact (SortedMap.mem_keys_insert.mp hx).imp_right fun hk => hlengths hk

theorem foldConstraint_follows (h : t.Catalogued) {name : String} {kind : ConstraintKind}
    (plain : kind ≠ .foreign) (named : kind = .primary → name = primaryConstraintName)
    (column : String) (place : Option Nat) :
    Follows t (t.foldConstraint name kind column place) := by
  unfold foldConstraint
  split
  next => exact follows_table h rfl _
  next hhas =>
    have hcolumn : column ∈ t.columnNames := hasColumn_iff.mp (by simpa using hhas)
    -- a constraint of any kind that is known by the name goes on as what it is
    obtain ⟨hcovered, hreferences, hnamed⟩ :
        ((t.constraint? name).getD { name, kind, columns := [] }).columns ⊆ t.columnNames ∧
        (((t.constraint? name).getD { name, kind, columns := [] }).kind = .foreign →
          2 ≤ ((t.constraint? name).getD { name, kind, columns := [] }).references.length) ∧
        (((t.constraint? name).getD { name, kind, columns := [] }).kind = .primary →
          ((t.constraint? name).getD { name, kind, columns := [] }).name =
            primaryConstraintName) := by
      cases hc : t.constraint? name with
      | none => exact ⟨List.nil_subset _, fun hf => absurd hf plain, named⟩
      | some c =>
        have hm := (Keyed.mem_of_find? hc).1
        have hfits := h.constraints_fit c hm
        exact ⟨hfits.covers.subset, hfits.references, h.primary_named c hm⟩
    generalize (t.constraint? name).getD { name, kind, columns := [] } = c
      at hcovered hreferences hnamed
    have hinserted : ∀ x, x ∈ c.columns.insertIdx
        (min (place.getD c.columns.length) c.columns.length) column ↔
          x = column ∨ x ∈ c.columns :=
      fun _ => List.mem_insertIdx (Nat.min_le_right _ _)
    exact follows_addConstraint h
      (covers_joined hcovered hcolumn (mem_unless_contains hinserted)) hreferences hnamed

theorem foldForeignKey_follows (h : t.Catalogued) (part : ForeignKeyPart) :
    Follows t (t.foldForeignKey part) := by
  unfold foldForeignKey
  split
  next => exact follows_table h rfl _
  next hhas =>
    have hcolumn : part.column ∈ t.columnNames := hasColumn_iff.mp (by simpa using hhas)
    have hone : Covers t.columnNames [part.column] := by
      refine ⟨by simp, ?_⟩
      intro x hx
      obtain rfl := List.mem_singleton.mp hx
      exact hcolumn
    cases hc : t.constraint? part.name with
    | none => exact follows_addConstraint h hone (by simp) (by simp)
    | some known =>
      dsimp only
      split
      next hforeign =>
        have hfits := h.constraints_fit known (Keyed.mem_of_find? hc).1
        refine follows_addConstraint h
          (covers_joined hfits.covers.subset hcolumn mem_append_singleton) ?_ ?_
        · intro _
          have hlength := hfits.references hforeign
          simp only [List.length_append]
          omega
        · exact fun hp => absurd (hforeign.symm.trans hp) (by decide)
      next => exact follows_addConstraint h hone (by simp) (by simp)

end Table

end PortableSql

import PortableSql.Proofs.Table.Editing

namespace PortableSql

theorem Covers.mono {names more columns : List String} (h : Covers names columns)
    (hs : ∀ name ∈ columns, name ∈ names → name ∈ more) : Covers more columns :=
  ⟨h.nonempty, fun name hm => hs name hm (h.subset hm)⟩

/-- A constraint that a table with the named columns may keep. -/
structure Constraint.Fits (names : List String) (c : Constraint) : Prop where
  covers : Covers names c.columns
  references : c.kind = .foreign → 2 ≤ c.references.length
  plain : c.kind ≠ .foreign → c.references = [] ∧ c.onUpdate = .restrict ∧ c.onDelete = .restrict

namespace Table

/-- What every operation on a table keeps. -/
structure WellFormed (t : Table) : Prop where
  columns_distinct : t.columnNames.Nodup
  indexes_distinct : (t.indexes.map Index.name).Nodup
  constraints_distinct : (t.constraints.map Constraint.name).Nodup
  indexes_fit : ∀ i ∈ t.indexes, i.Fits t.columnNames
  constraints_fit : ∀ c ∈ t.constraints, c.Fits t.columnNames
  one_primary : t.constraints.countP (·.kind == .primary) ≤ 1

theorem kept_name (c : Constraint) : (kept c).name = c.name := by
  unfold kept
  split <;> rfl

theorem kept_kind (c : Constraint) : (kept c).kind = c.kind := by
  unfold kept
  split <;> rfl

theorem Admits.kept_fits {t : Table} {c : Constraint} (h : t.Admits c) :
    (kept c).Fits t.columnNames := by
  obtain ⟨hcovers, hreferences, _⟩ := h
  unfold kept
  cases hk : c.kind with
  | foreign => exact ⟨hcovers, fun _ => hreferences hk, fun hne => absurd hk hne⟩
  | primary => exact ⟨hcovers, by simp, fun _ => ⟨rfl, rfl, rfl⟩⟩
  | unique => exact ⟨hcovers, by simp, fun _ => ⟨rfl, rfl, rfl⟩⟩

namespace WellFormed

variable {t changed : Table}

theorem new (name : String) : WellFormed { name } where
  columns_distinct := List.nodup_nil
  indexes_distinct := List.nodup_nil
  constraints_distinct := List.nodup_nil
  indexes_fit := by simp
  constraints_fit := by simp
  one_primary := by simp

/-- Other columns leave the rest of a table well-formed if they cover it still. -/
theorem withColumns (h : t.WellFormed) {columns : List Column}
    (distinct : (columns.map Column.name).Nodup)
    (indexed : ∀ i ∈ t.indexes, ∀ name ∈ i.columns, name ∈ t.columnNames →
      name ∈ columns.map Column.name)
    (constrained : ∀ c ∈ t.constraints, ∀ name ∈ c.columns, name ∈ t.columnNames →
      name ∈ columns.map Column.name) :
    WellFormed { t with columns } where
  columns_distinct := distinct
  indexes_distinct := h.indexes_distinct
  constraints_distinct := h.constraints_distinct
  indexes_fit i hi := ⟨(h.indexes_fit i hi).covers.mono (indexed i hi), (h.indexes_fit i hi).lengths⟩
  constraints_fit c hc :=
    ⟨(h.constraints_fit c hc).covers.mono (constrained c hc), (h.constraints_fit c hc).references,
      (h.constraints_fit c hc).plain⟩
  one_primary := h.one_primary

theorem addColumn (h : t.WellFormed) (column : Column) : (t.addColumn column).WellFormed := by
  have hkept : ∀ name ∈ t.columnNames,
      name ∈ (Keyed.put Column.name column t.columns).map Column.name :=
    fun name hn => Keyed.mem_keys_put.mpr (.inr hn)
  refine h.withColumns (Keyed.nodup_put h.columns_distinct) ?_ ?_
  · exact fun i _ name _ hn => hkept name hn
  · exact fun c _ name _ hn => hkept name hn

theorem removeColumn (h : t.WellFormed) {name : String}
    (hok : (Table.removeColumn name).runOn t = (.ok (), changed)) : changed.WellFormed := by
  obtain ⟨⟨_, hindexes, hconstraints⟩, rfl⟩ := (guarded_removeColumn t name).ok_iff.mp hok
  have hkept : ∀ other ∈ t.columnNames, other ≠ name →
      other ∈ (Keyed.erase Column.name name t.columns).map Column.name := by
    intro other ho hne
    rw [Keyed.keys_erase]
    exact List.mem_filter.mpr ⟨ho, by simpa using hne⟩
  refine h.withColumns ?_ ?_ ?_
  · rw [Keyed.keys_erase]
    exact h.columns_distinct.sublist List.filter_sublist
  · rintro i hi other ho hon
    refine hkept other hon ?_
    rintro rfl
    exact hindexes i hi ho
  · rintro c hc other ho hon
    refine hkept other hon ?_
    rintro rfl
    exact hconstraints c hc ho

theorem addIndex (h : t.WellFormed) {i : Index}
    (hok : (Table.addIndex i).runOn t = (.ok (), changed)) : changed.WellFormed := by
  obtain ⟨hfits, rfl⟩ := (guarded_addIndex t i).ok_iff.mp hok
  refine { h with indexes_distinct := Keyed.nodup_put h.indexes_distinct, indexes_fit := ?_ }
  intro j hj
  rcases (Keyed.mem_put h.indexes_distinct).mp hj with rfl | ⟨hj, _⟩
  · exact hfits
  · exact h.indexes_fit j hj

theorem addConstraint (h : t.WellFormed) {c : Constraint}
    (hok : (Table.addConstraint c).runOn t = (.ok (), changed)) : changed.WellFormed := by
  obtain ⟨hadmits, rfl⟩ := (guarded_addConstraint t c).ok_iff.mp hok
  have hdistinct : ((Keyed.put Constraint.name (kept c) t.constraints).map Constraint.name).Nodup :=
    Keyed.nodup_put h.constraints_distinct
  have hmem := fun other => Keyed.mem_put (y := other) (x := kept c) h.constraints_distinct
  refine { h with constraints_distinct := hdistinct, constraints_fit := ?_, one_primary := ?_ }
  · intro other ho
    rcases (hmem other).mp ho with rfl | ⟨ho, _⟩
    · exact hadmits.kept_fits
    · exact h.constraints_fit other ho
  · -- a primary key beside the new one would have its name, and so have given way
    have hbeside : c.kind = .primary → ∀ other ∈ t.constraints, other.kind = .primary →
        other.name = (kept c).name := by
      rw [kept_name]
      exact hadmits.sole
    refine (Keyed.countP_le_one_iff hdistinct).mpr ?_
    simp only [beq_iff_eq]
    intro x hx y hy hpx hpy
    rcases (hmem x).mp hx with rfl | ⟨hx, hxc⟩
    · rcases (hmem y).mp hy with rfl | ⟨hy, hyc⟩
      · rfl
      · rw [kept_kind] at hpx
        exact (hbeside hpx y hy hpy).symm
    · rcases (hmem y).mp hy with rfl | ⟨hy, hyc⟩
      · rw [kept_kind] at hpy
        exact hbeside hpy x hx hpx
      · have hsame := (Keyed.countP_le_one_iff h.constraints_distinct).mp h.one_primary
        simp only [beq_iff_eq] at hsame
        exact hsame x hx y hy hpx hpy

end WellFormed

end Table

/-- A call of an operation that changes a table. -/
inductive TableEdit where
  | addColumn (column : Column)
  | removeColumn (name : String)
  | addIndex (index : Index)
  | addConstraint (constraint : Constraint)
  | setOption (key value : String)
  | setOptions (options : SortedMap String)
  | setTemporary (temporary : Bool)

namespace TableEdit

def apply : TableEdit → Table.Mutation Unit
  | addColumn column => modify (·.addColumn column)
  | removeColumn name => Table.removeColumn name
  | addIndex index => Table.addIndex index
  | addConstraint constraint => Table.addConstraint constraint
  | setOption key value => modify (·.setOption key value)
  | setOptions options => modify (·.setOptions options)
  | setTemporary temporary => modify (·.setTemporary temporary)

theorem apply_wellFormed {t changed : Table} (h : t.WellFormed) (e : TableEdit)
    (hok : e.apply.runOn t = (.ok (), changed)) : changed.WellFormed := by
  cases e with
  | addColumn column =>
    cases hok
    exact h.addColumn column
  | removeColumn name => exact h.removeColumn hok
  | addIndex index => exact h.addIndex hok
  | addConstraint constraint => exact h.addConstraint hok
  | setOption key value =>
    cases hok
    exact { h with }
  | setOptions options =>
    cases hok
    exact { h with }
  | setTemporary temporary =>
    cases hok
    exact { h with }

/-- A refused call has changed nothing before it was refused. -/
theorem eq_of_refused {t left : Table} {fault : TableFault} (e : TableEdit)
    (hrefused : e.apply.runOn t = (.error fault, left)) : left = t := by
  cases e with
  | removeColumn name => exact (Table.guarded_removeColumn t name).eq_of_refused hrefused
  | addIndex index => exact (Table.guarded_addIndex t index).eq_of_refused hrefused
  | addConstraint constraint =>
    exact (Table.guarded_addConstraint t constraint).eq_of_refused hrefused
  | addColumn _ | setOption _ _ | setOptions _ | setTemporary _ => cases hrefused

end TableEdit

namespace Table

/-- The table after a call, which may have been refused. -/
def edit (t : Table) (e : TableEdit) : Table := (e.apply.runOn t).2

def editAll (t : Table) (edits : List TableEdit) : Table := edits.foldl edit t

theorem WellFormed.edit {t : Table} (h : t.WellFormed) (e : TableEdit) : (t.edit e).WellFormed := by
  unfold Table.edit
  cases hrun : e.apply.runOn t with
  | mk result after =>
    cases result with
    | ok => exact e.apply_wellFormed h hrun
    | error fault =>
      rw [e.eq_of_refused hrun]
      exact h

theorem WellFormed.editAll {t : Table} (h : t.WellFormed) (edits : List TableEdit) :
    (t.editAll edits).WellFormed := by
  induction edits generalizing t with
  | nil => exact h
  | cons e edits ih => exact ih (h.edit e)

/-- Whatever is done to a new table, and whatever of it is refused, the table stays well-formed. -/
theorem editAll_new_wellFormed (name : String) (edits : List TableEdit) :
    (editAll { name } edits).WellFormed :=
  (WellFormed.new name).editAll edits

end Table

end PortableSql

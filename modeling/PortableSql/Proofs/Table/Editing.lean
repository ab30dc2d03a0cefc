import PortableSql.Proofs.Keyed
import PortableSql.Table.Edit

namespace PortableSql

/-- Columns that an index or a constraint of a table with the named columns may cover. -/
structure Covers (names columns : List String) : Prop where
  nonempty : columns ≠ []
  subset : columns ⊆ names

/-- An index that a table with the named columns may have. -/
structure Index.Fits (names : List String) (i : Index) : Prop where
  covers : Covers names i.columns
  lengths : i.lengths.keys ⊆ i.columns

theorem find?_not_contains_eq_none {xs ys : List String} :
    xs.find? (!ys.contains ·) = none ↔ xs ⊆ ys := by
  rw [List.find?_eq_none]
  refine forall_congr' fun x => forall_congr' fun _ => ?_
  rw [Bool.not_eq_true, Bool.not_eq_false', List.contains_iff_mem]

namespace Table

namespace Mutation

variable {α β : Type}

theorem runOn_bind (x : Mutation α) (f : α → Mutation β) (t : Table) :
    (x >>= f).runOn t =
      match x.runOn t with
      | (.ok a, t) => (f a).runOn t
      | (.error fault, t) => (.error fault, t) := by
  simp only [runOn, ExceptT.run, bind, ExceptT.bind, ExceptT.mk, StateT.run, StateT.bind]
  rcases x t with ⟨_ | _, _⟩ <;> rfl

@[simp] theorem runOn_get (t : Table) : (get : Mutation Table).runOn t = (.ok t, t) := rfl

/-- A change that is made where it is allowed, and gives the one table then; anywhere else it is
refused, and the table stays as it was. -/
inductive Guarded (change : Mutation Unit) (t : Table) (allowed : Prop) (changed : Table) : Prop where
  | made (h : allowed) (run : change.runOn t = (.ok (), changed))
  | refused (h : ¬ allowed) (fault : TableFault) (run : change.runOn t = (.error fault, t))

namespace Guarded

variable {change next : Mutation Unit} {t changed u : Table} {allowed more : Prop}

theorem ok_iff (h : change.Guarded t allowed changed) :
    change.runOn t = (.ok (), u) ↔ allowed ∧ changed = u := by
  cases h with
  | made h run => simp [run, h]
  | refused h fault run => simp [run, h]

theorem eq_of_refused (h : change.Guarded t allowed changed) {fault : TableFault}
    (hrun : change.runOn t = (.error fault, u)) : u = t := by
  cases h with
  | made _ run => cases run.symm.trans hrun
  | refused _ _ run =>
    cases run.symm.trans hrun
    rfl

theorem congr (h : change.Guarded t allowed changed) (hiff : more ↔ allowed) :
    change.Guarded t more changed := by
  rwa [propext hiff]

/-- What is checked in front of a change is asked for as well. -/
theorem after_check (h : change.Guarded t allowed t) (hnext : next.Guarded t more changed) :
    Guarded (change >>= fun _ => next) t (allowed ∧ more) changed := by
  have hrun := runOn_bind change (fun _ => next) t
  cases h with
  | refused h fault run =>
    rw [run] at hrun
    exact .refused (fun hall => h hall.1) fault hrun
  | made h run =>
    rw [run] at hrun
    cases hnext with
    | made hmore run => exact .made ⟨h, hmore⟩ (hrun.trans run)
    | refused hmore fault run => exact .refused (fun hall => hmore hall.2) fault (hrun.trans run)

/-- A change that what is found forbids. -/
theorem unless_found {α : Type} {found? : Option α} (fault : α → TableFault)
    (hrun : change.runOn t =
      match found? with
      | some found => (.error (fault found), t)
      | none => (.ok (), changed)) :
    change.Guarded t (found? = none) changed := by
  cases found? with
  | none => exact .made rfl hrun
  | some found => exact .refused (by simp) (fault found) hrun

end Guarded

end Mutation

/-- What a constraint must meet for the table to take it. -/
structure Admits (t : Table) (c : Constraint) : Prop where
  covers : Covers t.columnNames c.columns
  references : c.kind = .foreign → 2 ≤ c.references.length
  sole : c.kind = .primary → ∀ other ∈ t.constraints, other.kind = .primary → other.name = c.name

variable {t changed : Table} {name : String}

theorem hasColumn_iff : t.hasColumn name = true ↔ name ∈ t.columnNames := Keyed.has_iff

theorem hasColumn_congr {u : Table} (h : u.columns = t.columns) : u.hasColumn = t.hasColumn := by
  funext column
  rw [hasColumn, hasColumn, h]

theorem column?_addColumn (t : Table) (c : Column) : (t.addColumn c).column? c.name = some c :=
  Keyed.find?_put c

theorem hasColumn_eq_contains : t.hasColumn name = t.columnNames.contains name := by
  rw [Bool.eq_iff_iff, hasColumn_iff, List.contains_iff_mem]

theorem guarded_checkColumns (t : Table) (owner : String) (columns : List String) :
    (checkColumns owner columns).Guarded t (Covers t.columnNames columns) t := by
  cases columns with
  | nil => exact .refused (fun h => h.nonempty rfl) (.noColumns owner) rfl
  | cons column rest =>
    have hcovers : Covers t.columnNames (column :: rest) ↔
        (column :: rest).find? (!t.hasColumn ·) = none := by
      simp only [hasColumn_eq_contains, find?_not_contains_eq_none]
      exact ⟨fun h => h.subset, fun h => ⟨List.cons_ne_nil _ _, h⟩⟩
    have hfound : (checkColumns owner (column :: rest)).Guarded t
        ((column :: rest).find? (!t.hasColumn ·) = none) t := by
      refine .unless_found (.unknownColumn owner) ?_
      simp only [checkColumns, Mutation.runOn_bind, Mutation.runOn_get, List.isEmpty_cons,
        Bool.false_eq_true, if_false]
      cases (column :: rest).find? (!t.hasColumn ·) <;> rfl
    exact hfound.congr hcovers

theorem guarded_addIndex (t : Table) (i : Index) :
    (addIndex i).Guarded t (i.Fits t.columnNames)
      { t with indexes := Keyed.put Index.name i t.indexes } := by
  have hfits : i.Fits t.columnNames ↔ Covers t.columnNames i.columns ∧
      i.lengths.keys.find? (!i.columns.contains ·) = none := by
    rw [find?_not_contains_eq_none]
    exact ⟨fun h => ⟨h.covers, h.lengths⟩, fun h => ⟨h.1, h.2⟩⟩
  refine .congr (.after_check (guarded_checkColumns t i.name i.columns) ?_) hfits
  refine .unless_found (.uncoveredLength i.name) ?_
  cases i.lengths.keys.find? (!i.columns.contains ·) <;> rfl

theorem constraintFault?_eq_none_iff {c : Constraint} :
    t.constraintFault? c = none ↔
      (c.kind = .foreign → 2 ≤ c.references.length) ∧
        (c.kind = .primary →
          ∀ other ∈ t.constraints, other.kind = .primary → other.name = c.name) := by
  unfold constraintFault?
  cases c.kind with
  | foreign =>
    simp only [ite_eq_right_iff, reduceCtorEq, imp_false, Nat.not_lt, forall_const, false_implies,
      and_true]
  | primary => simp
  | unique => simp

theorem guarded_addConstraint (t : Table) (c : Constraint) :
    (addConstraint c).Guarded t (t.Admits c)
      { t with constraints := Keyed.put Constraint.name (kept c) t.constraints } := by
  have hadmits : t.Admits c ↔ Covers t.columnNames c.columns ∧ t.constraintFault? c = none := by
    rw [constraintFault?_eq_none_iff]
    exact ⟨fun h => ⟨h.covers, h.references, h.sole⟩, fun h => ⟨h.1, h.2.1, h.2.2⟩⟩
  refine .congr (.after_check (guarded_checkColumns t c.name c.columns) ?_) hadmits
  refine .unless_found id ?_
  rw [Mutation.runOn_bind, Mutation.runOn_get]
  dsimp only
  cases t.constraintFault? c <;> rfl

theorem guarded_removeColumn (t : Table) (name : String) :
    (removeColumn name).Guarded t
      (name ∈ t.columnNames ∧ (∀ i ∈ t.indexes, name ∉ i.columns) ∧
        ∀ c ∈ t.constraints, name ∉ c.columns)
      { t with columns := Keyed.erase Column.name name t.columns } := by
  have hindexes : t.indexes.find? (·.columns.contains name) = none ↔
      ∀ i ∈ t.indexes, name ∉ i.columns := by
    simp
  have hconstraints : t.constraints.find? (·.columns.contains name) = none ↔
      ∀ c ∈ t.constraints, name ∉ c.columns := by
    simp
  rw [← hasColumn_iff, ← hindexes, ← hconstraints]
  have hrun : (removeColumn name).runOn t =
      if t.hasColumn name then
        match t.indexes.find? (·.columns.contains name),
          t.constraints.find? (·.columns.contains name) with
        | some index, _ => (.error (.usedByIndex name index.name), t)
        | none, some constraint => (.error (.usedByConstraint name constraint.name), t)
        | none, none => (.ok (), { t with columns := Keyed.erase Column.name name t.columns })
      else (.error (.undefinedColumn name), t) := by
    rw [removeColumn, Mutation.runOn_bind, Mutation.runOn_get]
    dsimp only
    cases t.hasColumn name with
    | false => rfl
    | true =>
      cases t.indexes.find? (·.columns.contains name) with
      | some index => rfl
      | none => cases t.constraints.find? (·.columns.contains name) <;> rfl
  cases hhas : t.hasColumn name with
  | false => exact .refused (by simp) _ (by rw [hrun, hhas]; rfl)
  | true =>
    cases hindex : t.indexes.find? (·.columns.contains name) with
    | some index => exact .refused (by simp) _ (by rw [hrun, hhas, hindex]; rfl)
    | none =>
      cases hconstraint : t.constraints.find? (·.columns.contains name) with
      | some constraint => exact .refused (by simp) _ (by rw [hrun, hhas, hindex, hconstraint]; rfl)
      | none => exact .made (by simp) (by rw [hrun, hhas, hindex, hconstraint]; rfl)

end Table

end PortableSql

import PortableSql.Proofs.Keyed.History
import PortableSql.Proofs.Table.WellFormed

namespace PortableSql

open Keyed

/-- What is stored of a constraint that is given: all of a foreign key, and neither references nor
actions of any other. -/
def Constraint.stored (given : Constraint) : Constraint :=
  if given.kind = .foreign then given
  else
    { name := given.name, kind := given.kind, columns := given.columns, references := [],
      onUpdate := .restrict, onDelete := .restrict }

theorem Table.kept_eq_stored (c : Constraint) : kept c = c.stored := by
  obtain ⟨_, kind, _⟩ := c
  cases kind <;> rfl

namespace TableEdit

/-- What an accepted call makes of a table: one entry of its own collection changes. -/
def Changes (t changed : Table) : TableEdit → Prop
  | addColumn column =>
    ∃ columns, Puts Column.name column t.columns columns ∧ changed = { t with columns }
  | removeColumn name =>
    ∃ columns, Erases Column.name name t.columns columns ∧ changed = { t with columns }
  | addIndex index => ∃ indexes, Puts Index.name index t.indexes indexes ∧ changed = { t with indexes }
  | addConstraint constraint =>
    ∃ constraints, Puts Constraint.name constraint.stored t.constraints constraints ∧
      changed = { t with constraints }
  | setOption key value => changed = { t with options := t.options.insert key value }
  | setOptions options => changed = { t with options }
  | setTemporary temporary => changed = { t with temporary }

def columnChange? : TableEdit → Option (Change Column)
  | addColumn column => some (.put column)
  | removeColumn name => some (.erase name)
  | _ => none

def indexChange? : TableEdit → Option (Change Index)
  | addIndex index => some (.put index)
  | _ => none

def constraintChange? : TableEdit → Option (Change Constraint)
  | addConstraint constraint => some (.put constraint.stored)
  | _ => none

theorem changes_of_ok {t changed : Table} (h : t.WellFormed) (e : TableEdit)
    (hok : e.apply.runOn t = (.ok (), changed)) : e.Changes t changed := by
  cases e with
  | addColumn column =>
    cases hok
    exact ⟨_, puts_put h.columns_distinct, rfl⟩
  | removeColumn name =>
    obtain ⟨⟨hname, _⟩, rfl⟩ := (Table.guarded_removeColumn t name).ok_iff.mp hok
    exact ⟨_, erases_erase h.columns_distinct hname, rfl⟩
  | addIndex index =>
    obtain ⟨_, rfl⟩ := (Table.guarded_addIndex t index).ok_iff.mp hok
    exact ⟨_, puts_put h.indexes_distinct, rfl⟩
  | addConstraint constraint =>
    obtain ⟨_, rfl⟩ := (Table.guarded_addConstraint t constraint).ok_iff.mp hok
    rw [Table.kept_eq_stored]
    exact ⟨_, puts_put h.constraints_distinct, rfl⟩
  | setOption key value =>
    cases hok
    rfl
  | setOptions options =>
    cases hok
    rfl
  | setTemporary temporary =>
    cases hok
    rfl

end TableEdit

/-- The changes that calls made to a collection. -/
def changesOf {α : Type} (change? : TableEdit → Option (Change α)) (calls : List TableEdit) :
    List (Change α) :=
  calls.filterMap change?

/-- A collection after a call that may have nothing to do with it. -/
def afterCall {α : Type} (key : α → String) (change? : Option (Change α)) (xs : List α) : List α :=
  match change? with
  | some change => change.applyTo key xs
  | none => xs

theorem entries_changesOf_cons {α : Type} {key : α → String}
    {change? : TableEdit → Option (Change α)} {e : TableEdit} {calls : List TableEdit} :
    entries key (changesOf change? (e :: calls)) =
      afterCall key (change? e) (entries key (changesOf change? calls)) := by
  unfold changesOf
  cases h : change? e with
  | some change => rw [List.filterMap_cons_some h, entries, afterCall]
  | none => rw [List.filterMap_cons_none h, afterCall]

namespace Table

theorem collections_of_ok {t changed : Table} {e : TableEdit}
    (hok : e.apply.runOn t = (.ok (), changed)) :
    changed.columns = afterCall Column.name e.columnChange? t.columns ∧
      changed.indexes = afterCall Index.name e.indexChange? t.indexes ∧
      changed.constraints = afterCall Constraint.name e.constraintChange? t.constraints := by
  cases e with
  | removeColumn name =>
    obtain ⟨_, rfl⟩ := (guarded_removeColumn t name).ok_iff.mp hok
    exact ⟨rfl, rfl, rfl⟩
  | addIndex index =>
    obtain ⟨_, rfl⟩ := (guarded_addIndex t index).ok_iff.mp hok
    exact ⟨rfl, rfl, rfl⟩
  | addConstraint constraint =>
    obtain ⟨_, rfl⟩ := (guarded_addConstraint t constraint).ok_iff.mp hok
    rw [kept_eq_stored]
    exact ⟨rfl, rfl, rfl⟩
  | addColumn _ | setOption _ _ | setOptions _ | setTemporary _ =>
    cases hok
    exact ⟨rfl, rfl, rfl⟩

/-- The collections of the table are what accepted calls made of empty ones, the latest call
first. -/
structure MadeBy (t : Table) (calls : List TableEdit) : Prop where
  columns : t.columns = entries Column.name (changesOf TableEdit.columnChange? calls)
  indexes : t.indexes = entries Index.name (changesOf TableEdit.indexChange? calls)
  constraints : t.constraints = entries Constraint.name (changesOf TableEdit.constraintChange? calls)

theorem MadeBy.step {t changed : Table} {calls : List TableEdit} (h : t.MadeBy calls)
    {e : TableEdit} (hok : e.apply.runOn t = (.ok (), changed)) : changed.MadeBy (e :: calls) := by
  obtain ⟨hcolumns, hindexes, hconstraints⟩ := collections_of_ok hok
  refine ⟨?_, ?_, ?_⟩
  · rw [hcolumns, entries_changesOf_cons, h.columns]
  · rw [hindexes, entries_changesOf_cons, h.indexes]
  · rw [hconstraints, entries_changesOf_cons, h.constraints]

/-- The calls that are not refused, in their order. -/
def accepted (t : Table) : List TableEdit → List TableEdit
  | [] => []
  | e :: edits =>
    match e.apply.runOn t with
    | (.ok (), changed) => e :: changed.accepted edits
    | (.error _, left) => left.accepted edits

theorem MadeBy.editAll {t : Table} {calls : List TableEdit} (h : t.MadeBy calls)
    (edits : List TableEdit) : (t.editAll edits).MadeBy ((t.accepted edits).reverse ++ calls) := by
  induction edits generalizing t calls with
  | nil => exact h
  | cons e edits ih =>
    have hrun : t.editAll (e :: edits) = (t.edit e).editAll edits := rfl
    rcases hcall : e.apply.runOn t with ⟨fault | _, after⟩
    · obtain rfl := e.eq_of_refused hcall
      have hlater := ih h
      simpa [hrun, edit, accepted, hcall] using hlater
    · have hlater := ih (h.step hcall)
      simpa [hrun, edit, accepted, hcall] using hlater

/-- A refused call leaves a table as it was, and an accepted one puts or removes the one entry that
it names in its own collection. After any calls each collection has the names that accepted calls
added and did not remove since, in the order of these additions, each with what was added last. -/
theorem editAll_new_ordered (name : String) (edits : List TableEdit) :
    let t := editAll { name } edits
    let calls := (accepted { name } edits).reverse
    (∀ e : TableEdit, (∀ fault, (e.apply.runOn t).1 = .error fault → t.edit e = t) ∧
      ((e.apply.runOn t).1 = .ok () → e.Changes t (t.edit e))) ∧
    Follows Column.name (changesOf TableEdit.columnChange? calls) t.columns ∧
    Follows Index.name (changesOf TableEdit.indexChange? calls) t.indexes ∧
    Follows Constraint.name (changesOf TableEdit.constraintChange? calls) t.constraints := by
  intro t calls
  have hmade : t.MadeBy calls := by
    have hnew : MadeBy { name } [] := ⟨rfl, rfl, rfl⟩
    simpa using hnew.editAll edits
  refine ⟨fun e => ⟨?_, ?_⟩, ?_, ?_, ?_⟩
  · intro fault hfault
    exact e.eq_of_refused (Prod.ext hfault rfl)
  · intro hok
    exact e.changes_of_ok ((WellFormed.new name).editAll edits) (Prod.ext hok rfl)
  · rw [hmade.columns]
    exact follows_entries _ _
  · rw [hmade.indexes]
    exact follows_entries _ _
  · rw [hmade.constraints]
    exact follows_entries _ _

/-- A constraint of another kind takes the place of the one with its name, and only the foreign key
keeps what it refers to. A column that was removed comes back at the end. -/
theorem editAll_new_ordered_again :
    let given (name : String) (kind : ConstraintKind) (columns : List String) : Constraint :=
      { name, kind, columns, references := ["u", "x"], onDelete := .cascade }
    let column (name : String) : TableEdit := .addColumn { name, type := .integer }
    let t := editAll { name := "t" }
      [column "a", column "b", .removeColumn "a", column "a",
       .addConstraint (given "k" .unique ["a"]), .addConstraint (given "fk" .foreign ["b"]),
       .addConstraint (given "k" .primary ["b"])]
    let stored : Constraint := { name := "k", kind := .primary, columns := ["b"] }
    t.columnNames = ["b", "a"] ∧ t.constraints = [stored, given "fk" .foreign ["b"]] ∧
      t.constraint? "k" = some stored ∧
      t.edit (.addConstraint (given "fk" .unique ["missing"])) = t := by
  intro given column t stored
  obtain ⟨hcalls, -, -, hconstraints⟩ := editAll_new_ordered "t"
    [column "a", column "b", .removeColumn "a", column "a",
     .addConstraint (given "k" .unique ["a"]), .addConstraint (given "fk" .foreign ["b"]),
     .addConstraint (given "k" .primary ["b"])]
  have hrefused := (hcalls (.addConstraint (given "fk" .unique ["missing"]))).1
  exact ⟨by decide +kernel, rfl, hconstraints.found "k",
    hrefused (.unknownColumn "fk" "missing") rfl⟩

end Table

end PortableSql

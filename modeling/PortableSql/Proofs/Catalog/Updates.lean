import PortableSql.Proofs.Catalog.Columns
import PortableSql.Proofs.Catalog.Folding
import PortableSql.Proofs.Catalog.Parts

namespace PortableSql

open Folding

/-- The columns with a further one, unless it is among them. -/
def appendNew (columns : List String) (column : String) : List String :=
  if columns.contains column then columns else columns ++ [column]

theorem foldl_appendNew_of_nodup {columns added : List String} (h : (columns ++ added).Nodup) :
    added.foldl appendNew columns = columns ++ added := by
  induction added generalizing columns with
  | nil => simp
  | cons column added ih =>
    have hnew : column ∉ columns := fun hm =>
      (List.nodup_append.mp h).2.2 column hm column List.mem_cons_self rfl
    have hstep : appendNew columns column = columns ++ [column] := by simp [appendNew, hnew]
    rw [List.foldl_cons, hstep, ih (by simpa using h), List.append_assoc, List.singleton_append]

theorem nodup_foldl_appendNew {columns : List String} (h : columns.Nodup) (added : List String) :
    (added.foldl appendNew columns).Nodup := by
  induction added generalizing columns with
  | nil => exact h
  | cons column added ih =>
    refine ih ?_
    unfold appendNew
    split
    next => exact h
    next hnew =>
      have hnew : column ∉ columns := by simpa using hnew
      refine List.nodup_append.mpr ⟨h, by simp, ?_⟩
      rintro x hx y hy rfl
      obtain rfl := List.mem_singleton.mp hy
      exact hnew hx

/-- All columns are kept, in their order, where none comes twice. -/
theorem foldl_appendNew_eq_iff {columns : List String} :
    columns.foldl appendNew [] = columns ↔ columns.Nodup := by
  constructor
  · intro h
    rw [← h]
    exact nodup_foldl_appendNew List.nodup_nil columns
  · exact @foldl_appendNew_of_nodup [] columns

/-- The constraint known so far, or else the one to begin with, with a further column. -/
def Constraint.joined (begun : Constraint) (column : String) (known? : Option Constraint) :
    Constraint :=
  let known := known?.getD begun
  Table.kept { known with columns := appendNew known.columns column }

namespace ForeignKeyPart

def begun (part : ForeignKeyPart) : Constraint :=
  { name := part.name, kind := .foreign, columns := [part.column],
    references := [part.referencedTable, part.referencedColumn],
    onUpdate := part.onUpdate, onDelete := part.onDelete }

/-- The foreign key with the part's columns. A constraint of another kind is none to go on with. -/
def extend (part : ForeignKeyPart) (known? : Option Constraint) : Constraint :=
  match known? with
  | some known =>
    if known.kind = .foreign then
      { known with
        columns := known.columns ++ [part.column]
        references := known.references ++ [part.referencedColumn] }
    else part.begun
  | none => part.begun

end ForeignKeyPart

/-- A folding without an error that changes at most the one named constraint. -/
structure Folding.Updates (t : Table) (f : Folding) (slot? : Option String)
    (update : Option Constraint → Constraint) : Prop where
  ok : f.error? = none
  catalogued : f.table.Catalogued
  columns_eq : f.table.columns = t.columns
  constraint?_eq : ∀ name, f.table.constraint? name =
    if slot? = some name then some (update (t.constraint? name)) else t.constraint? name

namespace Table

variable {t : Table} {name column : String}

theorem constraint?_name {c : Constraint} (h : t.constraint? name = some c) : c.name = name :=
  (Keyed.mem_of_find? h).2

/-- A row of a catalog with all it needs is not refused. -/
theorem ok_of_follows {change : Mutation Unit} (h : Follows t (.ofChange t change)) :
    ∃ changed, change.runOn t = (.ok (), changed) := by
  unfold ofChange at h
  rcases hrun : change.runOn t with ⟨fault | _, changed⟩
  · rw [hrun] at h
    rcases h.error with he | ⟨key, he⟩
    · cases he
    · cases he
  · exact ⟨changed, rfl⟩

theorem updates_addConstraint {c : Constraint} (update : Option Constraint → Constraint)
    (h : Follows t (.ofChange t (addConstraint c))) (hname : c.name = name)
    (hupdate : update (t.constraint? name) = kept c) :
    Updates t (.ofChange t (addConstraint c)) (some name) update := by
  obtain ⟨changed, hadd⟩ := ok_of_follows h
  obtain ⟨_, rfl⟩ := (guarded_addConstraint t c).ok_iff.mp hadd
  rw [ofChange_of_ok hadd] at h ⊢
  refine ⟨rfl, h.catalogued, rfl, fun other => ?_⟩
  change Keyed.find? Constraint.name other (Keyed.put Constraint.name (kept c) t.constraints) = _
  by_cases hother : name = other
  · subst hother
    rw [if_pos rfl, hupdate]
    have hfound : Keyed.find? Constraint.name (kept c).name
        (Keyed.put Constraint.name (kept c) t.constraints) = some (kept c) := Keyed.find?_put _
    rwa [kept_name, hname] at hfound
  · rw [if_neg fun hs => hother (Option.some.inj hs)]
    exact Keyed.find?_put_of_ne (by rwa [kept_name, hname])

theorem updates_foldConstraint (h : t.Catalogued) {kind : ConstraintKind}
    (plain : kind ≠ .foreign) (named : kind = .primary → name = primaryConstraintName)
    (hcolumn : column ∈ t.columnNames) :
    Updates t (t.foldConstraint name kind column none) (some name)
      (Constraint.joined { name, kind, columns := [] } column) := by
  have hfollows := foldConstraint_follows h plain named column none
  have hhas : t.hasColumn column = true := hasColumn_iff.mpr hcolumn
  simp only [foldConstraint, hhas, Bool.not_true, Bool.false_eq_true, if_false] at hfollows ⊢
  refine updates_addConstraint _ hfollows ?_ ?_
  · cases hc : t.constraint? name with
    | none => rfl
    | some c =>
      have hnamed : c.name = name := constraint?_name hc
      exact hnamed
  · simp [Constraint.joined, appendNew]

theorem updates_foldIndex (h : t.Catalogued) (hcolumn : column ∈ t.columnNames) (kind : IndexKind)
    (length : Option UInt32) (update : Option Constraint → Constraint) :
    Updates t (t.foldIndex name kind column length) none update := by
  have hfollows := Table.foldIndex_follows h name kind column length
  have hhas : t.hasColumn column = true := hasColumn_iff.mpr hcolumn
  simp only [foldIndex, hhas, Bool.not_true, Bool.false_eq_true, if_false] at hfollows ⊢
  obtain ⟨changed, hadd⟩ := ok_of_follows hfollows
  obtain ⟨_, rfl⟩ := (guarded_addIndex t _).ok_iff.mp hadd
  rw [ofChange_of_ok hadd] at hfollows ⊢
  exact ⟨rfl, hfollows.catalogued, rfl, fun _ => rfl⟩

theorem updates_foldPart (h : t.Catalogued) {part : IndexPart}
    (hcolumn : part.column ∈ t.columnNames) :
    Updates t (t.foldPart part) part.slot? (part.begun.joined part.column) := by
  unfold foldPart IndexPart.slot? IndexPart.begun
  cases part.role with
  | primary => exact updates_foldConstraint h (by decide) (fun _ => rfl) hcolumn
  | unique => exact updates_foldConstraint h (by decide) (by simp) hcolumn
  | plain => exact updates_foldIndex h hcolumn _ _ _

theorem kept_of_foreign {c : Constraint} (h : c.kind = .foreign) : kept c = c := by
  unfold kept
  rw [h]

theorem foldForeignKey_of_column {part : ForeignKeyPart} (h : t.hasColumn part.column = true) :
    t.foldForeignKey part =
      .ofChange t (addConstraint (part.extend (t.constraint? part.name))) := by
  simp only [foldForeignKey, h, Bool.not_true, Bool.false_eq_true, if_false]
  rfl

theorem updates_foldForeignKey (h : t.Catalogued) {part : ForeignKeyPart}
    (hcolumn : part.column ∈ t.columnNames) :
    Updates t (t.foldForeignKey part) (some part.name) part.extend := by
  have hfollows := foldForeignKey_follows h part
  have hhas : t.hasColumn part.column = true := hasColumn_iff.mpr hcolumn
  rw [foldForeignKey_of_column hhas] at hfollows ⊢
  obtain ⟨hname, hkind⟩ : (part.extend (t.constraint? part.name)).name = part.name ∧
      (part.extend (t.constraint? part.name)).kind = .foreign := by
    cases hc : t.constraint? part.name with
    | none => exact ⟨rfl, rfl⟩
    | some known =>
      have hnamed : known.name = part.name := constraint?_name hc
      unfold ForeignKeyPart.extend
      dsimp only
      split
      next hforeign => exact ⟨hnamed, hforeign⟩
      next => exact ⟨rfl, rfl⟩
  exact updates_addConstraint _ hfollows hname (kept_of_foreign hkind).symm

end Table

/-- A listing whose rows each give a part for a column of the table updates the table part by
part. -/
theorem Folding.constraint?_ofRows {α : Type} {step : Table → Row → Folding}
    {part? : Row → Option α} {column : α → String} {slot? : α → Option String}
    {update : α → Option Constraint → Constraint}
    (hstep : ∀ {t : Table} {row part}, t.Catalogued → part? row = some part →
      column part ∈ t.columnNames → Updates t (step t row) (slot? part) (update part))
    {t : Table} (h : t.Catalogued) {rows : List Row}
    (hrows : ∀ row ∈ rows, ∃ part, part? row = some part ∧ column part ∈ t.columnNames) :
    (ofRows step t rows).error? = none ∧ (ofRows step t rows).table.Catalogued ∧
      (ofRows step t rows).table.columns = t.columns ∧
      ∀ name, (ofRows step t rows).table.constraint? name =
        ((rows.filterMap part?).filter (slot? · == some name)).foldl
          (fun known? part => some (update part known?)) (t.constraint? name) := by
  induction rows generalizing t with
  | nil => exact ⟨rfl, h, rfl, fun _ => rfl⟩
  | cons row rows ih =>
    -- the first row leaves the columns as they are, so the other rows still name some
    obtain ⟨part, hpart, hcolumn⟩ := hrows row List.mem_cons_self
    have hupdates := hstep h hpart hcolumn
    have hnames : (step t row).table.columnNames = t.columnNames :=
      congrArg (List.map Column.name) hupdates.columns_eq
    obtain ⟨herror, hcat, hcolumns, hlook⟩ := ih hupdates.catalogued (by
      rw [hnames]
      exact fun row hm => hrows row (List.mem_cons_of_mem _ hm))
    obtain ⟨htable, hnext⟩ := andThen_of_ok hupdates.ok (ofRows step · rows)
    simp only [ofRows]
    rw [htable, hnext]
    refine ⟨herror, hcat, hcolumns.trans hupdates.columns_eq, fun name => ?_⟩
    rw [hlook, hupdates.constraint?_eq, List.filterMap_cons_some hpart, List.filter_cons]
    simp only [beq_iff_eq]
    split
    · rfl
    · rfl

end PortableSql

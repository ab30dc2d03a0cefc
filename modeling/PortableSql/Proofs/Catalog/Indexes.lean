import PortableSql.Proofs.Catalog.Grouping
import PortableSql.Proofs.Catalog.Recorded

namespace PortableSql

open Folding

/-- A table that holds only columns. -/
structure Table.Bare (t : Table) : Prop where
  columns_distinct : t.columnNames.Nodup
  indexes_eq : t.indexes = []
  constraints_eq : t.constraints = []

theorem Table.Bare.catalogued {t : Table} (h : t.Bare) : t.Catalogued where
  columns_distinct := h.columns_distinct
  indexes_distinct := by simp [h.indexes_eq]
  constraints_distinct := by simp [h.constraints_eq]
  indexes_fit := by simp [h.indexes_eq]
  constraints_fit := by simp [h.constraints_eq]
  one_primary := by simp [h.constraints_eq]
  primary_named := by simp [h.constraints_eq]

namespace IndexPart

/-- What tells the part's index from others: its name, or the one name of all primary keys. -/
def label (part : IndexPart) : String :=
  if part.role = .primary then Table.primaryConstraintName else part.name

theorem begun_name (part : IndexPart) : part.begun.name = part.label := by
  unfold begun label
  cases part.role <;> rfl

/-- The constraint known so far, or else the one of the part, with the part's column. -/
def join (part : IndexPart) (known? : Option Constraint) : Constraint :=
  part.begun.joined part.column known?

/-- The plain index known so far, or else the one of the part, with the part's column. -/
def grow (part : IndexPart) (known? : Option Index) : Index :=
  let known := known?.getD { name := part.label, kind := part.kind, columns := [] }
  let lengths :=
    match part.length with
    | some n => known.lengths.insert part.column n
    | none => known.lengths
  { known with columns := appendNew known.columns part.column, lengths }

theorem join_keepsSlot : Keyed.KeepsSlot Constraint.name label join := by
  intro part known? hknown
  have hname : (part.join known?).name = (known?.getD part.begun).name := Table.kept_name _
  rw [hname]
  cases known? with
  | none => exact part.begun_name
  | some known => exact hknown known rfl

theorem grow_keepsSlot : Keyed.KeepsSlot Index.name label grow := by
  intro part known? hknown
  cases known? with
  | none => rfl
  | some known => exact hknown known rfl

theorem label_eq_name {part : IndexPart} (h : part.role ≠ .primary) : part.label = part.name :=
  if_neg h

end IndexPart

/-- The columns of an index, each at its first place. -/
def coveredColumns (parts : List IndexPart) : List String := distinct (parts.map IndexPart.column)

/-- The lengths that the parts of an index give of columns; of two for a column the later counts. -/
def coveredLengths (parts : List IndexPart) : SortedMap UInt32 :=
  .ofList (parts.filterMap fun part => part.length.map (part.column, ·))

/-- The constraint that the parts of an index give, unless the index is a plain one. -/
def constraintOf? (parts : List IndexPart) : Option Constraint :=
  match parts with
  | [] => none
  | part :: _ =>
    if part.role = .plain then none
    else some { part.begun with columns := coveredColumns parts }

/-- The plain index that the parts of an index give, if it is one. -/
def plainIndexOf? (parts : List IndexPart) : Option Index :=
  match parts with
  | [] => none
  | part :: _ =>
    if part.role = .plain then
      some
        { name := part.name, kind := part.kind, columns := coveredColumns parts,
          lengths := coveredLengths parts }
    else none

section

variable {parts : List IndexPart}

theorem gather?_join (h : ∀ part ∈ parts, part.role ≠ .plain) :
    Keyed.gather? IndexPart.join parts = constraintOf? parts := by
  cases parts with
  | nil => rfl
  | cons part parts =>
    have hempty : part.begun.columns = [] := by
      unfold IndexPart.begun
      split <;> rfl
    have hstart : part.join none =
        { part.begun with columns := appendNew [] part.column } := by
      simp [IndexPart.join, Constraint.joined, hempty, kept_begun]
    rw [constraintOf?, if_neg (h part List.mem_cons_self), Keyed.gather?, List.foldl_cons, hstart]
    exact foldl_joined (kept_begun part) parts _

theorem foldl_grow (i : Index) (parts : List IndexPart) :
    parts.foldl (fun known? part => some (part.grow known?)) (some i) =
      some { i with
        columns := (parts.map IndexPart.column).foldl appendNew i.columns
        lengths := (parts.filterMap fun part => part.length.map (part.column, ·)).foldl
          (fun m e => m.insert e.1 e.2) i.lengths } := by
  induction parts generalizing i with
  | nil => rfl
  | cons part parts ih =>
    rw [List.foldl_cons, ih]
    cases hlength : part.length with
    | none => simp [IndexPart.grow, hlength]
    | some n => simp [IndexPart.grow, hlength]

theorem gather?_grow (h : ∀ part ∈ parts, part.role = .plain) :
    Keyed.gather? IndexPart.grow parts = plainIndexOf? parts := by
  cases parts with
  | nil => rfl
  | cons part parts =>
    have hplain := h part List.mem_cons_self
    have hlabel : part.label = part.name := IndexPart.label_eq_name (by simp [hplain])
    rw [plainIndexOf?, if_pos hplain, Keyed.gather?, List.foldl_cons, foldl_grow]
    cases hlength : part.length with
    | none =>
      simp [IndexPart.grow, hlabel, hlength, coveredColumns, coveredLengths, distinct,
        SortedMap.ofList]
    | some n =>
      simp [IndexPart.grow, hlabel, hlength, coveredColumns, coveredLengths, distinct,
        SortedMap.ofList]

/-- Parts of one role are all of a constraint or all of a plain index. -/
theorem gather?_join_filter (h : ∀ part ∈ parts, ∀ other ∈ parts, part.role = other.role) :
    Keyed.gather? IndexPart.join (parts.filter (·.role ≠ .plain)) = constraintOf? parts := by
  cases parts with
  | nil => rfl
  | cons part parts =>
    have hsame : ∀ other ∈ part :: parts, other.role = part.role :=
      fun other hm => h other hm part List.mem_cons_self
    by_cases hrole : part.role = .plain
    · rw [List.filter_eq_nil_iff.mpr (by simpa [hrole] using hsame), constraintOf?, if_pos hrole]
      rfl
    · have hall : ∀ other ∈ part :: parts, other.role ≠ .plain :=
        fun other hm => by rwa [hsame other hm]
      rw [List.filter_eq_self.mpr (by simpa using hall), gather?_join hall]

theorem gather?_grow_filter (h : ∀ part ∈ parts, ∀ other ∈ parts, part.role = other.role) :
    Keyed.gather? IndexPart.grow (parts.filter (·.role = .plain)) = plainIndexOf? parts := by
  cases parts with
  | nil => rfl
  | cons part parts =>
    have hsame : ∀ other ∈ part :: parts, other.role = part.role :=
      fun other hm => h other hm part List.mem_cons_self
    by_cases hrole : part.role = .plain
    · have hall : ∀ other ∈ part :: parts, other.role = .plain :=
        fun other hm => (hsame other hm).trans hrole
      rw [List.filter_eq_self.mpr (by simpa using hall), gather?_grow hall]
    · have hnone : ∀ other ∈ part :: parts, ¬other.role = .plain :=
        fun other hm => by rwa [hsame other hm]
      rw [List.filter_eq_nil_iff.mpr (by simpa using hnone), plainIndexOf?, if_neg hrole]
      rfl

end

namespace Table

/-- The table with a part in the constraint or the plain index of the part's label. -/
def takePart (t : Table) (part : IndexPart) : Table :=
  if part.role = .plain then
    { t with indexes := Keyed.take Index.name IndexPart.label IndexPart.grow t.indexes part }
  else
    { t with
      constraints :=
        Keyed.take Constraint.name IndexPart.label IndexPart.join t.constraints part }

end Table

/-- A folding without an error that leaves the columns as they are and takes at most one part into
what is seen of the table. -/
structure Folding.Takes {σ α : Type} (view : Table → σ) (take : σ → α → σ) (t : Table)
    (f : Folding) (part? : Option α) : Prop where
  ok : f.error? = none
  catalogued : f.table.Catalogued
  columns_eq : f.table.columns = t.columns
  view_eq : view f.table = part?.elim (view t) (take (view t))

namespace Folding

variable {σ α : Type} {view : Table → σ} {take : σ → α → σ} {t : Table}

/-- A listing whose rows each are taken, as parts, into what is seen of a table is taken part by
part. -/
theorem takes_ofRows {step : Table → Row → Folding} {part? : Row → Option α} {rows : List Row}
    (hstep : ∀ {u : Table}, u.Catalogued → u.columns = t.columns → ∀ row ∈ rows,
      Takes view take u (step u row) (part? row))
    {u : Table} (h : u.Catalogued) (hu : u.columns = t.columns) :
    (ofRows step u rows).error? = none ∧
      view (ofRows step u rows).table = (rows.filterMap part?).foldl take (view u) := by
  induction rows generalizing u with
  | nil => exact ⟨rfl, rfl⟩
  | cons row rows ih =>
    have hfirst := hstep h hu row List.mem_cons_self
    obtain ⟨herror, hview⟩ := ih (fun h hu row hm => hstep h hu row (List.mem_cons_of_mem _ hm))
      hfirst.catalogued (hfirst.columns_eq.trans hu)
    obtain ⟨htable, hnext⟩ := andThen_of_ok hfirst.ok (ofRows step · rows)
    simp only [ofRows]
    rw [htable, hnext, hview, hfirst.view_eq]
    refine ⟨herror, ?_⟩
    cases hpart : part? row with
    | none => rw [List.filterMap_cons_none hpart, Option.elim_none]
    | some part => rw [List.filterMap_cons_some hpart, Option.elim_some, List.foldl_cons]

end Folding

namespace Table

variable {t : Table}

theorem foldConstraint_table (h : t.Catalogued) {name column : String} {kind : ConstraintKind}
    (plain : kind ≠ .foreign) (named : kind = .primary → name = primaryConstraintName)
    (hcolumn : column ∈ t.columnNames) :
    (t.foldConstraint name kind column none).table =
      { t with
        constraints := Keyed.put Constraint.name
          (Constraint.joined { name, kind, columns := [] } column (t.constraint? name))
          t.constraints } := by
  have hfollows := foldConstraint_follows h plain named column none
  have hhas : t.hasColumn column = true := hasColumn_iff.mpr hcolumn
  simp only [foldConstraint, hhas, Bool.not_true, Bool.false_eq_true, if_false] at hfollows ⊢
  obtain ⟨changed, hadd⟩ := ok_of_follows hfollows
  obtain ⟨_, rfl⟩ := (guarded_addConstraint t _).ok_iff.mp hadd
  rw [ofChange_of_ok hadd]
  simp [Constraint.joined, appendNew]

theorem foldIndex_table (h : t.Catalogued) {part : IndexPart} (hrole : part.role = .plain)
    (hcolumn : part.column ∈ t.columnNames) :
    (t.foldIndex part.name part.kind part.column part.length).table =
      { t with
        indexes := Keyed.put Index.name (part.grow (t.index? part.name)) t.indexes } := by
  have hlabel : part.label = part.name := IndexPart.label_eq_name (by simp [hrole])
  rw [← hlabel]
  have hfollows := foldIndex_follows h part.label part.kind part.column part.length
  have hhas : t.hasColumn part.column = true := hasColumn_iff.mpr hcolumn
  simp only [foldIndex, hhas, Bool.not_true, Bool.false_eq_true, if_false] at hfollows ⊢
  obtain ⟨changed, hadd⟩ := ok_of_follows hfollows
  obtain ⟨_, rfl⟩ := (guarded_addIndex t _).ok_iff.mp hadd
  rw [ofChange_of_ok hadd]
  rfl

/-- A part for a column of the table is taken, and any other leaves the table as it is. -/
theorem takes_foldPart (h : t.Catalogued) (part : IndexPart) :
    Takes id takePart t (t.foldPart part) ((some part).filter (t.hasColumn ·.column)) := by
  by_cases hhas : t.hasColumn part.column = true
  · have hcolumn : part.column ∈ t.columnNames := hasColumn_iff.mp hhas
    have hupdates := updates_foldPart h hcolumn
    refine ⟨hupdates.ok, hupdates.catalogued, hupdates.columns_eq, ?_⟩
    rw [Option.filter_some, if_pos hhas, Option.elim_some, id, id, foldPart, takePart]
    cases hrole : part.role with
    | primary =>
      simp only [reduceCtorEq, if_false]
      rw [foldConstraint_table h (by decide) (fun _ => rfl) hcolumn, Keyed.take, IndexPart.join,
        ← part.begun_name, IndexPart.begun_of_primary hrole]
      rfl
    | unique =>
      simp only [reduceCtorEq, if_false]
      rw [foldConstraint_table h (by decide) (by simp) hcolumn, Keyed.take, IndexPart.join,
        ← part.begun_name, IndexPart.begun_of_unique hrole]
      rfl
    | plain =>
      simp only [if_true]
      rw [foldIndex_table h hrole hcolumn, Keyed.take, IndexPart.label_eq_name (by simp [hrole])]
      rfl
  · rw [Option.filter_some, if_neg hhas, foldPart]
    cases part.role with
    | primary | unique | plain =>
      simp only [foldConstraint, foldIndex, Bool.eq_false_iff.mpr hhas, Bool.not_false, if_true]
      exact ⟨rfl, h, rfl, rfl⟩

/-- The parts of constraints and those of plain indexes are taken apart from each other. -/
theorem foldl_takePart (t : Table) (parts : List IndexPart) :
    parts.foldl takePart t =
      { t with
        constraints := (parts.filter (·.role ≠ .plain)).foldl
          (Keyed.take Constraint.name IndexPart.label IndexPart.join) t.constraints
        indexes := (parts.filter (·.role = .plain)).foldl
          (Keyed.take Index.name IndexPart.label IndexPart.grow) t.indexes } := by
  induction parts generalizing t with
  | nil => rfl
  | cons part parts ih =>
    rw [List.foldl_cons, ih, takePart]
    by_cases hrole : part.role = .plain
    · simp [hrole]
    · simp [hrole]

end Table

end PortableSql

import PortableSql.Dialect.Definition
import PortableSql.Proofs.Catalog.Updates
import PortableSql.Proofs.Dialect.QuotedNames
import PortableSql.Proofs.Table.History

namespace PortableSql

open Scanner Dialect

namespace Dialect

/-- Names with commas between them. -/
def scanNames (d : Dialect) : Scanner (List String) := fun text =>
  (separated ", ".toList d.scanName text).map fun (names, rest) =>
    (names.map fun segments => String.ofList (['.'].intercalate segments), rest)

/-- The columns of a foreign key and those it refers to, as the two clauses of its constraint list
them. -/
def keyClauses? (d : Dialect) (sql : String) : Option (List String × List String) := do
  let text ← Chars.stripStart? "CONSTRAINT ".toList sql.toList
  let (_, text) ← d.scanName text
  let text ← Chars.stripStart? " FOREIGN KEY (".toList text
  let (columns, text) ← d.scanNames text
  let text ← Chars.stripStart? ") REFERENCES ".toList text
  let (_, text) ← d.scanName text
  let text ← Chars.stripStart? " (".toList text
  let (references, text) ← d.scanNames text
  let _ ← Chars.stripStart? ")".toList text
  return (columns, references)

variable {d : Dialect} {c : Constraint}

theorem scans_quoteIdentifier (name : String) {rest : List Char}
    (hquote : rest.head? ≠ some d.endQuote) (hdot : rest.head? ≠ some '.') :
    Scans d.scanName (d.quoteIdentifier name).toList (Chars.splitOn '.' name.toList) rest := by
  rw [quoteIdentifier, String.toList_ofList]
  exact scans_quoteName (Chars.splitOn_ne_nil '.' name.toList) hquote hdot

theorem scans_names {names : List String} (hne : names ≠ []) {rest : List Char}
    (hquote : rest.head? ≠ some d.endQuote) (hdot : rest.head? ≠ some '.')
    (hcomma : rest.head? ≠ some ',') :
    Scans d.scanNames (d.quoteIdentifiers names).toList names rest := by
  have hscan := scans_quoteIdentifiers (d := d) hne hquote hdot hcomma
  unfold Scans at hscan ⊢
  have hjoin : (names.map fun name => Chars.splitOn '.' name.toList).map
      (fun segments => String.ofList (['.'].intercalate segments)) = names := by
    simp [Function.comp_def, Chars.intercalate_splitOn]
  rw [scanNames, hscan, Option.map_some]
  exact congrArg (fun read => some (read, rest)) hjoin

/-- What follows the columns that a foreign key refers to. -/
def keyActions (d : Dialect) (c : Constraint) : String :=
  " ON UPDATE " ++ d.actionSql c.onUpdate ++ " ON DELETE " ++ d.actionSql c.onDelete

theorem toList_constraintSql (hkind : c.kind = .foreign) :
    (d.constraintSql c).toList =
      "CONSTRAINT ".toList ++ ((d.quoteIdentifier c.name).toList ++ (" FOREIGN KEY (".toList ++
        ((d.quoteIdentifiers c.columns).toList ++ (") REFERENCES ".toList ++
          ((d.quoteIdentifier (c.referencedTable?.getD "")).toList ++ (" (".toList ++
            ((d.quoteIdentifiers c.referencedColumns).toList ++
              (")".toList ++ (keyActions d c).toList)))))))) := by
  simp [constraintSql, hkind, keyActions, toString]

/-- The two clauses of a foreign key list its columns and those it refers to, whatever characters are
in a name. -/
theorem keyClauses?_constraintSql (hkind : c.kind = .foreign) (hcolumns : c.columns ≠ [])
    (hreferences : c.referencedColumns ≠ []) :
    d.keyClauses? (d.constraintSql c) = some (c.columns, c.referencedColumns) := by
  have hspace : ' ' ≠ d.endQuote := by cases d <;> decide
  have hclose : ')' ≠ d.endQuote := by cases d <;> decide
  have hname (name : String) {rest : List Char} (hrest : rest.head? = some ' ') :
      d.scanName ((d.quoteIdentifier name).toList ++ rest) =
        some (Chars.splitOn '.' name.toList, rest) :=
    scans_quoteIdentifier name (by simpa [hrest] using hspace) (by simp [hrest])
  have hnames {names : List String} (hne : names ≠ []) {rest : List Char}
      (hrest : rest.head? = some ')') :
      d.scanNames ((d.quoteIdentifiers names).toList ++ rest) = some (names, rest) :=
    scans_names hne (by simpa [hrest] using hclose) (by simp [hrest]) (by simp [hrest])
  have hread := toList_constraintSql (d := d) hkind
  unfold keyClauses?
  rw [hread, Chars.stripStart?_append]
  simp only [Option.bind_eq_bind, Option.bind_some]
  rw [hname c.name rfl]
  simp only [Option.bind_some, Chars.stripStart?_append]
  rw [hnames hcolumns rfl]
  simp only [Option.bind_some, Chars.stripStart?_append]
  rw [hname _ rfl]
  simp only [Option.bind_some, Chars.stripStart?_append]
  rw [hnames hreferences rfl]
  simp only [Option.bind_some, Chars.stripStart?_append]
  rfl

end Dialect

/-- The constraints that calls give to a table, in their order. -/
def givenConstraints (calls : List TableEdit) : List Constraint :=
  calls.filterMap fun
    | .addConstraint c => some c
    | _ => none

namespace Table

variable {c : Constraint}

theorem constraints_editAll (t : Table) (edits : List TableEdit) :
    (t.editAll edits).constraints =
      ((givenConstraints (t.accepted edits)).map kept).foldl
        (fun acc entry => Keyed.put Constraint.name entry acc) t.constraints := by
  induction edits generalizing t with
  | nil => rfl
  | cons e edits ih =>
    have hrun : t.editAll (e :: edits) = (t.edit e).editAll edits := rfl
    rw [hrun, ih]
    rcases hcall : e.apply.runOn t with ⟨fault | _, after⟩
    · obtain rfl := e.eq_of_refused hcall
      have hstay : after.edit e = after := by rw [edit, hcall]
      have hcalls : after.accepted (e :: edits) = after.accepted edits := by rw [accepted, hcall]
      rw [hstay, hcalls]
    · have hstep : t.edit e = after := by rw [edit, hcall]
      have hcalls : t.accepted (e :: edits) = e :: after.accepted edits := by rw [accepted, hcall]
      obtain ⟨_, _, hconstraints⟩ := collections_of_ok hcall
      rw [hstep, hcalls, hconstraints]
      cases e with
      | addConstraint given => rw [TableEdit.constraintChange?, ← kept_eq_stored]; rfl
      | addColumn _ | removeColumn _ | addIndex _ | setOption _ _ | setOptions _
      | setTemporary _ => rfl

/-- The foreign keys of a table are those that were given last under their names. -/
theorem mem_constraints_editAll (name : String) (edits : List TableEdit)
    (hkind : c.kind = .foreign) :
    c ∈ (editAll { name } edits).constraints ↔
      ∃ before after, givenConstraints (accepted { name } edits) = before ++ c :: after ∧
        ∀ other ∈ after, other.name ≠ c.name := by
  rw [constraints_editAll]
  generalize givenConstraints (accepted { name } edits) = given
  have hempty : (([] : List Constraint).map Constraint.name).Nodup := List.nodup_nil
  constructor
  · intro hm
    rcases Keyed.mem_foldl_put hempty hm with ⟨hm, _⟩ | ⟨before, after, hsplit, hafter⟩
    · cases hm
    · obtain ⟨first, rest, rfl, rfl, hrest⟩ := List.map_eq_append_iff.mp hsplit
      obtain ⟨last, others, rfl, hlast, rfl⟩ := List.map_eq_cons_iff.mp hrest
      have hforeign : last.kind = .foreign := by rw [← kept_kind, hlast, hkind]
      rw [kept_of_foreign hforeign] at hlast
      subst hlast
      refine ⟨first, others, rfl, fun other ho => ?_⟩
      have hother := hafter (kept other) (List.mem_map_of_mem ho)
      rwa [kept_name] at hother
  · rintro ⟨before, after, rfl, hafter⟩
    have hlast : ∀ entry ∈ after.map kept, entry.name ≠ c.name := by
      intro entry hentry
      obtain ⟨other, ho, rfl⟩ := List.mem_map.mp hentry
      rw [kept_name]
      exact hafter other ho
    rw [List.map_append, List.map_cons, kept_of_foreign hkind]
    exact Keyed.mem_foldl_put_of_last hempty hlast

/-- Each clause of a foreign key of a table lists the columns that it was given. The two list equally
many, in every dialect, if and only if the foreign keys that were given last under their names name
one column for each of their own. -/
theorem foreignKeys_match_iff (name : String) (edits : List TableEdit) :
    let t := editAll { name } edits
    let given := givenConstraints (accepted { name } edits)
    (∀ c ∈ t.constraints, c.kind = .foreign → ∀ d : Dialect,
      d.keyClauses? (d.constraintSql c) = some (c.columns, c.referencedColumns)) ∧
    ((∀ c ∈ t.constraints, c.kind = .foreign →
        c.referencedColumns.length = c.columns.length) ↔
      ∀ before c after, given = before ++ c :: after →
        (∀ other ∈ after, other.name ≠ c.name) → c.kind = .foreign →
          c.references.length = c.columns.length + 1) := by
  intro t given
  have hwell : t.WellFormed := editAll_new_wellFormed name edits
  have hlength : ∀ c ∈ t.constraints, c.kind = .foreign →
      c.references.length = c.referencedColumns.length + 1 := by
    intro c hm hkind
    have htwo := (hwell.constraints_fit c hm).references hkind
    have htail : c.referencedColumns.length = c.references.length - 1 := List.length_tail
    omega
  refine ⟨fun c hm hkind d => ?_, ?_, ?_⟩
  · have hfits := hwell.constraints_fit c hm
    have htwo := hfits.references hkind
    have hreferences : c.referencedColumns ≠ [] := by
      apply List.ne_nil_of_length_pos
      have := hlength c hm hkind
      omega
    exact Dialect.keyClauses?_constraintSql hkind hfits.covers.nonempty hreferences
  · intro hmatch before c after hsplit hafter hkind
    have hm : c ∈ t.constraints :=
      (mem_constraints_editAll name edits hkind).mpr ⟨before, after, hsplit, hafter⟩
    rw [hlength c hm hkind, hmatch c hm hkind]
  · intro hgiven c hm hkind
    obtain ⟨before, after, hsplit, hafter⟩ := (mem_constraints_editAll name edits hkind).mp hm
    have hwidth := hgiven before c after hsplit hafter hkind
    have := hlength c hm hkind
    omega

/-- A foreign key on one column may name two. -/
theorem foreignKey_width_differs :
    let key : Constraint :=
      { name := "fk", kind := .foreign, columns := ["a"], references := ["u", "x", "y"] }
    let t := editAll { name := "t" }
      [.addColumn { name := "a", type := .integer }, .addConstraint key]
    key ∈ t.constraints ∧ key.referencedColumns.length ≠ key.columns.length ∧
      ∀ d : Dialect, d.keyClauses? (d.constraintSql key) = some (["a"], ["x", "y"]) := by
  intro key t
  have hm : key ∈ t.constraints := List.mem_singleton_self key
  have hread (d : Dialect) : d.keyClauses? (d.constraintSql key) = some (["a"], ["x", "y"]) :=
    keyClauses?_constraintSql rfl (by decide) (by decide)
  exact ⟨hm, by decide, hread⟩

end Table

end PortableSql

import PortableSql.Proofs.Catalog.Updates

namespace PortableSql

/-- The columns that an index listing gives for the primary key. -/
def primaryColumns (parts : List IndexPart) : List String :=
  (parts.filter (·.role = .primary)).map IndexPart.column

/-- The columns that an index listing gives for the unique index of a name. -/
def uniqueColumns (parts : List IndexPart) (name : String) : List String :=
  (parts.filter fun part => part.role = .unique ∧ part.name = name).map IndexPart.column

/-- The foreign key that its parts give. -/
def foreignKey? : List ForeignKeyPart → Option Constraint
  | [] => none
  | key :: keys =>
    some
      { key.begun with
        columns := (key :: keys).map ForeignKeyPart.column
        references := key.referencedTable :: (key :: keys).map ForeignKeyPart.referencedColumn }

/-- The constraints that two listings give parts of. -/
def listed (parts : List IndexPart) (keys : List ForeignKeyPart) : List Constraint :=
  (parts.filter (·.role ≠ .plain)).map IndexPart.begun ++ keys.map ForeignKeyPart.begun

/-- Constraints of one name, where all primary keys go by one, are of one kind. -/
def NamesApart (parts : List IndexPart) (keys : List ForeignKeyPart) : Prop :=
  ∀ c ∈ listed parts keys, ∀ other ∈ listed parts keys, c.name = other.name → c.kind = other.kind

instance (parts : List IndexPart) (keys : List ForeignKeyPart) :
    Decidable (NamesApart parts keys) :=
  inferInstanceAs (Decidable (∀ c ∈ listed parts keys, ∀ other ∈ listed parts keys, _ → _))

/-- The named constraint after an index listing is folded into a table without constraints. -/
def indexed? (parts : List IndexPart) (name : String) : Option Constraint :=
  (parts.filter (·.slot? == some name)).foldl
    (fun known? part => some (part.begun.joined part.column known?)) none

/-- The named constraint after a foreign key listing is folded too. -/
def recorded? (parts : List IndexPart) (keys : List ForeignKeyPart) (name : String) :
    Option Constraint :=
  (keys.filter (·.name == name)).foldl (fun known? key => some (key.extend known?))
    (indexed? parts name)

section

variable {parts : List IndexPart} {keys : List ForeignKeyPart} {name : String}

theorem kept_begun (part : IndexPart) (columns : List String) :
    Table.kept { part.begun with columns } = { part.begun with columns } := by
  unfold IndexPart.begun
  split
  · rfl
  · rfl

theorem foldl_joined {begun : Constraint}
    (hkept : ∀ columns, Table.kept { begun with columns } = { begun with columns })
    (parts : List IndexPart) (columns : List String) :
    parts.foldl (fun known? part => some (part.begun.joined part.column known?))
        (some { begun with columns }) =
      some { begun with columns := (parts.map IndexPart.column).foldl appendNew columns } := by
  induction parts generalizing columns with
  | nil => rfl
  | cons part parts ih =>
    have hstep : part.begun.joined part.column (some { begun with columns }) =
        { begun with columns := appendNew columns part.column } := hkept _
    rw [List.foldl_cons, hstep, ih]
    rfl

/-- Where the parts of a name are those of one constraint, that one is folded. -/
theorem indexed?_eq (begun : Constraint) (q : IndexPart → Bool)
    (hslot : ∀ part ∈ parts, part.slot? = some name ↔ q part = true)
    (hbegun : ∀ part ∈ parts, q part = true → part.begun = begun)
    (hsome : ∃ part ∈ parts, q part = true) :
    indexed? parts name = some
      { begun with columns := ((parts.filter q).map IndexPart.column).foldl appendNew [] } := by
  have hfilter : parts.filter (·.slot? == some name) = parts.filter q := by
    refine List.filter_congr fun part hm => ?_
    rw [Bool.eq_iff_iff, beq_iff_eq, hslot part hm]
  rw [indexed?, hfilter]
  obtain ⟨part, hm, hq⟩ := hsome
  cases hparts : parts.filter q with
  | nil => exact absurd hq (by simpa using List.filter_eq_nil_iff.mp hparts part hm)
  | cons first rest =>
    obtain ⟨hfirst, hfirstq⟩ := List.mem_filter.mp (hparts ▸ List.mem_cons_self : first ∈ _)
    obtain rfl := hbegun first hfirst hfirstq
    have hstart : first.begun.joined first.column none =
        { first.begun with columns := appendNew [] first.column } := by
      have hempty : first.begun.columns = [] := by
        unfold IndexPart.begun
        split <;> rfl
      simp [Constraint.joined, hempty, kept_begun]
    rw [List.foldl_cons, hstart, foldl_joined (kept_begun first)]
    rfl

theorem foldl_extend {known : Constraint} (hkind : known.kind = .foreign)
    (keys : List ForeignKeyPart) :
    keys.foldl (fun known? key => some (key.extend known?)) (some known) =
      some { known with
        columns := known.columns ++ keys.map ForeignKeyPart.column
        references := known.references ++ keys.map ForeignKeyPart.referencedColumn } := by
  induction keys generalizing known with
  | nil => simp
  | cons key keys ih =>
    have hstep : key.extend (some known) = { known with
        columns := known.columns ++ [key.column]
        references := known.references ++ [key.referencedColumn] } := if_pos hkind
    rw [List.foldl_cons, hstep, ih]
    · simp
    · exact hkind

/-- A constraint is of the kind it was known for, or of that of a part. -/
theorem kind_foldl_joined {kind : ConstraintKind} {known? : Option Constraint}
    (h : ∀ c, known? = some c → c.kind ≠ kind) {parts : List IndexPart}
    (hparts : ∀ part ∈ parts, part.begun.kind ≠ kind) {c : Constraint}
    (hc : parts.foldl (fun known? part => some (part.begun.joined part.column known?)) known? =
      some c) : c.kind ≠ kind := by
  induction parts generalizing known? with
  | nil => exact h c hc
  | cons part parts ih =>
    refine ih ?_ (fun part hm => hparts part (List.mem_cons_of_mem _ hm)) hc
    intro joined hjoined
    obtain rfl := Option.some.inj hjoined
    have hkind : (part.begun.joined part.column known?).kind = (known?.getD part.begun).kind :=
      Table.kept_kind _
    rw [hkind]
    cases known? with
    | some known => exact h known rfl
    | none => exact hparts part List.mem_cons_self

theorem kind_indexed? {kind : ConstraintKind}
    (hparts : ∀ part ∈ parts, part.slot? = some name → part.begun.kind ≠ kind) {c : Constraint}
    (hc : indexed? parts name = some c) : c.kind ≠ kind := by
  refine kind_foldl_joined (by simp) ?_ hc
  intro part hm
  obtain ⟨hm, hslot⟩ := List.mem_filter.mp hm
  exact hparts part hm (beq_iff_eq.mp hslot)

theorem kind_foreignKey? {c : Constraint} (h : foreignKey? keys = some c) : c.kind = .foreign := by
  cases keys with
  | nil => cases h
  | cons key keys =>
    obtain rfl := Option.some.inj h
    rfl

/-- A foreign key is folded whatever else has its name. -/
theorem recorded?_of_key {key : ForeignKeyPart} (hkey : key ∈ keys) :
    recorded? parts keys key.name = foreignKey? (keys.filter (·.name == key.name)) := by
  unfold recorded?
  cases hkeys : keys.filter (·.name == key.name) with
  | nil => exact absurd hkey (by simpa using List.filter_eq_nil_iff.mp hkeys key)
  | cons first rest =>
    -- what the indexes have left under the name is of another kind, and gives way
    have hstart : first.extend (indexed? parts key.name) = first.begun := by
      cases hc : indexed? parts key.name with
      | none => rfl
      | some known =>
        have hkind : known.kind ≠ .foreign :=
          kind_indexed? (fun part _ _ => part.begun_kind_ne_foreign) hc
        exact if_neg hkind
    rw [List.foldl_cons, hstart, foldl_extend rfl]
    rfl

theorem recorded?_of_no_key (h : ∀ key ∈ keys, key.name ≠ name) :
    recorded? parts keys name = indexed? parts name := by
  have hkeys : keys.filter (·.name == name) = [] := by simpa using h
  rw [recorded?, hkeys, List.foldl_nil]

theorem mem_listed_of_part {part : IndexPart} (hm : part ∈ parts) (hrole : part.role ≠ .plain) :
    part.begun ∈ listed parts keys :=
  List.mem_append_left _ (List.mem_map_of_mem (List.mem_filter.mpr ⟨hm, by simpa using hrole⟩))

theorem mem_listed_of_key {key : ForeignKeyPart} (hm : key ∈ keys) :
    key.begun ∈ listed parts keys :=
  List.mem_append_right _ (List.mem_map_of_mem hm)

theorem NamesApart.role_eq (h : NamesApart parts keys) {part other : IndexPart}
    (hm : part ∈ parts) (ho : other ∈ parts) (hpart : part.role ≠ .plain)
    (hother : other.role ≠ .plain) (hname : part.begun.name = other.begun.name) :
    part.role = other.role := by
  have hkinds := h _ (mem_listed_of_part hm hpart) _ (mem_listed_of_part ho hother) hname
  exact IndexPart.role_eq_of_kind hpart hother hkinds

theorem NamesApart.key_name_ne (h : NamesApart parts keys) {part : IndexPart} (hm : part ∈ parts)
    (hpart : part.role ≠ .plain) {key : ForeignKeyPart} (hk : key ∈ keys) :
    key.name ≠ part.begun.name := by
  intro hname
  have hkinds := h _ (mem_listed_of_key hk) _ (mem_listed_of_part hm hpart) hname
  exact part.begun_kind_ne_foreign hkinds.symm

/-- The constraint of a part covers the columns of all its parts. -/
theorem recorded?_of_part (h : NamesApart parts keys) {part : IndexPart} (hm : part ∈ parts)
    (hpart : part.role ≠ .plain) :
    recorded? parts keys part.begun.name = some
      { part.begun with
        columns := ((parts.filter fun other =>
          other.role = part.role ∧ other.begun.name = part.begun.name).map
            IndexPart.column).foldl appendNew [] } := by
  rw [recorded?_of_no_key fun key hk => h.key_name_ne hm hpart hk]
  refine indexed?_eq part.begun
    (fun other => other.role = part.role ∧ other.begun.name = part.begun.name) ?_ ?_
    ⟨part, hm, by simp⟩
  · intro other ho
    rw [IndexPart.slot?_eq_some_iff, decide_eq_true_iff]
    constructor
    · rintro ⟨hother, hname⟩
      exact ⟨h.role_eq ho hm hother hpart hname, hname⟩
    · rintro ⟨hrole, hname⟩
      exact ⟨hrole ▸ hpart, hname⟩
  · intro other _ hq
    obtain ⟨hrole, hname⟩ := of_decide_eq_true hq
    exact IndexPart.begun_eq_of_role hrole hname

theorem recorded?_unique (h : NamesApart parts keys) {part : IndexPart} (hm : part ∈ parts)
    (hrole : part.role = .unique) :
    recorded? parts keys part.name = some
      { name := part.name, kind := .unique,
        columns := (uniqueColumns parts part.name).foldl appendNew [] } := by
  have hrecorded := recorded?_of_part h hm (by simp [hrole])
  have hfilter : (parts.filter fun other =>
      other.role = part.role ∧ other.begun.name = part.begun.name) =
      parts.filter fun other => other.role = .unique ∧ other.name = part.name := by
    refine List.filter_congr fun other _ => ?_
    by_cases hother : other.role = .unique
    · simp [hother, hrole, IndexPart.begun_of_unique]
    · simp [hother, hrole]
  rwa [hfilter, IndexPart.begun_of_unique hrole] at hrecorded

theorem recorded?_primary (h : NamesApart parts keys) (hsome : primaryColumns parts ≠ []) :
    recorded? parts keys Table.primaryConstraintName = some
      { name := Table.primaryConstraintName, kind := .primary,
        columns := (primaryColumns parts).foldl appendNew [] } := by
  obtain ⟨column, hcolumn⟩ := List.exists_mem_of_ne_nil _ hsome
  obtain ⟨part, hpart, _⟩ := List.mem_map.mp hcolumn
  obtain ⟨hm, hrole⟩ := List.mem_filter.mp hpart
  have hrole : part.role = .primary := of_decide_eq_true hrole
  have hrecorded := recorded?_of_part h hm (by simp [hrole])
  have hfilter : (parts.filter fun other =>
      other.role = part.role ∧ other.begun.name = part.begun.name) =
      parts.filter (·.role = .primary) := by
    refine List.filter_congr fun other _ => ?_
    by_cases hother : other.role = .primary
    · simp [hother, hrole, IndexPart.begun_of_primary]
    · simp [hother, hrole]
  rwa [hfilter, IndexPart.begun_of_primary hrole] at hrecorded

/-- Without a part of a primary key no constraint is one. -/
theorem recorded?_not_primary (h : primaryColumns parts = []) {c : Constraint}
    (hc : recorded? parts keys name = some c) : c.kind ≠ .primary := by
  by_cases hkeys : ∃ key ∈ keys, key.name = name
  · obtain ⟨key, hm, rfl⟩ := hkeys
    rw [recorded?_of_key hm] at hc
    simp [kind_foreignKey? hc]
  · rw [recorded?_of_no_key fun key hm hname => hkeys ⟨key, hm, hname⟩] at hc
    refine kind_indexed? (fun part hm hslot => ?_) hc
    cases hrole : part.role with
    | plain => simp [IndexPart.slot?, hrole] at hslot
    | unique => simp [IndexPart.begun_of_unique hrole]
    | primary =>
      have hmem : part.column ∈ primaryColumns parts :=
        List.mem_map_of_mem (List.mem_filter.mpr ⟨hm, by simpa using hrole⟩)
      simp [h] at hmem

end

end PortableSql

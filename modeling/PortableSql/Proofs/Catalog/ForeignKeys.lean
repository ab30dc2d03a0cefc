import Mathlib.Data.List.Dedup
import PortableSql.Proofs.Catalog.Recorded
import PortableSql.Proofs.Number.Numeral

namespace PortableSql

open Folding

/-- What tells a foreign key from others: its name, or its number where it has none. -/
inductive KeyLabel where
  | named (name : String)
  | numbered (number : Int)
deriving DecidableEq

/-- A part of a foreign key, and what tells the key from others. -/
structure LabelledPart where
  label : KeyLabel
  part : ForeignKeyPart

/-- The end of the name that a foreign key with a number gets. -/
def keySuffix (number : Int) : String := s!"_{number}_fk"

section

variable {m n : Int}

theorem toList_keySuffix (n : Int) :
    (keySuffix n).toList = '_' :: (toString n).toList ++ "_fk".toList := by
  rw [keySuffix, String.toList_append, String.toList_append]
  rfl

theorem keySuffix_inj_of_suffix (h : (keySuffix m).toList <:+ (keySuffix n).toList) : m = n := by
  rw [toList_keySuffix, toList_keySuffix, List.suffix_append_self_iff] at h
  rcases List.suffix_cons_iff.mp h with h | h
  · exact Numeral.toString_int_injective (List.cons.inj h).2
  · -- the text of a number has no mark in it at which a shorter one could begin
    have hmark := Numeral.toNat_of_mem_toString (h.subset List.mem_cons_self)
    exact absurd hmark (by decide)

/-- A name ends in at most one number, whatever comes before it. -/
theorem keySuffix_unique {name : List Char} (hm : (keySuffix m).toList <:+ name)
    (hn : (keySuffix n).toList <:+ name) : m = n := by
  rcases List.suffix_or_suffix_of_suffix hm hn with h | h
  · exact keySuffix_inj_of_suffix h
  · exact (keySuffix_inj_of_suffix h).symm

end

/-- Whether a foreign key of the product may have the name in the table. -/
def Dialect.Names (d : Dialect) (label : KeyLabel) (name : String) : Prop :=
  match d, label with
  | .sqlite, .numbered number => (keySuffix number).toList <:+ name.toList
  | .sqlite, .named _ => False
  | _, .named known => name = known
  | _, .numbered _ => False

theorem Dialect.Names.label_eq {d : Dialect} {label other : KeyLabel} {name : String}
    (h : d.Names label name) (ho : d.Names other name) : label = other := by
  cases d with
  | sqlite =>
    cases label with
    | named => cases h
    | numbered m =>
      cases other with
      | named => cases ho
      | numbered n => rw [keySuffix_unique h ho]
  | mysql | postgresql | sqlserver =>
    cases label with
    | numbered => cases h
    | named known =>
      cases other with
      | numbered => cases ho
      | named => exact congrArg KeyLabel.named (h.symm.trans ho)

theorem foreignKey?_concat (parts : List ForeignKeyPart) (part : ForeignKeyPart) :
    foreignKey? (parts ++ [part]) = some (part.extend (foreignKey? parts)) := by
  cases parts with
  | nil => rfl
  | cons first rest => simp [foreignKey?, ForeignKeyPart.extend, ForeignKeyPart.begun]

/-- The foreign key that the parts with a label give. -/
def assembled? (keys : List LabelledPart) (label : KeyLabel) : Option Constraint :=
  foreignKey? ((keys.filter (·.label = label)).map LabelledPart.part)

/-- The part under the name of its key, if the key is known. -/
def LabelledPart.under (key : LabelledPart) (keys : List LabelledPart) : ForeignKeyPart :=
  { key.part with name := ((assembled? keys key.label).map Constraint.name).getD key.part.name }

section

variable {keys : List LabelledPart} {label : KeyLabel} {c : Constraint}

theorem assembled?_concat (keys : List LabelledPart) (key : LabelledPart) (label : KeyLabel) :
    assembled? (keys ++ [key]) label =
      if key.label = label then some (key.part.extend (assembled? keys label))
      else assembled? keys label := by
  unfold assembled?
  by_cases hlabel : key.label = label
  · rw [if_pos hlabel, ← foreignKey?_concat]
    simp [hlabel]
  · simp [hlabel]

/-- A foreign key begins with the first part of its label. -/
theorem exists_first_of_assembled? (h : assembled? keys label = some c) :
    ∃ key ∈ keys, key.label = label ∧ c.name = key.part.name := by
  unfold assembled? at h
  cases hgroup : keys.filter (·.label = label) with
  | nil =>
    rw [hgroup] at h
    cases h
  | cons first rest =>
    obtain ⟨hm, hlabel⟩ := List.mem_filter.mp (hgroup ▸ List.mem_cons_self : first ∈ _)
    rw [hgroup] at h
    obtain rfl := Option.some.inj h
    exact ⟨first, hm, of_decide_eq_true hlabel, rfl⟩

theorem assembled?_admits {t : Table}
    (hcolumns : ∀ key ∈ keys, key.part.column ∈ t.columnNames)
    (h : assembled? keys label = some c) : t.Admits c := by
  unfold assembled? at h
  cases hgroup : keys.filter (·.label = label) with
  | nil =>
    rw [hgroup] at h
    cases h
  | cons first rest =>
    rw [hgroup] at h
    obtain rfl := Option.some.inj h
    refine ⟨⟨by simp, fun column hm => ?_⟩, by simp, by simp [ForeignKeyPart.begun]⟩
    obtain ⟨part, hpart, rfl⟩ := List.mem_map.mp hm
    rw [← List.map_cons, ← hgroup] at hpart
    obtain ⟨key, hkey, rfl⟩ := List.mem_map.mp hpart
    exact hcolumns key (List.mem_filter.mp hkey).1

end

/-- Constraints under distinct names, of which the foreign keys are those that the parts give. -/
structure Assembled (d : Dialect) (keys : List LabelledPart) (constraints : List Constraint) :
    Prop where
  named : ∀ key ∈ keys, d.Names key.label key.part.name
  distinct : (constraints.map Constraint.name).Nodup
  foreign_iff : ∀ c, c ∈ constraints ∧ c.kind = .foreign ↔
    ∃ label, assembled? keys label = some c

namespace Assembled

variable {d : Dialect} {keys : List LabelledPart} {constraints : List Constraint}
  {label : KeyLabel} {c : Constraint}

theorem names (h : Assembled d keys constraints) (hc : assembled? keys label = some c) :
    d.Names label c.name := by
  obtain ⟨key, hm, rfl, hname⟩ := exists_first_of_assembled? hc
  exact hname ▸ h.named key hm

theorem find? (h : Assembled d keys constraints) (hc : assembled? keys label = some c) :
    Keyed.find? Constraint.name c.name constraints = some c :=
  Keyed.find?_of_mem h.distinct ((h.foreign_iff c).mpr ⟨label, hc⟩).1

/-- No foreign key has a name that another may have. -/
theorem assembled?_of_names (h : Assembled d keys constraints) (hm : c ∈ constraints)
    (hkind : c.kind = .foreign) (hname : d.Names label c.name) :
    assembled? keys label = some c := by
  obtain ⟨other, hc⟩ := (h.foreign_iff c).mp ⟨hm, hkind⟩
  obtain rfl := (h.names hc).label_eq hname
  exact hc

/-- What has the name of a part's key is that key, or no foreign key. -/
theorem extend_find? (h : Assembled d keys constraints) {key : LabelledPart}
    (hname : d.Names key.label key.part.name) :
    (key.under keys).extend (Keyed.find? Constraint.name (key.under keys).name constraints) =
      key.part.extend (assembled? keys key.label) := by
  cases hc : assembled? keys key.label with
  | some c =>
    have hknown : (key.under keys).name = c.name := by simp [LabelledPart.under, hc]
    have hkind : c.kind = .foreign := kind_foreignKey? hc
    rw [hknown, h.find? hc, ForeignKeyPart.extend, ForeignKeyPart.extend, if_pos hkind,
      if_pos hkind]
    rfl
  | none =>
    have hnew : key.under keys = key.part := by simp [LabelledPart.under, hc]
    rw [hnew]
    cases hfound : Keyed.find? Constraint.name key.part.name constraints with
    | none => rfl
    | some c =>
      obtain ⟨hm, hcname⟩ := Keyed.mem_of_find? hfound
      have hkind : c.kind ≠ .foreign := by
        intro hkind
        have hknown := h.assembled?_of_names hm hkind (hcname ▸ hname)
        simp [hc] at hknown
      exact if_neg hkind

/-- A further part goes into the key of its label, and no other key changes. -/
theorem put (h : Assembled d keys constraints) {key : LabelledPart}
    (hname : d.Names key.label key.part.name) :
    Assembled d (keys ++ [key])
      (Keyed.put Constraint.name (key.part.extend (assembled? keys key.label)) constraints) := by
  have hlabel : assembled? (keys ++ [key]) key.label =
      some (key.part.extend (assembled? keys key.label)) := by
    rw [assembled?_concat, if_pos rfl]
  have hother : ∀ label, key.label ≠ label →
      assembled? (keys ++ [key]) label = assembled? keys label := by
    intro label hne
    rw [assembled?_concat, if_neg hne]
  have hkeep : ∀ known, assembled? keys key.label = some known →
      known.name = (key.part.extend (assembled? keys key.label)).name := by
    intro known hknown
    rw [hknown, ForeignKeyPart.extend, if_pos (kind_foreignKey? hknown)]
  generalize key.part.extend (assembled? keys key.label) = c at hlabel hkeep
  have hnamed : ∀ other ∈ keys ++ [key], d.Names other.label other.part.name := by
    intro other hm
    rcases List.mem_append.mp hm with hm | hm
    · exact h.named other hm
    · obtain rfl := List.mem_singleton.mp hm
      exact hname
  have hc : d.Names key.label c.name := by
    obtain ⟨first, hm, hfirst, hcname⟩ := exists_first_of_assembled? hlabel
    rw [hcname, ← hfirst]
    exact hnamed first hm
  refine ⟨hnamed, Keyed.nodup_put h.distinct, fun other => ?_⟩
  rw [Keyed.mem_put h.distinct]
  constructor
  · rintro ⟨rfl | ⟨hm, hne⟩, hkind⟩
    · exact ⟨key.label, hlabel⟩
    · obtain ⟨label, ho⟩ := (h.foreign_iff other).mp ⟨hm, hkind⟩
      refine ⟨label, ?_⟩
      rw [hother, ho]
      rintro rfl
      exact hne (hkeep other ho)
  · rintro ⟨label, ho⟩
    refine ⟨?_, kind_foreignKey? ho⟩
    by_cases hl : key.label = label
    · subst hl
      exact .inl (Option.some.inj (ho.symm.trans hlabel))
    · rw [hother label hl] at ho
      refine .inr ⟨((h.foreign_iff other).mpr ⟨label, ho⟩).1, fun hsame => hl ?_⟩
      exact hc.label_eq (hsame ▸ h.names ho)

end Assembled

end PortableSql

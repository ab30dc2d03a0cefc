import Mathlib.Data.List.Induction
import Mathlib.Data.List.Nodup
import PortableSql.Proofs.Catalog.Updates

namespace PortableSql

/-- Two listings with the same rows under each label, interleaved in whatever way. -/
def Interleaved {α κ : Type} [DecidableEq κ] (label : α → κ) (xs ys : List α) : Prop :=
  ∀ k, xs.filter (label · = k) = ys.filter (label · = k)

section

variable {α β κ : Type} [DecidableEq κ] {xs ys : List α}

theorem Interleaved.mem_iff {label : α → κ} (h : Interleaved label xs ys) {x : α} :
    x ∈ xs ↔ x ∈ ys := by
  have hx : ∀ zs : List α, x ∈ zs ↔ x ∈ zs.filter (label · = label x) := by simp
  rw [hx xs, hx ys, h (label x)]

theorem Interleaved.mem_labels_iff {label : α → κ} (h : Interleaved label xs ys) {k : κ} :
    k ∈ xs.map label ↔ k ∈ ys.map label := by
  simp only [List.mem_map, h.mem_iff]

theorem Interleaved.filter {label : α → κ} (h : Interleaved label xs ys) (p : α → Bool) :
    Interleaved label (xs.filter p) (ys.filter p) := by
  intro k
  rw [List.filter_comm, List.filter_comm _ _ ys, h k]

/-- Entries with different labels may change places. -/
theorem interleaved_swap {label : α → κ} {x y : α} (h : label x ≠ label y) :
    Interleaved label (x :: y :: xs) (y :: x :: xs) := by
  intro k
  by_cases hx : label x = k
  · have hy : label y ≠ k := fun hy => h (hx.trans hy.symm)
    simp [hx, hy]
  · by_cases hy : label y = k
    · simp [hx, hy]
    · simp [hx, hy]

/-- What is asked of an entry after another with its label is asked under each label apart. -/
theorem Interleaved.pairwise {label : α → κ} {p : α → Prop} (h : Interleaved label xs ys)
    (hxs : xs.Pairwise fun x later => label x = label later → p later) :
    ys.Pairwise fun x later => label x = label later → p later := by
  have hgroup : ∀ k, (ys.filter (label · = k)).Pairwise fun x later =>
      label x = label later → p later := by
    intro k
    rw [← h k]
    exact hxs.sublist List.filter_sublist
  clear h hxs
  induction ys with
  | nil => exact .nil
  | cons y ys ih =>
    refine List.pairwise_cons.mpr ⟨fun later hm hlabel => ?_, ih fun k => ?_⟩
    · have hcons := hgroup (label y)
      rw [List.filter_cons_of_pos (by simp)] at hcons
      refine (List.pairwise_cons.mp hcons).1 later (List.mem_filter.mpr ⟨hm, ?_⟩) hlabel
      simp [hlabel]
    · exact (hgroup k).sublist ((List.sublist_cons_self y ys).filter _)

theorem filter_filterMap_label (part? : α → Option β) (label : β → κ) (k : κ) :
    (xs.filterMap part?).filter (label · = k) =
      (xs.filter fun x => (part? x).map label = some k).filterMap part? := by
  rw [List.filter_filterMap, List.filterMap_filter]
  congr 1
  funext x
  cases part? x with
  | none => rfl
  | some part => simp [Option.filter]

/-- The parts that two listings give are interleaved as the listings are. -/
theorem Interleaved.parts {part? : α → Option β} {label : β → κ}
    (h : Interleaved (fun x => (part? x).map label) xs ys) :
    Interleaved label (xs.filterMap part?) (ys.filterMap part?) := by
  intro k
  rw [filter_filterMap_label, filter_filterMap_label, h (some k)]

end

/-- The texts of a list, each at its first place. -/
def distinct (xs : List String) : List String := xs.foldl appendNew []

section

variable {xs : List String} {x : String}

theorem mem_appendNew {columns : List String} {column : String} :
    x ∈ appendNew columns column ↔ x = column ∨ x ∈ columns :=
  Table.mem_unless_contains Table.mem_append_singleton x

theorem distinct_concat (xs : List String) (x : String) :
    distinct (xs ++ [x]) = appendNew (distinct xs) x := by
  simp [distinct]

theorem nodup_distinct (xs : List String) : (distinct xs).Nodup :=
  nodup_foldl_appendNew List.nodup_nil xs

theorem mem_distinct : x ∈ distinct xs ↔ x ∈ xs := by
  induction xs using List.reverseRecOn with
  | nil => rfl
  | append_singleton xs y ih =>
    rw [distinct_concat, mem_appendNew, ih, List.mem_append, List.mem_singleton, or_comm]

theorem appendNew_sublist (columns : List String) (column : String) :
    (appendNew columns column).Sublist (columns ++ [column]) := by
  unfold appendNew
  split
  · exact List.sublist_append_left _ _
  · exact List.Sublist.refl _

theorem distinct_sublist (xs : List String) : (distinct xs).Sublist xs := by
  induction xs using List.reverseRecOn with
  | nil => exact List.Sublist.refl _
  | append_singleton xs y ih =>
    rw [distinct_concat]
    exact (appendNew_sublist _ _).trans (ih.append_right _)

/-- No text is left out just where none comes twice. -/
theorem length_distinct_iff : (distinct xs).length = xs.length ↔ xs.Nodup := by
  rw [← foldl_appendNew_eq_iff]
  exact ⟨(distinct_sublist xs).eq_of_length, congrArg List.length⟩

theorem distinct_filter (p : String → Bool) (xs : List String) :
    distinct (xs.filter p) = (distinct xs).filter p := by
  induction xs using List.reverseRecOn with
  | nil => rfl
  | append_singleton xs y ih =>
    rw [List.filter_append, distinct_concat]
    by_cases hy : p y = true
    · rw [List.filter_cons_of_pos hy, List.filter_nil, distinct_concat, ih]
      by_cases hm : y ∈ distinct xs
      · simp [appendNew, hm, hy]
      · simp [appendNew, hm, hy]
    · rw [List.filter_cons_of_neg hy, List.filter_nil, List.append_nil, ih]
      by_cases hm : y ∈ distinct xs
      · simp [appendNew, hm]
      · simp [appendNew, hm, hy]

theorem distinct_perm {xs ys : List String} (h : ∀ x, x ∈ xs ↔ x ∈ ys) :
    (distinct xs).Perm (distinct ys) := by
  refine (List.perm_ext_iff_of_nodup (nodup_distinct xs) (nodup_distinct ys)).mpr fun x => ?_
  rw [mem_distinct, mem_distinct, h]

/-- Where one label is of parts of one sort, the labels of that sort may as well be looked for among
all. -/
theorem filterMap_distinct_filter {α β : Type} {parts : List β} {label : β → String} {q : β → Bool}
    (hq : ∀ part ∈ parts, ∀ other ∈ parts, label part = label other → q part = q other)
    {item? : List β → Option α} (hnil : item? [] = none) :
    (distinct ((parts.filter q).map label)).filterMap
        (fun k => item? ((parts.filter q).filter (label · = k))) =
      (distinct (parts.map label)).filterMap
        fun k => item? ((parts.filter (label · = k)).filter q) := by
  have hmap : (parts.filter q).map label =
      (parts.map label).filter fun k => parts.any fun part => label part = k && q part := by
    rw [List.filter_map]
    refine congrArg (List.map label) (List.filter_congr fun part hm => ?_)
    rw [Bool.eq_iff_iff, Function.comp, List.any_eq_true]
    constructor
    · exact fun hpart => ⟨part, hm, by simp [hpart]⟩
    · rintro ⟨other, ho, hother⟩
      obtain ⟨hlabel, hother⟩ := Bool.and_eq_true_iff.mp hother
      rwa [hq part hm other ho (of_decide_eq_true hlabel).symm]
  rw [hmap, distinct_filter, List.filterMap_filter]
  refine List.filterMap_congr fun k _ => ?_
  split
  next => rw [List.filter_comm]
  next hnone =>
    have hempty : (parts.filter (label · = k)).filter q = [] := by
      refine List.filter_eq_nil_iff.mpr fun part hm hpart => hnone ?_
      obtain ⟨hm, hlabel⟩ := List.mem_filter.mp hm
      exact List.any_eq_true.mpr ⟨part, hm, by rw [hlabel, hpart]; rfl⟩
    rw [hempty, hnil]

end

namespace Keyed

variable {α β : Type} {key : α → String} {slot : β → String} {update : β → Option α → α}

/-- Takes a part into the entry of its slot, which begins with it if there is none. -/
def take (key : α → String) (slot : β → String) (update : β → Option α → α) (xs : List α)
    (part : β) : List α :=
  put key (update part (find? key (slot part) xs)) xs

/-- What the parts of one slot come to. -/
def gather? (update : β → Option α → α) (parts : List β) : Option α :=
  parts.foldl (fun known? part => some (update part known?)) none

/-- Whether an update puts an entry under the slot of its part. -/
def KeepsSlot (key : α → String) (slot : β → String) (update : β → Option α → α) : Prop :=
  ∀ part known?, (∀ known, known? = some known → key known = slot part) →
    key (update part known?) = slot part

theorem gather?_concat (parts : List β) (part : β) (k : String) :
    gather? update ((parts ++ [part]).filter (slot · = k)) =
      if slot part = k then some (update part (gather? update (parts.filter (slot · = k))))
      else gather? update (parts.filter (slot · = k)) := by
  by_cases hk : slot part = k
  · simp [gather?, hk]
  · simp [gather?, hk]

theorem key_of_gather? (hupdate : KeepsSlot key slot update) {parts : List β} {k : String} {x : α}
    (h : gather? update (parts.filter (slot · = k)) = some x) : key x = k := by
  induction parts using List.reverseRecOn generalizing x with
  | nil => cases h
  | append_singleton parts part ih =>
    rw [gather?_concat] at h
    split at h
    next hk =>
      obtain rfl := Option.some.inj h
      rw [hupdate part _ fun known hknown => (ih hknown).trans hk.symm, hk]
    next => exact ih h

theorem mem_of_gather? {parts : List β} {k : String} {x : α}
    (h : gather? update (parts.filter (slot · = k)) = some x) : k ∈ parts.map slot := by
  by_contra hk
  have hnone : parts.filter (slot · = k) = [] := by
    refine List.filter_eq_nil_iff.mpr fun part hm hslot => hk ?_
    exact List.mem_map.mpr ⟨part, hm, of_decide_eq_true hslot⟩
  rw [hnone] at h
  cases h

theorem gather?_isSome {parts : List β} (h : parts ≠ []) : (gather? update parts).isSome := by
  induction parts using List.reverseRecOn with
  | nil => exact absurd rfl h
  | append_singleton parts part => simp [gather?]

section

variable {item? : String → Option α} {ks : List String} {k : String}

theorem find?_filterMap (hkey : ∀ k x, item? k = some x → key x = k)
    (hks : ∀ x, item? k = some x → k ∈ ks) : find? key k (ks.filterMap item?) = item? k := by
  induction ks with
  | nil =>
    cases hk : item? k with
    | none => rfl
    | some x => exact absurd (hks x hk) (by simp)
  | cons s ks ih =>
    by_cases hs : s = k
    · subst hs
      cases hx : item? s with
      | some x => rw [List.filterMap_cons_some hx, find?, if_pos (hkey s x hx)]
      | none =>
        rw [List.filterMap_cons_none hx, ← hx]
        exact ih fun x hx' => absurd hx' (by simp [hx])
    · have hrest := ih fun x hx => (List.mem_cons.mp (hks x hx)).resolve_left (Ne.symm hs)
      cases hx : item? s with
      | some x =>
        rw [List.filterMap_cons_some hx, find?, if_neg (by rwa [hkey s x hx]), hrest]
      | none => rw [List.filterMap_cons_none hx, hrest]

/-- An entry that is put among others is at the place of its key, which is the last if it is new. -/
theorem put_filterMap {x : α} (hkey : ∀ k x, item? k = some x → key x = k)
    (hsome : ∀ s ∈ ks, (item? s).isSome) (hnodup : ks.Nodup) :
    put key x (ks.filterMap item?) =
      (appendNew ks (key x)).filterMap fun s => if key x = s then some x else item? s := by
  induction ks with
  | nil => simp [put, appendNew]
  | cons s ks ih =>
    obtain ⟨hs, hks⟩ := List.nodup_cons.mp hnodup
    obtain ⟨y, hy⟩ := Option.isSome_iff_exists.mp (hsome s List.mem_cons_self)
    rw [List.filterMap_cons_some hy, put, hkey s y hy]
    split
    next hx =>
      subst hx
      have hrest : ks.filterMap (fun t => if key x = t then some x else item? t) =
          ks.filterMap item? := by
        refine List.filterMap_congr fun t ht => if_neg ?_
        rintro rfl
        exact hs ht
      simp [appendNew, hrest]
    next hx =>
      have hne : key x ≠ s := fun h => hx h.symm
      have happend : appendNew (s :: ks) (key x) = s :: appendNew ks (key x) := by
        unfold appendNew
        simp only [List.contains_cons, beq_eq_false_iff_ne.mpr hne, Bool.false_or]
        split <;> rfl
      rw [happend, ih (fun t ht => hsome t (List.mem_cons_of_mem _ ht)) hks, List.filterMap_cons,
        if_neg hne, hy]

end

/-- Parts that are taken one after the other come to one entry for each slot, in the order in which
the slots first appear, whatever comes between the parts of a slot. -/
theorem foldl_take (hupdate : KeepsSlot key slot update) (parts : List β) :
    parts.foldl (take key slot update) [] =
      (distinct (parts.map slot)).filterMap fun k =>
        gather? update (parts.filter (slot · = k)) := by
  induction parts using List.reverseRecOn with
  | nil => rfl
  | append_singleton parts part ih =>
    have hkey : ∀ k x, gather? update (parts.filter (slot · = k)) = some x → key x = k :=
      fun _ _ h => key_of_gather? hupdate h
    have hfind : find? key (slot part)
        ((distinct (parts.map slot)).filterMap fun k =>
          gather? update (parts.filter (slot · = k))) =
        gather? update (parts.filter (slot · = slot part)) :=
      find?_filterMap hkey fun _ h => mem_distinct.mpr (mem_of_gather? h)
    have hsome : ∀ k ∈ distinct (parts.map slot),
        (gather? update (parts.filter (slot · = k))).isSome := by
      intro k hk
      obtain ⟨other, hm, rfl⟩ := List.mem_map.mp (mem_distinct.mp hk)
      exact gather?_isSome (List.ne_nil_of_mem (List.mem_filter.mpr ⟨hm, by simp⟩))
    have hslot : key (update part (gather? update (parts.filter (slot · = slot part)))) =
        slot part := hupdate part _ fun known hknown => hkey _ known hknown
    rw [List.foldl_append, List.foldl_cons, List.foldl_nil, ih, take, hfind,
      put_filterMap hkey hsome (nodup_distinct _), hslot, List.map_append, List.map_singleton,
      distinct_concat]
    refine List.filterMap_congr fun k _ => ?_
    rw [gather?_concat]
    split
    next hk => rw [hk]
    next => rfl

end Keyed

end PortableSql

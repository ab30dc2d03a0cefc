import PortableSql.Proofs.Keyed

namespace PortableSql.Keyed

variable {α : Type}

/-- An entry takes the place of the one with its key, or else comes to the end. -/
inductive Puts (key : α → String) (x : α) : List α → List α → Prop where
  | replaces {before after : List α} {old : α} (same : key old = key x)
      (others : ∀ y ∈ before ++ after, key y ≠ key x) :
      Puts key x (before ++ old :: after) (before ++ x :: after)
  | appends {xs : List α} (others : ∀ y ∈ xs, key y ≠ key x) : Puts key x xs (xs ++ [x])

/-- The entry with the key goes, and nothing else. -/
inductive Erases (key : α → String) (k : String) : List α → List α → Prop where
  | removes {before after : List α} {old : α} (same : key old = k)
      (others : ∀ y ∈ before ++ after, key y ≠ k) :
      Erases key k (before ++ old :: after) (before ++ after)

section

variable {key : α → String} {k : String} {x y : α} {xs ys : List α}

theorem Puts.cons (h : Puts key x xs ys) (hy : key y ≠ key x) :
    Puts key x (y :: xs) (y :: ys) := by
  have hcons : ∀ {zs : List α}, (∀ z ∈ zs, key z ≠ key x) → ∀ z ∈ y :: zs, key z ≠ key x :=
    fun hzs => List.forall_mem_cons.mpr ⟨hy, hzs⟩
  cases h with
  | @replaces before after old same others =>
    have hstays : Puts key x (y :: before ++ old :: after) (y :: before ++ x :: after) :=
      .replaces same (hcons others)
    exact hstays
  | appends others => exact .appends (hcons others)

theorem Erases.cons (h : Erases key k xs ys) (hy : key y ≠ k) : Erases key k (y :: xs) (y :: ys) := by
  cases h with
  | @removes before after old same others =>
    have hstays : Erases key k (y :: before ++ old :: after) (y :: before ++ after) :=
      .removes same (List.forall_mem_cons.mpr ⟨hy, others⟩)
    exact hstays

theorem puts_put (distinct : (xs.map key).Nodup) : Puts key x xs (put key x xs) := by
  induction xs with
  | nil => exact .appends (by simp)
  | cons y xs ih =>
    obtain ⟨hy, hxs⟩ := List.nodup_cons.mp distinct
    by_cases hk : key y = key x
    · have hothers : ∀ z ∈ [] ++ xs, key z ≠ key x := by
        intro z hz hzx
        exact hy (List.mem_map.mpr ⟨z, hz, hzx.trans hk.symm⟩)
      have hfirst : Puts key x ([] ++ y :: xs) ([] ++ x :: xs) := .replaces hk hothers
      rw [put, if_pos hk]
      exact hfirst
    · rw [put, if_neg hk]
      exact (ih hxs).cons hk

theorem erase_eq_self (h : k ∉ xs.map key) : erase key k xs = xs := by
  refine List.filter_eq_self.mpr fun y hy => ?_
  have hyk : key y ≠ k := by
    rintro rfl
    exact h (List.mem_map_of_mem hy)
  simpa using hyk

theorem erases_erase (distinct : (xs.map key).Nodup) (h : k ∈ xs.map key) :
    Erases key k xs (erase key k xs) := by
  induction xs with
  | nil => cases h
  | cons y xs ih =>
    obtain ⟨hy, hxs⟩ := List.nodup_cons.mp distinct
    by_cases hk : key y = k
    · subst hk
      have hrest : erase key (key y) (y :: xs) = xs := by
        rw [erase, List.filter_cons_of_neg (by simp)]
        exact erase_eq_self hy
      have hothers : ∀ z ∈ [] ++ xs, key z ≠ key y := by
        intro z hz hzy
        exact hy (List.mem_map.mpr ⟨z, hz, hzy⟩)
      have hfirst : Erases key (key y) ([] ++ y :: xs) ([] ++ xs) := .removes rfl hothers
      rw [hrest]
      exact hfirst
    · have hrest : k ∈ xs.map key := (List.mem_cons.mp h).resolve_left (Ne.symm hk)
      rw [erase, List.filter_cons_of_pos (by simpa using hk)]
      exact (ih hxs hrest).cons hk

theorem find?_erase : find? key k (erase key k xs) = none := by
  cases h : find? key k (erase key k xs) with
  | none => rfl
  | some x =>
    obtain ⟨hx, hk⟩ := mem_of_find? h
    simp [erase, hk] at hx

theorem find?_erase_of_ne {j : String} (h : j ≠ k) :
    find? key k (erase key j xs) = find? key k xs := by
  induction xs with
  | nil => rfl
  | cons y xs ih =>
    by_cases hj : key y = j
    · have hk : key y ≠ k := fun hk => h (hj.symm.trans hk)
      rw [erase, List.filter_cons_of_neg (by simpa using hj), find?, if_neg hk]
      exact ih
    · rw [erase, List.filter_cons_of_pos (by simpa using hj), find?, find?]
      split
      · rfl
      · exact ih

end

/-- A change of entries with keys. -/
inductive Change (α : Type) where
  | put (entry : α)
  | erase (key : String)

section

variable (key : α → String)

def Change.applyTo (xs : List α) : Change α → List α
  | .put x => Keyed.put key x xs
  | .erase k => Keyed.erase key k xs

/-- The entries after changes of none at all, the latest change first. -/
def entries : List (Change α) → List α
  | [] => []
  | change :: earlier => change.applyTo key (entries earlier)

/-- The last addition for the key, unless the key was removed since. -/
def last? (k : String) : List (Change α) → Option α
  | [] => none
  | .put x :: earlier => if key x = k then some x else last? k earlier
  | .erase j :: earlier => if j = k then none else last? k earlier

/-- The number of changes before the first addition for the key since its last removal. -/
def since? (k : String) : List (Change α) → Option Nat
  | [] => none
  | .put x :: earlier =>
    if key x = k then (since? k earlier).or (some earlier.length) else since? k earlier
  | .erase j :: earlier => if j = k then none else since? k earlier

/-- Both keys are there, and the first was added before the second. -/
def AddedBefore (changes : List (Change α)) (j k : String) : Prop :=
  ∃ m ∈ since? key j changes, ∃ n ∈ since? key k changes, m < n

/-- The entries have the keys that were added and not removed since, in the order of these
additions, each with the last entry that was added for it. -/
structure Follows (changes : List (Change α)) (xs : List α) : Prop where
  listed : ∀ k, k ∈ xs.map key ↔ (since? key k changes).isSome
  ordered : (xs.map key).Pairwise (AddedBefore key changes)
  found : ∀ k, find? key k xs = last? key k changes

end

variable {key : α → String} {k : String} {changes : List (Change α)}

theorem since?_lt_length {n : Nat} (h : since? key k changes = some n) : n < changes.length := by
  induction changes with
  | nil => cases h
  | cons change earlier ih =>
    have hlt : since? key k earlier = some n → n < earlier.length + 1 :=
      fun he => Nat.lt_succ_of_lt (ih he)
    cases change with
    | put x =>
      unfold since? at h
      split at h
      next =>
        cases he : since? key k earlier with
        | some m =>
          obtain rfl : m = n := by simpa [he] using h
          exact hlt he
        | none =>
          obtain rfl : earlier.length = n := by simpa [he] using h
          exact Nat.lt_succ_self _
      next => exact hlt h
    | erase j =>
      unfold since? at h
      split at h
      next => cases h
      next => exact hlt h

theorem find?_entries (changes : List (Change α)) (k : String) :
    find? key k (entries key changes) = last? key k changes := by
  induction changes with
  | nil => rfl
  | cons change earlier ih =>
    cases change with
    | put x =>
      rw [entries, Change.applyTo, last?]
      split
      next h => exact h ▸ find?_put x
      next h => exact (find?_put_of_ne h).trans ih
    | erase j =>
      rw [entries, Change.applyTo, last?]
      split
      next h => exact h ▸ find?_erase
      next h => exact (find?_erase_of_ne h).trans ih

theorem since?_put {x : α} {n : Nat} (h : since? key k changes = some n) :
    since? key k (.put x :: changes) = some n := by
  unfold since?
  split
  next => rw [h, Option.some_or]
  next => exact h

theorem AddedBefore.put {j : String} (x : α) (h : AddedBefore key changes j k) :
    AddedBefore key (.put x :: changes) j k := by
  obtain ⟨m, hm, n, hn, hlt⟩ := h
  exact ⟨m, since?_put hm, n, since?_put hn, hlt⟩

theorem AddedBefore.erase {i j : String} (h : AddedBefore key changes j k) (hj : i ≠ j)
    (hk : i ≠ k) : AddedBefore key (.erase i :: changes) j k := by
  obtain ⟨m, hm, n, hn, hlt⟩ := h
  refine ⟨m, ?_, n, ?_, hlt⟩
  · exact (if_neg hj).trans hm
  · exact (if_neg hk).trans hn

theorem mem_keys_entries (changes : List (Change α)) (k : String) :
    k ∈ (entries key changes).map key ↔ (since? key k changes).isSome := by
  induction changes with
  | nil => simp [entries, since?]
  | cons change earlier ih =>
    cases change with
    | put x =>
      rw [entries, Change.applyTo, since?, mem_keys_put, ih]
      split
      next h => simp [h]
      next h => simp [Ne.symm h]
    | erase j =>
      rw [entries, Change.applyTo, since?, keys_erase, List.mem_filter, ih]
      split
      next h => simp [h]
      next h => simp [Ne.symm h]

theorem ordered_entries (key : α → String) (changes : List (Change α)) :
    ((entries key changes).map key).Pairwise (AddedBefore key changes) := by
  induction changes with
  | nil => exact .nil
  | cons change earlier ih =>
    cases change with
    | put x =>
      have hkept := ih.imp (AddedBefore.put x)
      rw [entries, Change.applyTo, keys_put]
      split
      next => exact hkept
      next hx =>
        -- a new key is added after all that are there
        have hnone : since? key (key x) earlier = none := by
          rwa [mem_keys_entries, Option.not_isSome_iff_eq_none] at hx
        have hnew : since? key (key x) (.put x :: earlier) = some earlier.length := by
          rw [since?, if_pos rfl, hnone, Option.none_or]
        refine List.pairwise_append.mpr ⟨hkept, List.pairwise_singleton _ _, ?_⟩
        intro j hj k hk
        obtain rfl := List.mem_singleton.mp hk
        obtain ⟨n, hn⟩ := Option.isSome_iff_exists.mp ((mem_keys_entries earlier j).mp hj)
        exact ⟨n, since?_put hn, _, hnew, since?_lt_length hn⟩
    | erase i =>
      rw [entries, Change.applyTo, keys_erase]
      refine (ih.filter _).imp_of_mem ?_
      intro j k hj hk h
      have hne : ∀ l ∈ ((entries key earlier).map key).filter (· != i), i ≠ l := by
        intro l hl
        exact Ne.symm (by simpa using (List.mem_filter.mp hl).2)
      exact h.erase (hne j hj) (hne k hk)

theorem follows_entries (key : α → String) (changes : List (Change α)) :
    Follows key changes (entries key changes) where
  listed := mem_keys_entries changes
  ordered := ordered_entries key changes
  found := find?_entries changes

end PortableSql.Keyed

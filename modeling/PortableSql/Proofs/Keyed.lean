import PortableSql.Keyed
import PortableSql.SortedMap

namespace PortableSql

namespace Keyed

variable {α : Type} {key : α → String} {k : String} {x y : α} {xs : List α}

theorem mem_of_find? (h : find? key k xs = some x) : x ∈ xs ∧ key x = k := by
  induction xs with
  | nil => cases h
  | cons z zs ih =>
    by_cases hz : key z = k
    · obtain rfl : z = x := by simpa [find?, hz] using h
      exact ⟨List.mem_cons_self, hz⟩
    · obtain ⟨hm, hk⟩ := ih (by simpa [find?, hz] using h)
      exact ⟨List.mem_cons_of_mem _ hm, hk⟩

theorem has_iff : has key k xs = true ↔ k ∈ xs.map key := by
  induction xs with
  | nil => simp [has, find?]
  | cons z zs ih =>
    by_cases hz : key z = k
    · simp [has, find?, hz]
    · simpa [has, find?, hz, Ne.symm hz] using ih

theorem find?_of_mem {key : α → String} (distinct : (xs.map key).Nodup) (h : x ∈ xs) :
    find? key (key x) xs = some x := by
  induction xs with
  | nil => cases h
  | cons z zs ih =>
    obtain ⟨hz, hzs⟩ := List.nodup_cons.mp distinct
    rcases List.mem_cons.mp h with rfl | hx
    · exact if_pos rfl
    · have hne : key z ≠ key x := by
        intro hk
        exact hz (hk ▸ List.mem_map_of_mem hx)
      rw [find?, if_neg hne]
      exact ih hzs hx

theorem find?_put {key : α → String} (x : α) : find? key (key x) (put key x xs) = some x := by
  induction xs with
  | nil => simp [put, find?]
  | cons z zs ih =>
    by_cases hz : key z = key x
    · simp [put, find?, hz]
    · simpa [put, find?, hz] using ih

theorem find?_put_of_ne (h : key x ≠ k) : find? key k (put key x xs) = find? key k xs := by
  induction xs with
  | nil => simp [put, find?, h]
  | cons z zs ih =>
    by_cases hz : key z = key x
    · simp [put, find?, hz, h]
    · simp [put, find?, hz, ih]

/-- What holds only of entries with one key is found by the key. -/
theorem find?_of_named {p : α → Bool} (distinct : (xs.map key).Nodup)
    (named : ∀ x ∈ xs, p x = true → key x = k) : xs.find? p = (find? key k xs).filter p := by
  induction xs with
  | nil => rfl
  | cons z zs ih =>
    obtain ⟨hz, hzs⟩ := List.nodup_cons.mp distinct
    by_cases hk : key z = k
    · have hnone : zs.find? p = none := by
        refine List.find?_eq_none.mpr fun w hw hpw => hz ?_
        rw [hk, ← named w (List.mem_cons_of_mem _ hw) hpw]
        exact List.mem_map_of_mem hw
      by_cases hp : p z = true
      · simp [find?, hk, hp, Option.filter]
      · simp [find?, hk, hp, hnone, Option.filter]
    · have hp : ¬p z = true := fun hp => hk (named z List.mem_cons_self hp)
      rw [List.find?_cons_of_neg hp, find?, if_neg hk]
      exact ih hzs fun w hw => named w (List.mem_cons_of_mem _ hw)

/-- An entry with a known key leaves the keys as they are, and one with a new key goes to the
end. -/
theorem keys_put (key : α → String) (x : α) (xs : List α) :
    (put key x xs).map key =
      if key x ∈ xs.map key then xs.map key else xs.map key ++ [key x] := by
  induction xs with
  | nil => rfl
  | cons z zs ih =>
    by_cases hz : key z = key x
    · simp [put, hz]
    · simp only [put, if_neg hz, List.map_cons, List.mem_cons, Ne.symm hz, false_or, ih]
      split
      · rfl
      · rfl

theorem mem_keys_put : k ∈ (put key x xs).map key ↔ k = key x ∨ k ∈ xs.map key := by
  rw [keys_put]
  split
  next hx =>
    refine ⟨.inr, ?_⟩
    rintro (rfl | hk)
    · exact hx
    · exact hk
  next => rw [List.mem_append, List.mem_singleton, Or.comm]

theorem nodup_put (distinct : (xs.map key).Nodup) : ((put key x xs).map key).Nodup := by
  rw [keys_put]
  split
  next => exact distinct
  next hx =>
    refine List.nodup_append.mpr ⟨distinct, by simp, ?_⟩
    rintro k hk _ hl rfl
    obtain rfl := List.mem_singleton.mp hl
    exact hx hk

/-- Only the entry with the same key gives way. -/
theorem mem_put (distinct : (xs.map key).Nodup) :
    y ∈ put key x xs ↔ y = x ∨ y ∈ xs ∧ key y ≠ key x := by
  induction xs with
  | nil => simp [put]
  | cons z zs ih =>
    obtain ⟨hz, hzs⟩ := List.nodup_cons.mp distinct
    by_cases hk : key z = key x
    · have hne : ∀ w ∈ zs, key w ≠ key x := by
        intro w hw hwx
        exact hz (List.mem_map.mpr ⟨w, hw, hwx.trans hk.symm⟩)
      simp only [put, if_pos hk, List.mem_cons]
      constructor
      · rintro (rfl | hy)
        · exact .inl rfl
        · exact .inr ⟨.inr hy, hne y hy⟩
      · rintro (rfl | ⟨rfl | hy, hyx⟩)
        · exact .inl rfl
        · exact absurd hk hyx
        · exact .inr hy
    · simp only [put, if_neg hk, List.mem_cons, ih hzs]
      constructor
      · rintro (rfl | rfl | ⟨hy, hyx⟩)
        · exact .inr ⟨.inl rfl, hk⟩
        · exact .inl rfl
        · exact .inr ⟨.inr hy, hyx⟩
      · rintro (rfl | ⟨rfl | hy, hyx⟩)
        · exact .inr (.inl rfl)
        · exact .inl rfl
        · exact .inr (.inr ⟨hy, hyx⟩)

/-- Of entries that are put in one after the other, each key keeps its last. -/
theorem mem_foldl_put {entries : List α} (distinct : (xs.map key).Nodup)
    (h : y ∈ entries.foldl (fun acc entry => put key entry acc) xs) :
    (y ∈ xs ∧ ∀ entry ∈ entries, key entry ≠ key y) ∨
      ∃ before after, entries = before ++ y :: after ∧ ∀ entry ∈ after, key entry ≠ key y := by
  induction entries generalizing xs with
  | nil => exact .inl ⟨h, by simp⟩
  | cons entry entries ih =>
    rcases ih (nodup_put distinct) h with ⟨hput, hrest⟩ | ⟨before, after, rfl, hafter⟩
    · rcases (mem_put distinct).mp hput with rfl | ⟨hy, hne⟩
      · exact .inr ⟨[], entries, rfl, hrest⟩
      · refine .inl ⟨hy, fun e he => ?_⟩
        rcases List.mem_cons.mp he with rfl | he
        · exact Ne.symm hne
        · exact hrest e he
    · exact .inr ⟨entry :: before, after, rfl, hafter⟩

theorem mem_foldl_put_of_mem {entries : List α} (distinct : (xs.map key).Nodup) (h : y ∈ xs)
    (hrest : ∀ entry ∈ entries, key entry ≠ key y) :
    y ∈ entries.foldl (fun acc entry => put key entry acc) xs := by
  induction entries generalizing xs with
  | nil => exact h
  | cons entry entries ih =>
    have hne : key y ≠ key entry := Ne.symm (hrest entry List.mem_cons_self)
    have hput : y ∈ put key entry xs := (mem_put distinct).mpr (.inr ⟨h, hne⟩)
    exact ih (nodup_put distinct) hput fun e he => hrest e (List.mem_cons_of_mem _ he)

theorem mem_foldl_put_of_last {before after : List α} (distinct : (xs.map key).Nodup)
    (hafter : ∀ entry ∈ after, key entry ≠ key y) :
    y ∈ (before ++ y :: after).foldl (fun acc entry => put key entry acc) xs := by
  induction before generalizing xs with
  | nil =>
    have hput : y ∈ put key y xs := (mem_put distinct).mpr (.inl rfl)
    have hkept := mem_foldl_put_of_mem (nodup_put distinct) hput hafter
    exact hkept
  | cons entry before ih => exact ih (nodup_put distinct)

/-- Where keys are distinct, what holds of at most one entry holds of entries with one key only. -/
theorem countP_le_one_iff {p : α → Bool} (distinct : (xs.map key).Nodup) :
    xs.countP p ≤ 1 ↔ ∀ x ∈ xs, ∀ y ∈ xs, p x = true → p y = true → key x = key y := by
  induction xs with
  | nil => simp
  | cons z zs ih =>
    obtain ⟨hz, hzs⟩ := List.nodup_cons.mp distinct
    by_cases hp : p z = true
    · rw [List.countP_cons_of_pos hp, Nat.add_le_add_iff_right (k := 0), Nat.le_zero,
        List.countP_eq_zero]
      constructor
      · intro hnone x hx y hy hpx hpy
        have hfirst : ∀ w ∈ z :: zs, p w = true → w = z := by
          intro w hw hpw
          exact (List.mem_cons.mp hw).resolve_right fun hm => hnone w hm hpw
        rw [hfirst x hx hpx, hfirst y hy hpy]
      · intro hsame w hw hpw
        have hk := hsame w (List.mem_cons_of_mem _ hw) z List.mem_cons_self hpw hp
        exact hz (List.mem_map.mpr ⟨w, hw, hk⟩)
    · rw [List.countP_cons_of_neg hp, ih hzs]
      simp [hp]

theorem keys_erase (key : α → String) (k : String) (xs : List α) :
    (erase key k xs).map key = (xs.map key).filter (· != k) := by
  rw [List.filter_map]
  rfl

end Keyed

namespace SortedMap

theorem mem_keys_insert {α : Type} {k key : String} {value : α} {m : SortedMap α} :
    k ∈ (insert key value m).keys ↔ k = key ∨ k ∈ m.keys := by
  induction m with
  | nil => simp [insert, keys]
  | cons entry rest ih =>
    obtain ⟨k', v⟩ := entry
    simp only [keys, List.map_cons, List.mem_cons] at ih ⊢
    by_cases hk : key = k'
    · simp [insert, hk]
    · by_cases hl : key < k'
      · simp [insert, hk, hl]
      · simp only [insert, if_neg hk, if_neg hl, List.map_cons, List.mem_cons, ih]
        exact or_left_comm

end SortedMap

end PortableSql

import PortableSql.Text.Blank
import PortableSql.Text.Casing
import PortableSql.Text.Chars

namespace PortableSql.Chars

variable {c d : Char} {text before after : List Char}

/-- What holds of all characters of a text is decided over the text, not over all characters. -/
instance decidableForallMem {p : Char → Prop} [DecidablePred p] (text : List Char) :
    Decidable (∀ c ∈ text, p c) :=
  List.decidableBAll p text

/-- What is decided of the code points of ASCII holds of its characters. -/
theorem of_ascii {p : Char → Prop} (h : ∀ n < 0x80, p (Char.ofNat n)) (hc : c.toNat < 0x80) : p c := by
  have hchar := h c.toNat hc
  rwa [Char.ofNat_toNat] at hchar

theorem cutFirst_append (h : c ∉ before) (after : List Char) :
    cutFirst c (before ++ c :: after) = some (before, after) := by
  induction before with
  | nil => simp [cutFirst]
  | cons x before ih =>
    obtain ⟨hx, hb⟩ : c ≠ x ∧ c ∉ before := by simpa using h
    simp [cutFirst, Ne.symm hx, ih hb]

theorem cutFirst_eq_none (h : c ∉ text) : cutFirst c text = none := by
  induction text with
  | nil => rfl
  | cons x text ih =>
    obtain ⟨hx, ht⟩ : c ≠ x ∧ c ∉ text := by simpa using h
    simp [cutFirst, Ne.symm hx, ih ht]

/-- What stands before and after the first `c`, with it, is the text. -/
theorem eq_of_cutFirst (h : cutFirst c text = some (before, after)) :
    text = before ++ c :: after ∧ c ∉ before := by
  induction text generalizing before with
  | nil => cases h
  | cons x text ih =>
    unfold cutFirst at h
    by_cases hx : x = c
    · rw [if_pos hx] at h
      cases h
      exact ⟨by rw [hx]; rfl, List.not_mem_nil⟩
    · rw [if_neg hx] at h
      obtain ⟨⟨b, a⟩, hcut, heq⟩ := Option.map_eq_some_iff.mp h
      cases heq
      obtain ⟨rfl, hb⟩ := ih hcut
      refine ⟨rfl, ?_⟩
      rw [List.mem_cons, not_or]
      exact ⟨Ne.symm hx, hb⟩

theorem not_mem_of_cutFirst (h : cutFirst c text = none) : c ∉ text := by
  induction text with
  | nil => exact List.not_mem_nil
  | cons x text ih =>
    unfold cutFirst at h
    by_cases hx : x = c
    · rw [if_pos hx] at h
      cases h
    · rw [if_neg hx] at h
      rw [List.mem_cons, not_or]
      exact ⟨Ne.symm hx, ih (Option.map_eq_none_iff.mp h)⟩

theorem cutLast_eq_none (h : c ∉ text) : cutLast c text = none := by
  induction text with
  | nil => rfl
  | cons x text ih =>
    obtain ⟨hx, ht⟩ : c ≠ x ∧ c ∉ text := by simpa using h
    simp [cutLast, Ne.symm hx, ih ht]

theorem cutLast_append (before : List Char) (h : c ∉ after) :
    cutLast c (before ++ c :: after) = some (before, after) := by
  induction before with
  | nil => simp [cutLast, cutLast_eq_none h]
  | cons x before ih => simp [cutLast, ih]

/-- A text up to the last `c`, with it. -/
def throughLast (c : Char) (text : List Char) : List Char :=
  (text.reverse.dropWhile (· ≠ c)).reverse

theorem dropWhile_reverse_append (h : c ∉ after) (rest : List Char) :
    (after.reverse ++ rest).dropWhile (· ≠ c) = rest.dropWhile (· ≠ c) := by
  refine List.dropWhile_append_of_pos fun x hx => decide_eq_true ?_
  rintro rfl
  exact h (List.mem_reverse.mp hx)

theorem throughLast_append (before : List Char) (h : c ∉ after) :
    throughLast c (before ++ c :: after) = before ++ [c] := by
  rw [throughLast, List.reverse_append, List.reverse_cons, List.append_assoc,
    dropWhile_reverse_append h]
  simp

theorem throughLast_eq_nil (h : c ∉ text) : throughLast c text = [] := by
  rw [throughLast, ← List.append_nil text.reverse, dropWhile_reverse_append h]
  rfl

theorem exists_last_of_mem (h : c ∈ text) :
    ∃ before after, text = before ++ c :: after ∧ c ∉ after := by
  obtain ⟨after, before, heq, hafter⟩ := List.eq_append_cons_of_mem (List.mem_reverse.mpr h)
  refine ⟨before.reverse, after.reverse, ?_, fun hc => hafter (List.mem_reverse.mp hc)⟩
  rw [← List.reverse_reverse text, heq]
  simp

theorem cutLastPair_eq_none (h : c ∉ text) : cutLastPair c d text = none := by
  induction text with
  | nil => rfl
  | cons x text ih =>
    obtain ⟨hx, ht⟩ : c ≠ x ∧ c ∉ text := by simpa using h
    cases text with
    | nil => rfl
    | cons y rest =>
      rw [cutLastPair, ih ht]
      simp [Ne.symm hx]

/-- A pair does not begin with a character that is followed by nothing that could end it. -/
theorem cutLastPair_cons_eq_none (x : Char) (h : d ∉ text) : cutLastPair c d (x :: text) = none := by
  induction text generalizing x with
  | nil => rfl
  | cons y text ih =>
    obtain ⟨hy, ht⟩ : d ≠ y ∧ d ∉ text := by simpa using h
    rw [cutLastPair, ih y ht]
    simp [Ne.symm hy]

theorem cutLastPair_append (before : List Char) (h : d ∉ after) :
    cutLastPair c d (before ++ c :: d :: after) = some (before, after) := by
  induction before with
  | nil =>
    rw [List.nil_append, cutLastPair.eq_def]
    simp [cutLastPair_cons_eq_none d h]
  | cons x before ih => simp [cutLastPair, ih]

/-- What stands before and after the last pair, with the pair, is the text. -/
theorem eq_of_cutLastPair (h : cutLastPair c d text = some (before, after)) :
    text = before ++ c :: d :: after := by
  induction text generalizing before with
  | nil => cases h
  | cons x text ih =>
    unfold cutLastPair at h
    cases hcut : cutLastPair c d text with
    | some found =>
      obtain ⟨b, a⟩ := found
      simp only [hcut, Option.some.injEq, Prod.mk.injEq] at h
      obtain ⟨rfl, rfl⟩ := h
      rw [ih hcut, List.cons_append]
    | none =>
      simp only [hcut] at h
      cases text with
      | nil => cases h
      | cons y rest =>
        dsimp only at h
        by_cases hpair : x = c ∧ y = d
        · rw [if_pos hpair] at h
          obtain ⟨rfl, rfl⟩ := hpair
          cases h
          rfl
        · rw [if_neg hpair] at h
          cases h

theorem splitOn_of_not_mem (h : c ∉ text) : splitOn c text = [text] := by
  induction text with
  | nil => rfl
  | cons x text ih =>
    obtain ⟨hx, ht⟩ : c ≠ x ∧ c ∉ text := by simpa using h
    simp [splitOn, Ne.symm hx, ih ht]

theorem splitOn_ne_nil (c : Char) (text : List Char) : splitOn c text ≠ [] := by
  cases text with
  | nil => exact List.cons_ne_nil _ _
  | cons x text =>
    unfold splitOn
    split
    next => exact List.cons_ne_nil _ _
    next => split <;> exact List.cons_ne_nil _ _

theorem intercalate_cons {α : Type} (sep first : List α) (others : List (List α)) :
    sep.intercalate (first :: others) = first ++ (others.map (sep ++ ·)).flatten := by
  induction others generalizing first with
  | nil => simp
  | cons second others ih => simp [List.intercalate_cons_cons, ih]

theorem mem_intercalate {α : Type} {sep : List α} {items : List (List α)} {x : α}
    (h : x ∈ sep.intercalate items) : x ∈ sep ∨ ∃ item ∈ items, x ∈ item := by
  cases items with
  | nil => simp at h
  | cons first others =>
    rw [intercalate_cons, List.mem_append, List.mem_flatten] at h
    rcases h with hfirst | ⟨_, hm, hx⟩
    · exact .inr ⟨first, List.mem_cons_self, hfirst⟩
    · obtain ⟨item, hitem, rfl⟩ := List.mem_map.mp hm
      rcases List.mem_append.mp hx with hsep | hx
      · exact .inl hsep
      · exact .inr ⟨item, List.mem_cons_of_mem _ hitem, hx⟩

theorem length_le_intercalate {α : Type} {sep : List α} (hsep : sep ≠ []) (items : List (List α)) :
    items.length ≤ (sep.intercalate items).length + 1 := by
  have hlength : 0 < sep.length := List.length_pos_iff.mpr hsep
  induction items with
  | nil => exact Nat.zero_le _
  | cons first others ih =>
    cases others with
    | nil => simp
    | cons second others =>
      rw [List.intercalate_cons_cons, List.length_cons, List.length_append, List.length_append]
      omega

theorem intercalate_append {α : Type} (sep : List α) {items others : List (List α)}
    (hitems : items ≠ []) (hothers : others ≠ []) :
    sep.intercalate (items ++ others) = sep.intercalate items ++ (sep ++ sep.intercalate others) := by
  obtain ⟨first, items, rfl⟩ := List.exists_cons_of_ne_nil hitems
  obtain ⟨second, others, rfl⟩ := List.exists_cons_of_ne_nil hothers
  rw [List.cons_append, intercalate_cons, intercalate_cons, intercalate_cons, List.map_append,
    List.flatten_append, List.map_cons, List.flatten_cons]
  simp only [List.append_assoc]

/-- The pieces on both sides of a mark are those of the whole text. -/
theorem splitOn_append_cons (c : Char) (before after : List Char) :
    splitOn c (before ++ c :: after) = splitOn c before ++ splitOn c after := by
  induction before with
  | nil => simp [splitOn]
  | cons x before ih =>
    obtain ⟨piece, pieces, hsplit⟩ := List.exists_cons_of_ne_nil (splitOn_ne_nil c before)
    by_cases hx : x = c
    · simp [splitOn, hx, ih]
    · simp [splitOn, hx, ih, hsplit]

theorem splitOn_append (h : c ∉ before) (after : List Char) :
    splitOn c (before ++ c :: after) = before :: splitOn c after := by
  rw [splitOn_append_cons, splitOn_of_not_mem h, List.singleton_append]

/-- Pieces without the mark are found again in the text that has it between them. -/
theorem splitOn_intercalate {pieces : List (List Char)} (hne : pieces ≠ [])
    (h : ∀ piece ∈ pieces, c ∉ piece) : splitOn c ([c].intercalate pieces) = pieces := by
  induction pieces with
  | nil => exact absurd rfl hne
  | cons first others ih =>
    have hfirst := h first List.mem_cons_self
    cases others with
    | nil => rw [List.intercalate_singleton, splitOn_of_not_mem hfirst]
    | cons second others =>
      rw [List.intercalate_cons_cons, List.append_assoc, List.singleton_append,
        splitOn_append hfirst, ih (List.cons_ne_nil _ _) fun x hx => h x (List.mem_cons_of_mem _ hx)]

theorem mem_of_mem_splitOn {piece : List Char} (h : piece ∈ splitOn c text) :
    ∀ x ∈ piece, x ∈ text ∧ x ≠ c := by
  induction text generalizing piece with
  | nil =>
    rw [splitOn, List.mem_singleton] at h
    rw [h]
    exact fun _ hx => absurd hx List.not_mem_nil
  | cons y text ih =>
    obtain ⟨first, others, hsplit⟩ := List.exists_cons_of_ne_nil (splitOn_ne_nil c text)
    have hrest {piece : List Char} (h : piece ∈ splitOn c text) :
        ∀ x ∈ piece, x ∈ y :: text ∧ x ≠ c := fun x hx =>
      ⟨List.mem_cons_of_mem _ (ih h x hx).1, (ih h x hx).2⟩
    rw [hsplit] at hrest
    unfold splitOn at h
    rw [hsplit] at h
    by_cases hy : y = c
    · rw [if_pos hy, List.mem_cons] at h
      rcases h with rfl | h
      · exact fun _ hx => absurd hx List.not_mem_nil
      · exact hrest h
    · rw [if_neg hy] at h
      rcases List.mem_cons.mp h with rfl | h
      · exact List.forall_mem_cons.mpr ⟨⟨List.mem_cons_self, hy⟩, hrest List.mem_cons_self⟩
      · exact hrest (List.mem_cons_of_mem _ h)

/-- The pieces with the mark between them are the text. -/
theorem intercalate_splitOn (c : Char) (text : List Char) :
    [c].intercalate (splitOn c text) = text := by
  induction text with
  | nil => rfl
  | cons x text ih =>
    obtain ⟨piece, pieces, hsplit⟩ := List.exists_cons_of_ne_nil (splitOn_ne_nil c text)
    rw [hsplit] at ih
    unfold splitOn
    split
    next hx => rw [hsplit, List.intercalate_cons_cons, ih, hx, List.nil_append, List.singleton_append]
    next hx =>
      have hfirst : [c].intercalate ((x :: piece) :: pieces) = x :: text := by
        rw [intercalate_cons, List.cons_append, ← intercalate_cons, ih]
      simp only [hsplit, hfirst]

theorem halve_cons_of_ne (h : d ≠ c) (text : List Char) :
    halve c (d :: text) = d :: halve c text := by
  cases text with
  | nil => rfl
  | cons x text => simp [halve, h]

/-- Reading doubled characters gives back the text they were doubled in. -/
theorem halve_double (c : Char) (text : List Char) : halve c (double c text) = text := by
  induction text with
  | nil => rfl
  | cons x text ih =>
    by_cases hx : x = c
    · simp [double, hx, halve, ih]
    · rw [double, if_neg hx, halve_cons_of_ne hx, ih]

theorem length_halve_le (c : Char) (text : List Char) : (halve c text).length ≤ text.length := by
  fun_induction halve c text with
  | case1 rest ih => simp only [List.length_cons]; omega
  | case2 x y rest hne ih => simpa using ih
  | case3 => exact Nat.le_refl _

/-- A text includes what is part of it. -/
theorem includes_iff {mark : List Char} : includes mark text = true ↔ mark <:+: text := by
  induction text with
  | nil => rw [includes, List.isEmpty_iff, List.infix_nil]
  | cons x text ih =>
    rw [includes, Bool.or_eq_true, ih, List.infix_cons_iff, startsWith, List.isPrefixOf_iff_prefix]

theorem stripStart?_append (mark text : List Char) :
    stripStart? mark (mark ++ text) = some text := by
  induction mark with
  | nil => rfl
  | cons c mark ih => simpa [stripStart?] using ih

theorem eq_of_stripStart? {mark rest : List Char} (h : stripStart? mark text = some rest) :
    text = mark ++ rest := by
  induction mark generalizing text with
  | nil => exact Option.some.inj h
  | cons c mark ih =>
    cases text with
    | nil => cases h
    | cons x text =>
      rw [stripStart?] at h
      split at h
      next hx => rw [ih h, hx, List.cons_append]
      next => cases h

theorem eq_of_stripEnd? {mark rest : List Char} (h : stripEnd? mark text = some rest) :
    text = rest ++ mark := by
  obtain ⟨front, hfront, rfl⟩ := Option.map_eq_some_iff.mp h
  rw [← text.reverse_reverse, eq_of_stripStart? hfront, List.reverse_append, List.reverse_reverse]

theorem stripEnd?_append (mark text : List Char) : stripEnd? mark (text ++ mark) = some text := by
  rw [stripEnd?, List.reverse_append, stripStart?_append, Option.map_some, List.reverse_reverse]

theorem stripEnd?_concat (mark last : Char) (text : List Char) :
    stripEnd? [mark] (text ++ [last]) = if mark = last then some text else none := by
  simp only [stripEnd?, List.reverse_append, List.reverse_singleton, List.singleton_append,
    stripStart?]
  split <;> simp

theorem dropWhile_eq_self {p : Char → Bool} (first : ∀ c ∈ text.head?, p c = false) :
    text.dropWhile p = text := by
  cases text with
  | nil => rfl
  | cons c text => simp [first c rfl]

theorem trimStart_eq_self (first : ∀ c, text.head? = some c → isBlank c = false) :
    trimStart text = text :=
  dropWhile_eq_self first

theorem trim_eq_self (first : ∀ c, text.head? = some c → isBlank c = false)
    (last : ∀ c, text.getLast? = some c → isBlank c = false) : trim text = text := by
  have hlast : trimStart text.reverse = text.reverse := by
    refine trimStart_eq_self fun c hc => last c ?_
    rwa [List.head?_reverse] at hc
  rw [trimStart] at hlast
  rw [trim, trimStart_eq_self first, trimEnd, hlast, List.reverse_reverse]

theorem trimEnd_append_cons (h : isBlank c = false) (before after : List Char) :
    trimEnd (before ++ c :: after) = before ++ c :: trimEnd after := by
  have hkept : (c :: before.reverse).dropWhile isBlank = c :: before.reverse := by simp [h]
  simp only [trimEnd, List.reverse_append, List.reverse_cons, List.append_assoc,
    List.singleton_append, List.dropWhile_append, hkept]
  split
  next hempty => simp [List.isEmpty_iff.mp hempty]
  next => simp

theorem trimEnd_trimEnd (text : List Char) : trimEnd (trimEnd text) = trimEnd text := by
  have hagain (text : List Char) :
      (text.dropWhile isBlank).dropWhile isBlank = text.dropWhile isBlank := by
    induction text with
    | nil => rfl
    | cons x text ih =>
      cases hx : isBlank x with
      | true => simp [hx, ih]
      | false => simp [hx]
  rw [trimEnd, trimEnd, List.reverse_reverse, hagain]

theorem mem_of_mem_trimEnd (h : c ∈ trimEnd text) : c ∈ text := by
  have hmem := (List.dropWhile_sublist isBlank).subset (List.mem_reverse.mp h)
  exact List.mem_reverse.mp hmem

theorem length_lt_of_isInfix (h : before <:+: text) (hne : before ≠ text) :
    before.length < text.length :=
  Nat.lt_of_not_le fun hle => hne (h.sublist.eq_of_length_le hle)

/-- Only white space is taken off a text, at its two ends. -/
theorem exists_append_trim (text : List Char) :
    ∃ before after, text = before ++ (trim text ++ after) ∧
      (∀ c ∈ before, isBlank c = true) ∧ ∀ c ∈ after, isBlank c = true := by
  have hstart : text.takeWhile isBlank ++ trimStart text = text :=
    List.takeWhile_append_dropWhile
  have hend : trim text ++ ((trimStart text).reverse.takeWhile isBlank).reverse =
      trimStart text := by
    rw [trim, trimEnd, ← List.reverse_append, List.takeWhile_append_dropWhile,
      List.reverse_reverse]
  have hblank (text : List Char) : ∀ c ∈ text.takeWhile isBlank, isBlank c = true :=
    List.all_eq_true.mp List.all_takeWhile
  refine ⟨text.takeWhile isBlank, ((trimStart text).reverse.takeWhile isBlank).reverse, ?_,
    hblank text, fun c hc => hblank _ c (List.mem_reverse.mp hc)⟩
  rw [hend, hstart]

theorem trim_isInfix (text : List Char) : trim text <:+: text := by
  obtain ⟨before, after, htext, _, _⟩ := exists_append_trim text
  refine ⟨before, after, ?_⟩
  rw [List.append_assoc, ← htext]

theorem length_trim_le (text : List Char) : (trim text).length ≤ text.length :=
  (trim_isInfix text).length_le

theorem trim_of_forall (h : ∀ c ∈ text, isBlank c = false) : trim text = text :=
  trim_eq_self (fun c hc => h c (List.mem_of_head? hc)) fun c hc => h c (List.mem_of_getLast? hc)

theorem words_of_forall (hne : text ≠ []) (h : ∀ c ∈ text, isBlank c = false) :
    words text = [text] := by
  induction text with
  | nil => exact absurd rfl hne
  | cons x text ih =>
    have hx := h x List.mem_cons_self
    cases text with
    | nil => simp [words, hx, extendWord]
    | cons y rest =>
      have hy := h y (List.mem_cons_of_mem _ List.mem_cons_self)
      have hrest := ih (by simp) fun c hc => h c (List.mem_cons_of_mem _ hc)
      rw [words, hx, hrest]
      simp [extendWord, hy]

/-- A word ends where white space begins. -/
theorem words_append_cons (hne : text ≠ []) (h : ∀ c ∈ text, isBlank c = false)
    (hc : isBlank c = true) (rest : List Char) :
    words (text ++ c :: rest) = text :: words rest := by
  induction text with
  | nil => exact absurd rfl hne
  | cons x text ih =>
    have hx := h x List.mem_cons_self
    cases text with
    | nil =>
      have hrest : words (c :: rest) = words rest := by simp [words, hc]
      rw [List.singleton_append, words, hx, hrest]
      cases words rest <;> simp [extendWord, hc]
    | cons y text =>
      have hy := h y (List.mem_cons_of_mem _ List.mem_cons_self)
      have htext := ih (by simp) fun d hd => h d (List.mem_cons_of_mem _ hd)
      rw [List.cons_append, words, hx, htext]
      simp [extendWord, hy]

theorem toNat_of_isAlphanum (h : c.isAlphanum = true) : c.toNat < 0x80 := by
  have hranges : (c.isUpper || c.isLower || c.isDigit) = true := h
  rw [Bool.or_eq_true, Bool.or_eq_true] at hranges
  rcases hranges with (hupper | hlower) | hdigit
  · have hcode : 'A'.val ≤ c.val ∧ c.val ≤ 'Z'.val := of_decide_eq_true hupper
    exact Nat.lt_of_le_of_lt (UInt32.le_iff_toNat_le.mp hcode.2) (by decide)
  · have hcode : c.val ≤ 'z'.val := of_decide_eq_true (Bool.and_eq_true_iff.mp hlower).2
    exact Nat.lt_of_le_of_lt (UInt32.le_iff_toNat_le.mp hcode) (by decide)
  · have hcode : c.val ≤ '9'.val := of_decide_eq_true (Bool.and_eq_true_iff.mp hdigit).2
    exact Nat.lt_of_le_of_lt (UInt32.le_iff_toNat_le.mp hcode) (by decide)

/-- What is known of the letters and the digits of ASCII is known of each of them. -/
theorem of_isAlphanum {p : Char → Prop}
    (h : ∀ n < 0x80, (Char.ofNat n).isAlphanum = true → p (Char.ofNat n))
    (hc : c.isAlphanum = true) : p c :=
  of_ascii (p := fun c => c.isAlphanum = true → p c) h (toNat_of_isAlphanum hc) hc

theorem toLower_of_not_upper (h : ¬ (65 ≤ c.toNat ∧ c.toNat ≤ 90)) : c.toLower = c := by
  have hupper : ¬ ('A'.val ≤ c.val ∧ c.val ≤ 'Z'.val) := by
    simp only [UInt32.le_iff_toNat_le]
    exact h
  exact dif_neg hupper

theorem toLower_eq_self (h : c.toNat < 65) : c.toLower = c := toLower_of_not_upper (by omega)

theorem map_toLower_eq_self (h : ∀ c ∈ text, c.toNat < 65) : text.map Char.toLower = text :=
  (List.map_congr_left fun c hc => toLower_eq_self (h c hc)).trans (List.map_id' text)

/-- ASCII without regard to what stands around it. -/
theorem lower_of_ascii (h : ∀ c ∈ text, c.toNat < 0x80) : lower text = text.map Char.toLower := by
  have hafter : ∀ before, lowerAfter before text = text.map Char.toLower := by
    induction text with
    | nil => exact fun _ => rfl
    | cons x text ih =>
      intro before
      have hx := h x List.mem_cons_self
      have hsigma : x ≠ 'Σ' := by
        rintro rfl
        exact absurd hx (by decide)
      simp [lowerAfter, hsigma, lowerChar, hx, ih fun c hc => h c (List.mem_cons_of_mem _ hc)]
  exact hafter []

/-- Without capital sigmas every character has a lower case of its own. -/
theorem lowerAfter_append (h : 'Σ' ∉ text) (before rest : List Char) :
    lowerAfter before (text ++ rest) =
      text.flatMap lowerChar ++ lowerAfter (text.reverse ++ before) rest := by
  induction text generalizing before with
  | nil => rfl
  | cons x text ih =>
    obtain ⟨hx, htext⟩ : 'Σ' ≠ x ∧ 'Σ' ∉ text := by simpa using h
    rw [List.cons_append, lowerAfter, ih htext, List.flatMap_cons, List.reverse_cons,
      List.append_assoc, List.append_assoc]
    simp [Ne.symm hx]

theorem lower_of_not_mem (h : 'Σ' ∉ text) : lower text = text.flatMap lowerChar := by
  have hlower := lowerAfter_append h [] []
  rwa [List.append_nil, lowerAfter, List.append_nil] at hlower

theorem sigma_mem_lowerAfter (h : 'Σ' ∈ text) (before : List Char) :
    'σ' ∈ lowerAfter before text ∨ 'ς' ∈ lowerAfter before text := by
  induction text generalizing before with
  | nil => cases h
  | cons x text ih =>
    rw [lowerAfter, List.mem_append, List.mem_append]
    rcases List.mem_cons.mp h with rfl | h
    · rw [if_pos rfl]
      split
      · exact .inr (.inl (List.mem_singleton.mpr rfl))
      · exact .inl (.inl (List.mem_singleton.mpr rfl))
    · exact (ih h (x :: before)).imp .inr .inr

/-- A text begins with no mark that begins with another character, in any case. -/
theorem startsWith_lower_cons {m : Char} (hascii : c.toNat < 0x80) (hm : c.toLower ≠ m)
    (mark rest : List Char) : startsWith (m :: mark) (lower (c :: rest)) = false := by
  have hsigma : c ≠ 'Σ' := by
    rintro rfl
    exact absurd hascii (by decide)
  simp [lower, lowerAfter, lowerChar, hsigma, hascii, startsWith, List.isPrefixOf, Ne.symm hm]

/-- Lower case makes an opening parenthesis of no other character. -/
theorem eq_of_mem_lowerChar (h : '(' ∈ lowerChar c) : c = '(' := by
  have hascii : ∀ n < 0x80, (Char.ofNat n).toLower = '(' → Char.ofNat n = '(' := by
    decide +kernel
  have hruns : ∀ run ∈ Text.lowerRuns, (0x28 : Int) < run.low + run.offset := by
    decide +kernel
  have hexpansions : ∀ expansion ∈ Text.lowerExpansions, '(' ∉ expansion.2.map Char.ofNat := by
    decide +kernel
  have hcode (n : Nat) : (Char.ofNat n).toNat = n ∨ (Char.ofNat n).toNat = 0 := by
    rw [Char.ofNat]
    by_cases hvalid : n.isValidChar
    · rw [dif_pos hvalid]
      exact .inl rfl
    · rw [dif_neg hvalid]
      exact .inr rfl
  unfold lowerChar mapped at h
  split at h
  next hsmall =>
    exact of_ascii (p := fun c => c.toLower = '(' → c = '(') hascii hsmall
      (List.mem_singleton.mp h).symm
  next =>
    split at h
    next run hfound =>
      have hoffset := hruns run (Array.mem_of_find?_eq_some hfound)
      have hcontains := Array.find?_some hfound
      simp only [Text.CaseRun.contains, Bool.and_eq_true, decide_eq_true_eq] at hcontains
      have hshift : 0x28 = (run.shift c.toNat).toNat :=
        congrArg Char.toNat (List.mem_singleton.mp h)
      have hshifted := hcode (c.toNat + run.offset).toNat
      rw [Text.CaseRun.shift, Int.ofNat_eq_natCast] at hshift
      omega
    next =>
      split at h
      next expansion hfound =>
        exact absurd h (hexpansions _ (Array.mem_of_find?_eq_some hfound))
      next => exact (List.mem_singleton.mp h).symm

/-- A text without parentheses has none in lower case, up to an ASCII character without case. -/
theorem lowerAfter_append_cons (h : '(' ∉ text) (hascii : c.toNat < 0x80) (hcase : c.toLower = c)
    (before rest : List Char) :
    ∃ image tail, lowerAfter before (text ++ c :: rest) = image ++ c :: tail ∧ '(' ∉ image := by
  induction text generalizing before with
  | nil =>
    have hsigma : c ≠ 'Σ' := by
      rintro rfl
      exact absurd hascii (by decide)
    refine ⟨[], lowerAfter (c :: before) rest, ?_, List.not_mem_nil⟩
    simp [lowerAfter, hsigma, lowerChar, hascii, hcase]
  | cons x text ih =>
    obtain ⟨hx, htext⟩ : '(' ≠ x ∧ '(' ∉ text := by simpa using h
    obtain ⟨image, tail, hrest, himage⟩ := ih htext (x :: before)
    rw [List.cons_append, lowerAfter, hrest, ← List.append_assoc]
    refine ⟨_, tail, rfl, ?_⟩
    rw [List.mem_append, not_or]
    refine ⟨?_, himage⟩
    split
    next => split <;> decide
    next => exact fun hm => hx (eq_of_mem_lowerChar hm).symm

theorem prefix_of_prefix_append_cons {mark image tail : List Char}
    (h : mark <+: image ++ c :: tail) (hc : c ∉ mark) : mark <+: image := by
  rcases List.prefix_or_prefix_of_prefix h (List.prefix_append image (c :: tail)) with
    hbegin | ⟨rest, rfl⟩
  · exact hbegin
  · have hrest := (List.prefix_append_right_inj image).mp h
    cases rest with
    | nil => simp
    | cons x rest =>
      obtain ⟨rfl, _⟩ := List.cons_prefix_cons.mp hrest
      simp at hc

/-- A text that begins with what is not in the mark has no part of the mark. -/
theorem prefix_append_iff {mark image tail : List Char} (h : ∀ c ∈ tail.head?, c ∉ mark) :
    mark <+: image ++ tail ↔ mark <+: image := by
  refine ⟨fun hbegins => ?_, fun hbegins => hbegins.trans (List.prefix_append image tail)⟩
  cases tail with
  | nil => rwa [List.append_nil] at hbegins
  | cons c rest => exact prefix_of_prefix_append_cons hbegins (h c rfl)

end PortableSql.Chars

import PortableSql.Proofs.CatalogDefault.Compound

namespace PortableSql

namespace Chars

variable {c d : Char} {text before after : List Char}

/-- The last of several pairs is not before any other. -/
theorem cutLastPair_suffix (before after : List Char) (c d : Char) :
    ∃ front back, cutLastPair c d (before ++ c :: d :: after) = some (front, back) ∧
      back <:+ after := by
  induction before with
  | nil =>
    rw [List.nil_append, cutLastPair]
    cases hcut : cutLastPair c d (d :: after) with
    | none => exact ⟨[], after, by simp, List.suffix_refl _⟩
    | some found =>
      obtain ⟨front, back⟩ := found
      refine ⟨c :: front, back, rfl, ?_⟩
      have htext := eq_of_cutLastPair hcut
      cases front with
      | nil =>
        rw [List.tail_eq_of_cons_eq htext]
        exact List.suffix_cons d back
      | cons x front =>
        rw [List.tail_eq_of_cons_eq htext]
        exact ⟨front ++ [c, d], by simp⟩
  | cons x before ih =>
    obtain ⟨front, back, hcut, hsuffix⟩ := ih
    exact ⟨x :: front, back, by simp [cutLastPair, hcut], hsuffix⟩

end Chars

namespace CatalogDefault

open Chars

variable {text : List Char}

/-- How many parentheses are open behind a text, those in quotes left aside. -/
def openAfter (depth : Int) (quotes : Bool) : List Char → Int
  | [] => depth
  | c :: rest =>
    if c = '\'' then openAfter depth (!quotes) rest
    else if c = '(' ∧ !quotes then openAfter (depth + 1) quotes rest
    else if c = ')' ∧ !quotes then openAfter (depth - 1) quotes rest
    else openAfter depth quotes rest

/-- A text in parentheses of which the first is not closed before the last. -/
def Enclosed (text : List Char) : Prop :=
  ∃ inside, text = '(' :: (inside ++ [')']) ∧
    ∀ before, before <+: inside → 0 < openAfter 1 false before

/-- The beginnings of a text are the empty one and those that go on from its first character. -/
theorem forall_prefix_cons_iff {c : Char} {p : List Char → Prop} :
    (∀ before, before <+: c :: text → p before) ↔
      p [] ∧ ∀ before, before <+: text → p (c :: before) := by
  constructor
  · intro h
    exact ⟨h [] List.nil_prefix, fun before hb => h _ (List.cons_prefix_cons.mpr ⟨rfl, hb⟩)⟩
  · rintro ⟨hnil, hcons⟩ before hb
    cases before with
    | nil => exact hnil
    | cons x before =>
      obtain ⟨rfl, hrest⟩ := List.cons_prefix_cons.mp hb
      exact hcons before hrest

/-- Parentheses are closed before the last character if those open at some beginning of what stands
before it are none. -/
theorem closesEarly_concat_iff (text : List Char) (c : Char) {depth : Int} (hdepth : 0 < depth)
    (quotes : Bool) :
    closesEarly depth quotes (text ++ [c]) = false ↔
      ∀ before, before <+: text → 0 < openAfter depth quotes before := by
  induction text generalizing depth quotes with
  | nil =>
    refine iff_of_true ?_ fun before hb => ?_
    · simp [closesEarly]
    · rwa [List.prefix_nil.mp hb, openAfter]
  | cons x text ih =>
    rw [forall_prefix_cons_iff, List.cons_append, closesEarly]
    simp only [openAfter, hdepth, true_and]
    split
    next => exact ih hdepth _
    next =>
      split
      next => exact ih (by omega) _
      next =>
        split
        next =>
          split
          next hone =>
            refine iff_of_false (by simp) fun h => ?_
            have hnone := h [] List.nil_prefix
            rw [openAfter, hone.1] at hnone
            omega
          next hmore =>
            have hdeep : depth ≠ 1 := fun hone => hmore ⟨hone, by simp⟩
            exact ih (by omega) _
        next => exact ih hdepth _

theorem enclosed_iff :
    Enclosed text ↔
      text.head? = some '(' ∧ text.getLast? = some ')' ∧ closesEarly 0 false text = false := by
  have hinside (inside : List Char) : closesEarly 0 false ('(' :: (inside ++ [')'])) = false ↔
      ∀ before, before <+: inside → 0 < openAfter 1 false before := by
    rw [← closesEarly_concat_iff inside ')' (by decide)]
    simp [closesEarly]
  constructor
  · rintro ⟨inside, rfl, hopen⟩
    exact ⟨rfl, List.getLast?_concat (l := '(' :: inside), (hinside inside).mpr hopen⟩
  · rintro ⟨hfirst, hlast, hcloses⟩
    obtain ⟨before, rfl⟩ := List.getLast?_eq_some_iff.mp hlast
    cases before with
    | nil => exact absurd hfirst (by decide)
    | cons c inside =>
      obtain rfl : c = '(' := by simpa using hfirst
      exact ⟨inside, rfl, (hinside inside).mp hcloses⟩

/-- Parentheses are stripped of a text that they enclose, and of no other. -/
theorem stripParens_eq_self_iff (htrim : trim text = text) :
    stripParens text = text ↔ ¬ Enclosed text := by
  rw [enclosed_iff, stripParens, htrim]
  split
  next h =>
    have hcloses : closesEarly 0 false text = false := by simpa using h.2.2
    refine iff_of_false (fun heq => ?_) fun hnot => hnot ⟨h.1, h.2.1, hcloses⟩
    have hne : text ≠ [] := List.ne_nil_of_mem (List.mem_of_head? h.1)
    have hlength := length_trim_le (text.drop 1).dropLast
    rw [heq, List.length_dropLast, List.length_drop] at hlength
    have hpos := List.length_pos_iff.mpr hne
    omega
  next h =>
    refine iff_of_true rfl fun henclosed => h ?_
    simpa using henclosed

/-- Nothing is cut off a text if every cast in it is before a quote or a closing parenthesis. -/
theorem stripCast_eq_self_iff :
    stripCast text = text ↔
      ∀ before after, text = before ++ ':' :: ':' :: after → '\'' ∈ after ∨ ')' ∈ after := by
  constructor
  · rintro hkept before after rfl
    obtain ⟨front, back, hcut, hsuffix⟩ := cutLastPair_suffix before after ':' ':'
    have htext := eq_of_cutLastPair hcut
    have hmarks : (back.contains '\'' || back.contains ')') = true := by
      refine Decidable.byContradiction fun hnone => ?_
      rw [stripCast, hcut] at hkept
      dsimp only at hkept
      rw [if_neg hnone] at hkept
      have hlength := length_trim_le front
      rw [hkept, htext, List.length_append, List.length_cons, List.length_cons] at hlength
      omega
    rw [Bool.or_eq_true, List.contains_iff_mem, List.contains_iff_mem] at hmarks
    exact hmarks.imp (hsuffix.subset ·) (hsuffix.subset ·)
  · intro hmarks
    unfold stripCast
    split
    next before after hcut =>
      refine if_pos ?_
      rw [Bool.or_eq_true, List.contains_iff_mem, List.contains_iff_mem]
      exact hmarks before after (eq_of_cutLastPair hcut)
    next => rfl

/-- A text without white space at its ends, without parentheses around it and without a cast at its
end. -/
structure Unchanged (text : List Char) : Prop where
  trimmed : trim text = text
  parentheses : ¬ Enclosed text
  cast : ∀ before after, text = before ++ ':' :: ':' :: after → '\'' ∈ after ∨ ')' ∈ after

/-- Nothing is left to strip of such a text, and of no other. -/
theorem stripOnce_eq_self_iff : stripOnce text = text ↔ Unchanged text := by
  constructor
  · intro hround
    have hwhole : text.length ≤ (stripParens text).length := by
      have hcast := length_stripCast_le (stripParens text)
      rwa [← stripOnce, hround] at hcast
    have hparens : stripParens text = text := (stripParens_isInfix text).sublist.eq_of_length_le hwhole
    have htrim : trim text = text := by
      have hinside := (stripParens_isInfix_trim text).length_le
      exact (trim_isInfix text).sublist.eq_of_length_le (Nat.le_trans hwhole hinside)
    have hcast : stripCast text = text := by rwa [stripOnce, hparens] at hround
    exact ⟨htrim, (stripParens_eq_self_iff htrim).mp hparens, stripCast_eq_self_iff.mp hcast⟩
  · intro h
    rw [stripOnce, (stripParens_eq_self_iff h.trimmed).mpr h.parentheses,
      stripCast_eq_self_iff.mpr h.cast]

theorem Unchanged.strip_trim (h : Unchanged text) (fuel : Nat) : strip fuel (trim text) = text := by
  rw [h.trimmed, strip_eq_self (stripOnce_eq_self_iff.mpr h)]

/-- Each step of the reading either leaves the text as it is or makes it shorter. -/
theorem unquote?_strip_trim_eq_iff (text : List Char) (fuel : Nat) :
    (unquote? (strip (fuel + 1) (trim text))).getD (strip (fuel + 1) (trim text)) = text ↔
      Unchanged text ∧ unquote? text = none := by
  constructor
  · intro hsame
    have hunquoted := length_unquote?_getD_le (strip (fuel + 1) (trim text))
    have hstrip := (strip_isInfix (fuel + 1) (trim text)).length_le
    rw [hsame] at hunquoted
    have htrim : trim text = text :=
      (trim_isInfix text).sublist.eq_of_length_le (Nat.le_trans hunquoted hstrip)
    rw [htrim] at hsame hunquoted
    have hround : stripOnce text = text := by
      refine Decidable.byContradiction fun hshort => ?_
      have hless := length_stripOnce_lt hshort
      have hrest := (strip_isInfix fuel (stripOnce text)).length_le
      rw [strip_succ_of_ne hshort] at hunquoted
      omega
    rw [strip_eq_self hround] at hsame
    exact ⟨stripOnce_eq_self_iff.mp hround, unquote?_getD_eq_self_iff.mp hsame⟩
  · rintro ⟨hunchanged, hquotes⟩
    rw [hunchanged.strip_trim, hquotes, Option.getD_none]

theorem unquote?_eq_none (hquote : text.head? ≠ some '\'')
    (hnational : ¬ ['N', '\''] <+: text) : unquote? text = none := by
  cases text with
  | nil => rfl
  | cons c rest =>
    refine unquote?_cons (fun hc => hquote (congrArg some hc)) fun hn hrest => hnational ?_
    obtain ⟨others, rfl⟩ := List.head?_eq_some_iff.mp hrest
    rw [hn]
    exact ⟨others, rfl⟩

/-- A text that is no literal, no null and no sequence is a default as it is if and only if it has
no white space at its ends, no parentheses around it and no cast at its end. -/
theorem ofCatalog_eq_value_iff {s : String}
    (hsequence : startsWith "nextval(".toList (lower (trim s.toList)) = false)
    (hnull : asciiLower (trim s.toList) ≠ "null".toList) (hne : s ≠ "")
    (hquote : unquote? s.toList = none) : ofCatalog s = value s ↔ Unchanged s.toList := by
  have hread := unquote?_strip_trim_eq_iff s.toList (trim s.toList).length
  rw [hquote, eq_self, and_true] at hread
  rw [ofCatalog, hsequence, if_neg Bool.false_ne_true]
  dsimp only
  split
  next habsent =>
    refine iff_of_false (fun hvalue => by cases hvalue) fun hunchanged => ?_
    rw [hunchanged.strip_trim, Bool.or_eq_true, List.isEmpty_iff, beq_iff_eq] at habsent
    rw [hunchanged.trimmed] at hnull
    rcases habsent with hempty | hword
    · exact hne (String.toList_eq_nil_iff.mp hempty)
    · exact hnull hword
  next => rw [← hread, value.injEq, ← String.toList_inj, String.toList_ofList]

end CatalogDefault

end PortableSql

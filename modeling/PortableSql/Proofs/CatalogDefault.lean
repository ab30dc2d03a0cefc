import PortableSql.CatalogDefault
import PortableSql.Dialect.Quoting
import PortableSql.Proofs.Number.Numeral
import PortableSql.Proofs.Text.Chars

namespace PortableSql.CatalogDefault

open Chars

variable {text core : List Char}

theorem strip_eq_self (h : stripCast (stripParens text) = text) (fuel : Nat) :
    strip fuel text = text := by
  cases fuel with
  | zero => rfl
  | succ fuel => rw [strip, h, if_pos rfl]

theorem stripParens_eq_self (htrim : trim text = text) (hopen : text.head? ≠ some '(') :
    stripParens text = text := by
  simp [stripParens, htrim, hopen]

/-- A cast is not looked for before a quote or a parenthesis. -/
theorem stripCast_append {c : Char} (hc : c = '\'' ∨ c = ')') (before : List Char)
    {rest : List Char} (hrest : ':' ∉ rest) :
    stripCast (before ++ c :: rest) = before ++ c :: rest := by
  unfold stripCast
  split
  next inside after hcut =>
    have htext := eq_of_cutLastPair hcut
    have hcolon : c ≠ ':' := by
      rintro rfl
      simp at hc
    have hmem : c ∈ after := by
      rcases List.append_eq_append_iff.mp htext with ⟨gap, _, hgap⟩ | ⟨gap, _, hgap⟩
      · cases gap with
        | nil => exact absurd (List.head_eq_of_cons_eq hgap) hcolon
        | cons x gap =>
          refine absurd ?_ hrest
          rw [List.tail_eq_of_cons_eq hgap]
          simp
      · match gap, hgap with
        | [], hgap => exact absurd (List.head_eq_of_cons_eq hgap).symm hcolon
        | [_], hgap =>
          have htail := List.tail_eq_of_cons_eq hgap
          exact absurd (List.head_eq_of_cons_eq htail).symm hcolon
        | _ :: _ :: gap, hgap =>
          rw [List.tail_eq_of_cons_eq (List.tail_eq_of_cons_eq hgap)]
          simp
    have hkept : (after.contains '\'' || after.contains ')') = true := by
      rcases hc with rfl | rfl <;> simp [hmem]
    rw [if_pos hkept]
  next => rfl

theorem stripCast_of_last {c : Char} (h : text.getLast? = some c) (hc : c = '\'' ∨ c = ')') :
    stripCast text = text := by
  obtain ⟨before, rfl⟩ := List.getLast?_eq_some_iff.mp h
  exact stripCast_append hc before List.not_mem_nil

theorem stripCast_of_not_mem (h : ':' ∉ text) : stripCast text = text := by
  rw [stripCast, cutLastPair_eq_none h]

theorem stripParens_isInfix_trim (text : List Char) : stripParens text <:+: trim text := by
  unfold stripParens
  dsimp only
  split
  next =>
    have hinside : ((trim text).drop 1).dropLast <:+: trim text :=
      (List.dropLast_prefix _).isInfix.trans (List.drop_suffix 1 _).isInfix
    exact (trim_isInfix _).trans hinside
  next => exact List.infix_rfl

theorem stripParens_isInfix (text : List Char) : stripParens text <:+: text :=
  (stripParens_isInfix_trim text).trans (trim_isInfix text)

theorem stripCast_isInfix (text : List Char) : stripCast text <:+: text := by
  unfold stripCast
  split
  next before after hcut =>
    split
    · exact List.infix_rfl
    · rw [eq_of_cutLastPair hcut]
      exact (trim_isInfix before).trans (List.prefix_append before _).isInfix
  next => exact List.infix_rfl

theorem length_stripCast_le (text : List Char) : (stripCast text).length ≤ text.length :=
  (stripCast_isInfix text).length_le

/-- One round of stripping: parentheses around the text, then a cast at its end. -/
def stripOnce (text : List Char) : List Char := stripCast (stripParens text)

theorem stripOnce_isInfix (text : List Char) : stripOnce text <:+: text :=
  (stripCast_isInfix _).trans (stripParens_isInfix text)

theorem length_stripOnce_lt (h : stripOnce text ≠ text) :
    (stripOnce text).length < text.length :=
  length_lt_of_isInfix (stripOnce_isInfix text) h

theorem strip_succ_of_ne (h : stripOnce text ≠ text) (fuel : Nat) :
    strip (fuel + 1) text = strip fuel (stripOnce text) :=
  if_neg h

theorem strip_of_length_lt (text : List Char)
    (h : (stripCast (stripParens text)).length < text.length) (fuel : Nat) :
    strip (fuel + 1) text = strip fuel (stripCast (stripParens text)) :=
  strip_succ_of_ne (fun heq => Nat.ne_of_lt h (congrArg List.length heq)) fuel

theorem strip_isInfix (fuel : Nat) (text : List Char) : strip fuel text <:+: text := by
  induction fuel generalizing text with
  | zero => exact List.infix_rfl
  | succ fuel ih =>
    by_cases hround : stripOnce text = text
    · have hend := strip_eq_self hround (fuel + 1)
      exact ⟨[], [], by rw [hend, List.nil_append, List.append_nil]⟩
    · rw [strip_succ_of_ne hround]
      exact (ih _).trans (stripOnce_isInfix text)

theorem closesEarly_append (h : ∀ c ∈ text, c ∉ ['\'', '(', ')']) (depth : Int) (quotes : Bool)
    (rest : List Char) :
    closesEarly depth quotes (text ++ rest) = closesEarly depth quotes rest := by
  induction text with
  | nil => rfl
  | cons c text ih =>
    obtain ⟨hquote, hopen, hclose⟩ : c ≠ '\'' ∧ c ≠ '(' ∧ c ≠ ')' := by
      simpa using h c List.mem_cons_self
    rw [List.cons_append, closesEarly, if_neg hquote, if_neg (hopen ·.1), if_neg (hclose ·.1),
      ih fun c hc => h c (List.mem_cons_of_mem _ hc)]

/-- Inside of a string literal no parenthesis counts. -/
theorem closesEarly_double (text : List Char) (depth : Int) (rest : List Char) :
    closesEarly depth true (double '\'' text ++ rest) = closesEarly depth true rest := by
  induction text with
  | nil => rfl
  | cons c text ih =>
    by_cases hc : c = '\''
    · simp [double, hc, closesEarly, ih]
    · simp [double, hc, closesEarly, ih]

/-- A text that begins with another letter, or with no letter, names no sequence. -/
theorem startsWith_lower_eq_false {c : Char} (hascii : c.toNat < 0x80) (hn : c.toLower ≠ 'n')
    (rest : List Char) : startsWith "nextval(".toList (lower (c :: rest)) = false :=
  startsWith_lower_cons hascii hn _ rest

/-- A text without parentheses that ends where no call of a function goes on names no sequence. -/
theorem startsWith_lower_append (h : '(' ∉ text) (hc : c = ' ' ∨ c = ':') (rest : List Char) :
    startsWith "nextval(".toList (lower (text ++ c :: rest)) = false := by
  obtain ⟨image, tail, himage, hparen⟩ := lowerAfter_append_cons h
    (c := c) (by rcases hc with rfl | rfl <;> decide) (by rcases hc with rfl | rfl <;> decide)
    [] rest
  rw [lower, himage, startsWith, Bool.eq_false_iff]
  intro hbegin
  have hmark := prefix_of_prefix_append_cons (List.isPrefixOf_iff_prefix.mp hbegin)
    (by rcases hc with rfl | rfl <;> decide)
  exact hparen (hmark.subset (by decide))

/-- A text of which nothing can be stripped, that closes no parentheses and is no word with a meaning
of its own. -/
structure Bare (text : List Char) : Prop where
  ne_nil : text ≠ []
  first : ∀ c, text.head? = some c → isBlank c = false
  last : ∀ c, text.getLast? = some c → isBlank c = false
  opens : text.head? ≠ some '('
  cast : stripCast text = text
  passed : ∀ depth rest, closesEarly depth false (text ++ rest) = closesEarly depth false rest
  sequence : ∀ rest, startsWith "nextval(".toList (lower (text ++ rest)) = false
  word : asciiLower text ≠ "null".toList

theorem Bare.trim_eq (h : Bare core) : trim core = core := trim_eq_self h.first h.last

theorem Bare.stripped (h : Bare core) : stripCast (stripParens core) = core := by
  rw [stripParens_eq_self h.trim_eq h.opens, h.cast]

/-- A word or a numeral that does not begin like the words with a meaning of their own. -/
theorem bare_of_plain {c : Char} {rest : List Char} (hascii : c.toNat < 0x80)
    (hn : c.toLower ≠ 'n')
    (h : ∀ x ∈ c :: rest, isBlank x = false ∧ x ∉ ['\'', '(', ')', ':']) : Bare (c :: rest) where
  ne_nil := List.cons_ne_nil _ _
  first x hx := (h x (List.mem_of_head? hx)).1
  last x hx := (h x (List.mem_of_getLast? hx)).1
  opens hopen := (h _ (List.mem_of_head? hopen)).2 (by decide)
  cast := stripCast_of_not_mem fun hcolon => (h _ hcolon).2 (by decide)
  passed depth rest :=
    closesEarly_append (fun x hx hmark => (h x hx).2 (List.mem_append_left [':'] hmark)) _ _ _
  sequence rest := startsWith_lower_eq_false hascii hn _
  word hnull := hn (List.head_eq_of_cons_eq hnull)

/-- A string literal is bare, also as a national string. -/
theorem bare_quoted {mark : List Char} (hmark : mark = [] ∨ mark = ['N']) (text : List Char) :
    Bare (mark ++ ('\'' :: double '\'' text ++ ['\''])) := by
  have hlast : (mark ++ ('\'' :: double '\'' text ++ ['\''])).getLast? = some '\'' := by
    rw [List.getLast?_append, List.getLast?_concat, Option.some_or]
  have hpassed (depth : Int) (rest : List Char) :
      closesEarly depth false (('\'' :: double '\'' text ++ ['\'']) ++ rest) =
        closesEarly depth false rest := by
    simp [closesEarly, closesEarly_double]
  have hend : ∀ c, (mark ++ ('\'' :: double '\'' text ++ ['\''])).getLast? = some c →
      isBlank c = false := by
    rw [hlast]
    rintro c ⟨rfl⟩
    decide
  rcases hmark with rfl | rfl
  · refine ⟨by simp, ?_, hend, by simp, stripCast_of_last hlast (.inl rfl), hpassed,
      fun rest => startsWith_lower_eq_false (by decide) (by decide) _, by simp [asciiLower]⟩
    rintro c ⟨rfl⟩
    decide
  · refine ⟨by simp, ?_, hend, by simp, stripCast_of_last hlast (.inl rfl), hpassed,
      fun rest => ?_, by simp [asciiLower]⟩
    · rintro c ⟨rfl⟩
      decide
    · simp [lower, lowerAfter, lowerChar, startsWith, List.isPrefixOf]

end PortableSql.CatalogDefault

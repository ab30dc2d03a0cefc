import Mathlib.Algebra.Group.Nat.Even
import Mathlib.Data.List.Infix
import PortableSql.Proofs.CatalogDefault.Unchanged

namespace PortableSql.CatalogDefault

open Chars

variable {text before after inside rest : List Char} {c : Char}

/-- Whether the end of a text is in quotes, given whether its start is. -/
def quotesAfter (quotes : Bool) : List Char → Bool
  | [] => quotes
  | c :: rest => quotesAfter (if c = '\'' then !quotes else quotes) rest

/-- A text that closes its quotes, closes no parenthesis before it is open, and leaves none open.
Parentheses in quotes do not count. -/
structure WellNested (text : List Char) : Prop where
  quotes : Even (text.count '\'')
  opened : ∀ before, before <+: text → 0 ≤ openAfter 0 false before
  closed : openAfter 0 false text = 0

theorem wellNested_iff :
    WellNested text ↔ Even (text.count '\'') ∧
      (∀ before ∈ text.inits, 0 ≤ openAfter 0 false before) ∧ openAfter 0 false text = 0 := by
  simp only [List.mem_inits]
  exact ⟨fun h => ⟨h.quotes, h.opened, h.closed⟩, fun ⟨hquotes, hopened, hclosed⟩ =>
    ⟨hquotes, hopened, hclosed⟩⟩

instance (text : List Char) : Decidable (WellNested text) :=
  decidable_of_iff' _ wellNested_iff

/-- What can stand between a parenthesis and the one that closes it: plain characters, texts in
quotes and parentheses with the like between them. -/
inductive Matched : List Char → Prop
  | nil : Matched []
  | plain {c : Char} {rest : List Char} (hc : c ∉ ['\'', '(', ')']) (hrest : Matched rest) :
      Matched (c :: rest)
  | literal {body rest : List Char} (hbody : '\'' ∉ body) (hrest : Matched rest) :
      Matched ('\'' :: (body ++ '\'' :: rest))
  | group {inside rest : List Char} (hinside : Matched inside) (hrest : Matched rest) :
      Matched ('(' :: (inside ++ ')' :: rest))

/-- A text begins with a parenthesis, and the one that closes it stands between `inside` and
`after`. -/
structure FirstMatch (text inside after : List Char) : Prop where
  eq : text = '(' :: (inside ++ ')' :: after)
  inside : Matched inside

theorem openAfter_cons (c : Char) (rest : List Char) (depth : Int) (quotes : Bool) :
    openAfter depth quotes (c :: rest) =
      openAfter (depth + openAfter 0 quotes [c]) (quotesAfter quotes [c]) rest := by
  by_cases hquote : c = '\''
  · simp [openAfter, quotesAfter, hquote]
  · simp only [openAfter, quotesAfter, if_neg hquote]
    split
    next => simp
    next =>
      split
      next => simp [Int.sub_eq_add_neg]
      next => simp

theorem openAfter_append (before after : List Char) (depth : Int) (quotes : Bool) :
    openAfter depth quotes (before ++ after) =
      openAfter (openAfter depth quotes before) (quotesAfter quotes before) after := by
  induction before generalizing depth quotes with
  | nil => rfl
  | cons c before ih =>
    rw [List.cons_append, openAfter_cons, ih, openAfter_cons c before]
    rfl

theorem openAfter_add (text : List Char) (depth more : Int) (quotes : Bool) :
    openAfter (depth + more) quotes text = openAfter depth quotes text + more := by
  induction text generalizing depth quotes with
  | nil => rfl
  | cons c text ih => rw [openAfter_cons, openAfter_cons c text, Int.add_right_comm, ih]

theorem openAfter_eq_add (text : List Char) (depth : Int) (quotes : Bool) :
    openAfter depth quotes text = openAfter 0 quotes text + depth := by
  rw [← openAfter_add, Int.zero_add]

theorem quotesAfter_eq_false_iff :
    quotesAfter false text = false ↔ Even (text.count '\'') := by
  have hboth (text : List Char) : (quotesAfter false text = false ↔ Even (text.count '\'')) ∧
      (quotesAfter true text = false ↔ ¬ Even (text.count '\'')) := by
    induction text with
    | nil => simp [quotesAfter]
    | cons c text ih =>
      by_cases hquote : c = '\''
      · rw [quotesAfter, quotesAfter, if_pos hquote, if_pos hquote, hquote, List.count_cons_self,
          Nat.even_add_one, not_not]
        exact ih.symm
      · rw [quotesAfter, quotesAfter, if_neg hquote, if_neg hquote, List.count_cons_of_ne hquote]
        exact ih
  exact (hboth text).1

theorem openAfter_of_plain (h : ∀ c ∈ text, c ∉ ['\'', '(', ')']) (depth : Int) (quotes : Bool) :
    openAfter depth quotes text = depth := by
  induction text with
  | nil => rfl
  | cons c text ih =>
    obtain ⟨hquote, hopen, hclose⟩ : c ≠ '\'' ∧ c ≠ '(' ∧ c ≠ ')' := by
      simpa using h c List.mem_cons_self
    rw [openAfter, if_neg hquote, if_neg (hopen ·.1), if_neg (hclose ·.1)]
    exact ih fun c hc => h c (List.mem_cons_of_mem _ hc)

theorem openAfter_of_quoted (h : '\'' ∉ text) (depth : Int) : openAfter depth true text = depth := by
  induction text with
  | nil => rfl
  | cons c text ih =>
    obtain ⟨hc, ht⟩ : '\'' ≠ c ∧ '\'' ∉ text := by simpa using h
    simp [openAfter, Ne.symm hc, ih ht]

theorem wellNested_of_plain (h : ∀ c ∈ text, c ∉ ['\'', '(', ')']) : WellNested text where
  quotes := by
    rw [List.count_eq_zero_of_not_mem fun hquote => h _ hquote (by decide)]
    exact Even.zero
  opened before hb := by
    have hnone := openAfter_of_plain (fun c hc => h c (hb.subset hc)) 0 false
    omega
  closed := openAfter_of_plain h 0 false

namespace WellNested

theorem openAfter_append (h : WellNested before) (after : List Char) :
    openAfter 0 false (before ++ after) = openAfter 0 false after := by
  rw [CatalogDefault.openAfter_append, h.closed, quotesAfter_eq_false_iff.mpr h.quotes]

/-- What stands behind a well-nested text is judged on its own. -/
theorem append_iff (h : WellNested before) : WellNested (before ++ after) ↔ WellNested after := by
  have hquotes : Even ((before ++ after).count '\'') ↔ Even (after.count '\'') := by
    rw [List.count_append, Nat.even_add, iff_true_left h.quotes]
  constructor
  · intro hboth
    refine ⟨hquotes.mp hboth.quotes, fun start hs => ?_, ?_⟩
    · rw [← h.openAfter_append]
      exact hboth.opened _ ((List.prefix_append_right_inj before).mpr hs)
    · rw [← h.openAfter_append]
      exact hboth.closed
  · intro hafter
    refine ⟨hquotes.mpr hafter.quotes, fun start hs => ?_, ?_⟩
    · rcases List.prefix_or_prefix_of_prefix hs (List.prefix_append before after) with
        hfirst | ⟨more, rfl⟩
      · exact h.opened start hfirst
      · rw [h.openAfter_append]
        exact hafter.opened more ((List.prefix_append_right_inj before).mp hs)
    · rw [h.openAfter_append, hafter.closed]

theorem of_append_right (hboth : WellNested (before ++ after)) (hafter : WellNested after) :
    WellNested before := by
  have hquotes : Even (before.count '\'') := by
    have htotal := hboth.quotes
    rw [List.count_append, Nat.even_add] at htotal
    exact htotal.mpr hafter.quotes
  refine ⟨hquotes, fun start hs => hboth.opened start (hs.trans (List.prefix_append _ _)), ?_⟩
  have htotal := hboth.closed
  rw [CatalogDefault.openAfter_append, quotesAfter_eq_false_iff.mpr hquotes, openAfter_eq_add,
    hafter.closed] at htotal
  omega

/-- White space has no part in nesting. -/
theorem trim (h : WellNested text) : WellNested (trim text) := by
  obtain ⟨front, back, htext, hfront, hback⟩ := exists_append_trim text
  have hplain {text : List Char} (hblank : ∀ c ∈ text, isBlank c = true) : WellNested text := by
    refine wellNested_of_plain fun c hc hmark => ?_
    have hc := hblank c hc
    simp only [List.mem_cons, List.not_mem_nil, or_false] at hmark
    rcases hmark with rfl | rfl | rfl <;> exact absurd hc (by decide)
  rw [htext] at h
  exact ((hplain hfront).append_iff.mp h).of_append_right (hplain hback)

theorem literal (h : '\'' ∉ text) : WellNested ('\'' :: (text ++ ['\''])) := by
  have hbody {start : List Char} (hs : start <+: text) : openAfter 0 true start = 0 :=
    openAfter_of_quoted (fun hquote => h (hs.subset hquote)) 0
  have hwhole : openAfter 0 true (text ++ ['\'']) = 0 := by
    rw [CatalogDefault.openAfter_append, hbody List.prefix_rfl]
    rfl
  refine ⟨?_, forall_prefix_cons_iff.mpr ⟨Int.le_refl 0, fun start hs => ?_⟩, hwhole⟩
  · rw [List.count_cons_self, List.count_append, List.count_eq_zero_of_not_mem h]
    exact ⟨1, rfl⟩
  · change 0 ≤ openAfter 0 true start
    rcases List.prefix_concat_iff.mp hs with rfl | hs
    · exact Int.le_of_eq hwhole.symm
    · exact Int.le_of_eq (hbody hs).symm

theorem parentheses (h : WellNested inside) : WellNested ('(' :: (inside ++ [')'])) := by
  have hwhole : openAfter 1 false (inside ++ [')']) = 0 := by
    rw [openAfter_eq_add, h.openAfter_append]
    rfl
  refine ⟨?_, forall_prefix_cons_iff.mpr ⟨Int.le_refl 0, fun start hs => ?_⟩, hwhole⟩
  · simpa [List.count_append] using h.quotes
  · change 0 ≤ openAfter 1 false start
    rcases List.prefix_concat_iff.mp hs with rfl | hs
    · exact Int.le_of_eq hwhole.symm
    · have hstart := h.opened start hs
      rw [openAfter_eq_add]
      omega

end WellNested

/-- Where no more parentheses are left open than were before, there is the one that closes the last
of those: it stands where one is open for the last time. -/
theorem exists_closing {depth : Int} {quotes : Bool} (hdepth : 0 < depth)
    (h : openAfter depth quotes text ≤ 0) :
    ∃ inside after, text = inside ++ ')' :: after ∧ openAfter depth quotes inside = 1 ∧
      quotesAfter quotes inside = false ∧
      ∀ before, before <+: inside → 0 < openAfter depth quotes before := by
  induction text generalizing depth quotes with
  | nil => exact absurd h (Int.not_le.mpr hdepth)
  | cons c rest ih =>
    have hcons (more : List Char) : openAfter depth quotes (c :: more) =
        openAfter (openAfter depth quotes [c]) (quotesAfter quotes [c]) more :=
      openAfter_append [c] more depth quotes
    by_cases hstep : 0 < openAfter depth quotes [c]
    · rw [hcons] at h
      obtain ⟨inside, after, htext, hopen, hquotes, hbefore⟩ := ih hstep h
      refine ⟨c :: inside, after, by rw [htext, List.cons_append], ?_, hquotes, ?_⟩
      · rw [hcons, hopen]
      · refine forall_prefix_cons_iff.mpr ⟨hdepth, fun start hs => ?_⟩
        rw [hcons]
        exact hbefore start hs
    · -- only the parenthesis that closes the last one takes the depth down to zero
      have hclose : c = ')' ∧ quotes = false ∧ depth = 1 := by
        simp only [openAfter] at hstep
        split at hstep
        next => omega
        next =>
          split at hstep
          next => omega
          next =>
            split at hstep
            next hc => exact ⟨hc.1, by simpa using hc.2, by omega⟩
            next => omega
      obtain ⟨rfl, rfl, rfl⟩ := hclose
      refine ⟨[], rest, rfl, rfl, rfl, fun start hs => ?_⟩
      rw [List.prefix_nil.mp hs]
      exact hdepth

theorem Matched.wellNested (h : Matched text) : WellNested text := by
  induction h with
  | nil => exact wellNested_of_plain fun c hc => absurd hc List.not_mem_nil
  | @plain c rest hc _ ih =>
    have hfirst : WellNested [c] := wellNested_of_plain (by simpa using hc)
    exact hfirst.append_iff.mpr ih
  | @literal body rest hbody _ ih =>
    have hwhole := (WellNested.literal hbody).append_iff.mpr ih
    simpa using hwhole
  | @group inside rest _ _ ihinside ihrest =>
    have hwhole := ihinside.parentheses.append_iff.mpr ihrest
    simpa using hwhole

/-- Behind a quote there is another, and the text behind that is well-nested. -/
theorem WellNested.exists_literal (h : WellNested ('\'' :: rest)) :
    ∃ body more, rest = body ++ '\'' :: more ∧ '\'' ∉ body ∧ WellNested more := by
  have hquote : '\'' ∈ rest := by
    refine List.count_pos_iff.mp (Nat.pos_of_ne_zero fun hzero => ?_)
    have hquotes := h.quotes
    rw [List.count_cons_self, hzero] at hquotes
    exact Nat.not_even_one hquotes
  obtain ⟨body, more, rfl, hbody⟩ := List.eq_append_cons_of_mem hquote
  have hmore : WellNested more := (WellNested.literal hbody).append_iff.mp (by simpa using h)
  exact ⟨body, more, rfl, hbody, hmore⟩

/-- Behind an open parenthesis there is the one that closes it, with well-nested texts between them
and behind. -/
theorem WellNested.exists_group (h : WellNested ('(' :: rest)) :
    ∃ inside more, rest = inside ++ ')' :: more ∧ WellNested inside ∧ WellNested more := by
  have hclosed : openAfter 1 false rest = 0 := h.closed
  obtain ⟨inside, more, rfl, hone, hquotes, hbefore⟩ :=
    exists_closing (by decide) (Int.le_of_eq hclosed)
  have hinside : WellNested inside := by
    refine ⟨quotesAfter_eq_false_iff.mp hquotes, fun start hs => ?_, ?_⟩
    · have hstart := hbefore start hs
      rw [openAfter_eq_add] at hstart
      omega
    · rw [openAfter_eq_add] at hone
      omega
  have hmore : WellNested more := hinside.parentheses.append_iff.mp (by simpa using h)
  exact ⟨inside, more, rfl, hinside, hmore⟩

/-- A text whose count of open parentheses is right is built of matched parts. -/
theorem WellNested.matched (h : WellNested text) : Matched text := by
  induction hlength : text.length using Nat.strong_induction_on generalizing text with
  | _ n ih =>
    subst hlength
    match text with
    | [] => exact .nil
    | c :: rest =>
      by_cases hquote : c = '\''
      · subst hquote
        obtain ⟨body, more, rfl, hbody, hmore⟩ := h.exists_literal
        have hshort : more.length < ('\'' :: (body ++ '\'' :: more)).length := by
          simp only [List.length_cons, List.length_append]
          omega
        exact .literal hbody (ih _ hshort hmore rfl)
      by_cases hopen : c = '('
      · subst hopen
        obtain ⟨inside, more, rfl, hinside, hmore⟩ := h.exists_group
        have hshort : inside.length < ('(' :: (inside ++ ')' :: more)).length ∧
            more.length < ('(' :: (inside ++ ')' :: more)).length := by
          simp only [List.length_cons, List.length_append]
          omega
        exact .group (ih _ hshort.1 hinside rfl) (ih _ hshort.2 hmore rfl)
      by_cases hclose : c = ')'
      · subst hclose
        have hfirst := h.opened [')'] (by simp)
        exact absurd hfirst (by decide)
      · have hc : c ∉ ['\'', '(', ')'] := by simp [hquote, hopen, hclose]
        have hfirst : WellNested [c] := wellNested_of_plain (by simpa using hc)
        exact .plain hc (ih _ (Nat.lt_succ_self _) (hfirst.append_iff.mp h) rfl)

theorem wellNested_iff_matched : WellNested text ↔ Matched text :=
  ⟨WellNested.matched, Matched.wellNested⟩

instance (text : List Char) : Decidable (Matched text) :=
  decidable_of_iff _ wellNested_iff_matched

theorem WellNested.exists_firstMatch (h : WellNested text) (hopen : text.head? = some '(') :
    ∃ inside after, FirstMatch text inside after := by
  cases h.matched with
  | nil => cases hopen
  | plain hc =>
    obtain rfl := Option.some.inj hopen
    exact absurd hc (by decide)
  | literal => cases hopen
  | @group inside after hinside => exact ⟨inside, after, rfl, hinside⟩

/-- The parenthesis behind a matched text closes none of its own, so that no well-nested text goes on
with it. -/
theorem Matched.not_isPrefix (hinside : Matched inside) {others : List Char}
    (h : ∀ start, start <+: others → 0 ≤ openAfter 0 false start) :
    ¬ inside ++ [')'] <+: others := by
  intro hprefix
  have hopen := h _ hprefix
  rw [hinside.wellNested.openAfter_append] at hopen
  exact absurd hopen (by decide)

namespace FirstMatch

variable {others left : List Char}

/-- No parenthesis is closed by two. -/
theorem unique (h : FirstMatch text inside after) (hother : FirstMatch text others left) :
    inside = others ∧ after = left := by
  have hgap {first second gap x y : List Char} (hfirst : Matched first) (hsecond : Matched second)
      (hlonger : second = first ++ gap) (hrest : ')' :: x = gap ++ ')' :: y) : gap = [] := by
    cases gap with
    | nil => rfl
    | cons c gap =>
      obtain rfl : ')' = c := List.head_eq_of_cons_eq hrest
      refine absurd ⟨gap, ?_⟩ (hfirst.not_isPrefix hsecond.wellNested.opened)
      rw [hlonger, List.append_assoc, List.singleton_append]
  have hsame : inside ++ ')' :: after = others ++ ')' :: left :=
    List.tail_eq_of_cons_eq (h.eq.symm.trans hother.eq)
  have hinside : inside = others := by
    rcases List.append_eq_append_iff.mp hsame with ⟨gap, hlonger, hrest⟩ | ⟨gap, hlonger, hrest⟩
    · rw [hlonger, hgap h.inside hother.inside hlonger hrest, List.append_nil]
    · rw [hlonger, hgap hother.inside h.inside hlonger hrest, List.append_nil]
  subst hinside
  exact ⟨rfl, List.tail_eq_of_cons_eq (List.append_cancel_left hsame)⟩

/-- The first parenthesis is open to the end of a text if and only if the last character closes
it. -/
theorem enclosed_iff (h : FirstMatch text inside after) : Enclosed text ↔ after = [] := by
  constructor
  · rintro ⟨whole, htext, hopen⟩
    refine Decidable.byContradiction fun hafter => ?_
    obtain ⟨more, last, rfl⟩ := (List.eq_nil_or_concat' after).resolve_left hafter
    have hwhole : inside ++ ')' :: more = whole := by
      have hsame := List.tail_eq_of_cons_eq (h.eq.symm.trans htext)
      rw [← List.cons_append, ← List.append_assoc] at hsame
      exact (List.append_inj' hsame rfl).1
    have hnone := hopen (inside ++ [')']) ⟨more, by simp [← hwhole]⟩
    rw [openAfter_eq_add, h.inside.wellNested.openAfter_append] at hnone
    exact absurd hnone (by decide)
  · rintro rfl
    refine ⟨inside, h.eq, fun start hs => ?_⟩
    have hstart := h.inside.wellNested.opened start hs
    rw [openAfter_eq_add]
    omega

end FirstMatch

theorem stripParens_of_not_enclosed (h : ¬ Enclosed (trim text)) : stripParens text = trim text := by
  rw [CatalogDefault.enclosed_iff] at h
  refine if_neg fun hstrip => h ?_
  simpa using hstrip

theorem stripParens_of_enclosed (h : Enclosed (trim text))
    (htext : trim text = '(' :: (inside ++ [')'])) : stripParens text = trim inside := by
  obtain ⟨hfirst, hlast, hcloses⟩ := CatalogDefault.enclosed_iff.mp h
  rw [stripParens, if_pos ⟨hfirst, hlast, by simp [hcloses]⟩, htext, List.drop_succ_cons,
    List.drop_zero, List.dropLast_concat]

/-- Stripping a text of parentheses goes by what the first of them is closed by. -/
theorem FirstMatch.stripParens_eq (h : FirstMatch (trim text) inside after) :
    stripParens text = if after = [] then trim inside else trim text := by
  split
  next hafter =>
    have henclosed := h.enclosed_iff.mpr hafter
    subst hafter
    exact stripParens_of_enclosed henclosed h.eq
  next hafter => exact stripParens_of_not_enclosed fun h' => hafter (h.enclosed_iff.mp h')

/-- The first parenthesis is closed before the last is open. -/
example : stripParens " (1) + (2)".toList = "(1) + (2)".toList := by
  decide

theorem stripParens_of_not_open (hopen : (trim text).head? ≠ some '(') :
    stripParens text = trim text :=
  stripParens_of_not_enclosed fun henclosed => hopen (CatalogDefault.enclosed_iff.mp henclosed).1

/-- What is left of a well-nested text is well-nested. -/
theorem WellNested.stripParens (h : WellNested text) : WellNested (stripParens text) := by
  by_cases hopen : (Chars.trim text).head? = some '('
  · obtain ⟨inside, after, hmatch⟩ := h.trim.exists_firstMatch hopen
    rw [hmatch.stripParens_eq]
    split
    next => exact hmatch.inside.wellNested.trim
    next => exact h.trim
  · rw [stripParens_of_not_open hopen]
    exact h.trim

end PortableSql.CatalogDefault

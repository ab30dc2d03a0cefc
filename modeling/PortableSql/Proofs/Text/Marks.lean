import PortableSql.Proofs.Text.Chars

namespace PortableSql.Chars

variable {c : Char} {mark text before rest : List Char}

theorem stripStart?_eq_none (h : ¬ mark <+: text) : stripStart? mark text = none := by
  induction mark generalizing text with
  | nil => exact absurd List.nil_prefix h
  | cons m mark ih =>
    cases text with
    | nil => rfl
    | cons x text =>
      rw [stripStart?]
      split
      next heq =>
        subst heq
        exact ih fun hmark => h (List.cons_prefix_cons.mpr ⟨rfl, hmark⟩)
      next => rfl

theorem cutFirstMark_of_prefix (mark rest : List Char) :
    cutFirstMark mark (mark ++ rest) = some ([], rest) := by
  have hstrip := stripStart?_append mark rest
  cases htext : mark ++ rest with
  | nil =>
    rw [htext] at hstrip
    rw [cutFirstMark, hstrip]
    rfl
  | cons x text =>
    rw [htext] at hstrip
    rw [cutFirstMark, hstrip]

/-- A text in which no mark begins, whatever follows it: a mark is then looked for in what
follows. -/
def Passes (mark text : List Char) : Prop :=
  ∀ rest, cutFirstMark mark (text ++ rest) =
    (cutFirstMark mark rest).map fun cut => (text ++ cut.1, cut.2)

theorem passes_nil : Passes mark [] := by
  intro rest
  rw [List.nil_append]
  cases cutFirstMark mark rest <;> rfl

theorem Passes.append {first second : List Char} (hfirst : Passes mark first)
    (hsecond : Passes mark second) : Passes mark (first ++ second) := by
  intro rest
  rw [List.append_assoc, hfirst, hsecond, Option.map_map]
  refine Option.map_congr fun cut _ => ?_
  simp only [Function.comp_apply, List.append_assoc]

theorem passes_cons (h : ∀ rest, ¬ mark <+: c :: (text ++ rest)) (htext : Passes mark text) :
    Passes mark (c :: text) := by
  intro rest
  rw [List.cons_append, cutFirstMark, stripStart?_eq_none (h rest)]
  dsimp only
  rw [htext, Option.map_map]
  rfl

/-- A mark does not begin in a text without it that ends with a character that it does not have. -/
theorem passes_concat (hc : c ∉ mark) (h : ¬ mark <:+: text) : Passes mark (text ++ [c]) := by
  have hbegins {text : List Char} (h : ¬ mark <:+: text) (rest : List Char) :
      ¬ mark <+: (text ++ [c]) ++ rest := by
    rw [List.append_assoc, List.singleton_append]
    exact fun hmark => h (prefix_of_prefix_append_cons hmark hc).isInfix
  induction text with
  | nil => exact passes_cons (hbegins h) passes_nil
  | cons x text ih =>
    have hrest : ¬ mark <:+: text := fun hmark => h (hmark.trans (List.suffix_cons x text).isInfix)
    exact passes_cons (hbegins h) (ih hrest)

theorem passes_of_forall (hmark : mark ≠ []) (h : ∀ x ∈ text, x ∉ mark) : Passes mark text := by
  induction text with
  | nil => exact passes_nil
  | cons x text ih =>
    refine passes_cons (fun rest hbegins => ?_) (ih fun y hy => h y (List.mem_cons_of_mem _ hy))
    obtain ⟨m, others, rfl⟩ := List.exists_cons_of_ne_nil hmark
    obtain ⟨rfl, _⟩ := List.cons_prefix_cons.mp hbegins
    exact h m List.mem_cons_self List.mem_cons_self

theorem Passes.cutFirstMark_mark (h : Passes mark before) (rest : List Char) :
    cutFirstMark mark (before ++ (mark ++ rest)) = some (before, rest) := by
  simp only [h (mark ++ rest), cutFirstMark_of_prefix, Option.map_some, List.append_nil]

theorem Passes.cutFirstMark_eq_none (h : Passes mark text) (hmark : mark ≠ []) :
    cutFirstMark mark text = none := by
  have hnil : cutFirstMark mark [] = none := by
    rw [cutFirstMark, stripStart?_eq_none fun hbegins => hmark (List.prefix_nil.mp hbegins)]
    rfl
  have htext := h []
  rwa [List.append_nil, hnil, Option.map_none] at htext

theorem prefix_of_prefix_double (hc : c ∉ mark) (h : mark <+: double c text) : mark <+: text := by
  induction mark generalizing text with
  | nil => exact List.nil_prefix
  | cons m mark ih =>
    obtain ⟨hm, hmark⟩ : c ≠ m ∧ c ∉ mark := by simpa using hc
    cases text with
    | nil => exact absurd (List.prefix_nil.mp h) (List.cons_ne_nil _ _)
    | cons x text =>
      rw [double] at h
      split at h
      next => exact absurd (List.cons_prefix_cons.mp h).1.symm hm
      next =>
        obtain ⟨rfl, hrest⟩ := List.cons_prefix_cons.mp h
        exact List.cons_prefix_cons.mpr ⟨rfl, ih hmark hrest⟩

/-- A mark that does not have a character does not begin at it. -/
theorem infix_of_infix_cons (hc : c ∉ mark) (h : mark <:+: c :: text) : mark <:+: text := by
  rcases List.infix_cons_iff.mp h with hbegins | hrest
  · cases mark with
    | nil => exact List.nil_infix
    | cons m mark =>
      obtain ⟨rfl, _⟩ := List.cons_prefix_cons.mp hbegins
      exact absurd List.mem_cons_self hc
  · exact hrest

theorem infix_of_infix_concat (hc : c ∉ mark) (h : mark <:+: text ++ [c]) : mark <:+: text := by
  rw [← List.reverse_infix] at h ⊢
  rw [List.reverse_append] at h
  exact infix_of_infix_cons (fun hm => hc (List.mem_reverse.mp hm)) h

/-- Doubling a character makes no mark that does not have it. -/
theorem infix_of_infix_double (hc : c ∉ mark) (h : mark <:+: double c text) : mark <:+: text := by
  induction text with
  | nil => exact h
  | cons x text ih =>
    have hdouble := h
    rw [double] at hdouble
    split at hdouble
    next =>
      have hrest := infix_of_infix_cons hc (infix_of_infix_cons hc hdouble)
      exact (ih hrest).trans (List.suffix_cons x text).isInfix
    next hx =>
      rcases List.infix_cons_iff.mp hdouble with hbegins | hrest
      · have hwhole : mark <+: double c (x :: text) := by rwa [double, if_neg hx]
        exact (prefix_of_prefix_double hc hwhole).isInfix
      · exact (ih hrest).trans (List.suffix_cons x text).isInfix

theorem double_append (c : Char) (before after : List Char) :
    double c (before ++ after) = double c before ++ double c after := by
  induction before with
  | nil => rfl
  | cons x before ih =>
    rw [List.cons_append, double, double, ih]
    split <;> rfl

theorem double_reverse (c : Char) (text : List Char) :
    double c text.reverse = (double c text).reverse := by
  induction text with
  | nil => rfl
  | cons x text ih =>
    rw [List.reverse_cons, double_append, ih, double]
    split
    next hx => simp [double, hx]
    next hx => simp [double, hx]

theorem dropWhile_double (c : Char) (text : List Char) :
    (double c text).dropWhile (· == c) = double c (text.dropWhile (· == c)) := by
  induction text with
  | nil => rfl
  | cons x text ih =>
    by_cases hx : x = c
    · simp [double, hx, ih]
    · simp [double, hx]

/-- Characters at the ends go, however often each is written. -/
theorem stripAround_double (c : Char) (text : List Char) :
    stripAround c (double c text) = double c (stripAround c text) := by
  rw [stripAround, dropWhile_double, ← double_reverse, dropWhile_double, ← double_reverse,
    stripAround]

theorem stripAround_cons (c : Char) (text : List Char) :
    stripAround c (c :: text) = stripAround c text := by
  simp [stripAround]

theorem stripAround_concat (c : Char) (text : List Char) :
    stripAround c (text ++ [c]) = stripAround c text := by
  rw [stripAround, List.dropWhile_append]
  split
  next hempty => simp [stripAround, List.isEmpty_iff.mp hempty]
  next => simp [stripAround]

/-- Only a text with such a character at one of its ends is changed. -/
theorem stripAround_eq_self_iff :
    stripAround c text = text ↔ text.head? ≠ some c ∧ text.getLast? ≠ some c := by
  have hstart {text : List Char} : text.dropWhile (· == c) = text ↔ text.head? ≠ some c := by
    cases text with
    | nil => simp
    | cons x text =>
      by_cases hx : x = c
      · have hlength := (List.dropWhile_sublist (· == c) (l := text)).length_le
        refine iff_of_false (fun heq => ?_) (by simp [hx])
        have hsame := congrArg List.length heq
        simp only [hx, List.dropWhile_cons, beq_self_eq_true, if_true, List.length_cons] at hsame
        omega
      · simp [hx]
  have hend : (text.reverse.dropWhile (· == c)).reverse = text ↔ text.getLast? ≠ some c := by
    rw [List.reverse_eq_iff, hstart, List.head?_reverse]
  have hfirst := (List.dropWhile_sublist (· == c) (l := text)).length_le
  have hlast := (List.dropWhile_sublist (· == c)
    (l := (text.dropWhile (· == c)).reverse)).length_le
  rw [← hstart, ← hend]
  constructor
  · intro heq
    have hsame := congrArg List.length heq
    rw [stripAround, List.length_reverse] at hsame
    rw [List.length_reverse] at hlast
    have hwhole : text.dropWhile (· == c) = text :=
      (List.dropWhile_sublist (· == c)).eq_of_length (by omega)
    rw [stripAround, hwhole] at heq
    exact ⟨hwhole, heq⟩
  · rintro ⟨hwhole, heq⟩
    rw [stripAround, hwhole, heq]

end PortableSql.Chars

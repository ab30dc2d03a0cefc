import PortableSql.Proofs.CatalogDefault.Dressing

namespace PortableSql

namespace CatalogDefault

open Chars Layer

variable {text : List Char}

theorem length_unquote?_lt {inner : List Char} (h : unquote? text = some inner) :
    inner.length < text.length := by
  obtain ⟨body, hbody, rfl⟩ := Option.map_eq_some_iff.mp h
  obtain ⟨rest, hrest, hend⟩ := Option.bind_eq_some_iff.mp hbody
  have hlength : body.length ≤ rest.length := by
    rcases List.eq_nil_or_concat rest with rfl | ⟨before, last, rfl⟩
    · cases hend
    · rw [List.concat_eq_append, stripEnd?_concat, Option.ite_none_right_eq_some] at hend
      obtain ⟨_, hend⟩ := hend
      cases hend
      simp
  have hhalve := length_halve_le '\'' body
  split at hrest
  next => cases hrest; simp only [List.length_cons]; omega
  next => cases hrest; simp only [List.length_cons]; omega
  next => cases hrest

theorem length_unquote?_getD_le (text : List Char) :
    ((unquote? text).getD text).length ≤ text.length := by
  cases hquotes : unquote? text with
  | none => exact Nat.le_refl _
  | some inner => exact Nat.le_of_lt (length_unquote?_lt hquotes)

theorem unquote?_getD_eq_self_iff : (unquote? text).getD text = text ↔ unquote? text = none := by
  cases hquotes : unquote? text with
  | none => exact iff_of_true rfl rfl
  | some inner =>
    have hshorter := length_unquote?_lt hquotes
    refine iff_of_false (fun hsame => ?_) (Option.some_ne_none inner)
    rw [Option.getD_some] at hsame
    rw [hsame] at hshorter
    exact Nat.lt_irrefl _ hshorter

theorem Balanced.dress_parentheses (h : Balanced text) (n : Nat) :
    Balanced (dress (.replicate n .parentheses) text) := by
  induction n with
  | zero => exact h
  | succ n ih => exact ih.parentheses

theorem trim_dress_parentheses (h : trim text = text) (n : Nat) :
    trim (dress (.replicate n .parentheses) text) = dress (.replicate n .parentheses) text := by
  cases n with
  | zero => exact h
  | succ n => exact trim_parentheses _

/-- Parentheses around a text go, and then a cast at its end is looked for. -/
theorem Balanced.strip_parentheses (h : Balanced text) (htrim : trim text = text)
    (hwhole : stripParens text = text) (n : Nat) {fuel : Nat}
    (hfuel : (dress (.replicate n .parentheses) text).length < fuel) :
    ∃ left, strip fuel (dress (.replicate n .parentheses) text) = strip left (stripCast text) := by
  induction n generalizing fuel with
  | zero =>
    obtain ⟨fuel, rfl⟩ := Nat.exists_eq_add_one_of_ne_zero (Nat.ne_zero_of_lt hfuel)
    refine ⟨fuel, ?_⟩
    change strip (fuel + 1) text = _
    rw [strip, hwhole]
    split
    next hcast => rw [hcast, strip_eq_self (by rw [hwhole, hcast])]
    next => rfl
  | succ n ih =>
    obtain ⟨fuel, rfl⟩ := Nat.exists_eq_add_one_of_ne_zero (Nat.ne_zero_of_lt hfuel)
    have hlength : (dress (.replicate (n + 1) .parentheses) text).length =
        (dress (.replicate n .parentheses) text).length + 2 := by
      simp [List.replicate_succ, dress_cons, wrap]
    have hparens : stripParens (dress (.replicate (n + 1) .parentheses) text) =
        dress (.replicate n .parentheses) text :=
      (h.dress_parentheses n).stripParens_parentheses.trans (trim_dress_parentheses htrim n)
    have hcast := length_stripCast_le (dress (.replicate n .parentheses) text)
    rw [strip_of_length_lt _ (by rw [hparens]; omega), hparens]
    -- inside of the innermost parentheses a cast may end the text, further out a parenthesis does
    cases n with
    | zero => exact ⟨fuel, rfl⟩
    | succ n =>
      have hlast : stripCast (dress (.replicate (n + 1) .parentheses) text) =
          dress (.replicate (n + 1) .parentheses) text :=
        stripCast_of_last (getLast?_parentheses _) (.inr rfl)
      rw [hlast]
      exact ih (by omega)

theorem unquote?_strip_eq_iff (hwhole : stripParens text = text) (fuel : Nat) :
    (unquote? (strip fuel (stripCast text))).getD (strip fuel (stripCast text)) = text ↔
      stripCast text = text ∧ unquote? text = none := by
  have hkept (hcast : stripCast text = text) : strip fuel (stripCast text) = text := by
    rw [hcast, strip_eq_self (by rw [hwhole, hcast])]
  constructor
  · -- whatever is cut off is missing from the length
    intro hsame
    have hbare := (strip_isInfix fuel (stripCast text)).length_le
    have hunquoted := length_unquote?_getD_le (strip fuel (stripCast text))
    rw [hsame] at hunquoted
    have hcast : stripCast text = text := by
      refine Decidable.byContradiction fun hcut => ?_
      have hless := length_lt_of_isInfix (stripCast_isInfix text) hcut
      omega
    rw [hkept hcast] at hsame
    exact ⟨hcast, unquote?_getD_eq_self_iff.mp hsame⟩
  · rintro ⟨hcast, hquotes⟩
    rw [hkept hcast, hquotes, Option.getD_none]

/-- In parentheses or not, a text is a default as it is if nothing of it can be stripped. -/
theorem Balanced.ofCatalog_parentheses_iff (h : Balanced text) (htrim : trim text = text)
    (hwhole : stripParens text = text)
    (hsequence : startsWith "nextval(".toList (lower text) = false)
    (hword : asciiLower text ≠ "null".toList) (hne : text ≠ []) (n : Nat) :
    ofCatalog (dressText (.replicate n .parentheses) (String.ofList text)) =
        value (String.ofList text) ↔
      stripCast text = text ∧ unquote? text = none := by
  have htext : (dressText (.replicate n .parentheses) (String.ofList text)).toList =
      dress (.replicate n .parentheses) text := by
    rw [dressText, String.toList_ofList, String.toList_ofList]
  have hstart : startsWith "nextval(".toList
      (lower (dress (.replicate n .parentheses) text)) = false := by
    cases n with
    | zero => exact hsequence
    | succ n => exact startsWith_lower_eq_false (by decide) (by decide) _
  obtain ⟨left, hleft⟩ := h.strip_parentheses htrim hwhole n (Nat.lt_succ_self _)
  rw [ofCatalog, htext, trim_dress_parentheses htrim, hstart, if_neg Bool.false_ne_true, hleft]
  constructor
  · intro heq
    dsimp only at heq
    split at heq
    next => cases heq
    next =>
      have hsame := congrArg String.toList (value.inj heq)
      rw [String.toList_ofList, String.toList_ofList] at hsame
      exact (unquote?_strip_eq_iff hwhole left).mp hsame
  · rintro ⟨hcast, hquotes⟩
    have hbare : strip left (stripCast text) = text := by
      rw [hcast, strip_eq_self (by rw [hwhole, hcast])]
    have hempty : text.isEmpty = false := List.isEmpty_eq_false_iff.mpr hne
    have hnull : (asciiLower text == "null".toList) = false := beq_eq_false_iff_ne.mpr hword
    simp only [hbare, hquotes, hempty, hnull, Bool.or_self, if_neg Bool.false_ne_true,
      Option.getD_none]

/-- What stands before a type without marks is cut off from it. -/
theorem stripCast_ne_self (before : List Char) {type : List Char}
    (h : ∀ c ∈ type, c ∉ ['\'', '(', ')', ':']) :
    stripCast (before ++ ':' :: ':' :: type) ≠ before ++ ':' :: ':' :: type := by
  have hquote : '\'' ∉ type := fun hc => h _ hc (by decide)
  have hclose : ')' ∉ type := fun hc => h _ hc (by decide)
  have hcut : stripCast (before ++ ':' :: ':' :: type) = trim before := by
    rw [stripCast, cutLastPair_append before fun hc => h _ hc (by decide)]
    simp [hquote, hclose]
  intro heq
  have hlength := length_trim_le before
  rw [← hcut, heq, List.length_append, List.length_cons, List.length_cons] at hlength
  omega

end CatalogDefault

/-- A numeral or a plain identifier. -/
structure Word where
  text : String
  nonempty : text.toList ≠ []
  plain : ∀ c ∈ text.toList, Chars.isBlank c = false ∧ c ∉ ['\'', '(', ')', ':']

/-- What stands at either side of an operator. -/
inductive Operand where
  | word (word : Word)
  | literal (text : String)
  | parentheses (inside : Operand)
  | cast (inside : Operand) (type : Word)

namespace Operand

open Chars CatalogDefault Layer

def write : Operand → List Char
  | word w => w.text.toList
  | literal text => (Dialect.quoteString text).toList
  | parentheses inside => Layer.parentheses.wrap inside.write
  | cast inside type => inside.write ++ ':' :: ':' :: type.text.toList

def isWord : Operand → Bool
  | word _ => true
  | _ => false

def isLiteral : Operand → Bool
  | literal _ => true
  | _ => false

def isCast : Operand → Bool
  | cast _ _ => true
  | _ => false

/-- The operand without its casts. -/
def uncast : Operand → Operand
  | cast inside _ => inside.uncast
  | operand => operand

theorem write_literal (text : String) :
    (literal text).write = '\'' :: (double '\'' text.toList ++ ['\'']) :=
  String.toList_ofList

theorem balanced (operand : Operand) : Balanced operand.write := by
  induction operand with
  | word w => exact balanced_of_plain fun c hc hmark =>
      (w.plain c hc).2 (List.mem_append_left [':'] hmark)
  | literal text =>
    intro depth _ rest
    simp [write_literal, closesEarly, closesEarly_double]
  | parentheses inside ih => exact ih.parentheses
  | cast inside type ih => exact ih.append (balanced_cast fun c hc => (type.plain c hc).2)

theorem head?_write (operand : Operand) :
    ∃ c rest, operand.write = c :: rest ∧ isBlank c = false := by
  induction operand with
  | word w =>
    obtain ⟨c, rest, htext⟩ := List.exists_cons_of_ne_nil w.nonempty
    exact ⟨c, rest, htext, (w.plain c (by rw [htext]; exact List.mem_cons_self)).1⟩
  | literal text => exact ⟨'\'', _, write_literal text, by decide⟩
  | parentheses inside => exact ⟨'(', _, rfl, by decide⟩
  | cast inside type ih =>
    obtain ⟨c, rest, htext, hc⟩ := ih
    exact ⟨c, rest ++ ':' :: ':' :: type.text.toList, by rw [write, htext]; rfl, hc⟩

/-- An operand ends with a quote only where it is a literal. -/
theorem getLast?_write (operand : Operand) :
    ∃ before c, operand.write = before ++ [c] ∧ isBlank c = false ∧
      (c = '\'' ↔ operand.isLiteral = true) := by
  have hword (w : Word) (before : List Char) : ∃ inside c,
      before ++ w.text.toList = inside ++ [c] ∧ isBlank c = false ∧ c ≠ '\'' := by
    rcases List.eq_nil_or_concat w.text.toList with hnil | ⟨inside, c, htext⟩
    · exact absurd hnil w.nonempty
    · rw [List.concat_eq_append] at htext
      obtain ⟨hblank, hmark⟩ := w.plain c (by simp [htext])
      refine ⟨before ++ inside, c, by rw [htext, List.append_assoc], hblank, ?_⟩
      rintro rfl
      exact hmark (by decide)
  cases operand with
  | word w =>
    obtain ⟨before, c, htext, hblank, hquote⟩ := hword w []
    exact ⟨before, c, htext, hblank, by simpa [isLiteral] using hquote⟩
  | literal text =>
    have hwrite : (literal text).write = ('\'' :: double '\'' text.toList) ++ ['\''] :=
      write_literal text
    exact ⟨_, '\'', hwrite, by decide, by simp [isLiteral]⟩
  | parentheses inside => exact ⟨'(' :: inside.write, ')', rfl, by decide, by simp [isLiteral]⟩
  | cast inside type =>
    obtain ⟨before, c, htext, hblank, hquote⟩ := hword type (inside.write ++ [':', ':'])
    rw [List.append_assoc] at htext
    exact ⟨before, c, htext, hblank, by simpa [isLiteral] using hquote⟩

/-- A parenthesis that an operand begins with is closed in it. -/
theorem closesEarly_write (operand : Operand) (hopen : operand.write.head? = some '(')
    {rest : List Char} (hrest : rest ≠ []) :
    closesEarly 0 false (operand.write ++ rest) = true := by
  induction operand generalizing rest with
  | word w =>
    exact absurd (by decide) (w.plain _ (List.mem_of_head? hopen)).2
  | literal text =>
    rw [write_literal] at hopen
    cases hopen
  | parentheses inside ih =>
    have hinside := inside.balanced 1 (Int.le_refl 1) (')' :: rest)
    simp [write, wrap, closesEarly, hinside, hrest]
  | cast inside type ih =>
    obtain ⟨c, before, htext, _⟩ := inside.head?_write
    rw [write, List.append_assoc]
    refine ih ?_ (by simp)
    rw [write, htext] at hopen
    rw [htext]
    exact hopen

theorem sequence_write (operand : Operand) {c : Char} (hc : c = ' ' ∨ c = ':') (rest : List Char) :
    startsWith "nextval(".toList (lower (operand.write ++ c :: rest)) = false := by
  induction operand generalizing c rest with
  | word w => exact startsWith_lower_append (fun hm => (w.plain _ hm).2 (by decide)) hc rest
  | literal text =>
    rw [write_literal]
    exact startsWith_lower_eq_false (by decide) (by decide) _
  | parentheses inside => exact startsWith_lower_eq_false (by decide) (by decide) _
  | cast inside type ih =>
    rw [write, List.append_assoc]
    exact ih (.inr rfl) _

theorem unquote?_write (operand : Operand) (h : ¬operand.uncast.isLiteral) {c : Char}
    (hc : c ≠ '\'') (rest : List Char) : unquote? (operand.write ++ c :: rest) = none := by
  induction operand generalizing c rest with
  | word w =>
    have hquote {x : Char} (hx : x ∈ w.text.toList) : x ≠ '\'' := by
      rintro rfl
      exact (w.plain _ hx).2 (by decide)
    obtain ⟨first, others, htext⟩ := List.exists_cons_of_ne_nil w.nonempty
    rw [write, htext]
    refine unquote?_cons (hquote (by simp [htext])) fun _ => ?_
    cases others with
    | nil => simpa using hc
    | cons second others => simpa using hquote (x := second) (by simp [htext])
  | literal text => exact absurd rfl h
  | parentheses inside => exact unquote?_cons (by decide) (by simp)
  | cast inside type ih =>
    rw [write, List.append_assoc]
    exact ih h (by decide) _

/-- Before a text without marks the cast that is found is the operand's own. -/
theorem stripCast_append_iff (operand : Operand) {rest : List Char}
    (h : ∀ c ∈ rest, c ∉ ['\'', '(', ')', ':']) :
    stripCast (operand.write ++ rest) = operand.write ++ rest ↔ ¬operand.isCast := by
  have hcolon : ':' ∉ rest := fun hc => h _ hc (by decide)
  cases operand with
  | word w =>
    refine iff_of_true (stripCast_of_not_mem ?_) (by simp [isCast])
    rw [List.mem_append, not_or]
    exact ⟨fun hc => (w.plain _ hc).2 (by decide), hcolon⟩
  | literal text =>
    have hwrite : (literal text).write ++ rest =
        ('\'' :: double '\'' text.toList) ++ '\'' :: rest := by
      rw [write_literal]
      simp
    rw [hwrite]
    exact iff_of_true (stripCast_append (.inl rfl) _ hcolon) (by simp [isCast])
  | parentheses inside =>
    have hwrite : (parentheses inside).write ++ rest = ('(' :: inside.write) ++ ')' :: rest := by
      simp [write, wrap]
    rw [hwrite]
    exact iff_of_true (stripCast_append (.inr rfl) _ hcolon) (by simp [isCast])
  | cast inside type =>
    have hwrite : (cast inside type).write ++ rest =
        inside.write ++ ':' :: ':' :: (type.text.toList ++ rest) := by
      simp [write]
    rw [hwrite]
    refine iff_of_false (stripCast_ne_self _ fun c hc => ?_) (by simp [isCast])
    rcases List.mem_append.mp hc with hc | hc
    · exact (type.plain c hc).2
    · exact h c hc

theorem write_of_literal (operand : Operand) (h : operand.uncast.isLiteral) :
    ∃ rest, operand.write = '\'' :: rest := by
  induction operand with
  | word w => cases h
  | literal text => exact ⟨_, write_literal text⟩
  | parentheses inside => cases h
  | cast inside type ih =>
    obtain ⟨rest, hrest⟩ := ih h
    exact ⟨rest ++ ':' :: ':' :: type.text.toList, by rw [write, hrest]; rfl⟩

end Operand

inductive Operator where
  | plus
  | minus
  | concat

/-- An operator with a space on either side. -/
def Operator.write : Operator → List Char
  | plus => [' ', '+', ' ']
  | minus => [' ', '-', ' ']
  | concat => [' ', '|', '|', ' ']

theorem Operator.plain (operator : Operator) : ∀ c ∈ operator.write, c ∉ ['\'', '(', ')', ':'] := by
  cases operator <;> decide

theorem Operator.exists_write (operator : Operator) : ∃ rest, operator.write = ' ' :: rest := by
  cases operator <;> exact ⟨_, rfl⟩

/-- Two operands with an operator between them. -/
structure Compound where
  first : Operand
  operator : Operator
  second : Operand

namespace Compound

open Chars CatalogDefault Layer

def write (compound : Compound) : List Char :=
  compound.first.write ++ (compound.operator.write ++ compound.second.write)

def text (compound : Compound) : String := String.ofList compound.write

variable (compound : Compound)

theorem exists_write : ∃ rest, compound.write = compound.first.write ++ ' ' :: rest := by
  obtain ⟨symbol, hsymbol⟩ := compound.operator.exists_write
  refine ⟨symbol ++ compound.second.write, ?_⟩
  rw [write, hsymbol, List.cons_append]

theorem balanced : Balanced compound.write := by
  have hoperator : Balanced compound.operator.write :=
    balanced_of_plain fun c hc hmark =>
      compound.operator.plain c hc (List.mem_append_left [':'] hmark)
  exact compound.first.balanced.append (hoperator.append compound.second.balanced)

theorem trim_write : trim compound.write = compound.write := by
  obtain ⟨c, rest, hfirst, hc⟩ := compound.first.head?_write
  obtain ⟨before, d, hsecond, hd, _⟩ := compound.second.getLast?_write
  refine trim_eq_self ?_ ?_
  · rw [write, hfirst]
    rintro x ⟨rfl⟩
    exact hc
  · rw [write, hsecond, ← List.append_assoc, ← List.append_assoc, List.getLast?_concat]
    rintro x ⟨rfl⟩
    exact hd

/-- What encloses the first operand does not enclose the whole text. -/
theorem stripParens_write : stripParens compound.write = compound.write := by
  simp only [stripParens, trim_write]
  refine if_neg ?_
  rintro ⟨hopen, _, hcloses⟩
  obtain ⟨c, before, hfirst, _⟩ := compound.first.head?_write
  obtain ⟨rest, hwrite⟩ := compound.exists_write
  have hhead : compound.first.write.head? = some '(' := by
    rw [hwrite, hfirst] at hopen
    rw [hfirst]
    exact hopen
  rw [hwrite, compound.first.closesEarly_write hhead (List.cons_ne_nil _ _)] at hcloses
  simp at hcloses

theorem sequence_write : startsWith "nextval(".toList (lower compound.write) = false := by
  obtain ⟨rest, hwrite⟩ := compound.exists_write
  rw [hwrite]
  exact compound.first.sequence_write (.inl rfl) rest

theorem four_lt_length_write : 4 < compound.write.length := by
  obtain ⟨_, _, hfirst, _⟩ := compound.first.head?_write
  obtain ⟨_, _, hsecond, _⟩ := compound.second.head?_write
  have hoperator : 3 ≤ compound.operator.write.length := by
    cases compound.operator <;> decide
  rw [write, hfirst, hsecond]
  simp only [List.length_append, List.length_cons]
  omega

/-- What is taken for a cast is one at the very end, or one of the first operand before a word. -/
theorem stripCast_write_iff : stripCast compound.write = compound.write ↔
    ¬compound.second.isCast ∧ ¬(compound.first.isCast ∧ compound.second.isWord) := by
  obtain ⟨first, operator, second⟩ := compound
  simp only [write]
  have hlast (c : Char) (hc : c = '\'' ∨ c = ')') (before : List Char) :
      stripCast (first.write ++ (operator.write ++ (before ++ [c]))) =
        first.write ++ (operator.write ++ (before ++ [c])) := by
    rw [← List.append_assoc, ← List.append_assoc]
    exact stripCast_append hc _ List.not_mem_nil
  cases second with
  | literal text =>
    rw [Operand.write_literal, ← List.cons_append]
    exact iff_of_true (hlast _ (.inl rfl) _) ⟨by simp [Operand.isCast], by simp [Operand.isWord]⟩
  | parentheses inside =>
    exact iff_of_true (hlast _ (.inr rfl) ('(' :: inside.write))
      ⟨by simp [Operand.isCast], by simp [Operand.isWord]⟩
  | cast inside type =>
    refine iff_of_false ?_ fun h => h.1 rfl
    rw [Operand.write, ← List.append_assoc, ← List.append_assoc]
    exact stripCast_ne_self _ fun c hc => (type.plain c hc).2
  | word w =>
    have hplain : ∀ c ∈ operator.write ++ w.text.toList, c ∉ ['\'', '(', ')', ':'] := by
      intro c hc
      rcases List.mem_append.mp hc with hc | hc
      · exact operator.plain c hc
      · exact (w.plain c hc).2
    simp [Operand.write, first.stripCast_append_iff hplain, Operand.isCast, Operand.isWord]

/-- What is taken for a literal begins like one and ends like one. -/
theorem unquote?_write_iff : unquote? compound.write = none ↔
    ¬(compound.first.uncast.isLiteral ∧ compound.second.isLiteral) := by
  by_cases hfirst : compound.first.uncast.isLiteral
  · obtain ⟨start, hstart⟩ := compound.first.write_of_literal hfirst
    obtain ⟨before, c, hsecond, _, hquote⟩ := compound.second.getLast?_write
    have hwrite : compound.write =
        '\'' :: ((start ++ (compound.operator.write ++ before)) ++ [c]) := by
      rw [write, hstart, hsecond]
      simp
    have hunquote : unquote? compound.write =
        (stripEnd? ['\''] ((start ++ (compound.operator.write ++ before)) ++ [c])).map
          (halve '\'') := by
      rw [hwrite]
      rfl
    rw [hunquote, stripEnd?_concat]
    simp [hfirst, ← hquote, eq_comm]
  · obtain ⟨rest, hwrite⟩ := compound.exists_write
    rw [hwrite, compound.first.unquote?_write hfirst (by decide) rest]
    simp [hfirst]

/-- A compound default, also in parentheses, is kept as it is, except where it ends with a cast, has
a cast before a word at its end, or begins with a literal and ends with one. -/
theorem ofCatalog_compound_iff (n : Nat) :
    ofCatalog (dressText (.replicate n .parentheses) compound.text) = value compound.text ↔
      ¬compound.second.isCast ∧ ¬(compound.first.isCast ∧ compound.second.isWord) ∧
        ¬(compound.first.uncast.isLiteral ∧ compound.second.isLiteral) := by
  have hlength := compound.four_lt_length_write
  have hne : compound.write ≠ [] := by
    intro hnil
    rw [hnil] at hlength
    exact absurd hlength (by decide)
  have hword : asciiLower compound.write ≠ "null".toList := by
    intro hnull
    have hfour : (asciiLower compound.write).length = 4 := congrArg List.length hnull
    rw [asciiLower, List.length_map] at hfour
    omega
  rw [text, compound.balanced.ofCatalog_parentheses_iff compound.trim_write
    compound.stripParens_write compound.sequence_write hword hne, stripCast_write_iff,
    unquote?_write_iff, and_assoc]

/-- Two literals are read as one, and of a cast before a word nothing is left but what was cast. -/
theorem ofCatalog_compound_cut :
    let literals : Compound := ⟨.literal "a", .concat, .literal "b"⟩
    let casted : Compound :=
      ⟨.cast (.literal "a") ⟨"text", by decide, by decide⟩, .concat,
        .word ⟨"b", by decide, by decide⟩⟩
    literals.text = "'a' || 'b'" ∧ ofCatalog "'a' || 'b'" = value "a' || 'b" ∧
      casted.text = "'a'::text || b" ∧ ofCatalog "'a'::text || b" = value "a" := by
  decide +kernel

end Compound

end PortableSql

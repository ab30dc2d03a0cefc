import PortableSql.NativeType
import PortableSql.Proofs.Number.Numeral
import PortableSql.Proofs.Text.Chars

namespace PortableSql.NativeType

open Chars

theorem comma_not_mem_digits (n : Nat) : ',' ∉ Nat.toDigits 10 n :=
  fun hc => absurd (Numeral.isDigit_of_mem_digits hc) (by decide)

theorem uint32?_trim_digits (n : UInt32) :
    Numeral.uint32? (trim (Nat.toDigits 10 n.toNat)) = some n := by
  rw [trim_of_forall fun c hc => Numeral.isBlank_of_isDigit (Numeral.isDigit_of_mem_digits hc),
    Numeral.uint32?_digits]

theorem numbers_digits (n : UInt32) : numbers (some (Nat.toDigits 10 n.toNat)) = [some n] := by
  simp [numbers, splitOn_of_not_mem (comma_not_mem_digits _), uint32?_trim_digits]

theorem numbers_append (n : UInt32) (rest : List Char) :
    numbers (some (Nat.toDigits 10 n.toNat ++ ',' :: rest)) = some n :: numbers (some rest) := by
  simp [numbers, splitOn_append (comma_not_mem_digits _), uint32?_trim_digits]

/-- A word that can name a type: ASCII letters of which none is white space or a parenthesis in lower
case, and no modifier. -/
def IsTypeWord (word : List Char) : Prop :=
  word ≠ [] ∧ word.map Char.toLower ∉ modifierWords ∧
    ∀ c ∈ word, c.toNat < 0x80 ∧ isBlank c = false ∧ isBlank c.toLower = false ∧ c.toLower ≠ '('

instance (word : List Char) : Decidable (IsTypeWord word) := inferInstanceAs (Decidable (_ ∧ _))

theorem IsTypeWord.ascii {word : List Char} (h : IsTypeWord word) : ∀ c ∈ word, c.toNat < 0x80 :=
  fun c hc => (h.2.2 c hc).1

theorem IsTypeWord.low_ne_nil {word : List Char} (h : IsTypeWord word) :
    word.map Char.toLower ≠ [] :=
  fun hnil => h.1 (List.map_eq_nil_iff.mp hnil)

theorem IsTypeWord.of_mem_low {word : List Char} (h : IsTypeWord word) :
    ∀ c ∈ word.map Char.toLower, isBlank c = false ∧ c ≠ '(' := by
  intro _ hc
  obtain ⟨c, hm, rfl⟩ := List.mem_map.mp hc
  exact (h.2.2 c hm).2.2

/-- A type, with the word behind it that numbers without a sign have. -/
def markUnsigned (unsigned : Bool) (text : String) : String :=
  if unsigned then text ++ " UNSIGNED" else text

theorem toList_markUnsigned (unsigned : Bool) (text : String) :
    (markUnsigned unsigned text).toList =
      text.toList ++ if unsigned then " UNSIGNED".toList else [] := by
  cases unsigned <;> simp [markUnsigned]

/-- The base is the word before the one that gives the sign. -/
theorem ofText_of_cut {text : String} {word outside : List Char}
    {arguments : Option (List Char)} (hword : IsTypeWord word) (unsigned : Bool)
    (hcut : cutArguments (lower (trim text.toList)) = (outside, arguments))
    (hwords : words outside =
      word.map Char.toLower :: if unsigned then ["unsigned".toList] else []) :
    ofText text =
      { base := String.ofList (word.map Char.toLower)
        length := (numbers arguments)[0]?.join
        precision := (numbers arguments)[1]?.join
        unsigned } := by
  have hname : word.map Char.toLower ∉ modifierWords := hword.2.1
  have hkept : ∀ sign ∈ modifierWords,
      (word.map Char.toLower :: if unsigned then [sign] else []).filter
        (!modifierWords.contains ·) = [word.map Char.toLower] := by
    intro sign hsign
    cases unsigned <;> simp [hname, hsign]
  have hsigned : ∀ sign ∈ modifierWords,
      (word.map Char.toLower :: if unsigned then [sign] else []).contains sign = unsigned := by
    intro sign hsign
    have hne : sign ≠ word.map Char.toLower := fun heq => hname (heq ▸ hsign)
    cases unsigned <;> simp [hne]
  rw [ofText, hcut]
  simp only [hwords, hkept _ List.mem_cons_self, hsigned _ List.mem_cons_self,
    List.intercalate_singleton]

theorem IsTypeWord.head?_append {word : List Char} (h : IsTypeWord word) (rest : List Char) :
    ∀ c, (word ++ rest).head? = some c → isBlank c = false := by
  intro c hc
  obtain ⟨first, others, rfl⟩ := List.exists_cons_of_ne_nil h.1
  obtain rfl : first = c := by simpa using hc
  exact (h.2.2 _ List.mem_cons_self).2.1

/-- A word is read as itself, in lower case. -/
theorem ofText_of_word {text : String} (hword : IsTypeWord text.toList) (unsigned : Bool) :
    ofText (markUnsigned unsigned text) =
      { base := String.ofList (text.toList.map Char.toLower), length := none, precision := none,
        unsigned } := by
  have hnone : '(' ∉ text.toList.map Char.toLower := fun hc => (hword.of_mem_low _ hc).2 rfl
  have hnonblank : ∀ c ∈ text.toList.map Char.toLower, isBlank c = false :=
    fun c hc => (hword.of_mem_low c hc).1
  cases unsigned with
  | false =>
    have htrim : trim text.toList = text.toList :=
      trim_of_forall fun c hc => (hword.2.2 c hc).2.1
    have hcut : cutArguments (lower (trim text.toList)) =
        (text.toList.map Char.toLower, none) := by
      rw [htrim, lower_of_ascii hword.ascii, cutArguments, cutFirst_eq_none hnone]
    exact ofText_of_cut hword false hcut (words_of_forall hword.low_ne_nil hnonblank)
  | true =>
    have htrim : trim (text ++ " UNSIGNED").toList = text.toList ++ " UNSIGNED".toList := by
      rw [String.toList_append]
      refine trim_eq_self (hword.head?_append _) ?_
      intro c hc
      obtain rfl : 'D' = c := by simpa using hc
      decide
    have hlower : lower (text.toList ++ " UNSIGNED".toList) =
        text.toList.map Char.toLower ++ " unsigned".toList := by
      have hascii : ∀ c ∈ text.toList ++ " UNSIGNED".toList, c.toNat < 0x80 := by
        intro c hc
        rcases List.mem_append.mp hc with hc | hc
        · exact hword.ascii c hc
        · have hall : ∀ c ∈ " UNSIGNED".toList, c.toNat < 0x80 := by decide
          exact hall c hc
      rw [lower_of_ascii hascii, List.map_append]
      rfl
    have hcut : cutArguments (lower (trim (text ++ " UNSIGNED").toList)) =
        (text.toList.map Char.toLower ++ " unsigned".toList, none) := by
      rw [htrim, hlower, cutArguments, cutFirst_eq_none]
      intro hc
      rcases List.mem_append.mp hc with hc | hc
      · exact hnone hc
      · exact absurd hc (by decide)
    refine ofText_of_cut hword true hcut ?_
    exact words_append_cons hword.low_ne_nil hnonblank (by decide) _

/-- A word with arguments right behind it is read as that word, in lower case, with the numbers in
its arguments. -/
theorem ofText_of_arguments {text : String} {word arguments : List Char} (hword : IsTypeWord word)
    (htext : text.toList = word ++ '(' :: (arguments ++ [')']))
    (harguments : ∀ c ∈ arguments, c.toNat < 65) (unsigned : Bool) :
    ofText (markUnsigned unsigned text) =
      { base := String.ofList (word.map Char.toLower)
        length := (numbers (some arguments))[0]?.join
        precision := (numbers (some arguments))[1]?.join
        unsigned } := by
  have hchars : (markUnsigned unsigned text).toList =
      word ++ '(' :: (arguments ++ ')' :: if unsigned then " UNSIGNED".toList else []) := by
    rw [toList_markUnsigned, htext]
    simp only [List.append_assoc, List.cons_append, List.nil_append]
  have hmark : ∀ c ∈ (if unsigned then " UNSIGNED".toList else []), c.toNat < 0x80 := by
    cases unsigned <;> decide
  have htrim : trim (markUnsigned unsigned text).toList = (markUnsigned unsigned text).toList := by
    rw [hchars]
    refine trim_eq_self (hword.head?_append _) ?_
    intro c hc
    rw [← List.cons_append, ← List.append_assoc, List.getLast?_append] at hc
    cases unsigned <;> cases hc <;> decide
  have hlower : lower (markUnsigned unsigned text).toList =
      word.map Char.toLower ++
        '(' :: (arguments ++ ')' :: if unsigned then " unsigned".toList else []) := by
    have hascii : ∀ c ∈ (markUnsigned unsigned text).toList, c.toNat < 0x80 := by
      rw [hchars]
      intro c hc
      simp only [List.mem_append, List.mem_cons] at hc
      rcases hc with hc | rfl | hc | rfl | hc
      · exact hword.ascii c hc
      · decide
      · have := harguments c hc
        omega
      · decide
      · exact hmark c hc
    rw [lower_of_ascii hascii, hchars, List.map_append, List.map_cons, List.map_append,
      map_toLower_eq_self harguments]
    cases unsigned <;> rfl
  have hcut : cutArguments (lower (trim (markUnsigned unsigned text).toList)) =
      (word.map Char.toLower ++ ' ' :: (if unsigned then " unsigned".toList else []),
        some arguments) := by
    have hclose : ')' ∉ (if unsigned then " unsigned".toList else []) := by
      cases unsigned <;> decide
    rw [htrim, hlower, cutArguments, cutFirst_append fun hc => (hword.of_mem_low _ hc).2 rfl]
    dsimp only
    rw [cutLast_append arguments hclose]
  refine ofText_of_cut hword unsigned hcut ?_
  rw [words_append_cons hword.low_ne_nil (fun c hc => (hword.of_mem_low c hc).1) (by decide)]
  cases unsigned <;> rfl

/-- A type says nothing of a default or of generated values. -/
theorem toColumn_fresh (rules : List TypeRule) (uuidFromChars : Bool) (text : String) :
    (toColumn rules uuidFromChars text).default = none ∧
      (toColumn rules uuidFromChars text).autoIncrement = none := by
  have hchars : ∀ column : Column, column.default = none ∧ column.autoIncrement = none →
      (charsToUuid column).default = none ∧ (charsToUuid column).autoIncrement = none := by
    intro column h
    unfold charsToUuid
    split
    · exact h
    · exact h
  rcases hmeaning : meaning rules (ofText text).base with ⟨type, fixed, implied⟩
  simp only [toColumn, hmeaning]
  cases uuidFromChars with
  | false => cases type <;> exact ⟨rfl, rfl⟩
  | true =>
    refine hchars _ ?_
    cases type <;> exact ⟨rfl, rfl⟩

end PortableSql.NativeType

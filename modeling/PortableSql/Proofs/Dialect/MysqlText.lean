import Mathlib.Data.List.Induction
import PortableSql.Dialect.Quoting
import PortableSql.Proofs.Text.Scanner

namespace PortableSql.Mysql

open Dialect Scanner

/-- What a backslash and the character behind it stand for. In front of the marks of patterns the
backslash stays. -/
def escaped : Char → List Char
  | '0' => ['\x00']
  | 'b' => ['\x08']
  | 'n' => ['\n']
  | 'r' => ['\r']
  | 't' => ['\t']
  | 'Z' => ['\x1A']
  | '%' => ['\\', '%']
  | '_' => ['\\', '_']
  | c => [c]

/-- Two characters in quotes that are read together. -/
def combine? (c next : Char) : Option (List Char) :=
  if c = '\\' then some (escaped next) else doubled? '\'' c next

/-- Whether what follows an opening quote is one literal, up to the last character, with a value. -/
def Means (rest value : List Char) : Prop := quoted '\'' combine? rest = some (value, [])

/-- The text that a literal stands for, if it is one literal from the first character to the last. -/
def textOfLiteral? (literal : String) : Option String :=
  match literal.toList with
  | '\'' :: rest =>
    match quoted '\'' combine? rest with
    | some (value, []) => some (String.ofList value)
    | _ => none
  | _ => none

/-- What follows the opening quote of a text as it is written. -/
def written (text : List Char) : List Char := Chars.double '\'' text ++ ['\'']

/-- Every backslash stands in front of a mark of patterns. -/
def BackslashesMark (text : List Char) : Prop :=
  ∀ before after, text = before ++ '\\' :: after → after.head? = some '%' ∨ after.head? = some '_'

section

variable {c next : Char} {text value rest : List Char}

theorem length_escaped_le (c : Char) : (escaped c).length ≤ 2 := by
  unfold escaped
  split <;> simp

theorem length_escaped (hpercent : c ≠ '%') (hunderscore : c ≠ '_') : (escaped c).length = 1 := by
  unfold escaped
  split <;> simp_all

theorem means_map_iff (prepend : List Char → List Char) :
    ((quoted '\'' combine? rest).map fun (more, rest) => (prepend more, rest)) = some (value, []) ↔
      ∃ more, Means rest more ∧ value = prepend more := by
  rw [Option.map_eq_some_iff]
  constructor
  · rintro ⟨⟨more, tail⟩, hmore, heq⟩
    obtain ⟨rfl, rfl⟩ := Prod.mk.inj heq
    exact ⟨more, hmore, rfl⟩
  · rintro ⟨more, hmore, rfl⟩
    exact ⟨(more, []), hmore, rfl⟩

theorem means_pair_iff {pair : List Char} (h : combine? c next = some pair) :
    Means (c :: next :: rest) value ↔ ∃ more, Means rest more ∧ value = pair ++ more := by
  rw [Means, quoted_combined h]
  exact means_map_iff (pair ++ ·)

theorem written_cons (hquote : c ≠ '\'') : written (c :: text) = c :: written text := by
  rw [written, Chars.double, if_neg hquote]
  rfl

theorem written_quote : written ('\'' :: text) = '\'' :: '\'' :: written text := rfl

theorem means_written_nil_iff : Means (written []) value ↔ value = [] := by
  rw [Means, eq_comm (a := value)]
  exact ⟨fun h => (Prod.mk.inj (Option.some.inj h)).1, fun h => by rw [← h]; rfl⟩

/-- All characters but backslashes are read back one by one. -/
theorem means_written_cons_iff (hbackslash : c ≠ '\\') :
    Means (written (c :: text)) value ↔ ∃ more, Means (written text) more ∧ value = c :: more := by
  by_cases hquote : c = '\''
  · subst hquote
    have hpair : combine? '\'' '\'' = some ['\''] := rfl
    exact means_pair_iff hpair
  · have halone : ∀ next, combine? c next = none := by
      intro next
      rw [combine?, if_neg hbackslash]
      exact if_neg fun hboth => hquote hboth.1
    rw [written_cons hquote, Means, quoted_ordinary hquote halone]
    exact means_map_iff (c :: ·)

theorem means_written_escape_iff (hquote : next ≠ '\'') :
    Means (written ('\\' :: next :: text)) value ↔
      ∃ more, Means (written text) more ∧ value = escaped next ++ more := by
  rw [written_cons (by decide), written_cons hquote]
  exact means_pair_iff rfl

/-- A backslash at the end takes the closing quote. -/
theorem not_means_written_backslash : ¬ Means (written ['\\']) value := nofun

/-- A quote too many pairs with every quote behind it, so that no literal ends with the text. -/
theorem not_means_stray_quote (text value : List Char) : ¬ Means ('\'' :: written text) value := by
  induction text generalizing value with
  | nil => exact nofun
  | cons c text ih =>
    by_cases hquote : c = '\''
    · subst hquote
      rw [written_quote, means_pair_iff rfl]
      rintro ⟨more, hmore, _⟩
      exact ih more hmore
    · have halone : ∀ x ∈ (c :: written text).head?, combine? '\'' x = none := by
        rintro x hx
        obtain rfl := Option.some.inj hx
        exact if_neg fun hboth : '\'' = '\'' ∧ c = '\'' => hquote hboth.2
      rw [written_cons hquote, Means, quoted_close halone]
      exact nofun

/-- A backslash takes the quote behind it out of its pair. -/
theorem not_means_written_escape_quote : ¬ Means (written ('\\' :: '\'' :: text)) value := by
  rw [written_cons (by decide), written_quote, means_pair_iff rfl]
  rintro ⟨more, hmore, _⟩
  exact not_means_stray_quote text more hmore

/-- Reading makes no text longer. -/
theorem length_le_of_means (h : Means (written text) value) : value.length ≤ text.length := by
  induction text using List.twoStepInduction generalizing value with
  | nil => exact Nat.le_of_eq (congrArg List.length (means_written_nil_iff.mp h))
  | singleton c =>
    by_cases hbackslash : c = '\\'
    · subst hbackslash
      exact absurd h not_means_written_backslash
    · obtain ⟨more, hmore, rfl⟩ := (means_written_cons_iff hbackslash).mp h
      exact Nat.le_of_eq (congrArg (·.length + 1) (means_written_nil_iff.mp hmore))
  | cons_cons c next text ih ihcons =>
    by_cases hbackslash : c = '\\'
    · subst hbackslash
      by_cases hquote : next = '\''
      · subst hquote
        exact absurd h not_means_written_escape_quote
      · obtain ⟨more, hmore, rfl⟩ := (means_written_escape_iff hquote).mp h
        have hlength := length_escaped_le next
        have hrest := ih hmore
        simp only [List.length_append, List.length_cons]
        omega
    · obtain ⟨more, hmore, rfl⟩ := (means_written_cons_iff hbackslash).mp h
      exact Nat.succ_le_succ (ihcons next hmore)

theorem backslashesMark_nil : BackslashesMark [] := by
  intro before after h
  simp at h

theorem backslashesMark_cons_iff : BackslashesMark (c :: text) ↔
    (c = '\\' → text.head? = some '%' ∨ text.head? = some '_') ∧ BackslashesMark text := by
  constructor
  · intro h
    refine ⟨fun hc => h [] text (by rw [hc]; rfl), fun before after htext => ?_⟩
    exact h (c :: before) after (by rw [htext]; rfl)
  · rintro ⟨hfirst, hrest⟩ before after h
    cases before with
    | nil =>
      obtain ⟨rfl, rfl⟩ := List.cons.inj h
      exact hfirst rfl
    | cons x before => exact hrest before after (List.cons.inj h).2

/-- An escape stands for itself if the backslash is in front of a mark of patterns, and else for a
single character, so that what is read is too short. -/
theorem means_written_escape_self_iff :
    Means (written ('\\' :: next :: text)) ('\\' :: next :: text) ↔
      (next = '%' ∨ next = '_') ∧ Means (written text) text := by
  by_cases hquote : next = '\''
  · subst hquote
    exact iff_of_false not_means_written_escape_quote (by simp)
  · rw [means_written_escape_iff hquote]
    by_cases hmark : next = '%' ∨ next = '_'
    · have hescaped : escaped next = ['\\', next] := by
        rcases hmark with rfl | rfl <;> rfl
      rw [hescaped]
      simp [hmark]
    · obtain ⟨hpercent, hunderscore⟩ := not_or.mp hmark
      refine iff_of_false ?_ fun h => hmark h.1
      rintro ⟨more, hmore, heq⟩
      have hlength := congrArg List.length heq
      have hshort := length_le_of_means hmore
      simp only [List.length_cons, List.length_append, length_escaped hpercent hunderscore] at hlength
      omega

/-- Only backslashes in front of marks of patterns are read back. -/
theorem means_written_self_iff (text : List Char) :
    Means (written text) text ↔ BackslashesMark text := by
  have hcons {c : Char} {text : List Char} (hbackslash : c ≠ '\\')
      (ih : Means (written text) text ↔ BackslashesMark text) :
      Means (written (c :: text)) (c :: text) ↔ BackslashesMark (c :: text) := by
    rw [means_written_cons_iff hbackslash, backslashesMark_cons_iff, ← ih]
    simp [hbackslash]
  have hnil : Means (written []) [] ↔ BackslashesMark [] :=
    iff_of_true (means_written_nil_iff.mpr rfl) backslashesMark_nil
  induction text using List.twoStepInduction with
  | nil => exact hnil
  | singleton c =>
    by_cases hbackslash : c = '\\'
    · subst hbackslash
      rw [backslashesMark_cons_iff]
      exact iff_of_false not_means_written_backslash (by simp)
    · exact hcons hbackslash hnil
  | cons_cons c next text ih ihcons =>
    by_cases hbackslash : c = '\\'
    · subst hbackslash
      rw [means_written_escape_self_iff, backslashesMark_cons_iff, backslashesMark_cons_iff]
      have hfirst : (next :: text).head? = some '%' ∨ (next :: text).head? = some '_' ↔
          next = '%' ∨ next = '_' := by simp
      rw [hfirst]
      constructor
      · rintro ⟨hmark, hrest⟩
        refine ⟨fun _ => hmark, fun hnext => ?_, ih.mp hrest⟩
        subst hnext
        exact absurd hmark (by decide)
      · exact fun h => ⟨h.1 rfl, ih.mpr h.2.2⟩
    · exact hcons hbackslash (ihcons next)

theorem textOfLiteral?_quoteString (text : String) (value : String) :
    textOfLiteral? (quoteString text) = some value ↔ Means (written text.toList) value.toList := by
  have hrest : (quoteString text).toList = '\'' :: written text.toList := by
    rw [quoteString, String.toList_ofList, List.cons_append]
    rfl
  unfold textOfLiteral? Means
  simp only [hrest]
  split
  next read hread =>
    rw [hread, Option.some.injEq, Option.some.injEq, Prod.mk.injEq, and_iff_left rfl,
      ← String.toList_inj, String.toList_ofList]
  next hread => exact iff_of_false nofun fun h => hread _ h

end

/-- A text that is written as a literal is read as that text by MySQL, where a backslash is an escape,
if and only if every backslash in it stands in front of a mark of patterns. -/
theorem textOfLiteral?_quoteString_iff (text : String) :
    textOfLiteral? (quoteString text) = some text ↔
      ∀ before after, text.toList = before ++ '\\' :: after →
        after.head? = some '%' ∨ after.head? = some '_' := by
  rw [textOfLiteral?_quoteString, means_written_self_iff]
  rfl

/-- A backslash makes a control character of a letter, and leaves a literal open at its end. -/
theorem textOfLiteral?_quoteString_backslash :
    textOfLiteral? (quoteString "a\\b") = some "a\x08" ∧
      textOfLiteral? (quoteString "a\\") = none := by
  decide

end PortableSql.Mysql

import Mathlib.Data.List.Basic
import PortableSql.Proofs.Text.Casing

namespace PortableSql.Chars

variable {c : Char} {text word gap rest : List Char}

/-- White space, which may be nothing. -/
def IsGap (text : List Char) : Prop := ∀ c ∈ text, isBlank c = true

instance (text : List Char) : Decidable (IsGap text) :=
  inferInstanceAs (Decidable (∀ c ∈ text, _))

/-- What is read as one word. -/
def IsWord (text : List Char) : Prop := text ≠ [] ∧ ∀ c ∈ text, isBlank c = false

instance (text : List Char) : Decidable (IsWord text) := inferInstanceAs (Decidable (_ ∧ _))

theorem IsWord.words_eq (h : IsWord word) : words word = [word] := words_of_forall h.1 h.2

theorem words_cons_ne_nil (h : isBlank c = false) (text : List Char) : words (c :: text) ≠ [] := by
  rw [words, if_neg (by simp [h])]
  unfold extendWord
  split
  next => split <;> exact List.cons_ne_nil _ _
  next => exact List.cons_ne_nil _ _

/-- No word goes on over white space. -/
theorem words_append_blank (h : isBlank c = true) (before after : List Char) :
    words (before ++ c :: after) = words before ++ words after := by
  induction before with
  | nil => simp [words, h]
  | cons x before ih =>
    rw [List.cons_append, words, words, ih]
    split
    next => rfl
    next =>
      cases before with
      | nil => cases words after <;> simp [extendWord, words, h]
      | cons y before =>
        cases hy : isBlank y with
        | true => cases words (y :: before) <;> cases words after <;> simp [extendWord, hy]
        | false =>
          obtain ⟨first, others, hfirst⟩ :=
            List.exists_cons_of_ne_nil (words_cons_ne_nil hy before)
          simp [extendWord, hfirst, hy]

theorem words_gap (h : IsGap gap) : words gap = [] := by
  induction gap with
  | nil => rfl
  | cons c gap ih =>
    rw [words, if_pos (h c List.mem_cons_self)]
    exact ih fun d hd => h d (List.mem_cons_of_mem _ hd)

theorem words_gap_append (h : IsGap gap) (text : List Char) : words (gap ++ text) = words text := by
  induction gap with
  | nil => rfl
  | cons c gap ih =>
    rw [List.cons_append, words, if_pos (h c List.mem_cons_self)]
    exact ih fun d hd => h d (List.mem_cons_of_mem _ hd)

theorem words_append_gap (text : List Char) (h : IsGap gap) : words (text ++ gap) = words text := by
  cases gap with
  | nil => rw [List.append_nil]
  | cons c gap =>
    have hrest : words gap = [] := words_gap fun d hd => h d (List.mem_cons_of_mem _ hd)
    rw [words_append_blank (h c List.mem_cons_self), hrest, List.append_nil]

theorem isGap_takeWhile (text : List Char) : IsGap (text.takeWhile isBlank) :=
  List.all_eq_true.mp List.all_takeWhile

theorem words_trimStart (text : List Char) : words (trimStart text) = words text := by
  have hwhole := words_gap_append (isGap_takeWhile text) (trimStart text)
  rwa [trimStart, List.takeWhile_append_dropWhile, eq_comm] at hwhole

theorem words_trimEnd (text : List Char) : words (trimEnd text) = words text := by
  have hgap : IsGap (text.reverse.takeWhile isBlank).reverse :=
    fun c hc => isGap_takeWhile _ c (List.mem_reverse.mp hc)
  have hwhole := words_append_gap (trimEnd text) hgap
  rwa [trimEnd, ← List.reverse_append, List.takeWhile_append_dropWhile, List.reverse_reverse,
    eq_comm] at hwhole

theorem words_trim (text : List Char) : words (trim text) = words text := by
  rw [trim, words_trimEnd, words_trimStart]

theorem trimStart_append_cons (h : isBlank c = false) (before after : List Char) :
    trimStart (before ++ c :: after) = trimStart before ++ c :: after := by
  rw [trimStart, trimStart, List.dropWhile_append]
  split
  next hempty => simp [List.isEmpty_iff.mp hempty, h]
  next => rfl

theorem trim_gaps {before after : List Char} (hbefore : IsGap before) (hword : IsWord word)
    (hafter : IsGap after) : trim (before ++ (word ++ after)) = word := by
  have hnothing : ∀ c, (word ++ after).head? = some c → isBlank c = false := by
    obtain ⟨x, others, rfl⟩ := List.exists_cons_of_ne_nil hword.1
    rintro c ⟨⟩
    exact hword.2 _ List.mem_cons_self
  have hstart : trimStart (before ++ (word ++ after)) = word ++ after := by
    rw [trimStart, List.dropWhile_append_of_pos hbefore, ← trimStart, trimStart_eq_self hnothing]
  have hend : trimStart word.reverse = word.reverse :=
    trimStart_eq_self fun c hc => hword.2 c (List.mem_reverse.mp (List.mem_of_head? hc))
  rw [trim, hstart, trimEnd, List.reverse_append,
    List.dropWhile_append_of_pos fun c hc => hafter c (List.mem_reverse.mp hc), ← trimStart, hend,
    List.reverse_reverse]

/-- There is nothing to cut off a text that begins with one word and ends with another. -/
theorem trim_of_isWord {first last : List Char} (hfirst : IsWord first) (hlast : IsWord last)
    (between : List Char) : trim (first ++ (between ++ last)) = first ++ (between ++ last) := by
  refine trim_eq_self (fun c hc => hfirst.2 c ?_) fun c hc => hlast.2 c ?_
  · rw [List.head?_append_of_ne_nil _ hfirst.1] at hc
    exact List.mem_of_head? hc
  · rw [← List.append_assoc, List.getLast?_append_of_ne_nil _ hlast.1] at hc
    exact List.mem_of_getLast? hc

theorem mem_of_mem_trim (h : c ∈ trim text) : c ∈ text :=
  (List.dropWhile_sublist isBlank).subset (mem_of_mem_trimEnd h)

theorem trim_asciiLower (text : List Char) : trim (asciiLower text) = asciiLower (trim text) := by
  have hblank : isBlank ∘ Char.toLower = isBlank := funext isBlank_toLower
  simp only [trim, trimEnd, trimStart, asciiLower, ← List.map_reverse, List.dropWhile_map, hblank]

theorem asciiLower_append (first second : List Char) :
    asciiLower (first ++ second) = asciiLower first ++ asciiLower second :=
  List.map_append

/-- A text of the words, in any case of ASCII letters, with white space around them and between any
two. -/
inductive Spells : List (List Char) → List Char → Prop
  | nothing {gap : List Char} (hgap : IsGap gap) : Spells [] gap
  | word {gap written rest : List Char} {words : List (List Char)} (hgap : IsGap gap)
      (hends : ∀ c ∈ rest.head?, isBlank c = true) (hrest : Spells words rest) :
      Spells (asciiLower written :: words) (gap ++ (written ++ rest))

theorem isGap_asciiLower (h : IsGap gap) : IsGap (asciiLower gap) := by
  intro _ hc
  obtain ⟨c, hm, rfl⟩ := List.mem_map.mp hc
  rw [isBlank_toLower]
  exact h c hm

/-- In lower case the words are read back, whatever stands between them. -/
theorem Spells.words_eq {spelled : List (List Char)} (h : Spells spelled text)
    (hwords : ∀ word ∈ spelled, IsWord word) : words (asciiLower text) = spelled := by
  induction h with
  | nothing hgap => exact words_gap (isGap_asciiLower hgap)
  | @word gap written rest others hgap hends _ ih =>
    have hword : IsWord (asciiLower written) := hwords _ List.mem_cons_self
    have hothers := ih fun word hmem => hwords word (List.mem_cons_of_mem _ hmem)
    rw [asciiLower_append, asciiLower_append, words_gap_append (isGap_asciiLower hgap)]
    cases rest with
    | nil =>
      rw [← hothers]
      exact words_append_gap _ (fun _ hc => absurd hc List.not_mem_nil) |>.trans hword.words_eq
    | cons c rest =>
      have hc : isBlank c.toLower = true := by
        rw [isBlank_toLower]
        exact hends c rfl
      have hskip : words (asciiLower (c :: rest)) = words (asciiLower rest) := by
        simp [asciiLower, words, hc]
      rw [← hothers, hskip]
      exact words_append_cons hword.1 hword.2 hc _

/-- Each character of a spelling is white space, or belongs to a word in lower case. -/
theorem Spells.blank_or_mem {spelled : List (List Char)} (h : Spells spelled text)
    (hc : c ∈ text) : isBlank c = true ∨ ∃ word ∈ spelled, c.toLower ∈ word := by
  induction h with
  | nothing hgap => exact .inl (hgap c hc)
  | @word gap written rest others hgap _ _ ih =>
    rcases List.mem_append.mp hc with hc | hc
    · exact .inl (hgap c hc)
    · rcases List.mem_append.mp hc with hc | hc
      · exact .inr ⟨_, List.mem_cons_self, List.mem_map_of_mem hc⟩
      · rcases ih hc with hblank | ⟨word, hmem, hlow⟩
        · exact .inl hblank
        · exact .inr ⟨word, List.mem_cons_of_mem _ hmem, hlow⟩

end PortableSql.Chars

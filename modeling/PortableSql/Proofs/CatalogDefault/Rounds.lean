import Mathlib.Logic.Function.Iterate
import PortableSql.Proofs.CatalogDefault.Matching

namespace PortableSql.CatalogDefault

open Chars

variable {text : List Char}

/-- Each round takes at least one character off, until a round takes none. -/
theorem exists_strip_eq (text : List Char) : ∃ n ≤ text.length,
    (∀ i < n, (stripOnce^[i + 1] text).length < (stripOnce^[i] text).length) ∧
    (∀ fuel, n ≤ fuel → strip fuel text = stripOnce^[n] text) ∧
    stripOnce (stripOnce^[n] text) = stripOnce^[n] text := by
  induction hlength : text.length using Nat.strong_induction_on generalizing text with
  | _ length ih =>
    by_cases hround : stripOnce text = text
    · exact ⟨0, Nat.zero_le _, fun i hi => absurd hi (Nat.not_lt_zero i),
        fun fuel _ => strip_eq_self hround fuel, hround⟩
    · have hshorter := length_stripOnce_lt hround
      obtain ⟨n, hn, hrounds, hstrip, hend⟩ := ih _ (by omega) (stripOnce text) rfl
      refine ⟨n + 1, by omega, fun i hi => ?_, fun fuel hfuel => ?_, hend⟩
      · cases i with
        | zero => exact hshorter
        | succ i => exact hrounds i (by omega)
      · obtain ⟨fuel, rfl⟩ := Nat.exists_eq_add_one_of_ne_zero (Nat.ne_zero_of_lt hfuel)
        rw [strip_succ_of_ne hround]
        exact hstrip fuel (by omega)

/-- Stripping goes by which parentheses belong together, and comes to an end. In a well-nested text
the parenthesis in front is closed by exactly one other: where that is the last character, what is
between them is left, and in all other cases the whole text, well-nested again. Of any text a round
leaves everything or a shorter part, and the text that all the rounds leave is one that a further
round does not change. -/
theorem stripping_respects_matching (text : List Char) :
    (WellNested text →
      ((trim text).head? = some '(' →
        ∃! parts : List Char × List Char, FirstMatch (trim text) parts.1 parts.2) ∧
      (∀ inside after, FirstMatch (trim text) inside after →
        stripParens text = if after = [] then trim inside else trim text) ∧
      ((trim text).head? ≠ some '(' → stripParens text = trim text) ∧
      WellNested (stripParens text)) ∧
    (stripOnce text = text ∨
      stripOnce text <:+: text ∧ (stripOnce text).length < text.length) ∧
    ∃ n ≤ text.length,
      (∀ i < n, (stripOnce^[i + 1] text).length < (stripOnce^[i] text).length) ∧
      (∀ fuel, n ≤ fuel → strip fuel text = stripOnce^[n] text) ∧
      stripOnce (stripOnce^[n] text) = stripOnce^[n] text := by
  refine ⟨fun h => ⟨fun hopen => ?_, fun inside after hmatch => hmatch.stripParens_eq,
    stripParens_of_not_open, h.stripParens⟩, ?_, exists_strip_eq text⟩
  · obtain ⟨inside, after, hmatch⟩ := h.trim.exists_firstMatch hopen
    refine ⟨(inside, after), hmatch, fun parts hparts => ?_⟩
    obtain ⟨hinside, hafter⟩ := hparts.unique hmatch
    exact Prod.ext hinside hafter
  · by_cases hround : stripOnce text = text
    · exact .inl hround
    · exact .inr ⟨stripOnce_isInfix text, length_stripOnce_lt hround⟩

/-- A parenthesis in quotes, and others that are closed on the way. -/
theorem stripping_respects_matching_quoted :
    let text := " (('(') || (b)) ".toList
    let inside := "('(') || (b)".toList
    WellNested text ∧ FirstMatch (trim text) inside [] ∧ stripParens text = inside := by
  intro text inside
  have h : WellNested text := by decide +kernel
  have hmatch : FirstMatch (trim text) inside [] := ⟨by decide +kernel, by decide +kernel⟩
  obtain ⟨_, hstrip, _⟩ := (stripping_respects_matching text).1 h
  have hinside : trim inside = inside := by decide +kernel
  exact ⟨h, hmatch, (hstrip inside [] hmatch).trans hinside⟩

end PortableSql.CatalogDefault

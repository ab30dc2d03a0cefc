import PortableSql.Json.Printer
import PortableSql.Proofs.Number.Numeral

namespace PortableSql

/-- The characters of a written number. -/
def IsNumberChar (c : Char) : Prop := c.isDigit = true ∨ c ∈ ['.', 'e', '-', '+']

namespace Notation

variable {text rest : List Char}

theorem isNumberChar_append (ht : ∀ c ∈ text, IsNumberChar c) (hr : ∀ c ∈ rest, IsNumberChar c) :
    ∀ c ∈ text ++ rest, IsNumberChar c :=
  fun c hc => (List.mem_append.mp hc).elim (ht c) (hr c)

theorem isNumberChar_cons {c : Char} (hc : IsNumberChar c) (ht : ∀ x ∈ text, IsNumberChar x) :
    ∀ x ∈ c :: text, IsNumberChar x := by
  intro x hx
  rcases List.mem_cons.mp hx with rfl | hx
  · exact hc
  · exact ht x hx

theorem isNumberChar_digits (n : Nat) : ∀ c ∈ Nat.toDigits 10 n, IsNumberChar c :=
  fun _ hc => .inl (Numeral.isDigit_of_mem_digits hc)

theorem isNumberChar_zeros (n : Nat) : ∀ c ∈ zeros n, IsNumberChar c := by
  intro c hc
  obtain rfl := List.eq_of_mem_replicate hc
  exact .inl rfl

theorem isNumberChar_positional (x : Decimal) : ∀ c ∈ positional x, IsNumberChar c := by
  have hdigits : ∀ c ∈ x.digitChars, IsNumberChar c := isNumberChar_digits x.digits
  have hpoint : IsNumberChar '.' := .inr (by decide)
  have hzero : IsNumberChar '0' := .inl rfl
  unfold positional
  dsimp only
  split
  next =>
    refine isNumberChar_append (isNumberChar_append hdigits (isNumberChar_zeros _)) ?_
    exact isNumberChar_cons hpoint (isNumberChar_cons hzero (by simp))
  next =>
    split
    next =>
      exact isNumberChar_cons hzero
        (isNumberChar_cons hpoint (isNumberChar_append (isNumberChar_zeros _) hdigits))
    next =>
      refine isNumberChar_append (fun c hc => hdigits c (List.mem_of_mem_take hc)) ?_
      exact isNumberChar_cons hpoint fun c hc => hdigits c (List.mem_of_mem_drop hc)

theorem isNumberChar_exponential (n : Notation) (x : Decimal) :
    ∀ c ∈ n.exponential x, IsNumberChar c := by
  have hdigits : ∀ c ∈ x.digitChars, IsNumberChar c := isNumberChar_digits x.digits
  have hpoint : IsNumberChar '.' := .inr (by decide)
  have hexponent : IsNumberChar 'e' := .inr (by decide)
  unfold exponential
  dsimp only
  refine isNumberChar_append (isNumberChar_append (isNumberChar_append ?_
    (isNumberChar_cons hexponent ?_)) (isNumberChar_zeros _)) (isNumberChar_digits _)
  · split
    next c hc =>
      have hlead : IsNumberChar c := hdigits c (by simp [hc])
      split
      · exact isNumberChar_cons hlead
          (isNumberChar_cons hpoint (isNumberChar_cons (.inl rfl) (by simp)))
      · exact isNumberChar_cons hlead (by simp)
    next c rest _ hc =>
      rw [hc] at hdigits
      exact isNumberChar_cons (hdigits c List.mem_cons_self)
        (isNumberChar_cons hpoint fun x hx => hdigits x (List.mem_cons_of_mem _ hx))
    next => simp
  · split
    · exact isNumberChar_cons (.inr (by decide)) (by simp)
    · split
      · exact isNumberChar_cons (.inr (by decide)) (by simp)
      · simp

theorem isNumberChar_floatText (x : Binary64) :
    ∀ c ∈ (Json.floatText x).toList, IsNumberChar c := by
  have hbody : ∀ (n : Notation) (y : Decimal), ∀ c ∈
      (if n.least ≤ y.lead ∧ y.lead ≤ n.greatest then positional y else n.exponential y),
        IsNumberChar c := by
    intro n y
    split
    · exact isNumberChar_positional y
    · exact isNumberChar_exponential n y
  rw [Json.floatText, render, String.toList_ofList]
  split
  · exact isNumberChar_cons (.inr (by decide)) (hbody _ _)
  · exact hbody _ _

end Notation

end PortableSql

import PortableSql.Proofs.Number.Notation
import PortableSql.Proofs.Text.Scanner

namespace PortableSql

namespace Scanner

/-- The longest run of digits. There is at least one. -/
def digits : Scanner (List Char) := fun text =>
  if text.head?.any Char.isDigit then
    some (text.takeWhile Char.isDigit, text.dropWhile Char.isDigit)
  else none

def fraction : Scanner (List Char) := introduced ['.'] digits

def exponent : Scanner (List Char) :=
  introduced ['e', 'E'] ((introduced ['+', '-'] nothing).andThen digits)

/-- Digits after an optional minus sign, with an optional fraction and an optional exponent. -/
def numeral : Scanner (List Char) :=
  (introduced ['-'] nothing).andThen (digits.andThen (fraction.andThen exponent))

end Scanner

def IsDigits (text : List Char) : Prop := text ≠ [] ∧ ∀ c ∈ text, c.isDigit = true

instance (text : List Char) : Decidable (IsDigits text) := inferInstanceAs (Decidable (_ ∧ _))

/-- Nothing, or digits behind a point. -/
def IsFraction (text : List Char) : Prop := text = [] ∨ ∃ ds, IsDigits ds ∧ text = '.' :: ds

/-- Nothing, or digits behind an exponent mark and an optional sign. -/
def IsExponent (text : List Char) : Prop :=
  text = [] ∨ ∃ sign ds, (sign = [] ∨ ∃ c ∈ ['+', '-'], sign = [c]) ∧ IsDigits ds ∧
    text = 'e' :: (sign ++ ds)

inductive IsNumeral : List Char → Prop
  | parts {sign whole fraction exponent : List Char} (hsign : sign = [] ∨ ∃ c ∈ ['-'], sign = [c])
      (hwhole : IsDigits whole) (hfraction : IsFraction fraction) (hexponent : IsExponent exponent) :
      IsNumeral (sign ++ (whole ++ (fraction ++ exponent)))

section

variable {sign ds text rest : List Char}

theorem IsFraction.head?_append (h : IsFraction text) {c : Char} (hc : c ∈ (text ++ rest).head?) :
    c ∈ rest.head? ∨ c = '.' := by
  rcases h with rfl | ⟨ds, _, rfl⟩
  · exact .inl hc
  · exact .inr (Option.some.inj hc).symm

theorem IsExponent.head?_append (h : IsExponent text) {c : Char} (hc : c ∈ (text ++ rest).head?) :
    c ∈ rest.head? ∨ c = 'e' := by
  rcases h with rfl | ⟨sign, ds, _, _, rfl⟩
  · exact .inl hc
  · exact .inr (Option.some.inj hc).symm

open Scanner

theorem scans_digits (h : IsDigits ds) (hrest : ∀ c ∈ rest.head?, c.isDigit = false) :
    Scans digits ds ds rest := by
  obtain ⟨hne, hall⟩ := h
  have hhead : (ds ++ rest).head?.any Char.isDigit = true := by
    obtain ⟨c, others, rfl⟩ := List.exists_cons_of_ne_nil hne
    simpa using hall c List.mem_cons_self
  obtain ⟨htake, hdrop⟩ := takeWhile_dropWhile_append hall hrest
  unfold Scans
  rw [digits, if_pos hhead, htake, hdrop]

theorem scans_sign {marks : List Char} (hsign : sign = [] ∨ ∃ c ∈ marks, sign = [c])
    (hrest : ∀ c ∈ rest.head?, c ∉ marks) : Scans (introduced marks nothing) sign sign rest := by
  rcases hsign with rfl | ⟨c, hc, rfl⟩
  · exact scans_introduced_nil hrest
  · exact scans_nothing.introduced hc

theorem IsDigits.head?_append (h : IsDigits ds) {c : Char} (hc : c ∈ (ds ++ rest).head?) :
    c.isDigit = true := by
  obtain ⟨x, others, rfl⟩ := List.exists_cons_of_ne_nil h.1
  obtain rfl := Option.some.inj hc
  exact h.2 x List.mem_cons_self

theorem IsDigits.getLast?_append (h : IsDigits ds) (text : List Char) :
    ∃ c, (text ++ ds).getLast? = some c ∧ c.isDigit = true := by
  obtain ⟨c, hc⟩ := Option.isSome_iff_exists.mp (List.getLast?_isSome.mpr h.1)
  exact ⟨c, by rw [List.getLast?_append, hc, Option.some_or], h.2 c (List.mem_of_getLast? hc)⟩

theorem IsNumeral.head?_eq (h : IsNumeral text) :
    ∃ c, text.head? = some c ∧ (c = '-' ∨ c.isDigit = true) := by
  obtain @⟨sign, whole, fraction, exponent, hsign, hwhole, _, _⟩ := h
  rcases hsign with rfl | ⟨c, hc, rfl⟩
  · obtain ⟨c, others, rfl⟩ := List.exists_cons_of_ne_nil hwhole.1
    exact ⟨c, rfl, .inr (hwhole.2 c List.mem_cons_self)⟩
  · exact ⟨c, rfl, .inl (List.mem_singleton.mp hc)⟩

theorem IsNumeral.getLast?_eq (h : IsNumeral text) :
    ∃ c, text.getLast? = some c ∧ c.isDigit = true := by
  obtain @⟨sign, whole, fraction, exponent, _, hwhole, hfraction, hexponent⟩ := h
  rcases hexponent with rfl | ⟨mark, ds, _, hds, rfl⟩
  · rcases hfraction with rfl | ⟨ds, hds, rfl⟩
    · simpa using hwhole.getLast?_append sign
    · simpa using hds.getLast?_append (sign ++ (whole ++ ['.']))
  · simpa using hds.getLast?_append (sign ++ (whole ++ (fraction ++ 'e' :: mark)))

theorem scans_signed {marks : List Char} {s : Scanner (List Char)}
    (hsign : sign = [] ∨ ∃ c ∈ marks, sign = [c]) (hmarks : ∀ c ∈ marks, c.isDigit = false)
    (hdigit : ∀ c ∈ (text ++ rest).head?, c.isDigit = true) (hs : Scans s text text rest) :
    Scans ((introduced marks nothing).andThen s) (sign ++ text) (sign ++ text) rest := by
  refine (scans_sign hsign fun c hc hmark => ?_).andThen hs
  exact absurd (hdigit c hc) (by simp [hmarks c hmark])

theorem scans_fraction (h : IsFraction text) (hrest : ∀ c ∈ rest.head?, c.isDigit = false)
    (hpoint : text = [] → '.' ∉ rest.head?) : Scans fraction text text rest := by
  rcases h with rfl | ⟨ds, hds, rfl⟩
  · refine scans_introduced_nil fun c hc hmark => hpoint rfl ?_
    rwa [← List.mem_singleton.mp hmark]
  · exact (scans_digits hds hrest).introduced (by decide)

theorem scans_exponent (h : IsExponent text)
    (hrest : ∀ c ∈ rest.head?, c.isDigit = false ∧ c ∉ ['e', 'E']) :
    Scans exponent text text rest := by
  have hdigit : ∀ c ∈ rest.head?, c.isDigit = false := fun c hc => (hrest c hc).1
  rcases h with rfl | ⟨sign, ds, hsign, hds, rfl⟩
  · exact scans_introduced_nil fun c hc => (hrest c hc).2
  · have hsigned := scans_signed hsign (by decide) (fun _ => hds.head?_append)
      (scans_digits hds hdigit)
    exact hsigned.introduced (by decide)

/-- A numeral ends where neither a digit nor an exponent follows, and behind a whole number no
point. -/
theorem scans_numeral (h : IsNumeral text)
    (hrest : ∀ c ∈ rest.head?, c.isDigit = false ∧ c ∉ ['e', 'E'])
    (hpoint : '.' ∈ rest.head? → ∃ c ∈ text, c.isDigit = false ∧ c ≠ '-') :
    Scans numeral text text rest := by
  obtain @⟨sign, whole, fraction, exponent, hsign, hwhole, hfraction, hexponent⟩ := h
  have hdigit : ∀ c ∈ rest.head?, c.isDigit = false := fun c hc => (hrest c hc).1
  have hafter : ∀ c ∈ (exponent ++ rest).head?, c.isDigit = false := by
    intro c hc
    rcases hexponent.head?_append hc with hc | rfl
    · exact hdigit c hc
    · rfl
  have hbare : fraction = [] → '.' ∉ (exponent ++ rest).head? := by
    rintro rfl hc
    rcases hexponent with rfl | ⟨_, _, _, _, rfl⟩
    · obtain ⟨c, hmem, hnot, hminus⟩ := hpoint hc
      rw [List.append_nil, List.append_nil] at hmem
      rcases List.mem_append.mp hmem with hmem | hmem
      · rcases hsign with rfl | ⟨x, hx, rfl⟩
        · cases hmem
        · rw [List.mem_singleton.mp hmem] at hminus
          exact hminus (List.mem_singleton.mp hx)
      · exact absurd (hwhole.2 c hmem) (by simp [hnot])
    · simp at hc
  have hbehind := (scans_fraction hfraction hafter hbare).andThen (scans_exponent hexponent hrest)
  have hfirst : ∀ c ∈ (fraction ++ exponent ++ rest).head?, c.isDigit = false := by
    intro c hc
    rw [List.append_assoc] at hc
    rcases hfraction.head?_append hc with hc | rfl
    · exact hafter c hc
    · rfl
  refine scans_signed hsign (by decide) (fun c hc => ?_) ((scans_digits hwhole hfirst).andThen hbehind)
  rw [List.append_assoc] at hc
  exact hwhole.head?_append hc

end

namespace Notation

theorem isDigits_toDigits (n : Nat) : IsDigits (Nat.toDigits 10 n) :=
  ⟨Nat.toDigits_ne_nil, fun _ => Numeral.isDigit_of_mem_digits⟩

variable {text rest : List Char}

theorem isDigits_append (ht : ∀ c ∈ text, c.isDigit = true) (hr : IsDigits rest) :
    IsDigits (text ++ rest) := by
  refine ⟨fun h => hr.1 (List.append_eq_nil_iff.mp h).2, fun c hc => ?_⟩
  exact (List.mem_append.mp hc).elim (ht c) (hr.2 c)

theorem isDigit_of_mem_zeros {n : Nat} {c : Char} (h : c ∈ zeros n) : c.isDigit = true := by
  obtain rfl := List.eq_of_mem_replicate h
  rfl

/-- A number in positional notation has digits on both sides of a point. -/
theorem exists_positional (x : Decimal) :
    ∃ whole ds, positional x = whole ++ '.' :: ds ∧ IsDigits whole ∧ IsDigits ds := by
  have hdigits : IsDigits x.digitChars := isDigits_toDigits x.digits
  have hzero : IsDigits ['0'] := ⟨by decide, by decide⟩
  unfold positional
  dsimp only
  split
  next =>
    refine ⟨x.digitChars ++ zeros x.exponent.toNat, ['0'], rfl, ⟨?_, ?_⟩, hzero⟩
    · exact fun h => hdigits.1 (List.append_eq_nil_iff.mp h).1
    · exact fun c hc => (List.mem_append.mp hc).elim (hdigits.2 c) isDigit_of_mem_zeros
  next hexponent =>
    split
    next =>
      refine ⟨['0'], zeros ((-x.exponent).toNat - x.digitChars.length) ++ x.digitChars, rfl, hzero, ?_⟩
      exact isDigits_append (fun _ => isDigit_of_mem_zeros) hdigits
    next hshort =>
      refine ⟨_, _, rfl, ⟨?_, fun c hc => hdigits.2 c (List.mem_of_mem_take hc)⟩,
        ⟨?_, fun c hc => hdigits.2 c (List.mem_of_mem_drop hc)⟩⟩
      · rw [Ne, List.take_eq_nil_iff, not_or]
        exact ⟨by omega, hdigits.1⟩
      · rw [Ne, List.drop_eq_nil_iff]
        have hlength := List.length_pos_iff.mpr hdigits.1
        omega

/-- A number in the other notation has one digit, a fraction perhaps, and an exponent. -/
theorem exists_exponential (n : Notation) (x : Decimal) :
    ∃ c fraction exponent, n.exponential x = [c] ++ (fraction ++ exponent) ∧ IsDigits [c] ∧
      IsFraction fraction ∧ IsExponent exponent ∧ exponent ≠ [] := by
  have hdigits : IsDigits x.digitChars := isDigits_toDigits x.digits
  have hsize := isDigits_toDigits x.lead.natAbs
  have hsign : ∃ sign, (if x.lead < 0 then ['-'] else if n.plusSign then ['+'] else []) = sign ∧
      (sign = [] ∨ ∃ c ∈ ['+', '-'], sign = [c]) := by
    split
    · exact ⟨_, rfl, .inr ⟨'-', by decide, rfl⟩⟩
    · split
      · exact ⟨_, rfl, .inr ⟨'+', by decide, rfl⟩⟩
      · exact ⟨_, rfl, .inl rfl⟩
  obtain ⟨sign, hform, hsign⟩ := hsign
  let size := Nat.toDigits 10 x.lead.natAbs
  have hexponent : IsExponent ('e' :: (sign ++ (zeros (n.exponentWidth - size.length) ++ size))) :=
    .inr ⟨sign, _, hsign, isDigits_append (fun _ => isDigit_of_mem_zeros) hsize, rfl⟩
  obtain ⟨c, others, hc⟩ := List.exists_cons_of_ne_nil hdigits.1
  rw [hc] at hdigits
  have hlead : IsDigits [c] :=
    ⟨List.cons_ne_nil _ _, by simpa using hdigits.2 c List.mem_cons_self⟩
  have hfraction : ∃ fraction, IsFraction fraction ∧ n.exponential x =
      [c] ++ (fraction ++ 'e' :: (sign ++ (zeros (n.exponentWidth - size.length) ++ size))) := by
    cases others with
    | nil =>
      by_cases hpoint : n.pointBeforeExponent = true
      · refine ⟨['.', '0'], .inr ⟨['0'], ⟨by decide, by decide⟩, rfl⟩, ?_⟩
        simp [exponential, hc, hpoint, hform, size]
      · exact ⟨[], .inl rfl, by simp [exponential, hc, hpoint, hform, size]⟩
    | cons d others =>
      refine ⟨'.' :: d :: others, .inr ⟨d :: others, ⟨List.cons_ne_nil _ _, ?_⟩, rfl⟩, ?_⟩
      · exact fun e he => hdigits.2 e (List.mem_cons_of_mem _ he)
      · simp [exponential, hc, hform, size]
  obtain ⟨fraction, hfraction, heq⟩ := hfraction
  exact ⟨c, fraction, _, heq, hlead, hfraction, hexponent, List.cons_ne_nil _ _⟩

/-- A written number is a numeral, and no whole one. -/
theorem isNumeral_render (n : Notation) (negative : Bool) (x : Decimal) :
    IsNumeral (n.render negative x).toList ∧
      ∃ c ∈ (n.render negative x).toList, c.isDigit = false ∧ c ≠ '-' := by
  have hbody : ∀ sign : List Char, (sign = [] ∨ ∃ c ∈ ['-'], sign = [c]) →
      ∀ body, body = (if n.least ≤ x.lead ∧ x.lead ≤ n.greatest then positional x
        else n.exponential x) →
      IsNumeral (sign ++ body) ∧ ∃ c ∈ sign ++ body, c.isDigit = false ∧ c ≠ '-' := by
    rintro sign hsign body rfl
    split
    · obtain ⟨whole, ds, heq, hwhole, hds⟩ := exists_positional x
      have hnumeral := IsNumeral.parts hsign hwhole (.inr ⟨ds, hds, rfl⟩) (.inl rfl)
      rw [List.append_nil] at hnumeral
      exact ⟨heq ▸ hnumeral, '.', by simp [heq], by decide⟩
    · obtain ⟨c, fraction, exponent, heq, hlead, hfraction, hexponent, hne⟩ := exists_exponential n x
      refine ⟨heq ▸ IsNumeral.parts hsign hlead hfraction hexponent, 'e', ?_, by decide⟩
      obtain ⟨_, _, _, _, rfl⟩ := hexponent.resolve_left hne
      simp [heq]
  rw [render, String.toList_ofList]
  split
  · exact hbody ['-'] (.inr ⟨'-', by decide, rfl⟩) _ rfl
  · exact hbody [] (.inl rfl) _ rfl

end Notation

theorem isNumeral_toString_int (n : Int) : IsNumeral (toString n).toList := by
  have hdigits := Notation.isDigits_toDigits n.natAbs
  have hnumeral : ∀ sign : List Char, (sign = [] ∨ ∃ c ∈ ['-'], sign = [c]) →
      IsNumeral (sign ++ Nat.toDigits 10 n.natAbs) := by
    intro sign hsign
    simpa using IsNumeral.parts hsign hdigits (.inl rfl) (.inl rfl)
  rw [Numeral.toList_toString_int]
  split
  · exact hnumeral ['-'] (.inr ⟨'-', by decide, rfl⟩)
  · exact hnumeral [] (.inl rfl)

end PortableSql

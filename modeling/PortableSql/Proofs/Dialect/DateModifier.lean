import Mathlib.Tactic.Linarith
import PortableSql.Dialect.Function
import PortableSql.Proofs.Number.DecimalText
import PortableSql.Proofs.Text.Casing
import PortableSql.Proofs.Text.Marks

namespace PortableSql.Sqlite

open Chars FunctionCall Dialect

variable {unit : String}

/-- The unit of weeks, in either number. -/
def weekWords : List (List Char) := ["week".toList, "weeks".toList]

/-- An amount of weeks is read as it is written. -/
theorem interval_weeks (h : asciiLower unit.toList ∈ weekWords) (e : String) (a : DecimalText) :
    interval [e, a.text, unit] = ⟨a.chars, upper (asciiLower unit.toList)⟩ := by
  have hword : ∀ word ∈ weekWords, (∀ c ∈ word, isBlank c = false) ∧ '\''.toLower ∉ word := by
    decide
  obtain ⟨hblank, hquote⟩ := hword _ h
  have hnone : '\'' ∉ unit.toList := fun hm => hquote (List.mem_map_of_mem hm)
  have hunit : stripAround '\'' (trim unit.toList) = unit.toList := by
    rw [trim_of_asciiLower hblank, stripAround_eq_self_iff]
    exact ⟨fun hc => hnone (List.mem_of_head? hc), fun hc => hnone (List.mem_of_getLast? hc)⟩
  have hamount : trim a.text.toList = a.chars := by
    rw [DecimalText.text, String.toList_ofList]
    exact trim_of_forall fun c hc => DecimalText.isBlank_of_mem_chars hc
  change Interval.mk (trim a.text.toList) (upper (stripAround '\'' (trim unit.toList))) = _
  rw [hamount, hunit, upper_asciiLower]

theorem modifierInterval_weeks (h : asciiLower unit.toList ∈ weekWords) (amount : List Char) :
    modifierInterval ⟨amount, upper (asciiLower unit.toList)⟩ =
      (inDays amount).map (⟨·, "DAY".toList⟩) := by
  have hword : ∀ word ∈ weekWords, singular (upper word) = "WEEK".toList := by decide +kernel
  rw [modifierInterval]
  dsimp only
  rw [if_pos (hword _ h)]

/-- The date function over a modifier in days. -/
def dayModifier (e : String) (days : List Char) : String :=
  s!"DATETIME({e}, '{String.ofList days} day')"

theorem functionSql_weeks (h : asciiLower unit.toList ∈ weekWords) (e : String) (a : DecimalText) :
    sqlite.functionSql "DATE_ADD" [e, a.text, unit] =
      (inDays a.chars).map fun days => dayModifier e (modifierSign days ++ days) := by
  have hday : String.ofList (lower "DAY".toList) = "day" := by decide
  change dateAdd [e, a.text, unit] = _
  rw [dateAdd, interval_weeks h, modifierInterval_weeks h]
  cases inDays a.chars with
  | error overflow => rfl
  | ok days =>
    refine congrArg Except.ok ?_
    dsimp only
    rw [hday]
    simp only [dayModifier, toString, String.append_assoc]
    rfl

/-- A modifier has a sign, which is a plus where the amount has none. -/
theorem modifierSign_chars (a : DecimalText) :
    modifierSign a.chars ++ a.chars = a.explicit.chars := by
  obtain ⟨c, rest, hunsigned, hplus, hminus⟩ := a.unsigned_eq_cons
  have hexplicit : a.explicit.chars =
      (if a.sign = .none then Sign.plus else a.sign).chars ++ a.unsigned := rfl
  rw [hexplicit, DecimalText.chars, hunsigned]
  cases a.sign with
  | none =>
    have hsign : modifierSign (c :: rest) = ['+'] := by simp [modifierSign, hplus, hminus]
    simp [Sign.chars, hsign]
  | plus | minus => rfl

theorem dayModifier_inj {e : String} {days others : List Char}
    (h : dayModifier e days = dayModifier e others) : days = others := by
  have htext := congrArg String.toList h
  simpa [dayModifier, toString] using htext

/-- What is seven times as much fits sixty-four bits only where the number itself does. -/
theorem fitsInt64_of_mul {n : Int} (h : fitsInt64 (7 * n) = true) : fitsInt64 n = true := by
  simp only [fitsInt64, Bool.and_eq_true, decide_eq_true_eq] at h ⊢
  omega

/-- The number of days in a modifier is the one that is written there. -/
theorem dayModifier_iff (e : String) (amount : DecimalText) (value : ℚ) :
    (∃ days : DecimalText,
        dayModifier e (modifierSign amount.chars ++ amount.chars) = dayModifier e days.chars ∧
          days.value = value) ↔ amount.value = value := by
  rw [modifierSign_chars]
  constructor
  · rintro ⟨days, htext, rfl⟩
    have hsame : amount.explicit = days :=
      DecimalText.text_injective (congrArg String.ofList (dayModifier_inj htext))
    rw [← hsame, amount.value_explicit]
  · rintro rfl
    exact ⟨amount.explicit, rfl, amount.value_explicit⟩

/-- Only an integer that fits sixty-four bits is multiplied. -/
theorem inDays_chars (a : DecimalText) :
    inDays a.chars =
      if a.fraction = none ∧ fitsInt64 a.integer then
        if fitsInt64 (7 * a.integer) then .ok (DecimalText.ofInt (7 * a.integer)).chars
        else .error .days
      else .ok a.chars := by
  rw [inDays, a.int64?_chars, DecimalText.chars_ofInt, Int.mul_comm 7]
  by_cases hfraction : a.fraction = none
  · by_cases hfits : fitsInt64 a.integer = true
    · rw [if_pos hfraction, if_pos ⟨hfraction, hfits⟩, Option.filter_some, if_pos hfits]
    · rw [if_pos hfraction, if_neg fun h => hfits h.2, Option.filter_some, if_neg hfits]
  · rw [if_neg hfraction, if_neg fun h => hfraction h.1]

/-- Weeks are written as seven times as many days if and only if they are none, or an integer whose
sevenfold fits sixty-four bits. -/
theorem functionSql_weeks_iff (e : String) (a : DecimalText) {unit : String}
    (hunit : asciiLower unit.toList ∈ ["week".toList, "weeks".toList]) :
    (∃ days : DecimalText,
        sqlite.functionSql "DATE_ADD" [e, a.text, unit] = .ok s!"DATETIME({e}, '{days.text} day')" ∧
          days.value = 7 * a.value) ↔
      a.value = 0 ∨ a.fraction = none ∧ fitsInt64 (7 * a.integer) := by
  change (∃ days : DecimalText, _ = Except.ok (dayModifier e days.chars) ∧ _) ↔ _
  rw [functionSql_weeks hunit, inDays_chars]
  have hzero : a.value = 7 * a.value ↔ a.value = 0 := by
    constructor
    · intro h
      linarith
    · intro h
      rw [h, mul_zero]
  by_cases hread : a.fraction = none ∧ fitsInt64 a.integer
  · have hvalue : a.value = a.integer := DecimalText.value_of_integer hread.1
    rw [if_pos hread]
    by_cases hfits : fitsInt64 (7 * a.integer) = true
    · refine iff_of_true ?_ (.inr ⟨hread.1, hfits⟩)
      obtain ⟨days, htext, hdays⟩ := (dayModifier_iff e (.ofInt (7 * a.integer)) _).mpr rfl
      refine ⟨days, ?_, ?_⟩
      · rw [if_pos hfits, Except.map, htext]
      · rw [hdays, DecimalText.value_ofInt, hvalue]
        push_cast
        rfl
    · rw [if_neg hfits]
      refine iff_of_false (fun ⟨_, herror, _⟩ => by cases herror) ?_
      rintro (hnone | ⟨_, hmultiple⟩)
      · have hinteger : a.integer = 0 := by
          rw [hvalue] at hnone
          exact_mod_cast hnone
        exact hfits (by rw [hinteger]; decide)
      · exact hfits hmultiple
  · have hmultiple : ¬ (a.fraction = none ∧ fitsInt64 (7 * a.integer)) :=
      fun h => hread ⟨h.1, fitsInt64_of_mul h.2⟩
    rw [if_neg hread, or_iff_left hmultiple, ← hzero, ← dayModifier_iff e a]
    simp only [Except.map, Except.ok.injEq]

theorem functionSql_weeks_iff_signed :
    ∃ days : DecimalText,
      sqlite.functionSql "DATE_ADD" ["created", (DecimalText.ofInt (-12)).text, "wEEks"] =
          .ok s!"DATETIME(created, '{days.text} day')" ∧
        days.value = 7 * (DecimalText.ofInt (-12)).value :=
  (functionSql_weeks_iff "created" (.ofInt (-12)) (by decide)).mpr (.inr ⟨rfl, by decide +kernel⟩)

def oneAndAHalf : DecimalText where
  sign := .none
  whole := ['1']
  fraction := some ['5']
  whole_digits := by unfold IsDigits; decide
  fraction_digits := by unfold IsDigits; decide

/-- An amount with a fraction keeps its number when its weeks become days, and a large one has no
modifier. -/
theorem functionSql_weeks_fraction :
    sqlite.functionSql "DATE_ADD" ["created", oneAndAHalf.text, "WEEK"] =
        .ok "DATETIME(created, '+1.5 day')" ∧
      (¬ ∃ days : DecimalText,
        sqlite.functionSql "DATE_ADD" ["created", oneAndAHalf.text, "WEEK"] =
            .ok s!"DATETIME(created, '{days.text} day')" ∧
          days.value = 7 * oneAndAHalf.value) ∧
      sqlite.functionSql "DATE_ADD" ["created", "1317624576693539402", "WEEK"] = .error .days := by
  have hkept : sqlite.functionSql "DATE_ADD" ["created", oneAndAHalf.text, "WEEK"] =
      .ok "DATETIME(created, '+1.5 day')" := by decide +kernel
  refine ⟨hkept, ?_, by decide +kernel⟩
  rintro ⟨days, htext, hdays⟩
  have hwritten : dayModifier "created" oneAndAHalf.explicit.chars =
      "DATETIME(created, '+1.5 day')" := by decide +kernel
  have hsame : oneAndAHalf.explicit = days := by
    have htexts := hwritten.trans (Except.ok.inj (hkept.symm.trans htext))
    exact DecimalText.text_injective (congrArg String.ofList (dayModifier_inj htexts))
  have hvalue : oneAndAHalf.value = 1 * ((1 : ℕ) + (5 : ℕ) / 10 ^ 1) := rfl
  rw [← hsame, DecimalText.value_explicit, hvalue] at hdays
  norm_num at hdays

end PortableSql.Sqlite

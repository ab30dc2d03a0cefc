import PortableSql.Proofs.Text.Chars

namespace PortableSql.Chars

variable {text : List Char}

/-- Lower case changes nothing but ASCII letters, so that what relates a character to itself and the
ASCII characters to theirs relates every character to its lower case. -/
theorem relates_toLower {r : Char → Char → Prop} (hself : ∀ c, r c c)
    (hascii : ∀ n < 0x80, r (Char.ofNat n) (Char.ofNat n).toLower) (c : Char) : r c c.toLower := by
  by_cases hc : c.toNat < 0x80
  · exact of_ascii (p := fun c => r c c.toLower) hascii hc
  · rw [toLower_of_not_upper (by omega)]
    exact hself c

theorem isBlank_toLower (c : Char) : isBlank c.toLower = isBlank c :=
  relates_toLower (r := fun c low => isBlank low = isBlank c) (fun _ => rfl) (by decide +kernel) c

theorem upperChar_toLower (c : Char) : upperChar c.toLower = upperChar c :=
  relates_toLower (r := fun c low => upperChar low = upperChar c) (fun _ => rfl)
    (by decide +kernel) c

/-- Upper case takes no notice of the case of ASCII letters. -/
theorem upper_asciiLower (text : List Char) : upper (asciiLower text) = upper text := by
  rw [upper, asciiLower, List.flatMap_map, upper]
  exact congrArg (text.flatMap ·) (funext upperChar_toLower)

/-- White space has no case. -/
theorem lowerChar_of_isBlank {c : Char} (h : isBlank c = true) : lowerChar c = [c.toLower] := by
  have hcodes : ∀ n ∈ List.range' 0x2000 11 ++
      [0x85, 0xA0, 0x1680, 0x2028, 0x2029, 0x202F, 0x205F, 0x3000],
      lowerChar (Char.ofNat n) = [(Char.ofNat n).toLower] := by
    decide +kernel
  by_cases hc : c.toNat < 0x80
  · rw [lowerChar, if_pos hc]
  · have hcode := hcodes c.toNat (by
      simp only [isBlank, Bool.or_eq_true, Bool.and_eq_true, beq_iff_eq, decide_eq_true_eq] at h
      simp only [List.mem_append, List.mem_range'_1, List.mem_cons]
      omega)
    rwa [Char.ofNat_toNat] at hcode

theorem lower_of_ascii_or_blank (h : ∀ c ∈ text, c.toNat < 0x80 ∨ isBlank c = true) :
    lower text = asciiLower text := by
  have hsigma : 'Σ' ∉ text := by
    intro hmem
    rcases h _ hmem with hascii | hblank
    · exact absurd hascii (by decide)
    · exact absurd hblank (by decide)
  have hchar : ∀ c ∈ text, lowerChar c = [c.toLower] := by
    intro c hc
    rcases h c hc with hascii | hblank
    · rw [lowerChar, if_pos hascii]
    · exact lowerChar_of_isBlank hblank
  rw [lower_of_not_mem hsigma, asciiLower, List.map_eq_flatMap, List.flatMap_def,
    List.map_congr_left hchar, ← List.flatMap_def]

/-- A text has white space only where it has it in lower case. -/
theorem trim_of_asciiLower (h : ∀ c ∈ asciiLower text, isBlank c = false) : trim text = text := by
  refine trim_of_forall fun c hc => ?_
  rw [← isBlank_toLower]
  exact h _ (List.mem_map_of_mem hc)

end PortableSql.Chars

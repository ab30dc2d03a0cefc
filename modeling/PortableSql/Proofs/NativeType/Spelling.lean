import PortableSql.Proofs.NativeType
import PortableSql.Proofs.Number.Scanner
import PortableSql.Proofs.Text.Words

namespace PortableSql

theorem Numeral.uint32?_of_isDigits {digits : List Char} {n : UInt32} (h : IsDigits digits)
    (hvalue : digitsValue digits = n.toNat) : uint32? digits = some n := by
  obtain ⟨c, rest, rfl⟩ := List.exists_cons_of_ne_nil h.1
  have hplus : c ≠ '+' := by
    rintro rfl
    exact absurd (h.2 _ List.mem_cons_self) (by decide)
  have hnatural : natural? (c :: rest) = some n.toNat := by
    have hall : (c :: rest).all Char.isDigit = true := List.all_eq_true.mpr h.2
    rw [natural?, hall, hvalue]
    rfl
  rw [uint32?_unsigned hplus, hnatural, Option.filter_some, if_pos (decide_eq_true n.toNat_lt),
    Option.map_some, UInt32.ofNat_toNat]

namespace NativeType

open Chars

/-- Small letters, digits and underscores. A modifier is such a word as well. -/
def IsLowWord (word : List Char) : Prop :=
  word ≠ [] ∧ ∀ c ∈ word, c.isLower = true ∨ c.isDigit = true ∨ c = '_'

instance (word : List Char) : Decidable (IsLowWord word) := inferInstanceAs (Decidable (_ ∧ _))

/-- A number in decimal digits, with white space around it. -/
inductive WritesNumber : UInt32 → List Char → Prop
  | digits {n : UInt32} {before digits after : List Char} (hbefore : IsGap before)
      (hdigits : IsDigits digits) (hvalue : Numeral.digitsValue digits = n.toNat)
      (hafter : IsGap after) : WritesNumber n (before ++ (digits ++ after))

/-- One number, or two with a comma between them. -/
inductive WritesArguments : UInt32 × Option UInt32 → List Char → Prop
  | length {l : UInt32} {text : List Char} (h : WritesNumber l text) :
      WritesArguments (l, none) text
  | precision {l p : UInt32} {first second : List Char} (hl : WritesNumber l first)
      (hp : WritesNumber p second) : WritesArguments (l, some p) (first ++ ',' :: second)

/-- The words of a type, without arguments or with arguments that stand in front of a word, behind
all words or between any two. -/
inductive WritesType : List (List Char) → Option (UInt32 × Option UInt32) → List Char → Prop
  | plain {words : List (List Char)} {text : List Char} (h : Spells words text) :
      WritesType words none text
  | sized {before after : List (List Char)} {arguments : UInt32 × Option UInt32}
      {opening inside closing : List Char} (hopening : Spells before opening)
      (hinside : WritesArguments arguments inside) (hclosing : Spells after closing) :
      WritesType (before ++ after) (some arguments)
        (opening ++ '(' :: (inside ++ ')' :: closing))

variable {words : List (List Char)} {text : List Char}

theorem IsLowWord.toNat_le {word : List Char} (h : IsLowWord word) {c : Char} (hc : c ∈ word) :
    48 ≤ c.toNat ∧ c.toNat ≤ 122 := by
  rcases h.2 c hc with hlow | hdigit | rfl
  · have hcodes := Bool.and_eq_true_iff.mp hlow
    have hleast : 97 ≤ c.toNat := UInt32.le_iff_toNat_le.mp (of_decide_eq_true hcodes.1)
    have hgreatest : c.toNat ≤ 122 := UInt32.le_iff_toNat_le.mp (of_decide_eq_true hcodes.2)
    omega
  · have := Numeral.toNat_of_isDigit hdigit
    omega
  · decide

theorem IsLowWord.isWord {word : List Char} (h : IsLowWord word) : IsWord word := by
  refine ⟨h.1, fun c hc => ?_⟩
  have := h.toNat_le hc
  simp [isBlank]
  omega

theorem ascii_of_spells (hwords : ∀ word ∈ words, IsLowWord word) (h : Spells words text) :
    ∀ c ∈ text, c.toNat < 0x80 ∨ isBlank c = true := by
  intro c hc
  rcases h.blank_or_mem hc with hblank | ⟨word, hword, hlow⟩
  · exact .inr hblank
  · have hrange := (hwords word hword).toNat_le hlow
    refine .inl ?_
    by_cases hupper : 65 ≤ c.toNat ∧ c.toNat ≤ 90
    · omega
    · rw [toLower_of_not_upper hupper] at hrange
      omega

/-- Only arguments have parentheses. -/
theorem not_mem_of_spells (hwords : ∀ word ∈ words, IsLowWord word) (h : Spells words text) :
    '(' ∉ asciiLower text ∧ ')' ∉ asciiLower text := by
  have hchar : ∀ c ∈ asciiLower text, c ≠ '(' ∧ c ≠ ')' := by
    intro _ hc
    obtain ⟨c, hm, rfl⟩ := List.mem_map.mp hc
    rcases h.blank_or_mem hm with hblank | ⟨word, hword, hlow⟩
    · rw [← isBlank_toLower] at hblank
      refine ⟨fun heq => ?_, fun heq => ?_⟩
      all_goals
        rw [heq] at hblank
        exact absurd hblank (by decide)
    · have hrange := (hwords word hword).toNat_le hlow
      refine ⟨fun heq => ?_, fun heq => ?_⟩
      all_goals
        rw [heq] at hrange
        exact absurd hrange (by decide)
  exact ⟨fun hc => (hchar _ hc).1 rfl, fun hc => (hchar _ hc).2 rfl⟩

/-- Numbers and the commas and spaces around them have no case. -/
theorem char_of_writesNumber {n : UInt32} (h : WritesNumber n text) {c : Char} (hc : c ∈ text) :
    isBlank c = true ∨ c.isDigit = true := by
  cases h with
  | digits hbefore hdigits _ hafter =>
    rcases List.mem_append.mp hc with hc | hc
    · exact .inl (hbefore c hc)
    · rcases List.mem_append.mp hc with hc | hc
      · exact .inr (hdigits.2 c hc)
      · exact .inl (hafter c hc)

theorem char_of_writesArguments {arguments : UInt32 × Option UInt32}
    (h : WritesArguments arguments text) {c : Char} (hc : c ∈ text) :
    (c.toNat < 0x80 ∨ isBlank c = true) ∧ c.toLower = c := by
  have hnumber : isBlank c = true ∨ c.isDigit = true →
      (c.toNat < 0x80 ∨ isBlank c = true) ∧ c.toLower = c := by
    rintro (hblank | hdigit)
    · refine ⟨.inr hblank, toLower_of_not_upper ?_⟩
      simp [isBlank] at hblank
      omega
    · have := Numeral.toNat_of_isDigit hdigit
      exact ⟨.inl (by omega), toLower_of_not_upper (by omega)⟩
  cases h with
  | length hl => exact hnumber (char_of_writesNumber hl hc)
  | precision hl hp =>
    rcases List.mem_append.mp hc with hc | hc
    · exact hnumber (char_of_writesNumber hl hc)
    · rcases List.mem_cons.mp hc with rfl | hc
      · decide
      · exact hnumber (char_of_writesNumber hp hc)

theorem uint32?_of_writesNumber {n : UInt32} (h : WritesNumber n text) :
    Numeral.uint32? (trim text) = some n := by
  cases h with
  | @digits before digits after hbefore hdigits hvalue hafter =>
    have hword : IsWord digits :=
      ⟨hdigits.1, fun c hc => Numeral.isBlank_of_isDigit (hdigits.2 c hc)⟩
    rw [trim_gaps hbefore hword hafter, Numeral.uint32?_of_isDigits hdigits hvalue]

theorem comma_not_mem_of_writesNumber {n : UInt32} (h : WritesNumber n text) : ',' ∉ text := by
  intro hc
  rcases char_of_writesNumber h hc with hblank | hdigit
  · exact absurd hblank (by decide)
  · exact absurd hdigit (by decide)

theorem numbers_of_writesArguments {arguments : UInt32 × Option UInt32}
    (h : WritesArguments arguments text) :
    (numbers (some text))[0]?.join = some arguments.1 ∧
      (numbers (some text))[1]?.join = arguments.2 := by
  cases h with
  | length hl =>
    simp [numbers, splitOn_of_not_mem (comma_not_mem_of_writesNumber hl),
      uint32?_of_writesNumber hl]
  | precision hl hp =>
    simp [numbers, splitOn_append (comma_not_mem_of_writesNumber hl),
      splitOn_of_not_mem (comma_not_mem_of_writesNumber hp), uint32?_of_writesNumber hl,
      uint32?_of_writesNumber hp]

theorem ascii_of_writesType (hwords : ∀ word ∈ words, IsLowWord word)
    {arguments : Option (UInt32 × Option UInt32)} (h : WritesType words arguments text) :
    ∀ c ∈ text, c.toNat < 0x80 ∨ isBlank c = true := by
  cases h with
  | plain h => exact ascii_of_spells hwords h
  | sized hopening hinside hclosing =>
    intro c hc
    simp only [List.mem_append, List.mem_cons] at hc
    rcases hc with hc | rfl | hc | rfl | hc
    · exact ascii_of_spells (fun word hm => hwords word (List.mem_append_left _ hm)) hopening c hc
    · decide
    · exact (char_of_writesArguments hinside hc).1
    · decide
    · exact ascii_of_spells (fun word hm => hwords word (List.mem_append_right _ hm)) hclosing c hc

/-- White space at the ends is cut off, and that around the parentheses is kept. -/
theorem cutArguments_trim {opening closing : List Char} (hopening : '(' ∉ opening)
    (hclosing : ')' ∉ closing) (inside : List Char) :
    cutArguments (trim (opening ++ '(' :: (inside ++ ')' :: closing))) =
      (trimStart opening ++ ' ' :: trimEnd closing, some inside) := by
  have htrim : trim (opening ++ '(' :: (inside ++ ')' :: closing)) =
      trimStart opening ++ '(' :: (inside ++ ')' :: trimEnd closing) := by
    rw [trim, trimStart_append_cons (by decide), ← List.cons_append, ← List.append_assoc,
      trimEnd_append_cons (by decide), List.append_assoc, List.cons_append]
  have hfirst : '(' ∉ trimStart opening :=
    fun hc => hopening ((List.dropWhile_sublist isBlank).subset hc)
  rw [htrim, cutArguments, cutFirst_append hfirst]
  dsimp only
  rw [cutLast_append inside fun hc => hclosing (mem_of_mem_trimEnd hc)]

/-- The words are outside of the arguments, and the numbers in them. -/
theorem cutArguments_of_writes (hwords : ∀ word ∈ words, IsLowWord word)
    {arguments : Option (UInt32 × Option UInt32)} (h : WritesType words arguments text) :
    ∃ outside inside, cutArguments (lower (trim text)) = (outside, inside) ∧
      Chars.words outside = words ∧ (numbers inside)[0]?.join = arguments.map (·.1) ∧
        (numbers inside)[1]?.join = arguments.bind (·.2) := by
  have hascii := ascii_of_writesType hwords h
  rw [lower_of_ascii_or_blank fun c hc => hascii c (mem_of_mem_trim hc), ← trim_asciiLower]
  have hspelled {part : List (List Char)} {written : List Char}
      (hpart : ∀ word ∈ part, IsLowWord word) (hwritten : Spells part written) :
      Chars.words (asciiLower written) = part :=
    hwritten.words_eq fun word hmem => (hpart word hmem).isWord
  cases h with
  | plain h =>
    have hnone : '(' ∉ trim (asciiLower text) :=
      fun hc => (not_mem_of_spells hwords h).1 (mem_of_mem_trim hc)
    refine ⟨trim (asciiLower text), none, ?_, ?_, rfl, rfl⟩
    · rw [cutArguments, cutFirst_eq_none hnone]
    · rw [words_trim, hspelled hwords h]
  | @sized before after arguments opening inside closing hopening hinside hclosing =>
    have hbefore : ∀ word ∈ before, IsLowWord word :=
      fun word hmem => hwords word (List.mem_append_left _ hmem)
    have hafter : ∀ word ∈ after, IsLowWord word :=
      fun word hmem => hwords word (List.mem_append_right _ hmem)
    have hsame : asciiLower inside = inside :=
      (List.map_congr_left fun c hc => (char_of_writesArguments hinside hc).2).trans
        (List.map_id' inside)
    have hlower : asciiLower (opening ++ '(' :: (inside ++ ')' :: closing)) =
        asciiLower opening ++ '(' :: (inside ++ ')' :: asciiLower closing) := by
      conv => rhs; rw [← hsame]
      simp [asciiLower]
    rw [hlower]
    refine ⟨_, some inside, cutArguments_trim (not_mem_of_spells hbefore hopening).1
      (not_mem_of_spells hafter hclosing).2 inside, ?_, numbers_of_writesArguments hinside⟩
    rw [words_append_blank (by decide), words_trimStart, words_trimEnd, hspelled hbefore hopening,
      hspelled hafter hclosing]

/-- A type text is read in parts: its words without the modifiers, with one space between two, the
numbers of its arguments, and whether one of the words says that it has no sign. -/
theorem ofText_of_writes {words : List (List Char)} {arguments : Option (UInt32 × Option UInt32)}
    {text : String} (hwords : ∀ word ∈ words, IsLowWord word)
    (h : WritesType words arguments text.toList) :
    ofText text =
      { base := String.ofList ([' '].intercalate (words.filter (· ∉ modifierWords)))
        length := arguments.map (·.1)
        precision := arguments.bind (·.2)
        unsigned := decide ("unsigned".toList ∈ words) } := by
  obtain ⟨outside, inside, hcut, houtside, hlength, hprecision⟩ := cutArguments_of_writes hwords h
  rw [ofText, hcut]
  simp only [houtside, hlength, hprecision, List.contains_eq_mem, decide_not]

/-- Arguments in the middle of a name, a modifier on each side of them, and no space behind them. -/
theorem ofText_of_writes_modified :
    (∀ word ∈ ["double", "unsigned", "precision", "zerofill"].map String.toList, IsLowWord word) ∧
      WritesType (["double", "unsigned", "precision", "zerofill"].map String.toList)
        (some (10, some 2)) "\tDOUBLE Unsigned ( 10,\u00a002 )Precision  ZEROFILL".toList ∧
      ofText "\tDOUBLE Unsigned ( 10,\u00a002 )Precision  ZEROFILL" =
        { base := "double precision", length := some 10, precision := some 2
          unsigned := true } := by
  have hwords : ∀ word ∈ ["double", "unsigned", "precision", "zerofill"].map String.toList,
      IsLowWord word := by decide
  have hopening : Spells ["double".toList, "unsigned".toList] "\tDOUBLE Unsigned ".toList :=
    @Spells.word "\t".toList "DOUBLE".toList " Unsigned ".toList _ (by decide)
      (by rintro _ ⟨⟩; rfl)
      (@Spells.word " ".toList "Unsigned".toList " ".toList _ (by decide) (by rintro _ ⟨⟩; rfl)
        (.nothing (by decide)))
  have hclosing : Spells ["precision".toList, "zerofill".toList] "Precision  ZEROFILL".toList :=
    @Spells.word [] "Precision".toList "  ZEROFILL".toList _ (by decide) (by rintro _ ⟨⟩; rfl)
      (@Spells.word "  ".toList "ZEROFILL".toList [] _ (by decide) (by rintro _ ⟨⟩)
        (.nothing (by decide)))
  have hinside : WritesArguments (10, some 2) " 10,\u00a002 ".toList :=
    @WritesArguments.precision 10 2 " 10".toList "\u00a002 ".toList
      (@WritesNumber.digits 10 " ".toList "10".toList [] (by decide) (by decide) (by decide)
        (by decide))
      (@WritesNumber.digits 2 "\u00a0".toList "02".toList " ".toList (by decide) (by decide)
        (by decide) (by decide))
  have hwrites : WritesType (["double", "unsigned", "precision", "zerofill"].map String.toList)
      (some (10, some 2)) "\tDOUBLE Unsigned ( 10,\u00a002 )Precision  ZEROFILL".toList :=
    .sized hopening hinside hclosing
  exact ⟨hwords, hwrites, ofText_of_writes hwords hwrites⟩

end NativeType

end PortableSql

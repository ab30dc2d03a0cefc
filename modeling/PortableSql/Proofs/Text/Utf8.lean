import PortableSql.Text.Utf8

namespace PortableSql.Bytes

theorem toList_loop (bytes : ByteArray) (i : Nat) (before : List UInt8) :
    ByteArray.toList.loop bytes i before = before.reverse ++ bytes.data.toList.drop i := by
  fun_induction ByteArray.toList.loop bytes i before with
  | case1 i before hi ih =>
    have hbound : i < bytes.data.toList.length := hi
    have hget : bytes.get! i = bytes.data.toList[i] := getElem!_pos bytes.data i hi
    rw [ih, hget, List.reverse_cons, List.append_assoc, List.singleton_append,
      List.getElem_cons_drop]
  | case2 i before hi =>
    rw [List.drop_eq_nil_of_le (by exact Nat.le_of_not_lt hi), List.append_nil]

theorem ofText_eq (s : String) : ofText s = s.toList.flatMap String.utf8EncodeChar := by
  have hencode : ∀ text : List Char,
      text.utf8Encode.data.toList = text.flatMap String.utf8EncodeChar := by
    intro text
    rw [List.utf8Encode, List.toList_data_toByteArray]
  rw [ofText, String.toUTF8, ByteArray.toList, toList_loop, List.reverse_nil, List.nil_append,
    List.drop_zero, ← String.utf8Encode_toList, hencode]

/-- A byte behind the first one, which carries six bits. -/
def continuation (n : Nat) : UInt8 := UInt8.ofNat (n % 64 + 128)

theorem toNat_continuation (n : Nat) : (continuation n).toNat = n % 64 + 128 := by
  rw [continuation, UInt8.toNat_ofNat']
  omega

theorem isContinuation_continuation (n : Nat) : isContinuation (continuation n) = true := by
  have := toNat_continuation n
  simp only [isContinuation, Bool.and_eq_true, decide_eq_true_eq, UInt8.le_iff_toNat_le,
    UInt8.lt_iff_toNat_lt, UInt8.reduceToNat]
  omega

theorem low_continuation (n : Nat) : low (continuation n) = n % 64 := by
  rw [low, toNat_continuation]
  omega

theorem sequenceLength_two {first : UInt8} (h : 194 ≤ first.toNat ∧ first.toNat < 224) :
    sequenceLength first = 2 := by
  simp only [sequenceLength, UInt8.le_iff_toNat_le, UInt8.lt_iff_toNat_lt, UInt8.reduceToNat,
    Bool.and_eq_true, decide_eq_true_eq]
  rw [if_neg (by omega), if_pos (by omega)]

theorem sequenceLength_three {first : UInt8} (h : 224 ≤ first.toNat ∧ first.toNat < 240) :
    sequenceLength first = 3 := by
  simp only [sequenceLength, UInt8.le_iff_toNat_le, UInt8.lt_iff_toNat_lt, UInt8.reduceToNat,
    Bool.and_eq_true, decide_eq_true_eq]
  rw [if_neg (by omega), if_neg (by omega), if_pos (by omega)]

theorem sequenceLength_four {first : UInt8} (h : 240 ≤ first.toNat ∧ first.toNat < 245) :
    sequenceLength first = 4 := by
  simp only [sequenceLength, UInt8.le_iff_toNat_le, UInt8.lt_iff_toNat_lt, UInt8.reduceToNat,
    Bool.and_eq_true, decide_eq_true_eq]
  rw [if_neg (by omega), if_neg (by omega), if_neg (by omega), if_pos (by omega)]

/-- The second byte keeps away from longer sequences than needed, from surrogates and from what is
beyond the last character. -/
theorem isSecond_continuation {first : UInt8} {n : Nat}
    (h : (first.toNat = 0xE0 → 32 ≤ n % 64) ∧ (first.toNat = 0xED → n % 64 < 32) ∧
      (first.toNat = 0xF0 → 16 ≤ n % 64) ∧ (first.toNat = 0xF4 → n % 64 < 16)) :
    isSecond first (continuation n) = true := by
  have := toNat_continuation n
  simp only [isSecond, isContinuation_continuation, Bool.and_eq_true, Bool.or_eq_true, bne_iff_ne,
    decide_eq_true_eq, ne_eq, ← UInt8.toNat_inj, UInt8.le_iff_toNat_le, UInt8.lt_iff_toNat_lt,
    UInt8.reduceToNat, true_and]
  omega

theorem step_one {first : UInt8} (h : first.toNat < 128) (rest : Bytes) :
    step first rest = (Char.ofNat first.toNat, 0) := by
  have hlength : sequenceLength first = 1 := by
    simp only [sequenceLength, UInt8.lt_iff_toNat_lt, UInt8.reduceToNat]
    rw [if_pos h]
  unfold step
  rw [hlength]
  rfl

theorem step_two {first : UInt8} (h : 194 ≤ first.toNat ∧ first.toNat < 224) (n : Nat)
    (rest : Bytes) :
    step first (continuation n :: rest) = (Char.ofNat (first.toNat % 32 * 64 + n % 64), 1) := by
  have hsecond : isSecond first (continuation n) = true := isSecond_continuation (by omega)
  unfold step
  rw [sequenceLength_two h]
  exact (if_pos hsecond).trans (by rw [low_continuation])

theorem step_three {first : UInt8} (h : 224 ≤ first.toNat ∧ first.toNat < 240) {m n : Nat}
    (hm : (first.toNat = 0xE0 → 32 ≤ m % 64) ∧ (first.toNat = 0xED → m % 64 < 32)) (rest : Bytes) :
    step first (continuation m :: continuation n :: rest) =
      (Char.ofNat (first.toNat % 16 * 4096 + m % 64 * 64 + n % 64), 2) := by
  have hsecond : isSecond first (continuation m) = true := isSecond_continuation (by omega)
  have hnot : ¬ (!isSecond first (continuation m)) = true := by simp [hsecond]
  unfold step
  rw [sequenceLength_three h]
  refine (if_neg hnot).trans ((if_pos (isContinuation_continuation n)).trans ?_)
  rw [low_continuation, low_continuation]

theorem step_four {first : UInt8} (h : 240 ≤ first.toNat ∧ first.toNat < 245) {l m n : Nat}
    (hl : (first.toNat = 0xF0 → 16 ≤ l % 64) ∧ (first.toNat = 0xF4 → l % 64 < 16)) (rest : Bytes) :
    step first (continuation l :: continuation m :: continuation n :: rest) =
      (Char.ofNat (first.toNat % 8 * 262144 + l % 64 * 4096 + m % 64 * 64 + n % 64), 3) := by
  have hsecond : isSecond first (continuation l) = true := isSecond_continuation (by omega)
  have hnot : ¬ (!isSecond first (continuation l)) = true := by simp [hsecond]
  have hnext : ¬ (!isContinuation (continuation m)) = true := by simp [isContinuation_continuation]
  unfold step
  rw [sequenceLength_four h]
  refine (if_neg hnot).trans ((if_neg hnext).trans
    ((if_pos (isContinuation_continuation n)).trans ?_))
  rw [low_continuation, low_continuation, low_continuation]

/-- The bytes of a character are read as that character, whatever follows them. -/
theorem step_utf8EncodeChar (c : Char) :
    ∃ first more, String.utf8EncodeChar c = first :: more ∧
      ∀ rest, step first (more ++ rest) = (c, more.length) := by
  have hchar {n : Nat} (hn : n = c.val.toNat) : Char.ofNat n = c := hn ▸ Char.ofNat_toNat c
  have hvalid : c.val.toNat < 0xD800 ∨ 0xDFFF < c.val.toNat ∧ c.val.toNat < 0x110000 := c.valid
  have hfirst {n : Nat} (hn : n < 256) : (UInt8.ofNat n).toNat = n := by
    rw [UInt8.toNat_ofNat']
    omega
  unfold String.utf8EncodeChar
  dsimp only
  split
  next h =>
    refine ⟨_, [], rfl, fun rest => ?_⟩
    have hbyte := hfirst (n := c.val.toNat) (by omega)
    rw [List.nil_append, step_one (by omega), hbyte, hchar rfl]
    rfl
  next =>
    split
    next h =>
      refine ⟨_, [continuation c.val.toNat], rfl, fun rest => ?_⟩
      have hbyte := hfirst (n := c.val.toNat / 64 % 32 + 192) (by omega)
      rw [List.singleton_append, step_two (by omega), hbyte, hchar (by omega)]
      rfl
    next =>
      split
      next h =>
        refine ⟨_, [continuation (c.val.toNat / 64), continuation c.val.toNat], rfl,
          fun rest => ?_⟩
        have hbyte := hfirst (n := c.val.toNat / 4096 % 16 + 224) (by omega)
        rw [List.cons_append, List.singleton_append, step_three (by omega) (by omega), hbyte,
          hchar (by omega)]
        rfl
      next h =>
        refine ⟨_, [continuation (c.val.toNat / 4096), continuation (c.val.toNat / 64),
          continuation c.val.toNat], rfl, fun rest => ?_⟩
        have hbyte := hfirst (n := c.val.toNat / 262144 % 8 + 240) (by omega)
        rw [List.cons_append, List.cons_append, List.singleton_append,
          step_four (by omega) (by omega), hbyte, hchar (by omega)]
        rfl

/-- What a text is encoded as is read back as that text. -/
theorem lossy_flatMap (text : List Char) : lossy (text.flatMap String.utf8EncodeChar) = text := by
  have hwithin : ∀ fuel, (text.flatMap String.utf8EncodeChar).length ≤ fuel →
      lossyWithin fuel (text.flatMap String.utf8EncodeChar) = text := by
    induction text with
    | nil =>
      intro fuel _
      cases fuel <;> rfl
    | cons c text ih =>
      intro fuel hfuel
      obtain ⟨first, more, hbytes, hstep⟩ := step_utf8EncodeChar c
      rw [List.flatMap_cons, hbytes] at hfuel ⊢
      cases fuel with
      | zero => simp at hfuel
      | succ fuel =>
        rw [List.cons_append, lossyWithin, hstep]
        dsimp only
        simp only [List.cons_append, List.length_cons, List.length_append] at hfuel
        rw [List.drop_left, ih fuel (by omega)]
  exact hwithin _ (Nat.le_refl _)

end PortableSql.Bytes

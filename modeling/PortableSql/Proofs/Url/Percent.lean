import Mathlib.Data.List.Basic
import PortableSql.Proofs.Text.Utf8
import PortableSql.Url.Percent

namespace PortableSql.Percent

variable {c : Char} {text : List Char} {chosen : Char → Bool}

theorem charBytes_eq (c : Char) : charBytes c = String.utf8EncodeChar c := by
  simp [charBytes, Bytes.ofText_eq]

/-- The characters of an encoded byte. -/
def escapeChars : List Char := "%0123456789ABCDEF".toList

theorem hexDigit_mem {n : Nat} (h : n < 16) : hexDigit n ∈ escapeChars := by
  revert n
  decide

theorem hexValue?_hexDigit {n : Nat} (h : n < 16) :
    Json.Parser.hexValue? (hexDigit n) = some n := by
  revert n
  decide

theorem mem_escapeChars_of_mem_encodeByte {b : UInt8} (h : c ∈ encodeByte b) :
    c ∈ escapeChars := by
  have hb := b.toNat_lt
  rw [encodeByte, List.mem_cons, List.mem_cons, List.mem_singleton] at h
  rcases h with rfl | rfl | rfl
  · decide
  · exact hexDigit_mem (by omega)
  · exact hexDigit_mem (by omega)

theorem decode_cons (h : c ≠ '%') (rest : List Char) :
    decode (c :: rest) = String.utf8EncodeChar c ++ decode rest := by
  rw [decode, charBytes_eq]
  exact fun a b more heq => absurd heq h

theorem decode_encodeByte (b : UInt8) (rest : List Char) :
    decode (encodeByte b ++ rest) = b :: decode rest := by
  have hb := b.toNat_lt
  have hbyte : UInt8.ofNat (16 * (b.toNat / 16) + b.toNat % 16) = b := by
    rw [Nat.div_add_mod, UInt8.ofNat_toNat]
  simp only [encodeByte, List.cons_append, List.nil_append, decode]
  rw [hexValue?_hexDigit (by omega), hexValue?_hexDigit (by omega)]
  simp only [hbyte]

theorem decode_flatMap_encodeByte (bytes : Bytes) (rest : List Char) :
    decode (bytes.flatMap encodeByte ++ rest) = bytes ++ decode rest := by
  induction bytes with
  | nil => rfl
  | cons b bytes ih =>
    rw [List.flatMap_cons, List.append_assoc, decode_encodeByte, ih, List.cons_append]

/-- A text without the chosen characters needs no encoding. -/
theorem encode_eq_self (h : ∀ c ∈ text, chosen c = false) : encode chosen text = text := by
  induction text with
  | nil => rfl
  | cons x text ih =>
    obtain ⟨hx, htext⟩ := List.forall_mem_cons.mp h
    rw [encode, List.flatMap_cons, hx, ← encode, ih htext]
    rfl

theorem mem_encode (h : c ∈ encode chosen text) :
    c ∈ text ∧ chosen c = false ∨ c ∈ escapeChars := by
  obtain ⟨x, hx, hc⟩ := List.mem_flatMap.mp h
  cases hchosen : chosen x with
  | true =>
    rw [hchosen, if_pos rfl] at hc
    obtain ⟨b, -, hb⟩ := List.mem_flatMap.mp hc
    exact .inr (mem_escapeChars_of_mem_encodeByte hb)
  | false =>
    rw [hchosen] at hc
    obtain rfl : c = x := List.mem_singleton.mp hc
    exact .inl ⟨hx, hchosen⟩

/-- What keeps the characters of encoded bytes leaves nothing to encode. -/
theorem forall_mem_encode (hescape : ∀ x ∈ escapeChars, chosen x = false) :
    ∀ c ∈ encode chosen text, chosen c = false := by
  intro c hc
  rcases mem_encode hc with ⟨-, h⟩ | h
  · exact h
  · exact hescape c h

theorem head?_encode (c : Char) (rest : List Char) :
    (encode chosen (c :: rest)).head? = some (if chosen c = true then '%' else c) := by
  rw [encode, List.flatMap_cons]
  split
  next =>
    obtain ⟨first, more, hbytes, -⟩ := Bytes.step_utf8EncodeChar c
    rw [charBytes_eq, hbytes]
    rfl
  next => rfl

/-- A text ends as it did before, or in an encoded byte. -/
theorem getLast?_encode (h : (encode chosen text).getLast? = some c) :
    c ∈ escapeChars ∨ text.getLast? = some c := by
  rcases List.eq_nil_or_concat' text with rfl | ⟨before, last, rfl⟩
  · cases h
  · rw [encode, List.flatMap_append, List.flatMap_singleton, List.getLast?_append] at h
    cases hchosen : chosen last with
    | true =>
      obtain ⟨first, more, hbytes, -⟩ := Bytes.step_utf8EncodeChar last
      rw [hchosen, if_pos rfl, charBytes_eq, hbytes] at h
      obtain ⟨x, hx⟩ : ∃ x, ((first :: more).flatMap encodeByte).getLast? = some x :=
        Option.isSome_iff_exists.mp (by simp [encodeByte])
      rw [hx, Option.some_or] at h
      obtain rfl := Option.some.inj h
      obtain ⟨b, -, hb⟩ := List.mem_flatMap.mp (List.mem_of_getLast? hx)
      exact .inl (mem_escapeChars_of_mem_encodeByte hb)
    | false =>
      rw [hchosen] at h
      refine .inr ?_
      rw [List.getLast?_append]
      exact h

/-- A graphic character of ASCII. -/
def IsGraphic (c : Char) : Prop := 0x20 < c.toNat ∧ c.toNat < 0x7F

theorem toNat_of_not_control (h : isControl c = false) : 0x20 ≤ c.toNat ∧ c.toNat < 0x7F := by
  simpa [isControl] using h

theorem isGraphic_of_not_control (h : isControl c = false) (hspace : c ≠ ' ') : IsGraphic c := by
  have hrange := toNat_of_not_control h
  have hne : c.toNat ≠ 0x20 := fun heq => hspace (Char.toNat_inj.mp heq)
  exact ⟨by omega, hrange.2⟩

theorem not_control_of_isGraphic (h : IsGraphic c) : isControl c = false := by
  obtain ⟨hlow, hhigh⟩ := h
  simp only [isControl, Bool.or_eq_false_iff, decide_eq_false_iff_not]
  omega

theorem isGraphic_of_not_inFragment (h : inFragment c = false) : IsGraphic c := by
  rw [inFragment, Bool.or_eq_false_iff] at h
  refine isGraphic_of_not_control h.1 ?_
  rintro rfl
  exact absurd h.2 (by decide)

theorem isGraphic_of_not_inPath (h : inPath c = false) : IsGraphic c :=
  isGraphic_of_not_inFragment (Bool.or_eq_false_iff.mp h).1

theorem isGraphic_of_not_inUserInfo (h : inUserInfo c = false) : IsGraphic c :=
  isGraphic_of_not_inPath (Bool.or_eq_false_iff.mp h).1

theorem isGraphic_of_not_inQuery (h : inQuery c = false) : IsGraphic c := by
  rw [inQuery, Bool.or_eq_false_iff] at h
  refine isGraphic_of_not_control h.1 ?_
  rintro rfl
  exact absurd h.2 (by decide)

end PortableSql.Percent

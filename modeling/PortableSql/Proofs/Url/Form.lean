import PortableSql.Proofs.Text.Chars
import PortableSql.Proofs.Url.Percent
import PortableSql.Url.Form

namespace PortableSql.Form

variable {c : Char}

theorem isPlain_escapeChars : ∀ c ∈ Percent.escapeChars, c = '%' ∨ isPlain c = true := by
  decide

/-- The characters of encoded texts. -/
theorem mem_encodeText {text : String} (h : c ∈ encodeText text) :
    isPlain c = true ∨ c = '+' ∨ c = '%' := by
  obtain ⟨x, -, hc⟩ := List.mem_flatMap.mp h
  unfold encodeChar at hc
  split at hc
  next hplain =>
    rw [List.mem_singleton.mp hc]
    exact .inl hplain
  next =>
    split at hc
    next => exact .inr (.inl (List.mem_singleton.mp hc))
    next =>
      obtain ⟨b, -, hb⟩ := List.mem_flatMap.mp hc
      rcases isPlain_escapeChars c (Percent.mem_escapeChars_of_mem_encodeByte hb) with h | h
      · exact .inr (.inr h)
      · exact .inl h

theorem not_mem_encodeText {mark : Char} (hplain : isPlain mark = false) (hplus : mark ≠ '+')
    (hpercent : mark ≠ '%') (text : String) : mark ∉ encodeText text := by
  intro hmem
  rcases mem_encodeText hmem with h | h | h
  · exact Bool.false_ne_true (hplain.symm.trans h)
  · exact hplus h
  · exact hpercent h

def plusToSpace (c : Char) : Char := if c = '+' then ' ' else c

theorem plusToSpace_of_ne (h : c ≠ '+') : plusToSpace c = c := if_neg h

theorem map_plusToSpace_encodeBytes (bytes : Bytes) :
    (bytes.flatMap Percent.encodeByte).map plusToSpace = bytes.flatMap Percent.encodeByte := by
  refine (List.map_congr_left fun c hc => plusToSpace_of_ne ?_).trans (List.map_id' _)
  obtain ⟨b, -, hb⟩ := List.mem_flatMap.mp hc
  rintro rfl
  exact absurd (Percent.mem_escapeChars_of_mem_encodeByte hb) (by decide)

/-- An encoded character is decoded to its bytes, whatever follows. -/
theorem decode_encodeChar (c : Char) (rest : List Char) :
    Percent.decode ((encodeChar c).map plusToSpace ++ rest) =
      String.utf8EncodeChar c ++ Percent.decode rest := by
  unfold encodeChar
  split
  next hplain =>
    have hne : c ≠ '+' ∧ c ≠ '%' := by
      constructor
      all_goals
        rintro rfl
        exact absurd hplain (by decide)
    rw [List.map_singleton, plusToSpace_of_ne hne.1, List.singleton_append,
      Percent.decode_cons hne.2]
  next =>
    split
    next hspace =>
      rw [hspace]
      exact Percent.decode_cons (by decide) rest
    next =>
      rw [map_plusToSpace_encodeBytes, Percent.decode_flatMap_encodeByte, Percent.charBytes_eq]

theorem decodeText_encodeText (text : String) : decodeText (encodeText text) = text := by
  have hbytes (chars : List Char) :
      Percent.decode ((chars.flatMap encodeChar).map plusToSpace) =
        chars.flatMap String.utf8EncodeChar := by
    induction chars with
    | nil => rfl
    | cons c chars ih =>
      rw [List.flatMap_cons, List.map_append, decode_encodeChar, ih, List.flatMap_cons]
  change String.ofList (Percent.decode ((encodeText text).map plusToSpace)).lossy = text
  rw [encodeText, hbytes, Bytes.lossy_flatMap, String.ofList_toList]

theorem decodePair_encodePair (pair : Pair) : decodePair (encodePair pair) = pair := by
  have hmark : '=' ∉ encodeText pair.1 :=
    not_mem_encodeText (by decide) (by decide) (by decide) pair.1
  rw [decodePair, encodePair, Chars.cutFirst_append hmark]
  simp only [decodeText_encodeText]

theorem ampersand_not_mem_encodePair (pair : Pair) : '&' ∉ encodePair pair := by
  have hmark : ∀ text, '&' ∉ encodeText text :=
    not_mem_encodeText (by decide) (by decide) (by decide)
  rw [encodePair, List.mem_append, List.mem_cons, not_or, not_or]
  exact ⟨hmark pair.1, by decide, hmark pair.2⟩

/-- Pairs are read back from their text, with their order and their repetitions. -/
theorem decode_encode (pairs : List Pair) : decode (encode pairs) = pairs := by
  cases hpairs : pairs with
  | nil => rfl
  | cons first others =>
    have hsplit : Chars.splitOn '&' (encode pairs) = pairs.map encodePair := by
      refine Chars.splitOn_intercalate (by simp [hpairs]) fun piece hpiece => ?_
      obtain ⟨pair, -, rfl⟩ := List.mem_map.mp hpiece
      exact ampersand_not_mem_encodePair pair
    have hnonempty : (pairs.map encodePair).filter (!·.isEmpty) = pairs.map encodePair := by
      refine List.filter_eq_self.mpr fun piece hpiece => ?_
      obtain ⟨pair, -, rfl⟩ := List.mem_map.mp hpiece
      simp [encodePair]
    rw [← hpairs, decode, hsplit, hnonempty, List.map_map]
    exact (List.map_congr_left fun pair _ => decodePair_encodePair pair).trans (List.map_id' _)

/-- The characters of a list of pairs. -/
theorem mem_encode {pairs : List Pair} (h : c ∈ encode pairs) :
    isPlain c = true ∨ c ∈ ['+', '%', '=', '&'] := by
  rcases Chars.mem_intercalate h with hsep | ⟨piece, hpiece, hc⟩
  · rw [List.mem_singleton.mp hsep]
    decide
  · obtain ⟨pair, -, rfl⟩ := List.mem_map.mp hpiece
    have htext {text : String} (hc : c ∈ encodeText text) :
        isPlain c = true ∨ c ∈ ['+', '%', '=', '&'] := by
      rcases mem_encodeText hc with h | rfl | rfl
      · exact .inl h
      · decide
      · decide
    rcases List.mem_append.mp hc with hname | hvalue
    · exact htext hname
    · rcases List.mem_cons.mp hvalue with rfl | hvalue
      · decide
      · exact htext hvalue

end PortableSql.Form

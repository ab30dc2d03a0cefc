import Mathlib.Algebra.Group.Nat.Defs
import Mathlib.Data.List.Basic
import PortableSql.Proofs.Text.Chars
import PortableSql.Url.Host

namespace PortableSql.Ipv6

variable {fuel n : Nat} {p : Progress} {pieces before after : List Nat} {digits rest : List Char}

/-- Eight numbers of sixteen bits. -/
structure WellFormed (address : Ipv6) : Prop where
  length : address.length = 8
  small : ∀ n ∈ address, n < 65536

theorem hexValue?_digitChar (h : n < 16) : Json.Parser.hexValue? n.digitChar = some n := by
  revert n
  decide

theorem toNat_of_hexValue? {c : Char} (h : Json.Parser.hexValue? c = some n) :
    48 ≤ c.toNat ∧ c.toNat ≤ 57 ∧ n = c.toNat - 48 ∨
      97 ≤ c.toNat ∧ c.toNat ≤ 102 ∧ n = c.toNat - 87 ∨
      65 ≤ c.toNat ∧ c.toNat ≤ 70 ∧ n = c.toNat - 55 := by
  unfold Json.Parser.hexValue? at h
  simp only [Char.le_def, UInt32.le_iff_toNat_le] at h
  split at h
  next hc => exact .inl ⟨hc.1, hc.2, (Option.some.inj h).symm⟩
  next =>
    split at h
    next hc => exact .inr (.inl ⟨hc.1, hc.2, (Option.some.inj h).symm⟩)
    next =>
      split at h
      next hc => exact .inr (.inr ⟨hc.1, hc.2, (Option.some.inj h).symm⟩)
      next => cases h

theorem toNat_of_isHex {c : Char} (h : isHex c = true) :
    48 ≤ c.toNat ∧ c.toNat ≤ 57 ∨ 97 ≤ c.toNat ∧ c.toNat ≤ 102 ∨
      65 ≤ c.toNat ∧ c.toNat ≤ 70 := by
  obtain ⟨n, hn⟩ := Option.isSome_iff_exists.mp h
  have := toNat_of_hexValue? hn
  omega

theorem isHex_of_mem_toDigits {c : Char} (h : c ∈ Nat.toDigits 16 n) : isHex c = true := by
  induction n using Nat.strongRecOn with
  | ind n ih =>
    by_cases hn : n < 16
    · rw [Nat.toDigits_of_lt_base hn, List.mem_singleton] at h
      rw [h, isHex, hexValue?_digitChar hn]
      rfl
    · rw [Nat.toDigits_of_base_le (by decide) (by omega), List.mem_append, List.mem_singleton] at h
      rcases h with h | h
      · exact ih (n / 16) (by omega) h
      · rw [h, isHex, hexValue?_digitChar (by omega)]
        rfl

theorem hexNumber_toDigits (n : Nat) : hexNumber (Nat.toDigits 16 n) = n := by
  induction n using Nat.strongRecOn with
  | ind n ih =>
    by_cases hn : n < 16
    · simp [Nat.toDigits_of_lt_base hn, hexNumber, hexValue?_digitChar hn]
    · rw [Nat.toDigits_of_base_le (by decide) (by omega), hexNumber, List.foldl_append,
        ← hexNumber, ih (n / 16) (by omega), List.foldl_cons, List.foldl_nil,
        hexValue?_digitChar (by omega), Option.getD_some]
      omega

/-- Four hexadecimal digits are sixteen bits. -/
theorem hexNumber_lt (digits : List Char) : hexNumber digits < 16 ^ digits.length := by
  have hdigit (c : Char) : (Json.Parser.hexValue? c).getD 0 < 16 := by
    cases hvalue : Json.Parser.hexValue? c with
    | none => decide
    | some n =>
      have := toNat_of_hexValue? hvalue
      rw [Option.getD_some]
      omega
  rw [← digits.reverse_reverse, List.length_reverse]
  induction digits.reverse with
  | nil => decide
  | cons c digits ih =>
    have hc := hdigit c
    rw [List.reverse_cons, hexNumber, List.foldl_append, ← hexNumber, List.foldl_cons,
      List.foldl_nil, List.length_cons, Nat.pow_succ]
    omega

/-- The digits of a piece are read up to the colon or the end behind them. -/
theorem takeWhile_digits (hn : n < 65536) (hrest : ∀ c ∈ rest.head?, isHex c = false) :
    ((Nat.toDigits 16 n ++ rest).take 4).takeWhile isHex = Nat.toDigits 16 n := by
  have hlength : (Nat.toDigits 16 n).length ≤ 4 :=
    (Nat.length_toDigits_le_iff (by decide) (by decide)).mpr hn
  have hempty : (rest.take (4 - (Nat.toDigits 16 n).length)).takeWhile isHex = [] := by
    cases rest with
    | nil => simp
    | cons c rest =>
      have hc := hrest c rfl
      cases 4 - (Nat.toDigits 16 n).length with
      | zero => rfl
      | succ k => simp [hc]
  rw [List.take_append, List.take_of_length_le hlength,
    List.takeWhile_append_of_pos fun c hc => isHex_of_mem_toDigits hc, hempty, List.append_nil]

theorem toDigits_eq_cons (n : Nat) : ∃ c more, Nat.toDigits 16 n = c :: more ∧ c ≠ ':' := by
  obtain ⟨c, more, h⟩ := List.exists_cons_of_ne_nil (Nat.toDigits_ne_nil (n := n) (b := 16))
  refine ⟨c, more, h, ?_⟩
  rintro rfl
  have hcolon : isHex ':' = true := isHex_of_mem_toDigits (n := n) (h ▸ List.mem_cons_self)
  exact absurd hcolon (by decide)

theorem pieces?_last (hn : n < 65536) (hroom : p.pieces.length < 8) :
    pieces? (fuel + 1) p (Nat.toDigits 16 n) = some { p with pieces := n :: p.pieces } := by
  have hend : ∀ c ∈ ([] : List Char).head?, isHex c = false := by simp
  have hdigits := takeWhile_digits hn hend
  have hnumber := hexNumber_toDigits n
  obtain ⟨c, more, hcons, hc⟩ := toDigits_eq_cons n
  rw [List.append_nil] at hdigits
  rw [hcons] at hdigits hnumber ⊢
  rw [pieces?.eq_4 _ _ _ (by simp) (by simpa using fun h => absurd h hc),
    if_neg (Nat.ne_of_lt hroom), hdigits]
  dsimp only
  rw [List.drop_length, hnumber]

theorem pieces?_colon (hn : n < 65536) (hroom : p.pieces.length < 8) (hrest : rest ≠ []) :
    pieces? (fuel + 1) p (Nat.toDigits 16 n ++ ':' :: rest) =
      pieces? fuel { p with pieces := n :: p.pieces } rest := by
  have hcolon : ∀ c ∈ (':' :: rest).head?, isHex c = false := by
    rintro c ⟨⟩
    decide
  have hdigits := takeWhile_digits hn hcolon
  have hnumber := hexNumber_toDigits n
  have hmore : ¬ rest.isEmpty = true := fun h => hrest (List.isEmpty_iff.mp h)
  obtain ⟨c, more, hcons, hc⟩ := toDigits_eq_cons n
  rw [hcons] at hdigits hnumber ⊢
  rw [List.cons_append] at hdigits ⊢
  rw [pieces?.eq_4 _ _ _ (by simp) (by simpa using fun h => absurd h hc),
    if_neg (Nat.ne_of_lt hroom), hdigits]
  dsimp only
  rw [← List.cons_append, List.drop_left, hnumber]
  exact if_neg hmore

theorem pieces?_gap (hgap : p.gap = none) (hroom : p.pieces.length < 8) (rest : List Char) :
    pieces? (fuel + 1) p (':' :: rest) =
      pieces? fuel { p with gap := some p.pieces.length } rest := by
  rw [pieces?, hgap]
  exact if_neg (by simpa using Nat.ne_of_lt hroom)

theorem joined_cons_cons (first second : Nat) (others : List Nat) :
    joined (first :: second :: others) =
      Nat.toDigits 16 first ++ ':' :: joined (second :: others) := by
  rw [joined, List.map_cons, List.map_cons, List.intercalate_cons_cons, List.append_assoc,
    List.singleton_append]
  rfl

theorem joined_ne_nil (first : Nat) (others : List Nat) : joined (first :: others) ≠ [] := by
  cases others with
  | nil => simp [joined, Nat.toDigits_ne_nil]
  | cons second others => simp [joined_cons_cons]

/-- Pieces that there is room for are read up to the end of the text. -/
theorem pieces?_joined (hsmall : ∀ n ∈ pieces, n < 65536)
    (hroom : p.pieces.length + pieces.length ≤ 8) (hfuel : pieces.length < fuel) :
    pieces? fuel p (joined pieces) = some { p with pieces := pieces.reverse ++ p.pieces } := by
  induction pieces generalizing p fuel with
  | nil =>
    obtain ⟨fuel, rfl⟩ := Nat.exists_eq_add_one_of_ne_zero (Nat.ne_of_gt hfuel)
    rfl
  | cons first others ih =>
    obtain ⟨hfirst, hothers⟩ := List.forall_mem_cons.mp hsmall
    rw [List.length_cons] at hroom hfuel
    obtain ⟨fuel, rfl⟩ := Nat.exists_eq_add_one_of_ne_zero (Nat.ne_zero_of_lt hfuel)
    have hnext : p.pieces.length < 8 := by omega
    cases others with
    | nil =>
      rw [joined, List.map_singleton, List.intercalate_singleton, pieces?_last hfirst hnext]
      rfl
    | cons second others =>
      rw [joined_cons_cons, pieces?_colon hfirst hnext (joined_ne_nil _ _),
        ih hothers (by simp only [List.length_cons] at hroom ⊢; omega)
          (by omega)]
      simp

/-- A double colon ends the pieces in front of it. -/
theorem pieces?_joined_colon (hne : before ≠ []) (hsmall : ∀ n ∈ before, n < 65536)
    (hroom : p.pieces.length + before.length ≤ 8) (hrest : rest ≠ []) :
    pieces? (before.length + fuel) p (joined before ++ ':' :: rest) =
      pieces? fuel { p with pieces := before.reverse ++ p.pieces } rest := by
  induction before generalizing p with
  | nil => exact absurd rfl hne
  | cons first others ih =>
    obtain ⟨hfirst, hothers⟩ := List.forall_mem_cons.mp hsmall
    rw [List.length_cons] at hroom
    have hnext : p.pieces.length < 8 := by omega
    have hstep : (first :: others).length + fuel = others.length + fuel + 1 := by
      rw [List.length_cons]
      omega
    rw [hstep]
    cases others with
    | nil =>
      rw [joined, List.map_singleton, List.intercalate_singleton, pieces?_colon hfirst hnext hrest]
      simp
    | cons second others =>
      rw [joined_cons_cons, List.append_assoc, List.cons_append,
        pieces?_colon hfirst hnext (by simp), ih (List.cons_ne_nil _ _) hothers
          (by simp only [List.length_cons] at hroom ⊢; omega)]
      simp

/-- A run of zeros is as long as it is said to be. -/
theorem take_of_le_zeroRun {address : Ipv6} (h : n ≤ zeroRun address) :
    address.take n = List.replicate n 0 := by
  induction address generalizing n with
  | nil =>
    obtain rfl : n = 0 := Nat.le_zero.mp h
    rfl
  | cons first others ih =>
    cases n with
    | zero => rfl
    | succ n =>
      by_cases hfirst : first = 0
      · rw [hfirst, zeroRun, List.takeWhile_cons_of_pos rfl, List.length_cons] at h
        rw [hfirst, List.take_succ_cons, ih (Nat.le_of_succ_le_succ h), List.replicate_succ]
      · rw [zeroRun, List.takeWhile_cons_of_neg (by simpa using hfirst)] at h
        exact absurd h (Nat.not_succ_le_zero n)

theorem longestZeroRun_le (address : Ipv6) :
    (longestZeroRun address).2 ≤ zeroRun (address.drop (longestZeroRun address).1) := by
  refine List.foldlRecOn
    (motive := fun (best : Nat × Nat) => best.2 ≤ zeroRun (address.drop best.1)) _ _
    (Nat.zero_le _) fun best hbest i _ => ?_
  dsimp only
  split
  · exact Nat.le_refl _
  · exact hbest

/-- What a double colon is read as between the pieces around it. -/
theorem complete?_gap {length : Nat} (h : before.length + length + after.length = 8)
    (hlength : 0 < length) :
    complete? { pieces := after.reverse ++ before.reverse, gap := some before.length } =
      some (before ++ List.replicate length 0 ++ after) := by
  have hcount : 8 - (before ++ after).length = length := by
    rw [List.length_append]
    omega
  rw [complete?]
  dsimp only
  rw [List.reverse_append, List.reverse_reverse, List.reverse_reverse,
    if_pos (by rw [List.length_append]; omega), hcount, List.take_left, List.drop_left]

theorem read?_cons_cons {c : Char} (hc : c ≠ ':') (d : Char) (rest : List Char) :
    read? (c :: d :: rest) =
      (pieces? ((c :: d :: rest).length + 1) {} (c :: d :: rest)).bind complete? := by
  simp [read?, hc]

/-- A text that begins with a piece is read from that piece on. -/
theorem read?_digits_append (n : Nat) (d : Char) (rest : List Char) :
    read? (Nat.toDigits 16 n ++ d :: rest) =
      (pieces? ((Nat.toDigits 16 n ++ d :: rest).length + 1) {}
        (Nat.toDigits 16 n ++ d :: rest)).bind complete? := by
  obtain ⟨c, more, hcons, hc⟩ := toDigits_eq_cons n
  rw [hcons]
  cases more with
  | nil => exact read?_cons_cons hc d rest
  | cons x more => exact read?_cons_cons hc x _

theorem length_le_joined (pieces : List Nat) : pieces.length ≤ (joined pieces).length := by
  have hdigits (n : Nat) : 1 ≤ (Nat.toDigits 16 n).length :=
    List.length_pos_iff.mpr Nat.toDigits_ne_nil
  induction pieces with
  | nil => exact Nat.zero_le _
  | cons first others ih =>
    cases others with
    | nil => simpa [joined] using hdigits first
    | cons second others =>
      have hfirst := hdigits first
      simp only [joined_cons_cons, List.length_cons, List.length_append] at ih ⊢
      omega

theorem read?_joined (h : WellFormed pieces) : read? (joined pieces) = some pieces := by
  match pieces, h with
  | first :: second :: others, h =>
    have hlength := length_le_joined (first :: second :: others)
    rw [joined_cons_cons, read?_digits_append, ← joined_cons_cons,
      pieces?_joined h.small (by simpa using Nat.le_of_eq h.length) (Nat.lt_succ_of_le hlength)]
    simp [complete?, h.length]

/-- An address is read back from the pieces around its double colon. -/
theorem read?_gap {length : Nat} (hsmall : ∀ n ∈ before ++ after, n < 65536)
    (h : before.length + length + after.length = 8) (hlength : 2 ≤ length) :
    read? (joined before ++ ':' :: ':' :: joined after) =
      some (before ++ List.replicate length 0 ++ after) := by
  obtain ⟨hbefore, hafter⟩ := List.forall_mem_append.mp hsmall
  have hfuel := length_le_joined after
  cases before with
  | nil =>
    have hcomplete := complete?_gap h (by omega)
    rw [List.length_nil] at h
    change (pieces? _ { gap := some 0 } (joined after)).bind complete? = _
    rw [pieces?_joined hafter (by simp only [List.length_nil]; omega)
      (by simp only [List.length_append, List.length_cons]; omega)]
    exact hcomplete
  | cons first others =>
    obtain ⟨c, rest, htext⟩ : ∃ c rest, joined (first :: others) ++ ':' :: ':' :: joined after =
        Nat.toDigits 16 first ++ c :: rest := by
      cases others with
      | nil => exact ⟨':', ':' :: joined after, by simp [joined]⟩
      | cons second others =>
        exact ⟨':', _, by rw [joined_cons_cons, List.append_assoc, List.cons_append]⟩
    have hlonger := length_le_joined (first :: others)
    obtain ⟨fuel, hlength⟩ := Nat.exists_eq_add_of_le
      (show (first :: others).length + after.length + 2 ≤
          (joined (first :: others) ++ ':' :: ':' :: joined after).length + 1 by
        simp only [List.length_append, List.length_cons] at hlonger ⊢
        omega)
    rw [htext, read?_digits_append, ← htext, hlength]
    have hsplit : (first :: others).length + after.length + 2 + fuel =
        (first :: others).length + (after.length + 1 + fuel + 1) := by omega
    rw [hsplit, pieces?_joined_colon (List.cons_ne_nil _ _) hbefore
        (by simp only [List.length_nil]; omega) (List.cons_ne_nil _ _),
      pieces?_gap rfl (by simp only [List.append_nil, List.length_reverse]; omega),
      pieces?_joined hafter
        (by simp only [List.append_nil, List.length_reverse]; omega) (by omega)]
    rw [List.append_nil, List.length_reverse]
    exact complete?_gap h (by omega)

/-- The characters of the text of an address. -/
theorem mem_text {address : Ipv6} {c : Char} (h : c ∈ text address) : isHex c = true ∨ c = ':' := by
  have hjoined {pieces : List Nat} (h : c ∈ joined pieces) : isHex c = true ∨ c = ':' := by
    rcases Chars.mem_intercalate h with hc | ⟨piece, hpiece, hc⟩
    · exact .inr (List.mem_singleton.mp hc)
    · obtain ⟨n, -, rfl⟩ := List.mem_map.mp hpiece
      exact .inl (isHex_of_mem_toDigits hc)
  rw [text] at h
  dsimp only at h
  split at h
  next => exact hjoined h
  next =>
    rcases List.mem_append.mp h with h | h
    · rcases List.mem_append.mp h with h | h
      · exact hjoined h
      · exact .inr (by simpa using h)
    · exact hjoined h

/-- An address is read back from its text, wherever the double colon stands. -/
theorem read?_text {address : Ipv6} (h : WellFormed address) :
    read? (text address) = some address := by
  have hzeros := take_of_le_zeroRun (longestZeroRun_le address)
  obtain ⟨⟨start, length⟩, hrun⟩ : ∃ run, longestZeroRun address = run := ⟨_, rfl⟩
  rw [hrun] at hzeros
  rw [text, hrun]
  dsimp only at hzeros ⊢
  have hparts : address.take start ++ List.replicate length 0 ++ address.drop (start + length) =
      address := by
    rw [← hzeros, List.append_assoc, ← List.drop_drop, List.take_append_drop,
      List.take_append_drop]
  split
  next => exact read?_joined h
  next hlength =>
    rw [List.append_assoc, List.cons_append, List.singleton_append,
      read?_gap _ _ (Nat.le_of_not_lt hlength), hparts]
    · intro n hn
      rcases List.mem_append.mp hn with hn | hn
      · exact h.small n (List.mem_of_mem_take hn)
      · exact h.small n (List.mem_of_mem_drop hn)
    · rw [← h.length, ← congrArg List.length hparts]
      simp
      omega

theorem dottedNumber?_le {text : List Char} (h : dottedNumber? text = some n) : n ≤ 255 := by
  unfold dottedNumber? at h
  split at h
  next => cases h
  next => simpa using (Option.filter_eq_some_iff.mp h).2

theorem exists_of_mem_mapM {A B : Type} {f : A → Option B} {items : List A} {found : List B} {b : B}
    (h : items.mapM f = some found) (hb : b ∈ found) : ∃ a ∈ items, f a = some b := by
  induction items generalizing found with
  | nil =>
    cases h
    cases hb
  | cons a items ih =>
    rw [List.mapM_cons, Option.bind_eq_bind, Option.bind_eq_some_iff] at h
    obtain ⟨first, hfirst, h⟩ := h
    rw [Option.bind_eq_bind, Option.bind_eq_some_iff] at h
    obtain ⟨others, hothers, h⟩ := h
    cases h
    rcases List.mem_cons.mp hb with rfl | hb
    · exact ⟨a, List.mem_cons_self, hfirst⟩
    · obtain ⟨x, hx, hfound⟩ := ih hothers hb
      exact ⟨x, List.mem_cons_of_mem _ hx, hfound⟩

theorem dotted?_lt {text : List Char} {a b : Nat} (h : dotted? text = some (a, b)) :
    a < 65536 ∧ b < 65536 := by
  unfold dotted? at h
  split at h
  next w x y z hnumbers =>
    have hle : ∀ n ∈ [w, x, y, z], n ≤ 255 := by
      intro n hn
      obtain ⟨piece, -, hpiece⟩ := exists_of_mem_mapM hnumbers hn
      exact dottedNumber?_le hpiece
    obtain ⟨rfl, rfl⟩ := Prod.mk.inj (Option.some.inj h)
    simp only [List.forall_mem_cons] at hle
    omega
  next => cases h

theorem hexNumber_take_lt (text : List Char) :
    hexNumber ((text.take 4).takeWhile isHex) < 65536 := by
  have hlength : ((text.take 4).takeWhile isHex).length ≤ 4 :=
    Nat.le_trans (List.takeWhile_sublist isHex).length_le (List.length_take_le 4 text)
  calc hexNumber ((text.take 4).takeWhile isHex)
      < 16 ^ ((text.take 4).takeWhile isHex).length := hexNumber_lt _
    _ ≤ 16 ^ 4 := Nat.pow_le_pow_right (by decide) hlength

/-- Whatever is read is of sixteen bits. -/
theorem pieces?_small {text : List Char} {q : Progress} (h : pieces? fuel p text = some q)
    (hp : ∀ n ∈ p.pieces, n < 65536) : ∀ n ∈ q.pieces, n < 65536 := by
  fun_induction pieces? fuel p text with
  | case1 | case3 | case5 | case7 | case9 | case11 => cases h
  | case2 =>
    cases h
    exact hp
  | case4 _ _ _ _ ih => exact ih h hp
  | case6 =>
    cases h
    exact List.forall_mem_cons.mpr ⟨hexNumber_take_lt _, hp⟩
  | case8 =>
    obtain ⟨⟨a, b⟩, hdotted, rfl⟩ := Option.map_eq_some_iff.mp h
    obtain ⟨ha, hb⟩ := dotted?_lt hdotted
    exact List.forall_mem_cons.mpr ⟨hb, List.forall_mem_cons.mpr ⟨ha, hp⟩⟩
  | case10 _ _ _ _ _ _ _ _ _ _ ih =>
    exact ih h (List.forall_mem_cons.mpr ⟨hexNumber_take_lt _, hp⟩)

theorem wellFormed_of_complete? {address : Ipv6} (hp : ∀ n ∈ p.pieces, n < 65536)
    (h : complete? p = some address) : WellFormed address := by
  have hreverse : ∀ n ∈ p.pieces.reverse, n < 65536 := fun n hn => hp n (List.mem_reverse.mp hn)
  unfold complete? at h
  dsimp only at h
  split at h
  next =>
    split at h
    next hlength =>
      cases h
      exact ⟨hlength, hreverse⟩
    next => cases h
  next k _ =>
    split at h
    next hlength =>
      cases h
      rw [List.length_reverse] at hlength
      refine ⟨by simp; omega, fun n hn => ?_⟩
      rcases List.mem_append.mp hn with hn | hn
      · rcases List.mem_append.mp hn with hn | hn
        · exact hreverse n (List.mem_of_mem_take hn)
        · rw [List.eq_of_mem_replicate hn]
          decide
      · exact hreverse n (List.mem_of_mem_drop hn)
    next => cases h

theorem wellFormed_of_read? {text : List Char} {address : Ipv6} (h : read? text = some address) :
    WellFormed address := by
  obtain ⟨⟨start, rest⟩, hstart, h⟩ := Option.bind_eq_some_iff.mp h
  obtain ⟨q, hpieces, hcomplete⟩ := Option.bind_eq_some_iff.mp h
  refine wellFormed_of_complete? (pieces?_small hpieces fun n hn => ?_) hcomplete
  have hempty : start.pieces = [] := by
    split at hstart
    all_goals
      cases hstart
      try rfl
  rw [hempty] at hn
  exact absurd hn List.not_mem_nil

end PortableSql.Ipv6

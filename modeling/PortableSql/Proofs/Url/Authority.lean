import Mathlib.Data.List.Basic
import PortableSql.Proofs.Number.Numeral
import PortableSql.Proofs.Text.Scanner
import PortableSql.Proofs.Url.Ipv6
import PortableSql.Proofs.Url.Percent
import PortableSql.Url.Basic

namespace PortableSql

open Percent

namespace Host

/-- The hosts of a scheme that gives hosts no meaning. -/
inductive WellFormed : Host → Prop
  | name {text : List Char} (h : ∀ c ∈ text, c ∉ opaqueForbidden ∧ isControl c = false) :
    WellFormed (.name text)
  | address {pieces : Ipv6} (h : pieces.WellFormed) : WellFormed (.address pieces)

/-- The characters that end a host or stand in front of it. -/
def marks : List Char := ['/', '?', '#', '@']

theorem not_mem_marks_of_isHex {c : Char} (h : Ipv6.isHex c = true) : IsGraphic c ∧ c ∉ marks := by
  have hrange := Ipv6.toNat_of_isHex h
  refine ⟨⟨by omega, by omega⟩, fun hmark => ?_⟩
  have hnone : ∀ x ∈ marks, Ipv6.isHex x = false := by decide
  rw [hnone c hmark] at h
  cases h

theorem WellFormed.mem_text {host : Host} (h : host.WellFormed) {c : Char} (hc : c ∈ host.text) :
    IsGraphic c ∧ c ∉ marks := by
  have hbrackets : ∀ c ∈ [':', '[', ']'], IsGraphic c ∧ c ∉ marks := by
    simp only [IsGraphic]
    decide
  cases h with
  | name h =>
    obtain ⟨hforbidden, hcontrol⟩ := h c hc
    have hmarks : ∀ x ∈ marks, x ∈ opaqueForbidden := by decide
    refine ⟨isGraphic_of_not_control hcontrol ?_, fun hmark => hforbidden (hmarks c hmark)⟩
    rintro rfl
    exact hforbidden (by decide)
  | address h =>
    rcases List.mem_cons.mp hc with rfl | hc
    · exact hbrackets '[' (by decide)
    · rcases List.mem_append.mp hc with hc | hc
      · rcases Ipv6.mem_text hc with hhex | rfl
        · exact not_mem_marks_of_isHex hhex
        · exact hbrackets ':' (by decide)
      · rw [List.mem_singleton.mp hc]
        exact hbrackets ']' (by decide)

theorem wellFormed_of_bracketed {inner : List Char} {host : Host}
    (h : bracketed inner = .ok host) : host.WellFormed := by
  unfold bracketed at h
  split at h
  next => cases h
  next =>
    split at h
    next pieces hpieces =>
      cases h
      exact .address (Ipv6.wellFormed_of_read? hpieces)
    next => cases h

theorem wellFormed_of_readOpaque {text : List Char} {host : Host}
    (h : readOpaque text = .ok host) : host.WellFormed := by
  unfold readOpaque at h
  split at h
  next => exact wellFormed_of_bracketed h
  next =>
    split at h
    next => cases h
    next hnone =>
      cases h
      refine .name fun c hc => ?_
      rcases mem_encode hc with ⟨hmem, hcontrol⟩ | hescape
      · refine ⟨fun hforbidden => hnone (List.any_eq_true.mpr ⟨c, hmem, ?_⟩), hcontrol⟩
        exact List.contains_iff_mem.mpr hforbidden
      · have hescapes : ∀ x ∈ escapeChars, x ∉ opaqueForbidden ∧ isControl x = false := by decide
        exact hescapes c hescape

theorem readOpaque_text {host : Host} (h : host.WellFormed) : readOpaque host.text = .ok host := by
  cases h with
  | @name text h =>
    have hnone : text.any opaqueForbidden.contains = false :=
      List.any_eq_false.mpr fun c hc => by simpa using (h c hc).1
    have hbracket : ∀ inner, text = '[' :: inner → False := by
      rintro inner rfl
      exact (h '[' List.mem_cons_self).1 (by decide)
    rw [Host.text, readOpaque.eq_2 _ hbracket, hnone, encode_eq_self fun c hc => (h c hc).2]
    rfl
  | @address pieces h =>
    change bracketed (pieces.text ++ [']']) = _
    rw [bracketed, Chars.stripEnd?_append]
    dsimp only
    rw [Ipv6.read?_text h]

end Host

namespace Authority

/-- What stands in front of the path of a URL whose scheme gives hosts no meaning. -/
structure WellFormed (a : Authority) : Prop where
  username : ∀ c ∈ a.username, inUserInfo c = false
  password : ∀ c ∈ a.password, inUserInfo c = false
  host : a.host.WellFormed
  port : ∀ n ∈ a.port, n ≤ 65535
  /-- Nothing stands around a host that is not there. -/
  bare : a.host.isEmpty = true → a.username = [] ∧ a.password = [] ∧ a.port = none

def userText (a : Authority) : List Char :=
  if a.username.isEmpty && a.password.isEmpty then []
  else a.username ++ (if a.password.isEmpty then [] else ':' :: a.password) ++ ['@']

def portText (a : Authority) : List Char := (a.port.map fun n => ':' :: Nat.toDigits 10 n).getD []

theorem text_eq (a : Authority) :
    Url.Authority.text a = a.userText ++ (a.host.text ++ a.portText) := by
  unfold Url.Authority.text userText portText
  cases a.port <;> simp

theorem mem_userText {a : Authority} {c : Char} (h : c ∈ a.userText) :
    c ∈ a.username ∨ c ∈ a.password ∨ c ∈ ['@', ':'] := by
  unfold userText at h
  split at h
  next => cases h
  next =>
    rw [List.mem_append, List.mem_append, List.mem_singleton] at h
    rcases h with (hname | hword) | rfl
    · exact .inl hname
    · split at hword
      · cases hword
      · rcases List.mem_cons.mp hword with rfl | hword
        · exact .inr (.inr (by decide))
        · exact .inr (.inl hword)
    · exact .inr (.inr (by decide))

theorem mem_portText {a : Authority} {c : Char} (h : c ∈ a.portText) :
    c.isDigit = true ∨ c = ':' := by
  unfold portText at h
  cases hport : a.port with
  | none => simp [hport] at h
  | some n =>
    rw [hport, Option.map_some, Option.getD_some, List.mem_cons] at h
    exact h.symm.imp Numeral.isDigit_of_mem_digits id

end Authority

namespace Url

/-- What a scheme that gives hosts no meaning reads as an authority. -/
def readParts (inside after : List Char) : Except UrlFault (PortableSql.Authority × List Char) :=
  match cutUserInfo inside after with
  | .error fault => .error fault
  | .ok (user, rest) =>
    match Host.readOpaque (cutHost false rest).1 with
    | .error fault => .error fault
    | .ok host =>
      if host.isEmpty && (cutHost false rest).2.isSome then .error .emptyHost
      else
        match (cutHost false rest).2.elim (.ok (none, [])) readPort with
        | .error fault => .error fault
        | .ok (port, rest) =>
          if host.isEmpty && !(user.username.isEmpty && user.password.isEmpty) then
            .error .emptyHost
          else .ok (⟨user.username, user.password, host, port⟩, rest ++ after)

theorem readAuthority_other (text : List Char) :
    readAuthority .other text = readParts (text.takeWhile (!endsAuthority .other ·))
      (text.dropWhile (!endsAuthority .other ·)) := by
  cases hcut : cutUserInfo (text.takeWhile (!endsAuthority .other ·))
      (text.dropWhile (!endsAuthority .other ·)) with
  | error fault => simp [readAuthority, readParts, hcut, bind, Except.bind]
  | ok found =>
    obtain ⟨user, rest⟩ := found
    cases hopaque : Host.readOpaque (cutHost false rest).1 with
    | error fault => simp [readAuthority, readParts, hcut, hopaque, bind, Except.bind]
    | ok host =>
      cases hport : (cutHost false rest).2 with
      | none =>
        simp [readAuthority, readParts, hcut, hopaque, hport, bind, Except.bind, pure, Except.pure,
          throw, throwThe, MonadExceptOf.throw]
      | some digits =>
        cases hread : readPort digits <;>
          simp [readAuthority, readParts, hcut, hopaque, hport, hread, bind, Except.bind, pure,
            Except.pure, throw, throwThe, MonadExceptOf.throw]

variable {text rest after : List Char} {a : PortableSql.Authority}

theorem cutHost_append {inBrackets : Bool}
    (h : ∀ c ∈ text, c ≠ '[' ∧ c ≠ ']' ∧ (c = ':' → inBrackets = true)) (rest : List Char) :
    cutHost inBrackets (text ++ rest) =
      (text ++ (cutHost inBrackets rest).1, (cutHost inBrackets rest).2) := by
  induction text with
  | nil => rfl
  | cons c text ih =>
    obtain ⟨⟨hopen, hclose, hcolon⟩, htext⟩ := List.forall_mem_cons.mp h
    have hinside : ¬ (c = ':' ∧ (!inBrackets) = true) := by
      rintro ⟨hc, hnot⟩
      rw [hcolon hc] at hnot
      cases hnot
    rw [List.cons_append, cutHost, if_neg hinside, if_neg hopen, if_neg hclose, ih htext]
    rfl

/-- The colon of a port is behind the host, and none in an address is. -/
theorem cutHost_text {host : Host} (h : host.WellFormed) (rest : List Char) :
    cutHost false (host.text ++ rest) =
      (host.text ++ (cutHost false rest).1, (cutHost false rest).2) := by
  cases h with
  | name h =>
    refine cutHost_append (fun c hc => ?_) rest
    have hforbidden := (h c hc).1
    refine ⟨?_, ?_, ?_⟩
    all_goals
      rintro rfl
      exact absurd (by decide) hforbidden
  | @address pieces h =>
    have hpieces : ∀ c ∈ pieces.text, c ≠ '[' ∧ c ≠ ']' ∧ (c = ':' → true = true) := by
      intro c hc
      refine ⟨?_, ?_, fun _ => rfl⟩
      all_goals
        rintro rfl
        exact absurd (Ipv6.mem_text hc) (by decide)
    have hopen : cutHost false ('[' :: (pieces.text ++ ']' :: rest)) =
        ('[' :: (cutHost true (pieces.text ++ ']' :: rest)).1,
          (cutHost true (pieces.text ++ ']' :: rest)).2) := rfl
    have hclose : cutHost true (']' :: rest) =
        (']' :: (cutHost false rest).1, (cutHost false rest).2) := rfl
    have htext : (Host.address pieces).text ++ rest = '[' :: (pieces.text ++ ']' :: rest) := by
      simp [Host.text]
    rw [htext, hopen, cutHost_append hpieces, hclose]
    simp [Host.text]

theorem readPort_digits {n : Nat} (h : n ≤ 65535) :
    readPort (Nat.toDigits 10 n) = .ok (some n, []) := by
  have hdigits : ∀ c ∈ Nat.toDigits 10 n, c.isDigit = true := fun c hc =>
    Numeral.isDigit_of_mem_digits hc
  have hend : ∀ c ∈ ([] : List Char).head?, c.isDigit = false := by simp
  obtain ⟨htake, hdrop⟩ := Scanner.takeWhile_dropWhile_append hdigits hend
  rw [List.append_nil] at htake hdrop
  have hvalue : Numeral.digitsValue (Nat.toDigits 10 n) = n := Nat.ofDigitChars_ten_toDigits
  have hempty : (Nat.toDigits 10 n).isEmpty = false :=
    List.isEmpty_eq_false_iff.mpr Nat.toDigits_ne_nil
  rw [readPort, htake, hdrop, hvalue]
  dsimp only
  rw [if_neg (by omega), hempty]
  rfl

theorem readPort_le {port : Option Nat} (h : readPort text = .ok (port, rest)) :
    ∀ n ∈ port, n ≤ 65535 := by
  unfold readPort at h
  dsimp only at h
  split at h
  next => cases h
  next hle =>
    have hport : port = none ∨ port = some (Numeral.digitsValue (text.takeWhile Char.isDigit)) := by
      split at h
      · cases h
        split <;> simp
      · cases h
        split <;> simp
      · cases h
    rintro n hn
    rcases hport with rfl | rfl
    · cases hn
    · cases hn
      omega

theorem cutUserInfo_append {user : List Char} (hne : user ≠ []) (h : '@' ∉ rest)
    (after : List Char) :
    cutUserInfo (user ++ '@' :: rest) after = .ok (readUserInfo user, rest) := by
  obtain ⟨c, user, rfl⟩ := List.exists_cons_of_ne_nil hne
  rw [cutUserInfo, Chars.cutLast_append _ h]

/-- A password is read back from behind the first colon, which no name has. -/
theorem readUserInfo_colon {username password : List Char}
    (hname : ∀ c ∈ username, inUserInfo c = false) (hword : ∀ c ∈ password, inUserInfo c = false) :
    readUserInfo (username ++ ':' :: password) = ⟨username, password⟩ := by
  have hcolon : ':' ∉ username := fun hmem => absurd (hname _ hmem) (by decide)
  rw [readUserInfo, Chars.cutFirst_append hcolon]
  dsimp only
  rw [encode_eq_self hname, encode_eq_self hword]

theorem readUserInfo_name {username : List Char} (h : ∀ c ∈ username, inUserInfo c = false) :
    readUserInfo username = ⟨username, []⟩ := by
  have hcolon : ':' ∉ username := fun hmem => absurd (h _ hmem) (by decide)
  rw [readUserInfo, Chars.cutFirst_eq_none hcolon]
  dsimp only
  rw [encode_eq_self h]

/-- The text of a user, if there is one, and what it is read as. -/
theorem userText_cases (h : a.WellFormed) :
    a.userText = [] ∧ a.username = [] ∧ a.password = [] ∨
      ∃ user, user ≠ [] ∧ a.userText = user ++ ['@'] ∧
        readUserInfo user = ⟨a.username, a.password⟩ := by
  unfold PortableSql.Authority.userText
  by_cases hword : a.password = []
  · by_cases hname : a.username = []
    · exact .inl ⟨by simp [hname, hword], hname, hword⟩
    · refine .inr ⟨a.username, hname, by simp [hname, hword], ?_⟩
      rw [readUserInfo_name h.username, hword]
  · exact .inr ⟨a.username ++ ':' :: a.password, by simp, by simp [hword],
      readUserInfo_colon h.username h.password⟩

theorem cutUserInfo_text (h : a.WellFormed) (after : List Char) :
    cutUserInfo (Authority.text a) after =
      .ok (⟨a.username, a.password⟩, a.host.text ++ a.portText) := by
  have hserver : '@' ∉ a.host.text ++ a.portText := by
    rw [List.mem_append, not_or]
    refine ⟨fun hmem => (h.host.mem_text hmem).2 (by decide), fun hmem => ?_⟩
    exact absurd (PortableSql.Authority.mem_portText hmem) (by decide)
  rw [PortableSql.Authority.text_eq]
  rcases userText_cases h with ⟨htext, hname, hword⟩ | ⟨user, hne, htext, hread⟩
  · rw [htext, List.nil_append, cutUserInfo, Chars.cutLast_eq_none hserver, hname, hword]
  · rw [htext, List.append_assoc, List.singleton_append, cutUserInfo_append hne hserver, hread]

/-- The characters of an authority, none of which ends it. -/
theorem mem_authorityText (h : a.WellFormed) {c : Char} (hc : c ∈ Authority.text a) :
    IsGraphic c ∧ c ∉ ['/', '?', '#'] := by
  have hencoded (x : Char) (hx : inUserInfo x = false) : IsGraphic x ∧ x ∉ ['/', '?', '#'] := by
    refine ⟨isGraphic_of_not_inUserInfo hx, fun hmark => ?_⟩
    have hmarks : ∀ m ∈ ['/', '?', '#'], inUserInfo m = true := by decide
    rw [hmarks x hmark] at hx
    cases hx
  have hdigit (x : Char) (hx : x.isDigit = true) : IsGraphic x ∧ x ∉ ['/', '?', '#'] := by
    have hrange := Numeral.toNat_of_isDigit hx
    refine ⟨⟨by omega, by omega⟩, fun hmark => ?_⟩
    have hmarks : ∀ m ∈ ['/', '?', '#'], m.isDigit = false := by decide
    rw [hmarks x hmark] at hx
    cases hx
  have hbetween : ∀ x ∈ ['@', ':'], IsGraphic x ∧ x ∉ ['/', '?', '#'] := by
    simp only [IsGraphic]
    decide
  rw [PortableSql.Authority.text_eq, List.mem_append, List.mem_append] at hc
  rcases hc with huser | hhost | hport
  · rcases PortableSql.Authority.mem_userText huser with hname | hword | hmark
    · exact hencoded c (h.username c hname)
    · exact hencoded c (h.password c hword)
    · exact hbetween c hmark
  · have hgraphic := h.host.mem_text hhost
    exact ⟨hgraphic.1, fun hmark => hgraphic.2 (List.mem_append_left ['@'] hmark)⟩
  · rcases PortableSql.Authority.mem_portText hport with hdigits | rfl
    · exact hdigit c hdigits
    · exact hbetween ':' (by decide)

theorem cutHost_portText (a : PortableSql.Authority) :
    cutHost false a.portText = ([], a.port.map (Nat.toDigits 10)) := by
  unfold PortableSql.Authority.portText
  cases a.port <;> rfl

theorem readPort_port (h : a.WellFormed) :
    (a.port.map (Nat.toDigits 10)).elim (.ok (none, [])) readPort = .ok (a.port, []) := by
  cases hport : a.port with
  | none => rfl
  | some n => exact readPort_digits (h.port n hport)

/-- An authority is read back from its text, up to what ends it. -/
theorem readAuthority_text (h : a.WellFormed)
    (hafter : ∀ c ∈ after.head?, endsAuthority .other c = true) :
    readAuthority .other (Authority.text a ++ after) = .ok (a, after) := by
  have hinside : ∀ c ∈ Authority.text a, (!endsAuthority .other c) = true := by
    intro c hc
    have hmarks := (mem_authorityText h hc).2
    simpa [endsAuthority, isSlash, and_assoc] using hmarks
  have hbehind : ∀ c ∈ after.head?, (!endsAuthority .other c) = false := by
    intro c hc
    rw [hafter c hc]
    rfl
  obtain ⟨htake, hdrop⟩ := Scanner.takeWhile_dropWhile_append hinside hbehind
  rw [readAuthority_other, htake, hdrop, readParts, cutUserInfo_text h]
  dsimp only
  rw [cutHost_text h.host, cutHost_portText]
  dsimp only
  rw [List.append_nil, Host.readOpaque_text h.host]
  dsimp only
  rw [readPort_port h]
  have hport : (a.host.isEmpty && (a.port.map (Nat.toDigits 10)).isSome) = false := by
    cases hempty : a.host.isEmpty with
    | false => rfl
    | true => simp [(h.bare hempty).2.2]
  have huser : (a.host.isEmpty && !(a.username.isEmpty && a.password.isEmpty)) = false := by
    cases hempty : a.host.isEmpty with
    | false => rfl
    | true => simp [(h.bare hempty).1, (h.bare hempty).2.1]
  rw [hport, huser]
  rfl

theorem readUserInfo_clear (text : List Char) :
    (∀ c ∈ (readUserInfo text).username, inUserInfo c = false) ∧
      ∀ c ∈ (readUserInfo text).password, inUserInfo c = false := by
  have hescape : ∀ x ∈ escapeChars, inUserInfo x = false := by decide
  unfold readUserInfo
  dsimp only
  split
  next => exact ⟨forall_mem_encode hescape, forall_mem_encode hescape⟩
  next => exact ⟨forall_mem_encode hescape, fun _ hc => absurd hc List.not_mem_nil⟩

theorem cutUserInfo_clear {user : UserInfo} (h : cutUserInfo text after = .ok (user, rest)) :
    (∀ c ∈ user.username, inUserInfo c = false) ∧ ∀ c ∈ user.password, inUserInfo c = false := by
  have hnone : (∀ c ∈ ({} : UserInfo).username, inUserInfo c = false) ∧
      ∀ c ∈ ({} : UserInfo).password, inUserInfo c = false :=
    ⟨fun _ hc => absurd hc List.not_mem_nil, fun _ hc => absurd hc List.not_mem_nil⟩
  unfold cutUserInfo at h
  split at h
  next =>
    cases h
    exact hnone
  next =>
    split at h
    next =>
      cases h
      exact hnone
    next => cases h
  next =>
    cases h
    exact readUserInfo_clear _

theorem port_of_elim {digits : Option (List Char)} {port : Option Nat}
    (h : digits.elim (.ok (none, [])) readPort = .ok (port, rest)) :
    (∀ n ∈ port, n ≤ 65535) ∧ (digits = none → port = none) := by
  cases digits with
  | none =>
    cases h
    exact ⟨fun _ hn => absurd hn (Option.not_mem_none _), fun _ => rfl⟩
  | some text => exact ⟨readPort_le h, nofun⟩

theorem wellFormed_of_readAuthority (h : readAuthority .other text = .ok (a, rest)) :
    a.WellFormed := by
  rw [readAuthority_other] at h
  unfold readParts at h
  split at h
  next => cases h
  next user server hcut =>
    obtain ⟨hname, hword⟩ := cutUserInfo_clear hcut
    split at h
    next => cases h
    next host hopaque =>
      split at h
      next => cases h
      next hshown =>
        split at h
        next => cases h
        next port _ hport =>
          split at h
          next => cases h
          next huser =>
            cases h
            obtain ⟨hle, hnone⟩ := port_of_elim hport
            refine ⟨hname, hword, Host.wellFormed_of_readOpaque hopaque, hle, fun hempty => ?_⟩
            simp only [hempty, Bool.true_and, Bool.not_eq_true, Option.isSome_eq_false_iff,
              Option.isNone_iff_eq_none, Bool.not_eq_false', Bool.and_eq_true,
              List.isEmpty_iff] at hshown huser
            exact ⟨huser.1, huser.2, hnone hshown⟩

end Url

end PortableSql

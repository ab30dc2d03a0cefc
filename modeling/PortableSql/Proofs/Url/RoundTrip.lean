import Mathlib.Data.List.Basic
import PortableSql.Proofs.Text.Casing
import PortableSql.Proofs.Url.Authority
import PortableSql.Proofs.Url.Path

namespace PortableSql.Url

open Percent

variable {text rest before after : List Char} {url : Url}

/-- The authority that what follows the scheme begins with, if it does, and the text behind it. -/
def opening (style : Style) (text : List Char) :
    Except UrlFault (Option PortableSql.Authority × List Char) :=
  match style, text with
  | .special, _ =>
    (readAuthority .special (text.dropWhile (isSlash .special))).map fun (a, rest) => (some a, rest)
  | style, a :: b :: more =>
    if isSlash style a && isSlash style b then
      if style = .file && more.head?.any (endsAuthority style) then
        .ok (some ⟨[], [], .name [], none⟩, more)
      else (readAuthority style more).map fun (a, rest) => (some a, rest)
    else .ok (none, a :: b :: more)
  | _, text => .ok (none, text)

/-- The URL of a scheme and an authority whose path, query and fragment are still to be read. -/
def ofRest (scheme : List Char) (authority : Option PortableSql.Authority) (rest : List Char) :
    Url :=
  let (rest, fragment) := cutMark '#' rest
  let (rest, query) := cutMark '?' rest
  { scheme
    authority
    path := readPath (Style.ofScheme scheme) authority.isSome rest
    query := query.map (encode inQuery)
    fragment := fragment.map (encode inFragment) }

theorem read_eq (text : List Char) :
    read text =
      match scheme? (clean text) with
      | none => .error .relative
      | some (scheme, rest) =>
        (opening (Style.ofScheme scheme) rest).map fun (authority, rest) =>
          ofRest scheme authority rest := by
  unfold read
  cases scheme? (clean text) with
  | none => rfl
  | some found =>
    obtain ⟨scheme, rest⟩ := found
    dsimp only
    unfold opening ofRest
    cases hstyle : Style.ofScheme scheme with
    | special =>
      dsimp only
      cases readAuthority .special (rest.dropWhile (isSlash .special)) <;> rfl
    | other =>
      match rest with
      | a :: b :: more =>
        dsimp only
        split
        · cases readAuthority .other more <;> rfl
        · rfl
      | [a] => rfl
      | [] => rfl
    | file =>
      match rest with
      | a :: b :: more =>
        dsimp only
        split
        · split
          · rfl
          · cases readAuthority .file more <;> rfl
        · rfl
      | [a] => rfl
      | [] => rfl

/-- A scheme in lower case. -/
structure IsScheme (scheme : List Char) : Prop where
  head : ∃ c rest, scheme = c :: rest ∧ c.isAlpha = true
  chars : ∀ c ∈ scheme, isSchemeChar c = true ∧ c.toLower = c

/-- What is read from a text whose scheme gives hosts no meaning. -/
structure WellFormed (url : Url) : Prop where
  scheme : IsScheme url.scheme
  style : Style.ofScheme url.scheme = .other
  authority : ∀ a ∈ url.authority, a.WellFormed
  path : IsPath url.authority.isSome url.path
  query : ∀ q ∈ url.query, ∀ c ∈ q, inQuery c = false
  fragment : ∀ f ∈ url.fragment, ∀ c ∈ f, inFragment c = false
  /-- No space ends the text. -/
  ends : url.query = none → url.fragment = none → url.path.getLast? ≠ some ' '

theorem of_isSchemeChar {p : Char → Prop}
    (h : ∀ n < 0x80, isSchemeChar (Char.ofNat n) = true → p (Char.ofNat n)) {c : Char}
    (hc : isSchemeChar c = true) : p c := by
  have hascii : c.toNat < 0x80 := by
    simp only [isSchemeChar, Bool.or_eq_true, beq_iff_eq] at hc
    rcases hc with ((hc | rfl) | rfl) | rfl
    · exact Chars.toNat_of_isAlphanum hc
    all_goals decide
  exact Chars.of_ascii (p := fun c => isSchemeChar c = true → p c) h hascii hc

theorem scheme?_append {scheme : List Char} (h : IsScheme scheme) (rest : List Char) :
    scheme? (scheme ++ ':' :: rest) = some (scheme, rest) := by
  obtain ⟨c, more, rfl, hc⟩ := h.head
  have hcolon : ':' ∉ c :: more := fun hmem => absurd (h.chars _ hmem).1 (by decide)
  have hall : (c :: more).all isSchemeChar = true :=
    List.all_eq_true.mpr fun x hx => (h.chars x hx).1
  have hlower : Chars.asciiLower (c :: more) = c :: more :=
    (List.map_congr_left fun x hx => (h.chars x hx).2).trans (List.map_id' _)
  have hcut : Chars.cutFirst ':' (c :: (more ++ ':' :: rest)) = some (c :: more, rest) :=
    Chars.cutFirst_append hcolon rest
  unfold scheme?
  rw [List.cons_append, hcut]
  dsimp only
  rw [hc, hall, hlower]
  rfl

/-- Whatever comes first in a text without such a mark is cut off in front of the mark. -/
def marked (mark : Char) : Option (List Char) → List Char
  | some part => mark :: part
  | none => []

theorem cutMark_marked {mark : Char} (h : mark ∉ before) (part : Option (List Char)) :
    cutMark mark (before ++ marked mark part) = (before, part) := by
  cases part with
  | none => rw [marked, List.append_nil, cutMark, Chars.cutFirst_eq_none h]
  | some part => rw [marked, cutMark, Chars.cutFirst_append h]

theorem clean_eq_self (h : ∀ c ∈ text, 0x20 ≤ c.toNat)
    (hfirst : ∀ c ∈ text.head?, 0x20 < c.toNat) (hlast : ∀ c ∈ text.getLast?, 0x20 < c.toNat) :
    clean text = text := by
  have hkept {text : List Char} (hfirst : ∀ c ∈ text.head?, 0x20 < c.toNat) :
      text.dropWhile (fun c => decide (c.toNat ≤ 0x20)) = text :=
    Chars.dropWhile_eq_self fun c hc => decide_eq_false (Nat.not_le.mpr (hfirst c hc))
  have hfilter : text.filter (fun c => c != '\t' && c != '\n' && c != '\r') = text := by
    refine List.filter_eq_self.mpr fun c hc => ?_
    have hspace := h c hc
    simp only [Bool.and_eq_true, bne_iff_ne]
    refine ⟨⟨?_, ?_⟩, ?_⟩
    all_goals
      rintro rfl
      exact absurd hspace (by decide)
  have hreverse : ∀ c ∈ text.reverse.head?, 0x20 < c.toNat := by
    rwa [List.head?_reverse]
  unfold clean
  dsimp only
  rw [hkept hfirst, hkept hreverse, List.reverse_reverse, hfilter]

/-- What stands between the scheme and the path. -/
def front (url : Url) : List Char :=
  match url.authority with
  | some a => '/' :: '/' :: Authority.text a
  | none => if Chars.startsWith ['/', '/'] url.path then ['/', '.'] else []

/-- What stands behind the path. -/
def marks (url : Url) : List Char := marked '?' url.query ++ marked '#' url.fragment

theorem text_eq (url : Url) :
    url.text = url.scheme ++ ':' :: (url.front ++ (url.path ++ url.marks)) := by
  obtain ⟨scheme, authority, path, query, fragment⟩ := url
  cases authority with
  | some => cases query <;> cases fragment <;> simp [text, front, marks, marked]
  | none =>
    cases hslash : Chars.startsWith ['/', '/'] path <;> cases query <;> cases fragment <;>
      simp [text, front, marks, marked, hslash]

theorem marked_eq_nil {mark : Char} {part : Option (List Char)} (h : marked mark part = []) :
    part = none := by
  cases part with
  | none => rfl
  | some => cases h

theorem head?_marks (url : Url) : ∀ c ∈ url.marks.head?, c = '?' ∨ c = '#' := by
  intro c hc
  unfold marks marked at hc
  cases hquery : url.query with
  | some q =>
    rw [hquery] at hc
    exact .inl (Option.some.inj hc).symm
  | none =>
    rw [hquery] at hc
    cases hfragment : url.fragment with
    | some f =>
      rw [hfragment] at hc
      exact .inr (Option.some.inj hc).symm
    | none =>
      rw [hfragment] at hc
      cases hc

/-- Without an authority, the path never begins as one would. -/
theorem not_prefix_of_none (hauthority : url.authority = none) :
    ¬ ['/', '/'] <+: url.front ++ (url.path ++ url.marks) := by
  unfold front
  rw [hauthority]
  dsimp only
  split
  next =>
    intro hslash
    exact absurd (List.cons_prefix_cons.mp (List.cons_prefix_cons.mp hslash).2).1 (by decide)
  next hnot =>
    rw [Chars.startsWith, List.isPrefixOf_iff_prefix] at hnot
    rw [List.nil_append, Chars.prefix_append_iff fun c hc => ?_]
    · exact hnot
    · rcases url.head?_marks c hc with rfl | rfl <;> decide

namespace WellFormed

theorem graphic_front (h : url.WellFormed) : ∀ c ∈ url.front, IsGraphic c ∧ c ≠ '?' ∧ c ≠ '#' := by
  have hmarks : ∀ x ∈ ['/', '.'], IsGraphic x ∧ x ≠ '?' ∧ x ≠ '#' := by
    simp only [IsGraphic]
    decide
  intro c hc
  unfold front at hc
  split at hc
  next a hauthority =>
    rcases List.mem_cons.mp hc with rfl | hc
    · exact hmarks '/' (by decide)
    · rcases List.mem_cons.mp hc with rfl | hc
      · exact hmarks '/' (by decide)
      · obtain ⟨hgraphic, hmark⟩ := mem_authorityText (h.authority a hauthority) hc
        refine ⟨hgraphic, ?_, ?_⟩
        all_goals
          rintro rfl
          exact hmark (by decide)
  next =>
    split at hc
    · exact hmarks c hc
    · cases hc

theorem graphic_marks (h : url.WellFormed) : ∀ c ∈ url.marks, IsGraphic c := by
  have hmark {mark : Char} {part : Option (List Char)} (hmark : IsGraphic mark)
      (hpart : ∀ text ∈ part, ∀ c ∈ text, IsGraphic c) : ∀ c ∈ marked mark part, IsGraphic c := by
    cases part with
    | none => exact fun _ hc => absurd hc List.not_mem_nil
    | some text => exact List.forall_mem_cons.mpr ⟨hmark, hpart text rfl⟩
  refine List.forall_mem_append.mpr ⟨hmark ?_ ?_, hmark ?_ ?_⟩
  · exact isGraphic_of_not_inFragment (by decide)
  · exact fun q hq c hc => isGraphic_of_not_inQuery (h.query q hq c hc)
  · exact ⟨by decide, by decide⟩
  · exact fun f hf c hc => isGraphic_of_not_inFragment (h.fragment f hf c hc)

theorem graphic_scheme (h : url.WellFormed) : ∀ c ∈ url.scheme, IsGraphic c := by
  refine fun c hc => of_isSchemeChar (p := IsGraphic) ?_ (h.scheme.chars c hc).1
  simp only [IsGraphic]
  decide +kernel

theorem not_control (h : url.WellFormed) : ∀ c ∈ url.text, isControl c = false := by
  intro c hc
  rw [text_eq, List.mem_append, List.mem_cons, List.mem_append, List.mem_append] at hc
  rcases hc with hscheme | rfl | hfront | hpath | hmarks
  · exact not_control_of_isGraphic (h.graphic_scheme c hscheme)
  · decide
  · exact not_control_of_isGraphic (h.graphic_front c hfront).1
  · exact (h.path.mem hpath).1
  · exact not_control_of_isGraphic (h.graphic_marks c hmarks)

/-- No space is lost at the end of the text. -/
theorem getLast?_text (h : url.WellFormed) : url.text.getLast? ≠ some ' ' := by
  have hspace {text : List Char} (hgraphic : ∀ c ∈ text, IsGraphic c) :
      text.getLast? ≠ some ' ' := fun hlast =>
    absurd (hgraphic ' ' (List.mem_of_getLast? hlast)).1 (by decide)
  have hor {first second : Option Char} (hfirst : first ≠ some ' ') (hsecond : second ≠ some ' ') :
      first.or second ≠ some ' ' := by
    cases first with
    | none => exact hsecond
    | some => exact hfirst
  have hcolon : ∀ c ∈ ':' :: url.front, IsGraphic c := by
    refine List.forall_mem_cons.mpr ⟨?_, fun c hc => (h.graphic_front c hc).1⟩
    exact isGraphic_of_not_inFragment (by decide)
  have htail : (url.path ++ url.marks).getLast? ≠ some ' ' := by
    rw [List.getLast?_append]
    cases hmarks : url.marks.getLast? with
    | some c =>
      rw [Option.some_or, ← hmarks]
      exact hspace h.graphic_marks
    | none =>
      obtain ⟨hquery, hfragment⟩ := List.append_eq_nil_iff.mp (List.getLast?_eq_none_iff.mp hmarks)
      rw [Option.none_or]
      exact h.ends (marked_eq_nil hquery) (marked_eq_nil hfragment)
  rw [text_eq, ← List.cons_append, List.getLast?_append, List.getLast?_append]
  exact hor (hor htail (hspace hcolon)) (hspace h.graphic_scheme)

theorem readPath_front (h : url.WellFormed) (hauthority : url.authority = none) :
    readPath .other url.authority.isSome (url.front ++ url.path) = url.path := by
  unfold front
  rw [hauthority]
  have hpath := h.path
  rw [hauthority] at hpath
  dsimp only
  split
  next hslash =>
    rw [Chars.startsWith, List.isPrefixOf_iff_prefix] at hslash
    obtain ⟨rest, hrest⟩ := hslash
    exact readPath_dot hpath (by rw [← hrest]; rfl)
  next => exact readPath_path hpath

end WellFormed

/-- A text is read as one path unless it begins with two slashes. -/
theorem opening_of_no_slashes (h : ¬ ['/', '/'] <+: text) :
    opening .other text = .ok (none, text) := by
  match text with
  | a :: b :: more =>
    unfold opening
    dsimp only
    refine if_neg fun hslash => h ?_
    obtain ⟨ha, hb⟩ : a = '/' ∧ b = '/' := by simpa [isSlash] using hslash
    rw [ha, hb]
    exact List.prefix_append ['/', '/'] more
  | [a] => rfl
  | [] => rfl

theorem opening_of_authority {a : PortableSql.Authority} (h : a.WellFormed)
    (hafter : ∀ c ∈ after.head?, endsAuthority .other c = true) :
    opening .other ('/' :: '/' :: (Authority.text a ++ after)) = .ok (some a, after) := by
  unfold opening
  dsimp only
  rw [readAuthority_text h hafter]
  rfl

/-- The path, the query and the fragment are read back from behind the authority. -/
theorem ofRest_marks (h : url.WellFormed) {path : List Char}
    (hpath : readPath .other url.authority.isSome path = url.path)
    (hmem : ∀ c ∈ path, c ≠ '?' ∧ c ≠ '#') :
    ofRest url.scheme url.authority (path ++ url.marks) = url := by
  have hquestion : '?' ∉ path := fun hc => (hmem _ hc).1 rfl
  have hhash : '#' ∉ path ++ marked '?' url.query := by
    rw [List.mem_append, not_or]
    refine ⟨fun hc => (hmem _ hc).2 rfl, fun hc => ?_⟩
    cases hquery : url.query with
    | none =>
      rw [hquery] at hc
      cases hc
    | some q =>
      rw [hquery] at hc
      rcases List.mem_cons.mp hc with heq | hc
      · exact absurd heq (by decide)
      · exact absurd (h.query q hquery _ hc) (by decide)
  have hencode {chosen : Char → Bool} {part : Option (List Char)}
      (hpart : ∀ text ∈ part, ∀ c ∈ text, chosen c = false) : part.map (encode chosen) = part := by
    cases part with
    | none => rfl
    | some text => rw [Option.map_some, encode_eq_self (hpart text rfl)]
  rw [ofRest, marks, ← List.append_assoc, cutMark_marked hhash]
  dsimp only
  rw [cutMark_marked hquestion, h.style, hpath, hencode h.query, hencode h.fragment]

theorem clean_text (h : url.WellFormed) : clean url.text = url.text := by
  have hlow : ∀ c ∈ url.text, 0x20 ≤ c.toNat := fun c hc =>
    (toNat_of_not_control (h.not_control c hc)).1
  refine clean_eq_self hlow (fun c hc => ?_) fun c hc => ?_
  · obtain ⟨first, rest, hscheme, hfirst⟩ := h.scheme.head
    rw [text_eq, hscheme] at hc
    obtain rfl := Option.some.inj hc
    exact (h.graphic_scheme first (by rw [hscheme]; exact List.mem_cons_self)).1
  · have hspace : c.toNat ≠ 0x20 := by
      intro heq
      obtain rfl : c = ' ' := Char.toNat_inj.mp heq
      exact h.getLast?_text hc
    have := hlow c (List.mem_of_getLast? hc)
    omega

/-- A URL is read back from its text. -/
theorem read_text (h : url.WellFormed) : read url.text = .ok url := by
  rw [read_eq, clean_text h, text_eq, scheme?_append h.scheme]
  dsimp only
  rw [h.style]
  cases hauthority : url.authority with
  | some a =>
    have hpath := h.path
    rw [hauthority] at hpath
    have hafter : ∀ c ∈ (url.path ++ url.marks).head?, endsAuthority .other c = true := by
      intro c hc
      cases hempty : url.path with
      | nil =>
        rw [hempty, List.nil_append] at hc
        rcases url.head?_marks c hc with rfl | rfl <;> rfl
      | cons first rest =>
        rw [hempty, List.cons_append] at hc
        obtain rfl := hpath.head?_eq c (by rwa [hempty])
        rfl
    have hfront : url.front = '/' :: '/' :: Authority.text a := by
      rw [front, hauthority]
    rw [hfront, List.cons_append, List.cons_append,
      opening_of_authority (h.authority a hauthority) hafter]
    change Except.ok (ofRest url.scheme (some a) _) = _
    rw [← hauthority, ofRest_marks h (readPath_path h.path) fun c hc => (h.path.mem hc).2]
  | none =>
    have hfront : ∀ c ∈ url.front ++ url.path, c ≠ '?' ∧ c ≠ '#' :=
      List.forall_mem_append.mpr
        ⟨fun c hc => (h.graphic_front c hc).2, fun c hc => (h.path.mem hc).2⟩
    rw [opening_of_no_slashes (not_prefix_of_none hauthority), ← List.append_assoc]
    change Except.ok (ofRest url.scheme none _) = _
    rw [← hauthority, ofRest_marks h (h.readPath_front hauthority) hfront]

theorem isScheme_of_scheme? {scheme : List Char} (h : scheme? text = some (scheme, rest)) :
    IsScheme scheme ∧ ∃ before, text = before ++ ':' :: rest := by
  have hlower (c : Char) : isSchemeChar c.toLower = isSchemeChar c ∧ c.toLower.isAlpha = c.isAlpha ∧
      c.toLower.toLower = c.toLower :=
    Chars.relates_toLower (r := fun c low => isSchemeChar low = isSchemeChar c ∧
      low.isAlpha = c.isAlpha ∧ low.toLower = c.toLower) (fun _ => ⟨rfl, rfl, rfl⟩)
      (by decide +kernel) c
  unfold scheme? at h
  split at h
  next c more written behind hcut =>
    split at h
    next hchars =>
      cases h
      rw [Bool.and_eq_true, List.all_eq_true] at hchars
      obtain ⟨htext, -⟩ := Chars.eq_of_cutFirst hcut
      refine ⟨⟨?_, ?_⟩, written, htext⟩
      · cases written with
        | nil =>
          obtain ⟨rfl, -⟩ := List.cons.inj htext
          exact absurd hchars.1 (by decide)
        | cons first others =>
          obtain ⟨rfl, -⟩ := List.cons.inj htext
          exact ⟨_, _, rfl, (hlower c).2.1.trans hchars.1⟩
      · intro x hx
        obtain ⟨y, hy, rfl⟩ := List.mem_map.mp hx
        exact ⟨(hlower y).1.trans (hchars.2 y hy), (hlower y).2.2⟩
    next => cases h
  next => cases h

theorem eq_of_cutMark {mark : Char} {part : Option (List Char)}
    (h : cutMark mark text = (before, part)) :
    text = before ++ marked mark part ∧ mark ∉ before := by
  unfold cutMark at h
  split at h
  next hcut =>
    cases h
    exact Chars.eq_of_cutFirst hcut
  next hcut =>
    cases h
    exact ⟨(List.append_nil _).symm, Chars.not_mem_of_cutFirst hcut⟩

theorem getLast?_clean (text : List Char) : (clean text).getLast? ≠ some ' ' := by
  intro hlast
  unfold clean at hlast
  dsimp only at hlast
  rw [← List.reverse_reverse (List.filter _ _), List.getLast?_reverse, ← List.filter_reverse,
    List.reverse_reverse] at hlast
  cases hinner : (text.dropWhile fun c => decide (c.toNat ≤ 0x20)).reverse.dropWhile
      fun c => decide (c.toNat ≤ 0x20) with
  | nil =>
    rw [hinner] at hlast
    cases hlast
  | cons c rest =>
    have hc : ¬ c.toNat ≤ 0x20 := by
      have hhead := List.head?_dropWhile_not (fun c : Char => decide (c.toNat ≤ 0x20))
        (text.dropWhile fun c => decide (c.toNat ≤ 0x20)).reverse
      rw [hinner] at hhead
      simpa using hhead
    have hkept : (c != '\t' && c != '\n' && c != '\r') = true := by
      simp only [Bool.and_eq_true, bne_iff_ne]
      refine ⟨⟨?_, ?_⟩, ?_⟩
      all_goals
        rintro rfl
        exact hc (by decide)
    rw [hinner, List.filter_cons, if_pos hkept] at hlast
    obtain rfl := Option.some.inj hlast
    exact hc (by decide)

theorem authority_of_opening {authority : Option PortableSql.Authority}
    (h : opening .other text = .ok (authority, rest)) :
    (∀ a ∈ authority, a.WellFormed) ∧ (authority = none → rest = text) := by
  by_cases hslash : ['/', '/'] <+: text
  · obtain ⟨more, rfl⟩ := hslash
    have hopening : opening .other (['/', '/'] ++ more) =
        (readAuthority .other more).map fun (a, rest) => (some a, rest) := rfl
    rw [hopening] at h
    cases hread : readAuthority .other more with
    | error fault =>
      rw [hread] at h
      cases h
    | ok found =>
      rw [hread] at h
      cases h
      refine ⟨fun a ha => ?_, nofun⟩
      obtain rfl := Option.some.inj ha
      exact wellFormed_of_readAuthority hread
  · rw [opening_of_no_slashes hslash] at h
    cases h
    exact ⟨fun _ ha => absurd ha (Option.not_mem_none _), fun _ => rfl⟩

theorem wellFormed_ofRest {scheme : List Char} {authority : Option PortableSql.Authority}
    (hscheme : IsScheme scheme) (hstyle : Style.ofScheme scheme = .other)
    (hauthority : ∀ a ∈ authority, a.WellFormed)
    (hlast : authority = none → rest.getLast? ≠ some ' ') :
    (ofRest scheme authority rest).WellFormed := by
  obtain ⟨behind, fragment, hfragment⟩ : ∃ behind fragment, cutMark '#' rest = (behind, fragment) :=
    ⟨_, _, rfl⟩
  obtain ⟨path, query, hquery⟩ : ∃ path query, cutMark '?' behind = (path, query) := ⟨_, _, rfl⟩
  have hurl : ofRest scheme authority rest =
      { scheme, authority, path := readPath .other authority.isSome path
        query := query.map (encode inQuery), fragment := fragment.map (encode inFragment) } := by
    unfold ofRest
    rw [hfragment]
    dsimp only
    rw [hquery, hstyle]
  obtain ⟨rfl, hhash⟩ := eq_of_cutMark hfragment
  obtain ⟨rfl, hquestion⟩ := eq_of_cutMark hquery
  have hencoded {chosen : Char → Bool} (hescape : ∀ x ∈ escapeChars, chosen x = false)
      (part : Option (List Char)) :
      ∀ text ∈ part.map (encode chosen), ∀ c ∈ text, chosen c = false := by
    intro text htext
    obtain ⟨written, -, rfl⟩ := Option.map_eq_some_iff.mp htext
    exact forall_mem_encode hescape
  have hpath : IsPath authority.isSome (readPath .other authority.isSome path) := by
    refine isPath_readPath _ fun c hc => ⟨?_, ?_⟩
    · rintro rfl
      exact hquestion hc
    · rintro rfl
      exact hhash (List.mem_append_left _ hc)
  rw [hurl]
  refine ⟨hscheme, hstyle, hauthority, hpath, hencoded (by decide) query,
    hencoded (by decide) fragment, ?_⟩
  intro hnoquery hnofragment
  obtain rfl := Option.map_eq_none_iff.mp hnoquery
  obtain rfl := Option.map_eq_none_iff.mp hnofragment
  cases authority with
  | some a => exact getLast?_of_graphic (hpath.graphic (.inl rfl))
  | none => exact getLast?_readPath (by simpa [marked] using hlast rfl)

theorem exists_of_read (h : read text = .ok url) :
    ∃ scheme rest authority behind, scheme? (clean text) = some (scheme, rest) ∧
      opening (Style.ofScheme scheme) rest = .ok (authority, behind) ∧
      ofRest scheme authority behind = url := by
  rw [read_eq] at h
  split at h
  next => cases h
  next scheme rest hscheme =>
    cases hopening : opening (Style.ofScheme scheme) rest with
    | error fault =>
      rw [hopening] at h
      cases h
    | ok found =>
      rw [hopening] at h
      exact ⟨scheme, rest, found.1, found.2, hscheme, hopening, Except.ok.inj h⟩

theorem isScheme_of_read (h : read text = .ok url) : IsScheme url.scheme := by
  obtain ⟨scheme, rest, authority, behind, hscheme, -, rfl⟩ := exists_of_read h
  exact (isScheme_of_scheme? hscheme).1

/-- What is read is well formed. -/
theorem wellFormed_of_read (h : read text = .ok url) (hstyle : Style.ofScheme url.scheme = .other) :
    url.WellFormed := by
  obtain ⟨scheme, rest, authority, behind, hscheme, hopening, rfl⟩ := exists_of_read h
  have hother : Style.ofScheme scheme = .other := hstyle
  rw [hother] at hopening
  obtain ⟨hauthority, hbehind⟩ := authority_of_opening hopening
  obtain ⟨hscheme, before, htext⟩ := isScheme_of_scheme? hscheme
  refine wellFormed_ofRest hscheme hother hauthority fun hnone hlast => getLast?_clean text ?_
  rw [hbehind hnone] at hlast
  rw [htext, List.getLast?_append, List.getLast?_cons, hlast]
  rfl

end PortableSql.Url

import Mathlib.Data.List.Find
import PortableSql.Dialect
import PortableSql.Proofs.Url.Library

namespace PortableSql.UrlLibrary

variable {υ : Type} [UrlLibrary υ] {text : List Char} {url : υ}

/-- Whether the text of a URL names a product. -/
def NamesProduct (url : υ) : Prop :=
  (Dialect.ofConnectionString? (String.ofList (UrlLibrary.text url))).isSome = true

instance : Decidable (NamesProduct url) := inferInstanceAs (Decidable (_ = _))

variable [LawfulUrlLibrary υ]

theorem ofConnectionString?_ofList (text : List Char) :
    Dialect.ofConnectionString? (String.ofList text) =
      (Dialect.schemes.find? fun entry =>
        Chars.startsWith entry.1.toList (Chars.lower text)).map (·.2) := by
  rw [Dialect.ofConnectionString?, String.toList_ofList]

/-- The text in which products are looked for has the scheme as it is. -/
theorem lower_text (h : read text = .ok url) :
    ∃ lowered, Chars.lower (UrlLibrary.text url) = scheme url ++ ':' :: lowered := by
  have hchar : ∀ c ∈ scheme url ++ [':'], c.toNat < 0x80 ∧ c.toLower = c := by
    refine List.forall_mem_append.mpr ⟨fun c hc => ?_, by decide⟩
    obtain ⟨hletter | hmark, hlower⟩ := LawfulUrlLibrary.scheme_char h c hc
    · exact ⟨Chars.toNat_of_isAlphanum hletter, hlower⟩
    · have hmarks : ∀ x ∈ ['+', '-', '.'], x.toNat < 0x80 := by decide
      exact ⟨hmarks c hmark, hlower⟩
  have hsigma : 'Σ' ∉ scheme url ++ [':'] := fun hmem => absurd (hchar _ hmem).1 (by decide)
  have hsame : (scheme url ++ [':']).flatMap Chars.lowerChar = scheme url ++ [':'] := by
    rw [List.flatMap_def, List.map_congr_left (g := fun c => [c]) fun c hc => ?_,
      ← List.flatMap_def, List.flatMap_singleton']
    rw [Chars.lowerChar, if_pos (hchar c hc).1, (hchar c hc).2]
  obtain ⟨rest, hrest⟩ := LawfulUrlLibrary.text_of_read h
  have htext : UrlLibrary.text url = (scheme url ++ [':']) ++ rest := by
    rw [hrest, List.append_assoc, List.singleton_append]
  rw [htext, Chars.lower, Chars.lowerAfter_append hsigma, hsame, List.append_assoc,
    List.singleton_append]
  exact ⟨_, rfl⟩

/-- Each opening is a scheme that gives hosts no meaning, its colon, and what follows it. -/
theorem exists_of_mem_schemes {entry : String × Dialect} (h : entry ∈ Dialect.schemes) :
    ∃ scheme slashes, entry.1.toList = scheme ++ ':' :: slashes ∧ ':' ∉ scheme ∧
      String.ofList scheme ∉ specialSchemes := by
  have hall : ∀ entry ∈ Dialect.schemes, ((Chars.cutFirst ':' entry.1.toList).any
      fun cut => decide (String.ofList cut.1 ∉ specialSchemes)) = true := by
    decide
  have hentry := hall entry h
  cases hcut : Chars.cutFirst ':' entry.1.toList with
  | none =>
    rw [hcut] at hentry
    cases hentry
  | some cut =>
    rw [hcut] at hentry
    obtain ⟨heq, hcolon⟩ := Chars.eq_of_cutFirst hcut
    exact ⟨cut.1, cut.2, heq, hcolon, of_decide_eq_true hentry⟩

theorem scheme_eq_of_begins {scheme known slashes rest : List Char} (hknown : ':' ∉ known)
    (hscheme : ':' ∉ scheme) (h : known ++ ':' :: slashes <+: scheme ++ ':' :: rest) :
    known = scheme := by
  obtain ⟨more, heq⟩ := h
  have hcut := congrArg (Chars.cutFirst ':') heq
  rw [List.append_assoc, List.cons_append, Chars.cutFirst_append hknown,
    Chars.cutFirst_append hscheme] at hcut
  exact (Prod.mk.inj (Option.some.inj hcut)).1

/-- No mark that ends a name or a scheme is part of one. -/
theorem not_mem_scheme (h : read text = .ok url) : ':' ∉ scheme url ∧ '=' ∉ scheme url := by
  have hmark : ∀ c ∈ [':', '='], c ∉ scheme url := by
    have hnone : ∀ c ∈ [':', '='], ¬ (c.isAlphanum = true ∨ c ∈ ['+', '-', '.']) := by decide
    exact fun c hc hmem => hnone c hc (LawfulUrlLibrary.scheme_char h c hmem).1
  exact ⟨hmark ':' (by decide), hmark '=' (by decide)⟩

/-- A URL that names a product has a scheme that gives hosts no meaning. -/
theorem parsed_of_product (h : read text = .ok url) (hproduct : NamesProduct url) :
    Parsed url := by
  rw [NamesProduct, ofConnectionString?_ofList, Option.isSome_map, List.find?_isSome] at hproduct
  obtain ⟨entry, hmem, hstarts⟩ := hproduct
  obtain ⟨known, slashes, hopening, hcolon, hspecial⟩ := exists_of_mem_schemes hmem
  obtain ⟨lowered, hlower⟩ := lower_text h
  rw [hopening, hlower, Chars.startsWith, List.isPrefixOf_iff_prefix] at hstarts
  rw [scheme_eq_of_begins hcolon (not_mem_scheme h).1 hstarts] at hspecial
  exact .read h hspecial

/-- The product depends on no more of a text than what stands in front of the end of its path. -/
theorem ofConnectionString?_congr {a b : List Char} (h : SameUpToPath a b)
    (ha : ∀ c ∈ a, c.toNat < 0x80) (hb : ∀ c ∈ b, c.toNat < 0x80) :
    Dialect.ofConnectionString? (String.ofList a) =
      Dialect.ofConnectionString? (String.ofList b) := by
  have hopening : ∀ entry ∈ Dialect.schemes, ∀ c ∈ pathEnds, c ∉ entry.1.toList := by decide
  rw [ofConnectionString?_ofList, ofConnectionString?_ofList, Chars.lower_of_ascii ha,
    Chars.lower_of_ascii hb]
  refine congrArg (Option.map Prod.snd) (List.find?_congr fun entry hmem => ?_)
  rw [Bool.eq_iff_iff, Chars.startsWith, Chars.startsWith, List.isPrefixOf_iff_prefix,
    List.isPrefixOf_iff_prefix, h.map_toLower.prefix_iff (hopening entry hmem)]

end PortableSql.UrlLibrary

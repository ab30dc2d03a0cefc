import PortableSql.Proofs.Url.Library
import PortableSql.Proofs.Url.Query

namespace PortableSql.Url

open UrlLibrary (Parsed SameUpToPath pathEnds specialSchemes)

variable {text : List Char} {url : Url}

theorem ofScheme_eq_other {scheme : List Char} (h : String.ofList scheme ∉ specialSchemes) :
    Style.ofScheme scheme = .other := by
  simp only [specialSchemes, List.mem_cons, List.not_mem_nil, or_false, not_or] at h
  unfold Style.ofScheme
  split <;> simp_all

theorem read_of_library (h : UrlLibrary.read text = .ok url) : read text = .ok url := by
  change (read text).mapError UrlFault.message = .ok url at h
  cases hread : read text with
  | error fault =>
    rw [hread] at h
    cases h
  | ok same =>
    rw [hread] at h
    exact congrArg _ (Except.ok.inj h)

theorem wellFormed_of_parsed (h : Parsed url) : url.WellFormed := by
  induction h with
  | read h hscheme => exact wellFormed_of_read (read_of_library h) (ofScheme_eq_other hscheme)
  | withoutQuery _ ih => exact ih.withoutQuery
  | withQueryPairs _ pairs ih => exact ih.withQueryPairs pairs

theorem head?_marks_mem (url : Url) : ∀ c ∈ url.marks.head?, c ∈ pathEnds := by
  intro c hc
  rcases url.head?_marks c hc with rfl | rfl <;> decide

theorem text_eq_append (url : Url) :
    url.text = (url.scheme ++ ':' :: (url.front ++ url.path)) ++ url.marks := by
  rw [text_eq, List.append_assoc, List.cons_append, List.append_assoc]

theorem text_withQueryPairs (url : Url) (pairs : List Form.Pair) :
    SameUpToPath (url.withQueryPairs pairs).text url.text :=
  ⟨_, _, _, text_eq_append (url.withQueryPairs pairs), text_eq_append url, head?_marks_mem _,
    head?_marks_mem url⟩

theorem front_of_hasOpaquePath (h : url.hasOpaquePath = true) : url.front = [] := by
  obtain ⟨hnone, hhead⟩ := hasOpaquePath_iff.mp h
  have hslashes : ¬ Chars.startsWith ['/', '/'] url.path = true := by
    rw [Chars.startsWith, List.isPrefixOf_iff_prefix]
    rintro ⟨rest, hrest⟩
    exact hhead (by rw [← hrest]; rfl)
  rw [front, hnone]
  exact if_neg hslashes

/-- The spaces that are lost stand behind the rest of the path. -/
theorem text_withoutQuery (url : Url) : SameUpToPath url.withoutQuery.text url.text := by
  cases hcut : url.hasOpaquePath && url.fragment.isNone with
  | false =>
    have hurl : url.withoutQuery = { url with query := none } := by
      rw [withoutQuery_eq, hcut, if_neg Bool.false_ne_true]
    rw [hurl]
    exact ⟨_, _, _, text_eq_append _, text_eq_append url, head?_marks_mem _, head?_marks_mem url⟩
  | true =>
    obtain ⟨spaces, hspaces, hblank⟩ := exists_append_trimSpaces url.path
    have hurl : url.withoutQuery = { url with query := none, path := trimSpaces url.path } := by
      rw [withoutQuery_eq, hcut, if_pos rfl]
    have hwhole := (Bool.and_eq_true_iff.mp hcut).1
    obtain ⟨hnone, hhead⟩ := hasOpaquePath_iff.mp hwhole
    have hstays : url.withoutQuery.hasOpaquePath = true := by
      rw [hurl]
      exact hasOpaquePath_iff.mpr ⟨hnone, head?_trimSpaces hhead⟩
    have hlost : ∀ c ∈ (spaces ++ url.marks).head?, c ∈ pathEnds := by
      intro c hc
      rw [List.head?_append, Option.mem_def, Option.or_eq_some_iff] at hc
      rcases hc with hspace | ⟨-, hmark⟩
      · rw [hblank c (List.mem_of_head? hspace)]
        decide
      · exact head?_marks_mem url c hmark
    refine ⟨url.scheme ++ ':' :: trimSpaces url.path, url.withoutQuery.marks, spaces ++ url.marks,
      ?_, ?_, head?_marks_mem _, hlost⟩
    · rw [text_eq, front_of_hasOpaquePath hstays, hurl]
      simp
    · rw [text_eq, front_of_hasOpaquePath hwhole]
      conv_lhs => rw [hspaces]
      simp

instance : LawfulUrlLibrary Url where
  scheme_char h c hc := by
    obtain ⟨hchar, hlower⟩ := (isScheme_of_read (read_of_library h)).chars c hc
    simp only [isSchemeChar, Bool.or_eq_true, beq_iff_eq] at hchar
    refine ⟨?_, hlower⟩
    rcases hchar with ((hletter | rfl) | rfl) | rfl
    · exact .inl hletter
    all_goals exact .inr (by decide)
  text_of_read _ := ⟨_, text_eq _⟩
  read_text h := congrArg (Except.mapError UrlFault.message) (read_text (wellFormed_of_parsed h))
  ascii h c hc := by
    have := Percent.toNat_of_not_control ((wellFormed_of_parsed h).not_control c hc)
    omega
  path_subset url c hc := by
    change c ∈ url.text
    rw [text_eq]
    simp only [List.mem_append, List.mem_cons]
    exact .inr (.inr (.inr (.inl hc)))
  queryPairs_withoutQuery _ := rfl
  queryPairs_withQueryPairs := queryPairs_withQueryPairs
  withoutQuery_again := withoutQuery_withoutQuery
  withQueryPairs_again _ _ := rfl
  text_withoutQuery := text_withoutQuery
  text_withQueryPairs := text_withQueryPairs

end PortableSql.Url

import Mathlib.Data.List.DropRight
import PortableSql.Proofs.Url.Form
import PortableSql.Proofs.Url.RoundTrip

namespace PortableSql.Url

open Percent

variable {text : List Char} {url : Url}

theorem inQuery_of_mem_encode {pairs : List Form.Pair} {c : Char} (h : c ∈ Form.encode pairs) :
    inQuery c = false := by
  have hmarks : ∀ x ∈ ['*', '-', '.', '_', '+', '%', '=', '&'], inQuery x = false := by decide
  rcases Form.mem_encode h with hplain | hmark
  · simp only [Form.isPlain, Bool.or_eq_true, List.contains_iff_mem] at hplain
    rcases hplain with hletter | hmark
    · exact Chars.of_isAlphanum (p := fun c => inQuery c = false) (by decide +kernel) hletter
    · exact hmarks c (List.mem_append_left ['+', '%', '=', '&'] hmark)
  · exact hmarks c (List.mem_append_right ['*', '-', '.', '_'] hmark)

/-- The text without the spaces at its end. -/
def trimSpaces (text : List Char) : List Char := text.rdropWhile (· == ' ')

theorem exists_append_trimSpaces (text : List Char) :
    ∃ spaces, text = trimSpaces text ++ spaces ∧ ∀ c ∈ spaces, c = ' ' :=
  ⟨text.rtakeWhile (· == ' '), List.rdropWhile_append_rtakeWhile.symm,
    fun _ hc => beq_iff_eq.mp (List.mem_rtakeWhile_imp (p := (· == ' ')) hc)⟩

theorem getLast?_trimSpaces (text : List Char) : (trimSpaces text).getLast? ≠ some ' ' := by
  intro hlast
  obtain ⟨hne, hspace⟩ := List.mem_getLast?_eq_getLast hlast
  exact List.rdropWhile_last_not _ text hne (beq_iff_eq.mpr hspace.symm)

theorem head?_trimSpaces (h : text.head? ≠ some '/') : (trimSpaces text).head? ≠ some '/' := by
  obtain ⟨spaces, hspaces, -⟩ := exists_append_trimSpaces text
  intro hhead
  rw [hspaces, List.head?_append, hhead] at h
  exact h rfl

theorem hasOpaquePath_iff :
    url.hasOpaquePath = true ↔ url.authority = none ∧ url.path.head? ≠ some '/' := by
  simp [hasOpaquePath]

theorem withoutQuery_eq (url : Url) :
    url.withoutQuery = { url with
      query := none
      path := if url.hasOpaquePath && url.fragment.isNone then trimSpaces url.path
        else url.path } := rfl

/-- Another query leaves a URL as well formed as it was. -/
theorem WellFormed.withQueryPairs (h : url.WellFormed) (pairs : List Form.Pair) :
    (url.withQueryPairs pairs).WellFormed := by
  refine ⟨h.scheme, h.style, h.authority, h.path, fun q hq c hc => ?_, h.fragment, nofun⟩
  obtain rfl := Option.some.inj hq
  exact inQuery_of_mem_encode hc

theorem WellFormed.withoutQuery (h : url.WellFormed) : url.withoutQuery.WellFormed := by
  have hnoquery : ∀ q ∈ (none : Option (List Char)), ∀ c ∈ q, inQuery c = false :=
    fun _ hq => absurd hq (Option.not_mem_none _)
  rw [withoutQuery_eq]
  cases hwhole : url.hasOpaquePath with
  | false =>
    have hslash : url.authority.isSome = true ∨ url.path.head? = some '/' := by
      rw [hasOpaquePath, Bool.and_eq_false_iff] at hwhole
      refine hwhole.imp (fun hnone => ?_) fun hhead => ?_
      · simpa using hnone
      · simpa using hhead
    exact ⟨h.scheme, h.style, h.authority, h.path, hnoquery, h.fragment,
      fun _ _ => getLast?_of_graphic (h.path.graphic hslash)⟩
  | true =>
    obtain ⟨hnone, hhead⟩ := hasOpaquePath_iff.mp hwhole
    cases hfragment : url.fragment with
    | some f =>
      refine ⟨h.scheme, h.style, h.authority, h.path, hnoquery, ?_, nofun⟩
      rw [← hfragment]
      exact h.fragment
    | none =>
      have hpath : IsPath url.authority.isSome (trimSpaces url.path) := by
        rw [hnone]
        obtain ⟨spaces, hspaces, -⟩ := exists_append_trimSpaces url.path
        refine .whole (fun c hc => h.path.mem ?_) (head?_trimSpaces hhead)
        rw [hspaces]
        exact List.mem_append_left spaces hc
      refine ⟨h.scheme, h.style, h.authority, hpath, hnoquery, ?_,
        fun _ _ => getLast?_trimSpaces url.path⟩
      rw [← hfragment]
      exact h.fragment

theorem withoutQuery_eq_self (hquery : url.query = none)
    (hpath : url.hasOpaquePath = true → url.fragment = none → trimSpaces url.path = url.path) :
    url.withoutQuery = url := by
  have hkept : (if url.hasOpaquePath && url.fragment.isNone then trimSpaces url.path
      else url.path) = url.path := by
    split
    next hwhole =>
      rw [Bool.and_eq_true, Option.isNone_iff_eq_none] at hwhole
      exact hpath hwhole.1 hwhole.2
    next => rfl
  rw [withoutQuery_eq, hkept, ← hquery]

/-- Without a query there is none to take off. -/
theorem withoutQuery_withoutQuery (url : Url) : url.withoutQuery.withoutQuery = url.withoutQuery := by
  refine withoutQuery_eq_self rfl fun hwhole hfragment => ?_
  rw [withoutQuery_eq] at hwhole hfragment ⊢
  dsimp only at hwhole hfragment ⊢
  split
  next => exact List.rdropWhile_idempotent _ url.path
  next hkept =>
    rw [if_neg hkept] at hwhole
    exact absurd (Bool.and_eq_true_iff.mpr ⟨hwhole, by rw [hfragment]; rfl⟩) hkept

theorem queryPairs_withQueryPairs (url : Url) (pairs : List Form.Pair) :
    (url.withQueryPairs pairs).queryPairs = pairs :=
  Form.decode_encode pairs

end PortableSql.Url

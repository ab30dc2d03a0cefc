import Mathlib.Data.List.Basic
import PortableSql.Proofs.Text.Casing
import PortableSql.Url.Library

namespace PortableSql

variable {υ : Type} [UrlLibrary υ] {url : υ}

namespace UrlLibrary

/-- The schemes whose hosts are domains or files. -/
def specialSchemes : List String := ["http", "https", "ws", "wss", "ftp", "file"]

/-- A URL as it was read, maybe with another query, whose scheme gives hosts no meaning. -/
inductive Parsed : υ → Prop
  | read {text : List Char} {url : υ} (h : UrlLibrary.read text = .ok url)
    (hscheme : String.ofList (scheme url) ∉ specialSchemes) : Parsed url
  | withoutQuery {url : υ} (h : Parsed url) : Parsed (withoutQuery url)
  | withQueryPairs {url : υ} (h : Parsed url) (pairs : List Form.Pair) :
    Parsed (withQueryPairs url pairs)

/-- What can follow the path: spaces that end it, a query, or a fragment. -/
def pathEnds : List Char := [' ', '?', '#']

/-- Texts that differ only from where a path ends. -/
def SameUpToPath (a b : List Char) : Prop :=
  ∃ front left right, a = front ++ left ∧ b = front ++ right ∧
    (∀ c ∈ left.head?, c ∈ pathEnds) ∧ ∀ c ∈ right.head?, c ∈ pathEnds

namespace SameUpToPath

variable {a b opening : List Char}

theorem prefix_iff (h : SameUpToPath a b) (hopening : ∀ c ∈ pathEnds, c ∉ opening) :
    opening <+: a ↔ opening <+: b := by
  obtain ⟨front, left, right, rfl, rfl, hleft, hright⟩ := h
  rw [Chars.prefix_append_iff fun c hc => hopening c (hleft c hc),
    Chars.prefix_append_iff fun c hc => hopening c (hright c hc)]

theorem map_toLower (h : SameUpToPath a b) :
    SameUpToPath (a.map Char.toLower) (b.map Char.toLower) := by
  have hlower : ∀ c ∈ pathEnds, c.toLower ∈ pathEnds := by decide
  have hhead {tail : List Char} (htail : ∀ c ∈ tail.head?, c ∈ pathEnds) :
      ∀ c ∈ (tail.map Char.toLower).head?, c ∈ pathEnds := by
    intro c hc
    rw [List.head?_map] at hc
    obtain ⟨x, hx, rfl⟩ := Option.map_eq_some_iff.mp hc
    exact hlower x (htail x hx)
  obtain ⟨front, left, right, rfl, rfl, hleft, hright⟩ := h
  exact ⟨_, _, _, List.map_append, List.map_append, hhead hleft, hhead hright⟩

end SameUpToPath

end UrlLibrary

open UrlLibrary

/-- What is relied on in a library for URLs. -/
class LawfulUrlLibrary (υ : Type) [UrlLibrary υ] : Prop where
  scheme_char {text : List Char} {url : υ} : read text = .ok url → ∀ c ∈ scheme url,
    (c.isAlphanum = true ∨ c ∈ ['+', '-', '.']) ∧ c.toLower = c
  text_of_read {text : List Char} {url : υ} : read text = .ok url →
    ∃ rest, UrlLibrary.text url = scheme url ++ ':' :: rest
  /-- A URL is read back from its text. -/
  read_text {url : υ} : Parsed url → read (text url) = .ok url
  /-- Any other character is encoded. -/
  ascii {url : υ} : Parsed url → ∀ c ∈ text url, c.toNat < 0x80
  path_subset (url : υ) : path url ⊆ text url
  queryPairs_withoutQuery (url : υ) : queryPairs (withoutQuery url) = []
  queryPairs_withQueryPairs (url : υ) (pairs : List Form.Pair) :
    queryPairs (withQueryPairs url pairs) = pairs
  withoutQuery_again (url : υ) : withoutQuery (withoutQuery url) = withoutQuery url
  withQueryPairs_again (url : υ) (pairs : List Form.Pair) :
    withQueryPairs (withQueryPairs url pairs) pairs = withQueryPairs url pairs
  text_withoutQuery (url : υ) : SameUpToPath (text (withoutQuery url)) (text url)
  text_withQueryPairs (url : υ) (pairs : List Form.Pair) :
    SameUpToPath (text (withQueryPairs url pairs)) (text url)

namespace UrlLibrary

/-- The URL with the given pairs for its query, or without one where there are none. -/
def withPairs (url : υ) (pairs : List Form.Pair) : υ :=
  if pairs.isEmpty then withoutQuery url else withQueryPairs url pairs

theorem Parsed.withPairs (h : Parsed url) (pairs : List Form.Pair) :
    Parsed (withPairs url pairs) := by
  unfold UrlLibrary.withPairs
  split
  next => exact h.withoutQuery
  next => exact h.withQueryPairs pairs

variable [LawfulUrlLibrary υ]

theorem queryPairs_withPairs (url : υ) (pairs : List Form.Pair) :
    queryPairs (withPairs url pairs) = pairs := by
  unfold withPairs
  split
  next hnone =>
    rw [List.isEmpty_iff.mp hnone]
    exact LawfulUrlLibrary.queryPairs_withoutQuery url
  next => exact LawfulUrlLibrary.queryPairs_withQueryPairs url pairs

theorem withPairs_again (url : υ) (pairs : List Form.Pair) :
    withPairs (withPairs url pairs) pairs = withPairs url pairs := by
  unfold withPairs
  split
  next => exact LawfulUrlLibrary.withoutQuery_again url
  next => exact LawfulUrlLibrary.withQueryPairs_again url pairs

theorem text_withPairs (url : υ) (pairs : List Form.Pair) :
    SameUpToPath (text (withPairs url pairs)) (text url) := by
  unfold withPairs
  split
  next => exact LawfulUrlLibrary.text_withoutQuery url
  next => exact LawfulUrlLibrary.text_withQueryPairs url pairs

end UrlLibrary

end PortableSql

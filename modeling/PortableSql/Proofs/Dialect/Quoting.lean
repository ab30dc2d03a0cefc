import PortableSql.Proofs.Dialect.Reading
import PortableSql.Proofs.Number.Notation
import PortableSql.Proofs.Text.Chars

namespace PortableSql

open Dialect

variable {d : Dialect} {commas : Bool}

theorem shows_quoteSegment {allowed : Char → Prop} (hstar : allowed '*') (segment : List Char) :
    Shows d allowed (d.quoteSegment segment) := by
  unfold quoteSegment
  split
  next => exact shows_of_forall (by simpa using ⟨by decide, hstar⟩)
  next =>
    refine shows_quoted ?_ (.inr (.inr rfl)) segment
    cases d <;> rfl

theorem shows_intercalate_dot {allowed : Char → Prop} (hdot : allowed '.')
    {segments : List (List Char)} (h : ∀ s ∈ segments, Shows d allowed s) :
    Shows d allowed (['.'].intercalate segments) := by
  induction segments with
  | nil => exact shows_nil
  | cons segment segments ih =>
    have hsegment := h segment List.mem_cons_self
    have hrest := ih fun s hs => h s (List.mem_cons_of_mem _ hs)
    cases segments with
    | nil => simpa using hsegment
    | cons next segments =>
      rw [List.intercalate_cons_cons]
      simpa using hsegment.separated hrest (by decide) hdot

/-- Outside of its quotes a name has at most dots, and stars for whole segments. -/
theorem shows_quoteIdentifier {allowed : Char → Prop} (hdot : allowed '.') (hstar : allowed '*')
    (name : String) : Shows d allowed (d.quoteIdentifier name).toList := by
  have hname : Shows d allowed (d.quoteName name.toList) := by
    refine shows_intercalate_dot hdot fun s hs => ?_
    obtain ⟨segment, _, rfl⟩ := List.mem_map.mp hs
    exact shows_quoteSegment hstar segment
  rwa [quoteIdentifier, String.toList_ofList]

theorem flat_quoteIdentifier (name : String) : Flat d (d.quoteIdentifier name).toList :=
  shows_quoteIdentifier (by decide) (by decide) name

theorem shows_quoteString {allowed : Char → Prop} (text : String) :
    Shows d allowed (quoteString text).toList := by
  rw [quoteString, String.toList_ofList]
  exact shows_quoted rfl (.inr (.inl rfl)) text.toList

theorem flat_quoteString (text : String) : Flat d (quoteString text).toList :=
  shows_quoteString text

theorem clause_commaSeparated {items : List String} (h : ∀ s ∈ items, Clause d true s.toList) :
    Clause d true (commaSeparated items).toList := by
  rw [commaSeparated, String.toList_intercalate]
  induction items with
  | nil => exact flat_nil.clause
  | cons item items ih =>
    have hitem := h item List.mem_cons_self
    have hrest := ih fun s hs => h s (List.mem_cons_of_mem _ hs)
    cases items with
    | nil => simpa using hitem
    | cons next items =>
      rw [List.map_cons, List.map_cons, List.intercalate_cons_cons]
      have hspace : Clause d true
          (' ' :: ", ".toList.intercalate ((next :: items).map String.toList)) :=
        flat_nil.clause.separated hrest (by decide) rfl
      simpa using hitem.separated hspace (c := ',') (by decide) rfl

theorem clause_quoteIdentifiers (names : List String) :
    Clause d true (d.quoteIdentifiers names).toList := by
  refine clause_commaSeparated fun s hs => ?_
  obtain ⟨name, _, rfl⟩ := List.mem_map.mp hs
  exact (flat_quoteIdentifier name).clause

theorem not_mem_structureMarks_of_isDigit {c : Char} (h : c.isDigit = true) :
    c ∉ structureMarks := by
  have := Numeral.toNat_of_isDigit h
  intro hc
  have hall : ∀ x ∈ structureMarks, x.toNat < 48 ∨ 57 < x.toNat := by decide
  have := hall c hc
  omega

theorem flat_digits (n : Nat) : Flat d (Nat.toDigits 10 n) :=
  flat_of_forall fun _ hc => not_mem_structureMarks_of_isDigit (Numeral.isDigit_of_mem_digits hc)

theorem flat_toString_int (n : Int) : Flat d (toString n).toList := by
  rw [Numeral.toList_toString_int]
  split
  next => exact flat_nil.separated (flat_digits _) (by decide)
  next => exact flat_digits _

theorem flat_floatText (x : Binary64) : Flat d (Json.floatText x).toList := by
  refine flat_of_forall fun c hc => ?_
  rcases Notation.isNumberChar_floatText x c hc with hdigit | hmark
  · exact not_mem_structureMarks_of_isDigit hdigit
  · have hall : ∀ x ∈ ['.', 'e', '-', '+'], x ∉ structureMarks := by decide
    exact hall c hmark

theorem clause_boolLiteral (e : Dialect) (value : Bool) :
    Clause d commas (e.boolLiteral value).toList := by
  refine Flat.clause (flat_of_forall ?_)
  cases e <;> cases value <;> decide

theorem clause_timeKeyword {text : String} (h : text ∈ timeKeywords) :
    Clause d commas text.toList := by
  have hall : ∀ word ∈ timeKeywords, Clause d commas word.toList := by
    cases d <;> cases commas <;> decide
  exact hall text h

theorem clause_quoteText (e : Dialect) (text : String) (type : Option ColumnType) :
    Clause d commas (e.quoteText text type).toList := by
  unfold quoteText
  split
  next h =>
    rw [Bool.and_eq_true, List.contains_iff_mem] at h
    exact clause_timeKeyword h.2
  next =>
    split
    next =>
      split
      · exact clause_boolLiteral e true
      · exact clause_boolLiteral e true
      · exact clause_boolLiteral e false
      · exact clause_boolLiteral e false
      · exact (flat_quoteString text).clause
    next => exact (flat_quoteString text).clause

/-- A literal leaves nothing open: whatever a text has in it is in quotes. -/
theorem clause_quote (e : Dialect) (value : Json) (type : Option ColumnType) :
    Clause d commas (e.quote value type).toList := by
  have hnull : Flat d "NULL".toList := flat_of_forall (by decide)
  cases value with
  | null => exact hnull.clause
  | bool b => exact clause_boolLiteral e b
  | int n => exact (flat_toString_int n).clause
  | float x => exact (flat_floatText x).clause
  | str text => exact clause_quoteText e text type
  | arr items => exact (flat_quoteString _).clause
  | obj fields => exact (flat_quoteString _).clause

end PortableSql

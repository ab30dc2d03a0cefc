import PortableSql.Dialect.Quoting
import PortableSql.Proofs.Text.Scanner

namespace PortableSql.Dialect

open Scanner

/-- A bare star, or what stands in quotes, with the end quote doubled in it. -/
def scanSegment (d : Dialect) : Scanner (List Char)
  | [] => none
  | c :: rest =>
    if c = '*' then some (['*'], rest)
    else if c = d.startQuote then quoted d.endQuote (doubled? d.endQuote) rest
    else none

/-- The segments of a name, with dots between them. -/
def scanName (d : Dialect) : Scanner (List (List Char)) := separated ['.'] d.scanSegment

/-- The names of a whole text, each in its segments. -/
def segmentedNames? (d : Dialect) (text : String) : Option (List (List (List Char))) :=
  if text = "" then some []
  else
    match separated ", ".toList d.scanName text.toList with
    | some (names, []) => some names
    | _ => none

/-- The names of a whole text. -/
def names? (d : Dialect) (text : String) : Option (List String) :=
  (d.segmentedNames? text).map (·.map fun segments => String.ofList (['.'].intercalate segments))

section

variable {d : Dialect} {rest : List Char}

theorem scans_quoteSegment (segment : List Char) (h : rest.head? ≠ some d.endQuote) :
    Scans d.scanSegment (d.quoteSegment segment) segment rest := by
  unfold quoteSegment
  split
  next hstar =>
    subst hstar
    rfl
  next hstar =>
    have hstart : d.startQuote ≠ '*' := by cases d <;> decide
    have hscan := scans_quoted_double segment h
    unfold Scans at hscan ⊢
    rw [List.cons_append, List.cons_append, scanSegment, if_neg hstart, if_pos rfl, hscan]

theorem scans_quoteName {segments : List (List Char)} (hne : segments ≠ [])
    (hquote : rest.head? ≠ some d.endQuote) (hdot : rest.head? ≠ some '.') :
    Scans d.scanName (['.'].intercalate (segments.map d.quoteSegment)) segments rest := by
  have hend : d.endQuote ≠ '.' := by cases d <;> decide
  refine scans_separated hne (List.cons_ne_nil _ _) (fun segment _ more => ?_)
    (fun segment _ => scans_quoteSegment segment hquote) ?_
  · refine scans_quoteSegment segment fun h => hend ?_
    exact (Option.some.inj h).symm
  · cases rest with
    | nil => rfl
    | cons c rest =>
      have hc : '.' ≠ c := fun h => hdot (by rw [h]; rfl)
      simp [Chars.stripStart?, hc]

theorem scans_quoteNames {names : List (List (List Char))} (hne : names ≠ [])
    (hnames : ∀ segments ∈ names, segments ≠ []) (hquote : rest.head? ≠ some d.endQuote)
    (hdot : rest.head? ≠ some '.') (hcomma : rest.head? ≠ some ',') :
    Scans (separated ", ".toList d.scanName)
      (", ".toList.intercalate (names.map fun segments =>
        ['.'].intercalate (segments.map d.quoteSegment))) names rest := by
  have hend : d.endQuote ≠ ',' := by cases d <;> decide
  refine scans_separated hne (by decide) (fun segments hs more => ?_)
    (fun segments hs => scans_quoteName (hnames segments hs) hquote hdot) ?_
  · refine scans_quoteName (hnames segments hs) (fun h => hend ?_) fun h => ?_
    · exact (Option.some.inj h).symm
    · exact absurd (Option.some.inj h) (by decide)
  · cases rest with
    | nil => rfl
    | cons c rest =>
      have hc : ',' ≠ c := fun h => hcomma (by rw [h]; rfl)
      have hmark : ", ".toList = [',', ' '] := by decide
      simp [hmark, Chars.stripStart?, hc]

theorem toList_quoteIdentifiers (names : List String) :
    (d.quoteIdentifiers names).toList = ", ".toList.intercalate
      ((names.map fun name => Chars.splitOn '.' name.toList).map fun segments =>
        ['.'].intercalate (segments.map d.quoteSegment)) := by
  simp [quoteIdentifiers, commaSeparated, String.toList_intercalate, quoteIdentifier, quoteName,
    Function.comp_def]

theorem scans_quoteIdentifiers {names : List String} (hne : names ≠ [])
    (hquote : rest.head? ≠ some d.endQuote) (hdot : rest.head? ≠ some '.')
    (hcomma : rest.head? ≠ some ',') :
    Scans (separated ", ".toList d.scanName) (d.quoteIdentifiers names).toList
      (names.map fun name => Chars.splitOn '.' name.toList) rest := by
  rw [toList_quoteIdentifiers]
  refine scans_quoteNames (by simpa using hne) (fun segments hs => ?_) hquote hdot hcomma
  obtain ⟨name, _, rfl⟩ := List.mem_map.mp hs
  exact Chars.splitOn_ne_nil '.' name.toList

theorem segmentedNames?_quoteIdentifiers (names : List String) :
    d.segmentedNames? (d.quoteIdentifiers names) =
      some (names.map fun name => Chars.splitOn '.' name.toList) := by
  by_cases hempty : names = []
  · subst hempty
    rfl
  · have hscan : Scans (separated ", ".toList d.scanName) (d.quoteIdentifiers names).toList
        (names.map fun name => Chars.splitOn '.' name.toList) [] :=
      scans_quoteIdentifiers hempty nofun nofun nofun
    rw [Scans, List.append_nil] at hscan
    have hne : d.quoteIdentifiers names ≠ "" := by
      intro htext
      rw [htext] at hscan
      cases hscan
    rw [segmentedNames?, if_neg hne, hscan]

end

/-- Names in quotes are read back from their text, whatever characters they have, so that no two
names and no two lists of names are written alike. -/
theorem names?_quoteIdentifiers (d : Dialect) :
    (∀ names, d.names? (d.quoteIdentifiers names) = some names) ∧
      Function.Injective d.quoteIdentifier ∧ Function.Injective d.quoteIdentifiers := by
  have hread (names : List String) : d.names? (d.quoteIdentifiers names) = some names := by
    rw [names?, segmentedNames?_quoteIdentifiers, Option.map_some, List.map_map]
    simp [Function.comp_def, Chars.intercalate_splitOn]
  have hlists : Function.Injective d.quoteIdentifiers := by
    intro names others h
    have hsame := hread names
    rw [h, hread] at hsame
    exact (Option.some.inj hsame).symm
  refine ⟨hread, fun name other h => ?_, hlists⟩
  have hsingle (name : String) : d.quoteIdentifiers [name] = d.quoteIdentifier name := by
    simp [quoteIdentifiers, commaSeparated]
  have hsame : d.quoteIdentifiers [name] = d.quoteIdentifiers [other] := by
    rw [hsingle, hsingle, h]
  exact List.singleton_inj.mp (hlists hsame)

/-- Brackets, commas, dots and stars in names. -/
example : sqlserver.names? "[a]], [b], *.[], []" = some ["a], [b", "*.", ""] := by
  decide

end PortableSql.Dialect

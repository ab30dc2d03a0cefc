import PortableSql.Proofs.Text.Chars

namespace PortableSql

/-- Takes something from the front of a text, and gives what is left with it. -/
abbrev Scanner (A : Type) := List Char → Option (A × List Char)

namespace Scanner

variable {A : Type}

/-- What follows an opening quote, up to the closing one. Two characters that combine are read
together. -/
def quoted (close : Char) (combine? : Char → Char → Option (List Char)) : Scanner (List Char)
  | [] => none
  | [c] => if c = close then some ([], []) else none
  | c :: next :: rest =>
    match combine? c next with
    | some value => (quoted close combine? rest).map fun (more, rest) => (value ++ more, rest)
    | none =>
      if c = close then some ([], next :: rest)
      else (quoted close combine? (next :: rest)).map fun (more, rest) => (c :: more, rest)

/-- The end quote written twice stands for itself, and every other character for itself alone. -/
def doubled? (close c next : Char) : Option (List Char) :=
  if c = close ∧ next = close then some [close] else none

/-- Items with a mark between them, at most as many as the number says. -/
def listed (mark : List Char) (item : Scanner A) : Nat → Scanner (List A)
  | 0, _ => none
  | number + 1, text =>
    (item text).bind fun (a, rest) =>
      match Chars.stripStart? mark rest with
      | some more =>
        (listed mark item number more).map fun (others, rest) => (a :: others, rest)
      | none => some ([a], rest)

/-- All the items up to where no mark follows. -/
def separated (mark : List Char) (item : Scanner A) : Scanner (List A) :=
  fun text => listed mark item (text.length + 1) text

/-- One thing behind the other. -/
def andThen (first second : Scanner (List Char)) : Scanner (List Char) := fun text =>
  (first text).bind fun (taken, rest) =>
    (second rest).map fun (more, rest) => (taken ++ more, rest)

/-- Something behind one of some marks, or nothing where there is no mark. -/
def introduced (marks : List Char) (behind : Scanner (List Char)) : Scanner (List Char)
  | c :: rest =>
    if c ∈ marks then (behind rest).map fun (taken, rest) => (c :: taken, rest)
    else some ([], c :: rest)
  | [] => some ([], [])

def nothing : Scanner (List Char) := fun rest => some ([], rest)

/-- The text is taken from the front of the rest, and nothing else. -/
def Scans (s : Scanner A) (text : List Char) (a : A) (rest : List Char) : Prop :=
  s (text ++ rest) = some (a, rest)

/-- The longest run of characters of a kind ends where one of another kind follows. -/
theorem takeWhile_dropWhile_append {p : Char → Bool} {text rest : List Char}
    (htext : ∀ c ∈ text, p c = true) (hrest : ∀ c ∈ rest.head?, p c = false) :
    (text ++ rest).takeWhile p = text ∧ (text ++ rest).dropWhile p = rest := by
  have hstop : rest.takeWhile p = [] ∧ rest.dropWhile p = rest := by
    cases rest with
    | nil => exact ⟨rfl, rfl⟩
    | cons c rest => simp [hrest c rfl]
  rw [List.takeWhile_append_of_pos htext, List.dropWhile_append_of_pos htext, hstop.1, hstop.2,
    List.append_nil]
  exact ⟨rfl, rfl⟩

section

variable {close c : Char} {combine? : Char → Char → Option (List Char)} {text rest : List Char}

theorem quoted_combined {next : Char} {value : List Char} (h : combine? c next = some value)
    (rest : List Char) : quoted close combine? (c :: next :: rest) =
      (quoted close combine? rest).map fun (more, rest) => (value ++ more, rest) := by
  simp only [quoted, h]

theorem quoted_ordinary (hclose : c ≠ close) (h : ∀ next, combine? c next = none)
    (rest : List Char) : quoted close combine? (c :: rest) =
      (quoted close combine? rest).map fun (more, rest) => (c :: more, rest) := by
  cases rest with
  | nil => simp [quoted, hclose]
  | cons next rest => simp [quoted, h, hclose]

theorem quoted_close (h : ∀ next ∈ rest.head?, combine? close next = none) :
    quoted close combine? (close :: rest) = some ([], rest) := by
  cases rest with
  | nil => simp [quoted]
  | cons next rest => simp [quoted, h next rfl]

/-- A text whose end quotes are doubled is read back from its quotes. -/
theorem scans_quoted_double (text : List Char) (h : rest.head? ≠ some close) :
    Scans (quoted close (doubled? close)) (Chars.double close text ++ [close]) text rest := by
  have halone : ∀ next ∈ rest.head?, doubled? close close next = none := by
    rintro next hnext
    refine if_neg fun hboth => h ?_
    rw [← hboth.2]
    exact hnext
  unfold Scans
  induction text with
  | nil => exact quoted_close halone
  | cons c text ih =>
    unfold Chars.double
    split
    next hc =>
      have hpair : doubled? close close close = some [close] := if_pos ⟨rfl, rfl⟩
      rw [List.cons_append, List.cons_append, List.cons_append, List.cons_append,
        quoted_combined hpair, ih, hc]
      rfl
    next hc =>
      rw [List.cons_append, List.cons_append,
        quoted_ordinary hc fun next => if_neg fun hboth => hc hboth.1, ih]
      rfl

end

section

variable {first second : Scanner (List Char)} {a b x y rest : List Char} {c : Char}
  {marks : List Char}

theorem Scans.andThen (hfirst : Scans first a x (b ++ rest)) (hsecond : Scans second b y rest) :
    Scans (first.andThen second) (a ++ b) (x ++ y) rest := by
  unfold Scans at hfirst hsecond ⊢
  simp only [List.append_assoc, Scanner.andThen, hfirst, Option.bind_some, hsecond, Option.map_some]

theorem Scans.introduced (hc : c ∈ marks) (h : Scans first a x rest) :
    Scans (introduced marks first) (c :: a) (c :: x) rest := by
  unfold Scans at h ⊢
  rw [List.cons_append, Scanner.introduced, if_pos hc, h]
  rfl

theorem scans_introduced_nil (h : ∀ c ∈ rest.head?, c ∉ marks) :
    Scans (Scanner.introduced marks first) [] [] rest := by
  cases rest with
  | nil => rfl
  | cons c rest => exact if_neg (h c rfl)

theorem scans_nothing : Scans nothing [] [] rest := rfl

end

section

variable {mark rest : List Char} {item : Scanner A} {written : A → List Char}

theorem listed_last {a : A} {number : Nat} (hitem : Scans item (written a) a rest)
    (hrest : Chars.stripStart? mark rest = none) :
    Scans (listed mark item (number + 1)) (written a) [a] rest := by
  unfold Scans at hitem ⊢
  rw [listed, hitem, Option.bind_some]
  simp only [hrest]

/-- Items are read back from their texts, where none of these goes on into a mark or into what
follows. -/
theorem scans_listed {items : List A} {number : Nat} (hne : items ≠ [])
    (hnumber : items.length ≤ number)
    (hmark : ∀ a ∈ items, ∀ more, Scans item (written a) a (mark ++ more))
    (hlast : ∀ a ∈ items, Scans item (written a) a rest)
    (hrest : Chars.stripStart? mark rest = none) :
    Scans (listed mark item number) (mark.intercalate (items.map written)) items rest := by
  induction items generalizing number with
  | nil => exact absurd rfl hne
  | cons a items ih =>
    obtain ⟨number, rfl⟩ : ∃ n, number = n + 1 := ⟨number - 1, by simp at hnumber; omega⟩
    cases items with
    | nil => simpa using listed_last (hlast a List.mem_cons_self) hrest
    | cons b items =>
      have hlength : (b :: items).length ≤ number := by simpa using hnumber
      have hothers := ih (List.cons_ne_nil _ _) hlength
        (fun x hx => hmark x (List.mem_cons_of_mem _ hx))
        fun x hx => hlast x (List.mem_cons_of_mem _ hx)
      have hfirst := hmark a List.mem_cons_self
        (mark.intercalate ((b :: items).map written) ++ rest)
      unfold Scans at hothers hfirst ⊢
      rw [List.map_cons, List.map_cons, List.intercalate_cons_cons, ← List.map_cons,
        List.append_assoc, List.append_assoc, listed, hfirst, Option.bind_some]
      simp only [Chars.stripStart?_append, hothers]
      rfl

theorem scans_separated {items : List A} (hne : items ≠ []) (hmarks : mark ≠ [])
    (hmark : ∀ a ∈ items, ∀ more, Scans item (written a) a (mark ++ more))
    (hlast : ∀ a ∈ items, Scans item (written a) a rest)
    (hrest : Chars.stripStart? mark rest = none) :
    Scans (separated mark item) (mark.intercalate (items.map written)) items rest := by
  have hlength := Chars.length_le_intercalate hmarks (items.map written)
  rw [List.length_map] at hlength
  refine scans_listed hne ?_ hmark hlast hrest
  rw [List.length_append]
  omega

end

end Scanner

end PortableSql

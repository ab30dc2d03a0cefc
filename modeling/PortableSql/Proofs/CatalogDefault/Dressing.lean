import PortableSql.Proofs.CatalogDefault

namespace PortableSql

/-- A type in a cast, without quotes, parentheses and colons. -/
structure TypeName where
  text : String
  plain : ∀ c ∈ text.toList, c ∉ ['\'', '(', ')', ':']

/-- What a catalog puts around a default. -/
inductive Layer where
  | parentheses
  | cast (type : TypeName)

namespace Layer

def wrap : Layer → List Char → List Char
  | parentheses, text => '(' :: (text ++ [')'])
  | cast type, text => text ++ ':' :: ':' :: type.text.toList

/-- A text in some layers, the outermost first. -/
def dress (layers : List Layer) (text : List Char) : List Char := layers.foldr wrap text

def dressText (layers : List Layer) (text : String) : String :=
  String.ofList (dress layers text.toList)

theorem dress_cons (layer : Layer) (layers : List Layer) (text : List Char) :
    dress (layer :: layers) text = layer.wrap (dress layers text) := rfl

theorem dressText_nil (text : String) : dressText [] text = text := String.ofList_toList

end Layer

namespace CatalogDefault

open Chars Layer

variable {text core : List Char}

/-- A dressed text begins with a character that is not blank. -/
theorem Bare.head?_dress (h : Bare core) (layers : List Layer) :
    ∃ c rest, dress layers core = c :: rest ∧ isBlank c = false := by
  induction layers with
  | nil =>
    obtain ⟨c, rest, hcore⟩ := List.exists_cons_of_ne_nil h.ne_nil
    exact ⟨c, rest, hcore, h.first c (by rw [hcore]; rfl)⟩
  | cons layer layers ih =>
    obtain ⟨c, rest, htext, hc⟩ := ih
    cases layer with
    | parentheses => exact ⟨'(', _, rfl, by decide⟩
    | cast type => exact ⟨c, _, by rw [dress_cons, htext]; rfl, hc⟩

/-- A text that in parentheses closes none of them. -/
def Balanced (text : List Char) : Prop :=
  ∀ depth : Int, 1 ≤ depth → ∀ rest,
    closesEarly depth false (text ++ rest) = closesEarly depth false rest

theorem balanced_of_plain (h : ∀ c ∈ text, c ∉ ['\'', '(', ')']) : Balanced text :=
  fun depth _ rest => closesEarly_append h depth false rest

theorem Balanced.append {first second : List Char} (hfirst : Balanced first)
    (hsecond : Balanced second) : Balanced (first ++ second) := by
  intro depth hdepth rest
  rw [List.append_assoc, hfirst depth hdepth, hsecond depth hdepth]

theorem Balanced.parentheses (h : Balanced text) : Balanced (Layer.parentheses.wrap text) := by
  intro depth hdepth rest
  have hopen := h (depth + 1) (Int.le_add_one hdepth) (')' :: rest)
  have hne : depth + 1 ≠ 1 := by omega
  simp [wrap, closesEarly, hopen, hne]

theorem balanced_cast {type : List Char} (h : ∀ c ∈ type, c ∉ ['\'', '(', ')', ':']) :
    Balanced (':' :: ':' :: type) := by
  refine balanced_of_plain fun c hc => ?_
  rcases List.mem_cons.mp hc with rfl | hc
  · decide
  rcases List.mem_cons.mp hc with rfl | hc
  · decide
  exact fun hmark => h c hc (List.mem_append_left [':'] hmark)

theorem Bare.balanced_dress (h : Bare core) (layers : List Layer) :
    Balanced (dress layers core) := by
  induction layers with
  | nil => exact fun depth _ rest => h.passed depth rest
  | cons layer layers ih =>
    cases layer with
    | parentheses => exact ih.parentheses
    | cast type => exact ih.append (balanced_cast type.plain)

theorem Bare.sequence_dress (h : Bare core) (layers : List Layer) (rest : List Char) :
    startsWith "nextval(".toList (lower (dress layers core ++ rest)) = false := by
  induction layers generalizing rest with
  | nil => exact h.sequence rest
  | cons layer layers ih =>
    cases layer with
    | parentheses => exact startsWith_lower_eq_false (by decide) (by decide) _
    | cast type =>
      rw [dress_cons, wrap, List.append_assoc]
      exact ih _

theorem getLast?_parentheses (text : List Char) :
    (Layer.parentheses.wrap text).getLast? = some ')' :=
  List.getLast?_concat (l := '(' :: text)

theorem trim_parentheses (text : List Char) :
    trim (Layer.parentheses.wrap text) = Layer.parentheses.wrap text := by
  refine trim_eq_self ?_ ?_
  · rintro c ⟨rfl⟩
    decide
  · rw [getLast?_parentheses]
    rintro c ⟨rfl⟩
    decide

theorem Balanced.stripParens_parentheses (h : Balanced text) :
    stripParens (Layer.parentheses.wrap text) = trim text := by
  have hcloses : closesEarly 0 false (Layer.parentheses.wrap text) = false := by
    have hinside := h 1 (Int.le_refl 1) [')']
    simpa [wrap, closesEarly] using hinside
  simp only [stripParens, trim_parentheses, getLast?_parentheses, hcloses]
  simp [wrap]

theorem Bare.trim_cast (h : Bare core) (layers : List Layer) (type : List Char) :
    trim (dress layers core ++ ':' :: ':' :: type) =
      dress layers core ++ ':' :: ':' :: trimEnd type := by
  obtain ⟨c, rest, htext, hc⟩ := h.head?_dress layers
  have hstart : trimStart (dress layers core ++ ':' :: ':' :: type) =
      dress layers core ++ ':' :: ':' :: type := by
    refine trimStart_eq_self ?_
    rw [htext]
    rintro d ⟨rfl⟩
    exact hc
  have hend : trimEnd (':' :: type) = ':' :: trimEnd type :=
    trimEnd_append_cons (by decide) [] type
  rw [trim, hstart, trimEnd_append_cons (by decide), hend]

/-- What is left of a cast when a text is stripped once. -/
theorem Bare.stripCast_cast (h : Bare core) (layers : List Layer) (type : TypeName) :
    stripCast (trim (dress layers core ++ ':' :: ':' :: type.text.toList)) =
      trim (dress layers core) := by
  have hplain {c : Char} (hc : c ∈ ['\'', '(', ')', ':']) : c ∉ trimEnd type.text.toList :=
    fun hmem => type.plain c (mem_of_mem_trimEnd hmem) hc
  have hquote := hplain (c := '\'') (by decide)
  have hclose := hplain (c := ')') (by decide)
  rw [h.trim_cast, stripCast, cutLastPair_append _ (hplain (by decide))]
  simp [hquote, hclose]

theorem Bare.stripParens_cast (h : Bare core) (layers : List Layer) (type : TypeName) :
    stripParens (trim (dress layers core ++ ':' :: ':' :: type.text.toList)) =
      trim (dress layers core ++ ':' :: ':' :: type.text.toList) := by
  have hclose : ')' ∉ trimEnd type.text.toList :=
    fun hmem => type.plain _ (mem_of_mem_trimEnd hmem) (by decide)
  have hlast : (dress layers core ++ ':' :: ':' :: trimEnd type.text.toList).getLast? ≠
      some ')' := by
    rw [List.getLast?_append, List.getLast?_cons_cons]
    intro heq
    have hmem := List.mem_of_getLast? (by simpa using heq)
    simp [hclose] at hmem
  rw [h.trim_cast, stripParens, h.trim_cast, trimEnd_trimEnd]
  exact if_neg fun henclosed => hlast henclosed.2.1

/-- Stripping a text as long as there is something to strip leaves what was dressed, and so does
stripping it of a cast first. -/
theorem Bare.strip_dress (h : Bare core) (layers : List Layer) {fuel : Nat}
    (hfuel : (trim (dress layers core)).length < fuel) :
    strip fuel (trim (dress layers core)) = core ∧
      strip fuel (stripCast (trim (dress layers core))) = core := by
  induction layers generalizing fuel with
  | nil =>
    rw [dress, List.foldr_nil, h.trim_eq, h.cast]
    exact ⟨strip_eq_self h.stripped fuel, strip_eq_self h.stripped fuel⟩
  | cons layer layers ih =>
    obtain ⟨fuel, rfl⟩ := Nat.exists_eq_add_one_of_ne_zero (Nat.ne_zero_of_lt hfuel)
    cases layer with
    | parentheses =>
      have hinside := length_trim_le (dress layers core)
      have hcast := length_stripCast_le (trim (dress layers core))
      have hwhole : (Layer.parentheses.wrap (dress layers core)).length =
          (dress layers core).length + 2 := by simp [wrap]
      rw [dress_cons, trim_parentheses] at hfuel ⊢
      have hinner := (h.balanced_dress layers).stripParens_parentheses
      have hstrip := strip_of_length_lt (Layer.parentheses.wrap (dress layers core))
        (by rw [hinner]; omega) fuel
      rw [hinner, (ih (by omega)).2] at hstrip
      rw [stripCast_of_last (getLast?_parentheses _) (.inr rfl)]
      exact ⟨hstrip, hstrip⟩
    | cast type =>
      have hinside := length_trim_le (dress layers core)
      have hwhole : (trim (dress layers core ++ ':' :: ':' :: type.text.toList)).length =
          (dress layers core).length + ((trimEnd type.text.toList).length + 2) := by
        rw [h.trim_cast, List.length_append, List.length_cons, List.length_cons]
      rw [dress_cons, wrap] at hfuel ⊢
      have hstrip := strip_of_length_lt _ (by
        rw [h.stripParens_cast, h.stripCast_cast, hwhole]
        omega) fuel
      rw [h.stripParens_cast, h.stripCast_cast, (ih (by omega)).1] at hstrip
      rw [h.stripCast_cast]
      exact ⟨hstrip, (ih (by omega)).1⟩

/-- A dressed text is a default as what was dressed, but for its quotes. -/
theorem Bare.ofCatalog_dress (h : Bare core) (layers : List Layer) :
    ofCatalog (dressText layers (String.ofList core)) =
      value (String.ofList ((unquote? core).getD core)) := by
  have hstart : startsWith "nextval(".toList (lower (trim (dress layers core))) =
      false := by
    cases layers with
    | nil => simpa [dress, h.trim_eq] using h.sequence []
    | cons layer layers =>
      cases layer with
      | parentheses =>
        rw [dress_cons, trim_parentheses]
        exact startsWith_lower_eq_false (by decide) (by decide) _
      | cast type =>
        rw [dress_cons, wrap, h.trim_cast]
        exact h.sequence_dress layers _
  have hstrip := (h.strip_dress layers (Nat.lt_succ_self _)).1
  have hempty : core.isEmpty = false := List.isEmpty_eq_false_iff.mpr h.ne_nil
  have hword : (asciiLower core == "null".toList) = false := beq_eq_false_iff_ne.mpr h.word
  have htext : (dressText layers (String.ofList core)).toList = dress layers core := by
    rw [dressText, String.toList_ofList, String.toList_ofList]
  rw [ofCatalog, htext, hstart, if_neg Bool.false_ne_true]
  simp only [hstrip, hempty, hword, Bool.or_self, if_neg Bool.false_ne_true]

theorem unquote?_quoted {mark : List Char} (hmark : mark = [] ∨ mark = ['N']) (text : List Char) :
    unquote? (mark ++ ('\'' :: double '\'' text ++ ['\''])) = some text := by
  unfold unquote?
  rcases hmark with rfl | rfl <;> simp [stripEnd?_append, halve_double]

/-- What does not begin with a quote, nor with the mark of a national string before one. -/
theorem unquote?_cons {c : Char} (hquote : c ≠ '\'') {rest : List Char}
    (hnational : c = 'N' → rest.head? ≠ some '\'') : unquote? (c :: rest) = none := by
  unfold unquote?
  split
  next heq =>
    obtain ⟨hn, rfl⟩ := List.cons_eq_cons.mp heq
    exact absurd rfl (hnational hn)
  next heq => exact absurd (List.head_eq_of_cons_eq heq) hquote
  next => rfl

/-- A string literal is a default with the text that was quoted. -/
theorem ofCatalog_quoteString (s : String) : ofCatalog (Dialect.quoteString s) = value s := by
  have h := (bare_quoted (.inl rfl) s.toList).ofCatalog_dress []
  rwa [dressText_nil, unquote?_quoted (.inl rfl), Option.getD_some, String.ofList_toList] at h

theorem not_mem_marks {c : Char} (h : 45 ≤ c.toNat ∧ c.toNat ≤ 57) : c ∉ ['\'', '(', ')', ':'] := by
  intro hc
  simp only [List.mem_cons, List.not_mem_nil, or_false] at hc
  rcases hc with rfl | rfl | rfl | rfl <;> revert h <;> decide

/-- Nothing in a numeral can be stripped, and it has no quotes. -/
theorem bare_toString (n : Int) :
    Bare (toString n).toList ∧ unquote? (toString n).toList = none := by
  have hchar : ∀ c ∈ (toString n).toList, 45 ≤ c.toNat ∧ c.toNat ≤ 57 :=
    fun _ hc => Numeral.toNat_of_mem_toString hc
  have hne : (toString n).toList ≠ [] := by
    rw [Numeral.toList_toString_int]
    split
    next => exact List.cons_ne_nil _ _
    next => exact Nat.toDigits_ne_nil
  obtain ⟨c, rest, htext⟩ := List.exists_cons_of_ne_nil hne
  rw [htext] at hchar ⊢
  have hc := hchar c List.mem_cons_self
  have hn : c.toLower ≠ 'n' := by
    rw [toLower_eq_self (by omega)]
    rintro rfl
    exact absurd hc (by decide)
  have hplain : ∀ x ∈ c :: rest, isBlank x = false ∧ x ∉ ['\'', '(', ')', ':'] := by
    intro x hx
    have := hchar x hx
    refine ⟨?_, not_mem_marks this⟩
    simp [isBlank]
    omega
  have hquote : c ≠ '\'' := by
    rintro rfl
    exact absurd hc (by decide)
  refine ⟨bare_of_plain (by omega) hn hplain, unquote?_cons hquote ?_⟩
  rintro rfl
  exact absurd rfl hn

theorem ofCatalog_toString (n : Int) : ofCatalog (toString n) = value (toString n) := by
  have h := (bare_toString n).1.ofCatalog_dress []
  rwa [dressText_nil, (bare_toString n).2, Option.getD_none, String.ofList_toList] at h

/-- Integers and truth values in columns of their types, and texts in columns that keep them. -/
def HasLiteral (type : ColumnType) : Json → Prop
  | .int n => type.isInteger ∧ fitsInt64 n
  | .bool _ => type = .boolean
  | .str _ => type ∈ [.string, .text, .uuid, .decimal, .binary]
  | _ => False

theorem bare_boolLiteral (d : Dialect) (b : Bool) : Bare (d.boolLiteral b).toList ∧
    parse (String.ofList ((unquote? (d.boolLiteral b).toList).getD (d.boolLiteral b).toList))
      .boolean = .bool b := by
  cases d <;> cases b <;>
    exact ⟨bare_of_plain (by decide) (by decide) (by decide), rfl⟩

/-- A literal, also one marked as a national string, is bare and reads as its value. -/
theorem exists_bare_quote (d : Dialect) {type : ColumnType} {v : Json} (h : HasLiteral type v)
    {text : String} (htext : text = d.quote v (some type) ∨
      (∃ s, v = .str s) ∧ text = "N" ++ d.quote v (some type)) :
    ∃ core, text = String.ofList core ∧ Bare core ∧
      parse (String.ofList ((unquote? core).getD core)) type = v := by
  cases v with
  | bool b =>
    obtain rfl : type = .boolean := h
    obtain rfl : text = d.boolLiteral b := htext.resolve_right fun hnational => by simp at hnational
    obtain ⟨hbare, hparse⟩ := bare_boolLiteral d b
    exact ⟨(d.boolLiteral b).toList, String.ofList_toList.symm, hbare, hparse⟩
  | int n =>
    obtain ⟨htype, hfits⟩ : type.isInteger ∧ fitsInt64 n := h
    obtain rfl : text = toString n := htext.resolve_right fun hnational => by simp at hnational
    obtain ⟨hbare, hunquote⟩ := bare_toString n
    refine ⟨(toString n).toList, String.ofList_toList.symm, hbare, ?_⟩
    rw [hunquote, Option.getD_none, String.ofList_toList]
    rcases ColumnType.isInteger_iff.mp htype with rfl | rfl <;>
      simp only [parse, Numeral.int64?_toString hfits, Option.map_some, Option.getD_some]
  | str s =>
    have htype : type ∈ [.string, .text, .uuid, .decimal, .binary] := h
    obtain ⟨hquote, hparse⟩ : d.quote (.str s) (some type) = Dialect.quoteString s ∧
        parse s type = .str s := by
      cases type with
      | string | text | uuid | decimal | binary => exact ⟨rfl, rfl⟩
      | _ => exact absurd htype (by decide)
    obtain ⟨mark, hmark, rfl⟩ : ∃ mark, (mark = [] ∨ mark = ['N']) ∧ text =
        String.ofList (mark ++ ('\'' :: Chars.double '\'' s.toList ++ ['\''])) := by
      rw [hquote, Dialect.quoteString] at htext
      rcases htext with rfl | ⟨_, rfl⟩
      · exact ⟨[], .inl rfl, rfl⟩
      · exact ⟨['N'], .inr rfl, by simp⟩
    refine ⟨_, rfl, bare_quoted hmark s.toList, ?_⟩
    rw [unquote?_quoted hmark, Option.getD_some, String.ofList_toList, hparse]
  | null | float | arr | obj => exact h.elim

/-- A literal is read from a catalog whatever layers of parentheses and casts it is put in. -/
theorem apply_ofCatalog_dress (d : Dialect) (column : Column) {v : Json}
    (h : HasLiteral column.type v) {text : String}
    (htext : text = d.quote v (some column.type) ∨
      (∃ s, v = .str s) ∧ text = "N" ++ d.quote v (some column.type)) (layers : List Layer) :
    apply column (ofCatalog? (some (dressText layers text))) =
      { column with default := some v } := by
  obtain ⟨core, rfl, hbare, hparse⟩ := exists_bare_quote d h htext
  rw [ofCatalog?, hbare.ofCatalog_dress, apply, hparse]

/-- A national string whose text looks like parentheses, a cast and a call. -/
theorem apply_ofCatalog_dress_national :
    let column : Column := { name := "a", type := .string }
    let literal := "N'it''s (null)::x, nextval('"
    let layers : List Layer :=
      [.parentheses, .cast ⟨"character varying", by decide⟩, .parentheses, .cast ⟨"text", by decide⟩]
    dressText layers literal = s!"(({literal}::text)::character varying)" ∧
      HasLiteral column.type (.str "it's (null)::x, nextval(") ∧
      literal = "N" ++ Dialect.quote .sqlserver (.str "it's (null)::x, nextval(") (some column.type) ∧
      apply column (ofCatalog? (some (dressText layers literal))) =
        { column with default := some (.str "it's (null)::x, nextval(") } := by
  have hliteral : HasLiteral .string (.str "it's (null)::x, nextval(") := List.mem_cons_self
  have hquote : "N'it''s (null)::x, nextval('" =
      "N" ++ Dialect.quote .sqlserver (.str "it's (null)::x, nextval(") (some .string) := by
    decide +kernel
  exact ⟨by decide +kernel, hliteral, hquote,
    apply_ofCatalog_dress .sqlserver { name := "a", type := .string } hliteral
      (.inr ⟨⟨_, rfl⟩, hquote⟩) _⟩

end CatalogDefault

end PortableSql

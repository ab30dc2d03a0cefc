import PortableSql.Dialect.Quoting
import PortableSql.Proofs.Number.Scanner
import PortableSql.Text.Letter

namespace PortableSql

/-- What a scanner of literals finds. -/
inductive LiteralToken where
  | word (text : String)
  | number (text : String)
  /-- A literal in quotes, as the text it stands for. -/
  | text (value : String)
deriving DecidableEq

namespace Dialect

/-- The characters that words go on with. -/
def isWordChar (d : Dialect) (c : Char) : Bool :=
  Text.isAlphanumeric c || c == '_' || c == '$' || (d == sqlserver && (c == '@' || c == '#'))

/-- A name, with the parentheses behind it if these make it a call for the current time. -/
def scanCall (name : String) : Scanner String
  | '(' :: ')' :: rest =>
    if timeKeywords.contains (name ++ "()") then some (name ++ "()", rest)
    else some (name, '(' :: ')' :: rest)
  | rest => some (name, rest)

def scanWord (d : Dialect) : Scanner String := fun text =>
  scanCall (String.ofList (text.takeWhile d.isWordChar)) (text.dropWhile d.isWordChar)

/-- The literal at the front of a text. A backslash in quotes is nothing special. -/
def scanLiteral (d : Dialect) : Scanner LiteralToken
  | [] => none
  | c :: rest =>
    if c = '\'' then
      (Scanner.quoted '\'' (Scanner.doubled? '\'') rest).map fun (value, rest) =>
        (.text (String.ofList value), rest)
    else if c = '-' ∨ c.isDigit then
      (Scanner.numeral (c :: rest)).map fun (number, rest) => (.number (String.ofList number), rest)
    else if d.isWordChar c then
      (d.scanWord (c :: rest)).map fun (word, rest) => (.word word, rest)
    else none

/-- Whether a literal would go on with a character: a word or a number with a letter or a digit, a
whole number also with a point. -/
def continues (d : Dialect) (literal : String) (c : Char) : Bool :=
  literal.toList.getLast?.any d.isWordChar && d.isWordChar c ||
    c == '.' && literal.toList.all fun x => x.isDigit || x == '-'

/-- The token of a truth value. SQL Server has numbers for these. -/
def truthToken (d : Dialect) (value : Bool) : LiteralToken :=
  if d = sqlserver then .number (d.boolLiteral value) else .word (d.boolLiteral value)

/-- The texts that stand for a truth value in a boolean column. -/
def truthWords : Bool → List String
  | true => ["true", "1"]
  | false => ["false", "0"]

/-- Which token stands for a value in a column of a type. -/
inductive Denotes (d : Dialect) : Json → Option ColumnType → LiteralToken → Prop
  | null (type) : Denotes d .null type (.word "NULL")
  | bool (value type) : Denotes d (.bool value) type (d.truthToken value)
  | int (n type) : Denotes d (.int n) type (.number (Json.int n).render)
  | float (x type) : Denotes d (.float x) type (.number (Json.float x).render)
  | keyword {text type} (htype : type.isTemporal = true) (hword : upperCase text ∈ timeKeywords) :
      Denotes d (.str text) (some type) (.word (upperCase text))
  | truth {text} (value) (hword : lowerCase text ∈ truthWords value) :
      Denotes d (.str text) (some .boolean) (d.truthToken value)
  | str {text type} (hkeyword : type.any (·.isTemporal) = true → upperCase text ∉ timeKeywords)
      (htruth : type = some .boolean → ∀ value, lowerCase text ∉ truthWords value) :
      Denotes d (.str text) type (.text text)
  | arr (items type) : Denotes d (.arr items) type (.text (Json.arr items).render)
  | obj (fields type) : Denotes d (.obj fields) type (.text (Json.obj fields).render)

section

variable {d : Dialect} {rest : List Char}

open Scanner

theorem scans_quoteString (text : String) (h : rest.head? ≠ some '\'') :
    Scans d.scanLiteral (quoteString text).toList (.text text) rest := by
  have hscan := scans_quoted_double text.toList h
  unfold Scans at hscan ⊢
  rw [quoteString, String.toList_ofList, List.cons_append, List.cons_append, scanLiteral,
    if_pos rfl, hscan, Option.map_some]
  simp only [String.ofList_toList]

theorem isWordChar_of_isDigit {c : Char} (h : c.isDigit = true) : d.isWordChar c = true := by
  have hrange := Numeral.toNat_of_isDigit h
  have hascii : c.toNat < 0x80 := by omega
  simp [isWordChar, Text.isAlphanumeric, hascii, Char.isAlphanum, h]

/-- What does not go on with a literal that ends like a word is no part of a word. -/
theorem isWordChar_eq_false {literal : String} {c last : Char}
    (hlast : literal.toList.getLast? = some last) (hword : d.isWordChar last = true)
    (h : d.continues literal c = false) : d.isWordChar c = false := by
  rw [continues, Bool.or_eq_false_iff, hlast, Option.any_some, hword, Bool.true_and] at h
  exact h.1

theorem scans_number {text : String} (h : IsNumeral text.toList)
    (hfollow : ∀ c ∈ rest.head?, d.continues text c = false) :
    Scans d.scanLiteral text.toList (.number text) rest := by
  obtain ⟨last, hlast, hdigit⟩ := h.getLast?_eq
  have hrest : ∀ c ∈ rest.head?, c.isDigit = false ∧ c ∉ ['e', 'E'] := by
    intro c hc
    have hout := isWordChar_eq_false hlast (isWordChar_of_isDigit hdigit) (hfollow c hc)
    refine ⟨?_, fun hmark => ?_⟩
    · cases hc : c.isDigit with
      | false => rfl
      | true => exact Bool.noConfusion (hout.symm.trans (isWordChar_of_isDigit hc))
    · have hmarks : ∀ x ∈ ['e', 'E'], d.isWordChar x = true := by cases d <;> decide
      exact Bool.noConfusion (hout.symm.trans (hmarks c hmark))
  have hpoint : '.' ∈ rest.head? → ∃ c ∈ text.toList, c.isDigit = false ∧ c ≠ '-' := by
    intro hc
    have hwhole := (Bool.or_eq_false_iff.mp (hfollow '.' hc)).2
    simpa [List.all_eq_false] using hwhole
  have hscan := scans_numeral h hrest hpoint
  obtain ⟨first, hfirst, hopens⟩ := h.head?_eq
  obtain ⟨others, htext⟩ : ∃ others, text.toList = first :: others := List.head?_eq_some_iff.mp hfirst
  have hquote : first ≠ '\'' := by
    rintro rfl
    exact absurd hopens (by decide)
  unfold Scans at hscan ⊢
  rw [htext, List.cons_append, scanLiteral, if_neg hquote, if_pos hopens, ← List.cons_append,
    ← htext, hscan, Option.map_some]
  simp only [String.ofList_toList]

/-- A word that begins no quotes and no number. -/
structure IsName (d : Dialect) (word : String) : Prop where
  ne_nil : word.toList ≠ []
  opens : ∀ c ∈ word.toList.head?, c ≠ '\'' ∧ c ≠ '-' ∧ c.isDigit = false
  chars : ∀ c ∈ word.toList, d.isWordChar c = true

variable {word : String}

theorem isName_of_letters (hne : word.toList ≠ [])
    (h : ∀ c ∈ word.toList, c ∈ "ABCDEFGHIJKLMNOPQRSTUVWXYZ_".toList) : IsName d word := by
  have hall : ∀ c ∈ "ABCDEFGHIJKLMNOPQRSTUVWXYZ_".toList,
      (c ≠ '\'' ∧ c ≠ '-' ∧ c.isDigit = false) ∧ d.isWordChar c = true := by
    cases d <;> decide
  exact ⟨hne, fun c hc => (hall c (h c (List.mem_of_head? hc))).1, fun c hc => (hall c (h c hc)).2⟩

theorem IsName.scanLiteral_eq (h : IsName d word) (rest : List Char) :
    d.scanLiteral (word.toList ++ rest) =
      (d.scanWord (word.toList ++ rest)).map fun (word, rest) => (.word word, rest) := by
  obtain ⟨hne, hopens, hchars⟩ := h
  obtain ⟨c, others, htext⟩ := List.exists_cons_of_ne_nil hne
  rw [htext] at hopens hchars ⊢
  obtain ⟨hquote, hminus, hdigit⟩ := hopens c rfl
  rw [List.cons_append, scanLiteral, if_neg hquote, if_neg (by simp [hminus, hdigit]),
    if_pos (hchars c List.mem_cons_self)]

theorem IsName.scanWord_eq (h : IsName d word) (hrest : ∀ c ∈ rest.head?, d.isWordChar c = false) :
    d.scanWord (word.toList ++ rest) = scanCall word rest := by
  obtain ⟨htake, hdrop⟩ := takeWhile_dropWhile_append h.chars hrest
  rw [scanWord, htake, hdrop, String.ofList_toList]

/-- A word that is no call ends where nothing goes on with it. -/
theorem scans_name (h : IsName d word) (hcall : word ++ "()" ∉ timeKeywords)
    (hfollow : ∀ c ∈ rest.head?, d.continues word c = false) :
    Scans d.scanLiteral word.toList (.word word) rest := by
  obtain ⟨last, hlast⟩ := Option.isSome_iff_exists.mp (List.getLast?_isSome.mpr h.ne_nil)
  have hrest : ∀ c ∈ rest.head?, d.isWordChar c = false := fun c hc =>
    isWordChar_eq_false hlast (h.chars last (List.mem_of_getLast? hlast)) (hfollow c hc)
  have hword : d.scanWord (word.toList ++ rest) = some (word, rest) := by
    rw [h.scanWord_eq hrest]
    unfold scanCall
    split
    next => exact if_neg (by simpa using hcall)
    next => rfl
  unfold Scans
  rw [h.scanLiteral_eq, hword, Option.map_some]

/-- A call ends with its parentheses. -/
theorem scans_call (h : IsName d word) (hcall : word ++ "()" ∈ timeKeywords) :
    Scans d.scanLiteral (word ++ "()").toList (.word (word ++ "()")) rest := by
  have hopen : ∀ c ∈ ('(' :: ')' :: rest).head?, d.isWordChar c = false := by
    rintro c hc
    obtain rfl := Option.some.inj hc
    cases d <;> decide
  have hword : d.scanWord (word.toList ++ '(' :: ')' :: rest) = some (word ++ "()", rest) := by
    rw [h.scanWord_eq hopen]
    exact if_pos (by simpa using hcall)
  have htext : (word ++ "()").toList ++ rest = word.toList ++ '(' :: ')' :: rest := by simp
  unfold Scans
  rw [htext, h.scanLiteral_eq, hword, Option.map_some]

theorem scans_timeKeyword (h : word ∈ timeKeywords)
    (hfollow : ∀ c ∈ rest.head?, d.continues word c = false) :
    Scans d.scanLiteral word.toList (.word word) rest := by
  have hname : word ++ "()" ∉ timeKeywords → word.toList ≠ [] →
      (∀ c ∈ word.toList, c ∈ "ABCDEFGHIJKLMNOPQRSTUVWXYZ_".toList) →
      Scans d.scanLiteral word.toList (.word word) rest := fun hcall hne hletters =>
    scans_name (isName_of_letters hne hletters) hcall hfollow
  have hnow : IsName d "NOW" := isName_of_letters (by decide) (by decide)
  have hdate : IsName d "GETDATE" := isName_of_letters (by decide) (by decide)
  simp only [timeKeywords, List.mem_cons, List.not_mem_nil, or_false] at h
  rcases h with rfl | rfl | rfl | rfl | rfl | rfl
  · exact hname (by decide) (by decide) (by decide)
  · exact hname (by decide) (by decide) (by decide)
  · exact hname (by decide) (by decide) (by decide)
  · exact scans_call hnow (by decide)
  · exact hname (by decide) (by decide) (by decide)
  · exact scans_call hdate (by decide)

theorem scans_truth (value : Bool)
    (hfollow : ∀ c ∈ rest.head?, d.continues (d.boolLiteral value) c = false) :
    Scans d.scanLiteral (d.boolLiteral value).toList (d.truthToken value) rest := by
  by_cases hd : d = sqlserver
  · subst hd
    have hnumeral : IsNumeral (sqlserver.boolLiteral value).toList := by
      cases value with
      | true => exact isNumeral_toString_int 1
      | false => exact isNumeral_toString_int 0
    exact scans_number hnumeral hfollow
  · have hword : d.boolLiteral value = if value then "TRUE" else "FALSE" := by
      cases d with
      | sqlserver => exact absurd rfl hd
      | mysql | postgresql | sqlite => rfl
    rw [truthToken, if_neg hd]
    rw [hword] at hfollow ⊢
    cases value with
    | true => exact scans_name (isName_of_letters (by decide) (by decide)) (by decide) hfollow
    | false => exact scans_name (isName_of_letters (by decide) (by decide)) (by decide) hfollow

/-- A text is written as a keyword, as a truth value or in quotes. -/
theorem quoteText_cases (d : Dialect) (text : String) (type : Option ColumnType) :
    (∃ t, type = some t ∧ t.isTemporal = true ∧ upperCase text ∈ timeKeywords ∧
        d.quoteText text type = upperCase text) ∨
      (∃ value, type = some .boolean ∧ lowerCase text ∈ truthWords value ∧
        d.quoteText text type = d.boolLiteral value) ∨
      ((type.any (·.isTemporal) = true → upperCase text ∉ timeKeywords) ∧
        (type = some .boolean → ∀ value, lowerCase text ∉ truthWords value) ∧
        d.quoteText text type = quoteString text) := by
  unfold quoteText
  split
  next h =>
    rw [Bool.and_eq_true, List.contains_iff_mem, Option.any_eq_true] at h
    obtain ⟨⟨t, ht, htemporal⟩, hword⟩ := h
    exact .inl ⟨t, ht, htemporal, hword, rfl⟩
  next h =>
    have hkeyword : type.any (·.isTemporal) = true → upperCase text ∉ timeKeywords := by
      intro htype hword
      exact h (by rw [htype, List.contains_iff_mem.mpr hword, Bool.and_true])
    split
    next hboolean =>
      split
      next hlower => exact .inr (.inl ⟨true, hboolean, by simp [hlower, truthWords], rfl⟩)
      next hlower => exact .inr (.inl ⟨true, hboolean, by simp [hlower, truthWords], rfl⟩)
      next hlower => exact .inr (.inl ⟨false, hboolean, by simp [hlower, truthWords], rfl⟩)
      next hlower => exact .inr (.inl ⟨false, hboolean, by simp [hlower, truthWords], rfl⟩)
      next htrue hone hfalse hzero =>
        refine .inr (.inr ⟨hkeyword, fun _ value => ?_, rfl⟩)
        cases value with
        | true => simpa [truthWords] using ⟨htrue, hone⟩
        | false => simpa [truthWords] using ⟨hfalse, hzero⟩
    next hboolean => exact .inr (.inr ⟨hkeyword, fun htype => absurd htype hboolean, rfl⟩)

/-- A value has one token in a column. -/
theorem Denotes.unique {value : Json} {type : Option ColumnType} {a b : LiteralToken}
    (ha : Denotes d value type a) (hb : Denotes d value type b) : a = b := by
  have htruths {text : String} {v w : Bool} (hv : lowerCase text ∈ truthWords v)
      (hw : lowerCase text ∈ truthWords w) : v = w := by
    have hdisjoint : ∀ word ∈ truthWords true, word ∉ truthWords false := by decide
    cases v <;> cases w
    · rfl
    · exact absurd hv (hdisjoint _ hw)
    · exact absurd hw (hdisjoint _ hv)
    · rfl
  cases ha with
  | null | bool | int | float | arr | obj => cases hb; rfl
  | keyword htype hword =>
    cases hb with
    | keyword => rfl
    | truth => exact absurd htype (by decide)
    | str hkeyword => exact absurd hword (hkeyword htype)
  | truth v hv =>
    cases hb with
    | keyword htype => exact absurd htype (by decide)
    | truth w hw => rw [htruths hv hw]
    | str _ htruth => exact absurd hv (htruth rfl v)
  | str hkeyword htruth =>
    cases hb with
    | keyword htype hword => exact absurd hword (hkeyword htype)
    | truth v hv => exact absurd hv (htruth rfl v)
    | str => rfl

theorem exists_denotes_quote (value : Json) (type : Option ColumnType)
    (hquote : rest.head? ≠ some '\'')
    (hfollow : ∀ c ∈ rest.head?, d.continues (d.quote value type) c = false) :
    ∃ token, Denotes d value type token ∧
      Scans d.scanLiteral (d.quote value type).toList token rest := by
  cases value with
  | null =>
    have hnull : IsName d "NULL" := isName_of_letters (by decide) (by decide)
    have hcall : "NULL" ++ "()" ∉ timeKeywords := by decide
    exact ⟨_, .null type, scans_name hnull hcall hfollow⟩
  | bool b => exact ⟨_, .bool b type, scans_truth b hfollow⟩
  | int n => exact ⟨_, .int n type, scans_number (isNumeral_toString_int n) hfollow⟩
  | float x => exact ⟨_, .float x type, scans_number (Notation.isNumeral_render _ _ _).1 hfollow⟩
  | str text =>
    have hform : d.quote (.str text) type = d.quoteText text type := rfl
    rw [hform] at hfollow ⊢
    rcases d.quoteText_cases text type with
      ⟨t, rfl, htemporal, hword, heq⟩ | ⟨b, rfl, hword, heq⟩ | ⟨hkeyword, htruth, heq⟩
    · rw [heq] at hfollow ⊢
      exact ⟨_, .keyword htemporal hword, scans_timeKeyword hword hfollow⟩
    · rw [heq] at hfollow ⊢
      exact ⟨_, .truth b hword, scans_truth b hfollow⟩
    · rw [heq]
      exact ⟨_, .str hkeyword htruth, scans_quoteString text hquote⟩
  | arr items => exact ⟨_, .arr items type, scans_quoteString _ hquote⟩
  | obj fields => exact ⟨_, .obj fields type, scans_quoteString _ hquote⟩

end

/-- A literal is read as one token, if what follows neither begins with a quote nor goes on with a
word or a number. The token is the one that stands for the value. -/
theorem scanLiteral_quote (d : Dialect) (value : Json) (type : Option ColumnType)
    (following : List Char) (hquote : following.head? ≠ some '\'')
    (hfollow : ∀ c ∈ following.head?, d.continues (d.quote value type) c = false) :
    ∃ token,
      d.scanLiteral ((d.quote value type).toList ++ following) = some (token, following) ∧
        ∀ other, Denotes d value type other ↔ other = token := by
  obtain ⟨token, hdenotes, hscan⟩ := exists_denotes_quote value type hquote hfollow
  refine ⟨token, hscan, fun other => ⟨fun hother => hother.unique hdenotes, ?_⟩⟩
  rintro rfl
  exact hdenotes

/-- A text of quotes and a backslash in front of a word. -/
theorem scanLiteral_quote_backslash :
    let value := Json.str "'\\'"
    " OR 1 = 1".toList.head? ≠ some '\'' ∧
      (∀ c ∈ " OR 1 = 1".toList.head?, mysql.continues (mysql.quote value (some .date)) c = false) ∧
        ∃ token, mysql.scanLiteral ((mysql.quote value (some .date)).toList ++ " OR 1 = 1".toList) =
            some (token, " OR 1 = 1".toList) ∧
          ∀ other, Denotes mysql value (some .date) other ↔ other = token := by
  intro value
  have hquote : " OR 1 = 1".toList.head? ≠ some '\'' := by decide
  have hfollow : ∀ c ∈ " OR 1 = 1".toList.head?,
      mysql.continues (mysql.quote value (some .date)) c = false := by
    intro c hc
    obtain rfl : ' ' = c := Option.some.inj hc
    decide
  exact ⟨hquote, hfollow, scanLiteral_quote _ _ _ _ hquote hfollow⟩

example : mysql.scanLiteral "'''\\''' OR 1 = 1".toList = some (.text "'\\'", " OR 1 = 1".toList) := by
  decide

end Dialect

end PortableSql

import PortableSql.Proofs.Catalog.RowDefaults
import PortableSql.Proofs.CatalogDefault.Unchanged

namespace PortableSql

open Chars

/-- A call of a function by a plain name on integers, with commas and spaces between them. -/
structure IntegerCall where
  name : String
  nonempty : name.toList ≠ []
  plain : ∀ c ∈ name.toList, c.isAlphanum ∨ c = '_'
  arguments : List Int
  separator : String
  separates : ∀ c ∈ separator.toList, c = ',' ∨ c = ' '

namespace IntegerCall

variable {c : Char}

def argumentText (call : IntegerCall) : String :=
  call.separator.intercalate (call.arguments.map toString)

def text (call : IntegerCall) : String := s!"{call.name}({call.argumentText})"

theorem toList_text (call : IntegerCall) :
    call.text.toList = call.name.toList ++ '(' :: (call.argumentText.toList ++ [')']) := by
  simp [text, toString]

theorem toNat_of_plain (h : c.isAlphanum ∨ c = '_') : c.toNat < 0x80 := by
  rcases h with h | rfl
  · exact toNat_of_isAlphanum h
  · decide

/-- The characters of a plain name: none is white space, a mark or a parenthesis in lower case. -/
theorem of_plain (h : c.isAlphanum ∨ c = '_') :
    isBlank c = false ∧ c ∉ ['\'', '(', ')', ':'] ∧ c.toLower ≠ '(' := by
  have hall : ∀ n < 0x80, (Char.ofNat n).isAlphanum ∨ Char.ofNat n = '_' →
      isBlank (Char.ofNat n) = false ∧ Char.ofNat n ∉ ['\'', '(', ')', ':'] ∧
        (Char.ofNat n).toLower ≠ '(' := by decide +kernel
  exact of_ascii (p := fun c => c.isAlphanum ∨ c = '_' →
    isBlank c = false ∧ c ∉ ['\'', '(', ')', ':'] ∧ c.toLower ≠ '(') hall (toNat_of_plain h) h

/-- Digits, signs, commas and spaces. -/
theorem of_mem_argumentText {call : IntegerCall} (h : c ∈ call.argumentText.toList) :
    c.toNat < 65 ∧ c ∉ ['\'', '(', ')', ':'] := by
  rw [argumentText, String.toList_intercalate] at h
  rcases mem_intercalate h with hc | ⟨_, hm, hc⟩
  · rcases call.separates c hc with rfl | rfl <;> decide
  · obtain ⟨_, hnumber, rfl⟩ := List.mem_map.mp hm
    obtain ⟨n, _, rfl⟩ := List.mem_map.mp hnumber
    have hcode := Numeral.toNat_of_mem_toString hc
    exact ⟨by omega, CatalogDefault.not_mem_marks hcode⟩

theorem ascii (call : IntegerCall) : ∀ c ∈ call.text.toList, c.toNat < 0x80 := by
  intro c hc
  rw [call.toList_text, List.mem_append, List.mem_cons, List.mem_append, List.mem_singleton] at hc
  rcases hc with hc | rfl | hc | rfl
  · exact toNat_of_plain (call.plain c hc)
  · decide
  · have hcode := (of_mem_argumentText hc).1
    omega
  · decide

theorem not_mem_text (call : IntegerCall) {mark : Char} (hmark : mark = '\'' ∨ mark = ':') :
    mark ∉ call.text.toList := by
  have hmarks : mark ∈ ['\'', '(', ')', ':'] ∧ mark ≠ '(' ∧ mark ≠ ')' := by
    rcases hmark with rfl | rfl <;> decide
  intro hc
  rw [call.toList_text, List.mem_append, List.mem_cons, List.mem_append, List.mem_singleton] at hc
  rcases hc with hc | hc | hc | hc
  · exact (of_plain (call.plain mark hc)).2.1 hmarks.1
  · exact hmarks.2.1 hc
  · exact (of_mem_argumentText hc).2 hmarks.1
  · exact hmarks.2.2 hc

theorem head?_text (call : IntegerCall) :
    ∃ c, call.text.toList.head? = some c ∧ isBlank c = false ∧ c ∉ ['\'', '(', ')', ':'] := by
  obtain ⟨c, rest, hname⟩ := List.exists_cons_of_ne_nil call.nonempty
  obtain ⟨hblank, hmark, _⟩ := of_plain (call.plain c (by simp [hname]))
  exact ⟨c, by rw [call.toList_text, hname]; rfl, hblank, hmark⟩

/-- What is before the first parenthesis, in lower case, is the name. -/
theorem startsWith_lower (call : IntegerCall) (h : asciiLower call.name.toList ≠ "nextval".toList) :
    startsWith "nextval(".toList (lower call.text.toList) = false := by
  have hname : '(' ∉ call.name.toList.map Char.toLower := by
    intro hm
    obtain ⟨c, hc, heq⟩ := List.mem_map.mp hm
    exact (of_plain (call.plain c hc)).2.2 heq
  rw [lower_of_ascii call.ascii, call.toList_text, List.map_append, List.map_cons, startsWith,
    Bool.eq_false_iff]
  intro hbegin
  obtain ⟨rest, hrest⟩ := List.isPrefixOf_iff_prefix.mp hbegin
  have hmark := cutFirst_append (by decide : '(' ∉ "nextval".toList) rest
  have hcall := cutFirst_append hname ((call.argumentText.toList ++ [')']).map Char.toLower)
  have htext : "nextval".toList ++ '(' :: rest = call.name.toList.map Char.toLower ++
      '(' :: (call.argumentText.toList ++ [')']).map Char.toLower := hrest
  rw [htext, hcall] at hmark
  exact h (congrArg Prod.fst (Option.some.inj hmark))

/-- Nothing of a call is lost when it is read as a default. -/
theorem unchanged (call : IntegerCall) : CatalogDefault.Unchanged call.text.toList := by
  obtain ⟨c, hfirst, hblank, hmark⟩ := call.head?_text
  have hlast : call.text.toList.getLast? = some ')' := by
    rw [call.toList_text, ← List.cons_append, ← List.append_assoc, List.getLast?_concat]
  refine ⟨trim_eq_self (fun x hx => ?_) (fun x hx => ?_), ?_, ?_⟩
  · rw [hfirst] at hx
    exact Option.some.inj hx ▸ hblank
  · rw [hlast] at hx
    exact Option.some.inj hx ▸ by decide
  · rintro ⟨inside, htext, _⟩
    rw [htext] at hfirst
    exact hmark (Option.some.inj hfirst ▸ by decide)
  · intro before after htext
    refine absurd ?_ (call.not_mem_text (.inr rfl))
    rw [htext]
    simp

theorem ofCatalog_text (call : IntegerCall) (h : asciiLower call.name.toList ≠ "nextval".toList) :
    CatalogDefault.ofCatalog call.text = .value call.text := by
  have hopen : '(' ∈ call.text.toList := by simp [call.toList_text]
  have hsequence : startsWith "nextval(".toList (lower (trim call.text.toList)) = false := by
    rw [call.unchanged.trimmed, call.startsWith_lower h]
  have hnull : asciiLower (trim call.text.toList) ≠ "null".toList := by
    rw [call.unchanged.trimmed]
    intro heq
    have hlow : '('.toLower ∈ asciiLower call.text.toList := List.mem_map_of_mem hopen
    rw [heq] at hlow
    exact absurd hlow (by decide)
  have hne : call.text ≠ "" := by
    intro heq
    rw [heq] at hopen
    cases hopen
  have hquote : CatalogDefault.unquote? call.text.toList = none := by
    refine CatalogDefault.unquote?_eq_none (fun hfirst => ?_) fun hbegin => ?_
    · exact call.not_mem_text (.inl rfl) (List.mem_of_head? hfirst)
    · exact call.not_mem_text (.inl rfl) (hbegin.subset (by decide))
  exact (CatalogDefault.ofCatalog_eq_value_iff hsequence hnull hne hquote).mpr call.unchanged

end IntegerCall

namespace Dialect

variable {d : Dialect}

/-- The definition of a column of texts up to its default. -/
def textHead (d : Dialect) (c : Column) : String :=
  d.quoteIdentifier c.name ++ " " ++ d.columnType c ++
    (if c.nullable = some false then " NOT NULL" else "")

/-- Strings, texts and identifiers keep a text as it is, and write it as a string. -/
theorem keeps_text (d : Dialect) {type : ColumnType} (h : type ∈ [.string, .text, .uuid])
    (text : String) :
    type.isInteger = false ∧ CatalogDefault.parse text type = .str text ∧
      d.quote (.str text) (some type) = quoteString text := by
  cases type with
  | string | text | uuid => exact ⟨rfl, rfl, rfl⟩
  | _ => exact absurd h (by decide)

theorem columnSql_textDefault (hd : d ≠ .mysql) {c : Column} {text : String}
    (htype : c.type ∈ [.string, .text, .uuid]) (hdefault : c.default = some (.str text))
    (t : Table) : d.columnSql t c = d.textHead c ++ " DEFAULT " ++ quoteString text := by
  obtain ⟨hinteger, _, hquote⟩ := keeps_text d htype text
  have hclause : d.defaultClause c = " DEFAULT " ++ quoteString text := by
    have hvalue : c.defaultValue? = some (.str text) := by
      rw [Column.defaultValue?, hdefault]
      rfl
    rw [defaultClause, hvalue, ← hquote]
  have hserial : t.isSerial c = false := by rw [Table.isSerial, hinteger, Bool.false_and]
  have hmodifiers : d.columnModifiers t c = [] := by
    cases d with
    | mysql => exact absurd rfl hd
    | postgresql | sqlite | sqlserver => rfl
  rw [columnSql, hserial, hclause, hmodifiers]
  simp [textHead, String.append_assoc]

theorem exists_described (hd : d ≠ .mysql) {row : Row} {name : String}
    (hname : row.text? d.nameKey = some name) (htype : d = .sqlite ∨ (row.text? "type").isSome) :
    ∃ c, d.describedColumn? row = some c := by
  unfold describedColumn?
  rw [hname, Option.bind_some]
  cases d with
  | mysql => exact absurd rfl hd
  | sqlite => exact ⟨_, rfl⟩
  | postgresql | sqlserver =>
    obtain ⟨type, htype⟩ := Option.isSome_iff_exists.mp (htype.resolve_left nofun)
    exact ⟨_, congrArg (Option.map _) htype⟩

/-- A default that is a call comes back as the text of the call, and is written as a string: the
database is given the same whether its catalog tells of the call or of the text in quotes. -/
theorem foldColumn_call (hd : d ∈ [postgresql, sqlite, sqlserver])
    (call : IntegerCall) (hsequence : asciiLower call.name.toList ≠ "nextval".toList)
    (t : Table) {row : Row} {name : String} (hname : row.text? d.nameKey = some name)
    (htype : d = .sqlite ∨ (row.text? "type").isSome)
    (hdefault : row.text? d.defaultKey = some call.text) :
    d.foldColumn t ((d.defaultKey, .str (quoteString call.text)) :: row) = d.foldColumn t row ∧
      (t.Catalogued → (d.foldColumn t row).error? = none) ∧
      ∃ c, (d.foldColumn t row).table.column? name = some c ∧
        (c.type ∈ [.string, .text, .uuid] →
          c.default = some (.str call.text) ∧
            ∀ u, d.columnSql u c = d.textHead c ++ " DEFAULT " ++ quoteString call.text) := by
  have hread : row.default d.defaultKey = .value call.text := by
    rw [Row.default, hdefault, CatalogDefault.ofCatalog?, call.ofCatalog_text hsequence]
  have hquoted : row.default d.defaultKey = .ofCatalog (quoteString call.text) := by
    rw [hread, CatalogDefault.ofCatalog_quoteString]
  have hmysql : d ≠ .mysql := by
    rintro rfl
    simp at hd
  obtain ⟨c, hdescribed⟩ := exists_described hmysql hname htype
  have hnamed : c.name = name :=
    Option.some.inj ((describedColumn?_name hdescribed).symm.trans hname)
  obtain ⟨herror, hcolumn⟩ := foldColumn_described t hdescribed
  rw [hnamed] at hcolumn
  refine ⟨foldColumn_shadowed hquoted t, herror, c, hcolumn, fun hc => ?_⟩
  have hvalue : c.default = some (.str call.text) := by
    rw [describedColumn?_default hdescribed, hread]
    exact congrArg some (keeps_text d hc call.text).2.1
  exact ⟨hvalue, columnSql_textDefault hmysql hc hvalue⟩

/-- A call on two integers, in a column of the primary key. -/
theorem foldColumn_call_key :
    let call : IntegerCall :=
      { name := "Pad_2", nonempty := by decide, plain := by decide, arguments := [7, -20],
        separator := ",", separates := by decide }
    let row : Row :=
      [("name", .str "code"), ("type", .str "varchar(20)"), ("notnull", .int 1), ("pk", .int 1),
       ("dflt_value", .str "Pad_2(7,-20)")]
    let t : Table := { name := "t" }
    asciiLower call.name.toList ≠ "nextval".toList ∧
      row.text? sqlite.defaultKey = some call.text ∧
      sqlite.foldColumn t (("dflt_value", .str "'Pad_2(7,-20)'") :: row) =
        sqlite.foldColumn t row ∧
      (sqlite.foldColumn t row).error? = none ∧
      ∃ c, (sqlite.foldColumn t row).table.column? "code" = some c ∧
        c.default = some (.str "Pad_2(7,-20)") ∧
        sqlite.columnSql t c = "\"code\" VARCHAR(20) NOT NULL DEFAULT 'Pad_2(7,-20)'" := by
  intro call row t
  have hsequence : asciiLower call.name.toList ≠ "nextval".toList := by decide
  have htext : call.text = "Pad_2(7,-20)" := by decide +kernel
  have hquote : quoteString "Pad_2(7,-20)" = "'Pad_2(7,-20)'" := by decide +kernel
  have hdefault : row.text? sqlite.defaultKey = some call.text := by
    rw [htext]
    decide +kernel
  have hname : row.text? sqlite.nameKey = some "code" := by decide +kernel
  obtain ⟨hquoted, herror, c, hcolumn, hread⟩ :=
    foldColumn_call (by decide) call hsequence t hname (.inl rfl) hdefault
  rw [htext, hquote] at hquoted
  obtain rfl := Option.some.inj ((Sqlite.foldColumn_named hname).2.symm.trans hcolumn)
  obtain ⟨hvalue, hsql⟩ := hread (by decide +kernel)
  rw [htext] at hvalue
  refine ⟨hsequence, hdefault, hquoted, herror (.new "t"), _, hcolumn, hvalue, ?_⟩
  rw [hsql, htext, hquote]
  decide +kernel

/-- A call and the text of the call are created as the same default. -/
theorem columnSql_call_asText :
    let sql? (default : String) : Option String :=
      let row : Row :=
        [("name", .str "a"), ("type", .str "uuid"), ("nullable", .bool false),
         ("column_default", .str default)]
      ((postgresql.foldColumn { name := "t" } row).table.column? "a").map
        (postgresql.columnSql { name := "t" })
    sql? "gen_random_uuid()" = some "\"a\" UUID NOT NULL DEFAULT 'gen_random_uuid()'" ∧
      sql? "'gen_random_uuid()'" = sql? "gen_random_uuid()" := by
  decide +kernel

end Dialect

end PortableSql

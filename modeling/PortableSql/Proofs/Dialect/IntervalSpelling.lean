import PortableSql.Dialect.Function
import PortableSql.Proofs.Text.Marks
import PortableSql.Proofs.Text.Words

namespace PortableSql

open Chars

namespace FunctionCall

/-- An amount or a unit, without white space and single quotes. -/
def IsToken (text : String) : Prop := IsWord text.toList ∧ '\'' ∉ text.toList

instance (text : String) : Decidable (IsToken text) := inferInstanceAs (Decidable (_ ∧ _))

/-- The words that say that an interval follows. -/
def intervalWords : List String := ["INTERVAL", "interval"]

/-- What may stand in front of an interval that is one argument. -/
def IsLead (text : String) : Prop := text = "" ∨ ∃ word ∈ intervalWords, text = word ++ " "

/-- The arguments that give an amount and a unit: one each, or one for both, with quotes around the
amount, around both or around neither. -/
inductive WritesInterval (amount unit : String) : List String → Prop
  | apart : WritesInterval amount unit [amount, unit]
  | bare {lead : String} (h : IsLead lead) :
      WritesInterval amount unit [lead ++ amount ++ " " ++ unit]
  | quotedAmount {lead : String} (h : IsLead lead) :
      WritesInterval amount unit [lead ++ "'" ++ amount ++ "' " ++ unit]
  | quoted {lead : String} (h : IsLead lead) :
      WritesInterval amount unit [lead ++ "'" ++ amount ++ " " ++ unit ++ "'"]

theorem dropIntervalWord_lead {word : String} (h : word ∈ intervalWords) (rest : List Char) :
    dropIntervalWord (word.toList ++ ' ' :: rest) = rest := by
  simp only [intervalWords, List.mem_cons, List.not_mem_nil, or_false] at h
  rcases h with rfl | rfl <;> rfl

/-- Only the word itself is dropped, and no other one that begins like it. -/
theorem dropIntervalWord_of_word {word : List Char} (hblank : ' ' ∉ word)
    (h : ∀ lead ∈ intervalWords, lead.toList ≠ word) (rest : List Char) :
    dropIntervalWord (word ++ ' ' :: rest) = word ++ ' ' :: rest := by
  have hnone : ∀ lead ∈ intervalWords,
      stripStart? (lead ++ " ").toList (word ++ ' ' :: rest) = none := by
    intro lead hlead
    refine stripStart?_eq_none fun ⟨others, hprefix⟩ => h lead hlead ?_
    have hwords : ∀ lead ∈ intervalWords, ' ' ∉ lead.toList := by decide
    have hcut := cutFirst_append hblank rest
    rw [← hprefix, String.toList_append, List.append_assoc] at hcut
    have hlead := (cutFirst_append (hwords lead hlead) others).symm.trans hcut
    exact congrArg Prod.fst (Option.some.inj hlead)
  have hupper : stripStart? "INTERVAL ".toList (word ++ ' ' :: rest) = none :=
    hnone "INTERVAL" (by decide)
  have hlower : stripStart? "interval ".toList (word ++ ' ' :: rest) = none :=
    hnone "interval" (by decide)
  rw [dropIntervalWord, hupper, hlower]
  rfl

/-- Nothing, or one single quote. -/
def IsQuote (text : List Char) : Prop := text = [] ∨ text = ['\'']

theorem stripAround_quotes {before after : List Char} (hbefore : IsQuote before)
    (hafter : IsQuote after) (text : List Char) :
    stripAround '\'' (before ++ (text ++ after)) = stripAround '\'' text := by
  have hend : stripAround '\'' (text ++ after) = stripAround '\'' text := by
    rcases hafter with rfl | rfl
    · rw [List.append_nil]
    · exact stripAround_concat _ _
  rcases hbefore with rfl | rfl
  · exact hend
  · exact (stripAround_cons _ _).trans hend

section

variable {amount unit : String} {before between after : List Char}

theorem IsToken.isWord (h : IsToken amount) (hbefore : IsQuote before) (hafter : IsQuote after) :
    IsWord (before ++ (amount.toList ++ after)) := by
  have hquote {text : List Char} (h : IsQuote text) : ∀ c ∈ text, isBlank c = false := by
    rcases h with rfl | rfl <;> decide
  refine ⟨fun hnil => h.1.1 ?_, fun c hc => ?_⟩
  · simp only [List.append_eq_nil_iff] at hnil
    exact hnil.2.1
  · simp only [List.mem_append] at hc
    rcases hc with hc | hc | hc
    · exact hquote hbefore c hc
    · exact h.1.2 c hc
    · exact hquote hafter c hc

theorem IsToken.stripAround_eq (h : IsToken amount) :
    stripAround '\'' amount.toList = amount.toList :=
  stripAround_eq_self_iff.mpr
    ⟨fun hc => h.2 (List.mem_of_head? hc), fun hc => h.2 (List.mem_of_getLast? hc)⟩

/-- The amount is the first word without its quotes. -/
theorem words_joined (hamount : IsToken amount) (hunit : IsToken unit) (hbefore : IsQuote before)
    (hbetween : IsQuote between) :
    words (before ++ (amount.toList ++ between) ++ ' ' :: unit.toList) =
        [before ++ (amount.toList ++ between), unit.toList] ∧
      stripAround '\'' (before ++ (amount.toList ++ between)) = amount.toList := by
  refine ⟨?_, ?_⟩
  · rw [words_append_blank (by decide), (hamount.isWord hbefore hbetween).words_eq,
      hunit.1.words_eq]
    rfl
  · rw [stripAround_quotes hbefore hbetween, hamount.stripAround_eq]

/-- White space and quotes are cut off at the ends, and what stands between two words is kept. -/
theorem stripAround_trim {first last : String} (hfirst : IsToken first) (hlast : IsToken last)
    (hbefore : IsQuote before) (hafter : IsQuote after) (middle : List Char) :
    stripAround '\'' (trim (before ++ (first.toList ++ (middle ++ (last.toList ++ after))))) =
      first.toList ++ (middle ++ last.toList) := by
  have htrim := trim_of_isWord (hfirst.isWord hbefore (.inl rfl)) (hlast.isWord (.inl rfl) hafter)
    middle
  have hquotes := stripAround_quotes hbefore hafter (first.toList ++ (middle ++ last.toList))
  have hkept : stripAround '\'' (first.toList ++ (middle ++ last.toList)) =
      first.toList ++ (middle ++ last.toList) := by
    refine stripAround_eq_self_iff.mpr ⟨fun hc => hfirst.2 ?_, fun hc => hlast.2 ?_⟩
    · rw [List.head?_append_of_ne_nil _ hfirst.1.1] at hc
      exact List.mem_of_head? hc
    · rw [← List.append_assoc, List.getLast?_append_of_ne_nil _ hlast.1.1] at hc
      exact List.mem_of_getLast? hc
  simp only [List.append_assoc, List.nil_append, List.append_nil] at htrim hquotes ⊢
  rw [htrim, hquotes, hkept]

/-- An amount that is none of the leading words stays, with the quote behind it. -/
theorem dropIntervalWord_amount (hamount : IsToken amount) (hword : amount ∉ intervalWords)
    (hbetween : IsQuote between) (rest : List Char) :
    dropIntervalWord (amount.toList ++ between ++ ' ' :: rest) =
      amount.toList ++ between ++ ' ' :: rest := by
  refine dropIntervalWord_of_word (fun hc => ?_) (fun lead hlead heq => ?_) rest
  · exact absurd ((hamount.isWord (.inl rfl) hbetween).2 ' ' hc) (by decide)
  · rcases hbetween with rfl | rfl
    · rw [List.append_nil, String.toList_inj] at heq
      exact hword (heq ▸ hlead)
    · have hquote : ∀ lead ∈ intervalWords, '\'' ∉ lead.toList := by decide
      refine hquote lead hlead ?_
      rw [heq]
      exact List.mem_append_right _ List.mem_cons_self

/-- One argument for both, without white space and quotes around it and without the leading word. -/
theorem dropIntervalWord_joined (hamount : IsToken amount) (hword : amount ∉ intervalWords)
    (hunit : IsToken unit) {lead : String} (hlead : IsLead lead) (hbefore : IsQuote before)
    (hbetween : IsQuote between) (hafter : IsQuote after) :
    ∃ opening, IsQuote opening ∧
      dropIntervalWord (stripAround '\'' (trim (lead.toList ++
        (before ++ (amount.toList ++ between) ++ ' ' :: (unit.toList ++ after))))) =
          opening ++ (amount.toList ++ between) ++ ' ' :: unit.toList := by
  have hspace : " ".toList = [' '] := rfl
  rcases hlead with rfl | ⟨word, hmem, rfl⟩
  · have hstrip := stripAround_trim hamount hunit hbefore hafter (between ++ [' '])
    have hdrop := dropIntervalWord_amount hamount hword hbetween unit.toList
    refine ⟨[], .inl rfl, ?_⟩
    simp only [List.append_assoc, List.cons_append, List.nil_append, String.toList_empty]
      at hstrip hdrop ⊢
    rw [hstrip, hdrop]
  · have hwords : ∀ word ∈ intervalWords, IsToken word := by decide
    have hstrip := stripAround_trim (hwords word hmem) hunit (.inl rfl) hafter
      (' ' :: (before ++ (amount.toList ++ between ++ [' '])))
    have hdrop := dropIntervalWord_lead hmem
      (before ++ (amount.toList ++ between) ++ ' ' :: unit.toList)
    refine ⟨before, hbefore, ?_⟩
    simp only [String.toList_append, List.append_assoc, List.cons_append, List.nil_append, hspace]
      at hstrip hdrop ⊢
    rw [hstrip, hdrop]

theorem interval_joined (hamount : IsToken amount) (hword : amount ∉ intervalWords)
    (hunit : IsToken unit) {lead : String} (hlead : IsLead lead) (hbefore : IsQuote before)
    (hbetween : IsQuote between) (hafter : IsQuote after) (e : String) {text : String}
    (htext : text.toList = lead.toList ++
      (before ++ (amount.toList ++ between) ++ ' ' :: (unit.toList ++ after))) :
    interval [e, text] = ⟨amount.toList, upper unit.toList⟩ := by
  obtain ⟨opening, hopening, hdrop⟩ :=
    dropIntervalWord_joined hamount hword hunit hlead hbefore hbetween hafter
  obtain ⟨hwords, hstrip⟩ := words_joined hamount hunit hopening hbetween
  rw [← htext] at hdrop
  rw [← hdrop] at hwords
  simp [interval, argument, hwords, hstrip]

theorem interval_of_writes (hamount : IsToken amount) (hword : amount ∉ intervalWords)
    (hunit : IsToken unit) (e : String) {args : List String} (h : WritesInterval amount unit args) :
    interval (e :: args) = ⟨amount.toList, upper unit.toList⟩ := by
  cases h with
  | apart =>
    simp [interval, argument, trim_of_forall hamount.1.2, trim_of_forall hunit.1.2,
      hunit.stripAround_eq]
  | bare h =>
    refine interval_joined hamount hword hunit h (.inl rfl) (.inl rfl) (.inl rfl) e ?_
    simp
  | quotedAmount h =>
    refine interval_joined hamount hword hunit h (.inr rfl) (.inr rfl) (.inl rfl) e ?_
    simp
  | quoted h =>
    refine interval_joined hamount hword hunit h (.inr rfl) (.inl rfl) (.inr rfl) e ?_
    simp

end

/-- The rule of the dialect for adding to dates. -/
def dateAdd : Dialect → FunctionRule
  | .mysql => Mysql.dateAdd
  | .postgresql => Postgresql.dateAdd
  | .sqlite => Sqlite.dateAdd
  | .sqlserver => Sqlserver.dateAdd

theorem functionSql_dateAdd (d : Dialect) {name : String} (hname : upperCase name = "DATE_ADD")
    (args : List String) : d.functionSql name args = dateAdd d args := by
  rw [Dialect.functionSql, hname]
  cases d <;> rfl

/-- Only the expression and the interval count. -/
theorem dateAdd_congr (d : Dialect) (e : String) {args others : List String}
    (h : interval (e :: args) = interval (e :: others)) :
    dateAdd d (e :: args) = dateAdd d (e :: others) := by
  cases d with
  | mysql =>
    rw [dateAdd, Mysql.dateAdd, Mysql.dateAdd, h]
    rfl
  | postgresql =>
    rw [dateAdd, Postgresql.dateAdd, Postgresql.dateAdd, h]
    rfl
  | sqlite =>
    rw [dateAdd, Sqlite.dateAdd, Sqlite.dateAdd, h]
    rfl
  | sqlserver =>
    rw [dateAdd, Sqlserver.dateAdd, Sqlserver.dateAdd, h]
    rfl

theorem inDays_error_iff (amount : List Char) :
    Sqlite.inDays amount = .error .days ↔
      ∃ weeks, Numeral.int64? amount = some weeks ∧ fitsInt64 (7 * weeks) = false := by
  rw [Sqlite.inDays]
  cases Numeral.int64? amount with
  | none => simp
  | some weeks =>
    simp only [Int.mul_comm weeks, Option.some.injEq, exists_eq_left']
    cases fitsInt64 (7 * weeks) <;> simp

/-- The only dates that cannot be written are those that are more weeks away than there are numbers
of days. -/
theorem dateAdd_cases (d : Dialect) (args : List String) :
    (∃ text, dateAdd d args = .ok text) ∨
      d = .sqlite ∧ dateAdd d args = .error .days ∧ singular (interval args).unit = "WEEK".toList ∧
        ∃ weeks, Numeral.int64? (interval args).amount = some weeks ∧
          fitsInt64 (7 * weeks) = false := by
  cases d with
  | mysql => exact .inl ⟨_, rfl⟩
  | postgresql => exact .inl ⟨_, rfl⟩
  | sqlserver => exact .inl ⟨_, rfl⟩
  | sqlite =>
    rw [dateAdd, Sqlite.dateAdd, Sqlite.modifierInterval]
    by_cases hweek : singular (interval args).unit = "WEEK".toList
    · simp only [if_pos hweek]
      cases hdays : Sqlite.inDays (interval args).amount with
      | ok days => exact .inl ⟨_, rfl⟩
      | error overflow =>
        cases overflow
        exact .inr ⟨trivial, rfl, hweek, (inDays_error_iff _).mp hdays⟩
    · simp only [if_neg hweek]
      exact .inl ⟨_, rfl⟩

/-- Every spelling of an interval gives the same date, in any case of the function's name and of the
unit. -/
theorem functionSql_dateAdd_spelled (d : Dialect) (e : String)
    {name other amount unit unit' : String} {args others : List String}
    (hname : upperCase name = "DATE_ADD") (hother : upperCase other = "DATE_ADD")
    (hamount : IsToken amount) (hword : amount ∉ ["INTERVAL", "interval"]) (hunit : IsToken unit)
    (hunit' : IsToken unit') (hcase : upperCase unit = upperCase unit')
    (hargs : WritesInterval amount unit args) (hothers : WritesInterval amount unit' others) :
    d.functionSql name (e :: args) = d.functionSql other (e :: others) ∧
      ((∃ text, d.functionSql name (e :: args) = .ok text) ∨
        d = .sqlite ∧ d.functionSql name (e :: args) = .error .days ∧
          singular (upper unit.toList) = "WEEK".toList ∧
            ∃ weeks, Numeral.int64? amount.toList = some weeks ∧
              fitsInt64 (7 * weeks) = false) := by
  have hinterval := interval_of_writes hamount hword hunit e hargs
  have hinterval' := interval_of_writes hamount hword hunit' e hothers
  have hupper : upper unit.toList = upper unit'.toList := String.ofList_injective hcase
  rw [← hupper, ← hinterval] at hinterval'
  have hcases := dateAdd_cases d (e :: args)
  rw [hinterval] at hcases
  rw [functionSql_dateAdd d hname, functionSql_dateAdd d hother]
  exact ⟨dateAdd_congr d e hinterval'.symm, hcases⟩

/-- Quotes around both, a unit in another case, and an amount that begins with a sign. -/
theorem functionSql_dateAdd_spelled_quoted :
    upperCase "Date_Add" = "DATE_ADD" ∧ upperCase "DATE_ADD" = "DATE_ADD" ∧ IsToken "-3" ∧
      "-3" ∉ ["INTERVAL", "interval"] ∧ IsToken "Weeks" ∧ IsToken "WEEKs" ∧
        upperCase "Weeks" = upperCase "WEEKs" ∧
          WritesInterval "-3" "Weeks" ["INTERVAL '-3 Weeks'"] ∧
          WritesInterval "-3" "WEEKs" ["-3", "WEEKs"] ∧
            Dialect.sqlite.functionSql "Date_Add" ["created", "INTERVAL '-3 Weeks'"] =
              Dialect.sqlite.functionSql "DATE_ADD" ["created", "-3", "WEEKs"] := by
  have hname : upperCase "Date_Add" = "DATE_ADD" ∧ upperCase "DATE_ADD" = "DATE_ADD" := by decide
  have hcase : upperCase "Weeks" = upperCase "WEEKs" := by decide
  have hargs : WritesInterval "-3" "Weeks" ["INTERVAL '-3 Weeks'"] :=
    @WritesInterval.quoted "-3" "Weeks" "INTERVAL " (.inr ⟨"INTERVAL", by decide, rfl⟩)
  exact ⟨hname.1, hname.2, by decide, by decide, by decide, by decide, hcase, hargs, .apart,
    (functionSql_dateAdd_spelled .sqlite "created" hname.1 hname.2 (by decide) (by decide)
      (by decide) (by decide) hcase hargs .apart).1⟩

end FunctionCall

end PortableSql

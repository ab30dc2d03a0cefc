import Mathlib.Data.List.Basic
import PortableSql.Proofs.Url.Lawful
import PortableSql.Proofs.Url.Product
import PortableSql.Url.Database

namespace PortableSql.DatabaseUrl

open Form (Pair)
open UrlLibrary (NamesProduct Parsed queryPairs scheme withPairs)

variable {υ : Type} [UrlLibrary υ] {text : String} {u : DatabaseUrl} {url : υ} {pairs : List Pair}

/-- The URL that is left for the driver. -/
def stripped (url : υ) : υ := withPairs url ((queryPairs url).filter (!isOption ·))

def derivedId (name : Option (List Char)) (database : Option String) : String :=
  match name, database with
  | some name, _ => String.ofList (Chars.trim name)
  | none, some database => database
  | none, none => "default"

/-- What is read of a URL behind a name. -/
def ofUrl (name : Option (List Char)) (url : υ) : DatabaseUrl where
  id := derivedId name (databaseName? (UrlLibrary.path (stripped url)))
  connectionString := String.ofList (UrlLibrary.text (stripped url))
  database := databaseName? (UrlLibrary.path (stripped url))
  schema := (option? "schema" (queryPairs url)).filter (· != "")
  savePoints := (option? "save_points" (queryPairs url)).any isTrue
  logQueries := (option? "log_queries" (queryPairs url)).any isTrue

theorem read_eq (υ : Type) [UrlLibrary υ] (text : String) :
    read υ text =
      match (UrlLibrary.read (cutName text.toList).2 : Except String υ) with
      | .error fault => .error (.invalidInput s!"Invalid URL: {fault}")
      | .ok url =>
        if NamesProduct url then .ok (ofUrl (cutName text.toList).1 url)
        else
          .error (.invalidInput (s!"Unsupported database scheme '{String.ofList (scheme url)}'. " ++
            "Use mysql://, postgres://, sqlite: or sqlserver://")) := by
  unfold read
  obtain ⟨name, rest⟩ := cutName text.toList
  dsimp only
  cases (UrlLibrary.read rest : Except String υ) with
  | error => rfl
  | ok url =>
    dsimp only
    by_cases hproduct : NamesProduct url
    · have hsome : (Dialect.ofConnectionString? (String.ofList (UrlLibrary.text url))).isNone =
          false := by
        rw [← Option.not_isSome, hproduct]
        rfl
      rw [if_pos hproduct]
      simp only [hsome, bind, Except.bind, pure, Except.pure]
      rfl
    · have hnone : (Dialect.ofConnectionString? (String.ofList (UrlLibrary.text url))).isNone =
          true := by
        simpa [NamesProduct] using hproduct
      rw [if_neg hproduct]
      simp [hnone, bind, Except.bind, pure, Except.pure, throw, throwThe, MonadExceptOf.throw]

theorem exists_of_read (h : read υ text = .ok u) :
    ∃ url : υ, UrlLibrary.read (cutName text.toList).2 = .ok url ∧ NamesProduct url ∧
      u = ofUrl (cutName text.toList).1 url := by
  rw [read_eq] at h
  split at h
  next => cases h
  next url hurl =>
    split at h
    next hproduct => exact ⟨url, hurl, hproduct, (Except.ok.inj h).symm⟩
    next => cases h

theorem read_of_url {name : Option (List Char)} {rest : List Char}
    (hname : cutName text.toList = (name, rest)) (hurl : UrlLibrary.read rest = .ok url)
    (hproduct : NamesProduct url) : read υ text = .ok (ofUrl name url) := by
  rw [read_eq, hname, hurl]
  dsimp only
  rw [if_pos hproduct]

/-- A pair with the key, in any case. -/
def HasKey (key : String) (pair : Pair) : Prop := sameIgnoringCase pair.1 key = true

instance (key : String) (pair : Pair) : Decidable (HasKey key pair) :=
  inferInstanceAs (Decidable (_ = _))

/-- The value of the last of the pairs with the key. -/
def LastValue (key : String) (pairs : List Pair) (value : String) : Prop :=
  ∃ before pair after, pairs = before ++ pair :: after ∧ HasKey key pair ∧ pair.2 = value ∧
    ∀ other ∈ after, ¬ HasKey key other

/-- A value that turns a setting on. -/
def TurnsOn (value : String) : Prop :=
  ∃ word ∈ ["true", "1", "yes"], sameIgnoringCase value word = true

theorem sameIgnoringCase_iff {name key : String} (h : Chars.asciiLower key.toList = key.toList) :
    sameIgnoringCase name key = true ↔ String.ofList (Chars.asciiLower name.toList) = key := by
  rw [sameIgnoringCase, beq_iff_eq, h, ← String.toList_inj, String.toList_ofList]

theorem hasKey_iff {key : String} (h : key ∈ optionKeys) (pair : Pair) :
    HasKey key pair ↔ optionKey pair = key := by
  have hlower : ∀ key ∈ optionKeys, Chars.asciiLower key.toList = key.toList := by decide
  exact sameIgnoringCase_iff (hlower key h)

theorem isOption_iff (pair : Pair) :
    isOption pair = true ↔ ∃ key ∈ optionKeys, HasKey key pair := by
  rw [isOption, List.contains_iff_mem]
  constructor
  · exact fun hmem => ⟨optionKey pair, hmem, (hasKey_iff hmem pair).mpr rfl⟩
  · rintro ⟨key, hmem, hkey⟩
    rwa [(hasKey_iff hmem pair).mp hkey]

theorem isTrue_iff (value : String) : isTrue value = true ↔ TurnsOn value := by
  have hlower : ∀ word ∈ ["true", "1", "yes"], Chars.asciiLower word.toList = word.toList := by
    decide
  rw [isTrue, List.contains_iff_mem]
  constructor
  · exact fun hmem => ⟨_, hmem, (sameIgnoringCase_iff (hlower _ hmem)).mpr rfl⟩
  · rintro ⟨word, hmem, hsame⟩
    rwa [(sameIgnoringCase_iff (hlower word hmem)).mp hsame]

/-- The last pair with the key decides. -/
theorem option?_eq_some_iff {key value : String} (h : key ∈ optionKeys) :
    option? key pairs = some value ↔ LastValue key pairs value := by
  rw [option?, Option.map_eq_some_iff, ← List.head?_reverse, ← List.filter_reverse,
    List.head?_filter]
  constructor
  · rintro ⟨pair, hfind, rfl⟩
    obtain ⟨hkey, after, before, hpairs, hafter⟩ := List.find?_eq_some_iff_append.mp hfind
    refine ⟨before.reverse, pair, after.reverse, ?_, ?_, rfl, fun other hother => ?_⟩
    · rw [← List.reverse_reverse pairs, hpairs]
      simp
    · exact (hasKey_iff h pair).mpr (beq_iff_eq.mp hkey)
    · have hnot := hafter other (List.mem_reverse.mp hother)
      rw [hasKey_iff h]
      simpa using hnot
  · rintro ⟨before, pair, after, rfl, hkey, rfl, hafter⟩
    refine ⟨pair, List.find?_eq_some_iff_append.mpr ⟨?_, after.reverse, before.reverse, ?_, ?_⟩,
      rfl⟩
    · exact beq_iff_eq.mpr ((hasKey_iff h pair).mp hkey)
    · simp
    · intro other hother
      have hnot := hafter other (List.mem_reverse.mp hother)
      rw [hasKey_iff h] at hnot
      simpa using hnot

theorem any_option?_iff {key : String} (h : key ∈ optionKeys) :
    (option? key pairs).any isTrue = true ↔ ∃ value, LastValue key pairs value ∧ TurnsOn value := by
  cases hoption : option? key pairs with
  | none =>
    refine ⟨nofun, ?_⟩
    rintro ⟨value, hvalue, -⟩
    rw [← option?_eq_some_iff h, hoption] at hvalue
    cases hvalue
  | some value =>
    rw [Option.any_some, isTrue_iff]
    constructor
    · exact fun hon => ⟨value, (option?_eq_some_iff h).mp hoption, hon⟩
    · rintro ⟨other, hother, hon⟩
      rw [← option?_eq_some_iff h, hoption] at hother
      rwa [Option.some.inj hother]

theorem schema_eq_some_iff {schema : String} :
    (option? "schema" pairs).filter (· != "") = some schema ↔
      LastValue "schema" pairs schema ∧ schema ≠ "" := by
  rw [Option.filter_eq_some_iff, option?_eq_some_iff (by decide), bne_iff_ne]

/-- No option is left among the pairs for the driver. -/
theorem option?_filter {key : String} (h : key ∈ optionKeys) (pairs : List Pair) :
    option? key (pairs.filter (!isOption ·)) = none := by
  cases hoption : option? key (pairs.filter (!isOption ·)) with
  | none => rfl
  | some value =>
    obtain ⟨before, pair, after, hpairs, hkey, -, -⟩ := (option?_eq_some_iff h).mp hoption
    have hmem : pair ∈ pairs.filter (!isOption ·) := by
      rw [hpairs]
      exact List.mem_append_right _ List.mem_cons_self
    have hnot := (List.mem_filter.mp hmem).2
    rw [(isOption_iff pair).mpr ⟨key, h, hkey⟩] at hnot
    cases hnot

variable [LawfulUrlLibrary υ]

/-- No name stands in front of the scheme of a URL. -/
theorem cutName_text {written : List Char} (h : UrlLibrary.read written = .ok url) :
    cutName (UrlLibrary.text url) = (none, UrlLibrary.text url) := by
  obtain ⟨hcolon, hequals⟩ := UrlLibrary.not_mem_scheme h
  have hchars : ∀ c ∈ scheme url, (c != ':') = true := by
    refine fun c hc => bne_iff_ne.mpr ?_
    rintro rfl
    exact hcolon hc
  obtain ⟨rest, hrest⟩ := LawfulUrlLibrary.text_of_read h
  have hhead : (UrlLibrary.text url).takeWhile (· != ':') = scheme url := by
    rw [hrest]
    exact (Scanner.takeWhile_dropWhile_append hchars (by rintro c ⟨⟩; rfl)).1
  rw [cutName, hhead, Chars.cutFirst_eq_none hequals]

theorem queryPairs_stripped (url : υ) :
    queryPairs (stripped url) = (queryPairs url).filter (!isOption ·) :=
  UrlLibrary.queryPairs_withPairs url _

theorem stripped_stripped (url : υ) : stripped (stripped url) = stripped url := by
  have hfilter : (queryPairs (stripped url)).filter (!isOption ·) =
      (queryPairs url).filter (!isOption ·) := by
    rw [queryPairs_stripped, List.filter_filter]
    simp only [Bool.and_self]
  rw [stripped, hfilter, stripped, UrlLibrary.withPairs_again]

/-- What is left for the driver is read as it is, with every option at its default. -/
theorem ofUrl_stripped (name : Option (List Char)) (url : υ) :
    ofUrl name (stripped url) =
      { ofUrl name url with schema := none, savePoints := false, logQueries := false } := by
  have hnone {key : String} (hkey : key ∈ optionKeys) :
      option? key (queryPairs (stripped url)) = none := by
    rw [queryPairs_stripped, option?_filter hkey]
  rw [ofUrl, stripped_stripped, hnone (by decide), hnone (by decide), hnone (by decide)]
  rfl

theorem product_stripped (h : Parsed url) :
    Dialect.ofConnectionString? (String.ofList (UrlLibrary.text (stripped url))) =
      Dialect.ofConnectionString? (String.ofList (UrlLibrary.text url)) :=
  UrlLibrary.ofConnectionString?_congr (UrlLibrary.text_withPairs url _)
    (LawfulUrlLibrary.ascii (h.withPairs _)) (LawfulUrlLibrary.ascii h)

theorem read_stripped (h : Parsed url) (hproduct : NamesProduct url) :
    read υ (String.ofList (UrlLibrary.text (stripped url))) =
      .ok { ofUrl none url with schema := none, savePoints := false, logQueries := false } := by
  have hread := LawfulUrlLibrary.read_text (h.withPairs ((queryPairs url).filter (!isOption ·)))
  rw [← ofUrl_stripped]
  refine read_of_url ?_ hread ?_
  · rw [String.toList_ofList]
    exact cutName_text hread
  · rwa [NamesProduct, product_stripped h]

/-- The pairs that are no options reach the driver, all of them, in their order and as they were;
the last pair with its key decides each option; and what the driver is given is read as itself. -/
theorem read_keeps_driver_pairs (h : read υ text = .ok u) :
    ∃ url passed : υ,
      UrlLibrary.read (cutName text.toList).2 = .ok url ∧
      UrlLibrary.read u.connectionString.toList = .ok passed ∧
      queryPairs passed = ((queryPairs url).filter fun pair =>
        ∀ key ∈ ["save_points", "log_queries", "schema"], ¬ HasKey key pair) ∧
      (u.savePoints = true ↔
        ∃ value, LastValue "save_points" (queryPairs url) value ∧ TurnsOn value) ∧
      (u.logQueries = true ↔
        ∃ value, LastValue "log_queries" (queryPairs url) value ∧ TurnsOn value) ∧
      (∀ schema, u.schema = some schema ↔
        LastValue "schema" (queryPairs url) schema ∧ schema ≠ "") ∧
      ∃ again, read υ u.connectionString = .ok again ∧
        again.connectionString = u.connectionString ∧ again.database = u.database ∧
        again.schema = none ∧ again.savePoints = false ∧ again.logQueries = false := by
  obtain ⟨url, hurl, hproduct, rfl⟩ := exists_of_read h
  have hparsed := UrlLibrary.parsed_of_product hurl hproduct
  have hpairs : ((queryPairs url).filter (!isOption ·)) = (queryPairs url).filter fun pair =>
      ∀ key ∈ ["save_points", "log_queries", "schema"], ¬ HasKey key pair := by
    refine List.filter_congr fun pair _ => ?_
    rw [Bool.eq_iff_iff, decide_eq_true_iff, Bool.not_eq_true', ← Bool.not_eq_true, isOption_iff,
      not_exists]
    exact forall_congr' fun key => not_and
  refine ⟨url, stripped url, hurl, ?_, ?_, any_option?_iff (by decide), any_option?_iff (by decide),
    fun schema => schema_eq_some_iff, _, read_stripped hparsed hproduct, rfl, rfl, rfl, rfl, rfl⟩
  · exact (congrArg UrlLibrary.read String.toList_ofList).trans
      (LawfulUrlLibrary.read_text (hparsed.withPairs _))
  · rw [queryPairs_stripped, hpairs]

theorem read_keeps_driver_pairs_repeated :
    ∃ u, read Url "mysql://h/shop?charset=a&Save_Points=no&charset=b&SAVE_POINTS=Yes" = .ok u ∧
      u.savePoints = true ∧
      ∃ passed, Url.read u.connectionString.toList = .ok passed ∧
        passed.queryPairs = [("charset", "a"), ("charset", "b")] := by
  obtain ⟨url, hurl, hquery, hproduct⟩ : ∃ url : Url,
      UrlLibrary.read
        "mysql://h/shop?charset=a&Save_Points=no&charset=b&SAVE_POINTS=Yes".toList = .ok url ∧
      url.query = some (Form.encode
        [("charset", "a"), ("Save_Points", "no"), ("charset", "b"), ("SAVE_POINTS", "Yes")]) ∧
      NamesProduct url :=
    ⟨_, rfl, rfl, by decide⟩
  have hname : cutName "mysql://h/shop?charset=a&Save_Points=no&charset=b&SAVE_POINTS=Yes".toList =
      (none, "mysql://h/shop?charset=a&Save_Points=no&charset=b&SAVE_POINTS=Yes".toList) := rfl
  have hread := read_of_url hname hurl hproduct
  obtain ⟨same, passed, hsame, hpassed, hpairs, hsave, -⟩ := read_keeps_driver_pairs hread
  rw [hname] at hsame
  obtain rfl := Except.ok.inj (hurl.symm.trans hsame)
  have hdecode : queryPairs url =
      [("charset", "a"), ("Save_Points", "no"), ("charset", "b"), ("SAVE_POINTS", "Yes")] := by
    change Form.decode (url.query.getD []) = _
    rw [hquery, Option.getD_some, Form.decode_encode]
  rw [hdecode] at hpairs hsave
  refine ⟨_, hread, hsave.mpr ⟨"Yes", ?_, "yes", by decide, by decide⟩, passed,
    Url.read_of_library hpassed, hpairs⟩
  exact ⟨[("charset", "a"), ("Save_Points", "no"), ("charset", "b")], ("SAVE_POINTS", "Yes"), [],
    rfl, by decide, rfl, by simp⟩

end PortableSql.DatabaseUrl

import PortableSql.Connection.Schema
import PortableSql.Proofs.Catalog.Listing
import PortableSql.Proofs.Connection.Calls

namespace PortableSql

open PortableSql.Action

/-- The table that rows were folded into, or the error that ended it. -/
def Folding.result (f : Folding) : Except Error Table :=
  match f.error? with
  | some e => .error e
  | none => .ok f.table

theorem Folding.result_error_iff {f : Folding} {e : Error} :
    f.result = .error e ↔ f.error? = some e := by
  unfold result
  split <;> simp_all

theorem Folding.result_ok_iff {f : Folding} {t : Table} :
    f.result = .ok t ↔ f.error? = none ∧ f.table = t := by
  unfold result
  split <;> simp_all

/-- The schema and the table that a name stands for: what is in front of its first dot and behind it,
or the configured schema and the whole name where it has no dot. -/
inductive NamesTable (configured : Option String) (name : String) : Option String → String → Prop
    where
  | qualified {schema table : String} (first : '.' ∉ schema.toList)
    (cut : name = schema ++ "." ++ table) : NamesTable configured name (some schema) table
  | plain (undotted : '.' ∉ name.toList) : NamesTable configured name configured name

theorem qualifiedName_eq_iff {configured schema : Option String} {name table : String} :
    qualifiedName configured name = (schema, table) ↔ NamesTable configured name schema table := by
  constructor
  · intro heq
    unfold qualifiedName at heq
    cases hcut : Chars.cutFirst '.' name.toList with
    | none =>
      rw [hcut] at heq
      cases heq
      exact .plain (Chars.not_mem_of_cutFirst hcut)
    | some cut =>
      obtain ⟨before, after⟩ := cut
      rw [hcut] at heq
      cases heq
      obtain ⟨htext, hfirst⟩ := Chars.eq_of_cutFirst hcut
      refine .qualified (by rwa [String.toList_ofList]) ?_
      rw [← String.toList_inj, htext]
      simp
  · intro h
    unfold qualifiedName
    cases h with
    | plain undotted => rw [Chars.cutFirst_eq_none undotted]
    | @qualified schema table first cut =>
      have htext : name.toList = schema.toList ++ '.' :: table.toList := by
        rw [cut]
        simp
      rw [htext, Chars.cutFirst_append first]
      simp

def CatalogQuery.statement (q : CatalogQuery) : RecordedStatement :=
  { sql := q.sql, params := q.params, isQuery := true }

/-- The error of a description whose query has failed. -/
def Error.undescribed (table : String) (e : Error) : Error :=
  .introspection s!"cannot describe {table}: {e.text}" table (some e)

namespace Dialect

/-- What is asked about a table, in order. -/
def catalogQueries (d : Dialect) (table : String) (schema : Option String) : List CatalogQuery :=
  [d.columnsQuery table schema, d.indexesQuery table schema, d.foreignKeysQuery table schema]

/-- A table without columns is not there. -/
def readColumns (d : Dialect) (t : Table) (rows : List Row) : Folding :=
  if rows.isEmpty then
    .failed t (.introspection s!"cannot describe {t.name}. It has 0 columns." t.name none)
  else d.foldColumns t rows

/-- How the answers are read into a table, in the order in which they were asked for. -/
def readings (d : Dialect) : List (Table → List Row → Folding) :=
  [d.readColumns, .ofRows d.foldIndex, .ofRows d.foldForeignKey]

end Dialect

/-- A table with listings read into it, as many as there are, up to the first error. -/
def Table.withListings : List (Table → List Row → Folding) → List (List Row) → Table →
    Except Error Table
  | read :: reads, rows :: listings, t => do withListings reads listings (← (read t rows).result)
  | _, _, t => .ok t

/-- A description by its listings: those of columns, indexes and foreign keys, or the first of
them. -/
def Dialect.described (d : Dialect) (table : String) (listings : List (List Row)) :
    Except Error Table :=
  Table.withListings d.readings listings { name := table }

/-- The answers of a driver that is asked one query after the other. -/
def answersTo {δ : Type} [Driver δ] : List CatalogQuery → δ → List (Except Error (List Row))
  | [], _ => []
  | q :: queries, driver =>
    let (answer, driver) := Driver.query q.sql q.params driver
    answer :: answersTo queries driver

/-- How many of the answers are asked for until one fails or cannot be read, and what becomes of the
table. -/
def Table.withAnswers (table : String) : List (Table → List Row → Folding) →
    List (Except Error (List Row)) → Table → Nat × Except Error Table
  | [], _, t | _ :: _, [], t => (0, .ok t)
  | _ :: _, .error e :: _, _ => (1, .error (e.undescribed table))
  | read :: reads, .ok rows :: answers, t =>
    match (read t rows).result with
    | .error e => (1, .error e)
    | .ok u =>
      let (count, result) := withAnswers table reads answers u
      (count + 1, result)

namespace Action

variable {δ : Type}

/-- A report changes nothing but the events. -/
theorem runOn_reported {α : Type} (x : Action δ α) (report : α → Event) (c : Connection δ) :
    ∃ events, (do
        let a ← x
        emit (report a)
        return a : Action δ α).runOn c = ((x.runOn c).1, { (x.runOn c).2 with events }) := by
  rw [runOn_bind]
  rcases x.runOn c with ⟨_ | _, _⟩ <;> exact ⟨_, rfl⟩

theorem runOn_folded (f : Folding) (c : Connection δ) :
    (folded f).runOn c = (f.result, { c with events := c.events ++ f.events }) := by
  rw [folded, runOn_bind, runOn_forM_emit, Folding.result]
  cases f.error? <;> rfl

variable [Driver δ]

theorem runOn_fetch (table : String) (q : CatalogQuery) (c : Connection δ) :
    ∃ events, (fetch table q).runOn c =
      ((Driver.query q.sql q.params c.driver).1.mapError (Error.undescribed table),
        { c with driver := (Driver.query q.sql q.params c.driver).2, events }) := by
  rw [fetch, runOn_bind, runOn_attempt, runCatalogQuery, runOn_query]
  cases (Driver.query q.sql q.params c.driver).1 <;> exact ⟨_, rfl⟩

/-- Asks the queries one after the other and reads each answer into a table. -/
def assemble (table : String) : List CatalogQuery → List (Table → List Row → Folding) → Table →
    Action δ Table
  | q :: queries, read :: reads, t => do
    let rows ← fetch table q
    let u ← folded (read t rows)
    assemble table queries reads u
  | _, _, t => return t

variable {name table : String} {schema : Option String} {c : Connection δ}

theorem describe_runOn_assemble (hname : qualifiedName c.config.schema name = (schema, table)) :
    (describe name).runOn c =
      (do
        let t ← assemble table (c.dialect.catalogQueries table schema) c.dialect.readings
          { name := table }
        emit (.describedTable table t.columns.length t.indexes.length t.constraints.length)
        return t : Action δ Table).runOn c := by
  rw [describe, runOn_bind, runOn_get]
  simp only [hname, Dialect.catalogQueries, Dialect.readings, assemble, bind_assoc, pure_bind]
  rw [runOn_bind, runOn_bind]
  rcases (fetch table (c.dialect.columnsQuery table schema)).runOn c with ⟨e | rows, after⟩
  · rfl
  · -- an empty listing is refused before it is read, and as one that cannot be read
    cases rows with
    | nil =>
      have hnone : (folded (c.dialect.readColumns { name := table } [])).runOn after =
          (.error (.introspection s!"cannot describe {table}. It has 0 columns." table none),
            after) := by
        rw [runOn_folded]
        simp [Dialect.readColumns, Folding.result, Folding.failed]
      simp only [List.isEmpty_nil, if_true, runOn_bind, runOn_throw, hnone]
    | cons row rows => rfl

theorem runOn_describe (hname : qualifiedName c.config.schema name = (schema, table)) :
    let assembled := (assemble table (c.dialect.catalogQueries table schema) c.dialect.readings
      { name := table }).runOn c
    ∃ events, (describe name).runOn c = (assembled.1, { assembled.2 with events }) := by
  intro assembled
  rw [describe_runOn_assemble hname]
  exact runOn_reported _ _ c

end Action

/-- What asking about a table leaves of a connection as it was, and what it sends. -/
structure Asks {δ : Type} (c after : Connection (Tapped δ)) (sent : List RecordedStatement) :
    Prop where
  config_eq : after.config = c.config
  nesting_eq : after.nesting = c.nesting
  useSavePoints_eq : after.useSavePoints = c.useSavePoints
  sent_eq : after.driver.sent = c.driver.sent ++ sent

namespace Action

variable {δ : Type} [Driver δ]

/-- Assembling a table asks for as many answers as are needed, and changes nothing else. -/
theorem runOn_assemble (table : String) (queries : List CatalogQuery)
    (reads : List (Table → List Row → Folding)) (t : Table) (c : Connection (Tapped δ)) :
    let outcome := Table.withAnswers table reads (answersTo queries c.driver.inner) t
    ∃ after, (assemble table queries reads t).runOn c = (outcome.2, after) ∧
      Asks c after ((queries.take outcome.1).map CatalogQuery.statement) := by
  induction queries generalizing reads t c with
  | nil => cases reads <;> exact ⟨c, rfl, rfl, rfl, rfl, by simp⟩
  | cons q queries ih =>
    cases reads with
    | nil => exact ⟨c, rfl, rfl, rfl, rfl, by simp [Table.withAnswers]⟩
    | cons read reads =>
      obtain ⟨events, hfetch⟩ := runOn_fetch table q c
      have hanswer : (Driver.query q.sql q.params c.driver).1 =
          (Driver.query q.sql q.params c.driver.inner).1 := rfl
      have hinner : (Driver.query q.sql q.params c.driver).2.inner =
          (Driver.query q.sql q.params c.driver.inner).2 := rfl
      have hsent : (Driver.query q.sql q.params c.driver).2.sent =
          c.driver.sent ++ [q.statement] := rfl
      simp only [assemble, answersTo, runOn_bind, hfetch, hanswer]
      cases (Driver.query q.sql q.params c.driver.inner).1 with
      | error e =>
        exact ⟨_, rfl, rfl, rfl, rfl, hsent⟩
      | ok rows =>
        have hrows : (.ok rows : Except Error (List Row)).mapError (Error.undescribed table) =
            .ok rows := rfl
        simp only [hrows, runOn_folded, Table.withAnswers]
        cases (read t rows).result with
        | error e => exact ⟨_, rfl, rfl, rfl, rfl, hsent⟩
        | ok u =>
          -- the rest is asked of the connection as the first query has left it
          obtain ⟨after, hrun, hasks⟩ := ih reads u
            { c with
              driver := (Driver.query q.sql q.params c.driver).2
              events := events ++ (read t rows).events }
          rw [hinner] at hrun hasks
          refine ⟨after, hrun, hasks.config_eq, hasks.nesting_eq, hasks.useSavePoints_eq, ?_⟩
          rw [hasks.sent_eq, hsent, List.append_assoc]
          rfl

end Action

namespace Table

variable {table : String} {reads : List (Table → List Row → Folding)}
  {answers : List (Except Error (List Row))} {t u : Table}

/-- Whether answers are all listings that can be read into a table. -/
def ReadBy (reads : List (Table → List Row → Folding)) (answers : List (Except Error (List Row)))
    (t u : Table) : Prop :=
  ∃ listings, answers = listings.map .ok ∧ withListings reads listings t = .ok u

theorem readBy_nil : ReadBy reads [] t u ↔ t = u := by
  constructor
  · rintro ⟨listings, hmap, hread⟩
    obtain rfl := List.map_eq_nil_iff.mp hmap.symm
    cases reads <;> exact Except.ok.inj hread
  · rintro rfl
    exact ⟨[], rfl, by cases reads <;> rfl⟩

theorem not_readBy_error {e : Error} : ¬ ReadBy reads (.error e :: answers) t u := by
  rintro ⟨_ | ⟨rows, listings⟩, hmap, _⟩ <;> cases hmap

theorem readBy_ok {read : Table → List Row → Folding} {rows : List Row} :
    ReadBy (read :: reads) (.ok rows :: answers) t u ↔
      ∃ v, (read t rows).result = .ok v ∧ ReadBy reads answers v u := by
  constructor
  · rintro ⟨_ | ⟨others, listings⟩, hmap, hread⟩
    · cases hmap
    · obtain ⟨hrows, rfl⟩ := List.cons.inj hmap
      cases hrows
      rw [withListings] at hread
      cases hv : (read t rows).result with
      | error e =>
        rw [hv] at hread
        cases hread
      | ok v =>
        rw [hv] at hread
        exact ⟨v, rfl, listings, rfl, hread⟩
  · rintro ⟨v, hv, listings, rfl, hread⟩
    refine ⟨rows :: listings, rfl, ?_⟩
    rw [withListings, hv]
    exact hread

theorem withAnswers_count_le : (withAnswers table reads answers t).1 ≤ answers.length := by
  fun_induction withAnswers table reads answers t with
  | case1 | case2 | case3 | case4 => simp
  | case5 read reads rows answers t u hread count result hrest ih => simpa [hrest] using ih

/-- An answer is asked for as soon as all before it are there and can be read. -/
theorem lt_withAnswers_count_iff {i : Nat} (hlength : answers.length = reads.length)
    (hi : i < answers.length) :
    i < (withAnswers table reads answers t).1 ↔ ∃ u, ReadBy reads (answers.take i) t u := by
  have hfirst {reads : List (Table → List Row → Folding)}
      {answers : List (Except Error (List Row))} {t : Table} :
      ∃ u, ReadBy reads (answers.take 0) t u := ⟨t, readBy_nil.mpr rfl⟩
  fun_induction withAnswers table reads answers t generalizing i with
  | case1 answers t =>
    rw [hlength] at hi
    cases hi
  | case2 read reads t => cases hi
  | case3 read reads e answers t =>
    cases i with
    | zero => exact iff_of_true Nat.one_pos hfirst
    | succ i => exact iff_of_false (by simp) fun ⟨u, hu⟩ => not_readBy_error hu
  | case4 read reads rows answers t e hread =>
    cases i with
    | zero => exact iff_of_true Nat.one_pos hfirst
    | succ i =>
      refine iff_of_false (by simp) ?_
      rintro ⟨u, hu⟩
      obtain ⟨v, hv, _⟩ := readBy_ok.mp hu
      cases hread.symm.trans hv
  | case5 read reads rows answers t u hread count result hrest ih =>
    cases i with
    | zero => exact iff_of_true (Nat.succ_pos _) hfirst
    | succ i =>
      have hrec := ih (Nat.succ.inj hlength) (Nat.lt_of_succ_lt_succ hi)
      rw [hrest] at hrec
      simp [readBy_ok, hread, hrec]

theorem withAnswers_ok_iff (hlength : answers.length = reads.length) :
    (withAnswers table reads answers t).2 = .ok u ↔ ReadBy reads answers t u := by
  fun_induction withAnswers table reads answers t with
  | case1 answers t =>
    obtain rfl := List.eq_nil_of_length_eq_zero hlength
    rw [readBy_nil]
    exact ⟨Except.ok.inj, congrArg Except.ok⟩
  | case2 read reads t => cases hlength
  | case3 read reads e answers t => exact iff_of_false (by simp) not_readBy_error
  | case4 read reads rows answers t e hread => simp [readBy_ok, hread]
  | case5 read reads rows answers t v hread count result hrest ih =>
    rw [hrest] at ih
    simp [readBy_ok, hread, ← ih (Nat.succ.inj hlength)]

theorem withAnswers_count_of_ok (hlength : answers.length = reads.length)
    (h : (withAnswers table reads answers t).2 = .ok u) :
    (withAnswers table reads answers t).1 = answers.length := by
  fun_induction withAnswers table reads answers t with
  | case1 answers t => exact hlength.symm
  | case2 read reads t => rfl
  | case3 read reads e answers t => cases h
  | case4 read reads rows answers t e hread => cases h
  | case5 read reads rows answers t v hread count result hrest ih =>
    rw [hrest] at ih
    exact congrArg Nat.succ (ih (Nat.succ.inj hlength) h)

theorem withAnswers_refused {i : Nat} {e : Error} (hi : i < (withAnswers table reads answers t).1)
    (he : answers[i]? = some (.error e)) :
    withAnswers table reads answers t = (i + 1, .error (e.undescribed table)) := by
  fun_induction withAnswers table reads answers t generalizing i with
  | case1 | case2 => cases hi
  | case3 read reads e answers t =>
    obtain rfl : i = 0 := Nat.lt_one_iff.mp hi
    cases he
    rfl
  | case4 read reads rows answers t e hread =>
    obtain rfl : i = 0 := Nat.lt_one_iff.mp hi
    cases he
  | case5 read reads rows answers t u hread count result hrest ih =>
    cases i with
    | zero => cases he
    | succ i =>
      rw [hrest] at ih
      cases ih (Nat.lt_of_succ_lt_succ hi) he
      rfl

end Table

/-- A folding leaves a table such as it found, under the same name, and its error is that of an
introspection of this table. -/
structure Folding.Introspects (t : Table) (f : Folding) : Prop where
  catalogued : f.table.Catalogued
  name_eq : f.table.name = t.name
  error : ∀ e, f.error? = some e → ∃ message, e = .introspection message t.name none

theorem Folding.Follows.introspects {t : Table} {f : Folding} (h : Follows t f) :
    Introspects t f := by
  refine ⟨h.catalogued, h.name_eq, ?_⟩
  intro e he
  rcases h.error with hnone | ⟨key, hmissing⟩
  · cases hnone.symm.trans he
  · exact ⟨_, Option.some.inj (he.symm.trans hmissing)⟩

theorem Dialect.readings_introspect (d : Dialect) {read : Table → List Row → Folding}
    (hread : read ∈ d.readings) {t : Table} (h : t.Catalogued) (rows : List Row) :
    (read t rows).Introspects t := by
  simp only [readings, List.mem_cons, List.not_mem_nil, or_false] at hread
  rcases hread with rfl | rfl | rfl
  · unfold readColumns
    split
    next => exact ⟨h, rfl, fun e he => ⟨_, (Option.some.inj he).symm⟩⟩
    next => exact (d.foldColumns_follows h rows).introspects
  · exact (Folding.follows_ofRows (fun u row hu => d.foldIndex_follows hu row) h rows).introspects
  · exact (Folding.follows_ofRows (fun u row hu => d.foldForeignKey_follows hu row) h
      rows).introspects

theorem Dialect.withAnswers_noColumns (d : Dialect) {answers : List (Except Error (List Row))}
    (table : String) (h : answers.head? = some (.ok [])) :
    Table.withAnswers table d.readings answers { name := table } =
      (1, .error (.introspection s!"cannot describe {table}. It has 0 columns." table none)) := by
  obtain ⟨rest, rfl⟩ := List.head?_eq_some_iff.mp h
  rfl

theorem Table.withAnswers_error {reads : List (Table → List Row → Folding)}
    {answers : List (Except Error (List Row))} {table : String} {t : Table} {e : Error}
    (hreads : ∀ read ∈ reads, ∀ u : Table, u.Catalogued → ∀ rows, (read u rows).Introspects u)
    (h : t.Catalogued) (hname : t.name = table)
    (he : (withAnswers table reads answers t).2 = .error e) :
    (∃ i refused, (withAnswers table reads answers t).1 = i + 1 ∧
        answers[i]? = some (.error refused)) ∨
      ∃ message, e = .introspection message table none := by
  fun_induction withAnswers table reads answers t with
  | case1 | case2 => cases he
  | case3 read reads refused answers t => exact .inl ⟨0, refused, rfl, rfl⟩
  | case4 read reads rows answers t error hread =>
    cases he
    obtain ⟨message, herror⟩ := (hreads read (by simp) t h rows).error e
      (Folding.result_error_iff.mp hread)
    exact .inr ⟨message, by rw [herror, hname]⟩
  | case5 read reads rows answers t u hread count result hrest ih =>
    obtain ⟨_, rfl⟩ := Folding.result_ok_iff.mp hread
    have hi := hreads read (by simp) t h rows
    have hrec := ih (fun other hm => hreads other (by simp [hm])) hi.catalogued
      (hi.name_eq.trans hname)
    rw [hrest] at hrec
    rcases hrec he with ⟨i, refused, hcount, hanswer⟩ | hmessage
    · exact .inl ⟨i + 1, refused, congrArg Nat.succ hcount, hanswer⟩
    · exact .inr hmessage

/-- Describing a table asks for its columns, indexes and foreign keys, one after the other until one
of the answers fails or cannot be read, and sends nothing else. What comes of it depends on the
answers alone; it is a table, or the error of an introspection of it. -/
theorem describe_protocol {δ : Type} [Driver δ] (name : String) (c : Connection (Tapped δ)) :
    let d := c.dialect
    ∃ schema table, NamesTable c.config.schema name schema table ∧
    let queries := d.catalogQueries table schema
    let answers := answersTo queries c.driver.inner
    ∃ r after count, (Action.describe name).runOn c = (r, after) ∧ count ≤ 3 ∧
      after.driver.sent = c.driver.sent ++ (queries.take count).map CatalogQuery.statement ∧
      (∀ i < 3, i < count ↔ ∃ listings t,
        answers.take i = listings.map .ok ∧ d.described table listings = .ok t) ∧
      (∀ t, r = .ok t ↔ ∃ listings,
        answers = listings.map .ok ∧ d.described table listings = .ok t) ∧
      (∀ t, r = .ok t → count = 3) ∧
      (∀ i e, i < count → answers[i]? = some (.error e) → count = i + 1 ∧
        r = .error (.introspection s!"cannot describe {table}: {e.text}" table (some e))) ∧
      (answers.head? = some (.ok []) → count = 1 ∧
        r = .error (.introspection s!"cannot describe {table}. It has 0 columns." table none)) ∧
      (∀ e, r = .error e → (∃ i refused, count = i + 1 ∧ answers[i]? = some (.error refused)) ∨
        ∃ message, e = .introspection message table none) ∧
      after.nesting = c.nesting ∧ after.useSavePoints = c.useSavePoints ∧
      after.config = c.config := by
  intro d
  obtain ⟨schema, table, hname⟩ : ∃ schema table,
      qualifiedName c.config.schema name = (schema, table) := ⟨_, _, rfl⟩
  refine ⟨schema, table, qualifiedName_eq_iff.mp hname, ?_⟩
  intro queries answers
  have hlength : answers.length = d.readings.length := rfl
  obtain ⟨events, hdescribe⟩ := runOn_describe hname
  obtain ⟨after, hassemble, hasks⟩ :=
    runOn_assemble table queries d.readings { name := table } c
  rw [hassemble] at hdescribe
  refine ⟨_, _, _, hdescribe, Table.withAnswers_count_le, hasks.sent_eq, ?_,
    fun t => Table.withAnswers_ok_iff hlength,
    fun t => Table.withAnswers_count_of_ok hlength, ?_, ?_, ?_,
    hasks.nesting_eq, hasks.useSavePoints_eq, hasks.config_eq⟩
  · intro i hi
    rw [Table.lt_withAnswers_count_iff hlength hi]
    exact exists_comm
  · intro i e hi he
    have hrefused := Table.withAnswers_refused hi he
    exact ⟨congrArg Prod.fst hrefused, congrArg Prod.snd hrefused⟩
  · intro hempty
    have hnone := d.withAnswers_noColumns table hempty
    exact ⟨congrArg Prod.fst hnone, congrArg Prod.snd hnone⟩
  · intro e he
    exact Table.withAnswers_error (fun read hread u hu rows => d.readings_introspect hread hu rows)
      (Table.Catalogued.new table) rfl he

def oneColumn : List Row := [[("name", .str "id"), ("type", .str "integer")]]

/-- A driver that lists a column and refuses the next query. -/
def answersOnce : RecordingDriver where
  product := .postgresql
  script := [("", .rows oneColumn), ("", .failure "gone")]

theorem answersTo_answersOnce (d : Dialect) (table : String) (schema : Option String) :
    answersTo (d.catalogQueries table schema) answersOnce =
      [.ok oneColumn, .error (.database "gone" none "Check the scripted query"), .ok []] := by
  have hany (sql : String) : RecordingDriver.mentions sql "" = true := by
    unfold RecordingDriver.mentions
    cases sql.toList <;> rfl
  simp [answersTo, Dialect.catalogQueries, Driver.query, RecordingDriver.query,
    RecordingDriver.takePrepared, RecordingDriver.record, answersOnce, hany]

theorem describe_protocol_qualified :
    let c : Connection (Tapped RecordingDriver) :=
      { config := { id := "shop", product := .postgresql, connectionString := "postgres://host/shop"
                    schema := some "public" }
        driver := { inner := answersOnce } }
    let refused : Error := .database "gone" none "Check the scripted query"
    ∃ after, (Action.describe "sales.orders").runOn c =
        (.error (.introspection s!"cannot describe orders: {refused.text}" "orders" (some refused)),
          after) ∧
      after.driver.sent =
        [(c.dialect.columnsQuery "orders" (some "sales")).statement,
         (c.dialect.indexesQuery "orders" (some "sales")).statement] := by
  intro c refused
  obtain ⟨schema, table, hnames, r, after, count, hrun, -, hsent, hasked, -, -, hrefused, -⟩ :=
    describe_protocol "sales.orders" c
  obtain ⟨rfl, rfl⟩ : some "sales" = schema ∧ "orders" = table :=
    Prod.mk.inj (qualifiedName_eq_iff.mpr hnames)
  have hanswers : answersTo (c.dialect.catalogQueries "orders" (some "sales")) c.driver.inner =
      [.ok oneColumn, .error refused, .ok []] := answersTo_answersOnce _ _ _
  rw [hanswers] at hasked hrefused
  have hread : (Dialect.postgresql.described "orders" [oneColumn]).isOk = true := by decide +kernel
  have hsecond : 1 < count := by
    cases hdescribed : Dialect.postgresql.described "orders" [oneColumn] with
    | error e =>
      rw [hdescribed] at hread
      cases hread
    | ok t => exact (hasked 1 (by decide)).mpr ⟨[oneColumn], t, rfl, hdescribed⟩
  obtain ⟨rfl, rfl⟩ := hrefused 1 refused hsecond rfl
  exact ⟨after, hrun, hsent⟩

end PortableSql

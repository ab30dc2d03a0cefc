import PortableSql.Proofs.Connection.Work

namespace PortableSql

open PortableSql.Action

namespace Dialect

variable {d : Dialect} {checked : Bool}

/-- Whether foreign keys are checked after a statement. -/
def checkedAfter (d : Dialect) (checked : Bool) (sql : String) : Bool :=
  if sql = d.disableForeignKeysSql then false
  else if sql = d.enableForeignKeysSql then true
  else checked

/-- Whether foreign keys are checked after statements, as they are before the first. -/
def checkedBy (d : Dialect) (sent : List RecordedStatement) : Bool :=
  sent.foldl (fun checked s => d.checkedAfter checked s.sql) true

theorem checkedAfter_disable : d.checkedAfter checked d.disableForeignKeysSql = false := if_pos rfl

theorem checkedAfter_enable : d.checkedAfter checked d.enableForeignKeysSql = true := by
  have hne : d.enableForeignKeysSql ≠ d.disableForeignKeysSql := by cases d <;> decide
  rw [checkedAfter, if_neg hne, if_pos rfl]

end Dialect

variable {δ α : Type} [Driver δ] {d : Dialect}

/-- A driver of the product that refuses neither to turn the checks of foreign keys off nor to turn
them on, now and later. -/
structure Toggles (d : Dialect) (driver : δ) : Prop where
  product_eq : ∀ later, Later driver later → Driver.product later = d
  disables : ∀ later, Later driver later →
    ∃ count, (Driver.execute d.disableForeignKeysSql [] later).1 = .ok count
  enables : ∀ later, Later driver later →
    ∃ count, (Driver.execute d.enableForeignKeysSql [] later).1 = .ok count

theorem Reliable.toggles {driver : δ} (h : Reliable d driver) : Toggles d driver where
  product_eq := h.product_eq
  disables _ hl := h.executes _ hl _ _
  enables _ hl := h.executes _ hl _ _

theorem Toggles.later {first second : δ} (h : Toggles d first) (hl : Later first second) :
    Toggles d second where
  product_eq last hh := h.product_eq last (hl.trans hh)
  disables last hh := h.disables last (hl.trans hh)
  enables last hh := h.enables last (hl.trans hh)

/-- The connection after a statement, whatever the answer is. -/
def Connection.executed (c : Connection δ) (sql : String) (params : List Param) : Connection δ :=
  ((Action.execute sql params).runOn c).2

namespace Toggles

variable {c : Connection (Tapped δ)}

theorem dialect_eq (h : Toggles d c.driver.inner) : c.dialect = d := h.product_eq _ .now

theorem executed (h : Toggles d c.driver.inner) (sql : String) (params : List Param) :
    Toggles d (c.executed sql params).driver.inner :=
  h.later (.executed sql params .now)

theorem checkedBy_executed (c : Connection (Tapped δ)) (sql : String) (params : List Param) :
    d.checkedBy (c.executed sql params).driver.sent =
      d.checkedAfter (d.checkedBy c.driver.sent) sql := by
  have hsent : (c.executed sql params).driver.sent =
      c.driver.sent ++ [{ sql, params, isQuery := false }] := rfl
  rw [hsent, Dialect.checkedBy, List.foldl_append]
  rfl

/-- A block runs between the two statements, and its outcome is that of the whole. -/
theorem withoutForeignKeys (h : Toggles d c.driver.inner) {block : Action (Tapped δ) α}
    (hblock : Toggles d (block.runOn (c.executed d.disableForeignKeysSql [])).2.driver.inner) :
    (Action.withoutForeignKeys block).runOn c =
      ((block.runOn (c.executed d.disableForeignKeysSql [])).1,
        (block.runOn (c.executed d.disableForeignKeysSql [])).2.executed
          d.enableForeignKeysSql []) := by
  obtain ⟨off, hoff⟩ := h.disables _ .now
  have hopen : (discard (Action.execute d.disableForeignKeysSql [])).runOn c =
      (.ok (), c.executed d.disableForeignKeysSql []) := by
    have hexecute : (Action.execute d.disableForeignKeysSql []).runOn c =
        (.ok off, c.executed d.disableForeignKeysSql []) := Prod.ext hoff rfl
    rw [runOn_discard, hexecute]
    rfl
  have hdialect : (Action.dialect : Action (Tapped δ) Dialect).runOn c = (.ok d, c) := by
    rw [← h.dialect_eq]
    rfl
  rcases hrun : block.runOn (c.executed d.disableForeignKeysSql []) with ⟨r, closed⟩
  rw [hrun] at hblock
  obtain ⟨on, hon⟩ := hblock.enables _ .now
  have hclose : (Action.execute d.enableForeignKeysSql []).runOn closed =
      (.ok on, closed.executed d.enableForeignKeysSql []) := Prod.ext hon rfl
  simp only [Action.withoutForeignKeys, runOn_bind, hdialect, hopen, runOn_attempt, hrun, hclose]
  cases r with
  | error e => rfl
  | ok a => rfl

end Toggles

/-- A statement of work that is about to be sent: in how many blocks it is, whether foreign keys are
checked again since the innermost of them began, and what was sent before. -/
structure Moment where
  blocks : Nat
  restored : Bool
  sent : List RecordedStatement

namespace Work

/-- The work with foreign keys unchecked in its blocks. -/
def unchecked : Work α → Action δ α
  | done result => ExceptT.mk (pure result)
  | execute sql params next => do
    let answer ← attempt (Action.execute sql params)
    (next answer).unchecked
  | block inner next => do
    let outcome ← attempt (withoutForeignKeys inner.unchecked)
    (next outcome).unchecked

/-- The statements of work, in the order of a run. A block begins with foreign keys unchecked, and
after it they are checked again. -/
def moments : Work α → Connection (Tapped δ) → Nat → Bool → List Moment
  | done _, _, _, _ => []
  | execute sql params next, c, blocks, restored =>
    let run := (Action.execute sql params).runOn c
    { blocks, restored, sent := c.driver.sent } ::
      (next run.1).moments run.2 blocks (c.dialect.checkedAfter restored sql)
  | block inner next, c, blocks, _ =>
    let run := (withoutForeignKeys inner.unchecked).runOn c
    inner.moments (c.executed c.dialect.disableForeignKeysSql []) (blocks + 1) false ++
      (next run.1).moments run.2 blocks true

variable {c : Connection (Tapped δ)}

theorem unchecked_execute {sql : String} {params : List Param} {next : Except Error Nat → Work α}
    {answer : Except Error Nat} {after : Connection (Tapped δ)}
    (h : (Action.execute sql params).runOn c = (answer, after)) :
    (execute sql params next).unchecked.runOn c = (next answer).unchecked.runOn after := by
  simp only [unchecked, runOn_bind, runOn_attempt, h]

theorem unchecked_block {inner : Work α} {next : Except Error α → Work α} {r : Except Error α}
    {after : Connection (Tapped δ)}
    (h : (withoutForeignKeys (inner.unchecked : Action (Tapped δ) α)).runOn c = (r, after)) :
    (block inner next).unchecked.runOn c = (next r).unchecked.runOn after := by
  simp only [unchecked, runOn_bind, runOn_attempt, h]

theorem unchecked_toggles (w : Work α) (h : Toggles d c.driver.inner) :
    Toggles d (w.unchecked.runOn c).2.driver.inner := by
  induction w generalizing c with
  | done result => exact h
  | execute sql params next ih =>
    rw [unchecked_execute rfl]
    exact ih _ (h.executed sql params)
  | block inner next ihi ihn =>
    have hopened := h.executed d.disableForeignKeysSql []
    have hclosed := ihi hopened
    rw [unchecked_block (h.withoutForeignKeys hclosed)]
    exact ihn _ (hclosed.executed d.enableForeignKeysSql [])

/-- What the log says of the checks is what the blocks around a statement say. -/
theorem checkedBy_moments (w : Work α) (h : Toggles d c.driver.inner) (blocks : Nat) :
    ∀ m ∈ w.moments c blocks (d.checkedBy c.driver.sent), d.checkedBy m.sent = m.restored := by
  induction w generalizing c blocks with
  | done result => exact fun m hm => absurd hm List.not_mem_nil
  | execute sql params next ih =>
    intro m hm
    rcases List.mem_cons.mp hm with rfl | hm
    · rfl
    · rw [h.dialect_eq, ← Toggles.checkedBy_executed c sql params] at hm
      exact ih _ (h.executed sql params) blocks m hm
  | block inner next ihi ihn =>
    have hopened := h.executed d.disableForeignKeysSql []
    have hclosed := unchecked_toggles inner hopened
    have hrun := h.withoutForeignKeys hclosed
    intro m hm
    rw [moments, h.dialect_eq, hrun] at hm
    rcases List.mem_append.mp hm with hm | hm
    · have hoff : d.checkedBy (c.executed d.disableForeignKeysSql []).driver.sent = false := by
        rw [Toggles.checkedBy_executed, Dialect.checkedAfter_disable]
      rw [← hoff] at hm
      exact ihi hopened (blocks + 1) m hm
    · have hon := Toggles.checkedBy_executed (d := d)
        (inner.unchecked.runOn (c.executed d.disableForeignKeysSql [])).2
        d.enableForeignKeysSql []
      rw [Dialect.checkedAfter_enable] at hon
      rw [← hon] at hm
      exact ihn _ (hclosed.executed d.enableForeignKeysSql []) blocks m hm

/-- In a block a statement is sent with foreign keys unchecked if and only if they have not been
checked again since the innermost block around it began, be it by the end of a block inside that one.
After a block they are checked, also if it fails. -/
theorem checked_iff_restored (w : Work α) (h : Toggles d c.driver.inner) :
    (∀ m ∈ w.moments c 0 (d.checkedBy c.driver.sent), 0 < m.blocks →
      d.checkedBy m.sent = m.restored) ∧
    ((withoutForeignKeys w.unchecked).runOn c).1 =
      (w.unchecked.runOn (c.executed d.disableForeignKeysSql [])).1 ∧
    d.checkedBy ((withoutForeignKeys w.unchecked).runOn c).2.driver.sent = true := by
  have hclosed := unchecked_toggles w (h.executed d.disableForeignKeysSql [])
  refine ⟨fun m hm _ => checkedBy_moments w h 0 m hm, ?_, ?_⟩
  · rw [h.withoutForeignKeys hclosed]
  · rw [h.withoutForeignKeys hclosed, Toggles.checkedBy_executed, Dialect.checkedAfter_enable]

/-- A connection to a recording driver of SQLite. -/
def recordedSqlite : Connection (Tapped RecordingDriver) :=
  .create { id := "shop", product := .sqlite, connectionString := "sqlite::memory:" }
    { inner := { product := .sqlite } }

theorem recordedSqlite_toggles : Toggles .sqlite recordedSqlite.driver.inner :=
  Reliable.toggles (RecordingDriver.Willing.reliable ⟨rfl, rfl, rfl, rfl⟩)

/-- Statements before and after a block that fails, the failure of which is passed over. -/
theorem checked_iff_restored_passedOver :
    let inner : Work Unit :=
      execute "INSERT 1" [] fun _ =>
        block (done (.error (.invalidInput "nope"))) fun _ =>
          execute "INSERT 2" [] fun _ => done (.ok ())
    let w : Work Unit := block inner done
    Toggles .sqlite recordedSqlite.driver.inner ∧
      (∃ m ∈ w.moments recordedSqlite 0 true, 0 < m.blocks ∧ m.restored = false ∧
        Dialect.sqlite.checkedBy m.sent = false) ∧
      (∃ m ∈ w.moments recordedSqlite 0 true, 0 < m.blocks ∧ m.restored = true ∧
        Dialect.sqlite.checkedBy m.sent = true) ∧
      Dialect.sqlite.checkedBy
        ((withoutForeignKeys w.unchecked).runOn recordedSqlite).2.driver.sent = true := by
  intro inner w
  obtain ⟨hmoments, -, hafter⟩ := checked_iff_restored w recordedSqlite_toggles
  have hbefore : (w.moments recordedSqlite 0 true).any
      (fun m => 0 < m.blocks && !m.restored) = true := by
    decide +kernel
  have hbehind : (w.moments recordedSqlite 0 true).any
      (fun m => 0 < m.blocks && m.restored) = true := by
    decide +kernel
  obtain ⟨first, hfirst, hf⟩ := List.any_eq_true.mp hbefore
  obtain ⟨last, hlast, hl⟩ := List.any_eq_true.mp hbehind
  simp only [Bool.and_eq_true, decide_eq_true_eq, Bool.not_eq_true'] at hf hl
  refine ⟨recordedSqlite_toggles, ⟨first, hfirst, hf.1, hf.2, ?_⟩, ⟨last, hlast, hl.1, hl.2, ?_⟩,
    hafter⟩
  · exact (hmoments first hfirst hf.1).trans hf.2
  · exact (hmoments last hlast hl.1).trans hl.2

/-- The end of an inner block turns the checks on for what follows it in the block around it. -/
theorem moments_after_inner_checked :
    let w : Work Unit :=
      block (block (done (.ok ())) fun _ => execute "INSERT 1" [] fun _ => done (.ok ())) done
    Toggles .sqlite recordedSqlite.driver.inner ∧
      (w.unchecked.runOn recordedSqlite).2.driver.sent.map RecordedStatement.sql =
        ["PRAGMA foreign_keys = OFF", "PRAGMA foreign_keys = OFF", "PRAGMA foreign_keys = ON",
         "INSERT 1", "PRAGMA foreign_keys = ON"] ∧
      (w.moments recordedSqlite 0 true).map
        (fun m => (m.blocks, Dialect.sqlite.checkedBy m.sent)) = [(1, true)] :=
  ⟨recordedSqlite_toggles, by decide +kernel, by decide +kernel⟩

end Work

end PortableSql

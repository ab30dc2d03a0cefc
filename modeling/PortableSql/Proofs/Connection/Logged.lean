import PortableSql.Proofs.Connection.Tapped

namespace PortableSql

open PortableSql.Action

/-- A driver that keeps the statements another has accepted. -/
structure Logged (δ : Type) where
  inner : δ
  log : List RecordedStatement := []

/-- A log after a statement with its answer. -/
def RecordedStatement.accepted {α : Type} (answer : Except Error α) (s : RecordedStatement)
    (log : List RecordedStatement) : List RecordedStatement :=
  if answer.isOk then log ++ [s] else log

variable {δ : Type} [Driver δ]

instance : Driver (Logged δ) where
  product t := Driver.product t.inner
  supportsSavePoints t := Driver.supportsSavePoints t.inner
  isConnected t := Driver.isConnected t.inner
  connect t :=
    let (answer, inner) := Driver.connect t.inner
    (answer, { t with inner })
  disconnect t :=
    let (events, inner) := Driver.disconnect t.inner
    (events, { t with inner })
  execute sql params t :=
    let (answer, inner) := Driver.execute sql params t.inner
    let s : RecordedStatement := { sql, params, isQuery := false }
    (answer, { inner, log := s.accepted answer t.log })
  query sql params t :=
    let (answer, inner) := Driver.query sql params t.inner
    let s : RecordedStatement := { sql, params, isQuery := true }
    (answer, { inner, log := s.accepted answer t.log })
  lastInsertId t :=
    let (answer, inner) := Driver.lastInsertId t.inner
    (answer, { t with inner })

/-- The states a driver comes to by statements and by being connected and disconnected. -/
inductive Reached (driver : δ) : δ → Prop
  | now : Reached driver driver
  | executed {later : δ} (sql : String) (params : List Param) :
      Reached driver later → Reached driver (Driver.execute sql params later).2
  | queried {later : δ} (sql : String) (params : List Param) :
      Reached driver later → Reached driver (Driver.query sql params later).2
  | connected {later : δ} : Reached driver later → Reached driver (Driver.connect later).2
  | disconnected {later : δ} : Reached driver later → Reached driver (Driver.disconnect later).2

theorem Reached.trans {first second third : δ} (h : Reached first second)
    (hh : Reached second third) : Reached first third := by
  induction hh with
  | now => exact h
  | executed sql params _ ih => exact .executed sql params ih
  | queried sql params _ ih => exact .queried sql params ih
  | connected _ ih => exact .connected ih
  | disconnected _ ih => exact .disconnected ih

/-- A driver of the product that, now and later, refuses statements just while it is not connected.
It is not connected by statements, and not disconnected by statements or by being connected. -/
structure Steady (product : Dialect) (driver : δ) : Prop where
  product_eq : ∀ later, Reached driver later → Driver.product later = product
  executes : ∀ later, Reached driver later → ∀ sql params,
    (Driver.execute sql params later).1.isOk = Driver.isConnected later
  answers : ∀ later, Reached driver later → ∀ sql params,
    (Driver.query sql params later).1.isOk = Driver.isConnected later
  isConnected_execute : ∀ later, Reached driver later → ∀ sql params,
    Driver.isConnected (Driver.execute sql params later).2 = Driver.isConnected later
  isConnected_query : ∀ later, Reached driver later → ∀ sql params,
    Driver.isConnected (Driver.query sql params later).2 = Driver.isConnected later
  isConnected_connect : ∀ later, Reached driver later → Driver.isConnected later = true →
    Driver.isConnected (Driver.connect later).2 = true

/-- What statements keep of a connection over a steady driver, and what they add to its log. -/
structure Logs (d : Dialect) (c after : Connection (Logged δ))
    (added : List RecordedStatement) : Prop where
  steady : Steady d after.driver.inner
  isConnected_eq : after.isConnected = c.isConnected
  log_eq : after.driver.log = c.driver.log ++ added

theorem Logs.of_answer {α : Type} {d : Dialect} {c after : Connection (Logged δ)}
    {answer : Except Error α} {inner : δ} {s : RecordedStatement}
    (steady : Steady d inner) (same : Driver.isConnected inner = c.isConnected)
    (ok : answer.isOk = c.isConnected)
    (hafter : after.driver = { inner, log := s.accepted answer c.driver.log }) :
    Logs d c after (if c.isConnected then [s] else []) where
  steady := by
    rw [hafter]
    exact steady
  isConnected_eq := by
    rw [Connection.isConnected, hafter]
    exact same
  log_eq := by
    rw [hafter, RecordedStatement.accepted, ok]
    split <;> simp

namespace Steady

theorem later {d : Dialect} {first second : δ} (h : Steady d first) (hr : Reached first second) :
    Steady d second where
  product_eq last hh := h.product_eq last (hr.trans hh)
  executes last hh := h.executes last (hr.trans hh)
  answers last hh := h.answers last (hr.trans hh)
  isConnected_execute last hh := h.isConnected_execute last (hr.trans hh)
  isConnected_query last hh := h.isConnected_query last (hr.trans hh)
  isConnected_connect last hh := h.isConnected_connect last (hr.trans hh)

variable {d : Dialect} {c : Connection (Logged δ)}

theorem dialect_eq (h : Steady d c.driver.inner) : c.dialect = d := h.product_eq _ .now

theorem execute (h : Steady d c.driver.inner) (sql : String) (params : List Param) :
    ∃ answer driver, Driver.execute sql params c.driver = (answer, driver) ∧
      answer.isOk = c.isConnected ∧
      ∀ after : Connection (Logged δ), after.driver = driver →
        Logs d c after (if c.isConnected then [{ sql, params, isQuery := false }] else []) := by
  have hok := h.executes _ .now sql params
  refine ⟨_, _, rfl, hok, ?_⟩
  intro after hafter
  exact .of_answer (h.later (.executed sql params .now)) (h.isConnected_execute _ .now sql params)
    hok hafter

theorem statement (h : Steady d c.driver.inner) (s : RecordedStatement) :
    (s.act.runOn c).2.nesting = c.nesting ∧
      Logs d c (s.act.runOn c).2 (if c.isConnected then [s] else []) := by
  obtain ⟨sql, params, isQuery⟩ := s
  cases isQuery with
  | false =>
    obtain ⟨answer, driver, hrun, _, hlogs⟩ := h.execute sql params
    simp only [RecordedStatement.act, Bool.false_eq_true, if_false, runOn_discard, runOn_execute,
      hrun]
    exact ⟨trivial, hlogs _ rfl⟩
  | true =>
    have hok := h.answers _ .now sql params
    simp only [RecordedStatement.act, if_true, runOn_discard, runOn_query]
    exact ⟨trivial, .of_answer (h.later (.queried sql params .now))
      (h.isConnected_query _ .now sql params) hok rfl⟩

/-- While it is connected, a connection over a steady driver sends the statement of a move, if it
has one, and the move takes effect. -/
theorem outcome (h : Steady d c.driver.inner) (connected : c.isConnected = true) (m : Move)
    (events : List Event) :
    ∃ after, m.outcome c events = (.ok (m.applies c.nesting), after) ∧
      after.nesting = m.accepted c.useSavePoints c.nesting ∧
      Logs d c after
        ((m.statement? d c.useSavePoints c.nesting).toList.map RecordedStatement.command) := by
  rw [Move.outcome, h.dialect_eq]
  cases hs : m.statement? d c.useSavePoints c.nesting with
  | none => exact ⟨_, rfl, rfl, h, rfl, by simp⟩
  | some sql =>
    obtain ⟨answer, driver, hrun, hok, hlogs⟩ := h.execute sql []
    rw [connected] at hok hlogs
    cases answer with
    | error e => cases hok
    | ok count =>
      simp only [hrun, m.applies_of_statement hs]
      exact ⟨_, rfl, rfl, hlogs _ rfl⟩

/-- While it is not connected, and so in no transaction, no move takes effect. -/
theorem outcome_disconnected (h : Steady d c.driver.inner) (connected : c.isConnected = false)
    (idle : c.nesting = none) (m : Move) (events : List Event) :
    ∃ r after, m.outcome c events = (r, after) ∧ r.toOption ≠ some true ∧
      after.nesting = none ∧ Logs d c after [] := by
  rw [Move.outcome, h.dialect_eq, idle]
  cases m with
  | commit | rollback | rollbackAll =>
    exact ⟨_, _, rfl, by simp [Move.applies, Except.toOption], rfl, h, rfl, by simp⟩
  | begin =>
    obtain ⟨answer, driver, hrun, hok, hlogs⟩ := h.execute d.beginSql []
    rw [connected] at hok hlogs
    cases answer with
    | ok count => cases hok
    | error e =>
      simp only [Move.statement?, hrun]
      exact ⟨_, _, rfl, by simp [Except.toOption], rfl, hlogs _ rfl⟩

end Steady

namespace RecordingDriver

variable {d : Dialect} {r later : RecordingDriver}

/-- A recording driver that was told to refuse nothing and may have been disconnected. -/
def Obliging (product : Dialect) (r : RecordingDriver) : Prop :=
  Willing product { r with connected := true }

theorem Willing.obliging (h : Willing d r) : Obliging d r :=
  ⟨h.product_eq, rfl, h.failures, h.script⟩

theorem Obliging.willing (h : Obliging d r) (connected : r.connected = true) : Willing d r :=
  ⟨h.product_eq, connected, h.failures, h.script⟩

theorem Obliging.execute (h : Obliging d r) (sql : String) (params : List Param) :
    (Driver.execute sql params r).1.isOk = r.connected ∧
      (Driver.execute sql params r).2.connected = r.connected ∧
      Obliging d (Driver.execute sql params r).2 := by
  cases hc : r.connected with
  | false =>
    have hrefused : Driver.execute sql params r = (.error .notConnected, r) := by
      change RecordingDriver.execute sql params r = _
      simp [RecordingDriver.execute, hc]
    rw [hrefused]
    exact ⟨rfl, hc, h⟩
  | true =>
    obtain ⟨hok, hafter⟩ := (h.willing hc).execute sql params
    rw [hok]
    exact ⟨rfl, hafter.connected, hafter.obliging⟩

theorem Obliging.query (h : Obliging d r) (sql : String) (params : List Param) :
    (Driver.query sql params r).1.isOk = r.connected ∧
      (Driver.query sql params r).2.connected = r.connected ∧
      Obliging d (Driver.query sql params r).2 := by
  cases hc : r.connected with
  | false =>
    have hrefused : Driver.query sql params r = (.error .notConnected, r) := by
      change RecordingDriver.query sql params r = _
      simp [RecordingDriver.query, hc]
    rw [hrefused]
    exact ⟨rfl, hc, h⟩
  | true =>
    obtain ⟨hok, hafter⟩ := (h.willing hc).query sql params
    rw [hok]
    exact ⟨rfl, hafter.connected, hafter.obliging⟩

theorem Obliging.reached (h : Obliging d r) (hr : Reached r later) : Obliging d later := by
  induction hr with
  | now => exact h
  | executed sql params _ ih => exact (ih.execute sql params).2.2
  | queried sql params _ ih => exact (ih.query sql params).2.2
  | connected _ ih | disconnected _ ih => exact ih

theorem Obliging.steady (h : Obliging d r) : Steady d r where
  product_eq _ hr := (h.reached hr).product_eq
  executes _ hr sql params := ((h.reached hr).execute sql params).1
  answers _ hr sql params := ((h.reached hr).query sql params).1
  isConnected_execute _ hr sql params := ((h.reached hr).execute sql params).2.1
  isConnected_query _ hr sql params := ((h.reached hr).query sql params).2.1
  isConnected_connect _ _ _ := rfl

end RecordingDriver

end PortableSql

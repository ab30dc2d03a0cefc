import PortableSql.Driver.Recording
import PortableSql.Proofs.Connection.Move

namespace PortableSql

open PortableSql.Action

/-- A driver that keeps the statements it passes on to another. -/
structure Tapped (δ : Type) where
  inner : δ
  sent : List RecordedStatement := []

variable {δ : Type} [Driver δ]

instance : Driver (Tapped δ) where
  product t := Driver.product t.inner
  supportsSavePoints t := Driver.supportsSavePoints t.inner
  isConnected t := Driver.isConnected t.inner
  connect t :=
    let (answer, inner) := Driver.connect t.inner
    (answer, { t with inner })
  disconnect t :=
    let (events, inner) := Driver.disconnect t.inner
    (events, { t with inner })
  execute sql params t :=
    let (answer, inner) := Driver.execute sql params t.inner
    (answer, { inner, sent := t.sent ++ [{ sql, params, isQuery := false }] })
  query sql params t :=
    let (answer, inner) := Driver.query sql params t.inner
    (answer, { inner, sent := t.sent ++ [{ sql, params, isQuery := true }] })
  lastInsertId t :=
    let (answer, inner) := Driver.lastInsertId t.inner
    (answer, { t with inner })

/-- The states a driver comes to by statements. -/
inductive Later (driver : δ) : δ → Prop
  | now : Later driver driver
  | executed {later : δ} (sql : String) (params : List Param) :
      Later driver later → Later driver (Driver.execute sql params later).2
  | queried {later : δ} (sql : String) (params : List Param) :
      Later driver later → Later driver (Driver.query sql params later).2

theorem Later.trans {first second third : δ} (h : Later first second) (hh : Later second third) :
    Later first third := by
  induction hh with
  | now => exact h
  | executed sql params _ ih => exact .executed sql params ih
  | queried sql params _ ih => exact .queried sql params ih

/-- A driver of the product that refuses no statement, now and later. -/
structure Reliable (product : Dialect) (driver : δ) : Prop where
  product_eq : ∀ later, Later driver later → Driver.product later = product
  executes : ∀ later, Later driver later →
    ∀ sql params, ∃ count, (Driver.execute sql params later).1 = .ok count
  answers : ∀ later, Later driver later →
    ∀ sql params, ∃ rows, (Driver.query sql params later).1 = .ok rows

namespace RecordedStatement

/-- A command without parameters. -/
def command (sql : String) : RecordedStatement := { sql, params := [], isQuery := false }

/-- The statement as an action, without its answer. -/
def act (s : RecordedStatement) : Action δ Unit :=
  if s.isQuery then discard (query s.sql s.params) else discard (execute s.sql s.params)

end RecordedStatement

/-- What every step of a connection over a reliable driver keeps, and what it sends. -/
structure Advances (d : Dialect) (c after : Connection (Tapped δ))
    (sent : List RecordedStatement) : Prop where
  reliable : Reliable d after.driver.inner
  useSavePoints_eq : after.useSavePoints = c.useSavePoints
  sent_eq : after.driver.sent = c.driver.sent ++ sent

theorem Advances.trans {d : Dialect} {first second third : Connection (Tapped δ)}
    {xs ys : List RecordedStatement} (h : Advances d first second xs)
    (hh : Advances d second third ys) : Advances d first third (xs ++ ys) where
  reliable := hh.reliable
  useSavePoints_eq := hh.useSavePoints_eq.trans h.useSavePoints_eq
  sent_eq := by rw [hh.sent_eq, h.sent_eq, List.append_assoc]

namespace Reliable

theorem later {d : Dialect} {first second : δ} (h : Reliable d first) (hl : Later first second) :
    Reliable d second where
  product_eq last hh := h.product_eq last (hl.trans hh)
  executes last hh := h.executes last (hl.trans hh)
  answers last hh := h.answers last (hl.trans hh)

variable {d : Dialect} {c : Connection (Tapped δ)}

theorem dialect_eq (h : Reliable d c.driver.inner) : c.dialect = d := h.product_eq _ .now

theorem execute (h : Reliable d c.driver.inner) (sql : String) (params : List Param) :
    ∃ count after, (Action.execute sql params).runOn c = (.ok count, after) ∧
      after.nesting = c.nesting ∧ Advances d c after [{ sql, params, isQuery := false }] := by
  obtain ⟨count, hcount⟩ := h.executes _ .now sql params
  have hl := h.later (.executed sql params .now)
  rw [runOn_execute]
  exact ⟨count, _, Prod.ext hcount rfl, rfl, hl, rfl, rfl⟩

theorem query (h : Reliable d c.driver.inner) (sql : String) (params : List Param) :
    ∃ rows after, (Action.query sql params).runOn c = (.ok rows, after) ∧
      after.nesting = c.nesting ∧ Advances d c after [{ sql, params, isQuery := true }] := by
  obtain ⟨rows, hrows⟩ := h.answers _ .now sql params
  have hl := h.later (.queried sql params .now)
  rw [runOn_query]
  exact ⟨rows, _, Prod.ext hrows rfl, rfl, hl, rfl, rfl⟩

theorem statement (h : Reliable d c.driver.inner) (s : RecordedStatement) :
    ∃ after, s.act.runOn c = (.ok (), after) ∧ after.nesting = c.nesting ∧
      Advances d c after [s] := by
  obtain ⟨sql, params, isQuery⟩ := s
  cases isQuery with
  | false =>
    obtain ⟨count, after, hrun, hn, ha⟩ := h.execute sql params
    refine ⟨after, ?_, hn, ha⟩
    simp only [RecordedStatement.act, Bool.false_eq_true, if_false, runOn_discard, hrun]
    rfl
  | true =>
    obtain ⟨rows, after, hrun, hn, ha⟩ := h.query sql params
    refine ⟨after, ?_, hn, ha⟩
    simp only [RecordedStatement.act, if_true, runOn_discard, hrun]
    rfl

/-- Over a reliable driver a move sends its statement, if it has one, and takes effect. -/
theorem move (h : Reliable d c.driver.inner) (m : Move) :
    ∃ after, m.act.runOn c = (.ok (m.applies c.nesting), after) ∧
      after.nesting = m.accepted c.useSavePoints c.nesting ∧
      Advances d c after
        ((m.statement? d c.useSavePoints c.nesting).toList.map RecordedStatement.command) := by
  obtain ⟨events, hrun⟩ := m.act_runOn c
  rw [hrun, Move.outcome, h.dialect_eq]
  cases hs : m.statement? d c.useSavePoints c.nesting with
  | none => exact ⟨_, rfl, rfl, h, rfl, by simp⟩
  | some sql =>
    obtain ⟨count, hcount⟩ := h.executes _ .now sql []
    have hl := h.later (.executed sql [] .now)
    have hexec : Driver.execute sql [] c.driver =
        (.ok count, { inner := _, sent := c.driver.sent ++ [.command sql] }) := Prod.ext hcount rfl
    simp only [m.applies_of_statement hs, hexec]
    exact ⟨_, rfl, rfl, hl, rfl, rfl⟩

end Reliable

namespace RecordingDriver

/-- A connected recording driver that was told to refuse nothing. -/
structure Willing (product : Dialect) (r : RecordingDriver) : Prop where
  product_eq : r.product = product
  connected : r.connected = true
  failures : r.failures = []
  script : r.script = []

variable {d : Dialect} {r : RecordingDriver}

theorem Willing.execute (h : Willing d r) (sql : String) (params : List Param) :
    (Driver.execute sql params r).1 = .ok 0 ∧ Willing d (Driver.execute sql params r).2 := by
  obtain ⟨rfl, hc, hf, hs⟩ := h
  change (RecordingDriver.execute sql params r).1 = .ok 0 ∧
    Willing r.product (RecordingDriver.execute sql params r).2
  simp only [RecordingDriver.execute, hc, record, hf, List.any_nil, Bool.not_true,
    Bool.false_eq_true, if_false]
  split <;> exact ⟨rfl, rfl, rfl, rfl, hs⟩

theorem Willing.query (h : Willing d r) (sql : String) (params : List Param) :
    (Driver.query sql params r).1 = .ok [] ∧ Willing d (Driver.query sql params r).2 := by
  obtain ⟨rfl, hc, hf, hs⟩ := h
  change (RecordingDriver.query sql params r).1 = .ok [] ∧
    Willing r.product (RecordingDriver.query sql params r).2
  simp only [RecordingDriver.query, hc, record, hs, takePrepared, Bool.not_true,
    Bool.false_eq_true, if_false]
  exact ⟨trivial, rfl, rfl, hf, rfl⟩

theorem Willing.later (h : Willing d r) {later : RecordingDriver} (hl : Later r later) :
    Willing d later := by
  induction hl with
  | now => exact h
  | executed sql params _ ih => exact (ih.execute sql params).2
  | queried sql params _ ih => exact (ih.query sql params).2

theorem Willing.reliable (h : Willing d r) : Reliable d r where
  product_eq _ hl := (h.later hl).product_eq
  executes _ hl sql params := ⟨0, ((h.later hl).execute sql params).1⟩
  answers _ hl sql params := ⟨[], ((h.later hl).query sql params).1⟩

end RecordingDriver

end PortableSql

import PortableSql.Proofs.Connection.Tapped

namespace PortableSql

open PortableSql.Action

/-- The move that ends a block. -/
def Move.ending {α : Type} : Except Error α → Move
  | .ok _ => .commit
  | .error _ => .rollback

namespace Reliable

variable {δ α : Type} [Driver δ] {d : Dialect} {c : Connection (Tapped δ)}

theorem begin (h : Reliable d c.driver.inner) :
    ∃ opened, Action.begin.runOn c = (.ok (), opened) ∧
      opened.nesting = Move.begin.accepted c.useSavePoints c.nesting ∧
      Advances d c opened
        ((Move.begin.statement? d c.useSavePoints c.nesting).toList.map .command) := by
  obtain ⟨opened, hrun, hn, ha⟩ := h.move .begin
  refine ⟨opened, ?_, hn, ha⟩
  simp only [Move.act, runOn_bind, runOn_pure] at hrun
  rcases hb : Action.begin.runOn c with ⟨_ | _, _⟩
  · simp [hb] at hrun
  · simp only [hb, Prod.mk.injEq] at hrun
    rw [hrun.2]

/-- A block has the outcome of its work, after which the level is committed or rolled back. -/
theorem transactional {work : Action (Tapped δ) α} {opened closed : Connection (Tapped δ)}
    {r : Except Error α} (hb : Action.begin.runOn c = (.ok (), opened))
    (hr : work.runOn opened = (r, closed)) (h : Reliable d closed.driver.inner) :
    ∃ after, (Action.transactional work).runOn c = (r, after) ∧
      after.nesting = (Move.ending r).accepted closed.useSavePoints closed.nesting ∧
      Advances d closed after
        (((Move.ending r).statement? d closed.useSavePoints closed.nesting).toList.map
          .command) := by
  cases r with
  | ok a =>
    obtain ⟨after, hrun, hn, ha⟩ := h.move .commit
    refine ⟨after, ?_, hn, ha⟩
    change Action.commit.runOn closed = _ at hrun
    simp only [Action.transactional, runOn_bind, hb, runOn_attempt, hr, runOn_discard, hrun]
    rfl
  | error e =>
    obtain ⟨after, hrun, hn, ha⟩ := h.move .rollback
    refine ⟨after, ?_, hn, ha⟩
    change Action.rollback.runOn closed = _ at hrun
    simp only [Action.transactional, runOn_bind, hb, runOn_attempt, hr, hrun]
    rfl

end Reliable

/-- Work over a connection: statements and blocks in transactions, each with what follows its
outcome. A failure may end the work around it or be passed over. -/
inductive Work (α : Type) where
  | done (result : Except Error α)
  | execute (sql : String) (params : List Param) (next : Except Error Nat → Work α)
  | block (inner : Work α) (next : Except Error α → Work α)

namespace Work

variable {δ α : Type} [Driver δ]

def act : Work α → Action δ α
  | done result => ExceptT.mk (pure result)
  | execute sql params next => do
    let answer ← attempt (Action.execute sql params)
    (next answer).act
  | block inner next => do
    let outcome ← attempt (transactional inner.act)
    (next outcome).act

/-- Whether the work executes none of the given statements. -/
def Avoids (forbidden : List String) : Work α → Prop
  | done _ => True
  | execute sql _ next => sql ∉ forbidden ∧ ∀ answer, (next answer).Avoids forbidden
  | block inner next => inner.Avoids forbidden ∧ ∀ outcome, (next outcome).Avoids forbidden

/-- Whether a block inside the work fails when the work is done from the given connection. -/
def FailsInside : Work α → Connection δ → Prop
  | done _, _ => False
  | execute sql params next, c =>
    let run := (Action.execute sql params).runOn c
    (next run.1).FailsInside run.2
  | block inner next, c =>
    let run := (transactional inner.act).runOn c
    inner.FailsInside (begin.runOn c).2 ∨ (∃ e, run.1 = .error e) ∨ (next run.1).FailsInside run.2

variable {d : Dialect}

theorem act_execute {sql : String} {params : List Param} {next : Except Error Nat → Work α}
    {c after : Connection δ} {answer : Except Error Nat}
    (h : (Action.execute sql params).runOn c = (answer, after)) :
    (execute sql params next).act.runOn c = (next answer).act.runOn after := by
  simp only [act, runOn_bind, runOn_attempt, h]

theorem act_block {inner : Work α} {next : Except Error α → Work α} {c after : Connection δ}
    {outcome : Except Error α} (h : (transactional inner.act).runOn c = (outcome, after)) :
    (block inner next).act.runOn c = (next outcome).act.runOn after := by
  simp only [act, runOn_bind, runOn_attempt, h]

theorem failsInside_execute {sql : String} {params : List Param}
    {next : Except Error Nat → Work α} {c after : Connection δ} {answer : Except Error Nat}
    (h : (Action.execute sql params).runOn c = (answer, after)) :
    (execute sql params next).FailsInside c ↔ (next answer).FailsInside after := by
  rw [FailsInside, h]

theorem failsInside_block {inner : Work α} {next : Except Error α → Work α}
    {c opened after : Connection δ} {outcome : Except Error α}
    (hopen : begin.runOn c = (.ok (), opened))
    (h : (transactional inner.act).runOn c = (outcome, after)) :
    (block inner next).FailsInside c ↔
      inner.FailsInside opened ∨ (∃ e, outcome = .error e) ∨ (next outcome).FailsInside after := by
  rw [FailsInside, hopen, h]

/-- Whatever becomes of the transactions, the work comes to an end over a reliable driver. -/
theorem advances (w : Work α) {c : Connection (Tapped δ)} (h : Reliable d c.driver.inner) :
    ∃ r after sent, w.act.runOn c = (r, after) ∧ Advances d c after sent := by
  induction w generalizing c with
  | done result => exact ⟨result, c, [], rfl, h, rfl, by simp⟩
  | execute sql params next ih =>
    obtain ⟨count, after, hrun, _, ha⟩ := h.execute sql params
    obtain ⟨r, last, sent, hw, hb⟩ := ih (.ok count) ha.reliable
    exact ⟨r, last, _, (act_execute hrun).trans hw, ha.trans hb⟩
  | block inner next ihi ihn =>
    obtain ⟨opened, hopen, _, ho⟩ := h.begin
    obtain ⟨r, closed, sent, hin, hi⟩ := ihi ho.reliable
    obtain ⟨after, hrun, _, hc⟩ := Reliable.transactional hopen hin hi.reliable
    obtain ⟨r', last, rest, hw, hn⟩ := ihn r hc.reliable
    exact ⟨r', last, _, (act_block hrun).trans hw, ((ho.trans hi).trans hc).trans hn⟩

end Work

end PortableSql

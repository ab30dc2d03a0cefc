import PortableSql.Proofs.Connection.Running

namespace PortableSql

open PortableSql.Action

/-- An operation on the transactions of a connection. -/
inductive Move where
  | begin
  | commit
  | rollback
  | rollbackAll
deriving DecidableEq, Repr

namespace Move

/-- The move as an action; the result says whether there was a transaction to act on. -/
def act {δ : Type} [Driver δ] : Move → Action δ Bool
  | begin => do
    Action.begin
    return true
  | commit => Action.commit
  | rollback => Action.rollback
  | rollbackAll => Action.rollbackAll

/-- The statement a move sends, by the use of savepoints and the nesting it starts from. -/
def statement? (d : Dialect) (savePoints : Bool) : Move → Option Nat → Option String
  | begin, none => some d.beginSql
  | begin, some outer => if savePoints then some (d.savePointSql (outer + 1)) else none
  | commit, some 0 => some d.commitSql
  | commit, some (outer + 1) => if savePoints then d.releaseSavePointSql? (outer + 1) else none
  | rollback, some (outer + 1) =>
    some (if savePoints then d.rollbackToSavePointSql (outer + 1) else d.rollbackSql)
  | rollback, some 0 => some d.rollbackSql
  | rollbackAll, some _ => some d.rollbackSql
  | _, none => none

/-- The nesting after a move that sends nothing or whose statement is accepted. -/
def accepted (savePoints : Bool) : Move → Option Nat → Option Nat
  | begin, none => some 0
  | begin, some outer => some (outer + 1)
  | commit, some (outer + 1) => some outer
  | rollback, some (outer + 1) => if savePoints then some outer else none
  | _, _ => none

/-- The nesting after a move whose statement is refused; only a rollback of the whole has taken
effect before. -/
def refused (savePoints : Bool) : Move → Option Nat → Option Nat
  | rollback, some (outer + 1) => if savePoints then some (outer + 1) else none
  | rollback, some 0 => none
  | rollbackAll, some _ => none
  | _, nesting => nesting

/-- Whether a move finds a transaction to act on. -/
def applies : Move → Option Nat → Bool
  | begin, _ => true
  | _, nesting => nesting.isSome

theorem applies_of_statement {d : Dialect} {savePoints : Bool} {nesting : Option Nat} {sql : String}
    (m : Move) (h : m.statement? d savePoints nesting = some sql) : m.applies nesting = true := by
  cases m <;> cases nesting <;> first | rfl | simp [statement?] at h

variable {δ : Type} [Driver δ]

/-- The result of a move, up to the events it reports. -/
def outcome (m : Move) (c : Connection δ) (events : List Event) :
    Except Error Bool × Connection δ :=
  match m.statement? c.dialect c.useSavePoints c.nesting with
  | none =>
    (.ok (m.applies c.nesting),
      { c with nesting := m.accepted c.useSavePoints c.nesting, events })
  | some sql =>
    match Driver.execute sql [] c.driver with
    | (.ok _, driver) =>
      (.ok true, { c with driver, nesting := m.accepted c.useSavePoints c.nesting, events })
    | (.error e, driver) =>
      (.error e, { c with driver, nesting := m.refused c.useSavePoints c.nesting, events })

theorem begin_runOn (c : Connection δ) :
    ∃ events, begin.act.runOn c = begin.outcome c events := by
  obtain ⟨config, driver, nesting, savePoints, events⟩ := c
  cases nesting with
  | none =>
    simp only [act, Action.begin, runOn_bind, runOn_get, runOn_send, outcome, statement?]
    rcases Driver.execute _ [] driver with ⟨_ | _, _⟩ <;> exact ⟨_, rfl⟩
  | some outer =>
    cases savePoints with
    | false => exact ⟨_, rfl⟩
    | true =>
      simp only [act, Action.begin, runOn_bind, runOn_get, runOn_send, outcome, statement?,
        if_true]
      rcases Driver.execute _ [] driver with ⟨_ | _, _⟩ <;> exact ⟨_, rfl⟩

theorem commit_runOn (c : Connection δ) :
    ∃ events, commit.act.runOn c = commit.outcome c events := by
  obtain ⟨config, driver, nesting, savePoints, events⟩ := c
  rcases nesting with _ | _ | outer
  · exact ⟨_, rfl⟩
  · simp only [act, Action.commit, runOn_bind, runOn_get, runOn_send, outcome, statement?]
    rcases Driver.execute _ [] driver with ⟨_ | _, _⟩ <;> exact ⟨_, rfl⟩
  · cases savePoints with
    | false => exact ⟨_, rfl⟩
    | true =>
      simp only [act, Action.commit, runOn_bind, runOn_get, outcome, statement?, if_true]
      -- a product that releases savepoints by itself is sent nothing
      cases Dialect.releaseSavePointSql? _ (outer + 1) with
      | none => exact ⟨_, rfl⟩
      | some sql =>
        simp only [runOn_bind, runOn_send]
        rcases Driver.execute _ [] driver with ⟨_ | _, _⟩ <;> exact ⟨_, rfl⟩

theorem rollbackAll_runOn (c : Connection δ) :
    ∃ events, rollbackAll.act.runOn c = rollbackAll.outcome c events := by
  obtain ⟨config, driver, nesting, savePoints, events⟩ := c
  cases nesting with
  | none => exact ⟨_, rfl⟩
  | some level =>
    simp only [act, Action.rollbackAll, runOn_bind, runOn_get, runOn_setNesting, runOn_send,
      outcome, statement?]
    rcases Driver.execute _ [] driver with ⟨_ | _, _⟩ <;> exact ⟨_, rfl⟩

theorem rollback_runOn (c : Connection δ) :
    ∃ events, rollback.act.runOn c = rollback.outcome c events := by
  obtain ⟨events, h⟩ := rollbackAll_runOn c
  obtain ⟨config, driver, nesting, savePoints, reported⟩ := c
  rcases nesting with _ | _ | outer
  · exact ⟨events, h⟩
  · exact ⟨events, h⟩
  · cases savePoints with
    | false => exact ⟨events, h⟩
    | true =>
      simp only [act, Action.rollback, runOn_bind, runOn_get, runOn_send, outcome, statement?,
        if_true]
      rcases Driver.execute _ [] driver with ⟨_ | _, _⟩ <;> exact ⟨_, rfl⟩

/-- All that a move does to a connection. -/
theorem act_runOn (m : Move) (c : Connection δ) : ∃ events, m.act.runOn c = m.outcome c events := by
  cases m with
  | begin => exact begin_runOn c
  | commit => exact commit_runOn c
  | rollback => exact rollback_runOn c
  | rollbackAll => exact rollbackAll_runOn c

end Move

end PortableSql

import PortableSql.Proofs.Connection.Tapped

namespace PortableSql

open PortableSql.Action

/-- A transaction as a connection describes it, by a flag and a level. -/
structure TransactionState where
  started : Bool := false
  level : Nat := 0
deriving DecidableEq, Repr

def Connection.transaction {δ : Type} (c : Connection δ) : TransactionState :=
  { started := c.inTransaction, level := c.nesting.getD 0 }

namespace TransactionState

/-- What a move makes of a flag and a level that are stored apart, by the use of savepoints and by
whether its statement is accepted. -/
def next (s : TransactionState) (savePoints accepted : Bool) : Move → TransactionState
  | .begin =>
    if !accepted then s
    else if s.started then { s with level := s.level + 1 }
    else { started := true, level := 0 }
  | .commit =>
    if !s.started || !accepted then s
    else if s.level = 0 then {}
    else { s with level := s.level - 1 }
  | .rollback =>
    if !s.started then s
    else if s.level = 0 || !savePoints then {}
    else if accepted then { s with level := s.level - 1 }
    else s
  | .rollbackAll => if s.started then {} else s

end TransactionState

namespace Move

/-- Whether the move undoes the whole transaction, and not only its innermost part. -/
def UndoesWhole (m : Move) (savePoints : Bool) (s : TransactionState) : Prop :=
  m = rollbackAll ∨ m = rollback ∧ (s.level = 0 ∨ savePoints = false)

instance (m : Move) (savePoints : Bool) (s : TransactionState) :
    Decidable (m.UndoesWhole savePoints s) :=
  inferInstanceAs (Decidable (_ ∨ _))

section

variable {δ : Type} {c after : Connection δ}

theorem transaction_accepted (m : Move)
    (h : after.nesting = m.accepted c.useSavePoints c.nesting) :
    after.transaction = c.transaction.next c.useSavePoints true m := by
  obtain ⟨_, _, nesting, savePoints, _⟩ := c
  simp only [Connection.transaction, Connection.inTransaction, h]
  cases m <;> rcases nesting with _ | _ | outer <;> cases savePoints <;> rfl

theorem transaction_refused (m : Move)
    (h : after.nesting = m.refused c.useSavePoints c.nesting) :
    after.transaction = c.transaction.next c.useSavePoints false m := by
  obtain ⟨_, _, nesting, savePoints, _⟩ := c
  simp only [Connection.transaction, Connection.inTransaction, h]
  cases m <;> rcases nesting with _ | _ | outer <;> cases savePoints <;> rfl

end

variable {δ : Type} [Driver δ]

/-- A move changes the state by what became of its statement. -/
theorem act_transaction (m : Move) (c : Connection δ) :
    (m.act.runOn c).2.transaction =
      c.transaction.next c.useSavePoints (m.act.runOn c).1.isOk m := by
  obtain ⟨events, hrun⟩ := m.act_runOn c
  rw [hrun, outcome]
  cases m.statement? c.dialect c.useSavePoints c.nesting with
  | none => exact m.transaction_accepted rfl
  | some sql =>
    rcases hanswer : Driver.execute sql [] c.driver with ⟨_ | _, driver⟩
    · simp only [hanswer]
      exact m.transaction_refused rfl
    · simp only [hanswer]
      exact m.transaction_accepted rfl

/-- A move sends at most one statement, fails just where this is refused, and leaves the use of
savepoints as it is. -/
theorem act_sent (m : Move) (c : Connection (Tapped δ)) :
    ∃ sent : Option RecordedStatement,
      (m.act.runOn c).2.driver.sent = c.driver.sent ++ sent.toList ∧
      (m.act.runOn c).2.useSavePoints = c.useSavePoints ∧
      (∀ e, (m.act.runOn c).1 = .error e ↔
        ∃ s ∈ sent, (Driver.execute s.sql s.params c.driver).1 = .error e) ∧
      (m.statement? c.dialect c.useSavePoints c.nesting = none →
        (m.act.runOn c).1 = .ok (m.applies c.nesting) ∧ sent = none) := by
  obtain ⟨events, hrun⟩ := m.act_runOn c
  rw [hrun, outcome]
  cases m.statement? c.dialect c.useSavePoints c.nesting with
  | none => exact ⟨none, by simp, rfl, by simp, fun _ => ⟨rfl, rfl⟩⟩
  | some sql =>
    have hsent : (Driver.execute sql [] c.driver).2.sent = c.driver.sent ++ [.command sql] := rfl
    refine ⟨some (.command sql), ?_⟩
    rcases hanswer : Driver.execute sql [] c.driver with ⟨_ | _, driver⟩
    · simp only [hanswer] at hsent ⊢
      exact ⟨hsent, trivial, by simp [RecordedStatement.command, hanswer], by simp⟩
    · simp only [hanswer] at hsent ⊢
      exact ⟨hsent, trivial, by simp [RecordedStatement.command, hanswer], by simp⟩

end Move

theorem Connection.transaction_of_closed {δ : Type} {c : Connection δ}
    (h : c.inTransaction = false) : c.transaction = {} := by
  have hnone : c.nesting = none := by simpa [inTransaction] using h
  simp [transaction, inTransaction, hnone]

theorem Action.setUseSavePoints_nesting {δ : Type} [Driver δ] (enabled : Bool)
    (c : Connection δ) : ((setUseSavePoints enabled).runOn c).2.nesting = c.nesting := by
  cases enabled with
  | false => rfl
  | true =>
    unfold setUseSavePoints
    cases hsupported : Driver.supportsSavePoints c.driver with
    | true =>
      simp only [runOn_bind, runOn_get, hsupported]
      rfl
    | false =>
      simp only [runOn_bind, runOn_get, hsupported]
      rfl

/-- The flag and the level that are stored along with a connection: they begin with it, each move
changes them by what became of its statement, and nothing else changes them or the nesting. -/
inductive Stored {δ : Type} [Driver δ] : TransactionState → Connection δ → Prop
  | created (config : ConnectionConfig) (driver : δ) : Stored {} (Connection.create config driver)
  | moved {s : TransactionState} {c : Connection δ} (m : Move) :
      Stored s c → Stored (s.next c.useSavePoints (m.act.runOn c).1.isOk m) (m.act.runOn c).2
  | other {s : TransactionState} {c after : Connection δ} :
      Stored s c → after.nesting = c.nesting → Stored s after

theorem Stored.eq_transaction {δ : Type} [Driver δ] {s : TransactionState} {c : Connection δ}
    (h : Stored s c) : s = c.transaction := by
  induction h with
  | created config driver =>
    have hnesting : (Connection.create config driver).nesting = none :=
      setUseSavePoints_nesting _ _
    simp [Connection.transaction, Connection.inTransaction, hnesting]
  | moved m _ ih => rw [ih, m.act_transaction]
  | other _ hnesting ih =>
    rw [ih, Connection.transaction, Connection.transaction, Connection.inTransaction,
      Connection.inTransaction, hnesting]

namespace Move

/-- A move that is refused has changed nothing, unless it undoes the whole. -/
theorem next_refused {δ : Type} (m : Move) (savePoints : Bool) (c : Connection δ) :
    c.transaction.next savePoints false m =
      if m.UndoesWhole savePoints c.transaction then {} else c.transaction := by
  cases hstarted : c.inTransaction with
  | false =>
    rw [Connection.transaction_of_closed hstarted]
    cases m <;> simp [TransactionState.next]
  | true =>
    have hs : c.transaction.started = true := hstarted
    cases m with
    | begin | commit | rollbackAll => simp [TransactionState.next, UndoesWhole, hs]
    | rollback => simp [TransactionState.next, UndoesWhole, hs]

/-- Whatever becomes of the one statement that a move may send, no state is left half changed: a
failure leaves the transaction as it was, or over if the whole was to be undone, and where none is
open the stored level is that of the next to begin. -/
theorem act_failure_state {δ : Type} [Driver δ] (m : Move) (c : Connection (Tapped δ)) :
    ∃ r after, ∃ sent : Option RecordedStatement,
      m.act.runOn c = (r, after) ∧ after.driver.sent = c.driver.sent ++ sent.toList ∧
      (∀ e, r = .error e ↔ ∃ s ∈ sent, (Driver.execute s.sql s.params c.driver).1 = .error e) ∧
      after.useSavePoints = c.useSavePoints ∧
      after.transaction = c.transaction.next c.useSavePoints r.isOk m ∧
      (m ≠ begin → c.inTransaction = false → r = .ok false ∧ sent = none) ∧
      ((∃ e, r = .error e) → after.transaction =
        if m.UndoesWhole c.useSavePoints c.transaction then {} else c.transaction) ∧
      (∀ s, Stored s c → s = c.transaction) ∧
      (c.inTransaction = false → c.transaction.level = 0 ∧
        (m = begin → r = .ok true → after.transaction = { started := true, level := 0 })) := by
  obtain ⟨sent, hsent, hsave, herror, hnone⟩ := m.act_sent c
  have hstate := m.act_transaction c
  rcases hrun : m.act.runOn c with ⟨r, after⟩
  rw [hrun] at hsent hsave herror hnone hstate
  refine ⟨r, after, sent, rfl, hsent, herror, hsave, hstate, ?_, ?_,
    fun s h => h.eq_transaction, ?_⟩
  · intro hm hclosed
    have hnesting : c.nesting = none := by simpa [Connection.inTransaction] using hclosed
    have hquiet : m.statement? c.dialect c.useSavePoints c.nesting = none := by
      rw [hnesting]
      cases m with
      | begin => exact absurd rfl hm
      | commit | rollback | rollbackAll => rfl
    obtain ⟨hr, hsent⟩ := hnone hquiet
    refine ⟨hr.trans ?_, hsent⟩
    rw [hnesting]
    cases m with
    | begin => exact absurd rfl hm
    | commit | rollback | rollbackAll => rfl
  · rintro ⟨e, rfl⟩
    rw [hstate]
    exact m.next_refused c.useSavePoints c
  · intro hclosed
    have hidle := Connection.transaction_of_closed hclosed
    refine ⟨by rw [hidle], ?_⟩
    rintro rfl rfl
    rw [hstate, hidle]
    rfl

/-- A driver that refuses to roll back. -/
theorem act_failure_state_refused :
    let c : Connection (Tapped RecordingDriver) :=
      { config := { id := "shop", product := .mysql, connectionString := "mysql://" }
        driver := { inner := { product := .mysql, failures := ["ROLLBACK"] } }
        nesting := some 1, useSavePoints := true }
    (∃ e after, rollback.act.runOn c = (.error e, after) ∧
        after.transaction = { started := true, level := 1 }) ∧
      ∃ e after, rollbackAll.act.runOn c = (.error e, after) ∧ after.transaction = {} := by
  intro c
  have hfails : ∀ m : Move, (m.act.runOn c).1.isOk = false →
      ∃ e after, m.act.runOn c = (.error e, after) ∧ after.transaction =
        if m.UndoesWhole c.useSavePoints c.transaction then {} else c.transaction := by
    intro m hm
    obtain ⟨r, after, sent, hrun, _, _, _, _, _, hstate, _⟩ := m.act_failure_state c
    rw [hrun] at hm
    cases r with
    | ok found => cases hm
    | error e => exact ⟨e, after, hrun, hstate ⟨e, rfl⟩⟩
  exact ⟨hfails rollback (by decide +kernel), hfails rollbackAll (by decide +kernel)⟩

end Move

end PortableSql

import PortableSql.Proofs.Connection.Failure

namespace PortableSql

theorem Connection.transaction_eq_iff {δ : Type} {c : Connection δ} {level : Nat} :
    c.transaction = { started := true, level } ↔ c.nesting = some level := by
  cases hn : c.nesting <;> simp [transaction, inTransaction, hn]

namespace Action

variable {δ α : Type} [Driver δ] {c opened closed : Connection δ} {block : Action δ α} {e : Error}

theorem transactional_of_refused (hopen : begin.runOn c = (.error e, closed)) :
    (transactional block).runOn c = (.error e, closed) := by
  simp only [transactional, runOn_bind, hopen]

/-- A block that succeeds is committed, and what refuses the commit is the outcome. -/
theorem transactional_of_ok {a : α} (hopen : begin.runOn c = (.ok (), opened))
    (hrun : block.runOn opened = (.ok a, closed)) :
    (transactional block).runOn c =
      ((commit.runOn closed).1.map fun _ => a, (commit.runOn closed).2) := by
  simp only [transactional, runOn_bind, hopen, runOn_attempt, hrun, runOn_discard]
  rcases commit.runOn closed with ⟨_ | _, _⟩ <;> rfl

/-- A block that fails is rolled back; what refuses that is only reported. -/
theorem transactional_of_error (hopen : begin.runOn c = (.ok (), opened))
    (hrun : block.runOn opened = (.error e, closed)) :
    ∃ events, (transactional block).runOn c =
      (.error e, { (rollback.runOn closed).2 with events }) := by
  simp only [transactional, runOn_bind, hopen, runOn_attempt, hrun]
  rcases rollback.runOn closed with ⟨_ | _, _⟩ <;> exact ⟨_, rfl⟩

theorem begin_transaction (c : Connection δ) :
    (begin.runOn c).2.transaction =
      c.transaction.next c.useSavePoints (begin.runOn c).1.isOk .begin := by
  have hact := Move.begin.act_transaction c
  simp only [Move.act, runOn_bind, runOn_pure] at hact
  rcases hrun : begin.runOn c with ⟨_ | _, _⟩
  · rw [hrun] at hact
    exact hact
  · rw [hrun] at hact
    exact hact

theorem begin_transaction_of_idle (idle : c.inTransaction = false) :
    (begin.runOn c).2.transaction =
      if (begin.runOn c).1.isOk then { started := true, level := 0 } else {} := by
  rw [begin_transaction, Connection.transaction_of_closed idle]
  cases (begin.runOn c).1.isOk <;> rfl

/-- A rollback with nothing open inside ends the transaction, even if it is refused. -/
theorem rollback_inTransaction (h : closed.transaction.level = 0) :
    (rollback.runOn closed).2.inTransaction = false := by
  have hact := Move.rollback.act_transaction closed
  change (rollback.runOn closed).2.transaction = _ at hact
  change (rollback.runOn closed).2.transaction.started = false
  rw [hact, TransactionState.next, h]
  cases hs : closed.transaction.started <;> simp [hs]

theorem commit_of_closed (h : closed.inTransaction = false) :
    commit.runOn closed = (.ok false, closed) := by
  have hnone : closed.nesting = none := by simpa [Connection.inTransaction] using h
  simp only [commit, runOn_bind, runOn_get, hnone, runOn_pure]

/-- The commit of an outermost transaction has the outcome of its statement, and leaves the
transaction open if that is refused. -/
theorem commit_of_outermost (h : closed.nesting = some 0) :
    (commit.runOn closed).1 =
        (Driver.execute closed.dialect.commitSql [] closed.driver).1.map (fun _ => true) ∧
      ((commit.runOn closed).2.inTransaction = true ↔
        ∃ e, (Driver.execute closed.dialect.commitSql [] closed.driver).1 = .error e) := by
  obtain ⟨events, hrun⟩ := Move.commit_runOn closed
  change commit.runOn closed = _ at hrun
  rw [hrun, Move.outcome, h]
  rcases hanswer : Driver.execute closed.dialect.commitSql [] closed.driver with ⟨_ | _, driver⟩
  · simp [Move.statement?, Move.refused, Connection.inTransaction, hanswer, Except.map]
  · simp [Move.statement?, Move.accepted, Connection.inTransaction, hanswer, Except.map]

/-- An outermost block that leaves open as many transactions as it found, or none, leaves one open
after it exactly if it succeeds without ending it and the commit is refused. -/
theorem transactional_leaves_open_iff (block : Action δ α) (idle : c.inTransaction = false)
    (kept : ∀ opened, begin.runOn c = (.ok (), opened) →
      (block.runOn opened).2.nesting = opened.nesting ∨
        (block.runOn opened).2.inTransaction = false) :
    ((transactional block).runOn c).2.inTransaction = true ↔
      ∃ opened a closed e, begin.runOn c = (.ok (), opened) ∧
        block.runOn opened = (.ok a, closed) ∧ closed.inTransaction = true ∧
        (Driver.execute closed.dialect.commitSql [] closed.driver).1 = .error e ∧
        ((transactional block).runOn c).1 = .error e := by
  have hbegun := begin_transaction_of_idle idle
  rcases hopen : begin.runOn c with ⟨e | ⟨⟩, opened⟩
  · rw [hopen] at hbegun
    have hclosed : opened.inTransaction = false := congrArg TransactionState.started hbegun
    simp [transactional_of_refused hopen, hclosed]
  rw [hopen] at hbegun
  have hkept := kept opened hopen
  rcases hrun : block.runOn opened with ⟨e | a, closed⟩
  · rw [hrun] at hkept
    have hlevel : closed.transaction.level = 0 := by
      rcases hkept with hsame | hended
      · rw [Connection.transaction, hsame]
        exact congrArg TransactionState.level hbegun
      · rw [Connection.transaction_of_closed hended]
    obtain ⟨events, hafter⟩ := transactional_of_error hopen hrun
    have hended : ((transactional block).runOn c).2.inTransaction = false := by
      rw [hafter]
      exact rollback_inTransaction hlevel
    simp [hended, hrun]
  · rw [hrun] at hkept
    rw [transactional_of_ok hopen hrun]
    cases hin : closed.inTransaction with
    | false => simp [commit_of_closed hin, hin, hrun]
    | true =>
      have hopened : opened.nesting = some 0 := Connection.transaction_eq_iff.mp hbegun
      have hzero : closed.nesting = some 0 :=
        (hkept.resolve_right (by simp [hin])).trans hopened
      obtain ⟨hanswer, hleft⟩ := commit_of_outermost hzero
      rw [hleft]
      constructor
      · rintro ⟨e, hrefused⟩
        exact ⟨opened, a, closed, e, rfl, hrun, hin, hrefused, by rw [hanswer, hrefused]; rfl⟩
      · rintro ⟨_, _, last, e, ⟨⟩, hrun', _, hrefused, _⟩
        obtain ⟨-, rfl⟩ := Prod.mk.inj (hrun.symm.trans hrun')
        exact ⟨e, hrefused⟩

/-- A connection whose driver refuses the commands that contain a text. -/
def refusing (text : String) : Connection (Tapped RecordingDriver) :=
  { config := { id := "shop", product := .mysql, connectionString := "mysql://" }
    driver := { inner := { product := .mysql, failures := [text] } }
    useSavePoints := true }

/-- A block that fails after a transaction inside it has been committed. -/
def failingBlock : Action (Tapped RecordingDriver) Unit := do
  begin
  discard (execute "INSERT 1" [])
  discard commit
  throw (.invalidInput "nope")

/-- The block fails and the rollback is refused; no transaction is left open. -/
theorem transactional_leaves_open_iff_rollback :
    ((transactional failingBlock).runOn (refusing "ROLLBACK")).2.driver.sent.map
        RecordedStatement.sql =
      ["BEGIN", "SAVEPOINT LEVEL1", "INSERT 1", "RELEASE SAVEPOINT LEVEL1", "ROLLBACK"] ∧
    ((transactional failingBlock).runOn (refusing "ROLLBACK")).2.inTransaction = false := by
  refine ⟨by decide +kernel, ?_⟩
  have hkept : ∀ opened, begin.runOn (refusing "ROLLBACK") = (.ok (), opened) →
      (failingBlock.runOn opened).2.nesting = opened.nesting ∨
        (failingBlock.runOn opened).2.inTransaction = false := by
    intro opened hopen
    obtain rfl : (begin.runOn (refusing "ROLLBACK")).2 = opened := congrArg Prod.snd hopen
    exact .inl (by decide +kernel)
  rw [Bool.eq_false_iff, Ne, transactional_leaves_open_iff failingBlock rfl hkept]
  rintro ⟨opened, a, closed, e, hopen, hrun, _⟩
  obtain rfl : (begin.runOn (refusing "ROLLBACK")).2 = opened := congrArg Prod.snd hopen
  have hfails : (failingBlock.runOn (begin.runOn (refusing "ROLLBACK")).2).1.isOk = false := by
    decide +kernel
  rw [hrun] at hfails
  cases hfails

/-- The block succeeds with the transaction as it was, the commit is refused, and the transaction
stays open after the failure. -/
theorem transactional_commit_refused :
    let c := refusing "COMMIT"
    let block : Action (Tapped RecordingDriver) Nat := execute "INSERT 1" []
    c.inTransaction = false ∧
      (block.runOn (begin.runOn c).2).2.nesting = (begin.runOn c).2.nesting ∧
      ((transactional block).runOn c).1.isOk = false ∧
      ((transactional block).runOn c).2.inTransaction = true ∧
      ((transactional block).runOn c).2.driver.sent.map RecordedStatement.sql =
        ["BEGIN", "INSERT 1", "COMMIT"] := by
  decide +kernel

end Action

end PortableSql

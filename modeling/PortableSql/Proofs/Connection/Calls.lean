import PortableSql.Proofs.Connection.Failure
import PortableSql.Proofs.Connection.Server

namespace PortableSql

open PortableSql.Action

namespace Move

/-- What a move tells a server to do, by the use of savepoints and the nesting it starts from. -/
def command? (d : Dialect) (savePoints : Bool) : Move → Option Nat → Option ServerCommand
  | begin, none => some .begin
  | begin, some outer =>
    if savePoints then some (.savePoint (ServerCommand.levelName (outer + 1))) else none
  | commit, some 0 => some .commit
  | commit, some (outer + 1) =>
    if savePoints && (d.releaseSavePointSql? (outer + 1)).isSome then
      some (.release (ServerCommand.levelName (outer + 1)))
    else none
  | rollback, some (outer + 1) =>
    if savePoints then some (.rollbackTo (ServerCommand.levelName (outer + 1)))
    else some .rollback
  | rollback, some 0 => some .rollback
  | rollbackAll, some _ => some .rollback
  | _, none => none

theorem map_read_statement? (m : Move) (d : Dialect) (savePoints : Bool) (nesting : Option Nat) :
    (m.statement? d savePoints nesting).map (ServerCommand.read d) =
      m.command? d savePoints nesting := by
  cases m with
  | begin =>
    rcases nesting with _ | outer
    · exact congrArg some (ServerCommand.read_begin d)
    · cases savePoints with
      | false => rfl
      | true => exact congrArg some (ServerCommand.read_savePoint d (outer + 1))
  | commit =>
    rcases nesting with _ | _ | outer
    · rfl
    · exact congrArg some (ServerCommand.read_commit d)
    · cases savePoints with
      | false => rfl
      | true =>
        simp only [statement?, command?, if_true, Bool.true_and]
        cases hr : d.releaseSavePointSql? (outer + 1) with
        | none => rfl
        | some sql => exact congrArg some (ServerCommand.read_release hr)
  | rollback =>
    rcases nesting with _ | _ | outer
    · rfl
    · exact congrArg some (ServerCommand.read_rollback d)
    · cases savePoints with
      | false => exact congrArg some (ServerCommand.read_rollback d)
      | true => exact congrArg some (ServerCommand.read_rollbackTo d (outer + 1))
  | rollbackAll =>
    rcases nesting with _ | outer
    · rfl
    · exact congrArg some (ServerCommand.read_rollback d)

end Move

/-- What recorded statements tell a server to do. -/
def ServerCommand.readAll (d : Dialect) (sent : List RecordedStatement) : List ServerCommand :=
  sent.map fun s => read d s.sql

theorem ServerCommand.readAll_append (d : Dialect) (xs ys : List RecordedStatement) :
    readAll d (xs ++ ys) = readAll d xs ++ readAll d ys := List.map_append

theorem Move.readAll_statement? (m : Move) (d : Dialect) (savePoints : Bool)
    (nesting : Option Nat) :
    ServerCommand.readAll d ((m.statement? d savePoints nesting).toList.map .command) =
      (m.command? d savePoints nesting).toList := by
  rw [← map_read_statement?]
  cases m.statement? d savePoints nesting <;> rfl

namespace Action

variable {δ : Type}

theorem runOn_forM_emit (events : List Event) (c : Connection δ) :
    (events.forM emit).runOn c = (.ok (), { c with events := c.events ++ events }) := by
  induction events generalizing c with
  | nil => simp
  | cons event events ih =>
    change (emit event >>= fun _ => events.forM emit).runOn c = _
    rw [runOn_bind, runOn_emit]
    exact (ih _).trans (by simp)

variable [Driver δ]

theorem runOn_setUseSavePoints (enabled : Bool) (c : Connection δ) :
    ∃ events, (setUseSavePoints enabled).runOn c =
      (.ok (enabled && Driver.supportsSavePoints c.driver),
        { c with
          useSavePoints := enabled && Driver.supportsSavePoints c.driver
          events }) := by
  cases enabled with
  | false => exact ⟨_, rfl⟩
  | true =>
    simp only [setUseSavePoints, runOn_bind, runOn_get, Bool.true_and]
    cases Driver.supportsSavePoints c.driver <;> exact ⟨_, rfl⟩

theorem setUseSavePoints_driver (enabled : Bool) (c : Connection δ) :
    ((setUseSavePoints enabled).runOn c).2.driver = c.driver := by
  obtain ⟨events, hrun⟩ := runOn_setUseSavePoints enabled c
  rw [hrun]

end Action

/-- A call on the transactions of a connection, or on its use of savepoints. -/
inductive TransactionCall where
  | move (m : Move)
  | setUseSavePoints (enabled : Bool)
deriving DecidableEq, Repr

namespace TransactionCall

variable {δ : Type} [Driver δ]

/-- The call as an action; the result of a move says whether there was a transaction to act on. -/
def act : TransactionCall → Action δ Bool
  | move m => m.act
  | setUseSavePoints enabled => Action.setUseSavePoints enabled

end TransactionCall

end PortableSql

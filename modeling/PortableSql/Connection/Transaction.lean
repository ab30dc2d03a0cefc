import PortableSql.Connection.Basic

namespace PortableSql.Action

variable {δ : Type} [Driver δ]

def setNesting (nesting : Option Nat) : Action δ Unit := modify fun c => { c with nesting }

/-- Opens a transaction, or one more inside the open one. -/
def begin : Action δ Unit := do
  let c ← get
  match c.nesting with
  | none =>
    discard (execute c.dialect.beginSql [])
    setNesting (some 0)
    emit (.begun c.config.id)
  | some outer =>
    let level := outer + 1
    if c.useSavePoints then discard (execute (c.dialect.savePointSql level) [])
    setNesting (some level)
    emit (.nestedBegun c.config.id level)

/-- Commits the innermost transaction; the result says whether there was one. -/
def commit : Action δ Bool := do
  let c ← get
  match c.nesting with
  | none => return false
  | some 0 =>
    discard (execute c.dialect.commitSql [])
    setNesting none
    emit (.committed c.config.id)
    return true
  | some (outer + 1) =>
    if c.useSavePoints then
      match c.dialect.releaseSavePointSql? (outer + 1) with
      | some sql => discard (execute sql [])
      | none => pure ()
    setNesting (some outer)
    emit (.nestedCommitted c.config.id (outer + 1))
    return true

/-- Rolls the whole transaction back. It is over even if the statement fails. -/
def rollbackAll : Action δ Bool := do
  let c ← get
  match c.nesting with
  | none => return false
  | some _ =>
    setNesting none
    discard (execute c.dialect.rollbackSql [])
    emit (.rolledBack c.config.id)
    return true

/-- Rolls the innermost transaction back; without savepoints that is the whole. -/
def rollback : Action δ Bool := do
  let c ← get
  match c.nesting with
  | some (outer + 1) =>
    if c.useSavePoints then
      discard (execute (c.dialect.rollbackToSavePointSql (outer + 1)) [])
      setNesting (some outer)
      emit (.rolledBackToSavePoint c.config.id (outer + 1))
      return true
    else rollbackAll
  | _ => rollbackAll

/-- Runs a block in a transaction, which is committed if the block succeeds and rolled back if it
fails. -/
def transactional {α : Type} (block : Action δ α) : Action δ α := do
  begin
  match ← attempt block with
  | .ok value =>
    discard commit
    return value
  | .error e =>
    match ← attempt rollback with
    | .ok _ => pure ()
    | .error failure => emit (.blockRollbackFailed (← connectionId) failure)
    throw e

/-- Runs a block with foreign keys unchecked. They are checked again after it, also if it fails. -/
def withoutForeignKeys {α : Type} (block : Action δ α) : Action δ α := do
  let d ← dialect
  discard (execute d.disableForeignKeysSql [])
  let result ← attempt block
  let enabled ← attempt (execute d.enableForeignKeysSql [])
  match result, enabled with
  | .error e, _ => throw e
  | .ok _, .error e => throw e
  | .ok value, .ok _ => return value

/-- Rolls back what is open when a connection ends. -/
def abandon : Action δ Unit := do
  let c ← get
  match c.nesting with
  | none => pure ()
  | some level =>
    emit (.closedInTransaction c.config.id level)
    match ← attempt rollbackAll with
    | .ok _ => pure ()
    | .error failure => emit (.closingRollbackFailed c.config.id failure)

def disconnect : Action δ Unit := do
  abandon
  let events ← drive fun driver =>
    let (events, driver) := Driver.disconnect driver
    (.ok events, driver)
  events.forM emit

/-- What happens when a connection is given up: an open transaction is rolled back if the driver is
still connected. -/
def close : Action δ Unit := do
  if (← get).isConnected then abandon

end PortableSql.Action

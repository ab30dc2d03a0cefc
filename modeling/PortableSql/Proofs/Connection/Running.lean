import PortableSql.Connection.Transaction

namespace PortableSql.Action

variable {δ α β : Type}

@[simp] theorem runOn_pure (a : α) (c : Connection δ) :
    (pure a : Action δ α).runOn c = (.ok a, c) := rfl

theorem runOn_bind (x : Action δ α) (f : α → Action δ β) (c : Connection δ) :
    (x >>= f).runOn c =
      match x.runOn c with
      | (.ok a, c) => (f a).runOn c
      | (.error e, c) => (.error e, c) := by
  simp only [runOn, ExceptT.run, bind, ExceptT.bind, ExceptT.mk, StateT.run, StateT.bind]
  rcases x c with ⟨_ | _, _⟩ <;> rfl

@[simp] theorem runOn_throw (e : Error) (c : Connection δ) :
    (throw e : Action δ α).runOn c = (.error e, c) := rfl

@[simp] theorem runOn_get (c : Connection δ) :
    (get : Action δ (Connection δ)).runOn c = (.ok c, c) := rfl

@[simp] theorem runOn_emit (event : Event) (c : Connection δ) :
    (emit event).runOn c = (.ok (), { c with events := c.events ++ [event] }) := rfl

@[simp] theorem runOn_setNesting (nesting : Option Nat) (c : Connection δ) :
    (setNesting nesting).runOn c = (.ok (), { c with nesting }) := rfl

@[simp] theorem runOn_attempt (x : Action δ α) (c : Connection δ) :
    (attempt x).runOn c = (.ok (x.runOn c).1, (x.runOn c).2) := rfl

theorem runOn_discard (x : Action δ α) (c : Connection δ) :
    (discard x).runOn c = ((x.runOn c).1.map fun _ => (), (x.runOn c).2) := by
  change (x >>= fun _ => pure ()).runOn c = _
  rw [runOn_bind]
  rcases x.runOn c with ⟨_ | _, _⟩ <;> rfl

variable [Driver δ]

theorem runOn_execute (sql : String) (params : List Param) (c : Connection δ) :
    (execute sql params).runOn c =
      ((Driver.execute sql params c.driver).1,
        { c with
          driver := (Driver.execute sql params c.driver).2
          events := c.events ++ [.statement c.config.id sql params c.config.logQueries] }) := rfl

theorem runOn_query (sql : String) (params : List Param) (c : Connection δ) :
    (query sql params).runOn c =
      ((Driver.query sql params c.driver).1,
        { c with
          driver := (Driver.query sql params c.driver).2
          events := c.events ++ [.statement c.config.id sql params c.config.logQueries] }) := rfl

/-- A statement is reported, whatever the driver answers. -/
theorem runOn_send (sql : String) (c : Connection δ) :
    (discard (execute sql [])).runOn c =
      let events := c.events ++ [.statement c.config.id sql [] c.config.logQueries]
      match Driver.execute sql [] c.driver with
      | (.ok _, driver) => (.ok (), { c with driver, events })
      | (.error e, driver) => (.error e, { c with driver, events }) := by
  rw [runOn_discard, runOn_execute]
  rcases Driver.execute sql [] c.driver with ⟨_ | _, _⟩ <;> rfl

end PortableSql.Action

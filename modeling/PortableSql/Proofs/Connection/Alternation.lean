import PortableSql.Proofs.Connection.Calls
import PortableSql.Proofs.Connection.Logged

namespace PortableSql

open PortableSql.Action

namespace ServerCommand

/-- Whether a transaction is open after a command, by whether one was before. A begin is out of
order while one is open, and so is an end, or what is about a savepoint, while none is. -/
def open? (isOpen : Bool) : ServerCommand → Option Bool
  | begin => if isOpen then none else some true
  | commit | rollback => if isOpen then some false else none
  | savePoint _ | release _ | rollbackTo _ => if isOpen then some true else none
  | data => some isOpen

/-- Whether the begins and the ends of transactions in a log alternate from a begin on, with what is
about savepoints between a begin and its end, and the last begin is without its end or not. -/
def Alternates (log : List ServerCommand) (isOpen : Bool) : Prop :=
  log.foldlM open? false = some isOpen

theorem Alternates.append {log added : List ServerCommand} {isOpen isOpenAfter : Bool}
    (h : Alternates log isOpen) (hh : added.foldlM open? isOpen = some isOpenAfter) :
    Alternates (log ++ added) isOpenAfter := by
  have hlog : log.foldlM open? false = some isOpen := h
  rw [Alternates, List.foldlM_append, hlog]
  exact hh

def goesBack : ServerCommand → Bool
  | rollbackTo _ => true
  | _ => false

variable {told : List ServerCommand} {isOpen : Bool}

theorem foldlM_open? (h : ∀ command ∈ told, open? isOpen command = some isOpen) :
    told.foldlM open? isOpen = some isOpen := by
  induction told with
  | nil => rfl
  | cons command told ih =>
    rw [List.foldlM_cons, h command (by simp)]
    exact ih fun other hm => h other (by simp [hm])

theorem begin_not_mem (h : ∀ command ∈ told, open? isOpen command = some isOpen) :
    .begin ∉ told := by
  intro hm
  have hbegin := h _ hm
  cases isOpen <;> cases hbegin

end ServerCommand

open ServerCommand

namespace Action

variable {δ : Type} [Driver δ]

theorem runOn_connect (c : Connection δ) :
    ∃ r events, connect.runOn c =
      (r, { c with driver := (Driver.connect c.driver).2, events }) := by
  have hdrive : (drive Driver.connect).runOn c =
      ((Driver.connect c.driver).1, { c with driver := (Driver.connect c.driver).2 }) := rfl
  rw [connect, runOn_bind, hdrive]
  cases (Driver.connect c.driver).1 with
  | error e => exact ⟨_, _, rfl⟩
  | ok events => exact ⟨_, _, runOn_forM_emit events _⟩

theorem runOn_abandon (c : Connection δ) :
    ∃ events, abandon.runOn c = (.ok (), (Move.rollbackAll.outcome c events).2) := by
  obtain ⟨config, driver, nesting, savePoints, events⟩ := c
  cases nesting with
  | none => exact ⟨events, rfl⟩
  | some level =>
    simp only [abandon, Action.rollbackAll, runOn_bind, runOn_get, runOn_emit, runOn_attempt,
      runOn_setNesting, runOn_send, Move.outcome, Move.statement?, Connection.dialect]
    rcases Driver.execute _ [] driver with ⟨_ | _, _⟩ <;> exact ⟨_, rfl⟩

theorem runOn_disconnect {c abandoned : Connection δ}
    (h : abandon.runOn c = (.ok (), abandoned)) :
    ∃ events, disconnect.runOn c =
      (.ok (), { abandoned with driver := (Driver.disconnect abandoned.driver).2, events }) := by
  simp only [disconnect, runOn_bind, h]
  exact ⟨_, runOn_forM_emit (Driver.disconnect abandoned.driver).1 _⟩

theorem runOn_close (c : Connection δ) :
    close.runOn c = if c.isConnected then abandon.runOn c else (.ok (), c) := by
  simp only [close, runOn_bind, runOn_get]
  split <;> rfl

omit [Driver δ] in
theorem runOn_bind_true (x : Action δ Unit) (c : Connection δ) :
    (x >>= fun _ => pure true).runOn c = ((x.runOn c).1.map fun _ => true, (x.runOn c).2) := by
  rw [runOn_bind]
  rcases x.runOn c with ⟨_ | _, _⟩ <;> rfl

end Action

namespace Steady

variable {δ : Type} [Driver δ] {d : Dialect} {c : Connection (Logged δ)}

theorem abandon (h : Steady d c.driver.inner)
    (connected : c.inTransaction = true → c.isConnected = true) :
    ∃ after, Action.abandon.runOn c = (.ok (), after) ∧ after.nesting = none ∧
      Logs d c after
        ((Move.rollbackAll.statement? d c.useSavePoints c.nesting).toList.map .command) := by
  obtain ⟨events, hrun⟩ := runOn_abandon c
  rw [hrun]
  cases hn : c.nesting with
  | none =>
    rw [Move.outcome, hn]
    exact ⟨_, rfl, rfl, h, rfl, by simp [Move.statement?]⟩
  | some level =>
    have hconnected : c.isConnected = true := connected (by rw [Connection.inTransaction, hn]; rfl)
    obtain ⟨after, houtcome, hnesting, hlogs⟩ := h.outcome hconnected .rollbackAll events
    rw [hn] at hnesting hlogs
    rw [houtcome]
    exact ⟨after, rfl, hnesting, hlogs⟩

end Steady

inductive ConnectionCall where
  | onTransaction (call : TransactionCall)
  | statement (s : RecordedStatement)
  | connect
  | disconnect

/-- A call that was made: its answer, unless it failed, and what was logged meanwhile. -/
structure CallRecord where
  call : ConnectionCall
  answer? : Option Bool
  told : List ServerCommand

namespace CallRecord

/-- Whether a transaction was begun. -/
def begins (r : CallRecord) : Bool :=
  match r.call, r.answer? with
  | .onTransaction (.move .begin), some true => true
  | _, _ => false

/-- Whether a transaction inside another was committed or rolled back to its savepoint. -/
def endsInner (r : CallRecord) : Bool :=
  match r.call, r.answer? with
  | .onTransaction (.move .commit), some true => !r.told.contains .commit
  | .onTransaction (.move .rollback), some true => r.told.any goesBack
  | _, _ => false

theorem begins_of_failed {r : CallRecord} (h : r.answer? ≠ some true) : r.begins = false := by
  unfold begins
  split
  next heq => exact absurd heq h
  next => rfl

theorem endsInner_of_failed {r : CallRecord} (h : r.answer? ≠ some true) :
    r.endsInner = false := by
  unfold endsInner
  split
  next heq => exact absurd heq h
  next heq => exact absurd heq h
  next => rfl

/-- What a call can do to the nesting, with what is recorded of it. -/
inductive Shifts (r : CallRecord) : Option Nat → Option Nat → Prop
  | kept {nesting : Option Nat} : r.begins = false → r.endsInner = false →
      (∀ command ∈ r.told, open? nesting.isSome command = some nesting.isSome) →
      Shifts r nesting nesting
  | opened : r.begins = true → r.told = [.begin] → Shifts r none (some 0)
  | deeper {outer : Nat} : r.begins = true → r.endsInner = false →
      (∀ command ∈ r.told, open? true command = some true) →
      Shifts r (some outer) (some (outer + 1))
  | shallower {outer : Nat} : r.begins = false → r.endsInner = true →
      (∀ command ∈ r.told, open? true command = some true) →
      Shifts r (some (outer + 1)) (some outer)
  | ended {level : Nat} : r.told = [.commit] ∨ r.told = [.rollback] → Shifts r (some level) none

/-- Whether the open transaction, if there is one, was opened by a call of the past, and its nesting
is one less than the calls that have begun a transaction from that one on, less those that have ended
one inside another. -/
def Counted (past : List CallRecord) (nesting : Option Nat) : Prop :=
  ∀ level, nesting = some level → ∃ before opening rest,
    past = before ++ opening :: rest ∧ opening.begins = true ∧ .begin ∈ opening.told ∧
      (∀ r ∈ rest, .begin ∉ r.told) ∧
      (opening :: rest).countP begins = level + 1 + rest.countP endsInner

variable {r : CallRecord} {past : List CallRecord} {nesting nestingAfter : Option Nat}

theorem Shifts.foldlM_told (h : r.Shifts nesting nestingAfter) :
    r.told.foldlM open? nesting.isSome = some nestingAfter.isSome := by
  cases h with
  | kept _ _ htold => exact foldlM_open? htold
  | opened _ htold =>
    rw [htold]
    rfl
  | deeper _ _ htold => exact foldlM_open? htold
  | shallower _ _ htold => exact foldlM_open? htold
  | ended htold => rcases htold with htold | htold <;> rw [htold] <;> rfl

theorem Counted.concat {outer level : Nat} (h : Counted past (some outer)) (hr : .begin ∉ r.told)
    (hlevel : level + (if r.endsInner then 1 else 0) = outer + if r.begins then 1 else 0) :
    Counted (past ++ [r]) (some level) := by
  intro _ heq
  cases heq
  obtain ⟨before, opening, rest, rfl, hbegins, hopens, hrest, hcount⟩ := h outer rfl
  refine ⟨before, opening, rest ++ [r], by simp, hbegins, hopens, ?_, ?_⟩
  · intro other hm
    rcases List.mem_append.mp hm with hm | hm
    · exact hrest other hm
    · rwa [List.mem_singleton.mp hm]
  · have hends : (rest ++ [r]).countP endsInner =
        rest.countP endsInner + if r.endsInner then 1 else 0 := by simp
    have hbegun : (opening :: (rest ++ [r])).countP begins =
        (opening :: rest).countP begins + if r.begins then 1 else 0 := by
      rw [← List.cons_append, List.countP_append, List.countP_singleton]
    omega

theorem Shifts.counted (h : r.Shifts nesting nestingAfter) (hc : Counted past nesting) :
    Counted (past ++ [r]) nestingAfter := by
  cases h with
  | kept hbegins hends htold =>
    cases nesting with
    | none => exact fun level heq => nomatch heq
    | some outer => exact hc.concat (begin_not_mem htold) (by simp [hbegins, hends])
  | opened hbegins htold =>
    intro level heq
    cases heq
    exact ⟨past, r, [], rfl, hbegins, by simp [htold], by simp, by simp [hbegins]⟩
  | deeper hbegins hends htold => exact hc.concat (begin_not_mem htold) (by simp [hbegins, hends])
  | shallower hbegins hends htold =>
    exact hc.concat (begin_not_mem htold) (by simp [hbegins, hends])
  | ended => exact fun level heq => nomatch heq

end CallRecord

/-- A move that takes effect shifts the nesting by what it sends. -/
theorem Move.shifts (m : Move) (d : Dialect) (savePoints : Bool) (nesting : Option Nat) :
    CallRecord.Shifts
      { call := .onTransaction (.move m)
        answer? := some (m.applies nesting)
        told := (m.command? d savePoints nesting).toList }
      nesting (m.accepted savePoints nesting) := by
  cases m with
  | begin =>
    rcases nesting with _ | outer
    · exact .opened rfl rfl
    · cases savePoints <;> exact .deeper rfl rfl (by simp [command?, open?])
  | commit =>
    rcases nesting with _ | _ | outer
    · exact .kept rfl rfl (by simp [command?])
    · exact .ended (.inl rfl)
    · cases hs : savePoints && (d.releaseSavePointSql? (outer + 1)).isSome with
      | false =>
        simp only [command?, hs]
        exact .shallower rfl rfl (by simp)
      | true =>
        simp only [command?, hs]
        exact .shallower rfl rfl (by simp [open?])
  | rollback =>
    rcases nesting with _ | _ | outer
    · exact .kept rfl rfl (by simp [command?])
    · exact .ended (.inr rfl)
    · cases savePoints with
      | false => exact .ended (.inr rfl)
      | true => exact .shallower rfl rfl (by simp [command?, open?])
  | rollbackAll =>
    rcases nesting with _ | outer
    · exact .kept rfl rfl (by simp [command?])
    · exact .ended (.inr rfl)

namespace ConnectionCall

variable {δ : Type} [Driver δ]

/-- The call as an action; only a call on transactions has an answer of its own. -/
def act : ConnectionCall → Action δ Bool
  | onTransaction call => call.act
  | statement s => do
    s.act
    return true
  | connect => do
    Action.connect
    return true
  | disconnect => do
    Action.disconnect
    return true

def record (d : Dialect) (call : ConnectionCall) (c : Connection (Logged δ)) : CallRecord where
  call
  answer? := (call.act.runOn c).1.toOption
  told := readAll d ((call.act.runOn c).2.driver.log.drop c.driver.log.length)

/-- The connection after calls, each made whatever became of those before it. -/
def runAll (calls : List ConnectionCall) (c : Connection δ) : Connection δ :=
  calls.foldl (fun c call => (call.act.runOn c).2) c

def recordAll (d : Dialect) : List ConnectionCall → Connection (Logged δ) → List CallRecord
  | [], _ => []
  | call :: calls, c => call.record d c :: recordAll d calls (call.act.runOn c).2

theorem record_eq {d : Dialect} {call : ConnectionCall} {c after : Connection (Logged δ)}
    {r : Except Error Bool} {added : List RecordedStatement} (hrun : call.act.runOn c = (r, after))
    (hlog : after.driver.log = c.driver.log ++ added) :
    call.record d c = { call, answer? := r.toOption, told := readAll d added } := by
  rw [record, hrun, hlog, List.drop_left]

end ConnectionCall

open ConnectionCall

/-- What holds of a connection over a steady driver after calls. -/
structure InStep {δ : Type} [Driver δ] (d : Dialect) (past : List CallRecord)
    (c : Connection (Logged δ)) : Prop where
  steady : Steady d c.driver.inner
  connected : c.inTransaction = true → c.isConnected = true
  alternates : Alternates (readAll d c.driver.log) c.inTransaction
  counted : CallRecord.Counted past c.nesting

namespace InStep

variable {δ : Type} [Driver δ] {d : Dialect} {past : List CallRecord}
  {c after : Connection (Logged δ)} {call : ConnectionCall} {r : Except Error Bool}
  {added : List RecordedStatement}

theorem concat (h : InStep d past c) (hrun : call.act.runOn c = (r, after))
    (steady : Steady d after.driver.inner)
    (connected : after.inTransaction = true → after.isConnected = true)
    (hlog : after.driver.log = c.driver.log ++ added)
    (hshifts : CallRecord.Shifts { call, answer? := r.toOption, told := readAll d added }
      c.nesting after.nesting) :
    InStep d (past ++ [call.record d c]) (call.act.runOn c).2 := by
  rw [record_eq hrun hlog, hrun]
  refine ⟨steady, connected, ?_, hshifts.counted h.counted⟩
  rw [hlog, readAll_append]
  exact h.alternates.append hshifts.foldlM_told

theorem idle (h : InStep d past c) (hc : c.isConnected = false) : c.nesting = none := by
  cases hn : c.nesting with
  | none => rfl
  | some level =>
    have hconnected := h.connected (by rw [Connection.inTransaction, hn]; rfl)
    cases hc.symm.trans hconnected

theorem move (h : InStep d past c) (m : Move) :
    let call : ConnectionCall := .onTransaction (.move m)
    InStep d (past ++ [call.record d c]) (call.act.runOn c).2 := by
  intro call
  obtain ⟨events, hrun⟩ := m.act_runOn c
  cases hc : c.isConnected with
  | true =>
    obtain ⟨after, houtcome, hn, hlogs⟩ := h.steady.outcome hc m events
    have hact : call.act.runOn c = (.ok (m.applies c.nesting), after) := hrun.trans houtcome
    refine h.concat hact hlogs.steady ?_ hlogs.log_eq ?_
    · intro _
      rw [hlogs.isConnected_eq, hc]
    · rw [hn, m.readAll_statement?]
      exact m.shifts d c.useSavePoints c.nesting
  | false =>
    -- nothing is open, so that only a begin sends a statement, and this is refused
    have hn := h.idle hc
    obtain ⟨r, after, houtcome, hr, hafter, hlogs⟩ := h.steady.outcome_disconnected hc hn m events
    have hact : call.act.runOn c = (r, after) := hrun.trans houtcome
    refine h.concat hact hlogs.steady ?_ hlogs.log_eq ?_
    · intro hopen
      rw [Connection.inTransaction, hafter] at hopen
      cases hopen
    · rw [hn, hafter]
      exact .kept (CallRecord.begins_of_failed hr) (CallRecord.endsInner_of_failed hr)
        (by simp [readAll])

theorem setUseSavePoints (h : InStep d past c) (enabled : Bool) :
    let call : ConnectionCall := .onTransaction (.setUseSavePoints enabled)
    InStep d (past ++ [call.record d c]) (call.act.runOn c).2 := by
  intro call
  obtain ⟨events, hrun⟩ := runOn_setUseSavePoints enabled c
  exact h.concat hrun h.steady h.connected (List.append_nil _).symm
    (.kept rfl rfl (by simp [readAll]))

theorem statement (h : InStep d past c) {s : RecordedStatement} (plain : read d s.sql = .data) :
    let call : ConnectionCall := .statement s
    InStep d (past ++ [call.record d c]) (call.act.runOn c).2 := by
  intro call
  obtain ⟨hn, hlogs⟩ := h.steady.statement s
  refine h.concat (runOn_bind_true s.act c) hlogs.steady ?_ hlogs.log_eq ?_
  · intro hopen
    rw [Connection.inTransaction, hn] at hopen
    rw [hlogs.isConnected_eq, h.connected hopen]
  · rw [hn]
    refine .kept rfl rfl ?_
    split <;> simp [readAll, plain, open?]

theorem connect (h : InStep d past c) :
    InStep d (past ++ [ConnectionCall.connect.record d c])
      (ConnectionCall.connect.act.runOn c).2 := by
  obtain ⟨r, events, hrun⟩ := runOn_connect c
  have hact := runOn_bind_true Action.connect c
  rw [hrun] at hact
  refine h.concat hact (h.steady.later (.connected .now)) ?_ (List.append_nil _).symm
    (.kept rfl rfl (by simp [readAll]))
  intro hopen
  exact h.steady.isConnected_connect _ .now (h.connected hopen)

theorem disconnect (h : InStep d past c) :
    InStep d (past ++ [ConnectionCall.disconnect.record d c])
      (ConnectionCall.disconnect.act.runOn c).2 := by
  obtain ⟨abandoned, habandon, hn, hlogs⟩ := h.steady.abandon h.connected
  obtain ⟨events, hrun⟩ := runOn_disconnect habandon
  have hact := runOn_bind_true Action.disconnect c
  rw [hrun] at hact
  refine h.concat hact (hlogs.steady.later (.disconnected .now)) ?_ hlogs.log_eq ?_
  · intro hopen
    rw [Connection.inTransaction, hn] at hopen
    cases hopen
  · rw [hn, Move.readAll_statement?]
    cases c.nesting with
    | none => exact .kept rfl rfl (by simp [Move.command?])
    | some level => exact .ended (.inr rfl)

/-- Every call keeps a connection in step with its log and with the calls before. -/
theorem next (h : InStep d past c) (call : ConnectionCall)
    (plain : ∀ s, call = .statement s → read d s.sql = .data) :
    InStep d (past ++ [call.record d c]) (call.act.runOn c).2 := by
  cases call with
  | onTransaction call =>
    cases call with
    | move m => exact h.move m
    | setUseSavePoints enabled => exact h.setUseSavePoints enabled
  | statement s => exact h.statement (plain s rfl)
  | connect => exact h.connect
  | disconnect => exact h.disconnect

theorem runAll (h : InStep d past c) (calls : List ConnectionCall)
    (plain : ∀ s, .statement s ∈ calls → read d s.sql = .data) :
    InStep d (past ++ recordAll d calls c) (ConnectionCall.runAll calls c) := by
  induction calls generalizing past c with
  | nil => simpa [recordAll, ConnectionCall.runAll] using h
  | cons call calls ih =>
    have hnext := h.next call fun s hs => plain s (by simp [hs])
    have hall := ih hnext fun s hs => plain s (by simp [hs])
    rw [recordAll, List.append_cons]
    exact hall

theorem close (h : InStep d past c) :
    Alternates (readAll d (Action.close.runOn c).2.driver.log) false := by
  rw [runOn_close]
  cases hc : c.isConnected with
  | false =>
    have hclosed : c.inTransaction = false := by rw [Connection.inTransaction, h.idle hc]; rfl
    simpa [hclosed] using h.alternates
  | true =>
    obtain ⟨abandoned, habandon, hn, hlogs⟩ := h.steady.abandon h.connected
    simp only [habandon, if_true]
    rw [hlogs.log_eq, readAll_append, Move.readAll_statement?]
    refine h.alternates.append ?_
    rw [Connection.inTransaction]
    cases c.nesting <;> rfl

end InStep

theorem inStep_create {δ : Type} [Driver δ] {d : Dialect} {driver : δ} (steady : Steady d driver)
    (config : ConnectionConfig) :
    InStep d [] (Connection.create config ({ inner := driver } : Logged δ)) := by
  obtain ⟨events, hrun⟩ := runOn_setUseSavePoints config.savePoints
    { config, driver := ({ inner := driver } : Logged δ) }
  rw [Connection.create, hrun]
  exact ⟨steady, fun hopen => (nomatch hopen), rfl, fun level heq => nomatch heq⟩

/-- Over a driver that refuses statements just while it is not connected, and is connected and
disconnected only through the connection, the transactions in the log follow one another and none is
left open when the connection is given up. At each moment the nesting is that of the calls. -/
theorem transactions_alternate {δ : Type} [Driver δ] {d : Dialect} {driver : δ}
    (steady : Steady d driver) (config : ConnectionConfig) (calls : List ConnectionCall)
    (plain : ∀ s, .statement s ∈ calls → read d s.sql = .data) :
    let start := Connection.create config ({ inner := driver } : Logged δ)
    Alternates (readAll d (Action.close.runOn (runAll calls start)).2.driver.log) false ∧
      ∀ made, made <+: calls →
        let c := runAll made start
        Alternates (readAll d c.driver.log) c.inTransaction ∧
          CallRecord.Counted (recordAll d made start) c.nesting := by
  intro start
  have hstart : InStep d [] start := inStep_create steady config
  refine ⟨(hstart.runAll calls plain).close, ?_⟩
  intro made hmade
  have hall := hstart.runAll made fun s hs => plain s (hmade.subset hs)
  exact ⟨hall.alternates, hall.counted⟩

def loggedMysql : Connection (Logged RecordingDriver) :=
  Connection.create
    { id := "shop", product := .mysql, connectionString := "mysql://", savePoints := true }
    { inner := { product := .mysql } }

/-- Transactions inside others with savepoints and without; a transaction is open when the driver is
disconnected, and again in the end. -/
def reconnected : List ConnectionCall :=
  [.onTransaction (.move .begin), .statement (.command "INSERT 1"), .onTransaction (.move .begin),
   .onTransaction (.setUseSavePoints false), .onTransaction (.move .begin),
   .onTransaction (.move .commit), .onTransaction (.setUseSavePoints true),
   .onTransaction (.move .rollback), .onTransaction (.move .begin), .disconnect,
   .onTransaction (.move .begin), .connect, .onTransaction (.move .begin)]

theorem transactions_alternate_reconnected :
    (Action.close.runOn (runAll reconnected loggedMysql)).2.driver.log.map
          RecordedStatement.sql =
        ["BEGIN", "INSERT 1", "SAVEPOINT LEVEL1", "ROLLBACK TO SAVEPOINT LEVEL1",
         "SAVEPOINT LEVEL1", "ROLLBACK", "BEGIN", "ROLLBACK"] ∧
      Alternates (readAll .mysql (Action.close.runOn (runAll reconnected loggedMysql)).2.driver.log)
        false ∧
      (runAll (reconnected.take 5) loggedMysql).nesting = some 2 ∧
      CallRecord.Counted (recordAll .mysql (reconnected.take 5) loggedMysql) (some 2) := by
  have hw : RecordingDriver.Willing .mysql { product := .mysql } := ⟨rfl, rfl, rfl, rfl⟩
  have hplain : ∀ s, .statement s ∈ reconnected → read .mysql s.sql = .data := by
    simp only [reconnected, List.mem_cons, reduceCtorEq, ConnectionCall.statement.injEq,
      List.not_mem_nil, or_false, false_or]
    rintro s rfl
    decide
  have hnesting : (runAll (reconnected.take 5) loggedMysql).nesting = some 2 := by
    decide +kernel
  obtain ⟨hend, hall⟩ := transactions_alternate hw.obliging.steady
    { id := "shop", product := .mysql, connectionString := "mysql://", savePoints := true }
    reconnected hplain
  rw [← loggedMysql] at hend hall
  obtain ⟨_, hcounted⟩ := hall (reconnected.take 5) (List.take_prefix 5 reconnected)
  exact ⟨by decide +kernel, hend, hnesting, hnesting ▸ hcounted⟩

end PortableSql

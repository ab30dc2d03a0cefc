import PortableSql.Proofs.Connection.SavePointStack
import PortableSql.Proofs.Connection.Tapped

namespace PortableSql

open PortableSql.Action ServerCommand

/-- A step of a session that leaves the settings alone. -/
inductive SessionStep where
  | move (m : Move)
  | statement (s : RecordedStatement)

namespace SessionStep

variable {δ : Type} [Driver δ]

def act : SessionStep → Action δ Unit
  | move m => discard m.act
  | statement s => s.act

/-- The connection after steps, each tried whatever became of those before it. -/
def runAll (steps : List SessionStep) (c : Connection δ) : Connection δ :=
  steps.foldl (fun c step => (step.act.runOn c).2) c

end SessionStep

/-- Nested transactions as they are meant: the data, and the data at the beginning of each open
transaction, the innermost first. -/
structure Ideal (σ : Type) where
  data : σ
  saved : List σ := []

namespace Ideal

variable {σ : Type}

def after (perform : RecordedStatement → σ → σ) (ideal : Ideal σ) : SessionStep → Ideal σ
  | .move .begin => { ideal with saved := ideal.data :: ideal.saved }
  | .move .commit => { ideal with saved := ideal.saved.tail }
  | .move .rollback =>
    match ideal.saved with
    | [] => ideal
    | data :: saved => { data, saved }
  | .move .rollbackAll =>
    match ideal.saved.getLast? with
    | none => ideal
    | some data => { data }
  | .statement s => { ideal with data := perform s ideal.data }

def runAll (perform : RecordedStatement → σ → σ) (steps : List SessionStep) (ideal : Ideal σ) :
    Ideal σ :=
  steps.foldl (after perform) ideal

/-- The open transactions inside the outermost. -/
def nesting (ideal : Ideal σ) : Option Nat :=
  match ideal.saved with
  | [] => none
  | _ :: outer => some outer.length

end Ideal

/-- The server is where the ideal machine is, and the connection counts the ideal machine's
levels. -/
inductive Simulates {σ : Type} : Server σ → Ideal σ → Option Nat → Prop
  | closed (data : σ) (stack : List (List Char × σ)) :
      Simulates { data, savePoints := stack } { data } none
  | opened {data start : σ} {stack : List (List Char × σ)} {saved : List σ} :
      Server.Stacked stack saved →
      Simulates { data, opened := some start, savePoints := stack }
        { data, saved := saved ++ [start] } (some saved.length)

namespace Simulates

variable {σ : Type} {server : Server σ} {ideal : Ideal σ} {nesting : Option Nat}

theorem data_eq (h : Simulates server ideal nesting) : server.data = ideal.data := by
  cases h <;> rfl

theorem nesting_eq (h : Simulates server ideal nesting) : nesting = ideal.nesting := by
  cases h with
  | closed => rfl
  | @opened _ _ _ saved _ => cases saved <;> simp [Ideal.nesting]

variable (d : Dialect) (perform : RecordedStatement → σ → σ)

theorem begin (h : Simulates server ideal nesting) :
    ∃ next, Server.obeyAll? d perform
        ((Move.begin.statement? d true nesting).toList.map .command) server = some next ∧
      Simulates next (ideal.after perform (.move .begin)) (Move.begin.accepted true nesting) := by
  cases h with
  | closed data stack =>
    have hs : Server.Stacked ([] : List (List Char × σ)) ([] : List σ) := .base []
    refine ⟨_, ?_, .opened hs⟩
    simp [Move.statement?, Server.obeyAll?, Server.obey?, RecordedStatement.command, read_begin]
  | @opened data start stack saved hs =>
    have hnext : Server.Stacked ([] ++ (levelName (saved.length + 1), data) :: stack)
        (data :: saved) := .level (by simp) hs
    refine ⟨_, ?_, .opened hnext⟩
    simp [Move.statement?, Server.obeyAll?, Server.obey?, RecordedStatement.command,
      read_savePoint]

theorem commit (h : Simulates server ideal nesting) :
    ∃ next, Server.obeyAll? d perform
        ((Move.commit.statement? d true nesting).toList.map .command) server = some next ∧
      Simulates next (ideal.after perform (.move .commit)) (Move.commit.accepted true nesting) := by
  cases h with
  | closed data stack => exact ⟨_, rfl, .closed data stack⟩
  | @opened data start stack saved hs =>
    cases saved with
    | nil =>
      refine ⟨_, ?_, .closed data []⟩
      simp [Move.statement?, Server.obeyAll?, Server.obey?, RecordedStatement.command, read_commit]
    | cons inner saved =>
      cases hr : d.releaseSavePointSql? (saved.length + 1) with
      | none =>
        -- the savepoint stays, but no open level has its name any more
        refine ⟨_, ?_, .opened hs.outer⟩
        simp [Move.statement?, hr, Server.obeyAll?]
      | some sql =>
        obtain ⟨below, hf, hb⟩ := hs.find?
        refine ⟨_, ?_, .opened hb⟩
        simp [Move.statement?, hr, Server.obeyAll?, Server.obey?, RecordedStatement.command,
          read_release hr, hf]

theorem rollbackAll (h : Simulates server ideal nesting) :
    ∃ next, Server.obeyAll? d perform
        ((Move.rollbackAll.statement? d true nesting).toList.map .command) server = some next ∧
      Simulates next (ideal.after perform (.move .rollbackAll))
        (Move.rollbackAll.accepted true nesting) := by
  cases h with
  | closed data stack => exact ⟨_, rfl, .closed data stack⟩
  | @opened data start stack saved hs =>
    have hlast : Ideal.after perform { data, saved := saved ++ [start] } (.move .rollbackAll) =
        { data := start } := by simp [Ideal.after]
    rw [hlast]
    refine ⟨_, ?_, .closed start []⟩
    simp [Move.statement?, Server.obeyAll?, Server.obey?, RecordedStatement.command, read_rollback]

theorem rollback (h : Simulates server ideal nesting) :
    ∃ next, Server.obeyAll? d perform
        ((Move.rollback.statement? d true nesting).toList.map .command) server = some next ∧
      Simulates next (ideal.after perform (.move .rollback))
        (Move.rollback.accepted true nesting) := by
  cases h with
  | closed data stack => exact ⟨_, rfl, .closed data stack⟩
  | @opened data start stack saved hs =>
    cases saved with
    | nil =>
      refine ⟨_, ?_, .closed start []⟩
      simp [Move.statement?, Server.obeyAll?, Server.obey?, RecordedStatement.command,
        read_rollback]
    | cons inner saved =>
      obtain ⟨below, hf, hb⟩ := hs.find?
      refine ⟨_, ?_, .opened (hb.keep inner)⟩
      simp [Move.statement?, Server.obeyAll?, Server.obey?, RecordedStatement.command,
        read_rollbackTo, hf]

theorem move (m : Move) (h : Simulates server ideal nesting) :
    ∃ next, Server.obeyAll? d perform
        ((m.statement? d true nesting).toList.map .command) server = some next ∧
      Simulates next (ideal.after perform (.move m)) (m.accepted true nesting) := by
  cases m with
  | begin => exact h.begin d perform
  | commit => exact h.commit d perform
  | rollback => exact h.rollback d perform
  | rollbackAll => exact h.rollbackAll d perform

variable {d} in
theorem statement {s : RecordedStatement} (hs : read d s.sql = .data)
    (h : Simulates server ideal nesting) :
    ∃ next, Server.obeyAll? d perform [s] server = some next ∧
      Simulates next (ideal.after perform (.statement s)) nesting := by
  cases h with
  | closed data stack =>
    refine ⟨_, ?_, .closed (perform s data) stack⟩
    simp [Server.obeyAll?, Server.obey?, hs]
  | @opened data start stack saved hst =>
    refine ⟨{ data := perform s data, opened := some start, savePoints := stack }, ?_,
      .opened hst⟩
    simp [Server.obeyAll?, Server.obey?, hs]

end Simulates

variable {δ σ : Type} [Driver δ]

theorem SessionStep.simulates {d : Dialect} (perform : RecordedStatement → σ → σ)
    {step : SessionStep} {c : Connection (Tapped δ)} {server : Server σ} {ideal : Ideal σ}
    (reliable : Reliable d c.driver.inner) (savePoints : c.useSavePoints = true)
    (plain : ∀ s, .statement s = step → read d s.sql = .data)
    (h : Simulates server ideal c.nesting) :
    ∃ sent next, Advances d c (step.act.runOn c).2 sent ∧
      Server.obeyAll? d perform sent server = some next ∧
      Simulates next (ideal.after perform step) (step.act.runOn c).2.nesting := by
  cases step with
  | move m =>
    obtain ⟨after, hrun, hn, ha⟩ := reliable.move m
    obtain ⟨next, hobey, hsim⟩ := h.move d perform m
    have hafter : ((SessionStep.move m).act.runOn c).2 = after := by
      simp only [SessionStep.act, runOn_discard, hrun]
    rw [hafter, hn, savePoints]
    rw [savePoints] at ha
    exact ⟨_, next, ha, hobey, hsim⟩
  | statement s =>
    obtain ⟨after, hrun, hn, ha⟩ := reliable.statement s
    obtain ⟨next, hobey, hsim⟩ := h.statement perform (plain s rfl)
    have hafter : ((SessionStep.statement s).act.runOn c).2 = after := by
      simp only [SessionStep.act, hrun]
    rw [hafter, hn]
    exact ⟨_, next, ha, hobey, hsim⟩

theorem SessionStep.simulates_runAll {d : Dialect} (perform : RecordedStatement → σ → σ)
    {steps : List SessionStep} {c : Connection (Tapped δ)} {server : Server σ} {ideal : Ideal σ}
    (reliable : Reliable d c.driver.inner) (savePoints : c.useSavePoints = true)
    (plain : ∀ s, .statement s ∈ steps → read d s.sql = .data)
    (h : Simulates server ideal c.nesting) :
    ∃ sent next, Advances d c (runAll steps c) sent ∧
      Server.obeyAll? d perform sent server = some next ∧
      Simulates next (ideal.runAll perform steps) (runAll steps c).nesting := by
  induction steps generalizing c server ideal with
  | nil => exact ⟨[], server, ⟨reliable, rfl, by simp [runAll]⟩, rfl, h⟩
  | cons step steps ih =>
    obtain ⟨sent, next, ha, hobey, hsim⟩ :=
      step.simulates perform reliable savePoints (fun s hs => plain s (by simp [hs])) h
    have hon := ha.useSavePoints_eq.trans savePoints
    obtain ⟨more, last, hb, hobeys, hsims⟩ :=
      ih ha.reliable hon (fun s hs => plain s (by simp [hs])) hsim
    refine ⟨sent ++ more, last, ha.trans hb, ?_, hsims⟩
    rw [Server.obeyAll?_append hobey]
    exact hobeys

/-- A server that is sent what a connection with savepoints sends refuses none of it, and has the
data of the ideal machine after every run of moves and statements. -/
theorem savePoints_refine_nested_transactions {d : Dialect}
    (perform : RecordedStatement → σ → σ) (data : σ) (steps : List SessionStep)
    {c : Connection (Tapped δ)} (reliable : Reliable d c.driver.inner)
    (idle : c.nesting = none) (savePoints : c.useSavePoints = true)
    (plain : ∀ s, .statement s ∈ steps → read d s.sql = .data) :
    ∃ sent server,
      (SessionStep.runAll steps c).driver.sent = c.driver.sent ++ sent ∧
      Server.obeyAll? d perform sent { data } = some server ∧
      server.data = (Ideal.runAll perform steps { data }).data ∧
      (SessionStep.runAll steps c).nesting = (Ideal.runAll perform steps { data }).nesting := by
  have hstart : Simulates { data } { data } c.nesting := by
    rw [idle]
    exact .closed data []
  obtain ⟨sent, server, ha, hobey, hsim⟩ :=
    SessionStep.simulates_runAll perform reliable savePoints plain hstart
  exact ⟨sent, server, ha.sent_eq, hobey, hsim.data_eq, hsim.nesting_eq⟩

/-- Two transactions inside another, one after the other; the first is given up. -/
def reusedLevel : List SessionStep :=
  [.move .begin, .statement (.command "INSERT 1"), .move .begin, .statement (.command "INSERT 2"),
   .move .rollback, .move .begin, .statement (.command "INSERT 3"), .move .commit, .move .commit]

def recordedSqlserver : Connection (Tapped RecordingDriver) :=
  Connection.create
    { id := "shop", product := .sqlserver, connectionString := "mssql://", savePoints := true }
    { inner := { product := .sqlserver } }

/-- Where savepoints are not released, the second of the first level comes to lie on the one that
the rollback has kept. -/
theorem savePoints_refine_nested_transactions_reusedLevel :
    ∃ sent server,
      (SessionStep.runAll reusedLevel recordedSqlserver).driver.sent =
        recordedSqlserver.driver.sent ++ sent ∧
      Server.obeyAll? .sqlserver (fun s data => data ++ [s.sql]) sent { data := [] } =
        some server ∧
      server.data = ["INSERT 1", "INSERT 3"] ∧
      (SessionStep.runAll reusedLevel recordedSqlserver).nesting = none := by
  have hw : RecordingDriver.Willing .sqlserver recordedSqlserver.driver.inner :=
    ⟨rfl, rfl, rfl, rfl⟩
  have hplain : ∀ s, .statement s ∈ reusedLevel → read .sqlserver s.sql = .data := by
    simp only [reusedLevel, List.mem_cons, reduceCtorEq, SessionStep.statement.injEq,
      List.not_mem_nil, or_false, false_or]
    rintro s (rfl | rfl | rfl) <;> decide
  exact savePoints_refine_nested_transactions (fun s data => data ++ [s.sql]) [] reusedLevel
    hw.reliable rfl rfl hplain

end PortableSql

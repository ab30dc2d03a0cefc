import Mathlib.Data.List.Infix
import PortableSql.Proofs.Connection.Calls
import PortableSql.Proofs.Connection.Tapped

namespace PortableSql

open PortableSql.Action

namespace ServerCommand

/-- Whether the command takes the savepoint of a level away: by ending the transaction, by releasing
that level or a lower one, or by going back to a lower one. -/
def Drops : ServerCommand → Nat → Prop
  | begin, _ | commit, _ | rollback, _ => True
  | release name, level => ∃ n ≤ level, name = levelName n
  | rollbackTo name, level => ∃ n < level, name = levelName n
  | savePoint _, _ | data, _ => False

/-- Whether the command works on the savepoint of a level that has to be there. -/
def Needs (command : ServerCommand) (level : Nat) : Prop :=
  command = release (levelName level) ∨ command = rollbackTo (levelName level)

/-- Whether commands have set the savepoint of a level, and not taken it away since. -/
def HasSavePoint (log : List ServerCommand) (level : Nat) : Prop :=
  ∃ before after, log = before ++ savePoint (levelName level) :: after ∧
    ∀ command ∈ after, ¬ command.Drops level

/-- Whether each savepoint that a command works on is there when the command comes. -/
def NamesLive (log : List ServerCommand) : Prop :=
  ∀ before command level, before ++ [command] <+: log → command.Needs level →
    HasSavePoint before level

@[simp] theorem levelName_eq_iff {m n : Nat} : levelName m = levelName n ↔ m = n :=
  ⟨levelName_inj, congrArg levelName⟩

@[simp] theorem drops_release {n level : Nat} :
    (release (levelName n)).Drops level ↔ n ≤ level := by
  simp [Drops]

@[simp] theorem drops_rollbackTo {n level : Nat} :
    (rollbackTo (levelName n)).Drops level ↔ n < level := by
  simp [Drops]

variable {log : List ServerCommand} {command : ServerCommand} {level : Nat}

theorem hasSavePoint_concat :
    HasSavePoint (log ++ [command]) level ↔
      command = savePoint (levelName level) ∨ HasSavePoint log level ∧ ¬ command.Drops level := by
  constructor
  · rintro ⟨before, after, heq, hkept⟩
    rcases List.eq_nil_or_concat after with rfl | ⟨after, last, rfl⟩
    · obtain ⟨rfl, hend⟩ := List.append_inj' heq rfl
      exact .inl (List.singleton_inj.mp hend)
    · have hc : log ++ [command] = (before ++ savePoint (levelName level) :: after) ++ [last] := by
        simpa using heq
      obtain ⟨rfl, hend⟩ := List.append_inj' hc rfl
      obtain rfl := List.singleton_inj.mp hend
      exact .inr ⟨⟨before, after, rfl, fun c hm => hkept c (by simp [hm])⟩,
        hkept command (by simp)⟩
  · rintro (rfl | ⟨⟨before, after, rfl, hkept⟩, hdrop⟩)
    · exact ⟨log, [], rfl, by simp⟩
    · refine ⟨before, after ++ [command], by simp, ?_⟩
      intro c hc
      rcases List.mem_append.mp hc with hc | hc
      · exact hkept c hc
      · obtain rfl := List.mem_singleton.mp hc
        exact hdrop

theorem namesLive_concat :
    NamesLive (log ++ [command]) ↔
      NamesLive log ∧ ∀ level, command.Needs level → HasSavePoint log level := by
  constructor
  · intro h
    exact ⟨fun before c level hp => h before c level (hp.trans (List.prefix_append _ _)),
      fun level => h log command level List.prefix_rfl⟩
  · rintro ⟨h, hlast⟩ before c level hp hneeds
    rcases List.prefix_concat_iff.mp hp with heq | hp
    · obtain ⟨rfl, hend⟩ := List.append_inj' heq rfl
      obtain rfl := List.singleton_inj.mp hend
      exact hlast level hneeds
    · exact h before c level hp hneeds

end ServerCommand

open ServerCommand

namespace Move

/-- The level whose savepoint a move releases or goes back to. -/
def endedSavePoint? (d : Dialect) (savePoints : Bool) : Move → Option Nat → Option Nat
  | commit, some (outer + 1) =>
    if savePoints && (d.releaseSavePointSql? (outer + 1)).isSome then some (outer + 1) else none
  | rollback, some (outer + 1) => if savePoints then some (outer + 1) else none
  | _, _ => none

/-- The levels that have a savepoint after a move, by those that had one before. A level that is
committed without savepoints leaves its own behind, and so does one that is rolled back to it. -/
def savePointLevels (d : Dialect) (savePoints : Bool) (levels : List Nat) :
    Move → Option Nat → List Nat
  | begin, some outer => if savePoints then (outer + 1) :: levels else levels
  | commit, some (outer + 1) =>
    if savePoints && (d.releaseSavePointSql? (outer + 1)).isSome then levels.filter (· ≤ outer)
    else levels
  | rollback, some (outer + 1) => if savePoints then levels.filter (· ≤ outer + 1) else []
  | begin, none | commit, some 0 | rollback, some 0 | rollbackAll, some _ => []
  | _, none => levels

variable {d : Dialect} {savePoints : Bool} {nesting : Option Nat} {log : List ServerCommand}
  {levels : List Nat}

theorem hasSavePoint_command (m : Move) (h : ∀ level, HasSavePoint log level ↔ level ∈ levels)
    (level : Nat) :
    HasSavePoint (log ++ (m.command? d savePoints nesting).toList) level ↔
      level ∈ m.savePointLevels d savePoints levels nesting := by
  cases m with
  | begin =>
    rcases nesting with _ | outer
    · simp [command?, savePointLevels, hasSavePoint_concat, Drops]
    · cases savePoints <;>
        simp [command?, savePointLevels, hasSavePoint_concat, Drops, h, eq_comm]
  | commit =>
    rcases nesting with _ | _ | outer
    · simp [command?, savePointLevels, h]
    · simp [command?, savePointLevels, hasSavePoint_concat, Drops]
    · cases hs : savePoints && (d.releaseSavePointSql? (outer + 1)).isSome with
      | false => simp [command?, savePointLevels, hs, h]
      | true =>
        have hkept : ¬ outer + 1 ≤ level ↔ level ≤ outer := by omega
        simp only [command?, savePointLevels, hs, if_true, Option.toList_some, hasSavePoint_concat, h,
          drops_release, hkept, List.mem_filter, decide_eq_true_eq, reduceCtorEq, false_or]
  | rollback =>
    rcases nesting with _ | _ | outer
    · simp [command?, savePointLevels, h]
    · simp [command?, savePointLevels, hasSavePoint_concat, Drops]
    · cases savePoints
      · simp [command?, savePointLevels, hasSavePoint_concat, Drops]
      · simp [command?, savePointLevels, hasSavePoint_concat, h]
  | rollbackAll =>
    rcases nesting with _ | outer
    · simp [command?, savePointLevels, h]
    · simp [command?, savePointLevels, hasSavePoint_concat, Drops]

theorem needs_command (m : Move) (level : Nat) :
    (∃ command ∈ m.command? d savePoints nesting, command.Needs level) ↔
      m.endedSavePoint? d savePoints nesting = some level := by
  cases m with
  | begin =>
    rcases nesting with _ | outer
    · simp [command?, endedSavePoint?, Needs]
    · cases savePoints <;> simp [command?, endedSavePoint?, Needs]
  | commit =>
    rcases nesting with _ | _ | outer
    · simp [command?, endedSavePoint?]
    · simp [command?, endedSavePoint?, Needs]
    · cases hs : savePoints && (d.releaseSavePointSql? (outer + 1)).isSome <;>
        simp [command?, endedSavePoint?, Needs, hs]
  | rollback =>
    rcases nesting with _ | _ | outer
    · simp [command?, endedSavePoint?]
    · simp [command?, endedSavePoint?, Needs]
    · cases savePoints <;> simp [command?, endedSavePoint?, Needs]
  | rollbackAll =>
    rcases nesting with _ | outer
    · simp [command?, endedSavePoint?]
    · simp [command?, endedSavePoint?, Needs]

theorem namesLive_command (m : Move) (h : ∀ level, HasSavePoint log level ↔ level ∈ levels) :
    NamesLive (log ++ (m.command? d savePoints nesting).toList) ↔
      NamesLive log ∧
        ∀ level, m.endedSavePoint? d savePoints nesting = some level → level ∈ levels := by
  simp only [← needs_command, ← h]
  cases m.command? d savePoints nesting with
  | none => simp
  | some command => simp [namesLive_concat]

/-- A savepoint is only needed with savepoints turned on, and then that of the innermost level. -/
theorem endedSavePoint?_eq_some {m : Move} {level : Nat}
    (h : m.endedSavePoint? d savePoints nesting = some level) :
    savePoints = true ∧ 0 < level ∧ nesting = some level := by
  cases m with
  | begin | rollbackAll => cases nesting <;> cases h
  | commit =>
    rcases nesting with _ | _ | outer
    · cases h
    · cases h
    · obtain ⟨hon, heq⟩ := Option.ite_none_right_eq_some.mp h
      cases heq
      exact ⟨(Bool.and_eq_true_iff.mp hon).1, outer.succ_pos, rfl⟩
  | rollback =>
    rcases nesting with _ | _ | outer
    · cases h
    · cases h
    · obtain ⟨hon, heq⟩ := Option.ite_none_right_eq_some.mp h
      cases heq
      exact ⟨hon, outer.succ_pos, rfl⟩

/-- With savepoints turned on, each level that a move leaves open has one if each had one before. -/
theorem mem_savePointLevels (m : Move)
    (saved : ∀ level, 0 < level → level ≤ nesting.getD 0 → level ∈ levels) (level : Nat)
    (inside : 0 < level) (isOpen : level ≤ (m.accepted true nesting).getD 0) :
    level ∈ m.savePointLevels d true levels nesting := by
  cases m with
  | begin =>
    rcases nesting with _ | outer
    · exact absurd inside (Nat.not_lt.mpr isOpen)
    · have hle : level ≤ outer + 1 := isOpen
      rcases Nat.lt_or_eq_of_le hle with hlt | rfl
      · exact List.mem_cons_of_mem _ (saved level inside (Nat.le_of_lt_succ hlt))
      · exact List.mem_cons_self
  | commit =>
    rcases nesting with _ | _ | outer
    · exact absurd inside (Nat.not_lt.mpr isOpen)
    · exact absurd inside (Nat.not_lt.mpr isOpen)
    · have hm := saved level inside (Nat.le_succ_of_le isOpen)
      simp only [savePointLevels]
      split
      · exact List.mem_filter.mpr ⟨hm, decide_eq_true isOpen⟩
      · exact hm
  | rollback =>
    rcases nesting with _ | _ | outer
    · exact absurd inside (Nat.not_lt.mpr isOpen)
    · exact absurd inside (Nat.not_lt.mpr isOpen)
    · have hle : level ≤ outer + 1 := Nat.le_succ_of_le isOpen
      exact List.mem_filter.mpr ⟨saved level inside hle, decide_eq_true hle⟩
  | rollbackAll =>
    rcases nesting with _ | outer
    · exact absurd inside (Nat.not_lt.mpr isOpen)
    · exact absurd inside (Nat.not_lt.mpr isOpen)

end Move

namespace TransactionCall

variable {δ : Type} [Driver δ] {d : Dialect}

/-- The connection after calls, each made whatever became of those before it. -/
def runAll (calls : List TransactionCall) (c : Connection δ) : Connection δ :=
  calls.foldl (fun c call => (call.act.runOn c).2) c

/-- Whether each level whose savepoint is released or gone back to is one of those that have a
savepoint by the calls before; the levels that have one at first are given. -/
def EndsSaved (d : Dialect) : List TransactionCall → Connection δ → List Nat → Prop
  | [], _, _ => True
  | move m :: calls, c, levels =>
    (∀ level ∈ m.endedSavePoint? d c.useSavePoints c.nesting, level ∈ levels) ∧
      EndsSaved d calls (m.act.runOn c).2 (m.savePointLevels d c.useSavePoints levels c.nesting)
  | setUseSavePoints enabled :: calls, c, levels =>
    EndsSaved d calls ((Action.setUseSavePoints enabled).runOn c).2 levels

/-- Whether savepoints are only turned on while no transaction is open inside another. -/
def TurnsOnOutside : List TransactionCall → Connection δ → Prop
  | [], _ => True
  | call :: calls, c =>
    (call = setUseSavePoints true → c.useSavePoints = true ∨ c.transaction.level = 0) ∧
      TurnsOnOutside calls (call.act.runOn c).2

instance decidableTurnsOnOutside :
    (calls : List TransactionCall) → (c : Connection δ) → Decidable (TurnsOnOutside calls c)
  | [], _ => isTrue trivial
  | call :: calls, c =>
    have := decidableTurnsOnOutside calls (call.act.runOn c).2
    inferInstanceAs (Decidable (_ ∧ _))

theorem runAll_namesLive (calls : List TransactionCall) {c : Connection (Tapped δ)}
    {log : List ServerCommand} {levels : List Nat} (reliable : Reliable d c.driver.inner)
    (h : ∀ level, HasSavePoint log level ↔ level ∈ levels) :
    ∃ sent, (runAll calls c).driver.sent = c.driver.sent ++ sent ∧
      (NamesLive (log ++ readAll d sent) ↔ NamesLive log ∧ EndsSaved d calls c levels) := by
  induction calls generalizing c log levels with
  | nil => exact ⟨[], by simp [runAll], by simp [readAll, EndsSaved]⟩
  | cons call calls ih =>
    cases call with
    | move m =>
      obtain ⟨after, hrun, _, ha⟩ := reliable.move m
      obtain rfl : (m.act.runOn c).2 = after := congrArg Prod.snd hrun
      obtain ⟨sent, hsent, hlive⟩ := ih ha.reliable (m.hasSavePoint_command h)
      refine ⟨(m.statement? d c.useSavePoints c.nesting).toList.map .command ++ sent, ?_, ?_⟩
      · rw [← List.append_assoc, ← ha.sent_eq]
        exact hsent
      · rw [readAll_append, m.readAll_statement?, ← List.append_assoc, hlive,
          m.namesLive_command h, and_assoc]
        rfl
    | setUseSavePoints enabled =>
      rw [← setUseSavePoints_driver enabled c] at reliable ⊢
      obtain ⟨sent, hsent, hlive⟩ := ih reliable h
      exact ⟨sent, hsent, hlive⟩

/-- Levels begun while savepoints are on have them, so that nothing else is ended with them. -/
theorem endsSaved_of_turnsOnOutside (calls : List TransactionCall) {c : Connection (Tapped δ)}
    {levels : List Nat} (reliable : Reliable d c.driver.inner)
    (saved : c.useSavePoints = true → ∀ level, 0 < level → level ≤ c.transaction.level →
      level ∈ levels)
    (outside : TurnsOnOutside calls c) : EndsSaved d calls c levels := by
  induction calls generalizing c levels with
  | nil => trivial
  | cons call calls ih =>
    cases call with
    | move m =>
      obtain ⟨after, hrun, hn, ha⟩ := reliable.move m
      obtain rfl : (m.act.runOn c).2 = after := congrArg Prod.snd hrun
      refine ⟨?_, ih ha.reliable ?_ outside.2⟩
      · intro level hended
        obtain ⟨hon, hinside, hn⟩ := Move.endedSavePoint?_eq_some hended
        exact saved hon level hinside (by rw [Connection.transaction, hn]; rfl)
      · rw [ha.useSavePoints_eq]
        intro hon level inside isOpen
        rw [hon] at hn ⊢
        rw [Connection.transaction, hn] at isOpen
        exact m.mem_savePointLevels (saved hon) level inside isOpen
    | setUseSavePoints enabled =>
      obtain ⟨events, hrun⟩ := runOn_setUseSavePoints enabled c
      have hsame : ((Action.setUseSavePoints enabled).runOn c).2.transaction = c.transaction := by
        rw [hrun]
        rfl
      have hon : ((Action.setUseSavePoints enabled).runOn c).2.useSavePoints = true →
          enabled = true := by
        rw [hrun]
        exact fun h => (Bool.and_eq_true_iff.mp h).1
      rw [← setUseSavePoints_driver enabled c] at reliable
      refine ih reliable ?_ outside.2
      intro honAfter level inside isOpen
      rw [hsame] at isOpen
      obtain rfl := hon honAfter
      rcases outside.1 rfl with honBefore | hzero
      · exact saved honBefore level inside isOpen
      · omega

/-- The savepoints that a connection works on are there exactly if each level that it ends with
savepoints turned on has one: it was begun with them, or an earlier level has left one of its number
behind. That holds if they are only turned on while no transaction is open inside another. -/
theorem savePoints_named_live_iff (calls : List TransactionCall) {c : Connection (Tapped δ)}
    (reliable : Reliable d c.driver.inner) (idle : c.inTransaction = false) :
    ∃ sent, (runAll calls c).driver.sent = c.driver.sent ++ sent ∧
      (NamesLive (readAll d sent) ↔ EndsSaved d calls c []) ∧
      (TurnsOnOutside calls c → NamesLive (readAll d sent)) := by
  have hnone : ∀ level, HasSavePoint [] level ↔ level ∈ ([] : List Nat) := by simp [HasSavePoint]
  obtain ⟨sent, hsent, hlive⟩ := runAll_namesLive calls reliable hnone
  have hiff : NamesLive (readAll d sent) ↔ EndsSaved d calls c [] :=
    hlive.trans (and_iff_right (by simp [NamesLive]))
  refine ⟨sent, hsent, hiff, ?_⟩
  intro outside
  refine hiff.mpr (endsSaved_of_turnsOnOutside calls reliable ?_ outside)
  intro _ level inside isOpen
  rw [Connection.transaction_of_closed idle] at isOpen
  exact absurd inside (Nat.not_lt.mpr isOpen)

def recordedPostgresql : Connection (Tapped RecordingDriver) :=
  Connection.create
    { id := "shop", product := .postgresql, connectionString := "postgres://", savePoints := true }
    { inner := { product := .postgresql } }

theorem recordedPostgresql_reliable : Reliable .postgresql recordedPostgresql.driver.inner :=
  RecordingDriver.Willing.reliable ⟨rfl, rfl, rfl, rfl⟩

/-- A level that was begun with savepoints is committed without; they are turned on again outside
it. -/
def turnedOff : List TransactionCall :=
  [.move .begin, .move .begin, .setUseSavePoints false, .move .commit, .setUseSavePoints true,
   .move .begin, .move .rollback, .move .commit]

theorem savePoints_named_live_iff_turnedOff :
    (runAll turnedOff recordedPostgresql).driver.sent.map RecordedStatement.sql =
        ["BEGIN", "SAVEPOINT LEVEL1", "SAVEPOINT LEVEL1", "ROLLBACK TO SAVEPOINT LEVEL1",
         "COMMIT"] ∧
      NamesLive (readAll .postgresql (runAll turnedOff recordedPostgresql).driver.sent) := by
  refine ⟨by decide +kernel, ?_⟩
  obtain ⟨sent, hsent, _, hlive⟩ :=
    savePoints_named_live_iff turnedOff recordedPostgresql_reliable rfl
  rw [hsent]
  exact hlive (by decide +kernel)

/-- Savepoints are turned on within a level that was begun without. -/
def turnedOn : List TransactionCall :=
  [.move .begin, .setUseSavePoints false, .move .begin, .setUseSavePoints true, .move .commit]

/-- A savepoint is released that was never set. -/
theorem savePoints_named_not_live :
    (runAll turnedOn recordedPostgresql).driver.sent.map RecordedStatement.sql =
        ["BEGIN", "RELEASE SAVEPOINT LEVEL1"] ∧
      ¬ NamesLive (readAll .postgresql (runAll turnedOn recordedPostgresql).driver.sent) := by
  refine ⟨by decide +kernel, ?_⟩
  have hread : readAll .postgresql (runAll turnedOn recordedPostgresql).driver.sent =
      [.begin, .release (levelName 1)] := by decide +kernel
  rw [hread]
  intro hlive
  obtain ⟨before, after, heq, _⟩ :=
    hlive [.begin] (.release (levelName 1)) 1 List.prefix_rfl (.inl rfl)
  have hm : .savePoint (levelName 1) ∈ [ServerCommand.begin] := by
    rw [heq]
    simp
  simp at hm

end TransactionCall

end PortableSql

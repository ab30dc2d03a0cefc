import PortableSql.Proofs.Connection.Server
import PortableSql.Proofs.Connection.Work

namespace PortableSql

open PortableSql.Action

/-- The statements that open, keep and undo a whole transaction. -/
def Dialect.wholeSql (d : Dialect) : List String := [d.beginSql, d.commitSql, d.rollbackSql]

namespace ServerCommand

variable {d : Dialect} {level : Nat} {sql : String}

/-- What reads as a statement about a savepoint is none about a whole transaction. -/
theorem not_whole (hb : read d sql ≠ .begin) (hc : read d sql ≠ .commit)
    (hr : read d sql ≠ .rollback) : sql ∉ d.wholeSql := by
  simp only [Dialect.wholeSql, List.mem_cons, List.not_mem_nil, or_false, not_or]
  refine ⟨?_, ?_, ?_⟩
  · rintro rfl
    exact hb (read_begin d)
  · rintro rfl
    exact hc (read_commit d)
  · rintro rfl
    exact hr (read_rollback d)

end ServerCommand

namespace Move

variable {d : Dialect} {savePoints : Bool} {level : Nat} {sql : String}

/-- A transaction inside another is begun by a savepoint or without a statement. -/
theorem begin_inside_not_whole (h : begin.statement? d savePoints (some level) = some sql) :
    sql ∉ d.wholeSql := by
  cases savePoints with
  | false => cases h
  | true =>
    cases Option.some.inj h
    have hread := ServerCommand.read_savePoint d (level + 1)
    exact ServerCommand.not_whole (by simp [hread]) (by simp [hread]) (by simp [hread])

/-- With a savepoint to go back to, or without a failure, the end of a block inside a transaction
does not touch the whole. -/
theorem ending_inside {α : Type} {r : Except Error α} (d : Dialect) (level : Nat)
    (kept : savePoints = true ∨ ¬ ∃ e, r = .error e) :
    (ending r).accepted savePoints (some (level + 1)) = some level ∧
      ∀ sql, (ending r).statement? d savePoints (some (level + 1)) = some sql →
        sql ∉ d.wholeSql := by
  cases r with
  | ok a =>
    refine ⟨rfl, ?_⟩
    intro sql h
    cases savePoints with
    | false => cases h
    | true =>
      have hread := ServerCommand.read_release h
      exact ServerCommand.not_whole (by simp [hread]) (by simp [hread]) (by simp [hread])
  | error e =>
    obtain rfl : savePoints = true := kept.resolve_right fun hne => hne ⟨e, rfl⟩
    refine ⟨rfl, ?_⟩
    intro sql h
    cases Option.some.inj h
    have hread := ServerCommand.read_rollbackTo d (level + 1)
    exact ServerCommand.not_whole (by simp [hread]) (by simp [hread]) (by simp [hread])

theorem mem_sent {sql? : Option String} {s : RecordedStatement}
    (h : s ∈ sql?.toList.map RecordedStatement.command) : sql? = some s.sql := by
  cases sql? with
  | none => cases h
  | some sql =>
    obtain rfl := List.mem_singleton.mp h
    rfl

end Move

namespace Work

variable {δ α : Type} [Driver δ] {d : Dialect}

/-- Inside a transaction the work leaves the nesting as it was and sends no statement on whole
transactions, if levels have savepoints or no block inside fails. -/
theorem stays_inside (w : Work α) {c : Connection (Tapped δ)} {level : Nat}
    (h : Reliable d c.driver.inner) (avoids : w.Avoids d.wholeSql) (hn : c.nesting = some level)
    (kept : c.useSavePoints = true ∨ ¬ w.FailsInside c) :
    ∃ r after sent, w.act.runOn c = (r, after) ∧ after.nesting = some level ∧
      Advances d c after sent ∧ ∀ s ∈ sent, s.sql ∉ d.wholeSql := by
  induction w generalizing c level with
  | done result => exact ⟨result, c, [], rfl, hn, ⟨h, rfl, by simp⟩, by simp⟩
  | execute sql params next ih =>
    obtain ⟨hsql, havoid⟩ := avoids
    obtain ⟨count, after, hrun, hsame, ha⟩ := h.execute sql params
    have hkept : after.useSavePoints = true ∨ ¬ (next (.ok count)).FailsInside after := by
      rwa [ha.useSavePoints_eq, ← failsInside_execute hrun]
    obtain ⟨r, last, sent, hw, hlast, hb, hwhole⟩ :=
      ih (.ok count) ha.reliable (havoid _) (hsame.trans hn) hkept
    refine ⟨r, last, _, (act_execute hrun).trans hw, hlast, ha.trans hb, ?_⟩
    intro s hs
    rcases List.mem_append.mp hs with hs | hs
    · obtain rfl := List.mem_singleton.mp hs
      exact hsql
    · exact hwhole s hs
  | block inner next ihi ihn =>
    obtain ⟨havoidi, havoidn⟩ := avoids
    obtain ⟨opened, hopen, hno, ho⟩ := h.begin
    rw [hn] at hno ho
    have hkepti : opened.useSavePoints = true ∨ ¬ inner.FailsInside opened := by
      rw [ho.useSavePoints_eq]
      refine kept.imp_right fun hk hf => hk (.inl ?_)
      rwa [hopen]
    obtain ⟨r, closed, sent, hin, hnc, hi, hwi⟩ := ihi ho.reliable havoidi hno hkepti
    obtain ⟨after, hrun, hna, hc⟩ := Reliable.transactional hopen hin hi.reliable
    have hsame : closed.useSavePoints = c.useSavePoints :=
      hi.useSavePoints_eq.trans ho.useSavePoints_eq
    rw [hnc, hsame] at hna hc
    have hkeptn : c.useSavePoints = true ∨
        ¬ (∃ e, r = .error e) ∧ ¬ (next r).FailsInside after := by
      rw [failsInside_block hopen hrun, not_or, not_or] at kept
      exact kept.imp_right And.right
    obtain ⟨hend, hwe⟩ := Move.ending_inside d level (hkeptn.imp_right And.left)
    obtain ⟨r', last, rest, hw, hlast, hlater, hwn⟩ :=
      ihn r hc.reliable (havoidn r) (hna.trans hend)
        ((hkeptn.imp_right And.right).imp_left fun hs => by
          rw [hc.useSavePoints_eq, hsame, hs])
    refine ⟨r', last, _, (act_block hrun).trans hw, hlast,
      ((ho.trans hi).trans hc).trans hlater, ?_⟩
    intro s hs
    simp only [List.mem_append] at hs
    rcases hs with ((hs | hs) | hs) | hs
    · exact Move.begin_inside_not_whole (Move.mem_sent hs)
    · exact hwi s hs
    · exact hwe s.sql (Move.mem_sent hs)
    · exact hwn s hs

/-- Without savepoints a block that fails inside a transaction undoes the whole. -/
theorem undoes_whole (w : Work α) {c : Connection (Tapped δ)} {level : Nat}
    (h : Reliable d c.driver.inner) (avoids : w.Avoids d.wholeSql) (hn : c.nesting = some level)
    (off : c.useSavePoints = false) (fails : w.FailsInside c) :
    ∃ r after sent, w.act.runOn c = (r, after) ∧ Advances d c after sent ∧
      .command d.rollbackSql ∈ sent := by
  induction w generalizing c level with
  | done result => exact fails.elim
  | execute sql params next ih =>
    obtain ⟨count, after, hrun, hsame, ha⟩ := h.execute sql params
    obtain ⟨r, last, sent, hw, hb, hm⟩ := ih (.ok count) ha.reliable (avoids.2 _)
      (hsame.trans hn) (ha.useSavePoints_eq.trans off) ((failsInside_execute hrun).mp fails)
    exact ⟨r, last, _, (act_execute hrun).trans hw, ha.trans hb, List.mem_append_right _ hm⟩
  | block inner next ihi ihn =>
    obtain ⟨opened, hopen, hno, ho⟩ := h.begin
    rw [hn] at hno
    have hoff := ho.useSavePoints_eq.trans off
    by_cases hfi : inner.FailsInside opened
    · obtain ⟨r, closed, sent, hin, hi, hm⟩ := ihi ho.reliable avoids.1 hno hoff hfi
      obtain ⟨after, hrun, _, hc⟩ := Reliable.transactional hopen hin hi.reliable
      obtain ⟨r', last, rest, hw, hlater⟩ := (next r).advances hc.reliable
      refine ⟨r', last, _, (act_block hrun).trans hw, ((ho.trans hi).trans hc).trans hlater, ?_⟩
      simp [hm]
    · obtain ⟨r, closed, sent, hin, hnc, hi, _⟩ :=
        inner.stays_inside ho.reliable avoids.1 hno (.inr hfi)
      obtain ⟨after, hrun, hna, hc⟩ := Reliable.transactional hopen hin hi.reliable
      rw [hnc, hi.useSavePoints_eq.trans hoff] at hna hc
      rw [failsInside_block hopen hrun] at fails
      cases r with
      | error e =>
        -- the first failure: nothing has ended the transaction before
        obtain ⟨r', last, rest, hw, hlater⟩ := (next (.error e)).advances hc.reliable
        refine ⟨r', last, _, (act_block hrun).trans hw, ((ho.trans hi).trans hc).trans hlater, ?_⟩
        simp [Move.ending, Move.statement?]
      | ok a =>
        have hfn : (next (.ok a)).FailsInside after := by
          simpa [hfi] using fails
        obtain ⟨r', last, rest, hw, hlater, hm⟩ := ihn (.ok a) hc.reliable (avoids.2 _) hna
          (hc.useSavePoints_eq.trans (hi.useSavePoints_eq.trans hoff)) hfn
        refine ⟨r', last, _, (act_block hrun).trans hw, ((ho.trans hi).trans hc).trans hlater, ?_⟩
        simp [hm]

end Work

/-- Statements of which the first opens a transaction and the last keeps it, and none in between
opens, keeps or undoes one. -/
def KeepsWhole (d : Dialect) (sent : List RecordedStatement) : Prop :=
  ∃ body, sent = .command d.beginSql :: (body ++ [.command d.commitSql]) ∧
    ∀ s ∈ body, s.sql ∉ d.wholeSql

theorem KeepsWhole.not_undone {d : Dialect} {sent : List RecordedStatement}
    (h : KeepsWhole d sent) : d.rollbackSql ∉ sent.map RecordedStatement.sql := by
  obtain ⟨body, rfl, hbody⟩ := h
  intro hm
  obtain ⟨s, hs, hsql⟩ := List.mem_map.mp hm
  simp only [List.mem_cons, List.mem_append, List.not_mem_nil, or_false] at hs
  rcases hs with rfl | hs | rfl
  · exact absurd hsql (by cases d <;> decide)
  · exact hbody s hs (by simp [Dialect.wholeSql, hsql])
  · exact absurd hsql (by cases d <;> decide)

variable {δ α : Type} [Driver δ] {d : Dialect}

/-- An outermost block that succeeds has kept all its work in one transaction exactly if levels have
savepoints or no block inside it has failed. -/
theorem transactional_ok_keepsWhole_iff {w : Work α} {c after : Connection (Tapped δ)} {a : α}
    (reliable : Reliable d c.driver.inner) (avoids : w.Avoids d.wholeSql)
    (idle : c.nesting = none) (h : (transactional w.act).runOn c = (.ok a, after)) :
    ∃ sent, after.driver.sent = c.driver.sent ++ sent ∧
      (KeepsWhole d sent ↔ c.useSavePoints = true ∨ ¬ w.FailsInside (begin.runOn c).2) := by
  obtain ⟨opened, hopen, hno, ho⟩ := reliable.begin
  rw [idle] at hno ho
  rw [hopen, ← ho.useSavePoints_eq]
  by_cases hkept : opened.useSavePoints = true ∨ ¬ w.FailsInside opened
  · obtain ⟨r, closed, body, hin, hnc, hi, hbody⟩ := w.stays_inside ho.reliable avoids hno hkept
    obtain ⟨last, hrun, _, hc⟩ := Reliable.transactional hopen hin hi.reliable
    obtain ⟨rfl, rfl⟩ := Prod.mk.inj (hrun.symm.trans h)
    rw [hnc] at hc
    refine ⟨_, ((ho.trans hi).trans hc).sent_eq, iff_of_true ⟨body, ?_, hbody⟩ hkept⟩
    rfl
  · rw [not_or, Bool.not_eq_true, Classical.not_not] at hkept
    obtain ⟨off, fails⟩ := hkept
    obtain ⟨r, closed, body, hin, hi, hm⟩ := w.undoes_whole ho.reliable avoids hno off fails
    obtain ⟨last, hrun, _, hc⟩ := Reliable.transactional hopen hin hi.reliable
    obtain ⟨rfl, rfl⟩ := Prod.mk.inj (hrun.symm.trans h)
    refine ⟨_, ((ho.trans hi).trans hc).sent_eq, iff_of_false ?_ (by simp [off, fails])⟩
    intro hkeeps
    exact hkeeps.not_undone
      (List.mem_map.mpr ⟨_, List.mem_append_left _ (List.mem_append_right _ hm), rfl⟩)

/-- A block that fails inside the work, which passes over the failure. -/
def passedOver : Work Unit :=
  .execute "INSERT 1" [] fun _ =>
    .block (.done (.error (.invalidInput "nope"))) fun _ =>
      .execute "INSERT 2" [] fun _ => .done (.ok ())

def recordedMysql (savePoints : Bool) : Connection (Tapped RecordingDriver) :=
  Connection.create
    { id := "shop", product := .mysql, connectionString := "mysql://", savePoints }
    { inner := { product := .mysql } }

theorem passedOver_avoids : passedOver.Avoids Dialect.mysql.wholeSql :=
  ⟨by decide, fun _ => ⟨trivial, fun _ => ⟨by decide, fun _ => trivial⟩⟩⟩

theorem recordedMysql_reliable (savePoints : Bool) :
    Reliable .mysql (recordedMysql savePoints).driver.inner := by
  cases savePoints <;> exact RecordingDriver.Willing.reliable ⟨rfl, rfl, rfl, rfl⟩

theorem passedOver_ok (savePoints : Bool) :
    ∃ after, (transactional passedOver.act).runOn (recordedMysql savePoints) = (.ok (), after) := by
  have hok : ((transactional passedOver.act).runOn (recordedMysql savePoints)).1.isOk = true := by
    cases savePoints <;> decide +kernel
  rcases hrun : (transactional passedOver.act).runOn (recordedMysql savePoints) with ⟨_ | ⟨⟩, after⟩
  · rw [hrun] at hok
    cases hok
  · exact ⟨after, rfl⟩

/-- With savepoints the transaction outlasts the failure. -/
theorem transactional_ok_keepsWhole_passedOver :
    ∃ after sent, (transactional passedOver.act).runOn (recordedMysql true) = (.ok (), after) ∧
      after.driver.sent = (recordedMysql true).driver.sent ++ sent ∧ KeepsWhole .mysql sent := by
  obtain ⟨after, hrun⟩ := passedOver_ok true
  obtain ⟨sent, hsent, hkeeps⟩ :=
    transactional_ok_keepsWhole_iff (recordedMysql_reliable true) passedOver_avoids rfl hrun
  exact ⟨after, sent, hrun, hsent, hkeeps.mpr (.inl rfl)⟩

/-- Without savepoints the block that failed has undone the transaction; what follows it is executed
outside of any, nothing is committed, and the outer block succeeds all the same. -/
theorem transactional_ok_nothing_committed :
    ∃ after, (transactional passedOver.act).runOn (recordedMysql false) = (.ok (), after) ∧
      after.driver.sent.map RecordedStatement.sql =
        ["BEGIN", "INSERT 1", "ROLLBACK", "INSERT 2"] ∧
      ¬ KeepsWhole .mysql after.driver.sent := by
  obtain ⟨after, hrun⟩ := passedOver_ok false
  have hsent : ((transactional passedOver.act).runOn (recordedMysql false)).2.driver.sent.map
      RecordedStatement.sql = ["BEGIN", "INSERT 1", "ROLLBACK", "INSERT 2"] := by
    decide +kernel
  rw [hrun] at hsent
  refine ⟨after, hrun, hsent, ?_⟩
  intro hkeeps
  refine hkeeps.not_undone ?_
  rw [hsent]
  decide

end PortableSql

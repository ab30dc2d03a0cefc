import PortableSql.Dialect.Statement
import PortableSql.Driver.Recording
import PortableSql.Proofs.Text.Chars

namespace PortableSql

/-- What a statement tells a server to do. -/
inductive ServerCommand where
  | begin
  | commit
  | rollback
  | savePoint (name : List Char)
  | release (name : List Char)
  | rollbackTo (name : List Char)
  /-- Any other statement works on the data. -/
  | data
deriving DecidableEq, Repr

namespace ServerCommand

def savePointOpening : Dialect → List Char
  | .sqlserver => "SAVE TRANSACTION ".toList
  | _ => "SAVEPOINT ".toList

def releaseOpening? : Dialect → Option (List Char)
  | .sqlserver => none
  | _ => some "RELEASE SAVEPOINT ".toList

def rollbackToOpening : Dialect → List Char
  | .sqlserver => "ROLLBACK TRANSACTION ".toList
  | _ => "ROLLBACK TO SAVEPOINT ".toList

/-- The reading of a statement about a savepoint, whose name follows the opening. -/
def aboutSavePoint? (d : Dialect) (text : List Char) : Option ServerCommand :=
  ((Chars.stripStart? (savePointOpening d) text).map savePoint).or
    ((((releaseOpening? d).bind fun opening => Chars.stripStart? opening text).map release).or
      ((Chars.stripStart? (rollbackToOpening d) text).map rollbackTo))

/-- A server's reading of a statement. -/
def read (d : Dialect) (sql : String) : ServerCommand :=
  match aboutSavePoint? d sql.toList with
  | some command => command
  | none =>
    if sql = d.beginSql then begin
    else if sql = d.commitSql then commit
    else if sql = d.rollbackSql then rollback
    else data

/-- The name of the savepoint of a level. -/
def levelName (level : Nat) : List Char := "LEVEL".toList ++ (toString level).toList

theorem levelName_inj {m n : Nat} (h : levelName m = levelName n) : m = n := by
  have hd : Nat.toDigits 10 m = Nat.toDigits 10 n := by
    rw [← Nat.toList_repr, ← Nat.toList_repr]
    exact List.append_cancel_left h
  have hv := congrArg (fun cs => Nat.ofDigitChars 10 cs 0) hd
  simpa using hv

theorem read_of_aboutSavePoint {d : Dialect} {sql : String} {command : ServerCommand}
    (h : aboutSavePoint? d sql.toList = some command) : read d sql = command := by
  rw [read, h]

theorem read_begin (d : Dialect) : read d d.beginSql = .begin := by
  cases d <;> decide

theorem read_commit (d : Dialect) : read d d.commitSql = .commit := by
  cases d <;> decide

theorem read_rollback (d : Dialect) : read d d.rollbackSql = .rollback := by
  cases d <;> decide

theorem toList_opened (opening : List Char) (level : Nat) :
    (String.ofList opening ++ "LEVEL" ++ toString level).toList = opening ++ levelName level := by
  rw [String.toList_append, String.toList_append, String.toList_ofList, List.append_assoc, levelName]

theorem read_savePoint (d : Dialect) (level : Nat) :
    read d (d.savePointSql level) = .savePoint (levelName level) := by
  have htext : d.savePointSql level =
      String.ofList (savePointOpening d) ++ "LEVEL" ++ toString level := by
    cases d <;> rfl
  apply read_of_aboutSavePoint
  rw [htext, toList_opened, aboutSavePoint?, Chars.stripStart?_append]
  rfl

theorem read_release {d : Dialect} {level : Nat} {sql : String}
    (h : d.releaseSavePointSql? level = some sql) : read d sql = .release (levelName level) := by
  obtain ⟨opening, ho, rfl⟩ : ∃ opening, releaseOpening? d = some opening ∧
      String.ofList opening ++ "LEVEL" ++ toString level = sql := by
    cases d with
    | sqlserver => cases h
    | _ => exact ⟨_, rfl, Option.some.inj h⟩
  apply read_of_aboutSavePoint
  have hs : Chars.stripStart? (savePointOpening d) (opening ++ levelName level) = none := by
    cases d <;> cases ho <;> rfl
  rw [toList_opened, aboutSavePoint?, hs, ho, Option.bind_some, Chars.stripStart?_append]
  rfl

theorem read_rollbackTo (d : Dialect) (level : Nat) :
    read d (d.rollbackToSavePointSql level) = .rollbackTo (levelName level) := by
  have htext : d.rollbackToSavePointSql level =
      String.ofList (rollbackToOpening d) ++ "LEVEL" ++ toString level := by
    cases d <;> rfl
  apply read_of_aboutSavePoint
  -- no product's words for going back to a savepoint begin with its words for another statement
  have hs : Chars.stripStart? (savePointOpening d) (rollbackToOpening d ++ levelName level) =
      none := by
    cases d <;> rfl
  have hr : ((releaseOpening? d).bind fun opening =>
      Chars.stripStart? opening (rollbackToOpening d ++ levelName level)) = none := by
    cases d <;> rfl
  rw [htext, toList_opened, aboutSavePoint?, hs, hr, Chars.stripStart?_append]
  rfl

end ServerCommand

/-- A server with its data, the data at the start of the open transaction, and the savepoints with
the data at each, the newest first. -/
structure Server (σ : Type) where
  data : σ
  opened : Option σ := none
  savePoints : List (List Char × σ) := []

namespace Server

variable {σ : Type}

/-- The newest savepoint of a name, and those under it. -/
def find? (name : List Char) : List (List Char × σ) → Option (σ × List (List Char × σ))
  | [] => none
  | (other, data) :: below => if other = name then some (data, below) else find? name below

/-- The server after a statement, unless it refuses: inside a transaction it opens none, outside it
ends none and sets no savepoint, and a savepoint has to be there to be released or restored. -/
def obey? (d : Dialect) (perform : RecordedStatement → σ → σ) (s : RecordedStatement)
    (server : Server σ) : Option (Server σ) :=
  match ServerCommand.read d s.sql, server.opened with
  | .begin, none => some { data := server.data, opened := some server.data }
  | .commit, some _ => some { data := server.data }
  | .rollback, some start => some { data := start }
  | .savePoint name, some _ =>
    some { server with savePoints := (name, server.data) :: server.savePoints }
  | .release name, some _ => do
    let (_, below) ← find? name server.savePoints
    return { server with savePoints := below }
  | .rollbackTo name, some _ => do
    let (data, below) ← find? name server.savePoints
    return { server with data, savePoints := (name, data) :: below }
  | .data, _ => some { server with data := perform s server.data }
  | _, _ => none

/-- The server after statements of which it refuses none. -/
def obeyAll? (d : Dialect) (perform : RecordedStatement → σ → σ) :
    List RecordedStatement → Server σ → Option (Server σ)
  | [], server => some server
  | s :: rest, server => (server.obey? d perform s).bind (obeyAll? d perform rest)

theorem obeyAll?_append {d : Dialect} {perform : RecordedStatement → σ → σ}
    {xs ys : List RecordedStatement} {first second : Server σ}
    (h : obeyAll? d perform xs first = some second) :
    obeyAll? d perform (xs ++ ys) first = obeyAll? d perform ys second := by
  induction xs generalizing first with
  | nil =>
    cases Option.some.inj h
    rfl
  | cons s xs ih =>
    obtain ⟨next, hn, hh⟩ := Option.bind_eq_some_iff.mp h
    simp only [List.cons_append, obeyAll?, hn, Option.bind_some]
    exact ih hh

end Server

end PortableSql

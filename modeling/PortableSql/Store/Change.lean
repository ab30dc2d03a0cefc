import PortableSql.Store.Reference

namespace PortableSql.Store

/-- What happens to a row: it goes, or the cells at some positions become null. -/
inductive Change where
  | remove
  | blank (positions : List Nat)
deriving DecidableEq

namespace Change

def touches (c : Change) (positions : List Nat) : Bool :=
  match c with
  | remove => true
  | blank changed => positions.any changed.contains

def action (c : Change) (k : ForeignKey) : ReferentialAction :=
  match c with
  | remove => k.onDelete
  | blank _ => k.onUpdate

/-- The change of a referring row that follows the change of the row it refers to. -/
def cascade (c : Change) (r : Reference) : Change :=
  match c with
  | remove => remove
  | blank changed =>
    blank ((r.pairs.filter fun (there, _) => changed.contains there).map (·.2))

/-- Whether a change of rows of the parent changes a column that a key names. -/
def reaches (c : Change) (parent : StoredTable) (k : ForeignKey) : Bool :=
  match c with
  | remove => true
  | blank changed => changed.any fun p =>
    k.targetColumns.any (sameIgnoringCase (parent.columnName p))

/-- The change of the rows of the referring table that an action makes. -/
def following? (c : Change) (k : ForeignKey) : Option Change :=
  match c, c.action k with
  | _, .restrict | _, .noAction => none
  | remove, .cascade => some remove
  | _, _ => some (blank k.columns)

end Change

/-- The action of a key that follows the removal or the blanking of rows of its parent. -/
structure KeyAction where
  child : String
  key : ForeignKey
  onRemoval : Bool
deriving DecidableEq

namespace Data

def keyFaults (d : Data) (s : Schema) (keys : List (StoredTable × ForeignKey)) : List Fault :=
  keys.filterMap fun (child, k) => k.fault? d s child

/-- What is wrong with the keys of a table and with those that refer to it, when its rows change.
Keys with an action come before the keys of the table, and these before all others. -/
def changeFault? (d : Data) (s : Schema) (t : StoredTable) (c : Change) : Option Fault :=
  let own := t.foreignKeys.filter fun k => c.touches k.columns || sameIgnoringCase k.target t.name
  let referring := d.referring s t
  let reached := referring.filter fun (_, k) => c.reaches t k
  let acting := reached.filter fun (_, k) => c.action k != .noAction
  (d.keyFaults s acting).getLast? <|> (d.keyFaults s (own.map (t, ·))).head? <|>
    (d.keyFaults s reached).head? <|> (d.keyFaults s referring).getLast?

/-- What is wrong further on, with the tables that actions change, each action looked at once. -/
def actionFault? (d : Data) (s : Schema) :
    Nat → StoredTable → Change → List KeyAction → Option Fault × List KeyAction
  | 0, _, _, seen => (none, seen)
  | fuel + 1, t, c, seen =>
    let reached := (d.referring s t).filter fun (child, k) =>
      c.reaches t k && (k.fault? d s child).isNone
    reached.foldl
      (fun (found, seen) (child, k) =>
        let action : KeyAction := ⟨child.name, k, c == .remove⟩
        match found, c.following? k with
        | none, some next =>
          if seen.contains action then (none, seen)
          else
            match d.changeFault? s child next with
            | some f => (some f, seen)
            | none => actionFault? d s fuel child next (action :: seen)
        | found, _ => (found, seen))
      (none, seen)

/-- What is wrong with the tables that the removal of rows reaches by actions. A key has one action
on removal and one on blanking, so twice the number of keys bounds the depth. -/
def furtherFault? (d : Data) (s : Schema) (t : StoredTable) : Option Fault :=
  let keys := (d.tables s).foldl (fun total u => total + u.foreignKeys.length) 0
  (d.actionFault? s (2 * keys + 1) t .remove []).1

/-- Why rows of a table cannot be deleted, whether there are any or not. -/
def deletionFault? (d : Data) (s : Schema) (t : StoredTable) : Option Fault :=
  d.changeFault? s t .remove <|> d.furtherFault? s t

/-- Why a table to which keys refer cannot be dropped. Keys that do not fit the table are passed
over. -/
def dropFault? (d : Data) (s : Schema) (t : StoredTable) : Option Fault := d.furtherFault? s t

end Data

end PortableSql.Store

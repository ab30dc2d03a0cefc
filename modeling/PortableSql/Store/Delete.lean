import PortableSql.Store.Change

namespace PortableSql.Store

/-- The tables while a statement changes them, and how many rows refer to rows that it has taken
away. -/
structure Pending where
  data : Data
  broken : Nat := 0

abbrev Changing := StateT Pending (Except Fault)

namespace StoredTable

def checkBlank (t : StoredTable) (positions : List Nat) : Except Fault Unit := do
  if positions.any (t.numberColumn? == some ·) then throw .datatypeMismatch
  match positions.find? fun p => t.columns[p]?.any (·.notNull) with
  | some p => throw (.notNull t.name (t.columnName p))
  | none => return ()

def change (t : StoredTable) (number : Int) : Change → StoredTable
  | .remove => { t with rows := t.rows.filter (·.number != number) }
  | .blank positions =>
    let blanked (r : StoredRow) : StoredRow :=
      { r with values := positions.foldl (fun values p => values.set p .null) r.values }
    { t with rows := t.rows.map fun r => if r.number == number then blanked r else r }

end StoredTable

namespace Changing

/-- The references to a table that a change of one of its rows touches. -/
def touched (s : Schema) (t : StoredTable) (c : Change) :
    Changing (List (StoredTable × ForeignKey × Reference)) := do
  let d := (← get).data
  return (d.referring s t).filterMap fun (child, k) =>
    match k.resolve d s child with
    | .ok r => if c.touches (r.pairs.map (·.1)) then some (child, k, r) else none
    | .error _ => none

/-- The numbers of the rows of a table that refer to a row. -/
def referringRows (s : Schema) (child : StoredTable) (r : Reference) (row : StoredRow) :
    Changing (List Int) := do
  let rows := (((← get).data.table? s child.name).map (·.rows)).getD []
  return (rows.filter (r.matched row)).map (·.number)

/-- A row that refers to nothing no longer counts when its key goes. -/
def settle (s : Schema) (t : StoredTable) (row : StoredRow) (c : Change) : Changing Unit := do
  for k in t.foreignKeys do
    let p ← get
    if let .ok r := k.resolve p.data s t then
      if c.touches k.columns && r.isBroken row then set { p with broken := p.broken - 1 }

/-- Changes a row and then, as their keys say, the rows that refer to it. -/
def apply : Nat → Schema → String → Int → Change → Changing Unit
  | 0, _, _, _, _ => pure ()
  | fuel + 1, s, name, number, c => do
    let some t := (← get).data.table? s name | return
    let some row := t.row? number | return
    if let .blank positions := c then t.checkBlank positions
    settle s t row c
    let references ← touched s t c
    for (child, _, r) in references do
      let others := (← referringRows s child r row).filter fun n => child.name != t.name || n != number
      modify fun p => { p with broken := p.broken + others.length }
    modify fun p => { p with data := p.data.put s (t.change number c) }
    for (child, k, r) in references do
      let rows ← referringRows s child r row
      match c.action k with
      | .noAction => pure ()
      | .restrict => unless rows.isEmpty do throw .restricted
      | .cascade => rows.forM fun n => apply fuel s child.name n (c.cascade r)
      | .setNull => rows.forM fun n => apply fuel s child.name n (.blank k.columns)

/-- Removes all rows of a table and counts those that were still there when their turn came. -/
def clear (s : Schema) (t : StoredTable) : Changing Nat := do
  let d := (← get).data
  let cells (u : StoredTable) : Nat := u.rows.length * (u.columns.length + 1)
  let fuel := (d.tables s).foldl (fun total u => total + cells u) 1
  let mut removed := 0
  for row in t.rows do
    if (((← get).data.table? s t.name).bind (·.row? row.number)).isSome then
      removed := removed + 1
      apply fuel s t.name row.number .remove
  if (← get).broken != 0 then throw .foreignKey
  return removed

end Changing

namespace Data

/-- Removes all rows of a table. -/
def delete (d : Data) (enforcing : Bool) (name : ObjectName) : Except Fault (Nat × Data) := do
  let (s, t) ← d.find name
  if enforcing then
    if let some f := d.deletionFault? s t then throw f
    let (removed, p) ← (Changing.clear s t).run { data := d }
    return (removed, p.data)
  else return (t.rows.length, d.put s { t with rows := [] })

/-- Removes a table. Where keys are enforced and refer to it, its rows go first. -/
def dropTable (d : Data) (enforcing : Bool) (name : ObjectName) : Except Fault Data := do
  let (s, t) ← d.find name
  if enforcing && !(d.referring s t).isEmpty then
    if let some f := d.dropFault? s t then throw f
    let (_, p) ← (Changing.clear s t).run { data := d }
    return p.data.remove s t
  else return d.remove s t

end Data

end PortableSql.Store

import PortableSql.Store.Data

namespace PortableSql.Store

/-- A foreign key with the table it refers to, and the pairs of positions there and here that must
hold the same. -/
structure Reference where
  parent : StoredTable
  pairs : List (Nat × Nat)

namespace Reference

/-- The key of a row of the referring table, as the columns of the parent keep it. -/
def wanted (r : Reference) (child : StoredRow) : List Value :=
  r.pairs.map fun (there, here) => (r.parent.affinity there).apply (child.value here)

/-- Whether two rows, of the parent and of the referring table, belong together. -/
def matched (r : Reference) (parent child : StoredRow) : Bool :=
  sameKey (parent.key (r.pairs.map (·.1))) (r.wanted child)

/-- Whether the key of the row is whole and no row has it. -/
def isBroken (r : Reference) (child : StoredRow) : Bool :=
  !(child.key (r.pairs.map (·.2))).contains .null &&
    !r.parent.rows.any fun parent => r.matched parent child

end Reference

namespace ForeignKey

/-- The positions in the parent of the columns that the key refers to, each with the position here,
in the order of the columns of a unique index of the parent. -/
def pairs? (k : ForeignKey) (parent : StoredTable) : Option (List (Nat × Nat)) :=
  let here? (there : Nat) : Option (Nat × Nat) :=
    let name := parent.columnName there
    let found := (k.targetColumns.zip k.columns).find? fun (target, _) =>
      sameIgnoringCase target name
    found.map fun (_, here) => (there, here)
  let numbered :=
    match parent.numberColumn?, k.targetColumns with
    | some there, [_] => (here? there).map ([·])
    | _, _ => none
  let indexed (i : StoredIndex) : Option (List (Nat × Nat)) :=
    if i.isUnique && i.columns.length == k.columns.length then
      i.columns.mapM fun column => column.bind here?
    else none
  numbered <|> parent.indexes.findSome? indexed

/-- Finds what the key of a table refers to, in the schema of the table. -/
def resolve (k : ForeignKey) (d : Data) (s : Schema) (child : StoredTable) :
    Except Fault Reference :=
  match d.table? s k.target with
  | none => .error (.noTable s!"{s.name}.{k.target}")
  | some parent =>
    match k.pairs? parent with
    | none =>
      let doubled (name : String) : String := String.ofList (Chars.double '"' name.toList)
      .error (.referenceMismatch (doubled child.name) (doubled k.target))
    | some pairs => .ok ⟨parent, pairs⟩

def fault? (k : ForeignKey) (d : Data) (s : Schema) (child : StoredTable) : Option Fault :=
  match k.resolve d s child with
  | .ok _ => none
  | .error f => some f

end ForeignKey

/-- The keys of all tables that refer to a table, the newest first. -/
def Data.referring (d : Data) (s : Schema) (t : StoredTable) :
    List (StoredTable × ForeignKey) :=
  (d.tables s).reverse.flatMap fun child =>
    (child.foreignKeys.filter fun k => sameIgnoringCase k.target t.name).map (child, ·)

end PortableSql.Store

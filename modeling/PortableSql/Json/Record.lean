import PortableSql.Json.Basic

namespace PortableSql.Json

/-- The fields of a record: an object, or an array that gives them in order and may leave out those
after the first `required`. -/
def record? (names : List String) (required : Nat) : Json → Option (SortedMap Json)
  | .obj fields => some fields
  | .arr items =>
    if required ≤ items.length ∧ items.length ≤ names.length then
      some (SortedMap.ofList (names.zip items))
    else none
  | _ => none

/-- Reads a value, where reading may fail. -/
abbrev Reader (α : Type) := Json → Option α

def readString : Reader String := str?

def readBool : Reader Bool
  | .bool b => some b
  | _ => none

def readUInt32 : Reader UInt32
  | .int n => if 0 ≤ n ∧ n < 0x100000000 then some (UInt32.ofNat n.toNat) else none
  | _ => none

def readAny : Reader Json := some

/-- Null stands for no value. -/
def readOption {α : Type} (read : Reader α) : Reader (Option α)
  | .null => some none
  | value => (read value).map some

def readList {α : Type} (read : Reader α) : Reader (List α)
  | .arr items => items.mapM read
  | _ => none

def readMap {α : Type} (read : Reader α) : Reader (SortedMap α)
  | .obj fields => fields.mapM fun (name, value) => (read value).map (name, ·)
  | _ => none

/-- One of several names; an object with that name as its only field and null as its value is
another spelling. -/
def readName {α : Type} (ofName? : String → Option α) : Reader α
  | .str s => ofName? s
  | .obj [(name, .null)] => ofName? name
  | _ => none

def required {α : Type} (read : Reader α) (name : String) (fields : SortedMap Json) : Option α :=
  (fields.find? name).bind read

def defaulted {α : Type} (read : Reader α) (fallback : α) (name : String)
    (fields : SortedMap Json) : Option α :=
  match fields.find? name with
  | some value => read value
  | none => some fallback

/-- A field that may be missing or null. -/
def optional {α : Type} (read : Reader α) (name : String) (fields : SortedMap Json) :
    Option (Option α) :=
  defaulted (readOption read) none name fields

end PortableSql.Json

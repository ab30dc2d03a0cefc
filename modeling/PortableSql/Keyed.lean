namespace PortableSql.Keyed

variable {α : Type} (key : α → String)

/-- Takes the place of the first entry with the same key, or else goes to the end. -/
def put (x : α) : List α → List α
  | [] => [x]
  | y :: ys => if key y = key x then x :: ys else y :: put x ys

def find? (k : String) : List α → Option α
  | [] => none
  | x :: xs => if key x = k then some x else find? k xs

def has (k : String) (xs : List α) : Bool := (find? key k xs).isSome

def erase (k : String) (xs : List α) : List α := xs.filter fun x => key x != k

end PortableSql.Keyed

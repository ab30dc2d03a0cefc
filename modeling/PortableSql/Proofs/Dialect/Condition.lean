import PortableSql.Number.Numeral
import PortableSql.Proofs.Text.Chars

namespace PortableSql

/-- A truth value of SQL. -/
inductive Truth where
  | false
  | unknown
  | true
deriving DecidableEq, Repr

namespace Truth

protected def and : Truth → Truth → Truth
  | false, _ | _, false => false
  | true, true => true
  | _, _ => unknown

protected def or : Truth → Truth → Truth
  | true, _ | _, true => true
  | false, false => false
  | _, _ => unknown

section

variable {β : Type} (equal : β → β → Bool)

/-- A comparison with NULL is unknown. -/
def ofEqual : Option β → Option β → Truth
  | some left, some right => if equal left right then true else false
  | _, _ => unknown

/-- Rows differ where two of their fields do, whatever the other fields are. -/
def ofRows (left right : List (Option β)) : Truth :=
  let fields := List.zipWith (ofEqual equal) left right
  if false ∈ fields then false else if unknown ∈ fields then unknown else true

/-- Whether a row is equal to one of some rows. -/
def isIn (row : List (Option β)) (rows : List (List (Option β))) : Truth :=
  let found := rows.map (ofRows equal row)
  if true ∈ found then true else if unknown ∈ found then unknown else false

end

theorem foldr_and (truths : List Truth) : truths.foldr Truth.and true =
    if false ∈ truths then false else if unknown ∈ truths then unknown else true := by
  induction truths with
  | nil => rfl
  | cons first others ih =>
    rw [List.foldr_cons, ih]
    by_cases hfalse : false ∈ others <;> by_cases hunknown : unknown ∈ others <;>
      cases first <;> simp [Truth.and, hfalse, hunknown]

theorem foldr_or (truths : List Truth) : truths.foldr Truth.or false =
    if true ∈ truths then true else if unknown ∈ truths then unknown else false := by
  induction truths with
  | nil => rfl
  | cons first others ih =>
    rw [List.foldr_cons, ih]
    by_cases htrue : true ∈ others <;> by_cases hunknown : unknown ∈ others <;>
      cases first <;> simp [Truth.or, htrue, hunknown]

theorem and_eq_true_iff {s t : Truth} : s.and t = true ↔ s = true ∧ t = true := by
  cases s <;> cases t <;> simp [Truth.and]

theorem or_eq_true_iff {s t : Truth} : s.or t = true ↔ s = true ∨ t = true := by
  cases s <;> cases t <;> simp [Truth.or]

theorem foldr_and_eq_true_iff {truths : List Truth} :
    truths.foldr Truth.and true = true ↔ ∀ t ∈ truths, t = true := by
  induction truths with
  | nil => simp
  | cons first others ih => rw [List.foldr_cons, and_eq_true_iff, ih, List.forall_mem_cons]

section

variable {β : Type} {equal : β → β → Bool}

theorem ofEqual_comm (hsymm : ∀ x y, equal x y = equal y x) (left right : Option β) :
    ofEqual equal left right = ofEqual equal right left := by
  cases left <;> cases right <;> simp [ofEqual, hsymm]

theorem ofRows_eq_true_iff {left right : List (Option β)} :
    ofRows equal left right = true ↔ ∀ t ∈ List.zipWith (ofEqual equal) left right, t = true := by
  rw [ofRows, ← foldr_and, foldr_and_eq_true_iff]

theorem isIn_eq_true_iff {row : List (Option β)} {rows : List (List (Option β))} :
    isIn equal row rows = true ↔ ∃ other ∈ rows, ofRows equal row other = true := by
  rw [isIn]
  split
  next hfound => simpa using hfound
  next hmissing =>
    have hnone : ¬∃ other ∈ rows, ofRows equal row other = true := by simpa using hmissing
    refine iff_of_false ?_ hnone
    split <;> exact Truth.noConfusion

end

end Truth

/-- A text of SQL with places for fragments. -/
abbrev Template (α : Type) := List (Char ⊕ α)

namespace Template

variable {α : Type}

def ofText (text : String) : Template α := text.toList.map .inl

/-- The text with the fragments in their places. -/
def fill (name : α → String) (t : Template α) : String :=
  String.ofList (t.flatMap (Sum.elim ([·]) fun a => (name a).toList))

end Template

/-- What a reader of a condition sees of it. -/
inductive Lexeme (α : Type) where
  | symbol (text : String)
  | operand (fragment : α)

namespace Lexeme

variable {α : Type}

def extend (c : Char) : List (Lexeme α) → List (Lexeme α)
  | symbol word :: others => symbol (c.toString ++ word) :: others
  | others => symbol c.toString :: others

/-- Items in parentheses with a symbol between them. -/
def enclosed (between : String) (items : List (List (Lexeme α))) : List (Lexeme α) :=
  symbol "(" :: ([symbol between].intercalate items ++ [symbol ")"])

end Lexeme

namespace Template

variable {α : Type}

def beginsWord : Template α → Bool
  | .inl c :: _ => c.isAlphanum
  | _ => false

/-- Letters and digits that follow each other are one symbol. Blanks only separate. -/
def lexemes : Template α → List (Lexeme α)
  | [] => []
  | .inr fragment :: rest => .operand fragment :: lexemes rest
  | .inl c :: rest =>
    if c = ' ' then lexemes rest
    else if c.isAlphanum && beginsWord rest then Lexeme.extend c (lexemes rest)
    else .symbol c.toString :: lexemes rest

end Template

namespace Condition

/-- Takes something from the front of a condition. -/
abbrev Reader (α A : Type) := List (Lexeme α) → Option (A × List (Lexeme α))

variable {α A : Type}

def fragment : Reader α α
  | .operand a :: rest => some (a, rest)
  | _ => none

/-- What stands in parentheses. -/
def enclosed (inside : Reader α A) : Reader α A
  | .symbol "(" :: text =>
    match inside text with
    | some (a, .symbol ")" :: rest) => some (a, rest)
    | _ => none
  | _ => none

/-- One thing, or several with a symbol between them; at most as many as the number says. -/
def listed (symbol : String) (item : Reader α A) : Nat → Reader α (List A)
  | 0, _ => none
  | number + 1, text =>
    (item text).bind fun (a, rest) =>
      match rest with
      | .symbol next :: more =>
        if next = symbol then
          (listed symbol item number more).map fun (others, rest) => (a :: others, rest)
        else some ([a], rest)
      | _ => some ([a], rest)

def separated (symbol : String) (item : Reader α A) : Reader α (List A) :=
  fun text => listed symbol item (text.length + 1) text

def row : Reader α (List α) := enclosed (separated "," fragment)

section

variable {β : Type} (value : α → Option β) (equal : β → β → Bool)

def conjunction (factor : Reader α Truth) : Reader α Truth := fun text =>
  (separated "AND" factor text).map fun (truths, rest) => (truths.foldr Truth.and .true, rest)

def disjunction (factor : Reader α Truth) : Reader α Truth := fun text =>
  (separated "OR" (conjunction factor) text).map fun (truths, rest) =>
    (truths.foldr Truth.or .false, rest)

/-- A row that is looked for among rows of its width. -/
def membership : Reader α Truth := fun text =>
  match row text with
  | some (left, .symbol "IN" :: text) =>
    (enclosed (separated "," row) text).bind fun (rows, rest) =>
      if ∀ right ∈ rows, right.length = left.length then
        some (.isIn equal (left.map value) (rows.map (·.map value)), rest)
      else none
  | _ => none

/-- Fragments or numerals that are compared, a row that is looked for, or a condition in
parentheses; these are nested at most as deep as the number says. -/
def factor : Nat → Reader α Truth
  | 0, _ => none
  | _ + 1, .operand left :: .symbol "=" :: .operand right :: rest =>
    some (.ofEqual equal (value left) (value right), rest)
  | _ + 1, .symbol left :: .symbol "=" :: .symbol right :: rest =>
    (Numeral.natural? left.toList).bind fun m => (Numeral.natural? right.toList).map fun n =>
      (if m = n then .true else .false, rest)
  | depth + 1, text =>
    (membership value equal text).or (enclosed (disjunction (factor depth)) text)

end

end Condition

/-- The truth of a condition, where the fragments have the given values. -/
def Template.truth? {α β : Type} (value : α → Option β) (equal : β → β → Bool) (t : Template α) :
    Option Truth :=
  match Condition.disjunction (Condition.factor value equal t.length) t.lexemes with
  | some (truth, []) => some truth
  | _ => none

namespace Template

variable {α : Type}

theorem fill_append (name : α → String) (s t : Template α) :
    fill name (s ++ t) = fill name s ++ fill name t := by
  simp [fill]

theorem fill_ofText (name : α → String) (text : String) : fill name (ofText text) = text := by
  simp [fill, ofText, List.flatMap_map]

theorem fill_intercalate (name : α → String) (sep : Template α) (items : List (Template α)) :
    fill name (sep.intercalate items) =
      String.intercalate (fill name sep) (items.map (fill name)) := by
  induction items with
  | nil => simp [fill]
  | cons first others ih =>
    cases others with
    | nil => simp
    | cons second others => simp [fill_append, ih, String.append_assoc]

theorem fill_cons_toList (name : α → String) (x : Char ⊕ α) (t : Template α) :
    (fill name (x :: t)).toList =
      Sum.elim ([·]) (fun a => (name a).toList) x ++ (fill name t).toList := by
  simp [fill]

/-- A name that is one of two letters. -/
def IsLetter (name : String) : Prop := name = "x" ∨ name = "y"

theorem inl_fill_ne_inr_fill (c : Char) (a : α) (s t : Template α) :
    ∃ name, (∀ z, IsLetter (name z)) ∧ fill name (.inl c :: s) ≠ fill name (.inr a :: t) := by
  refine ⟨fun _ => if c = 'x' then "y" else "x", fun _ => ?_, fun h => ?_⟩
  · split
    next => exact .inr rfl
    next => exact .inl rfl
  · have h := congrArg String.toList h
    rw [fill_cons_toList, fill_cons_toList] at h
    split at h <;> simp_all

/-- A template is told by its texts, also by those with letters for the fragments alone. -/
theorem fill_injective_of_letters {s t : Template α}
    (h : ∀ name, (∀ z, IsLetter (name z)) → fill name s = fill name t) : s = t := by
  classical
  induction s generalizing t with
  | nil =>
    cases t with
    | nil => rfl
    | cons y t =>
      have h := h (fun _ => "x") fun _ => .inl rfl
      cases y <;> simp [fill] at h
  | cons x s ih =>
    cases t with
    | nil =>
      have h := h (fun _ => "x") fun _ => .inl rfl
      cases x <;> simp [fill] at h
    | cons y t =>
      have hchars name hname := congrArg String.toList (h name hname)
      simp only [fill_cons_toList] at hchars
      cases x with
      | inl c =>
        cases y with
        | inl d =>
          have hd : c = d := by
            simpa using congrArg List.head? (hchars (fun _ => "x") fun _ => .inl rfl)
          subst hd
          rw [ih fun name hname =>
            String.toList_inj.mp (List.append_cancel_left (hchars name hname))]
        | inr b =>
          obtain ⟨name, hname, hne⟩ := inl_fill_ne_inr_fill c b s t
          exact absurd (h name hname) hne
      | inr a =>
        cases y with
        | inl d =>
          obtain ⟨name, hname, hne⟩ := inl_fill_ne_inr_fill d a t s
          exact absurd (h name hname).symm hne
        | inr b =>
          have hb : a = b := by
            refine Classical.byContradiction fun hne => ?_
            have hletters (z : α) : IsLetter (if z = a then "x" else "y") := by
              split
              next => exact .inl rfl
              next => exact .inr rfl
            have h := congrArg List.head? (hchars _ hletters)
            simp [Ne.symm hne] at h
          subst hb
          rw [ih fun name hname =>
            String.toList_inj.mp (List.append_cancel_left (hchars name hname))]

theorem fill_injective {s t : Template α} (h : ∀ name, fill name s = fill name t) : s = t :=
  fill_injective_of_letters fun name _ => h name

/-- Items in parentheses with a separator between them. -/
def enclosed (sep : String) (items : List (Template α)) : Template α :=
  ofText "(" ++ (ofText sep).intercalate items ++ ofText ")"

theorem fill_enclosed (name : α → String) (sep : String) (items : List (Template α)) :
    fill name (enclosed sep items) = "(" ++ String.intercalate sep (items.map (fill name)) ++ ")" := by
  rw [enclosed, fill_append, fill_append, fill_intercalate, fill_ofText, fill_ofText, fill_ofText]

theorem lexemes_ne_nil {t : Template α} (h : beginsWord t = true) : lexemes t ≠ [] := by
  match t, h with
  | .inl c :: rest, h =>
    have hc : c ≠ ' ' := by
      rintro rfl
      exact absurd (show ' '.isAlphanum = true from h) (by decide)
    rw [lexemes, if_neg hc]
    split
    · unfold Lexeme.extend
      split <;> simp
    · simp

theorem beginsWord_append (s : Template α) {t : Template α} (ht : beginsWord t = false) :
    beginsWord (s ++ t) = beginsWord s := by
  cases s with
  | nil => exact ht
  | cons x s => cases x <;> rfl

/-- What does not begin with a letter or a digit is read apart from what stands before it. -/
theorem lexemes_append (s : Template α) {t : Template α} (ht : beginsWord t = false) :
    lexemes (s ++ t) = lexemes s ++ lexemes t := by
  induction s with
  | nil => rfl
  | cons x s ih =>
    cases x with
    | inr a => simp [lexemes, ih]
    | inl c =>
      rw [List.cons_append, lexemes, lexemes, beginsWord_append s ht, ih]
      split
      · rfl
      · split
        next hword =>
          obtain ⟨first, others, hs⟩ :=
            List.exists_cons_of_ne_nil (lexemes_ne_nil (Bool.and_eq_true_iff.mp hword).2)
          rw [hs]
          cases first <;> rfl
        next => rfl

theorem beginsWord_intercalate {sep : Template α} {items : List (Template α)}
    (hsep : beginsWord sep = false) (h : ∀ t ∈ items, beginsWord t = false) :
    beginsWord (sep.intercalate items) = false := by
  induction items with
  | nil => rfl
  | cons first others ih =>
    cases others with
    | nil => simpa using h
    | cons second others =>
      have hrest := ih fun t ht => h t (List.mem_cons_of_mem _ ht)
      rw [List.intercalate_cons_cons, List.append_assoc, beginsWord_append _ (by
        rwa [beginsWord_append _ hrest])]
      exact h first List.mem_cons_self

theorem lexemes_intercalate {sep : Template α} {items : List (Template α)}
    (hsep : beginsWord sep = false) (h : ∀ t ∈ items, beginsWord t = false) :
    lexemes (sep.intercalate items) = (lexemes sep).intercalate (items.map lexemes) := by
  induction items with
  | nil => rfl
  | cons first others ih =>
    cases others with
    | nil => simp
    | cons second others =>
      have hothers : ∀ t ∈ second :: others, beginsWord t = false :=
        fun t ht => h t (List.mem_cons_of_mem _ ht)
      have hrest := beginsWord_intercalate hsep hothers
      rw [List.intercalate_cons_cons, List.append_assoc, lexemes_append _ (by
        rwa [beginsWord_append _ hrest]), lexemes_append _ hrest, ih hothers]
      simp only [List.map_cons, List.intercalate_cons_cons, List.append_assoc]

theorem lexemes_enclosed {ι : Type} {sep : String} (symbol : String) {text : ι → Template α}
    (hsep : beginsWord (α := α) (ofText sep) = false)
    (hsymbol : lexemes (α := α) (ofText sep) = [.symbol symbol])
    (htext : ∀ x, beginsWord (text x) = false) (xs : List ι) :
    lexemes (enclosed sep (xs.map text)) =
      Lexeme.enclosed symbol (xs.map fun x => lexemes (text x)) := by
  have hitems : ∀ t ∈ xs.map text, beginsWord t = false := by
    intro t ht
    obtain ⟨x, _, rfl⟩ := List.mem_map.mp ht
    exact htext x
  have hinside := beginsWord_intercalate hsep hitems
  rw [enclosed, lexemes_append _ (by rfl), lexemes_append _ hinside,
    lexemes_intercalate hsep hitems, hsymbol, List.map_map]
  rfl

end Template

namespace Condition

variable {α A ι : Type}

theorem listed_last {symbol : String} {item : Reader α A} {text rest : List (Lexeme α)} {a : A}
    (hitem : item text = some (a, rest)) (hend : ∀ more, rest ≠ .symbol symbol :: more)
    (number : Nat) : listed symbol item (number + 1) text = some ([a], rest) := by
  rw [listed, hitem]
  match rest, hend with
  | .symbol word :: more, hend =>
    have hword : word ≠ symbol := fun h => hend more (by rw [h])
    simp [hword]
  | .operand _ :: _, _ => rfl
  | [], _ => rfl

section

variable (symbol : String) {item : Reader α A} {xs : List ι} (text : ι → List (Lexeme α))
  (result : ι → A) (follows : List (Lexeme α) → Prop) (rest : List (Lexeme α))

/-- A list is read item by item where an item is read in front of what can follow it. -/
theorem listed_intercalate
    (hitem : ∀ x ∈ xs, ∀ rest, follows rest → item (text x ++ rest) = some (result x, rest))
    (hsymbol : ∀ rest, follows (.symbol symbol :: rest)) (hne : xs ≠ []) (hrest : follows rest)
    (hend : ∀ more, rest ≠ .symbol symbol :: more) {number : Nat} (hnumber : xs.length ≤ number) :
    listed symbol item number ([.symbol symbol].intercalate (xs.map text) ++ rest) =
      some (xs.map result, rest) := by
  induction xs generalizing number with
  | nil => exact absurd rfl hne
  | cons x xs ih =>
    obtain ⟨number, rfl⟩ : ∃ k, number = k + 1 := ⟨number - 1, by
      have := List.length_cons ▸ hnumber
      omega⟩
    have hx := hitem x List.mem_cons_self
    cases xs with
    | nil =>
      rw [List.map_singleton, List.intercalate_singleton]
      exact listed_last (hx rest hrest) hend number
    | cons y xs =>
      have hothers := ih (fun z hz => hitem z (List.mem_cons_of_mem _ hz)) (List.cons_ne_nil y xs)
        (Nat.le_of_succ_le_succ hnumber)
      rw [listed, List.map_cons, List.map_cons, List.intercalate_cons_cons, List.append_assoc,
        List.append_assoc, List.singleton_append, hx _ (hsymbol _), ← List.map_cons]
      simp only [Option.bind_some, if_true, hothers]
      rfl

theorem separated_intercalate
    (hitem : ∀ x ∈ xs, ∀ rest, follows rest → item (text x ++ rest) = some (result x, rest))
    (hsymbol : ∀ rest, follows (.symbol symbol :: rest)) (hne : xs ≠ []) (hrest : follows rest)
    (hend : ∀ more, rest ≠ .symbol symbol :: more) :
    separated symbol item ([.symbol symbol].intercalate (xs.map text) ++ rest) =
      some (xs.map result, rest) := by
  have hlength := Chars.length_le_intercalate (List.cons_ne_nil (.symbol symbol) []) (xs.map text)
  rw [List.length_map] at hlength
  refine listed_intercalate symbol text result follows rest hitem hsymbol hne hrest hend ?_
  rw [List.length_append]
  omega

theorem enclosed_separated
    (hitem : ∀ x ∈ xs, ∀ rest, item (text x ++ rest) = some (result x, rest)) (hne : xs ≠ [])
    (hend : symbol ≠ ")") :
    enclosed (separated symbol item) (Lexeme.enclosed symbol (xs.map text) ++ rest) =
      some (xs.map result, rest) := by
  have h := separated_intercalate symbol text result (fun _ => True) (.symbol ")" :: rest)
    (fun x hx rest _ => hitem x hx rest) (fun _ => trivial) hne trivial (by simpa using hend.symm)
  simp [Lexeme.enclosed, enclosed, h]

end

/-- The lexemes of a row of fragments. -/
def rowLexemes (fields : List α) : List (Lexeme α) :=
  Lexeme.enclosed "," (fields.map fun a => [.operand a])

theorem row_rowLexemes {fields : List α} (hne : fields ≠ []) (rest : List (Lexeme α)) :
    row (rowLexemes fields ++ rest) = some (fields, rest) := by
  have hfield : ∀ a ∈ fields, ∀ rest, fragment ([.operand a] ++ rest) = some (id a, rest) :=
    fun _ _ _ => rfl
  have h := enclosed_separated "," (fun a => [.operand a]) id rest hfield hne (by decide)
  rwa [List.map_id] at h

section

variable {β : Type} (value : α → Option β) (equal : β → β → Bool)

/-- A row that is looked for is read with the rows. -/
theorem membership_rowLexemes {left : List α} {rows : List (List α)} (hleft : left ≠ [])
    (hrows : rows ≠ []) (hwidth : ∀ right ∈ rows, right.length = left.length)
    (rest : List (Lexeme α)) :
    membership value equal
        (rowLexemes left ++ .symbol "IN" :: (Lexeme.enclosed "," (rows.map rowLexemes) ++ rest)) =
      some (.isIn equal (left.map value) (rows.map (·.map value)), rest) := by
  have hne : ∀ right ∈ rows, right ≠ [] := by
    rintro right hright rfl
    exact hleft (List.length_eq_zero_iff.mp (hwidth [] hright).symm)
  have h := enclosed_separated "," rowLexemes id rest
    (fun right hright rest => row_rowLexemes (hne right hright) rest) hrows (by decide)
  rw [List.map_id] at h
  rw [membership, row_rowLexemes hleft]
  simp only [h, Option.bind_some, if_pos hwidth]

/-- The lexemes of the equality of two fragments. -/
def equalityLexemes (pair : α × α) : List (Lexeme α) :=
  [.operand pair.1, .symbol "=", .operand pair.2]

/-- The truth of the conjunction of equalities of fragments. -/
def allEqual (pairs : List (α × α)) : Truth :=
  (pairs.map fun pair => Truth.ofEqual equal (value pair.1) (value pair.2)).foldr Truth.and .true

theorem allEqual_zip (left right : List α) :
    allEqual value equal (left.zip right) =
      Truth.ofRows equal (left.map value) (right.map value) := by
  rw [allEqual, Truth.foldr_and, Truth.ofRows, List.zipWith_map, List.zip_eq_zipWith,
    List.map_zipWith]

theorem conjunction_single {factor : Reader α Truth} {text rest : List (Lexeme α)} {truth : Truth}
    (h : factor text = some (truth, rest)) (hend : ∀ more, rest ≠ .symbol "AND" :: more) :
    conjunction factor text = some (truth, rest) := by
  have hlist : separated "AND" factor text = some ([truth], rest) := listed_last h hend _
  rw [conjunction, hlist]
  cases truth <;> rfl

theorem disjunction_single {factor : Reader α Truth} {text rest : List (Lexeme α)} {truth : Truth}
    (h : conjunction factor text = some (truth, rest)) (hend : ∀ more, rest ≠ .symbol "OR" :: more) :
    disjunction factor text = some (truth, rest) := by
  have hlist : separated "OR" (conjunction factor) text = some ([truth], rest) := listed_last h hend _
  rw [disjunction, hlist]
  cases truth <;> rfl

theorem factor_opening (depth : Nat) {next : Lexeme α} {text : List (Lexeme α)}
    (hnext : next ≠ .symbol "=") :
    factor value equal (depth + 1) (.symbol "(" :: next :: text) =
      (membership value equal (.symbol "(" :: next :: text)).or
        (enclosed (disjunction (factor value equal depth)) (.symbol "(" :: next :: text)) := by
  rw [factor]
  · rintro _ _ _ ⟨⟩
  · rintro _ _ _ ⟨⟩
    exact hnext rfl

theorem factor_enclosed {depth : Nat} {next : Lexeme α} {text rest : List (Lexeme α)} {truth : Truth}
    (hnext : next ≠ .symbol "=") (hrow : row (.symbol "(" :: next :: text) = none)
    (h : disjunction (factor value equal depth) (next :: text) = some (truth, .symbol ")" :: rest)) :
    factor value equal (depth + 1) (.symbol "(" :: next :: text) = some (truth, rest) := by
  have hmembership : membership value equal (.symbol "(" :: next :: text) = none := by
    rw [membership, hrow]
  rw [factor_opening value equal depth hnext, hmembership, Option.none_or, enclosed, h]
  rfl

/-- A row that is looked for is read as such, not as a condition in parentheses. -/
theorem factor_rowLexemes (depth : Nat) {left : List α} {rows : List (List α)} (hleft : left ≠ [])
    (hrows : rows ≠ []) (hwidth : ∀ right ∈ rows, right.length = left.length)
    (rest : List (Lexeme α)) :
    factor value equal (depth + 1)
        (rowLexemes left ++ .symbol "IN" :: (Lexeme.enclosed "," (rows.map rowLexemes) ++ rest)) =
      some (.isIn equal (left.map value) (rows.map (·.map value)), rest) := by
  have hmembership := membership_rowLexemes value equal hleft hrows hwidth rest
  obtain ⟨first, others, rfl⟩ := List.exists_cons_of_ne_nil hleft
  have hopening (text : List (Lexeme α)) : ∃ more,
      rowLexemes (first :: others) ++ text = .symbol "(" :: .operand first :: more := by
    rw [rowLexemes, Lexeme.enclosed, List.map_cons, Chars.intercalate_cons]
    exact ⟨_, rfl⟩
  obtain ⟨more, hmore⟩ := hopening (.symbol "IN" :: (Lexeme.enclosed "," (rows.map rowLexemes) ++ rest))
  rw [hmore] at hmembership ⊢
  rw [factor_opening value equal depth (by simp), hmembership, Option.some_or]

theorem factor_equality (depth : Nat) (pair : α × α) (rest : List (Lexeme α)) :
    factor value equal (depth + 1) (equalityLexemes pair ++ rest) =
      some (.ofEqual equal (value pair.1) (value pair.2), rest) := rfl

/-- A row of equalities in parentheses is read as their conjunction. -/
theorem factor_equalities (depth : Nat) {pairs : List (α × α)} (hne : pairs ≠ [])
    (rest : List (Lexeme α)) :
    factor value equal (depth + 2) (Lexeme.enclosed "AND" (pairs.map equalityLexemes) ++ rest) =
      some (allEqual value equal pairs, rest) := by
  have h := separated_intercalate "AND" equalityLexemes
    (fun pair => Truth.ofEqual equal (value pair.1) (value pair.2)) (fun _ => True)
    (.symbol ")" :: rest) (fun pair _ rest _ => factor_equality value equal depth pair rest)
    (fun _ => trivial) hne trivial (by simp)
  have hconjunction : conjunction (factor value equal (depth + 1))
      ([.symbol "AND"].intercalate (pairs.map equalityLexemes) ++ .symbol ")" :: rest) =
        some (allEqual value equal pairs, .symbol ")" :: rest) := by
    rw [conjunction, h, Option.map_some, allEqual]
  have hdisjunction := disjunction_single hconjunction (by simp)
  obtain ⟨⟨left, right⟩, others, rfl⟩ := List.exists_cons_of_ne_nil hne
  rw [List.map_cons, Chars.intercalate_cons] at hdisjunction
  rw [Lexeme.enclosed, List.map_cons, Chars.intercalate_cons, List.cons_append, List.append_assoc,
    List.singleton_append]
  exact factor_enclosed value equal (by simp) rfl hdisjunction

/-- Rows of equalities in parentheses are read as the disjunction of their conjunctions. -/
theorem factor_disjuncts (depth : Nat) {rows : List (List (α × α))} (hrows : rows ≠ [])
    (hne : ∀ pairs ∈ rows, pairs ≠ []) (rest : List (Lexeme α)) :
    factor value equal (depth + 3)
        (Lexeme.enclosed "OR" (rows.map fun pairs =>
          Lexeme.enclosed "AND" (pairs.map equalityLexemes)) ++ rest) =
      some ((rows.map (allEqual value equal)).foldr Truth.or .false, rest) := by
  have h := separated_intercalate "OR"
    (fun pairs => Lexeme.enclosed "AND" (pairs.map equalityLexemes)) (allEqual value equal)
    (fun rest => ∀ more, rest ≠ .symbol "AND" :: more) (.symbol ")" :: rest)
    (fun pairs hpairs rest hrest => conjunction_single
      (factor_equalities value equal depth (hne pairs hpairs) rest) hrest) (by simp) hrows
    (by simp) (by simp)
  have hdisjunction := congrArg
    (Option.map fun (truths, rest) => (truths.foldr Truth.or .false, rest)) h
  obtain ⟨first, others, rfl⟩ := List.exists_cons_of_ne_nil hrows
  rw [List.map_cons, Chars.intercalate_cons] at hdisjunction
  rw [Lexeme.enclosed, List.map_cons, Chars.intercalate_cons, List.cons_append, List.append_assoc,
    List.singleton_append]
  exact factor_enclosed value equal (by simp) rfl hdisjunction

end

end Condition

namespace Template

variable {α β : Type}

theorem truth?_of_factor {value : α → Option β} {equal : β → β → Bool} {t : Template α}
    {truth : Truth} (h : Condition.factor value equal t.length t.lexemes = some (truth, [])) :
    t.truth? value equal = some truth := by
  have hconjunction := Condition.conjunction_single h (by simp)
  rw [truth?, Condition.disjunction_single hconjunction (by simp)]

theorem length_le_enclosed (sep : String) (first : Template α) (others : List (Template α)) :
    first.length + 2 ≤ (enclosed sep (first :: others)).length := by
  have hparentheses (text : Template α) :
      (ofText "(" ++ text ++ ofText ")").length = text.length + 2 := by
    simp [ofText]
  rw [enclosed, hparentheses, Chars.intercalate_cons, List.length_append]
  omega

end Template

end PortableSql

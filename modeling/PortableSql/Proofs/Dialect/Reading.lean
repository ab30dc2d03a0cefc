import PortableSql.Dialect.Quoting

namespace PortableSql

/-- Where a reader of SQL stands. -/
inductive Mode where
  | outside
  /-- In a name or a text that ends with the given character. -/
  | within (close : Char)
  /-- Behind the end of a name or a text, unless the character that ends it is doubled. -/
  | ending (close : Char)
deriving DecidableEq

namespace Mode

/-- Quotes that are not closed begin a name or a text; a backslash is nothing special. -/
def enter (d : Dialect) (c : Char) : Mode :=
  if c = '\'' then within '\''
  else if c = d.startQuote then within d.endQuote
  else outside

def step (d : Dialect) : Mode → Char → Mode
  | outside, c => enter d c
  | within close, c => if c = close then ending close else within close
  | ending close, c => if c = close then within close else enter d c

def after (d : Dialect) (m : Mode) (text : List Char) : Mode := text.foldl (step d) m

/-- Whether a name or a text is not left open. -/
def Rests (d : Dialect) (m : Mode) : Prop :=
  m = outside ∨ m = ending '\'' ∨ m = ending d.endQuote

instance (d : Dialect) (m : Mode) : Decidable (m.Rests d) := inferInstanceAs (Decidable (_ ∨ _))

end Mode

/-- What the outline of a statement sees of a character. -/
inductive Mark where
  | opens
  | closes
  | comma
  | other
deriving DecidableEq

/-- A character, and whether it stands outside of quotes. -/
structure Glyph where
  char : Char
  bare : Bool
deriving DecidableEq

namespace Glyph

def mark (g : Glyph) : Mark :=
  if g.bare then
    match g.char with
    | '(' => .opens
    | ')' => .closes
    | ',' => .comma
    | _ => .other
  else .other

end Glyph

/-- Reads a text by the quoting rules of the product. -/
def glyphs (d : Dialect) : Mode → List Char → List Glyph
  | _, [] => []
  | m, c :: text => ⟨c, m.step d c = .outside⟩ :: glyphs d (m.step d c) text

def textOf (gs : List Glyph) : List Char := gs.map Glyph.char

namespace Mark

/-- The depth in parentheses behind a mark. A parenthesis that closes nothing has none, and neither
has a comma outside of parentheses where commas are forbidden there. -/
def depth? (commas : Bool) : Mark → Nat → Option Nat
  | opens, depth => some (depth + 1)
  | closes, 0 => none
  | closes, depth + 1 => some depth
  | comma, 0 => if commas then some 0 else none
  | _, depth => some depth

/-- Where no depth is lost, neither is one further inside. -/
theorem depth?_add {commas outer : Bool} {m : Mark} {depth next base : Nat}
    (h : m.depth? commas depth = some next) (hcommas : commas = true → outer = true ∨ base ≠ 0) :
    m.depth? outer (depth + base) = some (next + base) := by
  cases m with
  | opens =>
    obtain rfl : depth + 1 = next := Option.some.inj h
    rw [depth?, Nat.add_right_comm]
  | closes =>
    cases depth with
    | zero => cases h
    | succ depth =>
      obtain rfl : depth = next := Option.some.inj h
      rw [Nat.add_right_comm]
      rfl
  | comma =>
    cases depth with
    | zero =>
      obtain ⟨hc, rfl⟩ : commas = true ∧ 0 = next := by simpa [depth?] using h
      cases base with
      | zero => simp [depth?, (hcommas hc).resolve_right (· rfl)]
      | succ base => simp [depth?]
    | succ depth =>
      obtain rfl : depth + 1 = next := Option.some.inj h
      rw [Nat.add_right_comm]
      rfl
  | other =>
    obtain rfl : depth = next := Option.some.inj h
    rfl

end Mark

/-- The depth in parentheses behind a text, from a depth on. -/
def depth? (commas : Bool) (depth : Nat) (gs : List Glyph) : Option Nat :=
  gs.foldlM (fun depth g => g.mark.depth? commas depth) depth

/-- What stands before and behind the parenthesis that closes nothing before it. -/
def cutClosing : Nat → List Glyph → Option (List Glyph × List Glyph)
  | _, [] => none
  | depth, g :: gs =>
    match g.mark.depth? true depth with
    | none => some ([], gs)
    | some next => (cutClosing next gs).map fun (inside, behind) => (g :: inside, behind)

/-- What stands before, in and behind the first parentheses. -/
def enclosed? : List Glyph → Option (List Glyph × List Glyph × List Glyph)
  | [] => none
  | g :: gs =>
    if g.mark = .opens then (cutClosing 0 gs).map fun (inside, behind) => ([], inside, behind)
    else (enclosed? gs).map fun (before, inside, behind) => (g :: before, inside, behind)

/-- Puts a text in front of the first piece. -/
def extendPiece (gs : List Glyph) : List (List Glyph) → List (List Glyph)
  | [] => [gs]
  | piece :: pieces => (gs ++ piece) :: pieces

/-- The pieces between the commas that are in no parentheses. -/
def splitTop : Nat → List Glyph → List (List Glyph)
  | _, [] => [[]]
  | depth, g :: gs =>
    match g.mark.depth? false depth with
    | none => [] :: splitTop 0 gs
    | some next => extendPiece [g] (splitTop next gs)

section

variable {commas : Bool} {depth next : Nat} {g : Glyph} {gs rest : List Glyph}

theorem depth?_cons :
    depth? commas depth (g :: gs) = (g.mark.depth? commas depth).bind (depth? commas · gs) :=
  List.foldlM_cons

theorem depth?_append :
    depth? commas depth (gs ++ rest) = (depth? commas depth gs).bind (depth? commas · rest) :=
  List.foldlM_append

theorem depth?_add {outer : Bool} {base : Nat} (h : depth? commas depth gs = some next)
    (hcommas : commas = true → outer = true ∨ base ≠ 0) :
    depth? outer (depth + base) gs = some (next + base) := by
  induction gs generalizing depth with
  | nil =>
    obtain rfl : depth = next := Option.some.inj h
    rfl
  | cons g gs ih =>
    rw [depth?_cons] at h ⊢
    obtain ⟨behind, hmark, hrest⟩ := Option.bind_eq_some_iff.mp h
    rw [Mark.depth?_add hmark hcommas]
    exact ih hrest

theorem depth?_of_other (h : ∀ g ∈ gs, g.mark = .other) : depth? commas depth gs = some depth := by
  induction gs with
  | nil => rfl
  | cons g gs ih =>
    have hmark : g.mark.depth? commas depth = some depth := by
      rw [h g List.mem_cons_self]
      rfl
    rw [depth?_cons, hmark]
    exact ih fun g hg => h g (List.mem_cons_of_mem _ hg)

/-- The parenthesis that closes is not in what nests before it. -/
theorem cutClosing_append (h : depth? true depth gs = some 0) (hg : g.mark = .closes)
    (rest : List Glyph) : cutClosing depth (gs ++ g :: rest) = some (gs, rest) := by
  induction gs generalizing depth with
  | nil =>
    obtain rfl : depth = 0 := Option.some.inj h
    rw [List.nil_append, cutClosing, hg]
    rfl
  | cons x gs ih =>
    rw [depth?_cons] at h
    obtain ⟨behind, hmark, hrest⟩ := Option.bind_eq_some_iff.mp h
    rw [List.cons_append, cutClosing, hmark]
    simp only [ih hrest, Option.map_some]

theorem enclosed?_append (h : ∀ x ∈ gs, x.mark = .other) {first last : Glyph}
    (hfirst : first.mark = .opens) (hlast : last.mark = .closes) {inside : List Glyph}
    (hinside : depth? true 0 inside = some 0) :
    enclosed? (gs ++ first :: (inside ++ last :: rest)) = some (gs, inside, rest) := by
  induction gs with
  | nil =>
    rw [List.nil_append, enclosed?, if_pos hfirst, cutClosing_append hinside hlast]
    rfl
  | cons x gs ih =>
    have hx : x.mark ≠ .opens := by simp [h x List.mem_cons_self]
    rw [List.cons_append, enclosed?, if_neg hx, ih fun x hx => h x (List.mem_cons_of_mem _ hx)]
    rfl

theorem extendPiece_append (gs rest : List Glyph) (pieces : List (List Glyph)) :
    extendPiece (gs ++ rest) pieces = extendPiece gs (extendPiece rest pieces) := by
  cases pieces with
  | nil => rfl
  | cons piece pieces => simp [extendPiece]

theorem splitTop_ne_nil (depth : Nat) (gs : List Glyph) : splitTop depth gs ≠ [] := by
  cases gs with
  | nil => exact List.cons_ne_nil _ _
  | cons g gs =>
    unfold splitTop
    split
    next => exact List.cons_ne_nil _ _
    next next _ =>
      cases splitTop next gs with
      | nil => exact List.cons_ne_nil _ _
      | cons piece pieces => exact List.cons_ne_nil _ _

/-- What has no comma of its own goes to the front of the first piece. -/
theorem splitTop_append (h : depth? false depth gs = some next) (rest : List Glyph) :
    splitTop depth (gs ++ rest) = extendPiece gs (splitTop next rest) := by
  induction gs generalizing depth with
  | nil =>
    obtain rfl : depth = next := Option.some.inj h
    obtain ⟨piece, pieces, hpieces⟩ := List.exists_cons_of_ne_nil (splitTop_ne_nil depth rest)
    simp [extendPiece, hpieces]
  | cons g gs ih =>
    rw [depth?_cons] at h
    obtain ⟨behind, hmark, hrest⟩ := Option.bind_eq_some_iff.mp h
    rw [List.cons_append, splitTop, hmark]
    simp only [ih hrest]
    rw [← extendPiece_append, List.singleton_append]

end

/-- The characters that begin or end a name or a text of some product. -/
def quoteMarks : List Char := ['\'', '\x60', '"', '[', ']']

/-- The characters that are not read on their own. -/
def structureMarks : List Char := quoteMarks ++ ['(', ')', ',']

section

variable {d : Dialect} {m : Mode} {c : Char} {a b : List Char}

theorem enter_of_not_mem (h : c ∉ quoteMarks) : Mode.enter d c = .outside := by
  have hquote : c ≠ '\'' := fun hc => h (by simp [quoteMarks, hc])
  have hstart : c ≠ d.startQuote := by
    rintro rfl
    exact h (by cases d <;> decide)
  rw [Mode.enter, if_neg hquote, if_neg hstart]

/-- Behind a name or a text everything but a quote is read from outside. -/
theorem Mode.Rests.step (hm : m.Rests d) (h : c ∉ quoteMarks) : m.step d c = .outside := by
  have hquote : c ≠ '\'' := fun hc => h (by simp [quoteMarks, hc])
  have hend : c ≠ d.endQuote := by
    rintro rfl
    exact h (by cases d <;> decide)
  rcases hm with rfl | rfl | rfl
  · exact enter_of_not_mem h
  · rw [Mode.step, if_neg hquote, enter_of_not_mem h]
  · rw [Mode.step, if_neg hend, enter_of_not_mem h]

theorem after_append (m : Mode) (a b : List Char) :
    Mode.after d m (a ++ b) = Mode.after d (Mode.after d m a) b := List.foldl_append

theorem glyphs_append (m : Mode) (a b : List Char) :
    glyphs d m (a ++ b) = glyphs d m a ++ glyphs d (Mode.after d m a) b := by
  induction a generalizing m with
  | nil => rfl
  | cons c a ih =>
    rw [List.cons_append, glyphs, glyphs, ih, List.cons_append]
    rfl

theorem textOf_glyphs (m : Mode) (a : List Char) : textOf (glyphs d m a) = a := by
  induction a generalizing m with
  | nil => rfl
  | cons c a ih =>
    rw [glyphs, textOf, List.map_cons]
    exact congrArg (c :: ·) (ih _)

theorem after_separated (ha : (Mode.after d .outside a).Rests d) (h : c ∉ quoteMarks) :
    Mode.after d .outside (a ++ c :: b) = Mode.after d .outside b := by
  rw [after_append, Mode.after, List.foldl_cons, ha.step h]
  rfl

theorem glyphs_separated (ha : (Mode.after d .outside a).Rests d) (h : c ∉ quoteMarks) :
    glyphs d .outside (a ++ c :: b) =
      glyphs d .outside a ++ ⟨c, true⟩ :: glyphs d .outside b := by
  rw [glyphs_append, glyphs, ha.step h]
  rfl

/-- A text that leaves no name and no text open, and outside of these has allowed characters
only. -/
structure Shows (d : Dialect) (allowed : Char → Prop) (text : List Char) : Prop where
  rests : (Mode.after d .outside text).Rests d
  shown : ∀ g ∈ glyphs d .outside text, g.bare = true → allowed g.char

/-- A text that leaves no name and no text open, and outside of these has no parenthesis and no
comma. -/
def Flat (d : Dialect) : List Char → Prop := Shows d (· ∉ ['(', ')', ','])

/-- A text that leaves nothing open. Commas outside of parentheses may be forbidden. -/
structure Clause (d : Dialect) (commas : Bool) (text : List Char) : Prop where
  rests : (Mode.after d .outside text).Rests d
  nests : depth? commas 0 (glyphs d .outside text) = some 0

instance (d : Dialect) (commas : Bool) (text : List Char) : Decidable (Clause d commas text) :=
  decidable_of_iff ((Mode.after d .outside text).Rests d ∧
      depth? commas 0 (glyphs d .outside text) = some 0)
    ⟨fun h => ⟨h.1, h.2⟩, fun h => ⟨h.1, h.2⟩⟩

theorem mark_of_not_mem {g : Glyph} (h : g.bare = true → g.char ∉ ['(', ')', ',']) :
    g.mark = .other := by
  unfold Glyph.mark
  split
  next hbare =>
    have hchar := h hbare
    split
    next hc => exact absurd (by simp [hc]) hchar
    next hc => exact absurd (by simp [hc]) hchar
    next hc => exact absurd (by simp [hc]) hchar
    next => rfl
  next => rfl

theorem Flat.other (h : Flat d a) : ∀ g ∈ glyphs d .outside a, g.mark = .other :=
  fun g hg => mark_of_not_mem (h.shown g hg)

theorem Flat.clause {commas : Bool} (h : Flat d a) : Clause d commas a :=
  ⟨h.rests, depth?_of_other h.other⟩

section

variable {allowed : Char → Prop}

theorem shows_nil : Shows d allowed [] := ⟨.inl rfl, by simp [glyphs]⟩

theorem Shows.separated (ha : Shows d allowed a) (hb : Shows d allowed b) (hquote : c ∉ quoteMarks)
    (hc : allowed c) : Shows d allowed (a ++ c :: b) := by
  refine ⟨?_, ?_⟩
  · rw [after_separated ha.rests hquote]
    exact hb.rests
  · rw [glyphs_separated ha.rests hquote]
    intro g hg
    rcases List.mem_append.mp hg with hg | hg
    · exact ha.shown g hg
    · rcases List.mem_cons.mp hg with rfl | hg
      · exact fun _ => hc
      · exact hb.shown g hg

theorem shows_of_forall (h : ∀ c ∈ a, c ∉ quoteMarks ∧ allowed c) : Shows d allowed a := by
  induction a with
  | nil => exact shows_nil
  | cons c a ih =>
    obtain ⟨hquote, hc⟩ := h c List.mem_cons_self
    exact shows_nil.separated (ih fun x hx => h x (List.mem_cons_of_mem _ hx)) hquote hc

end

theorem flat_nil : Flat d [] := shows_nil

theorem Flat.separated (ha : Flat d a) (hb : Flat d b) (hc : c ∉ structureMarks) :
    Flat d (a ++ c :: b) :=
  Shows.separated ha hb (fun h => hc (List.mem_append_left _ h))
    fun h => hc (List.mem_append_right _ h)

theorem flat_of_forall (h : ∀ c ∈ a, c ∉ structureMarks) : Flat d a :=
  shows_of_forall fun c hc =>
    ⟨fun hm => h c hc (List.mem_append_left _ hm), fun hm => h c hc (List.mem_append_right _ hm)⟩

theorem Clause.separated {commas : Bool} (ha : Clause d commas a) (hb : Clause d commas b)
    (hquote : c ∉ quoteMarks)
    (hc : (Glyph.mark ⟨c, true⟩).depth? commas 0 = some 0) : Clause d commas (a ++ c :: b) := by
  refine ⟨?_, ?_⟩
  · rw [after_separated ha.rests hquote]
    exact hb.rests
  · rw [glyphs_separated ha.rests hquote, depth?_append, ha.nests, Option.bind_some, depth?_cons,
      hc]
    exact hb.nests

/-- Parentheses around a text in which commas are allowed. -/
theorem Clause.group {commas : Bool} (ha : Clause d commas a) (hb : Clause d true b) :
    Clause d commas (a ++ '(' :: (b ++ [')'])) := by
  have hopen : '(' ∉ quoteMarks := by decide
  have hclose : ')' ∉ quoteMarks := by decide
  refine ⟨?_, ?_⟩
  · rw [after_separated ha.rests hopen, after_separated hb.rests hclose]
    exact .inl rfl
  · have hinside : depth? commas (0 + 1) (glyphs d .outside b) = some (0 + 1) :=
      depth?_add hb.nests fun _ => .inr (by decide)
    rw [glyphs_separated ha.rests hopen, glyphs_separated hb.rests hclose, depth?_append, ha.nests,
      Option.bind_some, depth?_cons]
    change depth? commas (0 + 1) (_ ++ _) = _
    rw [depth?_append, hinside]
    rfl

/-- Inside of quotes nothing that is doubled ends them. -/
theorem read_double (close : Char) (text : List Char) :
    Mode.after d (.within close) (Chars.double close text) = .within close ∧
      ∀ g ∈ glyphs d (.within close) (Chars.double close text), g.bare = false := by
  induction text with
  | nil => exact ⟨rfl, by simp [Chars.double, glyphs]⟩
  | cons c text ih =>
    obtain ⟨hafter, hglyphs⟩ := ih
    by_cases hc : c = close
    · have hfirst : Mode.step d (.within close) close = .ending close := if_pos rfl
      have hsecond : Mode.step d (.ending close) close = .within close := if_pos rfl
      rw [Chars.double, if_pos hc]
      refine ⟨?_, ?_⟩
      · rwa [Mode.after, List.foldl_cons, hfirst, List.foldl_cons, hsecond]
      · rw [glyphs, glyphs, hfirst, hsecond]
        intro g hg
        rcases List.mem_cons.mp hg with rfl | hg
        · rfl
        · rcases List.mem_cons.mp hg with rfl | hg
          · rfl
          · exact hglyphs g hg
    · have hstep : Mode.step d (.within close) c = .within close := if_neg hc
      rw [Chars.double, if_neg hc]
      refine ⟨?_, ?_⟩
      · rwa [Mode.after, List.foldl_cons, hstep]
      · rw [glyphs, hstep]
        intro g hg
        rcases List.mem_cons.mp hg with rfl | hg
        · rfl
        · exact hglyphs g hg

/-- A name or a text in quotes, whatever is in it. -/
theorem shows_quoted {allowed : Char → Prop} {first close : Char}
    (h : Mode.enter d first = .within close) (hclose : (Mode.ending close).Rests d)
    (text : List Char) : Shows d allowed (first :: Chars.double close text ++ [close]) := by
  obtain ⟨hafter, hglyphs⟩ := read_double (d := d) close text
  have hfirst : Mode.step d .outside first = .within close := h
  have hlast : Mode.step d (.within close) close = .ending close := if_pos rfl
  refine ⟨?_, ?_⟩
  · rw [List.cons_append, Mode.after, List.foldl_cons, hfirst]
    change (Mode.after d (.within close) (Chars.double close text ++ [close])).Rests d
    rw [after_append, hafter]
    change (Mode.step d (.within close) close).Rests d
    rwa [hlast]
  · have hquoted : ∀ g ∈ glyphs d .outside (first :: Chars.double close text ++ [close]),
        g.bare = false := by
      rw [List.cons_append, glyphs, hfirst, glyphs_append, hafter]
      intro g hg
      rcases List.mem_cons.mp hg with rfl | hg
      · rfl
      · rcases List.mem_append.mp hg with hg | hg
        · exact hglyphs g hg
        · obtain rfl := List.mem_singleton.mp hg
          rw [hlast]
          rfl
    intro g hg hbare
    exact absurd ((hquoted g hg).symm.trans hbare) Bool.false_ne_true

end

end PortableSql

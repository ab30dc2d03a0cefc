import Mathlib.Data.List.Basic
import PortableSql.Proofs.Text.Chars
import PortableSql.Proofs.Url.Percent
import PortableSql.Url.Basic

namespace PortableSql.Url

open Percent

variable {text path : List Char} {segments : List (List Char)}

/-- A segment of a path, which moves to no other place. -/
structure IsSegment (segment : List Char) : Prop where
  chars : ∀ c ∈ segment, inPath c = false ∧ c ≠ '/'
  stays : isDot segment = false ∧ isDoubleDot segment = false

/-- The path of a URL whose scheme gives hosts no meaning, with or without an authority in front of
it. -/
inductive IsPath : Bool → List Char → Prop
  | empty (hasAuthority : Bool) : IsPath hasAuthority []
  | segments (hasAuthority : Bool) {segments : List (List Char)} (hne : segments ≠ [])
    (h : ∀ segment ∈ segments, IsSegment segment) :
    IsPath hasAuthority (segments.flatMap ('/' :: ·))
  | whole {text : List Char} (hchars : ∀ c ∈ text, isControl c = false ∧ c ≠ '?' ∧ c ≠ '#')
    (hhead : text.head? ≠ some '/') : IsPath false text

theorem isSegment_nil : IsSegment [] :=
  ⟨fun _ hc => absurd hc List.not_mem_nil, by decide⟩

theorem flatMap_slash (hne : segments ≠ []) :
    segments.flatMap ('/' :: ·) = '/' :: ['/'].intercalate segments := by
  obtain ⟨first, others, rfl⟩ := List.exists_cons_of_ne_nil hne
  rw [Chars.intercalate_cons, List.flatMap_cons, List.flatMap_def, List.cons_append]
  rfl

/-- Segments that stay are kept in their order. -/
theorem resolveDots_eq (hne : segments ≠ [])
    (h : ∀ segment ∈ segments, isDot segment = false ∧ isDoubleDot segment = false)
    (kept : List (List Char)) : resolveDots kept segments = kept.reverse ++ segments := by
  induction segments generalizing kept with
  | nil => exact absurd rfl hne
  | cons first others ih =>
    obtain ⟨⟨hdot, hdouble⟩, hothers⟩ := List.forall_mem_cons.mp h
    cases others with
    | nil => simp [resolveDots, hdot, hdouble]
    | cons second others =>
      rw [resolveDots, if_neg (by simp [hdouble]), if_neg (by simp [hdot]),
        ih (List.cons_ne_nil _ _) hothers]
      · simp
      · exact fun heq => List.cons_ne_nil _ _ heq

theorem mem_of_mem_climb {kept : List (List Char)} {segment : List Char}
    (h : segment ∈ climb kept) : segment ∈ kept := by
  cases kept with
  | nil => exact h
  | cons last kept =>
    rw [climb] at h
    split at h
    next => exact h
    next => exact List.mem_cons_of_mem last h

/-- Dots never lead to what was not there. -/
theorem isSegment_resolveDots {kept : List (List Char)}
    (hkept : ∀ segment ∈ kept, IsSegment segment)
    (h : ∀ segment ∈ segments, ∀ c ∈ segment, inPath c = false ∧ c ≠ '/') :
    ∀ segment ∈ resolveDots kept segments, IsSegment segment := by
  have hclimb {kept : List (List Char)} (hkept : ∀ segment ∈ kept, IsSegment segment) :
      ∀ segment ∈ climb kept, IsSegment segment := fun s hs => hkept s (mem_of_mem_climb hs)
  have hreverse {kept : List (List Char)} {last : List Char}
      (hkept : ∀ segment ∈ kept, IsSegment segment) (hlast : IsSegment last) :
      ∀ segment ∈ (last :: kept).reverse, IsSegment segment := fun s hs =>
    List.forall_mem_cons.mpr ⟨hlast, hkept⟩ s (List.mem_reverse.mp hs)
  fun_induction resolveDots kept segments with
  | case1 kept => exact fun s hs => hkept s (List.mem_reverse.mp hs)
  | case2 kept last hdouble => exact hreverse (hclimb hkept) isSegment_nil
  | case3 kept last hdouble hdot => exact hreverse hkept isSegment_nil
  | case4 kept last hdouble hdot =>
    refine hreverse hkept ⟨h last List.mem_cons_self, ?_⟩
    simpa using And.intro hdot hdouble
  | case5 kept first others hothers hdouble ih =>
    exact ih (hclimb hkept) fun s hs => h s (List.mem_cons_of_mem _ hs)
  | case6 kept first others hothers hdouble hdot ih =>
    exact ih hkept fun s hs => h s (List.mem_cons_of_mem _ hs)
  | case7 kept first others hothers hdouble hdot ih =>
    refine ih (List.forall_mem_cons.mpr ⟨⟨h first List.mem_cons_self, ?_⟩, hkept⟩)
      fun s hs => h s (List.mem_cons_of_mem _ hs)
    simpa using And.intro hdot hdouble

theorem resolveDots_ne_nil (hne : segments ≠ []) (kept : List (List Char)) :
    resolveDots kept segments ≠ [] := by
  fun_induction resolveDots kept segments with
  | case1 => exact absurd rfl hne
  | case2 | case3 | case4 => simp
  | case5 _ _ _ hothers _ ih | case6 _ _ _ hothers _ _ ih | case7 _ _ _ hothers _ _ ih =>
    exact ih hothers

theorem hierarchicalPath_other (text : List Char) :
    hierarchicalPath .other text =
      (resolveDots [] ((Chars.splitOn '/' text).map (encode inPath))).flatMap ('/' :: ·) := by
  have hmap : text.map (fun c => if isSlash .other c then '/' else c) = text := by
    refine (List.map_congr_left fun c _ => ?_).trans (List.map_id' _)
    split
    next hslash =>
      simp only [isSlash, Bool.or_eq_true, beq_iff_eq, bne_self_eq_false, Bool.and_false,
        Bool.false_eq_true, or_false] at hslash
      exact hslash.symm
    next => rfl
  rw [hierarchicalPath, hmap]

theorem isPath_hierarchicalPath (hasAuthority : Bool) (text : List Char) :
    IsPath hasAuthority (hierarchicalPath .other text) := by
  rw [hierarchicalPath_other]
  have hne : (Chars.splitOn '/' text).map (encode inPath) ≠ [] := by
    simpa using Chars.splitOn_ne_nil '/' text
  refine .segments hasAuthority (resolveDots_ne_nil hne []) (isSegment_resolveDots
    (fun _ hs => absurd hs List.not_mem_nil) fun segment hsegment c hc => ?_)
  obtain ⟨piece, hpiece, rfl⟩ := List.mem_map.mp hsegment
  rcases mem_encode hc with ⟨hmem, hclear⟩ | hescape
  · exact ⟨hclear, (Chars.mem_of_mem_splitOn hpiece c hmem).2⟩
  · have hescapes : ∀ x ∈ escapeChars, inPath x = false ∧ x ≠ '/' := by decide
    exact hescapes c hescape

theorem splitOn_segments (hne : segments ≠ []) (h : ∀ segment ∈ segments, IsSegment segment) :
    (Chars.splitOn '/' (['/'].intercalate segments)).map (encode inPath) = segments := by
  rw [Chars.splitOn_intercalate hne fun s hs hmem => ((h s hs).chars '/' hmem).2 rfl]
  refine (List.map_congr_left fun s hs => ?_).trans (List.map_id' _)
  exact encode_eq_self fun c hc => ((h s hs).chars c hc).1

/-- Segments are read back from the path they make. -/
theorem hierarchicalPath_segments (hne : segments ≠ [])
    (h : ∀ segment ∈ segments, IsSegment segment) :
    hierarchicalPath .other (['/'].intercalate segments) = segments.flatMap ('/' :: ·) := by
  rw [hierarchicalPath_other, splitOn_segments hne h,
    resolveDots_eq hne (fun s hs => (h s hs).stays), List.reverse_nil, List.nil_append]

/-- A dot in front of the segments leaves no trace. -/
theorem hierarchicalPath_dot (hne : segments ≠ [])
    (h : ∀ segment ∈ segments, IsSegment segment) :
    hierarchicalPath .other ('.' :: segments.flatMap ('/' :: ·)) =
      segments.flatMap ('/' :: ·) := by
  have hsplit : Chars.splitOn '/' ('.' :: '/' :: ['/'].intercalate segments) =
      ['.'] :: Chars.splitOn '/' (['/'].intercalate segments) :=
    Chars.splitOn_append (show '/' ∉ ['.'] by decide) _
  have hdot : resolveDots [] (['.'] :: segments) = resolveDots [] segments := by
    rw [resolveDots]
    · rfl
    · exact hne
  rw [hierarchicalPath_other, flatMap_slash hne, hsplit, List.map_cons, splitOn_segments hne h,
    encode_eq_self (by decide), hdot,
    resolveDots_eq hne (fun s hs => (h s hs).stays), List.reverse_nil, List.nil_append,
    flatMap_slash hne]

theorem isPath_readPath (hasAuthority : Bool) (h : ∀ c ∈ text, c ≠ '?' ∧ c ≠ '#') :
    IsPath hasAuthority (readPath .other hasAuthority text) := by
  cases text with
  | nil => exact .empty hasAuthority
  | cons c rest =>
    unfold readPath
    dsimp only
    split
    next => exact isPath_hierarchicalPath hasAuthority rest
    next hslash =>
      split
      next => exact isPath_hierarchicalPath hasAuthority (c :: rest)
      next hnone =>
        rw [Bool.not_eq_true] at hnone
        subst hnone
        refine .whole (fun x hx => ?_) ?_
        · rcases mem_encode hx with ⟨hmem, hclear⟩ | hescape
          · exact ⟨hclear, h x hmem⟩
          · have hescapes : ∀ x ∈ escapeChars, isControl x = false ∧ x ≠ '?' ∧ x ≠ '#' := by decide
            exact hescapes x hescape
        · rw [head?_encode]
          split
          · decide
          · exact fun heq => hslash (by rw [Option.some.inj heq]; rfl)

theorem readPath_path {hasAuthority : Bool} (h : IsPath hasAuthority path) :
    readPath .other hasAuthority path = path := by
  cases h with
  | empty => rfl
  | segments _ hne h =>
    rw [flatMap_slash hne, readPath, if_pos (by decide), hierarchicalPath_segments hne h,
      flatMap_slash hne]
  | whole hchars hhead =>
    cases path with
    | nil => rfl
    | cons c rest =>
      have hslash : ¬ isSlash .other c = true := by
        rw [List.head?_cons, ne_eq, Option.some.injEq] at hhead
        simpa [isSlash] using hhead
      unfold readPath
      dsimp only
      rw [if_neg hslash, if_neg Bool.false_ne_true, encode_eq_self fun x hx => (hchars x hx).1]

variable {hasAuthority : Bool}

/-- A path of segments is read back behind a slash and a dot. -/
theorem readPath_dot (h : IsPath hasAuthority path) (hslash : path.head? = some '/') :
    readPath .other hasAuthority ('/' :: '.' :: path) = path := by
  cases h with
  | empty => cases hslash
  | segments _ hne h => rw [readPath, if_pos (by decide), hierarchicalPath_dot hne h]
  | whole _ hhead => exact absurd hslash hhead

/-- The characters of a path, none of which ends it. -/
theorem IsPath.mem (h : IsPath hasAuthority path) {c : Char} (hc : c ∈ path) :
    isControl c = false ∧ c ≠ '?' ∧ c ≠ '#' := by
  cases h with
  | empty => cases hc
  | segments _ hne h =>
    have hencoded (x : Char) (hx : inPath x = false) : isControl x = false ∧ x ≠ '?' ∧ x ≠ '#' := by
      refine ⟨(Bool.or_eq_false_iff.mp (Bool.or_eq_false_iff.mp hx).1).1, ?_, ?_⟩
      all_goals
        rintro rfl
        exact absurd hx (by decide)
    obtain ⟨segment, hsegment, hc⟩ := List.mem_flatMap.mp hc
    rcases List.mem_cons.mp hc with rfl | hc
    · exact hencoded '/' (by decide)
    · exact hencoded c ((h segment hsegment).chars c hc).1
  | whole hchars => exact hchars c hc

/-- A path of segments shows all of its characters. -/
theorem IsPath.graphic (h : IsPath hasAuthority path)
    (hslash : hasAuthority = true ∨ path.head? = some '/') : ∀ c ∈ path, IsGraphic c := by
  intro c hc
  cases h with
  | empty => cases hc
  | segments _ hne h =>
    obtain ⟨segment, hsegment, hc⟩ := List.mem_flatMap.mp hc
    rcases List.mem_cons.mp hc with rfl | hc
    · exact isGraphic_of_not_inPath (by decide)
    · exact isGraphic_of_not_inPath ((h segment hsegment).chars c hc).1
  | whole _ hhead => exact absurd (hslash.resolve_left Bool.false_ne_true) hhead

theorem IsPath.head?_eq (h : IsPath true path) : ∀ c ∈ path.head?, c = '/' := by
  cases h with
  | empty => exact fun _ hc => absurd hc (Option.not_mem_none _)
  | segments _ hne h =>
    rw [flatMap_slash hne]
    exact fun _ hc => (Option.some.inj hc).symm

theorem getLast?_of_graphic (h : ∀ c ∈ text, IsGraphic c) : text.getLast? ≠ some ' ' := fun hlast =>
  absurd (h ' ' (List.mem_of_getLast? hlast)).1 (by decide)

/-- A path ends in a space only where its text does. -/
theorem getLast?_readPath (h : text.getLast? ≠ some ' ') :
    (readPath .other hasAuthority text).getLast? ≠ some ' ' := by
  have hhierarchical (rest : List Char) : (hierarchicalPath .other rest).getLast? ≠ some ' ' :=
    getLast?_of_graphic ((isPath_hierarchicalPath true rest).graphic (.inl rfl))
  cases text with
  | nil => exact h
  | cons c rest =>
    unfold readPath
    dsimp only
    split
    next => exact hhierarchical rest
    next =>
      split
      next => exact hhierarchical (c :: rest)
      next =>
        refine fun hlast => (getLast?_encode hlast).elim (fun hescape => ?_) h
        exact absurd hescape (by decide)

end PortableSql.Url

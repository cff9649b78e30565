import Bracework.Expression.Printer
import Bracework.Expression.Reader
import Bracework.Proofs.Expression.Rules

/-!
# Written paths

A path that has been read is the current context alone, or steps: perhaps the outermost context,
then some enclosing contexts, and then segments that are named one by one. The characters of its
written form are taken one after the other, and none is refused.
-/

namespace Bracework

/-! ### Characters -/

variable {character : Char}

/-- A character of a name is none that does not belong to names. -/
theorem nameChar_ne {special : Char} (name : isNameChar character)
    (mark : isNameChar special = false) : character ≠ special := by
  rintro rfl
  rw [mark] at name
  cases name

/-- A character of a name has no other part to play. -/
theorem nameChar_plain (name : isNameChar character) :
    isOperatorChar character = false ∧ isBlank character = false ∧
      endsArgument character = false ∧ PathDraft.separatesNames character = false ∧
      isQuote character = false ∧ character ≠ '(' := by
  have outside {inClass : Char → Bool} (marks : List Char)
      (members : inClass character = true → character ∈ marks)
      (special : (marks.all fun mark => !isNameChar mark) = true) : inClass character = false :=
    Bool.eq_false_iff.2 fun inside =>
      nameChar_ne name (by simpa using List.all_eq_true.1 special _ (members inside)) rfl
  refine ⟨outside "+-*/^%<>=!&|".toList ?_ (by decide), outside " \t\r\n".toList ?_ (by decide),
    outside ",.)".toList ?_ (by decide), outside "./~".toList ?_ (by decide),
    outside "'\"".toList ?_ (by decide), nameChar_ne name (by decide)⟩
  · simp [isOperatorChar, or_assoc]
  · simp [isBlank, or_assoc]
  · simp [endsArgument, or_assoc]
  · simp [PathDraft.separatesNames, or_assoc]
  · simp [isQuote]

/-- A name is no text whose characters do not all belong to names. -/
theorem ne_of_chars {name : Text} (chars : name.all isNameChar) (mark : Text)
    (notName : mark.all isNameChar = false) : name ≠ mark := by
  rintro rfl
  rw [notName] at chars
  cases chars

/-- A character of a path is no blank. -/
theorem pathChar_not_blank (isChar : isPathChar character = true) : isBlank character = false := by
  simp only [isPathChar, Bool.or_eq_true, beq_iff_eq] at isChar
  rcases isChar with ((((name | rfl) | rfl) | rfl) | rfl) | rfl
  · exact (nameChar_plain name).2.1
  all_goals decide

namespace Segment

/-! ### The paths that are read -/

/-- The outermost context. -/
def outermost : Segment := ⟨"~", .root⟩

/-- The enclosing context, written as a step up. -/
def enclosing : Segment := ⟨"..", .parent⟩

/-- A segment that is named between two dots: a member, or one of the two selectors. -/
inductive IsNamed : Segment → Prop
  | member {name : Text} (nonempty : name ≠ []) (chars : name.all isNameChar) :
      IsNamed ⟨name, .data⟩
  | enclosing : IsNamed ⟨"$", .parent⟩
  | current : IsNamed ⟨"?", .current⟩

/-- The paths that are read. -/
inductive IsPath : List Segment → Prop
  | current : IsPath [⟨".", .current⟩]
  | steps {root named : List Segment} (isRoot : root = [] ∨ root = [outermost]) (count : Nat)
      (areNamed : ∀ segment ∈ named, segment.IsNamed)
      (nonempty : root ++ List.replicate count Segment.enclosing ++ named ≠ []) :
      IsPath (root ++ List.replicate count Segment.enclosing ++ named)

/-- The outermost context and then an enclosing one, between which the written form has no dot. -/
def LosesDot : List Segment → Prop
  | first :: second :: _ => first = outermost ∧ second = Segment.enclosing
  | _ => False

variable {segment : Segment} {segments named : List Segment}

/-- The name of a named segment. -/
theorem IsNamed.name_plain (isNamed : segment.IsNamed) :
    segment.name ≠ [] ∧ segment.name ≠ "~" ∧ segment.name ≠ ".." ∧
      ∀ character ∈ segment.name, PathDraft.separatesNames character = false := by
  cases isNamed with
  | member nonempty chars =>
    have plain := List.all_eq_true.1 chars
    exact ⟨nonempty, ne_of_chars chars "~" (by decide), ne_of_chars chars ".." (by decide),
      fun character member => (nameChar_plain (plain _ member)).2.2.2.1⟩
  | enclosing => exact ⟨by decide, by decide, by decide, List.forall_mem_singleton.2 rfl⟩
  | current => exact ⟨by decide, by decide, by decide, List.forall_mem_singleton.2 rfl⟩

/-- A dot stands behind a named segment. -/
theorem separatorAfter_named (isNamed : segment.IsNamed) :
    separatorAfter segment.name = ['.'] := by
  obtain ⟨-, notRoot, notParent, -⟩ := isNamed.name_plain
  rw [separatorAfter, if_neg notRoot, if_neg notParent]
  rfl

/-- Named segments are written with dots between them, and cut at the dots into their names. -/
theorem splitOn_renderAll (areNamed : ∀ segment ∈ named, segment.IsNamed) (nonempty : named ≠ []) :
    List.splitOn '.' (renderAll named) = named.map Segment.name := by
  have dotless {segment : Segment} (isNamed : segment.IsNamed) : '.' ∉ segment.name := by
    intro member
    have plain := isNamed.name_plain.2.2.2 '.' member
    cases plain
  induction named with
  | nil => exact absurd rfl nonempty
  | cons first rest induction =>
    obtain ⟨here, later⟩ := List.forall_mem_cons.1 areNamed
    cases rest with
    | nil =>
      rw [renderAll, renderAfter, List.append_nil]
      exact List.splitOn_eq_singleton (dotless here)
    | cons second others =>
      have whole : renderAll (first :: second :: others) =
          first.name ++ '.' :: renderAll (second :: others) := by
        rw [renderAll, renderAfter, separatorAfter_named here]
        rfl
      rw [whole, List.splitOn_append_cons_self, List.splitOn_eq_singleton (dotless here),
        induction later (List.cons_ne_nil _ _)]
      rfl

/-- Named segments are written as something that begins with no dot, no slash and no `~`. -/
theorem renderAll_head (areNamed : ∀ segment ∈ named, segment.IsNamed) :
    ∀ first ∈ (renderAll named).head?, PathDraft.separatesNames first = false := by
  cases named with
  | nil => simp [renderAll]
  | cons segment rest =>
    intro first found
    obtain ⟨nonempty, -, -, plain⟩ := (areNamed segment (List.mem_cons_self ..)).name_plain
    obtain ⟨character, others, shape⟩ := List.exists_cons_of_ne_nil nonempty
    have same : character = first := by
      rw [renderAll, shape] at found
      exact Option.some.inj found
    rw [← same]
    exact plain character (shape ▸ List.mem_cons_self ..)

/-- No dot stands at the start of what is written of named segments. -/
theorem renderAll_dotless (areNamed : ∀ segment ∈ named, segment.IsNamed) :
    ∀ first ∈ (renderAll named).head?, first ≠ '.' := by
  rintro first found rfl
  cases renderAll_head areNamed '.' found

end Segment

namespace PathDraft

open Segment

/-- A draft takes a text when each of its characters belongs to the path and none is refused. -/
def Takes : PathDraft → Text → Prop
  | _, [] => True
  | draft, character :: rest =>
    (Grammar.continuesPath draft character = true ∧ isPathChar character = true ∧
      draft.refusal? character = none) ∧ Takes ⟨draft.written ++ [character]⟩ rest

variable {draft : PathDraft} {text : Text} {segment : Segment} {segments : List Segment}

/-- A text is taken part by part. -/
theorem takes_append (first second : Text) : draft.Takes (first ++ second) ↔
    draft.Takes first ∧ (⟨draft.written ++ first⟩ : PathDraft).Takes second := by
  induction first generalizing draft with
  | nil => simp [Takes]
  | cons character rest induction =>
    have moved : draft.written ++ [character] ++ rest = draft.written ++ character :: rest := by
      simp
    rw [List.cons_append, Takes, Takes, induction, moved]
    exact and_assoc.symm

/-- Only characters of paths are taken. -/
theorem Takes.chars (takes : draft.Takes text) :
    ∀ character ∈ text, isPathChar character = true := by
  induction text generalizing draft with
  | nil => simp
  | cons first rest induction =>
    obtain ⟨⟨-, isChar, -⟩, later⟩ := takes
    exact List.forall_mem_cons.2 ⟨isChar, induction later⟩

/-- A text that is taken leaves what follows it to the draft with the text. -/
theorem Takes.readDraft (takes : draft.Takes text) (rest : Text) :
    Grammar.readDraft draft (text ++ rest) = Grammar.readDraft ⟨draft.written ++ text⟩ rest := by
  induction text generalizing draft with
  | nil => rw [List.append_nil]; rfl
  | cons character text induction =>
    obtain ⟨⟨continues, isChar, accepted⟩, later⟩ := takes
    have pushed : draft.push character = .ok ⟨draft.written ++ [character]⟩ := by
      rw [push, accepted]
    rw [List.cons_append, Grammar.readDraft, if_pos continues, if_pos isChar, pushed]
    dsimp only
    rw [induction later, List.append_assoc]
    rfl

/-- A text that is taken is taken as a whole. -/
theorem Takes.takePath (takes : draft.Takes text) :
    Expression.takePath draft text = .ok ⟨draft.written ++ text⟩ := by
  induction text generalizing draft with
  | nil => rw [List.append_nil]; rfl
  | cons character text induction =>
    obtain ⟨⟨-, isChar, accepted⟩, later⟩ := takes
    have pushed : draft.push character = .ok ⟨draft.written ++ [character]⟩ := by
      rw [push, accepted]
    rw [Expression.takePath, isChar, pushed]
    dsimp only
    rw [induction later, List.append_assoc]
    rfl

/-- A dot is always taken. -/
theorem takes_dot (draft : PathDraft) : draft.Takes ['.'] := by
  have notName : isNameChar '.' = false := by decide
  refine ⟨⟨?_, by decide, ?_⟩, trivial⟩
  · simp [Grammar.continuesPath]
  · simp [refusal?, notName]

/-- A slash is taken behind `..`. -/
theorem takes_slash (before : Text) : (⟨before ++ ".."⟩ : PathDraft).Takes ['/'] := by
  have accepts : (⟨before ++ ".."⟩ : PathDraft).acceptsSlash = true :=
    List.isSuffixOf_iff_suffix.2 (List.suffix_append _ _)
  have notName : isNameChar '/' = false := by decide
  refine ⟨⟨?_, by decide, ?_⟩, trivial⟩
  · simp only [Grammar.continuesPath, if_pos, accepts]
  · simp only [refusal?, accepts, notName]
    simp

/-- Behind anything but a selector, characters of a name are taken. -/
theorem takes_name (chars : text.all isNameChar) (free : draft.endsInSelector = false) :
    draft.Takes text := by
  induction text generalizing draft with
  | nil => trivial
  | cons character rest induction =>
    obtain ⟨name, names⟩ : isNameChar character = true ∧ rest.all isNameChar = true := by
      simpa using chars
    obtain ⟨operator, blank, ends, -, -, opening⟩ := nameChar_plain name
    have notSlash : character ≠ '/' := nameChar_ne name (by decide)
    have notRoot : character ≠ '~' := nameChar_ne name (by decide)
    have notDollar : character ≠ '$' := nameChar_ne name (by decide)
    have notQuestion : character ≠ '?' := nameChar_ne name (by decide)
    refine ⟨⟨?_, ?_, ?_⟩, induction names ?_⟩
    · simp [Grammar.continuesPath, notSlash, operator, blank, ends, opening]
    · simp [isPathChar, name]
    · simp [refusal?, notRoot, notSlash, notDollar, notQuestion, free]
    · simp [endsInSelector, notDollar, notQuestion]

/-- A draft that ends where a segment may begin ends in no selector. -/
theorem endsInSelector_of_start (start : draft.atSegmentStart = true) :
    draft.endsInSelector = false := by
  unfold atSegmentStart at start
  unfold endsInSelector
  split
  · rfl
  · rename_i last found
    rw [found] at start
    simp only [Bool.or_eq_true, beq_iff_eq] at start
    rcases start with (rfl | rfl) | rfl <;> decide

/-- Where a segment may begin, a selector is taken. -/
theorem takes_selector {mark : Char} (isSelector : mark = '$' ∨ mark = '?')
    (start : draft.atSegmentStart = true) : draft.Takes [mark] := by
  rcases isSelector with rfl | rfl
  · have plain : isOperatorChar '$' = false ∧ isBlank '$' = false ∧ endsArgument '$' = false ∧
        isNameChar '$' = false := by decide
    exact ⟨⟨by simp [Grammar.continuesPath, plain], by decide, by simp [refusal?, start, plain]⟩,
      trivial⟩
  · have plain : isOperatorChar '?' = false ∧ isBlank '?' = false ∧ endsArgument '?' = false ∧
        isNameChar '?' = false := by decide
    exact ⟨⟨by simp [Grammar.continuesPath, plain], by decide, by simp [refusal?, start, plain]⟩,
      trivial⟩

/-- A segment that is not the first of a path: a named one or a step up. -/
def IsStep (segment : Segment) : Prop := segment.IsNamed ∨ segment = Segment.enclosing

/-- Where a segment may begin, the name of a segment is taken. -/
theorem takes_step (start : draft.atSegmentStart = true) (isStep : IsStep segment) :
    draft.Takes segment.name := by
  rcases isStep with isNamed | rfl
  · cases isNamed with
    | member nonempty chars => exact takes_name chars (endsInSelector_of_start start)
    | enclosing => exact takes_selector (Or.inl rfl) start
    | current => exact takes_selector (Or.inr rfl) start
  · exact (takes_append ['.'] ['.']).2 ⟨takes_dot draft, takes_dot _⟩

/-- Behind a character that separates names, a segment may begin. -/
theorem atSegmentStart_behind (mark : Char) (separates : separatesNames mark = true)
    (before : Text) : (⟨before ++ [mark]⟩ : PathDraft).atSegmentStart = true := by
  unfold atSegmentStart
  rw [List.getLast?_append]
  exact separates

/-- Behind a segment, its separator is taken, and then a segment may begin. -/
theorem takes_separator (before previous : Text) :
    (⟨before ++ previous⟩ : PathDraft).Takes (separatorAfter previous) ∧
      (⟨before ++ previous ++ separatorAfter previous⟩ : PathDraft).atSegmentStart = true := by
  unfold separatorAfter
  split
  · rename_i root
    rw [root, List.append_nil]
    exact ⟨trivial, atSegmentStart_behind '~' rfl before⟩
  · split
    · rename_i parent
      rw [parent]
      exact ⟨takes_slash before, atSegmentStart_behind '/' rfl _⟩
    · exact ⟨takes_dot _, atSegmentStart_behind '.' rfl _⟩

/-- Behind a segment, the segments after it are taken with their separators. -/
theorem takes_renderAfter (before previous : Text)
    (steps : ∀ segment ∈ segments, IsStep segment) :
    (⟨before ++ previous⟩ : PathDraft).Takes (renderAfter previous segments) := by
  induction segments generalizing before previous with
  | nil => trivial
  | cons segment rest induction =>
    obtain ⟨here, later⟩ := List.forall_mem_cons.1 steps
    obtain ⟨separator, start⟩ := takes_separator before previous
    rw [renderAfter, List.append_assoc, takes_append, takes_append]
    exact ⟨separator, takes_step start here, induction _ segment.name later⟩

/-- The written form of a path is taken. -/
theorem takes_renderAll (isPath : IsPath segments) : empty.Takes (renderAll segments) := by
  have steps {first : Segment} {rest : List Segment} (isFirst : first = outermost ∨ IsStep first)
      (areSteps : ∀ segment ∈ rest, IsStep segment) : empty.Takes (renderAll (first :: rest)) := by
    have head : empty.Takes first.name := by
      rcases isFirst with rfl | isStep
      · exact ⟨by decide, trivial⟩
      · exact takes_step rfl isStep
    exact (takes_append _ _).2 ⟨head, takes_renderAfter [] first.name areSteps⟩
  cases isPath with
  | current => exact takes_dot empty
  | @steps root named isRoot count areNamed nonempty =>
    have areSteps :
        ∀ segment ∈ List.replicate count Segment.enclosing ++ named, IsStep segment := by
      intro segment member
      rcases List.mem_append.1 member with up | isNamed
      · exact Or.inr (List.eq_of_mem_replicate up)
      · exact Or.inl (areNamed segment isNamed)
    rw [List.append_assoc] at nonempty ⊢
    rcases isRoot with rfl | rfl
    · obtain ⟨first, rest, shape⟩ := List.exists_cons_of_ne_nil nonempty
      rw [List.nil_append] at shape ⊢
      rw [shape] at areSteps ⊢
      obtain ⟨here, later⟩ := List.forall_mem_cons.1 areSteps
      exact steps (Or.inr here) later
    · exact steps (Or.inl rfl) areSteps

end PathDraft

end Bracework

import Bracework.Proofs.Expression.WrittenPath

/-!
# Spellings of a path

A path may be spelled in more than one way: a dot may stand behind `~` or before the first name,
and a slash behind the last `..`. A path is read exactly when it is spelled in one of these ways.

The written form is a spelling, with one exception. The dot that is left out behind `~` is missed
when an enclosing context comes next: `~...` is the enclosing context of the outermost one, and is
written `~..`, which is no path.

No spelling is much longer than the written form. It follows that a written path with a dot behind
it, and anything that begins an operand behind the dot, is not read as this path.
-/

namespace Bracework.PathDraft

open Segment

variable {path part text rest slash : Text} {segment : Segment} {root segments named : List Segment}
  {count : Nat}

/-- What may stand in front of the steps up of a path: nothing, or the outermost context. A dot may
stand there too, in front of the first name or behind `~`; where a step up comes next it stands
behind `~` only, and has to. -/
inductive Leads : Text → List Segment → Nat → Prop
  | nothing (count : Nat) : Leads [] [] count
  | dot : Leads ['.'] [] 0
  | root : Leads ['~'] [outermost] 0
  | rootDot (count : Nat) : Leads ['~', '.'] [outermost] count

/-- What may stand behind the last segment of a path: nothing, or a slash when this is a step up. -/
inductive Trails : Text → Nat → List Segment → Prop
  | nothing (count : Nat) (named : List Segment) : Trails [] count named
  | slash (count : Nat) : Trails ['/'] (count + 1) []

/-- The ways to spell a path. But for what leads and what trails, this is its written form. -/
inductive Spells : Text → List Segment → Prop
  | current : Spells ['.'] [⟨".", .current⟩]
  | steps {lead slash : Text} {root named : List Segment} {count : Nat}
      (leads : Leads lead root count) (trails : Trails slash count named)
      (areNamed : ∀ segment ∈ named, segment.IsNamed)
      (nonempty : root ++ List.replicate count Segment.enclosing ++ named ≠ []) :
      Spells (lead ++ renderAll (List.replicate count Segment.enclosing ++ named) ++ slash)
        (root ++ List.replicate count Segment.enclosing ++ named)

/-! ### Cuts -/

/-- A part between two dots that stands for a segment names it. -/
theorem segmentOf_isNamed (read : segmentOf path part = .ok segment) :
    segment.IsNamed ∧ segment.name = part := by
  unfold segmentOf at read
  split at read
  · cases read
  · rename_i nonempty
    split at read
    · rename_i dollar
      cases read
      exact ⟨.enclosing, dollar.symm⟩
    · split at read
      · rename_i question
        cases read
        exact ⟨.current, question.symm⟩
      · split at read
        · rename_i chars
          cases read
          exact ⟨.member nonempty chars, rfl⟩
        · cases read

/-- The parts of a path name its segments. -/
theorem mapM_isNamed {parts : List Text} (read : parts.mapM (segmentOf path) = .ok named) :
    (∀ segment ∈ named, segment.IsNamed) ∧ named.map Segment.name = parts := by
  induction parts generalizing named with
  | nil =>
    cases read
    simp
  | cons part rest induction =>
    rw [List.mapM_cons] at read
    cases here : segmentOf path part with
    | error fault =>
      rw [here] at read
      cases read
    | ok segment =>
      cases later : rest.mapM (segmentOf path) with
      | error fault =>
        rw [here, later] at read
        cases read
      | ok segments =>
        rw [here, later] at read
        cases read
        obtain ⟨isNamed, name⟩ := segmentOf_isNamed here
        obtain ⟨areNamed, names⟩ := induction later
        exact ⟨List.forall_mem_cons.2 ⟨isNamed, areNamed⟩, by rw [List.map_cons, name, names]⟩

/-- The outermost context at the start of a path, perhaps with a dot behind it, and the rest. -/
def splitRoot : Text → List Segment × Text
  | '~' :: '.' :: rest => ([outermost], rest)
  | '~' :: rest => ([outermost], rest)
  | rest => ([], rest)

/-- What is left of a path behind its steps. A dot counts only behind a step. -/
def afterSteps : List Segment → Text → Text
  | [], '.' :: tail => tail
  | _, tail => tail

/-- The segments of a path behind its steps. -/
def segmentsBehind (path : Text) (steps : List Segment) (rest : Text) :
    Except PathFault (List Segment) :=
  if rest = [] then
    if steps = [] then .error .emptyPath else .ok steps
  else do
    let named ← (List.splitOn '.' rest).mapM (segmentOf path)
    return steps ++ named

/-- A path that is not the current context is cut in its steps and the segments behind them. -/
theorem segmentsOf_eq (nonempty : path ≠ []) (other : path ≠ ".") : segmentsOf path =
    let steps := (splitRoot path).1 ++ (parentSteps (splitRoot path).2).1
    segmentsBehind path steps (afterSteps steps (parentSteps (splitRoot path).2).2) := by
  by_cases selector : path = "?"
  · rw [selector]
    rfl
  · unfold segmentsOf
    rw [if_neg nonempty, if_neg (not_or.2 ⟨other, selector⟩)]
    split
    rename_i root afterRoot shape
    have cut : splitRoot path = (root, afterRoot) := by
      rw [← shape, splitRoot.eq_def]
      split <;> simp only [outermost]
    rw [cut]
    rfl

/-- Behind the steps of a path stand the names of its other segments, with dots between them. -/
theorem segmentsBehind_ok {steps : List Segment}
    (read : segmentsBehind path steps rest = .ok segments) :
    segments ≠ [] ∧ ∃ named, (∀ segment ∈ named, segment.IsNamed) ∧
      segments = steps ++ named ∧ rest = renderAll named := by
  unfold segmentsBehind at read
  split at read
  · rename_i empty
    split at read
    · cases read
    · rename_i nonempty
      cases read
      exact ⟨nonempty, [], by simp, by simp, empty⟩
  · cases parts : (List.splitOn '.' rest).mapM (segmentOf path) with
    | error fault =>
      rw [parts] at read
      cases read
    | ok named =>
      rw [parts] at read
      cases read
      obtain ⟨areNamed, names⟩ := mapM_isNamed parts
      have nonempty : named ≠ [] := by
        rintro rfl
        exact List.splitOn_ne_nil _ _ names.symm
      refine ⟨by simp [nonempty], named, areNamed, rfl, ?_⟩
      calc rest = ['.'].intercalate (List.splitOn '.' rest) := (List.intercalate_splitOn '.').symm
        _ = ['.'].intercalate (List.splitOn '.' (renderAll named)) := by
          rw [splitOn_renderAll areNamed nonempty, names]
        _ = renderAll named := List.intercalate_splitOn '.'

/-- Nothing is written where no segment is named. -/
theorem eq_nil_of_renderAll (areNamed : ∀ segment ∈ named, segment.IsNamed)
    (empty : renderAll named = []) : named = [] := by
  cases named with
  | nil => rfl
  | cons first rest =>
    have nameless := (List.append_eq_nil_iff.1 empty).1
    exact absurd nameless (areNamed first (List.mem_cons_self ..)).name_plain.1

/-- The parts that name segments stand for them. -/
theorem mapM_segmentOf (path : Text) (areNamed : ∀ segment ∈ named, segment.IsNamed) :
    (named.map Segment.name).mapM (segmentOf path) = .ok named := by
  have single (segment : Segment) (isNamed : segment.IsNamed) :
      segmentOf path segment.name = .ok segment := by
    cases isNamed with
    | enclosing => rfl
    | current => rfl
    | member nonempty chars =>
      have other := ne_of_chars chars
      simp only [segmentOf, if_neg nonempty, if_neg (other "$" (by decide)),
        if_neg (other "?" (by decide)), chars, if_true]
  induction named with
  | nil => rfl
  | cons first rest induction =>
    obtain ⟨here, later⟩ := List.forall_mem_cons.1 areNamed
    rw [List.map_cons, List.mapM_cons, single first here, induction later]
    rfl

/-- Behind steps, the named segments are read. -/
theorem segmentsBehind_named (path : Text) (steps : List Segment)
    (areNamed : ∀ segment ∈ named, segment.IsNamed) (nonempty : steps ++ named ≠ []) :
    segmentsBehind path steps (renderAll named) = .ok (steps ++ named) := by
  by_cases none : named = []
  · rw [none, List.append_nil] at nonempty ⊢
    rw [renderAll, segmentsBehind, if_pos rfl, if_neg nonempty]
  · have written : renderAll named ≠ [] := fun empty => none (eq_nil_of_renderAll areNamed empty)
    rw [segmentsBehind, if_neg written, splitOn_renderAll areNamed none,
      mapM_segmentOf path areNamed]
    rfl

/-! ### Steps up -/

/-- A step up is written with a slash behind it when something follows. -/
theorem renderAll_enclosing (nonempty : segments ≠ []) :
    renderAll (Segment.enclosing :: segments) = '.' :: '.' :: '/' :: renderAll segments := by
  cases segments with
  | nil => exact absurd rfl nonempty
  | cons first rest => rfl

/-- Named segments are no steps up. -/
theorem parentSteps_named (areNamed : ∀ segment ∈ named, segment.IsNamed) :
    parentSteps (renderAll named) = ([], renderAll named) := by
  have noDot := renderAll_dotless areNamed
  unfold parentSteps
  split
  · rename_i rest shape
    exact absurd rfl (noDot '.' (congrArg List.head? shape))
  · rename_i shape
    exact absurd rfl (noDot '.' (congrArg List.head? shape))
  · rfl

/-- Steps up in their written form, perhaps with a slash behind the last, are read as so many
enclosing contexts. -/
theorem parentSteps_steps (trails : Trails slash count named)
    (areNamed : ∀ segment ∈ named, segment.IsNamed) :
    parentSteps (renderAll (List.replicate count Segment.enclosing ++ named) ++ slash) =
      (List.replicate count Segment.enclosing, renderAll named) := by
  induction count with
  | zero =>
    cases trails
    rw [List.append_nil]
    exact parentSteps_named areNamed
  | succ count induction =>
    rw [List.replicate_succ, List.cons_append]
    by_cases last : List.replicate count Segment.enclosing ++ named = []
    · obtain ⟨none, rfl⟩ := List.append_eq_nil_iff.1 last
      rw [none]
      cases trails <;> rfl
    · have behind : Trails slash count named := by
        cases trails with
        | nothing => exact .nothing count named
        | slash =>
          cases count with
          | zero => exact absurd rfl last
          | succ count => exact .slash count
      rw [renderAll_enclosing last, List.cons_append, List.cons_append, List.cons_append,
        parentSteps, induction behind]
      rfl

/-- A text that begins with no step up is left as it is. -/
theorem parentSteps_none (none : (parentSteps text).1 = []) : (parentSteps text).2 = text := by
  unfold parentSteps at none ⊢
  split
  · cases none
  · cases none
  · rfl

/-- Where names are left behind the steps up, these stand in their written form, perhaps with a
slash behind the last. -/
theorem parentSteps_spelled (areNamed : ∀ segment ∈ named, segment.IsNamed)
    (left : (parentSteps text).2 = renderAll named) : ∃ count slash,
      (parentSteps text).1 = List.replicate count Segment.enclosing ∧ Trails slash count named ∧
        text = renderAll (List.replicate count Segment.enclosing ++ named) ++ slash := by
  fun_induction parentSteps text with
  | case1 rest steps tail found induction =>
    rw [found] at induction
    obtain ⟨count, slash, same, trails, whole⟩ := induction left
    dsimp only at same ⊢
    by_cases last : List.replicate count Segment.enclosing ++ named = []
    · -- the step is the last, and nothing but the slash stands behind it
      obtain ⟨none, rfl⟩ := List.append_eq_nil_iff.1 last
      obtain rfl : count = 0 := by simpa using none
      cases trails
      exact ⟨1, ['/'], by rw [same]; rfl, .slash 0, by rw [whole]; rfl⟩
    · refine ⟨count + 1, slash, by rw [same]; rfl, ?_, ?_⟩
      · cases trails with
        | nothing => exact .nothing _ named
        | slash count => exact .slash _
      · rw [List.replicate_succ, List.cons_append, renderAll_enclosing last, whole]
        rfl
  | case2 =>
    have none : named = [] := eq_nil_of_renderAll areNamed left.symm
    exact ⟨1, [], rfl, .nothing 1 named, by rw [none]; rfl⟩
  | case3 rest => exact ⟨0, [], rfl, .nothing 0 named, by rw [List.append_nil]; exact left⟩

/-! ### Paths that are read -/

/-- Behind a step, nothing is left out. -/
theorem afterSteps_behind {steps : List Segment} (nonempty : steps ≠ []) (text : Text) :
    afterSteps steps text = text := by
  cases steps with
  | nil => exact absurd rfl nonempty
  | cons => rfl

/-- Nothing is left out in front of named segments. -/
theorem afterSteps_named (areNamed : ∀ segment ∈ named, segment.IsNamed) (steps : List Segment) :
    afterSteps steps (renderAll named) = renderAll named := by
  unfold afterSteps
  split
  · rename_i tail shape
    exact absurd rfl (renderAll_dotless areNamed '.' (congrArg List.head? shape))
  · rfl

/-- A path begins with the outermost context, perhaps with a dot behind it, or without it. -/
theorem splitRoot_cases (path : Text) :
    (∃ rest, path = '~' :: '.' :: rest ∧ splitRoot path = ([outermost], rest)) ∨
      (∃ rest, path = '~' :: rest ∧ rest.head? ≠ some '.' ∧ splitRoot path = ([outermost], rest)) ∨
      splitRoot path = ([], path) := by
  unfold splitRoot
  split
  · exact Or.inl ⟨_, rfl, rfl⟩
  · rename_i rest noDot
    refine Or.inr (Or.inl ⟨rest, rfl, ?_, rfl⟩)
    intro dot
    obtain ⟨others, rfl⟩ := List.head?_eq_some_iff.1 dot
    exact noDot others rfl
  · exact Or.inr (Or.inr rfl)

/-- Steps up and names spell their segments behind whatever may lead them. -/
theorem spells_behind (lead : Text) (areNamed : ∀ segment ∈ named, segment.IsNamed)
    (left : (parentSteps text).2 = renderAll named)
    (some : root ++ (parentSteps text).1 ++ named ≠ [])
    (leads : ∀ count slash, text = renderAll (List.replicate count Segment.enclosing ++ named) ++
      slash → Leads lead root count) :
    Spells (lead ++ text) (root ++ (parentSteps text).1 ++ named) := by
  obtain ⟨count, slash, steps, trails, whole⟩ := parentSteps_spelled areNamed left
  have spelled := Spells.steps (leads count slash whole) trails areNamed (steps ▸ some)
  rwa [List.append_assoc lead, ← whole, ← steps] at spelled

/-- A path without steps is the names, perhaps behind a dot. -/
theorem of_afterSteps_none (left : afterSteps [] path = text) :
    path = text ∨ path = '.' :: text := by
  unfold afterSteps at left
  split at left
  · exact Or.inr (congrArg _ left)
  · exact Or.inl left

/-- A path that is read spells its segments.

Proof: what is left behind the steps up are the names in their written form, so each cut is undone
by putting what it has cut off in front again. -/
theorem spells_of_read (read : segmentsOf path = .ok segments) : Spells path segments := by
  by_cases nonempty : path = []
  · simp [segmentsOf, nonempty] at read
  by_cases single : path = "."
  · rw [single] at read ⊢
    cases read
    exact .current
  rw [segmentsOf_eq nonempty single] at read
  obtain ⟨some, named, areNamed, rfl, behind⟩ := segmentsBehind_ok read
  clear read
  rcases splitRoot_cases path with ⟨rest, rfl, cut⟩ | ⟨rest, rfl, noDot, cut⟩ | cut
  · rw [cut] at behind some ⊢
    rw [afterSteps_behind (by simp)] at behind
    exact spells_behind ['~', '.'] areNamed behind some fun count _ _ => .rootDot count
  · rw [cut] at behind some ⊢
    rw [afterSteps_behind (by simp)] at behind
    refine spells_behind ['~'] areNamed behind some ?_
    intro count slash spelled
    cases count with
    | zero => exact .root
    | succ count =>
      -- a step up would begin with a dot
      have dot : rest.head? = Option.some '.' := spelled ▸ rfl
      exact absurd dot noDot
  · rw [cut] at behind some ⊢
    dsimp only at behind some ⊢
    by_cases noStep : (parentSteps path).1 = []
    · rw [noStep, parentSteps_none noStep] at behind
      rw [noStep] at some ⊢
      have spelled (lead : Text) (leads : Leads lead [] 0) :=
        Spells.steps leads (.nothing 0 named) areNamed some
      simp only [List.append_nil] at spelled
      rcases of_afterSteps_none behind with rfl | rfl
      · exact spelled [] (.nothing 0)
      · exact spelled ['.'] .dot
    · rw [List.nil_append, afterSteps_behind noStep] at behind
      exact spells_behind [] areNamed behind some fun count _ _ => .nothing count

/-- A path that has been read is the current context or consists of steps. -/
theorem segmentsOf_isPath (read : segmentsOf path = .ok segments) : IsPath segments := by
  cases spells_of_read read with
  | current => exact .current
  | @steps lead slash root named count leads trails areNamed nonempty =>
    have isRoot : root = [] ∨ root = [outermost] := by
      cases leads with
      | nothing => exact Or.inl rfl
      | dot => exact Or.inl rfl
      | root => exact Or.inr rfl
      | rootDot => exact Or.inr rfl
    exact .steps isRoot count areNamed nonempty

/-! ### Spellings that are read -/

/-- Without `~` at its start, a path has no outermost context. -/
theorem splitRoot_plain {first : Char} (plain : first ≠ '~') (rest : Text) :
    splitRoot (first :: rest) = ([], first :: rest) := by
  rw [splitRoot]
  · simp [plain]
  · simp [plain]

/-- Behind `~` and no dot stands the rest of a path. -/
theorem splitRoot_outermost {rest : Text} (noDot : ∀ first ∈ rest.head?, first ≠ '.') :
    splitRoot ('~' :: rest) = ([outermost], rest) := by
  rw [splitRoot]
  intro others dot
  rw [dot] at noDot
  exact noDot '.' rfl rfl

/-- A dot in front of named segments makes no step up. -/
theorem parentSteps_dot (areNamed : ∀ segment ∈ named, segment.IsNamed) :
    parentSteps ('.' :: renderAll named) = ([], '.' :: renderAll named) := by
  have noDot := renderAll_dotless areNamed
  unfold parentSteps
  split
  · rename_i rest shape
    exact absurd rfl (noDot '.' (congrArg List.head? (List.cons.inj shape).2))
  · rename_i shape
    exact absurd rfl (noDot '.' (congrArg List.head? (List.cons.inj shape).2))
  · rfl

/-- A path is read from what its cuts give. -/
theorem segmentsOf_cut {rest tail : Text} (nonempty : path ≠ []) (other : path ≠ ".")
    (cut : splitRoot path = (root, rest))
    (steps : parentSteps rest = (List.replicate count Segment.enclosing, tail))
    (left : afterSteps (root ++ List.replicate count Segment.enclosing) tail = renderAll named)
    (areNamed : ∀ segment ∈ named, segment.IsNamed)
    (some : root ++ List.replicate count Segment.enclosing ++ named ≠ []) :
    segmentsOf path = .ok (root ++ List.replicate count Segment.enclosing ++ named) := by
  rw [segmentsOf_eq nonempty other, cut]
  dsimp only
  rw [steps]
  dsimp only
  rw [left, segmentsBehind_named _ _ areNamed some]

/-- A path without the outermost context begins with no `~`. Where it begins with a dot, this is the
first of two. -/
theorem renderAll_steps (count : Nat) (areNamed : ∀ segment ∈ named, segment.IsNamed)
    (nonempty : List.replicate count Segment.enclosing ++ named ≠ []) : ∃ first others,
      renderAll (List.replicate count Segment.enclosing ++ named) = first :: others ∧
        first ≠ '~' ∧ (first = '.' → ∃ more, others = '.' :: more) := by
  cases count with
  | succ count => exact ⟨'.', _, rfl, by decide, fun _ => ⟨_, rfl⟩⟩
  | zero =>
    cases named with
    | nil => exact absurd rfl nonempty
    | cons segment rest =>
      obtain ⟨first, others, shape⟩ :=
        List.exists_cons_of_ne_nil (areNamed segment (List.mem_cons_self ..)).name_plain.1
      have whole : renderAll (segment :: rest) =
          first :: (others ++ renderAfter segment.name rest) := by
        rw [renderAll, shape]
        rfl
      have plain := renderAll_head areNamed first (by rw [whole]; rfl)
      refine ⟨first, _, whole, ?_, ?_⟩
      · rintro rfl
        cases plain
      · rintro rfl
        cases plain

/-- Whatever spells segments is read as these. -/
theorem read_of_spells (spells : Spells path segments) : segmentsOf path = .ok segments := by
  cases spells with
  | current => rfl
  | @steps lead slash root named count leads trails areNamed nonempty =>
    have steps := parentSteps_steps trails areNamed
    have left := afterSteps_named areNamed (root ++ List.replicate count Segment.enclosing)
    cases leads with
    | nothing =>
      obtain ⟨first, others, shape, notRoot, twice⟩ :=
        renderAll_steps count areNamed (by simpa using nonempty)
      rw [List.nil_append]
      refine segmentsOf_cut ?_ ?_ ?_ steps left areNamed nonempty
      · simp [shape]
      · rw [shape]
        intro dot
        obtain ⟨rfl, rest⟩ := List.cons.inj dot
        obtain ⟨more, rfl⟩ := twice rfl
        cases rest
      · rw [shape, List.cons_append, splitRoot_plain notRoot]
    | dot =>
      cases trails
      have isNamed : named ≠ [] := nonempty
      have other : '.' :: renderAll named ≠ ['.'] := by
        intro dot
        exact isNamed (eq_nil_of_renderAll areNamed (List.cons.inj dot).2)
      rw [List.append_nil]
      exact segmentsOf_cut (List.cons_ne_nil _ _) other (splitRoot_plain (by decide) _)
        (parentSteps_dot areNamed) rfl areNamed nonempty
    | root =>
      cases trails
      have cut := splitRoot_outermost (renderAll_dotless areNamed)
      rw [List.append_nil]
      exact segmentsOf_cut (List.cons_ne_nil _ _) (by simp) cut (parentSteps_named areNamed) left
        areNamed nonempty
    | rootDot =>
      exact segmentsOf_cut (List.cons_ne_nil _ _) (by simp) rfl steps left areNamed nonempty

/-- The paths that are read as given segments are those that spell them. -/
theorem segmentsOf_eq_ok_iff : segmentsOf path = .ok segments ↔ Spells path segments :=
  ⟨spells_of_read, read_of_spells⟩

/-! ### The written form -/

/-- The outermost context takes one character. -/
theorem renderAll_outermost (segments : List Segment) :
    renderAll (outermost :: segments) = '~' :: renderAll segments := by
  cases segments <;> rfl

/-- The written form of a path is read as the path, unless it loses a dot. -/
theorem segmentsOf_renderAll (isPath : IsPath segments) (keeps : ¬LosesDot segments) :
    segmentsOf (renderAll segments) = .ok segments := by
  rw [segmentsOf_eq_ok_iff]
  cases isPath with
  | current => exact .current
  | @steps root named isRoot count areNamed nonempty =>
    have spelled {lead : Text} (leads : Leads lead root count) :=
      Spells.steps leads (.nothing count named) areNamed nonempty
    rcases isRoot with rfl | rfl
    · simpa only [List.append_nil, List.nil_append] using spelled (.nothing count)
    · cases count with
      | succ count => exact absurd ⟨rfl, rfl⟩ keeps
      | zero =>
        have written : renderAll ([outermost] ++ List.replicate 0 Segment.enclosing ++ named) =
            ['~'] ++ renderAll (List.replicate 0 Segment.enclosing ++ named) :=
          renderAll_outermost named
        rw [written, ← List.append_nil (['~'] ++ _)]
        exact spelled .root

/-- The written form of a path that loses a dot is no path. -/
theorem segmentsOf_losesDot (loses : LosesDot segments) :
    ∀ found, segmentsOf (renderAll segments) ≠ .ok found := by
  intro found read
  match segments, loses with
  | _ :: _ :: rest, ⟨rfl, rfl⟩ =>
    let path : Text := renderAll (outermost :: Segment.enclosing :: rest)
    have cut : splitRoot path = ([outermost], '.' :: renderAfter ".." rest) := rfl
    have noSteps : parentSteps ('.' :: renderAfter ".." rest) =
        ([], '.' :: renderAfter ".." rest) := by
      cases rest <;> rfl
    have parts : List.splitOn '.' ('.' :: renderAfter ".." rest) =
        [] :: List.splitOn '.' (renderAfter ".." rest) :=
      List.splitOn_append_cons_self [] _
    have refused : segmentsOf path = .error (.emptySegment path) := by
      have nonempty : path ≠ [] := List.cons_ne_nil _ _
      have other : path ≠ "." := fun dot => absurd (List.cons.inj dot).1 (by decide)
      rw [segmentsOf_eq nonempty other, cut, noSteps]
      dsimp only [segmentsBehind, afterSteps]
      rw [List.append_nil, if_neg (List.cons_ne_nil _ _), parts]
      rfl
    rw [refused] at read
    cases read

/-- A path is at most one character longer than its written form, or two when it ends with a
slash. -/
theorem segmentsOf_length (read : segmentsOf path = .ok segments) :
    path.length ≤ (renderAll segments).length + 1 ∨
      path.length = (renderAll segments).length + 2 ∧ ∃ before, path = before ++ "/" := by
  cases spells_of_read read with
  | current => exact Or.inl (by decide)
  | @steps lead slash root named count leads trails areNamed nonempty =>
    have trailing : slash.length ≤ 1 := by cases trails <;> simp
    cases leads with
    | nothing =>
      refine Or.inl ?_
      simpa using trailing
    | dot =>
      cases trails
      exact Or.inl (by simp)
    | root =>
      cases trails
      exact Or.inl (by simp [renderAll_outermost])
    | rootDot =>
      cases trails with
      | nothing => exact Or.inl (by simp [renderAll_outermost])
      | slash count =>
        exact Or.inr ⟨by simp [renderAll_outermost], _, rfl⟩

/-- A written path that goes on with a dot and more is another path. -/
theorem segmentsOf_dotted {first : Char} (notSlash : first ≠ '/') (more : Text) :
    segmentsOf (renderAll segments ++ '.' :: first :: more) ≠ .ok segments := by
  intro read
  have length : (renderAll segments ++ '.' :: first :: more).length =
      (renderAll segments).length + more.length + 2 := by
    simp only [List.length_append, List.length_cons]
    omega
  rcases segmentsOf_length read with short | ⟨long, before, ends⟩
  · omega
  · obtain rfl : more = [] := List.length_eq_zero_iff.1 (by omega)
    have last := congrArg List.getLast? ends
    rw [List.getLast?_append, List.getLast?_append] at last
    exact notSlash (Option.some.inj last)

end Bracework.PathDraft

import Bracework.Proofs.Expression.WrittenOperand

/-!
# Compiled paths

The segments of a path, written one after the other, are the path again but for three characters
that mean nothing: a dot in front of the first name, a dot behind `~`, and a slash behind the last
step up. Nothing else of what was taken is lost, and nothing is added.

The same characters may turn out to stand before a `(`. Then the last name is the formatter, and the
receiver is compiled from what stands before it: a text cut off at its last separator instead of all
of its segments. Both ways agree where the path has segments and the last of them is a name.
-/

namespace Bracework

/-- The kind of segment that a name stands for. -/
def SegmentKind.ofName (name : Text) : SegmentKind :=
  if name = "~" then .root
  else if name = ".." ∨ name = "$" then .parent
  else if name = "." ∨ name = "?" then .current
  else .data

namespace PathDraft

open Segment

variable {draft last : PathDraft} {characters path formatter slash : Text} {segment : Segment}
  {root segments named : List Segment} {count : Nat}

/-! ### Characters that mean nothing -/

/-- A path without the dot that stands alone at its start. A path that is just a dot keeps it, and
so does one that begins with a step up. -/
def withoutFirstDot : Text → Text
  | ['.'] => ['.']
  | '.' :: '.' :: rest => '.' :: '.' :: rest
  | '.' :: rest => rest
  | path => path

/-- A path without the dot behind the `~` at its start. -/
def withoutRootDot : Text → Text
  | '~' :: '.' :: rest => '~' :: rest
  | path => path

/-- A path without the slash at its end. -/
def withoutLastSlash (path : Text) : Text :=
  if path.getLast? = some '/' then path.dropLast else path

/-- What is written of a path. -/
def essential (path : Text) : Text := withoutLastSlash (withoutRootDot (withoutFirstDot path))

/-- A slash that trails is left out. -/
theorem withoutLastSlash_trails {text : Text} (trails : Trails slash count named)
    (noSlash : text.getLast? ≠ some '/') : withoutLastSlash (text ++ slash) = text := by
  cases trails with
  | nothing => rw [List.append_nil, withoutLastSlash, if_neg noSlash]
  | slash => simp [withoutLastSlash]

/-- Only a dot at its start is left out of a path. -/
theorem withoutFirstDot_plain {first : Char} (plain : first ≠ '.') (rest : Text) :
    withoutFirstDot (first :: rest) = first :: rest := by
  rw [withoutFirstDot]
  all_goals simp [plain]

/-- A dot at the start is left out where none stands behind it. -/
theorem withoutFirstDot_dot {first : Char} (plain : first ≠ '.') (rest : Text) :
    withoutFirstDot ('.' :: first :: rest) = first :: rest := by
  rw [withoutFirstDot]
  all_goals simp [plain]

/-- A dot is left out behind `~` alone. -/
theorem withoutRootDot_plain {first : Char} (plain : first ≠ '~') (rest : Text) :
    withoutRootDot (first :: rest) = first :: rest := by
  rw [withoutRootDot]
  simp [plain]

/-- No dot is left out behind `~` where none stands there. -/
theorem withoutRootDot_kept {rest : Text} (noDot : ∀ first ∈ rest.head?, first ≠ '.') :
    withoutRootDot ('~' :: rest) = '~' :: rest := by
  rw [withoutRootDot]
  rintro others same
  rw [(List.cons.inj same).2] at noDot
  exact noDot '.' rfl rfl

/-- Nothing trails behind a named segment. -/
theorem Trails.eq_nil (trails : Trails slash count named) (nonempty : named ≠ []) : slash = [] := by
  cases trails with
  | nothing => rfl
  | slash => exact absurd rfl nonempty

/-! ### The segments of a path -/

/-- A path has segments. -/
theorem isPath_ne_nil (isPath : IsPath segments) : segments ≠ [] := by
  cases isPath with
  | current => exact List.cons_ne_nil _ _
  | steps isRoot count areNamed nonempty => exact nonempty

/-- What the segments of a path are. -/
theorem segment_of_isPath (isPath : IsPath segments) (member : segment ∈ segments) :
    segment.IsNamed ∨ segment = outermost ∨ segment = Segment.enclosing ∨
      segment = ⟨".", .current⟩ := by
  cases isPath with
  | current => exact Or.inr (Or.inr (Or.inr (List.mem_singleton.1 member)))
  | @steps root named isRoot count areNamed nonempty =>
    rcases List.mem_append.1 member with step | isNamed
    · rcases List.mem_append.1 step with inRoot | up
      · rcases isRoot with rfl | rfl
        · cases inRoot
        · exact Or.inr (Or.inl (List.mem_singleton.1 inRoot))
      · exact Or.inr (Or.inr (Or.inl (List.eq_of_mem_replicate up)))
    · exact Or.inl (areNamed segment isNamed)

/-- A segment of a path is of the kind that its name stands for, and a member consists of characters
of names. -/
theorem kind_of_isPath (isPath : IsPath segments) (member : segment ∈ segments) :
    segment.kind = SegmentKind.ofName segment.name ∧
      (segment.kind = .data → segment.name ≠ [] ∧ segment.name.all isNameChar = true) := by
  rcases segment_of_isPath isPath member with isNamed | rfl | rfl | rfl
  · cases isNamed with
    | member nonempty chars =>
      have other := ne_of_chars chars
      refine ⟨?_, fun _ => ⟨nonempty, chars⟩⟩
      simp only [SegmentKind.ofName, if_neg (other "~" (by decide)), other ".." (by decide),
        other "$" (by decide), other "." (by decide), other "?" (by decide), or_self, if_false]
    | enclosing => exact ⟨rfl, nofun⟩
    | current => exact ⟨rfl, nofun⟩
  · exact ⟨rfl, nofun⟩
  · exact ⟨rfl, nofun⟩
  · exact ⟨rfl, nofun⟩

/-- The name of a segment of a path is not empty and does not end with a slash. -/
theorem name_of_isPath (isPath : IsPath segments) (member : segment ∈ segments) :
    segment.name ≠ [] ∧ segment.name.getLast? ≠ some '/' := by
  rcases segment_of_isPath isPath member with isNamed | rfl | rfl | rfl
  · obtain ⟨nonempty, -, -, plain⟩ := isNamed.name_plain
    refine ⟨nonempty, fun slash => ?_⟩
    cases plain '/' (List.mem_of_getLast? slash)
  · exact ⟨by decide, by decide⟩
  · exact ⟨by decide, by decide⟩
  · exact ⟨by decide, by decide⟩

/-! ### The end of a written path -/

/-- A path is written like what stands behind `~`, which takes no separator. -/
theorem renderAll_eq (segments : List Segment) :
    renderAll segments = renderAfter ['~'] segments := by
  cases segments <;> rfl

/-- Behind a segment, a path goes on with what is written after its name. -/
theorem renderAfter_append (previous : Text) (segments : List Segment) (segment : Segment)
    (more : List Segment) : renderAfter previous (segments ++ segment :: more) =
      renderAfter previous (segments ++ [segment]) ++ renderAfter segment.name more := by
  induction segments generalizing previous with
  | nil => simp [renderAfter]
  | cons first rest induction =>
    rw [List.cons_append, List.cons_append, renderAfter, renderAfter, induction,
      ← List.append_assoc]

/-- What is written of segments ends with the name of the last. -/
theorem renderAfter_ends (previous : Text) (segments : List Segment) (segment : Segment) :
    ∃ before, renderAfter previous (segments ++ [segment]) = before ++ segment.name := by
  induction segments generalizing previous with
  | nil => exact ⟨separatorAfter previous, by simp [renderAfter]⟩
  | cons first rest induction =>
    obtain ⟨before, ends⟩ := induction first.name
    refine ⟨separatorAfter previous ++ first.name ++ before, ?_⟩
    rw [List.cons_append, renderAfter, ends, List.append_assoc _ before]

/-- A written path does not end with a slash. -/
theorem renderAll_noSlash (isPath : IsPath segments) :
    (renderAll segments).getLast? ≠ some '/' := by
  rcases List.eq_nil_or_concat segments with rfl | ⟨others, segment, rfl⟩
  · simp [renderAll]
  · rw [List.concat_eq_append] at isPath ⊢
    have member : segment ∈ others ++ [segment] := by simp
    obtain ⟨nonempty, noSlash⟩ := name_of_isPath isPath member
    obtain ⟨before, ends⟩ := renderAfter_ends ['~'] others segment
    rw [renderAll_eq, ends, List.getLast?_append]
    cases found : segment.name.getLast? with
    | none => exact absurd (List.getLast?_eq_none_iff.1 found) nonempty
    | some last =>
      rw [found] at noSlash
      exact noSlash

/-! ### What a spelling writes -/

/-- Without the dots that mean nothing, a path is its written form, perhaps with a slash behind the
last step up. -/
theorem spells_written (spells : Spells path segments) : ∃ slash count named,
    Trails slash count named ∧
      withoutRootDot (withoutFirstDot path) = renderAll segments ++ slash := by
  cases spells with
  | current => exact ⟨[], 0, [], .nothing 0 [], rfl⟩
  | @steps lead slash root named count leads trails areNamed nonempty =>
    refine ⟨slash, count, named, trails, ?_⟩
    cases leads with
    | nothing =>
      obtain ⟨first, others, shape, notRoot, twice⟩ :=
        renderAll_steps count areNamed (by simpa using nonempty)
      have kept : withoutFirstDot (first :: (others ++ slash)) = first :: (others ++ slash) := by
        by_cases dot : first = '.'
        · obtain ⟨more, rfl⟩ := twice dot
          rw [dot]
          rfl
        · exact withoutFirstDot_plain dot _
      rw [List.nil_append, List.nil_append, shape, List.cons_append, kept,
        withoutRootDot_plain notRoot]
    | dot =>
      cases trails
      obtain ⟨first, others, shape, notRoot, twice⟩ := renderAll_steps 0 areNamed nonempty
      have notDot : first ≠ '.' := renderAll_dotless areNamed first (congrArg List.head? shape)
      rw [List.append_nil, List.append_nil, List.nil_append, shape, List.singleton_append,
        withoutFirstDot_dot notDot, withoutRootDot_plain notRoot]
    | root =>
      cases trails
      have written : renderAll ([outermost] ++ List.replicate 0 Segment.enclosing ++ named) =
          '~' :: renderAll named :=
        renderAll_outermost named
      rw [written, List.append_nil, List.append_nil]
      exact (congrArg withoutRootDot (withoutFirstDot_plain (by decide) _)).trans
        (withoutRootDot_kept (renderAll_dotless areNamed))
    | rootDot =>
      rw [List.append_assoc [outermost]]
      simp [withoutFirstDot, withoutRootDot, renderAll_outermost]

/-- A path that is compiled is written but for the characters that mean nothing. -/
theorem renderAll_eq_essential (read : segmentsOf path = .ok segments) :
    renderAll segments = essential path := by
  obtain ⟨slash, count, named, trails, written⟩ := spells_written (spells_of_read read)
  rw [essential, written, withoutLastSlash_trails trails]
  exact renderAll_noSlash (segmentsOf_isPath read)

/-! ### Calls -/

/-- Where a spelled path ends with a member, this is one of the named segments. -/
theorem named_of_member {others : List Segment} {lead : Text} (leads : Leads lead root count)
    (same : root ++ List.replicate count Segment.enclosing ++ named =
      others ++ [⟨formatter, .data⟩]) :
    ∃ before, named = before ++ [⟨formatter, .data⟩] ∧
      others = root ++ List.replicate count Segment.enclosing ++ before := by
  rcases List.eq_nil_or_concat named with rfl | ⟨before, segment, rfl⟩
  · have member :
        (⟨formatter, .data⟩ : Segment) ∈ root ++ List.replicate count Segment.enclosing := by
      rw [List.append_nil] at same
      simp [same]
    rcases List.mem_append.1 member with inRoot | up
    · cases leads <;> simp [outermost] at inRoot
    · cases List.eq_of_mem_replicate up
  · rw [List.concat_eq_append, ← List.append_assoc] at same
    obtain ⟨front, last⟩ := List.append_inj' same rfl
    exact ⟨before, by rw [List.concat_eq_append, last], front.symm⟩

/-- The separator behind a step of a path is one character, and not `~`. -/
theorem separatorAfter_step (isStep : IsStep segment) :
    ∃ mark, separatorAfter segment.name = [mark] ∧ separatesNames mark = true ∧ mark ≠ '~' := by
  rcases isStep with isNamed | rfl
  · exact ⟨'.', separatorAfter_named isNamed, rfl, by decide⟩
  · exact ⟨'/', rfl, rfl, by decide⟩

/-- A path that ends with a member behind a step is cut at the separator between the two. -/
theorem splitLastName_step (lead : Text) (steps : ∀ segment ∈ segments, IsStep segment)
    (nonempty : segments ≠ []) (chars : formatter.all isNameChar = true) :
    splitLastName (lead ++ renderAll (segments ++ [⟨formatter, .data⟩])) =
      (lead ++ renderAll segments, formatter) := by
  rcases List.eq_nil_or_concat segments with rfl | ⟨front, last, rfl⟩
  · exact absurd rfl nonempty
  · rw [List.concat_eq_append] at steps ⊢
    obtain ⟨mark, single, separates, notRoot⟩ := separatorAfter_step (steps last (by simp))
    have whole : renderAll (front ++ [last] ++ [⟨formatter, .data⟩]) =
        renderAll (front ++ [last]) ++ mark :: formatter := by
      rw [List.append_assoc, List.singleton_append, renderAll_eq, renderAfter_append,
        ← renderAll_eq, renderAfter, renderAfter, single, List.append_nil, List.singleton_append]
    rw [whole, ← List.append_assoc, splitLastName_behind separates chars, if_neg notRoot]

/-- No characters spell no path. -/
theorem spells_ne_nil (spells : Spells path segments) : path ≠ [] := by
  rintro rfl
  cases read_of_spells spells

/-- A path that ends with a member behind nothing but what leads it is cut behind the outermost
context, or has nothing in front of the member. -/
theorem splitLastName_led {lead : Text} (leads : Leads lead root 0)
    (chars : formatter.all isNameChar = true) :
    ∃ before, splitLastName (lead ++ formatter) = (before, formatter) ∧
      (root = [] ∧ before = [] ∨ before ≠ [] ∧ Spells before root) := by
  have spelled : Spells ['~'] [outermost] := .steps .root (.nothing 0 []) (by simp) (by simp)
  cases leads with
  | nothing => exact ⟨[], splitLastName_alone chars, Or.inl ⟨rfl, rfl⟩⟩
  | dot => exact ⟨[], splitLastName_behind rfl chars [], Or.inl ⟨rfl, rfl⟩⟩
  | root => exact ⟨['~'], splitLastName_behind rfl chars [], Or.inr ⟨by simp, spelled⟩⟩
  | rootDot => exact ⟨['~'], splitLastName_behind rfl chars ['~'], Or.inr ⟨by simp, spelled⟩⟩

/-- Where a spelled path ends with a member, the member is its last name, and what stands before it
spells the other segments or, without such, is empty.

Proof: the member is one of the named segments. Either there is a step before it, whose separator is
the last of the path, or nothing but what leads the path. -/
theorem splitLastName_spelled {others : List Segment}
    (spells : Spells path (others ++ [⟨formatter, .data⟩])) :
    formatter ≠ [] ∧ formatter.all isNameChar = true ∧ ∃ before,
      splitLastName path = (before, formatter) ∧
        (others = [] ∧ before = [] ∨ before ≠ [] ∧ Spells before others) := by
  generalize same : others ++ [⟨formatter, .data⟩] = segments at spells
  cases spells with
  | current =>
    have last := congrArg List.getLast? same
    simp at last
  | @steps lead slash root named count leads trails areNamed nonempty =>
    obtain ⟨names, rfl, rfl⟩ := named_of_member leads same.symm
    have isNamed := areNamed ⟨formatter, .data⟩ (by simp)
    obtain ⟨written, chars⟩ : formatter ≠ [] ∧ formatter.all isNameChar = true := by
      cases isNamed with
      | member nonempty chars => exact ⟨nonempty, chars⟩
    refine ⟨written, chars, ?_⟩
    rw [trails.eq_nil (by simp), List.append_nil, ← List.append_assoc]
    by_cases alone : List.replicate count Segment.enclosing ++ names = []
    · obtain ⟨none, rfl⟩ := List.append_eq_nil_iff.1 alone
      obtain rfl : count = 0 := by simpa using none
      have name : renderAll [⟨formatter, .data⟩] = formatter := List.append_nil formatter
      have root : root ++ List.replicate 0 Segment.enclosing ++ [] = root := by simp
      rw [alone, List.nil_append, name, root]
      exact splitLastName_led leads chars
    · have namesNamed : ∀ segment ∈ names, segment.IsNamed :=
        fun segment member => areNamed segment (List.mem_append_left _ member)
      have areSteps : ∀ segment ∈ List.replicate count Segment.enclosing ++ names,
          IsStep segment := by
        intro segment member
        rcases List.mem_append.1 member with up | inNames
        · exact Or.inr (List.eq_of_mem_replicate up)
        · exact Or.inl (namesNamed segment inNames)
      have front := Spells.steps leads (.nothing count names) namesNamed
        (by rw [List.append_assoc]; exact fun none => alone (List.append_eq_nil_iff.1 none).2)
      rw [List.append_nil] at front
      exact ⟨_, splitLastName_step lead areSteps alone chars, Or.inr ⟨spells_ne_nil front, front⟩⟩

/-! ### Paths that are taken -/

/-- Characters that are taken one after the other are put behind those taken before. -/
theorem written_of_pushes {characters : Text} (taken : characters.foldlM push draft = .ok last) :
    last.written = draft.written ++ characters := by
  induction characters generalizing draft with
  | nil =>
    cases taken
    rw [List.append_nil]
  | cons character rest induction =>
    rw [List.foldlM_cons] at taken
    cases pushed : draft.push character with
    | error fault =>
      rw [pushed] at taken
      cases taken
    | ok next =>
      rw [pushed] at taken
      rw [induction taken, Grammar.push_written pushed, List.append_assoc]
      rfl

/-- Of characters that are taken one after the other and compile, there are segments, these are
written with the same characters but for those that mean nothing, and each is of the kind that its
name stands for; the name of a member consists of characters of names. If the last segment is a
member, then before a `(` it is the name of the formatter, and the receiver is all the others.

Proof: the characters spell the segments. A spelling differs from the written form by what leads and
what trails it, and with its last member cut off it spells the segments before. -/
theorem compile_keeps_path (taken : characters.foldlM push empty = .ok draft) :
    (∀ segments, draft.compile = .ok segments →
      segments ≠ [] ∧
      (Expression.path segments).render = essential characters ∧
      ∀ segment ∈ segments, segment.kind = SegmentKind.ofName segment.name ∧
        (segment.kind = .data → segment.name ≠ [] ∧ segment.name.all isNameChar = true)) ∧
    ∀ receiver formatter, draft.compile = .ok (receiver ++ [⟨formatter, .data⟩]) →
      draft.compileCall = .ok (receiver, formatter) := by
  have written : draft.written = characters := written_of_pushes taken
  unfold compile
  rw [written]
  constructor
  · intro segments read
    have isPath := segmentsOf_isPath read
    exact ⟨isPath_ne_nil isPath, renderAll_eq_essential read,
      fun segment member => kind_of_isPath isPath member⟩
  · intro receiver formatter read
    obtain ⟨nonempty, chars, before, split, shape⟩ := splitLastName_spelled (spells_of_read read)
    rw [compileCall_eq, written, split, if_neg nonempty, chars]
    rcases shape with ⟨rfl, rfl⟩ | ⟨isSome, spells⟩
    · rfl
    · rw [if_neg (by decide), if_neg isSome, read_of_spells spells]
      rfl

/-- A dot behind `~` is left out, also where a step up comes next. -/
theorem compile_keeps_path_climbing :
    let path : Text := "~.../a"
    path.foldlM push empty = .ok ⟨path⟩ ∧
      compile ⟨path⟩ = .ok ([outermost, Segment.enclosing] ++ [⟨"a", .data⟩]) ∧
      (Expression.path [outermost, Segment.enclosing, ⟨"a", .data⟩]).render = essential path ∧
      essential path = "~../a" ∧
      compileCall ⟨path⟩ = .ok ([outermost, Segment.enclosing], "a") := by
  intro path
  have taken : path.foldlM push empty = .ok ⟨path⟩ := rfl
  have compiled : compile ⟨path⟩ = .ok ([outermost, Segment.enclosing] ++ [⟨"a", .data⟩]) := rfl
  obtain ⟨kept, called⟩ := compile_keeps_path taken
  exact ⟨taken, compiled, (kept _ compiled).2.1, rfl, called _ _ compiled⟩

/-- A name may have a receiver although the whole is no path. -/
example : compileCall ⟨"..a"⟩ = .ok ([⟨".", .current⟩], "a") ∧
    compile ⟨"..a"⟩ = .error (.emptySegment "..a") := ⟨rfl, rfl⟩

end PathDraft

end Bracework

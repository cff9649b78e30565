import Bracework.Expression.Reader
import Bracework.Proofs.Expression.Region

/-!
# Where an expression is refused

A refusal carries the text that was left where the fault was found. What a machine still has to read,
and the text from the first character of each path in its arena on, are suffixes of the text it was
started on. A step keeps this, and every fault is found at one of these places, so the text that a
refusal carries is a suffix of the whole as well. Its length then tells a place between two
characters of the text.
-/

namespace Bracework

variable {text tail : Text}

/-! ### What literals leave -/

/-- The body of a string literal leaves a suffix of the text. -/
theorem StringLiteral.readBody_suffix {delimiter : Char} {value : Text}
    (found : readBody delimiter text = some (value, tail)) : tail <:+ text := by
  fun_induction readBody delimiter text generalizing value tail with
  | case1 => cases found
  | case2 => cases found
  | case3 escaped rest kept =>
    rename_i induction
    obtain ⟨⟨body, after⟩, inner, same⟩ := Option.map_eq_some_iff.1 found
    cases same
    exact ((induction inner).trans (List.suffix_cons ..)).trans (List.suffix_cons ..)
  | case4 rest =>
    cases found
    exact List.suffix_cons ..
  | case5 first rest _ _ _ induction =>
    obtain ⟨⟨body, after⟩, inner, same⟩ := Option.map_eq_some_iff.1 found
    cases same
    exact (induction inner).trans (List.suffix_cons ..)

/-- A string literal leaves a suffix of the text. -/
theorem StringLiteral.read_suffix {literal : StringLiteral}
    (found : read text = .ok (literal, tail)) : tail <:+ text := by
  cases text with
  | nil => cases found
  | cons delimiter rest =>
    simp only [read] at found
    split at found
    · rename_i value after body
      cases found
      exact (readBody_suffix body).trans (List.suffix_cons ..)
    · cases found

/-- Behind the digits of a number stands a suffix of the text. -/
theorem NumberLiteral.splitDigits_suffix (text : Text) : (splitDigits text).2.2 <:+ text := by
  have dropped : text.dropWhile isDigit <:+ text := List.dropWhile_suffix isDigit
  unfold splitDigits
  split
  · rename_i digit rest shape
    rw [shape] at dropped
    split
    · have behind : (digit :: rest).dropWhile isDigit <:+ digit :: rest :=
        List.dropWhile_suffix isDigit
      exact (behind.trans (List.suffix_cons ..)).trans dropped
    · exact dropped
  · exact dropped

/-- A number leaves a suffix of the text. -/
theorem NumberLiteral.read_suffix {literal : NumberLiteral}
    (found : read text = .ok (literal, tail)) : tail <:+ text := by
  have behind := splitDigits_suffix text
  simp only [read] at found
  split at found
  · cases found
  · split at found
    · cases found
      exact behind
    · split at found
      · cases found
      · cases found
        exact behind

/-- An operator leaves a suffix of the text. -/
theorem Operator.read?_suffix {operator : Operator}
    (found : Operator.read? text = some (operator, tail)) : tail <:+ text := by
  obtain ⟨candidate, -, matched⟩ := List.exists_of_findSome?_eq_some found
  obtain ⟨rest, rested, same⟩ := Option.map_eq_some_iff.1 matched
  cases same
  rw [Text.after?_eq_some_iff.1 rested]
  exact List.suffix_append ..

/-! ### The paths of an arena -/

namespace Arena

variable {arena : Arena} {part : Part} {id : PartId} {slot : Slot} {name : Option Text}

/-- Every path of an arena begins inside a text. -/
def StartsInside (text : Text) (arena : Arena) : Prop :=
  ∀ id path, arena.part? id = some (.path path) → path.tail <:+ text

/-- A path that is looked up begins inside the text. -/
theorem StartsInside.path? (starts : arena.StartsInside text) {path : PathPart}
    (found : arena.path? id = some path) : path.tail <:+ text := by
  unfold Arena.path? at found
  split at found
  · rename_i present
    cases found
    exact starts id path present
  · cases found

/-- A new part keeps the paths inside the text, unless it is a path that begins outside. -/
theorem StartsInside.alloc (starts : arena.StartsInside text)
    (inside : ∀ path, part = .path path → path.tail <:+ text) :
    (arena.alloc part).StartsInside text := by
  intro target path present
  rw [part?_alloc] at present
  split at present
  · cases present
    exact inside path rfl
  · exact starts target path present

/-- A filled slot moves no path. -/
theorem StartsInside.place (starts : arena.StartsInside text) :
    (arena.place slot id name).StartsInside text := by
  intro target path present
  rw [part?_place] at present
  split at present
  · obtain ⟨owner, before, filled⟩ := Option.map_eq_some_iff.1 present
    cases owner with
    | path part =>
      cases filled
      exact starts target part before
    | number => cases filled
    | string => cases filled
    | list => cases filled
    | operation =>
      simp only [fill] at filled
      split at filled <;> cases filled
  · exact starts target path present

/-- A changed path begins where it began. -/
theorem StartsInside.modifyPath (starts : arena.StartsInside text) {change : PathPart → PathPart}
    (keeps : ∀ path, (change path).tail = path.tail) :
    (arena.modifyPath id change).StartsInside text := by
  intro target path present
  simp only [Arena.modifyPath, part?, Array.getElem?_modify] at present
  split at present
  · obtain ⟨before, found, changed⟩ := Option.map_eq_some_iff.1 present
    cases before with
    | path part =>
      cases changed
      rw [keeps]
      exact starts target part found
    | number => cases changed
    | string => cases changed
    | list => cases changed
    | operation => cases changed
  · exact starts target path present

end Arena

namespace Machine

variable {machine next : Machine} {slot : Slot} {name : Option Text} {id : PartId}
  {character : Char}

/-- A machine that reads a text: what is left and every path begin inside it. -/
structure Inside (text : Text) (machine : Machine) : Prop where
  whole : machine.text = text
  rest : machine.rest <:+ text
  starts : machine.arena.StartsInside text

/-- A step that stays inside a text: it is taken by a machine that does, or refused there. -/
def StaysInside (text : Text) : Except Refusal Machine → Prop
  | .ok next => next.Inside text
  | .error refusal => refusal.tail <:+ text

/-- A new machine reads its text. -/
theorem start_inside (text : Text) : (start text).Inside text where
  whole := rfl
  rest := List.suffix_refl text
  starts := by
    intro id path present
    cases id with
    | zero => cases present
    | succ id => cases present

namespace Inside

/-- The next character is refused inside the text. -/
theorem refuse (inside : machine.Inside text) (fault : ExpressionFault) :
    StaysInside text (machine.refuse fault) := inside.rest

/-- A machine goes on with a suffix of what it had left. -/
theorem advance (inside : machine.Inside text) (behind : tail <:+ machine.rest) :
    (machine.advance tail).Inside text :=
  ⟨inside.whole, behind.trans inside.rest, inside.starts⟩

/-- The frames have no part in where a machine is. -/
theorem push (inside : machine.Inside text) (frame : Frame) : (machine.push frame).Inside text :=
  ⟨inside.whole, inside.rest, inside.starts⟩

/-- Dropping a frame leaves the machine where it is. -/
theorem pop (inside : machine.Inside text) : machine.pop.Inside text :=
  ⟨inside.whole, inside.rest, inside.starts⟩

/-- Another innermost frame leaves the machine where it is. -/
theorem replaceTop (inside : machine.Inside text) (frame : Frame) :
    (machine.replaceTop frame).Inside text :=
  ⟨inside.whole, inside.rest, inside.starts⟩

/-- An inserted part begins inside the text, if it is a path at all. -/
theorem insert (inside : machine.Inside text) {part : Part}
    (begins : ∀ path, part = .path path → path.tail <:+ text) :
    (machine.insert slot name part).Inside text :=
  ⟨inside.whole, inside.rest, (inside.starts.alloc begins).place⟩

/-- A changed path begins where it began. -/
theorem modifyPath (inside : machine.Inside text) (id : PartId) (change : PathPart → PathPart)
    (keeps : ∀ path, (change path).tail = path.tail) :
    ({ machine with arena := machine.arena.modifyPath id change } : Machine).Inside text :=
  ⟨inside.whole, inside.rest, inside.starts.modifyPath keeps⟩

end Inside

/-! ### One step -/

/-- What is behind the next character is left once it is taken. -/
theorem tail_suffix (left : machine.rest = character :: tail) : tail <:+ machine.rest :=
  left ▸ List.suffix_cons ..

theorem argumentStart_inside (inside : machine.Inside text)
    (left : machine.rest = character :: tail) (call : PartId) :
    StaysInside text (machine.argumentStart call character tail) := by
  have behind := tail_suffix left
  unfold argumentStart
  dsimp only
  split
  · exact inside.advance behind
  · split
    · split
      · exact inside.refuse _
      · rename_i bracket after shape
        have dropped : tail.dropWhile (· ≠ ']') <:+ tail := List.dropWhile_suffix (· ≠ ']')
        rw [shape] at dropped
        split
        · exact inside.refuse _
        · exact (inside.advance (((List.suffix_cons ..).trans dropped).trans behind)).replaceTop _
    · exact inside.replaceTop _

theorem operand_inside (inside : machine.Inside text) (left : machine.rest = character :: tail)
    (slot : Slot) (name : Option Text) :
    StaysInside text (machine.operand slot name character tail) := by
  unfold operand
  dsimp only
  split
  · exact inside.advance (tail_suffix left)
  · split
    · split
      · exact inside.refuse _
      · rename_i literal after found
        have inserted : (machine.insert slot name (.string literal)).Inside text :=
          inside.insert (by simp)
        exact (inserted.advance (StringLiteral.read_suffix found)).replaceTop _
    · split
      · split
        · exact inside.refuse _
        · rename_i literal after found
          have inserted : (machine.insert slot name (.number literal)).Inside text :=
            inside.insert (by simp)
          exact (inserted.advance (NumberLiteral.read_suffix found)).replaceTop _
      · split
        · refine (inside.insert ?_).replaceTop _
          rintro path same
          cases same
          exact inside.rest
        · exact inside.refuse _

/-- A path that cannot be finished is refused at its first character. -/
theorem finishPath_inside (inside : machine.Inside text) (id : PartId) :
    StaysInside text (machine.finishPath id) := by
  unfold finishPath
  split
  · exact inside
  · rename_i part found
    split
    · exact inside.starts.path? found
    · exact inside.modifyPath _ _ fun path => rfl

theorem openCall_inside (inside : machine.Inside text) (left : machine.rest = character :: tail)
    (slot : Slot) (name : Option Text) (id : PartId) :
    StaysInside text (machine.openCall slot name id tail) := by
  have trimmed : Text.trimStart isBlank tail <:+ tail := List.dropWhile_suffix isBlank
  unfold openCall
  split
  · exact inside.refuse _
  · rename_i receiver formatter compiled
    have called := inside.modifyPath id
      (fun path => { path with segments := receiver, formatter := some formatter }) fun path => rfl
    have opened := (called.advance (trimmed.trans (tail_suffix left))).replaceTop
      (.expression slot name (.arguments id))
    dsimp only
    split
    · exact opened
    · split
      · exact opened
      · exact opened.push _

theorem pathCharacter_inside (inside : machine.Inside text)
    (left : machine.rest = character :: tail) (slot : Slot) (name : Option Text) (id : PartId) :
    StaysInside text (machine.pathCharacter slot name id character tail) := by
  unfold pathCharacter
  split
  · exact openCall_inside inside left slot name id
  · split
    · have ended := finishPath_inside inside id
      cases finished : machine.finishPath id with
      | error refusal =>
        rw [finished] at ended
        exact ended
      | ok next =>
        rw [finished] at ended
        exact Inside.replaceTop ended _
    · split
      · exact inside.refuse _
      · split
        · exact inside.refuse _
        · rename_i draft pushed
          have grown := inside.modifyPath id (fun path => { path with draft }) fun path => rfl
          exact grown.advance (tail_suffix left)

theorem arguments_inside (inside : machine.Inside text) (left : machine.rest = character :: tail)
    (slot : Slot) (name : Option Text) (id : PartId) :
    StaysInside text (machine.arguments slot name id character tail) := by
  have taken := inside.advance (tail_suffix left)
  unfold arguments
  split
  · exact taken
  · split
    · exact taken.push _
    · split
      · exact taken.replaceTop _
      · exact inside.refuse _

theorem applyOperator_inside (inside : machine.Inside text) (slot : Slot) (name : Option Text)
    (id : PartId) : StaysInside text (machine.applyOperator slot name id) := by
  unfold applyOperator
  split
  · exact inside.refuse _
  · rename_i operator after found
    split
    · exact inside.pop
    · have inserted : (machine.insert slot none (.operation operator id none)).Inside text :=
        inside.insert (by simp)
      have applied := (inserted.advance (Operator.read?_suffix found)).replaceTop
        (.expression slot name (.finished machine.arena.next))
      dsimp only
      split
      · exact applied.push _
      · exact applied

theorem finished_inside (inside : machine.Inside text) (left : machine.rest = character :: tail)
    (slot : Slot) (name : Option Text) (id : PartId) :
    StaysInside text (machine.finished slot name id character tail) := by
  have behind := tail_suffix left
  unfold finished
  split
  · exact inside.advance behind
  · split
    · show (machine.followUp slot id tail).Inside text
      unfold followUp
      split
      · exact (inside.advance behind).replaceTop _
      · have inserted : (machine.insert slot none (.list [id])).Inside text :=
          inside.insert (by simp)
        exact (inserted.advance behind).replaceTop _
    · split
      · split
        · exact inside.refuse _
        · exact inside.pop
      · split
        · exact inside.refuse _
        · split
          · exact applyOperator_inside inside slot name id
          · exact inside.refuse _

/-- A step stays inside the text, whether it is taken or refused. -/
theorem step_inside (inside : machine.Inside text) (left : machine.rest = character :: tail) :
    StaysInside text (machine.step character tail) := by
  unfold step
  split
  · exact inside.refuse _
  · exact argumentStart_inside inside left _
  · split
    · exact operand_inside inside left _ _
    · exact pathCharacter_inside inside left _ _ _
    · exact arguments_inside inside left _ _ _
    · exact finished_inside inside left _ _ _

/-! ### The end of the text -/

/-- A path that the end has finished is refused inside the text, if at all. -/
theorem endPath_inside (inside : machine.Inside text) : StaysInside text machine.endPath := by
  unfold endPath
  split
  · rename_i slot name id below top
    have ended := finishPath_inside inside id
    cases finished : machine.finishPath id with
    | error refusal =>
      rw [finished] at ended
      exact ended
    | ok next =>
      rw [finished] at ended
      exact Inside.replaceTop ended _
  · exact inside

/-- What is missing at the end of the text is missed inside it: at the start of a call, or at the
end. -/
theorem missing?_inside (inside : machine.Inside text) {refusal : Refusal}
    (missing : machine.missing? = some refusal) : refusal.tail <:+ text := by
  have whole : machine.text <:+ text := inside.whole ▸ List.suffix_refl _
  obtain ⟨frame, -, found⟩ := List.exists_of_findSome?_eq_some missing
  cases frame with
  | argumentStart id =>
    cases found
    cases called : machine.arena.path? id with
    | some part => exact inside.starts.path? called
    | none => exact whole
  | expression slot name stage =>
    cases stage with
    | operand =>
      cases found
      exact List.nil_suffix
    | path => cases found
    | arguments id =>
      cases found
      cases called : machine.arena.path? id with
      | some part => exact inside.starts.path? called
      | none => exact whole
    | finished => cases found

/-- At the end of the text, a refusal is inside it. -/
theorem result_inside (inside : machine.Inside text) {refusal : Refusal}
    (refused : machine.result = .error refusal) : refusal.tail <:+ text := by
  have ended := endPath_inside inside
  unfold result at refused
  cases last : machine.endPath with
  | error fault =>
    rw [last] at ended refused
    cases refused
    exact ended
  | ok next =>
    rw [last] at ended refused
    simp only [bind, Except.bind] at refused
    split at refused
    · rename_i found missing
      cases refused
      exact missing?_inside ended missing
    · split at refused
      · cases refused
      · cases refused
        exact inside.whole ▸ List.suffix_refl _

/-- A machine that runs inside a text is refused inside it.

Proof: induction along the run. A refused step is refused inside the text, a step that is taken
leads to a machine inside it, and the end of the text is inside it as well. -/
theorem run_inside (inside : machine.Inside text) {refusal : Refusal}
    (refused : machine.run = .error refusal) : refusal.tail <:+ text := by
  fun_induction run machine with
  | case1 machine left => exact result_inside inside refused
  | case2 machine character tail left fault stepped =>
    have here := step_inside inside left
    rw [stepped] at here
    cases refused
    exact here
  | case3 machine character tail left next stepped induction =>
    have here := step_inside inside left
    rw [stepped] at here
    exact induction here refused

end Machine

/-! ### Texts without the machine -/

namespace Expression

/-- A path that is taken character by character is refused inside the text. -/
theorem takePath_inside {draft : PathDraft} {refusal : Refusal}
    (refused : takePath draft text = .error refusal) : refusal.tail <:+ text := by
  induction text generalizing draft with
  | nil => cases refused
  | cons character rest induction =>
    unfold takePath at refused
    split at refused
    · cases refused
      exact List.suffix_refl _
    · split at refused
      · cases refused
        exact List.suffix_refl _
      · exact (induction refused).trans (List.suffix_cons ..)

/-- A text is refused inside it. -/
theorem readTrimmed_inside {refusal : Refusal} (refused : readTrimmed text = .error refusal) :
    refusal.tail <:+ text := by
  have machine (stopped : (Machine.start text).run = .error refusal) : refusal.tail <:+ text :=
    Machine.run_inside (Machine.start_inside text) stopped
  unfold readTrimmed at refused
  split at refused
  · unfold readPlain at refused
    split at refused
    · split at refused
      · cases refused
        exact List.suffix_refl _
      · cases refused
      · exact machine refused
    · cases taken : takePath PathDraft.empty text with
      | error fault =>
        rw [taken] at refused
        cases refused
        exact takePath_inside taken
      | ok draft =>
        rw [taken] at refused
        simp only [bind, Except.bind] at refused
        split at refused
        · cases refused
          exact List.suffix_refl _
        · cases refused
  · exact machine refused

end Expression

end Bracework

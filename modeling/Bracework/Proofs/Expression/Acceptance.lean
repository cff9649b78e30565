import Bracework.Proofs.Expression.Sequences

/-!
# The language of the expression machine

The machine accepts a text exactly when the grammar reads the whole of it, and the tree in its
arena is then the one that the grammar gives. Both directions follow from one equation: what the
machine ends with is what the grammar reads.
-/

namespace Bracework

namespace Arena

/-- Items that the list of top-level items has taken are read out as one expression. -/
theorem ItemsAdded.whole?_eq {before after : Arena} {items : List Expression}
    (added : ItemsAdded before after root [] items) (nonempty : items ≠ []) :
    after.whole? = some (Grammar.sequenceOf items) := by
  obtain ⟨ids, listed, settled⟩ := added.added
  rw [List.nil_append] at listed
  have depth : after.next - before.next ≤ after.parts.size := Nat.sub_le _ _
  have read : ids.mapM (after.expression? after.parts.size) = some items := settled.value_eq depth
  match ids, listed, read with
  | [], _, read =>
    have unread : items = [] := by simpa [eq_comm] using read
    exact absurd unread nonempty
  | [first], listed, read =>
    obtain ⟨single, value, rfl⟩ :
        ∃ single, after.expression? after.parts.size first = some single ∧ [single] = items := by
      simpa [Option.bind_eq_some_iff] using read
    simp only [whole?, listed, value, Grammar.sequenceOf]
  | first :: second :: others, listed, read =>
    obtain ⟨one, two, more, rfl⟩ : ∃ one two more, one :: two :: more = items := by
      simp only [List.mapM_cons, bind, Option.bind_eq_some_iff] at read
      obtain ⟨one, -, tail, ⟨two, -, more, -, tailShape⟩, shape⟩ := read
      cases tailShape
      exact ⟨one, two, more, Option.some.inj shape⟩
    simp only [whole?, listed, read, Option.map_some, Grammar.sequenceOf]

end Arena

namespace Machine

open Grammar Arena

/-- At the end of its text, a machine with nothing open but the top-level items ends with their
expression; before the end, nothing can follow them. -/
theorem outcome_top {machine : Machine} {before : Arena} {index : Nat} {id : PartId}
    {items : List Expression}
    (top : machine.frames = [.expression ⟨root, index⟩ none (.finished id)])
    (closed : Closed machine.rest) (added : ItemsAdded before machine.arena root [] items)
    (nonempty : items ≠ []) :
    machine.outcome = if machine.rest = [] then some (sequenceOf items) else none := by
  cases left : machine.rest with
  | nil =>
    have ended : machine.endPath = .ok machine := endPath_of_waits top trivial
    have complete : machine.missing? = none := by
      simp only [missing?, top, List.findSome?_cons, List.findSome?_nil]
    rw [outcome_end left, ended, if_pos rfl]
    simp only [Except.toOption, Option.bind_some, complete]
    exact added.whole?_eq nonempty
  | cons character tail =>
    have blank : isBlank character = false := not_blank_of_skip (left ▸ closed.trimmed)
    have dot : character ≠ '.' := by
      rintro rfl
      simpa [left, Text.after?] using closed.dotless
    rw [if_neg (List.cons_ne_nil _ _)]
    by_cases ends : endsArgument character = true
    · apply outcome_refused
        ⟨machine.rest, if character = ')' then .strayClose else .strayComma⟩ left
      simp [step, top, finished, blank, dot, ends, refuse]
    · have waits : Waits (.expression ⟨root, index⟩ none (.finished id)) := trivial
      obtain ⟨refusal, refused⟩ := step_stray top waits left blank (by simpa using ends)
        closed.plain
      exact outcome_refused refusal left refused

/-- What the machine ends with is what the grammar reads. -/
theorem outcome_start (text : Text) : (start text).outcome = readWhole text := by
  have items := (followed text).items (start text) root [] [] rfl rfl rfl
  rw [readWhole]
  cases read : readItems text with
  | none =>
    rw [read] at items
    exact items
  | some found =>
    obtain ⟨several, rest, shorter⟩ := found
    obtain ⟨last, same, left, closed, index, id, top, added⟩ := items.reaches read
    rw [same, outcome_top top closed added (readItems_nonempty read), left]
    cases rest with
    | nil => rfl
    | cons character tail => rfl

/-- The machine accepts exactly the texts that the grammar reads as a whole, and ends with the
expression that the grammar gives.

Proof: the one frame of a new machine waits for the first top-level item, so the machine follows
the items of the grammar. What the grammar leaves unread begins with nothing that continues an
item; the machine refuses it, and otherwise reads the items out of its arena. -/
theorem run_ok_iff_read (text : Text) (expression : Expression) :
    (start text).run = .ok expression ↔ readWhole text = some expression := by
  rw [← outcome_start, outcome]
  cases (start text).run with
  | error refusal => simp [Except.toOption]
  | ok found => simp [Except.toOption]

end Machine

end Bracework

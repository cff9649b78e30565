import Bracework.Lexer.Lexed

/-!
# Brackets of blocks

Each tag of a template opens a block, closes one, does both one after the other, or does neither.
What it does is decided by its form, its name and its place, whatever else is wrong with it. So a
template is a word of brackets, one kind of bracket for each keyword and one for each name of a
path.

Such a word is well nested when it is nothing, or an opening bracket, a well nested word, a closing
bracket that fits, and a well nested word. A stack decides this: an opening bracket is put on it, a
closing bracket takes the top off if it fits, and is stray otherwise. The word is well nested
exactly when there is no stray bracket and nothing is left on the stack.
-/

namespace Bracework

/-- What a closing tag closes: blocks of a keyword, or blocks that a path has opened and that have
a name. -/
inductive ClosingMark where
  | keyword (closer : Closer)
  | path (name : Text)
deriving DecidableEq, Repr

namespace ClosingMark

/-- Whether a closing tag closes a block with a label. -/
def closes : ClosingMark → BlockLabel → Bool
  | .keyword closer, label => closer.ends label.kind
  | .path name, label => label.kind == .scope && label.name == name

end ClosingMark

/-- A tag opens a block, or at an offset closes one. -/
inductive BlockEvent where
  | opens (block : OpenBlock)
  | closes (mark : ClosingMark) (start : Nat)
deriving DecidableEq, Repr

namespace BlockEvent

/-- Events of which each closing one closes what the last opening one before it that is not closed
yet has opened, and all that is opened is closed. -/
inductive WellNested : List BlockEvent → Prop
  | nil : WellNested []
  | block {block : OpenBlock} {mark : ClosingMark} {start : Nat} {inside rest : List BlockEvent}
      (fits : mark.closes block.label) (nested : WellNested inside) (later : WellNested rest) :
      WellNested (.opens block :: (inside ++ .closes mark start :: rest))

/-- The blocks that are open behind an event, the innermost first. A closing event that does not
fit the innermost block leaves all as they are. -/
def after (blocks : List OpenBlock) : BlockEvent → List OpenBlock
  | .opens block => block :: blocks
  | .closes mark _ =>
    match blocks with
    | [] => []
    | block :: rest => if mark.closes block.label then rest else block :: rest

/-- The offset of a closing event that does not fit the innermost of the open blocks. -/
def stray? (blocks : List OpenBlock) : BlockEvent → Option Nat
  | .opens _ => none
  | .closes mark start =>
    if blocks.head?.any fun block => mark.closes block.label then none else some start

/-- The blocks that are left open by events that begin with some blocks open. -/
def leftOpen (blocks : List OpenBlock) (events : List BlockEvent) : List OpenBlock :=
  events.foldl after blocks

/-- The offsets of the closing events that do not fit, among events that begin with some blocks
open. -/
def strays (blocks : List OpenBlock) : List BlockEvent → List Nat
  | [] => []
  | event :: rest => (event.stray? blocks).toList ++ strays (event.after blocks) rest

variable {block : OpenBlock} {blocks : List OpenBlock} {mark : ClosingMark} {start : Nat}
  {events : List BlockEvent}

/-- A closing event that fits takes the innermost block away and is not stray. -/
theorem after_fits (fits : mark.closes block.label) :
    (closes mark start).after (block :: blocks) = blocks ∧
      (closes mark start).stray? (block :: blocks) = none := by
  simp [after, stray?, fits]

/-- A closing event that fits no block is stray and changes nothing. -/
theorem after_misfit (misfit : ∀ innermost ∈ blocks.head?, ¬mark.closes innermost.label) :
    (closes mark start).after blocks = blocks ∧
      (closes mark start).stray? blocks = some start := by
  cases blocks with
  | nil => exact ⟨rfl, rfl⟩
  | cons innermost rest =>
    have differs := misfit innermost rfl
    simp [after, stray?, differs]

@[simp] theorem leftOpen_append (first second : List BlockEvent) :
    leftOpen blocks (first ++ second) = leftOpen (leftOpen blocks first) second :=
  List.foldl_append

/-- Stray events of two words one behind the other. -/
theorem strays_append (first second : List BlockEvent) :
    strays blocks (first ++ second) =
      strays blocks first ++ strays (leftOpen blocks first) second := by
  induction first generalizing blocks with
  | nil => rfl
  | cons event rest induction =>
    rw [List.cons_append, strays, strays, induction, List.append_assoc]
    rfl

/-- A well nested word has no stray event and leaves the blocks around it open. -/
theorem WellNested.run (nested : WellNested events) (blocks : List OpenBlock) :
    leftOpen blocks events = blocks ∧ strays blocks events = [] := by
  induction nested generalizing blocks with
  | nil => exact ⟨rfl, rfl⟩
  | @block block mark start inside rest fits _ _ inner outer =>
    obtain ⟨opened, quiet⟩ := inner (block :: blocks)
    obtain ⟨closed, silent⟩ := outer blocks
    obtain ⟨taken, accepted⟩ : (closes mark start).after (block :: blocks) = blocks ∧
        (closes mark start).stray? (block :: blocks) = none := after_fits fits
    constructor
    · calc leftOpen blocks (.opens block :: (inside ++ .closes mark start :: rest))
          = leftOpen (leftOpen (block :: blocks) inside) (.closes mark start :: rest) :=
            leftOpen_append inside _
        _ = leftOpen ((closes mark start).after (block :: blocks)) rest := by
            rw [opened]
            rfl
        _ = blocks := by rw [taken, closed]
    · have first : strays blocks (.opens block :: (inside ++ .closes mark start :: rest)) =
          strays (block :: blocks) (inside ++ .closes mark start :: rest) := rfl
      rw [first, strays_append, quiet, opened, strays, taken, accepted, silent]
      rfl

/-- Events that close open blocks from the innermost to the outermost: for each block a well nested
word and a closing event that fits it, and a well nested word at the end. -/
inductive ClosesAll : List OpenBlock → List BlockEvent → Prop
  | none {rest : List BlockEvent} (nested : WellNested rest) : ClosesAll [] rest
  | one {block : OpenBlock} {blocks : List OpenBlock} {mark : ClosingMark} {start : Nat}
      {inside rest : List BlockEvent} (fits : mark.closes block.label)
      (nested : WellNested inside) (later : ClosesAll blocks rest) :
      ClosesAll (block :: blocks) (inside ++ .closes mark start :: rest)

/-- Events that close one block more may begin with its opening instead. -/
theorem ClosesAll.opened (closesAll : ClosesAll (block :: blocks) events) :
    ClosesAll blocks (.opens block :: events) := by
  obtain _ | ⟨fits, nested, later⟩ := closesAll
  cases later with
  | none outer => exact .none (.block fits nested outer)
  | one fitsNext outer rest =>
    simpa only [List.cons_append, List.append_assoc] using
      ClosesAll.one fitsNext (.block fits nested outer) rest

/-- Events that leave nothing open and have no stray one close the open blocks one by one. -/
theorem closesAll_of_run (closed : leftOpen blocks events = [])
    (none : strays blocks events = []) : ClosesAll blocks events := by
  induction events generalizing blocks with
  | nil =>
    obtain rfl : blocks = [] := closed
    exact .none .nil
  | cons event rest induction =>
    obtain ⟨fitting, later⟩ := List.append_eq_nil_iff.1 none
    have tail : ClosesAll (event.after blocks) rest := induction closed later
    cases event with
    | opens block => exact tail.opened
    | closes mark start =>
      cases blocks with
      | nil => simp [stray?] at fitting
      | cons block blocks =>
        by_cases fits : mark.closes block.label
        · rw [(after_fits fits).1] at tail
          exact .one fits .nil tail
        · simp [stray?, fits] at fitting

/-- Events are well nested exactly when they have no stray one and leave no block open.

Proof: from right to left the events are read one by one while the blocks that they still have to
close are carried along. Before the first event there is none, so the whole is well nested. -/
theorem wellNested_iff :
    WellNested events ↔ strays [] events = [] ∧ leftOpen [] events = [] := by
  constructor
  · intro nested
    exact ⟨(nested.run []).2, (nested.run []).1⟩
  · rintro ⟨none, closed⟩
    obtain ⟨nested⟩ := closesAll_of_run closed none
    exact nested

end BlockEvent

end Bracework

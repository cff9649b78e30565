import Bracework.Proofs.Expression.Grammar

/-!
# The rules of the grammar as equations

Each rule of the grammar gives with its value a text that is proved to be shorter, which is what
lets the rules call each other. Where a rule is only used, the proof is in the way. Here the same
rules give the value and the text alone, and one equation for each rule says how it reads in terms
of the others.
-/

namespace Bracework.Grammar

/-- What a rule gives, without the proof about the text that is left. -/
def bare {value : Type} {property : Text → Prop}
    (found : Option (value × { rest : Text // property rest })) : Option (value × Text) :=
  found.map fun (value, rest) => (value, rest.val)

/-- Reads an operand. -/
def operand? (text : Text) : Option (Expression × Text) := bare (readOperand text)

/-- Reads a path or a call. -/
def pathOrCall? (text : Text) : Option (Expression × Text) := bare (readPath text)

/-- Reads the arguments behind a `(`. -/
def arguments? (text : Text) : Option (List (Argument Expression) × Text) :=
  bare (readArguments text)

/-- Reads one argument and those behind it. -/
def argumentList? (text : Text) : Option (List (Argument Expression) × Text) :=
  bare (readArgumentList text)

/-- Reads an argument. -/
def argument? (text : Text) : Option (Argument Expression × Text) := bare (readArgument text)

/-- Reads chains with dots between them. -/
def itemList? (text : Text) : Option (List Expression × Text) := bare (readItems text)

/-- Reads an operand and the operators behind it. -/
def chain? (text : Text) : Option (Expression × Text) := bare (readChain text)

/-- Reads the operators behind an operand. -/
def links? (left : Expression) (text : Text) : Option (Expression × Text) :=
  bare (readLinks left text)

/-- Reads the right side of an operator. -/
def right? (text : Text) : Option (Expression × Text) := bare (readRight text)

/-- An operand is what its first character begins. -/
theorem operand?_eq (text : Text) : operand? text =
    match skip text with
    | [] => none
    | first :: tail =>
      if isQuote first then
        match StringLiteral.read (first :: tail) with
        | .error _ => none
        | .ok (literal, rest) => some (.string literal, skip rest)
      else if isDigit first then
        match NumberLiteral.read (first :: tail) with
        | .error _ => none
        | .ok (literal, rest) => some (.number literal, skip rest)
      else if beginsPath first then
        (pathOrCall? (first :: tail)).map fun (expression, rest) => (expression, skip rest)
      else none := by
  rw [operand?, readOperand]
  split
  · rename_i empty
    simp only [empty]
    rfl
  · rename_i first tail skipped
    simp only [skipped]
    split
    · split
      · rename_i refused
        simp only [refused]
        rfl
      · rename_i literal rest found
        simp only [found]
        rfl
    · split
      · split
        · rename_i refused
          simp only [refused]
          rfl
        · rename_i literal rest found
          simp only [found]
          rfl
      · split
        · dsimp only [pathOrCall?, bare]
          cases readPath (first :: tail) <;> rfl
        · rfl

/-- A path is what its draft compiles to, and a call when a bracket opens directly behind it. -/
theorem pathOrCall?_eq (text : Text) : pathOrCall? text =
    match readDraft PathDraft.empty text with
    | none => none
    | some (draft, rest) =>
      match Text.after? ['('] rest with
      | some inside =>
        match draft.compileCall with
        | .error _ => none
        | .ok (receiver, formatter) =>
          (arguments? inside).map fun (arguments, behind) =>
            (.call receiver formatter arguments, behind)
      | none =>
        match draft.compile with
        | .error _ => none
        | .ok segments => some (.path segments, rest) := by
  rw [pathOrCall?, readPath]
  split
  · rename_i missing
    simp only [missing]
    rfl
  · rename_i draft rest taken
    simp only [taken]
    split
    · rename_i inside opened
      simp only [opened]
      cases draft.compileCall with
      | error fault => rfl
      | ok parts =>
        dsimp only [arguments?, bare]
        cases readArguments inside <;> rfl
    · rename_i missing
      simp only [missing]
      split
      · rename_i refused
        simp only [refused]
        rfl
      · rename_i segments compiled
        simp only [compiled]
        rfl

/-- Arguments are none when the bracket closes at once. -/
theorem arguments?_eq (text : Text) : arguments? text =
    match Text.after? [')'] (skip text) with
    | some rest => some ([], rest)
    | none => argumentList? text := by
  rw [arguments?, readArguments]
  split
  · rename_i rest closed
    simp only [closed]
    rfl
  · rename_i missing
    simp only [missing]
    rfl

/-- Behind an argument stands a comma and another, or the closing bracket. -/
theorem argumentList?_eq (text : Text) : argumentList? text =
    match argument? text with
    | none => none
    | some (argument, rest) =>
      match Text.after? [','] rest with
      | some next =>
        (argumentList? next).map fun (arguments, behind) => (argument :: arguments, behind)
      | none => (Text.after? [')'] rest).map fun behind => ([argument], behind) := by
  rw [argumentList?, readArgumentList, argument?]
  cases readArgument text with
  | none => rfl
  | some found =>
    obtain ⟨argument, rest, shorter⟩ := found
    dsimp only [bare, Option.map_some]
    split
    · rename_i next separated
      simp only [separated]
      dsimp only [argumentList?, bare]
      cases readArgumentList next <;> rfl
    · rename_i missing
      simp only [missing]
      split
      · rename_i behind closed
        simp only [closed]
        rfl
      · rename_i none
        simp only [none]
        rfl

/-- An argument is its name, if there is one, and its items. -/
theorem argument?_eq (text : Text) : argument? text =
    match readName (skip text) with
    | none => none
    | some (name, rest) =>
      (itemList? rest).map fun (items, behind) => (⟨name, sequenceOf items⟩, behind) := by
  rw [argument?, readArgument]
  split
  · rename_i missing
    simp only [missing]
    rfl
  · rename_i name rest named
    simp only [named]
    dsimp only [itemList?, bare]
    cases readItems rest <;> rfl

/-- Items are chains with dots between them. -/
theorem itemList?_eq (text : Text) : itemList? text =
    match chain? text with
    | none => none
    | some (chain, after) =>
      match Text.after? ['.'] after with
      | some next => (itemList? next).map fun (items, behind) => (chain :: items, behind)
      | none => some ([chain], after) := by
  rw [itemList?, readItems, chain?]
  cases readChain text with
  | none => rfl
  | some found =>
    obtain ⟨chain, after, shorter⟩ := found
    dsimp only [bare, Option.map_some]
    split
    · rename_i next dotted
      simp only [dotted]
      dsimp only [itemList?, bare]
      cases readItems next <;> rfl
    · rename_i missing
      simp only [missing]
      rfl

/-- A chain is an operand and the operators behind it. -/
theorem chain?_eq (text : Text) : chain? text =
    match operand? text with
    | none => none
    | some (operand, rest) => links? operand rest := by
  rw [chain?, readChain, operand?]
  cases readOperand text with
  | none => rfl
  | some found =>
    obtain ⟨operand, rest, shorter⟩ := found
    dsimp only [bare, Option.map_some, links?]
    cases readLinks operand rest <;> rfl

/-- Behind an expression, each operator takes it as its left side. -/
theorem links?_eq (left : Expression) (text : Text) : links? left text =
    match Operator.read? text with
    | none => some (left, text)
    | some (.invert, rest) => links? (.invert left) (skip rest)
    | some (.binary operator, rest) =>
      match right? rest with
      | none => none
      | some (right, after) => links? (.binary operator left right) after := by
  rw [links?, readLinks]
  split
  · rename_i missing
    simp only [missing]
    rfl
  · rename_i rest found
    simp only [found]
    dsimp only [links?, bare]
    cases readLinks (.invert left) (skip rest) <;> rfl
  · rename_i operator rest found
    simp only [found]
    dsimp only [right?, bare]
    cases readRight rest with
    | none => rfl
    | some right =>
      obtain ⟨right, after, shorter⟩ := right
      dsimp only [links?, bare, Option.map_some]
      cases readLinks (.binary operator left right) after <;> rfl

/-- A right side is an operand, and a sequence when a dot stands behind the operand. -/
theorem right?_eq (text : Text) : right? text =
    match operand? text with
    | none => none
    | some (first, rest) =>
      match Text.after? ['.'] rest with
      | some next =>
        (itemList? next).map fun (items, behind) => (.sequence (first :: items), behind)
      | none => some (first, rest) := by
  rw [right?, readRight, operand?]
  cases readOperand text with
  | none => rfl
  | some found =>
    obtain ⟨first, rest, shorter⟩ := found
    dsimp only [bare, Option.map_some]
    split
    · rename_i next dotted
      simp only [dotted]
      dsimp only [itemList?, bare]
      cases readItems next <;> rfl
    · rename_i missing
      simp only [missing]
      rfl

end Bracework.Grammar

import Bracework.Proofs.Expression.Legible
import Bracework.Proofs.Expression.PathSpelling

/-!
# Written operands

A written literal is read as itself, a number where it is complete before what follows it. A written
path or call is read as itself when it begins with a character that begins a path and does not lose
its second step; a path, moreover, must have no dot behind it.
-/

namespace Bracework

variable {text rest after : Text}

/-! ### Strings -/

namespace StringLiteral
variable {literal : StringLiteral} {delimiter : Char} {value : Text}
/-- The characters of a literal as they stand between its quotes. -/
def escaped (delimiter : Char) (value : Text) : Text :=
  value.flatMap fun character =>
    if character = delimiter then ['\\', character] else [character]

/-- A quote takes a backslash. -/
theorem escaped_quote (delimiter : Char) (value : Text) :
    escaped delimiter (delimiter :: value) = '\\' :: delimiter :: escaped delimiter value := by
  rw [escaped, List.flatMap_cons, if_pos rfl]
  rfl

/-- Any other character stands for itself. -/
theorem escaped_other {character : Char} (other : character ≠ delimiter) (value : Text) :
    escaped delimiter (character :: value) = character :: escaped delimiter value := by
  rw [escaped, List.flatMap_cons, if_neg other]
  rfl

/-- Behind a backslash, a quote is kept alone and any other character with the backslash. -/
theorem readBody_escape (character : Char) (text : Text) :
    readBody delimiter ('\\' :: character :: text) =
      (readBody delimiter text).map fun body =>
        ((if character = delimiter then [character] else ['\\', character]) ++ body.1, body.2) := by
  rw [readBody]

/-- A character that is no backslash ends the body or belongs to it. -/
theorem readBody_plain {character : Char} (plain : character ≠ '\\') (text : Text) :
    readBody delimiter (character :: text) =
      if character = delimiter then some ([], text)
      else (readBody delimiter text).map fun body => (character :: body.1, body.2) := by
  rw [readBody]
  · exact fun same => absurd same plain
  · exact fun _ _ same => absurd same plain

/-- The body of a literal is read as itself when it is written. -/
theorem readBody_escaped (notEscape : delimiter ≠ '\\')
    (found : readBody delimiter text = some (value, rest)) :
    readBody delimiter (escaped delimiter value ++ delimiter :: after) = some (value, after) := by
  fun_induction readBody delimiter text generalizing value with
  | case1 => cases found
  | case2 => cases found
  | case3 character text kept =>
    rename_i induction
    obtain ⟨⟨body, last⟩, inner, same⟩ := Option.map_eq_some_iff.1 found
    cases same
    have again := induction inner
    dsimp only [kept]
    by_cases quote : character = delimiter
    · rw [if_pos quote, quote, List.singleton_append, escaped_quote, List.cons_append,
        List.cons_append, readBody_escape, again, if_pos rfl]
      rfl
    · rw [if_neg quote, List.cons_append, List.singleton_append, escaped_other notEscape.symm,
        escaped_other quote, List.cons_append, List.cons_append, readBody_escape, again,
        if_neg quote]
      rfl
  | case4 text escape escapeMore =>
    cases found
    exact (readBody_plain notEscape after).trans (if_pos rfl)
  | case5 character text escape escapeMore other induction =>
    obtain ⟨⟨body, last⟩, inner, same⟩ := Option.map_eq_some_iff.1 found
    cases same
    have plain : character ≠ '\\' := by
      rintro rfl
      cases text with
      | nil => exact escape rfl rfl
      | cons first rest => exact escapeMore first rest rfl rfl
    rw [escaped_other other, List.cons_append, readBody_plain plain, if_neg other, induction inner]
    rfl

/-- A literal that has been read has its quote around it. -/
theorem delimiter_of_read {first : Char} {tail : Text}
    (found : read (first :: tail) = .ok (literal, rest)) : literal.delimiter = first := by
  rw [read] at found
  split at found
  · cases found
    rfl
  · cases found

/-- A written literal is read as itself. -/
theorem read_render {first : Char} {tail : Text} (quote : isQuote first = true)
    (found : read (first :: tail) = .ok (literal, rest)) (after : Text) :
    read (literal.render ++ after) = .ok (literal, after) := by
  have notEscape : first ≠ '\\' := by
    rintro rfl
    cases quote
  rw [read] at found
  split at found
  · rename_i value last body
    cases found
    have whole : (⟨value, first⟩ : StringLiteral).render ++ after =
        first :: (escaped first value ++ first :: after) := by
      simp [render, escaped]
    rw [whole, read, readBody_escaped notEscape body]
  · cases found

end StringLiteral

/-! ### Numbers -/

namespace NumberLiteral

variable {literal : NumberLiteral} {digits whole fraction : Text}

/-- The literal with a point between two runs of digits. -/
def withPoint (whole fraction : Text) : NumberLiteral :=
  ⟨whole ++ "." ++ fraction,
    .decimal (Binary64.ofRatio (valueOf (whole ++ fraction)) (Nat.pow 10 fraction.length))⟩

/-- The numbers that are read: digits, perhaps with a point and more digits behind it. -/
inductive IsWritten : NumberLiteral → Prop
  | integer {digits : Text} (nonempty : digits ≠ []) (areDigits : ∀ digit ∈ digits, isDigit digit)
      (small : valueOf digits < integerLimit) : IsWritten ⟨digits, .integer (valueOf digits)⟩
  | decimal {whole fraction : Text} (wholeNonempty : whole ≠ []) (nonempty : fraction ≠ [])
      (wholeDigits : ∀ digit ∈ whole, isDigit digit)
      (areDigits : ∀ digit ∈ fraction, isDigit digit) : IsWritten (withPoint whole fraction)

/-- A point and a digit behind it: only such a point belongs to a number. -/
def HasPoint (text : Text) : Prop :=
  ∃ digit rest, text = '.' :: digit :: rest ∧ isDigit digit = true

/-- Behind a point that belongs to a number stands a run of digits. -/
theorem HasPoint.shape (point : HasPoint text) : ∃ fraction last,
    text = '.' :: (fraction ++ last) ∧ fraction ≠ [] ∧ (∀ digit ∈ fraction, isDigit digit) ∧
      ∀ first ∈ last.head?, isDigit first = false := by
  obtain ⟨digit, rest, rfl, isFirst⟩ := point
  refine ⟨(digit :: rest).takeWhile isDigit, (digit :: rest).dropWhile isDigit,
    by rw [List.takeWhile_append_dropWhile], ?_, List.all_eq_true.1 List.all_takeWhile,
    Text.trimStart_stays isDigit (digit :: rest)⟩
  rw [List.takeWhile_cons, if_pos isFirst]
  exact List.cons_ne_nil _ _

/-- A whole number is complete where no point belongs to it. -/
theorem stays_integer_iff {raw : Text} {value : Nat} :
    (Expression.number ⟨raw, .integer value⟩).stays after = true ↔ ¬HasPoint after := by
  unfold Expression.stays
  split
  · rename_i same
    cases same
  · rename_i digit rest same
    constructor
    · rintro stays ⟨_, _, shape, isFirst⟩
      cases shape
      rw [isFirst] at stays
      cases stays
    · intro pointless
      rw [Bool.not_eq_true', Bool.eq_false_iff]
      exact fun isFirst => pointless ⟨digit, rest, rfl, isFirst⟩
  · rename_i other
    refine ⟨fun _ => ?_, fun _ => rfl⟩
    rintro ⟨digit, rest, rfl, -⟩
    exact other raw value digit rest rfl rfl

/-- Digits with no point behind them are a whole number. -/
theorem read_integer (areDigits : ∀ digit ∈ digits, isDigit digit)
    (ends : ∀ first ∈ after.head?, isDigit first = false) (pointless : ¬HasPoint after) :
    read (digits ++ after) =
      if after.head?.any isNameChar then .error (.malformed digits)
      else if digits = [] ∨ integerLimit ≤ valueOf digits then .error (.outOfRange digits)
      else .ok (⟨digits, .integer (valueOf digits)⟩, after) := by
  have split : splitDigits (digits ++ after) = (digits, none, after) := by
    obtain ⟨taken, left⟩ := Text.span_append areDigits ends
    rw [splitDigits, taken, left]
    split
    · rename_i digit rest
      rw [if_neg fun isFirst => pointless ⟨digit, rest, rfl, isFirst⟩]
    · rfl
  rw [read, split]

/-- Digits with a point and digits behind them are a decimal number. -/
theorem read_decimal (wholeDigits : ∀ digit ∈ whole, isDigit digit) (nonempty : fraction ≠ [])
    (areDigits : ∀ digit ∈ fraction, isDigit digit)
    (ends : ∀ first ∈ after.head?, isDigit first = false) :
    read (whole ++ '.' :: (fraction ++ after)) =
      if after.head?.any isNameChar then .error (.malformed (whole ++ "." ++ fraction))
      else .ok (withPoint whole fraction, after) := by
  have split : splitDigits (whole ++ '.' :: (fraction ++ after)) =
      (whole, some fraction, after) := by
    have point : ∀ first ∈ ('.' :: (fraction ++ after)).head?, isDigit first = false := by
      intro first found
      cases found
      rfl
    obtain ⟨taken, left⟩ := Text.span_append wholeDigits point
    obtain ⟨takenBehind, leftBehind⟩ := Text.span_append areDigits ends
    obtain ⟨digit, digits, rfl⟩ := List.exists_cons_of_ne_nil nonempty
    rw [List.cons_append] at taken left takenBehind leftBehind ⊢
    rw [splitDigits, taken, left]
    simp only [areDigits digit (List.mem_cons_self ..), if_true, takenBehind, leftBehind]
  rw [read, split]
  rfl

/-- A number is made of digits at both ends. -/
theorem IsWritten.ends (isWritten : literal.IsWritten) :
    literal.raw.head?.any isDigit = true ∧ ∀ last ∈ literal.raw.getLast?, isDigit last = true := by
  cases isWritten with
  | @integer digits nonempty areDigits =>
    obtain ⟨first, rest, rfl⟩ := List.exists_cons_of_ne_nil nonempty
    exact ⟨areDigits first (List.mem_cons_self ..),
      fun last found => areDigits last (List.mem_of_getLast? found)⟩
  | @decimal whole fraction wholeNonempty nonempty wholeDigits areDigits =>
    obtain ⟨first, rest, rfl⟩ := List.exists_cons_of_ne_nil wholeNonempty
    refine ⟨wholeDigits first (List.mem_cons_self ..), fun last found => areDigits last ?_⟩
    rw [withPoint, List.getLast?_append, List.getLast?_eq_some_getLast nonempty] at found
    cases found
    exact List.getLast_mem nonempty

/-- A number that is read is made of digits. -/
theorem read_isWritten {first : Char} {tail : Text} (digit : isDigit first = true)
    (found : read (first :: tail) = .ok (literal, rest)) : literal.IsWritten := by
  let whole := (first :: tail).takeWhile isDigit
  have wholeNonempty : whole ≠ [] := by
    simp only [whole, List.takeWhile_cons, digit, if_true]
    exact List.cons_ne_nil _ _
  have wholeDigits : ∀ digit ∈ whole, isDigit digit := List.all_eq_true.1 List.all_takeWhile
  have left : first :: tail = whole ++ (first :: tail).dropWhile isDigit :=
    List.takeWhile_append_dropWhile.symm
  have ends : ∀ next ∈ ((first :: tail).dropWhile isDigit).head?, isDigit next = false :=
    Text.trimStart_stays isDigit (first :: tail)
  generalize (first :: tail).dropWhile isDigit = after at left ends
  rw [left] at found
  by_cases point : HasPoint after
  · obtain ⟨fraction, last, rfl, nonempty, areDigits, lastEnds⟩ := point.shape
    rw [read_decimal wholeDigits nonempty areDigits lastEnds] at found
    split at found
    · cases found
    · cases found
      exact .decimal wholeNonempty nonempty wholeDigits areDigits
  · rw [read_integer wholeDigits ends point] at found
    split at found
    · cases found
    · split at found
      · cases found
      · rename_i small
        cases found
        exact .integer wholeNonempty wholeDigits (Nat.lt_of_not_le (not_or.1 small).2)

/-- A written number is read as itself where it is complete. -/
theorem read_raw_iff (isWritten : literal.IsWritten) (continues : Continues after) :
    read (literal.raw ++ after) = .ok (literal, rest) ↔
      (Expression.number literal).stays after = true ∧ rest = after := by
  have notName := continues.notName
  have ends : ∀ first ∈ after.head?, isDigit first = false := by
    intro first found
    rw [Option.mem_def.1 found] at notName
    apply Bool.eq_false_iff.2
    intro digit
    rw [Option.any_some, (digit_plain digit).1] at notName
    cases notName
  cases isWritten with
  | integer nonempty areDigits small =>
    rw [stays_integer_iff]
    by_cases point : HasPoint after
    · refine ⟨fun found => ?_, fun found => absurd point found.1⟩
      obtain ⟨fraction, last, rfl, some, fractionDigits, lastEnds⟩ := point.shape
      rw [read_decimal areDigits some fractionDigits lastEnds] at found
      split at found
      · cases found
      · have same := congrArg NumberLiteral.value (Prod.mk.inj (Except.ok.inj found)).1
        simp [withPoint] at same
    · rw [read_integer areDigits ends point, notName, if_neg Bool.false_ne_true,
        if_neg (not_or.2 ⟨nonempty, Nat.not_le.2 small⟩)]
      simp [point, eq_comm]
  | @decimal whole fraction wholeNonempty nonempty wholeDigits areDigits =>
    have shape : (withPoint whole fraction).raw ++ after = whole ++ '.' :: (fraction ++ after) := by
      simp [withPoint]
    have stays : (Expression.number (withPoint whole fraction)).stays after = true := by
      simp [Expression.stays, withPoint]
    rw [shape, read_decimal wholeDigits nonempty areDigits ends, notName,
      if_neg Bool.false_ne_true, stays]
    simp [eq_comm]

end NumberLiteral

/-! ### Paths and calls -/

namespace PathDraft

open Segment

variable {draft : PathDraft} {segments receiver : List Segment} {formatter : Text}

/-- A path stops where no character continues it. -/
theorem readDraft_stops (draft : PathDraft)
    (stops : ∀ first ∈ text.head?, ∀ draft, Grammar.continuesPath draft first = false) :
    Grammar.readDraft draft text = some (draft, text) := by
  cases text with
  | nil => rfl
  | cons first rest => simp [Grammar.readDraft, stops first rfl draft]

/-- Behind a path that may be empty, a call has the name of its formatter. -/
theorem compileCall_eq (draft : PathDraft) : draft.compileCall =
    if (splitLastName draft.written).2 = [] then .error .missingFormatter
    else if (!(splitLastName draft.written).2.all isNameChar) = true then
      .error (.invalidFormatter (splitLastName draft.written).2)
    else if (splitLastName draft.written).1 = [] then .ok ([], (splitLastName draft.written).2)
    else (segmentsOf (splitLastName draft.written).1).map fun segments =>
      (segments, (splitLastName draft.written).2) := by
  unfold compileCall
  obtain ⟨before, name⟩ := splitLastName draft.written
  dsimp only
  by_cases empty : name = []
  · rw [if_pos empty, if_pos empty]
    rfl
  by_cases strange : (!name.all isNameChar) = true
  · rw [if_neg empty, if_neg empty, if_pos strange, if_pos strange]
    rfl
  by_cases none : before = []
  · rw [if_neg empty, if_neg empty, if_neg strange, if_neg strange, if_pos none, if_pos none]
    rfl
  · rw [if_neg empty, if_neg empty, if_neg strange, if_neg strange, if_neg none, if_neg none]
    cases segmentsOf before <;> rfl

/-- The parts of a call that are read: the name of the formatter, and nothing or a path before
it. -/
structure IsCall (receiver : List Segment) (formatter : Text) : Prop where
  nonempty : formatter ≠ []
  names : formatter.all isNameChar = true
  path : receiver = [] ∨ IsPath receiver

/-- The parts of a call are a path and a name. -/
theorem compileCall_isCall (compiled : draft.compileCall = .ok (receiver, formatter)) :
    IsCall receiver formatter := by
  rw [compileCall_eq] at compiled
  split at compiled
  · cases compiled
  · rename_i nonempty
    split at compiled
    · cases compiled
    · rename_i plain
      have names : (splitLastName draft.written).2.all isNameChar = true := by
        simpa only [Bool.not_eq_true', Bool.not_eq_false] using plain
      split at compiled
      · cases compiled
        exact ⟨nonempty, names, Or.inl rfl⟩
      · cases read : segmentsOf (splitLastName draft.written).1 with
        | error fault =>
          rw [read] at compiled
          cases compiled
        | ok segments =>
          rw [read] at compiled
          cases compiled
          exact ⟨nonempty, names, Or.inr (segmentsOf_isPath read)⟩

/-- A path that has been read is written as something. -/
theorem renderAll_nonempty (isPath : IsPath segments) : renderAll segments ≠ [] := by
  cases isPath with
  | current => exact List.cons_ne_nil _ _
  | @steps root named isRoot count areNamed nonempty =>
    rcases isRoot with rfl | rfl
    · obtain ⟨first, others, shape, -⟩ := renderAll_steps count areNamed (by simpa using nonempty)
      rw [List.nil_append, shape]
      exact List.cons_ne_nil _ _
    · exact List.cons_ne_nil _ _

/-- What a path takes from its start begins an operand. -/
theorem begins_of_takes (takes : empty.Takes text) (nonempty : text ≠ []) :
    text.head?.any beginsOperand = true := by
  obtain ⟨first, rest, rfl⟩ := List.exists_cons_of_ne_nil nonempty
  obtain ⟨⟨continues, isChar, -⟩, -⟩ := takes
  have notSlash : first ≠ '/' := by
    rintro rfl
    cases continues
  simp [beginsOperand, isChar, notSlash]

/-- The characters of a name separate no names, from whichever end they are looked at. -/
theorem names_reverse (names : formatter.all isNameChar = true) :
    ∀ character ∈ formatter.reverse, (!separatesNames character) = true := by
  intro character member
  have name := List.all_eq_true.1 names character (List.mem_reverse.1 member)
  simp [(nameChar_plain name).2.2.2.1]

/-- Before a name alone stands nothing. -/
theorem splitLastName_alone (names : formatter.all isNameChar = true) :
    splitLastName formatter = ([], formatter) := by
  obtain ⟨taken, left⟩ := Text.span_append (names_reverse names)
    (show ∀ character ∈ ([] : Text).head?, (!separatesNames character) = false by simp)
  rw [List.append_nil] at taken left
  unfold splitLastName
  simp only [taken, left, List.reverse_reverse]

/-- The last name of a text stands behind the last character that separates names. Only a `~` is
kept in front of it. -/
theorem splitLastName_behind {mark : Char} (separates : separatesNames mark = true)
    (names : formatter.all isNameChar = true) (before : Text) :
    splitLastName (before ++ mark :: formatter) =
      (if mark = '~' then before ++ [mark] else before, formatter) := by
  have reversed : (before ++ mark :: formatter).reverse =
      formatter.reverse ++ mark :: before.reverse := by
    simp
  obtain ⟨taken, left⟩ := Text.span_append (names_reverse names)
    (show ∀ character ∈ (mark :: before.reverse).head?, (!separatesNames character) = false by
      simpa using separates)
  unfold splitLastName
  simp only [reversed, taken, left, List.reverse_reverse, List.reverse_cons]

/-- The last name of a written call is its formatter. -/
theorem splitLastName_written (isCall : IsCall receiver formatter) :
    splitLastName (Expression.renderReceiver receiver ++ formatter) =
      (renderAll receiver, formatter) := by
  cases receiver with
  | nil => exact splitLastName_alone isCall.names
  | cons first rest =>
    have whole : Expression.renderReceiver (first :: rest) ++ formatter =
        renderAll (first :: rest) ++ '.' :: formatter := by
      simp [Expression.renderReceiver]
    rw [whole, splitLastName_behind rfl isCall.names, if_neg (by decide)]

/-- A written call is read as its parts, unless its path loses a dot. -/
theorem compileCall_written (isCall : IsCall receiver formatter) :
    (⟨Expression.renderReceiver receiver ++ formatter⟩ : PathDraft).compileCall =
      .ok (receiver, formatter) ↔ ¬LosesDot receiver := by
  have split := splitLastName_written isCall
  obtain ⟨nonempty, names, path⟩ := isCall
  rcases path with rfl | isPath
  · have compiled : (⟨Expression.renderReceiver [] ++ formatter⟩ : PathDraft).compileCall =
        .ok ([], formatter) := by
      rw [compileCall_eq, split, if_neg nonempty, names]
      rfl
    exact ⟨fun _ => id, fun _ => compiled⟩
  · have compiled : (⟨Expression.renderReceiver receiver ++ formatter⟩ : PathDraft).compileCall =
        (segmentsOf (renderAll receiver)).map fun segments => (segments, formatter) := by
      rw [compileCall_eq, split, if_neg nonempty, names, if_neg (by decide),
        if_neg (renderAll_nonempty isPath)]
    rw [compiled]
    constructor
    · intro read loses
      cases found : segmentsOf (renderAll receiver) with
      | error fault =>
        rw [found] at read
        cases read
      | ok segments => exact segmentsOf_losesDot loses segments found
    · intro keeps
      rw [segmentsOf_renderAll isPath keeps]
      rfl

/-- The characters of a written call are taken. -/
theorem takes_call (isCall : IsCall receiver formatter) :
    empty.Takes (Expression.renderReceiver receiver ++ formatter) := by
  obtain ⟨nonempty, names, path⟩ := isCall
  cases receiver with
  | nil => exact takes_name names rfl
  | cons first rest =>
    have isPath : IsPath (first :: rest) := path.resolve_left (List.cons_ne_nil _ _)
    have dot := takes_dot ⟨renderAll (first :: rest)⟩
    rw [Expression.renderReceiver, List.isEmpty_cons, if_neg Bool.false_ne_true, takes_append,
      takes_append]
    exact ⟨⟨takes_renderAll isPath, dot⟩,
      takes_name names (endsInSelector_of_start (atSegmentStart_behind '.' rfl _))⟩

end PathDraft

namespace Grammar

open Segment PathDraft

variable {segments receiver : List Segment} {formatter : Text} {expression : Expression}
  {arguments : List (Argument Expression)}

/-- A written path is read as itself in front of anything but a dot. -/
theorem pathOrCall?_written_iff (isPath : IsPath segments) (ends : Ends after) :
    pathOrCall? (renderAll segments ++ after) = some (.path segments, rest) ↔
      ¬LosesDot segments ∧ rest = after := by
  have stops : readDraft ⟨renderAll segments⟩ after = some (⟨renderAll segments⟩, after) :=
    readDraft_stops _ fun first found => (ends.head first found).2.2.2
  have taken : readDraft PathDraft.empty (renderAll segments ++ after) =
      some (⟨renderAll segments⟩, after) := by
    rw [(takes_renderAll isPath).readDraft]
    exact stops
  have uncalled : Text.after? ['('] after = none := by
    cases after with
    | nil => rfl
    | cons first tail => simp [Text.after?, (ends.head first rfl).2.1.symm]
  rw [pathOrCall?_eq]
  simp only [taken, uncalled, PathDraft.compile]
  by_cases loses : LosesDot segments
  · have refused (found : List Segment) := segmentsOf_losesDot loses found
    cases read : segmentsOf (renderAll segments) with
    | error fault => simp [loses]
    | ok found => exact absurd read (refused found)
  · simp [segmentsOf_renderAll isPath loses, loses, eq_comm]

/-- A written path with a dot and the start of an operand behind it is not read as itself. -/
theorem pathOrCall?_dotted (isPath : IsPath segments) {first : Char}
    (begins : beginsOperand first = true) (more : Text) :
    pathOrCall? (renderAll segments ++ '.' :: first :: more) ≠ some (.path segments, rest) := by
  intro read
  obtain ⟨draft, behind, taken, found⟩ := pathOrCall?_cases read
  obtain ⟨found, same, compiled, -⟩ : ∃ found, Expression.path segments = .path found ∧
      draft.compile = .ok found ∧ rest = behind := by
    rcases found with path | ⟨inside, receiver, formatter, arguments, call, -⟩
    · exact path
    · cases call
  cases same
  have dot : PathDraft.empty.Takes (renderAll segments ++ ['.']) :=
    (takes_append _ _).2 ⟨takes_renderAll isPath, takes_dot _⟩
  rw [List.append_cons, dot.readDraft, readDraft, if_pos ((beginsOperand_plain begins).2.2.2.2 _)]
    at taken
  split at taken
  · split at taken
    · cases taken
    · rename_i next pushed
      obtain ⟨others, written, -⟩ := readDraft_taken taken
      have notSlash : first ≠ '/' := by
        rintro rfl
        cases begins
      have whole : draft.written = renderAll segments ++ '.' :: first :: others := by
        rw [written, push_written pushed]
        simp [PathDraft.empty]
      rw [PathDraft.compile, whole] at compiled
      exact segmentsOf_dotted notSlash others compiled
  · cases taken

/-- A written call is read as itself when its arguments are. -/
theorem pathOrCall?_call_iff (isCall : IsCall receiver formatter) (inside : Text) :
    pathOrCall? (Expression.renderReceiver receiver ++ formatter ++ '(' :: inside) =
        some (.call receiver formatter arguments, rest) ↔
      ¬LosesDot receiver ∧ arguments? inside = some (arguments, rest) := by
  have taken : readDraft PathDraft.empty
      (Expression.renderReceiver receiver ++ formatter ++ '(' :: inside) =
        some (⟨Expression.renderReceiver receiver ++ formatter⟩, '(' :: inside) := by
    rw [(takes_call isCall).readDraft, readDraft_stops]
    · rfl
    · intro first found draft
      cases found
      rfl
  rw [← compileCall_written isCall, pathOrCall?_eq]
  simp only [taken, Text.after?, if_true]
  cases (⟨Expression.renderReceiver receiver ++ formatter⟩ : PathDraft).compileCall with
  | error fault => simp
  | ok parts =>
    constructor
    · intro found
      obtain ⟨⟨others, behind⟩, read, same⟩ := Option.map_eq_some_iff.1 found
      cases same
      exact ⟨rfl, read⟩
    · rintro ⟨same, read⟩
      cases same
      simp only [read, Option.map_some]

/-- A quote begins an operand. -/
theorem beginsOperand_of_quote {text : Text} (quote : text.head?.any isQuote = true) :
    text.head?.any beginsOperand = true := by
  obtain ⟨first, tail, rfl, isFirst⟩ := exists_cons_of_head quote
  simp [beginsOperand, isFirst]

/-- A digit begins an operand. -/
theorem beginsOperand_of_digit {text : Text} (digit : text.head?.any isDigit = true) :
    text.head?.any beginsOperand = true := by
  obtain ⟨first, tail, rfl, isFirst⟩ := exists_cons_of_head digit
  have name := (digit_plain isFirst).1
  have notSlash : first ≠ '/' := nameChar_ne name (by decide)
  simp [beginsOperand, isPathChar, name, notSlash]

/-- What a quote begins is a string. -/
theorem operand?_string_iff {literal : StringLiteral} (quote : text.head?.any isQuote = true) :
    operand? text = some (.string literal, rest) ↔
      ∃ behind, StringLiteral.read text = .ok (literal, behind) ∧ rest = skip behind := by
  rw [operand?_eq_some_iff, skip_operand (beginsOperand_of_quote quote)]
  constructor
  · rintro ⟨behind, operand, rfl⟩
    cases operand with
    | string _ read => exact ⟨behind, read, rfl⟩
    | path begins =>
      rw [List.head?_cons, Option.any_some, (beginsPath_plain begins).1] at quote
      cases quote
  · rintro ⟨behind, read, rfl⟩
    obtain ⟨first, tail, rfl, isFirst⟩ := exists_cons_of_head quote
    exact ⟨behind, .string isFirst read, rfl⟩

/-- What a digit begins is a number. -/
theorem operand?_number_iff (digit : text.head?.any isDigit = true) :
    operand? text = some (expression, rest) ↔ ∃ literal behind, expression = .number literal ∧
      NumberLiteral.read text = .ok (literal, behind) ∧ rest = skip behind := by
  rw [operand?_eq_some_iff, skip_operand (beginsOperand_of_digit digit)]
  constructor
  · rintro ⟨behind, operand, rfl⟩
    cases operand with
    | string quote =>
      rw [List.head?_cons, Option.any_some] at digit
      rw [(digit_plain digit).2.1] at quote
      cases quote
    | number _ read => exact ⟨_, behind, rfl, read, rfl⟩
    | path begins =>
      rw [List.head?_cons, Option.any_some, (beginsPath_plain begins).2] at digit
      cases digit
  · rintro ⟨literal, behind, rfl, read, rfl⟩
    obtain ⟨first, tail, rfl, isFirst⟩ := exists_cons_of_head digit
    exact ⟨behind, .number isFirst read, rfl⟩

/-- A path or a call is read where its first character begins a path. -/
theorem operand?_path_iff (begins : text.head?.any beginsOperand = true)
    (notString : ∀ literal, expression ≠ .string literal)
    (notNumber : ∀ literal, expression ≠ .number literal) :
    operand? text = some (expression, rest) ↔ Expression.opensPath text = true ∧
      ∃ behind, pathOrCall? text = some (expression, behind) ∧ rest = skip behind := by
  rw [operand?_eq_some_iff, skip_operand begins]
  constructor
  · rintro ⟨behind, operand, rfl⟩
    cases operand with
    | string => exact absurd rfl (notString _)
    | number => exact absurd rfl (notNumber _)
    | path opens read => exact ⟨opens, behind, read, rfl⟩
  · rintro ⟨opens, behind, read, rfl⟩
    obtain ⟨first, tail, rfl, isFirst⟩ := exists_cons_of_head opens
    exact ⟨behind, .path isFirst read, rfl⟩

end Grammar

end Bracework

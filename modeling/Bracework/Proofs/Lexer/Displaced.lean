import Bracework.Proofs.Lexer.Readings

/-!
# The same tags elsewhere

What a tag says does not depend on where it stands: not on the offsets and lines at which it and
the open blocks begin, and, as long as nothing is found wrong with it, not on whether more
partials are known than it asks for or whether an if block has been closed that it does not ask
for. In such surroundings it gives the same tokens, places aside, and leaves blocks with the same
labels open, and nothing is found wrong with it there either.
-/

namespace Bracework

/-! ### Repeated readings -/

/-- A token without its place in the template. -/
def Token.placeless (token : Token) : Token :=
  { token with span := ⟨0, 0⟩, position := ⟨0, 0⟩ }

/-- The labels of the open blocks, the innermost first. -/
def OpenBlocks.labels (blocks : OpenBlocks) : List BlockLabel := blocks.entries.map OpenBlock.label

/-- A reading repeats another one: it has the same tokens, places aside, leaves blocks with the
same labels open, and finds nothing where the other finds nothing. -/
structure Reading.Repeats (reading model : Reading) : Prop where
  tokens : reading.tokens.map Token.placeless = model.tokens.map Token.placeless
  clean : model.findings = [] → reading.findings = []
  labels : reading.blocks.labels = model.blocks.labels

/-- Surroundings allow what others allow: blocks with the same labels are open, no known partial
is missing, and an if block has been closed if one has been there. -/
structure Surroundings.Allows (surroundings model : Surroundings) : Prop where
  labels : surroundings.blocks.labels = model.blocks.labels
  partials : model.partials ⊆ surroundings.partials
  afterIf : model.afterIf = true → surroundings.afterIf = true

/-! ### Fragments -/

namespace Located

variable {located model : Located}

/-- A fragment is read as the same expression wherever it stands. -/
theorem parse_repeats (same : located.text = model.text) :
    located.parse.expression = model.parse.expression ∧
      (model.parse.findings = [] → located.parse.findings = []) := by
  unfold parse
  rw [same]
  cases Expression.parseAt model.text with
  | ok expression => exact ⟨rfl, fun clean => clean⟩
  | error finding => exact ⟨rfl, by simp⟩

end Located

/-- An inclusion is cut alike wherever it stands. -/
theorem Inclusion.ofPayload_repeats {payload model : Located} (same : payload.text = model.text) :
    (ofPayload payload).name = (ofPayload model).name ∧
      (ofPayload payload).trailing = (ofPayload model).trailing ∧
      (ofPayload payload).context.map Located.text = (ofPayload model).context.map Located.text := by
  have trimmed : payload.trim.text = model.trim.text := congrArg Text.trimBlanks same
  unfold ofPayload
  dsimp only
  rw [trimmed]
  split
  · exact ⟨rfl, rfl, rfl⟩
  · split
    · exact ⟨rfl, rfl, rfl⟩
    · exact ⟨rfl, rfl, rfl⟩

/-- A binding is cut alike wherever it stands, or the same is missing. -/
theorem Assignment.ofPayload_repeats {payload model : Located} (same : payload.text = model.text) :
    (∃ assignment other, ofPayload payload = .ok assignment ∧ ofPayload model = .ok other ∧
        assignment.name = other.name ∧ assignment.expression.text = other.expression.text) ∨
      ∃ fault, ofPayload payload = .error fault ∧ ofPayload model = .error fault := by
  have trimmed : payload.trim.text = model.trim.text := congrArg Text.trimBlanks same
  unfold ofPayload
  dsimp only
  rw [trimmed]
  split
  · exact Or.inr ⟨_, rfl, rfl⟩
  · split
    · split
      · rename_i empty
        exact Or.inr ⟨_, rfl, if_pos empty⟩
      · rename_i nonempty
        exact Or.inl ⟨_, _, rfl, if_neg nonempty, rfl, rfl⟩
    · exact Or.inr ⟨_, rfl, rfl⟩

namespace OpenBlocks

variable {blocks model : OpenBlocks}

/-- Opening a block adds its label. -/
theorem labels_push (same : blocks.labels = model.labels) (kind : BlockKind) (name : Text)
    (start other : Nat) : (blocks.push kind name start).labels = (model.push kind name other).labels :=
  congrArg (List.cons _) same

/-- A closing tag asks for nothing but the label of the innermost block. -/
theorem closeExpecting_repeats (same : blocks.labels = model.labels)
    (accepts : BlockLabel → Bool) (start other : Nat) (keyword expected reported : Text) :
    ((model.closeExpecting accepts other keyword reported).findings = [] →
        (blocks.closeExpecting accepts start keyword expected).findings = []) ∧
      (blocks.closeExpecting accepts start keyword expected).blocks.labels =
        (model.closeExpecting accepts other keyword reported).blocks.labels := by
  obtain ⟨entries⟩ := blocks
  obtain ⟨others⟩ := model
  simp only [labels] at same
  cases entries with
  | nil =>
    obtain rfl : others = [] := List.map_eq_nil_iff.1 same.symm
    exact ⟨by simp [closeExpecting, popIf?], rfl⟩
  | cons entry rest =>
    obtain ⟨twin, more, rfl, label, later⟩ := List.map_eq_cons_iff.1 same.symm
    by_cases accepted : accepts entry.label = true
    · have taken : accepts twin.label = true := label ▸ accepted
      simp [closeExpecting, popIf?, accepted, taken, labels, later]
    · simp [closeExpecting, popIf?, accepted, labels, label, later]

end OpenBlocks

/-! ### Tags -/

namespace Tag

variable {lines other : LineTable} {start shifted braces : Nat} {body : Text}
  {blocks model : OpenBlocks}

/-- What follows the keyword of a tag does not depend on where the tag stands. -/
theorem payload_repeats : (tagAt lines start braces body).payload.text =
    (tagAt other shifted braces body).payload.text := rfl

/-- A tag that takes no payload is given none wherever it stands. -/
theorem rejectPayload_repeats {tag twin : Tag} (payload : tag.payload.text = twin.payload.text)
    (form report : Text) (clean : twin.rejectPayload report = []) : tag.rejectPayload form = [] := by
  unfold rejectPayload at clean ⊢
  dsimp only at clean ⊢
  rw [payload]
  split at clean
  · rename_i empty
    exact if_pos empty
  · simp at clean

/-- A value is read alike wherever it stands. -/
theorem readValue_repeats (same : blocks.labels = model.labels) (escaped : Bool)
    {written counterpart : Located} (text : written.text = counterpart.text) :
    ((tagAt lines start braces body).readValue escaped written blocks).Repeats
      ((tagAt other shifted braces body).readValue escaped counterpart model) := by
  obtain ⟨expression, clean⟩ := Located.parse_repeats text
  refine ⟨?_, clean, same⟩
  simp only [readValue, expression, text]
  rfl

/-- A block without a name is opened alike wherever it stands. -/
theorem readUnnamedBlock_repeats (same : blocks.labels = model.labels) (kind : ScopeKind)
    {written counterpart : Located} (text : written.text = counterpart.text) :
    ((tagAt lines start braces body).readUnnamedBlock kind written blocks).Repeats
      ((tagAt other shifted braces body).readUnnamedBlock kind counterpart model) := by
  obtain ⟨expression, clean⟩ := Located.parse_repeats text
  refine ⟨?_, clean, ?_⟩
  · simp only [readUnnamedBlock, expression, text]
    rfl
  · simp only [readUnnamedBlock, text]
    exact OpenBlocks.labels_push same _ _ _ _

/-- A block with a name is opened alike wherever it stands. -/
theorem readNamedBlock_repeats (same : blocks.labels = model.labels) (kind : ScopeKind)
    (behavior : Option ScopeBehavior) {written counterpart name twin : Located}
    (text : written.text = counterpart.text) (named : name.text = twin.text) :
    ((tagAt lines start braces body).readNamedBlock lines kind written name behavior
        blocks).Repeats
      ((tagAt other shifted braces body).readNamedBlock other kind counterpart twin behavior
        model) := by
  obtain ⟨expression, clean⟩ := Located.parse_repeats text
  refine ⟨?_, clean, ?_⟩
  · simp only [readNamedBlock, nameToken, expression, text, named]
    rfl
  · simp only [readNamedBlock, named]
    exact OpenBlocks.labels_push same _ _ _ _

/-- A block with a keyword is opened alike wherever it stands. -/
theorem readBlock_repeats (same : blocks.labels = model.labels) (kind : ScopeKind) :
    ((tagAt lines start braces body).readBlock lines kind blocks).Repeats
      ((tagAt other shifted braces body).readBlock other kind model) := by
  have payload : (tagAt lines start braces body).payload.trim.text =
    (tagAt other shifted braces body).payload.trim.text := rfl
  have unnamed (head : Text) (offset elsewhere : Nat) :
      ((tagAt lines start braces body).readUnnamedBlock kind ⟨head, offset⟩ blocks).Repeats
        ((tagAt other shifted braces body).readUnnamedBlock kind ⟨head, elsewhere⟩ model) :=
    readUnnamedBlock_repeats same kind rfl
  unfold readBlock
  dsimp only
  rw [payload]
  split
  · exact readUnnamedBlock_repeats same kind rfl
  · split
    · exact readNamedBlock_repeats same kind _ rfl rfl
    · split
      · exact ⟨(unnamed _ _ _).tokens, by simp, (unnamed _ _ _).labels⟩
      · exact readUnnamedBlock_repeats same kind rfl

/-- A block of a path is opened alike wherever it stands. -/
theorem readPathBlock_repeats (same : blocks.labels = model.labels) (kind : ScopeKind) :
    ((tagAt lines start braces body).readPathBlock lines kind blocks).Repeats
      ((tagAt other shifted braces body).readPathBlock other kind model) := by
  have payload : (tagAt lines start braces body).afterSigil.trim.text =
    (tagAt other shifted braces body).afterSigil.trim.text := rfl
  unfold readPathBlock
  dsimp only
  rw [payload]
  split
  · exact readNamedBlock_repeats same kind none rfl rfl
  · exact readUnnamedBlock_repeats same kind rfl

/-- A block of a path is closed alike wherever its closing tag stands. -/
theorem readPathClose_repeats (same : blocks.labels = model.labels) :
    ((tagAt lines start braces body).readPathClose blocks).Repeats
      ((tagAt other shifted braces body).readPathClose model) := by
  obtain ⟨clean, labels⟩ := OpenBlocks.closeExpecting_repeats same _ start shifted _ _ _
  exact ⟨rfl, clean, labels⟩

/-- A block with a keyword is closed alike wherever its closing tag stands. -/
theorem readClose_repeats (same : blocks.labels = model.labels) (closer : Closer) :
    ((tagAt lines start braces body).readClose closer blocks).Repeats
      ((tagAt other shifted braces body).readClose closer model) := by
  obtain ⟨closes, labels⟩ := OpenBlocks.closeExpecting_repeats same _ start shifted _ _ _
  refine ⟨rfl, ?_, labels⟩
  intro clean
  obtain ⟨argument, closing⟩ := List.append_eq_nil_iff.1 clean
  exact List.append_eq_nil_iff.2 ⟨rejectPayload_repeats payload_repeats _ _ argument, closes closing⟩

/-- A block for the other case is opened alike wherever it stands behind an if block. -/
theorem readOtherwise_repeats (same : blocks.labels = model.labels) {afterIf allowed : Bool}
    (placed : allowed = true → afterIf = true) :
    ((tagAt lines start braces body).readOtherwise afterIf blocks).Repeats
      ((tagAt other shifted braces body).readOtherwise allowed model) := by
  refine ⟨rfl, ?_, OpenBlocks.labels_push same _ _ _ _⟩
  intro clean
  obtain ⟨argument, misplaced⟩ := List.append_eq_nil_iff.1 clean
  refine List.append_eq_nil_iff.2 ⟨rejectPayload_repeats payload_repeats _ _ argument, ?_⟩
  cases allowed with
  | true => exact if_pos (placed rfl)
  | false => simp at misplaced

/-- Going over to the other case is read alike wherever the tag stands. -/
theorem readIfOtherwise_repeats (same : blocks.labels = model.labels) :
    ((tagAt lines start braces body).readIfOtherwise blocks).Repeats
      ((tagAt other shifted braces body).readIfOtherwise model) := by
  obtain ⟨closes, labels⟩ := OpenBlocks.closeExpecting_repeats same _ start shifted _ _ _
  refine ⟨rfl, ?_, OpenBlocks.labels_push labels _ _ _ _⟩
  intro clean
  obtain ⟨argument, closing⟩ := List.append_eq_nil_iff.1 clean
  exact List.append_eq_nil_iff.2 ⟨rejectPayload_repeats payload_repeats _ _ argument, closes closing⟩

/-- A declaration is read alike wherever it stands. -/
theorem readDeclaration_repeats (same : blocks.labels = model.labels) :
    ((tagAt lines start braces body).readDeclaration blocks).Repeats
      ((tagAt other shifted braces body).readDeclaration model) := by
  refine ⟨rfl, ?_, OpenBlocks.labels_push same _ _ _ _⟩
  intro clean
  have declared : (tagAt lines start braces body).declaredName? =
    (tagAt other shifted braces body).declaredName? := rfl
  simp only [readDeclaration] at clean ⊢
  rw [declared]
  split at clean
  · rfl
  · simp at clean

/-- A partial that is known in one place is known where no fewer are. -/
theorem nameFindings_repeats {tag twin : Tag} {partials known : List Text} (more : known ⊆ partials)
    (name : Text) (clean : twin.nameFindings name known = []) :
    tag.nameFindings name partials = [] := by
  unfold nameFindings at clean ⊢
  dsimp only at clean ⊢
  split at clean
  · simp at clean
  · rename_i named
    split at clean
    · rename_i member
      have found : partials.contains name = true :=
        List.contains_iff_mem.2 (more (List.contains_iff_mem.1 member))
      rw [if_neg named, if_pos found]
    · simp at clean

/-- A partial is included alike wherever it stands and is known. -/
theorem readInclusion_repeats (same : blocks.labels = model.labels) {partials known : List Text}
    (more : known ⊆ partials) :
    ((tagAt lines start braces body).readInclusion partials blocks).Repeats
      ((tagAt other shifted braces body).readInclusion known model) := by
  obtain ⟨name, trailing, context⟩ := Inclusion.ofPayload_repeats
    (show (tagAt lines start braces body).payload.text =
      (tagAt other shifted braces body).payload.text from rfl)
  have nameOnly (clean : (tagAt other shifted braces body).nameFindings
      (Inclusion.ofPayload (tagAt other shifted braces body).payload).name known = []) :
      (tagAt lines start braces body).nameFindings
        (Inclusion.ofPayload (tagAt lines start braces body).payload).name partials = [] := by
    rw [name]
    exact nameFindings_repeats more _ clean
  cases there : (Inclusion.ofPayload (tagAt other shifted braces body).payload).context with
  | none =>
    rw [there] at context
    have here := Option.map_eq_none_iff.1 context
    refine ⟨?_, ?_, same⟩
    · simp only [readInclusion, name, here, there]
      rfl
    · simp only [readInclusion, here, there, trailing, List.append_eq_nil_iff, and_true]
      rintro ⟨named, ended⟩
      refine ⟨nameOnly named, ?_⟩
      split at ended
      · simp at ended
      · rfl
  | some twin =>
    rw [there] at context
    obtain ⟨written, here, text⟩ := Option.map_eq_some_iff.1 context
    obtain ⟨expression, clean⟩ := Located.parse_repeats text
    refine ⟨?_, ?_, same⟩
    · simp only [readInclusion, name, here, there, expression]
      rfl
    · simp only [readInclusion, here, there, trailing, List.append_eq_nil_iff]
      rintro ⟨⟨named, ended⟩, parsed⟩
      refine ⟨⟨nameOnly named, ?_⟩, clean parsed⟩
      split at ended
      · simp at ended
      · rfl

/-- A binding is read alike wherever it stands. -/
theorem readAssignment_repeats (same : blocks.labels = model.labels) (durable : Bool) :
    ((tagAt lines start braces body).readAssignment durable blocks).Repeats
      ((tagAt other shifted braces body).readAssignment durable model) := by
  have payload : (tagAt lines start braces body).payload.text =
    (tagAt other shifted braces body).payload.text := rfl
  unfold readAssignment
  rcases Assignment.ofPayload_repeats payload with
    ⟨assignment, twin, read, reread, name, text⟩ | ⟨fault, read, reread⟩
  · obtain ⟨expression, clean⟩ := Located.parse_repeats text
    rw [read, reread]
    refine ⟨?_, clean, same⟩
    simp only [expression, name]
    rfl
  · rw [read, reread]
    exact ⟨rfl, by simp, same⟩

/-- A tag of a built-in form is read alike wherever it stands. -/
theorem readForm_repeats {surroundings counterpart : Surroundings}
    (allows : surroundings.Allows counterpart) (form : TagForm) :
    ((tagAt lines start braces body).readForm lines surroundings form).Repeats
      ((tagAt other shifted braces body).readForm other counterpart form) := by
  have same := allows.labels
  cases form with
  | keyword keyword =>
    cases keyword with
    | declaration => exact readDeclaration_repeats same
    | inclusion => exact readInclusion_repeats same allows.partials
    | block kind => exact readBlock_repeats same kind
    | close closer => exact readClose_repeats same closer
    | otherwise => exact readOtherwise_repeats same allows.afterIf
    | ifOtherwise => exact readIfOtherwise_repeats same
    | assignment durable => exact readAssignment_repeats same durable
    | edit operation => exact ⟨rfl, rejectPayload_repeats payload_repeats _ _, same⟩
  | tripleValue => exact readValue_repeats same false rfl
  | rawValue => exact readValue_repeats same false rfl
  | comment => exact ⟨rfl, fun clean => clean, same⟩
  | invertedBlock => exact readPathBlock_repeats same .inverted
  | pathBlock => exact readPathBlock_repeats same .expression
  | pathClose => exact readPathClose_repeats same
  | value => exact readValue_repeats same true rfl

end Tag

/-! ### Templates -/

/-- Where an if block has been closed before, it is found closed whenever it would be
otherwise. -/
theorem foldl_closesIf_mono (tokens : List Token) {afterIf allowed : Bool}
    (placed : allowed = true → afterIf = true)
    (closed : tokens.foldl Progress.closesIf allowed = true) :
    tokens.foldl Progress.closesIf afterIf = true := by
  induction tokens generalizing afterIf allowed with
  | nil => exact placed closed
  | cons token rest induction =>
    refine induction ?_ closed
    unfold Progress.closesIf
    split
    · exact placed
    · exact placed
    · exact fun found => found
    · exact fun found => found

/-- Whether an if block has been closed depends on no place. -/
theorem foldl_closesIf_placeless (tokens : List Token) (before : Bool) :
    (tokens.map Token.placeless).foldl Progress.closesIf before =
      tokens.foldl Progress.closesIf before :=
  List.foldl_map

/-- Behind tags that are read alike the surroundings still allow what the others do. -/
theorem Surroundings.Allows.after {surroundings model : Surroundings}
    (allows : surroundings.Allows model) {lines other : LineTable} {start shifted braces : Nat}
    {body : Text} {reading counterpart : Reading} (repeats : reading.Repeats counterpart) :
    (surroundings.after (tagAt lines start braces body) reading).Allows
      (model.after (tagAt other shifted braces body) counterpart) := by
  refine ⟨repeats.labels, ?_, ?_⟩
  · have form : TagForm.ofTag (tagAt lines start braces body) =
      TagForm.ofTag (tagAt other shifted braces body) := rfl
    have declared : (tagAt lines start braces body).declaredName? =
      (tagAt other shifted braces body).declaredName? := rfl
    simp only [Surroundings.after, Progress.partialsAfter, form, declared]
    split
    · exact List.append_subset.2 ⟨List.subset_append_of_subset_left _ allows.partials,
        List.subset_append_right _ _⟩
    · exact allows.partials
  · intro closed
    rw [Surroundings.after, ← foldl_closesIf_placeless, ← repeats.tokens,
      foldl_closesIf_placeless] at closed
    exact foldl_closesIf_mono _ allows.afterIf closed

/-- Pieces are read alike wherever they stand: they give the same tokens, places aside, nothing is
found in them where nothing has been found before, and the same blocks are left open. -/
theorem readPieces_repeats {options : Options} (builtin : options.providers = [])
    (lines other : LineTable) (pieces : List Piece) (offset elsewhere : Nat)
    {surroundings model : Surroundings} (allows : surroundings.Allows model) :
    let here := readPieces options lines surroundings (Piece.withOffsets offset pieces)
    let there := readPieces options other model (Piece.withOffsets elsewhere pieces)
    (here.1.flatMap Reading.tokens).map Token.placeless =
        (there.1.flatMap Reading.tokens).map Token.placeless ∧
      (there.1.flatMap Reading.findings = [] → here.1.flatMap Reading.findings = []) ∧
      here.2.Allows there.2 := by
  induction pieces generalizing offset elsewhere surroundings model with
  | nil => exact ⟨rfl, fun clean => clean, allows⟩
  | cons piece rest induction =>
    cases piece with
    | content text =>
      obtain ⟨tokens, clean, last⟩ := induction (offset + text.byteLength)
        (elsewhere + text.byteLength) allows
      exact ⟨congrArg (List.cons _) tokens, clean, last⟩
    | tag braces body =>
      have repeats : (Progress.readTag options lines (tagAt lines offset braces body)
          surroundings).Repeats
            (Progress.readTag options other (tagAt other elsewhere braces body) model) := by
        rw [Tag.readTag_builtin builtin, Tag.readTag_builtin builtin]
        exact Tag.readForm_repeats allows _
      obtain ⟨tokens, clean, last⟩ := induction (offset + (tagSource braces body).byteLength)
        (elsewhere + (tagSource braces body).byteLength) (allows.after repeats)
      refine ⟨?_, ?_, last⟩
      · simp only [Piece.withOffsets, readPieces, List.flatMap_cons, List.map_append]
        rw [repeats.tokens]
        exact congrArg _ tokens
      · simp only [Piece.withOffsets, readPieces, List.flatMap_cons, List.append_eq_nil_iff]
        exact fun found => ⟨repeats.clean found.1, clean found.2⟩

end Bracework

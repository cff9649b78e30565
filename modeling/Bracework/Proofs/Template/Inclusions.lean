import Bracework.Proofs.Assembly.Scoping
import Bracework.Proofs.Lexer.Displaced
import Bracework.Proofs.Lexer.Places
import Bracework.Proofs.Template.LockStep

/-!
# Partials are declared before they are included

A partial may be included when it has been registered or when a declaration of it begins earlier in
the template. The names that are known grow while the tags are read, so a partial may include
itself, and a name stays known behind the block of its declaration, however deep that block stands.

In the document the same holds of nodes in the order of a walk. That order is the order of the
tokens, since each block is walked before its children and its token comes before theirs.

An inclusion of anything else is reported once, in its tag, and the template has no document.
-/

namespace Bracework

/-! ### Nodes in the order of a walk -/

/-- Whether an event is the end of a block. -/
def Event.isLeft : Event → Bool
  | .left => true
  | _ => false

namespace Node

/-- Among nodes in the order of a walk, each inclusion is of a known partial or comes behind a
declaration of its name. -/
def Introduced (known : List Text) (nodes : List Node) : Prop :=
  ∀ earlier name context later, nodes = earlier ++ .rendering name context :: later →
    name ∈ known ∨ ∃ scopeId children, .declaration name scopeId children ∈ earlier

/-- The event with which a node begins. A node that gives a name back has none. -/
def opening? (node : Node) : Option Event := node.events.head?

mutual

/-- On a walk through a node, each node is met when its first event is, and blocks are left in
between. -/
theorem openings_walk (node : Node) :
    node.walk.filterMap opening? = node.events.filter fun event => !event.isLeft := by
  cases node with
  | scope kind condition scopeId children =>
    simp [walk, opening?, events, Event.isLeft, openings_walkAll children]
  | declaration name scopeId children =>
    simp [walk, opening?, events, Event.isLeft, openings_walkAll children]
  | custom tag value scopeId children =>
    simp [walk, opening?, events, Event.isLeft, openings_walkAll children]
  | _ => simp [walk, opening?, events, Event.isLeft]

/-- Walking through nodes side by side, each node is met when its first event is. -/
theorem openings_walkAll (nodes : List Node) :
    (walkAll nodes).filterMap opening? = (eventsOf nodes).filter fun event => !event.isLeft := by
  cases nodes with
  | nil => rfl
  | cons first rest =>
    rw [walkAll, List.filterMap_append, openings_walk first, openings_walkAll rest, eventsOf,
      List.filter_append]

end

/-- Only a declaration begins with the event of one. -/
theorem opening?_declared {node : Node} {name : Text} (opening : node.opening? = some (.declared name)) :
    ∃ scopeId children, node = .declaration name scopeId children := by
  cases node with
  | declaration other scopeId children =>
    obtain rfl : other = name := by simpa [opening?, events] using opening
    exact ⟨scopeId, children, rfl⟩
  | _ => simp [opening?, events] at opening

/-- Nodes in the order of a walk are introduced when each event of an inclusion is of a known
partial or comes behind an event of its declaration. -/
theorem introduced_of_events {known : List Text} {nodes : List Node}
    (events : ∀ earlier name context later, eventsOf nodes =
      earlier ++ .rendered name context :: later → name ∈ known ∨ .declared name ∈ earlier) :
    Introduced known (walkAll nodes) := by
  intro earlier name context later whole
  have openings := openings_walkAll nodes
  rw [whole, List.filterMap_append] at openings
  have met : opening? (.rendering name context) = some (.rendered name context) := rfl
  rw [List.filterMap_cons_some met] at openings
  -- the events that are no ends of blocks are cut where the nodes are
  obtain ⟨before, behind, cut, front, back⟩ := List.filter_eq_append_iff.1 openings.symm
  obtain ⟨ends, rest, split, areEnds, -, -⟩ := List.filter_eq_cons_iff.1 back
  have order : eventsOf nodes = (before ++ ends) ++ .rendered name context :: rest := by
    rw [cut, split, List.append_assoc]
  rcases events (before ++ ends) name context rest order with isKnown | declared
  · exact Or.inl isKnown
  · rcases List.mem_append.1 declared with inside | ending
    · have listed : .declared name ∈ before.filter fun event => !event.isLeft :=
        List.mem_filter.2 ⟨inside, rfl⟩
      rw [front] at listed
      obtain ⟨node, member, opening⟩ := List.mem_filterMap.1 listed
      obtain ⟨scopeId, children, rfl⟩ := opening?_declared opening
      exact Or.inr ⟨scopeId, children, member⟩
    · exact absurd rfl (areEnds _ ending)

end Node

/-! ### Tokens -/

/-- Whether tokens of a kind declare partials or include them. -/
def TokenKind.isPartial : TokenKind → Bool
  | .declares => true
  | .renders => true
  | _ => false

namespace Token

/-- The names of partials that are known behind a token. -/
def learn (known : List Text) (token : Token) : List Text :=
  if token.kind = .declares then known ++ [token.value] else known

/-- Each token that includes a partial comes when the partial is known. -/
def Introduced : List Text → List Token → Prop
  | _, [] => True
  | known, token :: rest =>
    (token.kind = .renders → token.value ∈ known) ∧ Introduced (learn known token) rest

variable {known : List Text} {token : Token} {tokens : List Token}

/-- Tokens one behind the other are introduced when each part is, with what the first part
declares. -/
theorem introduced_append {first second : List Token} :
    Introduced known (first ++ second) ↔
      Introduced known first ∧ Introduced (first.foldl learn known) second := by
  induction first generalizing known with
  | nil => simp [Introduced]
  | cons token rest induction =>
    rw [List.cons_append, Introduced, Introduced, List.foldl_cons, induction, and_assoc]

/-- Tokens that neither declare nor include a partial are introduced, and teach no name. -/
theorem introduced_of_plain (plain : ∀ token ∈ tokens, token.kind.isPartial = false) :
    Introduced known tokens ∧ tokens.foldl learn known = known := by
  induction tokens with
  | nil => exact ⟨trivial, rfl⟩
  | cons token rest induction =>
    obtain ⟨here, later⟩ := List.forall_mem_cons.1 plain
    have same : learn known token = known := by
      refine if_neg fun declares => ?_
      simp [declares, TokenKind.isPartial] at here
    rw [Introduced, List.foldl_cons, same]
    refine ⟨⟨fun renders => ?_, (induction later).1⟩, (induction later).2⟩
    simp [renders, TokenKind.isPartial] at here

/-- An event of an inclusion is that of a token that includes the partial. -/
theorem renders_of_event {nesting : Nesting} {name : Text} {context : Option Expression}
    (event : nesting.event? token = some (.rendered name context)) :
    token.kind = .renders ∧ token.value = name := by
  unfold Nesting.event? at event
  split at event <;> simp_all

/-- The token of a declaration has the event of the declaration. -/
theorem event?_declares {nesting : Nesting} (declares : token.kind = .declares) :
    nesting.event? token = some (.declared token.value) := by
  rw [Nesting.event?, declares]

/-- Among the events of tokens that are introduced, each inclusion is of a known partial or comes
behind a declaration of its name. -/
theorem Introduced.events (introduced : Introduced known tokens) (nesting : Nesting) :
    ∀ earlier name context later, nesting.events tokens =
      earlier ++ .rendered name context :: later → name ∈ known ∨ .declared name ∈ earlier := by
  induction tokens generalizing known nesting with
  | nil =>
    intro earlier name context later whole
    simp [Nesting.events] at whole
  | cons token rest induction =>
    obtain ⟨here, behind⟩ := introduced
    intro earlier name context later whole
    -- what the token teaches is the name of its own event
    have taught (first : List Event) (own : (nesting.event? token).toList = first)
        (found : name ∈ learn known token) : name ∈ known ∨ .declared name ∈ first := by
      by_cases declares : token.kind = .declares
      · rw [learn, if_pos declares, List.mem_append, List.mem_singleton] at found
        rw [← own, event?_declares declares]
        exact found.imp id fun same => by simp [same]
      · rw [learn, if_neg declares] at found
        exact Or.inl found
    rw [Nesting.events] at whole
    rcases List.append_eq_append_iff.1 whole with ⟨middle, front, back⟩ | ⟨middle, front, back⟩
    · rcases induction behind (nesting.after token) middle name context later back with
        isKnown | declared
      · rw [front]
        exact (taught _ rfl isKnown).imp id (List.mem_append_left _)
      · rw [front]
        exact Or.inr (List.mem_append_right _ declared)
    · cases middle with
      | nil =>
        rcases induction behind (nesting.after token) [] name context later back.symm with
          isKnown | none
        · rw [List.append_nil] at front
          exact taught _ front isKnown
        · cases none
      | cons event middle =>
        obtain ⟨rfl, -⟩ := List.cons.inj back
        have own : nesting.event? token = some (.rendered name context) := by
          apply Option.mem_toList.1
          rw [front]
          exact List.mem_append_right _ (List.mem_cons_self ..)
        obtain ⟨renders, rfl⟩ := renders_of_event own
        exact Or.inl (here renders)

end Token

/-! ### Documents -/

/-- Without providers, tokens that move the kinds of the open blocks are of no kind that a provider
has named. -/
theorem Token.MoveAll.standard {options : Options} (builtin : options.providers = [])
    {before after : List BlockKind} {tokens : List Token}
    (moves : Token.MoveAll options before tokens after) :
    ∀ token ∈ tokens, token.IsStandard := by
  have unbuilt (token : Token) : options.builder? token = none := by
    rw [Options.builder?, builtin]
    rfl
  induction moves with
  | done => simp
  | @step _ _ _ token rest first later induction =>
    refine List.forall_mem_cons.2 ⟨?_, induction⟩
    intro tag custom
    cases first with
    | quiet silent => simp [custom, TokenKind.isQuiet] at silent
    | opens opening same => simp [custom] at opening
    | declares opening => simp [custom] at opening
    | closes closing ends => simp [custom] at closing
    | leaf named word built => simp [unbuilt] at built
    | opensCustom named word built => simp [unbuilt] at built
    | closesCustom named word built => simp [unbuilt] at built

/-- A document that standard tokens build has their events. -/
theorem Document.events_of_built {options : Options} {tokens : List Token} {document : Document}
    (standard : ∀ token ∈ tokens, token.IsStandard)
    (built : Document.ofTokens options tokens = .ok document) :
    document.events = Token.events tokens := by
  have owning : Construction.start.nesting.Owning := by
    intro node member
    cases member
  obtain ⟨-, events⟩ := Construction.foldl_addToken options tokens standard owning
  have closed : (tokens.foldl (Construction.addToken options)
      Construction.start).stack.opened = [] := by
    by_contra stillOpen
    rw [Document.ofTokens, BuildStack.toDocument_of_open stillOpen] at built
    cases built
  obtain ⟨other, same, walked⟩ := BuildStack.toDocument_of_closed closed
  rw [Document.ofTokens, same] at built
  cases built
  exact walked.trans events

/-! ### Reading -/

namespace Piece

/-- A piece as a tag at the beginning of a template, if it is a tag. What a tag declares or includes
does not depend on its place. -/
def tag? : Piece → Option Tag
  | .content _ => none
  | .tag braces body => some ⟨0, braces, body, ⟨1, 1⟩⟩

/-- The name that a piece declares, if it is a tag that declares a partial and has a name. -/
def declared? (piece : Piece) : Option Text :=
  piece.tag?.bind fun tag =>
    if TagForm.ofTag tag = .keyword .declaration then tag.declaredName? else none

/-- The name of a partial that a piece includes, if it is a tag that includes one. -/
def included? (piece : Piece) : Option Text :=
  piece.tag?.bind fun tag =>
    if TagForm.ofTag tag = .keyword .inclusion then some (Inclusion.ofPayload tag.payload).name
    else none

end Piece

namespace Tag

variable {lines : LineTable} {start braces : Nat} {body : Text} {surroundings : Surroundings}

/-- A tag that is read makes known what it declares. -/
theorem partialsAfter_eq (known : List Text) :
    Progress.partialsAfter (tagAt lines start braces body)
      (TagForm.ofTag (tagAt lines start braces body)) known =
        known ++ (Piece.declared? (.tag braces body)).toList := by
  have form : TagForm.ofTag ⟨0, braces, body, ⟨1, 1⟩⟩ =
    TagForm.ofTag (tagAt lines start braces body) := rfl
  have name : Tag.declaredName? ⟨0, braces, body, ⟨1, 1⟩⟩ =
    (tagAt lines start braces body).declaredName? := rfl
  simp only [Piece.declared?, Piece.tag?, Option.bind_some, form, name, Progress.partialsAfter]
  split
  · rename_i shape found
    simp [shape, found]
  · rename_i other
    by_cases declares : TagForm.ofTag (tagAt lines start braces body) = .keyword .declaration
    · cases found : (tagAt lines start braces body).declaredName? with
      | none => simp
      | some named => exact absurd found (other named declares)
    · simp [declares]

/-- A tag that includes a partial has the form of an inclusion, and the name in its payload. -/
theorem form_of_included (lines : LineTable) (start : Nat) {name : Text}
    (includes : Piece.included? (.tag braces body) = some name) :
    TagForm.ofTag (tagAt lines start braces body) = .keyword .inclusion ∧
      (Inclusion.ofPayload (tagAt lines start braces body).payload).name = name := by
  have form : TagForm.ofTag ⟨0, braces, body, ⟨1, 1⟩⟩ =
    TagForm.ofTag (tagAt lines start braces body) := rfl
  obtain ⟨same, -, -⟩ := Inclusion.ofPayload_repeats
    (show (tagAt lines start braces body).payload.text =
      (⟨0, braces, body, ⟨1, 1⟩⟩ : Tag).payload.text from rfl)
  simp only [Piece.included?, Piece.tag?, Option.bind_some, form] at includes
  split at includes
  · rename_i shape
    exact ⟨shape, same.trans (Option.some.inj includes)⟩
  · cases includes

/-- The tokens of a block with a keyword neither declare nor include a partial. -/
theorem readBlock_plain {tag : Tag} (kind : ScopeKind) (blocks : OpenBlocks) :
    ∀ token ∈ (tag.readBlock lines kind blocks).tokens, token.kind.isPartial = false := by
  unfold readBlock
  dsimp only
  split
  · exact List.forall_mem_singleton.2 rfl
  · split
    · exact List.forall_mem_cons.2 ⟨rfl, List.forall_mem_singleton.2 rfl⟩
    · split
      · exact List.forall_mem_singleton.2 rfl
      · exact List.forall_mem_singleton.2 rfl

/-- The tokens of a block that a path opens neither declare nor include a partial. -/
theorem readPathBlock_plain {tag : Tag} (kind : ScopeKind) (blocks : OpenBlocks) :
    ∀ token ∈ (tag.readPathBlock lines kind blocks).tokens, token.kind.isPartial = false := by
  unfold readPathBlock
  dsimp only
  split
  · exact List.forall_mem_cons.2 ⟨rfl, List.forall_mem_singleton.2 rfl⟩
  · exact List.forall_mem_singleton.2 rfl

/-- The token of a binding neither declares nor includes a partial. -/
theorem readAssignment_plain {tag : Tag} (durable : Bool) (blocks : OpenBlocks) :
    ∀ token ∈ (tag.readAssignment durable blocks).tokens, token.kind.isPartial = false := by
  unfold readAssignment
  split
  · exact List.forall_mem_singleton.2 rfl
  · exact List.forall_mem_singleton.2 rfl

/-- The tokens of a tag neither declare nor include a partial, unless its keyword does. -/
theorem readForm_plain {tag : Tag} {form : TagForm} (noDeclaration : form ≠ .keyword .declaration)
    (noInclusion : form ≠ .keyword .inclusion) :
    ∀ token ∈ (tag.readForm lines surroundings form).tokens, token.kind.isPartial = false := by
  cases form with
  | keyword keyword =>
    cases keyword with
    | declaration => exact absurd rfl noDeclaration
    | inclusion => exact absurd rfl noInclusion
    | block kind => exact readBlock_plain kind _
    | ifOtherwise => exact List.forall_mem_cons.2 ⟨rfl, List.forall_mem_singleton.2 rfl⟩
    | assignment durable => exact readAssignment_plain durable _
    | _ => exact List.forall_mem_singleton.2 rfl
  | invertedBlock => exact readPathBlock_plain .inverted _
  | pathBlock => exact readPathBlock_plain .expression _
  | _ => exact List.forall_mem_singleton.2 rfl

/-- A declaration with nothing wrong in it teaches the name that becomes known. -/
theorem readDeclaration_learns {tag : Tag} {blocks : OpenBlocks} {known : List Text}
    (clean : (tag.readDeclaration blocks).findings = []) :
    (tag.readDeclaration blocks).tokens.foldl Token.learn known =
      known ++ tag.declaredName?.toList := by
  have teaches : (tag.readDeclaration blocks).tokens.foldl Token.learn known =
      known ++ [tag.payload.trim.text] := rfl
  have named : tag.declaredName? = some tag.payload.trim.text := by
    cases found : tag.declaredName? with
    | none => simp [readDeclaration, found] at clean
    | some name =>
      unfold declaredName? at found
      dsimp only at found
      split at found
      · rw [← found]
      · cases found
  rw [teaches, named]
  rfl

/-- An inclusion with nothing wrong in it is of a partial that is known. -/
theorem known_of_clean {tag : Tag} {blocks : OpenBlocks} {known : List Text}
    (clean : (tag.readInclusion known blocks).findings = []) :
    (Inclusion.ofPayload tag.payload).name ∈ known := by
  have named : tag.nameFindings (Inclusion.ofPayload tag.payload).name known = [] := by
    dsimp only [readInclusion] at clean
    exact (List.append_eq_nil_iff.1 (List.append_eq_nil_iff.1 clean).1).1
  unfold nameFindings at named
  dsimp only at named
  split at named
  · cases named
  · split at named
    · rename_i listed
      exact List.contains_iff_mem.1 listed
    · cases named

/-- The tokens of a tag with nothing wrong in it are introduced, and they teach the names that
become known behind the tag. -/
theorem readForm_introduced
    (clean : ((tagAt lines start braces body).readForm lines surroundings
      (TagForm.ofTag (tagAt lines start braces body))).findings = []) :
    let tokens := ((tagAt lines start braces body).readForm lines surroundings
      (TagForm.ofTag (tagAt lines start braces body))).tokens
    Token.Introduced surroundings.partials tokens ∧
      tokens.foldl Token.learn surroundings.partials =
        Progress.partialsAfter (tagAt lines start braces body)
          (TagForm.ofTag (tagAt lines start braces body)) surroundings.partials := by
  by_cases declares : TagForm.ofTag (tagAt lines start braces body) = .keyword .declaration
  · rw [declares] at clean ⊢
    refine ⟨⟨by simp [Tag.token, Token.plain], trivial⟩, ?_⟩
    have known : Progress.partialsAfter (tagAt lines start braces body) (.keyword .declaration)
        surroundings.partials =
          surroundings.partials ++ (tagAt lines start braces body).declaredName?.toList := by
      cases found : (tagAt lines start braces body).declaredName? <;>
        simp [Progress.partialsAfter, found]
    exact (readDeclaration_learns clean).trans known.symm
  · have same : Progress.partialsAfter (tagAt lines start braces body)
        (TagForm.ofTag (tagAt lines start braces body)) surroundings.partials =
          surroundings.partials := by
      unfold Progress.partialsAfter
      split
      · rename_i shape found
        exact absurd shape declares
      · rfl
    rw [same]
    by_cases includes : TagForm.ofTag (tagAt lines start braces body) = .keyword .inclusion
    · rw [includes] at clean ⊢
      exact ⟨⟨fun _ => known_of_clean clean, trivial⟩, rfl⟩
    · exact Token.introduced_of_plain (readForm_plain declares includes)

end Tag

/-! ### Templates -/

/-- The tokens of pieces with nothing wrong in them are introduced. -/
theorem readPieces_introduced {options : Options} (builtin : options.providers = [])
    {lines : LineTable} (places : List (Nat × Piece)) (surroundings : Surroundings)
    (clean : (readPieces options lines surroundings places).1.flatMap Reading.findings = []) :
    Token.Introduced surroundings.partials
      ((readPieces options lines surroundings places).1.flatMap Reading.tokens) := by
  induction places generalizing surroundings with
  | nil => trivial
  | cons place rest induction =>
    obtain ⟨start, piece⟩ := place
    cases piece with
    | content text => exact ⟨by simp [contentToken, Token.plain], induction surroundings clean⟩
    | tag braces body =>
      let tag := tagAt lines start braces body
      obtain ⟨here, later⟩ := List.append_eq_nil_iff.1 clean
      rw [Tag.readTag_builtin builtin] at here
      obtain ⟨introduced, learned⟩ := Tag.readForm_introduced here
      refine Token.introduced_append.2 ⟨?_, ?_⟩
      · rw [Tag.readTag_builtin builtin]
        exact introduced
      · have behind := induction
          (surroundings.after tag (Progress.readTag options lines tag surroundings)) later
        rw [Tag.readTag_builtin builtin] at behind ⊢
        rw [learned]
        exact behind

/-- Behind pieces, what has been declared in them is known besides what was known before. -/
theorem readPieces_known (options : Options) (lines : LineTable) (pieces : List Piece)
    (offset : Nat) (surroundings : Surroundings) :
    (readPieces options lines surroundings (Piece.withOffsets offset pieces)).2.partials =
      surroundings.partials ++ pieces.filterMap Piece.declared? := by
  induction pieces generalizing offset surroundings with
  | nil => exact (List.append_nil _).symm
  | cons piece rest induction =>
    cases piece with
    | content text =>
      rw [List.filterMap_cons_none rfl]
      exact induction _ surroundings
    | tag braces body =>
      have behind := induction (offset + Text.byteLength (tagSource braces body))
        (surroundings.after (tagAt lines offset braces body)
          (Progress.readTag options lines (tagAt lines offset braces body) surroundings))
      have known : (surroundings.after (tagAt lines offset braces body) (Progress.readTag options
          lines (tagAt lines offset braces body) surroundings)).partials =
            surroundings.partials ++ (Piece.declared? (.tag braces body)).toList :=
        Tag.partialsAfter_eq _
      rw [known, List.append_assoc] at behind
      refine behind.trans (congrArg (surroundings.partials ++ ·) ?_)
      rw [List.filterMap_cons]
      cases Piece.declared? (.tag braces body) <;> rfl

/-- What is found in pieces is found between the first of their bytes and the last. -/
theorem readPieces_findings_inside {options : Options} (builtin : options.providers = [])
    (lines : LineTable) (pieces : List Piece)
    (braced : ∀ braces body, .tag braces body ∈ pieces → 0 < braces) (offset : Nat)
    (surroundings : Surroundings) :
    ∀ finding ∈ (readPieces options lines surroundings
        (Piece.withOffsets offset pieces)).1.flatMap Reading.findings,
      offset ≤ finding.offset ∧
        finding.offset < offset + Text.byteLength (pieces.flatMap Piece.source) := by
  induction pieces generalizing offset surroundings with
  | nil => exact fun finding member => absurd member List.not_mem_nil
  | cons piece rest induction =>
    have braced' : ∀ braces body, .tag braces body ∈ rest → 0 < braces := fun braces body member =>
      braced braces body (List.mem_cons_of_mem _ member)
    rw [List.flatMap_cons, Text.byteLength_append]
    cases piece with
    | content text =>
      intro finding member
      have inside := induction braced' (offset + text.byteLength) surroundings finding member
      dsimp only [Piece.source]
      omega
    | tag braces body =>
      intro finding member
      let tag := tagAt lines offset braces body
      rcases List.mem_append.1 member with here | later
      · rw [Tag.readTag_builtin builtin] at here
        have bounds := (tag.readForm_marks surroundings finding here).bounds
        have closing : ('}' : Char).utf8Size = 1 := rfl
        have positive := braced braces body (List.mem_cons_self ..)
        have width : Text.byteLength (Piece.source (.tag braces body)) =
            tag.front.text.byteLength + braces := by
          rw [Piece.source, tagSource, Text.byteLength_append, Text.byteLength_replicate closing]
          rfl
        have start : tag.front.offset = offset := rfl
        omega
      · have inside := induction braced' _ _ finding later
        dsimp only [Piece.source] at inside ⊢
        omega

/-- What is found wrong with an expression is not that a partial is unknown. -/
theorem Located.parse_known (located : Located) (name : Text) :
    ∀ finding ∈ located.parse.findings, finding.problem ≠ .unknownPartial name := by
  unfold parse Expression.parseAt
  dsimp only
  split
  · simp
  · rename_i offset problem refused
    refine List.forall_mem_singleton.2 ?_
    split at refused
    · cases refused
      simp
    · split at refused
      · cases refused
      · cases refused
        simp

/-- An inclusion of a partial that is not known is reported first for that, and for that only
once. -/
theorem Tag.readInclusion_unknown {tag : Tag} (blocks : OpenBlocks) {known : List Text} {name : Text}
    (includes : (Inclusion.ofPayload tag.payload).name = name) (named : name ≠ [])
    (unknown : name ∉ known) : ∃ rest, (tag.readInclusion known blocks).findings =
        ⟨tag.payload.trim.offset, .unknownPartial name⟩ :: rest ∧
      ∀ finding ∈ rest, finding.problem ≠ .unknownPartial name := by
  have missing : tag.nameFindings name known =
      [⟨tag.payload.trim.offset, .unknownPartial name⟩] := by
    have absent : known.contains name = false := by simpa using unknown
    simp only [nameFindings, if_neg named, absent, Bool.false_eq_true, if_false]
  unfold readInclusion
  dsimp only
  rw [includes, missing, List.singleton_append, List.cons_append]
  refine ⟨_, rfl, List.forall_mem_append.2 ⟨?_, ?_⟩⟩
  · split
    · exact List.forall_mem_singleton.2 (by simp)
    · exact fun finding member => absurd member List.not_mem_nil
  · split
    · exact Located.parse_known _ name
    · exact fun finding member => absurd member List.not_mem_nil

/-- What is found in a tag with an inclusion of a partial that is not known: once that it is not
known, and nothing else of the kind. -/
theorem Tag.readForm_unknown (lines : LineTable) (start : Nat) {braces : Nat} {body name : Text}
    {surroundings : Surroundings} (includes : Piece.included? (.tag braces body) = some name)
    (named : name ≠ []) (unknown : name ∉ surroundings.partials) : ∃ finding rest,
      ((tagAt lines start braces body).readForm lines surroundings
        (TagForm.ofTag (tagAt lines start braces body))).findings = finding :: rest ∧
      finding.problem = .unknownPartial name ∧
      ∀ other ∈ rest, other.problem ≠ .unknownPartial name := by
  obtain ⟨form, same⟩ := form_of_included lines start includes
  rw [form]
  obtain ⟨rest, found, others⟩ :=
    readInclusion_unknown surroundings.blocks same named unknown
  exact ⟨_, rest, found, rfl, others⟩

namespace Template

/-- Among diagnostics, one says in a tag that a partial is not known. Its text is the name of the
partial, and no other diagnostic in the tag says the same. -/
def ReportsUnknown (template : Text) (span : TagSpan) (name : Text)
    (diagnostics : List Diagnostic) : Prop :=
  ∃ before diagnostic after, diagnostics = before ++ diagnostic :: after ∧
    diagnostic.problem = .unknownPartial name ∧ diagnostic.problem.actual = name ∧
    diagnostic.PointsInto template span ∧
    ∀ other ∈ before ++ after, other.problem = .unknownPartial name →
      other.offset < span.start ∨ span.stop ≤ other.offset

/-- In a document each inclusion is of a registered partial or comes behind its declaration. -/
theorem document_introduced {options : Options} (builtin : options.providers = [])
    {template : Text} {document : Document} {diagnostics : List Diagnostic}
    (parsed : parse options template = .ok ⟨some document, diagnostics⟩) :
    Node.Introduced options.partials document.allNodes := by
  have worded : options.Worded := by simp [Options.Worded, builtin]
  obtain ⟨clean, -, built⟩ := (parse_document_iff worded.readyMade).1 parsed
  have standard := (tokens_moveAll worded clean).standard builtin
  have introduced : Token.Introduced options.partials
      ((readings options template).1.flatMap Reading.tokens) :=
    readPieces_introduced builtin _ _ (List.append_eq_nil_iff.1 clean).1
  have events : Node.eventsOf document.children =
      Nesting.outermost.events ((readings options template).1.flatMap Reading.tokens) :=
    Document.events_of_built standard built
  refine Node.introduced_of_events fun earlier name context later whole => ?_
  exact introduced.events Nesting.outermost earlier name context later (events ▸ whole)

/-- What is found in a template is found before a tag of it, in the tag or behind it, or is a block
that is never closed. The tag is read where the partials of the tags before it are known. -/
theorem findings_around {options : Options} (builtin : options.providers = [])
    {template body : Text} {braces : Nat} {before after : List Piece}
    (pieces : Piece.cut template = before ++ .tag braces body :: after) :
    let start := Text.byteLength (before.flatMap Piece.source)
    let lines := LineTable.ofSource template
    let tag := tagAt lines start braces body
    ∃ (surroundings : Surroundings) (earlier later unclosed : List Finding),
      surroundings.partials = options.partials ++ before.filterMap Piece.declared? ∧
      findings options template = earlier ++ ((tag.readForm lines surroundings
        (TagForm.ofTag tag)).findings ++ (later ++ unclosed)) ∧
      (∀ finding ∈ earlier, finding.offset < start) ∧
      (∀ finding ∈ later, start + Text.byteLength (tagSource braces body) ≤ finding.offset) ∧
      ∀ finding ∈ unclosed, ∃ block : OpenBlock, finding = block.unclosed := by
  intro start lines tag
  let front := readPieces options lines ⟨OpenBlocks.empty, options.partials, false⟩
    (Piece.withOffsets 0 before)
  let reading := Progress.readTag options lines tag front.2
  let back := readPieces options lines (front.2.after tag reading)
    (Piece.withOffsets (start + Text.byteLength (tagSource braces body)) after)
  have places : Piece.withOffsets 0 (Piece.cut template) = Piece.withOffsets 0 before ++
      (start, .tag braces body) ::
        Piece.withOffsets (start + Text.byteLength (tagSource braces body)) after := by
    rw [pieces, Piece.withOffsets_append, Nat.zero_add]
    rfl
  have whole : readings options template = (front.1 ++ reading :: back.1, back.2) := by
    rw [readings, places, readPieces_append]
    rfl
  have read : reading = tag.readForm lines front.2 (TagForm.ofTag tag) :=
    Tag.readTag_builtin builtin tag lines front.2
  have braced : ∀ braces body, .tag braces body ∈ Piece.cut template → 0 < braces := by
    intro braces body member
    obtain ⟨rfl | rfl, -⟩ := Piece.cutFrom_shape [] template braces body member
    · decide
    · decide
  rw [pieces] at braced
  refine ⟨front.2, front.1.flatMap Reading.findings, back.1.flatMap Reading.findings,
    back.2.blocks.entries.map OpenBlock.unclosed, ?_, ?_, ?_, ?_, ?_⟩
  · exact readPieces_known options lines before 0 _
  · rw [findings, whole, List.flatMap_append, List.flatMap_cons, read]
    simp only [List.append_assoc]
  · intro finding member
    have inside := readPieces_findings_inside builtin lines before
      (fun braces body member => braced braces body (List.mem_append_left _ member)) 0 _ finding
      member
    exact Nat.lt_of_lt_of_eq inside.2 (Nat.zero_add _)
  · intro finding member
    exact (readPieces_findings_inside builtin lines after
      (fun braces body member => braced braces body
        (List.mem_append_right _ (List.mem_cons_of_mem _ member))) _ _ finding member).1
  · exact List.forall_mem_map.2 fun block _ => ⟨block, rfl⟩

/-- An inclusion of a partial that is neither registered nor declared in a tag before it is
reported. -/
theorem unknown_reported {options : Options} (builtin : options.providers = [])
    {template body name : Text} {braces : Nat} {before after : List Piece}
    (pieces : Piece.cut template = before ++ .tag braces body :: after)
    (includes : Piece.included? (.tag braces body) = some name) (named : name ≠ [])
    (unregistered : name ∉ options.partials)
    (undeclared : ∀ piece ∈ before, piece.declared? ≠ some name) :
    ReportsUnknown template
      (TagSpan.ofTag (Text.byteLength (before.flatMap Piece.source)) braces body) name
      ((findings options template).map (Diagnostic.place (LineTable.ofSource template))) := by
  let lines := LineTable.ofSource template
  let start := Text.byteLength (before.flatMap Piece.source)
  let tag := tagAt lines start braces body
  obtain ⟨surroundings, earlier, later, unclosed, known, all, ends, begins, blocks⟩ :=
    findings_around builtin pieces
  have unknown : name ∉ surroundings.partials := by
    rw [known, List.mem_append, List.mem_filterMap]
    rintro (registered | ⟨piece, listed, declares⟩)
    · exact unregistered registered
    · exact undeclared piece listed declares
  obtain ⟨finding, rest, found, problem, others⟩ :=
    Tag.readForm_unknown lines start includes named unknown
  have listed : (start, .tag braces body) ∈ Piece.withOffsets 0 (Piece.cut template) := by
    rw [pieces, Piece.withOffsets_append, Nat.zero_add]
    exact List.mem_append_right _ (List.mem_cons_self ..)
  have marks : AllMark tag.front
      (tag.readForm lines surroundings (TagForm.ofTag tag)).findings := tag.readForm_marks _
  rw [found] at marks
  refine ⟨earlier.map (Diagnostic.place lines), Diagnostic.place lines finding,
    (rest ++ (later ++ unclosed)).map (Diagnostic.place lines), ?_, problem, ?_,
    (marks finding (List.mem_cons_self ..)).pointsInto listed, ?_⟩
  · rw [all, found, List.map_append, List.cons_append, List.map_cons]
  · rw [show (Diagnostic.place lines finding).problem = .unknownPartial name from problem]
    rfl
  · rw [← List.map_append]
    refine List.forall_mem_map.2 fun other member same => ?_
    simp only [List.mem_append] at member
    rcases member with before | here | behind | never
    · exact Or.inl (ends other before)
    · exact absurd same (others other here)
    · exact Or.inr (begins other behind)
    · obtain ⟨block, rfl⟩ := blocks other never
      cases same

/-- Partials are declared before they are included. In every document an inclusion is of a
registered partial, case included, or a declaration of its name comes before it on a walk through
the nodes. A template with an inclusion of any other partial has no document, and the inclusion is
reported in its tag under the name of the partial.

Proof: the names that are known when a tag is read are the registered ones and those that the tags
before it declare. So the token of an inclusion comes behind the token of a declaration, and the
walk through the nodes meets them in the same order. -/
theorem partials_declared_first (partials : List Text) (template : Text) :
    (∀ document diagnostics,
      parse ⟨partials, []⟩ template = .ok ⟨some document, diagnostics⟩ →
        Node.Introduced partials document.allNodes) ∧
    ∀ before braces body after name,
      Piece.cut template = before ++ .tag braces body :: after →
      Piece.included? (.tag braces body) = some name → name ≠ [] → name ∉ partials →
      (∀ piece ∈ before, piece.declared? ≠ some name) →
      ∃ diagnostics, parse ⟨partials, []⟩ template = .ok ⟨none, diagnostics⟩ ∧
        ReportsUnknown template
          (TagSpan.ofTag (Text.byteLength (before.flatMap Piece.source)) braces body) name
          diagnostics := by
  have builtin : (⟨partials, []⟩ : Options).providers = [] := rfl
  have ready : (⟨partials, []⟩ : Options).ReadyMade := by simp [Options.ReadyMade]
  refine ⟨fun document diagnostics parsed => document_introduced builtin parsed, ?_⟩
  intro before braces body after name pieces includes named unregistered undeclared
  have reported := unknown_reported builtin pieces includes named unregistered undeclared
  refine ⟨_, parse_refused ready fun clean => ?_, reported⟩
  obtain ⟨before, diagnostic, after, whole, -⟩ := reported
  rw [clean] at whole
  simp at whole

/-- A partial that includes itself below its declaration, and an inclusion in front of the
declaration, in another case than a registered partial. -/
theorem partials_declared_first_recursive :
    let partials : List Text := ["Row"]
    let recursive := tagSource 2 "#declare Tree" ++ tagSource 2 "#if node" ++
      tagSource 2 "#include Tree With node" ++ tagSource 2 "/if" ++ tagSource 2 "/declare" ++
      tagSource 2 "#include Row"
    let early := "Rows: " ++ tagSource 2 "#include row" ++ tagSource 2 "#declare row" ++
      tagSource 2 "/declare"
    (∃ document diagnostics, parse ⟨partials, []⟩ recursive = .ok ⟨some document, diagnostics⟩ ∧
      document.allNodes.length = 4 ∧ Node.Introduced partials document.allNodes) ∧
    ∃ diagnostics, parse ⟨partials, []⟩ early = .ok ⟨none, diagnostics⟩ ∧
      ReportsUnknown early (TagSpan.ofTag 6 2 "#include row") "row" diagnostics := by
  intro partials recursive early
  have read : ((parse ⟨partials, []⟩ recursive).toOption.bind ParseResult.document).any
      (fun document => document.allNodes.length == 4) = true := by
    decide +kernel
  obtain ⟨document, diagnostics, parsed, four⟩ := exists_document_of_any read
  have pieces : Piece.cut early = [.content "Rows: "] ++ .tag 2 "#include row" ::
      [.tag 2 "#declare row", .tag 2 "/declare"] := by
    decide +kernel
  have plain : ∀ piece ∈ [Piece.content "Rows: "], piece.declared? ≠ some "row" := by
    decide +kernel
  exact ⟨⟨document, diagnostics, parsed, beq_iff_eq.1 four,
      (partials_declared_first partials recursive).1 document diagnostics parsed⟩,
    (partials_declared_first partials early).2 _ 2 "#include row" _ "row" pieces
      (by decide +kernel) (by decide) (by decide) plain⟩

end Template

end Bracework

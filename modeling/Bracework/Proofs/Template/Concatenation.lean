import Bracework.Proofs.Assembly.Renumbered
import Bracework.Proofs.Lexer.Appended
import Bracework.Proofs.Lexer.Displaced

/-!
# Templates one behind the other

A template that has a document ends with nothing open. What follows it is read and built as if it
stood alone, except for the offsets and lines of its tags, for partials that are known already and
for an if block that may have been closed, none of which a template without findings depends on,
and for the numbers of its scopes, which go on where those of the first template end.

Where the two meet, neither may take characters from the other. It is enough that the second one
begins with a tag and that no brace stands in the content of the first.
-/

namespace Bracework

/-! ### Pieces -/

namespace Piece

/-- No brace stands in the content between tags. -/
def Bare (pieces : List Piece) : Prop :=
  ∀ text, .content text ∈ pieces → ∀ character ∈ text, isBrace character = false

/-- A template begins with a tag. -/
def BeginsWithTag (template : Text) : Prop :=
  ∃ braces body, (cut template).head? = some (.tag braces body)

variable {braces : Nat} {text rest after : Text} {first : Char} {piece : Piece}

/-- No tag begins with a character that is no brace. -/
theorem tagAt?_plain (plain : isBrace first = false) : tagAt? (first :: text) = none := by
  have missing {braces : Nat} (positive : 0 < braces) : tagWith? braces (first :: text) = none := by
    cases found : tagWith? braces (first :: text) with
    | none => rfl
    | some tag =>
      obtain ⟨more, rfl⟩ := Nat.exists_eq_succ_of_ne_zero (Nat.ne_of_gt positive)
      have whole := ((tagWith?_eq_some_iff positive).1 found).1
      obtain rfl : first = '{' := (List.cons.inj whole).1
      simp [isBrace] at plain
  rw [tagAt?, missing (by decide), missing (by decide)]
  rfl

/-- The tag at the start of a text stays what it is, whatever is put behind the text. -/
theorem tagAt?_append (found : tagAt? text = some (piece, rest)) (second : Text) :
    tagAt? (text ++ second) = some (piece, rest ++ second) := by
  have extend {braces : Nat} {body : Text} (positive : 0 < braces)
      (tagged : tagWith? braces text = some (body, rest)) :
      tagWith? braces (text ++ second) = some (body, rest ++ second) := by
    obtain ⟨whole, isBody⟩ := (tagWith?_eq_some_iff positive).1 tagged
    exact (tagWith?_eq_some_iff positive).2 ⟨by rw [whole, List.append_assoc], isBody⟩
  unfold tagAt? at found ⊢
  split at found
  · rename_i two
    cases found
    rw [extend (by decide) two]
  · obtain ⟨⟨body, left⟩, three, same⟩ := Option.map_eq_some_iff.1 found
    cases same
    have whole := ((tagWith?_eq_some_iff (by decide)).1 (extend (by decide) three)).1
    rw [whole, tagWith?_two_of_three, ← whole, extend (by decide) three]
    rfl

/-- Characters that have been taken as content come first, as content. -/
theorem cutFrom_head (taken text : Text) (nonempty : taken ≠ []) :
    ∃ rest, cutFrom taken text = .content (taken.reverse ++ rest) :: (cutFrom taken text).tail := by
  fun_induction cutFrom taken text with
  | case1 taken => exact ⟨[], by simp [contentOf, nonempty]⟩
  | case2 taken first text piece after found induction => exact ⟨[], by simp [contentOf, nonempty]⟩
  | case3 taken first text missing induction =>
    obtain ⟨rest, shape⟩ := induction (List.cons_ne_nil _ _)
    exact ⟨first :: rest, by rw [shape]; simp⟩

/-- A template that begins with a tag is cut behind the tag first. -/
theorem BeginsWithTag.tagAt? (begins : BeginsWithTag text) :
    ∃ piece rest, Piece.tagAt? text = some (piece, rest) := by
  obtain ⟨braces, body, head⟩ := begins
  cases text with
  | nil => simp [cut, cutFrom, contentOf] at head
  | cons first text =>
    cases found : Piece.tagAt? (first :: text) with
    | some tag => exact ⟨tag.1, tag.2, rfl⟩
    | none =>
      obtain ⟨rest, shape⟩ := cutFrom_head [first] text (List.cons_ne_nil _ _)
      rw [cut, cutFrom_missing found, shape] at head
      simp at head

/-- Between a text without braces in its content and one that begins with a tag nothing is cut
otherwise than alone. -/
theorem cutFrom_concat {second : Text} (begins : BeginsWithTag second) (taken text : Text)
    (bare : Bare (cutFrom taken text)) :
    cutFrom taken (text ++ second) = cutFrom taken text ++ cut second := by
  fun_induction cutFrom taken text with
  | case1 taken =>
    obtain ⟨piece, rest, found⟩ := begins.tagAt?
    cases second with
    | nil => simp [Piece.tagAt?, tagWith?, Text.after?] at found
    | cons first second =>
      rw [List.nil_append, cut, cutFrom_found found, cutFrom_found found]
      rfl
  | case2 taken first text piece after found induction =>
    have later : Bare (cutFrom [] after) := fun text member =>
      bare text (List.mem_append_right _ (List.mem_cons_of_mem _ member))
    have joined := tagAt?_append found second
    rw [List.cons_append] at joined
    rw [List.cons_append, cutFrom_found joined, induction later, List.append_assoc]
    rfl
  | case3 taken first text missing induction =>
    obtain ⟨rest, shape⟩ := cutFrom_head (first :: taken) text (List.cons_ne_nil _ _)
    have plain : isBrace first = false := by
      refine bare _ (shape ▸ List.mem_cons_self ..) first ?_
      simp
    rw [List.cons_append, cutFrom_missing (tagAt?_plain plain), induction bare]

end Piece

/-! ### Tokens -/

/-- What a token says: the token without its source text and its place. -/
def Token.meaning (token : Token) : Token :=
  { token with raw := [], span := ⟨0, 0⟩, position := ⟨0, 0⟩ }

/-- Only what a token says matters to what is built. -/
theorem Construction.addToken_meaning {options : Options} (builtin : options.providers = [])
    (construction : Construction) (token : Token) :
    construction.addToken options token.meaning = construction.addToken options token := by
  unfold addToken addCustom Options.builder?
  rw [builtin]
  rfl

namespace Document

variable {options : Options} {tokens others : List Token}

/-- Only what tokens say matters to their document. -/
theorem ofTokens_meaning (builtin : options.providers = []) (tokens : List Token) :
    ofTokens options (tokens.map Token.meaning) = ofTokens options tokens := by
  have same : (fun construction token =>
      Construction.addToken options construction (Token.meaning token)) =
        Construction.addToken options :=
    funext fun construction => funext fun token => construction.addToken_meaning builtin token
  rw [ofTokens, List.foldl_map, same, ofTokens]

/-- Tokens that say the same have the same document. -/
theorem ofTokens_congr (builtin : options.providers = [])
    (same : tokens.map Token.meaning = others.map Token.meaning) :
    ofTokens options tokens = ofTokens options others := by
  rw [← ofTokens_meaning builtin tokens, same, ofTokens_meaning builtin]

/-- The places of tokens do not matter to their document. -/
theorem ofTokens_placeless (builtin : options.providers = []) (tokens : List Token) :
    ofTokens options (tokens.map Token.placeless) = ofTokens options tokens := by
  refine ofTokens_congr builtin ?_
  rw [List.map_map]
  rfl

end Document

/-! ### Templates -/

/-- Partials that are known stay known. -/
theorem readPieces_partials (options : Options) (lines : LineTable)
    (places : List (Nat × Piece)) (surroundings : Surroundings) :
    surroundings.partials ⊆ (readPieces options lines surroundings places).2.partials := by
  induction places generalizing surroundings with
  | nil => exact List.Subset.refl _
  | cons place rest induction =>
    obtain ⟨start, piece⟩ := place
    cases piece with
    | content text => exact induction surroundings
    | tag braces body =>
      refine List.Subset.trans ?_ (induction _)
      simp only [Surroundings.after, Progress.partialsAfter]
      split
      · exact List.subset_append_left _ _
      · exact List.Subset.refl _

/-- No blocks are open where no label is. -/
theorem OpenBlocks.labels_eq_nil {blocks : OpenBlocks} :
    blocks.labels = [] ↔ blocks.entries = [] :=
  List.map_eq_nil_iff

namespace Template

/-- Where nothing is found wrong with two templates, nothing is found wrong with them together, and
they give the tokens of the one and then those of the other, places aside.

Proof: the text is cut between the two. The pieces of the first are read with other lines only. The
pieces of the second are read in surroundings that allow no less than those at the beginning of a
template: no block is open, and the registered partials are known still. -/
theorem readings_concat {options : Options} (builtin : options.providers = [])
    {first second : Text} (bare : Piece.Bare (Piece.cut first))
    (begins : Piece.BeginsWithTag second) (clean : findings options first = [])
    (cleanBehind : findings options second = []) :
    findings options (first ++ second) = [] ∧
      ((readings options (first ++ second)).1.flatMap Reading.tokens).map Token.placeless =
        ((readings options first).1.flatMap Reading.tokens).map Token.placeless ++
          ((readings options second).1.flatMap Reading.tokens).map Token.placeless := by
  obtain ⟨inTags, unclosed⟩ := List.append_eq_nil_iff.1 clean
  obtain ⟨inTagsBehind, unclosedBehind⟩ := List.append_eq_nil_iff.1 cleanBehind
  let start : Surroundings := ⟨OpenBlocks.empty, options.partials, false⟩
  let lines := LineTable.ofSource (first ++ second)
  let here := readPieces options lines start (Piece.withOffsets 0 (Piece.cut first))
  let behind := readPieces options lines here.2
    (Piece.withOffsets first.byteLength (Piece.cut second))
  have cut : Piece.cut (first ++ second) = Piece.cut first ++ Piece.cut second :=
    Piece.cutFrom_concat begins [] first bare
  have joined : readings options (first ++ second) = (here.1 ++ behind.1, behind.2) := by
    rw [readings, cut, Piece.withOffsets_append, readPieces_append, Piece.cut_source,
      Nat.zero_add]
  have same : start.Allows start := ⟨rfl, List.Subset.refl _, fun closed => closed⟩
  obtain ⟨tokens, cleanHere, last⟩ := readPieces_repeats builtin lines (LineTable.ofSource first)
    (Piece.cut first) 0 0 same
  have allows : here.2.Allows start := by
    refine ⟨?_, readPieces_partials options lines _ start, by simp [start]⟩
    rw [last.labels]
    exact OpenBlocks.labels_eq_nil.2 (List.map_eq_nil_iff.1 unclosed)
  obtain ⟨tokensBehind, cleanThere, lastBehind⟩ := readPieces_repeats builtin lines
    (LineTable.ofSource second) (Piece.cut second) first.byteLength 0 allows
  have closed : behind.2.blocks.entries = [] := by
    rw [← OpenBlocks.labels_eq_nil, lastBehind.labels]
    exact OpenBlocks.labels_eq_nil.2 (List.map_eq_nil_iff.1 unclosedBehind)
  constructor
  · rw [findings, joined, List.flatMap_append, cleanHere inTags, cleanThere inTagsBehind, closed]
    rfl
  · rw [joined, List.flatMap_append, List.map_append, tokens, tokensBehind]
    rfl

/-- A template that begins with a tag and has a document may be put behind another one that has a
document and no brace outside its tags: together they have a document, and it is the first one
followed by the second one, in which the numbers of scopes go on from those of the first.

Proof: nothing is found wrong with the two together, and their tokens are those of the one and then
those of the other. The tokens of the second build their nodes behind those of the first. -/
theorem parse_concat (partials : List Text) {first second : Text} {before after : Document}
    {diagnostics others : List Diagnostic} (bare : Piece.Bare (Piece.cut first))
    (begins : Piece.BeginsWithTag second)
    (parsed : parse ⟨partials, []⟩ first = .ok ⟨some before, diagnostics⟩)
    (follows : parse ⟨partials, []⟩ second = .ok ⟨some after, others⟩) :
    parse ⟨partials, []⟩ (first ++ second) =
      .ok ⟨some ⟨before.children ++ Node.renumberAll before.scopeCount after.children⟩, []⟩ := by
  have builtin : (⟨partials, []⟩ : Options).providers = [] := rfl
  have ready : (⟨partials, []⟩ : Options).ReadyMade := by simp [Options.ReadyMade]
  obtain ⟨clean, -, built⟩ := (parse_document_iff ready).1 parsed
  obtain ⟨cleanBehind, -, builtBehind⟩ := (parse_document_iff ready).1 follows
  obtain ⟨cleanBoth, tokens⟩ := readings_concat builtin bare begins clean cleanBehind
  rw [← Document.ofTokens_placeless builtin] at built builtBehind
  refine (parse_document_iff ready).2 ⟨cleanBoth, rfl, ?_⟩
  rw [← Document.ofTokens_placeless builtin, tokens]
  exact Document.ofTokens_append builtin built builtBehind

/-- A block with a name for its items, and behind it a block with a binding and the inclusion of a
registered partial. The scope of the second block becomes number two. -/
theorem parse_concat_two_blocks :
    let partials : List Text := ["row"]
    let first := "Items: " ++ tagSource 2 "#each items AS item" ++ tagSource 2 "item" ++
      tagSource 2 "/each"
    let second := tagSource 2 "#do once" ++ tagSource 2 "#let total = sum" ++ tagSource 2 "/do" ++
      tagSource 2 "#include row"
    Piece.Bare (Piece.cut first) ∧ Piece.BeginsWithTag second ∧
      ∃ before after diagnostics others,
        parse ⟨partials, []⟩ first = .ok ⟨some before, diagnostics⟩ ∧
        parse ⟨partials, []⟩ second = .ok ⟨some after, others⟩ ∧ before.scopeCount = 1 ∧
        parse ⟨partials, []⟩ (first ++ second) =
          .ok ⟨some ⟨before.children ++ Node.renumberAll before.scopeCount after.children⟩, []⟩ := by
  intro partials first second
  have pieces : Piece.cut first = [.content "Items: ", .tag 2 "#each items AS item",
      .tag 2 "item", .tag 2 "/each"] := by
    decide +kernel
  have plain : "Items: ".toList.all (fun character => !isBrace character) = true := by decide
  have bare : Piece.Bare (Piece.cut first) := by
    intro text member character inside
    obtain rfl : text = "Items: ".toList := by simpa [pieces] using member
    simpa using List.all_eq_true.1 plain character inside
  have begins : Piece.BeginsWithTag second := ⟨2, "#do once", by decide +kernel⟩
  have read : ((parse ⟨partials, []⟩ first).toOption.bind ParseResult.document).any
      (fun document => document.scopeCount == 1) = true := by
    decide +kernel
  have readBehind : ((parse ⟨partials, []⟩ second).toOption.bind ParseResult.document).any
      (fun _ => true) = true := by
    decide +kernel
  obtain ⟨before, diagnostics, parsed, one⟩ := exists_document_of_any read
  obtain ⟨after, others, follows, -⟩ := exists_document_of_any readBehind
  exact ⟨bare, begins, before, after, diagnostics, others, parsed, follows, beq_iff_eq.1 one,
    parse_concat partials bare begins parsed follows⟩

end Template

end Bracework

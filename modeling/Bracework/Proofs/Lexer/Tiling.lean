import Mathlib.Data.List.Chain
import Mathlib.Data.List.Forall2
import Bracework.Proofs.Lexer.Readings

/-!
# Tokens tile their template

Whatever is wrong with a template, its tokens cover it without gap or overlap. The tokens that
carry source text have spans that follow each other from the first byte to the last; each has
the text of its span and the position of its first byte. The others are companions of the token
before them: a name for the items of a block, found in the span of that token, or the opening of
the other case, at the end of the tag that goes over to it.

The pieces of a template are contiguous, and the readings of the pieces come in the same order,
one behind the other. All of this is therefore shown for one piece and its reading first.
-/

namespace Bracework

namespace Piece

/-- Content taken so far is one piece, or none when it is empty. -/
theorem contentOf_source (taken : Text) : (contentOf taken).flatMap source = taken.reverse := by
  unfold contentOf
  split
  · rename_i empty
    rw [empty]
    rfl
  · rw [List.flatMap_singleton]
    rfl

/-- The pieces of a text make up the content taken before it, and the text. -/
theorem cutFrom_source (taken text : Text) :
    (cutFrom taken text).flatMap source = taken.reverse ++ text := by
  fun_induction cutFrom taken text with
  | case1 taken => rw [contentOf_source, List.append_nil]
  | case2 taken first rest piece after found induction =>
    have whole := (tagAt?_source found).1
    rw [List.flatMap_append, contentOf_source, List.flatMap_cons, induction, whole]
    rfl
  | case3 taken first rest missing induction =>
    rw [induction, List.reverse_cons, List.append_assoc]
    rfl

/-- The pieces of a template make up the template. -/
theorem cut_source (template : Text) : (cut template).flatMap source = template :=
  cutFrom_source [] template

/-- A tag has at least its braces. -/
theorem tagAt?_tag {text rest : Text} {piece : Piece} (found : tagAt? text = some (piece, rest)) :
    piece.source ≠ [] ∧ ∀ content, piece ≠ .content content := by
  unfold tagAt? at found
  split at found
  · cases found
    constructor
    · simp [source, tagSource]
    · simp
  · obtain ⟨⟨body, after⟩, -, same⟩ := Option.map_eq_some_iff.1 found
    cases same
    constructor
    · simp [source, tagSource]
    · simp

/-- Every piece has at least one character. -/
theorem cutFrom_nonempty (taken text : Text) :
    ∀ piece ∈ cutFrom taken text, piece.source ≠ [] := by
  have contents (taken : Text) : ∀ piece ∈ contentOf taken, piece.source ≠ [] := by
    intro piece member
    unfold contentOf at member
    split at member
    · simp at member
    · rename_i nonempty
      rw [List.mem_singleton.1 member]
      simpa [source] using nonempty
  fun_induction cutFrom taken text with
  | case1 taken => exact contents taken
  | case2 taken first rest piece after found induction =>
    intro other member
    rcases List.mem_append.1 member with content | tag
    · exact contents taken other content
    · rcases List.mem_cons.1 tag with rfl | later
      · exact (tagAt?_tag found).1
      · exact induction other later
  | case3 taken first rest missing induction => exact induction

/-- Two neighbours are separated when they are not both content. -/
def Separated (left right : Piece) : Prop :=
  (∀ text, left ≠ .content text) ∨ ∀ text, right ≠ .content text

/-- No content lies directly beside other content. -/
theorem cutFrom_separated (taken text : Text) : (cutFrom taken text).IsChain Separated := by
  fun_induction cutFrom taken text with
  | case1 taken =>
    unfold contentOf
    split
    · exact .nil
    · exact .singleton _
  | case2 taken first rest piece after found induction =>
    have tag := (tagAt?_tag found).2
    have behind : (piece :: cutFrom [] after).IsChain Separated :=
      List.isChain_cons.2 ⟨fun next _ => Or.inl tag, induction⟩
    unfold contentOf
    split
    · exact behind
    · exact List.isChain_cons_cons.2 ⟨Or.inr tag, behind⟩
  | case3 taken first rest missing induction => exact induction

/-- Every piece lies in the text that the pieces make up, at its offset. -/
theorem withOffsets_within (pieces : List Piece) (offset : Nat) :
    ∀ place ∈ withOffsets offset pieces,
      (⟨place.2.source, place.1⟩ : Located).Within ⟨pieces.flatMap source, offset⟩ := by
  induction pieces generalizing offset with
  | nil => simp [withOffsets]
  | cons piece rest induction =>
    intro place member
    rcases List.mem_cons.1 member with rfl | later
    · exact ⟨[], rest.flatMap source, rfl, rfl⟩
    · have tail : (⟨rest.flatMap source, offset + piece.source.byteLength⟩ : Located).Within
          ⟨(piece :: rest).flatMap source, offset⟩ :=
        ⟨piece.source, [], by rw [List.append_nil, List.flatMap_cons], rfl⟩
      exact (induction _ place later).trans tail

end Piece

/-! ### The statement -/

namespace Token

/-- The tokens that carry source text. -/
def written (tokens : List Token) : List Token := tokens.filter fun token => token.raw ≠ []

/-- Tokens tile a range of offsets when their spans are not empty and follow each other from its
start to its stop. -/
def Tile (start : Nat) (tokens : List Token) (stop : Nat) : Prop :=
  match tokens with
  | [] => start = stop
  | token :: rest =>
    token.span.start = start ∧ start < token.span.stop ∧ Tile token.span.stop rest stop

/-- A token without source text stands behind another as its companion: it is a name written in
the span of that token, or it opens the other case where that token has closed an if block and
gone over to it. -/
inductive Companion (template : Text) (previous token : Token) : Prop
  | name (kind : token.kind = .bindsName) (start : previous.span.start ≤ token.span.start)
      (stop : token.span.stop ≤ previous.span.stop)
      (found : Text.slice? token.span.start token.span.stop template = some token.value)
  | otherwise (kind : token.kind = .opens .otherwise) (closes : previous.kind = .closes .ifBlock)
      (form : ∃ tag : Tag, tag.Carries previous ∧ TagForm.ofTag tag = .keyword .ifOtherwise)
      (span : token.span = ⟨previous.span.stop, previous.span.stop⟩)

/-- Every token without source text directly follows one with source text, as its companion. -/
def Accompanied (template : Text) (tokens : List Token) : Prop :=
  ∀ before token after, tokens = before ++ token :: after → token.raw = [] →
    ∃ earlier previous, before = earlier ++ [previous] ∧ previous.raw ≠ [] ∧
      Companion template previous token

/-- Tokens keep their template when nothing of it is lost in them. -/
structure Lossless (template : Text) (tokens : List Token) : Prop where
  /-- The spans of the tokens that carry source text tile the template. -/
  tiled : Tile 0 (written tokens) template.byteLength
  /-- Each of them has the text of its span, and the position of its first byte. -/
  sliced : ∀ token ∈ written tokens,
    Text.slice? token.span.start token.span.stop template = some token.raw ∧
      token.position = (LineTable.ofSource template).locate token.span.start
  /-- Content does not stand beside content. -/
  separated : (written tokens).IsChain fun left right => ¬(left.isContent ∧ right.isContent)
  /-- Content is not empty. -/
  nonempty : ∀ token ∈ tokens, token.isContent → token.raw ≠ []
  /-- All other tokens are companions of the token before them. -/
  accompanied : Accompanied template tokens
  /-- The source texts one behind the other are the template. -/
  source : detokenize tokens = template

/-! ### One piece -/

/-- A token covers a piece when it has the text, the span and the position of the piece, and is
content if the piece is. -/
structure Covers (lines : LineTable) (place : Nat × Piece) (token : Token) : Prop where
  raw : token.raw = place.2.source
  span : token.span = ⟨place.1, place.1 + place.2.source.byteLength⟩
  position : token.position = lines.locate place.1
  content : token.isContent ↔ ∃ text, place.2 = .content text

/-- The tokens of a piece: one covers it, and a companion may follow. -/
inductive OfPiece (lines : LineTable) (place : Nat × Piece) : List Token → Prop
  | alone {token : Token} (covers : Covers lines place token) : OfPiece lines place [token]
  | accompanied {token second : Token} (covers : Covers lines place token)
      (silent : second.raw = []) (other : ¬second.isContent)
      (companion : Companion lines.source token second) : OfPiece lines place [token, second]

/-- The token that carries a tag covers the piece of the tag. -/
theorem covers_of_carries {lines : LineTable} {start braces : Nat} {body : Text} {token : Token}
    (carries : (tagAt lines start braces body).Carries token) :
    Covers lines (start, .tag braces body) token where
  raw := carries.raw
  span := carries.span
  position := carries.position
  content := by
    have other : ¬token.isContent := by
      simpa [isContent] using carries.kind
    constructor
    · exact fun content => absurd content other
    · rintro ⟨text, impossible⟩
      cases impossible

/-- The reading of a tag that lies in the template gives the tokens of a piece. -/
theorem ofPiece_of_gives {lines : LineTable} {start braces : Nat} {body : Text}
    {tokens : List Token}
    (within : (⟨tagSource braces body, start⟩ : Located).Within ⟨lines.source, 0⟩)
    (gives : (tagAt lines start braces body).Gives lines tokens) :
    OfPiece lines (start, .tag braces body) tokens := by
  cases gives with
  | single carries => exact .alone (covers_of_carries carries)
  | named carries inside =>
    rename_i token name
    have inTag := inside.trans (tagAt lines start braces body).located_within
    have inTemplate : name.Within ⟨lines.source, 0⟩ := inTag.trans within
    obtain ⟨first, last⟩ := inTag.bounds
    refine .accompanied (covers_of_carries carries) rfl (by simp [isContent, Tag.nameToken, plain])
      (.name rfl ?_ ?_ inTemplate.slice?_eq)
    · rw [carries.span]
      exact first
    · rw [carries.span]
      exact last
  | ifOtherwise carries closes form opens silent empty =>
    refine .accompanied (covers_of_carries carries) silent (by simp [isContent, opens])
      (.otherwise opens closes ⟨_, carries, form⟩ ?_)
    rw [empty, carries.span]

/-- Content gives the tokens of a piece. -/
theorem ofPiece_content (lines : LineTable) (start : Nat) (text : Text) :
    OfPiece lines (start, .content text) [contentToken lines start text] := by
  refine .alone ⟨rfl, rfl, rfl, ?_⟩
  constructor
  · exact fun _ => ⟨text, rfl⟩
  · exact fun _ => rfl

/-- The readings of pieces that lie in the template are the tokens of the pieces, in order. -/
theorem ofPiece_readPieces {options : Options} (ready : options.ReadyMade) {lines : LineTable}
    (places : List (Nat × Piece)) (surroundings : Surroundings)
    (within : ∀ place ∈ places,
      (⟨place.2.source, place.1⟩ : Located).Within ⟨lines.source, 0⟩) :
    List.Forall₂ (fun place (reading : Reading) => OfPiece lines place reading.tokens) places
      (readPieces options lines surroundings places).1 := by
  induction places generalizing surroundings with
  | nil => exact .nil
  | cons place rest induction =>
    have later := fun other member => within other (List.mem_cons_of_mem _ member)
    obtain ⟨start, piece⟩ := place
    cases piece with
    | content text => exact .cons (ofPiece_content lines start text) (induction _ later)
    | tag braces body =>
      have here := within _ (List.mem_cons_self ..)
      exact .cons (ofPiece_of_gives here (Tag.readTag_gives ready surroundings))
        (induction _ later)

/-! ### All pieces -/

section Run

/-- Where two lists correspond, every entry of the second has its counterpart in the first. -/
theorem exists_counterpart {left right : Type} {relation : left → right → Prop}
    {first : List left} {second : List right} (matched : List.Forall₂ relation first second) :
    ∀ entry ∈ second, ∃ counterpart ∈ first, relation counterpart entry := by
  induction matched with
  | nil => simp
  | cons here later induction =>
    intro entry member
    rcases List.mem_cons.1 member with rfl | behind
    · exact ⟨_, List.mem_cons_self .., here⟩
    · obtain ⟨counterpart, inside, related⟩ := induction entry behind
      exact ⟨counterpart, List.mem_cons_of_mem _ inside, related⟩

variable {lines : LineTable} {places : List (Nat × Piece)} {groups : List (List Token)}

/-- Of the tokens of a piece, the one that covers it carries source text. -/
theorem OfPiece.written_eq {place : Nat × Piece} {tokens : List Token}
    (ofPiece : OfPiece lines place tokens) (nonempty : place.2.source ≠ []) :
    ∃ token, written tokens = [token] ∧ Covers lines place token := by
  cases ofPiece with
  | alone covers =>
    rename_i token
    have loud : token.raw ≠ [] := covers.raw ▸ nonempty
    exact ⟨token, by simp [written, loud], covers⟩
  | accompanied covers silent other companion =>
    rename_i token second
    have loud : token.raw ≠ [] := covers.raw ▸ nonempty
    exact ⟨token, by simp [written, loud, silent], covers⟩

/-- Content among the tokens of a piece is not empty. -/
theorem OfPiece.content_nonempty {place : Nat × Piece} {tokens : List Token}
    (ofPiece : OfPiece lines place tokens) (nonempty : place.2.source ≠ []) :
    ∀ token ∈ tokens, token.isContent → token.raw ≠ [] := by
  cases ofPiece with
  | alone covers =>
    rw [List.forall_mem_singleton, covers.raw]
    exact fun _ => nonempty
  | accompanied covers silent other companion =>
    rw [List.forall_mem_cons, List.forall_mem_singleton, covers.raw]
    exact ⟨fun _ => nonempty, fun content => absurd content other⟩

/-- The tokens that carry source text cover the pieces in order. -/
theorem covers_written (groupsOf : List.Forall₂ (OfPiece lines) places groups)
    (nonempty : ∀ place ∈ places, place.2.source ≠ []) :
    List.Forall₂ (Covers lines) places (written groups.flatten) := by
  induction groupsOf with
  | nil => exact .nil
  | cons ofPiece rest induction =>
    obtain ⟨token, single, covers⟩ :=
      ofPiece.written_eq (nonempty _ (List.mem_cons_self ..))
    have later := induction fun other member => nonempty other (List.mem_cons_of_mem _ member)
    have split (first second : List Token) : written (first ++ second) =
        written first ++ written second := List.filter_append ..
    rw [List.flatten_cons, split, single]
    exact .cons covers later

/-- Tokens that cover contiguous pieces tile their range. -/
theorem tile_of_covers {pieces : List Piece} {offset : Nat} {tokens : List Token}
    (covers : List.Forall₂ (Covers lines) (Piece.withOffsets offset pieces) tokens)
    (nonempty : ∀ piece ∈ pieces, piece.source ≠ []) :
    Tile offset tokens (offset + Text.byteLength (pieces.flatMap Piece.source)) := by
  induction pieces generalizing offset tokens with
  | nil =>
    cases covers
    rfl
  | cons piece rest induction =>
    obtain _ | ⟨first, later⟩ := covers
    have wide := Text.byteLength_pos (nonempty piece (List.mem_cons_self ..))
    have tail := induction later fun other member => nonempty other (List.mem_cons_of_mem _ member)
    rw [List.flatMap_cons, Text.byteLength_append, ← Nat.add_assoc]
    unfold Tile
    rw [first.span]
    refine ⟨rfl, ?_, tail⟩
    dsimp only
    omega

/-- Tokens that cover separated pieces are separated. -/
theorem separated_of_covers {pieces : List Piece} {offset : Nat} {tokens : List Token}
    (covers : List.Forall₂ (Covers lines) (Piece.withOffsets offset pieces) tokens)
    (separated : pieces.IsChain Piece.Separated) :
    tokens.IsChain fun left right => ¬(left.isContent ∧ right.isContent) := by
  induction pieces generalizing offset tokens with
  | nil =>
    cases covers
    exact .nil
  | cons piece rest induction =>
    obtain _ | ⟨first, later⟩ := covers
    cases rest with
    | nil =>
      cases later
      exact .singleton _
    | cons next rest =>
      obtain ⟨apart, tail⟩ := List.isChain_cons_cons.1 separated
      have behind := induction later tail
      obtain _ | ⟨second, others⟩ := later
      refine List.isChain_cons_cons.2 ⟨?_, behind⟩
      rintro ⟨leftContent, rightContent⟩
      obtain ⟨leftText, left⟩ := first.content.1 leftContent
      obtain ⟨rightText, right⟩ := second.content.1 rightContent
      rcases apart with notLeft | notRight
      · exact notLeft leftText left
      · exact notRight rightText right

/-- The tokens without source text add nothing to it. -/
theorem detokenize_written (tokens : List Token) :
    detokenize (written tokens) = detokenize tokens := by
  induction tokens with
  | nil => rfl
  | cons token rest induction =>
    unfold detokenize written at induction ⊢
    by_cases silent : token.raw = []
    · rw [List.filter_cons_of_neg (by simpa using silent), List.flatMap_cons, silent, induction]
      rfl
    · rw [List.filter_cons_of_pos (by simpa using silent), List.flatMap_cons, List.flatMap_cons,
        induction]

/-- The source texts of tokens that cover pieces are those of the pieces. -/
theorem detokenize_of_covers {pieces : List Piece} {offset : Nat} {tokens : List Token}
    (covers : List.Forall₂ (Covers lines) (Piece.withOffsets offset pieces) tokens) :
    detokenize tokens = pieces.flatMap Piece.source := by
  induction pieces generalizing offset tokens with
  | nil =>
    cases covers
    rfl
  | cons piece rest induction =>
    obtain _ | ⟨first, later⟩ := covers
    have tail := induction later
    unfold detokenize at tail ⊢
    rw [List.flatMap_cons, List.flatMap_cons, first.raw, tail]

/-- Tokens stay accompanied when others stand in front of them or behind them. -/
theorem Accompanied.append {template : Text} {first second : List Token}
    (left : Accompanied template first) (right : Accompanied template second) :
    Accompanied template (first ++ second) := by
  intro before token after split silent
  rcases List.append_eq_append_iff.1 split with ⟨inner, beforeSplit, secondSplit⟩ |
    ⟨inner, firstSplit, tailSplit⟩
  · obtain ⟨earlier, previous, rfl, loud, companion⟩ := right inner token after secondSplit silent
    exact ⟨first ++ earlier, previous, by rw [beforeSplit, List.append_assoc], loud, companion⟩
  · cases inner with
    | nil =>
      obtain ⟨earlier, previous, impossible, -⟩ := right [] token after tailSplit.symm silent
      simp at impossible
    | cons head tail =>
      obtain ⟨rfl, -⟩ := List.cons.inj tailSplit
      exact left before token tail firstSplit silent

/-- The tokens of a piece are accompanied. -/
theorem OfPiece.is_accompanied {place : Nat × Piece} {tokens : List Token}
    (ofPiece : OfPiece lines place tokens) (nonempty : place.2.source ≠ []) :
    Accompanied lines.source tokens := by
  intro before token after split silent
  cases ofPiece with
  | alone covers =>
    cases before with
    | nil =>
      obtain ⟨rfl, -⟩ := List.cons.inj split
      exact absurd silent (covers.raw ▸ nonempty)
    | cons head tail => simp at split
  | accompanied covers quiet other companion =>
    rename_i previous second
    have loud : previous.raw ≠ [] := covers.raw ▸ nonempty
    match before, split with
    | [], split =>
      obtain ⟨rfl, -⟩ := List.cons.inj split
      exact absurd silent loud
    | [single], split =>
      obtain ⟨rfl, rest⟩ := List.cons.inj split
      obtain ⟨rfl, -⟩ := List.cons.inj rest
      exact ⟨[], previous, rfl, loud, companion⟩
    | _ :: _ :: _, split => simp at split

/-- Tokens of pieces are accompanied. -/
theorem accompanied_flatten (groupsOf : List.Forall₂ (OfPiece lines) places groups)
    (nonempty : ∀ place ∈ places, place.2.source ≠ []) :
    Accompanied lines.source groups.flatten := by
  induction groupsOf with
  | nil =>
    intro before token after split
    simp at split
  | cons ofPiece rest induction =>
    rw [List.flatten_cons]
    exact (ofPiece.is_accompanied (nonempty _ (List.mem_cons_self ..))).append
      (induction fun other member => nonempty other (List.mem_cons_of_mem _ member))

end Run

end Token

namespace Piece

/-- The pieces of a template with their offsets lie in the template. -/
theorem cut_within (template : Text) : ∀ place ∈ withOffsets 0 (cut template),
    (⟨place.2.source, place.1⟩ : Located).Within ⟨template, 0⟩ := by
  have within := withOffsets_within (cut template) 0
  rw [cut_source] at within
  exact within

/-- The pieces with offsets are the pieces. -/
theorem map_withOffsets (pieces : List Piece) (offset : Nat) :
    (withOffsets offset pieces).map Prod.snd = pieces := by
  induction pieces generalizing offset with
  | nil => rfl
  | cons piece rest induction => rw [withOffsets, List.map_cons, induction]

end Piece

namespace Template

/-- Tokens that are made of the pieces of a template keep the template. -/
theorem lossless_of_groups {template : Text} {groups : List (List Token)}
    (groupsOf : List.Forall₂ (Token.OfPiece (LineTable.ofSource template))
      (Piece.withOffsets 0 (Piece.cut template)) groups) :
    Token.Lossless template groups.flatten := by
  have pieces : ∀ piece ∈ Piece.cut template, piece.source ≠ [] :=
    Piece.cutFrom_nonempty [] template
  have places : ∀ place ∈ Piece.withOffsets 0 (Piece.cut template), place.2.source ≠ [] := by
    intro place member
    apply pieces
    rw [← Piece.map_withOffsets (Piece.cut template) 0]
    exact List.mem_map_of_mem member
  have covers := Token.covers_written groupsOf places
  refine
    { tiled := ?_
      sliced := ?_
      separated := Token.separated_of_covers covers (Piece.cutFrom_separated [] template)
      nonempty := ?_
      accompanied := Token.accompanied_flatten groupsOf places
      source := ?_ }
  · have tile := Token.tile_of_covers covers pieces
    rw [Piece.cut_source, Nat.zero_add] at tile
    exact tile
  · intro token member
    obtain ⟨place, inside, covered⟩ := Token.exists_counterpart covers token member
    have within := Piece.cut_within template place inside
    rw [covered.raw, covered.span, covered.position]
    exact ⟨within.slice?_eq, rfl⟩
  · intro token member content
    obtain ⟨group, inGroups, inGroup⟩ := List.mem_flatten.1 member
    obtain ⟨place, inside, ofPiece⟩ := Token.exists_counterpart groupsOf group inGroups
    exact ofPiece.content_nonempty (places place inside) token inGroup content
  · rw [← Token.detokenize_written, Token.detokenize_of_covers covers, Piece.cut_source]

/-- Lexing is lossless. Whatever is wrong with a template, its tokens can be read, where all
providers are ready-made ones, and nothing of the template is lost in them.

Proof: the readings of the pieces never break off and give the tokens of the pieces, in order.
The pieces are contiguous and make up the template. -/
theorem tokenize_lossless (options : Options) (template : Text) (ready : options.ReadyMade) :
    ∃ tokenized, tokenize options template = .ok tokenized ∧
      Token.Lossless template tokenized.tokens := by
  have within : ∀ place ∈ Piece.withOffsets 0 (Piece.cut template),
      (⟨place.2.source, place.1⟩ : Located).Within ⟨(LineTable.ofSource template).source, 0⟩ :=
    Piece.cut_within template
  have groups := lossless_of_groups (List.forall₂_map_right_iff.2 (Token.ofPiece_readPieces ready
    _ ⟨OpenBlocks.empty, options.partials, false⟩ within))
  rw [← List.flatMap_def] at groups
  exact ⟨_, tokenize_ok ready template, groups⟩

/-- A template with a stray brace, a block with a name for its items, a tag of a provider and a
closing tag too many keeps its tokens. -/
theorem tokenize_lossless_stray :
    let options : Options := ⟨[], [TagProvider.leaf "now", TagProvider.block "section"]⟩
    let template := '{' :: tagSource 2 "#each a.b AS item" ++ ['é'] ++ tagSource 2 "#now" ++
      tagSource 2 "/each" ++ tagSource 2 "/section"
    options.ReadyMade ∧ ∃ tokenized, tokenize options template = .ok tokenized ∧
      Token.Lossless template tokenized.tokens := by
  intro options template
  have ready : options.ReadyMade := by
    intro provider member
    rcases List.mem_cons.1 member with rfl | member
    · exact ⟨"now", Or.inl rfl⟩
    · rw [List.mem_singleton.1 member]
      exact ⟨"section", Or.inr rfl⟩
  exact ⟨ready, tokenize_lossless options template ready⟩

end Template

end Bracework

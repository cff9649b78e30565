import Bracework.Proofs.Lexer.Appended
import Bracework.Proofs.Text.Words

/-!
# Letters in another case

Nothing that cuts a template into tags, tags into their parts and payloads into their clauses tells
a capital letter from a small one. Each cut of the text in small letters is the cut of the text, in
small letters. So two texts that differ at most in the case of their letters are cut at the same
places, and their lines begin at the same offsets.

Only the parts of the two differ, and only in the case of their letters.
-/

namespace Bracework

/-! ### Characters -/

/-- The small letter is 32 behind its capital letter. -/
theorem toNat_toLower {character : Char} (upper : character.isUpper = true) :
    character.toLower.toNat = character.toNat + 32 := by
  simp only [Char.isUpper, decide_eq_true_eq] at upper
  have bound : character.toNat ≤ 90 := upper.2
  rw [Char.toLower, dif_pos upper]
  have sum : (character.val + 32).toNat = character.val.toNat + 32 := by
    rw [UInt32.toNat_add]
    exact Nat.mod_eq_of_lt (Nat.lt_of_le_of_lt (Nat.add_le_add_right bound 32) (by decide))
  exact sum

/-- A question about characters that is answered alike for each capital letter and its small one is
answered alike for each character and its small one. -/
theorem toLower_keeps {α : Type} {ask : Char → α}
    (letters : ∀ index : Fin 26, ask (Char.ofNat (97 + index)) = ask (Char.ofNat (65 + index)))
    (character : Char) : ask character.toLower = ask character := by
  by_cases upper : character.isUpper = true
  · have size := toNat_toLower upper
    simp only [Char.isUpper, decide_eq_true_eq] at upper
    have lower : 65 ≤ character.toNat := upper.1
    have bound : character.toNat ≤ 90 := upper.2
    have counted := letters ⟨character.toNat - 65, by omega⟩
    rw [show 97 + (character.toNat - 65) = character.toLower.toNat by omega,
      show 65 + (character.toNat - 65) = character.toNat by omega, Char.ofNat_toNat,
      Char.ofNat_toNat] at counted
    exact counted
  · rw [Char.toLower_eq_of_not_isUpper upper]

/-- A small letter is a blank, a brace, a letter, a character of a name, or a sigil when the letter
is, and has as many bytes. -/
theorem isBlank_toLower (character : Char) : isBlank character.toLower = isBlank character :=
  toLower_keeps (by decide) character

theorem isBrace_toLower (character : Char) : isBrace character.toLower = isBrace character :=
  toLower_keeps (by decide) character

theorem isNameChar_toLower (character : Char) :
    isNameChar character.toLower = isNameChar character :=
  toLower_keeps (by decide) character

theorem ofChar?_toLower (character : Char) :
    Sigil.ofChar? character.toLower = Sigil.ofChar? character :=
  toLower_keeps (by decide) character

theorem utf8Size_toLower (character : Char) : character.toLower.utf8Size = character.utf8Size :=
  toLower_keeps (by decide) character

/-- Only the letters of the alphabet have another small letter. -/
theorem toLower_eq_iff {special : Char}
    (other : ∀ index : Fin 26,
      Char.ofNat (97 + index) ≠ special ∧ Char.ofNat (65 + index) ≠ special)
    (character : Char) : character.toLower = special ↔ character = special := by
  let ask : Char → Bool := fun character => decide (character = special)
  have letters : ∀ index : Fin 26,
      ask (Char.ofNat (97 + index)) = ask (Char.ofNat (65 + index)) := by
    intro index
    simp [ask, other index]
  simpa [ask] using toLower_keeps letters character

/-! ### Texts -/

namespace Text

/-- A text in small letters. -/
def lower (text : Text) : Text := text.map Char.toLower

variable {text other left right : Text} {ask : Char → Bool}

@[simp] theorem lower_nil : lower [] = [] := rfl

@[simp] theorem lower_cons (first : Char) (rest : Text) :
    lower (first :: rest) = first.toLower :: lower rest := rfl

@[simp] theorem lower_append (left right : Text) :
    lower (left ++ right) = lower left ++ lower right :=
  List.map_append

@[simp] theorem lower_reverse (text : Text) : lower text.reverse = (lower text).reverse :=
  List.map_reverse

@[simp] theorem lower_length (text : Text) : (lower text).length = text.length := List.length_map _

@[simp] theorem lower_lower (text : Text) : lower (lower text) = lower text := by
  rw [lower, lower, List.map_map]
  exact List.map_congr_left fun character _ => Char.toLower_toLower_eq_toLower character

theorem lower_eq_nil : lower text = [] ↔ text = [] := List.map_eq_nil_iff

/-- Words are the same when they are the same in small letters. -/
theorem sameWord_iff : sameWord left right = true ↔ lower left = lower right := beq_iff_eq

/-- Words in small letters are the same as others when they are. -/
@[simp] theorem sameWord_lower (left right : Text) :
    sameWord (lower left) right = sameWord left right := by
  have small : (lower left).map Char.toLower = left.map Char.toLower := lower_lower left
  rw [sameWord, sameWord, small]

@[simp] theorem byteLength_lower (text : Text) : byteLength (lower text) = byteLength text := by
  induction text with
  | nil => rfl
  | cons first rest induction =>
    rw [lower_cons, byteLength_cons, byteLength_cons, induction, utf8Size_toLower]

/-- Texts that are the same in small letters have the same number of bytes. -/
theorem byteLength_eq_of_lower (same : lower text = lower other) :
    byteLength text = byteLength other := by
  rw [← byteLength_lower, same, byteLength_lower]

/-- Texts that are the same in small letters have the same number of characters. -/
theorem length_eq_of_lower (same : lower text = lower other) : text.length = other.length := by
  rw [← lower_length, same, lower_length]

theorem takeWhile_lower (kept : ∀ character : Char, ask character.toLower = ask character)
    (text : Text) : (lower text).takeWhile ask = lower (text.takeWhile ask) := by
  rw [lower, List.takeWhile_map, show ask ∘ Char.toLower = ask from funext kept]
  rfl

theorem dropWhile_lower (kept : ∀ character : Char, ask character.toLower = ask character)
    (text : Text) : (lower text).dropWhile ask = lower (text.dropWhile ask) := by
  rw [lower, List.dropWhile_map, show ask ∘ Char.toLower = ask from funext kept]
  rfl

theorem trimEnd_lower (kept : ∀ character : Char, ask character.toLower = ask character)
    (text : Text) : trimEnd ask (lower text) = lower (trimEnd ask text) := by
  rw [trimEnd, trimEnd, ← lower_reverse, dropWhile_lower kept, lower_reverse]

theorem head?_lower_any (kept : ∀ character : Char, ask character.toLower = ask character)
    (text : Text) : (lower text).head?.any ask = text.head?.any ask := by
  cases text with
  | nil => rfl
  | cons first rest => exact kept first

theorem head?_lower_all (kept : ∀ character : Char, ask character.toLower = ask character)
    (text : Text) : (lower text).head?.all ask = text.head?.all ask := by
  cases text with
  | nil => rfl
  | cons first rest => exact kept first

@[simp] theorem trimBlanks_lower (text : Text) :
    trimBlanks (lower text) = lower (trimBlanks text) := by
  rw [trimBlanks, trimBlanks, trim, trim, trimStart, trimStart, dropWhile_lower isBlank_toLower,
    trimEnd_lower isBlank_toLower]

/-- What follows characters that have no small letters follows them in small letters too. -/
theorem after?_lower {lead : Text}
    (plain : ∀ wanted ∈ lead, ∀ character : Char, wanted = character.toLower ↔ wanted = character)
    (text : Text) : after? lead (lower text) = (after? lead text).map lower := by
  induction lead generalizing text with
  | nil => rfl
  | cons wanted lead induction =>
    obtain ⟨here, later⟩ := List.forall_mem_cons.1 plain
    cases text with
    | nil => rfl
    | cons first rest =>
      rw [lower_cons, after?, after?]
      simp only [here first]
      split
      · exact induction later rest
      · rfl

end Text

/-! ### Pieces -/

namespace Piece

/-- A piece in small letters. -/
def lower : Piece → Piece
  | .content text => .content text.lower
  | .tag braces body => .tag braces body.lower

/-- A brace has no small letter. -/
theorem brace_toLower {brace : Char} (isBrace : brace = '{' ∨ brace = '}') (character : Char) :
    brace = character.toLower ↔ brace = character := by
  rw [eq_comm, eq_comm (b := character)]
  rcases isBrace with rfl | rfl
  · exact toLower_eq_iff (by decide) character
  · exact toLower_eq_iff (by decide) character

theorem source_lower (piece : Piece) : piece.lower.source = piece.source.lower := by
  cases piece with
  | content text => rfl
  | tag braces body => simp [lower, source, tagSource, Text.lower]

theorem tagWith?_lower (braces : Nat) (text : Text) : tagWith? braces text.lower =
    (tagWith? braces text).map fun found => (found.1.lower, found.2.lower) := by
  let plain : Char → Bool := fun character => !isBrace character
  have kept (character : Char) : plain character.toLower = plain character :=
    congrArg not (isBrace_toLower character)
  have body (inner : Text) : (inner.lower.takeWhile fun character => !isBrace character) =
      Text.lower (inner.takeWhile fun character => !isBrace character) :=
    Text.takeWhile_lower kept inner
  have behind (inner : Text) : (inner.lower.dropWhile fun character => !isBrace character) =
      Text.lower (inner.dropWhile fun character => !isBrace character) :=
    Text.dropWhile_lower kept inner
  have opening : ∀ wanted ∈ List.replicate braces '{', ∀ character : Char,
      wanted = character.toLower ↔ wanted = character := fun wanted member =>
    brace_toLower (Or.inl (List.eq_of_mem_replicate member))
  have closing : ∀ wanted ∈ List.replicate braces '}', ∀ character : Char,
      wanted = character.toLower ↔ wanted = character := fun wanted member =>
    brace_toLower (Or.inr (List.eq_of_mem_replicate member))
  simp only [tagWith?, Text.after?_lower opening]
  cases Text.after? (List.replicate braces '{') text with
  | none => rfl
  | some inner =>
    simp only [Option.map_some, Option.bind_eq_bind, Option.bind_some, body, behind,
      Text.lower_eq_nil, Text.after?_lower closing]
    split
    · rfl
    · cases Text.after? (List.replicate braces '}') (inner.dropWhile fun character =>
        !isBrace character) <;> rfl

theorem tagAt?_lower (text : Text) :
    tagAt? text.lower = (tagAt? text).map fun found => (found.1.lower, found.2.lower) := by
  rw [tagAt?, tagAt?, tagWith?_lower, tagWith?_lower]
  cases tagWith? 2 text with
  | some two => rfl
  | none =>
    cases tagWith? 3 text with
    | some three => rfl
    | none => rfl

/-- A text in small letters is cut where the text is cut. -/
theorem cutFrom_lower (taken text : Text) :
    cutFrom taken.lower text.lower = (cutFrom taken text).map lower := by
  have contents (taken : Text) : contentOf taken.lower = (contentOf taken).map lower := by
    unfold contentOf
    simp only [Text.lower_eq_nil]
    split
    · rfl
    · rw [← Text.lower_reverse]
      rfl
  fun_induction cutFrom taken text with
  | case1 taken =>
    rw [Text.lower_nil, cutFrom]
    exact contents taken
  | case2 taken first text piece after found induction =>
    have small := tagAt?_lower (first :: text)
    rw [found, Option.map_some, Text.lower_cons] at small
    have later : cutFrom [] after.lower = (cutFrom [] after).map lower := induction
    rw [Text.lower_cons, cutFrom_found small, contents, later, List.map_append, List.map_cons]
  | case3 taken first text missing induction =>
    have small := tagAt?_lower (first :: text)
    rw [missing, Option.map_none, Text.lower_cons] at small
    rw [Text.lower_cons, cutFrom_missing small]
    exact induction

/-- Pieces are the same when they are in small letters and have the same characters. -/
theorem eq_of_lower {piece other : Piece} (same : piece.lower = other.lower)
    (source : piece.source = other.source) : piece = other := by
  cases piece with
  | content text =>
    cases other with
    | content characters => exact congrArg content source
    | tag braces body => cases same
  | tag braces body =>
    cases other with
    | content characters => cases same
    | tag number inner =>
      obtain ⟨rfl, -⟩ := Piece.tag.inj same
      exact congrArg (tag braces) (List.append_cancel_left (List.append_cancel_right source))

/-- Pieces that are the same in small letters are the same when they make up the same text. -/
theorem eq_of_lower_source {pieces others : List Piece} (same : pieces.map lower = others.map lower)
    (whole : pieces.flatMap source = others.flatMap source) : pieces = others := by
  induction pieces generalizing others with
  | nil => exact (List.map_eq_nil_iff.1 same.symm).symm
  | cons piece rest induction =>
    obtain ⟨other, more, rfl, here, later⟩ := List.map_eq_cons_iff.1 same.symm
    have sources : piece.source.lower = other.source.lower := by
      rw [← source_lower, ← here, source_lower]
    rw [List.flatMap_cons, List.flatMap_cons] at whole
    obtain ⟨first, behind⟩ := List.append_inj whole (Text.length_eq_of_lower sources)
    rw [eq_of_lower here.symm first, induction later.symm behind]

/-- The text of pieces in small letters is the text of the pieces, in small letters. -/
theorem lower_flatMap_source (pieces : List Piece) :
    Text.lower (pieces.flatMap source) = (pieces.map lower).flatMap source := by
  induction pieces with
  | nil => rfl
  | cons piece rest induction =>
    rw [List.flatMap_cons, Text.lower_append, List.map_cons, List.flatMap_cons, source_lower,
      induction]

/-- A text that is put together from the pieces of a template, with letters in another case, is cut
into what it was put together from. -/
theorem cut_of_lower {template : Text} {others : List Piece}
    (same : others.map lower = (cut template).map lower) :
    cut (others.flatMap source) = others := by
  have cutSmall (text : Text) : (cut text).map lower = cut text.lower :=
    (cutFrom_lower [] text).symm
  -- the pieces of a text are known by their small letters and by the text
  refine eq_of_lower_source ?_ (cut_source _)
  rw [cutSmall, lower_flatMap_source, same, ← lower_flatMap_source, cut_source, ← cutSmall]

end Piece

/-! ### Parts and clauses -/

/-- A body in small letters has the parts of the body, in small letters. -/
theorem TagParts.ofBody_lower (body : Text) :
    (ofBody body.lower).sigil = (ofBody body).sigil ∧
      (ofBody body.lower).keyword = (ofBody body).keyword.map Text.lower ∧
      (ofBody body.lower).rest = (ofBody body).rest.lower := by
  have letters : ∀ character : Char, isAsciiLetter character.toLower = isAsciiLetter character :=
    Char.isAlpha_toLower_eq_isAlpha
  cases body with
  | nil => exact ⟨rfl, rfl, rfl⟩
  | cons first tail =>
    simp only [Text.lower_cons, ofBody, ofChar?_toLower]
    cases Sigil.ofChar? first with
    | none => exact ⟨rfl, rfl, rfl⟩
    | some sigil =>
      simp only [Text.takeWhile_lower letters, Text.dropWhile_lower letters, ne_eq,
        Text.lower_eq_nil, Text.head?_lower_all isBlank_toLower]
      split <;> exact ⟨rfl, rfl, rfl⟩

/-- The keyword that parts begin with depends on their sigil and on their word, the case of its
letters aside. -/
theorem Keyword.ofParts?_congr {parts other : TagParts} (sigil : parts.sigil = other.sigil)
    (word : parts.keyword.map Text.lower = other.keyword.map Text.lower) :
    ofParts? parts = ofParts? other := by
  have same (mark : Sigil) (keyword : Text) : parts.is mark keyword = other.is mark keyword := by
    simp only [TagParts.is, sigil]
    cases here : parts.keyword with
    | none =>
      rw [here, Option.map_none, eq_comm, Option.map_eq_none_iff] at word
      rw [word]
    | some written =>
      rw [here, Option.map_some, eq_comm, Option.map_eq_some_iff] at word
      obtain ⟨twin, there, small⟩ := word
      rw [there, Option.any_some, Option.any_some, ← Text.sameWord_lower, ← small,
        Text.sameWord_lower]
  unfold ofParts?
  simp only [same]

namespace AliasSplit

/-- A text in small letters is cut at the clause that binds a name where the text is. -/
theorem ofText_lower (text : Text) : ofText text.lower =
    ⟨(ofText text).head.lower, (ofText text).name.map Text.lower, (ofText text).nameOffset⟩ := by
  have letters : ∀ character : Char, isAsciiLetter character.toLower = isAsciiLetter character :=
    Char.isAlpha_toLower_eq_isAlpha
  simp only [ofText, ← Text.lower_reverse, Text.dropWhile_lower letters,
    Text.takeWhile_lower letters, Text.dropWhile_lower isBlank_toLower, Text.lower_length]
  split
  · rfl
  · cases (text.reverse.dropWhile isAsciiLetter).dropWhile isBlank with
    | nil => rfl
    | cons second rest =>
      cases rest with
      | nil => rfl
      | cons first beforeWord =>
        have word : Text.sameWord [first.toLower, second.toLower] "as" =
          Text.sameWord [first, second] "as" := Text.sameWord_lower [first, second] "as"
        simp only [Text.lower_cons, word, Text.dropWhile_lower isBlank_toLower, Text.lower_length]
        split
        · simp only [← Text.lower_reverse, Text.byteLength_lower, Option.map_some]
        · rfl

end AliasSplit

/-- A text in small letters ends with the word that names a behaviour when the text does. -/
theorem ScopeBehavior.splitOff_lower (text : Text) :
    splitOff text.lower = ((splitOff text).1.lower, (splitOff text).2) := by
  have before (word : Text) :
      beforeWord? word text.lower = (beforeWord? word text).map Text.lower := by
    have taken (count : Nat) : text.lower.take count = Text.lower (text.take count) :=
      List.map_take.symm
    have dropped (count : Nat) : text.lower.drop count = Text.lower (text.drop count) :=
      List.map_drop.symm
    simp only [beforeWord?, taken, dropped, Text.trimEnd_lower isBlank_toLower, Text.sameWord_lower,
      Text.lower_length]
    split <;> rfl
  unfold splitOff
  rw [before, before]
  cases beforeWord? "noscope" text with
  | some head => rfl
  | none => cases beforeWord? "withscope" text <;> rfl

/-- What follows the name of a partial in small letters begins with the word of a context when it
does. -/
theorem Inclusion.contextClause?_lower (after : Text) : contextClause? after.lower =
    (contextClause? after).map fun found => (found.1.lower, found.2.lower) := by
  have taken (text : Text) : text.lower.take 4 = Text.lower (text.take 4) := List.map_take.symm
  have dropped (text : Text) : text.lower.drop 4 = Text.lower (text.drop 4) := List.map_drop.symm
  simp only [contextClause?, Text.takeWhile_lower isBlank_toLower,
    Text.dropWhile_lower isBlank_toLower, taken, dropped, Text.sameWord_lower, ne_eq,
    Text.lower_eq_nil, Text.head?_lower_any isBlank_toLower]
  split <;> rfl

/-! ### Lines -/

namespace Text

/-- A text in small letters is cut at the bytes at which the text is cut. -/
theorem splitAtByte?_lower (offset : Nat) (text : Text) : splitAtByte? offset text.lower =
    (splitAtByte? offset text).map fun parts => (parts.1.lower, parts.2.lower) := by
  fun_induction splitAtByte? offset text with
  | case1 text => rw [splitAtByte?]; rfl
  | case2 offset => rfl
  | case3 offset first rest fits induction =>
    rw [lower_cons, splitAtByte?, utf8Size_toLower, if_pos fits, induction, Option.map_map,
      Option.map_map]
    rfl
  | case4 offset first rest wide =>
    rw [lower_cons, splitAtByte?, utf8Size_toLower, if_neg wide]
    rfl

theorem slice?_lower (start stop : Nat) (text : Text) :
    slice? start stop text.lower = (slice? start stop text).map lower := by
  simp only [slice?, splitAtByte?_lower]
  cases splitAtByte? start text with
  | none => rfl
  | some parts =>
    simp only [Option.map_some, Option.bind_eq_bind, Option.bind_some, splitAtByte?_lower]
    cases splitAtByte? (stop - start) parts.2 <;> rfl

end Text

/-- A small letter ends no line, and neither does its capital letter. -/
theorem lineFeedsFrom_lower (offset : Nat) (text : Text) :
    lineFeedsFrom offset text.lower = lineFeedsFrom offset text := by
  induction text generalizing offset with
  | nil => rfl
  | cons first rest induction =>
    have lineFeed : first.toLower = '\n' ↔ first = '\n' := toLower_eq_iff (by decide) first
    simp only [Text.lower_cons, lineFeedsFrom, lineFeed, utf8Size_toLower, induction]

/-- Whatever stands in a template stands at the same position when the template is in small
letters. -/
theorem LineTable.locate_lower (text : Text) :
    (ofSource text.lower).locate = (ofSource text).locate := by
  funext offset
  have feeds : (ofSource text.lower).lineFeeds = (ofSource text).lineFeeds :=
    congrArg List.toArray (lineFeedsFrom_lower 0 text)
  have line (offset : Nat) :
      (ofSource text.lower).lineOf offset = (ofSource text).lineOf offset := by
    rw [lineOf, lineOf, feeds]
  have start (line : Nat) :
      (ofSource text.lower).lineStart line = (ofSource text).lineStart line := by
    cases line with
    | zero => rfl
    | succ line => rw [lineStart, lineStart, feeds]
  have clamp : (ofSource text.lower).clamp offset = (ofSource text).clamp offset :=
    congrArg (min offset) (Text.byteLength_lower text)
  have slice (start stop : Nat) : Text.slice? start stop (ofSource text.lower).source =
      (Text.slice? start stop (ofSource text).source).map Text.lower :=
    Text.slice?_lower start stop text
  simp only [locate, clamp, line, start, slice]
  cases Text.slice? _ _ (ofSource text).source with
  | none => rfl
  | some before => simp only [Option.map_some, Text.lower_length]

end Bracework

import Bracework.Proofs.Lexer.LetterCase
import Bracework.Proofs.Lexer.Places

/-!
# Spellings of keywords

A template consists of words that may be written in any case and of everything between them, which
may not. The words are the keyword directly behind a sigil and the words of the clauses that are cut
off a payload: `AS` in front of a name, `NoScope` or `WithScope` in front of that, and `With` behind
the name of a partial. A word that stands where no clause is cut off is no such word, and neither is
a name, whatever it spells.

Another spelling of a template has the same characters outside these words and the same letters in
them. It is cut into the same tags, and each tag into the same parts: the clauses are found at the
same places, and all that they bind, name or compute stays what it is.
-/

namespace Bracework

/-- A part of a template: a text that stays as it is, or a word that may be written in any case. -/
inductive Stretch where
  | fixed (text : Text)
  | word (text : Text)
deriving DecidableEq, Repr

namespace Stretch

/-- The characters of a stretch. -/
def text : Stretch → Text
  | .fixed text => text
  | .word text => text

/-- Whether a text may stand for a stretch. -/
def admits : Stretch → Text → Bool
  | .fixed text, other => other == text
  | .word text, other => Text.sameWord other text

/-- A text spells stretches when it consists of texts that may stand for them, one behind the
other. -/
def Spelled : List Stretch → Text → Prop
  | [], other => other = []
  | stretch :: rest, other => stretch.admits (other.take stretch.text.length) = true ∧
      Spelled rest (other.drop stretch.text.length)

/-- Whether a text spells stretches is decided from the left. -/
instance decidableSpelled : (stretches : List Stretch) → (other : Text) →
    Decidable (Spelled stretches other)
  | [], other => inferInstanceAs (Decidable (other = []))
  | stretch :: rest, other =>
    have := decidableSpelled rest (other.drop stretch.text.length)
    inferInstanceAs (Decidable (_ ∧ _))

variable {stretch : Stretch} {first second rest stretches : List Stretch} {text other : Text}
  {inner : Text → List Stretch}

/-- What stands for a stretch differs from it at most in the case of letters. -/
theorem lower_of_admits (admitted : stretch.admits other = true) :
    other.lower = stretch.text.lower := by
  cases stretch with
  | fixed text => rw [beq_iff_eq.1 admitted]; rfl
  | word text => exact Text.sameWord_iff.1 admitted

/-- The first stretch stands first. -/
theorem spelled_cons (spelled : Spelled (stretch :: rest) other) : ∃ changed after,
    other = changed ++ after ∧ stretch.admits changed = true ∧ Spelled rest after :=
  ⟨_, _, (List.take_append_drop _ _).symm, spelled.1, spelled.2⟩

/-- A text that stays as it is stands first. -/
theorem spelled_fixed (spelled : Spelled (.fixed text :: rest) other) :
    ∃ after, other = text ++ after ∧ Spelled rest after := by
  obtain ⟨changed, after, whole, admitted, behind⟩ := spelled_cons spelled
  exact ⟨after, beq_iff_eq.1 admitted ▸ whole, behind⟩

/-- A text that stays as it is is spelled in one way. -/
theorem spelled_fixed_only (spelled : Spelled [.fixed text] other) : other = text := by
  obtain ⟨after, rfl, none⟩ := spelled_fixed spelled
  rw [show after = [] from none, List.append_nil]

/-- Stretchs one behind the other are spelled one behind the other. -/
theorem spelled_append (spelled : Spelled (first ++ second) other) : ∃ before after,
    other = before ++ after ∧ Spelled first before ∧ Spelled second after := by
  induction first generalizing other with
  | nil => exact ⟨[], other, rfl, rfl, spelled⟩
  | cons stretch first induction =>
    obtain ⟨here, later⟩ := spelled
    obtain ⟨before, after, whole, front, behind⟩ := induction later
    have size : (other.take stretch.text.length).length = stretch.text.length :=
      Text.length_eq_of_lower (lower_of_admits here)
    refine ⟨other.take stretch.text.length ++ before, after, ?_, ⟨?_, ?_⟩, behind⟩
    · rw [List.append_assoc, ← whole, List.take_append_drop]
    · rwa [List.take_left' size]
    · rwa [List.drop_left' size]

/-- A spelling differs from the text of its stretches at most in the case of letters. -/
theorem lower_of_spelled (spelled : Spelled stretches other) :
    other.lower = Text.lower (stretches.flatMap Stretch.text) := by
  induction stretches generalizing other with
  | nil => rw [show other = [] from spelled]; rfl
  | cons stretch rest induction =>
    obtain ⟨changed, after, rfl, admitted, behind⟩ := spelled_cons spelled
    rw [Text.lower_append, List.flatMap_cons, Text.lower_append, lower_of_admits admitted,
      induction behind]

/-- Stretchs make up a text when the text is what they consist of. -/
def MakesUp (inner : Text → List Stretch) : Prop :=
  ∀ text : Text, (inner text).flatMap Stretch.text = text

/-- A spelling of a text differs from the text at most in the case of letters. -/
theorem MakesUp.lower (whole : MakesUp inner) (spelled : Spelled (inner text) other) :
    other.lower = text.lower := by
  rw [lower_of_spelled spelled, whole]

/-- The stretches of a text between the blanks at its ends. -/
def trimmed (inner : Text → List Stretch) (text : Text) : List Stretch :=
  .fixed (text.takeWhile isBlank) :: (inner text.trimBlanks ++
    [.fixed ((text.dropWhile isBlank).reverse.takeWhile isBlank).reverse])

/-- The blanks at both ends of a text and what stands between them make up the text. -/
theorem trimBlanks_between (text : Text) : text = text.takeWhile isBlank ++ (text.trimBlanks ++
    ((text.dropWhile isBlank).reverse.takeWhile isBlank).reverse) := by
  have inside : text.trimBlanks =
    ((text.dropWhile isBlank).reverse.dropWhile isBlank).reverse := rfl
  rw [inside, ← List.reverse_append, List.takeWhile_append_dropWhile, List.reverse_reverse,
    List.takeWhile_append_dropWhile]

theorem MakesUp.trimmed (whole : MakesUp inner) : MakesUp (trimmed inner) := by
  intro text
  rw [Stretch.trimmed, List.flatMap_cons, List.flatMap_append, whole, List.flatMap_singleton]
  exact (trimBlanks_between text).symm

/-- Where a text is spelled, what stands between the blanks at its ends is spelled behind as many
blanks. -/
theorem spelled_trimBlanks (whole : MakesUp inner) (spelled : Spelled (trimmed inner text) other) :
    other.takeWhile isBlank = text.takeWhile isBlank ∧
      Spelled (inner text.trimBlanks) other.trimBlanks := by
  have small := whole.trimmed.lower spelled
  obtain ⟨after, shape, behind⟩ := spelled_fixed spelled
  obtain ⟨changed, trail, rfl, inside, -⟩ := spelled_append behind
  have lead : (other.takeWhile isBlank).length = (text.takeWhile isBlank).length := by
    apply Text.length_eq_of_lower
    rw [← Text.takeWhile_lower isBlank_toLower, small, Text.takeWhile_lower isBlank_toLower]
  have middle : other.trimBlanks.length = changed.length := by
    refine Text.length_eq_of_lower ?_
    rw [← Text.trimBlanks_lower, small, Text.trimBlanks_lower, whole.lower inside]
  obtain ⟨front, rest⟩ := List.append_inj ((trimBlanks_between other).symm.trans shape) lead
  obtain ⟨same, -⟩ := List.append_inj rest middle
  exact ⟨front, same ▸ inside⟩

end Stretch

/-! ### Clauses -/

/-- A word that may be written in any case, and nothing else. -/
def Stretch.wordOnly (text : Text) : List Stretch := [.word text]

theorem Stretch.wordOnly_makesUp : MakesUp wordOnly := List.append_nil

/-- A text that stays as it is, and nothing else. -/
def Stretch.fixedOnly (text : Text) : List Stretch := [.fixed text]

theorem Stretch.fixedOnly_makesUp : MakesUp fixedOnly := List.append_nil

namespace AliasSplit

/-- The stretches of a text that may end with a clause that binds a name. Between the name and what
stands before the clause, which has stretches of its own, stands the word of the clause. -/
def stretches (heads : Text → List Stretch) (text : Text) : List Stretch :=
  match (ofText text).name with
  | none => Stretch.fixedOnly text
  | some name =>
    let head := (ofText text).head
    let between := (text.take (text.length - name.length)).drop head.length
    heads head ++ (Stretch.trimmed Stretch.wordOnly between ++ Stretch.fixedOnly name)

variable {heads : Text → List Stretch} {text other name : Text}

/-- A name that is bound ends the text, behind the word of its clause. -/
theorem whole_of_name (found : (ofText text).name = some name) :
    ∃ between, text = (ofText text).head ++ (between ++ name) := by
  rcases ofText_cases text with uncut | ⟨head, gap, word, blanks, bound, clause, cut⟩
  · rw [uncut] at found
    cases found
  · rw [cut] at found ⊢
    obtain rfl := Option.some.inj found
    refine ⟨gap ++ word ++ blanks, ?_⟩
    rw [← List.append_assoc, ← List.append_assoc, ← List.append_assoc]
    exact clause.whole

/-- A text with a name that is bound has the stretches of what stands before the clause, the word of
the clause, and the name. -/
theorem stretches_of_name (heads : Text → List Stretch) (found : (ofText text).name = some name) :
    ∃ between, text = (ofText text).head ++ (between ++ name) ∧
      stretches heads text = heads (ofText text).head ++
        (Stretch.trimmed Stretch.wordOnly between ++ Stretch.fixedOnly name) := by
  obtain ⟨between, whole⟩ := whole_of_name found
  refine ⟨between, whole, ?_⟩
  have middle :
      (text.take (text.length - name.length)).drop (ofText text).head.length = between := by
    generalize (ofText text).head = head at whole
    rw [whole, ← List.append_assoc, List.length_append, Nat.add_sub_cancel, List.take_left,
      List.drop_left]
  simp only [stretches, found, middle]

theorem stretches_makesUp (whole : Stretch.MakesUp heads) : Stretch.MakesUp (stretches heads) := by
  intro text
  cases found : (ofText text).name with
  | none =>
    simp only [stretches, found]
    exact Stretch.fixedOnly_makesUp text
  | some name =>
    obtain ⟨between, parts, shape⟩ := stretches_of_name heads found
    rw [shape, List.flatMap_append, List.flatMap_append, whole,
      Stretch.wordOnly_makesUp.trimmed, Stretch.fixedOnly_makesUp]
    exact parts.symm

/-- Where a text is spelled, a name is cut off exactly where one is cut off the text, and then what
stands before the clause is spelled. -/
theorem spelled_ofText (whole : Stretch.MakesUp heads)
    (spelled : Stretch.Spelled (stretches heads text) other) :
    (ofText other).name = (ofText text).name ∧
      (ofText other).nameOffset = (ofText text).nameOffset ∧
      ((ofText text).name = none → other = text) ∧
      ((ofText text).name.isSome →
        Stretch.Spelled (heads (ofText text).head) (ofText other).head) := by
  have cut := ofText_lower other
  rw [(stretches_makesUp whole).lower spelled, ofText_lower] at cut
  obtain ⟨head, bound, offset⟩ := AliasSplit.mk.inj cut
  cases found : (ofText text).name with
  | none =>
    simp only [stretches, found] at spelled
    obtain rfl := Stretch.spelled_fixed_only spelled
    exact ⟨found, rfl, fun _ => rfl, nofun⟩
  | some name =>
    rw [found, Option.map_some, eq_comm, Option.map_eq_some_iff] at bound
    obtain ⟨own, foundOther, small⟩ := bound
    obtain ⟨between, parts⟩ := whole_of_name foundOther
    obtain ⟨middle, -, shape⟩ := stretches_of_name heads found
    rw [shape] at spelled
    obtain ⟨changed, clause, rfl, front, behind⟩ := Stretch.spelled_append spelled
    obtain ⟨word, last, rfl, -, ending⟩ := Stretch.spelled_append behind
    obtain rfl := Stretch.spelled_fixed_only ending
    -- the parts of both cuts are as long, so they are the parts that have been spelled
    have size : changed.length = (ofText (changed ++ (word ++ last))).head.length :=
      Text.length_eq_of_lower ((whole.lower front).trans head)
    obtain ⟨same, rest⟩ := List.append_inj parts size
    obtain ⟨-, rfl⟩ := List.append_inj' rest (Text.length_eq_of_lower small).symm
    refine ⟨foundOther, offset.symm, nofun, fun _ => ?_⟩
    rwa [← same]

/-- Where only the word of the clause is spelled, the text is cut alike. -/
theorem spelled_ofText_fixed (spelled : Stretch.Spelled (stretches Stretch.fixedOnly text) other) :
    ofText other = ofText text := by
  obtain ⟨name, offset, kept, front⟩ := spelled_ofText Stretch.fixedOnly_makesUp spelled
  cases found : (ofText text).name with
  | none => rw [kept found]
  | some bound =>
    rw [found] at front
    have head := Stretch.spelled_fixed_only (front rfl)
    calc ofText other = ⟨(ofText other).head, (ofText other).name, (ofText other).nameOffset⟩ := rfl
      _ = ⟨(ofText text).head, (ofText text).name, (ofText text).nameOffset⟩ := by
        rw [head, name, offset]
      _ = ofText text := rfl

end AliasSplit

namespace ScopeBehavior

/-- The stretches of a text that may end with a word on the scope. -/
def stretches (text : Text) : List Stretch :=
  match splitOff text with
  | (_, none) => Stretch.fixedOnly text
  | (head, some _) =>
    .fixed head :: Stretch.trimmed Stretch.wordOnly (text.drop head.length)

variable {text other : Text}

theorem stretches_makesUp : Stretch.MakesUp stretches := by
  intro text
  have front := splitOff_prefix text
  have parts := List.prefix_iff_eq_append.1 front
  unfold stretches
  split
  · exact Stretch.fixedOnly_makesUp text
  · rename_i head behavior found
    rw [found] at parts
    rw [List.flatMap_cons, Stretch.wordOnly_makesUp.trimmed]
    exact parts

/-- Where a text is spelled, the same is cut off the word on the scope. -/
theorem spelled_splitOff (spelled : Stretch.Spelled (stretches text) other) :
    splitOff other = splitOff text := by
  have cut := splitOff_lower other
  rw [stretches_makesUp.lower spelled, splitOff_lower] at cut
  obtain ⟨small, behavior⟩ := Prod.mk.inj cut
  obtain ⟨after, parts⟩ := splitOff_prefix other
  unfold stretches at spelled
  split at spelled
  · rw [Stretch.spelled_fixed_only spelled]
  · rename_i head word found
    obtain ⟨behind, rfl, -⟩ := Stretch.spelled_fixed spelled
    rw [found] at small behavior ⊢
    have same := List.append_inj_left parts (Text.length_eq_of_lower small).symm
    exact Prod.ext same behavior.symm

end ScopeBehavior

namespace Inclusion

/-- The stretches of the payload of an inclusion, which may have a clause behind the name. -/
def stretches (payload : Text) : List Stretch :=
  let name := payload.takeWhile isNameChar
  let after := payload.dropWhile isNameChar
  match contextClause? after with
  | none => Stretch.fixedOnly payload
  | some (gap, rest) =>
    [.fixed name, .fixed gap, .word ((after.dropWhile isBlank).take 4), .fixed rest]

variable {payload other : Text}

theorem stretches_makesUp : Stretch.MakesUp stretches := by
  intro payload
  unfold stretches
  dsimp only
  split
  · exact Stretch.fixedOnly_makesUp payload
  · rename_i gap rest found
    obtain ⟨behind, -⟩ := whole_of_contextClause? found
    simp only [List.flatMap_cons, List.flatMap_nil, List.append_nil, Stretch.text, ← behind,
      List.takeWhile_append_dropWhile]

/-- Where a payload is spelled, it has the same name, and the same clause or none. -/
theorem spelled_parts (spelled : Stretch.Spelled (stretches payload) other) :
    other.takeWhile isNameChar = payload.takeWhile isNameChar ∧
      (other.dropWhile isNameChar = [] ↔ payload.dropWhile isNameChar = []) ∧
      contextClause? (other.dropWhile isNameChar) = contextClause? (payload.dropWhile isNameChar) ∧
      (contextClause? (payload.dropWhile isNameChar) = none → other = payload) := by
  have small := stretches_makesUp.lower spelled
  cases found : contextClause? (payload.dropWhile isNameChar) with
  | none =>
    simp only [stretches, found] at spelled
    obtain rfl := Stretch.spelled_fixed_only spelled
    exact ⟨rfl, Iff.rfl, found, fun _ => rfl⟩
  | some clause =>
    obtain ⟨gap, rest⟩ := clause
    simp only [stretches, found] at spelled
    obtain ⟨behindName, whole, spelledGap⟩ := Stretch.spelled_fixed spelled
    obtain ⟨behindGap, rfl, spelledWord⟩ := Stretch.spelled_fixed spelledGap
    obtain ⟨word, last, rfl, -, spelledRest⟩ := Stretch.spelled_cons spelledWord
    obtain rfl := Stretch.spelled_fixed_only spelledRest
    have name : Text.lower (other.takeWhile isNameChar) =
        Text.lower (payload.takeWhile isNameChar) := by
      rw [← Text.takeWhile_lower isNameChar_toLower, small, Text.takeWhile_lower isNameChar_toLower]
    have after : Text.lower (other.dropWhile isNameChar) =
        Text.lower (payload.dropWhile isNameChar) := by
      rw [← Text.dropWhile_lower isNameChar_toLower, small, Text.dropWhile_lower isNameChar_toLower]
    obtain ⟨sameName, sameAfter⟩ := List.append_inj
      (List.takeWhile_append_dropWhile.trans whole) (Text.length_eq_of_lower name)
    have clause := contextClause?_lower (other.dropWhile isNameChar)
    rw [after, contextClause?_lower, found, Option.map_some, eq_comm,
      Option.map_eq_some_iff] at clause
    obtain ⟨⟨ownGap, ownRest⟩, foundOther, same⟩ := clause
    obtain ⟨smallGap, smallRest⟩ := Prod.mk.inj same
    obtain ⟨parts, -⟩ := whole_of_contextClause? foundOther
    rw [sameAfter] at parts
    obtain ⟨rfl, behind⟩ := List.append_inj parts (Text.length_eq_of_lower smallGap).symm
    obtain ⟨-, rfl⟩ := List.append_inj' behind (Text.length_eq_of_lower smallRest).symm
    refine ⟨sameName, ?_, foundOther, nofun⟩
    rw [← Text.lower_eq_nil, after, Text.lower_eq_nil]

/-- Where a payload is spelled between blanks, it is the payload of the same inclusion. -/
theorem spelled_ofPayload {written model : Located} (offset : written.offset = model.offset)
    (spelled : Stretch.Spelled (Stretch.trimmed stretches model.text) written.text) :
    ofPayload written = ofPayload model := by
  obtain ⟨lead, inside⟩ := Stretch.spelled_trimBlanks stretches_makesUp spelled
  have start : written.trim.offset = model.trim.offset := by
    rw [Located.trim, Located.trim, lead, offset]
  obtain ⟨name, empty, clause, kept⟩ := spelled_parts inside
  have text : written.trim.text = written.text.trimBlanks := rfl
  have modelText : model.trim.text = model.text.trimBlanks := rfl
  simp only [ofPayload, start, text, modelText, name, empty, clause]
  split
  · rfl
  · split
    · rfl
    · rename_i none
      rw [kept none]

end Inclusion

/-! ### Tags -/

/-- The stretches of what follows a keyword. Only the items of an each block may have a name, and
only they a word on the scope. -/
def Keyword.stretches (rest : Text) : Keyword → List Stretch
  | .block .each => Stretch.trimmed (AliasSplit.stretches ScopeBehavior.stretches) rest
  | .inclusion => Stretch.trimmed Inclusion.stretches rest
  | _ => Stretch.fixedOnly rest

/-- The stretches of what follows a sigil without a keyword. The items of a block that a path opens
may have a name. -/
def TagForm.stretches (tail : Text) : TagForm → List Stretch
  | .pathBlock => Stretch.trimmed (AliasSplit.stretches Stretch.fixedOnly) tail
  | .invertedBlock => Stretch.trimmed (AliasSplit.stretches Stretch.fixedOnly) tail
  | _ => Stretch.fixedOnly tail

/-- The stretches of a body between two braces. -/
def TagParts.stretches (body : Text) : List Stretch :=
  let parts := ofBody body
  match Keyword.ofParts? parts with
  | some keyword =>
    .fixed (body.take 1) :: .word (parts.keyword.getD []) :: keyword.stretches parts.rest
  | none => .fixed (body.take 1) :: (TagForm.ofSigil parts.sigil).stretches (body.drop 1)

section Bodies

variable {body other : Text} {keyword : Keyword}

theorem Keyword.stretches_makesUp (keyword : Keyword) :
    Stretch.MakesUp fun rest => keyword.stretches rest := by
  have each : Stretch.MakesUp (AliasSplit.stretches ScopeBehavior.stretches) :=
    AliasSplit.stretches_makesUp ScopeBehavior.stretches_makesUp
  intro rest
  unfold stretches
  split
  · exact each.trimmed rest
  · exact Inclusion.stretches_makesUp.trimmed rest
  · exact Stretch.fixedOnly_makesUp rest

theorem TagForm.stretches_makesUp (form : TagForm) :
    Stretch.MakesUp fun tail => form.stretches tail := by
  have path : Stretch.MakesUp (AliasSplit.stretches Stretch.fixedOnly) :=
    AliasSplit.stretches_makesUp Stretch.fixedOnly_makesUp
  intro tail
  unfold stretches
  split
  · exact path.trimmed tail
  · exact path.trimmed tail
  · exact Stretch.fixedOnly_makesUp tail

namespace TagParts

/-- A body that begins with a sigil consists of the sigil, the keyword and the rest. -/
theorem ofBody_whole (marked : (ofBody body).sigil.isSome) :
    body.take 1 ++ ((ofBody body).keyword.getD [] ++ (ofBody body).rest) = body := by
  cases body with
  | nil => cases marked
  | cons first tail =>
    unfold ofBody at marked ⊢
    dsimp only at marked ⊢
    split at marked
    · cases marked
    · split
      · exact congrArg (List.cons first) List.takeWhile_append_dropWhile
      · rfl

/-- Parts with a built-in keyword have a sigil. -/
theorem sigil_of_ofParts? {parts : TagParts} (found : Keyword.ofParts? parts = some keyword) :
    parts.sigil.isSome := by
  obtain ⟨entry, listed, -⟩ := Option.map_eq_some_iff.1 found
  have begins := List.find?_some listed
  simp only [TagParts.is, Bool.and_eq_true, beq_iff_eq] at begins
  rw [begins.1]
  rfl

theorem stretches_makesUp : Stretch.MakesUp stretches := by
  intro body
  unfold stretches
  dsimp only
  split
  · rename_i keyword found
    rw [List.flatMap_cons, List.flatMap_cons, keyword.stretches_makesUp]
    exact ofBody_whole (sigil_of_ofParts? found)
  · rw [List.flatMap_cons, TagForm.stretches_makesUp]
    exact List.take_append_drop 1 body

/-- Only words in their places may be written in any case: the keyword and the words of its clauses,
not the names. -/
example : stretches "#Each as.if NoScope AS each" =
    [.fixed "#", .word "Each", .fixed " ", .fixed "as.if", .fixed " ", .word "NoScope", .fixed "",
      .fixed " ", .word "AS", .fixed " ", .fixed "each", .fixed ""] := by
  decide +kernel

/-- Where a body is spelled, it has the same sigil and the same keyword or none. -/
theorem spelled_ofBody (spelled : Stretch.Spelled (stretches body) other) :
    (ofBody other).sigil = (ofBody body).sigil ∧
      (ofBody other).keyword.map Text.lower = (ofBody body).keyword.map Text.lower ∧
      Keyword.ofParts? (ofBody other) = Keyword.ofParts? (ofBody body) := by
  obtain ⟨sigil, keyword, -⟩ := ofBody_lower other
  rw [stretches_makesUp.lower spelled] at sigil keyword
  obtain ⟨own, word, -⟩ := ofBody_lower body
  have sameSigil := sigil.symm.trans own
  have sameKeyword := keyword.symm.trans word
  exact ⟨sameSigil, sameKeyword, Keyword.ofParts?_congr sameSigil sameKeyword⟩

/-- Where a body with a keyword is spelled, so is what follows the keyword, at the same place. -/
theorem spelled_rest (spelled : Stretch.Spelled (stretches body) other)
    (found : Keyword.ofParts? (ofBody body) = some keyword) :
    (ofBody other).restOffset = (ofBody body).restOffset ∧
      Stretch.Spelled (keyword.stretches (ofBody body).rest) (ofBody other).rest := by
  obtain ⟨sigil, word, keywords⟩ := spelled_ofBody spelled
  have whole := ofBody_whole (sigil_of_ofParts? (keywords.trans found))
  have small : Text.lower ((ofBody other).keyword.getD []) =
      Text.lower ((ofBody body).keyword.getD []) := by
    cases here : (ofBody other).keyword <;> cases there : (ofBody body).keyword <;> simp_all
  have first : (other.take 1).length = (body.take 1).length := by
    rw [List.length_take, List.length_take,
      Text.length_eq_of_lower (stretches_makesUp.lower spelled)]
  simp only [stretches, found] at spelled
  obtain ⟨after, parts, behind⟩ := Stretch.spelled_fixed spelled
  obtain ⟨changed, rest, rfl, admitted, ending⟩ := Stretch.spelled_cons behind
  obtain ⟨-, behindSigil⟩ := List.append_inj (whole.trans parts) first
  have sizes := Text.length_eq_of_lower (small.trans (Stretch.lower_of_admits admitted).symm)
  obtain ⟨-, same⟩ := List.append_inj behindSigil sizes
  refine ⟨?_, same ▸ ending⟩
  rw [restOffset, restOffset, sigil, Text.byteLength_eq_of_lower small]

/-- Where a body without a keyword is spelled, what follows its first character is spelled. -/
theorem spelled_tail (spelled : Stretch.Spelled (stretches body) other)
    (missing : Keyword.ofParts? (ofBody body) = none) :
    other.take 1 = body.take 1 ∧
      Stretch.Spelled ((TagForm.ofSigil (ofBody body).sigil).stretches (body.drop 1))
        (other.drop 1) := by
  have first : (other.take 1).length = (body.take 1).length := by
    rw [List.length_take, List.length_take,
      Text.length_eq_of_lower (stretches_makesUp.lower spelled)]
  simp only [stretches, missing] at spelled
  obtain ⟨after, parts, behind⟩ := Stretch.spelled_fixed spelled
  obtain ⟨same, rest⟩ := List.append_inj ((List.take_append_drop 1 other).trans parts) first
  exact ⟨same, rest ▸ behind⟩

end TagParts

end Bodies

/-! ### Templates -/

namespace Piece

/-- The stretches of a piece. A value between three braces has no keyword. -/
def stretches : Piece → List Stretch
  | .tag 2 body => .fixed (List.replicate 2 '{') ::
      (TagParts.stretches body ++ Stretch.fixedOnly (List.replicate 2 '}'))
  | piece => Stretch.fixedOnly piece.source

/-- A piece that another one is a spelling of: the piece itself, or a tag between two braces with
the body spelled. -/
inductive Respelled : Piece → Piece → Prop
  | kept (piece : Piece) : Respelled piece piece
  | tag {body other : Text} (spelled : Stretch.Spelled (TagParts.stretches body) other) :
    Respelled (.tag 2 body) (.tag 2 other)

/-- The spellings of a piece differ at most in the case of letters. -/
theorem Respelled.lower {piece other : Piece} (respelled : piece.Respelled other) :
    other.lower = piece.lower := by
  cases respelled with
  | kept => rfl
  | tag spelled => exact congrArg (Piece.tag 2) (TagParts.stretches_makesUp.lower spelled)

/-- A spelling of the stretches of a piece is a spelling of the piece. -/
theorem respelled_of_spelled {piece : Piece} {text : Text}
    (spelled : Stretch.Spelled piece.stretches text) :
    ∃ other : Piece, text = other.source ∧ piece.Respelled other := by
  unfold stretches at spelled
  split at spelled
  · obtain ⟨after, rfl, behind⟩ := Stretch.spelled_fixed spelled
    obtain ⟨other, closing, rfl, inside, ending⟩ := Stretch.spelled_append behind
    obtain rfl := Stretch.spelled_fixed_only ending
    exact ⟨Piece.tag 2 other, (List.append_assoc ..).symm, .tag inside⟩
  · exact ⟨_, Stretch.spelled_fixed_only spelled, .kept _⟩

/-- A spelling of the stretches of pieces consists of spellings of the pieces. -/
theorem respelled_of_spelledAll {pieces : List Piece} {text : Text}
    (spelled : Stretch.Spelled (pieces.flatMap stretches) text) :
    ∃ others : List Piece, text = others.flatMap source ∧ List.Forall₂ Respelled pieces others := by
  induction pieces generalizing text with
  | nil => exact ⟨[], spelled, .nil⟩
  | cons piece rest induction =>
    obtain ⟨first, behind, rfl, here, later⟩ := Stretch.spelled_append spelled
    obtain ⟨other, rfl, same⟩ := respelled_of_spelled here
    obtain ⟨others, rfl, more⟩ := induction later
    exact ⟨other :: others, rfl, .cons same more⟩

end Piece

namespace Template

/-- The stretches of a template: all words that may be written in any case, and all between. -/
def stretches (template : Text) : List Stretch := (Piece.cut template).flatMap Piece.stretches

/-- A spelling of a template is cut into spellings of its pieces, and differs from the template at
most in the case of letters. -/
theorem cut_spelled {template other : Text} (spelled : Stretch.Spelled (stretches template) other) :
    List.Forall₂ Piece.Respelled (Piece.cut template) (Piece.cut other) ∧
      other.lower = template.lower := by
  obtain ⟨others, rfl, respelled⟩ := Piece.respelled_of_spelledAll spelled
  have small : others.map Piece.lower = (Piece.cut template).map Piece.lower := by
    clear spelled
    generalize Piece.cut template = pieces at respelled
    induction respelled with
    | nil => rfl
    | cons here later induction => rw [List.map_cons, List.map_cons, here.lower, induction]
  rw [Piece.cut_of_lower small]
  refine ⟨respelled, ?_⟩
  rw [Piece.lower_flatMap_source, small, ← Piece.lower_flatMap_source, Piece.cut_source]

end Template

end Bracework

import Bracework.Proofs.Expression.WrittenPath
import Bracework.Proofs.Lexer.Places

/-!
# The grammar of clauses

The clauses of a payload are cut without looking for faults. Each cut follows a small grammar: the
blanks around a payload, a name bound behind `AS`, the context of an inclusion behind `With`, and
the expression of a binding behind `=`. The grammar is stated here without the cuts, as the parts
that make up a text. A cut gives these parts exactly when the text has them, and the offset of each
part is the number of bytes in front of it.
-/

namespace Bracework

variable {text head gap word blanks name rest lead trail : Text}

/-- A blank is no character of a name. -/
theorem nameChar_of_blank {character : Char} (blank : isBlank character = true) :
    isNameChar character = false := by
  rw [Bool.eq_false_iff]
  intro name
  rw [(nameChar_plain name).2.1] at blank
  cases blank

/-- A word of letters, in any case, has no blanks. -/
theorem Text.not_blank_of_sameWord {letters : Text} (same : sameWord word letters = true)
    (all : letters.all isAsciiLetter = true) : ∀ character ∈ word, isBlank character = false := by
  have areLetters : word.all isAsciiLetter = true := (sameWord_letters same).trans all
  exact fun character member => letter_not_blank (List.all_eq_true.1 areLetters character member)

namespace Located

variable {outer inner : Located}

/-- A fragment is what is left of another between the blanks at its ends: in front of it stand
blanks as far as they go, and behind it nothing but blanks. -/
structure Trims (outer inner : Located) (lead trail : Text) : Prop where
  whole : outer.text = lead ++ inner.text ++ trail
  starts : ∀ first ∈ (inner.text ++ trail).head?, isBlank first = false
  ends : ∀ last ∈ inner.text.getLast?, isBlank last = false
  leads : ∀ character ∈ lead, isBlank character = true
  trails : ∀ character ∈ trail, isBlank character = true
  offset : inner.offset = outer.offset + Text.byteLength lead

/-- What trimming gives is left between the blanks. -/
theorem trims_trim (located : Located) : ∃ lead trail, located.Trims located.trim lead trail := by
  obtain ⟨trail, whole, blanks⟩ := Text.trimEnd_append isBlank (located.text.dropWhile isBlank)
  have trimmed : located.trim.text = Text.trimEnd isBlank (located.text.dropWhile isBlank) := rfl
  refine ⟨located.text.takeWhile isBlank, trail, ?_, ?_, ?_, ?_, blanks, rfl⟩
  · rw [trimmed, List.append_assoc, ← whole, List.takeWhile_append_dropWhile]
  · rw [trimmed, ← whole]
    exact Text.trimStart_stays isBlank located.text
  · exact (Text.trim_stays isBlank located.text).2
  · exact List.all_eq_true.1 List.all_takeWhile

/-- What is left between the blanks is what trimming gives. -/
theorem Trims.trim_eq (trims : outer.Trims inner lead trail) : outer.trim = inner := by
  obtain ⟨whole, starts, ends, leads, trails, offset⟩ := trims
  rw [List.append_assoc] at whole
  obtain ⟨taken, left⟩ := Text.span_append leads starts
  rw [← whole] at taken left
  have text : outer.trim.text = inner.text := by
    rw [← Text.trimEnd_of_append ends trails, ← left]
    rfl
  have start : outer.trim.offset = inner.offset := by
    rw [offset, ← taken]
    rfl
  calc outer.trim = ⟨outer.trim.text, outer.trim.offset⟩ := rfl
    _ = ⟨inner.text, inner.offset⟩ := by rw [text, start]
    _ = inner := rfl

/-- Blanks in front of a text move its start and are trimmed with it. -/
theorem trim_blanks_append (leads : ∀ character ∈ blanks, isBlank character = true) (text : Text)
    (offset : Nat) :
    trim ⟨blanks ++ text, offset⟩ = trim ⟨text, offset + Text.byteLength blanks⟩ := by
  obtain ⟨lead, trail, trims⟩ := trims_trim ⟨text, offset + Text.byteLength blanks⟩
  have moved : (⟨blanks ++ text, offset⟩ : Located).Trims
      (trim ⟨text, offset + Text.byteLength blanks⟩) (blanks ++ lead) trail :=
    { whole := by
        have whole : text = lead ++ (trim ⟨text, offset + Text.byteLength blanks⟩).text ++ trail :=
          trims.whole
        rw [List.append_assoc blanks, List.append_assoc blanks, ← whole]
      starts := trims.starts
      ends := trims.ends
      leads := List.forall_mem_append.2 ⟨leads, trims.leads⟩
      trails := trims.trails
      offset := by rw [trims.offset, Text.byteLength_append, Nat.add_assoc] }
  exact moved.trim_eq

/-- Trimming leaves nothing exactly where nothing but blanks stands. -/
theorem trim_text_eq_nil_iff :
    outer.trim.text = [] ↔ ∀ character ∈ outer.text, isBlank character = true := by
  constructor
  · intro empty
    obtain ⟨lead, trail, trims⟩ := trims_trim outer
    rw [trims.whole, empty, List.append_nil]
    exact List.forall_mem_append.2 ⟨trims.leads, trims.trails⟩
  · intro blank
    have trims : outer.Trims ⟨[], outer.offset + Text.byteLength outer.text⟩ outer.text [] :=
      ⟨by simp, by simp, by simp, blank, by simp, rfl⟩
    rw [trims.trim_eq]

/-- What stands behind the first part of a trimmed text, without the blanks at its ends. -/
def behind (located : Located) (front rest : Text) : Located :=
  trim ⟨rest, located.trim.offset + Text.byteLength front⟩

/-- Nothing is left behind the first part of a text where nothing but blanks stands there. -/
theorem behind_text_eq_nil_iff {front : Text} : (outer.behind front rest).text = [] ↔
    ∀ character ∈ rest, isBlank character = true := trim_text_eq_nil_iff

/-- At the end of a trimmed text, not all is blank. -/
theorem not_blank_behind {front back : Text} (whole : outer.trim.text = front ++ back)
    (nonempty : back ≠ []) : ¬∀ character ∈ back, isBlank character = true := by
  intro blank
  have ends : ∀ last ∈ (front ++ back).getLast?, isBlank last = false :=
    whole ▸ (Text.trim_stays isBlank outer.text).2
  rw [List.getLast?_append_of_ne_nil _ nonempty] at ends
  have last := ends _ (List.getLast?_eq_some_getLast nonempty)
  rw [blank _ (List.getLast_mem nonempty)] at last
  cases last

end Located

namespace AliasSplit

/-- A text that ends with a clause is cut at the clause: the name is the one that it binds, and the
blanks in front of its word belong to it.

Proof: the text is read from its end. The letters of the name end at the blanks, the blanks at the
word, which begins and ends with a letter, and the blanks in front of the word at the head. -/
theorem ofText_of_clause (clause : EndsWithClause text head gap word blanks name) :
    ofText text = ⟨Text.trimEnd isBlank head, some name,
      Text.byteLength (head ++ gap ++ word ++ blanks)⟩ := by
  obtain ⟨whole, ⟨gapSome, gapBlank⟩, same, ⟨blanksSome, blanksBlank⟩, nameSome, run⟩ := clause
  obtain ⟨first, second, rfl⟩ : ∃ first second, word = [first, second] :=
    List.length_eq_two.1 (Text.sameWord_length same)
  have letter : isBlank second = false :=
    Text.not_blank_of_sameWord same (by decide) second (by simp)
  have reversed : text.reverse =
      name.reverse ++ (blanks.reverse ++ second :: first :: (gap.reverse ++ head.reverse)) := by
    simp [whole]
  have named : text.reverse.takeWhile isAsciiLetter = name.reverse := by
    rw [run, List.reverse_reverse]
  have beforeName : text.reverse.dropWhile isAsciiLetter =
      blanks.reverse ++ second :: first :: (gap.reverse ++ head.reverse) := by
    refine List.append_cancel_left (?_ : name.reverse ++ _ = name.reverse ++ _)
    rw [← reversed, ← named, List.takeWhile_append_dropWhile]
  have beforeBlanks : (blanks.reverse ++ second :: first :: (gap.reverse ++ head.reverse)).dropWhile
      isBlank = second :: first :: (gap.reverse ++ head.reverse) := by
    refine (Text.span_append ?_ ?_).2
    · exact fun character member => blanksBlank character (List.mem_reverse.1 member)
    · exact fun character found => Option.some.inj found ▸ letter
  have beforeGap : (gap.reverse ++ head.reverse).dropWhile isBlank =
      (Text.trimEnd isBlank head).reverse := by
    rw [List.dropWhile_append_of_pos, Text.trimEnd, List.reverse_reverse]
    exact fun character member => gapBlank character (List.mem_reverse.1 member)
  have front : (blanks.reverse ++ second :: first :: (gap.reverse ++ head.reverse)).reverse =
      head ++ gap ++ [first, second] ++ blanks := by
    simp
  have shorter : (Text.trimEnd isBlank head).length < (gap ++ head).length := by
    obtain ⟨after, whole, -⟩ := Text.trimEnd_append isBlank head
    have spaced := List.length_pos_iff.2 gapSome
    have parts := congrArg List.length whole
    simp only [List.length_append] at parts ⊢
    omega
  have nameLength := List.length_pos_iff.2 nameSome
  have blanksLength := List.length_pos_iff.2 blanksSome
  unfold ofText
  dsimp only
  rw [beforeName, beforeBlanks, named, reversed, if_neg]
  · dsimp only
    rw [beforeGap, if_pos, front, List.reverse_reverse, List.reverse_reverse]
    exact ⟨same, by simpa using shorter⟩
  · simp only [List.length_append, List.length_reverse, List.length_cons]
    omega

/-- The two blanks in front of the word belong to the clause, and offsets count bytes. -/
example : ofText "é  aS\tx" = ⟨"é", some "x", 7⟩ := rfl

/-- A text of which a name is cut off ends with a clause. -/
theorem clause_of_name (found : (ofText text).name = some name) :
    ∃ head gap word blanks, EndsWithClause text head gap word blanks name := by
  rcases ofText_cases text with uncut | ⟨head, gap, word, blanks, other, clause, cut⟩
  · rw [uncut] at found
    cases found
  · rw [cut] at found
    exact ⟨head, gap, word, blanks, Option.some.inj found ▸ clause⟩

/-- The blanks at the end of what stands before a clause may be counted with the blanks in front of
its word. -/
theorem EndsWithClause.trimmed (clause : EndsWithClause text head gap word blanks name) :
    ∃ before, EndsWithClause text (Text.trimEnd isBlank head) before word blanks name := by
  obtain ⟨after, whole, blank⟩ := Text.trimEnd_append isBlank head
  refine ⟨after ++ gap, ?_, ⟨?_, ?_⟩, clause.word, clause.blanks, clause.name⟩
  · rw [← List.append_assoc, ← whole]
    exact clause.whole
  · simp [clause.gap.1]
  · exact List.forall_mem_append.2 ⟨blank, clause.gap.2⟩

/-- How a text with a clause at its end is cut, and a text without one. The head ends where the
blanks in front of the word begin. -/
structure IsCut (text : Text) (split : AliasSplit) : Prop where
  bound : ∀ name, split.name = some name ↔
    ∃ head gap word blanks, EndsWithClause text head gap word blanks name
  cut : ∀ name, split.name = some name → ∃ gap word blanks,
    EndsWithClause text split.head gap word blanks name ∧
      (∀ last ∈ split.head.getLast?, isBlank last = false) ∧
      text.splitAtByte? split.nameOffset = some (split.head ++ gap ++ word ++ blanks, name)
  uncut : split.name = none → split.head = text

/-- A text is cut at the clause that ends it. -/
theorem ofText_isCut (text : Text) : IsCut text (ofText text) where
  bound name := by
    constructor
    · intro found
      obtain ⟨head, gap, word, blanks, clause⟩ := clause_of_name found
      exact ⟨head, gap, word, blanks, clause⟩
    · rintro ⟨head, gap, word, blanks, clause⟩
      rw [ofText_of_clause clause]
  cut name found := by
    obtain ⟨head, _, word, blanks, clause⟩ := clause_of_name found
    obtain ⟨gap, trimmed⟩ := clause.trimmed
    have stays := Text.trimEnd_stays isBlank head
    rw [ofText_of_clause trimmed, Text.trimEnd_eq_self stays]
    refine ⟨gap, word, blanks, trimmed, stays, ?_⟩
    have parts := Text.splitAtByte?_append
      (Text.trimEnd isBlank head ++ gap ++ word ++ blanks) name
    rwa [← trimmed.whole] at parts
  uncut := head_eq

end AliasSplit

/-- A text begins with a name when this is the longest run of characters of names there. -/
def BeginsWithName (text name : Text) : Prop :=
  name.all isNameChar = true ∧
    ∃ after, text = name ++ after ∧ ∀ first ∈ after.head?, isNameChar first = false

/-- A text begins with one name. -/
theorem beginsWithName_iff : BeginsWithName text name ↔ name = text.takeWhile isNameChar := by
  constructor
  · rintro ⟨chars, after, rfl, stop⟩
    exact (Text.span_append (List.all_eq_true.1 chars) stop).1.symm
  · rintro rfl
    exact ⟨List.all_takeWhile, text.dropWhile isNameChar,
      List.takeWhile_append_dropWhile.symm, Text.trimStart_stays isNameChar text⟩

namespace Inclusion

variable {payload context : Located} {after : Text}

/-- A text that goes on behind a name with the word `With` between blanks. -/
structure HasClause (text name gap word blanks rest : Text) : Prop where
  whole : text = name ++ gap ++ word ++ blanks ++ rest
  gap : gap ≠ [] ∧ ∀ character ∈ gap, isBlank character = true
  word : Text.sameWord word "with" = true
  blanks : blanks ≠ [] ∧ ∀ character ∈ blanks, isBlank character = true

/-- What stands behind a name goes on with a context exactly when it has the parts of a clause. -/
theorem contextClause?_eq_some_iff : contextClause? after = some (gap, rest) ↔
    ∃ word, after = gap ++ (word ++ rest) ∧ gap ≠ [] ∧
      (∀ character ∈ gap, isBlank character = true) ∧ Text.sameWord word "with" = true ∧
      rest.head?.any isBlank = true := by
  constructor
  · intro found
    obtain ⟨whole, same⟩ := whole_of_contextClause? found
    unfold contextClause? at found
    dsimp only at found
    split at found
    · rename_i shape
      cases found
      exact ⟨_, whole, shape.1, List.all_eq_true.1 List.all_takeWhile, same, shape.2.2⟩
    · cases found
  · rintro ⟨word, rfl, nonempty, blank, same, behind⟩
    have length : word.length = 4 := Text.sameWord_length same
    have stop : ∀ first ∈ (word ++ rest).head?, isBlank first = false := by
      obtain ⟨letter, others, rfl⟩ := List.exists_cons_of_length_eq_add_one length
      intro first found
      obtain rfl : letter = first := Option.some.inj found
      exact Text.not_blank_of_sameWord same (by decide) letter (List.mem_cons_self ..)
    obtain ⟨taken, left⟩ := Text.span_append blank stop
    have front : (word ++ rest).take 4 = word := by rw [← length, List.take_left]
    have back : (word ++ rest).drop 4 = rest := by rw [← length, List.drop_left]
    simp only [contextClause?, taken, left, front, back]
    rw [if_pos ⟨nonempty, same, behind⟩]

/-- An inclusion whose payload has a clause is cut behind the word and its blanks. -/
theorem ofPayload_of_clause
    (clause : HasClause payload.trim.text (ofPayload payload).name gap word blanks rest) :
    ofPayload payload = ⟨(ofPayload payload).name,
      some (payload.behind ((ofPayload payload).name ++ gap ++ word ++ blanks) rest), none⟩ := by
  have name := name_eq payload
  obtain ⟨whole, ⟨gapSome, gapBlank⟩, same, ⟨blanksSome, blanksBlank⟩⟩ := clause
  have bytes : Text.byteLength word = 4 :=
    (Text.byteLength_letters ((Text.sameWord_letters same).trans (by decide))).trans
      (Text.sameWord_length same)
  generalize (ofPayload payload).name = written at name whole ⊢
  have behind : payload.trim.text.dropWhile isNameChar = gap ++ (word ++ (blanks ++ rest)) := by
    refine List.append_cancel_left (?_ : written ++ _ = written ++ _)
    rw [name, List.takeWhile_append_dropWhile, ← name, whole]
    simp only [List.append_assoc]
  have blank : (blanks ++ rest).head?.any isBlank = true := by
    obtain ⟨first, others, rfl⟩ := List.exists_cons_of_ne_nil blanksSome
    exact blanksBlank first (List.mem_cons_self ..)
  have found : contextClause? (gap ++ (word ++ (blanks ++ rest))) = some (gap, blanks ++ rest) :=
    contextClause?_eq_some_iff.2 ⟨word, rfl, gapSome, gapBlank, same, blank⟩
  have nonempty : gap ++ (word ++ (blanks ++ rest)) ≠ [] := by simp [gapSome]
  unfold ofPayload
  dsimp only
  rw [behind, ← name, if_neg nonempty, found]
  dsimp only
  rw [Located.trim_blanks_append blanksBlank]
  simp only [Located.behind, Text.byteLength_append, bytes, Nat.add_assoc]

/-- An inclusion has a context where a clause is found behind the name. Otherwise all that stands
there trails. -/
theorem ofPayload_cases (payload : Located) :
    ((ofPayload payload).context.isSome ∧
      (contextClause? (payload.trim.text.dropWhile isNameChar)).isSome) ∨
    ((ofPayload payload).context = none ∧
      ((ofPayload payload).trailing.isSome ↔ payload.trim.text.dropWhile isNameChar ≠ [])) := by
  unfold ofPayload
  dsimp only
  split
  · rename_i empty
    exact Or.inr ⟨rfl, by simp [empty]⟩
  · rename_i more
    split
    · rename_i found
      exact Or.inl ⟨rfl, by rw [found]; rfl⟩
    · exact Or.inr ⟨rfl, by simp [more]⟩

/-- The payload of an inclusion with a context has a clause. -/
theorem clause_of_context (found : (ofPayload payload).context = some context) :
    ∃ gap word blanks rest,
      HasClause payload.trim.text (ofPayload payload).name gap word blanks rest := by
  have name := name_eq payload
  have whole : payload.trim.text =
      (ofPayload payload).name ++ payload.trim.text.dropWhile isNameChar := by
    rw [name, List.takeWhile_append_dropWhile]
  rcases ofPayload_cases payload with ⟨-, clause⟩ | ⟨missing, -⟩
  · obtain ⟨⟨gap, behind⟩, clause⟩ := Option.isSome_iff_exists.1 clause
    obtain ⟨word, after, gapSome, gapBlank, same, blank⟩ := contextClause?_eq_some_iff.1 clause
    refine ⟨gap, word, behind.takeWhile isBlank, behind.dropWhile isBlank, ?_, ⟨gapSome, gapBlank⟩,
      same, ?_, List.all_eq_true.1 List.all_takeWhile⟩
    · rw [List.append_assoc, List.takeWhile_append_dropWhile, List.append_assoc, List.append_assoc,
        ← after]
      exact whole
    · cases behind with
      | nil => cases blank
      | cons first others =>
        have isBlankFirst : isBlank first = true := blank
        simp [isBlankFirst]
  · rw [missing] at found
    cases found

/-- How the payload of an inclusion is cut: a name, and a context exactly when a clause follows. -/
structure IsCut (payload : Located) (inclusion : Inclusion) : Prop where
  name : BeginsWithName payload.trim.text inclusion.name
  context : ∀ context, inclusion.context = some context ↔ ∃ gap word blanks rest,
    HasClause payload.trim.text inclusion.name gap word blanks rest ∧
      context = payload.behind (inclusion.name ++ gap ++ word ++ blanks) rest
  stands : ∀ context, inclusion.context = some context →
    context.text ≠ [] ∧ context.Within payload
  trailing : inclusion.context = none →
    (inclusion.trailing.isSome ↔ payload.trim.text ≠ inclusion.name)

/-- The payload of an inclusion is cut behind its name and at its clause. -/
theorem ofPayload_isCut (payload : Located) : IsCut payload (ofPayload payload) where
  name := beginsWithName_iff.2 (name_eq payload)
  context context := by
    constructor
    · intro found
      obtain ⟨gap, word, blanks, rest, clause⟩ := clause_of_context found
      rw [ofPayload_of_clause clause] at found
      exact ⟨gap, word, blanks, rest, clause, (Option.some.inj found).symm⟩
    · rintro ⟨gap, word, blanks, rest, clause, rfl⟩
      exact congrArg Inclusion.context (ofPayload_of_clause clause)
  stands context found := by
    refine ⟨fun empty => ?_, context_within found⟩
    obtain ⟨gap, word, blanks, rest, clause⟩ := clause_of_context found
    rw [ofPayload_of_clause clause] at found
    obtain rfl := Option.some.inj found
    have blank := Located.behind_text_eq_nil_iff.1 empty
    have whole := clause.whole
    rw [List.append_assoc _ blanks] at whole
    refine Located.not_blank_behind whole (by simp [clause.blanks.1]) ?_
    exact List.forall_mem_append.2 ⟨clause.blanks.2, blank⟩
  trailing missing := by
    rcases ofPayload_cases payload with ⟨present, -⟩ | ⟨-, trails⟩
    · rw [missing] at present
      cases present
    · have whole : payload.trim.text.takeWhile isNameChar ++
          payload.trim.text.dropWhile isNameChar = payload.trim.text :=
        List.takeWhile_append_dropWhile
      rw [trails, name_eq]
      constructor
      · intro more same
        exact more (List.append_cancel_left ((whole.trans same).trans (List.append_nil _).symm))
      · intro other none
        rw [none, List.append_nil] at whole
        exact other whole.symm

end Inclusion

namespace Assignment

variable {payload : Located} {assignment : Assignment}

/-- A text that is a name, perhaps blanks, an equals sign and something behind it. -/
structure Binds (text name gap rest : Text) : Prop where
  whole : text = name ++ gap ++ '=' :: rest
  name : name ≠ [] ∧ name.all isNameChar = true
  gap : ∀ character ∈ gap, isBlank character = true

/-- A payload that binds a name is cut at the equals sign, and refused when only blanks follow. -/
theorem ofPayload_of_binds (binds : Binds payload.trim.text name gap rest) :
    ofPayload payload =
      if (payload.behind (name ++ gap ++ ['=']) rest).text = [] then .error .missingExpression
      else .ok ⟨name, payload.behind (name ++ gap ++ ['=']) rest⟩ := by
  obtain ⟨whole, ⟨nameSome, chars⟩, blank⟩ := binds
  have stop : ∀ first ∈ (gap ++ '=' :: rest).head?, isNameChar first = false := by
    cases gap with
    | nil => exact fun first found => Option.some.inj found ▸ (by decide)
    | cons first others =>
      intro other found
      obtain rfl : first = other := Option.some.inj found
      exact nameChar_of_blank (blank first (List.mem_cons_self ..))
  have equals : ∀ first ∈ ('=' :: rest : Text).head?, isBlank first = false :=
    fun first found => Option.some.inj found ▸ (by decide)
  obtain ⟨named, after⟩ := Text.span_append (List.all_eq_true.1 chars) stop
  obtain ⟨spaced, behind⟩ := Text.span_append blank equals
  rw [← List.append_assoc, ← whole] at named after
  unfold ofPayload
  dsimp only
  rw [named, after, if_neg nameSome, behind, spaced]
  have start : payload.behind (name ++ gap ++ ['=']) rest =
      Located.trim ⟨rest, payload.trim.offset + name.byteLength + gap.byteLength + 1⟩ := by
    simp only [Located.behind, Text.byteLength_append, Nat.add_assoc]
    rfl
  rw [start]
  rfl

/-- A payload begins with no name, or with a name that is not bound, or it binds one. -/
theorem ofPayload_cases (payload : Located) :
    (payload.trim.text.takeWhile isNameChar = [] ∧ ofPayload payload = .error .missingName) ∨
      ofPayload payload = .error .missingEquals ∨
        ∃ name gap rest, Binds payload.trim.text name gap rest := by
  unfold ofPayload
  dsimp only
  split
  · rename_i unnamed
    exact Or.inl ⟨unnamed, rfl⟩
  · rename_i named
    split
    · rename_i rest shape
      refine Or.inr (Or.inr ⟨_, (payload.trim.text.dropWhile isNameChar).takeWhile isBlank, rest,
        ?_, ⟨named, List.all_takeWhile⟩, List.all_eq_true.1 List.all_takeWhile⟩)
      rw [← shape, List.append_assoc, List.takeWhile_append_dropWhile,
        List.takeWhile_append_dropWhile]
    · exact Or.inr (Or.inl rfl)

/-- How the payload of a binding is cut. A result is given exactly when a name is bound to something
that is not blank, and otherwise the fault is the first thing that is missing. -/
structure IsCut (payload : Located) (result : Except AssignmentFault Assignment) : Prop where
  ok : ∀ assignment, result = .ok assignment ↔ ∃ gap rest,
    Binds payload.trim.text assignment.name gap rest ∧
      (∃ character ∈ rest, isBlank character = false) ∧
      assignment.expression = payload.behind (assignment.name ++ gap ++ ['=']) rest
  stands : ∀ assignment, result = .ok assignment →
    assignment.expression.text ≠ [] ∧ assignment.expression.Within payload
  missingName : (∀ first ∈ payload.trim.text.head?, isNameChar first = false) →
    result = .error .missingName
  missingEquals : (∃ first ∈ payload.trim.text.head?, isNameChar first = true) →
    (¬∃ name gap rest, Binds payload.trim.text name gap rest) → result = .error .missingEquals
  missingExpression : ∀ name gap rest, Binds payload.trim.text name gap rest →
    (∀ character ∈ rest, isBlank character = true) → result = .error .missingExpression

/-- A payload with a result binds a name to something that is not blank. -/
theorem binds_of_ok (found : ofPayload payload = .ok assignment) : ∃ gap rest,
    Binds payload.trim.text assignment.name gap rest ∧
      (∃ character ∈ rest, isBlank character = false) ∧
      assignment.expression = payload.behind (assignment.name ++ gap ++ ['=']) rest := by
  rcases ofPayload_cases payload with ⟨-, unnamed⟩ | unbound | ⟨name, gap, rest, binds⟩
  · rw [unnamed] at found
    cases found
  · rw [unbound] at found
    cases found
  · rw [ofPayload_of_binds binds] at found
    split at found
    · cases found
    · rename_i visible
      cases found
      rw [Located.behind_text_eq_nil_iff] at visible
      exact ⟨gap, rest, binds, by simpa using visible, rfl⟩

/-- The payload of a binding is cut at its equals sign, or tells what is missing. -/
theorem ofPayload_isCut (payload : Located) : IsCut payload (ofPayload payload) where
  ok assignment := by
    refine ⟨binds_of_ok, ?_⟩
    rintro ⟨gap, rest, binds, visible, expression⟩
    rw [ofPayload_of_binds binds, if_neg, ← expression]
    rw [Located.behind_text_eq_nil_iff]
    simpa using visible
  stands assignment found := by
    refine ⟨?_, expression_within found⟩
    obtain ⟨gap, rest, binds, visible, expression⟩ := binds_of_ok found
    rw [expression, ne_eq, Located.behind_text_eq_nil_iff]
    simpa using visible
  missingName unnamed := by
    have none : payload.trim.text.takeWhile isNameChar = [] := by
      cases written : payload.trim.text with
      | nil => rfl
      | cons first others =>
        rw [written] at unnamed
        rw [List.takeWhile_cons_of_neg]
        simp [unnamed first rfl]
    unfold ofPayload
    dsimp only
    rw [if_pos none]
  missingEquals named unbound := by
    rcases ofPayload_cases payload with ⟨none, -⟩ | missing | binds
    · obtain ⟨first, found, isName⟩ := named
      obtain ⟨others, written⟩ := List.head?_eq_some_iff.1 found
      rw [written, List.takeWhile_cons_of_pos isName] at none
      cases none
    · exact missing
    · exact absurd binds unbound
  missingExpression name gap rest binds blank := by
    rw [ofPayload_of_binds binds, if_pos (Located.behind_text_eq_nil_iff.2 blank)]

end Assignment

/-- Every payload is cut as its grammar tells, and each part stands where it is said to stand: a
payload is trimmed to what is left between the blanks at its ends, a name is bound at its end, a
context follows the name of an inclusion, and an expression follows the equals sign of a binding,
exactly when the text has the parts of such a clause.

Proof: the parts of a clause decide each cut, since each ends where the next begins with a character
that the part cannot have; and the parts can be read off the cut. -/
theorem Located.cuts_follow_grammar (payload : Located) :
    (∀ inner, payload.trim = inner ↔ ∃ lead trail, payload.Trims inner lead trail) ∧
      (AliasSplit.ofText payload.text).IsCut payload.text ∧
      (Inclusion.ofPayload payload).IsCut payload ∧
      Assignment.IsCut payload (Assignment.ofPayload payload) := by
  refine ⟨fun inner => ⟨?_, ?_⟩, AliasSplit.ofText_isCut _, Inclusion.ofPayload_isCut _,
    Assignment.ofPayload_isCut _⟩
  · rintro rfl
    exact payload.trims_trim
  · rintro ⟨lead, trail, trims⟩
    exact trims.trim_eq

end Bracework

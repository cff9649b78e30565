import Bracework.Proofs.Lexer.Fragments
import Bracework.Proofs.Text.Bytes
import Bracework.Proofs.Text.Trimmed
import Bracework.Source.Window

/-!
# Lines and positions

The line and the column of an offset are found by a search in a table and by cutting the template
at two offsets. They are what a reader counts: the line feeds before the offset, and the characters
behind the last of them.

A template is taken apart around an offset. What stands before it ends with a part of a line, and
what stands behind it begins with one; the two parts make up the line of the offset. The table has
one entry for each line feed of the template, and the entries below the offset are those of the
line feeds before it.
-/

namespace Bracework

namespace Text

/-- A text after which a line begins: none, or one that ends with a line feed. -/
def EndsLine (text : Text) : Prop := text = [] ∨ ∃ front, text = front ++ ['\n']

/-- A text before which a line ends: none, or one that begins with a line feed. -/
def BeginsWithFeed (text : Text) : Prop := text = [] ∨ ∃ rest, text = '\n' :: rest

/-- No character of a text without a line feed is one. -/
theorem kept_of_bare {text : Text} (bare : '\n' ∉ text) :
    ∀ character ∈ text, decide (character ≠ '\n') = true := by
  intro character member
  refine decide_eq_true ?_
  rintro rfl
  exact bare member

/-- The part of the last line of a text. -/
theorem exists_lastLine (text : Text) :
    ∃ start left, text = start ++ left ∧ EndsLine start ∧ '\n' ∉ left := by
  by_cases bare : '\n' ∈ text
  · obtain ⟨behind, before, cut, none⟩ := List.eq_append_cons_of_mem (List.mem_reverse.2 bare)
    refine ⟨before.reverse ++ ['\n'], behind.reverse, ?_, Or.inr ⟨_, rfl⟩, ?_⟩
    · rw [← List.reverse_reverse text, cut, List.reverse_append, List.reverse_cons]
    · rwa [List.mem_reverse]
  · exact ⟨[], text, rfl, Or.inl rfl, bare⟩

/-- The part of the first line of a text. -/
theorem exists_firstLine (text : Text) :
    ∃ right behind, text = right ++ behind ∧ BeginsWithFeed behind ∧ '\n' ∉ right := by
  by_cases bare : '\n' ∈ text
  · obtain ⟨right, rest, cut, none⟩ := List.eq_append_cons_of_mem bare
    exact ⟨right, '\n' :: rest, cut, Or.inr ⟨rest, rfl⟩, none⟩
  · exact ⟨text, [], (List.append_nil text).symm, Or.inl rfl, bare⟩

end Text

/-- The line of a place in a template: `start` stands before it, `left` and `right` are its parts
before and behind the place, and `behind` follows it. -/
structure LineAt (template start left right behind : Text) : Prop where
  whole : template = start ++ left ++ right ++ behind
  begins : start.EndsLine
  ends : behind.BeginsWithFeed
  bare : '\n' ∉ left ++ right

/-- Every place in a template lies in a line. -/
theorem exists_lineAt (before after : Text) : ∃ start left right behind,
    LineAt (before ++ after) start left right behind ∧ before = start ++ left ∧
      after = right ++ behind := by
  obtain ⟨start, left, rfl, begins, bareLeft⟩ := before.exists_lastLine
  obtain ⟨right, behind, rfl, ends, bareRight⟩ := after.exists_firstLine
  refine ⟨start, left, right, behind, ⟨?_, begins, ends, ?_⟩, rfl, rfl⟩
  · simp only [List.append_assoc]
  · exact fun member => (List.mem_append.1 member).elim bareLeft bareRight

namespace LineAt

variable {template start left right behind : Text}

/-- The characters behind the last line feed are the part of a line that stands before a place. -/
theorem takeWhile_left (line : LineAt template start left right behind) :
    (start ++ left).reverse.takeWhile (· ≠ '\n') = left.reverse := by
  have bare : '\n' ∉ left.reverse :=
    fun member => line.bare (List.mem_append_left _ (List.mem_reverse.1 member))
  have stop : ∀ character ∈ start.reverse.head?, decide (character ≠ '\n') = false := by
    rcases line.begins with rfl | ⟨front, rfl⟩
    · simp
    · simp
  rw [List.reverse_append]
  exact (Text.span_append (Text.kept_of_bare bare) stop).1

/-- The characters before the next line feed are the part of a line that stands behind a place. -/
theorem takeWhile_right (line : LineAt template start left right behind) :
    (right ++ behind).takeWhile (· ≠ '\n') = right := by
  have bare : '\n' ∉ right := fun member => line.bare (List.mem_append_right _ member)
  have stop : ∀ character ∈ behind.head?, decide (character ≠ '\n') = false := by
    rcases line.ends with rfl | ⟨rest, rfl⟩
    · simp
    · simp
  exact (Text.span_append (Text.kept_of_bare bare) stop).1

/-- A place in a template lies in one line only. -/
theorem unique (line : LineAt template start left right behind)
    {front first second back : Text} (other : LineAt template front first second back)
    (place : start ++ left = front ++ first) :
    start = front ∧ left = first ∧ right = second ∧ behind = back := by
  have parts : left.reverse = first.reverse := by
    rw [← line.takeWhile_left, ← other.takeWhile_left, place]
  obtain rfl := List.reverse_injective parts
  have rest : right ++ behind = second ++ back := by
    have whole := line.whole.symm.trans other.whole
    rw [List.append_assoc, List.append_assoc _ second, place] at whole
    exact List.append_cancel_left whole
  obtain rfl : right = second := by
    rw [← line.takeWhile_right, rest, other.takeWhile_right]
  exact ⟨List.append_cancel_right place, rfl, rfl, List.append_cancel_left rest⟩

/-- The whole line is found in the template between its ends. -/
theorem slice_line (line : LineAt template start left right behind) :
    Text.slice? start.byteLength (Text.byteLength (start ++ left ++ right)) template =
      some (left ++ right) := by
  have cut := Text.slice?_append start (left ++ right) behind
  rwa [← Text.byteLength_append, ← List.append_assoc, ← line.whole] at cut

/-- The part of a line before a place is found between the beginning of the line and the place. -/
theorem slice_left (line : LineAt template start left right behind) :
    Text.slice? start.byteLength (Text.byteLength (start ++ left)) template = some left := by
  have cut := Text.slice?_append start left (right ++ behind)
  rwa [← Text.byteLength_append, ← List.append_assoc, ← line.whole] at cut

/-- The part of a line behind a place is found between the place and the end of the line. -/
theorem slice_right (line : LineAt template start left right behind) :
    Text.slice? (Text.byteLength (start ++ left)) (Text.byteLength (start ++ left ++ right))
      template = some right := by
  have cut := Text.slice?_append (start ++ left) right behind
  rwa [← Text.byteLength_append, ← line.whole] at cut

/-- No line feed stands before a place on its line. -/
theorem count_left (line : LineAt template start left right behind) :
    (start ++ left).count '\n' = start.count '\n' := by
  have bare : left.count '\n' = 0 :=
    List.count_eq_zero.2 fun member => line.bare (List.mem_append_left _ member)
  rw [List.count_append, bare, Nat.add_zero]

end LineAt

/-! ### The table -/

/-- The line feeds of a text and those of what follows it. -/
theorem lineFeedsFrom_append (offset : Nat) (left right : Text) :
    lineFeedsFrom offset (left ++ right) =
      lineFeedsFrom offset left ++ lineFeedsFrom (offset + left.byteLength) right := by
  induction left generalizing offset with
  | nil => rfl
  | cons first rest induction =>
    rw [List.cons_append, lineFeedsFrom, lineFeedsFrom, induction, Text.byteLength_cons,
      Nat.add_assoc]
    split
    · rfl
    · rfl

/-- There is one entry for each line feed. -/
theorem length_lineFeedsFrom (offset : Nat) (text : Text) :
    (lineFeedsFrom offset text).length = text.count '\n' := by
  induction text generalizing offset with
  | nil => rfl
  | cons first rest induction =>
    rw [lineFeedsFrom]
    split
    · rename_i feed
      rw [List.length_cons, induction, feed, List.count_cons_self]
    · rename_i other
      rw [induction, List.count_cons_of_ne other]

/-- An entry lies inside the text that it is made from. -/
theorem lineFeedsFrom_bounds (offset : Nat) (text : Text) :
    ∀ entry ∈ lineFeedsFrom offset text, offset ≤ entry ∧ entry < offset + text.byteLength := by
  induction text generalizing offset with
  | nil => simp [lineFeedsFrom]
  | cons first rest induction =>
    have wide := first.utf8Size_pos
    intro entry member
    rw [Text.byteLength_cons]
    rw [lineFeedsFrom] at member
    split at member
    · rcases List.mem_cons.1 member with rfl | later
      · omega
      · have bounds := induction _ entry later
        omega
    · have bounds := induction _ entry member
      omega

namespace LineTable

section Search

variable {below others : List Nat} {bound : Nat} (lower : ∀ entry ∈ below, entry < bound)
  (upper : ∀ entry ∈ others, bound ≤ entry)

include lower upper

/-- Where the entries below a bound stand before all others, an entry is below the bound exactly
when its index is less than their number. -/
theorem getD_lt_iff (index : Nat) :
    (below ++ others).toArray.getD index bound < bound ↔ index < below.length := by
  rw [Array.getD_eq_getD_getElem?, List.getElem?_toArray]
  by_cases first : index < below.length
  · rw [List.getElem?_append_left first, List.getElem?_eq_getElem first, Option.getD_some]
    exact iff_of_true (lower _ (List.getElem_mem first)) first
  · rw [List.getElem?_append_right (Nat.le_of_not_lt first)]
    refine iff_of_false ?_ first
    cases found : others[index - below.length]? with
    | none => exact Nat.lt_irrefl _
    | some entry => exact Nat.not_lt_of_le (upper entry (List.mem_of_getElem? found))

/-- The search finds how many entries are below the bound. -/
theorem firstNotBelow_eq {low high : Nat} (least : low ≤ below.length)
    (most : below.length ≤ high) :
    firstNotBelow (below ++ others).toArray bound low high = below.length := by
  fun_induction firstNotBelow (below ++ others).toArray bound low high with
  | case1 low high apart middle small induction =>
    have before := (getD_lt_iff lower upper middle).1 small
    exact induction (by omega) most
  | case2 low high apart middle large induction =>
    have behind := mt (getD_lt_iff lower upper middle).2 large
    exact induction least (by omega)
  | case3 low high closed => omega

end Search

/-- The entries of a template that is cut in two: those of the first part, which are below the
offset of the cut, and those of the second. -/
theorem lineFeeds_append (before after : Text) :
    (ofSource (before ++ after)).lineFeeds =
      (lineFeedsFrom 0 before ++ lineFeedsFrom before.byteLength after).toArray := by
  rw [ofSource, lineFeedsFrom_append, Nat.zero_add]

/-- The line of an offset is the number of line feeds before it. -/
theorem lineOf_eq (before after : Text) :
    (ofSource (before ++ after)).lineOf before.byteLength = before.count '\n' := by
  rw [lineOf, lineFeeds_append, ← length_lineFeedsFrom 0 before]
  refine firstNotBelow_eq ?_ ?_ (Nat.zero_le _) ?_
  · intro entry member
    have bounds := lineFeedsFrom_bounds _ _ entry member
    omega
  · intro entry member
    exact (lineFeedsFrom_bounds _ _ entry member).1
  · simp

variable {template start left right behind : Text}

/-- The line feeds before a place all stand before its line. -/
theorem lineOf_lineAt (line : LineAt template start left right behind) :
    (ofSource template).lineOf (Text.byteLength (start ++ left)) = start.count '\n' := by
  rw [line.whole, List.append_assoc (start ++ left), lineOf_eq, line.count_left]

/-- A line begins where what stands before it ends. -/
theorem lineStart_lineAt (line : LineAt template start left right behind) :
    (ofSource template).lineStart (start.count '\n') = start.byteLength := by
  obtain ⟨rfl, begins, -, -⟩ := line
  rcases begins with rfl | ⟨front, rfl⟩
  · rfl
  · have feeds : lineFeedsFrom 0 (front ++ ['\n']) = lineFeedsFrom 0 front ++ [front.byteLength] := by
      rw [lineFeedsFrom_append, Nat.zero_add]
      rfl
    rw [List.count_append, show List.count '\n' ['\n'] = 1 from rfl, lineStart, List.append_assoc,
      List.append_assoc, lineFeeds_append, feeds, ← length_lineFeedsFrom 0 front]
    simp only [Array.getD_eq_getD_getElem?, List.getElem?_toArray, List.append_assoc,
      List.getElem?_append_right (Nat.le_refl _), Nat.sub_self]
    rw [Text.byteLength_append]
    rfl

/-- A line ends at the next line feed, or at the end of the template. -/
theorem lineEnd_lineAt (line : LineAt template start left right behind) :
    (ofSource template).lineFeeds.getD (start.count '\n') template.byteLength =
      Text.byteLength (start ++ left ++ right) := by
  have count : start.count '\n' = (lineFeedsFrom 0 (start ++ left ++ right)).length := by
    have bare : (left ++ right).count '\n' = 0 := List.count_eq_zero.2 line.bare
    rw [length_lineFeedsFrom, List.append_assoc, List.count_append, bare, Nat.add_zero]
  obtain ⟨rfl, -, ends, -⟩ := line
  rw [lineFeeds_append, count, Array.getD_eq_getD_getElem?, List.getElem?_toArray,
    List.getElem?_append_right (Nat.le_refl _), Nat.sub_self]
  rcases ends with rfl | ⟨rest, rfl⟩
  · rw [List.append_nil]
    rfl
  · rfl

/-- The offset of a place lies inside the template. -/
theorem clamp_lineAt (line : LineAt template start left right behind) :
    (ofSource template).clamp (Text.byteLength (start ++ left)) =
      Text.byteLength (start ++ left) := by
  apply Nat.min_eq_left
  show Text.byteLength (start ++ left) ≤ template.byteLength
  rw [line.whole, List.append_assoc (start ++ left), Text.byteLength_append (start ++ left)]
  exact Nat.le_add_right _ _

/-- The bounds of a line are those of what stands between the line feeds. -/
theorem lineBounds_lineAt (line : LineAt template start left right behind) :
    (ofSource template).lineBounds (Text.byteLength (start ++ left)) =
      (start.byteLength, Text.byteLength (start ++ left ++ right)) := by
  have last : (ofSource template).lineFeeds.getD (start.count '\n')
      (ofSource template).source.byteLength = Text.byteLength (start ++ left ++ right) :=
    lineEnd_lineAt line
  rw [lineBounds, clamp_lineAt line, lineOf_lineAt line, lineStart_lineAt line, last]

/-- The position of a place counts the line feeds before its line and the characters between the
beginning of the line and the place. -/
theorem locate_lineAt (line : LineAt template start left right behind) :
    (ofSource template).locate (Text.byteLength (start ++ left)) =
      ⟨start.count '\n' + 1, left.length + 1⟩ := by
  have before : Text.slice? start.byteLength (Text.byteLength (start ++ left))
      (ofSource template).source = some left := line.slice_left
  simp only [locate, clamp_lineAt line, lineOf_lineAt line, lineStart_lineAt line, before]

end LineTable

/-- The window around a place shows the characters of its line that are nearest to it, and its marker
tells how many of them stand before the place. -/
theorem Window.around_lineAt {template start left right behind : Text}
    (line : LineAt template start left right behind) :
    Window.around (LineTable.ofSource template) (Text.byteLength (start ++ left)) =
      ⟨left.drop (left.length - radius) ++ right.take radius, min left.length radius⟩ := by
  have inside : max start.byteLength (min (Text.byteLength (start ++ left))
      (Text.byteLength (start ++ left ++ right))) = Text.byteLength (start ++ left) := by
    rw [Text.byteLength_append (start ++ left), Text.byteLength_append]
    omega
  have whole : Text.slice? start.byteLength (Text.byteLength (start ++ left ++ right))
      (LineTable.ofSource template).source = some (left ++ right) := line.slice_line
  have before : Text.slice? start.byteLength (Text.byteLength (start ++ left))
      (LineTable.ofSource template).source = some left := line.slice_left
  have shown : ((left ++ right).take (left.length + radius)).drop (left.length - radius) =
      left.drop (left.length - radius) ++ right.take radius := by
    rw [List.take_length_add_append, List.drop_append_of_le_length (Nat.sub_le _ _)]
  have marker : left.length - (left.length - radius) = min left.length radius := by omega
  simp only [around, LineTable.lineBounds_lineAt line, inside, whole, before, Option.getD_some,
    shown, marker]

/-! ### The statement -/

namespace Position

/-- A position comes before another when it is on an earlier line, or further to the left on the
same one. -/
def Before (first second : Position) : Prop :=
  first.line < second.line ∨ first.line = second.line ∧ first.column < second.column

/-- A position does not come before itself. -/
theorem Before.ne {first second : Position} (before : first.Before second) : first ≠ second := by
  rintro rfl
  rcases before with line | ⟨-, column⟩
  · exact Nat.lt_irrefl _ line
  · exact Nat.lt_irrefl _ column

end Position

/-- The bounds of the line of an offset: the range around it that contains no line feed, begins at the
start of the template or behind a line feed, and ends at a line feed or at the end. -/
def IsLineOf (template : Text) (offset start stop : Nat) : Prop :=
  start ≤ offset ∧ offset ≤ stop ∧ ∃ front line rest, template = front ++ line ++ rest ∧
    start = front.byteLength ∧ stop = Text.byteLength (front ++ line) ∧
    '\n' ∉ line ∧ front.EndsLine ∧ rest.BeginsWithFeed

/-- A window shows a part of a line, with a marker where the rest of the line begins. -/
structure Window.Shows (window : Window) (line rest : Text) : Prop where
  /-- At most forty characters are shown. -/
  short : window.text.length ≤ 40
  contiguous : window.text <:+: line
  marker : window.marker ≤ 20
  inside : window.marker ≤ window.text.length
  /-- From the marker on, the next characters of the line are shown, at most twenty. -/
  behind : window.text.drop window.marker = rest.take 20

/-- What is said about a place in a template is what a reader counts. -/
structure Counted (before after : Text) (lines : LineTable) (offset : Nat) : Prop where
  /-- The line feeds before the place are counted, and the characters behind the last of them. -/
  located : lines.locate offset = ⟨1 + before.count '\n',
    1 + (before.reverse.takeWhile (· ≠ '\n')).length⟩
  bounds : ∀ start stop, lines.lineBounds offset = (start, stop) ↔
    IsLineOf (before ++ after) offset start stop
  window : ∃ line rest,
    Text.slice? (lines.lineBounds offset).1 (lines.lineBounds offset).2 (before ++ after) =
      some line ∧
    Text.slice? offset (lines.lineBounds offset).2 (before ++ after) = some rest ∧
    (Window.around lines offset).Shows line rest

namespace LineTable

variable {template start left right behind : Text}

/-- A range is that of a line exactly when it lies between what stands around the line. -/
theorem isLineOf_lineAt (line : LineAt template start left right behind) (first last : Nat) :
    IsLineOf template (Text.byteLength (start ++ left)) first last ↔
      start.byteLength = first ∧ Text.byteLength (start ++ left ++ right) = last := by
  constructor
  · rintro ⟨lower, upper, front, shown, rest, whole, rfl, rfl, bare, begins, ends⟩
    have together := whole.symm.trans line.whole
    rw [List.append_assoc, List.append_assoc (start ++ left)] at together
    obtain ⟨before, place, behindPlace⟩ := Text.append_of_byteLength_le together lower
    rw [place, Text.byteLength_append, Text.byteLength_append] at upper
    obtain ⟨after, rfl, -⟩ :=
      Text.append_of_byteLength_le behindPlace.symm (Nat.le_of_add_le_add_left upper)
    have again : LineAt template front before after rest :=
      ⟨by rw [whole, ← List.append_assoc], begins, ends, bare⟩
    obtain ⟨rfl, rfl, rfl, -⟩ := line.unique again place
    rw [List.append_assoc]
    exact ⟨rfl, rfl⟩
  · rintro ⟨rfl, rfl⟩
    refine ⟨?_, ?_, start, left ++ right, behind, ?_, rfl, ?_, line.bare, line.begins, line.ends⟩
    · rw [Text.byteLength_append]
      exact Nat.le_add_right _ _
    · rw [Text.byteLength_append (start ++ left)]
      exact Nat.le_add_right _ _
    · rw [line.whole, List.append_assoc start]
    · rw [List.append_assoc]

/-- What the window shows from the marker on is the rest of the line. -/
theorem shows_lineAt (line : LineAt template start left right behind) :
    (Window.around (ofSource template) (Text.byteLength (start ++ left))).Shows (left ++ right)
      right := by
  have front : (left.drop (left.length - Window.radius)).length =
      min left.length Window.radius := by
    rw [List.length_drop]
    omega
  have shown : (right.take Window.radius).length ≤ Window.radius := List.length_take_le _ _
  have near : min left.length Window.radius ≤ Window.radius := Nat.min_le_right _ _
  rw [Window.around_lineAt line]
  constructor
  · rw [List.length_append, front]
    exact Nat.add_le_add near shown
  · refine ⟨left.take (left.length - Window.radius), right.drop Window.radius, ?_⟩
    rw [← List.append_assoc, List.take_append_drop, List.append_assoc, List.take_append_drop]
  · exact near
  · rw [List.length_append, front]
    exact Nat.le_add_right _ _
  · exact List.drop_left' front

/-- What is found in the table for a place is what is counted there. -/
theorem counted (before after : Text) :
    Counted before after (ofSource (before ++ after)) before.byteLength := by
  obtain ⟨start, left, right, behind, line, rfl, rfl⟩ := exists_lineAt before after
  refine ⟨?_, ?_, left ++ right, right, ?_, ?_, shows_lineAt line⟩
  · rw [locate_lineAt line, line.takeWhile_left, List.length_reverse, line.count_left, Nat.add_comm,
      Nat.add_comm left.length]
  · intro first last
    rw [lineBounds_lineAt line, isLineOf_lineAt line, Prod.mk.injEq]
  · rw [lineBounds_lineAt line]
    exact line.slice_line
  · rw [lineBounds_lineAt line]
    exact line.slice_right

/-- Of two places, the one further behind has the later position: it is on the same line and more
characters stand before it there, or a line feed stands between the two. -/
theorem locate_before {front middle back : Text} (nonempty : middle ≠ []) :
    ((ofSource (front ++ middle ++ back)).locate front.byteLength).Before
      ((ofSource (front ++ middle ++ back)).locate (Text.byteLength (front ++ middle))) := by
  have first := (counted front (middle ++ back)).located
  have second := (counted (front ++ middle) back).located
  rw [← List.append_assoc] at first
  rw [first, second, Position.Before, List.count_append]
  by_cases feed : '\n' ∈ middle
  · have between := List.count_pos_iff.2 feed
    dsimp only
    omega
  · have kept := Text.kept_of_bare fun member => feed (List.mem_reverse.1 member)
    have wide := List.length_pos_iff.2 nonempty
    refine Or.inr ⟨by rw [List.count_eq_zero.2 feed, Nat.add_zero], ?_⟩
    rw [List.reverse_append, List.takeWhile_append_of_pos kept, List.length_append,
      List.length_reverse]
    dsimp only
    omega

/-- Positions are what a reader counts. The line of an offset is found from the line feeds before
it, and its column from the characters behind the last of them; the bounds of its line, and the
window around it, are those of the line that the offset lies in. Offsets behind the end have the
position of the end, and of two offsets between characters the greater has the later position, so
no two of them have the same.

Proof: the template is taken apart into what stands before the line of the offset, the two parts of
the line, and what follows it. The entries of the table below the offset are those of the first
part. -/
theorem locate_counts (template : Text) :
    (∀ before after, template = before ++ after →
      Counted before after (ofSource template) before.byteLength) ∧
    (∀ offset, template.byteLength ≤ offset →
      (ofSource template).locate offset = (ofSource template).locate template.byteLength) ∧
    (∀ first second, template.IsBoundary first → template.IsBoundary second → first < second →
      ((ofSource template).locate first).Before ((ofSource template).locate second)) ∧
    ∀ first second, template.IsBoundary first → template.IsBoundary second →
      (ofSource template).locate first = (ofSource template).locate second → first = second := by
  have increasing : ∀ first second, template.IsBoundary first → template.IsBoundary second →
      first < second →
      ((ofSource template).locate first).Before ((ofSource template).locate second) := by
    rintro first second ⟨front, rest, whole, rfl⟩ ⟨before, back, again, rfl⟩ less
    obtain ⟨middle, rfl, -⟩ :=
      Text.append_of_byteLength_le (whole.symm.trans again) (Nat.le_of_lt less)
    have nonempty : middle ≠ [] := by
      rintro rfl
      rw [List.append_nil] at less
      exact Nat.lt_irrefl _ less
    rw [again]
    exact locate_before nonempty
  refine ⟨?_, ?_, increasing, ?_⟩
  · rintro before after rfl
    exact counted before after
  · intro offset behind
    have same : (ofSource template).clamp offset = (ofSource template).clamp template.byteLength := by
      show min offset template.byteLength = min template.byteLength template.byteLength
      omega
    rw [locate, locate, same]
  · intro first second here there same
    rcases Nat.lt_trichotomy first second with less | equal | greater
    · exact absurd same (increasing first second here there less).ne
    · exact equal
    · exact absurd same.symm (increasing second first there here greater).ne

/-- A character of two bytes is one column wide, and behind the end nothing is counted. -/
theorem locate_counts_accent :
    let template : Text := "a\né b"
    template = "a\né".toList ++ " b".toList ∧ template.byteLength ≤ 9 ∧
      (ofSource template).locate 4 = ⟨2, 2⟩ ∧
      (ofSource template).locate 9 = (ofSource template).locate 6 ∧
      (Position.Before ((ofSource template).locate 2) ((ofSource template).locate 4)) := by
  intro template
  obtain ⟨counts, behind, increasing, -⟩ := locate_counts template
  refine ⟨rfl, by decide, (counts "a\né" " b" rfl).located, behind 9 (by decide), ?_⟩
  exact increasing 2 4 ⟨"a\n", "é b", rfl, rfl⟩ ⟨"a\né", " b", rfl, rfl⟩ (by decide)

end LineTable

end Bracework

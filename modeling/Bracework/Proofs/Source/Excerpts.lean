import Bracework.Proofs.Format.Outline
import Bracework.Proofs.Source.Lines
import Bracework.Source.Excerpt

/-!
# The marked line of an excerpt

Two notions of a line meet in an excerpt. Positions come from the table of line feeds, in which a
line feed at the end of a template begins another line, and carriage returns belong to their line.
The lines that are printed are those a reader sees: there is no line behind a last line feed, and a
carriage return before a line feed is left out.

The two number the lines alike. A place that has a character behind it lies on a line that a reader
sees, so the line that is marked is there, and it is the line of the place.
-/

namespace Bracework

namespace Text

/-! ### Visible lines -/

/-- The lines of a text go on behind a line feed as those of what follows it. -/
theorem visibleLinesFrom_append (taken front rest : Text) :
    visibleLinesFrom taken (front ++ '\n' :: rest) =
      visibleLinesFrom taken (front ++ ['\n']) ++ visibleLines rest := by
  induction front generalizing taken with
  | nil => simp [visibleLinesFrom, visibleLines]
  | cons first front induction =>
    rw [List.cons_append, List.cons_append, visibleLinesFrom, visibleLinesFrom]
    split
    · rw [induction, List.cons_append]
    · exact induction _

/-- A text that ends with a line feed has as many lines as line feeds. -/
theorem length_visibleLinesFrom (taken front : Text) :
    (visibleLinesFrom taken (front ++ ['\n'])).length = front.count '\n' + 1 := by
  induction front generalizing taken with
  | nil => simp [visibleLinesFrom]
  | cons first front induction =>
    rw [List.cons_append, visibleLinesFrom]
    split
    · rename_i feed
      rw [List.length_cons, induction, feed, List.count_cons_self]
    · rename_i other
      rw [induction, List.count_cons_of_ne other]

/-- The characters up to a line feed are a line. -/
theorem visibleLinesFrom_feed {line : Text} (bare : '\n' ∉ line) (taken rest : Text) :
    visibleLinesFrom taken (line ++ '\n' :: rest) =
      dropReturn (taken.reverse ++ line) :: visibleLines rest := by
  induction line generalizing taken with
  | nil => simp [visibleLinesFrom, visibleLines]
  | cons first line induction =>
    have other : first ≠ '\n' := Ne.symm (List.ne_of_not_mem_cons bare)
    rw [List.cons_append, visibleLinesFrom, if_neg other,
      induction (List.not_mem_of_not_mem_cons bare), List.reverse_cons, List.append_assoc]
    rfl

/-- The characters behind the last line feed are a line if there are any. -/
theorem visibleLinesFrom_last {line : Text} (bare : '\n' ∉ line) (taken : Text)
    (nonempty : taken.reverse ++ line ≠ []) :
    visibleLinesFrom taken line = [taken.reverse ++ line] := by
  induction line generalizing taken with
  | nil =>
    rw [List.append_nil] at nonempty ⊢
    have some : taken.isEmpty = false := by
      cases taken with
      | nil => exact absurd rfl nonempty
      | cons first taken => rfl
    rw [visibleLinesFrom, some]
    rfl
  | cons first line induction =>
    have other : first ≠ '\n' := Ne.symm (List.ne_of_not_mem_cons bare)
    have whole : (first :: taken).reverse ++ line = taken.reverse ++ first :: line := by
      rw [List.reverse_cons, List.append_assoc]
      rfl
    rw [visibleLinesFrom, if_neg other,
      induction (List.not_mem_of_not_mem_cons bare) _ (whole ▸ nonempty), whole]

/-- A line without its carriage return has no other characters than the line. -/
theorem mem_of_mem_dropReturn {line : Text} {character : Char}
    (member : character ∈ dropReturn line) : character ∈ line := by
  unfold dropReturn at member
  split at member
  · exact List.mem_of_mem_dropLast member
  · exact member

/-- No line feed stands in a line. -/
theorem bare_visibleLinesFrom {taken : Text} (bare : '\n' ∉ taken) (text : Text) :
    ∀ line ∈ visibleLinesFrom taken text, '\n' ∉ line := by
  induction text generalizing taken with
  | nil =>
    rw [visibleLinesFrom]
    split
    · simp
    · simpa using bare
  | cons first rest induction =>
    rw [visibleLinesFrom]
    split
    · refine List.forall_mem_cons.2 ⟨?_, induction List.not_mem_nil⟩
      exact fun member => bare (List.mem_reverse.1 (mem_of_mem_dropReturn member))
    · rename_i other
      exact induction fun member => (List.mem_cons.1 member).elim (Ne.symm other) bare

/-- No line feed stands in the visible line with an index, or in the empty one in its place. -/
theorem bare_visibleLines_getD (text : Text) (index : Nat) :
    '\n' ∉ text.visibleLines.getD index [] := by
  rw [List.getD_eq_getElem?_getD]
  cases there : text.visibleLines[index]? with
  | none => exact List.not_mem_nil
  | some line => exact bare_visibleLinesFrom List.not_mem_nil _ line (List.mem_of_getElem? there)

end Text

namespace LineAt

variable {template start left right behind : Text}

/-- A line as a reader sees it: a carriage return before its line feed is left out. -/
def shown (left right behind : Text) : Text :=
  if behind = [] then left ++ right else Text.dropReturn (left ++ right)

/-- A line has a line feed of its own if it ends before the template. -/
theorem shown_eq (line : LineAt template start left right behind) :
    (if Text.byteLength (start ++ left ++ right) < template.byteLength then
      Text.dropReturn (left ++ right) else left ++ right) = shown left right behind := by
  rw [line.whole, Text.byteLength_append (start ++ left ++ right)]
  rcases line.ends with rfl | ⟨rest, rfl⟩
  · exact if_neg (Nat.lt_irrefl _)
  · refine if_pos (Nat.lt_add_of_pos_right ?_)
    rw [Text.byteLength_cons]
    exact Nat.add_pos_left (Char.utf8Size_pos _) _

/-- What stands before a line has as many visible lines as line feeds, and they come first. -/
theorem visibleLines_start (line : LineAt template start left right behind) :
    ∃ earlier, template.visibleLines = earlier ++ Text.visibleLines (left ++ right ++ behind) ∧
      earlier.length = start.count '\n' := by
  obtain ⟨rfl, begins, -, -⟩ := line
  rcases begins with rfl | ⟨front, rfl⟩
  · exact ⟨[], rfl, rfl⟩
  · refine ⟨Text.visibleLinesFrom [] (front ++ ['\n']), ?_, ?_⟩
    · have whole : front ++ ['\n'] ++ left ++ right ++ behind =
          front ++ '\n' :: (left ++ right ++ behind) := by
        simp only [List.append_assoc, List.cons_append, List.nil_append]
      rw [whole, Text.visibleLines, Text.visibleLinesFrom_append]
    · rw [Text.length_visibleLinesFrom, List.count_append]
      rfl

/-- The line of a place with a character behind it is visible, in the place given by the line feeds
before it. -/
theorem visibleLines_getElem? (line : LineAt template start left right behind)
    (inside : right ++ behind ≠ []) :
    template.visibleLines[start.count '\n']? = some (shown left right behind) := by
  obtain ⟨earlier, whole, count⟩ := line.visibleLines_start
  rw [whole, ← count, List.getElem?_append_right (Nat.le_refl _), Nat.sub_self]
  rcases line.ends with rfl | ⟨rest, rfl⟩
  · have nonempty : [].reverse ++ (left ++ right) ≠ [] := by
      rw [List.append_nil] at inside
      exact List.append_ne_nil_of_right_ne_nil left inside
    rw [List.append_nil, Text.visibleLines, Text.visibleLinesFrom_last line.bare [] nonempty]
    rfl
  · rw [Text.visibleLines, Text.visibleLinesFrom_feed line.bare]
    rfl

end LineAt

namespace Excerpt

/-! ### Printed lines -/

/-- A printed line without the line feed behind it. -/
def printed (marked : Bool) (number : Nat) (line : Text) : Text :=
  (if marked then ">>" else "  ") ++ " " ++ Text.padLeft 3 (Text.ofNat number) ++ " | " ++ line

/-- The numbers of the lines around a position: from two before its line to two after it, as far as
there are lines. -/
def numbers (source : Text) (position : Position) : List Nat :=
  let first := max 1 (position.line - 2)
  let last := min (position.line + 2) source.visibleLines.length
  List.range' first (last + 1 - first)

/-- The lines cut out around a position are those with the numbers around it. -/
theorem window_eq (source : Text) {position : Position} (positive : 0 < position.line) :
    (source.visibleLines.zipIdx.take (position.line - 1 + 3)).drop (position.line - 1 - 2) =
      (numbers source position).map fun number =>
        (source.visibleLines.getD (number - 1) [], number - 1) := by
  apply List.ext_getElem
  · simp only [numbers, List.length_drop, List.length_take, List.length_zipIdx, List.length_map,
      List.length_range']
    omega
  · intro index here there
    simp only [List.length_drop, List.length_take, List.length_zipIdx] at here
    have place : max 1 (position.line - 2) + 1 * index - 1 = position.line - 1 - 2 + index := by
      omega
    have visible : position.line - 1 - 2 + index < source.visibleLines.length := by omega
    simp only [numbers, List.getElem_drop, List.getElem_take, List.getElem_zipIdx,
      List.getElem_map, List.getElem_range', place, Nat.zero_add]
    rw [List.getD_eq_getElem _ _ visible]

/-- The excerpt around a position prints the lines with the numbers around it. -/
theorem around_eq (source : Text) {position : Position} (positive : 0 < position.line) :
    around source position = Text.ofLines ((numbers source position).map fun number =>
      printed (number == position.line) number (source.visibleLines.getD (number - 1) [])) := by
  rw [around]
  dsimp only
  rw [window_eq source positive, Text.ofLines, List.flatMap_map, List.flatMap_map,
    List.flatMap_def, List.flatMap_def]
  refine congrArg List.flatten (List.map_congr_left ?_)
  intro number listed
  have least : 1 ≤ number := by
    obtain ⟨index, -, rfl⟩ := List.mem_range'.1 listed
    omega
  have same : (number - 1 == position.line - 1) = (number == position.line) := by
    rw [Bool.eq_iff_iff, beq_iff_eq, beq_iff_eq]
    omega
  dsimp only
  rw [same, Nat.sub_add_cancel least]
  rfl

/-- A printed line begins with the marker exactly when it is the marked one. -/
theorem marker_printed (marked : Bool) (number : Nat) (line : Text) :
    List.isPrefixOf ">>".toList (printed marked number line) = marked := by
  cases marked with
  | false => rfl
  | true => rfl

/-- No line feed stands in a printed line if none stands in the line itself. -/
theorem bare_printed {line : Text} (bare : '\n' ∉ line) (marked : Bool) (number : Nat) :
    '\n' ∉ printed marked number line := by
  have digits : '\n' ∉ Text.ofNat number := by
    intro member
    have digit := Nat.isDigit_of_mem_toDigits (by decide) (by decide) member
    exact absurd digit (by decide)
  have padded : '\n' ∉ Text.padLeft 3 (Text.ofNat number) := by
    intro member
    rcases List.mem_append.1 member with blank | digit
    · exact absurd (List.eq_of_mem_replicate blank) (by decide)
    · exact digits digit
  have marker : '\n' ∉ (if marked then ">>" else "  ").toList := by
    cases marked with
    | false => decide
    | true => decide
  intro member
  rcases List.mem_append.1 member with front | text
  · rcases List.mem_append.1 front with number | bar
    · rcases List.mem_append.1 number with mark | digits
      · rcases List.mem_append.1 mark with mark | blank
        · exact marker mark
        · exact absurd blank (by decide)
      · exact padded digits
    · exact absurd bar (by decide)
  · exact bare text

/-- A visible line is one of the lines around it, and the others around it have other numbers. -/
theorem exists_numbers {source : Text} {position : Position} (positive : 0 < position.line)
    (visible : position.line ≤ source.visibleLines.length) :
    ∃ before after, numbers source position = before ++ position.line :: after ∧
      ∀ number ∈ before ++ after, number ≠ position.line := by
  have member : position.line ∈ numbers source position := by
    rw [numbers, List.mem_range'_1]
    omega
  have once : (numbers source position).Nodup := List.nodup_range'
  obtain ⟨before, after, cut⟩ := List.append_of_mem member
  rw [cut, List.nodup_middle, List.nodup_cons] at once
  refine ⟨before, after, cut, ?_⟩
  rintro number other rfl
  exact once.1 other

/-- Of the lines around a visible one, printed with any texts, exactly that one has the marker. -/
theorem filter_printed {source : Text} {position : Position} (positive : 0 < position.line)
    (visible : position.line ≤ source.visibleLines.length) (text : Nat → Text) :
    ((numbers source position).map fun number =>
      printed (number == position.line) number (text number)).filter
        (List.isPrefixOf ">>".toList) = [printed true position.line (text position.line)] := by
  obtain ⟨before, after, cut, others⟩ := exists_numbers positive visible
  have unmarked : ∀ part : List Nat, (∀ number ∈ part, number ≠ position.line) →
      (part.map fun number => printed (number == position.line) number (text number)).filter
        (List.isPrefixOf ">>".toList) = [] := by
    intro part other
    rw [List.filter_eq_nil_iff, List.forall_mem_map]
    intro number member
    rw [marker_printed, beq_iff_eq]
    exact other number member
  rw [cut, List.map_append, List.map_cons, List.filter_append,
    unmarked before fun number member => others number (List.mem_append_left _ member),
    List.filter_cons_of_pos (by rw [marker_printed, beq_self_eq_true]),
    unmarked after fun number member => others number (List.mem_append_right _ member),
    beq_self_eq_true, List.nil_append]

/-! ### The statement -/

/-- The lines of an excerpt around a position: they are numbered without a gap, each shows the line
with its number, and one of them begins with the marker, the one with the line of the position. -/
structure Marks (source : Text) (position : Position) (line : Text) (rows : List Text) : Prop where
  bare : ∀ row ∈ rows, '\n' ∉ row
  numbered : rows = (numbers source position).map fun number =>
    printed (number == position.line) number (source.visibleLines.getD (number - 1) [])
  marked : rows.filter (List.isPrefixOf ">>".toList) = [printed true position.line line]

/-- The excerpt around a place marks the line that the place is on. Its rows have consecutive
numbers, and exactly one of them begins with the marker: it has the number of the position, and
shows what stands between the bounds of the line, except for a carriage return before the line's own
line feed.

Proof: what stands before the line ends with a line feed if there is any of it, so it has as many
visible lines as line feeds. Since a character follows the place, the next visible line is that of
the place, and it is among the rows. -/
theorem around_marks {template : Text} {offset : Nat} (boundary : template.IsBoundary offset)
    (inside : offset < template.byteLength) :
    let lines := LineTable.ofSource template
    let bounds := lines.lineBounds offset
    ∃ rows line, Text.slice? bounds.1 bounds.2 template = some line ∧
      around template (lines.locate offset) = Text.ofLines rows ∧
      Marks template (lines.locate offset)
        (if bounds.2 < template.byteLength then Text.dropReturn line else line) rows := by
  obtain ⟨before, after, rfl, rfl⟩ := boundary
  obtain ⟨start, left, right, behind, line, rfl, rfl⟩ := exists_lineAt before after
  have nonempty : right ++ behind ≠ [] := by
    intro empty
    rw [empty, List.append_nil] at inside
    exact Nat.lt_irrefl _ inside
  have found := line.visibleLines_getElem? nonempty
  obtain ⟨visible, text⟩ := List.getElem?_eq_some_iff.1 found
  dsimp only
  rw [LineTable.lineBounds_lineAt line, LineTable.locate_lineAt line]
  refine ⟨_, left ++ right, line.slice_line, around_eq _ (Nat.succ_pos _), ?_, rfl, ?_⟩
  · rw [List.forall_mem_map]
    intro number member
    exact bare_printed (Text.bare_visibleLines_getD _ _) _ _
  · have marked := @filter_printed (start ++ left ++ (right ++ behind))
      ⟨start.count '\n' + 1, left.length + 1⟩ (Nat.succ_pos _) visible
    rw [marked, Nat.add_sub_cancel, List.getD_eq_getElem?_getD, found, line.shown_eq]
    rfl

/-- A line is marked without the carriage return before its line feed, and its own text may begin
like a marker. -/
theorem around_marks_carriage :
    let template : Text := "a\n>>b\r\n\nc\n"
    let position : Position := ⟨2, 2⟩
    template.IsBoundary 3 ∧ 3 < template.byteLength ∧
      (LineTable.ofSource template).locate 3 = position ∧
      around template position = "     1 | a\n>>   2 | >>b\n     3 | \n     4 | c\n".toList ∧
      ∃ rows, around template position = Text.ofLines rows ∧
        Marks template position ">>b" rows := by
  intro template position
  have boundary : template.IsBoundary 3 := ⟨"a\n>", ">b\r\n\nc\n", rfl, rfl⟩
  have inside : 3 < template.byteLength := by decide
  have located : (LineTable.ofSource template).locate 3 = position := by decide +kernel
  have bounds : (LineTable.ofSource template).lineBounds 3 = (2, 6) := by decide +kernel
  obtain ⟨rows, line, cut, shown, marks⟩ := around_marks boundary inside
  rw [bounds] at cut marks
  rw [located] at shown marks
  have text : line = ">>b\r" := Option.some.inj (cut.symm.trans (by decide +kernel))
  subst text
  exact ⟨boundary, inside, located, by decide +kernel, rows, shown, marks⟩

end Excerpt

end Bracework

import Bracework.Text.Space

/-!
# Trimmed texts

Dropping characters from the ends of a text leaves a part of it, and dropping them again changes
nothing more. A text is cut in two in the same way, at the first character that does not belong to
its first part.
-/

namespace Bracework.Text

variable {drop : Char → Bool} {text : Text}

/-- Dropping characters at the end leaves the first part of a text. -/
theorem trimEnd_append (drop : Char → Bool) (text : Text) :
    ∃ after, text = trimEnd drop text ++ after ∧ ∀ character ∈ after, drop character = true := by
  refine ⟨(text.reverse.takeWhile drop).reverse, ?_, fun character member => ?_⟩
  · rw [trimEnd, ← List.reverse_append, List.takeWhile_append_dropWhile, List.reverse_reverse]
  · exact List.all_eq_true.1 List.all_takeWhile character (List.mem_reverse.1 member)

/-- Nothing is dropped from a text whose first character stays. -/
theorem trimStart_eq_self (stays : ∀ first ∈ text.head?, drop first = false) :
    trimStart drop text = text := by
  cases text with
  | nil => rfl
  | cons first rest => rw [trimStart, List.dropWhile_cons, stays first rfl]; rfl

/-- The first character of what is left stays. -/
theorem trimStart_stays (drop : Char → Bool) (text : Text) :
    ∀ first ∈ (trimStart drop text).head?, drop first = false := by
  intro first found
  have behind := List.head?_dropWhile_not drop text
  rw [trimStart] at found
  rw [found] at behind
  exact behind

/-- Nothing is dropped at the end of a text whose last character stays. -/
theorem trimEnd_eq_self (stays : ∀ last ∈ text.getLast?, drop last = false) :
    trimEnd drop text = text := by
  have stop : trimStart drop text.reverse = text.reverse :=
    trimStart_eq_self (by rwa [List.head?_reverse])
  rw [trimEnd, ← trimStart, stop, List.reverse_reverse]

/-- The last character of what is left stays. -/
theorem trimEnd_stays (drop : Char → Bool) (text : Text) :
    ∀ last ∈ (trimEnd drop text).getLast?, drop last = false := by
  rw [trimEnd, List.getLast?_reverse]
  exact trimStart_stays drop _

/-- Nothing is dropped from a text whose first and last characters stay. -/
theorem trim_eq_self (first : ∀ character ∈ text.head?, drop character = false)
    (last : ∀ character ∈ text.getLast?, drop character = false) : trim drop text = text := by
  rw [trim, trimStart_eq_self first, trimEnd_eq_self last]

/-- The first and the last character of what is left stay. -/
theorem trim_stays (drop : Char → Bool) (text : Text) :
    (∀ first ∈ (trim drop text).head?, drop first = false) ∧
      ∀ last ∈ (trim drop text).getLast?, drop last = false := by
  constructor
  · obtain ⟨after, whole, -⟩ := trimEnd_append drop (trimStart drop text)
    intro first found
    apply trimStart_stays drop text
    rw [whole, List.head?_append, ← trim, found]
    rfl
  · exact trimEnd_stays drop _

/-- Characters are dropped from the ends of a text once and for all. -/
theorem trim_trim (drop : Char → Bool) (text : Text) :
    trim drop (trim drop text) = trim drop text :=
  trim_eq_self (trim_stays drop text).1 (trim_stays drop text).2

/-- A text, like any list, is cut in front of the first item that is not kept. -/
theorem span_append {α : Type} {keep : α → Bool} {first second : List α}
    (kept : ∀ item ∈ first, keep item = true) (stop : ∀ item ∈ second.head?, keep item = false) :
    (first ++ second).takeWhile keep = first ∧ (first ++ second).dropWhile keep = second := by
  have cut : second.takeWhile keep = [] ∧ second.dropWhile keep = second := by
    cases second with
    | nil => exact ⟨rfl, rfl⟩
    | cons item rest => simp [stop item rfl]
  rw [List.takeWhile_append_of_pos kept, List.dropWhile_append_of_pos kept, cut.1, cut.2,
    List.append_nil]
  exact ⟨rfl, rfl⟩

/-- Characters at the end of a text are dropped behind the last one that stays. -/
theorem trimEnd_of_append {after : Text} (stays : ∀ last ∈ text.getLast?, drop last = false)
    (dropped : ∀ character ∈ after, drop character = true) :
    trimEnd drop (text ++ after) = text := by
  have stop : ∀ character ∈ text.reverse.head?, drop character = false := by
    rwa [List.head?_reverse]
  have kept : ∀ character ∈ after.reverse, drop character = true :=
    fun character member => dropped character (List.mem_reverse.1 member)
  rw [trimEnd, List.reverse_append, (span_append kept stop).2, List.reverse_reverse]

end Bracework.Text

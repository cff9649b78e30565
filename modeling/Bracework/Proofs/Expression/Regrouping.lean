import Bracework.Proofs.Expression.Preorder

/-!
# New parts in slots

A part is put into an arena in one of two ways. An operand is added in a vacant slot, one past what
the owner refers to. A list or an operator takes the slot of the part that it is made of, which is
what the owner refers to last; its owner then refers to it instead, and it refers to that part.
Either way the new part takes over. All other changes to an arena are made to a path, and concern
neither its arguments nor the kinds of other parts.

Grouping is to the left. A list and an operator only take slots that admit them: no list becomes an
item of another, and no operator becomes the right side of another.
-/

namespace Bracework

namespace PartKind

/-- A part with some references waits for another: a call for an argument, a list for an item, and
an operator between two operands for its right side. -/
def Awaits : PartKind → Nat → Prop
  | .literal, _ => False
  | .path isCall, _ => isCall = true
  | .list, _ => True
  | .operation isBinary, count => isBinary = true ∧ count = 1

/-- A part with some references is incomplete: a list without items, or an operator between two
operands without its right side. -/
def Lacks : PartKind → Nat → Prop
  | .list, count => count = 0
  | .operation isBinary, count => isBinary = true ∧ count = 1
  | _, _ => False

/-- A part may refer to another of a kind. A list does not refer to a list; an operator does not
refer to another operator that is put there later than its left side. -/
structure Admits (host new : PartKind) : Prop where
  unlisted : host = .list → new ≠ .list
  grouped : ∀ isBinary, host = .operation isBinary → ∀ other, new ≠ .operation other

end PartKind

namespace Arena

variable {arena other : Arena} {id host : PartId} {front old references : List PartId}
  {kind hostKind newKind : PartKind} {owner part : Part} {slot : Slot} {name : Option Text}

/-! ### Kinds and references -/

/-- A part has a kind and references. -/
theorem exists_part (present : arena.kind? id = some kind)
    (refers : arena.references? id = some references) :
    ∃ part, arena.part? id = some part ∧ part.kind = kind ∧ part.references = references := by
  obtain ⟨part, found, same⟩ := Option.map_eq_some_iff.1 present
  refine ⟨part, found, same, ?_⟩
  rw [references?, found] at refers
  exact Option.some.inj refers

/-- Lists are the parts of that kind. -/
theorem isList_iff : arena.isList id = true ↔ arena.kind? id = some .list := by
  rw [isList, kind?]
  cases arena.part? id with
  | none => simp
  | some part => cases part <;> simp [Part.kind]

/-- Operators are the parts of either of their kinds. -/
theorem isOperation_iff :
    arena.isOperation id = true ↔ ∃ isBinary, arena.kind? id = some (.operation isBinary) := by
  rw [isOperation, kind?]
  cases arena.part? id with
  | none => simp
  | some part => cases part <;> simp [Part.kind]

/-- A call refers to its arguments. -/
theorem argumentCount_eq {isCall : Bool} (present : arena.kind? id = some (.path isCall))
    (refers : arena.references? id = some references) :
    arena.argumentCount id = references.length := by
  obtain ⟨part, found, same, rfl⟩ := exists_part present refers
  cases part with
  | path part => simp [argumentCount, path?, found, Part.references]
  | number literal => cases same
  | string literal => cases same
  | list items => cases same
  | operation operator left right => cases same

/-! ### Slots that are filled -/

/-- Filling a slot does not change the kind of its owner. -/
theorem kind_fill (owner : Part) (index : Nat) (id : PartId) (name : Option Text) :
    (fill owner index id name).kind = owner.kind := by
  cases owner with
  | operation operator left right =>
    rw [fill]
    split <;> rfl
  | _ => rfl

/-- Filling a vacant slot adds to what the owner refers to. -/
theorem references_fill_vacant (awaits : owner.kind.Awaits owner.references.length) :
    (fill owner owner.references.length id name).references = owner.references ++ [id] := by
  cases owner with
  | path part => simp [fill, Part.references, setOrAppend]
  | number literal => exact awaits.elim
  | string literal => exact awaits.elim
  | list items => simp [fill, Part.references, setOrAppend]
  | operation operator left right =>
    cases right with
    | none => rfl
    | some side => cases awaits.2

/-- Filling the last slot of an owner again replaces what it refers to last. The left side of an
operator is not its last slot. -/
theorem references_fill_last {last : PartId} (refers : owner.references = front ++ [last])
    (right : ∀ isBinary, owner.kind = .operation isBinary → front.length = 1) :
    (fill owner front.length id name).references = front ++ [id] := by
  cases owner with
  | path part =>
    obtain ⟨before, lasts, cut, rfl, single⟩ := List.map_eq_append_iff.1 refers
    obtain ⟨argument, rfl, -⟩ := List.map_eq_singleton_iff.1 single
    rw [List.length_map]
    simp only [fill, cut, setOrAppend_last, Part.references, List.map_append, List.map_cons,
      List.map_nil]
  | number literal => exact absurd refers.symm (by simp [Part.references])
  | string literal => exact absurd refers.symm (by simp [Part.references])
  | list items =>
    obtain rfl : items = front ++ [last] := refers
    simp only [fill, setOrAppend_last, Part.references]
  | operation operator left right' =>
    obtain ⟨only, rfl⟩ := List.length_eq_one_iff.1 (right operator.isBinary rfl)
    obtain ⟨rfl, -⟩ := List.cons.inj refers
    rfl

/-- A new part in a slot takes over. -/
theorem takesOver_inserted (present : arena.part? slot.owner = some owner)
    (refers : owner.references = front ++ part.references)
    (filled : (fill owner slot.index arena.next name).references = front ++ [arena.next]) :
    TakesOver arena (arena.inserted slot name part) slot.owner front part.references part.kind := by
  have older := lt_next present
  have grown : Grown arena (arena.inserted slot name part) slot.owner := inserted_grown
  have atNew : (arena.inserted slot name part).part? arena.next = some part :=
    part?_inserted_new older
  have atOwner : (arena.inserted slot name part).part? slot.owner =
      some (fill owner slot.index arena.next name) := by
    rw [part?_inserted_owner older, present, Option.map_some]
  refine ⟨next_inserted, ?_, ?_, ?_, ?_, ?_, ?_⟩
  · rw [references?, present, Option.map_some, refers]
  · rw [references?, atOwner, Option.map_some, filled]
  · rw [references?, atNew, Option.map_some]
  · intro id inside different
    rw [references?, references?, grown.others id inside different]
  · intro id inside
    by_cases same : id = slot.owner
    · rw [same, kind?, kind?, atOwner, present, Option.map_some, Option.map_some, kind_fill]
    · rw [kind?, kind?, grown.others id inside same]
  · rw [kind?, atNew, Option.map_some]

/-- A part that refers to nothing takes over in a vacant slot. -/
theorem takesOver_vacant (present : arena.kind? slot.owner = some hostKind)
    (refers : arena.references? slot.owner = some references)
    (awaits : hostKind.Awaits references.length) (vacant : slot.index = references.length)
    (bare : part.references = []) :
    TakesOver arena (arena.inserted slot name part) slot.owner references [] part.kind := by
  obtain ⟨owner, found, rfl, rfl⟩ := exists_part present refers
  rw [← bare]
  apply takesOver_inserted found
  · rw [bare, List.append_nil]
  · rw [vacant]
    exact references_fill_vacant awaits

/-- A part that refers to what an owner refers to last takes over in that slot. -/
theorem takesOver_held (present : arena.kind? slot.owner = some hostKind)
    (refers : arena.references? slot.owner = some (front ++ [id]))
    (held : slot.index = front.length)
    (right : ∀ isBinary, hostKind = .operation isBinary → front.length = 1)
    (own : part.references = [id]) :
    TakesOver arena (arena.inserted slot name part) slot.owner front [id] part.kind := by
  obtain ⟨owner, found, rfl, same⟩ := exists_part present refers
  rw [← own]
  apply takesOver_inserted found
  · rw [own, same]
  · rw [held]
    exact references_fill_last same right

/-! ### Paths that are changed -/

/-- An arena resembles another when its parts refer to the same parts and are of the same kinds, but
that a path may have become a call. -/
structure Resembles (arena other : Arena) : Prop where
  next_eq : other.next = arena.next
  references : ∀ id, other.references? id = arena.references? id
  kinds : ∀ id, other.kind? id = arena.kind? id ∨
    arena.kind? id = some (.path false) ∧ other.kind? id = some (.path true)

/-- A part of an arena after a path has been changed. -/
theorem part?_modifyPath {target : PartId} {change : PathPart → PathPart} :
    (arena.modifyPath id change).part? target =
      (arena.part? target).map fun part =>
        match part with
        | .path path => .path (if target = id then change path else path)
        | other => other := by
  by_cases same : target = id
  · subst same
    cases found : arena.part? target with
    | none =>
      rw [part?] at found
      simp [modifyPath, part?, Array.getElem?_modify, found]
    | some part =>
      cases part with
      | path path => simp [part?_modifyPath_same found]
      | _ =>
        rw [part?] at found
        simp [modifyPath, part?, Array.getElem?_modify, found]
  · rw [part?_modifyPath_other same]
    cases arena.part? target with
    | none => rfl
    | some part => cases part <;> simp [same]

/-- A changed path refers to the same arguments and does not stop being a call. -/
theorem resembles_modifyPath {change : PathPart → PathPart}
    (arguments : ∀ path, (change path).arguments = path.arguments)
    (calls : ∀ path, path.formatter.isSome = true → (change path).formatter.isSome = true) :
    Resembles arena (arena.modifyPath id change) := by
  refine ⟨next_modifyPath, ?_, ?_⟩
  · intro target
    rw [references?, references?, part?_modifyPath]
    cases arena.part? target with
    | none => rfl
    | some part =>
      cases part with
      | path path =>
        by_cases same : target = id
        · simp [same, Part.references, arguments]
        · simp [same]
      | _ => rfl
  · intro target
    rw [kind?, kind?, part?_modifyPath]
    cases arena.part? target with
    | none => exact Or.inl rfl
    | some part =>
      cases part with
      | path path =>
        by_cases same : target = id
        · by_cases called : path.formatter.isSome = true
          · left
            simp [same, Part.kind, called, calls path called]
          · by_cases calling : (change path).formatter.isSome = true
            · right
              simp [same, Part.kind, Bool.eq_false_iff.2 called, calling]
            · left
              simp [same, Part.kind, Bool.eq_false_iff.2 called, Bool.eq_false_iff.2 calling]
        · left
          simp [same]
      | _ => exact Or.inl rfl

/-- A changed path is a path or a call, as the change makes it. -/
theorem kind?_modifyPath {change : PathPart → PathPart} {isCall becomes : Bool}
    (present : arena.kind? id = some (.path isCall))
    (changed : ∀ path, path.formatter.isSome = isCall → (change path).formatter.isSome = becomes) :
    (arena.modifyPath id change).kind? id = some (.path becomes) := by
  obtain ⟨part, found, same⟩ := Option.map_eq_some_iff.1 present
  cases part with
  | path path =>
    rw [kind?, part?_modifyPath_same found, Option.map_some, Part.kind,
      changed path (PartKind.path.inj same)]
  | number literal => cases same
  | string literal => cases same
  | list items => cases same
  | operation operator left right => cases same

namespace Resembles

/-- A kind that is not that of a path is kept. -/
theorem kind_eq (resembles : Resembles arena other) (present : arena.kind? id = some kind)
    (plain : kind ≠ .path false) : other.kind? id = some kind := by
  rcases resembles.kinds id with same | ⟨path, -⟩
  · rw [same, present]
  · rw [present] at path
    exact absurd (Option.some.inj path) plain

/-- A kind that is not that of a path has been kept. -/
theorem kind_eq_before (resembles : Resembles arena other) (present : other.kind? id = some kind)
    (plain : kind ≠ .path true) : arena.kind? id = some kind := by
  rcases resembles.kinds id with same | ⟨-, call⟩
  · rw [← same, present]
  · rw [present] at call
    exact absurd (Option.some.inj call) plain

/-- A tree stays a tree. -/
theorem isTree {ids : List PartId} (resembles : Resembles arena other) (tree : IsTree arena ids) :
    IsTree other ids := by
  have operands : other.isOperand = arena.isOperand := by
    funext id
    rw [isOperand, isOperand]
    rcases resembles.kinds id with same | ⟨path, call⟩
    · rw [same]
    · rw [path, call]
      rfl
  refine ⟨tree.spans.congr fun id _ => resembles.references id, ?_, ?_⟩
  · rw [resembles.next_eq]
    exact tree.perm
  · rw [operands, resembles.next_eq]
    exact tree.ordered

end Resembles

/-! ### Grouping -/

/-- What a part of a kind may refer to: only calls have arguments, no item of a list is a list, the
left side of an operator is no list, and only an operator between two operands has a right side,
which is no operator. -/
def Grouped (arena : Arena) : PartKind → List PartId → Prop
  | .literal, references => references = []
  | .path isCall, references => isCall = false → references = []
  | .list, references => ∀ item ∈ references, arena.kind? item ≠ some .list
  | .operation isBinary, references => ∃ left right,
      references = left :: Option.toList right ∧ arena.kind? left ≠ some .list ∧
        ∀ side ∈ right, isBinary = true ∧
          ∀ sideBinary, arena.kind? side ≠ some (.operation sideBinary)

/-- All parts of an arena are grouped. -/
def WellGrouped (arena : Arena) : Prop :=
  ∀ id kind references, arena.kind? id = some kind → arena.references? id = some references →
    Grouped arena kind references

/-- The sides of a grouped operator. -/
theorem Grouped.sides {isBinary : Bool} {left : PartId} {right : Option PartId}
    (grouped : Grouped arena (.operation isBinary) (left :: right.toList)) :
    arena.kind? left ≠ some .list ∧ ∀ side ∈ right, isBinary = true ∧
      ∀ sideBinary, arena.kind? side ≠ some (.operation sideBinary) := by
  obtain ⟨left', right', same, grouping⟩ := grouped
  obtain ⟨rfl, sides⟩ := List.cons.inj same
  obtain rfl : right = right' := by
    cases right with
    | none =>
      cases right' with
      | none => rfl
      | some side => cases sides
    | some side =>
      cases right' with
      | none => cases sides
      | some other => rw [(List.cons.inj sides).1]
  exact grouping

/-- Grouping depends on the kinds of the parts referred to, and only on whether they are lists or
operators. -/
theorem Grouped.congr (grouped : Grouped arena kind references)
    (lists : ∀ id ∈ references, other.kind? id = some .list → arena.kind? id = some .list)
    (operations : ∀ id ∈ references, ∀ isBinary, other.kind? id = some (.operation isBinary) →
      arena.kind? id = some (.operation isBinary)) : Grouped other kind references := by
  cases kind with
  | literal => exact grouped
  | path isCall => exact grouped
  | list =>
    intro item member isList
    exact grouped item member (lists item member isList)
  | operation isBinary =>
    obtain ⟨left, right, rfl, unlisted, rightSide⟩ := grouped
    refine ⟨left, right, rfl, ?_, ?_⟩
    · intro isList
      exact unlisted (lists left (List.mem_cons_self ..) isList)
    · intro side member
      obtain ⟨binary, plain⟩ := rightSide side member
      refine ⟨binary, fun sideBinary isOperation => plain sideBinary ?_⟩
      exact operations side (List.mem_cons_of_mem _ (Option.mem_toList.2 member)) sideBinary
        isOperation

/-- A host stays grouped when it refers to one part more, in a vacant slot that admits the part. -/
theorem Grouped.add (grouped : Grouped arena hostKind references)
    (awaits : hostKind.Awaits references.length) (admits : hostKind.Admits kind)
    (present : arena.kind? id = some kind) : Grouped arena hostKind (references ++ [id]) := by
  cases hostKind with
  | literal => exact awaits.elim
  | path isCall =>
    intro plain
    rw [plain] at awaits
    cases awaits
  | list =>
    intro item member isList
    rcases List.mem_append.1 member with member | member
    · exact grouped item member isList
    · obtain rfl := List.mem_singleton.1 member
      exact admits.unlisted rfl (Option.some.inj (present.symm.trans isList))
  | operation isBinary =>
    obtain ⟨left, right, rfl, unlisted, -⟩ := grouped
    obtain ⟨binary, single⟩ := awaits
    cases right with
    | some side => cases single
    | none =>
      refine ⟨left, some id, rfl, unlisted, ?_⟩
      intro side member
      obtain rfl := Option.some.inj member
      refine ⟨binary, fun sideBinary isOperation => ?_⟩
      exact admits.grouped isBinary rfl sideBinary
        (Option.some.inj (present.symm.trans isOperation))

/-- A host stays grouped when it refers to another part last, if the slot admits the part. -/
theorem Grouped.replace {last : PartId} (grouped : Grouped arena hostKind (front ++ [last]))
    (right : ∀ isBinary, hostKind = .operation isBinary → front.length = 1)
    (admits : hostKind.Admits kind) (present : arena.kind? id = some kind) :
    Grouped arena hostKind (front ++ [id]) := by
  cases hostKind with
  | literal => exact absurd grouped (by simp [Grouped])
  | path isCall =>
    intro plain
    exact absurd (grouped plain) (by simp)
  | list =>
    intro item member isList
    rcases List.mem_append.1 member with member | member
    · exact grouped item (List.mem_append_left _ member) isList
    · obtain rfl := List.mem_singleton.1 member
      exact admits.unlisted rfl (Option.some.inj (present.symm.trans isList))
  | operation isBinary =>
    obtain ⟨only, rfl⟩ := List.length_eq_one_iff.1 (right isBinary rfl)
    have sides : Grouped arena (.operation isBinary) (only :: Option.toList (some last)) := grouped
    obtain ⟨unlisted, rightSide⟩ := sides.sides
    refine ⟨only, some id, rfl, unlisted, ?_⟩
    intro side member
    obtain rfl := Option.some.inj member
    refine ⟨(rightSide last rfl).1, fun sideBinary isOperation => ?_⟩
    exact admits.grouped isBinary rfl sideBinary (Option.some.inj (present.symm.trans isOperation))

/-- Parts from before stay grouped when a new part takes over. -/
theorem TakesOver.grouped (takes : TakesOver arena other host front old newKind)
    (grouped : Grouped arena kind references) (inside : ∀ id ∈ references, id < arena.next) :
    Grouped other kind references := by
  apply grouped.congr
  · intro id member isList
    rw [← takes.kinds id (inside id member), isList]
  · intro id member isBinary isOperation
    rw [← takes.kinds id (inside id member), isOperation]

/-- All parts stay grouped when a new part takes over, if it is grouped and so is its host. -/
theorem TakesOver.wellGrouped (takes : TakesOver arena other host front old kind)
    (grouped : WellGrouped arena) (inside : ∀ owner id, arena.Refers owner id → id < arena.next)
    (present : arena.kind? host = some hostKind)
    (hostGrouped : Grouped other hostKind (front ++ [arena.next]))
    (ownGrouped : Grouped other kind old) : WellGrouped other := by
  intro id idKind references found refers
  by_cases new : id = arena.next
  · subst new
    obtain rfl := Option.some.inj (takes.kind.symm.trans found)
    obtain rfl := Option.some.inj (takes.taken.symm.trans refers)
    exact ownGrouped
  · have older : id < arena.next := by
      have small := lt_next_of_kind found
      rw [takes.next_eq] at small
      lia
    rw [takes.kinds id older] at found
    by_cases same : id = host
    · subst same
      obtain rfl := Option.some.inj (present.symm.trans found)
      obtain rfl := Option.some.inj (takes.after.symm.trans refers)
      exact hostGrouped
    · rw [takes.others id older same] at refers
      exact takes.grouped (grouped id idKind references found refers) fun child member =>
        inside id child ⟨references, refers, member⟩

/-- All parts stay grouped when a path is changed that refers to nothing or is a call already. -/
theorem Resembles.wellGrouped (resembles : Resembles arena other) (grouped : WellGrouped arena) :
    WellGrouped other := by
  intro id kind references found refers
  rw [resembles.references id] at refers
  have kept : Grouped arena kind references := by
    rcases resembles.kinds id with same | ⟨path, call⟩
    · exact grouped id kind references (same ▸ found) refers
    · obtain rfl := Option.some.inj (call.symm.trans found)
      intro impossible
      cases impossible
  apply kept.congr
  · intro child _ isList
    exact resembles.kind_eq_before isList (by simp)
  · intro child _ isBinary isOperation
    exact resembles.kind_eq_before isOperation (by simp)

end Arena

end Bracework

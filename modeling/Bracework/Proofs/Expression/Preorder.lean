import Bracework.Proofs.Expression.Region
import Mathlib.Data.List.Range
import Mathlib.Logic.Relation

/-!
# The parts below a part, in order

What a part refers to are its arguments, its items or its sides. Listed in preorder, the parts
below one or more others come with each part before the parts that it refers to. Where such a list
names no part twice, every part in it is referred to once, or is one of the parts that the list
starts from, and no part is below itself.

An arena is changed while it is a tree, and only at its right edge: a new part takes over what a
part there refers to last, or is added behind it. In preorder the new part then stands before all
that it has taken over, which is the end of the list.
-/

namespace Bracework

/-- What a part is, apart from what it refers to. -/
inductive PartKind where
  | literal
  | path (isCall : Bool)
  | list
  | operation (isBinary : Bool)
deriving DecidableEq, Repr

/-- Whether parts of a kind are operands, not made of other operands. -/
def PartKind.isOperand : PartKind → Bool
  | .literal => true
  | .path _ => true
  | .list => false
  | .operation _ => false

namespace Part

/-- The kind of a part. -/
def kind : Part → PartKind
  | .path part => .path part.formatter.isSome
  | .number _ => .literal
  | .string _ => .literal
  | .list _ => .list
  | .operation operator _ _ => .operation operator.isBinary

/-- The numbers in the slots of a part, each at the index of its slot. -/
def references : Part → List PartId
  | .path part => part.arguments.map Argument.value
  | .number _ => []
  | .string _ => []
  | .list items => items
  | .operation _ left right => left :: right.toList

end Part

namespace Arena

/-- The kind of the part with a number. -/
def kind? (arena : Arena) (id : PartId) : Option PartKind := (arena.part? id).map Part.kind

/-- What the part with a number refers to. -/
def references? (arena : Arena) (id : PartId) : Option (List PartId) :=
  (arena.part? id).map Part.references

/-- Whether a number is that of an operand. -/
def isOperand (arena : Arena) (id : PartId) : Bool := (arena.kind? id).any PartKind.isOperand

/-- One part refers to another. -/
def Refers (arena : Arena) (owner id : PartId) : Prop :=
  ∃ references, arena.references? owner = some references ∧ id ∈ references

/-- One part refers to another last. -/
def RefersLast (arena : Arena) (owner id : PartId) : Prop :=
  ∃ front, arena.references? owner = some (front ++ [id])

/-- The parts below several parts, those included, in preorder. -/
inductive Spans (arena : Arena) : List PartId → List PartId → Prop where
  | nil : Spans arena [] []
  | cons {id : PartId} {roots references below others : List PartId}
      (present : arena.references? id = some references) (inner : Spans arena references below)
      (outer : Spans arena roots others) : Spans arena (id :: roots) (id :: (below ++ others))

variable {arena other : Arena} {first second roots ids front old : List PartId}
  {id root owner host : PartId} {kind : PartKind}

/-- A number is that of a part when the part has references. -/
theorem lt_next_of_references (present : arena.references? id = some ids) : id < arena.next := by
  obtain ⟨part, found, -⟩ := Option.map_eq_some_iff.1 present
  exact lt_next found

/-- A number is that of a part when the part has a kind. -/
theorem lt_next_of_kind (present : arena.kind? id = some kind) : id < arena.next := by
  obtain ⟨part, found, -⟩ := Option.map_eq_some_iff.1 present
  exact lt_next found

namespace Spans

/-- The parts below one list of parts and then those below another. -/
theorem append {others : List PartId} (left : Spans arena first ids)
    (right : Spans arena second others) : Spans arena (first ++ second) (ids ++ others) := by
  induction left with
  | nil => exact right
  | cons present inner outer _ induction =>
    rw [List.cons_append, List.cons_append, List.append_assoc]
    exact .cons present inner induction

/-- The parts below two lists of parts are those below the first and then those below the second. -/
theorem split (spans : Spans arena (first ++ second) ids) :
    ∃ left right, ids = left ++ right ∧ Spans arena first left ∧ Spans arena second right := by
  induction first generalizing ids with
  | nil => exact ⟨[], ids, rfl, .nil, spans⟩
  | cons id first induction =>
    cases spans with
    | cons present inner outer =>
      obtain ⟨left, right, rfl, leftSpans, rightSpans⟩ := induction outer
      exact ⟨_, right, by rw [List.cons_append, List.append_assoc], .cons present inner leftSpans,
        rightSpans⟩

/-- The parts below a single part begin with it. -/
theorem single (spans : Spans arena [root] ids) : ∃ references below,
    arena.references? root = some references ∧ Spans arena references below ∧
      ids = root :: below := by
  cases spans with
  | cons present inner outer =>
    cases outer with
    | nil => exact ⟨_, _, present, inner, by rw [List.append_nil]⟩

/-- The parts below parts are the same in an arena where they have the same references. -/
theorem congr (spans : Spans arena roots ids)
    (same : ∀ id ∈ ids, other.references? id = arena.references? id) : Spans other roots ids := by
  induction spans with
  | nil => exact .nil
  | @cons id roots references below others present inner outer innerInduction outerInduction =>
    have presentThere : other.references? id = some references := by
      rw [same id (List.mem_cons_self ..), present]
    refine .cons presentThere (innerInduction ?_) (outerInduction ?_)
    · intro id member
      exact same id (List.mem_cons_of_mem _ (List.mem_append_left _ member))
    · intro id member
      exact same id (List.mem_cons_of_mem _ (List.mem_append_right _ member))

/-- Every part of the list has references. -/
theorem present (spans : Spans arena roots ids) :
    ∀ id ∈ ids, ∃ references, arena.references? id = some references := by
  induction spans with
  | nil =>
    intro id member
    cases member
  | cons present inner outer innerInduction outerInduction =>
    intro id member
    rcases List.mem_cons.1 member with rfl | member
    · exact ⟨_, present⟩
    · rcases List.mem_append.1 member with member | member
      · exact innerInduction id member
      · exact outerInduction id member

/-- The list holds the parts that it starts from. -/
theorem roots_mem (spans : Spans arena roots ids) : ∀ root ∈ roots, root ∈ ids := by
  induction spans with
  | nil =>
    intro root member
    cases member
  | cons present inner outer _ induction =>
    intro root member
    rcases List.mem_cons.1 member with rfl | member
    · exact List.mem_cons_self ..
    · exact List.mem_cons_of_mem _ (List.mem_append_right _ (induction root member))

/-- The list holds all that its parts refer to. -/
theorem closed (spans : Spans arena roots ids) :
    ∀ owner ∈ ids, ∀ id, arena.Refers owner id → id ∈ ids := by
  induction spans with
  | nil =>
    intro owner member
    cases member
  | cons present inner outer innerInduction outerInduction =>
    rintro owner member id ⟨references, found, listed⟩
    rcases List.mem_cons.1 member with rfl | member
    · obtain rfl := Option.some.inj (present.symm.trans found)
      exact List.mem_cons_of_mem _ (List.mem_append_left _ (inner.roots_mem id listed))
    · rcases List.mem_append.1 member with member | member
      · exact List.mem_cons_of_mem _ (List.mem_append_left _
          (innerInduction owner member id ⟨references, found, listed⟩))
      · exact List.mem_cons_of_mem _ (List.mem_append_right _
          (outerInduction owner member id ⟨references, found, listed⟩))

/-- The list holds all that its parts lead to. -/
theorem closed_reach (spans : Spans arena roots ids) (member : owner ∈ ids)
    (reach : Relation.ReflTransGen arena.Refers owner id) : id ∈ ids := by
  induction reach with
  | refl => exact member
  | tail _ refers induction => exact spans.closed _ induction _ refers

/-- Every part of the list is reached from one of the parts that it starts from. -/
theorem reached (spans : Spans arena roots ids) :
    ∀ id ∈ ids, ∃ root ∈ roots, Relation.ReflTransGen arena.Refers root id := by
  induction spans with
  | nil =>
    intro id member
    cases member
  | @cons head roots references below others present inner outer innerInduction outerInduction =>
    intro id member
    rcases List.mem_cons.1 member with rfl | member
    · exact ⟨id, List.mem_cons_self .., .refl⟩
    · rcases List.mem_append.1 member with member | member
      · obtain ⟨child, listed, reach⟩ := innerInduction id member
        exact ⟨head, List.mem_cons_self .., .head ⟨references, present, listed⟩ reach⟩
      · obtain ⟨root, listed, reach⟩ := outerInduction id member
        exact ⟨root, List.mem_cons_of_mem _ listed, reach⟩

/-- Where no part is listed twice, no part is below itself.

Proof: all that is below a part is listed behind it, among the parts below what it refers to. -/
theorem acyclic (spans : Spans arena roots ids) (distinct : ids.Nodup) :
    ∀ id ∈ ids, ¬Relation.TransGen arena.Refers id id := by
  induction spans with
  | nil =>
    intro id member
    cases member
  | @cons head roots references below others present inner outer innerInduction outerInduction =>
    obtain ⟨fresh, distinctRest⟩ := List.nodup_cons.1 distinct
    obtain ⟨distinctBelow, distinctOthers, -⟩ := List.nodup_append.1 distinctRest
    intro id member
    rcases List.mem_cons.1 member with rfl | member
    · intro cycle
      obtain ⟨child, ⟨found, same, listed⟩, reach⟩ := Relation.TransGen.head'_iff.1 cycle
      obtain rfl := Option.some.inj (present.symm.trans same)
      exact fresh (List.mem_append_left _ (inner.closed_reach (inner.roots_mem child listed) reach))
    · rcases List.mem_append.1 member with member | member
      · exact innerInduction distinctBelow id member
      · exact outerInduction distinctOthers id member

/-- The parts that a list starts from and all that its parts refer to are the parts of the list. -/
theorem perm (spans : Spans arena roots ids) :
    (roots ++ ids.flatMap fun id => (arena.references? id).getD []).Perm ids := by
  induction spans with
  | nil => exact .refl _
  | @cons head roots references below others present inner outer innerInduction outerInduction =>
    rw [List.flatMap_cons, present, Option.getD_some, List.flatMap_append, List.cons_append]
    apply List.Perm.cons
    have moved : (roots ++ (references ++
        (below.flatMap (fun id => (arena.references? id).getD []) ++
          others.flatMap fun id => (arena.references? id).getD []))).Perm
        ((references ++ below.flatMap fun id => (arena.references? id).getD []) ++
          (roots ++ others.flatMap fun id => (arena.references? id).getD [])) := by
      rw [← List.append_assoc references, ← List.append_assoc roots, ← List.append_assoc _ roots]
      exact List.Perm.append_right _ List.perm_append_comm
    exact moved.trans (innerInduction.append outerInduction)

end Spans

/-! ### The right edge -/

/-- What is on the right edge below a part is listed below it. -/
theorem Spans.edge_mem (spans : Spans arena [root] ids)
    (edge : Relation.ReflTransGen arena.RefersLast root host) : host ∈ ids := by
  have refers : ∀ owner id, arena.RefersLast owner id → arena.Refers owner id := by
    rintro owner id ⟨front, present⟩
    exact ⟨_, present, List.mem_append_right _ (List.mem_singleton_self _)⟩
  exact spans.closed_reach (spans.roots_mem root (List.mem_singleton_self _))
    (Relation.ReflTransGen.mono refers _ _ edge)

/-- A new part takes over what a host refers to last, from some point on, and is itself what the
host refers to last. No other part changes. -/
structure TakesOver (arena other : Arena) (host : PartId) (front old : List PartId)
    (kind : PartKind) : Prop where
  next_eq : other.next = arena.next + 1
  before : arena.references? host = some (front ++ old)
  after : other.references? host = some (front ++ [arena.next])
  taken : other.references? arena.next = some old
  others : ∀ id, id < arena.next → id ≠ host → other.references? id = arena.references? id
  kinds : ∀ id, id < arena.next → other.kind? id = arena.kind? id
  kind : other.kind? arena.next = some kind

namespace TakesOver

/-- Parts that do not hold the host are the same after a new part has taken over. -/
theorem spans_other (takes : TakesOver arena other host front old kind)
    (spans : Spans arena roots ids) (outside : host ∉ ids) : Spans other roots ids := by
  apply spans.congr
  intro id member
  obtain ⟨references, present⟩ := spans.present id member
  apply takes.others id (lt_next_of_references present)
  rintro rfl
  exact outside member

/-- In preorder, a new part at the right edge stands before what it has taken over, which is the end
of the list.

Proof: by induction along the edge. Above the host, all that is listed before the next part of the
edge does not hold the host, since no part is listed twice. -/
theorem spans (takes : TakesOver arena other host front old kind)
    (edge : Relation.ReflTransGen arena.RefersLast root host) (spans : Spans arena [root] ids)
    (distinct : ids.Nodup) : ∃ left right, ids = left ++ right ∧ Spans arena old right ∧
      Spans other [root] (left ++ arena.next :: right) := by
  have atHost {ids : List PartId} (spans : Spans arena [host] ids) (distinct : ids.Nodup) :
      ∃ left right, ids = left ++ right ∧ Spans arena old right ∧
        Spans other [host] (left ++ arena.next :: right) := by
    obtain ⟨references, below, present, inner, rfl⟩ := spans.single
    obtain rfl := Option.some.inj (present.symm.trans takes.before)
    obtain ⟨left, right, rfl, leftSpans, rightSpans⟩ := inner.split
    obtain ⟨fresh, -⟩ := List.nodup_cons.1 distinct
    have keptLeft := takes.spans_other leftSpans fun member =>
      fresh (List.mem_append_left _ member)
    have keptRight := takes.spans_other rightSpans fun member =>
      fresh (List.mem_append_right _ member)
    have taken : Spans other [arena.next] (arena.next :: (right ++ [])) :=
      .cons takes.taken keptRight .nil
    rw [List.append_nil] at taken
    have whole : Spans other [host] (host :: ((left ++ arena.next :: right) ++ [])) :=
      .cons takes.after (keptLeft.append taken) .nil
    rw [List.append_nil] at whole
    exact ⟨host :: left, right, rfl, rightSpans, whole⟩
  induction edge using Relation.ReflTransGen.head_induction_on generalizing ids with
  | refl => exact atHost spans distinct
  | @head root child last edge induction =>
    by_cases same : root = host
    · subst same
      exact atHost spans distinct
    · obtain ⟨init, present⟩ := last
      obtain ⟨references, below, found, inner, rfl⟩ := spans.single
      obtain rfl := Option.some.inj (present.symm.trans found)
      obtain ⟨first, rest, rfl, firstSpans, restSpans⟩ := inner.split
      obtain ⟨-, distinctBelow⟩ := List.nodup_cons.1 distinct
      obtain ⟨-, distinctRest, apart⟩ := List.nodup_append.1 distinctBelow
      have outside : host ∉ first := fun member =>
        apart host member host (restSpans.edge_mem edge) rfl
      obtain ⟨left, right, rfl, taken, whole⟩ := induction restSpans distinctRest
      have keptFirst := takes.spans_other firstSpans outside
      have kept : other.references? root = some (init ++ [child]) := by
        rw [takes.others root (lt_next_of_references present) same, present]
      have all : Spans other [root] (root :: ((first ++ (left ++ arena.next :: right)) ++ [])) :=
        .cons kept (keptFirst.append whole) .nil
      rw [List.append_nil, ← List.append_assoc] at all
      exact ⟨root :: (first ++ left), right, by simp, taken, all⟩

end TakesOver

/-! ### Trees -/

/-- An arena is a tree when its parts are those below the list of top-level items, each listed once,
and its operands are listed in the order of their numbers. -/
structure IsTree (arena : Arena) (ids : List PartId) : Prop where
  spans : Spans arena [Arena.root] ids
  perm : ids.Perm (List.range arena.next)
  ordered : ids.filter arena.isOperand = (List.range arena.next).filter arena.isOperand

/-- No part of a tree is listed twice. -/
theorem IsTree.distinct (tree : IsTree arena ids) : ids.Nodup :=
  tree.perm.nodup_iff.2 List.nodup_range

/-- The parts of a tree are listed. -/
theorem IsTree.mem_iff (tree : IsTree arena ids) : id ∈ ids ↔ id < arena.next := by
  rw [tree.perm.mem_iff, List.mem_range]

/-- A tree stays a tree when a new part takes over at its right edge. An operand takes nothing over,
so it is listed last. -/
theorem IsTree.takeOver (tree : IsTree arena ids)
    (takes : TakesOver arena other host front old kind)
    (edge : Relation.ReflTransGen arena.RefersLast Arena.root host)
    (bare : kind.isOperand = true → old = []) : ∃ ids, IsTree other ids := by
  obtain ⟨left, right, rfl, taken, spans⟩ := takes.spans edge tree.spans tree.distinct
  have range : List.range other.next = List.range arena.next ++ [arena.next] := by
    rw [takes.next_eq, List.range_succ]
  have kept : ∀ listed : List PartId, (∀ id ∈ listed, id < arena.next) →
      listed.filter other.isOperand = listed.filter arena.isOperand := by
    intro listed older
    apply List.filter_congr
    intro id member
    rw [isOperand, isOperand, takes.kinds id (older id member)]
  have older : ∀ id ∈ left ++ right, id < arena.next := fun id member => tree.mem_iff.1 member
  have newest : other.isOperand arena.next = kind.isOperand := by
    rw [isOperand, takes.kind]
    rfl
  have olderRange : ∀ id ∈ List.range arena.next, id < arena.next := fun _ => List.mem_range.1
  refine ⟨_, spans, ?_, ?_⟩
  · rw [range]
    exact List.perm_middle.trans
      ((tree.perm.cons _).trans (List.perm_append_singleton _ _).symm)
  · rw [range, List.filter_append, List.filter_append, kept _ olderRange, ← tree.ordered,
      kept left fun id member => older id (List.mem_append_left _ member), List.filter_append]
    by_cases operand : kind.isOperand = true
    · obtain rfl := bare operand
      cases taken
      simp [newest, operand]
    · rw [List.filter_cons, newest, if_neg operand,
        kept right fun id member => older id (List.mem_append_right _ member)]
      simp [newest, operand]

end Arena

end Bracework

import Bracework.Proofs.Expression.MachineMoves
import Bracework.Proofs.Expression.Regrouping

/-!
# Open frames and the arena

The frames that wait below the innermost one lead from the top-level list to the slot that the
innermost frame fills. Each of them holds a part in its own slot, which its owner refers to last,
and the frame above fills a slot of that part, or of a list that the part refers to last. The
innermost slot is thus at the right edge of the tree, where parts can be added and regrouped, and
the parts that the waiting frames need are older than it.

A machine is sound when its arena is orderly and its frames fit the arena; and nothing lacks a part
but the owner of the slot that the innermost frame is about to fill. Every move keeps a machine
sound.
-/

namespace Bracework

/-- The part that a stage has come to, unless it still waits for an operand. -/
def Stage.part? : Stage → Option PartId
  | .operand => none
  | .path id => some id
  | .arguments id => some id
  | .finished id => some id

/-- A stage at which a frame can wait for the parts below a part. -/
inductive Stage.Waits : Stage → PartId → Prop where
  | arguments (id : PartId) : Waits (.arguments id) id
  | finished (id : PartId) : Waits (.finished id) id

/-- A stage at which a frame waits has come to a part. -/
theorem Stage.Waits.holding {stage : Stage} {id : PartId} (waits : stage.Waits id) :
    stage.part? = some id := by
  cases waits <;> rfl

namespace Arena

variable {arena other : Arena} {id host owner : PartId} {front old references : List PartId}
  {kind hostKind : PartKind} {part : Part} {slot : Slot} {name : Option Text} {stage : Stage}
  {frames below : List Frame}

/-- The part of a stage is of a kind for that stage: a path, a call, or anything but a list. -/
def Suits (arena : Arena) : Stage → Prop
  | .operand => False
  | .path id => arena.kind? id = some (.path false)
  | .arguments id => arena.kind? id = some (.path true)
  | .finished id => ∃ kind, arena.kind? id = some kind ∧ kind ≠ .list

/-- A slot holds a part when its owner refers to the part last and the part is the newer one. In an
operator this is the right side. -/
structure Holds (arena : Arena) (slot : Slot) (id : PartId) : Prop where
  refers : ∃ front, arena.references? slot.owner = some (front ++ [id]) ∧ slot.index = front.length
  right : ∀ isBinary, arena.kind? slot.owner = some (.operation isBinary) → slot.index = 1
  newer : slot.owner < id

/-- A slot is vacant, and its owner waits for a part there. -/
def Awaits (arena : Arena) (slot : Slot) : Prop :=
  ∃ kind references, arena.kind? slot.owner = some kind ∧
    arena.references? slot.owner = some references ∧ kind.Awaits references.length ∧
      slot.index = references.length

/-- A slot is vacant, and its owner is incomplete without a part there. -/
def Lacks (arena : Arena) (slot : Slot) : Prop :=
  ∃ kind references, arena.kind? slot.owner = some kind ∧
    arena.references? slot.owner = some references ∧ kind.Lacks references.length ∧
      slot.index = references.length

/-- A frame fills slots of the part that the frame below it holds, or of a list that this part
refers to last. -/
def Hangs (arena : Arena) (id owner : PartId) : Prop :=
  owner = id ∨ id < owner ∧ arena.RefersLast id owner ∧ arena.kind? owner = some .list

/-- The frames below a frame lead from the top-level list to the owner of its slot. -/
inductive Supported (arena : Arena) : List Frame → PartId → Prop where
  | bottom : Supported arena [] root
  | above {slot : Slot} {name : Option Text} {stage : Stage} {id owner : PartId}
      {below : List Frame} (waits : stage.Waits id) (suits : arena.Suits stage)
      (holds : arena.Holds slot id) (inner : Supported arena below slot.owner)
      (hangs : arena.Hangs id owner) : Supported arena (.expression slot name stage :: below) owner

/-- The frames fit the arena: the innermost frame starts an argument of a call, waits for an operand
in a vacant slot, or holds a part, and the frames below lead to it. -/
inductive Fit (arena : Arena) : List Frame → Prop where
  | argumentStart {call : PartId} {below : List Frame}
      (isCall : arena.kind? call = some (.path true)) (supported : Supported arena below call) :
      Fit arena (.argumentStart call :: below)
  | vacant {slot : Slot} {name : Option Text} {below : List Frame} (awaits : arena.Awaits slot)
      (supported : Supported arena below slot.owner) :
      Fit arena (.expression slot name .operand :: below)
  | held {slot : Slot} {name : Option Text} {stage : Stage} {id : PartId} {below : List Frame}
      (holding : stage.part? = some id) (suits : arena.Suits stage) (holds : arena.Holds slot id)
      (supported : Supported arena below slot.owner) :
      Fit arena (.expression slot name stage :: below)

/-- An arena is orderly when it is a tree under a list, and all its parts are grouped. -/
structure Orderly (arena : Arena) : Prop where
  tree : ∃ ids, IsTree arena ids
  top : arena.kind? root = some .list
  grouped : WellGrouped arena

/-- The frames fit an orderly arena, and nothing lacks a part but the owner of the slot that the
innermost frame is about to fill. -/
structure Sound (arena : Arena) (frames : List Frame) : Prop where
  orderly : arena.Orderly
  fit : arena.Fit frames
  lacking : ∀ slot, arena.Lacks slot →
    ∃ name below, frames = .expression slot name .operand :: below

/-! ### Frames that wait -/

/-- A slot holds what its owner refers to last. -/
theorem Holds.last (holds : arena.Holds slot id) : arena.RefersLast slot.owner id := by
  obtain ⟨front, refers, -⟩ := holds.refers
  exact ⟨front, refers⟩

/-- The owner of a slot that holds a part is a part. -/
theorem Holds.owner_lt (holds : arena.Holds slot id) : slot.owner < arena.next := by
  obtain ⟨front, refers, -⟩ := holds.refers
  exact lt_next_of_references refers

/-- A frame fills slots of the part that the frame below it holds, or of a newer one. -/
theorem Hangs.le (hangs : arena.Hangs id owner) : id ≤ owner := by
  rcases hangs with rfl | ⟨newer, -⟩
  · exact Nat.le_refl _
  · exact Nat.le_of_lt newer

/-- The owner of the innermost slot is at the right edge of the tree. -/
theorem Supported.edge (supported : Supported arena below owner) :
    Relation.ReflTransGen arena.RefersLast root owner := by
  induction supported with
  | bottom => exact .refl
  | above waits suits holds inner hangs induction =>
    rcases hangs with rfl | ⟨-, last, -⟩
    · exact induction.tail holds.last
    · exact (induction.tail holds.last).tail last

/-- Through whatever frames they lead, the outermost frame fills a slot of the top-level list. -/
theorem Supported.outermost (supported : Supported arena below slot.owner) (name : Option Text)
    (stage : Stage) : ∃ outermost outermostName outermostStage,
      (Frame.expression slot name stage :: below).getLast? =
        some (.expression outermost outermostName outermostStage) ∧ outermost.owner = root := by
  generalize same : slot.owner = owner at supported
  induction supported generalizing slot name stage with
  | bottom => exact ⟨slot, name, stage, rfl, same⟩
  | above waits suits holds inner hangs induction =>
    rw [List.getLast?_cons_cons]
    exact induction _ _ rfl

/-! ### New parts in the innermost slot -/

/-- A slot of another part than the host holds what it has held. -/
theorem Holds.takeOver (holds : arena.Holds slot id)
    (takes : TakesOver arena other host front old kind)
    (different : slot.owner ≠ host) : other.Holds slot id where
  refers := by
    rw [takes.others slot.owner holds.owner_lt different]
    exact holds.refers
  right := by
    rw [takes.kinds slot.owner holds.owner_lt]
    exact holds.right
  newer := holds.newer

/-- A part keeps its kind, so it suits the stage. -/
theorem Suits.takeOver (suits : arena.Suits stage)
    (takes : TakesOver arena other host front old kind) : other.Suits stage := by
  cases stage with
  | operand => exact suits.elim
  | path id => exact (takes.kinds id (lt_next_of_kind suits)).trans suits
  | arguments id => exact (takes.kinds id (lt_next_of_kind suits)).trans suits
  | finished id =>
    obtain ⟨kind, present, plain⟩ := suits
    exact ⟨kind, (takes.kinds id (lt_next_of_kind present)).trans present, plain⟩

/-- The frames below still lead to a part when a new part takes over there or in a newer part.

Proof: the slots of the frames are in older parts, and only the host changes. -/
theorem Supported.takeOver (supported : Supported arena below owner)
    (takes : TakesOver arena other host front old kind) (older : owner ≤ host) :
    Supported other below owner := by
  induction supported with
  | bottom => exact .bottom
  | @above slot name stage id owner below waits suits holds inner hangs induction =>
    have newer := holds.newer
    have hung := hangs.le
    -- The slot is in a part older than what it holds, which is no newer than the host.
    have outside : slot.owner ≠ host := by lia
    refine .above waits (suits.takeOver takes) (holds.takeOver takes outside)
      (induction (by lia)) ?_
    rcases hangs with rfl | ⟨newest, ⟨init, refers⟩, isList⟩
    · exact Or.inl rfl
    · refine Or.inr ⟨newest, ⟨init, ?_⟩, ?_⟩
      · rw [takes.others id (lt_next_of_references refers) (by lia), refers]
      · rw [takes.kinds owner (lt_next_of_kind isList), isList]

/-- The parts of an orderly arena refer to parts. -/
theorem Orderly.inside (orderly : arena.Orderly) :
    ∀ owner id, arena.Refers owner id → id < arena.next := by
  obtain ⟨ids, tree⟩ := orderly.tree
  rintro owner id ⟨references, present, listed⟩
  have member := tree.mem_iff.2 (lt_next_of_references present)
  exact tree.mem_iff.1 (tree.spans.closed owner member id ⟨references, present, listed⟩)

/-- Where frames lead to a slot that holds a list, they lead to the list as well, since the slot is
not in a list itself. -/
theorem Supported.toList (supported : Supported arena below slot.owner) (orderly : arena.Orderly)
    (holds : arena.Holds slot id) (isList : arena.kind? id = some .list) :
    Supported arena below id := by
  have unlisted : arena.kind? slot.owner ≠ some .list := by
    intro listed
    obtain ⟨front, refers⟩ := holds.last
    exact orderly.grouped _ _ _ listed refers id (by simp) isList
  have newer := holds.newer
  have last := holds.last
  generalize slot.owner = owner at supported unlisted newer last
  cases supported with
  | bottom => exact absurd orderly.top unlisted
  | above waits suits held inner hangs =>
    rcases hangs with rfl | ⟨-, -, listed⟩
    · exact .above waits suits held inner (Or.inr ⟨newer, last, isList⟩)
    · exact absurd listed unlisted

/-- What there is after a new part has taken the innermost slot: an orderly arena, the frames below
still lead to the slot, which holds the new part, and only the new part may lack another. -/
structure Filled (other : Arena) (slot : Slot) (below : List Frame) (id : PartId) (kind : PartKind)
    (references : List PartId) : Prop where
  orderly : other.Orderly
  supported : Supported other below slot.owner
  holds : other.Holds slot id
  kind : other.kind? id = some kind
  references : other.references? id = some references
  lacking : ∀ slot, other.Lacks slot → slot.owner = id

/-- Only the new part may lack another, behind what it refers to. -/
theorem Filled.lacks {vacant : Slot} (filled : Filled other slot below id kind references)
    (lacks : other.Lacks vacant) :
    kind.Lacks references.length ∧ vacant = ⟨id, references.length⟩ := by
  obtain ⟨owner, index⟩ := vacant
  obtain rfl : owner = id := filled.lacking _ lacks
  obtain ⟨found, refers, present, same, lacking, rfl⟩ := lacks
  obtain rfl := Option.some.inj (filled.kind.symm.trans present)
  obtain rfl := Option.some.inj (filled.references.symm.trans same)
  exact ⟨lacking, rfl⟩

/-- Only the new part may lack another, if nothing but its host lacked one before.

Proof: the host refers to no fewer parts than before, and now its last slot is filled. -/
theorem TakesOver.lacking (takes : TakesOver arena other host front old kind)
    (present : arena.kind? host = some hostKind)
    (right : ∀ isBinary, hostKind = .operation isBinary → front.length = 1)
    (before : ∀ vacant, arena.Lacks vacant → vacant.owner = host) :
    ∀ vacant, other.Lacks vacant → vacant.owner = arena.next := by
  rintro vacant ⟨vacantKind, references, found, refers, lacks, -⟩
  by_contra older
  have small : vacant.owner < arena.next := by
    have bound := lt_next_of_kind found
    rw [takes.next_eq] at bound
    lia
  rw [takes.kinds vacant.owner small] at found
  by_cases same : vacant.owner = host
  · rw [same] at found refers
    obtain rfl := Option.some.inj (present.symm.trans found)
    obtain rfl := Option.some.inj (takes.after.symm.trans refers)
    rw [List.length_append, List.length_singleton] at lacks
    cases hostKind with
    | literal => exact lacks
    | path isCall => exact lacks
    | list => exact Nat.succ_ne_zero _ lacks
    | operation isBinary =>
      have one := right isBinary rfl
      have two := lacks.2
      lia
  · rw [takes.others vacant.owner small same] at refers
    exact same (before ⟨vacant.owner, references.length⟩
      ⟨vacantKind, references, found, refers, lacks, rfl⟩)

/-- A new part takes the innermost slot, if the slot admits it and what it takes over is grouped. -/
theorem TakesOver.filled (takes : TakesOver arena other slot.owner front old kind)
    (orderly : arena.Orderly) (supported : Supported arena below slot.owner)
    (present : arena.kind? slot.owner = some hostKind)
    (hostGrouped : Grouped other hostKind (front ++ [arena.next]))
    (ownGrouped : Grouped other kind old)
    (bare : kind.isOperand = true → old = []) (held : slot.index = front.length)
    (right : ∀ isBinary, hostKind = .operation isBinary → front.length = 1)
    (lacking : ∀ other, arena.Lacks other → other.owner = slot.owner) :
    Filled other slot below arena.next kind old := by
  obtain ⟨ids, tree⟩ := orderly.tree
  have inside : slot.owner < arena.next := lt_next_of_kind present
  refine ⟨⟨?_, ?_, ?_⟩, ?_, ⟨⟨front, takes.after, held⟩, ?_, inside⟩, takes.kind, takes.taken, ?_⟩
  · exact tree.takeOver takes supported.edge bare
  · rw [takes.kinds root (lt_next_of_kind orderly.top), orderly.top]
  · exact takes.wellGrouped orderly.grouped orderly.inside present hostGrouped ownGrouped
  · exact supported.takeOver takes (Nat.le_refl _)
  · intro isBinary isOperation
    rw [takes.kinds slot.owner inside, present] at isOperation
    rw [held, right isBinary (Option.some.inj isOperation)]
  · exact takes.lacking present right lacking

/-- An operand takes the vacant slot. -/
theorem filled_vacant (orderly : arena.Orderly) (supported : Supported arena below slot.owner)
    (awaits : arena.Awaits slot) (lacking : ∀ other, arena.Lacks other → other.owner = slot.owner)
    (operand : part.kind.isOperand = true) (bare : part.references = []) :
    Filled (arena.inserted slot name part) slot below arena.next part.kind [] := by
  obtain ⟨hostKind, references, present, refers, waiting, vacant⟩ := awaits
  have takes : TakesOver arena (arena.inserted slot name part) slot.owner references [] part.kind :=
    takesOver_vacant present refers waiting vacant bare
  have admits : hostKind.Admits part.kind := by
    constructor
    · rintro - isList
      rw [isList] at operand
      cases operand
    · rintro isBinary - other isOperation
      rw [isOperation] at operand
      cases operand
  have hostGrouped := takes.grouped (orderly.grouped _ _ _ present refers) fun id member =>
    orderly.inside slot.owner id ⟨references, refers, member⟩
  have ownGrouped : Grouped (arena.inserted slot name part) part.kind [] := by
    cases part with
    | path path => exact fun _ => rfl
    | number literal => rfl
    | string literal => rfl
    | list items => cases operand
    | operation operator left right => cases operand
  refine takes.filled orderly supported present (hostGrouped.add waiting admits takes.kind)
    ownGrouped (fun _ => rfl) vacant ?_ lacking
  rintro isBinary rfl
  exact waiting.2

/-- A part that is made of what the slot holds takes the slot. -/
theorem filled_held (orderly : arena.Orderly) (supported : Supported arena below slot.owner)
    (holds : arena.Holds slot id) (complete : ∀ other, ¬arena.Lacks other)
    (admits : ∀ hostKind, arena.kind? slot.owner = some hostKind → hostKind.Admits part.kind)
    (own : part.references = [id]) (ownGrouped : Grouped arena part.kind [id])
    (regrouped : part.kind.isOperand = false) :
    Filled (arena.inserted slot name part) slot below arena.next part.kind [id] := by
  obtain ⟨front, refers, index⟩ := holds.refers
  obtain ⟨owner, found, -⟩ := Option.map_eq_some_iff.1 refers
  have present : arena.kind? slot.owner = some owner.kind := by rw [kind?, found, Option.map_some]
  have right : ∀ isBinary, owner.kind = .operation isBinary → front.length = 1 := by
    intro isBinary isOperation
    rw [← index]
    exact holds.right isBinary (isOperation ▸ present)
  have takes : TakesOver arena (arena.inserted slot name part) slot.owner front [id] part.kind :=
    takesOver_held present refers index right own
  have hostGrouped := takes.grouped (orderly.grouped _ _ _ present refers) fun id member =>
    orderly.inside slot.owner id ⟨_, refers, member⟩
  have inside : ∀ single ∈ [id], single < arena.next := by
    intro single member
    apply orderly.inside slot.owner
    exact ⟨_, refers, List.mem_append_right _ member⟩
  refine takes.filled orderly supported present
    (hostGrouped.replace right (admits _ present) takes.kind) (takes.grouped ownGrouped inside) ?_ index right ?_
  · intro operand
    rw [regrouped] at operand
    cases operand
  · intro vacant lacks
    exact absurd lacks (complete vacant)

/-! ### Paths that are changed -/

/-- The slots hold what they have held. -/
theorem Resembles.holds (resembles : Resembles arena other) (holds : arena.Holds slot id) :
    other.Holds slot id where
  refers := by
    rw [resembles.references]
    exact holds.refers
  right := by
    intro isBinary isOperation
    exact holds.right isBinary (resembles.kind_eq_before isOperation (by simp))
  newer := holds.newer

/-- The frames that wait do not see a change of a path. -/
theorem Resembles.supported (resembles : Resembles arena other)
    (supported : Supported arena below owner) : Supported other below owner := by
  have kept {id : PartId} {kind : PartKind} (present : arena.kind? id = some kind)
      (plain : kind ≠ .list) : ∃ kind, other.kind? id = some kind ∧ kind ≠ .list := by
    rcases resembles.kinds id with same | ⟨-, call⟩
    · exact ⟨kind, same.trans present, plain⟩
    · exact ⟨_, call, by simp⟩
  induction supported with
  | bottom => exact .bottom
  | above waits suits holds inner hangs induction =>
    refine .above waits ?_ (resembles.holds holds) induction ?_
    · cases waits with
      | arguments id => exact resembles.kind_eq suits (by simp)
      | finished id =>
        obtain ⟨kind, present, plain⟩ := suits
        exact kept present plain
    · rcases hangs with rfl | ⟨newest, ⟨init, refers⟩, isList⟩
      · exact Or.inl rfl
      · refine Or.inr ⟨newest, ⟨init, ?_⟩, resembles.kind_eq isList (by simp)⟩
        rw [resembles.references, refers]

/-- An arena stays orderly when a path is changed. -/
theorem Resembles.orderly (resembles : Resembles arena other) (orderly : arena.Orderly) :
    other.Orderly := by
  obtain ⟨ids, tree⟩ := orderly.tree
  exact ⟨⟨ids, resembles.isTree tree⟩, resembles.kind_eq orderly.top (by simp),
    resembles.wellGrouped orderly.grouped⟩

/-- No part comes to lack another when a path is changed. -/
theorem Resembles.lacks (resembles : Resembles arena other) (lacks : other.Lacks slot) :
    arena.Lacks slot := by
  obtain ⟨kind, references, present, refers, lacking, vacant⟩ := lacks
  rw [resembles.references] at refers
  refine ⟨kind, references, ?_, refers, lacking, vacant⟩
  apply resembles.kind_eq_before present
  rintro rfl
  exact lacking

/-! ### Every move keeps a machine sound -/

namespace Sound

/-- At the start, the innermost frame waits for the first top-level item. -/
theorem initial : Sound Arena.initial [.expression ⟨root, 0⟩ none .operand] := by
  have spans : Spans Arena.initial [root] (root :: ([] ++ [])) := .cons rfl .nil .nil
  refine ⟨⟨⟨[root], spans, .refl _, rfl⟩, rfl, ?_⟩, ?_, ?_⟩
  · intro id kind references present refers
    obtain rfl : id = root := Nat.lt_one_iff.1 (lt_next_of_kind present)
    cases present
    cases refers
    exact fun _ impossible => absurd impossible (List.not_mem_nil)
  · exact .vacant ⟨_, _, rfl, rfl, trivial, rfl⟩ .bottom
  · rintro ⟨owner, index⟩ ⟨kind, references, present, refers, -, vacant⟩
    obtain rfl : owner = root := Nat.lt_one_iff.1 (lt_next_of_kind present)
    cases refers
    obtain rfl : index = 0 := vacant
    exact ⟨none, [], rfl⟩

/-- A frame that waits for an operand fills a vacant slot. -/
theorem vacant (sound : Sound arena (.expression slot name .operand :: below)) :
    arena.Awaits slot ∧ Supported arena below slot.owner := by
  cases sound.fit with
  | vacant awaits supported => exact ⟨awaits, supported⟩
  | held holding => cases holding

/-- A frame that has come to a part holds it. -/
theorem held (sound : Sound arena (.expression slot name stage :: below))
    (holding : stage.part? = some id) :
    arena.Suits stage ∧ arena.Holds slot id ∧ Supported arena below slot.owner := by
  cases sound.fit with
  | vacant awaits supported => cases holding
  | held found suits holds supported =>
    obtain rfl := Option.some.inj (found.symm.trans holding)
    exact ⟨suits, holds, supported⟩

/-- Unless the innermost frame waits for an operand, nothing lacks a part. -/
theorem complete (sound : Sound arena frames)
    (filled : ∀ slot name below, frames ≠ .expression slot name .operand :: below) (slot : Slot) :
    ¬arena.Lacks slot := by
  intro lacks
  obtain ⟨name, below, top⟩ := sound.lacking slot lacks
  exact filled slot name below top

/-- Where a frame has come to a part, nothing lacks a part. -/
theorem complete_held (sound : Sound arena (.expression slot name stage :: below))
    (holding : stage.part? = some id) (slot : Slot) : ¬arena.Lacks slot := by
  apply sound.complete
  rintro slot name below top
  cases top
  cases holding

/-- A frame can come to another stage of the part that it holds. -/
theorem restage {next : Stage} (sound : Sound arena (.expression slot name stage :: below))
    (holding : stage.part? = some id) (stays : next.part? = some id) (suits : arena.Suits next) :
    Sound arena (.expression slot name next :: below) := by
  obtain ⟨-, holds, supported⟩ := sound.held holding
  exact ⟨sound.orderly, .held stays suits holds supported,
    fun slot lacks => absurd lacks (sound.complete_held holding slot)⟩

/-- An argument of a call begins. -/
theorem argument {call : PartId} (sound : Sound arena (.argumentStart call :: below)) :
    Sound arena (.expression ⟨call, arena.argumentCount call⟩ name .operand :: below) := by
  cases sound.fit with
  | argumentStart isCall supported =>
    obtain ⟨part, found, same⟩ := Option.map_eq_some_iff.1 isCall
    have refers : arena.references? call = some part.references := by
      rw [references?, found, Option.map_some]
    refine ⟨sound.orderly, .vacant ?_ supported, ?_⟩
    · exact ⟨_, _, isCall, refers, rfl, argumentCount_eq isCall refers⟩
    · intro slot lacks
      exact absurd lacks (sound.complete (by simp) slot)

/-- A call waits for an argument. -/
theorem push (sound : Sound arena (.expression slot name (.arguments id) :: below)) :
    Sound arena (.argumentStart id :: .expression slot name (.arguments id) :: below) := by
  obtain ⟨suits, holds, supported⟩ := sound.held rfl
  refine ⟨sound.orderly, .argumentStart suits ?_, ?_⟩
  · exact .above (.arguments id) suits holds supported (Or.inl rfl)
  · intro slot lacks
    exact absurd lacks (sound.complete_held rfl slot)

/-- A call is finished. -/
theorem callEnd (sound : Sound arena (.expression slot name (.arguments id) :: below)) :
    Sound arena (.expression slot name (.finished id) :: below) := by
  obtain ⟨isCall, -⟩ := sound.held rfl
  exact sound.restage rfl rfl ⟨_, isCall, by simp⟩

/-- An operand takes the vacant slot. -/
theorem operand (sound : Sound arena (.expression slot name .operand :: below))
    (operand : part.kind.isOperand = true) (bare : part.references = [])
    (holding : stage.part? = some arena.next)
    (suits : (arena.inserted slot name part).kind? arena.next = some part.kind →
      (arena.inserted slot name part).Suits stage) :
    Sound (arena.inserted slot name part) (.expression slot name stage :: below) := by
  obtain ⟨awaits, supported⟩ := sound.vacant
  have only : ∀ other, arena.Lacks other → other.owner = slot.owner := by
    intro other lacks
    obtain ⟨name, below, top⟩ := sound.lacking other lacks
    cases top
    rfl
  have filled : Filled (arena.inserted slot name part) slot below arena.next part.kind [] :=
    filled_vacant sound.orderly supported awaits only operand bare
  refine ⟨filled.orderly, .held holding (suits filled.kind) filled.holds filled.supported, ?_⟩
  intro vacant lacks
  obtain ⟨lacking, -⟩ := filled.lacks lacks
  cases part with
  | path path => exact lacking.elim
  | number literal => exact lacking.elim
  | string literal => exact lacking.elim
  | list items => cases operand
  | operation operator left right => cases operand

/-- A path is changed, and its frame comes to another stage. -/
theorem changePath {next : Stage} (sound : Sound arena (.expression slot name (.path id) :: below))
    (resembles : Resembles arena other) (stays : next.part? = some id) (suits : other.Suits next) :
    Sound other (.expression slot name next :: below) := by
  obtain ⟨-, holds, supported⟩ := sound.held rfl
  refine ⟨resembles.orderly sound.orderly, .held stays suits (resembles.holds holds)
    (resembles.supported supported), ?_⟩
  intro slot lacks
  exact absurd (resembles.lacks lacks) (sound.complete_held rfl slot)

/-- A path becomes a call. -/
theorem call {receiver : List Segment} {formatter : Text}
    (sound : Sound arena (.expression slot name (.path id) :: below)) :
    Sound (arena.modifyPath id fun path =>
        { path with segments := receiver, formatter := some formatter })
      (.expression slot name (.arguments id) :: below) := by
  obtain ⟨isPath, -⟩ := sound.held rfl
  exact sound.changePath (resembles_modifyPath (fun _ => rfl) (fun _ _ => rfl)) rfl
    (kind?_modifyPath isPath fun _ _ => rfl)

/-- The next item of a list takes the slot behind a finished item. -/
theorem nextItem (sound : Sound arena (.expression slot name (.finished id) :: below))
    (listed : arena.isList slot.owner = true) :
    Sound arena (.expression ⟨slot.owner, slot.index + 1⟩ none .operand :: below) := by
  obtain ⟨-, holds, supported⟩ := sound.held rfl
  obtain ⟨front, refers, index⟩ := holds.refers
  refine ⟨sound.orderly, .vacant ⟨_, _, isList_iff.1 listed, refers, trivial, ?_⟩ supported, ?_⟩
  · rw [index, List.length_append, List.length_singleton]
  · intro slot lacks
    exact absurd lacks (sound.complete_held rfl slot)

/-- A finished operand becomes the first item of a list that takes its slot. -/
theorem promote (sound : Sound arena (.expression slot name (.finished id) :: below))
    (unlisted : arena.isList slot.owner = false) :
    Sound (arena.inserted slot none (.list [id]))
      (.expression ⟨arena.next, 1⟩ none .operand :: below) := by
  obtain ⟨⟨kind, present, plain⟩, holds, supported⟩ := sound.held rfl
  have filled :
      Filled (arena.inserted slot none (.list [id])) slot below arena.next .list [id] := by
    refine filled_held sound.orderly supported holds (sound.complete_held rfl) ?_ rfl ?_ rfl
    · rintro hostKind found
      constructor
      · rintro rfl
        rw [isList_iff.2 found] at unlisted
        cases unlisted
      · rintro isBinary - other isOperation
        cases isOperation
    · intro item member isList
      obtain rfl := List.mem_singleton.1 member
      exact plain (Option.some.inj (present.symm.trans isList))
  refine ⟨filled.orderly, .vacant ⟨_, _, filled.kind, filled.references, trivial, rfl⟩
    (filled.supported.toList filled.orderly filled.holds filled.kind), ?_⟩
  intro vacant lacks
  cases (filled.lacks lacks).1

/-- An operator takes the slot of its left side, which is no right side of another. -/
theorem applied (sound : Sound arena (.expression slot name (.finished id) :: below))
    (operator : Operator) (free : arena.isOperation slot.owner = false) :
    Filled (arena.inserted slot none (.operation operator id none)) slot below arena.next
      (.operation operator.isBinary) [id] := by
  obtain ⟨⟨kind, present, plain⟩, holds, supported⟩ := sound.held rfl
  refine filled_held sound.orderly supported holds (sound.complete_held rfl) ?_ rfl ?_ rfl
  · rintro hostKind found
    constructor
    · rintro - isList
      cases isList
    · rintro isBinary rfl
      rw [isOperation_iff.2 ⟨isBinary, found⟩] at free
      cases free
  · refine ⟨id, none, rfl, ?_, ?_⟩
    · intro isList
      exact plain (Option.some.inj (present.symm.trans isList))
    · rintro side ⟨⟩

/-- The mark that inverts lacks nothing more. -/
theorem unary {operator : Operator}
    (sound : Sound arena (.expression slot name (.finished id) :: below))
    (free : arena.isOperation slot.owner = false) (isUnary : operator.isBinary = false) :
    Sound (arena.inserted slot none (.operation operator id none))
      (.expression slot name (.finished arena.next) :: below) := by
  have filled := sound.applied operator free
  refine ⟨filled.orderly, .held rfl ⟨_, filled.kind, by simp⟩ filled.holds filled.supported, ?_⟩
  intro vacant lacks
  obtain ⟨lacking, -⟩ := (filled.lacks lacks).1
  rw [isUnary] at lacking
  cases lacking

/-- An operator between two operands waits for its right side. -/
theorem binary {operator : Operator}
    (sound : Sound arena (.expression slot name (.finished id) :: below))
    (free : arena.isOperation slot.owner = false) (isBinary : operator.isBinary = true) :
    Sound (arena.inserted slot none (.operation operator id none))
      (.expression ⟨arena.next, 1⟩ none .operand ::
        .expression slot name (.finished arena.next) :: below) := by
  have filled := sound.applied operator free
  refine ⟨filled.orderly, .vacant ⟨_, _, filled.kind, filled.references, ⟨isBinary, rfl⟩, rfl⟩
    (.above (.finished _) ⟨_, filled.kind, by simp⟩ filled.holds filled.supported (Or.inl rfl)), ?_⟩
  intro vacant lacks
  obtain ⟨-, rfl⟩ := filled.lacks lacks
  exact ⟨none, _, rfl⟩

/-- A finished frame is dropped, unless it fills a slot of the top-level list. -/
theorem drop (sound : Sound arena (.expression slot name (.finished id) :: below))
    (inner : slot.owner ≠ root ∨ arena.isOperation slot.owner = true) : Sound arena below := by
  obtain ⟨-, -, supported⟩ := sound.held rfl
  have notRoot : slot.owner ≠ root := by
    rcases inner with different | isOperation
    · exact different
    · intro same
      obtain ⟨isBinary, kind⟩ := isOperation_iff.1 isOperation
      rw [same, sound.orderly.top] at kind
      cases kind
  generalize same : slot.owner = owner at supported
  cases supported with
  | bottom => exact absurd same notRoot
  | above waits suits holds inner hangs =>
    refine ⟨sound.orderly, .held waits.holding suits holds inner, ?_⟩
    intro slot lacks
    exact absurd lacks (sound.complete_held rfl slot)

end Sound

end Arena

namespace Machine

open Arena

variable {machine next : Machine}

/-- An arena where a path has been finished resembles the one before, and a path stays a path. -/
theorem finishPath_resembles {id : PartId} (finishes : machine.finishPath id = .ok next) :
    next.frames = machine.frames ∧ Resembles machine.arena next.arena ∧
      ∀ isCall, machine.arena.kind? id = some (.path isCall) →
        next.arena.kind? id = some (.path isCall) := by
  simp only [finishPath] at finishes
  split at finishes
  · cases finishes
    exact ⟨rfl, ⟨rfl, fun _ => rfl, fun _ => Or.inl rfl⟩, fun _ kind => kind⟩
  · split at finishes
    · cases finishes
    · rename_i segments compiled
      cases finishes
      refine ⟨rfl, resembles_modifyPath (fun _ => rfl) (fun _ named => named), ?_⟩
      intro isCall present
      exact kind?_modifyPath present fun _ same => same

/-- Every move keeps a machine sound. -/
theorem Move.sound (move : Move machine next) (sound : Sound machine.arena machine.frames) :
    Sound next.arena next.frames := by
  cases move with
  | pass behind => exact sound
  | argument top behind =>
    rw [top] at sound
    simp only [replaceTop, advance, top, List.tail_cons]
    exact sound.argument
  | @literal slot name below part tail top isLiteral behind =>
    rw [top] at sound
    simp only [replaceTop, advance, insert, top, List.tail_cons]
    cases part with
    | number literal => exact sound.operand rfl rfl rfl fun kind => ⟨_, kind, by simp [Part.kind]⟩
    | string literal => exact sound.operand rfl rfl rfl fun kind => ⟨_, kind, by simp [Part.kind]⟩
    | path path => exact isLiteral.elim
    | list items => exact isLiteral.elim
    | operation operator left right => exact isLiteral.elim
  | path top =>
    rw [top] at sound
    simp only [replaceTop, insert, top, List.tail_cons]
    exact sound.operand rfl rfl rfl fun kind => kind
  | pathCharacter top behind =>
    rw [top] at sound
    obtain ⟨isPath, -⟩ := sound.held rfl
    simp only [advance, top]
    exact sound.changePath (resembles_modifyPath (fun _ => rfl) (fun _ named => named)) rfl
      (kind?_modifyPath isPath fun _ same => same)
  | pathEnd top finishes =>
    obtain ⟨frames, resembles, keeps⟩ := finishPath_resembles finishes
    rw [top] at sound
    obtain ⟨isPath, -⟩ := sound.held rfl
    simp only [replaceTop, frames, top, List.tail_cons]
    exact sound.changePath resembles rfl ⟨_, keeps false isPath, by simp⟩
  | call top behind =>
    rw [top] at sound
    simp only [opened, replaceTop, advance, top, List.tail_cons]
    exact sound.call
  | callWith top behind =>
    rw [top] at sound
    simp only [opened, push, replaceTop, advance, top, List.tail_cons]
    exact sound.call.push
  | nextArgument top behind =>
    rw [top] at sound
    simp only [push, advance, top]
    exact sound.push
  | callEnd top behind =>
    rw [top] at sound
    simp only [replaceTop, advance, top, List.tail_cons]
    exact sound.callEnd
  | nextItem top listed behind =>
    rw [top] at sound
    simp only [replaceTop, advance, top, List.tail_cons]
    exact sound.nextItem listed
  | promote top unlisted behind =>
    rw [top] at sound
    simp only [replaceTop, advance, insert, top, List.tail_cons]
    exact sound.promote unlisted
  | drop top inner =>
    rw [top] at sound
    simp only [pop, top, List.tail_cons]
    exact sound.drop inner
  | unary top free isUnary behind =>
    rw [top] at sound
    simp only [applied, replaceTop, advance, insert, top, List.tail_cons]
    exact sound.unary free isUnary
  | binary top free isBinary behind =>
    rw [top] at sound
    simp only [applied, push, replaceTop, advance, insert, top, List.tail_cons]
    exact sound.binary free isBinary

/-- Every state that the machine reaches is sound. -/
theorem Reached.sound {text : Text} (reached : Reached text machine) :
    Sound machine.arena machine.frames :=
  reached.induction .initial fun _ _ sound move => move.sound sound

end Machine

end Bracework

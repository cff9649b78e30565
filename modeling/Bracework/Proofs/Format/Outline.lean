import Mathlib
import Bracework.Format.Drawing
import Bracework.Proofs.Assembly.Scoping
import Bracework.Proofs.Lexer.Readings
import Bracework.Proofs.Text.Trimmed

/-!
# The lines of a drawing

A drawing is its header and one row for each node, in the order of a walk. A row is one line as
long as no line feed stands in what is shown of the label. Then the lines of the drawing are the
header and the rows, and the tree can be read back from them: two characters in front of a line
stand for each block around the node, and what stands deeper below a line belongs to its node.

Labels are meant to be one line each, and the label of content is quoted so that it is. The label
of an expression is its written form, in which a string literal stands as it is. A line feed in a
literal breaks the line of its node, and the drawing has a line too many.
-/

namespace Bracework

/-! ### Lines -/

namespace Text

variable {separator : Char} {part rest : Text} {lines : List Text}

/-- Lines, each with a line feed behind it. -/
def ofLines (lines : List Text) : Text := lines.flatMap fun line => line ++ ['\n']

/-- The first line stands in front of the others, with a line feed in between. -/
theorem ofLines_cons (line : Text) : ofLines (line :: lines) = line ++ '\n' :: ofLines lines := by
  rw [ofLines, List.flatMap_cons, List.append_assoc]
  rfl

/-- Lines end with a line feed. -/
theorem ofLines_ends (line : Text) (lines : List Text) :
    ∃ text, ofLines (line :: lines) = text ++ ['\n'] := by
  induction lines generalizing line with
  | nil => exact ⟨line, by rw [ofLines, List.flatMap_singleton]⟩
  | cons next rest induction =>
    obtain ⟨text, ends⟩ := induction next
    exact ⟨line ++ '\n' :: text, by rw [ofLines_cons, ends, List.append_assoc]; rfl⟩

/-- A part without the separator is split off at the separator behind it. -/
theorem splitOn_part (bare : separator ∉ part) :
    splitOn separator (part ++ separator :: rest) = part :: splitOn separator rest := by
  induction part with
  | nil => simp [splitOn]
  | cons first others induction =>
    have differs : first ≠ separator := Ne.symm (List.ne_of_not_mem_cons bare)
    rw [List.cons_append, splitOn, if_neg differs, induction (List.not_mem_of_not_mem_cons bare)]

/-- Lines without a line feed in them are split again into what they were, with nothing behind the
last line feed. -/
theorem splitOn_ofLines (bare : ∀ line ∈ lines, '\n' ∉ line) :
    splitOn '\n' (ofLines lines) = lines ++ [[]] := by
  induction lines with
  | nil => rfl
  | cons line rest induction =>
    obtain ⟨here, later⟩ := List.forall_mem_cons.1 bare
    rw [ofLines_cons, splitOn_part here, induction later]
    rfl

/-- A line adds the line feed behind it and those inside it. -/
theorem count_ofLines_cons (line : Text) : (ofLines (line :: lines)).count '\n' =
    line.count '\n' + 1 + (ofLines lines).count '\n' := by
  rw [ofLines_cons, List.count_append, List.count_cons_self]
  omega

/-- There are no fewer line feeds than lines. -/
theorem length_le_count (lines : List Text) : lines.length ≤ (ofLines lines).count '\n' := by
  induction lines with
  | nil => exact Nat.zero_le _
  | cons line rest induction =>
    rw [count_ofLines_cons, List.length_cons]
    omega

/-- There are as many line feeds as lines exactly when no line has one inside. -/
theorem count_ofLines_iff :
    (ofLines lines).count '\n' = lines.length ↔ ∀ line ∈ lines, '\n' ∉ line := by
  induction lines with
  | nil => simp [ofLines]
  | cons line rest induction =>
    have least := length_le_count rest
    have bare : '\n' ∉ line ↔ line.count '\n' = 0 := List.count_eq_zero.symm
    rw [count_ofLines_cons, List.length_cons, List.forall_mem_cons, bare]
    constructor
    · intro same
      exact ⟨by omega, induction.1 (by omega)⟩
    · rintro ⟨here, later⟩
      have behind := induction.2 later
      omega

end Text

/-! ### Trees -/

namespace Node

variable {P : List Node → Prop}

mutual

/-- What holds of all lists of nodes holds of the nodes that a node owns. -/
theorem induction_below (nil : P [])
    (cons : ∀ first rest, P first.children → P rest → P (first :: rest)) (node : Node) :
    P node.children := by
  cases node with
  | scope kind condition scopeId children => exact forest_induction nil cons children
  | declaration name scopeId children => exact forest_induction nil cons children
  | custom tag value scopeId children => exact forest_induction nil cons children
  | _ => exact nil

/-- Induction on nodes side by side: on the nodes that the first one owns and on those behind
it. -/
@[elab_as_elim]
theorem forest_induction (nil : P [])
    (cons : ∀ first rest, P first.children → P rest → P (first :: rest)) (nodes : List Node) :
    P nodes := by
  cases nodes with
  | nil => exact nil
  | cons first rest =>
    exact cons first rest (induction_below nil cons first) (forest_induction nil cons rest)

end

end Node

/-- A tree of which only what is shown of each node is left. -/
inductive Outline where
  | item (shown : Text) (below : List Outline)

namespace Drawing

/-- What a line shows of a node: its sign and its label. -/
def shown (node : Node) : Text := node.sign ++ " " ++ shortened node.label

mutual

/-- The outlines of the nodes that a node owns. -/
def outlinesBelow : Node → List Outline
  | .scope _ _ _ children => outlines children
  | .declaration _ _ children => outlines children
  | .custom _ _ _ children => outlines children
  | .content _ => []
  | .print _ _ => []
  | .boundName _ _ => []
  | .binding _ _ _ _ => []
  | .unbind _ _ => []
  | .rendering _ _ => []
  | .edit _ => []

/-- The outlines of nodes side by side. -/
def outlines : List Node → List Outline
  | [] => []
  | first :: rest => .item (shown first) (outlinesBelow first) :: outlines rest

end

/-- A node in its place in a drawing. -/
structure Entry where
  /-- For each block around the node, the outermost first, whether it is the last one beside
  others. -/
  around : List Bool
  /-- Whether the node is the last one of its block. -/
  last : Bool
  node : Node

mutual

/-- The entries of the nodes that a node owns, and of all nodes below these. -/
def entriesBelow (around : List Bool) : Node → List Entry
  | .scope _ _ _ children => entries around children
  | .declaration _ _ children => entries around children
  | .custom _ _ _ children => entries around children
  | .content _ => []
  | .print _ _ => []
  | .boundName _ _ => []
  | .binding _ _ _ _ => []
  | .unbind _ _ => []
  | .rendering _ _ => []
  | .edit _ => []

/-- The entries of the nodes of one block and of all nodes below them, each before its children. -/
def entries (around : List Bool) : List Node → List Entry
  | [] => []
  | first :: rest =>
    ⟨around, rest.isEmpty, first⟩ ::
      (entriesBelow (around ++ [rest.isEmpty]) first ++ entries around rest)

end

variable {around : List Bool} {node first : Node} {rest : List Node}

@[simp] theorem below_eq (lead : Text) (node : Node) : below lead node = rows lead node.children := by
  cases node <;> rfl

@[simp] theorem outlinesBelow_eq (node : Node) : outlinesBelow node = outlines node.children := by
  cases node <;> rfl

@[simp] theorem entriesBelow_eq (around : List Bool) (node : Node) :
    entriesBelow around node = entries around node.children := by
  cases node <;> rfl

/-! ### Rows -/

namespace Entry

/-- The two characters for a block around a node. -/
def mark (last : Bool) : Text := if last then "  " else "│ "

/-- The characters for all blocks around the node. -/
def lead (entry : Entry) : Text := entry.around.flatMap mark

/-- The line of a node, without its line feed. -/
def line (entry : Entry) : Text :=
  entry.lead ++ (if entry.last then "└─ " else "├─ ") ++ shown entry.node

/-- How many blocks are around the node. -/
def depth (entry : Entry) : Nat := entry.around.length

/-- Two characters stand in front of the line for each block around the node. -/
theorem lead_length (entry : Entry) : entry.lead.length = 2 * entry.depth := by
  obtain ⟨around, last, node⟩ := entry
  simp only [lead, depth]
  induction around with
  | nil => rfl
  | cons level rest induction =>
    rw [List.flatMap_cons, List.length_append, induction, List.length_cons]
    cases level <;> simp [mark] <;> omega

end Entry

/-- The entries of nodes are those of a walk through them. -/
theorem entries_nodes (around : List Bool) (nodes : List Node) :
    (entries around nodes).map Entry.node = Node.walkAll nodes := by
  induction nodes using Node.forest_induction generalizing around with
  | nil => rfl
  | cons first rest below behind =>
    rw [entries, Node.walkAll, Node.walk_eq, List.map_cons, List.map_append, entriesBelow_eq, below,
      behind]
    rfl

/-- The rows of nodes are the lines of their entries. -/
theorem rows_eq (around : List Bool) (nodes : List Node) :
    rows (around.flatMap Entry.mark) nodes = Text.ofLines ((entries around nodes).map Entry.line) := by
  induction nodes using Node.forest_induction generalizing around with
  | nil => rfl
  | cons first rest below behind =>
    have deeper : Drawing.deeper (around.flatMap Entry.mark) rest.isEmpty =
        (around ++ [rest.isEmpty]).flatMap Entry.mark := by
      rw [List.flatMap_append, List.flatMap_singleton, Drawing.deeper, Entry.mark]
      cases rest.isEmpty <;> rfl
    rw [rows, entries, below_eq, entriesBelow_eq, deeper, below, behind, List.map_cons,
      List.map_append, Text.ofLines, Text.ofLines, Text.ofLines, List.flatMap_cons,
      List.flatMap_append]
    simp only [row, Entry.line, Entry.lead, shown, List.append_assoc]
    rfl

end Drawing

/-! ### Reading a drawing -/

namespace Outline

/-- How many blocks are around the node of a line, by the pairs of characters in front, and what the
line shows of the node behind the three characters of its connector. -/
def splitLine : Text → Nat × Text
  | '│' :: ' ' :: rest => ((splitLine rest).1 + 1, (splitLine rest).2)
  | ' ' :: ' ' :: rest => ((splitLine rest).1 + 1, (splitLine rest).2)
  | rest => (0, rest.drop 3)

/-- The outlines of nodes given by their depths and what is shown of them. What stands deeper behind
a node belongs to it, up to the next node that does not. -/
def gather : List (Nat × Text) → List (Nat × Outline)
  | [] => []
  | (depth, shown) :: rest =>
    let below := (gather rest).takeWhile fun other => decide (depth < other.1)
    let behind := (gather rest).dropWhile fun other => decide (depth < other.1)
    (depth, .item shown (below.map Prod.snd)) :: behind

/-- The outlines that the lines of nodes show. -/
def ofLines (lines : List Text) : List Outline := (gather (lines.map splitLine)).map Prod.snd

/-- The outlines that a drawing shows, read from what stands between its header and its last line
feed. -/
def ofDrawing (drawing : Text) : List Outline :=
  ofLines (Text.splitOn '\n' drawing).tail.dropLast

/-- The first of some items, if there is one, stands no deeper than a depth. -/
def Shallow {α : Type} (depth : Nat) (items : List (Nat × α)) : Prop :=
  ∀ item ∈ items.head?, item.1 ≤ depth

/-- The first outline stands where the first node does. -/
theorem Shallow.gather {depth : Nat} {places : List (Nat × Text)} (shallow : Shallow depth places) :
    Shallow depth (gather places) := by
  cases places with
  | nil => exact fun item first => absurd first (by simp [Outline.gather])
  | cons place rest =>
    intro item first
    obtain rfl := Option.some.inj first
    exact shallow place rfl

/-- What has been gathered one deeper belongs to the node before it, and what stands no deeper than
the node stands beside it. -/
theorem gather_cons {depth : Nat} {shown : Text} {below beside : List (Nat × Text)}
    {owned : List Outline}
    (inner : gather (below ++ beside) = owned.map (depth + 1, ·) ++ gather beside)
    (shallow : Shallow depth beside) :
    gather ((depth, shown) :: (below ++ beside)) = (depth, .item shown owned) :: gather beside := by
  have deeper : ∀ item ∈ owned.map (depth + 1, ·), decide (depth < item.1) = true := by simp
  have stops : ∀ item ∈ (gather beside).head?, decide (depth < item.1) = false := fun item first =>
    decide_eq_false (Nat.not_lt.2 (shallow.gather item first))
  obtain ⟨taken, dropped⟩ := Text.span_append deeper stops
  rw [gather, inner, taken, dropped, List.map_map]
  simp [Function.comp_def]

end Outline

namespace Drawing

/-- What is read from the line of an entry. -/
def Entry.place (entry : Entry) : Nat × Text := (entry.depth, shown entry.node)

/-- A line is split into the depth of its entry and what is shown of the node. -/
theorem Entry.splitLine_line (entry : Entry) : Outline.splitLine entry.line = entry.place := by
  obtain ⟨around, last, node⟩ := entry
  have connector (rest : Text) :
      Outline.splitLine ((if last then "└─ " else "├─ ") ++ rest) = (0, rest) := by
    cases last <;> simp [Outline.splitLine]
  have marked (level : Bool) (rest : Text) : Outline.splitLine (mark level ++ rest) =
      ((Outline.splitLine rest).1 + 1, (Outline.splitLine rest).2) := by
    cases level <;> simp [mark, Outline.splitLine]
  simp only [line, lead, place, depth]
  induction around with
  | nil => exact connector (shown node)
  | cons level rest induction =>
    rw [List.flatMap_cons, List.append_assoc, List.append_assoc, marked, ← List.append_assoc,
      induction]
    rfl

/-- The outlines gathered from the entries of nodes are theirs, and those of what follows stand
beside them. -/
theorem gather_entries (around : List Bool) (nodes : List Node) (behind : List (Nat × Text))
    (shallow : Outline.Shallow around.length behind) :
    Outline.gather ((entries around nodes).map Entry.place ++ behind) =
      (outlines nodes).map (around.length, ·) ++ Outline.gather behind := by
  induction nodes using Node.forest_induction generalizing around behind with
  | nil => rfl
  | cons first rest children siblings =>
    let beside := (entries around rest).map Entry.place ++ behind
    have shallowBeside : Outline.Shallow around.length beside := by
      cases rest with
      | nil => exact shallow
      | cons next others =>
        intro item head
        obtain rfl := Option.some.inj head
        exact Nat.le_refl _
    have deeper : (around ++ [rest.isEmpty]).length = around.length + 1 := List.length_append
    have below := children (around ++ [rest.isEmpty]) beside fun item head =>
      deeper ▸ Nat.le_succ_of_le (shallowBeside item head)
    rw [deeper] at below
    have gathered : Outline.gather beside =
        (outlines rest).map (around.length, ·) ++ Outline.gather behind :=
      siblings around behind shallow
    rw [entries, List.map_cons, List.cons_append, entriesBelow_eq, List.map_append,
      List.append_assoc, outlines, outlinesBelow_eq, List.map_cons, List.cons_append, ← gathered]
    exact Outline.gather_cons below shallowBeside

/-! ### Documents -/

/-- The first line of a drawing. -/
def header : Text := "⧉ document"

/-- The lines of a drawing: the header, and a line for each node. -/
def lines (document : Document) : List Text :=
  header :: (entries [] document.children).map Entry.line

/-- A line feed stands in a line of a node exactly when it stands in what is shown of its label. -/
theorem Entry.mem_line_iff (entry : Entry) : '\n' ∈ entry.line ↔ '\n' ∈ shortened entry.node.label := by
  have lead : '\n' ∉ entry.lead := by
    intro member
    obtain ⟨level, -, inside⟩ := List.mem_flatMap.1 member
    cases level <;> simp [mark] at inside
  have connector : '\n' ∉ (if entry.last then "└─ " else "├─ ").toList := by
    cases entry.last <;> decide
  have sign : '\n' ∉ entry.node.sign := by
    cases entry.node <;> simp [Node.sign]
  simp [line, shown, lead, connector, sign]

/-- A drawing is its lines, each with a line feed behind it. -/
theorem ofDocument_eq (document : Document) : ofDocument document = Text.ofLines (lines document) := by
  have begins : ("⧉ document\n" : Text) = header ++ ['\n'] := by decide
  have behind := rows_eq [] document.children
  rw [List.flatMap_nil] at behind
  unfold ofDocument lines
  rw [begins, behind, Text.ofLines_cons, List.append_assoc, List.singleton_append]

/-- No line of a drawing has a line feed inside exactly when none is shown of a label. -/
theorem lines_bare_iff (document : Document) : (∀ line ∈ lines document, '\n' ∉ line) ↔
    ∀ node ∈ document.allNodes, '\n' ∉ shortened node.label := by
  have header : '\n' ∉ header := by decide
  have nodes : document.allNodes = (entries [] document.children).map Entry.node :=
    (entries_nodes [] document.children).symm
  rw [lines, List.forall_mem_cons, nodes, List.forall_mem_map, List.forall_mem_map]
  exact ⟨fun bare entry member => mt entry.mem_line_iff.2 (bare.2 entry member),
    fun bare => ⟨header, fun entry member => mt entry.mem_line_iff.1 (bare entry member)⟩⟩

/-- The lines of a drawing below its header are read back as the tree of the document. -/
theorem ofLines_entries (nodes : List Node) :
    Outline.ofLines ((entries [] nodes).map Entry.line) = outlines nodes := by
  have places : ((entries [] nodes).map Entry.line).map Outline.splitLine =
      (entries [] nodes).map Entry.place := by
    rw [List.map_map]
    exact List.map_congr_left fun entry _ => entry.splitLine_line
  have gathered := gather_entries [] nodes [] (fun item first => by cases first)
  rw [List.append_nil] at gathered
  rw [Outline.ofLines, places, gathered]
  simp [Outline.gather, Function.comp_def]

/-- A document is drawn in lines, in an order and with marks that tell the tree. -/
structure InLines (document : Document) : Prop where
  /-- There is one line for each node, in the order of a walk, behind the header. -/
  nodes : (entries [] document.children).map Entry.node = document.allNodes
  drawn : ofDocument document = Text.ofLines (lines document)
  ends : ∃ text, ofDocument document = text ++ ['\n']
  /-- Two characters for each block around the node come first in its line, then a connector, then
  the sign of the node and its label, which is cut off behind forty characters. -/
  line : ∀ entry ∈ entries [] document.children, entry.lead.length = 2 * entry.depth ∧
    entry.line = entry.lead ++ (if entry.last then "└─ " else "├─ ") ++ entry.node.sign ++ " " ++
      shortened entry.node.label

/-- A document is drawn in lines, one for each node and one for the header. These are all the lines
of the drawing exactly when no line feed is shown of a label, and then the drawing is split into
them, and the tree of what is shown of the nodes can be read back from them.

Proof: the rows are the lines of the entries, by induction on the nodes side by side and below. What
is read from a line is the depth of its entry, and gathering puts deeper ones below shallower
ones. -/
theorem ofDocument_lines (document : Document) : InLines document ∧
    ((ofDocument document).count '\n' = 1 + document.allNodes.length ↔
      ∀ node ∈ document.allNodes, '\n' ∉ shortened node.label) ∧
    ((∀ node ∈ document.allNodes, '\n' ∉ shortened node.label) →
      Text.splitOn '\n' (ofDocument document) = lines document ++ [[]] ∧
      Outline.ofDrawing (ofDocument document) = outlines document.children) := by
  have nodes := entries_nodes [] document.children
  have size : (lines document).length = 1 + document.allNodes.length := by
    rw [lines, List.length_cons, List.length_map, Document.allNodes, ← nodes, List.length_map,
      Nat.add_comm]
  refine ⟨⟨nodes, ofDocument_eq document, ?_, ?_⟩, ?_, ?_⟩
  · rw [ofDocument_eq]
    exact Text.ofLines_ends header _
  · intro entry _
    exact ⟨entry.lead_length, by simp only [Entry.line, shown, List.append_assoc]⟩
  · rw [ofDocument_eq, ← size, Text.count_ofLines_iff, lines_bare_iff]
  · intro bare
    have split : Text.splitOn '\n' (ofDocument document) = lines document ++ [[]] := by
      rw [ofDocument_eq]
      exact Text.splitOn_ofLines ((lines_bare_iff document).2 bare)
    refine ⟨split, ?_⟩
    rw [Outline.ofDrawing, split, lines, List.cons_append, List.tail_cons, List.dropLast_concat,
      ofLines_entries]

/-- Content and a block beside each other, with three nodes in the block. The line feed in the
content is not shown. -/
theorem ofDocument_lines_nested :
    let path : Expression := .path [⟨"people", .data⟩]
    let document : Document := ⟨[.content "Hi\n", .scope .each (some path) 1
      [.boundName "p" 1, .print path true, .unbind "p" 1]]⟩
    (∀ node ∈ document.allNodes, '\n' ∉ shortened node.label) ∧
      (ofDocument document).count '\n' = 1 + document.allNodes.length ∧
      Outline.ofDrawing (ofDocument document) = outlines document.children := by
  intro path document
  have bare : ∀ node ∈ document.allNodes, '\n' ∉ shortened node.label := by decide +kernel
  obtain ⟨-, counted, split⟩ := ofDocument_lines document
  exact ⟨bare, counted.2 bare, (split bare).2⟩

/-- A line feed in a string literal breaks the line of its node: the drawing of a single node has
three lines. -/
theorem ofDocument_lines_literal : ¬ ∀ template document diagnostics,
    Template.parse Options.standard template = .ok ⟨some document, diagnostics⟩ →
      (ofDocument document).count '\n' = 1 + document.allNodes.length := by
  intro claimed
  let literal : Expression := .string ⟨"a\nb", '"'⟩
  have parsed : Template.parse Options.standard (tagSource 2 "\"a\nb\"") =
      .ok ⟨some ⟨[.print literal true]⟩, []⟩ := by
    cbv
  have drawn : (ofDocument ⟨[.print literal true]⟩).count '\n' = 3 := by decide
  have same := claimed _ _ _ parsed
  rw [drawn] at same
  cases same

end Drawing

end Bracework

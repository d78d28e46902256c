import ScriptTree.Comment
import ScriptTree.Node.Type

/-! # Nodes — syntax trees

    A node is a shape over nodes, with its span and the comments attached to
    it.  Trees are finite, so a part is smaller than its node; this is what
    every recursion over a tree, and every induction, rests on. -/

namespace ScriptTree

/-- A syntax tree. -/
structure Node where
  shape : Shape Node
  span : Span
  leadingComments : List Comment
  trailingComments : List Comment
deriving Inhabited

/-- A part is smaller than the shape it is part of. -/
theorem Shape.sizeOf_part {α : Type} [SizeOf α] {s : Shape α} {x : α} (h : x ∈ s.parts) :
    sizeOf x < sizeOf s := by
  have inList : ∀ {xs : List α}, x ∈ xs → sizeOf x < sizeOf xs := List.sizeOf_lt_of_mem
  have inOption : ∀ {o : Option α}, x ∈ o → sizeOf x < sizeOf o := by
    intro o ho
    cases ho
    simp
  have inHoles : ∀ {xs : List (Option α)}, some x ∈ xs → sizeOf x < sizeOf xs := by
    intro xs hx
    have := List.sizeOf_lt_of_mem hx
    simp at this
    omega
  cases s <;>
    simp only [parts, children, List.mem_cons, List.mem_append, Option.mem_toList,
      List.mem_filterMap, List.not_mem_nil, or_false, mem_interleave, id,
      exists_eq_right] at h <;>
    simp only [program.sizeOf_spec, expressionStatement.sizeOf_spec, blockStatement.sizeOf_spec,
      variableDeclaration.sizeOf_spec, variableDeclarator.sizeOf_spec,
      functionDeclaration.sizeOf_spec, returnStatement.sizeOf_spec, ifStatement.sizeOf_spec,
      forStatement.sizeOf_spec, forInStatement.sizeOf_spec, forOfStatement.sizeOf_spec,
      whileStatement.sizeOf_spec, doWhileStatement.sizeOf_spec, breakStatement.sizeOf_spec,
      continueStatement.sizeOf_spec, throwStatement.sizeOf_spec, tryStatement.sizeOf_spec,
      catchClause.sizeOf_spec, switchStatement.sizeOf_spec, switchCase.sizeOf_spec,
      labeledStatement.sizeOf_spec, withStatement.sizeOf_spec, classDeclaration.sizeOf_spec,
      classBody.sizeOf_spec, methodDefinition.sizeOf_spec, templateLiteral.sizeOf_spec,
      taggedTemplateExpression.sizeOf_spec, arrayExpression.sizeOf_spec,
      objectExpression.sizeOf_spec, property.sizeOf_spec, functionExpression.sizeOf_spec,
      arrowFunctionExpression.sizeOf_spec, classExpression.sizeOf_spec,
      unaryExpression.sizeOf_spec, updateExpression.sizeOf_spec, binaryExpression.sizeOf_spec,
      logicalExpression.sizeOf_spec, assignmentExpression.sizeOf_spec,
      conditionalExpression.sizeOf_spec, callExpression.sizeOf_spec, newExpression.sizeOf_spec,
      memberExpression.sizeOf_spec, sequenceExpression.sizeOf_spec, spreadElement.sizeOf_spec,
      objectPattern.sizeOf_spec, arrayPattern.sizeOf_spec, restElement.sizeOf_spec,
      assignmentPattern.sizeOf_spec] <;>
    grind

namespace Node

/-- A node without comments. -/
def bare (shape : Shape Node) (span : Span) : Node := ⟨shape, span, [], []⟩

/-- The kind of the node. -/
def type (n : Node) : NodeType := n.shape.type

/-- The nodes below, in source order. -/
def children (n : Node) : List Node := n.shape.children

/-- The nodes below, shorthand keys included. -/
def parts (n : Node) : List Node := n.shape.parts

/-- The name of an identifier. -/
def identifierName? (n : Node) : Option String :=
  match n.shape with
  | .identifier name => some name
  | _ => none

/-- The value of a string literal. -/
def stringValue? (n : Node) : Option String :=
  match n.shape with
  | .literal (.string value) _ => some value
  | _ => none

/-- The statements of a program, a block or a case. -/
def statements? (n : Node) : Option (List Node) := n.shape.statements?

/-- The name of identifiers that stand for missing text. -/
def placeholderName : String := "✖"

/-- The identifier that stands for missing text at an offset. -/
def placeholder (offset : Nat) : Node := bare (.identifier placeholderName) (.point offset)

/-- The node stands for missing text. -/
def isPlaceholder (n : Node) : Bool := n.identifierName? == some placeholderName

/-- The same tree without the comments attached to its root, for text that
    stands for two parts of the tree at once. -/
def detached (n : Node) : Node := bare n.shape n.span

/-- A part is smaller than its node. -/
theorem sizeOf_part {n x : Node} (h : x ∈ n.parts) : sizeOf x < sizeOf n := by
  have small := Shape.sizeOf_part h
  cases n
  simp only [mk.sizeOf_spec] at small ⊢
  omega

/-- A child is smaller than its node. -/
theorem sizeOf_child {n x : Node} (h : x ∈ n.children) : sizeOf x < sizeOf n :=
  sizeOf_part (Shape.mem_parts_of_mem_children h)

/-- What holds of a node whenever it holds of its parts holds of every node. -/
theorem induction_on_parts {motive : Node → Prop}
    (step : ∀ n, (∀ x ∈ n.parts, motive x) → motive n) (n : Node) : motive n :=
  step n fun x _ => induction_on_parts step x
termination_by sizeOf n
decreasing_by exact sizeOf_part ‹_›

/-- What holds of a node whenever it holds of its children holds of every
    node. -/
theorem induction_on_children {motive : Node → Prop}
    (step : ∀ n, (∀ x ∈ n.children, motive x) → motive n) (n : Node) : motive n :=
  step n fun x _ => induction_on_children step x
termination_by sizeOf n
decreasing_by exact sizeOf_child ‹_›

/-! ## Walks

    `walk` lists a tree in pre-order, `postorder` lists children before their parent, and
    `height` counts the nodes on a longest path from the root down.  The equations say each
    by the same function on the children. -/

/-- The node and all nodes below it, parents first. -/
def walk (n : Node) : List Node := n :: n.children.attach.flatMap fun ⟨x, _⟩ => x.walk
termination_by sizeOf n
decreasing_by exact sizeOf_child ‹_›

/-- The node and all nodes below it, children first. -/
def postorder (n : Node) : List Node :=
  (n.children.attach.flatMap fun ⟨x, _⟩ => x.postorder) ++ [n]
termination_by sizeOf n
decreasing_by exact sizeOf_child ‹_›

/-- How many nodes stand on a longest path down; a leaf has height one. -/
def height (n : Node) : Nat := (n.children.attach.map fun ⟨x, _⟩ => x.height).foldl max 0 + 1
termination_by sizeOf n
decreasing_by exact sizeOf_child ‹_›

theorem walk_eq (n : Node) : n.walk = n :: n.children.flatMap walk := by
  rw [walk]
  simp

theorem postorder_eq (n : Node) : n.postorder = n.children.flatMap postorder ++ [n] := by
  rw [postorder]
  simp

theorem height_eq (n : Node) : n.height = (n.children.map height).foldl max 0 + 1 := by
  rw [height]
  simp

/-- A walk begins at the root. -/
theorem mem_walk_self (n : Node) : n ∈ n.walk := by
  rw [walk_eq]
  exact List.mem_cons_self

end Node

end ScriptTree

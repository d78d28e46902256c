import Mathlib.Data.List.Forall2
import ScriptTree.Grammar.Reinterpret
import ScriptTree.Node.Basic

/-! # Subtrees, calls, and what patterns leave as it was

    A subtree goes into all parts of a node, the keys of shorthand properties
    included, which a walk leaves out.  An expression that becomes a pattern keeps
    spans and comments, changes no call, and its parts become patterns one by one
    or stay; `toPattern_induction` says so once for everything that is to be proved
    about patterns. -/

namespace ScriptTree

/-- The shape is a call or makes an object. -/
def Shape.isCall {α : Type} : Shape α → Bool
  | callExpression _ _ => true
  | newExpression _ _ => true
  | _ => false

namespace Shape

variable {α : Type}

/-- A node of the shape starts where the first thing in it starts, and is not
    opened by itself. -/
def inheritsStart : Shape α → Bool
  | binaryExpression .. => true
  | logicalExpression .. => true
  | assignmentExpression .. => true
  | assignmentPattern .. => true
  | conditionalExpression .. => true
  | callExpression .. => true
  | memberExpression .. => true
  | taggedTemplateExpression .. => true
  | sequenceExpression _ => true
  | arrowFunctionExpression .. => true
  | templateElement .. => true
  | updateExpression _ _ isPrefix => !isPrefix
  | _ => false

/-- A node of the shape may end in front of the last token that was taken for it: a
    chunk without its delimiters, a sequence without its parentheses. -/
def closesLate : Shape α → Bool
  | sequenceExpression _ => true
  | templateElement .. => true
  | _ => false

/-- The shape is one that expressions and patterns take in turn. -/
def isExchanged : Shape α → Bool
  | objectExpression _ => true
  | objectPattern _ => true
  | arrayExpression _ => true
  | arrayPattern _ => true
  | spreadElement _ => true
  | restElement _ => true
  | assignmentExpression .. => true
  | assignmentPattern .. => true
  | property .. => true
  | _ => false

/-- The shape is one that patterns have and expressions do not. -/
def isPattern : Shape α → Bool
  | objectPattern _ => true
  | arrayPattern _ => true
  | restElement _ => true
  | assignmentPattern .. => true
  | _ => false

/-- The text of a name, a literal or a chunk, as the node has it. -/
def quoted? : Shape α → Option String
  | identifier name => some name
  | literal _ raw => some raw
  | templateElement raw _ => some raw
  | _ => none

/-- An expression of the first shape takes the second one where it turns out to be a
    pattern.  Holes stay holes, and a property keeps all but its value. -/
inductive Becomes : Shape α → Shape α → Prop where
  | object {properties patterns : List α} :
    Becomes (.objectExpression properties) (.objectPattern patterns)
  | array {elements patterns : List (Option α)}
      (holes : patterns.map Option.isSome = elements.map Option.isSome) :
    Becomes (.arrayExpression elements) (.arrayPattern patterns)
  | spread {argument pattern : α} : Becomes (.spreadElement argument) (.restElement pattern)
  | assignment {left right : α} :
    Becomes (.assignmentExpression .assign left right) (.assignmentPattern left right)
  | property {key value pattern : α} {computed shorthand : Bool} :
    Becomes (.property key value .init computed shorthand false)
      (.property key pattern .init computed shorthand false)

variable {shape other : Shape α}

/-- Only shapes of some kinds become patterns, and what they become is of these kinds too. -/
theorem Becomes.exchanged (h : shape.Becomes other) :
    shape.isExchanged = true ∧ other.isExchanged = true := by
  cases h <;> exact ⟨rfl, rfl⟩

/-- What inherits its start goes on doing so. -/
theorem Becomes.inherits (h : shape.Becomes other) :
    other.inheritsStart = shape.inheritsStart := by
  cases h <;> rfl

/-- No call becomes a pattern. -/
theorem isCall_of_isExchanged (h : shape.isExchanged = true) : shape.isCall = false := by
  cases shape <;> first | rfl | cases h

/-- Nothing that becomes a pattern closes late. -/
theorem closesLate_of_isExchanged (h : shape.isExchanged = true) : shape.closesLate = false := by
  cases shape <;> first | rfl | cases h

/-- Nothing that becomes a pattern has statements. -/
theorem statements?_of_isExchanged (h : shape.isExchanged = true) : shape.statements? = none := by
  cases shape <;> first | rfl | cases h

/-- Statements are children, in their order. -/
theorem statements_sublist_children {body : List α} (h : shape.statements? = some body) :
    body.Sublist shape.children := by
  cases shape with
  | program => exact Option.some.inj h ▸ .refl _
  | blockStatement => exact Option.some.inj h ▸ .refl _
  | switchCase => exact Option.some.inj h ▸ List.sublist_append_right _ _
  | _ => cases h

/-- A statement is a child. -/
theorem mem_children_of_mem_statements {body : List α} {x : α} (h : shape.statements? = some body)
    (k : x ∈ body) : x ∈ shape.children :=
  (statements_sublist_children h).subset k

end Shape

namespace Node

/-- The node is a call or makes an object. -/
def isCall (n : Node) : Bool := n.shape.isCall

/-- The node and all nodes below it, shorthand keys included, parents first. -/
def subtree (n : Node) : List Node := n :: n.parts.attach.flatMap fun ⟨x, _⟩ => x.subtree
termination_by sizeOf n
decreasing_by exact sizeOf_part ‹_›

/-- A subtree is the node and the subtrees of its parts. -/
theorem subtree_eq (n : Node) : n.subtree = n :: n.parts.flatMap subtree := by
  rw [subtree]
  simp

/-- A node is in its own subtree. -/
theorem mem_subtree_self (n : Node) : n ∈ n.subtree := by
  rw [subtree_eq]
  exact List.mem_cons_self

/-- The tree of a part is in the tree of the node. -/
theorem subtree_subset_of_part {n x : Node} (h : x ∈ n.parts) : x.subtree ⊆ n.subtree := by
  intro m hm
  rw [subtree_eq]
  exact List.mem_cons_of_mem _ (List.mem_flatMap.mpr ⟨x, h, hm⟩)

/-- What is part of a node in a tree is in the tree. -/
theorem mem_subtree_of_part {root n x : Node} (h : n ∈ root.subtree) (k : x ∈ n.parts) :
    x ∈ root.subtree := by
  induction root using induction_on_parts with
  | step root ih =>
      rw [subtree_eq] at h
      rcases List.mem_cons.mp h with rfl | h
      · exact subtree_subset_of_part k x.mem_subtree_self
      · obtain ⟨y, hy, h⟩ := List.mem_flatMap.mp h
        exact subtree_subset_of_part hy (ih y hy h)

/-- What holds of a node and in the trees of its parts holds in its tree. -/
theorem forall_subtree {motive : Node → Prop} {n : Node} (self : motive n)
    (parts : ∀ x ∈ n.parts, ∀ m ∈ x.subtree, motive m) : ∀ m ∈ n.subtree, motive m := by
  intro m hm
  rw [subtree_eq] at hm
  rcases List.mem_cons.mp hm with rfl | hm
  · exact self
  · obtain ⟨x, hx, hm⟩ := List.mem_flatMap.mp hm
    exact parts x hx m hm

/-- A name has nothing below it. -/
theorem parts_of_identifierName? {n : Node} (h : n.identifierName?.isSome = true) :
    n.parts = [] := by
  obtain ⟨shape, span, leading, trailing⟩ := n
  cases shape <;> first | rfl | cases h

/-- A node without parts has no children. -/
theorem children_of_parts {n : Node} (h : n.parts = []) : n.children = [] :=
  List.eq_nil_iff_forall_not_mem.mpr fun x hx => by
    have there : x ∈ n.parts := Shape.mem_parts_of_mem_children hx
    rw [h] at there
    exact List.not_mem_nil there

/-- A name is no call. -/
theorem isCall_of_identifierName? {n : Node} (h : n.identifierName?.isSome = true) :
    n.isCall = false := by
  obtain ⟨shape, span, leading, trailing⟩ := n
  cases shape <;> first | rfl | cases h

/-- It is no pattern. -/
theorem isPattern_of_identifierName? {n : Node} (h : n.identifierName?.isSome = true) :
    n.shape.isPattern = false := by
  obtain ⟨shape, span, leading, trailing⟩ := n
  cases shape <;> first | rfl | cases h

/-- It does not close late. -/
theorem closesLate_of_identifierName? {n : Node} (h : n.identifierName?.isSome = true) :
    n.shape.closesLate = false := by
  obtain ⟨shape, span, leading, trailing⟩ := n
  cases shape <;> first | rfl | cases h

/-! ## Patterns -/

section Related

variable {α β : Type} {related : α → α → Prop} {xs ys : List α}

/-- Related lists are alike in whatever related members are alike in. -/
theorem map_eq_of_related (h : List.Forall₂ related xs ys) {f : α → β}
    (same : ∀ x y, related x y → f y = f x) : ys.map f = xs.map f := by
  induction h with
  | nil => rfl
  | cons first _ ih => rw [List.map_cons, List.map_cons, same _ _ first, ih]

/-- Each node of the second row is related to one of the first. -/
theorem exists_related (h : List.Forall₂ related xs ys) {y : α} (hy : y ∈ ys) :
    ∃ x ∈ xs, related x y := by
  induction h with
  | nil => cases hy
  | @cons x _ _ _ first _ ih =>
      rcases List.mem_cons.mp hy with rfl | hy
      · exact ⟨x, List.mem_cons_self, first⟩
      · obtain ⟨x, hx, there⟩ := ih hy
        exact ⟨x, List.mem_cons_of_mem _ hx, there⟩

end Related

/-- The second node is the first one with the shape that a pattern takes in turn, and
    with parts that are related one by one to those it had. -/
structure Recast (motive : Node → Node → Prop) (n m : Node) : Prop where
  span : m.span = n.span
  leading : m.leadingComments = n.leadingComments
  trailing : m.trailingComments = n.trailingComments
  becomes : n.shape.Becomes m.shape
  children : List.Forall₂ motive n.children m.children
  parts : List.Forall₂ motive n.parts m.parts

/-- What is recast is of a kind that can be exchanged, before and behind. -/
theorem Recast.exchanged {motive : Node → Node → Prop} {n m : Node} (h : Recast motive n m) :
    n.shape.isExchanged = true ∧ m.shape.isExchanged = true :=
  h.becomes.exchanged

/-- What holds of a node and itself, and of a node that is recast whenever it
    holds of its parts, holds of an expression and its pattern. -/
theorem toPattern_induction {motive : Node → Node → Prop} (same : ∀ n, motive n n)
    (recast : ∀ n m, Recast motive n m → motive n m) (n : Node) :
    motive n n.toPattern ∧ motive n n.propertyToPattern := by
  have all {xs : List Node} : List.Forall₂ motive xs xs := List.forall₂_same.mpr fun x _ => same x
  induction n using induction_on_parts with
  | step n ih =>
      obtain ⟨shape, span, leading, trailing⟩ := n
      have pattern {xs : List Node} (there : xs ⊆ shape.parts) :
          List.Forall₂ motive xs (xs.map toPattern) :=
        List.forall₂_map_right_iff.mpr (List.forall₂_same.mpr fun x hx => (ih x (there hx)).1)
      have property {xs : List Node} (there : xs ⊆ shape.parts) :
          List.Forall₂ motive xs (xs.map propertyToPattern) :=
        List.forall₂_map_right_iff.mpr (List.forall₂_same.mpr fun x hx => (ih x (there hx)).2)
      -- A change of the shape leaves the rest; what is below tells it.
      have reshape {other : Shape Node} (becomes : shape.Becomes other)
          (children : List.Forall₂ motive shape.children other.children)
          (parts : List.Forall₂ motive shape.parts other.parts) :
          motive ⟨shape, span, leading, trailing⟩ ⟨other, span, leading, trailing⟩ :=
        recast _ _ ⟨rfl, rfl, rfl, becomes, children, parts⟩
      constructor
      · rw [toPattern]
        split
        · rename_i properties found
          obtain rfl : shape = _ := found
          rw [List.attach_map_val]
          have patterns := property (List.Subset.refl properties)
          exact reshape .object patterns patterns
        · rename_i elements found
          obtain rfl : shape = _ := found
          have mapped (f : { x // x ∈ elements } → Option Node)
              (h : ∀ x hx, f ⟨x, hx⟩ = x.map toPattern) :
              elements.attach.map f = elements.map (Option.map toPattern) := by
            rw [show f = fun x => x.val.map toPattern from funext fun x => h x.val x.property,
              List.attach_map_val]
          have below : (elements.map (Option.map toPattern)).filterMap id =
              (elements.filterMap id).map toPattern := by
            rw [List.filterMap_map, List.map_filterMap]
            rfl
          have patterns : List.Forall₂ motive (elements.filterMap id)
              ((elements.map (Option.map toPattern)).filterMap id) :=
            below ▸ pattern (List.Subset.refl _)
          rw [mapped _ fun x _ => by cases x <;> rfl]
          exact reshape (.array (by simp)) patterns patterns
        · rename_i argument found
          obtain rfl : shape = _ := found
          exact reshape .spread (pattern (List.Subset.refl _)) (pattern (List.Subset.refl _))
        · rename_i left right found
          obtain rfl : shape = _ := found
          exact reshape .assignment all all
        · exact same _
      · rw [propertyToPattern]
        split
        · rename_i key value computed shorthand found
          obtain rfl : shape = _ := found
          have last : motive value value.toPattern :=
            (ih value (by simp [parts, Shape.parts])).1
          refine reshape .property ?_ (.cons (same key) (.cons last .nil))
          cases shorthand with
          | true => exact .cons last .nil
          | false => exact .cons (same key) (.cons last .nil)
        · exact same _

/-- The two nodes lie at the same place, have the same comments, and are of the same
    shape, or the second one is of the shape that the first one becomes. -/
structure Alike (n m : Node) : Prop where
  span : m.span = n.span
  leading : m.leadingComments = n.leadingComments
  trailing : m.trailingComments = n.trailingComments
  shape : m.shape = n.shape ∨ n.shape.Becomes m.shape

/-- A node is like itself. -/
theorem Alike.refl (n : Node) : n.Alike n := ⟨rfl, rfl, rfl, .inl rfl⟩

/-- Nodes that are alike inherit their starts alike. -/
theorem Alike.inherits {n m : Node} (h : n.Alike m) :
    m.shape.inheritsStart = n.shape.inheritsStart :=
  h.shape.elim (congrArg Shape.inheritsStart) Shape.Becomes.inherits

/-- What is recast is like what it was. -/
theorem Recast.alike {motive : Node → Node → Prop} {n m : Node} (h : Recast motive n m) :
    n.Alike m :=
  ⟨h.span, h.leading, h.trailing, .inr h.becomes⟩

/-- Node by node a pattern lies where the expression lay. -/
theorem subtree_toPattern (n : Node) : List.Forall₂ Alike n.subtree n.toPattern.subtree := by
  refine (toPattern_induction (motive := fun n m => List.Forall₂ Alike n.subtree m.subtree)
    (fun n => List.forall₂_same.mpr fun x _ => .refl x) (fun n m recast => ?_) n).1
  rw [subtree_eq, subtree_eq]
  exact .cons recast.alike (List.rel_flatMap recast.parts fun _ _ below => below)

/-- So do the patterns of a list where the expressions lay. -/
theorem subtrees_toPattern (ns : List Node) :
    List.Forall₂ Alike (ns.flatMap subtree) ((ns.map toPattern).flatMap subtree) := by
  rw [List.flatMap_map]
  exact List.rel_flatMap (List.forall₂_same.mpr fun n _ => rfl) fun n m same =>
    same ▸ n.subtree_toPattern

end Node

end ScriptTree

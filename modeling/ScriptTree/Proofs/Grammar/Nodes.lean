import ScriptTree.Grammar.Expression

/-! # Values and their nodes

    Rules yield nodes, lists of them, pairs with a mark, or what a round of a loop
    decides.  `nodes` lists the nodes of a value in order, so that one statement
    about rules speaks of all of them. -/

namespace ScriptTree

/-- Values that nodes can be found in. -/
class HasNodes (α : Type) where
  nodes : α → List Node

namespace HasNodes

instance : HasNodes Node := ⟨fun n => [n]⟩
instance : HasNodes (Shape Node) := ⟨Shape.children⟩
instance {α : Type} [HasNodes α] : HasNodes (List α) := ⟨List.flatMap nodes⟩
instance {α : Type} [HasNodes α] : HasNodes (Array α) := ⟨fun a => nodes a.toList⟩
instance {α : Type} [HasNodes α] : HasNodes (Option α) := ⟨fun a => nodes a.toList⟩
instance {α β : Type} [HasNodes α] [HasNodes β] : HasNodes (α × β) :=
  ⟨fun p => nodes p.1 ++ nodes p.2⟩
instance {α β : Type} [HasNodes α] [HasNodes β] : HasNodes (Rule.Turn α β) :=
  ⟨fun
    | .again a => nodes a
    | .leave b => nodes b⟩
instance : HasNodes Unit := ⟨fun _ => []⟩
instance : HasNodes Bool := ⟨fun _ => []⟩
instance : HasNodes Nat := ⟨fun _ => []⟩
instance : HasNodes Token := ⟨fun _ => []⟩
instance : HasNodes Situation := ⟨fun _ => []⟩
instance : HasNodes Grammar.Opened := ⟨fun _ => []⟩
instance : HasNodes Grammar.PropertyRest := ⟨fun r => [r.key, r.value]⟩

end HasNodes

export HasNodes (nodes)

section NodesOf

variable {α β : Type} [HasNodes α] [HasNodes β]

/-- A node is its own node. -/
@[simp, grind =] theorem nodes_node (n : Node) : nodes n = [n] := rfl

/-- A shape has its children. -/
@[simp, grind =] theorem nodes_shape (shape : Shape Node) : nodes shape = shape.children := rfl

/-- A list of nodes has all of them. -/
@[simp, grind =] theorem nodes_list (xs : List Node) : nodes xs = xs := List.flatMap_singleton' xs

/-- A list with holes has those that are there. -/
@[simp, grind =] theorem nodes_holes (xs : List (Option Node)) : nodes xs = xs.filterMap id := by
  induction xs with
  | nil => rfl
  | cons x rest ih =>
      show nodes x ++ nodes rest = _
      rw [ih]
      cases x <;> rfl

/-- An array has the nodes of its list. -/
@[simp, grind =] theorem nodes_array (a : Array α) : nodes a = nodes a.toList := rfl

/-- One value more at the end. -/
theorem nodes_push (a : Array α) (x : α) : nodes (a.push x) = nodes a ++ nodes x := by
  show (a.push x).toList.flatMap nodes = a.toList.flatMap nodes ++ nodes x
  rw [Array.toList_push, List.flatMap_append, List.flatMap_singleton]

/-- An optional node is one node or none. -/
@[simp, grind =] theorem nodes_option (o : Option Node) : nodes o = o.toList := nodes_list o.toList

/-- A pair has the nodes of both parts. -/
@[simp, grind =] theorem nodes_pair (p : α × β) : nodes p = nodes p.1 ++ nodes p.2 := rfl

/-- A turn of a loop has the nodes of what it carries. -/
@[simp, grind =] theorem nodes_again (a : α) :
    nodes (Rule.Turn.again a : Rule.Turn α β) = nodes a := rfl

/-- So has its last turn. -/
@[simp, grind =] theorem nodes_leave (b : β) :
    nodes (Rule.Turn.leave b : Rule.Turn α β) = nodes b := rfl

@[simp, grind =] theorem nodes_unit (u : Unit) : nodes u = [] := rfl

@[simp, grind =] theorem nodes_bool (b : Bool) : nodes b = [] := rfl

@[simp, grind =] theorem nodes_nat (n : Nat) : nodes n = [] := rfl

@[simp, grind =] theorem nodes_token (t : Token) : nodes t = [] := rfl

@[simp, grind =] theorem nodes_situation (s : Situation) : nodes s = [] := rfl

@[simp, grind =] theorem nodes_opened (o : Grammar.Opened) : nodes o = [] := rfl

/-- What is read behind a key are the key and the value. -/
@[simp, grind =] theorem nodes_propertyRest (r : Grammar.PropertyRest) :
    nodes r = [r.key, r.value] := rfl

end NodesOf

end ScriptTree

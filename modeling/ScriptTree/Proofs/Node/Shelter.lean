import ScriptTree.Proofs.Node.Subtree

/-! # Shelter — what stands outside of functions

    A function with a block for its body is a border: a `return` may stand in the block
    and nowhere else.  A tree is SHELTERED if what stands outside of such blocks is as it
    should be, and each block is a good one; what is asked of the blocks is left open, and
    nothing is asked of what they hold but through them.  The name and the parameters of a
    function stand outside of its body, and a body that is an expression is no border. -/

namespace ScriptTree

namespace Shape

variable {α : Type}

/-- The body of a function, if it is a block. -/
def functionBody? : Shape α → Option α
  | functionDeclaration _ _ body => some body
  | functionExpression _ _ body => some body
  | arrowFunctionExpression _ body false => some body
  | _ => none

/-- The parts that stand outside of that body. -/
def outside : Shape α → List α
  | functionDeclaration id params _ => id.toList ++ params
  | functionExpression id params _ => id.toList ++ params
  | arrowFunctionExpression params _ false => params
  | s => s.parts

/-- The shape is neither a `return` nor a function with a block for its body. -/
def isTransparent : Shape α → Bool
  | returnStatement _ => false
  | s => s.functionBody?.isNone

variable {s : Shape α} {x : α}

/-- A part stands outside or is the body of a function. -/
theorem mem_parts_iff : x ∈ s.parts ↔ x ∈ s.outside ∨ s.functionBody? = some x := by
  cases s with
  | functionDeclaration id params body =>
      simp [parts, children, outside, functionBody?, or_assoc, eq_comm]
  | functionExpression id params body =>
      simp [parts, children, outside, functionBody?, or_assoc, eq_comm]
  | arrowFunctionExpression params body isExpression =>
      cases isExpression <;> simp [parts, children, outside, functionBody?, eq_comm]
  | _ => simp [outside, functionBody?]

/-- A shape through which one looks has no such body. -/
theorem functionBody?_of_isTransparent (h : s.isTransparent = true) : s.functionBody? = none := by
  cases s <;> first | rfl | exact Option.isNone_iff_eq_none.mp h

/-- All its parts stand outside. -/
theorem mem_parts_of_isTransparent (h : s.isTransparent = true) :
    x ∈ s.parts ↔ x ∈ s.outside := by
  rw [mem_parts_iff, functionBody?_of_isTransparent h]
  simp

/-- It is no `return`. -/
theorem type_of_isTransparent (h : s.isTransparent = true) : s.type ≠ .returnStatement := by
  cases s with
  | returnStatement argument => cases h
  | _ => nofun

/-- Shapes that are exchanged for patterns are of this kind. -/
theorem isTransparent_of_isExchanged (h : s.isExchanged = true) : s.isTransparent = true := by
  cases s <;> first | rfl | cases h

end Shape

namespace Node

variable {n m : Node} {returns : Prop} {good : Node → Prop}

/-- Outside of the bodies of functions that are blocks a `return` stands only if it may, and
    those bodies are good. -/
inductive Sheltered (returns : Prop) (good : Node → Prop) : Node → Prop where
  | intro {n : Node} (admitted : n.type = .returnStatement → returns)
      (block : ∀ body, n.shape.functionBody? = some body → good body)
      (outside : ∀ x ∈ n.shape.outside, x.Sheltered returns good) : n.Sheltered returns good

namespace Sheltered

/-- Where nothing is sheltered by the node itself, its parts shelter what they hold. -/
theorem of_transparent (h : n.shape.isTransparent = true)
    (parts : ∀ x ∈ n.parts, x.Sheltered returns good) : n.Sheltered returns good := by
  refine .intro (fun here => absurd here (Shape.type_of_isTransparent h)) (fun body some => ?_)
    fun x hx => ?_
  · rw [Shape.functionBody?_of_isTransparent h] at some
    cases some
  · exact parts x ((Shape.mem_parts_of_isTransparent h).mpr hx)

/-- Only the shape matters. -/
theorem of_shape (h : n.Sheltered returns good) (same : m.shape = n.shape) :
    m.Sheltered returns good := by
  obtain ⟨admitted, block, outside⟩ := h
  exact .intro (by rw [type, same]; exact admitted) (same ▸ block) (same ▸ outside)

/-- A detached node shelters the same. -/
theorem detached (h : n.Sheltered returns good) : n.detached.Sheltered returns good :=
  h.of_shape rfl

/-- Neither expressions nor patterns that take the place of each other are borders. -/
theorem toPattern (h : n.Sheltered returns good) : n.toPattern.Sheltered returns good := by
  refine (toPattern_induction
    (motive := fun n m => n.Sheltered returns good → m.Sheltered returns good)
    (fun _ h => h) (fun n m recast h => ?_) n).1 h
  obtain ⟨before, after⟩ := recast.exchanged
  refine .of_transparent (Shape.isTransparent_of_isExchanged after) fun y hy => ?_
  obtain ⟨x, hx, related⟩ := exists_related recast.parts hy
  obtain ⟨-, -, outside⟩ := h
  refine related (outside x ?_)
  exact (Shape.mem_parts_of_isTransparent (Shape.isTransparent_of_isExchanged before)).mp hx

/-- A node of a sheltered tree is as it should be itself, or it stands in the body of a
    function, and that body is good. -/
theorem inside_or (h : n.Sheltered returns good) : ∀ m ∈ n.subtree,
    ((m.type = .returnStatement → returns) ∧
      ∀ body, m.shape.functionBody? = some body → good body) ∨
    ∃ f ∈ n.subtree, ∃ body, f.shape.functionBody? = some body ∧ good body ∧
      m ∈ body.subtree := by
  induction h with
  | @intro n admitted block outside ih =>
      refine forall_subtree (.inl ⟨admitted, block⟩) fun x hx m hm => ?_
      -- A part stands outside of the body, where the induction goes on, or is the body.
      rcases Shape.mem_parts_iff.mp hx with hx' | hx'
      · rcases ih x hx' m hm with own | ⟨f, hf, inner⟩
        · exact .inl own
        · exact .inr ⟨f, subtree_subset_of_part hx hf, inner⟩
      · exact .inr ⟨n, n.mem_subtree_self, x, hx', block x hx', hm⟩

end Sheltered

end Node

end ScriptTree

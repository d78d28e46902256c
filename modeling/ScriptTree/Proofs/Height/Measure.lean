import ScriptTree.Grammar.Expression
import ScriptTree.Node.Basic
import ScriptTree.Proofs.Grammar.Position

/-! # Heights — what trees and texts are measured by

    Toward a bound on the height of every tree.  A situation has LEVELS left to
    open and SLACK, what the wrapping tokens ahead may add without opening one.
    `tall` bounds an assignment by the levels left: one level adds a chain of
    operators, a chain of subscripts, and a few nodes around them.  Turning an
    expression into a pattern makes no tree higher. -/

namespace ScriptTree

namespace Node

variable {n : Node} {top : Nat}

/-- The maximum of a list is below a bound if all its members are. -/
theorem foldl_max_le {heights : List Nat} {least : Nat} :
    heights.foldl max least ≤ top ↔ least ≤ top ∧ ∀ h ∈ heights, h ≤ top := by
  induction heights generalizing least with
  | nil => simp
  | cons h rest ih =>
      rw [List.foldl_cons, ih, Nat.max_le, List.forall_mem_cons, and_assoc]

/-- A tree is as high as its children allow. -/
theorem height_le_succ : n.height ≤ top + 1 ↔ ∀ x ∈ n.children, x.height ≤ top := by
  rw [height_eq, Nat.add_le_add_iff_right, foldl_max_le]
  simp

/-- No node has height zero. -/
theorem height_pos : 1 ≤ n.height := by
  rw [height_eq]
  exact Nat.le_add_left ..

/-- The comments on a node and its span do not count. -/
theorem height_congr {m : Node} (h : m.children = n.children) : m.height = n.height := by
  rw [height_eq, height_eq, h]

@[simp] theorem height_detached : n.detached.height = n.height := height_congr rfl

/-- A node without children has height one. -/
theorem height_of_leaf (h : n.children = []) : n.height = 1 := by
  rw [height_eq, h]
  rfl

/-- An only child is one lower. -/
theorem height_of_child {x : Node} (h : n.children = [x]) : n.height = x.height + 1 := by
  rw [height_eq, h]
  show max 0 x.height + 1 = _
  rw [Nat.zero_max]

/-- A tree whose children are not higher than those of another is not higher. -/
theorem height_le_of_children {m : Node}
    (h : ∀ y ∈ m.children, ∃ x ∈ n.children, y.height ≤ x.height) : m.height ≤ n.height := by
  obtain ⟨top, htop⟩ : ∃ top, n.height = top + 1 := ⟨n.height - 1, by have := n.height_pos; omega⟩
  have below := height_le_succ.mp (Nat.le_of_eq htop)
  rw [htop, height_le_succ]
  intro y hy
  obtain ⟨x, hx, le⟩ := h y hy
  exact Nat.le_trans le (below x hx)

/-! ## Patterns -/

/-- A pattern is not higher than the expression it was. -/
theorem height_pattern_le (n : Node) :
    n.toPattern.height ≤ n.height ∧ n.propertyToPattern.height ≤ n.height := by
  induction n using induction_on_parts with
  | step n ih =>
      have below : ∀ x ∈ n.children, x.toPattern.height ≤ x.height ∧
          x.propertyToPattern.height ≤ x.height := fun x hx =>
        ih x (Shape.mem_parts_of_mem_children hx)
      -- Both functions recurse into each other, so the induction is on both at once.
      constructor
      · rw [toPattern]
        split
        · rename_i properties shape
          refine height_le_of_children fun y hy => ?_
          obtain ⟨x, hx, rfl⟩ : ∃ x ∈ properties, x.propertyToPattern = y := by
            simpa [children, Shape.children] using hy
          have there : x ∈ n.children := by rwa [children, shape]
          exact ⟨x, there, (below x there).2⟩
        · rename_i elements shape
          refine height_le_of_children fun y hy => ?_
          obtain ⟨element, there, rfl⟩ := List.mem_filterMap.mp hy
          obtain ⟨⟨source, hx⟩, -, same⟩ := List.mem_map.mp there
          cases source with
          | none => cases same
          | some x =>
              obtain rfl := Option.some.inj same
              have there : x ∈ n.children := by
                rw [children, shape]
                exact List.mem_filterMap.mpr ⟨some x, hx, rfl⟩
              exact ⟨x, there, (below x there).1⟩
        · rename_i argument shape
          have there : argument ∈ n.children := by simp [children, shape, Shape.children]
          refine height_le_of_children fun y hy => ⟨argument, there, ?_⟩
          obtain rfl : y = argument.toPattern := by simpa [children, Shape.children] using hy
          exact (below argument there).1
        · rename_i left right shape
          exact Nat.le_of_eq (height_congr (by rw [children, children, shape]; rfl))
        · exact Nat.le_refl _
      · rw [propertyToPattern]
        split
        · rename_i key value computed shorthand shape
          have last : value ∈ n.children := by
            rw [children, shape]
            cases shorthand <;> simp [Shape.children]
          refine height_le_of_children fun y hy => ?_
          -- The halves of a shorthand are one node and counted once.
          cases shorthand with
          | true =>
              obtain rfl := List.mem_singleton.mp hy
              exact ⟨value, last, (below value last).1⟩
          | false =>
              rcases List.mem_cons.mp hy with rfl | hy
              · exact ⟨y, by simp [children, shape, Shape.children], Nat.le_refl _⟩
              · obtain rfl := List.mem_singleton.mp hy
                exact ⟨value, last, (below value last).1⟩
        · exact Nat.le_refl _

end Node

/-! ## What wraps without opening a level -/

/-- The token makes a node around its operand, and opens no level for it. -/
def Token.wraps (t : Token) : Bool :=
  t.isKeyword .newWord || t.isKeyword .extendsWord || (UpdateOperator.ofToken? t.kind).isSome

/-- How many tokens of a stream wrap. -/
def Lexeme.wrappers (lexemes : List Lexeme) : Nat := lexemes.countP fun l => l.token.wraps

namespace Situation

variable {s t : Situation}

/-- How many levels may still be opened. -/
def levels (s : Situation) : Nat := nestingLimit - s.depth

/-- What the tokens ahead may add to a tree without opening a level: each that
    wraps adds a node, and a chain of subscripts in front of it. -/
def slack (s : Situation) : Nat := Lexeme.wrappers s.ahead * (nestingLimit + 1)

/-- No more levels are left than there are. -/
theorem levels_le : s.levels ≤ nestingLimit := Nat.sub_le _ _

/-- The slack depends on the tokens ahead. -/
theorem slack_congr (h : t.ahead = s.ahead) : t.slack = s.slack := by
  rw [slack, slack, h]

/-- Taking tokens raises no slack. -/
theorem Leads.slack_le (h : s.Leads t) : t.slack ≤ s.slack := by
  obtain ⟨words, ahead, -⟩ := h
  rw [slack, slack, ahead, Lexeme.wrappers, Lexeme.wrappers, List.countP_append]
  exact Nat.mul_le_mul_right _ (Nat.le_add_left _ _)

/-- A token that wraps uses its part of the slack up. -/
theorem slack_taken (h : Lexeme.Terminated s.ahead) (wraps : s.token.wraps = true) :
    s.taken.slack + (nestingLimit + 1) = s.slack := by
  have goes : s.token.isEnd = false := by
    refine Bool.eq_false_iff.mpr fun ends => ?_
    simp [Token.wraps, Token.isKeyword, Token.isEnd_iff.mp ends, UpdateOperator.ofToken?] at wraps
  have counted : Lexeme.wrappers s.ahead = Lexeme.wrappers s.taken.ahead + 1 := by
    rw [ahead, upcoming_eq h goes, Lexeme.wrappers, List.countP_cons,
      show s.current.token.wraps = true from wraps]
    rfl
  rw [slack, slack, counted, Nat.add_mul, Nat.one_mul]

end Situation

/-! ## What levels may add -/

/-- The height of an assignment that may open so many levels and meets no token
    that wraps. -/
def tall (levels : Nat) : Nat := levels * levels + 7 * levels + 3

/-- One level more adds two nodes for each level and eight. -/
theorem tall_succ (levels : Nat) : tall (levels + 1) = tall levels + 2 * levels + 8 := by
  simp only [tall, Nat.add_mul, Nat.mul_add]
  omega

end ScriptTree

import ScriptTree.Proofs.Grammar.Piece
import ScriptTree.Proofs.Height.Phrase

/-! # Heights of functions and operands

    Functions, methods, templates, arrays, objects and what stands between
    parentheses close a few nodes over assignments.  Their bodies are blocks, one
    node above the statements that are nested in them. -/

namespace ScriptTree.Grammar

open Rule

variable {kept : List Node} {room : Nat → Nat} {d : Nat}

/-! ## Functions -/

theorem parameters_builds (h : 1 ≤ d) : parameters.Builds kept (tall · + d) := by
  refine (expect_builds _).after fun _ => ?_
  refine (commaChain_builds _ (bindingOrRest_builds h)).after fun params => ?_
  exact (expect_builds _).after fun _ => .pure (.of_subset (by simp))

theorem optionalName_builds (isStatement : Bool) :
    (optionalName isStatement).Builds kept (tall · + d) := by
  refine token_builds.after fun t => .ite ?_ (.ite ?_ (.pure (.nil _)))
  · exact identifier_builds.after fun name => .pure (.of_subset (by simp))
  · exact unexpected_builds.after fun _ => .pure (.nil _)

/-- A function is closed over its name, its parameters and its body. -/
theorem functionRest_closes (opened : Opened) (isStatement : Bool) (h : 1 ≤ d) :
    (functionRest opened isStatement).Closes kept (tall · + d) := by
  refine (optionalName_builds isStatement).after fun name => ?_
  refine (parameters_builds h).after fun params => (functionBody_builds h).after fun body => ?_
  refine closeNode_closes (.of_subset ?_)
  cases isStatement <;> grind [Shape.children]

theorem function_closes (opened : Opened) (isStatement : Bool) (h : 1 ≤ d) :
    (function opened isStatement).Closes kept (tall · + d) := by
  rw [function_eq]
  refine take_builds.after fun _ => (isAt_builds .times).after fun generates => ?_
  refine .ite ?_ (functionRest_closes opened isStatement h)
  refine (complainHere_builds _).after fun _ => take_builds.after fun _ => ?_
  exact functionRest_closes opened isStatement h

theorem methodFunction_closes (h : 1 ≤ d) : methodFunction.Closes kept (tall · + d) := by
  refine openNode_builds.after fun opened => (parameters_builds h).after fun params => ?_
  refine (functionBody_builds h).after fun body => closeNode_closes (.of_subset ?_)
  grind [Shape.children]

theorem classMethod_within (h : 1 ≤ d) : classMethod.Within (fun _ => 2) kept (tall · + d) := by
  refine openNode_builds.after fun opened => propertyName_builds.after fun first => ?_
  have method {kept : List Node} {key : Node} {kind : MethodKind} {computed isStatic : Bool}
      (here : key ∈ kept) : Rule.Within (fun _ => 2) kept (tall · + d) (do
        let value ← methodFunction
        closeNode opened (.methodDefinition key value kind computed isStatic)) := by
    refine .twice (methodFunction_closes h) fun value => closeNode_closes (.of_subset ?_)
    grind [Shape.children]
  refine (isAt_builds .openParen).after fun called => .ite ?_ ?_
  · refine propertyName_builds.after fun second => (isAt_builds .openParen).after fun called => ?_
    exact .ite (propertyName_builds.after fun key => method (by simp)) (method (by simp))
  · refine (isAt_builds .openParen).after fun called => ?_
    exact .ite (propertyName_builds.after fun key => method (by simp)) (method (by simp))

theorem classMethods_builds (h : 3 ≤ d) : classMethods.Builds kept (tall · + d) := by
  have method {kept : List Node} : classMethod.Builds kept (tall · + d) :=
    Within.under (classMethod_within (Nat.le_refl 1)) h
  refine .loop (.nil _) fun found => (isAtClose_builds _).after fun closes => ?_
  refine .ite (.pure (.of_subset (by simp))) ?_
  refine (eat_builds .semicolon).after fun stray => .ite (.pure (.of_subset (by simp))) ?_
  refine consumed_builds.after fun before => method.after fun n => ?_
  refine consumed_builds.after fun after => .ite ?_ (.pure (.of_subset (by grind)))
  exact take_builds.after fun _ => .pure (.of_subset (by grind))

/-! ## Assignments -/

theorem asPattern_builds {n : Node} (h : n ∈ kept) : (asPattern n).Builds kept room := by
  have pattern : Below (nodes n.toPattern) kept := .one h n.height_pattern_le.1
  rw [asPattern]
  split
  · exact .complain (.pure pattern)
  · exact .pure pattern

theorem asPatterns_builds {found : List Node} (h : found ⊆ kept) :
    (asPatterns found).Builds kept room := by
  induction found generalizing kept with
  | nil => exact .pure (.nil _)
  | cons item rest ih =>
      rw [List.cons_subset] at h
      refine (asPattern_builds h.1).after fun first => ?_
      refine (ih (List.subset_append_of_subset_right _ h.2)).after fun others => ?_
      exact .pure (.of_subset (by grind))

theorem checkSimpleTarget_builds (n : Node) : (checkSimpleTarget n).Builds kept room :=
  .ite (plain_builds rfl) (complain_builds _ _)

theorem assignmentTarget_builds {operator : Punctuator} {left : Node} (h : left ∈ kept) :
    (assignmentTarget operator left).Builds kept room := by
  refine .ite (asPattern_builds h) ((checkSimpleTarget_builds left).after fun _ => ?_)
  exact .pure (.of_subset (by simpa using h))

/-- An operand and the operators behind it leave room for two nodes below the
    height of an assignment. -/
theorem operands_le : ∀ levels, deeper Nonterminal.unary.height levels + levels + 2 ≤ tall levels
  | 0 => by simp [deeper, tall]
  | levels + 1 => by
      have := tall_succ levels
      simp only [deeper, Nonterminal.height]
      omega

theorem nested_builds (noIn : Bool) :
    (parseNested (.assignment noIn)).Builds kept (deeper Nonterminal.unary.height) :=
  .nested rfl fun
    | 0 => Nat.le_refl 1
    | levels + 1 => by simp only [deeper, Nonterminal.height]; omega

theorem conditional_within (noIn : Bool) : (conditional noIn).Within (fun levels => levels + 1)
    kept (deeper Nonterminal.unary.height) := by
  refine here_builds.after fun start => unary_builds.after fun left => ?_
  refine (operators_chains (.of_subset (by simp))).bind fun test => ?_
  refine (eat_builds .question).after fun asks => .ite ?_ (.pure (.of_subset (by simp)))
  refine (nested_builds false).after fun consequent => (expect_builds _).after fun _ => ?_
  refine (nested_builds noIn).after fun alternate => closeNode_closes (.of_subset ?_)
  simp [Shape.children]

theorem assignmentRule_within (noIn : Bool) :
    (assignmentRule noIn).Within (fun levels => levels + 1 + 1) kept
      (deeper Nonterminal.unary.height) := by
  refine here_builds.after fun start => (conditional_within noIn).bind fun left => ?_
  refine token_builds.after fun t => ?_
  split
  · exact .pure (.of_subset (by simp))
  · refine (assignmentTarget_builds (by simp)).after fun target => take_builds.after fun _ => ?_
    refine (nested_builds noIn).after fun right => closeNode_closes (.of_subset ?_)
    simp [Shape.children]

theorem assignmentRule_builds (noIn : Bool) : (assignmentRule noIn).Builds kept tall :=
  (assignmentRule_within noIn).fit operands_le

/-! ## Arguments and templates -/

theorem spreadOrAssignment_builds (h : 1 ≤ d) : spreadOrAssignment.Builds kept (tall · + d) := by
  have closes : spreadOrAssignment.Closes [] (tall · + 0) := by
    refine (isAt_builds .ellipsis).after fun spreads => .ite ?_ ?_
    · refine openNode_builds.after fun opened => take_builds.after fun _ => ?_
      refine (assignment_builds false).after fun argument => closeNode_closes (.of_subset ?_)
      simp [Shape.children]
    · exact (assignment_builds false).further fun _ => Nat.zero_le 1
  exact closes.under h

theorem callArguments_builds (h : 1 ≤ d) : callArguments.Builds kept (tall · + d) := by
  refine (expect_builds _).after fun _ => ?_
  refine (items_builds _ (spreadOrAssignment_builds h)).after fun arguments => ?_
  exact (expect_builds _).after fun _ => .pure (.of_subset (by simp))

theorem template_closes (h : 1 ≤ d) : template.Closes kept (tall · + d) := by
  refine openNode_builds.after fun opened => ?_
  refine .after (.loop (.nil _) ?_) fun found => closeNode_closes (.of_subset fun n hn => ?_)
  · rintro ⟨quasis, expressions⟩
    refine token_builds.after fun chunk => ?_
    simp only
    split
    · exact unexpected_builds.after fun _ => .pure (.of_subset (by simp))
    · refine take_builds.after fun _ => (closeNodeAt_builds rfl).after fun quasi => ?_
      refine .ite (.pure (.of_subset (by grind))) ?_
      refine (expression_builds false h).after fun substitution => ?_
      refine token_builds.after fun next => .ite (.pure (.of_subset (by grind))) ?_
      exact unexpected_builds.after fun _ => .pure (.of_subset (by grind))
  · have := Shape.mem_interleave.mp hn
    grind

/-! ## Operands -/

theorem isAtArrow_builds : isAtArrow.Builds kept room := .look fun _ => plain_builds rfl

theorem arrowBody_closes {opened : Opened} {params : List Node} (here : params ⊆ kept)
    (h : 1 ≤ d) : (arrowBody opened params).Closes kept (tall · + d) := by
  have arrow {kept : List Node} {body : Node} {isExpression : Bool} (here : params ⊆ kept) :
      (closeNode opened (.arrowFunctionExpression params body isExpression)).Closes
        (nodes body ++ kept) (tall · + d) :=
    closeNode_closes (.of_subset (by grind [Shape.children]))
  refine (expect_builds _).after fun _ => (isAt_builds .openBrace).after fun braced => .ite ?_ ?_
  · exact (functionBody_builds h).after fun body => arrow here
  · exact (assignment_builds false).after fun body => arrow here

theorem nameOrArrow_closes (h : 1 ≤ d) : nameOrArrow.Closes kept (tall · + d) := by
  refine here_builds.after fun start => identifier_builds.after fun name => ?_
  refine isAtArrow_builds.after fun arrow => .ite ?_ (.pure (.of_subset (by simp)))
  exact arrowBody_closes (by simp) h

theorem array_closes (h : 1 ≤ d) : array.Closes kept (tall · + d) := by
  refine openNode_builds.after fun opened => take_builds.after fun _ => ?_
  refine (elements_builds _ (spreadOrAssignment_builds h)).after fun found => ?_
  refine (expect_builds _).after fun _ => closeNode_closes (.of_subset ?_)
  simp [Shape.children]

theorem propertyRest_closes {key : Node} {computed : Bool} (here : key ∈ kept) (h : 1 ≤ d) :
    (propertyRest key computed).Closes kept (tall · + d) := by
  have twin {kept : List Node} (here : key ∈ kept) : Below [key, key.detached] kept :=
    (Below.one here (Nat.le_refl _)).append (.one here (Nat.le_of_eq Node.height_detached))
  refine token_builds.after fun next => ?_
  simp only
  split
  · refine propertyName_builds.after fun name => ?_
    exact (methodFunction_closes h).before fun value => .pure (.of_subset (by simp))
  · refine .ite ?_ ((eat_builds .colon).after fun colon => .ite ?_ (.ite ?_ ?_))
    · exact (methodFunction_closes h).before fun value => .pure (.of_subset (by simp [here]))
    · exact (assignment_builds false).after fun value => .pure (.of_subset (by simp [here]))
    · refine (eat_builds .assign).after fun defaults => .ite ?_ (.pure (twin here))
      exact (withDefault_closes (.one here (Nat.le_of_eq Node.height_detached))).before
        fun value => .pure (.of_subset (by simp [here]))
    · exact missing_builds.after fun value => .pure (.of_subset (by simp [here]))

theorem objectProperty_within (h : 1 ≤ d) :
    objectProperty.Within (fun _ => 2) kept (tall · + d) := by
  refine openNode_builds.after fun opened => propertyName_builds.after fun name => ?_
  refine .twice (propertyRest_closes (by simp) h) fun rest => closeProperty_closes (.of_subset ?_)
  simp

theorem object_closes (h : 3 ≤ d) : object.Closes kept (tall · + d) := by
  refine openNode_builds.after fun opened => take_builds.after fun _ => ?_
  refine (items_builds _ ((objectProperty_within (Nat.le_refl 1)).under h)).after fun found => ?_
  refine (expect_builds _).after fun _ => closeNode_closes (.of_subset ?_)
  simp [Shape.children]

/-- Items between parentheses are as high as the highest of them. -/
theorem parenthesizedTurn_builds {found : Array Node} (hasRest : Bool) (before : Nat)
    (here : found.toList ⊆ kept) :
    (parenthesizedTurn found hasRest before).Builds kept (tall · + d) := by
  refine consumed_builds.after fun after => .ite (.pure (.of_subset (by grind))) ?_
  refine (eat_builds .comma).after fun goes => ?_
  exact .ite (.pure (.of_subset (by grind))) (.pure (.of_subset (by grind)))

theorem parenthesized_builds (h : 1 ≤ d) : parenthesized.Builds kept (tall · + d) := by
  rw [parenthesized_eq]
  refine .loop (.nil _) fun state => (isAtClose_builds _).after fun closes => ?_
  refine .ite (.pure (.of_subset (by simp))) (consumed_builds.after fun before => ?_)
  refine (isAt_builds .ellipsis).after fun isRest => .ite ?_ ?_
  · refine (Within.under (c := 0) restElement_closes h).after fun item => ?_
    exact parenthesizedTurn_builds _ _ (by grind)
  · exact (assignment_builds false).after fun item => parenthesizedTurn_builds _ _ (by grind)

theorem parenOrArrow_closes (h : 1 ≤ d) : parenOrArrow.Closes kept (tall · + d) := by
  refine here_builds.after fun start => take_builds.after fun _ => here_builds.after fun inner => ?_
  refine (parenthesized_builds h).after fun found => situation_builds.after fun s => ?_
  refine (expect_builds _).after fun _ => isAtArrow_builds.after fun arrow => .ite ?_ ?_
  · refine (asPatterns_builds (by grind)).after fun params => arrowBody_closes ?_ h
    simp
  refine .ite (unexpected_builds.after fun _ => ?_) ?_
  all_goals
    split
    · exact placeholder_builds.further fun _ => Nat.zero_le 1
    · rename_i only same
      exact .pure (.of_subset (by simp [same]))
    · exact closeNodeAt_closes (.of_subset (by simp [Shape.children]))

end ScriptTree.Grammar

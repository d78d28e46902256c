import ScriptTree.Proofs.Grammar.Piece
import ScriptTree.Proofs.Node.Pattern
import ScriptTree.Proofs.Shelter.Phrase

/-! # Sheltering in functions, classes and expressions

    A function is closed over its name and its parameters, which have to be housed, and over
    a body that is a block.  Chains go on from a node that was housed before.  The shape of a
    node that depends on an answer is looked at for either answer. -/

namespace ScriptTree.Grammar

open Rule

variable {text : List Char} {S : Shelter text} {inside : Bool} {kept : List Node}

/-! ## Functions and classes -/

theorem parameters_houses : parameters.Houses S inside kept := by
  refine (expect_houses _).after fun _ => ?_
  refine (commaChain_houses _ bindingOrRest_houses).after fun params => ?_
  exact (expect_houses _).after fun _ => .pure (by simp)

theorem optionalName_houses (isStatement : Bool) :
    (optionalName isStatement).Houses S inside kept := by
  refine token_houses.after fun t => .ite ?_ (.ite ?_ (.pure (by simp)))
  · exact identifier_houses.after fun name => .pure (by simp)
  · exact unexpected_houses.after fun _ => .pure (by simp)

/-- The body of a function is called for as one, and the parts outside are kept. -/
theorem functionRest_houses (opened : Opened) (isStatement : Bool) :
    (functionRest opened isStatement).Houses S inside kept := by
  refine (optionalName_houses isStatement).after fun name => ?_
  refine parameters_houses.after fun params => functionBody_then fun body block => ?_
  cases isStatement with
  | true => exact closeFunction_houses (by simp [Shape.type]) rfl block (by grind [Shape.outside])
  | false => exact closeFunction_houses (by simp [Shape.type]) rfl block (by grind [Shape.outside])

theorem function_houses (opened : Opened) (isStatement : Bool) :
    (function opened isStatement).Houses S inside kept := by
  rw [function_eq]
  refine take_houses.after fun _ => (isAt_houses .times).after fun generates => ?_
  refine .ite ?_ (functionRest_houses opened isStatement)
  refine (complainHere_houses (by decide)).after fun _ => take_houses.after fun _ => ?_
  exact functionRest_houses opened isStatement

/-- The body of a method is called for as one too. -/
theorem methodFunction_houses : methodFunction.Houses S inside kept := by
  refine openNode_houses.after fun opened => parameters_houses.after fun params => ?_
  refine functionBody_then fun body block => closeFunction_houses nofun rfl block ?_
  grind [Shape.outside]

theorem classMethod_houses : classMethod.Houses S inside kept := by
  refine openNode_houses.after fun opened => propertyName_houses.after fun first => ?_
  have method {kept : List Node} {key : Node} {kind : MethodKind} {computed isStatic : Bool}
      (here : key ∈ kept) : Rule.Houses S inside kept (do
        let value ← methodFunction
        closeNode opened (.methodDefinition key value kind computed isStatic)) := by
    refine methodFunction_houses.after fun value => closeNode_houses rfl ?_
    grind [Shape.parts, Shape.children]
  refine (isAt_houses .openParen).after fun called => .ite ?_ ?_
  · refine propertyName_houses.after fun second => (isAt_houses .openParen).after fun called => ?_
    exact .ite (propertyName_houses.after fun key => method (by simp)) (method (by simp))
  · refine (isAt_houses .openParen).after fun called => ?_
    exact .ite (propertyName_houses.after fun key => method (by simp)) (method (by simp))

theorem classMethods_houses : classMethods.Houses S inside kept := by
  refine .loop (List.nil_subset _) fun found => (isAtClose_houses _).after fun closes => ?_
  refine .ite (.pure (by simp)) ?_
  refine (eat_houses .semicolon).after fun stray => .ite (.pure (by simp)) ?_
  refine consumed_houses.after fun before => classMethod_houses.after fun n => ?_
  refine consumed_houses.after fun after => .ite ?_ (.pure (by grind))
  exact take_houses.after fun _ => .pure (by grind)

/-- A class keeps its name, what it extends and its methods. -/
theorem classRest_houses {opened : Opened} {isStatement : Bool} {name superClass : Option Node}
    (here : name.toList ++ superClass.toList ⊆ kept) :
    (classRest opened isStatement name superClass).Houses S inside kept := by
  refine openNode_houses.after fun inner => (expect_houses _).after fun _ => ?_
  refine classMethods_houses.after fun methods => (expect_houses _).after fun _ => ?_
  refine (closeNode_houses rfl (by simp [Shape.parts, Shape.children])).after fun body => ?_
  cases isStatement with
  | true => exact closeNode_houses rfl (by grind [Shape.parts, Shape.children])
  | false => exact closeNode_houses rfl (by grind [Shape.parts, Shape.children])

theorem classPhrase_houses (opened : Opened) (isStatement : Bool) :
    (classPhrase opened isStatement).Houses S inside kept := by
  rw [classPhrase_eq]
  refine take_houses.after fun _ => (optionalName_houses isStatement).after fun name => ?_
  refine (eatWord_houses _).after fun derived => .ite ?_ (classRest_houses (by simp))
  refine here_houses.after fun start => atom_houses.after fun base => ?_
  exact (subscripts_houses (by simp)).after fun superClass => classRest_houses (by grind)

/-! ## Assignments -/

/-- Reinterpreting exchanges shapes through which one looks. -/
theorem asPattern_houses {n : Node} (h : n ∈ kept) : (asPattern n).Houses S inside kept := by
  have pattern : (Rule.done n.toPattern).Houses S inside kept :=
    fun _ _ hk => .one fun asked => (hk n h asked).toPattern
  rw [asPattern]
  split
  · rename_i span fault found
    refine .complain (fun same => ?_) pattern
    rcases n.fault_of_patternFault?.1 _ found with rfl | rfl <;> cases same
  · exact pattern

theorem asPatterns_houses {found : List Node} (h : found ⊆ kept) :
    (asPatterns found).Houses S inside kept := by
  induction found generalizing kept with
  | nil => exact plain_houses rfl
  | cons item rest ih =>
      rw [List.cons_subset] at h
      refine (asPattern_houses h.1).after fun first => ?_
      refine (ih (List.subset_append_of_subset_right _ h.2)).after fun others => ?_
      exact .pure (by grind)

theorem checkSimpleTarget_houses (n : Node) : (checkSimpleTarget n).Houses S inside kept :=
  .ite (plain_houses rfl) (complain_houses nofun)

theorem assignmentTarget_houses {operator : Punctuator} {left : Node} (h : left ∈ kept) :
    (assignmentTarget operator left).Houses S inside kept := by
  refine .ite (asPattern_houses h) ((checkSimpleTarget_houses left).after fun _ => ?_)
  exact .pure (by simpa using h)

theorem conditional_houses (noIn : Bool) : (conditional noIn).Houses S inside kept := by
  refine here_houses.after fun start => unary_houses.after fun left => ?_
  refine (operators_houses (by simp)).after fun test => ?_
  refine (eat_houses .question).after fun asks => .ite ?_ (.pure (by simp))
  refine (nested_houses false).after fun consequent => (expect_houses _).after fun _ => ?_
  refine (nested_houses noIn).after fun alternate => closeNode_houses rfl ?_
  simp [Shape.parts, Shape.children]

theorem assignmentRule_houses (noIn : Bool) : (assignmentRule noIn).Houses S inside kept := by
  refine here_houses.after fun start => (conditional_houses noIn).after fun left => ?_
  refine token_houses.after fun t => ?_
  split
  · exact .pure (by simp)
  · refine (assignmentTarget_houses (by simp)).after fun target => take_houses.after fun _ => ?_
    refine (nested_houses noIn).after fun right => closeNode_houses rfl ?_
    simp [Shape.parts, Shape.children]

/-! ## Operators -/

/-- A round of a chain that opens a level, if there is one to open. -/
theorem deepen_houses {rest leave : Rule (Turn Node Node)} (h : leave.Houses S inside kept)
    (k : rest.Houses S inside kept) : (Rule.deepen .done >>= fun ok =>
      if (!ok) = true then leave else rest).Houses S inside kept :=
  fun _ _ hk ok t flag _ => Rule.Houses.ite (b := (!ok) = true) h k t flag hk

/-- Every round closes a node around what was kept. -/
theorem operatorsRule_houses {left : Node} {start minimum : Nat} {noIn : Bool}
    (here : left ∈ kept) : (operatorsRule left start minimum noIn).Houses S inside kept := by
  refine .loop (by simpa using here) fun left => token_houses.after fun t => ?_
  split
  · exact .pure (by simp)
  refine .ite (.pure (by simp)) (deepen_houses (.pure (by simp)) ?_)
  refine take_houses.after fun _ => here_houses.after fun start => ?_
  refine unary_houses.after fun operand => (operators_houses (by simp)).after fun right => ?_
  refine .after ?_ fun whole => .pure (by simp)
  rw [binaryShape]
  split
  · exact closeNode_houses rfl (by simp [Shape.parts, Shape.children])
  · exact closeNode_houses rfl (by simp [Shape.parts, Shape.children])

theorem postfixOperators_houses {start : Nat} {operand : Node} (here : operand ∈ kept) :
    (postfixOperators start operand).Houses S inside kept := by
  refine .loop (by simpa using here) fun operand => token_houses.after fun next => ?_
  split
  · exact .pure (by simp)
  refine .ite (.pure (by simp)) ((checkSimpleTarget_houses operand).after fun _ => ?_)
  refine take_houses.after fun _ => .after ?_ fun whole => .pure (by simp)
  exact closeNode_houses rfl (by simp [Shape.parts, Shape.children])

theorem unaryRule_houses : unaryRule.Houses S inside kept := by
  refine token_houses.after fun t => ?_
  split
  · refine openNode_houses.after fun opened => take_houses.after fun _ => ?_
    refine unary_houses.after fun argument => (checkSimpleTarget_houses argument).after fun _ => ?_
    exact closeNode_houses rfl (by simp [Shape.parts, Shape.children])
  · refine openNode_houses.after fun opened => take_houses.after fun _ => ?_
    refine unary_houses.after fun argument => closeNode_houses rfl ?_
    simp [Shape.parts, Shape.children]
  · refine here_houses.after fun start => atom_houses.after fun base => ?_
    refine (subscripts_houses (by simp)).after fun operand => ?_
    exact postfixOperators_houses (by simp)

/-! ## Arguments, templates and subscripts -/

theorem spreadOrAssignment_houses : spreadOrAssignment.Houses S inside kept := by
  refine (isAt_houses .ellipsis).after fun spreads => .ite ?_ (assignment_houses false)
  refine openNode_houses.after fun opened => take_houses.after fun _ => ?_
  refine (assignment_houses false).after fun argument => closeNode_houses rfl ?_
  simp [Shape.parts, Shape.children]

theorem callArguments_houses : callArguments.Houses S inside kept := by
  refine (expect_houses _).after fun _ => ?_
  refine (items_houses _ spreadOrAssignment_houses).after fun arguments => ?_
  exact (expect_houses _).after fun _ => .pure (by simp)

theorem template_houses : template.Houses S inside kept := by
  refine openNode_houses.after fun opened => ?_
  refine .after (.loop (List.nil_subset _) ?_) fun found => closeNode_houses rfl fun n hn => ?_
  · rintro ⟨quasis, expressions⟩
    refine token_houses.after fun chunk => ?_
    simp only
    split
    · exact unexpected_houses.after fun _ => .pure (by grind)
    · refine take_houses.after fun _ => .after (closeNodeAt_houses rfl (by simp [Shape.parts,
        Shape.children])) fun quasi => .ite (.pure (by grind)) ?_
      refine (expression_houses false).after fun substitution => ?_
      refine token_houses.after fun next => .ite (.pure (by grind)) ?_
      exact unexpected_houses.after fun _ => .pure (by grind)
  · have := Shape.mem_interleave.mp hn
    grind

/-- What is closed behind a subscript holds what it continues, and is no border. -/
theorem subscript_shelters {base : Node} {kind : Subscript} {s : Situation}
    (flag : s.inFunction = inside) (hb : S.Housed inside [base]) :
    (subscript base kind).Shelters S inside s fun shape =>
      shape.isTransparent = true ∧ S.Housed inside shape.parts := by
  cases kind with
  | member =>
      refine (take_houses s flag .nil).bind flag fun _ t flag _ => ?_
      exact (identifierName_houses t flag .nil).bind flag fun prop _ _ hp => ⟨rfl, hb.append hp⟩
  | computedMember =>
      refine (take_houses s flag .nil).bind flag fun _ t flag _ => ?_
      refine (expression_houses false t flag .nil).bind flag fun prop t flag hp => ?_
      exact (expect_houses _ t flag .nil).bind flag fun _ _ _ _ => ⟨rfl, hb.append hp⟩
  | call =>
      refine (callArguments_houses s flag .nil).bind flag fun arguments _ _ ha => ?_
      exact ⟨rfl, hb.append (by simpa using ha)⟩
  | template =>
      exact (template_houses s flag .nil).bind flag fun quasi _ _ hq => ⟨rfl, hb.append hq⟩

/-- Subscripts close nodes around the base. -/
theorem subscriptsRule_houses {base : Node} {start : Nat} {noCalls : Bool} (here : base ∈ kept) :
    (subscriptsRule base start noCalls).Houses S inside kept := by
  refine .loop (by simpa using here) fun base => token_houses.after fun t => ?_
  split
  · exact .pure (by simp)
  refine deepen_houses (.pure (by simp)) fun s flag hk =>
    (subscript_shelters flag (hk.mono (by simp))).bind flag ?_
  rintro shape t flag ⟨plain, hs⟩
  have closed : (closeNode (openedAt start) shape).Houses S inside shape.parts :=
    closeNode_houses plain (List.Subset.refl _)
  exact closed.after (fun whole => .pure (by simp)) t flag hs

/-! ## Operands -/

theorem isAtArrow_houses : isAtArrow.Houses S inside kept := .look fun _ _ => plain_houses rfl

/-- The body of an arrow function is a block that is no part of what is outside, or an
    expression that is. -/
theorem arrowBody_houses {opened : Opened} {params : List Node} (here : params ⊆ kept) :
    (arrowBody opened params).Houses S inside kept := by
  refine (expect_houses _).after fun _ => (isAt_houses .openBrace).after fun braced => .ite ?_ ?_
  · exact functionBody_then fun body block => closeFunction_houses nofun rfl block here
  · refine (assignment_houses false).after fun body => closeNode_houses rfl ?_
    grind [Shape.parts, Shape.children]

theorem nameOrArrow_houses : nameOrArrow.Houses S inside kept := by
  refine here_houses.after fun start => identifier_houses.after fun name => ?_
  refine isAtArrow_houses.after fun arrow => .ite ?_ (.pure (by simp))
  exact arrowBody_houses (by simp)

theorem array_houses : array.Houses S inside kept := by
  refine openNode_houses.after fun opened => take_houses.after fun _ => ?_
  refine (elements_houses _ spreadOrAssignment_houses).after fun found => ?_
  refine (expect_houses _).after fun _ => closeNode_houses rfl ?_
  simp [Shape.parts, Shape.children]

theorem propertyRest_houses {key : Node} {computed : Bool} (here : key ∈ kept) :
    (propertyRest key computed).Houses S inside kept := by
  refine token_houses.after fun next => ?_
  simp only
  split
  · refine propertyName_houses.after fun name => ?_
    exact methodFunction_houses.after fun value => .pure (by simp)
  · refine .ite ?_ ((eat_houses .colon).after fun colon => .ite ?_ (.ite ?_ ?_))
    · exact methodFunction_houses.after fun value => .pure (by simp [here])
    · exact (assignment_houses false).after fun value => .pure (by simp [here])
    · refine (eat_houses .assign).after fun defaults => ?_
      refine keepDetached (show key ∈ _ by simp [here]) (.ite ?_ (.pure (by simp [here])))
      exact (withDefault_houses (by simp)).after fun value => .pure (by simp [here])
    · exact missing_houses.after fun value => .pure (by simp [here])

theorem objectProperty_houses : objectProperty.Houses S inside kept := by
  refine openNode_houses.after fun opened => propertyName_houses.after fun name => ?_
  refine (propertyRest_houses (by simp)).after fun rest => closeNode_houses rfl ?_
  simp [Shape.parts]

theorem object_houses : object.Houses S inside kept := by
  refine openNode_houses.after fun opened => take_houses.after fun _ => ?_
  refine (items_houses _ objectProperty_houses).after fun found => ?_
  refine (expect_houses _).after fun _ => closeNode_houses rfl ?_
  simp [Shape.parts, Shape.children]

/-- Behind an item the list is kept, whether it ends or goes on. -/
theorem parenthesizedTurn_houses {found : Array Node} {hasRest : Bool} {before : Nat}
    (here : found.toList ⊆ kept) :
    (parenthesizedTurn found hasRest before).Houses S inside kept := by
  refine consumed_houses.after fun after => .ite (.pure (by grind)) ?_
  exact (eat_houses .comma).after fun goes => .ite (.pure (by grind)) (.pure (by grind))

/-- Items in parentheses are kept until it is known what they are. -/
theorem parenthesized_houses : parenthesized.Houses S inside kept := by
  rw [parenthesized_eq]
  refine .loop (List.nil_subset _) fun state => (isAtClose_houses _).after fun closes => ?_
  refine .ite (.pure (by simp)) (consumed_houses.after fun before => ?_)
  refine (isAt_houses .ellipsis).after fun isRest => .ite ?_ ?_
  · exact restElement_houses.after fun item => parenthesizedTurn_houses (by grind)
  · exact (assignment_houses false).after fun item => parenthesizedTurn_houses (by grind)

/-- They become parameters, or an operand. -/
theorem parenOrArrow_houses : parenOrArrow.Houses S inside kept := by
  refine here_houses.after fun start => take_houses.after fun _ => here_houses.after fun inner => ?_
  refine parenthesized_houses.after fun found => situation_houses.after fun s => ?_
  refine (expect_houses _).after fun _ => isAtArrow_houses.after fun arrow => .ite ?_ ?_
  · refine (asPatterns_houses (by grind)).after fun params => arrowBody_houses ?_
    simp
  · refine .ite (unexpected_houses.after fun _ => ?_) ?_
    all_goals
      split
      · exact placeholder_houses
      · rename_i only same
        exact .pure (show [only] ⊆ _ by rw [← same]; grind)
      · exact closeNodeAt_houses rfl (show found.1 ⊆ _ by grind)

theorem newObject_houses : newObject.Houses S inside kept := by
  refine openNode_houses.after fun opened => take_houses.after fun _ => ?_
  refine here_houses.after fun start => atom_houses.after fun base => ?_
  refine (subscripts_houses (by simp)).after fun callee => ?_
  refine (isAt_houses .openParen).after fun called => .ite ?_ ?_
  · refine callArguments_houses.after fun arguments => closeNode_houses rfl ?_
    grind [Shape.parts, Shape.children]
  · exact closeNode_houses rfl (by simp [Shape.parts, Shape.children])

theorem wordAtom_houses (word : Keyword) : (wordAtom word).Houses S inside kept := by
  simp only [wordAtom]
  split
  · exact leaf_houses rfl rfl
  · exact leaf_houses rfl rfl
  · exact literal_houses
  · exact literal_houses
  · exact literal_houses
  · exact openNode_houses.after fun opened => function_houses opened false
  · exact openNode_houses.after fun opened => classPhrase_houses opened false
  · exact newObject_houses
  · exact missing_houses

theorem atomRule_houses : atomRule.Houses S inside kept := by
  refine token_houses.after fun t => ?_
  split
  · exact wordAtom_houses _
  · exact nameOrArrow_houses
  · exact literal_houses
  · exact literal_houses
  · exact literal_houses
  · exact template_houses
  · exact parenOrArrow_houses
  · exact array_houses
  · exact object_houses
  · exact missing_houses

end ScriptTree.Grammar

import ScriptTree.Proofs.Grammar.Piece
import ScriptTree.Proofs.Level.Basic
import ScriptTree.Proofs.Node.Pattern

/-! # Levels in rules

    The vocabulary of the grammar opens no level by itself, and a rule that is put together
    from framed ones is framed.  Two rules are chains and open levels of their own; every
    caller puts them in a frame. -/

namespace ScriptTree.Grammar

open Rule

variable {chained blames : Bool}

/-! ## Phrases -/

@[simp] theorem situation_framed : situation.Framed chained blames := fun _ => trivial

@[simp] theorem token_framed : token.Framed chained blames := fun _ => trivial

@[simp] theorem take_framed : take.Framed chained blames := fun _ => trivial

@[simp] theorem here_framed : here.Framed chained blames := fun _ => trivial

@[simp] theorem consumed_framed : consumed.Framed chained blames := fun _ => trivial

@[simp] theorem placeholder_framed : placeholder.Framed chained blames := fun _ => trivial

@[simp] theorem isAt_framed (mark : Punctuator) : (isAt mark).Framed chained blames :=
  fun _ => trivial

@[simp] theorem isAtWord_framed (word : Keyword) : (isAtWord word).Framed chained blames :=
  fun _ => trivial

@[simp] theorem isAtClose_framed (close : Punctuator) : (isAtClose close).Framed chained blames :=
  fun _ => trivial

@[simp] theorem complain_framed {span : Span} {fault : Fault}
    (other : fault = .nestingTooDeep → blames = true) :
    (complain span fault).Framed chained blames :=
  ⟨other, trivial⟩

@[simp] theorem complainHere_framed {fault : Fault}
    (other : fault = .nestingTooDeep → blames = true) :
    (complainHere fault).Framed chained blames :=
  fun _ => complain_framed other

@[simp] theorem unexpected_framed : unexpected.Framed chained blames :=
  fun _ => complain_framed (by split <;> nofun)

@[simp] theorem missing_framed : missing.Framed chained blames :=
  unexpected_framed.bind fun _ => placeholder_framed

@[simp] theorem eat_framed (mark : Punctuator) : (eat mark).Framed chained blames :=
  fun _ => .ite (fun _ => trivial) trivial

@[simp] theorem eatWord_framed (word : Keyword) : (eatWord word).Framed chained blames :=
  fun _ => .ite (fun _ => trivial) trivial

@[simp] theorem expect_framed (mark : Punctuator) : (expect mark).Framed chained blames :=
  (eat_framed mark).bind fun _ => .ite (.pure _) unexpected_framed

@[simp] theorem expectWord_framed (word : Keyword) : (expectWord word).Framed chained blames :=
  (eatWord_framed word).bind fun _ => .ite (.pure _) unexpected_framed

@[simp] theorem semicolon_framed : semicolon.Framed chained blames :=
  (eat_framed .semicolon).bind fun _ => .ite (.pure _) <|
    situation_framed.bind fun _ => .ite (.pure _) unexpected_framed

@[simp] theorem openNode_framed : openNode.Framed chained blames := fun _ _ => trivial

@[simp] theorem closeNodeAt_framed (opened : Opened) (shape : Shape Node) (stop : Nat) :
    (closeNodeAt opened shape stop).Framed chained blames :=
  fun _ => trivial

@[simp] theorem closeNode_framed (opened : Opened) (shape : Shape Node) :
    (closeNode opened shape).Framed chained blames :=
  fun _ => closeNodeAt_framed opened shape _

/-! ## Calls -/

@[simp] theorem parse_framed {phrase : Nonterminal} (plain : phrase.isChain = false) :
    (parse phrase).Framed chained blames := .call plain

@[simp] theorem parseNested_framed {phrase : Nonterminal} (plain : phrase.isChain = false) :
    (parseNested phrase).Framed chained blames := .call plain

/-- A chain is framed by the frame that it is called in. -/
@[simp] theorem parseChain_framed (phrase : Nonterminal) :
    (parseChain phrase).Framed chained blames :=
  ⟨fun _ => rfl, fun _ => trivial⟩

@[simp] theorem statement_framed : statement.Framed chained blames := parseNested_framed rfl

@[simp] theorem assignment_framed (noIn : Bool) : (assignment noIn).Framed chained blames :=
  parse_framed rfl

@[simp] theorem unary_framed : unary.Framed chained blames := parseNested_framed rfl

@[simp] theorem functionBody_framed : functionBody.Framed chained blames := .call rfl

@[simp] theorem expression_framed (noIn : Bool) : (expression noIn).Framed chained blames := by
  refine here_framed.bind fun start => (assignment_framed noIn).bind fun first => ?_
  refine (isAt_framed .comma).bind fun more => .ite ?_ (.pure first)
  refine .bind (.loop fun found => ?_) fun found => closeNode_framed _ _
  refine (eat_framed .comma).bind fun goes => .ite ?_ (.pure _)
  exact (assignment_framed noIn).bind fun next => .pure _

/-! ## Leaves -/

@[simp] theorem leaf_framed (shape : Shape Node) : (leaf shape).Framed chained blames :=
  openNode_framed.bind fun _ => take_framed.bind fun _ => closeNode_framed _ _

@[simp] theorem identifier_framed : identifier.Framed chained blames := by
  refine token_framed.bind fun t => ?_
  split
  · exact leaf_framed _
  · exact missing_framed

@[simp] theorem identifierName_framed : identifierName.Framed chained blames := by
  refine token_framed.bind fun t => ?_
  split
  · exact leaf_framed _
  · exact leaf_framed _
  · exact missing_framed

@[simp] theorem literal_framed : literal.Framed chained blames := by
  refine token_framed.bind fun t => ?_
  split
  · exact leaf_framed _
  · exact missing_framed

@[simp] theorem propertyName_framed : propertyName.Framed chained blames := by
  refine (eat_framed .openBracket).bind fun computed => .ite ?_ ?_
  · refine (assignment_framed false).bind fun key => ?_
    exact (expect_framed _).bind fun _ => .pure _
  · refine token_framed.bind fun t => ?_
    split
    · exact literal_framed.bind fun _ => .pure _
    · exact literal_framed.bind fun _ => .pure _
    · exact identifierName_framed.bind fun _ => .pure _

/-! ## Lists -/

section Lists

variable {item : Rule Node}

@[simp] theorem endItem_framed (close : Punctuator) (before : Nat) :
    (endItem close before).Framed chained blames := by
  refine consumed_framed.bind fun after => .ite (.pure _) ?_
  refine (isAt_framed close).bind fun closes => .ite (.pure _) ?_
  refine (eat_framed .comma).bind fun goes => .ite (.pure _) ?_
  exact unexpected_framed.bind fun _ => .pure _

@[simp] theorem items_framed (close : Punctuator) (h : item.Framed chained blames) :
    (items close item).Framed chained blames := by
  refine .loop fun found => (isAtClose_framed close).bind fun closes => .ite (.pure _) ?_
  refine consumed_framed.bind fun before => h.bind fun n => ?_
  exact (endItem_framed close before).bind fun more => .ite (.pure _) (.pure _)

@[simp] theorem elements_framed (close : Punctuator) (h : item.Framed chained blames) :
    (elements close item).Framed chained blames := by
  refine .loop fun found => (isAtClose_framed close).bind fun closes => .ite (.pure _) ?_
  refine (eat_framed .comma).bind fun hole => .ite (.pure _) ?_
  refine consumed_framed.bind fun before => h.bind fun n => ?_
  exact (endItem_framed close before).bind fun more => .ite (.pure _) (.pure _)

@[simp] theorem commaChain_framed (close : Punctuator) (h : item.Framed chained blames) :
    (commaChain close item).Framed chained blames := by
  refine .loop fun found => (isAtClose_framed close).bind fun closes => .ite (.pure _) ?_
  refine consumed_framed.bind fun before => h.bind fun n => ?_
  refine consumed_framed.bind fun after => .ite (.pure _) ?_
  exact (eat_framed .comma).bind fun goes => .ite (.pure _) (.pure _)

/-- One round of a list of statements. -/
def statementRound (ends : Token → Bool) (found : Array Node) :
    Rule (Turn (Array Node) (List Node)) := do
  let s ← situation
  if s.token.isEnd || ends s.token then pure (.leave found.toList)
  else
    let next ← statement
    let after ← consumed
    if after == s.consumed then
      let _ ← take
      pure (.again found)
    else pure (.again (found.push next))

theorem statementsUntil_eq (ends : Token → Bool) :
    statementsUntil ends = Rule.loop #[] (statementRound ends) := rfl

theorem statementRound_framed (ends : Token → Bool) (found : Array Node) :
    (statementRound ends found).Framed chained blames := by
  refine situation_framed.bind fun s => .ite (.pure _) ?_
  refine statement_framed.bind fun next => consumed_framed.bind fun after => ?_
  exact .ite (take_framed.bind fun _ => .pure _) (.pure _)

@[simp] theorem statementsUntil_framed (ends : Token → Bool) :
    (statementsUntil ends).Framed chained blames :=
  .loop fun found => statementRound_framed ends found

end Lists

/-! ## Patterns -/

@[simp] theorem bindingTarget_framed : bindingTarget.Framed chained blames := by
  refine token_framed.bind fun t => ?_
  split
  · exact identifier_framed
  · exact parseNested_framed rfl
  · exact parseNested_framed rfl
  · exact missing_framed

@[simp] theorem withDefault_framed (start : Nat) (target : Node) :
    (withDefault start target).Framed chained blames :=
  (assignment_framed false).bind fun _ => closeNode_framed _ _

@[simp] theorem bindingElement_framed : bindingElement.Framed chained blames := by
  refine here_framed.bind fun start => bindingTarget_framed.bind fun target => ?_
  exact (eat_framed .assign).bind fun defaults => .ite (withDefault_framed _ _) (.pure target)

@[simp] theorem restElement_framed : restElement.Framed chained blames := by
  refine openNode_framed.bind fun opened => take_framed.bind fun _ => ?_
  exact bindingTarget_framed.bind fun argument => closeNode_framed _ _

@[simp] theorem bindingOrRest_framed : bindingOrRest.Framed chained blames :=
  (isAt_framed .ellipsis).bind fun _ => .ite restElement_framed bindingElement_framed

@[simp] theorem arrayPattern_framed : arrayPattern.Framed chained blames := by
  refine openNode_framed.bind fun opened => take_framed.bind fun _ => ?_
  refine (elements_framed _ bindingOrRest_framed).bind fun found => ?_
  exact (expect_framed _).bind fun _ => closeNode_framed _ _

@[simp] theorem patternProperty_framed : patternProperty.Framed chained blames := by
  refine openNode_framed.bind fun opened => propertyName_framed.bind fun name => ?_
  refine (eat_framed .colon).bind fun colon => .ite ?_ ?_
  · exact bindingElement_framed.bind fun value => closeNode_framed _ _
  split
  · refine (eat_framed .assign).bind fun defaults => .ite ?_ (closeNode_framed _ _)
    exact (withDefault_framed _ _).bind fun value => closeNode_framed _ _
  · exact missing_framed.bind fun value => closeNode_framed _ _

@[simp] theorem objectPattern_framed : objectPattern.Framed chained blames := by
  refine openNode_framed.bind fun opened => take_framed.bind fun _ => ?_
  refine (items_framed _ patternProperty_framed).bind fun found => ?_
  exact (expect_framed _).bind fun _ => closeNode_framed _ _

/-! ## Functions and classes -/

@[simp] theorem parameters_framed : parameters.Framed chained blames := by
  refine (expect_framed _).bind fun _ => ?_
  refine (commaChain_framed _ bindingOrRest_framed).bind fun params => ?_
  exact (expect_framed _).bind fun _ => .pure _

@[simp] theorem optionalName_framed (isStatement : Bool) :
    (optionalName isStatement).Framed chained blames := by
  refine token_framed.bind fun t => .ite ?_ (.ite ?_ (.pure _))
  · exact identifier_framed.bind fun name => .pure _
  · exact unexpected_framed.bind fun _ => .pure _

@[simp] theorem functionRest_framed (opened : Opened) (isStatement : Bool) :
    (functionRest opened isStatement).Framed chained blames := by
  refine (optionalName_framed isStatement).bind fun name => ?_
  refine parameters_framed.bind fun params => functionBody_framed.bind fun body => ?_
  exact closeNode_framed _ _

@[simp] theorem function_framed (opened : Opened) (isStatement : Bool) :
    (function opened isStatement).Framed chained blames := by
  rw [function_eq]
  refine take_framed.bind fun _ => (isAt_framed .times).bind fun generates => ?_
  refine .ite ?_ (functionRest_framed _ _)
  refine (complainHere_framed (by nofun)).bind fun _ => ?_
  exact take_framed.bind fun _ => functionRest_framed _ _

@[simp] theorem methodFunction_framed : methodFunction.Framed chained blames := by
  refine openNode_framed.bind fun opened => parameters_framed.bind fun params => ?_
  exact functionBody_framed.bind fun body => closeNode_framed _ _

@[simp] theorem classMethod_framed : classMethod.Framed chained blames := by
  refine openNode_framed.bind fun opened => propertyName_framed.bind fun first => ?_
  have method {key : Node} {kind : MethodKind} {computed isStatic : Bool} :
      Rule.Framed chained blames (do
        let value ← methodFunction
        closeNode opened (.methodDefinition key value kind computed isStatic)) :=
    methodFunction_framed.bind fun value => closeNode_framed _ _
  refine (isAt_framed .openParen).bind fun called => .ite ?_ ?_
  · refine propertyName_framed.bind fun second => (isAt_framed .openParen).bind fun called => ?_
    exact .ite (propertyName_framed.bind fun key => method) method
  · refine (isAt_framed .openParen).bind fun called => ?_
    exact .ite (propertyName_framed.bind fun key => method) method

@[simp] theorem classMethods_framed : classMethods.Framed chained blames := by
  refine .loop fun found => (isAtClose_framed _).bind fun closes => .ite (.pure _) ?_
  refine (eat_framed .semicolon).bind fun stray => .ite (.pure _) ?_
  refine consumed_framed.bind fun before => classMethod_framed.bind fun n => ?_
  refine consumed_framed.bind fun after => .ite ?_ (.pure _)
  exact take_framed.bind fun _ => .pure _

@[simp] theorem classRest_framed (opened : Opened) (isStatement : Bool)
    (name superClass : Option Node) :
    (classRest opened isStatement name superClass).Framed chained blames := by
  refine openNode_framed.bind fun inner => (expect_framed _).bind fun _ => ?_
  refine classMethods_framed.bind fun methods => (expect_framed _).bind fun _ => ?_
  exact (closeNode_framed _ _).bind fun body => closeNode_framed _ _

@[simp] theorem classPhrase_framed (opened : Opened) (isStatement : Bool) :
    (classPhrase opened isStatement).Framed chained blames := by
  rw [classPhrase_eq]
  refine take_framed.bind fun _ => (optionalName_framed isStatement).bind fun name => ?_
  refine (eatWord_framed _).bind fun derived => .ite ?_ (classRest_framed _ _ _ _)
  refine here_framed.bind fun start => (parse_framed rfl).bind fun base => ?_
  exact (parseChain_framed _).bind fun superClass => classRest_framed _ _ _ _

/-! ## Assignments -/

@[simp] theorem asPattern_framed (n : Node) : (asPattern n).Framed chained blames := by
  rw [asPattern]
  split
  · rename_i span fault found
    refine ⟨fun same => ?_, trivial⟩
    rcases n.fault_of_patternFault?.1 _ found with rfl | rfl <;> cases same
  · trivial

@[simp] theorem asPatterns_framed (found : List Node) :
    (asPatterns found).Framed chained blames := by
  induction found with
  | nil => trivial
  | cons item rest ih =>
      exact (asPattern_framed item).bind fun first => ih.bind fun others => .pure _

@[simp] theorem checkSimpleTarget_framed (n : Node) : (checkSimpleTarget n).Framed chained blames :=
  .ite trivial (complain_framed nofun)

@[simp] theorem assignmentTarget_framed (operator : Punctuator) (left : Node) :
    (assignmentTarget operator left).Framed chained blames :=
  .ite (asPattern_framed left) ((checkSimpleTarget_framed left).bind fun _ => .pure _)

@[simp] theorem conditional_framed (noIn : Bool) : (conditional noIn).Framed chained blames := by
  refine here_framed.bind fun start => unary_framed.bind fun left => ?_
  refine (parseChain_framed _).bind fun test => ?_
  refine (eat_framed .question).bind fun asks => .ite ?_ (.pure _)
  refine (parseNested_framed rfl).bind fun consequent => (expect_framed _).bind fun _ => ?_
  exact (parseNested_framed rfl).bind fun alternate => closeNode_framed _ _

@[simp] theorem assignmentRule_framed (noIn : Bool) :
    (assignmentRule noIn).Framed chained blames := by
  refine here_framed.bind fun start => (conditional_framed noIn).bind fun left => ?_
  refine token_framed.bind fun t => ?_
  split
  · exact .pure _
  · refine (assignmentTarget_framed _ _).bind fun target => take_framed.bind fun _ => ?_
    exact (parseNested_framed rfl).bind fun right => closeNode_framed _ _

/-! ## Operators -/

@[simp] theorem operatorTurn_framed (left : Node) (start : Nat) (operator : BinaryOperator)
    (noIn : Bool) : (operatorTurn left start operator noIn).Framed chained blames := by
  refine take_framed.bind fun _ => here_framed.bind fun rightStart => ?_
  refine unary_framed.bind fun operand => (parseChain_framed _).bind fun right => ?_
  exact (closeNode_framed _ _).bind fun whole => .pure _

/-- A chain opens a level in each round. -/
theorem deepen_framed {leave rest : Rule (Turn Node Node)} (h : leave.Framed true blames)
    (k : rest.Framed true blames) :
    (Rule.deepen .done >>= fun ok => if (!ok) = true then leave else rest).Framed true blames :=
  ⟨rfl, fun _ => .ite h k⟩

@[simp] theorem operatorsRule_framed (left : Node) (start minimum : Nat) (noIn : Bool) :
    (operatorsRule left start minimum noIn).Framed true blames := by
  refine .loop fun left => token_framed.bind fun t => ?_
  split
  · exact .pure _
  · exact .ite (.pure _) (deepen_framed (.pure _) (operatorTurn_framed _ _ _ _))

@[simp] theorem postfixOperators_framed (start : Nat) (operand : Node) :
    (postfixOperators start operand).Framed chained blames := by
  refine .loop fun operand => token_framed.bind fun next => ?_
  split
  · exact .pure _
  refine .ite (.pure _) ((checkSimpleTarget_framed operand).bind fun _ => ?_)
  exact take_framed.bind fun _ => (closeNode_framed _ _).bind fun whole => .pure _

@[simp] theorem unaryRule_framed : unaryRule.Framed chained blames := by
  refine token_framed.bind fun t => ?_
  split
  · refine openNode_framed.bind fun opened => take_framed.bind fun _ => ?_
    refine unary_framed.bind fun argument => (checkSimpleTarget_framed argument).bind fun _ => ?_
    exact closeNode_framed _ _
  · refine openNode_framed.bind fun opened => take_framed.bind fun _ => ?_
    exact unary_framed.bind fun argument => closeNode_framed _ _
  · refine here_framed.bind fun start => (parse_framed rfl).bind fun base => ?_
    exact (parseChain_framed _).bind fun operand => postfixOperators_framed _ _

/-! ## Arguments, templates and subscripts -/

@[simp] theorem spreadOrAssignment_framed : spreadOrAssignment.Framed chained blames := by
  refine (isAt_framed .ellipsis).bind fun spreads => .ite ?_ (assignment_framed false)
  refine openNode_framed.bind fun opened => take_framed.bind fun _ => ?_
  exact (assignment_framed false).bind fun argument => closeNode_framed _ _

@[simp] theorem callArguments_framed : callArguments.Framed chained blames := by
  refine (expect_framed _).bind fun _ => ?_
  refine (items_framed _ spreadOrAssignment_framed).bind fun arguments => ?_
  exact (expect_framed _).bind fun _ => .pure _

@[simp] theorem template_framed : template.Framed chained blames := by
  refine openNode_framed.bind fun opened => ?_
  refine .bind (.loop ?_) fun found => closeNode_framed _ _
  rintro ⟨quasis, expressions⟩
  refine token_framed.bind fun chunk => ?_
  simp only
  split
  · exact unexpected_framed.bind fun _ => .pure _
  · refine take_framed.bind fun _ => (closeNodeAt_framed _ _ _).bind fun quasi => .ite (.pure _) ?_
    refine (expression_framed false).bind fun substitution => token_framed.bind fun next => ?_
    exact .ite (.pure _) (unexpected_framed.bind fun _ => .pure _)

@[simp] theorem subscript_framed (base : Node) (kind : Subscript) :
    (subscript base kind).Framed chained blames := by
  cases kind with
  | member => exact take_framed.bind fun _ => identifierName_framed.bind fun prop => .pure _
  | computedMember =>
      refine take_framed.bind fun _ => (expression_framed false).bind fun prop => ?_
      exact (expect_framed _).bind fun _ => .pure _
  | call => exact callArguments_framed.bind fun arguments => .pure _
  | template => exact template_framed.bind fun quasi => .pure _

@[simp] theorem subscriptsRule_framed (base : Node) (start : Nat) (noCalls : Bool) :
    (subscriptsRule base start noCalls).Framed true blames := by
  refine .loop fun base => token_framed.bind fun t => ?_
  split
  · exact .pure _
  · refine deepen_framed (.pure _) ((subscript_framed base _).bind fun shape => ?_)
    exact (closeNode_framed _ _).bind fun whole => .pure _

/-! ## Operands -/

@[simp] theorem isAtArrow_framed : isAtArrow.Framed chained blames := fun _ => trivial

@[simp] theorem arrowBody_framed (opened : Opened) (params : List Node) :
    (arrowBody opened params).Framed chained blames := by
  refine (expect_framed _).bind fun _ => (isAt_framed .openBrace).bind fun braced => .ite ?_ ?_
  · exact functionBody_framed.bind fun body => closeNode_framed _ _
  · exact (assignment_framed false).bind fun body => closeNode_framed _ _

@[simp] theorem nameOrArrow_framed : nameOrArrow.Framed chained blames := by
  refine here_framed.bind fun start => identifier_framed.bind fun name => ?_
  exact isAtArrow_framed.bind fun arrow => .ite (arrowBody_framed _ _) (.pure _)

@[simp] theorem array_framed : array.Framed chained blames := by
  refine openNode_framed.bind fun opened => take_framed.bind fun _ => ?_
  refine (elements_framed _ spreadOrAssignment_framed).bind fun found => ?_
  exact (expect_framed _).bind fun _ => closeNode_framed _ _

@[simp] theorem propertyRest_framed (key : Node) (computed : Bool) :
    (propertyRest key computed).Framed chained blames := by
  refine token_framed.bind fun next => ?_
  simp only
  split
  · refine propertyName_framed.bind fun name => ?_
    exact methodFunction_framed.bind fun value => .pure _
  · refine .ite ?_ ((eat_framed .colon).bind fun colon => .ite ?_ (.ite ?_ ?_))
    · exact methodFunction_framed.bind fun value => .pure _
    · exact (assignment_framed false).bind fun value => .pure _
    · refine (eat_framed .assign).bind fun defaults => .ite ?_ (.pure _)
      exact (withDefault_framed _ _).bind fun value => .pure _
    · exact missing_framed.bind fun value => .pure _

@[simp] theorem objectProperty_framed : objectProperty.Framed chained blames := by
  refine openNode_framed.bind fun opened => propertyName_framed.bind fun name => ?_
  exact (propertyRest_framed _ _).bind fun rest => closeNode_framed _ _

@[simp] theorem object_framed : object.Framed chained blames := by
  refine openNode_framed.bind fun opened => take_framed.bind fun _ => ?_
  refine (items_framed _ objectProperty_framed).bind fun found => ?_
  exact (expect_framed _).bind fun _ => closeNode_framed _ _

@[simp] theorem parenthesizedTurn_framed (found : Array Node) (hasRest : Bool) (before : Nat) :
    (parenthesizedTurn found hasRest before).Framed chained blames := by
  refine consumed_framed.bind fun after => .ite (.pure _) ?_
  exact (eat_framed .comma).bind fun goes => .ite (.pure _) (.pure _)

@[simp] theorem parenthesized_framed : parenthesized.Framed chained blames := by
  rw [parenthesized_eq]
  refine .loop fun state => (isAtClose_framed _).bind fun closes => .ite (.pure _) ?_
  refine consumed_framed.bind fun before => (isAt_framed .ellipsis).bind fun isRest => .ite ?_ ?_
  · exact restElement_framed.bind fun item => parenthesizedTurn_framed _ _ _
  · exact (assignment_framed false).bind fun item => parenthesizedTurn_framed _ _ _

@[simp] theorem parenOrArrow_framed : parenOrArrow.Framed chained blames := by
  refine here_framed.bind fun start => take_framed.bind fun _ => here_framed.bind fun inner => ?_
  refine parenthesized_framed.bind fun found => situation_framed.bind fun s => ?_
  refine (expect_framed _).bind fun _ => isAtArrow_framed.bind fun arrow => .ite ?_ ?_
  · exact (asPatterns_framed _).bind fun params => arrowBody_framed _ _
  refine .ite (unexpected_framed.bind fun _ => ?_) ?_
  all_goals
    split
    · exact placeholder_framed
    · exact .pure _
    · exact closeNodeAt_framed _ _ _

@[simp] theorem newObject_framed : newObject.Framed chained blames := by
  refine openNode_framed.bind fun opened => take_framed.bind fun _ => ?_
  refine here_framed.bind fun start => (parse_framed rfl).bind fun base => ?_
  refine (parseChain_framed _).bind fun callee => ?_
  refine (isAt_framed .openParen).bind fun called => .ite ?_ (closeNode_framed _ _)
  exact callArguments_framed.bind fun arguments => closeNode_framed _ _

@[simp] theorem wordAtom_framed (word : Keyword) : (wordAtom word).Framed chained blames := by
  simp only [wordAtom]
  split
  · exact leaf_framed _
  · exact leaf_framed _
  · exact literal_framed
  · exact literal_framed
  · exact literal_framed
  · exact openNode_framed.bind fun opened => function_framed opened false
  · exact openNode_framed.bind fun opened => classPhrase_framed opened false
  · exact newObject_framed
  · exact missing_framed

@[simp] theorem atomRule_framed : atomRule.Framed chained blames := by
  refine token_framed.bind fun t => ?_
  split
  · exact wordAtom_framed _
  · exact nameOrArrow_framed
  · exact literal_framed
  · exact literal_framed
  · exact literal_framed
  · exact template_framed
  · exact parenOrArrow_framed
  · exact array_framed
  · exact object_framed
  · exact missing_framed

/-! ## Blocks and declarations -/

@[simp] theorem blockRule_framed : blockRule.Framed chained blames := by
  refine openNode_framed.bind fun opened => (expect_framed _).bind fun _ => ?_
  refine (statementsUntil_framed _).bind fun body => (expect_framed _).bind fun _ => ?_
  exact closeNode_framed _ _

@[simp] theorem parenExpression_framed : parenExpression.Framed chained blames := by
  refine (expect_framed _).bind fun _ => (expression_framed false).bind fun inner => ?_
  exact (expect_framed _).bind fun _ => .pure _

@[simp] theorem declaratorTurn_framed (opened : Opened) (found : Array Node) (id : Node)
    (init : Option Node) : (declaratorTurn opened found id init).Framed chained blames := by
  refine (closeNode_framed _ _).bind fun n => (eat_framed .comma).bind fun goes => ?_
  exact .ite (.pure _) (.pure _)

@[simp] theorem declarators_framed (noIn : Bool) : (declarators noIn).Framed chained blames := by
  rw [declarators_eq]
  refine .loop fun found => openNode_framed.bind fun opened => ?_
  refine bindingTarget_framed.bind fun id => (eat_framed .assign).bind fun assigned => ?_
  refine .ite ?_ (declaratorTurn_framed _ _ _ _)
  exact (assignment_framed noIn).bind fun init => declaratorTurn_framed _ _ _ _

@[simp] theorem variableStatement_framed (kind : BindingKind) :
    (variableStatement kind).Framed chained blames := by
  refine openNode_framed.bind fun opened => take_framed.bind fun _ => ?_
  refine (declarators_framed false).bind fun found => semicolon_framed.bind fun _ => ?_
  exact closeNode_framed _ _

/-! ## Control flow -/

@[simp] theorem ifStatement_framed : ifStatement.Framed chained blames := by
  refine openNode_framed.bind fun opened => take_framed.bind fun _ => ?_
  refine parenExpression_framed.bind fun test => statement_framed.bind fun consequent => ?_
  refine (eatWord_framed _).bind fun otherwise => .ite ?_ (closeNode_framed _ _)
  exact statement_framed.bind fun alternate => closeNode_framed _ _

@[simp] theorem forBody_framed (opened : Opened) (init test update : Option Node) :
    (forBody opened init test update).Framed chained blames := by
  refine (expect_framed _).bind fun _ => statement_framed.bind fun body => ?_
  exact closeNode_framed _ _

@[simp] theorem forUpdate_framed (opened : Opened) (init test : Option Node) :
    (forUpdate opened init test).Framed chained blames := by
  refine (expect_framed _).bind fun _ => (isAt_framed .closeParen).bind fun none => ?_
  refine .ite (forBody_framed _ _ _ _) ?_
  exact (expression_framed false).bind fun update => forBody_framed _ _ _ _

@[simp] theorem forRest_framed (opened : Opened) (init : Option Node) :
    (forRest opened init).Framed chained blames := by
  rw [forRest_eq]
  refine (expect_framed _).bind fun _ => (isAt_framed .semicolon).bind fun none => ?_
  refine .ite (forUpdate_framed _ _ _) ?_
  exact (expression_framed false).bind fun test => forUpdate_framed _ _ _

@[simp] theorem forEachBody_framed (opened : Opened) (isOf : Bool) (left right : Node) :
    (forEachBody opened isOf left right).Framed chained blames := by
  refine (expect_framed _).bind fun _ => statement_framed.bind fun body => ?_
  exact closeNode_framed _ _

@[simp] theorem forEach_framed (opened : Opened) (left : Node) :
    (forEach opened left).Framed chained blames := by
  rw [forEach_eq]
  refine token_framed.bind fun t => take_framed.bind fun _ => .ite ?_ ?_
  · exact (assignment_framed false).bind fun right => forEachBody_framed _ _ _ _
  · exact (expression_framed false).bind fun right => forEachBody_framed _ _ _ _

@[simp] theorem isAtForEach_framed : isAtForEach.Framed chained blames := fun _ => trivial

@[simp] theorem forStatement_framed : forStatement.Framed chained blames := by
  refine openNode_framed.bind fun opened => take_framed.bind fun _ => ?_
  refine (expect_framed _).bind fun _ => (isAt_framed .semicolon).bind fun none => ?_
  refine .ite (forRest_framed _ _) (situation_framed.bind fun s => ?_)
  split
  · refine openNode_framed.bind fun declaration => take_framed.bind fun _ => ?_
    refine (declarators_framed true).bind fun found => ?_
    refine (closeNode_framed _ _).bind fun init => isAtForEach_framed.bind fun each => ?_
    exact .ite (forEach_framed _ _) (forRest_framed _ _)
  · refine (expression_framed true).bind fun init => isAtForEach_framed.bind fun each => ?_
    exact .ite ((asPattern_framed _).bind fun left => forEach_framed _ _) (forRest_framed _ _)

@[simp] theorem whileStatement_framed : whileStatement.Framed chained blames := by
  refine openNode_framed.bind fun opened => take_framed.bind fun _ => ?_
  refine parenExpression_framed.bind fun test => statement_framed.bind fun body => ?_
  exact closeNode_framed _ _

@[simp] theorem doWhileStatement_framed : doWhileStatement.Framed chained blames := by
  refine openNode_framed.bind fun opened => take_framed.bind fun _ => ?_
  refine statement_framed.bind fun body => (expectWord_framed _).bind fun _ => ?_
  refine parenExpression_framed.bind fun test => (eat_framed _).bind fun _ => ?_
  exact closeNode_framed _ _

@[simp] theorem returnValue_framed (opened : Opened) (ended : Bool) :
    (returnValue opened ended).Framed chained blames := by
  refine .ite (closeNode_framed _ _) ((expression_framed false).bind fun argument => ?_)
  exact semicolon_framed.bind fun _ => closeNode_framed _ _

@[simp] theorem returnRest_framed (opened : Opened) :
    (returnRest opened).Framed chained blames := by
  refine (eat_framed .semicolon).bind fun ended => .ite (returnValue_framed opened true) ?_
  exact situation_framed.bind fun s => returnValue_framed _ _

@[simp] theorem returnStatement_framed : returnStatement.Framed chained blames := by
  rw [returnStatement_eq]
  refine openNode_framed.bind fun opened => situation_framed.bind fun s => ?_
  refine .ite (take_framed.bind fun _ => returnRest_framed _) ?_
  refine (complainHere_framed (by nofun)).bind fun _ => ?_
  exact take_framed.bind fun _ => returnRest_framed _

@[simp] theorem jumpLabel_framed : jumpLabel.Framed chained blames := by
  refine token_framed.bind fun next => .ite ?_ (.pure _)
  exact identifier_framed.bind fun label => .pure _

@[simp] theorem jumpStatement_framed (shape : Option Node → Shape Node) :
    (jumpStatement shape).Framed chained blames := by
  refine openNode_framed.bind fun opened => take_framed.bind fun _ => ?_
  refine jumpLabel_framed.bind fun label => semicolon_framed.bind fun _ => ?_
  exact closeNode_framed _ _

@[simp] theorem throwRest_framed (opened : Opened) :
    (throwRest opened).Framed chained blames := by
  refine (expression_framed false).bind fun argument => semicolon_framed.bind fun _ => ?_
  exact closeNode_framed _ _

@[simp] theorem throwStatement_framed : throwStatement.Framed chained blames := by
  rw [throwStatement_eq]
  refine openNode_framed.bind fun opened => take_framed.bind fun _ => ?_
  refine situation_framed.bind fun s => .ite ?_ (throwRest_framed _)
  exact (complain_framed (by nofun)).bind fun _ => throwRest_framed _

@[simp] theorem catchClause_framed : catchClause.Framed chained blames := by
  refine openNode_framed.bind fun opened => take_framed.bind fun _ => ?_
  refine (expect_framed _).bind fun _ => bindingTarget_framed.bind fun param => ?_
  refine (expect_framed _).bind fun _ => (parse_framed rfl).bind fun body => ?_
  exact closeNode_framed _ _

@[simp] theorem tryEnd_framed (opened : Opened) (block : Node)
    (handler finalizer : Option Node) :
    (tryEnd opened block handler finalizer).Framed chained blames :=
  .ite ((complainHere_framed (by nofun)).bind fun _ => closeNode_framed _ _)
    (closeNode_framed _ _)

@[simp] theorem tryRest_framed (opened : Opened) (block : Node) (handler : Option Node) :
    (tryRest opened block handler).Framed chained blames := by
  refine (eatWord_framed _).bind fun lasts => .ite ?_ (tryEnd_framed _ _ _ _)
  exact (parse_framed rfl).bind fun finalizer => tryEnd_framed _ _ _ _

@[simp] theorem tryStatement_framed : tryStatement.Framed chained blames := by
  rw [tryStatement_eq]
  refine openNode_framed.bind fun opened => take_framed.bind fun _ => ?_
  refine (parse_framed rfl).bind fun block => (isAtWord_framed .catchWord).bind fun catches => ?_
  refine .ite ?_ (tryRest_framed _ _ _)
  exact catchClause_framed.bind fun handler => tryRest_framed _ _ _

@[simp] theorem caseRest_framed (opened : Opened) (test : Option Node) :
    (caseRest opened test).Framed chained blames := by
  refine (expect_framed _).bind fun _ => (statementsUntil_framed _).bind fun consequent => ?_
  exact closeNode_framed _ _

@[simp] theorem switchCases_framed : switchCases.Framed chained blames := by
  refine .loop fun found => (isAtClose_framed _).bind fun closes => .ite (.pure _) ?_
  refine openNode_framed.bind fun opened => (eatWord_framed _).bind fun tested => .ite ?_ ?_
  · refine (expression_framed false).bind fun test => ?_
    exact (caseRest_framed _ _).bind fun clause => .pure _
  refine (eatWord_framed _).bind fun last => .ite ?_ ?_
  · exact (caseRest_framed _ _).bind fun clause => .pure _
  · exact unexpected_framed.bind fun _ => take_framed.bind fun _ => .pure _

@[simp] theorem switchStatement_framed : switchStatement.Framed chained blames := by
  refine openNode_framed.bind fun opened => take_framed.bind fun _ => ?_
  refine parenExpression_framed.bind fun discriminant => (expect_framed _).bind fun _ => ?_
  refine switchCases_framed.bind fun cases => (expect_framed _).bind fun _ => ?_
  exact closeNode_framed _ _

@[simp] theorem withStatement_framed : withStatement.Framed chained blames := by
  refine openNode_framed.bind fun opened => take_framed.bind fun _ => ?_
  refine parenExpression_framed.bind fun object => statement_framed.bind fun body => ?_
  exact closeNode_framed _ _

/-! ## All statements -/

@[simp] theorem expressionEnd_framed (opened : Opened) (inner : Node) :
    (expressionEnd opened inner).Framed chained blames :=
  semicolon_framed.bind fun _ => closeNode_framed _ _

@[simp] theorem expressionStatement_framed : expressionStatement.Framed chained blames := by
  rw [expressionStatement_eq]
  refine openNode_framed.bind fun opened => (expression_framed false).bind fun inner => ?_
  split
  · refine (eat_framed .colon).bind fun labels => .ite ?_ (expressionEnd_framed _ _)
    exact statement_framed.bind fun body => closeNode_framed _ _
  · exact expressionEnd_framed _ _

@[simp] theorem plainStatement_framed : plainStatement.Framed chained blames := by
  refine situation_framed.bind fun s => .ite (parse_framed rfl) (.ite (leaf_framed _) ?_)
  exact .ite (variableStatement_framed _) expressionStatement_framed

@[simp] theorem wordStatement_framed (word : Keyword) :
    (wordStatement word).Framed chained blames := by
  cases word with
  | varWord => exact variableStatement_framed _
  | constWord => exact variableStatement_framed _
  | functionWord => exact openNode_framed.bind fun opened => function_framed opened true
  | classWord => exact openNode_framed.bind fun opened => classPhrase_framed opened true
  | ifWord => exact ifStatement_framed
  | forWord => exact forStatement_framed
  | whileWord => exact whileStatement_framed
  | doWord => exact doWhileStatement_framed
  | returnWord => exact returnStatement_framed
  | breakWord => exact jumpStatement_framed _
  | continueWord => exact jumpStatement_framed _
  | throwWord => exact throwStatement_framed
  | tryWord => exact tryStatement_framed
  | switchWord => exact switchStatement_framed
  | withWord => exact withStatement_framed
  | debuggerWord =>
      refine openNode_framed.bind fun opened => take_framed.bind fun _ => ?_
      exact semicolon_framed.bind fun _ => closeNode_framed _ _
  | importWord =>
      exact (complainHere_framed (by nofun)).bind fun _ => plainStatement_framed
  | exportWord =>
      exact (complainHere_framed (by nofun)).bind fun _ => plainStatement_framed
  | _ => exact plainStatement_framed

@[simp] theorem statementRule_framed : statementRule.Framed chained blames := by
  refine token_framed.bind fun t => ?_
  split
  · exact wordStatement_framed _
  · exact plainStatement_framed

end ScriptTree.Grammar

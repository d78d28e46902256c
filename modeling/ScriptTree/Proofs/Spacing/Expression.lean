import ScriptTree.Proofs.Grammar.Piece
import ScriptTree.Proofs.Spacing.Phrase

/-! # Functions, classes and operators wherever their tokens stand

    What a name makes of the phrase behind it, its form tells; so a class or an
    assignment goes on in one way over all spacings. -/

namespace ScriptTree.Grammar

open Rule (Twin TwinBy Steady Turn)
open Rule.Twin (Turned)
open Node (form forms form? forms?)

/-! ## Functions and classes -/

theorem parameters_steady : parameters.Steady forms := by
  refine (expect_twin _).bindEq fun _ => ?_
  refine (commaChain_steady _ bindingOrRest_steady).bind fun params params' same => ?_
  exact (expect_twin _).bindEq fun _ => .pure same

theorem optionalName_steady (isStatement : Bool) : (optionalName isStatement).Steady form? := by
  refine token_twin.bind fun t u h => ?_
  rw [h.isName]
  refine .ite (fun _ => ?_) fun _ => .ite (fun _ => ?_) fun _ => .pure rfl
  · exact identifier_steady.bind fun name name' same => .pure (congrArg some same)
  · exact unexpected_twin.bindEq fun _ => .pure rfl

/-- A function is read alike wherever it was opened. -/
theorem functionRest_twin (opened opened' : Opened) (isStatement : Bool) :
    TwinBy form (functionRest opened isStatement) (functionRest opened' isStatement) := by
  refine (optionalName_steady _).bind fun name name' sameName => ?_
  refine parameters_steady.bind fun params params' sameParams => ?_
  refine functionBody_steady.bind fun body body' sameBody => closeNode_twin ?_ _ _
  cases isStatement <;> simp only [Shape.form, sameName, sameParams, sameBody, reduceIte,
    Bool.false_eq_true]

theorem function_twin (opened opened' : Opened) (isStatement : Bool) :
    TwinBy form (function opened isStatement) (function opened' isStatement) := by
  rw [function_eq, function_eq]
  refine take_twin.bind fun _ _ _ => ?_
  refine (isAt_twin _).bindEq fun isGenerator => .ite (fun _ => ?_) fun _ => functionRest_twin _ _ _
  refine (complainHere_twin _).bindEq fun _ => take_twin.bind fun _ _ _ => ?_
  exact functionRest_twin _ _ _

theorem methodFunction_steady : methodFunction.Steady form := by
  refine openNode_twin.bind fun opened opened' _ => ?_
  refine parameters_steady.bind fun params params' sameParams => ?_
  refine functionBody_steady.bind fun body body' sameBody => ?_
  exact closeNode_twin (by simp only [Shape.form, Node.form?, sameParams, sameBody]) _ _

theorem accessorKind?_congr {n m : Node} (same : n.form = m.form) :
    accessorKind? n = accessorKind? m := by
  rw [accessorKind?, Node.identifierName?_congr same, accessorKind?]

theorem isConstructorName_congr {n m : Node} (same : n.form = m.form) :
    isConstructorName n = isConstructorName m := by
  rw [isConstructorName, Node.identifierName?_congr same, Node.stringValue?_congr same,
    isConstructorName]

/-- Words in front of a name are words or names in both texts. -/
theorem classMethod_steady : classMethod.Steady form := by
  refine openNode_twin.bind fun opened opened' _ => ?_
  refine propertyName_steady.bind fun (first, firstComputed) (first', computed) same => ?_
  obtain ⟨same, rfl⟩ := Prod.mk.inj same
  refine (isAt_twin _).bindEq fun called => ?_
  simp only [Node.identifierName?_congr same]
  refine .optional propertyName_steady (congrArg (·, firstComputed) same)
    fun second second' same => ?_
  obtain ⟨second, secondComputed⟩ := second
  obtain ⟨second', computed⟩ := second'
  obtain ⟨same, rfl⟩ := Prod.mk.inj same
  refine (isAt_twin _).bindEq fun called => ?_
  simp only [accessorKind?_congr same]
  refine .optional propertyName_steady (congrArg (·, secondComputed) same) fun key key' same => ?_
  obtain ⟨key, computed⟩ := key
  obtain ⟨key', computed'⟩ := key'
  obtain ⟨same, rfl⟩ := Prod.mk.inj same
  refine methodFunction_steady.bind fun value value' sameValue => closeNode_twin ?_ _ _
  simp only [Shape.form, isConstructorName_congr same, same, sameValue]

theorem classMethods_steady : classMethods.Steady forms := by
  refine gather_steady rfl fun found found' same => ?_
  refine (isAtClose_twin _).bindEq fun ends => .ite (fun _ => .pure (.leave same)) fun _ => ?_
  refine (eat_twin _).bindEq fun stray => .ite (fun _ => .pure (.again same)) fun _ => ?_
  refine consumed_twin.bindEq fun before => ?_
  refine classMethod_steady.bind fun method method' new => ?_
  refine consumed_twin.bindEq fun after => .ite (fun _ => ?_) fun _ => ?_
  · exact take_twin.bind fun _ _ _ => .pure (.again same)
  · exact .pure (.again (forms_push same new))

/-- A subscript chain behind operands of one form. -/
theorem subscripts_twin {base base' : Node} (same : base.form = base'.form) (start start' : Nat)
    (noCalls : Bool) : TwinBy form (parseChain (.subscripts base start noCalls))
      (parseChain (.subscripts base' start' noCalls)) :=
  parseChain_twin (.subscripts same _ _ _)

/-- Behind its head a class is read alike. -/
theorem classRest_twin (opened opened' : Opened) (isStatement : Bool)
    {name name' superClass superClass' : Option Node} (sameName : form? name = form? name')
    (sameSuper : form? superClass = form? superClass') :
    TwinBy form (classRest opened isStatement name superClass)
      (classRest opened' isStatement name' superClass') := by
  refine openNode_twin.bind fun inner inner' _ => ?_
  refine (expect_twin _).bindEq fun _ => ?_
  refine classMethods_steady.bind fun methods methods' sameMethods => ?_
  refine (expect_twin _).bindEq fun _ => ?_
  refine (closeNode_twin (by simp only [Shape.form, sameMethods]) _ _).bind
    fun body body' sameBody => closeNode_twin ?_ _ _
  cases isStatement <;> simp only [Shape.form, sameName, sameSuper, sameBody, reduceIte,
    Bool.false_eq_true]

theorem classPhrase_twin (opened opened' : Opened) (isStatement : Bool) :
    TwinBy form (classPhrase opened isStatement) (classPhrase opened' isStatement) := by
  rw [classPhrase_eq, classPhrase_eq]
  refine take_twin.bind fun _ _ _ => ?_
  refine (optionalName_steady _).bind fun name name' sameName => ?_
  refine (eatWord_twin _).bindEq fun extended => .ite (fun _ => ?_) fun _ =>
    classRest_twin _ _ _ sameName rfl
  refine here_twin.bind fun start start' _ => ?_
  refine (parse_twin (.same .atom)).bind fun base base' same => ?_
  exact (subscripts_twin same _ _ _).bind fun superClass superClass' same =>
    classRest_twin _ _ _ sameName (congrArg some same)

/-! ## Assignments and operators -/

/-- Operators behind left operands of one form. -/
theorem operators_twin {left left' : Node} (same : left.form = left'.form)
    (start start' minimum : Nat) (noIn : Bool) :
    TwinBy form (parseChain (.operators left start minimum noIn))
      (parseChain (.operators left' start' minimum noIn)) :=
  parseChain_twin (.operators same _ _ _ _)

/-- A condition is one in both texts. -/
theorem conditional_steady (noIn : Bool) : (conditional noIn).Steady form := by
  refine here_twin.bind fun start start' _ => ?_
  refine unary_steady.bind fun left left' same => ?_
  refine (operators_twin same _ _ _ _).bind fun test test' sameTest => ?_
  refine (eat_twin _).bindEq fun asked => .ite (fun _ => ?_) fun _ => .pure sameTest
  refine (parseNested_steady _).bind fun consequent consequent' sameConsequent => ?_
  refine (expect_twin _).bindEq fun _ => ?_
  refine (parseNested_steady _).bind fun alternate alternate' sameAlternate => ?_
  exact closeNode_twin (by simp only [Shape.form, sameTest, sameConsequent, sameAlternate]) _ _

theorem assignmentTarget_twin (operator : Punctuator) {left left' : Node}
    (same : left.form = left'.form) :
    TwinBy form (assignmentTarget operator left) (assignmentTarget operator left') :=
  .ite (fun _ => asPattern_twin same) fun _ =>
    (checkSimpleTarget_twin same).bindEq fun _ => .pure same

/-- The operator of an assignment is a token. -/
theorem assignmentRule_steady (noIn : Bool) : (assignmentRule noIn).Steady form := by
  refine here_twin.bind fun start start' _ => ?_
  refine (conditional_steady noIn).bind fun left left' same => ?_
  refine token_twin.bind fun t u h => ?_
  rw [h.kind]
  split
  · exact .pure same
  · rename_i operator _
    refine (assignmentTarget_twin operator same).bind fun target target' sameTarget => ?_
    refine take_twin.bind fun _ _ _ => ?_
    refine (parseNested_steady _).bind fun right right' sameRight => ?_
    exact closeNode_twin (by simp only [Shape.form, sameTarget, sameRight]) _ _

theorem form_binaryShape (operator : BinaryOperator) {left left' right right' : Node}
    (sameLeft : left.form = left'.form) (sameRight : right.form = right'.form) :
    (binaryShape operator left right).form = (binaryShape operator left' right').form := by
  rw [binaryShape, binaryShape]
  split
  · simp only [Shape.form, sameLeft, sameRight]
  · simp only [Shape.form, sameLeft, sameRight]

/-- A loop that folds what follows onto a node. -/
theorem fold_twin {start start' : Node} (same : start.form = start'.form)
    {step step' : Node → Rule (Turn Node Node)}
    (h : ∀ left left', left.form = left'.form →
      Twin (Turned (fun n m : Node => n.form = m.form) fun n m : Node => n.form = m.form)
        (step left) (step' left')) : TwinBy form (Rule.loop start step) (Rule.loop start' step') :=
  .loop same h

/-- Operators that bind tight enough in one text do so in the other. -/
theorem operatorsRule_twin {left left' : Node} (same : left.form = left'.form)
    (start start' minimum : Nat) (noIn : Bool) :
    TwinBy form (operatorsRule left start minimum noIn)
      (operatorsRule left' start' minimum noIn) := by
  refine fold_twin same fun left left' same => ?_
  refine token_twin.bind fun t u h => ?_
  rw [h.kind]
  split
  · exact .pure (.leave same)
  · refine .ite (fun _ => .pure (.leave same)) fun _ => ?_
    refine (Twin.deepen fun ok => .done rfl).bindEq fun ok => ?_
    refine .ite (fun _ => .pure (.leave same)) fun _ => ?_
    refine take_twin.bind fun _ _ _ => ?_
    refine here_twin.bind fun here here' _ => ?_
    refine unary_steady.bind fun operand operand' sameOperand => ?_
    refine (operators_twin sameOperand _ _ _ _).bind fun right right' sameRight => ?_
    exact (closeNode_twin (form_binaryShape _ same sameRight) _ _).bind
      fun whole whole' same => .pure (.again same)

theorem postfixOperators_twin (start start' : Nat) {operand operand' : Node}
    (same : operand.form = operand'.form) :
    TwinBy form (postfixOperators start operand) (postfixOperators start' operand') := by
  refine fold_twin same fun operand operand' same => ?_
  refine token_twin.bind fun t u h => ?_
  simp only [h.kind, h.newline]
  split
  · exact .pure (.leave same)
  · refine .ite (fun _ => .pure (.leave same)) fun _ => ?_
    refine (checkSimpleTarget_twin same).bindEq fun _ => ?_
    refine take_twin.bind fun _ _ _ => ?_
    exact (closeNode_twin (by simp only [Shape.form, same]) _ _).bind
      fun whole whole' same => .pure (.again same)

theorem unaryRule_steady : unaryRule.Steady form := by
  refine token_twin.bind fun t u h => ?_
  rw [h.kind]
  split
  · refine openNode_twin.bind fun opened opened' _ => ?_
    refine take_twin.bind fun _ _ _ => ?_
    refine unary_steady.bind fun argument argument' same => ?_
    refine (checkSimpleTarget_twin same).bindEq fun _ => ?_
    exact closeNode_twin (by simp only [Shape.form, same]) _ _
  · refine openNode_twin.bind fun opened opened' _ => ?_
    refine take_twin.bind fun _ _ _ => ?_
    refine unary_steady.bind fun argument argument' same => ?_
    exact closeNode_twin (by simp only [Shape.form, same]) _ _
  · refine here_twin.bind fun start start' _ => ?_
    refine (parse_twin (.same .atom)).bind fun base base' same => ?_
    refine (subscripts_twin same _ _ _).bind fun operand operand' same => ?_
    exact postfixOperators_twin _ _ same

end ScriptTree.Grammar

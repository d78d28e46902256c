import ScriptTree.Proofs.Grammar.Piece
import ScriptTree.Proofs.Spacing.Operand

/-! # Statements wherever their tokens stand

    The one place where the grammar looks behind a token is `let`: whether it declares
    something is part of what two lexemes that are alike have in common. -/

namespace ScriptTree.Grammar

open Rule (Twin TwinBy Steady Turn)
open Rule.Twin (Turned)
open Node (form forms form? forms?)

theorem blockRule_steady : blockRule.Steady form := by
  refine openNode_twin.bind fun opened opened' _ => (expect_twin _).bindEq fun _ => ?_
  refine (statementsUntil_steady fun t u h => h.isPunctuator _).bind fun body body' same => ?_
  refine (expect_twin _).bindEq fun _ => ?_
  exact closeNode_twin (by simp only [Shape.form, same]) _ _

theorem parenExpression_steady : parenExpression.Steady form := by
  refine (expect_twin _).bindEq fun _ => ?_
  refine (expression_steady false).bind fun inner inner' same => ?_
  exact (expect_twin _).bindEq fun _ => .pure same

/-! ## Declarations -/

theorem declarators_steady (noIn : Bool) : (declarators noIn).Steady forms := by
  refine gather_steady rfl fun found found' same => ?_
  refine openNode_twin.bind fun opened opened' _ => ?_
  refine bindingTarget_steady.bind fun id id' sameId => ?_
  refine (eat_twin _).bindEq fun given => ?_
  refine orNone_twin (assignment_steady noIn) fun init init' sameInit => ?_
  refine (closeNode_twin (by simp only [Shape.form, sameId, sameInit]) _ _).bind
    fun next next' new => ?_
  have pushed := forms_push same new
  exact (eat_twin _).bindEq fun more =>
    .ite (fun _ => .pure (.again pushed)) fun _ => .pure (.leave pushed)

theorem variableStatement_steady (kind : BindingKind) : (variableStatement kind).Steady form := by
  refine openNode_twin.bind fun opened opened' _ => take_twin.bind fun _ _ _ => ?_
  refine (declarators_steady false).bind fun found found' same => ?_
  refine semicolon_twin.bindEq fun _ => ?_
  exact closeNode_twin (by simp only [Shape.form, same]) _ _

/-! ## Control flow -/

theorem ifStatement_steady : ifStatement.Steady form := by
  refine openNode_twin.bind fun opened opened' _ => take_twin.bind fun _ _ _ => ?_
  refine parenExpression_steady.bind fun test test' sameTest => ?_
  refine statement_steady.bind fun consequent consequent' sameConsequent => ?_
  refine (eatWord_twin _).bindEq fun otherwise => ?_
  refine orNone_twin statement_steady fun alternate alternate' same => ?_
  exact closeNode_twin (by simp only [Shape.form, sameTest, sameConsequent, same]) _ _

theorem forRest_twin (opened opened' : Opened) {init init' : Option Node}
    (sameInit : form? init = form? init') :
    TwinBy form (forRest opened init) (forRest opened' init') := by
  refine (expect_twin _).bindEq fun _ => ?_
  refine (isAt_twin _).bindEq fun testless => ?_
  refine noneOr_twin (expression_steady false) fun test test' sameTest => ?_
  refine (expect_twin _).bindEq fun _ => (isAt_twin _).bindEq fun updateless => ?_
  refine noneOr_twin (expression_steady false) fun update update' sameUpdate => ?_
  refine (expect_twin _).bindEq fun _ => statement_steady.bind fun body body' sameBody => ?_
  exact closeNode_twin (by simp only [Shape.form, sameInit, sameTest, sameUpdate, sameBody]) _ _

theorem forEachBody_twin (opened opened' : Opened) (isOf : Bool) {left left' right right' : Node}
    (sameLeft : left.form = left'.form) (sameRight : right.form = right'.form) :
    TwinBy form (forEachBody opened isOf left right) (forEachBody opened' isOf left' right') := by
  refine (expect_twin _).bindEq fun _ => statement_steady.bind fun body body' sameBody => ?_
  refine closeNode_twin ?_ _ _
  cases isOf <;> simp only [Shape.form, sameLeft, sameRight, sameBody, reduceIte,
    Bool.false_eq_true]

theorem forEach_twin (opened opened' : Opened) {left left' : Node}
    (same : left.form = left'.form) :
    TwinBy form (forEach opened left) (forEach opened' left') := by
  rw [forEach_eq, forEach_eq]
  refine token_twin.bind fun t u h => ?_
  simp only [h.isNamed]
  refine take_twin.bind fun _ _ _ => .ite (fun _ => ?_) fun _ => ?_
  · exact (assignment_steady false).bind fun right right' new => forEachBody_twin _ _ _ same new
  · exact (expression_steady false).bind fun right right' new => forEachBody_twin _ _ _ same new

theorem bindingKind?_congr {s t : Situation} (h : s.Alike t) : bindingKind? s = bindingKind? t := by
  rw [bindingKind?, h.token.kind, h.current.binding, bindingKind?]

/-- Whether a loop goes over something is looked for in tokens that are alike. -/
theorem isAtForEach_twin : Twin Eq isAtForEach isAtForEach := by
  refine .look fun s t h => ?_
  rw [h.token.isKeyword, h.token.isNamed]
  exact .done rfl

theorem forStatement_steady : forStatement.Steady form := by
  refine openNode_twin.bind fun opened opened' _ => take_twin.bind fun _ _ _ => ?_
  refine (expect_twin _).bindEq fun _ => ?_
  refine (isAt_twin _).bindEq fun skips => .ite (fun _ => forRest_twin _ _ rfl) fun _ => ?_
  refine situation_twin.bind fun s t h => ?_
  rw [bindingKind?_congr h]
  split
  · refine openNode_twin.bind fun declaration declaration' _ => take_twin.bind fun _ _ _ => ?_
    refine (declarators_steady true).bind fun found found' same => ?_
    refine (closeNode_twin (by simp only [Shape.form, same]) _ _).bind fun init init' sameInit => ?_
    rw [Node.length_congr same]
    refine isAtForEach_twin.bindEq fun each => ?_
    exact .ite (fun _ => forEach_twin _ _ sameInit) fun _ =>
      forRest_twin _ _ (congrArg some sameInit)
  · refine (expression_steady true).bind fun init init' same => ?_
    refine isAtForEach_twin.bindEq fun each => .ite (fun _ => ?_) fun _ => ?_
    · exact (asPattern_twin same).bind fun left left' same => forEach_twin _ _ same
    · exact forRest_twin _ _ (congrArg some same)

theorem whileStatement_steady : whileStatement.Steady form := by
  refine openNode_twin.bind fun opened opened' _ => take_twin.bind fun _ _ _ => ?_
  refine parenExpression_steady.bind fun test test' sameTest => ?_
  refine statement_steady.bind fun body body' sameBody => ?_
  exact closeNode_twin (by simp only [Shape.form, sameTest, sameBody]) _ _

theorem doWhileStatement_steady : doWhileStatement.Steady form := by
  refine openNode_twin.bind fun opened opened' _ => take_twin.bind fun _ _ _ => ?_
  refine statement_steady.bind fun body body' sameBody => ?_
  refine (expectWord_twin _).bindEq fun _ => ?_
  refine parenExpression_steady.bind fun test test' sameTest => ?_
  refine (eat_twin _).bindEq fun _ => ?_
  exact closeNode_twin (by simp only [Shape.form, sameTest, sameBody]) _ _

theorem returnValue_twin (opened opened' : Opened) (ended : Bool) :
    TwinBy form (returnValue opened ended) (returnValue opened' ended) := by
  refine .ite (fun _ => closeNode_twin rfl _ _) fun _ => ?_
  refine (expression_steady false).bind fun argument argument' same => ?_
  refine semicolon_twin.bindEq fun _ => ?_
  exact closeNode_twin (by simp only [Shape.form, Node.form?, same]) _ _

/-- An argument of `return` is on the same line in both texts, or in none. -/
theorem returnRest_twin (opened opened' : Opened) :
    TwinBy form (returnRest opened) (returnRest opened') := by
  refine (eat_twin _).bindEq fun given => .ite (fun _ => returnValue_twin _ _ true) fun _ => ?_
  refine situation_twin.bind fun s t h => ?_
  rw [allowsMissingSemicolon_congr h]
  exact returnValue_twin _ _ _

theorem returnStatement_steady : returnStatement.Steady form := by
  rw [returnStatement_eq]
  refine openNode_twin.bind fun opened opened' _ => situation_twin.bind fun s t h => ?_
  rw [h.inFunction]
  refine .firstElse (complainHere_twin _) ?_
  exact take_twin.bind fun _ _ _ => returnRest_twin _ _

theorem jumpLabel_steady : jumpLabel.Steady form? := by
  refine token_twin.bind fun t u h => ?_
  simp only [h.isName, h.newline]
  refine .ite (fun _ => ?_) fun _ => .pure rfl
  exact identifier_steady.bind fun label label' same => .pure (congrArg some same)

theorem jumpStatement_steady {shape : Option Node → Shape Node}
    (h : ∀ x y, form? x = form? y → (shape x).form = (shape y).form) :
    (jumpStatement shape).Steady form := by
  refine openNode_twin.bind fun opened opened' _ => take_twin.bind fun _ _ _ => ?_
  refine jumpLabel_steady.bind fun label label' same => semicolon_twin.bindEq fun _ => ?_
  exact closeNode_twin (h _ _ same) _ _

theorem throwStatement_steady : throwStatement.Steady form := by
  refine openNode_twin.bind fun opened opened' _ => take_twin.bind fun _ _ _ => ?_
  refine situation_twin.bind fun s t h => ?_
  rw [h.token.newline]
  refine .first (complain_twin _ _ _) ?_
  refine (expression_steady false).bind fun argument argument' same => ?_
  refine semicolon_twin.bindEq fun _ => ?_
  exact closeNode_twin (by simp only [Shape.form, same]) _ _

theorem catchClause_steady : catchClause.Steady form := by
  refine openNode_twin.bind fun opened opened' _ => take_twin.bind fun _ _ _ => ?_
  refine (expect_twin _).bindEq fun _ => ?_
  refine bindingTarget_steady.bind fun param param' sameParam => ?_
  refine (expect_twin _).bindEq fun _ => block_steady.bind fun body body' sameBody => ?_
  exact closeNode_twin (by simp only [Shape.form, Node.form?, sameParam, sameBody]) _ _

theorem tryStatement_steady : tryStatement.Steady form := by
  refine openNode_twin.bind fun opened opened' _ => take_twin.bind fun _ _ _ => ?_
  refine block_steady.bind fun block block' sameBlock => ?_
  refine (isAtWord_twin _).bindEq fun catches => ?_
  refine orNone_twin catchClause_steady fun handler handler' sameHandler => ?_
  refine (eatWord_twin _).bindEq fun comesLast => ?_
  refine orNone_twin block_steady fun finalizer finalizer' sameFinalizer => ?_
  simp only [Node.isNone_congr sameHandler, Node.isNone_congr sameFinalizer]
  refine .first (complainHere_twin _) ?_
  exact closeNode_twin (by simp only [Shape.form, sameBlock, sameHandler, sameFinalizer]) _ _

theorem endsCase_congr {t u : Token} (h : t.Alike u) : endsCase t = endsCase u := by
  simp only [endsCase, h.isPunctuator, h.isKeyword]

theorem caseRest_twin (opened opened' : Opened) {test test' : Option Node}
    (sameTest : form? test = form? test') :
    TwinBy form (caseRest opened test) (caseRest opened' test') := by
  refine (expect_twin _).bindEq fun _ => ?_
  refine (statementsUntil_steady fun t u h => endsCase_congr h).bind fun body body' same => ?_
  exact closeNode_twin (by simp only [Shape.form, sameTest, same]) _ _

theorem switchCases_steady : switchCases.Steady forms := by
  refine gather_steady rfl fun found found' same => ?_
  refine (isAtClose_twin _).bindEq fun ends => .ite (fun _ => .pure (.leave same)) fun _ => ?_
  refine openNode_twin.bind fun opened opened' _ => ?_
  refine (eatWord_twin _).bindEq fun tests => .ite (fun _ => ?_) fun _ => ?_
  · refine (expression_steady false).bind fun test test' sameTest => ?_
    refine (caseRest_twin _ _ ?_).bind fun clause clause' new =>
      .pure (.again (forms_push same new))
    exact congrArg some sameTest
  refine (eatWord_twin _).bindEq fun defaults => .ite (fun _ => ?_) fun _ => ?_
  · exact (caseRest_twin _ _ rfl).bind fun clause clause' new =>
      .pure (.again (forms_push same new))
  · exact unexpected_twin.bindEq fun _ => take_twin.bind fun _ _ _ => .pure (.again same)

theorem switchStatement_steady : switchStatement.Steady form := by
  refine openNode_twin.bind fun opened opened' _ => take_twin.bind fun _ _ _ => ?_
  refine parenExpression_steady.bind fun discriminant discriminant' same => ?_
  refine (expect_twin _).bindEq fun _ => ?_
  refine switchCases_steady.bind fun cases cases' sameCases => ?_
  refine (expect_twin _).bindEq fun _ => ?_
  exact closeNode_twin (by simp only [Shape.form, same, sameCases]) _ _

theorem withStatement_steady : withStatement.Steady form := by
  refine openNode_twin.bind fun opened opened' _ => take_twin.bind fun _ _ _ => ?_
  refine parenExpression_steady.bind fun object object' same => ?_
  refine statement_steady.bind fun body body' sameBody => ?_
  exact closeNode_twin (by simp only [Shape.form, same, sameBody]) _ _

/-! ## All statements -/

theorem expressionEnd_twin (opened opened' : Opened) {inner inner' : Node}
    (same : inner.form = inner'.form) :
    TwinBy form (expressionEnd opened inner) (expressionEnd opened' inner') := by
  refine semicolon_twin.bindEq fun _ => ?_
  exact closeNode_twin (by simp only [Shape.form, same]) _ _

/-- A label is one in both texts. -/
theorem expressionStatement_steady : expressionStatement.Steady form := by
  rw [expressionStatement_eq]
  refine openNode_twin.bind fun opened opened' _ => ?_
  refine (expression_steady false).bind fun inner inner' same => ?_
  rw [Node.identifierName?_congr same, Node.isPlaceholder_congr same]
  refine .ite (fun _ => ?_) fun _ => expressionEnd_twin _ _ same
  refine (eat_twin _).bindEq fun labels => .ite (fun _ => ?_) fun _ => expressionEnd_twin _ _ same
  refine statement_steady.bind fun body body' sameBody => ?_
  exact closeNode_twin (by simp only [Shape.form, same, sameBody]) _ _

theorem plainStatement_steady : plainStatement.Steady form := by
  refine situation_twin.bind fun s t h => ?_
  rw [h.token.isPunctuator, h.token.isPunctuator, h.current.binding]
  refine .ite (fun _ => block_steady) fun _ => .ite (fun _ => leaf_steady _) fun _ => ?_
  exact .ite (fun _ => variableStatement_steady _) fun _ => expressionStatement_steady

/-- Statements that begin with a word are read word by word. -/
theorem wordStatement_steady (word : Keyword) : (wordStatement word).Steady form := by
  show Steady form _
  unfold wordStatement
  split
  · exact variableStatement_steady _
  · exact variableStatement_steady _
  · exact openNode_twin.bind fun opened opened' _ => function_twin _ _ true
  · exact openNode_twin.bind fun opened opened' _ => classPhrase_twin _ _ true
  · exact ifStatement_steady
  · exact forStatement_steady
  · exact whileStatement_steady
  · exact doWhileStatement_steady
  · exact returnStatement_steady
  · exact jumpStatement_steady fun x y same => by simp only [Shape.form, same]
  · exact jumpStatement_steady fun x y same => by simp only [Shape.form, same]
  · exact throwStatement_steady
  · exact tryStatement_steady
  · exact switchStatement_steady
  · exact withStatement_steady
  · refine openNode_twin.bind fun opened opened' _ => take_twin.bind fun _ _ _ => ?_
    exact semicolon_twin.bindEq fun _ => closeNode_twin rfl _ _
  · exact (complainHere_twin _).bindEq fun _ => plainStatement_steady
  · exact (complainHere_twin _).bindEq fun _ => plainStatement_steady
  · exact plainStatement_steady

/-- All statements are read alike. -/
theorem statementRule_steady : statementRule.Steady form := by
  refine token_twin.bind fun t u h => ?_
  rw [h.kind]
  show Steady form _
  split
  · exact wordStatement_steady _
  · exact plainStatement_steady

end ScriptTree.Grammar

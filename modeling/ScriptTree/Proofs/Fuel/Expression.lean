import ScriptTree.Proofs.Fuel.Phrase
import ScriptTree.Proofs.Grammar.Piece

/-! # Fuel for functions, classes and expressions

    Whatever begins with a word or a mark of its own takes it first, so what
    follows may cost anything.  What begins with an operand goes down: from
    assignments to operands with operators, from these to atoms. -/

namespace ScriptTree.Grammar

open Rule (Turn)

variable {cost : Nat}

/-! ## Functions and classes -/

/-- Parameters end at the closing parenthesis. -/
theorem parameters_runs (h : 2 ≤ cost) : parameters.Runs cost := by
  refine (expect_runs _ (by omega)).bind fun _ => ?_
  refine (commaChain_runs _ (by omega) (bindingOrRest_runs h)).bind fun params => ?_
  exact (expect_runs _ (by omega)).bind fun _ => .pure params

theorem optionalName_runs (isStatement : Bool) : (optionalName isStatement).Runs cost := by
  refine token_stays.bind_runs fun t => ?_
  split
  · exact identifier_runs.bind fun _ => .pure _
  · exact .ite (unexpected_stays.bind_runs fun _ => .pure _) (.pure _)

/-- A function has a name, parameters and a body. -/
theorem functionRest_runs (opened : Opened) (isStatement : Bool) (h : 6 ≤ cost) :
    (functionRest opened isStatement).Runs cost := by
  refine (optionalName_runs isStatement).bind fun name => ?_
  refine (parameters_runs (by omega)).bind fun params => ?_
  exact (functionBody_runs h).bind fun body => (closeNode_stays _ _).runs

/-- A function takes its word. -/
theorem function_advances (opened : Opened) (isStatement : Bool) :
    (function opened isStatement).Advances := by
  rw [function_eq]
  refine take_advances.bind fun _ => ?_
  refine (isAt_stays .times).bind_runs fun isGenerator => .ite ?_ ?_
  · refine (complainHere_stays _).bind_runs fun _ => take_runs.bind fun _ => ?_
    exact functionRest_runs opened isStatement (by omega)
  · exact functionRest_runs opened isStatement (by omega)

/-- A method has parameters and a body. -/
theorem methodFunction_runs (h : 6 ≤ cost) : methodFunction.Runs cost := by
  refine openNode_stays.bind_runs fun opened => ?_
  refine (parameters_runs (by omega)).bind fun params => ?_
  exact (functionBody_runs h).bind fun body => (closeNode_stays _ _).runs

/-- A method has a key, which may be computed. -/
theorem classMethod_runs (h : 6 ≤ cost) : classMethod.Runs cost := by
  have name : propertyName.Runs cost := propertyName_runs (by omega)
  refine openNode_stays.bind_runs fun opened => ?_
  refine name.bind fun first => ?_
  refine (isAt_stays .openParen).bind_runs fun called => ?_
  refine .optional name fun second => ?_
  refine (isAt_stays .openParen).bind_runs fun called => ?_
  refine .optional name fun key => ?_
  exact (methodFunction_runs h).bind fun value => (closeNode_stays _ _).runs

/-- Methods end at the closing brace. -/
theorem classMethods_runs (h : 6 ≤ cost) : classMethods.Runs cost := by
  refine .loop (by omega) fun found => ?_
  intro mode fuel s hs
  refine .look ?_
  show Rule.Descends _ _ (if (s.token.isPunctuator .closeBrace || s.token.isEnd) = true
    then _ else _) s _
  split
  · exact .done (.refl s)
  · rename_i goes
    rw [Bool.or_eq_true, not_or] at goes
    have stands := Bool.eq_false_iff.mpr goes.2
    refine (eat_tells .semicolon).turned (hs.mono (by omega)) (.pure _) (.look ?_)
    exact (skipping_descends stands (by omega) hs (classMethod_runs h) _ _).mono
      fun _ _ ht => .of_lt ht.2.1 ht.2.2

/-- A class has methods between braces. -/
theorem classRest_runs (opened : Opened) (isStatement : Bool) (name superClass : Option Node)
    (h : 6 ≤ cost) : (classRest opened isStatement name superClass).Runs cost := by
  refine openNode_stays.bind_runs fun body => ?_
  refine (expect_runs _ (by omega)).bind fun _ => ?_
  refine (classMethods_runs h).bind fun methods => ?_
  refine (expect_runs _ (by omega)).bind fun _ => ?_
  exact (closeNode_stays _ _).bind_runs fun body => (closeNode_stays _ _).runs

/-- A class takes its word. -/
theorem classPhrase_advances (opened : Opened) (isStatement : Bool) :
    (classPhrase opened isStatement).Advances := by
  rw [classPhrase_eq]
  refine take_advances.bind fun _ => ?_
  refine (optionalName_runs isStatement).bind fun name => ?_
  refine (eatWord_tells _).bind (by omega) ?_ (classRest_runs _ _ _ _ (by omega))
  refine here_stays.bind_runs fun start => ?_
  refine (atom_runs (by omega)).bind fun base => ?_
  refine (subscripts_runs _ _ _ (by omega)).bind fun superClass => ?_
  exact classRest_runs _ _ _ _ (by omega)

/-! ## Assignments and operators -/

/-- Reinterpreting takes no token. -/
theorem asPattern_stays (n : Node) : (asPattern n).Stays := by
  rw [asPattern]
  split
  · exact .complain _ _ (.pure _)
  · exact .pure _

theorem checkSimpleTarget_stays (n : Node) : (checkSimpleTarget n).Stays := by
  rw [checkSimpleTarget]
  split
  · exact .pure ()
  · exact complain_stays _ _

/-- Nor does reinterpreting several nodes. -/
theorem asPatterns_stays (found : List Node) : (asPatterns found).Stays := by
  induction found with
  | nil => exact .pure []
  | cons item rest ih =>
      exact (asPattern_stays item).bind fun first => ih.bind fun others => .pure _

/-- A condition calls what stands behind its marks one level deeper. -/
theorem conditional_runs (noIn : Bool) (h : 3 ≤ cost) : (conditional noIn).Runs cost := by
  refine here_stays.bind_runs fun start => ?_
  refine (unary_runs h).bind fun left => ?_
  refine (operators_runs _ _ _ _ (by omega)).bind fun test => ?_
  refine (eat_tells .question).bind (by omega) ?_ (.pure test)
  refine (nested_runs false (by omega)).bind fun consequent => ?_
  refine (expect_runs _ (by omega)).bind fun _ => ?_
  exact (nested_runs noIn (by omega)).bind fun alternate => (closeNode_stays _ _).runs

theorem assignmentTarget_stays (operator : Punctuator) (left : Node) :
    (assignmentTarget operator left).Stays := by
  rw [assignmentTarget]
  split
  · exact asPattern_stays left
  · exact (checkSimpleTarget_stays left).bind fun _ => .pure left

/-- An assignment calls itself behind its operator. -/
theorem assignmentRule_runs (noIn : Bool) (h : 3 ≤ cost) : (assignmentRule noIn).Runs cost := by
  refine here_stays.bind_runs fun start => ?_
  refine (conditional_runs noIn h).bind fun left => ?_
  intro mode fuel s hs
  refine Rule.descends_token ?_
  split
  · exact .done (.refl s)
  · rename_i operator stands
    have goes := Token.isEnd_of_reading rfl stands
    have rest : Rule.Advances (do
        let target ← assignmentTarget operator left
        let _ ← take
        let right ← parseNested (.assignment noIn)
        closeNode (openedAt start) (.assignmentExpression operator target right)) := by
      refine (assignmentTarget_stays _ _).bind_advances fun target => ?_
      refine take_advances.bind fun _ => ?_
      exact (nested_runs noIn (by omega)).bind fun right => (closeNode_stays _ _).runs
    exact rest.meets goes hs (by omega) fun _ _ on _ => on

/-- A round of operators takes one. -/
theorem operatorTurn_advances (left : Node) (start : Nat) (operator : BinaryOperator)
    (noIn : Bool) : (operatorTurn left start operator noIn).Advances := by
  refine take_advances.bind fun _ => ?_
  refine here_stays.bind_runs fun rightStart => ?_
  refine (unary_runs (by omega)).bind fun operand => ?_
  refine (operators_runs _ _ _ _ (by omega)).bind fun right => ?_
  exact (closeNode_stays _ _).bind_runs fun whole => .pure _

/-- Every round takes its operator. -/
theorem operatorsRule_runs (left : Node) (start minimum : Nat) (noIn : Bool) (pos : 1 ≤ cost) :
    (operatorsRule left start minimum noIn).Runs cost := by
  refine .loop pos fun left => ?_
  intro mode fuel s hs
  refine Rule.descends_token ?_
  split
  · exact .done (.refl s)
  · rename_i operator stands
    have goes := Token.isEnd_of_reading (by cases noIn <;> rfl) stands
    split
    · exact .done (.refl s)
    · refine deepen_stays.turned (hs.mono pos) fun ok t same ht => ?_
      cases ok with
      | true => exact (operatorTurn_advances left start operator noIn).turned (same ▸ goes) ht
      | false => exact .done (.refl t)

/-- Signs behind an operand are tokens. -/
theorem postfixOperators_runs (start : Nat) (operand : Node) (pos : 1 ≤ cost) :
    (postfixOperators start operand).Runs cost := by
  refine .loop pos fun operand => ?_
  intro mode fuel s hs
  refine Rule.descends_token ?_
  split
  · exact .done (.refl s)
  · rename_i operator stands
    have goes := Token.isEnd_of_reading rfl stands
    have rest : Rule.Advances (do
        checkSimpleTarget operand
        let _ ← take
        let whole ← closeNode (openedAt start) (.updateExpression operator operand false)
        pure (Turn.again whole : Turn Node Node)) := by
      refine (checkSimpleTarget_stays operand).bind_advances fun _ => ?_
      refine take_advances.bind fun _ => ?_
      exact (closeNode_stays _ _).bind_runs fun whole => .pure _
    split
    · exact .done (.refl s)
    · exact rest.turned goes (hs.mono pos)

/-- Signs in front are tokens, so the operand can be called for again. -/
theorem unaryRule_runs (h : 2 ≤ cost) : unaryRule.Runs cost := by
  intro mode fuel s hs
  refine Rule.descends_token ?_
  split
  -- A sign in front is a token, so the operand behind it can be called for again.
  · rename_i operator stands
    have goes := Token.isEnd_of_reading rfl stands
    have rest : Rule.Advances (do
        let opened ← openNode
        let _ ← take
        let argument ← unary
        checkSimpleTarget argument
        closeNode opened (.updateExpression operator argument true)) := by
      refine openNode_stays.bind_advances fun opened => take_advances.bind fun _ => ?_
      refine (unary_runs (by omega)).bind fun argument => ?_
      exact (checkSimpleTarget_stays _).bind_runs fun _ => (closeNode_stays _ _).runs
    exact rest.meets goes hs (by omega) fun _ _ on _ => on
  · rename_i operator stands
    have goes := Token.isEnd_of_reading rfl stands
    have rest : Rule.Advances (do
        let opened ← openNode
        let _ ← take
        let argument ← unary
        closeNode opened (.unaryExpression operator argument)) := by
      refine openNode_stays.bind_advances fun opened => take_advances.bind fun _ => ?_
      exact (unary_runs (by omega)).bind fun argument => (closeNode_stays _ _).runs
    exact rest.meets goes hs (by omega) fun _ _ on _ => on
  -- Without a sign, the atom is cheaper than the operand that it begins.
  · have rest : Rule.Runs (do
        let start ← here
        let base ← parse .atom
        let operand ← parseChain (.subscripts base start false)
        postfixOperators start operand) cost := by
      refine here_stays.bind_runs fun start => ?_
      refine (atom_runs h).bind fun base => ?_
      refine (subscripts_runs _ _ _ h).bind fun operand => ?_
      exact postfixOperators_runs _ _ (by omega)
    exact rest mode fuel s hs

end ScriptTree.Grammar

import ScriptTree.Proofs.Fuel.Operand

/-! # Fuel for statements

    A statement with a word of its own takes the word, and a block its brace.
    Every other statement goes down to an expression. -/

namespace ScriptTree.Grammar

open Rule (Turn)

variable {cost : Nat} {mode : Mode} {fuel : Nat} {s : Situation}

/-! ## Blocks and declarations -/

/-- What stands behind the opening brace of a block. -/
theorem blockRest_runs (opened : Opened) (h : 5 ≤ cost) : (blockRest opened).Runs cost := by
  refine (statementsUntil_runs _ h).bind fun body => ?_
  exact (expect_runs _ (by omega)).bind fun _ => (closeNode_stays _ _).runs

/-- A block calls for statements up to its brace. -/
theorem blockRule_runs (h : 5 ≤ cost) : blockRule.Runs cost := by
  rw [blockRule_eq]
  refine openNode_stays.bind_runs fun opened => ?_
  exact (expect_runs _ (by omega)).bind fun _ => blockRest_runs opened h

/-- A block takes the brace that opens it. -/
theorem blockRule_takes (stands : s.token.isPunctuator .openBrace = true)
    (hs : s.Affords fuel 1) :
    blockRule.Descends mode fuel s fun _ t => s.Leads t := by
  refine (openNode_stays mode fuel s).bind fun opened t ht => ?_
  have still : t.token.isPunctuator .openBrace = true := by
    rw [Situation.token, ht.1.current_eq ht.2]
    exact stands
  refine (expect_takes still (hs.leads ht.1)).bind fun _ u hu => ?_
  have paid := (hs.leads ht.1).advanced hu.1 hu.2
  refine (blockRest_runs opened (by omega) mode fuel u paid).mono fun _ v hv => ?_
  exact ht.1.trans (hu.1.trans hv)

theorem parenExpression_runs (h : 4 ≤ cost) : parenExpression.Runs cost := by
  refine (expect_runs _ (by omega)).bind fun _ => ?_
  refine (expression_runs false h).bind fun inner => ?_
  exact (expect_runs _ (by omega)).bind fun _ => .pure inner

/-- A declaration is followed by a comma, or is the last one. -/
theorem declaratorTurn_turns (opened : Opened) (found : Array Node) (id : Node)
    (init : Option Node) (pos : 1 ≤ cost) :
    (declaratorTurn opened found id init).Turns cost := by
  refine .bind (closeNode_stays _ _).runs fun declarator => ?_
  exact (eat_tells .comma).turns pos (.pure _) (.pure_leave _)

/-- Every declaration behind a comma has a token of its own. -/
theorem declarators_runs (noIn : Bool) (h : 2 ≤ cost) : (declarators noIn).Runs cost := by
  rw [declarators_eq]
  refine .loop (by omega) fun found => ?_
  refine .bind openNode_stays.runs fun opened => .bind (bindingTarget_runs h) fun id => ?_
  refine (eat_tells .assign).turns (by omega) ?_
    (declaratorTurn_turns opened found id none (by omega))
  refine (assignment_runs noIn (by omega)).bind fun init => ?_
  exact (declaratorTurn_turns opened found id (some init) (by omega)).runs

/-- A declaration of variables takes its word. -/
theorem variableStatement_runs (kind : BindingKind) (h : 2 ≤ cost) :
    (variableStatement kind).Runs cost := by
  refine openNode_stays.bind_runs fun opened => take_runs.bind fun _ => ?_
  refine (declarators_runs false h).bind fun found => ?_
  exact (semicolon_runs (by omega)).bind fun _ => (closeNode_stays _ _).runs

/-! ## Control flow -/

/-- An `if` takes its word, so both statements can be called for. -/
theorem ifStatement_advances : ifStatement.Advances := by
  refine openNode_stays.bind_advances fun opened => take_advances.bind fun _ => ?_
  refine (parenExpression_runs (by omega)).bind fun test => ?_
  refine (statement_runs (by omega)).bind fun consequent => ?_
  refine (eatWord_tells _).bind (by omega) ?_ (closeNode_stays _ _).runs
  exact (statement_runs (by omega)).bind fun alternate => (closeNode_stays _ _).runs

/-- The body of a loop stands behind its parenthesis. -/
theorem forBody_runs (opened : Opened) (init test update : Option Node) (h : 5 ≤ cost) :
    (forBody opened init test update).Runs cost := by
  refine (expect_runs _ (by omega)).bind fun _ => ?_
  exact (statement_runs h).bind fun body => (closeNode_stays _ _).runs

/-- The parts of a loop stand between semicolons. -/
theorem forUpdate_runs (opened : Opened) (init test : Option Node) (h : 5 ≤ cost) :
    (forUpdate opened init test).Runs cost := by
  refine (expect_runs _ (by omega)).bind fun _ => ?_
  refine (isAt_stays .closeParen).bind_runs fun none => .ite (forBody_runs _ _ _ _ h) ?_
  exact (expression_runs false (by omega)).bind fun update => forBody_runs _ _ _ _ h

theorem forRest_runs (opened : Opened) (init : Option Node) (h : 5 ≤ cost) :
    (forRest opened init).Runs cost := by
  rw [forRest_eq]
  refine (expect_runs _ (by omega)).bind fun _ => ?_
  refine (isAt_stays .semicolon).bind_runs fun none => .ite (forUpdate_runs _ _ _ h) ?_
  exact (expression_runs false (by omega)).bind fun test => forUpdate_runs _ _ _ h

theorem forEachBody_runs (opened : Opened) (isOf : Bool) (left right : Node) (h : 5 ≤ cost) :
    (forEachBody opened isOf left right).Runs cost := by
  refine (expect_runs _ (by omega)).bind fun _ => ?_
  exact (statement_runs h).bind fun body => (closeNode_stays _ _).runs

/-- A loop over something has one expression and its body. -/
theorem forEach_runs (opened : Opened) (left : Node) (h : 5 ≤ cost) :
    (forEach opened left).Runs cost := by
  rw [forEach_eq]
  refine token_stays.bind_runs fun t => take_runs.bind fun _ => .ite ?_ ?_
  · exact (assignment_runs false (by omega)).bind fun right => forEachBody_runs _ _ _ right h
  · exact (expression_runs false (by omega)).bind fun right => forEachBody_runs _ _ _ right h

theorem isAtForEach_stays : isAtForEach.Stays := .look fun _ => .pure _

/-- A `for` takes its word. -/
theorem forStatement_advances : forStatement.Advances := by
  refine openNode_stays.bind_advances fun opened => take_advances.bind fun _ => ?_
  refine (expect_runs _ (by omega)).bind fun _ => ?_
  refine (isAt_stays .semicolon).bind_runs fun none => .ite (forRest_runs _ _ (by omega)) ?_
  refine situation_stays.bind_runs fun s => ?_
  split
  · refine openNode_stays.bind_runs fun declaration => take_runs.bind fun _ => ?_
    refine (declarators_runs true (by omega)).bind fun found => ?_
    refine (closeNode_stays _ _).bind_runs fun init => isAtForEach_stays.bind_runs fun each => ?_
    exact .ite (forEach_runs _ _ (by omega)) (forRest_runs _ _ (by omega))
  · refine (expression_runs true (by omega)).bind fun init => ?_
    refine isAtForEach_stays.bind_runs fun each => .ite ?_ (forRest_runs _ _ (by omega))
    exact (asPattern_stays init).bind_runs fun left => forEach_runs _ _ (by omega)

/-- A `while` takes its word. -/
theorem whileStatement_advances : whileStatement.Advances := by
  refine openNode_stays.bind_advances fun opened => take_advances.bind fun _ => ?_
  refine (parenExpression_runs (by omega)).bind fun test => ?_
  exact (statement_runs (by omega)).bind fun body => (closeNode_stays _ _).runs

/-- A `do` takes its word. -/
theorem doWhileStatement_advances : doWhileStatement.Advances := by
  refine openNode_stays.bind_advances fun opened => take_advances.bind fun _ => ?_
  refine (statement_runs (by omega)).bind fun body => ?_
  refine (expectWord_runs _ (by omega)).bind fun _ => ?_
  refine (parenExpression_runs (by omega)).bind fun test => ?_
  exact ((eat_tells .semicolon).runs (by omega)).bind fun _ => (closeNode_stays _ _).runs

/-- Behind a `return` there is fuel for either answer. -/
theorem returnValue_runs (opened : Opened) (ended : Bool) (h : 4 ≤ cost) :
    (returnValue opened ended).Runs cost := by
  refine .ite (closeNode_stays _ _).runs ?_
  refine (expression_runs false h).bind fun argument => ?_
  exact (semicolon_runs (by omega)).bind fun _ => (closeNode_stays _ _).runs

/-- An argument stands only on the same line. -/
theorem returnRest_runs (opened : Opened) (h : 4 ≤ cost) : (returnRest opened).Runs cost := by
  refine (eat_tells .semicolon).bind (by omega) (returnValue_runs opened true (by omega)) ?_
  exact situation_stays.bind_runs fun s => returnValue_runs opened _ h

/-- A `return` takes its word. -/
theorem returnStatement_advances : returnStatement.Advances := by
  rw [returnStatement_eq]
  refine openNode_stays.bind_advances fun opened => situation_stays.bind_advances fun s => ?_
  split
  · exact take_advances.bind fun _ => returnRest_runs opened (by omega)
  · refine (complainHere_stays _).bind_advances fun _ => take_advances.bind fun _ => ?_
    exact returnRest_runs opened (by omega)

theorem jumpLabel_runs : jumpLabel.Runs cost := by
  refine token_stays.bind_runs fun next => .ite ?_ (.pure none)
  exact identifier_runs.bind fun label => .pure _

/-- A `break` or `continue` takes its word. -/
theorem jumpStatement_advances (shape : Option Node → Shape Node) :
    (jumpStatement shape).Advances := by
  refine openNode_stays.bind_advances fun opened => take_advances.bind fun _ => ?_
  refine jumpLabel_runs.bind fun label => ?_
  exact (semicolon_runs (by omega)).bind fun _ => (closeNode_stays _ _).runs

theorem throwRest_runs (opened : Opened) (h : 4 ≤ cost) : (throwRest opened).Runs cost := by
  refine (expression_runs false h).bind fun argument => ?_
  exact (semicolon_runs (by omega)).bind fun _ => (closeNode_stays _ _).runs

/-- A `throw` takes its word. -/
theorem throwStatement_advances : throwStatement.Advances := by
  rw [throwStatement_eq]
  refine openNode_stays.bind_advances fun opened => take_advances.bind fun _ => ?_
  refine situation_stays.bind_runs fun s => .ite ?_ (throwRest_runs opened (by omega))
  exact (complain_stays _ _).bind_runs fun _ => throwRest_runs opened (by omega)

theorem catchClause_runs (h : 6 ≤ cost) : catchClause.Runs cost := by
  refine openNode_stays.bind_runs fun opened => take_runs.bind fun _ => ?_
  refine (expect_runs _ (by omega)).bind fun _ => ?_
  refine (bindingTarget_runs (by omega)).bind fun param => ?_
  refine (expect_runs _ (by omega)).bind fun _ => ?_
  exact (block_runs h).bind fun body => (closeNode_stays _ _).runs

/-- Closing a `try` takes no token, whatever it lacks. -/
theorem tryEnd_runs (opened : Opened) (block : Node) (handler finalizer : Option Node) :
    (tryEnd opened block handler finalizer).Runs cost :=
  .ite ((complainHere_stays _).bind_runs fun _ => (closeNode_stays _ _).runs)
    (closeNode_stays _ _).runs

theorem tryRest_runs (opened : Opened) (block : Node) (handler : Option Node) (h : 6 ≤ cost) :
    (tryRest opened block handler).Runs cost := by
  refine (eatWord_tells _).bind (by omega) ?_ (tryEnd_runs _ _ _ _)
  exact (block_runs (by omega)).bind fun finalizer => tryEnd_runs _ _ _ _

/-- A `try` takes its word. -/
theorem tryStatement_advances : tryStatement.Advances := by
  rw [tryStatement_eq]
  refine openNode_stays.bind_advances fun opened => take_advances.bind fun _ => ?_
  refine (block_runs (by omega)).bind fun block => ?_
  refine (isAtWord_stays .catchWord).bind_runs fun catches => .ite ?_ ?_
  · refine (catchClause_runs (by omega)).bind fun handler => ?_
    exact tryRest_runs opened block (some handler) (by omega)
  · exact tryRest_runs opened block none (by omega)

/-- The statements of a case end at the next one. -/
theorem caseRest_runs (opened : Opened) (test : Option Node) (h : 5 ≤ cost) :
    (caseRest opened test).Runs cost := by
  refine (expect_runs _ (by omega)).bind fun _ => ?_
  exact (statementsUntil_runs _ h).bind fun consequent => (closeNode_stays _ _).runs

/-- Every case takes its word. -/
theorem switchCases_runs (h : 5 ≤ cost) : switchCases.Runs cost := by
  refine .loop (by omega) fun found => ?_
  intro mode fuel s hs
  refine .look ?_
  show Rule.Descends _ _ (if (s.token.isPunctuator .closeBrace || s.token.isEnd) = true
    then _ else _) s _
  split
  · exact .done (.refl s)
  · rename_i goes
    rw [Bool.or_eq_true, not_or] at goes
    have stands := Bool.eq_false_iff.mpr goes.2
    -- A token that begins no case is skipped; so every round takes one.
    have paid : s.Affords fuel 1 := hs.mono (by omega)
    refine openNode_stays.turned paid fun opened t same ht => ?_
    refine (eatWord_tells _).turned ht ?_ ?_
    · refine (expression_runs false (by omega)).bind fun test => ?_
      exact (caseRest_runs _ _ (by omega)).bind fun clause => .pure _
    refine (eatWord_tells _).turned ht ?_ ?_
    · exact (caseRest_runs _ _ (by omega)).bind fun clause => .pure _
    refine unexpected_stays.turned ht fun _ u still hu => ?_
    refine (take_advances.bind fun _ => .pure _).turned ?_ hu
    rw [still, same]
    exact stands

/-- A `switch` takes its word. -/
theorem switchStatement_advances : switchStatement.Advances := by
  refine openNode_stays.bind_advances fun opened => take_advances.bind fun _ => ?_
  refine (parenExpression_runs (by omega)).bind fun discriminant => ?_
  refine (expect_runs _ (by omega)).bind fun _ => ?_
  refine (switchCases_runs (by omega)).bind fun cases => ?_
  exact (expect_runs _ (by omega)).bind fun _ => (closeNode_stays _ _).runs

/-- A `with` takes its word. -/
theorem withStatement_advances : withStatement.Advances := by
  refine openNode_stays.bind_advances fun opened => take_advances.bind fun _ => ?_
  refine (parenExpression_runs (by omega)).bind fun object => ?_
  exact (statement_runs (by omega)).bind fun body => (closeNode_stays _ _).runs

/-! ## All statements -/

theorem expressionEnd_runs (opened : Opened) (inner : Node) (pos : 1 ≤ cost) :
    (expressionEnd opened inner).Runs cost :=
  (semicolon_runs pos).bind fun _ => (closeNode_stays _ _).runs

/-- A label calls for the statement behind it. -/
theorem expressionStatement_runs (h : 4 ≤ cost) : expressionStatement.Runs cost := by
  rw [expressionStatement_eq]
  refine openNode_stays.bind_runs fun opened => ?_
  refine (expression_runs false h).bind fun inner => ?_
  split
  · refine (eat_tells .colon).bind (by omega) ?_ (expressionEnd_runs opened inner (by omega))
    exact (statement_runs (by omega)).bind fun body => (closeNode_stays _ _).runs
  · exact expressionEnd_runs opened inner (by omega)

/-- A statement with no word of its own goes down to an expression. -/
theorem plainStatement_runs (h : 4 ≤ cost) : plainStatement.Runs cost := by
  intro mode fuel s hs
  refine .look ?_
  show Rule.Descends _ _ (if s.token.isPunctuator .openBrace = true then _ else _) s _
  split
  · rename_i brace
    refine Rule.descends_call (hs.mono ?_)
    simp only [Nonterminal.cost, brace, ↓reduceIte]
    omega
  split
  · exact leaf_runs _ mode fuel s hs
  split
  · exact variableStatement_runs _ (by omega) mode fuel s hs
  · exact expressionStatement_runs h mode fuel s hs

/-- A word that begins a statement is taken. -/
theorem wordStatement_takes {word : Keyword} (stands : s.token.kind = .keyword word)
    (hs : s.Affords fuel cost) (h : 4 ≤ cost) :
    (wordStatement word).Descends mode fuel s fun _ t => s.Leads t := by
  -- The word stands there, so a statement that takes it may cost anything.
  have words {r : Rule Node} (takes : r.Advances) :
      r.Descends mode fuel s fun _ t => s.Leads t :=
    takes.meets (Token.isEnd_eq_false stands (by simp)) hs (by omega) fun _ _ on _ => on
  have moduleItem : Rule.Runs (complainHere .moduleItem >>= fun _ => plainStatement) cost :=
    (complainHere_stays _).bind_runs fun _ => plainStatement_runs h
  simp only [wordStatement]
  split
  · exact variableStatement_runs _ (by omega) mode fuel s hs
  · exact variableStatement_runs _ (by omega) mode fuel s hs
  · exact words (openNode_stays.bind_advances fun opened => function_advances opened true)
  · exact words (openNode_stays.bind_advances fun opened => classPhrase_advances opened true)
  · exact words ifStatement_advances
  · exact words forStatement_advances
  · exact words whileStatement_advances
  · exact words doWhileStatement_advances
  · exact words returnStatement_advances
  · exact words (jumpStatement_advances _)
  · exact words (jumpStatement_advances _)
  · exact words throwStatement_advances
  · exact words tryStatement_advances
  · exact words switchStatement_advances
  · exact words withStatement_advances
  · refine words (openNode_stays.bind_advances fun opened => take_advances.bind fun _ => ?_)
    exact (semicolon_runs (by omega)).bind fun _ => (closeNode_stays _ _).runs
  · exact moduleItem mode fuel s hs
  · exact moduleItem mode fuel s hs
  · exact plainStatement_runs h mode fuel s hs

/-- A statement takes a token or complains of one. -/
theorem statementRule_runs (h : 4 ≤ cost) : statementRule.Runs cost := by
  intro mode fuel s hs
  refine Rule.descends_token ?_
  split
  · rename_i word stands
    exact wordStatement_takes stands hs h
  · exact plainStatement_runs h mode fuel s hs

end ScriptTree.Grammar

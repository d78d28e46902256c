import ScriptTree.Proofs.Height.Chain

/-! # Heights of statements

    The statements in a statement are nested in it, and so are lower than an
    assignment that stands beside it.  A few nodes lie between a statement and
    the highest of its assignments. -/

namespace ScriptTree.Grammar

open Rule

variable {kept : List Node} {room : Nat → Nat} {d : Nat}

/-! ## Blocks and declarations -/

theorem blockRule_closes : blockRule.Closes kept (tall · + d) := by
  refine openNode_builds.after fun opened => (expect_builds _).after fun _ => ?_
  refine (statementsUntil_builds _ statement_builds).after fun body => ?_
  refine (expect_builds _).after fun _ => ?_
  exact closeNode_closes (.of_subset (by simp [Shape.children]))

theorem parenExpression_builds (h : 1 ≤ d) : parenExpression.Builds kept (tall · + d) := by
  refine (expect_builds _).after fun _ => (expression_builds false h).after fun inner => ?_
  exact (expect_builds _).after fun _ => .pure (.of_subset (by simp))

/-- What follows a choice follows either branch of it. -/
theorem ite_then {α β : Type} {b : Prop} [Decidable b] {yes no : Rule α} {f : α → Rule β} :
    (if b then yes else no) >>= f = if b then yes >>= f else no >>= f := by
  split <;> rfl

/-- A declarator that is open. -/
def declarator (noIn : Bool) (opened : Opened) : Rule Node := do
  let id ← bindingTarget
  let assigned ← eat .assign
  if assigned then
    let init ← assignment noIn
    closeNode opened (.variableDeclarator id (some init))
  else closeNode opened (.variableDeclarator id none)

theorem declarator_closes (noIn : Bool) (opened : Opened) :
    (declarator noIn opened).Closes kept (tall · + d) := by
  refine bindingTarget_builds.after fun id => (eat_builds .assign).after fun assigned => .ite ?_ ?_
  · refine (assignment_builds noIn).after fun init => closeNode_closes (.of_subset ?_)
    simp [Shape.children]
  · exact closeNode_closes (.of_subset (by simp [Shape.children]))

theorem declarators_builds (noIn : Bool) (h : 1 ≤ d) :
    (declarators noIn).Builds kept (tall · + d) := by
  refine .loop (.nil _) fun found => openNode_builds.after fun opened => ?_
  -- A declarator is finished before the next one begins.
  have rounds : Rule.Builds (nodes opened ++ (nodes found ++ kept)) (tall · + d) (do
      let found := found.push (← declarator noIn opened)
      if ← eat .comma then pure (Turn.again found) else pure (.leave found.toList)) := by
    refine (Within.under (c := 0) (declarator_closes noIn opened) h).after fun n => ?_
    refine (eat_builds .comma).after fun goes => ?_
    exact .ite (.pure (.of_subset (by grind))) (.pure (.of_subset (by grind)))
  simp only [declarator, LawfulMonad.bind_assoc, ite_then] at rounds
  exact rounds

theorem variableStatement_closes (kind : BindingKind) (h : 1 ≤ d) :
    (variableStatement kind).Closes kept (tall · + d) := by
  refine openNode_builds.after fun opened => take_builds.after fun _ => ?_
  refine (declarators_builds false h).after fun found => semicolon_builds.after fun _ => ?_
  exact closeNode_closes (.of_subset (by simp [Shape.children]))

/-! ## Control flow -/

theorem ifStatement_closes (h : 1 ≤ d) : ifStatement.Closes kept (tall · + d) := by
  refine openNode_builds.after fun opened => take_builds.after fun _ => ?_
  refine (parenExpression_builds h).after fun test => statement_builds.after fun consequent => ?_
  refine (eatWord_builds _).after fun otherwise => .ite ?_ ?_
  · refine statement_builds.after fun alternate => closeNode_closes (.of_subset ?_)
    simp [Shape.children]
  · exact closeNode_closes (.of_subset (by simp [Shape.children]))

/-- A loop with three parts is closed over them and its body. -/
theorem forBody_closes {opened : Opened} {init test update : Option Node}
    (here : init.toList ++ test.toList ++ update.toList ⊆ kept) :
    (forBody opened init test update).Closes kept (tall · + d) := by
  refine (expect_builds _).after fun _ => statement_builds.after fun body => ?_
  exact closeNode_closes (.of_subset (by grind [Shape.children]))

theorem forUpdate_closes {opened : Opened} {init test : Option Node}
    (here : init.toList ++ test.toList ⊆ kept) (h : 1 ≤ d) :
    (forUpdate opened init test).Closes kept (tall · + d) := by
  refine (expect_builds _).after fun _ => (isAt_builds .closeParen).after fun none => .ite ?_ ?_
  · exact forBody_closes (by grind)
  · exact (expression_builds false h).after fun update => forBody_closes (by grind)

theorem forRest_closes {opened : Opened} {init : Option Node} (here : init.toList ⊆ kept)
    (h : 1 ≤ d) : (forRest opened init).Closes kept (tall · + d) := by
  rw [forRest_eq]
  refine (expect_builds _).after fun _ => (isAt_builds .semicolon).after fun none => .ite ?_ ?_
  · exact forUpdate_closes (by grind) h
  · exact (expression_builds false h).after fun test => forUpdate_closes (by grind) h

/-- So is a loop over something, over both sides and the body. -/
theorem forEachBody_closes {opened : Opened} {isOf : Bool} {left right : Node}
    (here : [left, right] ⊆ kept) :
    (forEachBody opened isOf left right).Closes kept (tall · + d) := by
  refine (expect_builds _).after fun _ => statement_builds.after fun body => ?_
  refine closeNode_closes (.of_subset ?_)
  cases isOf <;> grind [Shape.children]

theorem forEach_closes {opened : Opened} {left : Node} (here : left ∈ kept) (h : 1 ≤ d) :
    (forEach opened left).Closes kept (tall · + d) := by
  rw [forEach_eq]
  refine token_builds.after fun t => take_builds.after fun _ => .ite ?_ ?_
  · exact (assignment_builds false).after fun right => forEachBody_closes (by grind)
  · exact (expression_builds false h).after fun right => forEachBody_closes (by grind)

theorem isAtForEach_builds : isAtForEach.Builds kept room := .look fun _ => plain_builds rfl

/-- A loop is closed over a declaration that was closed before. -/
theorem forStatement_within (h : 1 ≤ d) :
    forStatement.Within (fun _ => 2) kept (tall · + d) := by
  refine openNode_builds.after fun opened => take_builds.after fun _ => ?_
  refine (expect_builds _).after fun _ => (isAt_builds .semicolon).after fun none => .ite ?_ ?_
  · exact (forRest_closes (by simp) h).further fun _ => Nat.le_succ 1
  refine situation_builds.after fun s => ?_
  split
  · refine openNode_builds.after fun declaration => take_builds.after fun _ => ?_
    refine (declarators_builds true h).after fun found => ?_
    refine .twice (closeNode_closes (.of_subset (by simp [Shape.children]))) fun init => ?_
    refine isAtForEach_builds.after fun each => .ite ?_ ?_
    · exact forEach_closes (by simp) h
    · exact forRest_closes (by simp) h
  · refine (expression_builds true h).after fun init => isAtForEach_builds.after fun each => ?_
    refine Within.further (.ite ?_ (forRest_closes (by simp) h)) fun _ => Nat.le_succ 1
    exact (asPattern_builds (by simp)).after fun left => forEach_closes (by simp) h

theorem whileStatement_closes (h : 1 ≤ d) : whileStatement.Closes kept (tall · + d) := by
  refine openNode_builds.after fun opened => take_builds.after fun _ => ?_
  refine (parenExpression_builds h).after fun test => statement_builds.after fun body => ?_
  exact closeNode_closes (.of_subset (by simp [Shape.children]))

theorem doWhileStatement_closes (h : 1 ≤ d) : doWhileStatement.Closes kept (tall · + d) := by
  refine openNode_builds.after fun opened => take_builds.after fun _ => ?_
  refine statement_builds.after fun body => (expectWord_builds _).after fun _ => ?_
  refine (parenExpression_builds h).after fun test => (eat_builds _).after fun _ => ?_
  exact closeNode_closes (.of_subset (by simp [Shape.children]))

/-- A `return` is closed over its argument, if it has one. -/
theorem returnValue_closes (opened : Opened) (ended : Bool) (h : 1 ≤ d) :
    (returnValue opened ended).Closes kept (tall · + d) := by
  refine .ite (closeNode_closes (.nil _)) ?_
  refine (expression_builds false h).after fun argument => semicolon_builds.after fun _ => ?_
  exact closeNode_closes (.of_subset (by simp [Shape.children]))

theorem returnRest_closes (opened : Opened) (h : 1 ≤ d) :
    (returnRest opened).Closes kept (tall · + d) := by
  refine (eat_builds .semicolon).after fun ended => .ite (returnValue_closes opened true h) ?_
  exact situation_builds.after fun s => returnValue_closes opened _ h

theorem returnStatement_closes (h : 1 ≤ d) : returnStatement.Closes kept (tall · + d) := by
  rw [returnStatement_eq]
  refine openNode_builds.after fun opened => situation_builds.after fun s => ?_
  refine .ite (take_builds.after fun _ => returnRest_closes opened h) ?_
  refine (complainHere_builds _).after fun _ => take_builds.after fun _ => ?_
  exact returnRest_closes opened h

theorem jumpLabel_builds : jumpLabel.Builds kept (tall · + d) := by
  refine token_builds.after fun next => .ite ?_ (.pure (.nil _))
  exact identifier_builds.after fun label => .pure (.of_subset (by simp))

theorem jumpStatement_closes {shape : Option Node → Shape Node}
    (h : ∀ label, (shape label).children = label.toList) :
    (jumpStatement shape).Closes kept (tall · + d) := by
  refine openNode_builds.after fun opened => take_builds.after fun _ => ?_
  refine jumpLabel_builds.after fun label => semicolon_builds.after fun _ => ?_
  exact closeNode_closes (.of_subset (by simp [h]))

/-- A `throw` is closed over its argument. -/
theorem throwRest_closes (opened : Opened) (h : 1 ≤ d) :
    (throwRest opened).Closes kept (tall · + d) := by
  refine (expression_builds false h).after fun argument => semicolon_builds.after fun _ => ?_
  exact closeNode_closes (.of_subset (by simp [Shape.children]))

theorem throwStatement_closes (h : 1 ≤ d) : throwStatement.Closes kept (tall · + d) := by
  rw [throwStatement_eq]
  refine openNode_builds.after fun opened => take_builds.after fun _ => ?_
  refine situation_builds.after fun s => .ite ?_ (throwRest_closes opened h)
  exact (complain_builds _ _).after fun _ => throwRest_closes opened h

theorem catchClause_closes (h : 1 ≤ d) : catchClause.Closes kept (tall · + d) := by
  refine openNode_builds.after fun opened => take_builds.after fun _ => ?_
  refine (expect_builds _).after fun _ => bindingTarget_builds.after fun param => ?_
  refine (expect_builds _).after fun _ => (block_builds h).after fun body => ?_
  exact closeNode_closes (.of_subset (by simp [Shape.children]))

/-- A `try` is closed over its blocks, whether or not one is missing. -/
theorem tryEnd_closes {opened : Opened} {block : Node} {handler finalizer : Option Node}
    (here : block :: (handler.toList ++ finalizer.toList) ⊆ kept) :
    (tryEnd opened block handler finalizer).Closes kept (tall · + d) :=
  .ite ((complainHere_builds _).after fun _ => closeNode_closes (.of_subset here))
    (closeNode_closes (.of_subset here))

theorem tryRest_closes {opened : Opened} {block : Node} {handler : Option Node}
    (here : block :: handler.toList ⊆ kept) (h : 1 ≤ d) :
    (tryRest opened block handler).Closes kept (tall · + d) := by
  refine (eatWord_builds _).after fun lasts => .ite ?_ (tryEnd_closes (by grind))
  exact (block_builds h).after fun finalizer => tryEnd_closes (by grind)

theorem tryStatement_within (h : 1 ≤ d) : tryStatement.Within (fun _ => 2) kept (tall · + d) := by
  rw [tryStatement_eq]
  refine openNode_builds.after fun opened => take_builds.after fun _ => ?_
  refine (block_builds h).after fun block => ?_
  refine (isAtWord_builds .catchWord).after fun catches => .ite ?_ ?_
  · exact .twice (catchClause_closes h) fun handler => tryRest_closes (by grind) h
  · exact (tryRest_closes (by grind) h).further fun _ => Nat.le_succ 1

theorem caseRest_closes {opened : Opened} {test : Option Node} (here : test.toList ⊆ kept) :
    (caseRest opened test).Closes kept (tall · + d) := by
  refine (expect_builds _).after fun _ => ?_
  refine (statementsUntil_builds _ statement_builds).after fun consequent => ?_
  exact closeNode_closes (.of_subset (by grind [Shape.children]))

theorem switchCases_builds (h : 2 ≤ d) : switchCases.Builds kept (tall · + d) := by
  refine .loop (.nil _) fun found => (isAtClose_builds _).after fun closes => ?_
  refine .ite (.pure (.of_subset (by simp))) (openNode_builds.after fun opened => ?_)
  refine (eatWord_builds _).after fun tested => .ite ?_ ((eatWord_builds _).after fun last => ?_)
  · refine .group (.under (c := 1) (o := 1) ?_ h) fun clause => .pure (.of_subset (by grind))
    exact (expression_builds false (Nat.le_refl 1)).after fun test => caseRest_closes (by simp)
  refine .ite (.after (.under (c := 1) (o := 1) ?_ h) fun clause => ?_) ?_
  · exact caseRest_closes (List.nil_subset _)
  · exact .pure (.of_subset (by grind))
  · refine unexpected_builds.after fun _ => take_builds.after fun _ => ?_
    exact .pure (.of_subset (by simp))

theorem switchStatement_closes (h : 2 ≤ d) : switchStatement.Closes kept (tall · + d) := by
  refine openNode_builds.after fun opened => take_builds.after fun _ => ?_
  refine (parenExpression_builds (by omega)).after fun discriminant => ?_
  refine (expect_builds _).after fun _ => (switchCases_builds h).after fun cases => ?_
  refine (expect_builds _).after fun _ => closeNode_closes (.of_subset ?_)
  simp [Shape.children]

theorem withStatement_closes (h : 1 ≤ d) : withStatement.Closes kept (tall · + d) := by
  refine openNode_builds.after fun opened => take_builds.after fun _ => ?_
  refine (parenExpression_builds h).after fun object => statement_builds.after fun body => ?_
  exact closeNode_closes (.of_subset (by simp [Shape.children]))

/-! ## All statements -/

/-- A statement is closed over its expression. -/
theorem expressionEnd_closes {opened : Opened} {inner : Node} (here : inner ∈ kept) :
    (expressionEnd opened inner).Closes kept (tall · + d) := by
  refine semicolon_builds.after fun _ => closeNode_closes (.of_subset ?_)
  simpa [Shape.children] using here

theorem expressionStatement_closes (h : 1 ≤ d) : expressionStatement.Closes kept (tall · + d) := by
  rw [expressionStatement_eq]
  refine openNode_builds.after fun opened => (expression_builds false h).after fun inner => ?_
  split
  · refine (eat_builds .colon).after fun labels => .ite ?_ (expressionEnd_closes (by simp))
    refine statement_builds.after fun body => closeNode_closes (.of_subset ?_)
    simp [Shape.children]
  · exact expressionEnd_closes (by simp)

theorem plainStatement_builds (h : 2 ≤ d) : plainStatement.Builds kept (tall · + d) := by
  refine situation_builds.after fun s => .ite (block_builds (by omega)) (.ite (leaf_builds rfl) ?_)
  refine .ite (.under (c := 1) (o := 1) ?_ h) (.under (c := 1) (o := 1) ?_ h)
  · exact variableStatement_closes _ (Nat.le_refl 1)
  · exact expressionStatement_closes (Nat.le_refl 1)

theorem wordStatement_builds (word : Keyword) (h : 5 ≤ d) :
    (wordStatement word).Builds kept (tall · + d) := by
  -- Most statements close one node, four below the ceiling; loops with `for` and `try` also wrap
  -- what they make.
  have closes {r : Rule Node} (closes : r.Closes [] (tall · + 4)) : r.Builds kept (tall · + d) :=
    .under closes h
  have moduleItem : Rule.Builds kept (tall · + d) (do
      complainHere .moduleItem
      plainStatement) :=
    (complainHere_builds _).after fun _ => plainStatement_builds (by omega)
  cases word with
  | varWord => exact closes (variableStatement_closes _ (by omega))
  | constWord => exact closes (variableStatement_closes _ (by omega))
  | functionWord => exact closes (openNode_builds.after fun _ => function_closes _ true (by omega))
  | classWord => exact closes (openNode_builds.after fun _ => classPhrase_closes (by omega))
  | ifWord => exact closes (ifStatement_closes (by omega))
  | forWord => exact .under (c := 3) (o := 2) (forStatement_within (by omega)) h
  | whileWord => exact closes (whileStatement_closes (by omega))
  | doWord => exact closes (doWhileStatement_closes (by omega))
  | returnWord => exact closes (returnStatement_closes (by omega))
  | breakWord => exact closes (jumpStatement_closes fun _ => rfl)
  | continueWord => exact closes (jumpStatement_closes fun _ => rfl)
  | throwWord => exact closes (throwStatement_closes (by omega))
  | tryWord => exact .under (c := 3) (o := 2) (tryStatement_within (by omega)) h
  | switchWord => exact closes (switchStatement_closes (by omega))
  | withWord => exact closes (withStatement_closes (by omega))
  | debuggerWord =>
      refine openNode_builds.after fun opened => take_builds.after fun _ => ?_
      exact semicolon_builds.after fun _ => closeNode_builds rfl
  | importWord => exact moduleItem
  | exportWord => exact moduleItem
  | _ => exact plainStatement_builds (by omega)

theorem statementRule_builds (h : 5 ≤ d) : statementRule.Builds kept (tall · + d) := by
  refine token_builds.after fun t => ?_
  split
  · exact wordStatement_builds _ h
  · exact plainStatement_builds (by omega)

end ScriptTree.Grammar

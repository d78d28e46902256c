import ScriptTree.Proofs.Shelter.Operand

/-! # Sheltering in statements

    Statements are closed over what they kept, and all but one may stand anywhere.  A
    `return` asks for the flag first: outside of functions it gets no further, and inside
    nothing has to be housed. -/

namespace ScriptTree.Grammar

open Rule

variable {text : List Char} {S : Shelter text} {inside : Bool} {kept : List Node}

/-! ## Blocks and declarations -/

theorem blockRule_houses : blockRule.Houses S inside kept := by
  refine openNode_houses.after fun opened => (expect_houses _).after fun _ => ?_
  refine (statementsUntil_houses _).after fun body => (expect_houses _).after fun _ => ?_
  exact closeNode_houses rfl (by simp [Shape.parts, Shape.children])

theorem parenExpression_houses : parenExpression.Houses S inside kept := by
  refine (expect_houses _).after fun _ => (expression_houses false).after fun inner => ?_
  exact (expect_houses _).after fun _ => .pure (by simp)

/-- A declaration keeps its target and its value. -/
theorem declaratorTurn_houses {opened : Opened} {found : Array Node} {id : Node}
    {init : Option Node} (here : found.toList ++ id :: init.toList ⊆ kept) :
    (declaratorTurn opened found id init).Houses S inside kept := by
  refine .after (closeNode_houses rfl ?_) fun n => (eat_houses .comma).after fun goes => ?_
  · grind [Shape.parts, Shape.children]
  · exact .ite (.pure (by grind)) (.pure (by grind))

theorem declarators_houses (noIn : Bool) : (declarators noIn).Houses S inside kept := by
  rw [declarators_eq]
  refine .loop (List.nil_subset _) fun found => openNode_houses.after fun opened => ?_
  refine bindingTarget_houses.after fun id => (eat_houses .assign).after fun assigned => .ite ?_ ?_
  · exact (assignment_houses noIn).after fun init => declaratorTurn_houses (by grind)
  · exact declaratorTurn_houses (by grind)

theorem variableStatement_houses (kind : BindingKind) :
    (variableStatement kind).Houses S inside kept := by
  refine openNode_houses.after fun opened => take_houses.after fun _ => ?_
  refine (declarators_houses false).after fun found => semicolon_houses.after fun _ => ?_
  exact closeNode_houses rfl (by simp [Shape.parts, Shape.children])

/-! ## Control flow -/

theorem ifStatement_houses : ifStatement.Houses S inside kept := by
  refine openNode_houses.after fun opened => take_houses.after fun _ => ?_
  refine parenExpression_houses.after fun test => statement_houses.after fun consequent => ?_
  refine (eatWord_houses _).after fun otherwise => .ite ?_ ?_
  · refine statement_houses.after fun alternate => closeNode_houses rfl ?_
    simp [Shape.parts, Shape.children]
  · exact closeNode_houses rfl (by simp [Shape.parts, Shape.children])

/-- The parts of a loop and its body are kept. -/
theorem forBody_houses {opened : Opened} {init test update : Option Node}
    (here : init.toList ++ test.toList ++ update.toList ⊆ kept) :
    (forBody opened init test update).Houses S inside kept := by
  refine (expect_houses _).after fun _ => statement_houses.after fun body => ?_
  exact closeNode_houses rfl (by grind [Shape.parts, Shape.children])

theorem forUpdate_houses {opened : Opened} {init test : Option Node}
    (here : init.toList ++ test.toList ⊆ kept) :
    (forUpdate opened init test).Houses S inside kept := by
  refine (expect_houses _).after fun _ => (isAt_houses .closeParen).after fun none => .ite ?_ ?_
  · exact forBody_houses (by grind)
  · exact (expression_houses false).after fun update => forBody_houses (by grind)

theorem forRest_houses {opened : Opened} {init : Option Node} (here : init.toList ⊆ kept) :
    (forRest opened init).Houses S inside kept := by
  rw [forRest_eq]
  refine (expect_houses _).after fun _ => (isAt_houses .semicolon).after fun none => .ite ?_ ?_
  · exact forUpdate_houses (by grind)
  · exact (expression_houses false).after fun test => forUpdate_houses (by grind)

/-- So are both sides of a loop over something, and its body. -/
theorem forEachBody_houses {opened : Opened} {isOf : Bool} {left right : Node}
    (here : [left, right] ⊆ kept) :
    (forEachBody opened isOf left right).Houses S inside kept := by
  refine (expect_houses _).after fun _ => statement_houses.after fun body => ?_
  cases isOf with
  | true => exact closeNode_houses rfl (by grind [Shape.parts, Shape.children])
  | false => exact closeNode_houses rfl (by grind [Shape.parts, Shape.children])

theorem forEach_houses {opened : Opened} {left : Node} (here : left ∈ kept) :
    (forEach opened left).Houses S inside kept := by
  rw [forEach_eq]
  refine token_houses.after fun t => take_houses.after fun _ => .ite ?_ ?_
  · exact (assignment_houses false).after fun right => forEachBody_houses (by grind)
  · exact (expression_houses false).after fun right => forEachBody_houses (by grind)

theorem isAtForEach_houses : isAtForEach.Houses S inside kept := .look fun _ _ => plain_houses rfl

theorem forStatement_houses : forStatement.Houses S inside kept := by
  refine openNode_houses.after fun opened => take_houses.after fun _ => ?_
  refine (expect_houses _).after fun _ => (isAt_houses .semicolon).after fun none => .ite ?_ ?_
  · exact forRest_houses (by simp)
  refine situation_houses.after fun s => ?_
  split
  · refine openNode_houses.after fun declaration => take_houses.after fun _ => ?_
    refine (declarators_houses true).after fun found => ?_
    refine .after (closeNode_houses rfl (by simp [Shape.parts, Shape.children])) fun init => ?_
    refine isAtForEach_houses.after fun each => .ite ?_ ?_
    · exact forEach_houses (by simp)
    · exact forRest_houses (by simp)
  · refine (expression_houses true).after fun init => isAtForEach_houses.after fun each => ?_
    refine .ite ?_ (forRest_houses (by simp))
    exact (asPattern_houses (by simp)).after fun left => forEach_houses (by simp)

theorem whileStatement_houses : whileStatement.Houses S inside kept := by
  refine openNode_houses.after fun opened => take_houses.after fun _ => ?_
  refine parenExpression_houses.after fun test => statement_houses.after fun body => ?_
  exact closeNode_houses rfl (by simp [Shape.parts, Shape.children])

theorem doWhileStatement_houses : doWhileStatement.Houses S inside kept := by
  refine openNode_houses.after fun opened => take_houses.after fun _ => ?_
  refine statement_houses.after fun body => (expectWord_houses _).after fun _ => ?_
  refine parenExpression_houses.after fun test => (eat_houses _).after fun _ => ?_
  exact closeNode_houses rfl (by simp [Shape.parts, Shape.children])

/-- The argument of a `return` is kept, where one may stand. -/
theorem returnValue_houses {opened : Opened} (ended : Bool)
    (admitted : S.mode = .strict → inside = true) :
    (returnValue opened ended).Houses S inside kept := by
  have closed {kept : List Node} {argument : Option Node} (here : argument.toList ⊆ kept) :
      (closeNode opened (.returnStatement argument)).Houses S inside kept :=
    .look fun _ _ => .close (fun _ => admitted) nofun here
  refine .ite (closed (List.nil_subset _)) ((expression_houses false).after fun argument => ?_)
  exact semicolon_houses.after fun _ => closed (by simp)

/-- So is what follows the word. -/
theorem returnRest_houses {opened : Opened} (admitted : S.mode = .strict → inside = true) :
    (returnRest opened).Houses S inside kept := by
  refine (eat_houses .semicolon).after fun ended => .ite (returnValue_houses true admitted) ?_
  exact situation_houses.after fun s => returnValue_houses _ admitted

/-- A `return` outside of functions is complained of at the word, and behind the complaint a
    strict parse is over; one inside is not complained of. -/
theorem returnStatement_shelters {s : Situation} (here : s.token.kind = .keyword .returnWord)
    (flag : s.inFunction = inside) :
    returnStatement.Shelters S inside s fun n => S.Housed inside (nodes n) := by
  intro comments
  -- Opening the node has not moved the parse: the flag is asked where it began.
  show (if s.inFunction = true then _ else _ : Rule Node).Shelters S inside s _
  split
  · rename_i within
    intro t u flag'
    exact returnRest_houses (fun _ => flag.symm.trans within) u flag' .nil
  · rename_i outside
    refine ⟨fun _ => ⟨flag.symm.trans (Bool.eq_false_iff.mpr outside), rfl, here, rfl⟩, ?_⟩
    intro loose t u flag'
    exact returnRest_houses (fun strict => nomatch loose.symm.trans strict) u flag' .nil

theorem jumpLabel_houses : jumpLabel.Houses S inside kept := by
  refine token_houses.after fun next => .ite ?_ (.pure (by simp))
  exact identifier_houses.after fun label => .pure (by simp)

/-- A `break` or `continue` keeps its label. -/
theorem jumpStatement_houses {shape : Option Node → Shape Node}
    (plain : ∀ label, (shape label).isTransparent = true)
    (h : ∀ label, (shape label).parts = label.toList) :
    (jumpStatement shape).Houses S inside kept := by
  refine openNode_houses.after fun opened => take_houses.after fun _ => ?_
  refine jumpLabel_houses.after fun label => semicolon_houses.after fun _ => ?_
  exact closeNode_houses (plain label) (by simp [h])

/-- The argument of a `throw` is kept. -/
theorem throwRest_houses (opened : Opened) : (throwRest opened).Houses S inside kept := by
  refine (expression_houses false).after fun argument => semicolon_houses.after fun _ => ?_
  exact closeNode_houses rfl (by simp [Shape.parts, Shape.children])

theorem throwStatement_houses : throwStatement.Houses S inside kept := by
  rw [throwStatement_eq]
  refine openNode_houses.after fun opened => take_houses.after fun _ => ?_
  refine situation_houses.after fun s => .ite ?_ (throwRest_houses opened)
  exact (complain_houses (by decide)).after fun _ => throwRest_houses opened

theorem catchClause_houses : catchClause.Houses S inside kept := by
  refine openNode_houses.after fun opened => take_houses.after fun _ => ?_
  refine (expect_houses _).after fun _ => bindingTarget_houses.after fun param => ?_
  refine (expect_houses _).after fun _ => block_houses.after fun body => ?_
  exact closeNode_houses rfl (by simp [Shape.parts, Shape.children])

/-- The blocks of a `try` are kept, whether or not one is missing. -/
theorem tryEnd_houses {opened : Opened} {block : Node} {handler finalizer : Option Node}
    (here : block :: (handler.toList ++ finalizer.toList) ⊆ kept) :
    (tryEnd opened block handler finalizer).Houses S inside kept := by
  refine .ite ((complainHere_houses (by decide)).after fun _ => ?_) (closeNode_houses rfl here)
  exact closeNode_houses rfl here

theorem tryRest_houses {opened : Opened} {block : Node} {handler : Option Node}
    (here : block :: handler.toList ⊆ kept) :
    (tryRest opened block handler).Houses S inside kept := by
  refine (eatWord_houses _).after fun lasts => .ite ?_ (tryEnd_houses (by grind))
  exact block_houses.after fun finalizer => tryEnd_houses (by grind)

theorem tryStatement_houses : tryStatement.Houses S inside kept := by
  rw [tryStatement_eq]
  refine openNode_houses.after fun opened => take_houses.after fun _ => ?_
  refine block_houses.after fun block => ?_
  refine (isAtWord_houses .catchWord).after fun catches => .ite ?_ ?_
  · exact catchClause_houses.after fun handler => tryRest_houses (by grind)
  · exact tryRest_houses (by grind)

theorem caseRest_houses {opened : Opened} {test : Option Node} (here : test.toList ⊆ kept) :
    (caseRest opened test).Houses S inside kept := by
  refine (expect_houses _).after fun _ => (statementsUntil_houses _).after fun consequent => ?_
  exact closeNode_houses rfl (by grind [Shape.parts, Shape.children])

theorem switchCases_houses : switchCases.Houses S inside kept := by
  refine .loop (List.nil_subset _) fun found => (isAtClose_houses _).after fun closes => ?_
  refine .ite (.pure (by simp)) (openNode_houses.after fun opened => ?_)
  refine (eatWord_houses _).after fun tested => .ite ?_ ((eatWord_houses _).after fun last => ?_)
  · refine (expression_houses false).after fun test => ?_
    exact (caseRest_houses (by simp)).after fun clause => .pure (by grind)
  refine .ite ?_ (unexpected_houses.after fun _ => ?_)
  · exact (caseRest_houses (List.nil_subset _)).after fun clause => .pure (by grind)
  · exact take_houses.after fun _ => .pure (by grind)

theorem switchStatement_houses : switchStatement.Houses S inside kept := by
  refine openNode_houses.after fun opened => take_houses.after fun _ => ?_
  refine parenExpression_houses.after fun discriminant => (expect_houses _).after fun _ => ?_
  refine switchCases_houses.after fun cases => (expect_houses _).after fun _ => ?_
  exact closeNode_houses rfl (by simp [Shape.parts, Shape.children])

theorem withStatement_houses : withStatement.Houses S inside kept := by
  refine openNode_houses.after fun opened => take_houses.after fun _ => ?_
  refine parenExpression_houses.after fun object => statement_houses.after fun body => ?_
  exact closeNode_houses rfl (by simp [Shape.parts, Shape.children])

/-! ## All statements -/

/-- So is the expression of a statement. -/
theorem expressionEnd_houses {opened : Opened} {inner : Node} (here : inner ∈ kept) :
    (expressionEnd opened inner).Houses S inside kept := by
  refine semicolon_houses.after fun _ => closeNode_houses rfl ?_
  simpa [Shape.parts, Shape.children] using here

/-- A label keeps its name and its statement. -/
theorem expressionStatement_houses : expressionStatement.Houses S inside kept := by
  rw [expressionStatement_eq]
  refine openNode_houses.after fun opened => (expression_houses false).after fun inner => ?_
  split
  · refine (eat_houses .colon).after fun labels => .ite ?_ (expressionEnd_houses (by simp))
    refine statement_houses.after fun body => closeNode_houses rfl ?_
    simp [Shape.parts, Shape.children]
  · exact expressionEnd_houses (by simp)

theorem plainStatement_houses : plainStatement.Houses S inside kept := by
  refine situation_houses.after fun s => .ite block_houses (.ite (leaf_houses rfl rfl) ?_)
  exact .ite (variableStatement_houses _) expressionStatement_houses

/-- Every statement that begins with a word, at the word. -/
theorem wordStatement_shelters {word : Keyword} {s : Situation}
    (here : s.token.kind = .keyword word) (flag : s.inFunction = inside)
    (hk : S.Housed inside kept) :
    (wordStatement word).Shelters S inside s fun n => S.Housed inside (nodes n) := by
  cases word with
  | varWord => exact variableStatement_houses _ s flag hk
  | constWord => exact variableStatement_houses _ s flag hk
  | functionWord =>
      exact openNode_houses.after (fun opened => function_houses opened true) s flag hk
  | classWord =>
      exact openNode_houses.after (fun opened => classPhrase_houses opened true) s flag hk
  | ifWord => exact ifStatement_houses s flag hk
  | forWord => exact forStatement_houses s flag hk
  | whileWord => exact whileStatement_houses s flag hk
  | doWord => exact doWhileStatement_houses s flag hk
  -- The one word that asks whether a function is open.
  | returnWord => exact returnStatement_shelters here flag
  | breakWord => exact jumpStatement_houses (fun _ => rfl) (fun _ => rfl) s flag hk
  | continueWord => exact jumpStatement_houses (fun _ => rfl) (fun _ => rfl) s flag hk
  | throwWord => exact throwStatement_houses s flag hk
  | tryWord => exact tryStatement_houses s flag hk
  | switchWord => exact switchStatement_houses s flag hk
  | withWord => exact withStatement_houses s flag hk
  | debuggerWord =>
      -- The words without a phrase of their own between the keyword and the semicolon.
      refine openNode_houses.after (fun opened => take_houses.after fun _ => ?_) s flag hk
      exact semicolon_houses.after fun _ => closeNode_houses rfl (List.nil_subset _)
  | importWord =>
      exact (complainHere_houses (by decide)).after (fun _ => plainStatement_houses) s flag hk
  | exportWord =>
      exact (complainHere_houses (by decide)).after (fun _ => plainStatement_houses) s flag hk
  | _ => exact plainStatement_houses s flag hk

/-- A statement may be a `return` where the situation says so; all others house what they
    make. -/
theorem statementRule_houses : statementRule.Houses S inside kept := by
  intro s flag hk
  rw [statementRule]
  apply token_shelters
  split
  · rename_i word here
    exact wordStatement_shelters here flag hk
  · exact plainStatement_houses s flag hk

end ScriptTree.Grammar

import ScriptTree.Proofs.Height.Basic

/-! # Heights of phrases, leaves, lists and patterns

    The vocabulary of the grammar builds under a ceiling.  What a phrase needs is
    so many nodes above an assignment: `d` counts them.  Lists may go round for
    as long as they like, since their items stand beside each other. -/

namespace ScriptTree.Grammar

open Rule

variable {kept : List Node} {extra room : Nat → Nat} {d : Nat}

/-! ## Phrases -/

/-- A rule that makes no node may stand anywhere. -/
theorem plain_builds {α : Type} [HasNodes α] {a : α} (h : nodes a = []) :
    (Pure.pure a : Rule α).Within extra kept room :=
  .pure (h ▸ .nil _)

theorem situation_builds : situation.Builds kept room := .look fun _ => plain_builds rfl

theorem token_builds : token.Builds kept room := .look fun _ => plain_builds rfl

theorem take_builds : take.Builds kept room := .take fun _ => plain_builds rfl

theorem here_builds : here.Builds kept room := .look fun _ => plain_builds rfl

theorem consumed_builds : consumed.Builds kept room := .look fun _ => plain_builds rfl

theorem isAt_builds (mark : Punctuator) : (isAt mark).Builds kept room :=
  .look fun _ => plain_builds rfl

theorem isAtWord_builds (word : Keyword) : (isAtWord word).Builds kept room :=
  .look fun _ => plain_builds rfl

theorem isAtClose_builds (close : Punctuator) : (isAtClose close).Builds kept room :=
  .look fun _ => plain_builds rfl

theorem complain_builds (span : Span) (fault : Fault) : (complain span fault).Builds kept room :=
  .complain (plain_builds rfl)

theorem complainHere_builds (fault : Fault) : (complainHere fault).Builds kept room :=
  .look fun _ => complain_builds _ _

theorem unexpected_builds : unexpected.Builds kept room := .look fun _ => complain_builds _ _

theorem eat_builds (mark : Punctuator) : (eat mark).Builds kept room :=
  .look fun _ => .ite (.take fun _ => plain_builds rfl) (plain_builds rfl)

theorem eatWord_builds (word : Keyword) : (eatWord word).Builds kept room :=
  .look fun _ => .ite (.take fun _ => plain_builds rfl) (plain_builds rfl)

theorem expect_builds (mark : Punctuator) : (expect mark).Builds kept room :=
  (eat_builds mark).after fun _ => .ite (plain_builds rfl) unexpected_builds

theorem expectWord_builds (word : Keyword) : (expectWord word).Builds kept room :=
  (eatWord_builds word).after fun _ => .ite (plain_builds rfl) unexpected_builds

theorem semicolon_builds : semicolon.Builds kept room :=
  (eat_builds .semicolon).after fun _ => .ite (plain_builds rfl) <|
    situation_builds.after fun _ => .ite (plain_builds rfl) unexpected_builds

theorem openNode_builds : openNode.Builds kept room :=
  .look fun _ => .openAt fun _ => plain_builds rfl

theorem closeNodeAt_closes {opened : Opened} {shape : Shape Node} {stop : Nat}
    (h : Below shape.children kept) : (closeNodeAt opened shape stop).Closes kept room :=
  .close h

theorem closeNode_closes {opened : Opened} {shape : Shape Node}
    (h : Below shape.children kept) : (closeNode opened shape).Closes kept room :=
  .look fun _ => closeNodeAt_closes h

/-- A node that is closed over nothing. -/
theorem closeNodeAt_builds {opened : Opened} {shape : Shape Node} {stop : Nat}
    (h : shape.children = []) : (closeNodeAt opened shape stop).Builds kept (tall · + d) :=
  (closeNodeAt_closes (h ▸ .nil _) :
    (closeNodeAt opened shape stop).Closes [] fun _ => 0).fit fun levels => by
      simp only [tall]
      omega

theorem closeNode_builds {opened : Opened} {shape : Shape Node} (h : shape.children = []) :
    (closeNode opened shape).Builds kept (tall · + d) :=
  .look fun _ => closeNodeAt_builds h

theorem placeholder_builds : placeholder.Builds kept (tall · + d) :=
  .look fun _ => .single rfl fun levels => by simp only [tall]; omega

theorem missing_builds : missing.Builds kept (tall · + d) :=
  unexpected_builds.after fun _ => placeholder_builds

/-! ## Calls -/

/-- An assignment one level further down is not higher than one here. -/
theorem deeper_le {height : Nat → Nat} (h : ∀ levels, height levels ≤ tall levels + 8) :
    ∀ levels, deeper height levels ≤ tall levels
  | 0 => by simp [deeper, tall]
  | levels + 1 => by
      have := h levels
      have := tall_succ levels
      rw [deeper]
      omega

theorem statement_builds : statement.Builds kept (tall · + d) :=
  .nested rfl fun levels =>
    Nat.le_add_right_of_le (deeper_le (fun _ => by simp [Nonterminal.height]) levels)

theorem assignment_builds (noIn : Bool) : (assignment noIn).Builds kept (tall · + d) :=
  .same rfl fun _ => Nat.le_add_right _ _

theorem unary_builds : unary.Builds kept (deeper Nonterminal.unary.height) :=
  .nested rfl fun _ => Nat.le_refl _

theorem block_builds (h : 1 ≤ d) : (parse .block).Builds kept (tall · + d) :=
  .same rfl fun levels => Nat.add_le_add_left h (tall levels)

theorem functionBody_builds (h : 1 ≤ d) : functionBody.Builds kept (tall · + d) :=
  .functionBody rfl fun levels => Nat.add_le_add_left h (tall levels)

theorem atom_builds (h : 5 ≤ d) : (parse .atom).Builds kept (tall · + d) :=
  .same rfl fun levels => Nat.add_le_add_left h (tall levels)

theorem subscripts_chains {base : Node} {start : Nat} {noCalls : Bool}
    (h : Below [base] kept) :
    (parseChain (.subscripts base start noCalls)).Chains kept (tall · + d) :=
  .continues (fun _ => Nat.le_add_right _ _) h

theorem operators_chains {left : Node} {start minimum : Nat} {noIn : Bool}
    (h : Below [left] kept) : (parseChain (.operators left start minimum noIn)).Chains kept
      (deeper Nonterminal.unary.height) :=
  .continues (fun _ => Nat.le_refl _) h

theorem expression_builds (noIn : Bool) (h : 1 ≤ d) :
    (expression noIn).Builds kept (tall · + d) := by
  have closes : (expression noIn).Closes [] (tall · + 0) := by
    refine here_builds.after fun start => (assignment_builds noIn).after fun first => ?_
    refine (isAt_builds .comma).after fun more => .ite ?_ (.pure (.of_subset (by simp)))
    refine .after (.loop (.of_subset (by simp)) fun found => ?_) fun found =>
      closeNode_closes (.of_subset (by simp [Shape.children]))
    refine (eat_builds .comma).after fun goes => .ite ?_ (.pure (.of_subset (by simp)))
    exact (assignment_builds noIn).after fun next => .pure (.of_subset (by simp))
  exact closes.under h

/-! ## Leaves -/

theorem leaf_builds {shape : Shape Node} (h : shape.children = []) :
    (leaf shape).Builds kept (tall · + d) :=
  openNode_builds.after fun _ => take_builds.after fun _ => closeNode_builds h

theorem identifier_builds : identifier.Builds kept (tall · + d) := by
  refine token_builds.after fun t => ?_
  split
  · exact leaf_builds rfl
  · exact missing_builds

theorem identifierName_builds : identifierName.Builds kept (tall · + d) := by
  refine token_builds.after fun t => ?_
  split
  · exact leaf_builds rfl
  · exact leaf_builds rfl
  · exact missing_builds

theorem literal_builds : literal.Builds kept (tall · + d) := by
  refine token_builds.after fun t => ?_
  split
  · exact leaf_builds rfl
  · exact missing_builds

theorem propertyName_builds : propertyName.Builds kept (tall · + d) := by
  refine (eat_builds .openBracket).after fun computed => .ite ?_ ?_
  · refine (assignment_builds false).after fun key => ?_
    exact (expect_builds _).after fun _ => .pure (.of_subset (by simp))
  · refine token_builds.after fun t => ?_
    split
    · exact literal_builds.after fun _ => .pure (.of_subset (by simp))
    · exact literal_builds.after fun _ => .pure (.of_subset (by simp))
    · exact identifierName_builds.after fun _ => .pure (.of_subset (by simp))

/-! ## Lists -/

section Lists

variable {item : Rule Node}

theorem endItem_builds (close : Punctuator) (before : Nat) :
    (endItem close before).Builds kept room := by
  refine consumed_builds.after fun after => .ite (plain_builds rfl) ?_
  refine (isAt_builds close).after fun closes => .ite (plain_builds rfl) ?_
  refine (eat_builds .comma).after fun goes => .ite (plain_builds rfl) ?_
  exact unexpected_builds.after fun _ => plain_builds rfl

theorem items_builds (close : Punctuator) (h : item.Builds [] room) :
    (items close item).Builds kept room := by
  refine .loop (.nil _) fun found => (isAtClose_builds close).after fun closes => ?_
  refine .ite (.pure (.of_subset (by simp))) ?_
  refine consumed_builds.after fun before => (Within.keep h).after fun n => ?_
  refine (endItem_builds close before).after fun more => ?_
  exact .ite (.pure (.of_subset (by grind))) (.pure (.of_subset (by grind)))

theorem elements_builds (close : Punctuator) (h : item.Builds [] room) :
    (elements close item).Builds kept room := by
  refine .loop (.nil _) fun found => (isAtClose_builds close).after fun closes => ?_
  refine .ite (.pure (.of_subset (by simp))) ?_
  refine (eat_builds .comma).after fun hole => .ite (.pure (.of_subset (by simp))) ?_
  refine consumed_builds.after fun before => (Within.keep h).after fun n => ?_
  refine (endItem_builds close before).after fun more => ?_
  exact .ite (.pure (.of_subset (by grind))) (.pure (.of_subset (by grind)))

theorem commaChain_builds (close : Punctuator) (h : item.Builds [] room) :
    (commaChain close item).Builds kept room := by
  refine .loop (.nil _) fun found => (isAtClose_builds close).after fun closes => ?_
  refine .ite (.pure (.of_subset (by simp))) ?_
  refine consumed_builds.after fun before => (Within.keep h).after fun n => ?_
  refine consumed_builds.after fun after => .ite (.pure (.of_subset (by grind))) ?_
  refine (eat_builds .comma).after fun goes => ?_
  exact .ite (.pure (.of_subset (by grind))) (.pure (.of_subset (by grind)))

theorem statementsUntil_builds (ends : Token → Bool) (h : statement.Builds [] room) :
    (statementsUntil ends).Builds kept room := by
  refine .loop (.nil _) fun found => situation_builds.after fun s => ?_
  refine .ite (.pure (.of_subset (by simp))) ?_
  refine (Within.keep h).after fun next => consumed_builds.after fun after => ?_
  refine .ite (take_builds.after fun _ => .pure (.of_subset (by grind))) ?_
  exact .pure (.of_subset (by grind))

end Lists

/-! ## Patterns -/

theorem bindingTarget_builds : bindingTarget.Builds kept (tall · + d) := by
  have pattern (phrase : Nonterminal) (alone : phrase.left? = none)
      (h : ∀ levels, phrase.height levels ≤ tall levels + 8) :
      (parseNested phrase).Builds kept (tall · + d) :=
    .nested alone fun levels => Nat.le_add_right_of_le (deeper_le h levels)
  refine token_builds.after fun t => ?_
  split
  · exact identifier_builds
  · exact pattern _ rfl fun _ => by simp [Nonterminal.height]
  · exact pattern _ rfl fun _ => by simp [Nonterminal.height]
  · exact missing_builds

theorem withDefault_closes {start : Nat} {target : Node} (h : Below [target] kept) :
    (withDefault start target).Closes kept (tall · + d) := by
  refine (assignment_builds false).after fun right => closeNode_closes ?_
  exact (h.mono (by simp)).append (.of_subset (by simp))

theorem bindingElement_closes : bindingElement.Closes kept (tall · + d) := by
  refine here_builds.after fun start => bindingTarget_builds.after fun target => ?_
  refine (eat_builds .assign).after fun defaults => .ite ?_ (.pure (.of_subset (by simp)))
  exact withDefault_closes (.of_subset (by simp))

theorem restElement_closes : restElement.Closes kept (tall · + d) := by
  refine openNode_builds.after fun opened => take_builds.after fun _ => ?_
  refine bindingTarget_builds.after fun argument => closeNode_closes (.of_subset ?_)
  simp [Shape.children]

theorem bindingOrRest_closes : bindingOrRest.Closes kept (tall · + d) :=
  (isAt_builds .ellipsis).after fun _ => .ite restElement_closes bindingElement_closes

theorem bindingOrRest_builds (h : 1 ≤ d) : bindingOrRest.Builds kept (tall · + d) :=
  Within.under (c := 0) bindingOrRest_closes h

theorem arrayPattern_closes (h : 1 ≤ d) : arrayPattern.Closes kept (tall · + d) := by
  refine openNode_builds.after fun opened => take_builds.after fun _ => ?_
  refine (elements_builds _ (bindingOrRest_builds h)).after fun found => ?_
  refine (expect_builds _).after fun _ => closeNode_closes (.of_subset ?_)
  simp [Shape.children]

/-- A property is as high as its key and its value allow, be it a shorthand or not. -/
theorem closeProperty_closes {opened : Opened} {key value : Node} {kind : PropertyKind}
    {computed shorthand isMethod : Bool} (h : Below [key, value] kept) :
    (closeNode opened (.property key value kind computed shorthand isMethod)).Closes kept room := by
  refine closeNode_closes fun n hn => h n ?_
  cases shorthand with
  | true => exact List.mem_cons_of_mem key hn
  | false => exact hn

theorem patternProperty_within : patternProperty.Within (fun _ => 2) kept (tall · + d) := by
  refine openNode_builds.after fun opened => propertyName_builds.after fun name => ?_
  have twin {kept : List Node} (h : name.1 ∈ kept) : Below [name.1.detached] kept :=
    .one h (Nat.le_of_eq Node.height_detached)
  have closed {kept : List Node} {value : Node} {shorthand : Bool} (here : name.1 ∈ kept)
      (h : Below [value] kept) :
      (closeNode opened (.property name.1 value .init name.2 shorthand false)).Closes kept
        (tall · + d) :=
    closeProperty_closes ((Below.one here (Nat.le_refl _)).append h)
  refine (eat_builds .colon).after fun colon => .ite ?_ ?_
  · exact .twice bindingElement_closes fun value => closed (by simp) (.of_subset (by simp))
  split
  · refine (eat_builds .assign).after fun defaults => .ite ?_ ?_
    · exact .twice (withDefault_closes (twin (by simp))) fun value =>
        closed (by simp) (.of_subset (by simp))
    · exact (closed (by simp) (twin (by simp))).further fun _ => Nat.le_succ 1
  · exact missing_builds.after fun value =>
      (closed (by simp) (.of_subset (by simp))).further fun _ => Nat.le_succ 1

theorem objectPattern_closes (h : 2 ≤ d) : objectPattern.Closes kept (tall · + d) := by
  refine openNode_builds.after fun opened => take_builds.after fun _ => ?_
  refine (items_builds _ (Within.under (c := 0) patternProperty_within h)).after fun found => ?_
  refine (expect_builds _).after fun _ => closeNode_closes (.of_subset ?_)
  simp [Shape.children]

end ScriptTree.Grammar

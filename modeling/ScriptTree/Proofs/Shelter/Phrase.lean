import ScriptTree.Proofs.Shelter.Basic

/-! # Sheltering in phrases, leaves, lists and patterns

    The vocabulary of the grammar closes nodes over what it kept and complains of nothing
    that has to do with functions, so it may stand inside of them and outside. -/

namespace ScriptTree.Grammar

open Rule

variable {α : Type} [HasNodes α] {text : List Char} {S : Shelter text} {inside : Bool}
  {kept : List Node}

/-! ## Phrases -/

/-- A rule that makes no node may stand anywhere. -/
theorem plain_houses {a : α} (h : nodes a = []) : (Pure.pure a : Rule α).Houses S inside kept :=
  .pure (h ▸ List.nil_subset kept)

theorem situation_houses : situation.Houses S inside kept := .look fun _ _ => plain_houses rfl

theorem token_houses : token.Houses S inside kept := .look fun _ _ => plain_houses rfl

omit [HasNodes α] in
/-- The token that is looked at is the current one. -/
theorem token_shelters {f : Token → Rule α} {s : Situation} {post : α → Prop}
    (h : (f s.token).Shelters S inside s post) : (token >>= f).Shelters S inside s post := h

theorem take_houses : take.Houses S inside kept := .take fun _ => plain_houses rfl

theorem here_houses : here.Houses S inside kept := .look fun _ _ => plain_houses rfl

theorem consumed_houses : consumed.Houses S inside kept := .look fun _ _ => plain_houses rfl

theorem isAt_houses (mark : Punctuator) : (isAt mark).Houses S inside kept :=
  .look fun _ _ => plain_houses rfl

theorem isAtWord_houses (word : Keyword) : (isAtWord word).Houses S inside kept :=
  .look fun _ _ => plain_houses rfl

theorem isAtClose_houses (close : Punctuator) : (isAtClose close).Houses S inside kept :=
  .look fun _ _ => plain_houses rfl

theorem complain_houses {span : Span} {fault : Fault} (other : fault ≠ .returnOutsideFunction) :
    (complain span fault).Houses S inside kept :=
  .complain other (plain_houses rfl)

theorem complainHere_houses {fault : Fault} (other : fault ≠ .returnOutsideFunction) :
    (complainHere fault).Houses S inside kept :=
  .look fun _ _ => complain_houses other

theorem unexpected_houses : unexpected.Houses S inside kept :=
  .look fun _ _ => complain_houses (by split <;> nofun)

theorem eat_houses (mark : Punctuator) : (eat mark).Houses S inside kept :=
  .look fun _ _ => .ite (.take fun _ => plain_houses rfl) (plain_houses rfl)

theorem eatWord_houses (word : Keyword) : (eatWord word).Houses S inside kept :=
  .look fun _ _ => .ite (.take fun _ => plain_houses rfl) (plain_houses rfl)

theorem expect_houses (mark : Punctuator) : (expect mark).Houses S inside kept :=
  (eat_houses mark).after fun _ => .ite (plain_houses rfl) unexpected_houses

theorem expectWord_houses (word : Keyword) : (expectWord word).Houses S inside kept :=
  (eatWord_houses word).after fun _ => .ite (plain_houses rfl) unexpected_houses

theorem semicolon_houses : semicolon.Houses S inside kept :=
  (eat_houses .semicolon).after fun _ => .ite (plain_houses rfl) <|
    situation_houses.after fun _ => .ite (plain_houses rfl) unexpected_houses

theorem openNode_houses : openNode.Houses S inside kept :=
  .look fun _ _ => .openAt fun _ => plain_houses rfl

theorem closeNodeAt_houses {opened : Opened} {shape : Shape Node} {stop : Nat}
    (plain : shape.isTransparent = true) (h : shape.parts ⊆ kept) :
    (closeNodeAt opened shape stop).Houses S inside kept := by
  refine .close (fun here => absurd here (Shape.type_of_isTransparent plain))
    (fun body some => ?_) fun x hx => ?_
  · rw [Shape.functionBody?_of_isTransparent plain] at some
    cases some
  · exact h ((Shape.mem_parts_of_isTransparent plain).mpr hx)

theorem closeNode_houses {opened : Opened} {shape : Shape Node}
    (plain : shape.isTransparent = true) (h : shape.parts ⊆ kept) :
    (closeNode opened shape).Houses S inside kept :=
  .look fun _ _ => closeNodeAt_houses plain h

/-- A node without parts may be put anywhere. -/
theorem placeholder_houses : placeholder.Houses S inside kept :=
  fun _ _ _ => .one (Shelter.keeps_of_transparent rfl nofun)

theorem missing_houses : missing.Houses S inside kept :=
  unexpected_houses.after fun _ => placeholder_houses

/-! ## Calls -/

theorem statement_houses : statement.Houses S inside kept := .call nofun (List.nil_subset _)

theorem assignment_houses (noIn : Bool) : (assignment noIn).Houses S inside kept :=
  .call nofun (List.nil_subset _)

theorem nested_houses (noIn : Bool) : (parseNested (.assignment noIn)).Houses S inside kept :=
  .call nofun (List.nil_subset _)

theorem unary_houses : unary.Houses S inside kept := .call nofun (List.nil_subset _)

theorem block_houses : (parse .block).Houses S inside kept := .call nofun (List.nil_subset _)

theorem atom_houses : (parse .atom).Houses S inside kept := .call nofun (List.nil_subset _)

theorem subscripts_houses {base : Node} {start : Nat} {noCalls : Bool} (h : [base] ⊆ kept) :
    (parseChain (.subscripts base start noCalls)).Houses S inside kept := .call nofun h

theorem operators_houses {left : Node} {start minimum : Nat} {noIn : Bool} (h : [left] ⊆ kept) :
    (parseChain (.operators left start minimum noIn)).Houses S inside kept := .call nofun h

/-- A function is closed over its body, which stands inside of it: what is in there need not
    be housed. -/
theorem functionBody_then {f : Node → Rule α}
    (k : ∀ body, S.Good body → (f body).Houses S inside kept) :
    (functionBody >>= f).Houses S inside kept :=
  fun _ _ hk => ⟨fun _ => rfl, .nil, fun body t flag good => k body good t flag hk⟩

theorem closeFunction_houses {opened : Opened} {shape : Shape Node} {body : Node}
    (noReturn : shape.type ≠ .returnStatement) (is : shape.functionBody? = some body)
    (good : S.Good body) (h : shape.outside ⊆ kept) :
    (closeNode opened shape).Houses S inside kept :=
  .look fun _ _ => .close (fun here => absurd here noReturn)
    (fun _ same => Option.some.inj (is.symm.trans same) ▸ good) h

theorem expression_houses (noIn : Bool) : (expression noIn).Houses S inside kept := by
  refine here_houses.after fun start => (assignment_houses noIn).after fun first => ?_
  refine (isAt_houses .comma).after fun more => .ite ?_ (.pure (by simp))
  refine .after (.loop (by simp) fun found => ?_) fun found => closeNode_houses rfl ?_
  · refine (eat_houses .comma).after fun goes => .ite ?_ (.pure (by simp))
    exact (assignment_houses noIn).after fun next => .pure (by simp)
  · simp [Shape.parts, Shape.children]

/-! ## Leaves -/

theorem leaf_houses {shape : Shape Node} (plain : shape.isTransparent = true)
    (h : shape.parts = []) : (leaf shape).Houses S inside kept :=
  openNode_houses.after fun _ => take_houses.after fun _ =>
    closeNode_houses plain (h ▸ List.nil_subset _)

theorem identifier_houses : identifier.Houses S inside kept := by
  refine token_houses.after fun t => ?_
  split
  · exact leaf_houses rfl rfl
  · exact missing_houses

theorem identifierName_houses : identifierName.Houses S inside kept := by
  refine token_houses.after fun t => ?_
  split
  · exact leaf_houses rfl rfl
  · exact leaf_houses rfl rfl
  · exact missing_houses

theorem literal_houses : literal.Houses S inside kept := by
  refine token_houses.after fun t => ?_
  split
  · exact leaf_houses rfl rfl
  · exact missing_houses

theorem propertyName_houses : propertyName.Houses S inside kept := by
  refine (eat_houses .openBracket).after fun computed => .ite ?_ ?_
  · refine (assignment_houses false).after fun key => ?_
    exact (expect_houses _).after fun _ => .pure (by simp)
  · refine token_houses.after fun t => ?_
    split
    · exact literal_houses.after fun _ => .pure (by simp)
    · exact literal_houses.after fun _ => .pure (by simp)
    · exact identifierName_houses.after fun _ => .pure (by simp)

/-! ## Lists -/

section Lists

variable {item : Rule Node}

theorem endItem_houses (close : Punctuator) (before : Nat) :
    (endItem close before).Houses S inside kept := by
  refine consumed_houses.after fun after => .ite (plain_houses rfl) ?_
  refine (isAt_houses close).after fun closes => .ite (plain_houses rfl) ?_
  refine (eat_houses .comma).after fun goes => .ite (plain_houses rfl) ?_
  exact unexpected_houses.after fun _ => plain_houses rfl

theorem items_houses (close : Punctuator) (h : item.Houses S inside []) :
    (items close item).Houses S inside kept := by
  refine .loop (List.nil_subset _) fun found => (isAtClose_houses close).after fun closes => ?_
  refine .ite (.pure (by simp)) ?_
  refine consumed_houses.after fun before => h.alone.after fun n => ?_
  refine (endItem_houses close before).after fun more => ?_
  exact .ite (.pure (by grind)) (.pure (by grind))

theorem elements_houses (close : Punctuator) (h : item.Houses S inside []) :
    (elements close item).Houses S inside kept := by
  refine .loop (List.nil_subset _) fun found => (isAtClose_houses close).after fun closes => ?_
  refine .ite (.pure (by simp)) ?_
  refine (eat_houses .comma).after fun hole => .ite (.pure (by simp)) ?_
  refine consumed_houses.after fun before => h.alone.after fun n => ?_
  refine (endItem_houses close before).after fun more => ?_
  exact .ite (.pure (by grind)) (.pure (by grind))

theorem commaChain_houses (close : Punctuator) (h : item.Houses S inside []) :
    (commaChain close item).Houses S inside kept := by
  refine .loop (List.nil_subset _) fun found => (isAtClose_houses close).after fun closes => ?_
  refine .ite (.pure (by simp)) ?_
  refine consumed_houses.after fun before => h.alone.after fun n => ?_
  refine consumed_houses.after fun after => .ite (.pure (by grind)) ?_
  refine (eat_houses .comma).after fun goes => ?_
  exact .ite (.pure (by grind)) (.pure (by grind))

theorem statementsUntil_houses (ends : Token → Bool) :
    (statementsUntil ends).Houses S inside kept := by
  refine .loop (List.nil_subset _) fun found => situation_houses.after fun s => ?_
  refine .ite (.pure (by simp)) ?_
  refine statement_houses.after fun next => consumed_houses.after fun after => ?_
  refine .ite (take_houses.after fun _ => .pure (by grind)) ?_
  exact .pure (by grind)

end Lists

/-! ## Patterns -/

theorem bindingTarget_houses : bindingTarget.Houses S inside kept := by
  refine token_houses.after fun t => ?_
  split
  · exact identifier_houses
  · exact .call nofun (List.nil_subset _)
  · exact .call nofun (List.nil_subset _)
  · exact missing_houses

theorem withDefault_houses {start : Nat} {target : Node} (h : target ∈ kept) :
    (withDefault start target).Houses S inside kept := by
  refine (assignment_houses false).after fun right => closeNode_houses rfl ?_
  simp [Shape.parts, Shape.children, h]

theorem bindingElement_houses : bindingElement.Houses S inside kept := by
  refine here_houses.after fun start => bindingTarget_houses.after fun target => ?_
  refine (eat_houses .assign).after fun defaults => .ite ?_ (.pure (by simp))
  exact withDefault_houses (by simp)

theorem restElement_houses : restElement.Houses S inside kept := by
  refine openNode_houses.after fun opened => take_houses.after fun _ => ?_
  refine bindingTarget_houses.after fun argument => closeNode_houses rfl ?_
  simp [Shape.parts, Shape.children]

theorem bindingOrRest_houses : bindingOrRest.Houses S inside kept :=
  (isAt_houses .ellipsis).after fun _ => .ite restElement_houses bindingElement_houses

theorem arrayPattern_houses : arrayPattern.Houses S inside kept := by
  refine openNode_houses.after fun opened => take_houses.after fun _ => ?_
  refine (elements_houses _ bindingOrRest_houses).after fun found => ?_
  refine (expect_houses _).after fun _ => closeNode_houses rfl ?_
  simp [Shape.parts, Shape.children]

/-- A name without its comments is housed where the name is. -/
theorem keepDetached {r : Rule α} {key : Node} (here : key ∈ kept)
    (h : r.Houses S inside ([key.detached] ++ kept)) : r.Houses S inside kept :=
  .keep (fun hk => .one fun asked => (hk key here asked).detached) h

theorem patternProperty_houses : patternProperty.Houses S inside kept := by
  refine openNode_houses.after fun opened => propertyName_houses.after fun name => ?_
  have closed {kept : List Node} {value : Node} {shorthand : Bool}
      (here : [name.1, value] ⊆ kept) :
      (closeNode opened (.property name.1 value .init name.2 shorthand false)).Houses S inside
        kept :=
    closeNode_houses rfl here
  refine (eat_houses .colon).after fun colon => .ite ?_ ?_
  · exact bindingElement_houses.after fun value => closed (by simp)
  split
  -- A name alone stands for the property and, without its comments, for the value.
  · refine (eat_houses .assign).after fun defaults => keepDetached (show name.1 ∈ _ by simp) ?_
    refine .ite ?_ (closed (by simp))
    exact (withDefault_houses (by simp)).after fun value => closed (by simp)
  · exact missing_houses.after fun value => closed (by simp)

theorem objectPattern_houses : objectPattern.Houses S inside kept := by
  refine openNode_houses.after fun opened => take_houses.after fun _ => ?_
  refine (items_houses _ patternProperty_houses).after fun found => ?_
  refine (expect_houses _).after fun _ => closeNode_houses rfl ?_
  simp [Shape.parts, Shape.children]

end ScriptTree.Grammar

import ScriptTree.Grammar.Pattern
import ScriptTree.Proofs.Spacing.Basic

/-! # Phrases and patterns wherever their tokens stand

    Every rule is a twin of itself, in the order of the grammar: it looks at kinds and
    texts of tokens, at line breaks and at how many tokens were taken, and puts offsets
    and comments into nodes only, whose forms do not show them. -/

namespace ScriptTree.Grammar

open Rule (Twin TwinBy Steady Turn)
open Rule.Twin (Turned)
open Node (form forms form? forms?)

/-! ## The vocabulary -/

theorem situation_twin : Twin Situation.Alike situation situation := .look fun _ _ h => .done h

theorem token_twin : Twin Token.Alike token token := .look fun _ _ h => .done h.token

theorem take_twin : Twin Token.Alike take take := .take fun _ _ h => .done h

theorem complain_twin (span span' : Span) (fault : Fault) :
    Twin Eq (complain span fault) (complain span' fault) := .complain (.done rfl)

/-- Only the end of the text is complained of in another way, and both or none are there. -/
theorem unexpected_twin : Twin Eq unexpected unexpected := by
  refine .look fun s t h => ?_
  rw [h.token.isEnd, h.token.kind]
  exact complain_twin _ _ _

theorem complainHere_twin (fault : Fault) : Twin Eq (complainHere fault) (complainHere fault) :=
  .look fun _ _ _ => complain_twin _ _ _

theorem isAt_twin (mark : Punctuator) : Twin Eq (isAt mark) (isAt mark) :=
  .look fun _ _ h => .done (h.token.isPunctuator mark)

theorem isAtWord_twin (word : Keyword) : Twin Eq (isAtWord word) (isAtWord word) :=
  .look fun _ _ h => .done (h.token.isKeyword word)

theorem eat_twin (mark : Punctuator) : Twin Eq (eat mark) (eat mark) := by
  refine .look fun s t h => ?_
  rw [h.token.isPunctuator]
  exact .ite (fun _ => .take fun _ _ _ => .done rfl) fun _ => .done rfl

theorem eatWord_twin (word : Keyword) : Twin Eq (eatWord word) (eatWord word) := by
  refine .look fun s t h => ?_
  rw [h.token.isKeyword]
  exact .ite (fun _ => .take fun _ _ _ => .done rfl) fun _ => .done rfl

/-- Both texts have the mark, or both miss it. -/
theorem expect_twin (mark : Punctuator) : Twin Eq (expect mark) (expect mark) :=
  (eat_twin mark).bindEq fun _ => .ite (fun _ => .pure rfl) fun _ => unexpected_twin

theorem expectWord_twin (word : Keyword) : Twin Eq (expectWord word) (expectWord word) :=
  (eatWord_twin word).bindEq fun _ => .ite (fun _ => .pure rfl) fun _ => unexpected_twin

/-- The line break in front of the token counts, wherever it stands. -/
theorem allowsMissingSemicolon_congr {s t : Situation} (h : s.Alike t) :
    s.allowsMissingSemicolon = t.allowsMissingSemicolon := by
  rw [Situation.allowsMissingSemicolon, h.token.isEnd, h.token.isPunctuator, h.token.newline,
    Situation.allowsMissingSemicolon]

/-- Whether a semicolon may be left out depends on marks that are alike. -/
theorem semicolon_twin : Twin Eq semicolon semicolon := by
  refine (eat_twin _).bindEq fun _ => .ite (fun _ => .pure rfl) fun _ => ?_
  refine situation_twin.bind fun s t h => ?_
  rw [allowsMissingSemicolon_congr h]
  exact .ite (fun _ => .pure rfl) fun _ => unexpected_twin

theorem openNode_twin : Twin (fun _ _ => True) openNode openNode :=
  .look fun _ _ _ => .openAt fun _ _ => .done trivial

/-- Nodes are closed over shapes of one form, wherever they start and end. -/
theorem closeNodeAt_twin {shape shape' : Shape Node} (same : shape.form = shape'.form)
    (opened opened' : Opened) (stop stop' : Nat) :
    TwinBy form (closeNodeAt opened shape stop) (closeNodeAt opened' shape' stop') :=
  .close (Node.form_congr same) fun _ _ h => .done h

/-- A node is closed with one form, wherever it was opened. -/
theorem closeNode_twin {shape shape' : Shape Node} (same : shape.form = shape'.form)
    (opened opened' : Opened) :
    TwinBy form (closeNode opened shape) (closeNode opened' shape') :=
  .look fun _ _ _ => closeNodeAt_twin same _ _ _ _

theorem placeholder_steady : placeholder.Steady form := .look fun _ _ _ => .done rfl

theorem here_twin : Twin (fun _ _ => True) here here := .look fun _ _ _ => .done trivial

theorem consumed_twin : Twin Eq consumed consumed := .look fun _ _ h => .done h.consumed

/-- A phrase that is called is read alike. -/
theorem parse_twin {phrase phrase' : Nonterminal} (alike : phrase.Alike phrase') :
    TwinBy form (parse phrase) (parse phrase') := .call alike fun _ _ h => .done h

theorem parseNested_steady (phrase : Nonterminal) : (parseNested phrase).Steady form :=
  .call (.same phrase) fun _ _ h => .done h

/-- So is one that continues a node, if the nodes are alike. -/
theorem parseChain_twin {phrase phrase' : Nonterminal} (alike : phrase.Alike phrase') :
    TwinBy form (parseChain phrase) (parseChain phrase') := .call alike fun _ _ h => .done h

theorem statement_steady : statement.Steady form := parseNested_steady _

theorem assignment_steady (noIn : Bool) : (assignment noIn).Steady form :=
  parse_twin (.same _)

theorem unary_steady : unary.Steady form := parseNested_steady _

theorem block_steady : (parse .block).Steady form := parse_twin (.same _)

theorem functionBody_steady : functionBody.Steady form :=
  .call (.same _) fun _ _ h => .done h

section MayBeLeftOut

variable {α β : Type} {R : α → β → Prop} {c : Prop} [Decidable c] {r r' : Rule Node}
  {f : Option Node → Rule α} {f' : Option Node → Rule β}

/-- A phrase that is read where the test holds. -/
theorem orNone_twin (h : TwinBy form r r') (k : ∀ x y, form? x = form? y → Twin R (f x) (f' y)) :
    Twin R (if c then r >>= fun n => pure (some n) >>= f else pure none >>= f)
      (if c then r' >>= fun n => pure (some n) >>= f' else pure none >>= f') :=
  .ite (fun _ => h.bind fun _ _ same => k _ _ (congrArg some same)) fun _ => k none none rfl

/-- A phrase that is left out where the test holds. -/
theorem noneOr_twin (h : TwinBy form r r') (k : ∀ x y, form? x = form? y → Twin R (f x) (f' y)) :
    Twin R (if c then pure none >>= f else r >>= fun n => pure (some n) >>= f)
      (if c then pure none >>= f' else r' >>= fun n => pure (some n) >>= f') :=
  .ite (fun _ => k none none rfl) fun _ => h.bind fun _ _ same => k _ _ (congrArg some same)

end MayBeLeftOut

/-- Pushing nodes of one form onto lists of the same forms. -/
theorem forms_push {found found' : Array Node} {n m : Node}
    (same : forms found.toList = forms found'.toList) (new : n.form = m.form) :
    forms (found.push n).toList = forms (found'.push m).toList := by
  rw [Array.toList_push, Array.toList_push, Node.forms_append, Node.forms_append, same, forms,
    forms, new]
  rfl

/-- A loop that gathers nodes in an array. -/
theorem gather_steady {start start' : Array Node}
    (same : forms start.toList = forms start'.toList)
    {step step' : Array Node → Rule (Turn (Array Node) (List Node))}
    (h : ∀ found found', forms found.toList = forms found'.toList →
      Twin (Turned (fun a b : Array Node => forms a.toList = forms b.toList)
        fun xs ys => forms xs = forms ys) (step found) (step' found')) :
    TwinBy forms (Rule.loop start step) (Rule.loop start' step') := .loop same h

/-- An expression is one or several with commas. -/
theorem expression_steady (noIn : Bool) : (expression noIn).Steady form := by
  refine here_twin.bind fun start start' _ => ?_
  refine (assignment_steady noIn).bind fun first first' same => ?_
  refine (isAt_twin _).bindEq fun more => .ite (fun _ => ?_) fun _ => .pure same
  have start : forms #[first].toList = forms #[first'].toList := congrArg (fun n => [n]) same
  refine (gather_steady start fun found found' same => ?_).bind fun xs ys same => ?_
  · refine (eat_twin _).bindEq fun more => .ite (fun _ => ?_) fun _ => .pure (.leave same)
    exact (assignment_steady noIn).bind fun next next' new => .pure (.again (forms_push same new))
  · exact closeNode_twin (by simp only [Shape.form, same]) _ _

/-! ## Leaves -/

/-- A leaf has its form from its token. -/
theorem leaf_steady (shape : Shape Node) : (leaf shape).Steady form := by
  refine openNode_twin.bind fun opened opened' _ => ?_
  refine take_twin.bind fun _ _ _ => ?_
  exact closeNode_twin rfl _ _

theorem missing_steady : missing.Steady form :=
  unexpected_twin.bindEq fun _ => placeholder_steady

theorem identifier_steady : identifier.Steady form := by
  refine token_twin.bind fun t u h => ?_
  rw [h.kind]
  show Steady form _
  split
  · exact leaf_steady _
  · exact missing_steady

theorem identifierName_steady : identifierName.Steady form := by
  refine token_twin.bind fun t u h => ?_
  rw [h.kind]
  show Steady form _
  split
  · exact leaf_steady _
  · exact leaf_steady _
  · exact missing_steady

theorem literal_steady : literal.Steady form := by
  refine token_twin.bind fun t u h => ?_
  rw [h.kind, h.text]
  show Steady form _
  split
  · exact leaf_steady _
  · exact missing_steady

/-- The form of a name and whether it is computed. -/
abbrev namedForm (x : Node × Bool) : Node × Bool := (x.1.form, x.2)

theorem propertyName_steady : propertyName.Steady namedForm := by
  have named {r : Rule Node} (h : r.Steady form) :
      Steady namedForm (r >>= fun key => Pure.pure (key, false)) :=
    h.bind fun key key' same => .pure (congrArg (·, false) same)
  refine (eat_twin _).bindEq fun computed => .ite (fun _ => ?_) fun _ => ?_
  · refine (assignment_steady false).bind fun key key' same => ?_
    exact (expect_twin _).bindEq fun _ => .pure (congrArg (·, true) same)
  · refine token_twin.bind fun t u h => ?_
    rw [h.kind]
    show Steady namedForm _
    split
    · exact named literal_steady
    · exact named literal_steady
    · exact named identifierName_steady

/-! ## Sequences -/

theorem isAtClose_twin (close : Punctuator) : Twin Eq (isAtClose close) (isAtClose close) := by
  refine .look fun s t h => ?_
  rw [h.token.isPunctuator, h.token.isEnd]
  exact .done rfl

/-- Whether an item has ended does not depend on where it began. -/
theorem endItem_twin (close : Punctuator) (before : Nat) :
    Twin Eq (endItem close before) (endItem close before) := by
  refine consumed_twin.bindEq fun after => .ite (fun _ => .pure rfl) fun _ => ?_
  refine (isAt_twin _).bindEq fun closes => .ite (fun _ => .pure rfl) fun _ => ?_
  refine (eat_twin _).bindEq fun goes => .ite (fun _ => .pure rfl) fun _ => ?_
  exact unexpected_twin.bindEq fun _ => .pure rfl

/-- Lists of items that are read alike. -/
theorem items_steady (close : Punctuator) {item : Rule Node} (h : item.Steady form) :
    (items close item).Steady forms := by
  refine gather_steady rfl fun found found' same => ?_
  refine (isAtClose_twin _).bindEq fun ends => .ite (fun _ => .pure (.leave same)) fun _ => ?_
  refine consumed_twin.bindEq fun before => ?_
  refine h.bind fun n m new => ?_
  have pushed := forms_push same new
  exact (endItem_twin _ _).bindEq fun more =>
    .ite (fun _ => .pure (.again pushed)) fun _ => .pure (.leave pushed)

/-- Lists with holes have them at the same places. -/
theorem elements_steady (close : Punctuator) {item : Rule Node} (h : item.Steady form) :
    (elements close item).Steady forms? := by
  have push {found found' : Array (Option Node)} {x y : Option Node}
      (same : forms? found.toList = forms? found'.toList) (new : form? x = form? y) :
      forms? (found.push x).toList = forms? (found'.push y).toList := by
    rw [Array.toList_push, Array.toList_push, Node.forms?_append, Node.forms?_append, same, forms?,
      forms?, new]
    rfl
  refine .loop (R := fun a b => forms? a.toList = forms? b.toList) rfl fun found found' same => ?_
  refine (isAtClose_twin _).bindEq fun ends => .ite (fun _ => .pure (.leave same)) fun _ => ?_
  refine (eat_twin _).bindEq fun hole =>
    .ite (fun _ => .pure (.again (push same rfl))) fun _ => ?_
  refine consumed_twin.bindEq fun before => ?_
  refine h.bind fun n m new => ?_
  have pushed := push same (show form? (some n) = form? (some m) from congrArg some new)
  exact (endItem_twin _ _).bindEq fun more =>
    .ite (fun _ => .pure (.again pushed)) fun _ => .pure (.leave pushed)

theorem commaChain_steady (close : Punctuator) {item : Rule Node} (h : item.Steady form) :
    (commaChain close item).Steady forms := by
  refine gather_steady rfl fun found found' same => ?_
  refine (isAtClose_twin _).bindEq fun ends => .ite (fun _ => .pure (.leave same)) fun _ => ?_
  refine consumed_twin.bindEq fun before => ?_
  refine h.bind fun n m new => ?_
  have pushed := forms_push same new
  refine consumed_twin.bindEq fun after => .ite (fun _ => .pure (.leave pushed)) fun _ => ?_
  exact (eat_twin _).bindEq fun more =>
    .ite (fun _ => .pure (.again pushed)) fun _ => .pure (.leave pushed)

/-- What ends the statements is told by the kind of a token. -/
theorem statementsUntil_steady {ends : Token → Bool}
    (h : ∀ t u : Token, t.Alike u → ends t = ends u) : (statementsUntil ends).Steady forms := by
  refine gather_steady rfl fun found found' same => ?_
  refine situation_twin.bind fun s t here => ?_
  rw [here.token.isEnd, h _ _ here.token, here.consumed]
  refine .ite (fun _ => .pure (.leave same)) fun _ => ?_
  refine statement_steady.bind fun n m new => ?_
  refine consumed_twin.bindEq fun after => .ite (fun _ => ?_) fun _ => ?_
  · exact take_twin.bind fun _ _ _ => .pure (.again same)
  · exact .pure (.again (forms_push same new))

/-! ## Patterns -/

/-- A target is a name or a pattern in both texts. -/
theorem bindingTarget_steady : bindingTarget.Steady form := by
  refine token_twin.bind fun t u h => ?_
  rw [h.kind]
  show Steady form _
  split
  · exact identifier_steady
  · exact parseNested_steady _
  · exact parseNested_steady _
  · exact missing_steady

/-- A default is read behind targets that are alike. -/
theorem withDefault_twin {target target' : Node} (same : target.form = target'.form)
    (start start' : Nat) : TwinBy form (withDefault start target) (withDefault start' target') := by
  refine (assignment_steady false).bind fun right right' default => ?_
  exact closeNode_twin (by simp only [Shape.form, same, default]) _ _

theorem bindingElement_steady : bindingElement.Steady form := by
  refine here_twin.bind fun start start' _ => ?_
  refine bindingTarget_steady.bind fun target target' same => ?_
  exact (eat_twin _).bindEq fun given =>
    .ite (fun _ => withDefault_twin same _ _) fun _ => .pure same

theorem restElement_steady : restElement.Steady form := by
  refine openNode_twin.bind fun opened opened' _ => ?_
  refine take_twin.bind fun _ _ _ => ?_
  refine bindingTarget_steady.bind fun argument argument' same => ?_
  exact closeNode_twin (by simp only [Shape.form, same]) _ _

theorem bindingOrRest_steady : bindingOrRest.Steady form :=
  (isAt_twin _).bindEq fun _ =>
    .ite (fun _ => restElement_steady) fun _ => bindingElement_steady

theorem arrayPattern_steady : arrayPattern.Steady form := by
  refine openNode_twin.bind fun opened opened' _ => ?_
  refine take_twin.bind fun _ _ _ => ?_
  refine (elements_steady _ bindingOrRest_steady).bind fun elements elements' same => ?_
  refine (expect_twin _).bindEq fun _ => ?_
  exact closeNode_twin (by simp only [Shape.form, same]) _ _

theorem patternProperty_steady : patternProperty.Steady form := by
  refine openNode_twin.bind fun opened opened' _ => ?_
  refine propertyName_steady.bind fun (key, computed) (key', computed') same => ?_
  obtain ⟨same, rfl⟩ := Prod.mk.inj same
  have close {value value' : Node} (sameValue : value.form = value'.form) (shorthand : Bool) :
      TwinBy form (closeNode opened (.property key value .init computed shorthand false))
        (closeNode opened' (.property key' value' .init computed shorthand false)) :=
    closeNode_twin (by simp only [Shape.form, same, sameValue]) _ _
  refine (eat_twin _).bindEq fun colon => .ite (fun _ => ?_) fun _ => ?_
  · exact bindingElement_steady.bind fun value value' same => close same false
  · rw [Node.identifierName?_congr same]
    refine .ite (fun _ => ?_) fun _ => ?_
    · refine (eat_twin _).bindEq fun given => .ite (fun _ => ?_) fun _ => ?_
      · exact (withDefault_twin (Node.form_detached_congr same) _ _).bind fun value value' same =>
          close same true
      · exact close (Node.form_detached_congr same) true
    · exact missing_steady.bind fun value value' same => close same false

theorem objectPattern_steady : objectPattern.Steady form := by
  refine openNode_twin.bind fun opened opened' _ => ?_
  refine take_twin.bind fun _ _ _ => ?_
  refine (items_steady _ patternProperty_steady).bind fun properties properties' same => ?_
  refine (expect_twin _).bindEq fun _ => ?_
  exact closeNode_twin (by simp only [Shape.form, same]) _ _

/-! ## Reinterpretation -/

/-- The first part that no pattern may have is complained about with one fault. -/
theorem asPattern_twin {n m : Node} (same : n.form = m.form) :
    TwinBy form (asPattern n) (asPattern m) := by
  have pattern := Node.form_toPattern_congr same
  have faults := Node.patternFault?_congr same
  rw [asPattern, asPattern]
  cases fault : n.patternFault? with
  | none =>
      rw [fault] at faults
      cases fault' : m.patternFault? with
      | none => exact .done pattern
      | some found => rw [fault'] at faults; cases faults
  | some found =>
      rw [fault] at faults
      cases fault' : m.patternFault? with
      | none => rw [fault'] at faults; cases faults
      | some found' =>
          rw [fault'] at faults
          obtain ⟨span, cause⟩ := found
          obtain ⟨span', cause'⟩ := found'
          obtain rfl : cause = cause' := Option.some.inj faults
          exact .complain (.done pattern)

theorem checkSimpleTarget_twin {n m : Node} (same : n.form = m.form) :
    Twin Eq (checkSimpleTarget n) (checkSimpleTarget m) := by
  rw [checkSimpleTarget, checkSimpleTarget, Node.isSimpleTarget_congr same]
  exact .ite (fun _ => .done rfl) fun _ => complain_twin _ _ _

end ScriptTree.Grammar

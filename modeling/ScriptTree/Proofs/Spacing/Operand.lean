import ScriptTree.Proofs.Spacing.Expression

/-! # Operands and subscripts wherever their tokens stand

    A loop that gathers two things, a template say, relates both.  Parentheses are read
    before it is known what they hold, so their items are related as expressions and
    turn into patterns of one form. -/

namespace ScriptTree.Grammar

open Rule (Twin TwinBy Steady Turn)
open Rule.Twin (Turned)
open Node (form forms form? forms?)

/-! ## Subscripts and templates -/

theorem spreadOrAssignment_steady : spreadOrAssignment.Steady form := by
  refine (isAt_twin _).bindEq fun spreads => .ite (fun _ => ?_) fun _ => assignment_steady false
  refine openNode_twin.bind fun opened opened' _ => take_twin.bind fun _ _ _ => ?_
  refine (assignment_steady false).bind fun argument argument' same => ?_
  exact closeNode_twin (by simp only [Shape.form, same]) _ _

theorem callArguments_steady : callArguments.Steady forms := by
  refine (expect_twin _).bindEq fun _ => ?_
  refine (items_steady _ spreadOrAssignment_steady).bind fun arguments arguments' same => ?_
  exact (expect_twin _).bindEq fun _ => .pure same

/-- The chunks and substitutions gathered for two templates have the same forms. -/
def SameTemplate (x y : Array Node × Array Node) : Prop :=
  forms x.1.toList = forms y.1.toList ∧ forms x.2.toList = forms y.2.toList

/-- Chunks of a template are tokens that are alike. -/
theorem template_steady : template.Steady form := by
  refine openNode_twin.bind fun opened opened' _ => ?_
  refine Twin.bind (R := fun x y => forms x.1 = forms y.1 ∧ forms x.2 = forms y.2)
    (.loop (R := SameTemplate) ⟨rfl, rfl⟩ ?_) ?_
  · rintro ⟨quasis, expressions⟩ ⟨quasis', expressions'⟩ ⟨sameQuasis, sameExpressions⟩
    refine token_twin.bind fun t u h => ?_
    simp only [h.kind]
    split
    · exact unexpected_twin.bindEq fun _ => .pure (.leave ⟨sameQuasis, sameExpressions⟩)
    · refine take_twin.bind fun _ _ _ => ?_
      refine (closeNodeAt_twin rfl _ _ _ _).bind fun quasi quasi' new => ?_
      have sameQuasis := forms_push sameQuasis new
      refine .ite (fun _ => .pure (.leave ⟨sameQuasis, sameExpressions⟩)) fun _ => ?_
      refine (expression_steady false).bind fun substitution substitution' new => ?_
      have sameExpressions := forms_push sameExpressions new
      refine token_twin.bind fun t u h => ?_
      rw [h.isTemplateRest]
      refine .ite (fun _ => .pure (.again ⟨sameQuasis, sameExpressions⟩)) fun _ => ?_
      exact unexpected_twin.bindEq fun _ => .pure (.leave ⟨sameQuasis, sameExpressions⟩)
  · rintro ⟨quasis, expressions⟩ ⟨quasis', expressions'⟩ ⟨sameQuasis, sameExpressions⟩
    exact closeNode_twin (by simp only [Shape.form, sameQuasis, sameExpressions]) _ _

theorem subscript_twin {base base' : Node} (same : base.form = base'.form) (kind : Subscript) :
    TwinBy Shape.form (subscript base kind) (subscript base' kind) := by
  cases kind with
  | member =>
      refine take_twin.bind fun _ _ _ => identifierName_steady.bind fun prop prop' sameProp => ?_
      exact .pure (by simp only [Shape.form, same, sameProp])
  | computedMember =>
      refine take_twin.bind fun _ _ _ => ?_
      refine (expression_steady false).bind fun prop prop' sameProp => ?_
      refine (expect_twin _).bindEq fun _ => ?_
      exact .pure (by simp only [Shape.form, same, sameProp])
  | call =>
      refine callArguments_steady.bind fun arguments arguments' sameArguments => ?_
      exact .pure (by simp only [Shape.form, same, sameArguments])
  | template =>
      refine template_steady.bind fun quasi quasi' sameQuasi => ?_
      exact .pure (by simp only [Shape.form, same, sameQuasi])

theorem Subscript.ofToken?_congr (noCalls : Bool) {t u : Token} (h : t.Alike u) :
    ofToken? noCalls t = ofToken? noCalls u := by
  simp only [ofToken?, h.isPunctuator, h.isTemplateHead]

/-- Bases that are alike have subscripts that are. -/
theorem subscriptsRule_twin {base base' : Node} (same : base.form = base'.form)
    (start start' : Nat) (noCalls : Bool) :
    TwinBy form (subscriptsRule base start noCalls) (subscriptsRule base' start' noCalls) := by
  refine fold_twin same fun base base' same => ?_
  refine token_twin.bind fun t u h => ?_
  rw [Subscript.ofToken?_congr noCalls h]
  split
  · exact .pure (.leave same)
  · refine (Twin.deepen fun ok => .done rfl).bindEq fun ok => ?_
    refine .ite (fun _ => .pure (.leave same)) fun _ => ?_
    refine (subscript_twin same _).bind fun shape shape' same => ?_
    exact (closeNode_twin same _ _).bind fun whole whole' same => .pure (.again same)

/-! ## Operands -/

/-- An arrow on the same line is one in both texts. -/
theorem isAtArrow_twin : Twin Eq isAtArrow isAtArrow := by
  refine .look fun s t h => ?_
  rw [h.token.isPunctuator, h.token.newline]
  exact .done rfl

theorem arrowBody_twin (opened opened' : Opened) {params params' : List Node}
    (same : forms params = forms params') :
    TwinBy form (arrowBody opened params) (arrowBody opened' params') := by
  refine (expect_twin _).bindEq fun _ => ?_
  refine (isAt_twin _).bindEq fun braced => .ite (fun _ => ?_) fun _ => ?_
  · refine functionBody_steady.bind fun body body' sameBody => ?_
    exact closeNode_twin (by simp only [Shape.form, same, sameBody]) _ _
  · refine (assignment_steady false).bind fun body body' sameBody => ?_
    exact closeNode_twin (by simp only [Shape.form, same, sameBody]) _ _

theorem nameOrArrow_steady : nameOrArrow.Steady form := by
  refine here_twin.bind fun start start' _ => identifier_steady.bind fun name name' same => ?_
  refine isAtArrow_twin.bindEq fun arrow => .ite (fun _ => ?_) fun _ => .pure same
  exact arrowBody_twin _ _ (congrArg (fun n => [n]) same)

theorem array_steady : array.Steady form := by
  refine openNode_twin.bind fun opened opened' _ => take_twin.bind fun _ _ _ => ?_
  refine (elements_steady _ spreadOrAssignment_steady).bind fun elements elements' same => ?_
  refine (expect_twin _).bindEq fun _ => ?_
  exact closeNode_twin (by simp only [Shape.form, same]) _ _

theorem endsPropertyName_congr {t u : Token} (h : t.Alike u) :
    endsPropertyName t = endsPropertyName u := by
  simp only [endsPropertyName, h.isPunctuator]

/-- What a property is besides its key, without ranges and comments. -/
def PropertyRest.form (rest : PropertyRest) : PropertyRest :=
  { rest with key := rest.key.form, value := rest.value.form }

/-- Keys that are alike are followed alike. -/
theorem propertyRest_twin {key key' : Node} (same : key.form = key'.form) (computed : Bool) :
    TwinBy PropertyRest.form (propertyRest key computed) (propertyRest key' computed) := by
  -- Every branch ends in the same record, of names and values that have one form.
  have found {name name' value value' : Node} (sameName : name.form = name'.form)
      (sameValue : value.form = value'.form) (computed : Bool) (kind : PropertyKind)
      (shorthand isMethod : Bool) :
      TwinBy PropertyRest.form (pure ⟨name, computed, value, kind, shorthand, isMethod⟩)
        (pure ⟨name', computed, value', kind, shorthand, isMethod⟩) :=
    .pure (by simp only [PropertyRest.form, sameName, sameValue])
  refine token_twin.bind fun t u h => ?_
  simp only [endsPropertyName_congr h, h.isPunctuator, accessorKind?_congr same,
    Node.identifierName?_congr same]
  -- An accessor, a method, a value behind a colon, a shorthand, and a name with nothing behind it.
  split
  · refine propertyName_steady.bind fun (name, nameComputed) (name', computed) same => ?_
    obtain ⟨same, rfl⟩ := Prod.mk.inj same
    exact methodFunction_steady.bind fun value value' sameValue => found same sameValue _ _ _ _
  refine .ite (fun _ => ?_) fun _ => ?_
  · exact methodFunction_steady.bind fun value value' sameValue => found same sameValue _ _ _ _
  refine (eat_twin _).bindEq fun colon => .ite (fun _ => ?_) fun _ => ?_
  · exact (assignment_steady false).bind fun value value' sameValue => found same sameValue _ _ _ _
  refine .ite (fun _ => ?_) fun _ => ?_
  · have detached := Node.form_detached_congr same
    refine (eat_twin _).bindEq fun given => .ite (fun _ => ?_) fun _ => found same detached _ _ _ _
    exact (withDefault_twin detached _ _).bind fun value value' sameValue =>
      found same sameValue _ _ _ _
  · exact missing_steady.bind fun value value' sameValue => found same sameValue _ _ _ _

theorem objectProperty_steady : objectProperty.Steady form := by
  refine openNode_twin.bind fun opened opened' _ => ?_
  refine propertyName_steady.bind fun (key, computed) (key', computed') same => ?_
  obtain ⟨same, rfl⟩ := Prod.mk.inj same
  refine (propertyRest_twin same computed).bind fun rest rest' same => ?_
  obtain ⟨key, computed, value, kind, shorthand, isMethod⟩ := rest
  obtain ⟨key', computed', value', kind', shorthand', isMethod'⟩ := rest'
  obtain ⟨sameKey, rfl, sameValue, rfl, rfl, rfl⟩ := PropertyRest.mk.inj same
  exact closeNode_twin (by simp only [Shape.form, sameKey, sameValue]) _ _

theorem object_steady : object.Steady form := by
  refine openNode_twin.bind fun opened opened' _ => take_twin.bind fun _ _ _ => ?_
  refine (items_steady _ objectProperty_steady).bind fun properties properties' same => ?_
  refine (expect_twin _).bindEq fun _ => ?_
  exact closeNode_twin (by simp only [Shape.form, same]) _ _

/-- The forms of the items between parentheses, and whether one takes the rest. -/
abbrev itemsForm (x : List Node × Bool) : List Node × Bool := (forms x.1, x.2)

/-- The items gathered between two parentheses have the same forms. -/
def SameItems (x y : Array Node × Bool) : Prop :=
  forms x.1.toList = forms y.1.toList ∧ x.2 = y.2

/-- Behind an item the list ends, goes on at a comma, or gives up where nothing was taken. -/
theorem parenthesizedTurn_twin {found found' : Array Node}
    (same : forms found.toList = forms found'.toList) (hasRest : Bool) (before : Nat) :
    Twin (Turned SameItems fun x y => itemsForm x = itemsForm y)
      (parenthesizedTurn found hasRest before) (parenthesizedTurn found' hasRest before) := by
  have leave : Twin (Turned SameItems fun x y => itemsForm x = itemsForm y)
      (pure (.leave (found.toList, hasRest))) (pure (.leave (found'.toList, hasRest))) :=
    .pure (.leave (congrArg (·, hasRest) same))
  refine consumed_twin.bindEq fun after => .ite (fun _ => leave) fun _ => ?_
  exact (eat_twin _).bindEq fun goes =>
    .ite (fun _ => .pure (.again ⟨same, rfl⟩)) fun _ => leave

/-- Items in parentheses may be arguments or parameters in both texts. -/
theorem parenthesized_steady : parenthesized.Steady itemsForm := by
  rw [parenthesized_eq]
  refine .loop (R := SameItems) ⟨rfl, rfl⟩ ?_
  rintro ⟨found, hasRest⟩ ⟨found', _⟩ ⟨same, rfl⟩
  refine (isAtClose_twin _).bindEq fun closes => .ite (fun _ => ?_) fun _ => ?_
  · exact .pure (.leave (congrArg (·, hasRest) same))
  refine consumed_twin.bindEq fun before => (isAt_twin _).bindEq fun isRest => ?_
  refine .ite (fun _ => ?_) fun _ => ?_
  · exact restElement_steady.bind fun item item' new =>
      parenthesizedTurn_twin (forms_push same new) _ _
  · exact (assignment_steady false).bind fun item item' new =>
      parenthesizedTurn_twin (forms_push same new) _ _

theorem asPatterns_twin {found found' : List Node} (same : forms found = forms found') :
    TwinBy forms (asPatterns found) (asPatterns found') := by
  induction found generalizing found' with
  | nil =>
      cases found' with
      | nil => exact .pure rfl
      | cons item rest => cases same
  | cons item rest ih =>
      cases found' with
      | nil => cases same
      | cons item' rest' =>
          obtain ⟨sameItem, sameRest⟩ := List.cons.inj same
          refine (asPattern_twin sameItem).bind fun first first' sameFirst => ?_
          refine (ih sameRest).bind fun others others' sameOthers => .pure ?_
          rw [forms, forms, sameFirst, sameOthers]

/-- Which of the two they are is told by the token behind them. -/
theorem parenOrArrow_steady : parenOrArrow.Steady form := by
  refine here_twin.bind fun start start' _ => take_twin.bind fun _ _ _ => ?_
  refine here_twin.bind fun inner inner' _ => ?_
  refine parenthesized_steady.bind fun (found, hasRest) (found', hasRest') same => ?_
  obtain ⟨same, rfl⟩ := Prod.mk.inj same
  refine situation_twin.bind fun s t _ => ?_
  refine (expect_twin _).bindEq fun _ => ?_
  refine isAtArrow_twin.bindEq fun arrow => .ite (fun _ => ?_) fun _ => ?_
  · exact (asPatterns_twin same).bind fun params params' same => arrowBody_twin _ _ same
  have noArrow {whole whole' : Rule Node} (h : TwinBy form whole whole') (empty : Bool) :
      TwinBy form (if empty || hasRest then unexpected >>= fun _ => whole else whole)
        (if empty || hasRest then unexpected >>= fun _ => whole' else whole') :=
    .ite (fun _ => unexpected_twin.bindEq fun _ => h) fun _ => h
  replace same : forms found = forms found' := same
  match found, found', same with
  | [], [], _ => exact noArrow placeholder_steady true
  | [only], [only'], same => exact noArrow (.pure (List.cons.inj same).1) false
  | first :: second :: rest, first' :: second' :: rest', same =>
      have shape : (Shape.sequenceExpression (first :: second :: rest)).form =
          (Shape.sequenceExpression (first' :: second' :: rest')).form := by
        simp only [Shape.form, same]
      exact noArrow (closeNodeAt_twin shape _ _ _ _) false
  | [_], _ :: _ :: _, same => cases (List.cons.inj same).2
  | _ :: _ :: _, [_], same => cases (List.cons.inj same).2

theorem newObject_steady : newObject.Steady form := by
  refine openNode_twin.bind fun opened opened' _ => take_twin.bind fun _ _ _ => ?_
  refine here_twin.bind fun start start' _ => ?_
  refine (parse_twin (.same .atom)).bind fun base base' same => ?_
  refine (subscripts_twin same _ _ _).bind fun callee callee' same => ?_
  refine (isAt_twin _).bindEq fun called => ?_
  refine .optional callArguments_steady rfl fun arguments arguments' sameArguments => ?_
  exact closeNode_twin (by simp only [Shape.form, same, sameArguments]) _ _

theorem wordAtom_steady (word : Keyword) : (wordAtom word).Steady form := by
  show Steady form _
  unfold wordAtom
  split
  · exact leaf_steady _
  · exact leaf_steady _
  · exact literal_steady
  · exact literal_steady
  · exact literal_steady
  · exact openNode_twin.bind fun opened opened' _ => function_twin _ _ false
  · exact openNode_twin.bind fun opened opened' _ => classPhrase_twin _ _ false
  · exact newObject_steady
  · exact missing_steady

theorem atomRule_steady : atomRule.Steady form := by
  refine token_twin.bind fun t u h => ?_
  rw [h.kind]
  show Steady form _
  split
  · exact wordAtom_steady _
  · exact nameOrArrow_steady
  · exact literal_steady
  · exact literal_steady
  · exact literal_steady
  · exact template_steady
  · exact parenOrArrow_steady
  · exact array_steady
  · exact object_steady
  · exact missing_steady

end ScriptTree.Grammar

import ScriptTree.Grammar.Reinterpret

/-! # Forms — trees without ranges and comments

    Two trees have one form if they are equal once all ranges and all attached
    comments are erased.  What the grammar asks of a node, its form tells: the name it
    has, the target it may be, the pattern it turns into and the first fault that
    keeps it from being one. -/

namespace ScriptTree

mutual

/-- The tree without ranges and comments. -/
def Node.form : Node → Node
  | ⟨shape, _, _, _⟩ => .bare shape.form (.point 0)

/-- The shape over the forms of its parts. -/
def Shape.form : Shape Node → Shape Node
  | .program body => .program (Node.forms body)
  | .emptyStatement => .emptyStatement
  | .debuggerStatement => .debuggerStatement
  | .expressionStatement expression => .expressionStatement expression.form
  | .blockStatement body => .blockStatement (Node.forms body)
  | .variableDeclaration kind declarations => .variableDeclaration kind (Node.forms declarations)
  | .variableDeclarator id init => .variableDeclarator id.form (Node.form? init)
  | .functionDeclaration id params body =>
    .functionDeclaration (Node.form? id) (Node.forms params) body.form
  | .returnStatement argument => .returnStatement (Node.form? argument)
  | .ifStatement test consequent alternate =>
    .ifStatement test.form consequent.form (Node.form? alternate)
  | .forStatement init test update body =>
    .forStatement (Node.form? init) (Node.form? test) (Node.form? update) body.form
  | .forInStatement left right body => .forInStatement left.form right.form body.form
  | .forOfStatement left right body => .forOfStatement left.form right.form body.form
  | .whileStatement test body => .whileStatement test.form body.form
  | .doWhileStatement body test => .doWhileStatement body.form test.form
  | .breakStatement label => .breakStatement (Node.form? label)
  | .continueStatement label => .continueStatement (Node.form? label)
  | .throwStatement argument => .throwStatement argument.form
  | .tryStatement block handler finalizer =>
    .tryStatement block.form (Node.form? handler) (Node.form? finalizer)
  | .catchClause param body => .catchClause (Node.form? param) body.form
  | .switchStatement discriminant cases =>
    .switchStatement discriminant.form (Node.forms cases)
  | .switchCase test consequent => .switchCase (Node.form? test) (Node.forms consequent)
  | .labeledStatement label body => .labeledStatement label.form body.form
  | .withStatement object body => .withStatement object.form body.form
  | .classDeclaration id superClass body =>
    .classDeclaration (Node.form? id) (Node.form? superClass) body.form
  | .classBody body => .classBody (Node.forms body)
  | .methodDefinition key value kind computed isStatic =>
    .methodDefinition key.form value.form kind computed isStatic
  | .identifier name => .identifier name
  | .literal value raw => .literal value raw
  | .thisExpression => .thisExpression
  | .super => .super
  | .templateLiteral quasis expressions =>
    .templateLiteral (Node.forms quasis) (Node.forms expressions)
  | .templateElement raw isTail => .templateElement raw isTail
  | .taggedTemplateExpression tag quasi => .taggedTemplateExpression tag.form quasi.form
  | .arrayExpression elements => .arrayExpression (Node.forms? elements)
  | .objectExpression properties => .objectExpression (Node.forms properties)
  | .property key value kind computed shorthand method =>
    .property key.form value.form kind computed shorthand method
  | .functionExpression id params body =>
    .functionExpression (Node.form? id) (Node.forms params) body.form
  | .arrowFunctionExpression params body isExpression =>
    .arrowFunctionExpression (Node.forms params) body.form isExpression
  | .classExpression id superClass body =>
    .classExpression (Node.form? id) (Node.form? superClass) body.form
  | .unaryExpression operator argument => .unaryExpression operator argument.form
  | .updateExpression operator argument isPrefix =>
    .updateExpression operator argument.form isPrefix
  | .binaryExpression operator left right => .binaryExpression operator left.form right.form
  | .logicalExpression operator left right => .logicalExpression operator left.form right.form
  | .assignmentExpression operator left right =>
    .assignmentExpression operator left.form right.form
  | .conditionalExpression test consequent alternate =>
    .conditionalExpression test.form consequent.form alternate.form
  | .callExpression callee arguments => .callExpression callee.form (Node.forms arguments)
  | .newExpression callee arguments => .newExpression callee.form (Node.forms arguments)
  | .memberExpression object prop computed => .memberExpression object.form prop.form computed
  | .sequenceExpression expressions => .sequenceExpression (Node.forms expressions)
  | .spreadElement argument => .spreadElement argument.form
  | .objectPattern properties => .objectPattern (Node.forms properties)
  | .arrayPattern elements => .arrayPattern (Node.forms? elements)
  | .restElement argument => .restElement argument.form
  | .assignmentPattern left right => .assignmentPattern left.form right.form

/-- The forms of nodes. -/
def Node.forms : List Node → List Node
  | [] => []
  | n :: rest => n.form :: Node.forms rest

/-- The form of a node that may be left out. -/
def Node.form? : Option Node → Option Node
  | none => none
  | some n => some n.form

/-- The forms of nodes with holes between them. -/
def Node.forms? : List (Option Node) → List (Option Node)
  | [] => []
  | n :: rest => Node.form? n :: Node.forms? rest

end

namespace Node

variable {n m : Node} {span : Span} {leading trailing : List Comment}

/-- The forms of a list are those of its nodes. -/
theorem forms_eq (xs : List Node) : forms xs = xs.map form := by
  induction xs with
  | nil => rfl
  | cons x rest ih => rw [forms, ih, List.map_cons]

/-- So it is for a node that may be missing. -/
theorem form?_eq (x : Option Node) : form? x = x.map form := by
  cases x with
  | none => rfl
  | some n => rfl

/-- So it is for a list with holes. -/
theorem forms?_eq (xs : List (Option Node)) : forms? xs = xs.map (Option.map form) := by
  induction xs with
  | nil => rfl
  | cons x rest ih => rw [forms?, ih, form?_eq, List.map_cons]

/-- Forms of two lists in a row. -/
theorem forms_append (xs ys : List Node) : forms (xs ++ ys) = forms xs ++ forms ys := by
  rw [forms_eq, forms_eq, forms_eq, List.map_append]

theorem forms?_append (xs ys : List (Option Node)) :
    forms? (xs ++ ys) = forms? xs ++ forms? ys := by
  rw [forms?_eq, forms?_eq, forms?_eq, List.map_append]

/-- The form depends on the shape alone. -/
theorem form_congr (h : n.shape.form = m.shape.form) : n.form = m.form := by
  obtain ⟨shape, _, _, _⟩ := n
  obtain ⟨shape', _, _, _⟩ := m
  exact congrArg (bare · (.point 0)) h

/-- The comments are no part of the form. -/
theorem form_trailing (comments : List Comment) :
    form { n with trailingComments := comments } = n.form := form_congr rfl

/-- The range is no part of it either, so a detached node has the same. -/
theorem form_detached (n : Node) : n.detached.form = n.form := form_congr rfl

/-! ## What the form tells -/

/-- The form tells the name. -/
theorem identifierName?_form (n : Node) : n.form.identifierName? = n.identifierName? := by
  obtain ⟨shape, _, _, _⟩ := n
  cases shape <;> rfl

/-- It tells the string. -/
theorem stringValue?_form (n : Node) : n.form.stringValue? = n.stringValue? := by
  obtain ⟨shape, _, _, _⟩ := n
  cases shape <;> rfl

/-- It tells whether something can be assigned to. -/
theorem isSimpleTarget_form (n : Node) : n.form.isSimpleTarget = n.isSimpleTarget := by
  obtain ⟨shape, _, _, _⟩ := n
  cases shape <;> rfl

/-! ## Patterns -/

/-- The properties of an object become those of a pattern. -/
theorem toPattern_object (properties : List Node) :
    toPattern ⟨.objectExpression properties, span, leading, trailing⟩ =
      ⟨.objectPattern (properties.map propertyToPattern), span, leading, trailing⟩ := by
  rw [toPattern]
  show (⟨.objectPattern _, span, leading, trailing⟩ : Node) = _
  rw [List.attach_map_val]

/-- The elements of an array become those of a pattern. -/
theorem toPattern_array (elements : List (Option Node)) :
    toPattern ⟨.arrayExpression elements, span, leading, trailing⟩ =
      ⟨.arrayPattern (elements.map (Option.map toPattern)), span, leading, trailing⟩ := by
  rw [toPattern]
  show (⟨.arrayPattern (elements.attach.map _), span, leading, trailing⟩ : Node) = _
  rw [← List.attach_map_val (l := elements) (f := Option.map toPattern)]
  congr 2
  refine List.map_congr_left fun x _ => ?_
  obtain ⟨x, hx⟩ := x
  cases x with
  | none => rfl
  | some x => rfl

/-- What is spread becomes the rest. -/
theorem toPattern_spread (argument : Node) :
    toPattern ⟨.spreadElement argument, span, leading, trailing⟩ =
      ⟨.restElement argument.toPattern, span, leading, trailing⟩ := by
  rw [toPattern]

/-- Only the value of a property becomes a pattern. -/
theorem propertyToPattern_init (key value : Node) (computed shorthand : Bool) :
    propertyToPattern
        ⟨.property key value .init computed shorthand false, span, leading, trailing⟩ =
      ⟨.property key value.toPattern .init computed shorthand false, span, leading, trailing⟩ := by
  rw [propertyToPattern]

/-- Becoming a pattern and losing ranges and comments commute. -/
def FormsPatterns (n : Node) : Prop :=
  n.toPattern.form = n.form.toPattern ∧ n.propertyToPattern.form = n.form.propertyToPattern

/-- The form of the pattern is the pattern of the form, if it is so for the parts. -/
theorem form_toPattern_of_parts (n : Node) (ih : ∀ p ∈ n.parts, p.FormsPatterns) :
    n.toPattern.form = n.form.toPattern := by
  obtain ⟨shape, span, leading, trailing⟩ := n
  -- Only the shapes that become patterns need the parts; the others are taken as they are.
  cases shape
  case objectExpression properties =>
    have below : forms (properties.map propertyToPattern) =
        (forms properties).map propertyToPattern := by
      rw [forms_eq, forms_eq, List.map_map, List.map_map]
      exact List.map_congr_left fun p hp => (ih p hp).2
    rw [toPattern_object]
    exact (congrArg (fun parts => bare (.objectPattern parts) (.point 0)) below).trans
      (toPattern_object _).symm
  case arrayExpression elements =>
    have below : forms? (elements.map (Option.map toPattern)) =
        (forms? elements).map (Option.map toPattern) := by
      rw [forms?_eq, forms?_eq, List.map_map, List.map_map]
      refine List.map_congr_left fun x hx => ?_
      cases x with
      | none => rfl
      | some n => exact congrArg some (ih n (List.mem_filterMap.mpr ⟨_, hx, rfl⟩)).1
    rw [toPattern_array]
    exact (congrArg (fun parts => bare (.arrayPattern parts) (.point 0)) below).trans
      (toPattern_array _).symm
  -- A spread keeps no place of its own, so it is the part that carries the form.
  case spreadElement argument =>
    have below := (ih argument (by simp [parts, Shape.parts, Shape.children])).1
    rw [toPattern_spread]
    exact (congrArg (fun part => bare (.restElement part) (.point 0)) below).trans
      (toPattern_spread _).symm
  case assignmentExpression operator left right =>
    cases operator
    all_goals simp [toPattern, form, Shape.form, bare]
  all_goals simp [toPattern, form, Shape.form, bare]

/-- So it is for a property. -/
theorem form_propertyToPattern_of_parts (n : Node) (ih : ∀ p ∈ n.parts, p.FormsPatterns) :
    n.propertyToPattern.form = n.form.propertyToPattern := by
  obtain ⟨shape, span, leading, trailing⟩ := n
  cases shape
  case property key value kind computed shorthand method =>
    have below := (ih value (by simp [parts, Shape.parts])).1
    cases kind
    case init =>
      cases method with
      | true => simp [propertyToPattern, form, Shape.form, bare]
      | false =>
          rw [propertyToPattern_init]
          exact (congrArg (fun value => bare (.property key.form value .init computed
            shorthand false) (.point 0)) below).trans (propertyToPattern_init ..).symm
    all_goals simp [propertyToPattern, form, Shape.form, bare]
  all_goals simp [propertyToPattern, form, Shape.form, bare]

/-- So it is for all nodes, by induction on the tree. -/
theorem formsPatterns (n : Node) : n.FormsPatterns := by
  induction n using induction_on_parts with
  | step n ih => exact ⟨form_toPattern_of_parts n ih, form_propertyToPattern_of_parts n ih⟩

/-- The first fault of an object is the first one of a property. -/
theorem patternFault?_object (properties : List Node) :
    patternFault? ⟨.objectExpression properties, span, leading, trailing⟩ =
      properties.findSome? propertyFault? := by
  rw [patternFault?]
  show properties.attach.findSome? (propertyFault? ∘ Subtype.val) = _
  rw [← List.findSome?_map, List.attach_map_subtype_val]

/-- That of an array is the first one of an element. -/
theorem patternFault?_array (elements : List (Option Node)) :
    patternFault? ⟨.arrayExpression elements, span, leading, trailing⟩ =
      elements.findSome? (·.bind patternFault?) := by
  rw [patternFault?]
  have whole : elements.findSome? (·.bind patternFault?) =
      elements.attach.findSome? ((·.bind patternFault?) ∘ Subtype.val) := by
    rw [← List.findSome?_map, List.attach_map_subtype_val]
  rw [whole]
  refine congrArg (List.findSome? · _) (funext fun ⟨x, _⟩ => ?_)
  cases x with
  | none => rfl
  | some x => rfl

/-- That of a spread is the one of its argument. -/
theorem patternFault?_spread (argument : Node) :
    patternFault? ⟨.spreadElement argument, span, leading, trailing⟩ = argument.patternFault? := by
  rw [patternFault?]

/-- That of a property is the one of its value. -/
theorem propertyFault?_init (key value : Node) (computed shorthand : Bool) :
    propertyFault? ⟨.property key value .init computed shorthand false, span, leading, trailing⟩ =
      value.patternFault? := by
  rw [propertyFault?]

/-- Only what is in the list matters. -/
theorem findSome?_congr_mem {α β : Type} {f g : α → Option β} {l : List α}
    (h : ∀ x ∈ l, f x = g x) : l.findSome? f = l.findSome? g := by
  induction l with
  | nil => rfl
  | cons x rest ih =>
      rw [List.findSome?_cons, List.findSome?_cons, h x List.mem_cons_self,
        ih fun y hy => h y (List.mem_cons_of_mem _ hy)]

/-- The first fault is the same wherever the parts stand. -/
def FormsFaults (n : Node) : Prop :=
  n.form.patternFault?.map Prod.snd = n.patternFault?.map Prod.snd ∧
    n.form.propertyFault?.map Prod.snd = n.propertyFault?.map Prod.snd

/-- The form has the fault of the node, if it is so for the parts. -/
theorem patternFault?_form_of_parts (n : Node) (ih : ∀ p ∈ n.parts, p.FormsFaults) :
    n.form.patternFault?.map Prod.snd = n.patternFault?.map Prod.snd := by
  obtain ⟨shape, span, leading, trailing⟩ := n
  cases shape
  case objectExpression properties =>
    -- A property passes the question on to its value, so the parts answer for both faults.
    show (patternFault? ⟨.objectExpression (forms properties), _, _, _⟩).map _ = _
    rw [patternFault?_object, patternFault?_object, forms_eq, List.findSome?_map,
      List.map_findSome?, List.map_findSome?]
    exact findSome?_congr_mem fun p hp => (ih p hp).2
  case arrayExpression elements =>
    show (patternFault? ⟨.arrayExpression (forms? elements), _, _, _⟩).map _ = _
    rw [patternFault?_array, patternFault?_array, forms?_eq, List.findSome?_map,
      List.map_findSome?, List.map_findSome?]
    refine findSome?_congr_mem fun x hx => ?_
    cases x with
    | none => rfl
    | some n => exact (ih n (List.mem_filterMap.mpr ⟨_, hx, rfl⟩)).1
  case spreadElement argument =>
    have below := (ih argument (by simp [parts, Shape.parts, Shape.children])).1
    show (patternFault? ⟨.spreadElement argument.form, _, _, _⟩).map _ = _
    rw [patternFault?_spread, patternFault?_spread, below]
  case assignmentExpression operator left right =>
    cases operator
    all_goals simp [patternFault?, form, Shape.form, bare]
  all_goals simp [patternFault?, form, Shape.form, bare]

/-- So it is for a property. -/
theorem propertyFault?_form_of_parts (n : Node) (ih : ∀ p ∈ n.parts, p.FormsFaults) :
    n.form.propertyFault?.map Prod.snd = n.propertyFault?.map Prod.snd := by
  obtain ⟨shape, span, leading, trailing⟩ := n
  cases shape
  case property key value kind computed shorthand method =>
    have below := (ih value (by simp [parts, Shape.parts])).1
    cases kind
    case init =>
      cases method with
      | true => simp [propertyFault?, form, Shape.form, bare]
      | false =>
          show (propertyFault? ⟨.property key.form value.form .init _ _ false, _, _, _⟩).map _ = _
          rw [propertyFault?_init, propertyFault?_init, below]
    all_goals simp [propertyFault?, form, Shape.form, bare]
  all_goals simp [propertyFault?, form, Shape.form, bare]

/-- So it is for all nodes, by induction on the tree. -/
theorem formsFaults (n : Node) : n.FormsFaults := by
  induction n using induction_on_parts with
  | step n ih => exact ⟨patternFault?_form_of_parts n ih, propertyFault?_form_of_parts n ih⟩

/-! ## Nodes of one form -/

/-- Lists of one form are of one length. -/
theorem length_congr {xs ys : List Node} (h : forms xs = forms ys) : xs.length = ys.length := by
  simpa only [forms_eq, List.length_map] using congrArg List.length h

/-- A node is missing if the other one is. -/
theorem isNone_congr {x y : Option Node} (h : form? x = form? y) : x.isNone = y.isNone := by
  simpa only [form?_eq, Option.isNone_map] using congrArg Option.isNone h

/-- Nodes of one form have one name. -/
theorem identifierName?_congr (h : n.form = m.form) : n.identifierName? = m.identifierName? := by
  rw [← identifierName?_form n, h, identifierName?_form]

/-- They are the same string. -/
theorem stringValue?_congr (h : n.form = m.form) : n.stringValue? = m.stringValue? := by
  rw [← stringValue?_form n, h, stringValue?_form]

/-- Both can be assigned to, or none. -/
theorem isSimpleTarget_congr (h : n.form = m.form) : n.isSimpleTarget = m.isSimpleTarget := by
  rw [← isSimpleTarget_form n, h, isSimpleTarget_form]

/-- Both stand for missing text, or none. -/
theorem isPlaceholder_congr (h : n.form = m.form) : n.isPlaceholder = m.isPlaceholder := by
  rw [isPlaceholder, identifierName?_congr h, isPlaceholder]

theorem form_detached_congr (h : n.form = m.form) : n.detached.form = m.detached.form := by
  rw [form_detached, h, form_detached]

/-- Their patterns are of one form. -/
theorem form_toPattern_congr (h : n.form = m.form) : n.toPattern.form = m.toPattern.form := by
  rw [(formsPatterns n).1, h, (formsPatterns m).1]

/-- Their faults are the same, but for the places. -/
theorem patternFault?_congr (h : n.form = m.form) :
    n.patternFault?.map Prod.snd = m.patternFault?.map Prod.snd := by
  rw [← (formsFaults n).1, h, (formsFaults m).1]

end Node

end ScriptTree

import ScriptTree.Proofs.Grammar.Upholding

/-! # Precedence — what operators, arrow functions and objects take

    Of two operators without parentheses between them the one that binds tighter stands
    deeper in the tree; operators of the same power group to the left, `**` to the
    right.  An arrow function whose body is an expression takes everything that may
    follow an assignment, so it is no operand; one whose body is a block is continued
    like a name.

    An object may turn out to be a pattern long after its properties were read, so a name
    with a default is read in it as it is in a pattern.  Nothing else that only patterns
    may have is the value of a property.  The default is not looked at again, though: an
    object that no `=`, `=>`, `in` or `of` makes a pattern keeps it, and is accepted. -/

namespace ScriptTree

variable {σ : Type} {text : List Char} {lines : LineIndex} {w : Observer σ} {observed : σ}
  {program : Node}

/-- PRECEDENCE: in a tree that a strict parse ends with, a logical operator makes a logical
    expression and any other one a binary expression.  An operation in front of an
    operator that starts where the whole does binds at least as tight, and none stands
    so in front of `**`; one behind an operator that ends where the whole does binds
    tighter, or both are `**`. -/
theorem parseText_binds (h : (parseText .strict text lines w observed).1 = .tree program) :
    ∀ n ∈ program.subtree, n.Binds :=
  fun n hn => (parseText_upholds h n hn).binds

/-- Operators of five precedences, with `**` to the right and parentheses around a tail. -/
theorem parseText_binds_mixed : ∃ program,
    parse .strict "a*b-c-d**e**f||(g||h)*i".toList = .tree program ∧
      program.subtree.filterMap Node.binaryOperator? =
        [.logicalOr, .minus, .minus, .times, .power, .power, .times, .logicalOr] ∧
      ∀ n ∈ program.subtree, n.Binds := by
  have operators : (parse .strict "a*b-c-d**e**f||(g||h)*i".toList).tree?.map (fun program =>
      program.subtree.filterMap Node.binaryOperator?) =
        some [.logicalOr, .minus, .minus, .times, .power, .power, .times, .logicalOr] := by
    decide +kernel
  obtain ⟨program, parsed, operators⟩ := ParseResult.exists_tree operators
  exact ⟨program, parsed, operators, parseText_binds parsed⟩

/-! ## Arrow functions in front -/

/-- What stands in front in the operations that take no arrow function there. -/
def Node.front? (n : Node) : Option Node :=
  match n.shape with
  | .binaryExpression _ left _ => some left
  | .logicalExpression _ left _ => some left
  | .conditionalExpression test _ _ => some test
  | .callExpression callee _ => some callee
  | .memberExpression object _ _ => some object
  | .taggedTemplateExpression tag _ => some tag
  | _ => none

/-- What stands in front is an arrow function without parentheses. -/
def Node.continuesArrow (n : Node) : Bool :=
  n.front?.any fun front => front.isArrow && front.span.start == n.span.start

/-- Where an arrow function is continued, its body is a block, or it ends with `++` or
    `--` in front of a call, a member or a template. -/
theorem Node.Upholds.continued {n : Node} (h : n.Upholds text)
    (continued : n.continuesArrow = true) : ∃ front, n.front? = some front ∧
      (front.isBlockArrow = true ∨ n.binaryOperator? = none ∧
        ∃ l ∈ Lexeme.ofText text, l.token.IsUpdate ∧ l.token.span.stop = front.span.stop) := by
  -- The node goes on from an arrow function, so it has something in front.
  obtain ⟨front, found⟩ : ∃ front, n.front? = some front := by
    rw [continuesArrow] at continued
    cases found : n.front? with
    | none => simp [found] at continued
    | some front => exact ⟨front, rfl⟩
  rw [continuesArrow, found, Option.any_some, Bool.and_eq_true, beq_iff_eq] at continued
  obtain ⟨arrow, start⟩ := continued
  have spares := h.arrows
  obtain ⟨shape, span, leading, trailing⟩ := n
  refine ⟨front, found, ?_⟩
  cases shape with
  -- Operators spare an operand in front, subscripts a base that ends with an update.
  | binaryExpression operator left right =>
      obtain rfl := Option.some.inj found
      exact .inl (spares arrow start)
  | logicalExpression operator left right =>
      obtain rfl := Option.some.inj found
      exact .inl (spares arrow start)
  | conditionalExpression test consequent alternate =>
      obtain rfl := Option.some.inj found
      exact .inl (spares arrow start)
  | callExpression callee arguments =>
      obtain rfl := Option.some.inj found
      exact (spares arrow start).imp_right fun update => ⟨rfl, update⟩
  | memberExpression object prop computed =>
      obtain rfl := Option.some.inj found
      exact (spares arrow start).imp_right fun update => ⟨rfl, update⟩
  | taggedTemplateExpression tag quasi =>
      obtain rfl := Option.some.inj found
      exact (spares arrow start).imp_right fun update => ⟨rfl, update⟩
  | _ => cases found

/-- ARROWS: in a tree that a strict parse ends with, an arrow function whose body is an
    expression is not continued, unless it ends with `++` or `--` and a call, a member or
    a template follows. -/
theorem parseText_continuesArrow
    (h : (parseText .strict text lines w observed).1 = .tree program) :
    ∀ n ∈ program.subtree, n.continuesArrow = true → ∃ front, n.front? = some front ∧
      (front.isBlockArrow = true ∨ n.binaryOperator? = none ∧
        ∃ l ∈ Lexeme.ofText text, l.token.IsUpdate ∧ l.token.span.stop = front.span.stop) :=
  fun n hn => (parseText_upholds h n hn).continued

/-- Behind the block of an arrow function, the parenthesis on the next line makes a call. -/
theorem parseText_continuesArrow_block : ∃ program,
    parse .strict "a=>{}\n(b)".toList = .tree program ∧
      ∃ n ∈ program.subtree, n.continuesArrow = true ∧ ∃ front, n.front? = some front ∧
        (front.isBlockArrow = true ∨ n.binaryOperator? = none ∧
          ∃ l ∈ Lexeme.ofText "a=>{}\n(b)".toList,
            l.token.IsUpdate ∧ l.token.span.stop = front.span.stop) := by
  have continued : (parse .strict "a=>{}\n(b)".toList).tree?.map (fun program =>
      program.subtree.any Node.continuesArrow) = some true := by
    decide +kernel
  obtain ⟨program, parsed, continued⟩ := ParseResult.exists_tree continued
  obtain ⟨n, hn, arrow⟩ := List.any_eq_true.mp continued
  exact ⟨program, parsed, n, hn, arrow, parseText_continuesArrow parsed n hn arrow⟩

/-- So arrow functions are continued: a block body does not end the expression, on the
    next line neither. -/
theorem parse_continues_arrow : ¬ ∀ (text : List Char) (program : Node),
    parse .strict text = .tree program → ∀ n ∈ program.subtree, n.continuesArrow = false := by
  intro ended
  have continued : (parse .strict "a=>{}\n(b)".toList).tree?.map (fun program =>
      program.subtree.any Node.continuesArrow) = some true := by
    decide +kernel
  obtain ⟨program, parsed, continued⟩ := ParseResult.exists_tree continued
  obtain ⟨n, hn, arrow⟩ := List.any_eq_true.mp continued
  rw [ended _ program parsed n hn] at arrow
  cases arrow

/-! ## Object literals -/

/-- OBJECT LITERALS: in a tree that a strict parse ends with, the parts of every object are
    properties, and no value of a property is a pattern, but for a name with a default
    that stands for key and value. -/
theorem parseText_entries {σ : Type} {text : List Char} {lines : LineIndex} {w : Observer σ}
    {observed : σ} {program : Node}
    (h : (parseText .strict text lines w observed).1 = .tree program) :
    ∀ n ∈ program.subtree, ∀ properties, n.shape = .objectExpression properties →
      ∀ x ∈ properties, x.IsEntry := by
  intro n hn properties shape
  have entries := (parseText_upholds h n hn).entries
  rw [Node.HoldsEntries, shape] at entries
  exact entries

namespace Node

/-- The node is a property whose value is a pattern with a default. -/
def isDefault (n : Node) : Bool :=
  match n.shape with
  | .property _ value .. => value.type == .assignmentPattern
  | _ => false

/-- The node is an object with such a property. -/
def keepsDefault (n : Node) : Bool :=
  match n.shape with
  | .objectExpression properties => properties.any isDefault
  | _ => false

end Node

/-- So it is with an object that has an object with a default for a value. -/
theorem parseText_entries_nested : ∃ program,
    parse .strict "({a:{b=1},c(){}})".toList = .tree program ∧
      (program.subtree.filter fun n => n.type == .objectExpression).map Node.keepsDefault =
        [false, true] ∧
      ∀ n ∈ program.subtree, ∀ properties, n.shape = .objectExpression properties →
        ∀ x ∈ properties, x.IsEntry := by
  have objects : (parse .strict "({a:{b=1},c(){}})".toList).tree?.map (fun program =>
      (program.subtree.filter fun n => n.type == .objectExpression).map Node.keepsDefault) =
        some [false, true] := by
    decide +kernel
  obtain ⟨program, parsed, objects⟩ := ParseResult.exists_tree objects
  exact ⟨program, parsed, objects, parseText_entries parsed⟩

/-- A default stays where no pattern is: a strict parse accepts `({a = 1})`. -/
theorem parse_keeps_default : ¬ ∀ text program, parse .strict text = .tree program →
    ∀ n ∈ program.subtree, n.keepsDefault = false := by
  intro never
  have kept : (parse .strict "({a = 1})".toList).tree?.map
      (fun program => program.subtree.any Node.keepsDefault) = some true := by
    decide +kernel
  obtain ⟨program, parsed, kept⟩ := ParseResult.exists_tree kept
  obtain ⟨n, there, keeps⟩ := List.any_eq_true.mp kept
  rw [never _ program parsed n there] at keeps
  cases keeps

end ScriptTree

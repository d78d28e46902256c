import ScriptTree.Grammar.Phrase

/-! # Reinterpretation — expressions that turn out to be patterns

    What stands left of `=`, before `=>` or in the head of a loop is parsed
    as an expression before it is known to be a pattern.  `toPattern` turns
    the one into the other without touching spans or comments, and
    `patternFault?` finds the first part that no pattern may have. -/

namespace ScriptTree.Node

mutual

/-- The pattern that is written like the expression.  What is no pattern
    stays as it is. -/
def toPattern (n : Node) : Node :=
  match _shape : n.shape with
  | .objectExpression properties =>
    { n with shape := .objectPattern (properties.attach.map fun ⟨p, _⟩ => p.propertyToPattern) }
  | .arrayExpression elements =>
    { n with
      shape := .arrayPattern (elements.attach.map fun
        | ⟨some x, _⟩ => some x.toPattern
        | ⟨none, _⟩ => none) }
  | .spreadElement argument => { n with shape := .restElement argument.toPattern }
  | .assignmentExpression .assign left right => { n with shape := .assignmentPattern left right }
  | _ => n
termination_by sizeOf n
decreasing_by all_goals (apply sizeOf_part; simp_all [parts, Shape.parts, Shape.children])

/-- The property with the pattern that is written like its value. -/
def propertyToPattern (n : Node) : Node :=
  match _shape : n.shape with
  | .property key value .init computed shorthand false =>
    { n with shape := .property key value.toPattern .init computed shorthand false }
  | _ => n
termination_by sizeOf n
decreasing_by apply sizeOf_part; simp [parts, _shape, Shape.parts]

end

mutual

/-- The first part of an expression that no pattern may have. -/
def patternFault? (n : Node) : Option (Span × Fault) :=
  match _shape : n.shape with
  | .identifier _ => none
  | .memberExpression .. => none
  | .objectPattern _ => none
  | .arrayPattern _ => none
  | .assignmentPattern .. => none
  | .restElement _ => none
  | .objectExpression properties =>
    properties.attach.findSome? fun ⟨p, _⟩ => p.propertyFault?
  | .arrayExpression elements =>
    elements.attach.findSome? fun
      | ⟨some x, _⟩ => x.patternFault?
      | ⟨none, _⟩ => none
  | .spreadElement argument => argument.patternFault?
  | .assignmentExpression .assign _ _ => none
  | _ => some (n.span, .invalidTarget)
termination_by sizeOf n
decreasing_by all_goals (apply sizeOf_part; simp_all [parts, Shape.parts, Shape.children])

/-- The first part of a property that no pattern may have. -/
def propertyFault? (n : Node) : Option (Span × Fault) :=
  match _shape : n.shape with
  | .property _ value .init _ _ false => value.patternFault?
  | _ => some (n.span, .accessorInPattern)
termination_by sizeOf n
decreasing_by apply sizeOf_part; simp [parts, _shape, Shape.parts]

end

/-- A single place can be assigned to: a name or a member. -/
def isSimpleTarget (n : Node) : Bool :=
  match n.shape with
  | .identifier _ => true
  | .memberExpression .. => true
  | _ => false

end ScriptTree.Node

namespace ScriptTree.Grammar

/-- Complain about the first part that no pattern may have, and go on with
    the pattern. -/
def asPattern (n : Node) : Rule Node :=
  match n.patternFault? with
  | some (span, fault) => .complain span fault (.done n.toPattern)
  | none => .done n.toPattern

/-- Complain unless a single place is assigned to. -/
def checkSimpleTarget (n : Node) : Rule Unit :=
  if n.isSimpleTarget then .done () else complain n.span .invalidTarget

end ScriptTree.Grammar

import ScriptTree.Grammar.Sequence

/-! # Patterns — what declarations and parameters bind

    A binding target is a name or a pattern in brackets or braces, which
    nests.  Elements of patterns and parameters may have a default. -/

namespace ScriptTree.Grammar

/-- A name or a pattern. -/
def bindingTarget : Rule Node := do
  match (← token).kind with
  | .name _ => identifier
  | .punctuator .openBracket => parseNested .arrayPattern
  | .punctuator .openBrace => parseNested .objectPattern
  | _ => missing

/-- Give a target that started at `start` the default behind `=`. -/
def withDefault (start : Nat) (target : Node) : Rule Node := do
  let right ← assignment false
  closeNode (openedAt start) (.assignmentPattern target right)

/-- A binding target with or without a default. -/
def bindingElement : Rule Node := do
  let start ← here
  let target ← bindingTarget
  if ← eat .assign then withDefault start target else pure target

/-- A binding target that takes what is left, at its three dots. -/
def restElement : Rule Node := do
  let opened ← openNode
  let _ ← take
  let argument ← bindingTarget
  closeNode opened (.restElement argument)

/-- A binding element, or one that takes what is left. -/
def bindingOrRest : Rule Node := do
  if ← isAt .ellipsis then restElement else bindingElement

/-- A pattern for the elements of a list, at its opening bracket. -/
def arrayPattern : Rule Node := do
  let opened ← openNode
  let _ ← take
  let elements ← elements .closeBracket bindingOrRest
  expect .closeBracket
  closeNode opened (.arrayPattern elements)

/-- One property of an object pattern.  A name alone binds the property of
    that name. -/
def patternProperty : Rule Node := do
  let opened ← openNode
  let (key, computed) ← propertyName
  let (value, shorthand) ← do
    if ← eat .colon then pure (← bindingElement, false)
    else if !computed && key.identifierName?.isSome then
      if ← eat .assign then pure (← withDefault key.span.start key.detached, true)
      else pure (key.detached, true)
    else pure (← missing, false)
  closeNode opened (.property key value .init computed shorthand false)

/-- A pattern for the properties of an object, at its opening brace. -/
def objectPattern : Rule Node := do
  let opened ← openNode
  let _ ← take
  let properties ← items .closeBrace patternProperty
  expect .closeBrace
  closeNode opened (.objectPattern properties)

end ScriptTree.Grammar

import ScriptTree.Grammar.Pattern

/-! # Functions and classes

    Functions, methods and classes are the same phrases as statements and
    as operands; as a statement each needs a name. -/

namespace ScriptTree.Grammar

open Rule (loop Turn)

/-- Parameters between parentheses. -/
def parameters : Rule (List Node) := do
  expect .openParen
  let params ← commaChain .closeParen bindingOrRest
  expect .closeParen
  pure params

/-- The name of a function or a class, which only a statement must have. -/
def optionalName (isStatement : Bool) : Rule (Option Node) := do
  if (← token).isName then return some (← identifier)
  else if isStatement then
    unexpected
    pure none
  else pure none

/-- A function behind its opening, at the word `function`. -/
def function (opened : Opened) (isStatement : Bool) : Rule Node := do
  let _ ← take
  if ← isAt .times then
    complainHere .generatorFunction
    let _ ← take
  let name ← optionalName isStatement
  let params ← parameters
  let body ← functionBody
  closeNode opened
    (if isStatement then .functionDeclaration name params body
     else .functionExpression name params body)

/-- Parameters and body of a method, as a function without a name. -/
def methodFunction : Rule Node := do
  let opened ← openNode
  let params ← parameters
  let body ← functionBody
  closeNode opened (.functionExpression none params body)

/-- The kind of accessor a name makes of the property name behind it. -/
def accessorKind? (key : Node) : Option PropertyKind :=
  match key.identifierName? with
  | some "get" => some .get
  | some "set" => some .set
  | _ => none

/-- The method kind of an accessor. -/
def accessorMethod : PropertyKind → MethodKind
  | .get => .get
  | .set => .set
  | .init => .method

/-- A method that is called when an object of the class is made: it is named
    so, as a word or as a string. -/
def isConstructorName (key : Node) : Bool :=
  (key.identifierName?.or key.stringValue?) == some "constructor"

/-- One method of a class. -/
def classMethod : Rule Node := do
  let opened ← openNode
  let (first, firstComputed) ← propertyName
  let isStatic :=
    !firstComputed && first.identifierName? == some "static" && !(← isAt .openParen)
  let (second, secondComputed) ← if isStatic then propertyName else pure (first, firstComputed)
  let accessor := if secondComputed || (← isAt .openParen) then none else accessorKind? second
  let (key, computed) ← if accessor.isSome then propertyName else pure (second, secondComputed)
  let kind :=
    match accessor with
    | some accessor => accessorMethod accessor
    | none =>
      if !computed && !isStatic && isConstructorName key then .constructor else .method
  let value ← methodFunction
  closeNode opened (.methodDefinition key value kind computed isStatic)

/-- The methods of a class, with stray semicolons between them. -/
def classMethods : Rule (List Node) :=
  loop #[] fun found => do
    if ← isAtClose .closeBrace then pure (.leave found.toList)
    else if ← eat .semicolon then pure (.again found)
    else
      let before ← consumed
      let method ← classMethod
      let after ← consumed
      if after == before then
        let _ ← take
        pure (.again found)
      else pure (.again (found.push method))

/-- A class behind its opening, at the word `class`. -/
def classPhrase (opened : Opened) (isStatement : Bool) : Rule Node := do
  let _ ← take
  let name ← optionalName isStatement
  let superClass ← do
    if ← eatWord .extendsWord then
      let start ← here
      let base ← parse .atom
      pure (some (← parseChain (.subscripts base start false)))
    else pure none
  let body ← openNode
  expect .openBrace
  let methods ← classMethods
  expect .closeBrace
  let body ← closeNode body (.classBody methods)
  closeNode opened
    (if isStatement then .classDeclaration name superClass body
     else .classExpression name superClass body)

end ScriptTree.Grammar

import ScriptTree.Grammar.Function
import ScriptTree.Grammar.Reinterpret

/-! # Expressions

    Assignments and conditional expressions nest to the right; operators
    are read by climbing their precedences; subscripts form a chain behind
    an operand.  A name or a parenthesised list before `=>` turns out to be
    the parameters of an arrow function. -/

namespace ScriptTree.Grammar

open Rule (loop Turn)

/-! ## Assignments -/

/-- A conditional expression, or the test of one alone. -/
def conditional (noIn : Bool) : Rule Node := do
  let start ← here
  let left ← unary
  let test ← parseChain (.operators left start 0 noIn)
  if ← eat .question then
    let consequent ← parseNested (.assignment false)
    expect .colon
    let alternate ← parseNested (.assignment noIn)
    closeNode (openedAt start) (.conditionalExpression test consequent alternate)
  else pure test

/-- The assignment operator that a token is. -/
def assignmentOperator? : TokenKind → Option Punctuator
  | .punctuator mark => if mark.isAssignment then some mark else none
  | _ => none

/-- The left side of an assignment operator: a pattern for `=`, a single
    place for the others. -/
def assignmentTarget (operator : Punctuator) (left : Node) : Rule Node :=
  if operator == .assign then asPattern left
  else do
    checkSimpleTarget left
    pure left

/-- A conditional expression or an assignment. -/
def assignmentRule (noIn : Bool) : Rule Node := do
  let start ← here
  let left ← conditional noIn
  match assignmentOperator? (← token).kind with
  | none => pure left
  | some operator =>
    let target ← assignmentTarget operator left
    let _ ← take
    let right ← parseNested (.assignment noIn)
    closeNode (openedAt start) (.assignmentExpression operator target right)

/-! ## Operators -/

/-- The least binding power that continues the right operand: operators of
    the same power group to the left, `**` to the right. -/
def rightMinimum (operator : BinaryOperator) : Nat :=
  if operator == .power then operator.precedence - 1 else operator.precedence

/-- An operator between two operands. -/
def binaryShape (operator : BinaryOperator) (left right : Node) : Shape Node :=
  if operator.isLogical then .logicalExpression operator left right
  else .binaryExpression operator left right

/-- The operators behind `left` that bind tighter than `minimum`, folded
    onto it from the left. -/
def operatorsRule (left : Node) (start minimum : Nat) (noIn : Bool) : Rule Node :=
  loop left fun left => do
    match BinaryOperator.ofToken? noIn (← token).kind with
    | none => pure (.leave left)
    | some operator =>
      if operator.precedence ≤ minimum then pure (.leave left)
      else if !(← Rule.deepen .done) then pure (.leave left)
      else
        let _ ← take
        let rightStart ← here
        let operand ← unary
        let right ← parseChain (.operators operand rightStart (rightMinimum operator) noIn)
        let whole ← closeNode (openedAt start) (binaryShape operator left right)
        pure (.again whole)

/-- The operator in front of an operand: one that stores, or one that does
    not. -/
def prefixOperator? (kind : TokenKind) : Option (UpdateOperator ⊕ UnaryOperator) :=
  match UpdateOperator.ofToken? kind with
  | some operator => some (.inl operator)
  | none => (UnaryOperator.ofToken? kind).map .inr

/-- `++` and `--` behind an operand, on the same line. -/
def postfixOperators (start : Nat) (operand : Node) : Rule Node :=
  loop operand fun operand => do
    let next ← token
    match UpdateOperator.ofToken? next.kind with
    | none => pure (.leave operand)
    | some operator =>
      if next.newlineBefore then pure (.leave operand)
      else
        checkSimpleTarget operand
        let _ ← take
        let whole ← closeNode (openedAt start) (.updateExpression operator operand false)
        pure (.again whole)

/-- An operand with the operators in front of and behind it. -/
def unaryRule : Rule Node := do
  match prefixOperator? (← token).kind with
  | some (.inl operator) =>
    let opened ← openNode
    let _ ← take
    let argument ← unary
    checkSimpleTarget argument
    closeNode opened (.updateExpression operator argument true)
  | some (.inr operator) =>
    let opened ← openNode
    let _ ← take
    let argument ← unary
    closeNode opened (.unaryExpression operator argument)
  | none =>
    let start ← here
    let base ← parse .atom
    let operand ← parseChain (.subscripts base start false)
    postfixOperators start operand

/-! ## Subscripts -/

/-- An assignment, or three dots and an assignment. -/
def spreadOrAssignment : Rule Node := do
  if ← isAt .ellipsis then
    let opened ← openNode
    let _ ← take
    let argument ← assignment false
    closeNode opened (.spreadElement argument)
  else assignment false

/-- Arguments between parentheses. -/
def callArguments : Rule (List Node) := do
  expect .openParen
  let arguments ← items .closeParen spreadOrAssignment
  expect .closeParen
  pure arguments

/-- One chunk of a template at the current token: its text, and whether it
    is the last one. -/
def templateChunk? : TokenKind → Option (String × Bool)
  | .template raw _ isTail => some (raw, isTail)
  | _ => none

/-- A template, at its first chunk.  A chunk's node covers its text without
    the delimiters. -/
def template : Rule Node := do
  let opened ← openNode
  let start : Array Node × Array Node := (#[], #[])
  let (quasis, expressions) ← loop start fun (quasis, expressions) => do
    let chunk ← token
    match templateChunk? chunk.kind with
    | none =>
      unexpected
      pure (.leave (quasis.toList, expressions.toList))
    | some (raw, isTail) =>
      let start := chunk.span.start + 1
      let _ ← take
      let quasi ← closeNodeAt (openedAt start) (.templateElement raw isTail)
        (start + raw.utf8ByteSize)
      let quasis := quasis.push quasi
      if isTail then pure (.leave (quasis.toList, expressions.toList))
      else
        let substitution ← expression false
        let expressions := expressions.push substitution
        if (← token).isTemplateRest then pure (.again (quasis, expressions))
        else
          unexpected
          pure (.leave (quasis.toList, expressions.toList))
  closeNode opened (.templateLiteral quasis expressions)

/-- The subscript that the current token begins. -/
inductive Subscript where
  | member
  | computedMember
  | call
  | template
deriving DecidableEq, Repr, Inhabited

/-- The subscript that a token begins; where calls belong to an enclosing
    `new`, a parenthesis begins none. -/
def Subscript.ofToken? (noCalls : Bool) (t : Token) : Option Subscript :=
  if t.isPunctuator .dot then some .member
  else if t.isPunctuator .openBracket then some .computedMember
  else if !noCalls && t.isPunctuator .openParen then some .call
  else if t.isTemplateHead then some .template
  else none

/-- A subscript of `base`, at its first token. -/
def subscript (base : Node) : Subscript → Rule (Shape Node)
  | .member => do
    let _ ← take
    let prop ← identifierName
    pure (.memberExpression base prop false)
  | .computedMember => do
    let _ ← take
    let prop ← expression false
    expect .closeBracket
    pure (.memberExpression base prop true)
  | .call => do
    let arguments ← callArguments
    pure (.callExpression base arguments)
  | .template => do
    let quasi ← template
    pure (.taggedTemplateExpression base quasi)

/-- The subscripts behind `base`, folded onto it from the left. -/
def subscriptsRule (base : Node) (start : Nat) (noCalls : Bool) : Rule Node :=
  loop base fun base => do
    match Subscript.ofToken? noCalls (← token) with
    | none => pure (.leave base)
    | some kind =>
      if !(← Rule.deepen .done) then pure (.leave base)
      else
        let shape ← subscript base kind
        let whole ← closeNode (openedAt start) shape
        pure (.again whole)

/-! ## Operands -/

/-- The body of an arrow function and the function, at `=>`. -/
def arrowBody (opened : Opened) (params : List Node) : Rule Node := do
  expect .arrow
  if ← isAt .openBrace then
    let body ← functionBody
    closeNode opened (.arrowFunctionExpression params body false)
  else
    let body ← assignment false
    closeNode opened (.arrowFunctionExpression params body true)

/-- `=>` stands here, on the line of the parameters. -/
def isAtArrow : Rule Bool := .look fun s =>
  .done (s.token.isPunctuator .arrow && !s.token.newlineBefore)

/-- A name, or an arrow function with a name as its only parameter. -/
def nameOrArrow : Rule Node := do
  let start ← here
  let name ← identifier
  if ← isAtArrow then arrowBody (openedAt start) [name] else pure name

/-- An array, at its opening bracket. -/
def array : Rule Node := do
  let opened ← openNode
  let _ ← take
  let elements ← elements .closeBracket spreadOrAssignment
  expect .closeBracket
  closeNode opened (.arrayExpression elements)

/-- The token ends the name of a property: what stood before it is no `get`
    or `set` of another name. -/
def endsPropertyName (t : Token) : Bool :=
  t.isPunctuator .comma || t.isPunctuator .colon || t.isPunctuator .openParen
    || t.isPunctuator .closeBrace || t.isPunctuator .assign

/-- What a property of an object is besides its key. -/
structure PropertyRest where
  key : Node
  computed : Bool
  value : Node
  kind : PropertyKind
  shorthand : Bool
  isMethod : Bool
deriving Inhabited

/-- A property behind its name: an accessor, a method, a value behind a
    colon, or a name alone, which may have a default in case the object
    turns out to be a pattern. -/
def propertyRest (key : Node) (computed : Bool) : Rule PropertyRest := do
  let next ← token
  let accessor := if computed || endsPropertyName next then none else accessorKind? key
  match accessor with
  | some kind =>
    let (name, nameComputed) ← propertyName
    let value ← methodFunction
    pure ⟨name, nameComputed, value, kind, false, false⟩
  | none =>
    if next.isPunctuator .openParen then
      let value ← methodFunction
      pure ⟨key, computed, value, .init, false, true⟩
    else if ← eat .colon then
      let value ← assignment false
      pure ⟨key, computed, value, .init, false, false⟩
    else if !computed && key.identifierName?.isSome then
      if ← eat .assign then
        let value ← withDefault key.span.start key.detached
        pure ⟨key, computed, value, .init, true, false⟩
      else pure ⟨key, computed, key.detached, .init, true, false⟩
    else
      let value ← missing
      pure ⟨key, computed, value, .init, false, false⟩

/-- One property of an object. -/
def objectProperty : Rule Node := do
  let opened ← openNode
  let (key, computed) ← propertyName
  let rest ← propertyRest key computed
  closeNode opened
    (.property rest.key rest.value rest.kind rest.computed rest.shorthand rest.isMethod)

/-- An object, at its opening brace. -/
def object : Rule Node := do
  let opened ← openNode
  let _ ← take
  let properties ← items .closeBrace objectProperty
  expect .closeBrace
  closeNode opened (.objectExpression properties)

/-- What stands between parentheses: the items, and whether one of them
    takes the rest. -/
def parenthesized : Rule (List Node × Bool) :=
  loop ((#[], false) : Array Node × Bool) fun (found, hasRest) => do
    if ← isAtClose .closeParen then pure (.leave (found.toList, hasRest))
    else
      let before ← consumed
      let isRest ← isAt .ellipsis
      let item ← if isRest then restElement else assignment false
      let found := found.push item
      let hasRest := hasRest || isRest
      let after ← consumed
      if after == before then pure (.leave (found.toList, hasRest))
      else if ← eat .comma then pure (.again (found, hasRest))
      else pure (.leave (found.toList, hasRest))

/-- Turn each item of a list into a pattern. -/
def asPatterns : List Node → Rule (List Node)
  | [] => pure []
  | item :: rest => do
    let first ← asPattern item
    let others ← asPatterns rest
    pure (first :: others)

/-- A parenthesised expression, or an arrow function with parenthesised
    parameters.  Several items make a sequence that covers them without the
    parentheses. -/
def parenOrArrow : Rule Node := do
  let start ← here
  let _ ← take
  let innerStart ← here
  let (found, hasRest) ← parenthesized
  let innerStop := (← situation).previousEnd
  expect .closeParen
  if ← isAtArrow then
    let params ← asPatterns found
    arrowBody (openedAt start) params
  else
    if found.isEmpty || hasRest then unexpected
    match found with
    | [] => placeholder
    | [only] => pure only
    | _ => closeNodeAt (openedAt innerStart) (.sequenceExpression found) innerStop

/-- An object made by `new`.  Calls behind the word belong to it: a member
    may stand before its arguments, a call not. -/
def newObject : Rule Node := do
  let opened ← openNode
  let _ ← take
  let start ← here
  let base ← parse .atom
  let callee ← parseChain (.subscripts base start true)
  let arguments ← if ← isAt .openParen then callArguments else pure []
  closeNode opened (.newExpression callee arguments)

/-- An operand that begins with a reserved word. -/
def wordAtom : Keyword → Rule Node
  | .thisWord => leaf .thisExpression
  | .superWord => leaf .super
  | .trueWord => literal
  | .falseWord => literal
  | .nullWord => literal
  | .functionWord => do
    let opened ← openNode
    function opened false
  | .classWord => do
    let opened ← openNode
    classPhrase opened false
  | .newWord => newObject
  | _ => missing

/-- An operand without operators or subscripts. -/
def atomRule : Rule Node := do
  match (← token).kind with
  | .keyword word => wordAtom word
  | .name _ => nameOrArrow
  | .number _ => literal
  | .string _ => literal
  | .regExp .. => literal
  | .template _ true _ => template
  | .punctuator .openParen => parenOrArrow
  | .punctuator .openBracket => array
  | .punctuator .openBrace => object
  | _ => missing

end ScriptTree.Grammar

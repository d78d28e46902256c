import ScriptTree.Node.Operator

/-! # Shapes — one level of a syntax tree

    A `Shape` says what kind of node it is and holds what is below it, of a
    type left open: the tree takes nodes there.  What can be said of one
    level, above all which children a node has and in which order, is said
    here once, without recursion. -/

namespace ScriptTree

/-- The word a variable declaration begins with. -/
inductive BindingKind where
  | byVar
  | byLet
  | byConst
deriving DecidableEq, Repr, Inhabited

/-- How the word is written. -/
def BindingKind.spelling : BindingKind → String
  | .byVar => "var"
  | .byLet => "let"
  | .byConst => "const"

/-- What a property of an object does. -/
inductive PropertyKind where
  | init
  | get
  | set
deriving DecidableEq, Repr, Inhabited

/-- The kind's name. -/
def PropertyKind.name : PropertyKind → String
  | .init => "init"
  | .get => "get"
  | .set => "set"

/-- What a method of a class does. -/
inductive MethodKind where
  | constructor
  | method
  | get
  | set
deriving DecidableEq, Repr, Inhabited

/-- The kind's name. -/
def MethodKind.name : MethodKind → String
  | .constructor => "constructor"
  | .method => "method"
  | .get => "get"
  | .set => "set"

/-- The value of a literal. -/
inductive LiteralValue where
  | string (value : String)
  | number (value : Float)
  | boolean (value : Bool)
  | null
  | regExp (pattern flags : String)
deriving DecidableEq, Repr, Inhabited

/-- One level of a syntax tree over parts of type `α`. -/
inductive Shape (α : Type) where
  | program (body : List α)
  -- statements
  | emptyStatement
  | debuggerStatement
  | expressionStatement (expression : α)
  | blockStatement (body : List α)
  | variableDeclaration (kind : BindingKind) (declarations : List α)
  | variableDeclarator (id : α) (init : Option α)
  | functionDeclaration (id : Option α) (params : List α) (body : α)
  | returnStatement (argument : Option α)
  | ifStatement (test consequent : α) (alternate : Option α)
  | forStatement (init test update : Option α) (body : α)
  | forInStatement (left right body : α)
  | forOfStatement (left right body : α)
  | whileStatement (test body : α)
  | doWhileStatement (body test : α)
  | breakStatement (label : Option α)
  | continueStatement (label : Option α)
  | throwStatement (argument : α)
  | tryStatement (block : α) (handler finalizer : Option α)
  | catchClause (param : Option α) (body : α)
  | switchStatement (discriminant : α) (cases : List α)
  | switchCase (test : Option α) (consequent : List α)
  | labeledStatement (label body : α)
  | withStatement (object body : α)
  | classDeclaration (id superClass : Option α) (body : α)
  -- classes
  | classBody (body : List α)
  | methodDefinition (key value : α) (kind : MethodKind) (computed isStatic : Bool)
  -- expressions
  | identifier (name : String)
  | literal (value : LiteralValue) (raw : String)
  | thisExpression
  | super
  | templateLiteral (quasis expressions : List α)
  | templateElement (raw : String) (isTail : Bool)
  | taggedTemplateExpression (tag quasi : α)
  | arrayExpression (elements : List (Option α))
  | objectExpression (properties : List α)
  | property (key value : α) (kind : PropertyKind) (computed shorthand method : Bool)
  | functionExpression (id : Option α) (params : List α) (body : α)
  | arrowFunctionExpression (params : List α) (body : α) (isExpression : Bool)
  | classExpression (id superClass : Option α) (body : α)
  | unaryExpression (operator : UnaryOperator) (argument : α)
  | updateExpression (operator : UpdateOperator) (argument : α) (isPrefix : Bool)
  | binaryExpression (operator : BinaryOperator) (left right : α)
  | logicalExpression (operator : BinaryOperator) (left right : α)
  | assignmentExpression (operator : Punctuator) (left right : α)
  | conditionalExpression (test consequent alternate : α)
  | callExpression (callee : α) (arguments : List α)
  | newExpression (callee : α) (arguments : List α)
  | memberExpression (object prop : α) (computed : Bool)
  | sequenceExpression (expressions : List α)
  | spreadElement (argument : α)
  -- patterns
  | objectPattern (properties : List α)
  | arrayPattern (elements : List (Option α))
  | restElement (argument : α)
  | assignmentPattern (left right : α)
deriving Repr, Inhabited

namespace Shape

variable {α : Type}

/-- Take from two lists in turn, the first one first, then what is left. -/
def interleave : List α → List α → List α
  | [], expressions => expressions
  | quasi :: quasis, [] => quasi :: quasis
  | quasi :: quasis, expression :: expressions =>
    quasi :: expression :: interleave quasis expressions

/-- The parts that stand below in the source, in source order.  The key of a
    shorthand property is the same text as its value and does not count. -/
def children : Shape α → List α
  | program body => body
  | emptyStatement => []
  | debuggerStatement => []
  | expressionStatement expression => [expression]
  | blockStatement body => body
  | variableDeclaration _ declarations => declarations
  | variableDeclarator id init => id :: init.toList
  | functionDeclaration id params body => id.toList ++ params ++ [body]
  | returnStatement argument => argument.toList
  | ifStatement test consequent alternate => test :: consequent :: alternate.toList
  | forStatement init test update body =>
    init.toList ++ test.toList ++ update.toList ++ [body]
  | forInStatement left right body => [left, right, body]
  | forOfStatement left right body => [left, right, body]
  | whileStatement test body => [test, body]
  | doWhileStatement body test => [body, test]
  | breakStatement label => label.toList
  | continueStatement label => label.toList
  | throwStatement argument => [argument]
  | tryStatement block handler finalizer => block :: (handler.toList ++ finalizer.toList)
  | catchClause param body => param.toList ++ [body]
  | switchStatement discriminant cases => discriminant :: cases
  | switchCase test consequent => test.toList ++ consequent
  | labeledStatement label body => [label, body]
  | withStatement object body => [object, body]
  | classDeclaration id superClass body => id.toList ++ superClass.toList ++ [body]
  | classBody body => body
  | methodDefinition key value _ _ _ => [key, value]
  | identifier _ => []
  | literal _ _ => []
  | thisExpression => []
  | super => []
  | templateLiteral quasis expressions => interleave quasis expressions
  | templateElement _ _ => []
  | taggedTemplateExpression tag quasi => [tag, quasi]
  | arrayExpression elements => elements.filterMap id
  | objectExpression properties => properties
  | property key value _ _ shorthand _ => if shorthand then [value] else [key, value]
  | functionExpression id params body => id.toList ++ params ++ [body]
  | arrowFunctionExpression params body _ => params ++ [body]
  | classExpression id superClass body => id.toList ++ superClass.toList ++ [body]
  | unaryExpression _ argument => [argument]
  | updateExpression _ argument _ => [argument]
  | binaryExpression _ left right => [left, right]
  | logicalExpression _ left right => [left, right]
  | assignmentExpression _ left right => [left, right]
  | conditionalExpression test consequent alternate => [test, consequent, alternate]
  | callExpression callee arguments => callee :: arguments
  | newExpression callee arguments => callee :: arguments
  | memberExpression object prop _ => [object, prop]
  | sequenceExpression expressions => expressions
  | spreadElement argument => [argument]
  | objectPattern properties => properties
  | arrayPattern elements => elements.filterMap id
  | restElement argument => [argument]
  | assignmentPattern left right => [left, right]

/-- All parts, the key of a shorthand property included. -/
def parts : Shape α → List α
  | property key value _ _ _ _ => [key, value]
  | s => s.children

/-- The statements of a program, a block or a case. -/
def statements? : Shape α → Option (List α)
  | program body => some body
  | blockStatement body => some body
  | switchCase _ consequent => some consequent
  | _ => none

theorem mem_interleave {quasis expressions : List α} {x : α} :
    x ∈ interleave quasis expressions ↔ x ∈ quasis ∨ x ∈ expressions := by
  fun_induction interleave quasis expressions with
  | case1 expressions => simp
  | case2 quasi quasis => simp
  | case3 quasi quasis expression expressions ih =>
    simp only [List.mem_cons, ih]
    constructor
    · rintro (h | h | h | h) <;> simp [h]
    · rintro ((h | h) | (h | h)) <;> simp [h]

/-- A child is a part. -/
theorem mem_parts_of_mem_children {s : Shape α} {x : α} (h : x ∈ s.children) : x ∈ s.parts := by
  cases s with
  | property key value kind computed shorthand method =>
    simp only [children] at h
    simp only [parts, List.mem_cons, List.not_mem_nil, or_false]
    split at h <;> simp_all
  | _ => exact h

end Shape

end ScriptTree

import ScriptTree.Tree.Basic

/-! # Outlines — the declarations of a program

    An outline lists functions, classes with their methods, and variables,
    each with what is declared inside it.  Statements that only direct the
    flow are looked through.  In a statement that is an expression, functions
    and classes count wherever they stand. -/

namespace ScriptTree

/-- What an outline entry stands for. -/
inductive OutlineKind where
  | function
  | classType
  | method
  | variable
deriving DecidableEq, Repr, Inhabited

/-- The kind's name. -/
def OutlineKind.name : OutlineKind → String
  | .function => "function"
  | .classType => "class"
  | .method => "method"
  | .variable => "variable"

/-- One entry of an outline. -/
structure OutlineItem where
  name : String
  kind : OutlineKind
  /-- A label like a signature. -/
  detail : String
  /-- The whole declaration. -/
  span : Span
  /-- The name, or the declaration where it has none. -/
  selection : Span
  children : List OutlineItem
deriving Repr, Inhabited

namespace OutlineItem

/-- The name of what has none. -/
def anonymous : String := "<anonymous>"

/-- The name a node gives, or that of what has none. -/
def nameOf (id : Option Node) : String := (id.bind Node.identifierName?).getD anonymous

/-- A parameter in a label; a pattern is not spelled out. -/
def parameterLabel (n : Node) : String :=
  match n.shape with
  | .identifier name => name
  | .assignmentPattern left _ => left.identifierName?.getD "_"
  | .restElement argument => "..." ++ argument.identifierName?.getD "_"
  | _ => "_"

/-- Parameters in a label. -/
def parameterList (params : List Node) : String :=
  ", ".intercalate (params.map parameterLabel)

/-- The entry of a function or a method. -/
def ofFunction (kind : OutlineKind) (name : String) (id : Option Node) (span : Span)
    (params : List Node) (children : List OutlineItem) : OutlineItem :=
  ⟨name, kind, name ++ "(" ++ parameterList params ++ ")", span,
    (id.map Node.span).getD span, children⟩

/-- The entry of a class. -/
def ofClass (name : String) (id : Option Node) (span : Span) (children : List OutlineItem) :
    OutlineItem :=
  ⟨name, .classType, "class " ++ name, span, (id.map Node.span).getD span, children⟩

/-- The entry of a variable. -/
def ofVariable (kind : BindingKind) (name : String) (id : Node) (span : Span) : OutlineItem :=
  ⟨name, .variable, kind.spelling ++ " " ++ name, span, id.span, []⟩

/-- The name of a method, with the word of an accessor. -/
def methodLabel (kind : MethodKind) (key : Node) : String :=
  let name := (key.identifierName?.or key.stringValue?).getD "<computed>"
  match kind with
  | .get => "get " ++ name
  | .set => "set " ++ name
  | _ => name

end OutlineItem

namespace Node

/-- The statement only directs the flow, so that what is declared in it is
    declared around it. -/
def isFlow (n : Node) : Bool :=
  match n.type with
  | .blockStatement | .ifStatement | .forStatement | .forInStatement | .forOfStatement
  | .whileStatement | .doWhileStatement | .tryStatement | .catchClause | .switchStatement
  | .switchCase | .labeledStatement | .withStatement => true
  | _ => false

mutual

/-- What a statement declares. -/
def declarations (n : Node) : List OutlineItem :=
  match _shape : n.shape with
  | .functionDeclaration id params body =>
    [.ofFunction .function (OutlineItem.nameOf id) id n.span params body.declarations]
  | .classDeclaration id _ body =>
    [.ofClass (OutlineItem.nameOf id) id n.span body.methods]
  | .variableDeclaration kind declarators =>
    declarators.attach.flatMap fun ⟨d, _⟩ => d.declaredBy kind
  | .expressionStatement inner => inner.functionsIn
  | _ =>
    if n.isFlow then n.children.attach.flatMap fun ⟨x, _⟩ => x.declarations else []
termination_by sizeOf n
decreasing_by
  all_goals first
    | exact sizeOf_child ‹_›
    | (apply sizeOf_part; simp_all [parts, Shape.parts, Shape.children])

/-- What a declarator declares; patterns declare nothing that is listed. -/
def declaredBy (n : Node) (kind : BindingKind) : List OutlineItem :=
  match _shape : n.shape with
  | .variableDeclarator id init =>
    match id.identifierName? with
    | none => []
    | some name =>
      match _init : init with
      | none => [.ofVariable kind name id n.span]
      | some value => [value.declaredAs kind name id n.span]
  | _ => []
termination_by sizeOf n
decreasing_by
  all_goals (apply sizeOf_part; simp_all [parts, Shape.parts, Shape.children])

/-- What a name is declared as by the value it gets. -/
def declaredAs (n : Node) (kind : BindingKind) (name : String) (id : Node) (span : Span) :
    OutlineItem :=
  match _shape : n.shape with
  | .functionExpression _ params body =>
    .ofFunction .function name (some id) span params body.declarations
  | .arrowFunctionExpression params body _ =>
    .ofFunction .function name (some id) span params body.declarations
  | .classExpression _ _ body => .ofClass name (some id) span body.methods
  | _ => .ofVariable kind name id span
termination_by sizeOf n
decreasing_by
  all_goals (apply sizeOf_part; simp_all [parts, Shape.parts, Shape.children])

/-- Functions and classes in an expression. -/
def functionsIn (n : Node) : List OutlineItem :=
  match _shape : n.shape with
  | .functionExpression id params body =>
    [.ofFunction .function (OutlineItem.nameOf id) id n.span params body.declarations]
  | .arrowFunctionExpression params body _ =>
    [.ofFunction .function OutlineItem.anonymous none n.span params body.declarations]
  | .classExpression id _ body =>
    [.ofClass (OutlineItem.nameOf id) id n.span body.methods]
  | _ => n.children.attach.flatMap fun ⟨x, _⟩ => x.functionsIn
termination_by sizeOf n
decreasing_by
  all_goals first
    | exact sizeOf_child ‹_›
    | (apply sizeOf_part; simp_all [parts, Shape.parts, Shape.children])

/-- The methods of a class body. -/
def methods (n : Node) : List OutlineItem :=
  match _shape : n.shape with
  | .classBody members => members.attach.flatMap fun ⟨m, _⟩ => m.methodItems
  | _ => []
termination_by sizeOf n
decreasing_by
  all_goals (apply sizeOf_part; simp_all [parts, Shape.parts, Shape.children])

/-- The entry of a method. -/
def methodItems (n : Node) : List OutlineItem :=
  match _shape : n.shape with
  | .methodDefinition key value kind _ _ =>
    value.methodBody (OutlineItem.methodLabel kind key) key n.span
  | _ => []
termination_by sizeOf n
decreasing_by
  all_goals (apply sizeOf_part; simp_all [parts, Shape.parts, Shape.children])

/-- The entry of a method whose function this is. -/
def methodBody (n : Node) (label : String) (key : Node) (span : Span) : List OutlineItem :=
  match _shape : n.shape with
  | .functionExpression _ params body =>
    [.ofFunction .method label (some key) span params body.declarations]
  | _ => []
termination_by sizeOf n
decreasing_by
  all_goals (apply sizeOf_part; simp_all [parts, Shape.parts, Shape.children])

end

end Node

/-- The outline of a tree. -/
def outline (tree : SyntaxTree) : List OutlineItem := tree.body.flatMap Node.declarations

end ScriptTree

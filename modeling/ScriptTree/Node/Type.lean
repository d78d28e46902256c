import ScriptTree.Node.Shape

/-! # Node types

    The name of a shape without its contents, for tables that are keyed by
    the kind of a node. -/

namespace ScriptTree

/-- The kinds of nodes. -/
inductive NodeType where
  | program
  | emptyStatement
  | debuggerStatement
  | expressionStatement
  | blockStatement
  | variableDeclaration
  | variableDeclarator
  | functionDeclaration
  | returnStatement
  | ifStatement
  | forStatement
  | forInStatement
  | forOfStatement
  | whileStatement
  | doWhileStatement
  | breakStatement
  | continueStatement
  | throwStatement
  | tryStatement
  | catchClause
  | switchStatement
  | switchCase
  | labeledStatement
  | withStatement
  | classDeclaration
  | classBody
  | methodDefinition
  | identifier
  | literal
  | thisExpression
  | super
  | templateLiteral
  | templateElement
  | taggedTemplateExpression
  | arrayExpression
  | objectExpression
  | property
  | functionExpression
  | arrowFunctionExpression
  | classExpression
  | unaryExpression
  | updateExpression
  | binaryExpression
  | logicalExpression
  | assignmentExpression
  | conditionalExpression
  | callExpression
  | newExpression
  | memberExpression
  | sequenceExpression
  | spreadElement
  | objectPattern
  | arrayPattern
  | restElement
  | assignmentPattern
deriving DecidableEq, Repr, Inhabited, Hashable

namespace NodeType

/-- The type's name. -/
def name : NodeType → String
  | .program => "Program"
  | .emptyStatement => "EmptyStatement"
  | .debuggerStatement => "DebuggerStatement"
  | .expressionStatement => "ExpressionStatement"
  | .blockStatement => "BlockStatement"
  | .variableDeclaration => "VariableDeclaration"
  | .variableDeclarator => "VariableDeclarator"
  | .functionDeclaration => "FunctionDeclaration"
  | .returnStatement => "ReturnStatement"
  | .ifStatement => "IfStatement"
  | .forStatement => "ForStatement"
  | .forInStatement => "ForInStatement"
  | .forOfStatement => "ForOfStatement"
  | .whileStatement => "WhileStatement"
  | .doWhileStatement => "DoWhileStatement"
  | .breakStatement => "BreakStatement"
  | .continueStatement => "ContinueStatement"
  | .throwStatement => "ThrowStatement"
  | .tryStatement => "TryStatement"
  | .catchClause => "CatchClause"
  | .switchStatement => "SwitchStatement"
  | .switchCase => "SwitchCase"
  | .labeledStatement => "LabeledStatement"
  | .withStatement => "WithStatement"
  | .classDeclaration => "ClassDeclaration"
  | .classBody => "ClassBody"
  | .methodDefinition => "MethodDefinition"
  | .identifier => "Identifier"
  | .literal => "Literal"
  | .thisExpression => "ThisExpression"
  | .super => "Super"
  | .templateLiteral => "TemplateLiteral"
  | .templateElement => "TemplateElement"
  | .taggedTemplateExpression => "TaggedTemplateExpression"
  | .arrayExpression => "ArrayExpression"
  | .objectExpression => "ObjectExpression"
  | .property => "Property"
  | .functionExpression => "FunctionExpression"
  | .arrowFunctionExpression => "ArrowFunctionExpression"
  | .classExpression => "ClassExpression"
  | .unaryExpression => "UnaryExpression"
  | .updateExpression => "UpdateExpression"
  | .binaryExpression => "BinaryExpression"
  | .logicalExpression => "LogicalExpression"
  | .assignmentExpression => "AssignmentExpression"
  | .conditionalExpression => "ConditionalExpression"
  | .callExpression => "CallExpression"
  | .newExpression => "NewExpression"
  | .memberExpression => "MemberExpression"
  | .sequenceExpression => "SequenceExpression"
  | .spreadElement => "SpreadElement"
  | .objectPattern => "ObjectPattern"
  | .arrayPattern => "ArrayPattern"
  | .restElement => "RestElement"
  | .assignmentPattern => "AssignmentPattern"

/-- All node types. -/
def all : List NodeType :=
  [.program, .emptyStatement, .debuggerStatement, .expressionStatement, .blockStatement,
   .variableDeclaration, .variableDeclarator, .functionDeclaration, .returnStatement,
   .ifStatement, .forStatement, .forInStatement, .forOfStatement, .whileStatement,
   .doWhileStatement, .breakStatement, .continueStatement, .throwStatement, .tryStatement,
   .catchClause, .switchStatement, .switchCase, .labeledStatement, .withStatement,
   .classDeclaration, .classBody, .methodDefinition, .identifier, .literal, .thisExpression,
   .super, .templateLiteral, .templateElement, .taggedTemplateExpression, .arrayExpression,
   .objectExpression, .property, .functionExpression, .arrowFunctionExpression,
   .classExpression, .unaryExpression, .updateExpression, .binaryExpression,
   .logicalExpression, .assignmentExpression, .conditionalExpression, .callExpression,
   .newExpression, .memberExpression, .sequenceExpression, .spreadElement, .objectPattern,
   .arrayPattern, .restElement, .assignmentPattern]

/-- The type with a name. -/
def ofName? (name : String) : Option NodeType := all.find? fun t => t.name == name

/-- Functions, declared or in expressions, with arrows. -/
def isFunction : NodeType → Bool
  | .functionDeclaration => true
  | .functionExpression => true
  | .arrowFunctionExpression => true
  | _ => false

end NodeType

/-- The type of a shape. -/
def Shape.type {α : Type} : Shape α → NodeType
  | .program .. => .program
  | .emptyStatement => .emptyStatement
  | .debuggerStatement => .debuggerStatement
  | .expressionStatement .. => .expressionStatement
  | .blockStatement .. => .blockStatement
  | .variableDeclaration .. => .variableDeclaration
  | .variableDeclarator .. => .variableDeclarator
  | .functionDeclaration .. => .functionDeclaration
  | .returnStatement .. => .returnStatement
  | .ifStatement .. => .ifStatement
  | .forStatement .. => .forStatement
  | .forInStatement .. => .forInStatement
  | .forOfStatement .. => .forOfStatement
  | .whileStatement .. => .whileStatement
  | .doWhileStatement .. => .doWhileStatement
  | .breakStatement .. => .breakStatement
  | .continueStatement .. => .continueStatement
  | .throwStatement .. => .throwStatement
  | .tryStatement .. => .tryStatement
  | .catchClause .. => .catchClause
  | .switchStatement .. => .switchStatement
  | .switchCase .. => .switchCase
  | .labeledStatement .. => .labeledStatement
  | .withStatement .. => .withStatement
  | .classDeclaration .. => .classDeclaration
  | .classBody .. => .classBody
  | .methodDefinition .. => .methodDefinition
  | .identifier .. => .identifier
  | .literal .. => .literal
  | .thisExpression => .thisExpression
  | .super => .super
  | .templateLiteral .. => .templateLiteral
  | .templateElement .. => .templateElement
  | .taggedTemplateExpression .. => .taggedTemplateExpression
  | .arrayExpression .. => .arrayExpression
  | .objectExpression .. => .objectExpression
  | .property .. => .property
  | .functionExpression .. => .functionExpression
  | .arrowFunctionExpression .. => .arrowFunctionExpression
  | .classExpression .. => .classExpression
  | .unaryExpression .. => .unaryExpression
  | .updateExpression .. => .updateExpression
  | .binaryExpression .. => .binaryExpression
  | .logicalExpression .. => .logicalExpression
  | .assignmentExpression .. => .assignmentExpression
  | .conditionalExpression .. => .conditionalExpression
  | .callExpression .. => .callExpression
  | .newExpression .. => .newExpression
  | .memberExpression .. => .memberExpression
  | .sequenceExpression .. => .sequenceExpression
  | .spreadElement .. => .spreadElement
  | .objectPattern .. => .objectPattern
  | .arrayPattern .. => .arrayPattern
  | .restElement .. => .restElement
  | .assignmentPattern .. => .assignmentPattern

end ScriptTree

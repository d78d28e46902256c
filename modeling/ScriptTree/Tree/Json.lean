import ScriptTree.Json.Text
import ScriptTree.Tree.Basic

/-! # Trees as JSON

    A node is written as an object with its type, its own fields, its range
    and the comments attached to it, if any; a tree adds to its program what
    was recorded beside it.  Missing parts and holes are `null`. -/

namespace ScriptTree

/-- A span by its ends. -/
def Span.toJson (s : Span) : JsonValue :=
  .object [("start", .integer s.start), ("end", .integer s.stop)]

/-- A line and a column. -/
def LineColumn.toJson (p : LineColumn) : JsonValue :=
  .object [("line", .integer p.line.toNat), ("column", .integer p.column.toNat)]

/-- The file, where it is known. -/
def sourceFileField (file : Option String) : List (String × JsonValue) :=
  JsonValue.optionalField "sourceFile" (file.map .string)

/-- A location by its ends, with its file. -/
def SourceLocation.toJson (l : SourceLocation) : JsonValue :=
  .object ([("start", l.start.toJson), ("end", l.stop.toJson)] ++ sourceFileField l.sourceFile)

/-- A comment. -/
def Comment.toJson (c : Comment) : JsonValue :=
  .object
    ([("type", .string c.kind.name), ("value", .string c.text), ("range", c.span.toJson)]
      ++ JsonValue.optionalField "loc" (c.location.map SourceLocation.toJson))

/-- Comments, where there are any. -/
def commentsField (name : String) (comments : List Comment) : List (String × JsonValue) :=
  if comments.isEmpty then [] else [(name, .array (comments.map Comment.toJson))]

/-- An error as a tree lists it. -/
def SyntaxError.toJson (e : SyntaxError) : JsonValue :=
  .object
    ([("message", .string e.message), ("index", .integer e.index),
      ("lineNumber", .integer e.position.line.toNat),
      ("column", .integer e.position.column.toNat),
      ("type", .string e.kind.name)] ++ sourceFileField e.sourceFile)

/-- A token as a tree lists it. -/
def TreeToken.toJson (t : TreeToken) : JsonValue :=
  .object
    [("type", .string t.kind.name), ("value", .string t.value), ("range", t.span.toJson),
      ("index", .integer t.index)]

/-- The value of a literal. -/
def LiteralValue.toJson : LiteralValue → JsonValue
  | .string value => .string value
  | .number value => .float value
  | .boolean value => .boolean value
  | .null => .null
  | .regExp pattern flags => .object [("pattern", .string pattern), ("flags", .string flags)]

namespace Node

mutual

/-- A node with everything below it. -/
def toJson : Node → JsonValue
  | ⟨shape, span, leading, trailing⟩ =>
    .object
      ([("type", .string shape.type.name)] ++ shapeJson shape ++ [("range", span.toJson)]
        ++ commentsField "leadingComments" leading ++ commentsField "trailingComments" trailing)

/-- The fields of a shape, in their fixed order. -/
def shapeJson : Shape Node → List (String × JsonValue)
  | .program body => [("body", .array (listJson body))]
  | .emptyStatement => []
  | .debuggerStatement => []
  | .expressionStatement expression => [("expression", toJson expression)]
  | .blockStatement body => [("body", .array (listJson body))]
  | .variableDeclaration kind declarations =>
    [("kind", .string kind.spelling), ("declarations", .array (listJson declarations))]
  | .variableDeclarator id init => [("id", toJson id), ("init", optionJson init)]
  | .functionDeclaration id params body =>
    [("id", optionJson id), ("params", .array (listJson params)), ("body", toJson body)]
  | .returnStatement argument => [("argument", optionJson argument)]
  | .ifStatement test consequent alternate =>
    [("test", toJson test), ("consequent", toJson consequent),
      ("alternate", optionJson alternate)]
  | .forStatement init test update body =>
    [("init", optionJson init), ("test", optionJson test), ("update", optionJson update),
      ("body", toJson body)]
  | .forInStatement left right body =>
    [("left", toJson left), ("right", toJson right), ("body", toJson body)]
  | .forOfStatement left right body =>
    [("left", toJson left), ("right", toJson right), ("body", toJson body)]
  | .whileStatement test body => [("test", toJson test), ("body", toJson body)]
  | .doWhileStatement body test => [("body", toJson body), ("test", toJson test)]
  | .breakStatement label => [("label", optionJson label)]
  | .continueStatement label => [("label", optionJson label)]
  | .throwStatement argument => [("argument", toJson argument)]
  | .tryStatement block handler finalizer =>
    [("block", toJson block), ("handler", optionJson handler),
      ("finalizer", optionJson finalizer)]
  | .catchClause param body => [("param", optionJson param), ("body", toJson body)]
  | .switchStatement discriminant cases =>
    [("discriminant", toJson discriminant), ("cases", .array (listJson cases))]
  | .switchCase test consequent =>
    [("test", optionJson test), ("consequent", .array (listJson consequent))]
  | .labeledStatement label body => [("label", toJson label), ("body", toJson body)]
  | .withStatement object body => [("object", toJson object), ("body", toJson body)]
  | .classDeclaration id superClass body =>
    [("id", optionJson id), ("superClass", optionJson superClass), ("body", toJson body)]
  | .classBody body => [("body", .array (listJson body))]
  | .methodDefinition key value kind computed isStatic =>
    [("key", toJson key), ("value", toJson value), ("kind", .string kind.name),
      ("computed", .boolean computed),
      ("static", .boolean isStatic)]
  | .identifier name => [("name", .string name)]
  | .literal value raw => [("value", value.toJson), ("raw", .string raw)]
  | .thisExpression => []
  | .super => []
  | .templateLiteral quasis expressions =>
    [("quasis", .array (listJson quasis)), ("expressions", .array (listJson expressions))]
  | .templateElement raw isTail => [("raw", .string raw), ("tail", .boolean isTail)]
  | .taggedTemplateExpression tag quasi => [("tag", toJson tag), ("quasi", toJson quasi)]
  | .arrayExpression elements => [("elements", .array (holesJson elements))]
  | .objectExpression properties => [("properties", .array (listJson properties))]
  | .property key value kind computed shorthand method =>
    [("key", toJson key), ("value", toJson value), ("kind", .string kind.name),
      ("computed", .boolean computed),
      ("shorthand", .boolean shorthand), ("method", .boolean method)]
  | .functionExpression id params body =>
    [("id", optionJson id), ("params", .array (listJson params)), ("body", toJson body)]
  | .arrowFunctionExpression params body isExpression =>
    [("params", .array (listJson params)), ("body", toJson body),
      ("expression", .boolean isExpression)]
  | .classExpression id superClass body =>
    [("id", optionJson id), ("superClass", optionJson superClass), ("body", toJson body)]
  | .unaryExpression operator argument =>
    [("operator", .string operator.spelling), ("argument", toJson argument),
      ("prefix", .boolean true)]
  | .updateExpression operator argument isPrefix =>
    [("operator", .string operator.spelling), ("argument", toJson argument),
      ("prefix", .boolean isPrefix)]
  | .binaryExpression operator left right =>
    [("operator", .string operator.spelling), ("left", toJson left), ("right", toJson right)]
  | .logicalExpression operator left right =>
    [("operator", .string operator.spelling), ("left", toJson left), ("right", toJson right)]
  | .assignmentExpression operator left right =>
    [("operator", .string operator.spelling), ("left", toJson left), ("right", toJson right)]
  | .conditionalExpression test consequent alternate =>
    [("test", toJson test), ("consequent", toJson consequent), ("alternate", toJson alternate)]
  | .callExpression callee arguments =>
    [("callee", toJson callee), ("arguments", .array (listJson arguments))]
  | .newExpression callee arguments =>
    [("callee", toJson callee), ("arguments", .array (listJson arguments))]
  | .memberExpression object prop computed =>
    [("object", toJson object), ("property", toJson prop), ("computed", .boolean computed)]
  | .sequenceExpression expressions => [("expressions", .array (listJson expressions))]
  | .spreadElement argument => [("argument", toJson argument)]
  | .objectPattern properties => [("properties", .array (listJson properties))]
  | .arrayPattern elements => [("elements", .array (holesJson elements))]
  | .restElement argument => [("argument", toJson argument)]
  | .assignmentPattern left right => [("left", toJson left), ("right", toJson right)]

/-- Nodes of a list. -/
def listJson : List Node → List JsonValue
  | [] => []
  | n :: rest => toJson n :: listJson rest

/-- A node that may be missing. -/
def optionJson : Option Node → JsonValue
  | none => .null
  | some n => toJson n

/-- Nodes of a list with holes. -/
def holesJson : List (Option Node) → List JsonValue
  | [] => []
  | o :: rest => optionJson o :: holesJson rest

end

/-- The fields of a node's object. -/
def jsonFields (n : Node) : List (String × JsonValue) :=
  match toJson n with
  | .object fields => fields
  | _ => []

end Node

namespace SyntaxTree

/-- A tree, as its program with what was recorded beside it. -/
def toJson (t : SyntaxTree) : JsonValue :=
  .object
    (t.program.jsonFields
      ++ [("comments", .array (t.comments.map Comment.toJson)),
          ("tokens", .array (t.tokens.map TreeToken.toJson)),
          ("dependencies", .array (t.references.modules.map .string)),
          ("environments", .array (t.references.environments.map fun e => .string e.name)),
          ("errors", .array (t.errors.map SyntaxError.toJson)),
          ("sourceFile", .string t.sourceFile)])

end SyntaxTree

end ScriptTree

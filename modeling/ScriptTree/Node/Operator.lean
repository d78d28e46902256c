import ScriptTree.Token.Basic

/-! # Operators

    The operators that take one or two operands, how they are written, and
    how tightly those with two operands bind.  Assignment operators are
    punctuators and need no type of their own. -/

namespace ScriptTree

/-- Operators between two operands. -/
inductive BinaryOperator where
  | logicalOr
  | logicalAnd
  | bitOr
  | bitXor
  | bitAnd
  | equal
  | notEqual
  | strictEqual
  | strictNotEqual
  | less
  | greater
  | lessEqual
  | greaterEqual
  | instanceOf
  | memberOf
  | shiftLeft
  | shiftRight
  | shiftRightUnsigned
  | plus
  | minus
  | times
  | divide
  | remainder
  | power
deriving DecidableEq, Repr, Inhabited

namespace BinaryOperator

/-- Binding power; operators that bind tighter have more. -/
def precedence : BinaryOperator → Nat
  | .logicalOr => 1
  | .logicalAnd => 2
  | .bitOr => 3
  | .bitXor => 4
  | .bitAnd => 5
  | .equal | .notEqual | .strictEqual | .strictNotEqual => 6
  | .less | .greater | .lessEqual | .greaterEqual | .instanceOf | .memberOf => 7
  | .shiftLeft | .shiftRight | .shiftRightUnsigned => 8
  | .plus | .minus => 9
  | .times | .divide | .remainder => 10
  | .power => 11

/-- The operator may leave its right operand unevaluated. -/
def isLogical (op : BinaryOperator) : Bool := op == .logicalOr || op == .logicalAnd

/-- How the operator is written. -/
def spelling : BinaryOperator → String
  | .logicalOr => "||"
  | .logicalAnd => "&&"
  | .bitOr => "|"
  | .bitXor => "^"
  | .bitAnd => "&"
  | .equal => "=="
  | .notEqual => "!="
  | .strictEqual => "==="
  | .strictNotEqual => "!=="
  | .less => "<"
  | .greater => ">"
  | .lessEqual => "<="
  | .greaterEqual => ">="
  | .instanceOf => "instanceof"
  | .memberOf => "in"
  | .shiftLeft => "<<"
  | .shiftRight => ">>"
  | .shiftRightUnsigned => ">>>"
  | .plus => "+"
  | .minus => "-"
  | .times => "*"
  | .divide => "/"
  | .remainder => "%"
  | .power => "**"

/-- The operator a token stands for; where `in` belongs to the head of a
    loop it is none. -/
def ofToken? (noIn : Bool) : TokenKind → Option BinaryOperator
  | .punctuator .logicalOr => some .logicalOr
  | .punctuator .logicalAnd => some .logicalAnd
  | .punctuator .bitOr => some .bitOr
  | .punctuator .bitXor => some .bitXor
  | .punctuator .bitAnd => some .bitAnd
  | .punctuator .equal => some .equal
  | .punctuator .notEqual => some .notEqual
  | .punctuator .strictEqual => some .strictEqual
  | .punctuator .strictNotEqual => some .strictNotEqual
  | .punctuator .less => some .less
  | .punctuator .greater => some .greater
  | .punctuator .lessEqual => some .lessEqual
  | .punctuator .greaterEqual => some .greaterEqual
  | .punctuator .shiftLeft => some .shiftLeft
  | .punctuator .shiftRight => some .shiftRight
  | .punctuator .shiftRightUnsigned => some .shiftRightUnsigned
  | .punctuator .plus => some .plus
  | .punctuator .minus => some .minus
  | .punctuator .times => some .times
  | .punctuator .divide => some .divide
  | .punctuator .remainder => some .remainder
  | .punctuator .power => some .power
  | .keyword .instanceofWord => some .instanceOf
  | .keyword .inWord => if noIn then none else some .memberOf
  | _ => none

end BinaryOperator

/-- Operators in front of one operand that leave it as it is. -/
inductive UnaryOperator where
  | logicalNot
  | bitNot
  | plus
  | minus
  | typeOf
  | void
  | delete
deriving DecidableEq, Repr, Inhabited

namespace UnaryOperator

/-- How the operator is written. -/
def spelling : UnaryOperator → String
  | .logicalNot => "!"
  | .bitNot => "~"
  | .plus => "+"
  | .minus => "-"
  | .typeOf => "typeof"
  | .void => "void"
  | .delete => "delete"

/-- The operator a token stands for in front of an operand. -/
def ofToken? : TokenKind → Option UnaryOperator
  | .punctuator .logicalNot => some .logicalNot
  | .punctuator .bitNot => some .bitNot
  | .punctuator .plus => some .plus
  | .punctuator .minus => some .minus
  | .keyword .typeofWord => some .typeOf
  | .keyword .voidWord => some .void
  | .keyword .deleteWord => some .delete
  | _ => none

end UnaryOperator

/-- Operators in front of or behind one operand that store into it. -/
inductive UpdateOperator where
  | increment
  | decrement
deriving DecidableEq, Repr, Inhabited

namespace UpdateOperator

/-- How the operator is written. -/
def spelling : UpdateOperator → String
  | .increment => "++"
  | .decrement => "--"

/-- The operator a token stands for. -/
def ofToken? : TokenKind → Option UpdateOperator
  | .punctuator .increment => some .increment
  | .punctuator .decrement => some .decrement
  | _ => none

end UpdateOperator

end ScriptTree

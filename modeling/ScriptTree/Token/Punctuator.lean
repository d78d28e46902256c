/-! # Punctuators

    Brackets, separators and operators.  The table lists the longer
    spellings first, so that the first entry the text starts with is the
    longest one. -/

namespace ScriptTree

/-- The punctuators. -/
inductive Punctuator where
  | shiftRightUnsignedAssign
  | ellipsis
  | strictEqual
  | strictNotEqual
  | powerAssign
  | shiftLeftAssign
  | shiftRightAssign
  | shiftRightUnsigned
  | arrow
  | equal
  | notEqual
  | lessEqual
  | greaterEqual
  | plusAssign
  | minusAssign
  | timesAssign
  | divideAssign
  | remainderAssign
  | bitAndAssign
  | bitOrAssign
  | bitXorAssign
  | power
  | increment
  | decrement
  | shiftLeft
  | shiftRight
  | logicalAnd
  | logicalOr
  | openBrace
  | closeBrace
  | openParen
  | closeParen
  | openBracket
  | closeBracket
  | semicolon
  | comma
  | dot
  | question
  | colon
  | assign
  | less
  | greater
  | plus
  | minus
  | times
  | divide
  | remainder
  | bitAnd
  | bitOr
  | bitXor
  | logicalNot
  | bitNot
deriving DecidableEq, Repr, Inhabited

namespace Punctuator

/-- All punctuators, longer spellings first. -/
def all : List Punctuator :=
  [.shiftRightUnsignedAssign, .ellipsis, .strictEqual, .strictNotEqual, .powerAssign,
   .shiftLeftAssign, .shiftRightAssign, .shiftRightUnsigned, .arrow, .equal, .notEqual,
   .lessEqual, .greaterEqual, .plusAssign, .minusAssign, .timesAssign, .divideAssign,
   .remainderAssign, .bitAndAssign, .bitOrAssign, .bitXorAssign, .power, .increment,
   .decrement, .shiftLeft, .shiftRight, .logicalAnd, .logicalOr, .openBrace, .closeBrace,
   .openParen, .closeParen, .openBracket, .closeBracket, .semicolon, .comma, .dot,
   .question, .colon, .assign, .less, .greater, .plus, .minus, .times, .divide, .remainder,
   .bitAnd, .bitOr, .bitXor, .logicalNot, .bitNot]

/-- How the punctuator is written. -/
def spelling : Punctuator → String
  | .shiftRightUnsignedAssign => ">>>="
  | .ellipsis => "..."
  | .strictEqual => "==="
  | .strictNotEqual => "!=="
  | .powerAssign => "**="
  | .shiftLeftAssign => "<<="
  | .shiftRightAssign => ">>="
  | .shiftRightUnsigned => ">>>"
  | .arrow => "=>"
  | .equal => "=="
  | .notEqual => "!="
  | .lessEqual => "<="
  | .greaterEqual => ">="
  | .plusAssign => "+="
  | .minusAssign => "-="
  | .timesAssign => "*="
  | .divideAssign => "/="
  | .remainderAssign => "%="
  | .bitAndAssign => "&="
  | .bitOrAssign => "|="
  | .bitXorAssign => "^="
  | .power => "**"
  | .increment => "++"
  | .decrement => "--"
  | .shiftLeft => "<<"
  | .shiftRight => ">>"
  | .logicalAnd => "&&"
  | .logicalOr => "||"
  | .openBrace => "\x7b"
  | .closeBrace => "\x7d"
  | .openParen => "("
  | .closeParen => ")"
  | .openBracket => "["
  | .closeBracket => "]"
  | .semicolon => ";"
  | .comma => ","
  | .dot => "."
  | .question => "?"
  | .colon => ":"
  | .assign => "="
  | .less => "<"
  | .greater => ">"
  | .plus => "+"
  | .minus => "-"
  | .times => "*"
  | .divide => "/"
  | .remainder => "%"
  | .bitAnd => "&"
  | .bitOr => "|"
  | .bitXor => "^"
  | .logicalNot => "!"
  | .bitNot => "~"

/-- The operators that store into their left side. -/
def isAssignment : Punctuator → Bool
  | .shiftRightUnsignedAssign | .powerAssign | .shiftLeftAssign | .shiftRightAssign | .plusAssign
  | .minusAssign | .timesAssign | .divideAssign | .remainderAssign | .bitAndAssign
  | .bitOrAssign | .bitXorAssign | .assign => true
  | _ => false

/-- The longest punctuator a text starts with. -/
def ofText? (text : List Char) : Option Punctuator :=
  all.find? fun p => p.spelling.toList.isPrefixOf text

/-- Reading a spelling gives the punctuator it belongs to. -/
theorem ofText?_spelling (p : Punctuator) : ofText? p.spelling.toList = some p := by
  cases p <;> decide

end Punctuator

end ScriptTree

import ScriptTree.Source.LineIndex

/-! # Syntax errors — what is wrong, and where

    A `Fault` is the cause of an error and carries what its message needs.
    An error also knows its span and its `ErrorKind`: with the scanner at
    the end of the text the program is most likely unfinished, anywhere else
    something unexpected stands there.  Scanning yields diagnostics, which
    have no line and column yet; locating one makes it a `SyntaxError`. -/

namespace ScriptTree

/-- Where the scanner was when the error was noticed. -/
inductive ErrorKind where
  | endOfInput
  | unexpected
deriving DecidableEq, Repr, Inhabited

namespace ErrorKind

/-- The kind's name. -/
def name : ErrorKind → String
  | .endOfInput => "EndOfInput"
  | .unexpected => "Unexpected"

/-- The kind in a sentence. -/
def phrase : ErrorKind → String
  | .endOfInput => "end of input"
  | .unexpected => "unexpected"

/-- The kind for a scanner that is, or is not, at the end of the text. -/
def ofAtEnd (atEnd : Bool) : ErrorKind := if atEnd then .endOfInput else .unexpected

end ErrorKind

/-- The causes of syntax errors. -/
inductive Fault where
  -- found while scanning
  | unexpectedCharacter (c : Char)
  | unterminatedComment
  | unterminatedTemplate
  | unterminatedString
  | unterminatedRegExp
  | badEscape
  | missingDigits (radix : Nat)
  | invalidNumber
  | identifierAfterNumber
  -- found while parsing
  | unexpectedToken (description : String)
  | unexpectedEnd
  | nestingTooDeep
  | moduleItem
  | generatorFunction
  | returnOutsideFunction
  | newlineAfterThrow
  | missingHandler
  | invalidTarget
  | accessorInPattern
deriving DecidableEq, Repr, Inhabited

namespace Fault

/-- What the user is told. -/
def message : Fault → String
  | .unexpectedCharacter c => s!"Unexpected character '{c}'"
  | .unterminatedComment => "Unterminated comment"
  | .unterminatedTemplate => "Unterminated template"
  | .unterminatedString => "Unterminated string constant"
  | .unterminatedRegExp => "Unterminated regular expression"
  | .badEscape => "Bad character escape sequence"
  | .missingDigits radix => s!"Expected number in radix {radix}"
  | .invalidNumber => "Invalid number"
  | .identifierAfterNumber => "Identifier directly after number"
  | .unexpectedToken description => s!"Unexpected {description}"
  | .unexpectedEnd => "Unexpected end of input"
  | .nestingTooDeep => "Nesting too deep"
  | .moduleItem => "'import' and 'export' may appear only with 'sourceType: module'"
  | .generatorFunction => "Generator functions are not supported"
  | .returnOutsideFunction => "'return' outside of function"
  | .newlineAfterThrow => "Illegal newline after throw"
  | .missingHandler => "Missing catch or finally clause"
  | .invalidTarget => "Assigning to rvalue"
  | .accessorInPattern => "Object pattern can't contain getter, setter or method"

/-- Faults that stop a strict parse.  A comment that is still being typed
    does not. -/
def isFatal : Fault → Bool
  | .unterminatedComment => false
  | _ => true

end Fault

/-- A fault found while scanning. -/
structure Diagnostic where
  fault : Fault
  span : Span
  kind : ErrorKind
deriving DecidableEq, Repr, Inhabited

/-- A fault with its line and column, and the file it lies in if known. -/
structure SyntaxError where
  fault : Fault
  span : Span
  kind : ErrorKind
  position : LineColumn
  sourceFile : Option String
deriving DecidableEq, Repr, Inhabited

/-- Look up the line and column of a diagnostic. -/
def Diagnostic.locate (d : Diagnostic) (lines : LineIndex) : SyntaxError :=
  ⟨d.fault, d.span, d.kind, lines.lineColumn d.span.start, none⟩

namespace SyntaxError

/-- What the user is told. -/
def message (e : SyntaxError) : String := e.fault.message

/-- The offset the error points at. -/
def index (e : SyntaxError) : Nat := e.span.start

/-- The error in one line: message, line and column. -/
def display (e : SyntaxError) : String :=
  s!"{e.message} ({e.position.line}:{e.position.column})"

/-- The scanner was at the end of the text. -/
def isEndOfInput (e : SyntaxError) : Bool := e.kind == .endOfInput

end SyntaxError

end ScriptTree

/-! # Reserved words

    The words that are never identifiers.  Words that matter only in some
    places, such as `let`, `of`, `get`, `set` and `static`, are names, and
    the grammar looks at their spelling there. -/

namespace ScriptTree

/-- The reserved words. -/
inductive Keyword where
  | breakWord
  | caseWord
  | catchWord
  | classWord
  | constWord
  | continueWord
  | debuggerWord
  | defaultWord
  | deleteWord
  | doWord
  | elseWord
  | exportWord
  | extendsWord
  | falseWord
  | finallyWord
  | forWord
  | functionWord
  | ifWord
  | importWord
  | inWord
  | instanceofWord
  | newWord
  | nullWord
  | returnWord
  | superWord
  | switchWord
  | thisWord
  | throwWord
  | trueWord
  | tryWord
  | typeofWord
  | varWord
  | voidWord
  | whileWord
  | withWord
deriving DecidableEq, Repr, Inhabited

namespace Keyword

/-- All reserved words, by spelling. -/
def all : List Keyword :=
  [.breakWord, .caseWord, .catchWord, .classWord, .constWord, .continueWord, .debuggerWord,
   .defaultWord, .deleteWord, .doWord, .elseWord, .exportWord, .extendsWord, .falseWord,
   .finallyWord, .forWord, .functionWord, .ifWord, .importWord, .inWord, .instanceofWord,
   .newWord, .nullWord, .returnWord, .superWord, .switchWord, .thisWord, .throwWord,
   .trueWord, .tryWord, .typeofWord, .varWord, .voidWord, .whileWord, .withWord]

/-- How the word is written. -/
def spelling : Keyword → String
  | .breakWord => "break"
  | .caseWord => "case"
  | .catchWord => "catch"
  | .classWord => "class"
  | .constWord => "const"
  | .continueWord => "continue"
  | .debuggerWord => "debugger"
  | .defaultWord => "default"
  | .deleteWord => "delete"
  | .doWord => "do"
  | .elseWord => "else"
  | .exportWord => "export"
  | .extendsWord => "extends"
  | .falseWord => "false"
  | .finallyWord => "finally"
  | .forWord => "for"
  | .functionWord => "function"
  | .ifWord => "if"
  | .importWord => "import"
  | .inWord => "in"
  | .instanceofWord => "instanceof"
  | .newWord => "new"
  | .nullWord => "null"
  | .returnWord => "return"
  | .superWord => "super"
  | .switchWord => "switch"
  | .thisWord => "this"
  | .throwWord => "throw"
  | .trueWord => "true"
  | .tryWord => "try"
  | .typeofWord => "typeof"
  | .varWord => "var"
  | .voidWord => "void"
  | .whileWord => "while"
  | .withWord => "with"

/-- The reserved word with a spelling. -/
def ofSpelling? (word : String) : Option Keyword :=
  all.find? fun k => k.spelling == word

/-- Reading a spelling gives the word it belongs to. -/
theorem ofSpelling?_spelling (k : Keyword) : ofSpelling? k.spelling = some k := by
  cases k <;> decide

end Keyword

end ScriptTree

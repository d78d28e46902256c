import ScriptTree.Grammar.Program
import ScriptTree.Node.Basic
import ScriptTree.Tree.Annotation

/-! # Trees — programs with everything recorded about them

    Making a tree never fails.  The text is parsed strictly; if that ends
    with an error it is parsed again loosely, and the error stays on the
    tree beside whatever the second parse could make of the text. -/

namespace ScriptTree

/-- A program and what was recorded while it was parsed. -/
structure SyntaxTree where
  program : Node
  comments : List Comment
  tokens : List TreeToken
  references : References
  errors : List SyntaxError
  sourceFile : String
deriving Inhabited

namespace SyntaxTree

/-- The statements of the program. -/
def body (t : SyntaxTree) : List Node := t.program.statements?.getD []

/-- Something was wrong with the text. -/
def hasErrors (t : SyntaxTree) : Bool := !t.errors.isEmpty

/-- Put recorded annotations beside a program. -/
def ofAnnotations (options : ParseOptions) (file : String) (program : Node) (a : Annotations) :
    SyntaxTree :=
  ⟨program, a.comments.toList, a.tokens.toList, a.references, a.errors options file, file⟩

/-- The program that is taken where none could be parsed. -/
def emptyProgram (length : Nat) : Node := .bare (.program []) ⟨0, length⟩

/-- The tree of a text. -/
def parse (options : ParseOptions) (text : List Char) (file : String) : SyntaxTree :=
  let lines := LineIndex.ofText text
  let lexemes := Lexeme.ofText text
  let length := Text.byteLength text
  let run (mode : Mode) (a : Annotations) : ParseResult × Annotations :=
    (parseLexemes ⟨mode, lines, Annotations.observer options lines file⟩ lexemes length a).result
  match run .strict .empty with
  | (.tree program, a) => ofAnnotations options file program a
  | (_, a) =>
    match run .loose a with
    | (.tree program, b) => ofAnnotations options file program b
    | (_, b) => ofAnnotations options file (emptyProgram length) b

end SyntaxTree

end ScriptTree

import ScriptTree.Lint.Basic

/-! # Unreachable statements

    In a list of statements nothing behind a `return`, a `throw`, a `break`
    or a `continue` is reached.  Function and variable declarations behind
    one are still of use, since their names are known in the whole list. -/

namespace ScriptTree.Unreachable

/-- The statement passes control on to no other in its list. -/
def endsFlow (n : Node) : Bool :=
  match n.type with
  | .returnStatement => true
  | .throwStatement => true
  | .breakStatement => true
  | .continueStatement => true
  | _ => false

/-- The statement declares names for the whole list. -/
def isHoisted (n : Node) : Bool :=
  match n.type with
  | .functionDeclaration => true
  | .variableDeclaration => true
  | _ => false

/-- What is said about an unreachable statement. -/
def message : String := "Unreachable code."

/-- The statements of a list that are never reached and declare nothing. -/
def deadIn (statements : List Node) : List Node :=
  ((statements.dropWhile fun n => !endsFlow n).drop 1).filter fun n => !isHoisted n

/-- The statements of a block or a case. -/
def listOf (n : Node) : List Node :=
  match n.shape with
  | .blockStatement body => body
  | .switchCase _ consequent => consequent
  | _ => []

/-- The rule that reports unreachable statements. -/
def rule : LintRule where
  name := "no-unreachable"
  types := [.blockStatement, .switchCase]
  severity := .warning
  check _ n := (deadIn (listOf n)).map fun dead => ⟨dead.span, message⟩

end ScriptTree.Unreachable

namespace ScriptTree

/-- The rules that apply where none are chosen. -/
def LintRule.defaults : List LintRule := [Unreachable.rule]

end ScriptTree

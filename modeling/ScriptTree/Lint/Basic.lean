import ScriptTree.Tree.Basic
import Std.Data.HashMap

/-! # Linting — rules that look at single nodes

    A rule names the node types it wants to see and says what is wrong with
    a node.  The rules are sorted by node type once; then one walk over the
    tree shows each node to the rules registered for its type, in the order
    of the rules.  They all report to one context, which knows in whose name. -/

namespace ScriptTree

/-- How bad a finding is. -/
inductive Severity where
  | info
  | warning
  | error
deriving DecidableEq, Repr, Inhabited

namespace Severity

/-- The severity's name. -/
def name : Severity → String
  | .info => "info"
  | .warning => "warning"
  | .error => "error"

/-- A greater rank is worse. -/
def rank : Severity → Nat
  | .info => 0
  | .warning => 1
  | .error => 2

/-- The worse of two severities. -/
def worse (a b : Severity) : Severity := if a.rank < b.rank then b else a

/-- The worst severity in a list. -/
def worst? : List Severity → Option Severity
  | [] => none
  | s :: rest => some (rest.foldl worse s)

end Severity

/-- What a rule has to say about a stretch of the source. -/
structure Remark where
  span : Span
  message : String
deriving DecidableEq, Repr, Inhabited

/-- A remark with the rule it comes from. -/
structure Finding where
  rule : String
  message : String
  span : Span
  severity : Severity
deriving DecidableEq, Repr, Inhabited

/-- A lint rule. -/
structure LintRule where
  name : String
  /-- The node types the rule wants to see; a type that is listed twice is
      shown twice. -/
  types : List NodeType
  severity : Severity
  /-- What the rule says about a node of a tree. -/
  check : SyntaxTree → Node → List Remark

/-- What rules report to: the tree that they look at, the name and the severity
    of the rule that is running, and what was found so far. -/
structure LintContext where
  tree : SyntaxTree
  rule : String
  severity : Severity
  findings : Array Finding

namespace LintContext

/-- No rule is running, and nothing was found in the tree. -/
def ofTree (tree : SyntaxTree) : LintContext := ⟨tree, "", .warning, #[]⟩

/-- Report a remark of the rule that is running. -/
def report (c : LintContext) (remark : Remark) : LintContext :=
  { c with findings := c.findings.push ⟨c.rule, remark.message, remark.span, c.severity⟩ }

/-- Run a rule on a node. -/
def run (c : LintContext) (rule : LintRule) (n : Node) : LintContext :=
  (rule.check c.tree n).foldl report { c with rule := rule.name, severity := rule.severity }

end LintContext

/-- For each node type, the rules that want to see it, in order. -/
abbrev LintTable := Std.HashMap NodeType (Array LintRule)

namespace LintTable

/-- Register a rule for one node type, behind those registered before. -/
def register (table : LintTable) (rule : LintRule) (type : NodeType) : LintTable :=
  table.insert type (table.getD type #[] |>.push rule)

/-- Register rules for all types they list. -/
def ofRules (rules : List LintRule) : LintTable :=
  rules.foldl
    (fun table rule => rule.types.foldl (fun table type => table.register rule type) table)
    ∅

/-- The rules registered for a node type. -/
def rulesFor (table : LintTable) (type : NodeType) : List LintRule :=
  (table.getD type #[]).toList

end LintTable

/-- Show a node to the rules registered for its type. -/
def LintContext.visit (table : LintTable) (c : LintContext) (n : Node) : LintContext :=
  (table.rulesFor n.type).foldl (fun c rule => c.run rule n) c

/-- All findings of rules in a tree, in the order of its nodes. -/
def lint (tree : SyntaxTree) (rules : List LintRule) : List Finding :=
  let table := LintTable.ofRules rules
  (tree.program.walk.foldl (LintContext.visit table) (.ofTree tree)).findings.toList

end ScriptTree

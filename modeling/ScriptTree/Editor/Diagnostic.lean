import ScriptTree.Lint.Unreachable
import ScriptTree.Outline
import ScriptTree.Source.EditorPosition

/-! # What editors are shown

    Errors and findings become diagnostics, outline entries become symbols;
    all spans become ranges of editor positions. -/

namespace ScriptTree

/-- How an editor ranks a diagnostic. -/
inductive EditorSeverity where
  | error
  | warning
  | information
deriving DecidableEq, Repr, Inhabited

/-- The number editors know the severity by. -/
def EditorSeverity.code : EditorSeverity → Nat
  | .error => 1
  | .warning => 2
  | .information => 3

/-- The severity of a finding in an editor. -/
def EditorSeverity.ofSeverity : Severity → EditorSeverity
  | .info => .information
  | .warning => .warning
  | .error => .error

/-- A problem as an editor shows it. -/
structure EditorDiagnostic where
  range : EditorRange
  severity : EditorSeverity
  code : Option String
  source : String
  message : String
  /-- The text has no effect and may be shown faded. -/
  isUnnecessary : Bool
deriving DecidableEq, Repr, Inhabited

namespace EditorDiagnostic

/-- The name diagnostics are signed with. -/
def signature : String := "jsast"

/-- The diagnostic of a syntax error. -/
def ofError (text : List Char) (e : SyntaxError) : EditorDiagnostic :=
  ⟨.ofSpan text e.span, .error, none, signature, e.message, false⟩

/-- The diagnostic of a finding. -/
def ofFinding (text : List Char) (f : Finding) : EditorDiagnostic :=
  ⟨.ofSpan text f.span, .ofSeverity f.severity, some f.rule, signature, f.message,
    f.rule == Unreachable.rule.name⟩

/-- The diagnostics of a tree: its errors, then what the default rules
    find. -/
def ofTree (text : List Char) (tree : SyntaxTree) : List EditorDiagnostic :=
  tree.errors.map (ofError text) ++ (lint tree LintRule.defaults).map (ofFinding text)

end EditorDiagnostic

/-- What an editor shows a symbol as. -/
inductive SymbolKind where
  | classType
  | method
  | function
  | variable
deriving DecidableEq, Repr, Inhabited

namespace SymbolKind

/-- The number editors know the kind by. -/
def code : SymbolKind → Nat
  | .classType => 5
  | .method => 6
  | .function => 12
  | .variable => 13

/-- The kind of an outline entry. -/
def ofOutline : OutlineKind → SymbolKind
  | .function => .function
  | .classType => .classType
  | .method => .method
  | .variable => .variable

end SymbolKind

/-- A declaration as an editor lists it. -/
structure EditorSymbol where
  name : String
  detail : String
  kind : SymbolKind
  range : EditorRange
  selectionRange : EditorRange
  children : List EditorSymbol
deriving Repr, Inhabited

namespace EditorSymbol

mutual

/-- The symbol of an outline entry. -/
def ofItem (text : List Char) : OutlineItem → EditorSymbol
  | ⟨name, kind, detail, span, selection, children⟩ =>
    ⟨name, detail, .ofOutline kind, .ofSpan text span, .ofSpan text selection,
      ofItems text children⟩

/-- The symbols of outline entries. -/
def ofItems (text : List Char) : List OutlineItem → List EditorSymbol
  | [] => []
  | item :: rest => ofItem text item :: ofItems text rest

end

/-- The symbols of a tree. -/
def ofTree (text : List Char) (tree : SyntaxTree) : List EditorSymbol :=
  ofItems text (outline tree)

end EditorSymbol

end ScriptTree

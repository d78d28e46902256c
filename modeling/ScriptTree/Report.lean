import ScriptTree.Lint.Basic

/-! # Reports — errors and findings for a terminal

    A report has a message, a code, a severity where one is known, advice
    where there is some, and a labelled stretch of the text it is shown
    with.  That stretch is kept inside the text, which may be shorter than
    the one that was parsed.  A finding also has a form on one line. -/

namespace ScriptTree

/-- How a report is ranked. -/
inductive ReportSeverity where
  | advice
  | warning
  | error
deriving DecidableEq, Repr, Inhabited

/-- The severity's name. -/
def ReportSeverity.name : ReportSeverity → String
  | .advice => "Advice"
  | .warning => "Warning"
  | .error => "Error"

/-- A stretch of the shown text with a label. -/
structure ReportLabel where
  text : String
  offset : Nat
  length : Nat
deriving DecidableEq, Repr, Inhabited

/-- A report on one problem. -/
structure Report where
  message : String
  code : String
  help : Option String
  severity : Option ReportSeverity
  label : ReportLabel
deriving DecidableEq, Repr, Inhabited

/-- Keep a span inside a text of so many bytes. -/
def Span.clamp (s : Span) (length : Nat) : Span :=
  let start := min s.start length
  ⟨start, max start (min s.stop length)⟩

namespace ReportLabel

/-- Label a span, kept inside a text of so many bytes. -/
def ofSpan (text : String) (s : Span) (length : Nat) : ReportLabel :=
  let kept := s.clamp length
  ⟨text, kept.start, kept.length⟩

end ReportLabel

namespace Report

/-- What to say about an error at the end of the text. -/
def unfinishedHelp : String := "the file ends before this construct is complete"

/-- The report on a syntax error, shown with a text of so many bytes. -/
def ofError (e : SyntaxError) (length : Nat) : Report :=
  ⟨e.message, "jsast::syntax", if e.isEndOfInput then some unfinishedHelp else none, none,
    .ofSpan "here" e.span length⟩

/-- How a finding ranks in a report. -/
def rankOf : Severity → ReportSeverity
  | .info => .advice
  | .warning => .warning
  | .error => .error

/-- The report on a finding, shown with a text of so many bytes. -/
def ofFinding (f : Finding) (length : Nat) : Report :=
  ⟨f.message, f.rule, none, some (rankOf f.severity), .ofSpan f.rule f.span length⟩

end Report

/-- A finding on one line: file, line and column from one, severity, message
    and rule. -/
def Finding.line (f : Finding) (file : String) (lines : LineIndex) : String :=
  let place := lines.lineColumn f.span.start
  s!"{file}:{place.line}:{place.column + 1}: {f.severity.name}: {f.message} [{f.rule}]"

end ScriptTree

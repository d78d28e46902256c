import ScriptTree.Source.LineIndex

/-! # Comments

    A comment keeps its text without the delimiters, the span with them,
    and, where the tree asks for locations, the lines and columns of its
    ends. -/

namespace ScriptTree

/-- How a comment is delimited. -/
inductive CommentKind where
  | block
  | line
deriving DecidableEq, Repr, Inhabited

/-- The kind's name. -/
def CommentKind.name : CommentKind → String
  | .block => "Block"
  | .line => "Line"

/-- A comment as it was read. -/
structure Comment where
  kind : CommentKind
  /-- The text between the delimiters. -/
  text : String
  /-- The span with the delimiters. -/
  span : Span
  location : Option SourceLocation
deriving DecidableEq, Repr, Inhabited

end ScriptTree

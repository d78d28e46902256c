import ScriptTree.Node.Basic
import ScriptTree.SyntaxError

/-! # Observers — who watches a parse

    While a program is parsed an observer is told of every token taken,
    every comment passed, every node opened and closed, and every error.  It
    answers in two places: the comments it gives when a node is opened lead
    the node, and those it gives when a node is closed trail it.  What it
    remembers is a value of type `σ`.  One observer remembers nothing, and one
    writes down, in order, everything it is told. -/

namespace ScriptTree

/-- How a memory of type `σ` follows what happens in a parse. -/
structure Observer (σ : Type) where
  /-- A token was taken; the end of input never is. -/
  token : Token → σ → σ
  /-- A comment was passed, before the token it stands in front of. -/
  comment : Comment → σ → σ
  /-- A node was opened at an offset; the comments lead it. -/
  opened : Nat → σ → List Comment × σ
  /-- A node was closed; the comments trail it. -/
  closed : Node → σ → List Comment × σ
  /-- An error was met, which did or did not end the parse. -/
  error : SyntaxError → Bool → σ → σ

/-- The observer that remembers nothing and attaches no comment. -/
def Observer.silent : Observer Unit where
  token _ _ := ()
  comment _ _ := ()
  opened _ _ := ([], ())
  closed _ _ := ([], ())
  error _ _ _ := ()

/-- One thing an observer is told. -/
inductive Event where
  | token (span : Span)
  | comment (kind : CommentKind) (span : Span)
  | opened (offset : Nat)
  | closed (type : NodeType) (span : Span)
  | error (error : SyntaxError) (fatal : Bool)
deriving DecidableEq, Repr, Inhabited

/-- The observer that writes down what it is told and attaches no comment. -/
def Event.recorder : Observer (Array Event) where
  token t events := events.push (.token t.span)
  comment c events := events.push (.comment c.kind c.span)
  opened offset events := ([], events.push (.opened offset))
  closed n events := ([], events.push (.closed n.type n.span))
  error e fatal events := events.push (.error e fatal)

end ScriptTree

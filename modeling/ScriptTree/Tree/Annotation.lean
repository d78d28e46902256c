import ScriptTree.Observer
import ScriptTree.Token.Class
import ScriptTree.Tree.Dependency

/-! # Annotations — what is recorded beside the tree

    While a program is parsed its tokens and comments are recorded, comments
    are attached to nodes, and the modules it loads and its errors are
    gathered.

    Comments are attached by two cursors that only move forward.  A node
    that is opened is led by the comments which end before it and which no
    earlier node was led by.  A node that is closed is trailed by the
    comments which have come up since the last node was closed and which
    start behind it; the others trail nothing.

    The first fatal error forgets tokens, comments and cursors, since the
    text is then read again from the start; it does so once only. -/

namespace ScriptTree

/-- What a tree is to record. -/
structure ParseOptions where
  /-- Comments know their lines and columns. -/
  locations : Bool := true
  /-- Comments and errors know the file they lie in. -/
  sourceFile : Bool := true
deriving DecidableEq, Repr, Inhabited

/-- A token as a tree records it. -/
structure TreeToken where
  kind : TokenClass
  value : String
  span : Span
  index : Nat
deriving DecidableEq, Repr, Inhabited

/-- What was recorded so far. -/
structure Annotations where
  tokens : Array TreeToken
  comments : Array Comment
  /-- How many comments were given to nodes they lead. -/
  leadingCursor : Nat
  /-- How many comments were considered for nodes they trail. -/
  trailingCursor : Nat
  references : References
  /-- The error that ended the first parse. -/
  failure : Option SyntaxError
  /-- All other errors. -/
  diagnostics : Array SyntaxError
  /-- A fatal error still makes everything be read again. -/
  awaitsFailure : Bool
deriving DecidableEq, Repr, Inhabited

namespace Annotations

/-- Nothing recorded yet. -/
def empty : Annotations := ⟨#[], #[], 0, 0, .none, none, #[], true⟩

/-- The text a tree records for a token. -/
def tokenValue (t : Token) : String :=
  match t.kind with
  | .regExp pattern flags => s!"/{pattern}/{flags}"
  | _ => t.text

/-- Record a token under its class. -/
def addToken (t : Token) (a : Annotations) : Annotations :=
  match TokenClass.ofKind? t.kind with
  | some kind => { a with tokens := a.tokens.push ⟨kind, tokenValue t, t.span, a.tokens.size⟩ }
  | none => a

/-- Record a comment, with its location if asked for. -/
def addComment (options : ParseOptions) (lines : LineIndex) (file : String) (c : Comment)
    (a : Annotations) : Annotations :=
  let tag := if options.sourceFile then some file else none
  let located :=
    if options.locations then { c with location := some (lines.location c.span tag) } else c
  { a with comments := a.comments.push located }

/-- The comments from the leading cursor on that end at or before an
    offset. -/
def leadingAt (a : Annotations) (offset : Nat) : List Comment :=
  (a.comments.extract a.leadingCursor).toList.takeWhile fun c => c.span.stop ≤ offset

/-- Give a node that is opened the comments that lead it. -/
def openNode (offset : Nat) (a : Annotations) : List Comment × Annotations :=
  let leading := a.leadingAt offset
  (leading, { a with leadingCursor := a.leadingCursor + leading.length })

/-- The comments from the trailing cursor on that start at or behind an
    offset. -/
def trailingAt (a : Annotations) (offset : Nat) : List Comment :=
  (a.comments.extract a.trailingCursor).toList.filter fun c => c.span.start ≥ offset

/-- Give a node that is closed the comments that trail it, and note which
    modules it mentions. -/
def closeNode (n : Node) (a : Annotations) : List Comment × Annotations :=
  (a.trailingAt n.span.stop,
    { a with trailingCursor := a.comments.size, references := a.references.gather n })

/-- Forget what is read again. -/
def forget (a : Annotations) : Annotations :=
  { a with
    tokens := #[], comments := #[], leadingCursor := 0, trailingCursor := 0,
    awaitsFailure := false }

/-- Record an error. -/
def addError (e : SyntaxError) (fatal : Bool) (a : Annotations) : Annotations :=
  if !fatal then { a with diagnostics := a.diagnostics.push e }
  else
    let a := if a.awaitsFailure then a.forget else a
    match a.failure with
    | none => { a with failure := some e }
    | some _ => { a with diagnostics := a.diagnostics.push e }

/-- The observer that records annotations. -/
def observer (options : ParseOptions) (lines : LineIndex) (file : String) :
    Observer Annotations where
  token := addToken
  comment := addComment options lines file
  opened := openNode
  closed := closeNode
  error := addError

/-- Errors without those that repeat the place and message of an earlier
    one. -/
def withoutRepeats (seen : List (Nat × String)) : List SyntaxError → List SyntaxError
  | [] => []
  | e :: rest =>
    if seen.contains (e.index, e.message) then withoutRepeats seen rest
    else e :: withoutRepeats ((e.index, e.message) :: seen) rest

/-- The errors for the tree: the failure, then the others. -/
def errors (options : ParseOptions) (file : String) (a : Annotations) : List SyntaxError :=
  let all := withoutRepeats [] (a.failure.toList ++ a.diagnostics.toList)
  if options.sourceFile then all.map fun e => { e with sourceFile := some file } else all

end Annotations

end ScriptTree

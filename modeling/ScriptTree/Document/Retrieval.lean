import ScriptTree.Document.Basic

/-! # Retrieving the tree of a document

    The stored text is read, the tree is looked up, and if none is kept the
    text is parsed and the tree kept.  Each step is one access to what
    documents share, so that what other operations do in between is seen. -/

namespace ScriptTree

/-- A tree with the text it was asked for with. -/
structure DocumentTree where
  parsed : ParsedTree
  text : String
deriving Inhabited

/-- How far a retrieval has come. -/
inductive Retrieval where
  /-- The text is still to be read. -/
  | asked (uri : Uri)
  /-- The tree is still to be looked up. -/
  | read (uri : Uri) (text : String)
  /-- The text is still to be parsed. -/
  | missed (fetch : PendingFetch) (text : String)
  /-- Nothing is left to do; there is no tree for a document that is not
      open. -/
  | done (result : Option DocumentTree)
deriving Inhabited

namespace Retrieval

/-- Take the next step. -/
def step (d : OpenDocuments) : Retrieval → Retrieval × OpenDocuments
  | .asked uri =>
    match d.get? uri with
    | none => (.done none, d)
    | some document => (.read uri document.text, d)
  | .read uri text =>
    match d.workspace.lookup (FileMetadata.key (some (.ofUri uri))) with
    | (.found tree, workspace) => (.done (some ⟨tree, text⟩), { d with workspace })
    | (.missing fetch, workspace) => (.missed fetch text, { d with workspace })
  | .missed fetch text =>
    let (tree, workspace) := d.workspace.conclude fetch text
    (.done (some ⟨tree, text⟩), { d with workspace })
  | .done result => (.done result, d)

/-- How many steps are left at most. -/
def stepsLeft : Retrieval → Nat
  | .asked _ => 3
  | .read _ _ => 2
  | .missed _ _ => 1
  | .done _ => 0

/-- Take so many steps. -/
def steps (d : OpenDocuments) : Nat → Retrieval → Retrieval × OpenDocuments
  | 0, r => (r, d)
  | n + 1, r =>
    let (r, d) := r.step d
    steps d n r

/-- What a retrieval has found. -/
def result? : Retrieval → Option DocumentTree
  | .done result => result
  | _ => none

end Retrieval

namespace OpenDocuments

/-- The tree of a document that is open, with its text. -/
def tree? (d : OpenDocuments) (uri : Uri) : Option DocumentTree × OpenDocuments :=
  let start := Retrieval.asked uri
  let (r, d) := start.steps d start.stepsLeft
  (r.result?, d)

end OpenDocuments

end ScriptTree

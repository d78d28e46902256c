import ScriptTree.Workspace.Basic

/-! # Open documents

    The texts an editor has open, beside the workspace that keeps their
    trees.  Opening, changing and closing a document each take several
    accesses to what is shared; the accesses of operations that overlap may
    alternate.  A text is stored before the workspace hears of the change,
    so that a tree of the former text is forgotten by what follows. -/

namespace ScriptTree

/-- The text of a document and the version an editor gave it. -/
structure OpenDocument where
  text : String
  version : Int
deriving DecidableEq, Repr, Inhabited

/-- The documents that are open, and the workspace. -/
structure OpenDocuments where
  documents : Std.HashMap Uri OpenDocument
  workspace : Workspace

/-- One access to what documents share. -/
inductive DocumentAccess where
  | store (uri : Uri) (document : OpenDocument)
  | remove (uri : Uri)
  | inputChanged
  | modelChanging (uri : Uri)
  | invalidate (uri : Uri)
deriving Repr, Inhabited

namespace DocumentAccess

/-- The accesses of opening a document: an editor turns to it and loads its
    text. -/
def opening (uri : Uri) (document : OpenDocument) : List DocumentAccess :=
  [.store uri document, .inputChanged, .modelChanging uri]

/-- The accesses of changing a document. -/
def changing (uri : Uri) (document : OpenDocument) : List DocumentAccess :=
  [.store uri document, .modelChanging uri]

/-- The accesses of closing a document. -/
def closing (uri : Uri) : List DocumentAccess := [.remove uri, .invalidate uri]

end DocumentAccess

namespace OpenDocuments

/-- No documents, and a workspace without trees. -/
def ofSettings (settings : WorkspaceSettings) : OpenDocuments := ⟨∅, .ofSettings settings⟩

/-- Make a workspace for documents of which none is open yet. -/
def create? (settings : WorkspaceSettings) : Option OpenDocuments :=
  (Workspace.create? settings).map fun workspace => ⟨∅, workspace⟩

/-- The document that is open under an URI. -/
def get? (d : OpenDocuments) (uri : Uri) : Option OpenDocument := d.documents[uri]?

/-- Make one access. -/
def perform (d : OpenDocuments) : DocumentAccess → OpenDocuments
  | .store uri document => { d with documents := d.documents.insert uri document }
  | .remove uri => { d with documents := d.documents.erase uri }
  | .inputChanged => { d with workspace := d.workspace.inputChanged }
  | .modelChanging uri =>
    { d with workspace := d.workspace.modelChanging (some (.ofUri uri)) }
  | .invalidate uri => { d with workspace := (d.workspace.invalidate (some (.ofUri uri))).2 }

/-- Make accesses one after another. -/
def performAll (d : OpenDocuments) (accesses : List DocumentAccess) : OpenDocuments :=
  accesses.foldl perform d

/-- Open a document. -/
def openDocument (d : OpenDocuments) (uri : Uri) (document : OpenDocument) : OpenDocuments :=
  d.performAll (DocumentAccess.opening uri document)

/-- Change the text of a document. -/
def changeDocument (d : OpenDocuments) (uri : Uri) (document : OpenDocument) : OpenDocuments :=
  d.performAll (DocumentAccess.changing uri document)

/-- Close a document. -/
def closeDocument (d : OpenDocuments) (uri : Uri) : OpenDocuments :=
  d.performAll (DocumentAccess.closing uri)

/-- Files have changed on disk; returns those that are open, in order. -/
def filesChanged (d : OpenDocuments) (uris : List Uri) : List Uri × OpenDocuments :=
  (uris.filter d.documents.contains,
    { d with workspace := d.workspace.filesChanged .changed (uris.map .ofUri) })

end OpenDocuments

end ScriptTree

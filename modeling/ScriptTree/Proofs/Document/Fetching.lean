import ScriptTree.Document.Retrieval
import ScriptTree.Proofs.Workspace.Rightness

/-! # What accesses do to documents

    Storing and removing change one document.  Asking for the tree of a document that
    is open retrieves the tree of its text, if nothing comes in between; no document
    changes by that. -/

namespace ScriptTree.OpenDocuments

variable {d : OpenDocuments} {uri : Uri} {document : OpenDocument}

/-- A document is stored. -/
theorem get?_store (v : Uri) :
    (d.perform (.store uri document)).get? v = if uri = v then some document else d.get? v := by
  simp [perform, get?, Std.HashMap.getElem?_insert]

/-- A document is removed. -/
theorem get?_remove (v : Uri) :
    (d.perform (.remove uri)).get? v = if uri = v then none else d.get? v := by
  simp [perform, get?, Std.HashMap.getElem?_erase]

/-- A document is known if it is open. -/
theorem contains_documents (v : Uri) : d.documents.contains v = (d.get? v).isSome := by
  rw [get?, Std.HashMap.isSome_getElem?_eq_contains]

/-- The documents with the workspace behind a retrieval of a tree. -/
def fetched (d : OpenDocuments) (uri : Uri) (text : String) : OpenDocuments :=
  { d with workspace := (d.workspace.retrieve uri.text text).2 }

/-- The tree that is retrieved for a text, with the text. -/
def treeOf (d : OpenDocuments) (uri : Uri) (text : String) : DocumentTree :=
  ⟨(d.workspace.retrieve uri.text text).1, text⟩

/-- A retrieval does not touch the documents. -/
theorem get?_fetched (text : String) (v : Uri) : (d.fetched uri text).get? v = d.get? v := rfl

/-- Where no tree is kept, the tree of the text is retrieved, and again for another
    text. -/
theorem treeOf_of_absent (orderly : d.workspace.Orderly)
    (absent : d.workspace.trees.peek? uri.text = none) (text other : String) :
    (d.treeOf uri text).parsed.tree =
        SyntaxTree.parse d.workspace.settings.options text.toList uri.text ∧
      ((d.fetched uri text).treeOf uri other).parsed = (d.treeOf uri text).parsed := by
  obtain ⟨parse, after, kept⟩ := Workspace.retrieve_of_absent orderly absent text
  exact ⟨parse, Workspace.retrieve_of_kept after kept⟩

/-- The first step reads the text of a document that is open. -/
theorem step_asked_of_open (there : d.get? uri = some document) :
    (Retrieval.asked uri).step d = (.read uri document.text, d) := by
  rw [Retrieval.step, there]

/-- Of a document that is closed there is none. -/
theorem step_asked_of_closed (closed : d.get? uri = none) :
    (Retrieval.asked uri).step d = (.done none, d) := by
  rw [Retrieval.step, closed]

/-- A retrieval that nothing interrupts has come to its end. -/
theorem steps_asked_of_open (there : d.get? uri = some document) :
    (Retrieval.asked uri).steps d 3 =
      (.done (some (d.treeOf uri document.text)), d.fetched uri document.text) := by
  rw [Retrieval.steps, step_asked_of_open there]
  simp only [Retrieval.steps, Retrieval.step, FileMetadata.key_ofUri, treeOf, fetched,
    Workspace.retrieve]
  cases d.workspace.lookup uri.text with
  | mk answer w => cases answer <;> rfl

/-- A document that is closed has no tree. -/
theorem steps_asked_of_closed (closed : d.get? uri = none) :
    (Retrieval.asked uri).steps d 3 = (.done none, d) := by
  rw [Retrieval.steps, step_asked_of_closed closed]
  rfl

/-- The tree of an open document is retrieved for its text. -/
theorem tree?_of_open (there : d.get? uri = some document) :
    d.tree? uri = (some (d.treeOf uri document.text), d.fetched uri document.text) := by
  rw [tree?, Retrieval.stepsLeft, steps_asked_of_open there]
  rfl

/-- There is none of a closed one. -/
theorem tree?_of_closed (closed : d.get? uri = none) : d.tree? uri = (none, d) := by
  rw [tree?, Retrieval.stepsLeft, steps_asked_of_closed closed]
  rfl

end ScriptTree.OpenDocuments

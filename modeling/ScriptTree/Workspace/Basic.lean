import ScriptTree.Cache.Recency
import ScriptTree.File.Metadata
import ScriptTree.Tree.Basic

/-! # Workspaces — one tree per file

    A workspace keeps the trees used last under the keys of their files.
    Editors tell it what happens to the files, and it forgets the trees that
    are no longer right.

    Every event that makes the tree of a key wrong raises the generation of
    that key, whether a tree is kept or not.  A tree whose text was fetched
    while the generation was raised is handed out but not kept.

    A tree is fetched in two accesses to the workspace.  `lookup` finds the
    tree, or remembers the generation of its key; then the text is read; and
    `conclude` parses it and keeps the tree if the generation is still the
    same.  Between the two accesses other fetches and events may come. -/

namespace ScriptTree

/-- A tree with the number of the parse that made it; no two parses of a
    workspace have the same number. -/
structure ParsedTree where
  serial : Nat
  tree : SyntaxTree
deriving Inhabited

/-- How a workspace works. -/
structure WorkspaceSettings where
  /-- How many trees are kept; at least one is. -/
  capacity : Nat
  /-- The content type of the files whose changes count. -/
  scriptType : String
  options : ParseOptions
deriving DecidableEq, Repr, Inhabited

/-- Ten trees of scripts, with all that a tree can record. -/
def WorkspaceSettings.default : WorkspaceSettings := ⟨10, ContentType.javaScript, {}⟩

/-- What happened to files on disk. -/
inductive FileEventKind where
  | created
  | changed
  | deleted
deriving DecidableEq, Repr, Inhabited

/-- A measured activity. -/
structure Timing where
  category : String
  operation : String
  contentType : String
deriving DecidableEq, Repr, Inhabited

/-- How a parse is measured. -/
def Timing.parse : Timing := ⟨"language tools", "parse", ContentType.javaScript⟩

/-- The trees that are kept, and what is known of pending changes. -/
structure Workspace where
  settings : WorkspaceSettings
  trees : RecencyCache String ParsedTree
  /-- An editor has turned to another input and is still loading it. -/
  loadsInput : Bool
  /-- How often the tree of a key was made wrong.  Numbers of 64 bits are kept
      here; each event adds one, and no run has `2 ^ 64` events, so the numbers
      never wrap around and are those without a limit. -/
  generations : Std.HashMap String Nat
  /-- How many texts were parsed. -/
  parses : Nat

namespace Workspace

/-- The workspace without trees. -/
def ofSettings (settings : WorkspaceSettings) : Workspace :=
  ⟨settings, .empty settings.capacity, false, ∅, 0⟩

/-- Make a workspace, if its trees can be given room. -/
def create? (settings : WorkspaceSettings) : Option Workspace :=
  (RecencyCache.create? settings.capacity).map fun trees => ⟨settings, trees, false, ∅, 0⟩

/-- How often the tree of a key was made wrong. -/
def generation (w : Workspace) (key : String) : Nat := w.generations.getD key 0

/-- What was measured so far. -/
def timings (w : Workspace) : List Timing := List.replicate w.parses .parse

/-- The tree kept for a file; looking is no use of it. -/
def cached? (w : Workspace) (file : Option FileMetadata) : Option ParsedTree :=
  w.trees.peek? (FileMetadata.key file)

/-- Forget the tree of a key and raise its generation; tells whether there
    was a tree. -/
def invalidateKey (w : Workspace) (key : String) : Bool × Workspace :=
  let (removed, trees) := w.trees.erase key
  (removed.isSome,
    { w with trees, generations := w.generations.insert key (w.generation key + 1) })

/-- Forget the tree of a file; tells whether there was one. -/
def invalidate (w : Workspace) (file : Option FileMetadata) : Bool × Workspace :=
  w.invalidateKey (FileMetadata.key file)

/-- An editor has turned to another input. -/
def inputChanged (w : Workspace) : Workspace := { w with loadsInput := true }

/-- The text of a file is about to change in an editor.  The first such
    event after a change of input comes from loading it and changes
    nothing. -/
def modelChanging (w : Workspace) (file : Option FileMetadata) : Workspace :=
  if w.loadsInput then { w with loadsInput := false } else (w.invalidate file).2

/-- The content of a file on disk has changed; only scripts count. -/
def contentChanged (w : Workspace) (file : FileMetadata) : Workspace :=
  if file.contentType == some w.settings.scriptType then (w.invalidate (some file)).2 else w

/-- Something happened to files on disk; only changes of content count. -/
def filesChanged (w : Workspace) (kind : FileEventKind) (files : List FileMetadata) : Workspace :=
  match kind with
  | .changed => files.foldl contentChanged w
  | .created => w
  | .deleted => w

end Workspace

/-! ## Fetching trees -/

/-- A fetch whose text is being read. -/
structure PendingFetch where
  key : String
  /-- The generation of the key when it was looked up. -/
  generation : Nat
deriving DecidableEq, Repr, Inhabited

/-- What a lookup finds. -/
inductive Lookup where
  | found (tree : ParsedTree)
  | missing (fetch : PendingFetch)
deriving Inhabited

namespace Workspace

/-- Look for the tree of a key; finding it is a use of it. -/
def lookup (w : Workspace) (key : String) : Lookup × Workspace :=
  match w.trees.get? key with
  | (some tree, trees) => (.found tree, { w with trees })
  | (none, trees) => (.missing ⟨key, w.generation key⟩, { w with trees })

/-- Parse a text under a key. -/
def parseText (w : Workspace) (key text : String) : ParsedTree × Workspace :=
  (⟨w.parses, SyntaxTree.parse w.settings.options text.toList key⟩,
    { w with parses := w.parses + 1 })

/-- Keep a tree, unless its key was invalidated since it was looked up. -/
def keep (w : Workspace) (fetch : PendingFetch) (tree : ParsedTree) : Workspace :=
  if w.generation fetch.key == fetch.generation then
    { w with trees := (w.trees.put fetch.key tree).2 }
  else w

/-- Parse the text that was read and keep the tree, if that is still right. -/
def conclude (w : Workspace) (fetch : PendingFetch) (text : String) : ParsedTree × Workspace :=
  let (tree, w) := w.parseText fetch.key text
  (tree, w.keep fetch tree)

/-- The tree of a file, with its text as far as it can be read. -/
def fetch (w : Workspace) (file : Option FileMetadata) (text : Except FetchError String) :
    Except FetchError ParsedTree × Workspace :=
  match w.lookup (FileMetadata.key file) with
  | (.found tree, w) => (.ok tree, w)
  | (.missing pending, w) =>
    match text with
    | .error e => (.error e, w)
    | .ok text =>
      let (tree, w) := w.conclude pending text
      (.ok tree, w)

/-- The tree of a file in memory, whose text is asked for only if no tree is
    kept. -/
def fetchFrom (w : Workspace) (file : MemoryFile) :
    Except FetchError ParsedTree × MemoryFile × Workspace :=
  match w.lookup (FileMetadata.key file.metadata) with
  | (.found tree, w) => (.ok tree, file, w)
  | (.missing pending, w) =>
    match file.read with
    | (.error e, file) => (.error e, file, w)
    | (.ok text, file) =>
      let (tree, w) := w.conclude pending text
      (.ok tree, file, w)

end Workspace

end ScriptTree

import ScriptTree.Server.Handler

/-! # The language server

    The server starts when it is asked what it can do and stops when it is
    asked to shut down.  In between it keeps the texts of open documents,
    publishes what is wrong with them whenever they change, and answers
    requests for symbols. -/

namespace ScriptTree

/-- How far a server has come in its life. -/
inductive ServerPhase where
  | waiting
  | serving
  | stopped
deriving DecidableEq, Repr, Inhabited

/-- A language server. -/
structure Server where
  phase : ServerPhase
  documents : OpenDocuments

/-- What a message makes a server say. -/
structure ServerAnswer where
  /-- The reply to a request. -/
  reply : Option ServerReply
  /-- What is sent beside it, in order. -/
  sent : List ServerNotice
deriving Inhabited

namespace Server

/-- A server that was not asked to start. -/
def ofSettings (settings : WorkspaceSettings) : Server := ⟨.waiting, .ofSettings settings⟩

/-- Make a server, if its trees can be given room. -/
def create? (settings : WorkspaceSettings) : Option Server :=
  (OpenDocuments.create? settings).map fun documents => ⟨.waiting, documents⟩

/-- What the server logs once an editor is ready. -/
def greeting : String := "jsast LSP initialized"

/-- Run handlers; there is no reply. -/
def handleWith (s : Server) (handlers : List Handler) : ServerAnswer × Server :=
  let (documents, sent) := Handler.runAll s.documents handlers
  (⟨none, sent⟩, { s with documents })

/-- The documents among files on disk whose content has changed. -/
def changedUris (changes : List (Uri × FileEventKind)) : List Uri :=
  changes.filterMap fun (uri, kind) => if kind == .changed then some uri else none

/-- Handle a message while the server is serving. -/
def serve (s : Server) : ClientMessage → ServerAnswer × Server
  | .initializeRequest => (⟨some (.refused .invalidRequest), []⟩, s)
  | .initialized => (⟨none, [.log greeting]⟩, s)
  | .shutdownRequest => (⟨some .acknowledged, []⟩, { s with phase := .stopped })
  | .opened uri document => s.handleWith [.opened uri document]
  | .changed uri texts version => s.handleWith [.changed uri texts version]
  | .closed uri => s.handleWith [.closed uri]
  | .watched changes =>
    let (affected, documents) := s.documents.filesChanged (changedUris changes)
    handleWith { s with documents } (affected.map .analyse)
  | .symbolsRequest uri =>
    let (found, documents) := s.documents.tree? uri
    let symbols := found.map fun f => EditorSymbol.ofTree f.text.toList f.parsed.tree
    (⟨some (.symbols symbols), []⟩, { s with documents })

/-- Refuse a request; all else is ignored. -/
def refuse (s : Server) (error : ProtocolError) (m : ClientMessage) : ServerAnswer × Server :=
  (⟨if m.isRequest then some (.refused error) else none, []⟩, s)

/-- Handle a message. -/
def handle (s : Server) (m : ClientMessage) : ServerAnswer × Server :=
  match s.phase with
  | .waiting =>
    match m with
    | .initializeRequest => (⟨some (.description .current), []⟩, { s with phase := .serving })
    | m => s.refuse .notInitialized m
  | .serving => s.serve m
  | .stopped => s.refuse .invalidRequest m

end Server

end ScriptTree

import ScriptTree.Document.Basic
import ScriptTree.Document.Retrieval
import ScriptTree.Editor.Diagnostic

/-! # Handlers — what the server is told, and what it does about a document

    Editors send messages, and the server answers and tells them of faults.

    A handler makes accesses to the open documents and then analyses one of
    them: it retrieves the tree, reads the version of the document, and
    publishes what is wrong with it.  Every step is one access, so that
    handlers which run at the same time may alternate after each step. -/

namespace ScriptTree

/-! ## Messages -/

/-- A message from an editor. -/
inductive ClientMessage where
  /-- Asks what the server can do, once, before all else. -/
  | initializeRequest
  | initialized
  | shutdownRequest
  | opened (uri : Uri) (document : OpenDocument)
  /-- Carries whole texts; the last one counts. -/
  | changed (uri : Uri) (texts : List String) (version : Int)
  | closed (uri : Uri)
  /-- Something happened to files on disk. -/
  | watched (changes : List (Uri × FileEventKind))
  /-- Asks for the symbols of a document. -/
  | symbolsRequest (uri : Uri)
deriving Repr, Inhabited

/-- The message asks for a reply. -/
def ClientMessage.isRequest : ClientMessage → Bool
  | .initializeRequest => true
  | .shutdownRequest => true
  | .symbolsRequest _ => true
  | _ => false

/-- Something the server tells an editor unasked. -/
inductive ServerNotice where
  /-- All that is wrong with a document now. -/
  | publish (uri : Uri) (diagnostics : List EditorDiagnostic) (version : Option Int)
  /-- A message for the log. -/
  | log (message : String)
deriving DecidableEq, Repr, Inhabited

/-- Why a request is refused. -/
inductive ProtocolError where
  /-- The server was not asked to start. -/
  | notInitialized
  /-- The request does not fit the state of the server. -/
  | invalidRequest
deriving DecidableEq, Repr, Inhabited

/-- The number the protocol gives the error. -/
def ProtocolError.code : ProtocolError → Int
  | .notInitialized => -32002
  | .invalidRequest => -32600

/-- The error's text. -/
def ProtocolError.message : ProtocolError → String
  | .notInitialized => "Server not initialized"
  | .invalidRequest => "Invalid request"

/-- What a server can do, and what it is called. -/
structure ServerDescription where
  /-- It answers requests for symbols. -/
  providesSymbols : Bool
  /-- How texts are sent: 1 for whole texts. -/
  synchronization : Nat
  name : String
  version : String
deriving DecidableEq, Repr, Inhabited

/-- This server. -/
def ServerDescription.current : ServerDescription := ⟨true, 1, "jsast-lsp", "0.1.0"⟩

/-- What the server replies to a request. -/
inductive ServerReply where
  | description (description : ServerDescription)
  | acknowledged
  /-- The symbols of a document; none for a document that is not open. -/
  | symbols (symbols : Option (List EditorSymbol))
  | refused (error : ProtocolError)
deriving Repr, Inhabited

/-! ## Handlers -/

/-- How far the analysis of a document has come. -/
inductive Analysis where
  /-- The tree is being retrieved. -/
  | retrieving (uri : Uri) (retrieval : Retrieval)
  /-- The version is still to be read. -/
  | retrieved (uri : Uri) (found : DocumentTree)
  /-- The outcome is still to be sent. -/
  | sending (notice : ServerNotice)
  | done
deriving Inhabited

namespace Analysis

/-- The analysis of a document, not yet begun. -/
def start (uri : Uri) : Analysis := .retrieving uri (.asked uri)

/-- What is published about a tree. -/
def noticeOf (uri : Uri) (found : DocumentTree) (version : Option Int) : ServerNotice :=
  .publish uri (EditorDiagnostic.ofTree found.text.toList found.parsed.tree) version

/-- Take the next step; tells what is sent. -/
def step (d : OpenDocuments) : Analysis → Analysis × OpenDocuments × List ServerNotice
  | .retrieving uri (.done (some found)) => (.retrieved uri found, d, [])
  | .retrieving _ (.done none) => (.done, d, [])
  | .retrieving uri r =>
    let (r, d) := r.step d
    (.retrieving uri r, d, [])
  | .retrieved uri found =>
    (.sending (noticeOf uri found ((d.get? uri).map OpenDocument.version)), d, [])
  | .sending notice => (.done, d, [notice])
  | .done => (.done, d, [])

/-- How many steps are left at most. -/
def stepsLeft : Analysis → Nat
  | .retrieving _ r => r.stepsLeft + 3
  | .retrieved _ _ => 2
  | .sending _ => 1
  | .done => 0

end Analysis

/-- What is left to do about a message. -/
structure Handler where
  accesses : List DocumentAccess
  analysis : Analysis
deriving Inhabited

namespace Handler

/-- Handle the opening of a document. -/
def opened (uri : Uri) (document : OpenDocument) : Handler :=
  ⟨DocumentAccess.opening uri document, .start uri⟩

/-- Handle a change of a document by its last text; without a text there is
    nothing to do. -/
def changed (uri : Uri) (texts : List String) (version : Int) : Handler :=
  match texts.getLast? with
  | some text => ⟨DocumentAccess.changing uri ⟨text, version⟩, .start uri⟩
  | none => ⟨[], .done⟩

/-- Handle the closing of a document: nothing is wrong with it any more. -/
def closed (uri : Uri) : Handler :=
  ⟨DocumentAccess.closing uri, .sending (.publish uri [] none)⟩

/-- Analyse a document that is open. -/
def analyse (uri : Uri) : Handler := ⟨[], .start uri⟩

/-- Take the next step; tells what is sent. -/
def step (d : OpenDocuments) : Handler → Handler × OpenDocuments × List ServerNotice
  | ⟨access :: rest, analysis⟩ => (⟨rest, analysis⟩, d.perform access, [])
  | ⟨[], analysis⟩ =>
    let (analysis, d, sent) := analysis.step d
    (⟨[], analysis⟩, d, sent)

/-- How many steps are left at most. -/
def stepsLeft (h : Handler) : Nat := h.accesses.length + h.analysis.stepsLeft

/-- Take so many steps; tells what is sent. -/
def steps (d : OpenDocuments) : Nat → Handler → OpenDocuments × List ServerNotice
  | 0, _ => (d, [])
  | n + 1, h =>
    let (h, d, sent) := h.step d
    let (d, more) := steps d n h
    (d, sent ++ more)

/-- Do all that is left to do. -/
def run (h : Handler) (d : OpenDocuments) : OpenDocuments × List ServerNotice :=
  h.steps d h.stepsLeft

/-- Run handlers one after another. -/
def runAll (d : OpenDocuments) : List Handler → OpenDocuments × List ServerNotice
  | [] => (d, [])
  | h :: rest =>
    let (d, sent) := h.run d
    let (d, more) := runAll d rest
    (d, sent ++ more)

end Handler

end ScriptTree

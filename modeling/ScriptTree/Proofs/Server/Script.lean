import ScriptTree.Proofs.Server.Handling

/-! # What the server answers

    The server keeps trees, forgets them when it hears of a change and gives some up
    when it runs out of room.  The specification keeps no trees: it knows the last
    texts the editor has sent, parses them afresh for every answer and lints what comes
    out.  What is shown of a tree is written out here, problem by problem and entry by
    entry.  One message after another, the server answers the same.

    The invariant is that every kept tree is the tree of the text that is stored now
    for some document with its key, and that no input is being loaded between two
    messages. -/

namespace ScriptTree

/-- The documents an editor has open, with the last text and version it sent. -/
def EditorView := Uri → Option OpenDocument

namespace EditorView

/-- Nothing is open. -/
def empty : EditorView := fun _ => none

/-- The editor sends a text, or closes the document. -/
def set (view : EditorView) (uri : Uri) (document : Option OpenDocument) : EditorView :=
  fun v => if uri = v then document else view v

/-- What the editor has open behind a message.  Of the texts of a change the last one
    is the whole text. -/
def after (view : EditorView) : ClientMessage → EditorView
  | .opened uri document => view.set uri (some document)
  | .changed uri texts version =>
    match texts.getLast? with
    | some text => view.set uri (some ⟨text, version⟩)
    | none => view
  | .closed uri => view.set uri none
  | _ => view

/-- The editor may send the message.  A document is opened only while it is closed;
    URIs that are written alike name the same document. -/
def Allows (view : EditorView) : ClientMessage → Prop
  | .opened uri _ => ∀ v, v.text = uri.text → view v = none
  | .changed uri texts _ => view uri ≠ none ∧ texts ≠ []
  | .closed uri => view uri ≠ none
  | .watched _ => True
  | .symbolsRequest _ => True
  | _ => False

/-- The editor may send the messages one after another. -/
def Follows (view : EditorView) : List ClientMessage → Prop
  | [] => True
  | m :: rest => view.Allows m ∧ (view.after m).Follows rest

/-! ## What is shown of a tree -/

/-- Where a span is shown: from its start to its end, or one byte further if it is empty. -/
def shownAt (text : List Char) (span : Span) : EditorRange where
  start := .ofOffset text span.start
  stop := .ofOffset text (max span.stop (span.start + 1))

/-- All that is wrong with a text: every error of its tree, and behind them everything that
    the default rules find in the tree. -/
def problems (text : List Char) (tree : SyntaxTree) : List EditorDiagnostic :=
  (tree.errors.map fun e =>
    { range := shownAt text e.span
      severity := .error
      code := none
      source := "jsast"
      message := e.fault.message
      isUnnecessary := false }) ++
  (lint tree LintRule.defaults).map fun f =>
    { range := shownAt text f.span
      severity := match f.severity with
        | .error => .error
        | .warning => .warning
        | .info => .information
      code := some f.rule
      source := "jsast"
      message := f.message
      isUnnecessary := f.rule == "no-unreachable" }

/-- An outline entry as a symbol, with all entries below it. -/
def symbolOf (text : List Char) : OutlineItem → EditorSymbol
  | ⟨name, kind, detail, span, selection, children⟩ =>
    { name
      detail
      kind := match kind with
        | .function => .function
        | .classType => .classType
        | .method => .method
        | .variable => .variable
      range := shownAt text span
      selectionRange := shownAt text selection
      children := children.map (symbolOf text) }

/-- The diagnostics of a tree are its errors and what is found in it, in this order. -/
theorem ofTree_eq_problems (text : List Char) (tree : SyntaxTree) :
    EditorDiagnostic.ofTree text tree = problems text tree := by
  refine congrArg₂ (· ++ ·) rfl (List.map_congr_left fun f _ => ?_)
  rw [EditorDiagnostic.ofFinding]
  cases f.severity <;> rfl

mutual

/-- What an editor is shown of an entry is told entry by entry. -/
theorem ofItem_eq_symbolOf (text : List Char) :
    (item : OutlineItem) → EditorSymbol.ofItem text item = symbolOf text item
  | ⟨name, kind, detail, span, selection, children⟩ => by
    rw [EditorSymbol.ofItem, ofItems_eq_map text children, symbolOf.eq_def]
    cases kind <;> rfl

/-- So it is for a list. -/
theorem ofItems_eq_map (text : List Char) :
    (items : List OutlineItem) → EditorSymbol.ofItems text items = items.map (symbolOf text)
  | [] => by rw [EditorSymbol.ofItems, List.map_nil]
  | item :: rest => by
    rw [EditorSymbol.ofItems, List.map_cons, ofItem_eq_symbolOf text item,
      ofItems_eq_map text rest]

end

/-- The symbols of a tree are the entries of its outline. -/
theorem ofTree_eq_map (text : List Char) (tree : SyntaxTree) :
    EditorSymbol.ofTree text tree = (outline tree).map (symbolOf text) :=
  ofItems_eq_map text (outline tree)

/-! ## Answers without trees -/

section

variable (options : ParseOptions)

/-- The tree of a document, made afresh. -/
def freshTree (uri : Uri) (document : OpenDocument) : SyntaxTree :=
  SyntaxTree.parse options document.text.toList uri.text

/-- All that is wrong with a document now, with its version. -/
def notice (uri : Uri) (document : OpenDocument) : ServerNotice :=
  .publish uri (problems document.text.toList (freshTree options uri document))
    (some document.version)

/-- The outline of a document. -/
def symbols (uri : Uri) (document : OpenDocument) : List EditorSymbol :=
  (outline (freshTree options uri document)).map (symbolOf document.text.toList)

/-- What is published about a document; nothing while it is closed. -/
def notices (view : EditorView) (uri : Uri) : List ServerNotice :=
  (view uri).toList.map (notice options uri)

/-- What is said about a message, if this is open behind it. -/
def answer (view : EditorView) : ClientMessage → ServerAnswer
  | .opened uri _ => ⟨none, view.notices options uri⟩
  | .changed uri _ _ => ⟨none, view.notices options uri⟩
  | .closed uri => ⟨none, [.publish uri [] none]⟩
  | .watched changes => ⟨none, (Server.changedUris changes).flatMap (view.notices options)⟩
  | .symbolsRequest uri => ⟨some (.symbols ((view uri).map (symbols options uri))), []⟩
  | _ => ⟨none, []⟩

/-- What is said about messages one after another. -/
def answers (view : EditorView) : List ClientMessage → List ServerAnswer
  | [] => []
  | m :: rest => (view.after m).answer options m :: (view.after m).answers rest

end

/-- The tree of a text the editor has sent last for a document with the key. -/
def IsTreeAt (options : ParseOptions) (view : EditorView) (key : String) (tree : SyntaxTree) :
    Prop :=
  ∃ uri document, view uri = some document ∧ uri.text = key ∧
    tree = freshTree options uri document

/-- No two documents that are open are written alike. -/
def Separate (view : EditorView) : Prop :=
  ∀ u v, view u ≠ none → view v ≠ none → u.text = v.text → u = v

variable {view : EditorView} {uri : Uri} {document : OpenDocument} {options : ParseOptions}
  {key : String} {tree : SyntaxTree}

/-- Other documents are not touched. -/
theorem set_other {v : Uri} (new : Option OpenDocument) (differ : uri ≠ v) :
    view.set uri new v = view v := if_neg differ

/-- The last text of a change is the one that counts. -/
theorem after_changed {texts : List String} {text : String} {version : Int}
    (last : texts.getLast? = some text) :
    view.after (.changed uri texts version) = view.set uri (some ⟨text, version⟩) := by
  rw [after, last]

/-- Trees of other keys stay right, whatever becomes of a document. -/
theorem IsTreeAt.set (h : IsTreeAt options view key tree) (other : uri.text ≠ key)
    (new : Option OpenDocument) : IsTreeAt options (view.set uri new) key tree := by
  obtain ⟨v, document, there, rfl, parse⟩ := h
  have differ : uri ≠ v := fun same => other (congrArg Uri.text same)
  exact ⟨v, document, (set_other new differ).trans there, rfl, parse⟩

/-- Opening a document makes no tree wrong. -/
theorem IsTreeAt.opened (h : IsTreeAt options view key tree) (closed : view uri = none) :
    IsTreeAt options (view.set uri (some document)) key tree := by
  obtain ⟨v, other, there, own, parse⟩ := h
  have differ : uri ≠ v := fun same => by cases (same ▸ closed).symm.trans there
  exact ⟨v, other, (set_other _ differ).trans there, own, parse⟩

/-- A right tree under the key of an open document is the tree of its last text. -/
theorem IsTreeAt.eq_freshTree (h : IsTreeAt options view uri.text tree) (separate : view.Separate)
    (there : view uri = some document) : tree = freshTree options uri document := by
  obtain ⟨v, other, found, alike, parse⟩ := h
  obtain rfl : v = uri := separate v uri (by simp [found]) (by simp [there]) alike
  obtain rfl : other = document := Option.some.inj (found.symm.trans there)
  exact parse

/-- A new text for a document that is open, or its closing, keeps documents apart. -/
theorem Separate.set (h : view.Separate) (there : view uri ≠ none) (new : Option OpenDocument) :
    (view.set uri new).Separate := by
  have before : ∀ v, view.set uri new v ≠ none → view v ≠ none := by
    intro v found
    by_cases same : uri = v
    · exact same ▸ there
    · rwa [set_other new same] at found
  intro u v foundU foundV alike
  exact h u v (before u foundU) (before v foundV) alike

/-- A document that is opened has a name of its own. -/
theorem Separate.opened (h : view.Separate) (closed : ∀ v, v.text = uri.text → view v = none) :
    (view.set uri (some document)).Separate := by
  intro u v foundU foundV alike
  by_cases sameU : uri = u
  · by_cases sameV : uri = v
    · exact sameU.symm.trans sameV
    · rw [set_other _ sameV] at foundV
      exact absurd (closed v (alike.symm.trans (congrArg Uri.text sameU.symm))) foundV
  · rw [set_other _ sameU] at foundU
    by_cases sameV : uri = v
    · exact absurd (closed u (alike.trans (congrArg Uri.text sameV.symm))) foundU
    · rw [set_other _ sameV] at foundV
      exact h u v foundU foundV alike

end EditorView

/-! ## The documents of the server -/

namespace OpenDocuments

open EditorView (freshTree notice IsTreeAt)

/-- The documents are those of the editor, and all trees are trees of their texts. -/
structure Mirrors (settings : WorkspaceSettings) (view : EditorView) (d : OpenDocuments) :
    Prop where
  documents : ∀ uri, d.get? uri = view uri
  separate : view.Separate
  loaded : d.workspace.loadsInput = false
  configured : d.workspace.settings = settings
  trees : d.workspace.KeepsRight (view.IsTreeAt settings.options)

variable {settings : WorkspaceSettings} {view : EditorView} {d : OpenDocuments} {uri : Uri}
  {document : OpenDocument}

/-- A new server has no documents. -/
theorem mirrors_ofSettings : Mirrors settings .empty (.ofSettings settings) where
  documents uri := by simp [ofSettings, get?, EditorView.empty]
  separate _ _ found := absurd rfl found
  loaded := rfl
  configured := rfl
  trees := Workspace.keepsRight_ofSettings settings

/-- What is retrieved is the tree of the last text. -/
theorem Mirrors.fetched (h : Mirrors settings view d) (there : view uri = some document) :
    (d.treeOf uri document.text).parsed.tree = freshTree settings.options uri document ∧
      Mirrors settings view (d.fetched uri document.text) := by
  have fresh : view.IsTreeAt settings.options uri.text
      (SyntaxTree.parse d.workspace.settings.options document.text.toList uri.text) :=
    ⟨uri, document, there, rfl, by rw [h.configured]; rfl⟩
  obtain ⟨right, kept⟩ := h.trees.retrieve fresh
  constructor
  · exact right.eq_freshTree h.separate there
  · exact
      { documents := h.documents
        separate := h.separate
        loaded := (Workspace.loadsInput_retrieve h.trees.orderly).trans h.loaded
        configured := (Workspace.settings_retrieve h.trees.orderly).trans h.configured
        trees := kept }

/-- An analysis publishes what is wrong with the last text. -/
theorem Mirrors.analyse (h : Mirrors settings view d) (uri : Uri) :
    ((Handler.analyse uri).run d).2 = view.notices settings.options uri ∧
      Mirrors settings view ((Handler.analyse uri).run d).1 := by
  rw [EditorView.notices, ← h.documents]
  cases there : d.get? uri with
  | none =>
      rw [Handler.run_analyse_of_closed there]
      exact ⟨rfl, h⟩
  | some document =>
      obtain ⟨same, after⟩ := h.fetched ((h.documents uri).symm.trans there)
      rw [Handler.run_analyse_of_open there, Analysis.noticeOf, same,
        EditorView.ofTree_eq_problems]
      exact ⟨rfl, after⟩

/-- Documents are analysed one after another. -/
theorem Mirrors.analyseAll (h : Mirrors settings view d) (uris : List Uri) :
    (Handler.runAll d (uris.map .analyse)).2 = uris.flatMap (view.notices settings.options) ∧
      Mirrors settings view (Handler.runAll d (uris.map .analyse)).1 := by
  induction uris generalizing d with
  | nil => exact ⟨rfl, h⟩
  | cons uri rest ih =>
      obtain ⟨own, next⟩ := h.analyse uri
      obtain ⟨others, last⟩ := ih next
      rw [List.map_cons, Handler.runAll, List.flatMap_cons, ← own, ← others]
      exact ⟨rfl, last⟩

/-- A symbols request finds the tree of the last text. -/
theorem Mirrors.tree? (h : Mirrors settings view d) (uri : Uri) :
    (d.tree? uri).1.map (fun f => EditorSymbol.ofTree f.text.toList f.parsed.tree) =
        (view uri).map (EditorView.symbols settings.options uri) ∧
      Mirrors settings view (d.tree? uri).2 := by
  rw [← h.documents]
  cases there : d.get? uri with
  | none =>
      rw [tree?_of_closed there]
      exact ⟨rfl, h⟩
  | some document =>
      obtain ⟨same, after⟩ := h.fetched ((h.documents uri).symm.trans there)
      rw [tree?_of_open there, Option.map_some, Option.map_some, same, EditorView.ofTree_eq_map]
      exact ⟨rfl, after⟩

/-! ### Accesses -/

/-- The model change of an opening is taken for the loading of the text: no tree is
    forgotten, and none is wrong. -/
theorem Mirrors.opening (h : Mirrors settings view d) (document : OpenDocument)
    (closed : ∀ v, v.text = uri.text → view v = none) :
    Mirrors settings (view.set uri (some document))
      (d.performAll (DocumentAccess.opening uri document)) := by
  have forgets := Workspace.forgets_inputChanged.trans
    (Workspace.forgets_modelChanging_of_loading
      (show d.workspace.inputChanged.loadsInput = true from rfl) (some (.ofUri uri)))
  exact
    { documents := fun v => (get?_store v).trans (by rw [h.documents]; rfl)
      separate := h.separate.opened closed
      loaded := Workspace.loadsInput_modelChanging
      configured := forgets.settings.trans h.configured
      trees := h.trees.forget forgets fun key tree _ right => right.opened (closed uri rfl) }

/-- A change forgets the tree of the former text. -/
theorem Mirrors.changing (h : Mirrors settings view d) (document : OpenDocument)
    (there : view uri ≠ none) :
    Mirrors settings (view.set uri (some document))
      (d.performAll (DocumentAccess.changing uri document)) := by
  have forgets := Workspace.forgets_modelChanging_of_loaded h.loaded (some (.ofUri uri))
  exact
    { documents := fun v => (get?_store v).trans (by rw [h.documents]; rfl)
      separate := h.separate.set there _
      loaded := Workspace.loadsInput_modelChanging
      configured := forgets.settings.trans h.configured
      trees := h.trees.forget forgets fun key tree other right => right.set other _ }

/-- So does closing. -/
theorem Mirrors.closing (h : Mirrors settings view d) (there : view uri ≠ none) :
    Mirrors settings (view.set uri none) (d.performAll (DocumentAccess.closing uri)) := by
  have forgets := Workspace.forgets_invalidate (w := d.workspace) (some (.ofUri uri))
  exact
    { documents := fun v => (get?_remove v).trans (by rw [h.documents]; rfl)
      separate := h.separate.set there _
      loaded := h.loaded
      configured := forgets.settings.trans h.configured
      trees := h.trees.forget forgets fun key tree other right => right.set other _ }

/-- Changes of files on disk do not touch the texts the editor has sent. -/
theorem Mirrors.filesChanged (h : Mirrors settings view d) (uris : List Uri) :
    (d.filesChanged uris).1 = uris.filter (fun uri => (view uri).isSome) ∧
      Mirrors settings view (d.filesChanged uris).2 := by
  have forgets : d.workspace.Forgets _ (d.workspace.filesChanged .changed (uris.map .ofUri)) :=
    Workspace.forgets_filesChanged
  constructor
  · exact List.filter_congr fun v _ => by rw [contains_documents, h.documents]
  · exact
      { documents := h.documents
        separate := h.separate
        loaded := Workspace.loadsInput_filesChanged.trans h.loaded
        configured := forgets.settings.trans h.configured
        trees := h.trees.forget forgets fun _ _ _ => id }

end OpenDocuments

/-! ## The server -/

namespace Server

/-- What the server answers to messages one after another. -/
def answers (s : Server) : List ClientMessage → List ServerAnswer
  | [] => []
  | m :: rest => (s.handle m).1 :: (s.handle m).2.answers rest

variable {settings : WorkspaceSettings} {view : EditorView} {s : Server} {uri : Uri}

/-- A server that serves handles a message by serving it. -/
theorem handle_of_serving (serving : s.phase = .serving) (m : ClientMessage) :
    s.handle m = s.serve m := by
  simp only [handle, serving]

/-- A change is handled by its last text. -/
theorem changed_of_last {texts : List String} {text : String} {version : Int}
    (last : texts.getLast? = some text) : Handler.changed uri texts version =
      ⟨DocumentAccess.changing uri ⟨text, version⟩, .start uri⟩ := by
  rw [Handler.changed, last]

/-- A handler runs alone. -/
theorem handleWith_singleton (h : Handler) :
    s.handleWith [h] =
      (⟨none, (h.run s.documents).2⟩, { s with documents := (h.run s.documents).1 }) := by
  show (ServerAnswer.mk none ((h.run s.documents).2 ++ []), _) = _
  rw [List.append_nil]
  rfl

/-- Only documents that are open have something published about them. -/
theorem flatMap_notices (options : ParseOptions) (uris : List Uri) :
    (uris.filter fun uri => (view uri).isSome).flatMap (view.notices options) =
      uris.flatMap (view.notices options) := by
  induction uris with
  | nil => rfl
  | cons uri rest ih =>
      rw [List.flatMap_cons, ← ih]
      cases there : view uri with
      | none =>
          rw [List.filter_cons_of_neg (by simp [there]), EditorView.notices, there]
          rfl
      | some document => rw [List.filter_cons_of_pos (by simp [there]), List.flatMap_cons]

/-- ONE MESSAGE: the server answers for the current texts and mirrors what the editor
    has open behind the message. -/
theorem answers_step (serving : s.phase = .serving)
    (mirrors : s.documents.Mirrors settings view) {m : ClientMessage} (allowed : view.Allows m) :
    (s.handle m).1 = (view.after m).answer settings.options m ∧
      (s.handle m).2.phase = .serving ∧
      (s.handle m).2.documents.Mirrors settings (view.after m) := by
  rw [handle_of_serving serving]
  cases m with
  | opened uri document =>
      obtain ⟨sent, next⟩ := (mirrors.opening document allowed).analyse uri
      -- Opening and changing differ in the accesses; the analysis behind them is the same.
      rw [serve, handleWith_singleton, Handler.opened, Handler.run_accesses]
      exact ⟨congrArg _ sent, serving, next⟩
  | changed uri texts version =>
      obtain ⟨there, some⟩ := allowed
      have last := List.getLast?_eq_some_getLast some
      obtain ⟨sent, next⟩ :=
        (mirrors.changing ⟨texts.getLast some, version⟩ there).analyse uri
      rw [serve, handleWith_singleton, changed_of_last last, Handler.run_accesses,
        EditorView.after_changed last]
      exact ⟨congrArg _ sent, serving, next⟩
  | closed uri =>
      rw [serve, handleWith_singleton, Handler.closed, Handler.run_accesses]
      exact ⟨rfl, serving, mirrors.closing allowed⟩
  -- Only open documents are analysed again, each against the texts that the client holds.
  | watched changes =>
      obtain ⟨affected, after⟩ := mirrors.filesChanged (changedUris changes)
      obtain ⟨sent, next⟩ := after.analyseAll
        ((changedUris changes).filter fun uri => (view uri).isSome)
      rw [flatMap_notices] at sent
      rw [← affected] at sent next
      exact ⟨congrArg _ sent, serving, next⟩
  -- The answer to a request reads a tree and tells nobody.
  | symbolsRequest uri =>
      obtain ⟨same, after⟩ := mirrors.tree? uri
      rw [serve]
      exact ⟨congrArg (fun found => ServerAnswer.mk (some (.symbols found)) []) same, serving,
        after⟩
  | initializeRequest => exact allowed.elim
  | initialized => exact allowed.elim
  | shutdownRequest => exact allowed.elim

/-- Message after message the server answers for the current texts. -/
theorem answers_of_mirrors (serving : s.phase = .serving)
    (mirrors : s.documents.Mirrors settings view) {script : List ClientMessage}
    (follows : view.Follows script) : s.answers script = view.answers settings.options script := by
  induction script generalizing s view with
  | nil => rfl
  | cons m rest ih =>
      obtain ⟨allowed, others⟩ := follows
      obtain ⟨answer, serving, mirrors⟩ := answers_step serving mirrors allowed
      rw [answers, EditorView.answers, answer, ih serving mirrors others]

/-- A server can be made up to the greatest capacity, and no further. -/
theorem create?_isSome_iff (settings : WorkspaceSettings) :
    (create? settings).isSome ↔ settings.capacity ≤ RecencyCache.capacityLimit := by
  rw [create?, OpenDocuments.create?, Option.isSome_map, Option.isSome_map]
  by_cases room : settings.capacity ≤ RecencyCache.capacityLimit
  · simp [Workspace.create?_of_le room, room]
  · simp [Workspace.create?_of_lt (Nat.not_le.mp room), room]

/-- A server that was made has no documents and waits. -/
theorem eq_ofSettings_of_create? (made : create? settings = some s) : s = ofSettings settings := by
  have room := (create?_isSome_iff settings).mp (by rw [made]; rfl)
  rw [create?, OpenDocuments.create?, Workspace.create?_of_le room] at made
  exact (Option.some.inj made).symm

/-- THE SERVER ANSWERS FOR THE CURRENT TEXTS: whatever room there is for trees, and
    whatever an editor sends that opens documents only while they are closed, changes
    and closes them only while they are open and sends a text with every change, the
    server answers as if it parsed the last texts afresh for every answer.  There is such
    a server for every capacity up to the greatest, and for no other. -/
theorem answers_current (settings : WorkspaceSettings) {script : List ClientMessage}
    (follows : EditorView.empty.Follows script) :
    ((create? settings).isSome ↔ settings.capacity ≤ RecencyCache.capacityLimit) ∧
    ∀ s, create? settings = some s →
      s.answers (.initializeRequest :: script) =
        ⟨some (.description .current), []⟩ ::
          EditorView.empty.answers settings.options script := by
  refine ⟨create?_isSome_iff settings, fun s made => ?_⟩
  rw [eq_ofSettings_of_create? made]
  exact congrArg _ (answers_of_mirrors (s := ⟨.serving, .ofSettings settings⟩) rfl
    OpenDocuments.mirrors_ofSettings follows)

/-- Two documents for which there is room for one tree: the second is opened between
    the opening and the change of the first, which its file's change on disk and a
    request for its symbols follow. -/
theorem answers_current_two :
    let first : Uri := ⟨"untitled", none, "a", none, none⟩
    let second : Uri := ⟨"untitled", none, "b", none, none⟩
    let script : List ClientMessage := [.opened first ⟨"a;", 1⟩, .opened second ⟨"(", 1⟩,
      .changed first ["b", "c("] 2, .watched [(first, .changed)], .symbolsRequest first,
      .closed first]
    let settings : WorkspaceSettings := ⟨1, ContentType.javaScript, {}⟩
    EditorView.empty.Follows script ∧ ∃ s, create? settings = some s ∧
      s.answers (.initializeRequest :: script) =
        ⟨some (.description .current), []⟩ :: EditorView.empty.answers {} script := by
  intro first second script settings
  have distinct : ∀ v : Uri, v.text = second.text → EditorView.empty.set first
      (some ⟨"a;", 1⟩) v = none := by
    intro v alike
    refine (EditorView.set_other _ fun same => ?_).trans rfl
    exact absurd (same ▸ alike) (by decide)
  have follows : EditorView.empty.Follows script := by
    refine ⟨fun _ _ => rfl, distinct, ⟨?_, ?_⟩, trivial, trivial, ?_, trivial⟩
    · nofun
    · nofun
    · nofun
  obtain ⟨isSome, current⟩ := answers_current settings follows
  obtain ⟨s, made⟩ := Option.isSome_iff_exists.mp (isSome.mpr (by decide))
  exact ⟨follows, s, made, current s made⟩

/-- With a capacity of all 64 bits there is no server, and a document that is opened and
    closed has nothing published about it. -/
theorem not_answers_current :
    ¬ ∀ (settings : WorkspaceSettings) (script : List ClientMessage),
      settings.capacity < UInt64.size → EditorView.empty.Follows script →
      ∃ s, create? settings = some s ∧
        s.answers (.initializeRequest :: script) =
          ⟨some (.description .current), []⟩ ::
            EditorView.empty.answers settings.options script := by
  intro always
  let document : Uri := ⟨"untitled", none, "a", none, none⟩
  have follows : EditorView.empty.Follows [.opened document ⟨"a;", 1⟩, .closed document] := by
    refine ⟨fun _ _ => rfl, ?_, trivial⟩
    nofun
  obtain ⟨s, made, -⟩ :=
    always ⟨UInt64.size - 1, ContentType.javaScript, {}⟩ _ (by decide) follows
  have room := (create?_isSome_iff _).mp (Option.isSome_iff_exists.mpr ⟨s, made⟩)
  exact absurd room (by decide)

end Server

end ScriptTree

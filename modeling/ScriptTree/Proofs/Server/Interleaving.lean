import ScriptTree.Proofs.Server.Script

/-! # Handlers that overlap

    Any number of handlers open and change one document, each text with a version of
    its own.  They take their steps one by one, and those of others may come between
    any two of them.  What is published with a version should be what is wrong with
    the text that was sent with it. -/

namespace ScriptTree

/-- Nothing is left to do. -/
def Handler.idle : Handler := ⟨[], .done⟩

/-- A tree was missed and is being made. -/
def Analysis.IsParsing : Analysis → Prop
  | .retrieving _ (.missed _ _) => True
  | _ => False

/-- One document, the handlers that work on it, and what was said about it. -/
structure SharedServer where
  documents : OpenDocuments
  handlers : Nat → Handler
  /-- The texts the editor has sent. -/
  brought : List OpenDocument
  sent : List ServerNotice

namespace SharedServer

/-- Nothing is open, kept, sent or left to do. -/
def ofSettings (settings : WorkspaceSettings) : SharedServer :=
  ⟨.ofSettings settings, fun _ => .idle, [], []⟩

/-- The editor sends a text, and a handler has to deal with it. -/
def begin (s : SharedServer) (n : Nat) (handler : Handler) (document : OpenDocument) :
    SharedServer :=
  ⟨s.documents, fun m => if m = n then handler else s.handlers m, document :: s.brought, s.sent⟩

/-- One handler goes on, leaves documents behind and says something. -/
def advance (s : SharedServer) (n : Nat) (handler : Handler) (documents : OpenDocuments)
    (sent : List ServerNotice) : SharedServer :=
  ⟨documents, fun m => if m = n then handler else s.handlers m, s.brought, s.sent ++ sent⟩

/-- One handler takes its next step. -/
def proceed (s : SharedServer) (n : Nat) : SharedServer :=
  let (handler, documents, sent) := (s.handlers n).step s.documents
  s.advance n handler documents sent

/-- No text was sent with the version. -/
def IsNew (s : SharedServer) (version : Int) : Prop :=
  ∀ document ∈ s.brought, document.version ≠ version

/-- Handlers that a rule lets go on have led here.  The document is opened only while
    it is closed, and no two texts have one version. -/
inductive Reached (settings : WorkspaceSettings) (uri : Uri) (rule : SharedServer → Nat → Prop) :
    SharedServer → Prop where
  | start : Reached settings uri rule (.ofSettings settings)
  | opened {s : SharedServer} (n : Nat) (document : OpenDocument) :
      Reached settings uri rule s → s.handlers n = .idle → s.documents.get? uri = none →
      s.IsNew document.version →
      Reached settings uri rule (s.begin n (.opened uri document) document)
  | changed {s : SharedServer} (n : Nat) (texts : List String) (text : String) (version : Int) :
      Reached settings uri rule s → s.handlers n = .idle → texts.getLast? = some text →
      s.IsNew version →
      Reached settings uri rule (s.begin n (.changed uri texts version) ⟨text, version⟩)
  | proceed {s : SharedServer} {n : Nat} :
      Reached settings uri rule s → rule s n → Reached settings uri rule (s.proceed n)

/-- A notice with a version says what is wrong with a text that was sent with it. -/
def IsVersioned (settings : WorkspaceSettings) (uri : Uri) (brought : List OpenDocument)
    (notice : ServerNotice) : Prop :=
  ∀ about diagnostics version, notice = .publish about diagnostics (some version) →
    ∃ document ∈ brought, document.version = version ∧
      notice = EditorView.notice settings.options uri document

/-- All notices do. -/
def Versioned (settings : WorkspaceSettings) (uri : Uri) (s : SharedServer) : Prop :=
  ∀ notice ∈ s.sent, IsVersioned settings uri s.brought notice

/-- The stored text of the document. -/
def Holds (uri : Uri) (s : SharedServer) (text : String) : Prop :=
  ∃ document, s.documents.get? uri = some document ∧ document.text = text

/-- A tree is looked up only for the text that is stored, while no handler has accesses
    left, and a version is read only while the text that was analysed is stored. -/
structure Undisturbed (uri : Uri) (s : SharedServer) (n : Nat) : Prop where
  current : ∀ about u text, s.handlers n = ⟨[], .retrieving about (.read u text)⟩ →
    s.Holds uri text
  alone : ∀ about u text, s.handlers n = ⟨[], .retrieving about (.read u text)⟩ →
    ∀ m, (s.handlers m).accesses = []
  version : ∀ about found, s.handlers n = ⟨[], .retrieved about found⟩ → s.Holds uri found.text

variable {settings : WorkspaceSettings} {uri : Uri} {rule : SharedServer → Nat → Prop}
  {s t : SharedServer} {n : Nat} {next handler : Handler} {d : OpenDocuments}
  {sent : List ServerNotice} {document : OpenDocument} {wrong : String → Prop} {text : String}
  {analysis : Analysis}

/-- Every version was sent with one text. -/
theorem Reached.distinct (h : Reached settings uri rule s) :
    s.brought.Pairwise fun latter former => latter.version ≠ former.version := by
  induction h with
  | start => exact .nil
  | opened _ _ _ _ _ new ih => exact .cons (fun former before => (new former before).symm) ih
  | changed _ _ _ _ _ _ _ new ih =>
      exact .cons (fun former before => (new former before).symm) ih
  | proceed _ _ ih => exact ih

/-! ## What is out of date will be forgotten -/

/-- What a handler may still have to do before its analysis. -/
inductive Owed (uri : Uri) (brought : List OpenDocument) : List DocumentAccess → Prop where
  | nothing : Owed uri brought []
  | announcement : Owed uri brought [.modelChanging uri]
  | loading : Owed uri brought [.inputChanged, .modelChanging uri]
  | change {document : OpenDocument} (sent : document ∈ brought) :
      Owed uri brought (DocumentAccess.changing uri document)
  | opening {document : OpenDocument} (sent : document ∈ brought) :
      Owed uri brought (DocumentAccess.opening uri document)

/-- Some handler has yet to announce a change. -/
def Pending (uri : Uri) (s : SharedServer) : Prop :=
  ∃ n, .modelChanging uri ∈ (s.handlers n).accesses

/-- The text is stored, or its tree will be forgotten. -/
def Stands (uri : Uri) (s : SharedServer) (text : String) : Prop := s.Holds uri text ∨ s.Pending uri

/-- What is known of an analysis: it is about the document, and its tree is the one of
    its text. -/
def AnalysisFits (settings : WorkspaceSettings) (uri : Uri) (s : SharedServer) : Analysis → Prop
  | .retrieving about (.asked u) => about = uri ∧ u = uri
  | .retrieving about (.read u _) => about = uri ∧ u = uri
  | .retrieving about (.missed fetch text) => about = uri ∧ fetch.key = uri.text ∧
    fetch.generation ≤ s.documents.workspace.generation fetch.key ∧
    (s.documents.workspace.generation fetch.key = fetch.generation → s.Stands uri text)
  | .retrieving about (.done (some found)) => about = uri ∧
    found.parsed.tree = SyntaxTree.parse settings.options found.text.toList uri.text
  | .retrieving _ (.done none) => True
  | .retrieved about found => about = uri ∧
    found.parsed.tree = SyntaxTree.parse settings.options found.text.toList uri.text
  | .sending notice => IsVersioned settings uri s.brought notice
  | .done => True

/-- No tree is kept or being made.  An input may be being loaded. -/
structure Early (uri : Uri) (s : SharedServer) : Prop where
  empty : s.documents.workspace.trees.peek? uri.text = none
  idle : ∀ n, ¬ (s.handlers n).analysis.IsParsing
  loading : s.documents.workspace.loadsInput = true → s.Pending uri

/-- The document is open for good, and no announcement will be taken for the loading
    of an input. -/
structure Late (uri : Uri) (s : SharedServer) : Prop where
  there : s.documents.get? uri ≠ none
  loaded : s.documents.workspace.loadsInput = false
  opened : ∀ n, .inputChanged ∉ (s.handlers n).accesses

/-- Whatever is out of date will be forgotten. -/
structure Fits (settings : WorkspaceSettings) (uri : Uri) (s : SharedServer) : Prop where
  orderly : s.documents.workspace.Orderly
  configured : s.documents.workspace.settings = settings
  stored : ∀ document, s.documents.get? uri = some document → document ∈ s.brought
  owed : ∀ n, Owed uri s.brought (s.handlers n).accesses
  analyses : ∀ n, s.AnalysisFits settings uri (s.handlers n).analysis
  tree : ∀ tree, s.documents.workspace.trees.peek? uri.text = some tree →
    ∃ text : String, s.Stands uri text ∧
      tree.tree = SyntaxTree.parse settings.options text.toList uri.text
  phase : s.Early uri ∨ s.Late uri
  sent : s.Versioned settings uri

/-- More texts may have been sent. -/
theorem IsVersioned.mono {brought brought' : List OpenDocument} {notice : ServerNotice}
    (h : IsVersioned settings uri brought notice) (more : brought ⊆ brought') :
    IsVersioned settings uri brought' notice := by
  intro about diagnostics version same
  obtain ⟨document, there, rest⟩ := h about diagnostics version same
  exact ⟨document, more there, rest⟩

/-- No notice is wrong. -/
theorem isVersioned_nil {brought : List OpenDocument} :
    ∀ notice ∈ [], IsVersioned settings uri brought notice :=
  fun _ there => absurd there List.not_mem_nil

/-- A handler owes the same if more texts were sent. -/
theorem Owed.mono {brought brought' : List OpenDocument} {accesses : List DocumentAccess}
    (h : Owed uri brought accesses) (more : brought ⊆ brought') : Owed uri brought' accesses := by
  cases h with
  | nothing => exact .nothing
  | announcement => exact .announcement
  | loading => exact .loading
  | change sent => exact .change (more sent)
  | opening sent => exact .opening (more sent)

/-- An analysis stays fit if all texts that stood still stand, unless their trees were
    forgotten or none is being made. -/
theorem AnalysisFits.carry (h : s.AnalysisFits settings uri analysis)
    (forgets : s.documents.workspace.Forgets wrong t.documents.workspace)
    (more : s.brought ⊆ t.brought)
    (stands : ¬ analysis.IsParsing ∨ wrong uri.text ∨
      ∀ text, s.Stands uri text → t.Stands uri text) :
    t.AnalysisFits settings uri analysis := by
  match analysis, h with
  | .retrieving _ (.asked _), h => exact h
  | .retrieving _ (.read _ _), h => exact h
  | .retrieving _ (.done (some _)), h => exact h
  | .retrieving _ (.done none), _ => trivial
  | .retrieved _ _, h => exact h
  | .sending _, h => exact IsVersioned.mono h more
  | .done, _ => trivial
  | .retrieving about (.missed fetch text), ⟨own, key, noted, stood⟩ =>
      refine ⟨own, key, Nat.le_trans noted (forgets.mono _), fun current => ?_⟩
      -- A raised generation cannot be the one that was noted.
      have right : ¬ wrong fetch.key := fun gone =>
        absurd current (Nat.ne_of_gt (Nat.lt_of_le_of_lt noted (forgets.raised _ gone)))
      rw [forgets.same _ right] at current
      rcases stands with idle | gone | stands
      · exact absurd trivial idle
      · exact absurd (key ▸ gone) right
      · exact stands text (stood current)

/-! ## One handler goes on -/

theorem handlers_begin : (s.begin n handler document).handlers n = handler := if_pos rfl

@[simp] theorem handlers_advance : (s.advance n next d sent).handlers n = next := if_pos rfl

/-- The other handlers stay where they are. -/
theorem handlers_advance_other {m : Nat} (other : m ≠ n) :
    (s.advance n next d sent).handlers m = s.handlers m := if_neg other

/-- What holds of a new handler and of all former ones holds of all. -/
theorem forall_begin {p : Handler → Prop} (own : p handler) (others : ∀ m, p (s.handlers m))
    (m : Nat) : p ((s.begin n handler document).handlers m) := by
  by_cases same : m = n
  · rw [same, handlers_begin]
    exact own
  · rw [show (s.begin n handler document).handlers m = s.handlers m from if_neg same]
    exact others m

/-- What holds of the handler that goes on and of all former ones holds of all. -/
theorem forall_advance {p : Handler → Prop} (own : p next) (others : ∀ m, p (s.handlers m))
    (m : Nat) : p ((s.advance n next d sent).handlers m) := by
  by_cases same : m = n
  · rw [same, handlers_advance]
    exact own
  · rw [handlers_advance_other same]
    exact others m

/-- A handler that goes on twice. -/
theorem advance_advance {next' : Handler} {d' : OpenDocuments} {sent' : List ServerNotice} :
    (s.advance n next d sent).advance n next' d' sent' = s.advance n next' d' (sent ++ sent') := by
  simp only [advance, SharedServer.mk.injEq, List.append_assoc, true_and, and_true]
  funext m
  split <;> rfl

/-- What one step of a handler does to the server. -/
theorem proceed_of_step (task : s.handlers n = handler)
    (step : handler.step s.documents = (next, d, sent)) :
    s.proceed n = s.advance n next d sent := by
  rw [proceed, task, step]

/-- A handler with accesses left makes the next one. -/
theorem proceed_of_access {access : DocumentAccess} {rest : List DocumentAccess}
    (task : s.handlers n = ⟨access :: rest, analysis⟩) :
    s.proceed n = s.advance n ⟨rest, analysis⟩ (s.documents.perform access) [] :=
  proceed_of_step task rfl

/-- A retrieval takes its next step. -/
theorem proceed_of_retrieval {about : Uri} {retrieval : Retrieval}
    (task : s.handlers n = ⟨[], .retrieving about retrieval⟩)
    (unfinished : 0 < retrieval.stepsLeft) :
    s.proceed n = s.advance n ⟨[], .retrieving about (retrieval.step s.documents).1⟩
      (retrieval.step s.documents).2 [] :=
  proceed_of_step task (Handler.step_retrieving retrieval unfinished)

/-- What is pending stays so, unless this handler has done it. -/
theorem Pending.advance (h : s.Pending uri)
    (keeps : .modelChanging uri ∈ (s.handlers n).accesses → .modelChanging uri ∈ next.accesses) :
    (s.advance n next d sent).Pending uri := by
  obtain ⟨m, there⟩ := h
  by_cases own : m = n
  · exact ⟨n, by rw [handlers_advance]; exact keeps (own ▸ there)⟩
  · exact ⟨m, by rw [handlers_advance_other own]; exact there⟩

/-- A handler that has all its accesses behind it changes no text. -/
theorem Stands.advance (h : s.Stands uri text) (task : (s.handlers n).accesses = [])
    (same : d.documents = s.documents.documents) : (s.advance n next d sent).Stands uri text := by
  rcases h with ⟨document, there, own⟩ | pending
  · refine .inl ⟨document, ?_, own⟩
    show d.get? uri = some document
    rw [OpenDocuments.get?, same]
    exact there
  · exact .inr (pending.advance fun there => by rw [task] at there; cases there)

/-- A handler may go on if what stood still stands. -/
theorem Fits.advance (h : Fits settings uri s)
    (forgets : s.documents.workspace.Forgets wrong d.workspace)
    (stored : ∀ document, d.get? uri = some document → document ∈ s.brought)
    (owed : Owed uri s.brought next.accesses)
    (fits : (s.advance n next d sent).AnalysisFits settings uri next.analysis)
    (stands : s.Early uri ∨ wrong uri.text ∨
      ∀ text, s.Stands uri text → (s.advance n next d sent).Stands uri text)
    (phase : (s.advance n next d sent).Early uri ∨ (s.advance n next d sent).Late uri)
    (versioned : ∀ notice ∈ sent, IsVersioned settings uri s.brought notice) :
    Fits settings uri (s.advance n next d sent) where
  orderly := forgets.orderly h.orderly
  configured := forgets.settings.trans h.configured
  stored := stored
  owed := forall_advance (p := fun t => Owed uri s.brought t.accesses) owed h.owed
  analyses := forall_advance (p := fun t => AnalysisFits settings uri _ t.analysis) fits
    fun m => (h.analyses m).carry forgets (List.Subset.refl _)
      (stands.imp (fun early => early.idle m) id)
  tree tree found := by
    -- A tree that is still cached was not dropped, so it was cached before and its text stands.
    have right : ¬ wrong uri.text := fun gone => by
      cases (forgets.dropped h.orderly _ gone).symm.trans found
    rw [show (s.advance n next d sent).documents = d from rfl,
      forgets.kept h.orderly _ right] at found
    rcases stands with early | gone | stands
    · cases early.empty.symm.trans found
    -- Either the text still stands or the key is among the wrong ones, which were dropped.
    · exact absurd gone right
    · obtain ⟨text, stood, parse⟩ := h.tree tree found
      exact ⟨text, stands text stood, parse⟩
  phase := phase
  sent notice there := (List.mem_append.mp there).elim (h.sent notice) (versioned notice)

/-! ### Accesses -/

/-- Every access that is owed is followed by an announcement, or is one. -/
theorem Owed.cons {brought : List OpenDocument} {access : DocumentAccess}
    {rest : List DocumentAccess} (h : Owed uri brought (access :: rest)) :
    Owed uri brought rest ∧ (access = .modelChanging uri ∧ rest = [] ∨
      .modelChanging uri ∈ rest ∧ (access = .inputChanged ∨
        ∃ document ∈ brought, access = .store uri document)) := by
  cases h with
  | announcement => exact ⟨.nothing, .inl ⟨rfl, rfl⟩⟩
  | loading => exact ⟨.announcement, .inr ⟨by simp, .inl rfl⟩⟩
  | change sent => exact ⟨.announcement, .inr ⟨by simp, .inr ⟨_, sent, rfl⟩⟩⟩
  | opening sent => exact ⟨.loading, .inr ⟨by simp, .inr ⟨_, sent, rfl⟩⟩⟩

/-- No analysis is in a parse that the handler has not begun. -/
theorem Early.not_parsing_advance (h : s.Early uri) (own : next.analysis.IsParsing →
    (s.handlers n).analysis.IsParsing) (m : Nat) :
    ¬ ((s.advance n next d sent).handlers m).analysis.IsParsing :=
  forall_advance (p := fun t => ¬ t.analysis.IsParsing)
    (fun parsing => h.idle n (own parsing)) h.idle m

/-- No handler is about to change the input that was not before. -/
theorem Late.not_loading_advance (h : s.Late uri)
    (own : next.accesses ⊆ (s.handlers n).accesses) (m : Nat) :
    .inputChanged ∉ ((s.advance n next d sent).handlers m).accesses :=
  forall_advance (p := fun t => .inputChanged ∉ t.accesses)
    (fun there => h.opened n (own there)) h.opened m

/-- What a handler is at is no parse that was started before the document was open. -/
theorem Early.not_parsing (h : s.Early uri) {accesses : List DocumentAccess}
    (task : s.handlers n = ⟨accesses, analysis⟩) : ¬ analysis.IsParsing := by
  have idle := h.idle n
  rwa [task] at idle

/-- A change is announced: unless an input is being loaded, the tree is forgotten. -/
theorem Fits.announce (h : Fits settings uri s)
    (task : s.handlers n = ⟨[.modelChanging uri], analysis⟩)
    (fits : s.AnalysisFits settings uri analysis) : Fits settings uri
      (s.advance n ⟨[], analysis⟩ (s.documents.perform (.modelChanging uri)) []) := by
  have forgets : s.documents.workspace.Forgets _
      (s.documents.perform (.modelChanging uri)).workspace := Workspace.forgets_modelChanging
  have stands : s.Early uri ∨ (s.documents.workspace.loadsInput = false ∧
      FileMetadata.key (some (.ofUri uri)) = uri.text) :=
    h.phase.imp id fun late => ⟨late.loaded, FileMetadata.key_ofUri uri⟩
  refine h.advance forgets h.stored .nothing (fits.carry forgets (List.Subset.refl _) ?_)
    (stands.imp id .inl) ?_ isVersioned_nil
  · exact stands.imp (fun early => early.not_parsing task) .inl
  · refine h.phase.imp (fun early => ?_) fun late => ?_
    · have none : (s.documents.perform (.modelChanging uri)).workspace.trees.peek? uri.text =
          none := by
        by_cases gone : s.documents.workspace.loadsInput = false ∧
            FileMetadata.key (some (.ofUri uri)) = uri.text
        · exact forgets.dropped h.orderly _ gone
        · exact (forgets.kept h.orderly _ gone).trans early.empty
      exact ⟨none, early.not_parsing_advance (by rw [task]; exact id), fun loads => by
        cases Workspace.loadsInput_modelChanging.symm.trans loads⟩
    · exact ⟨late.there, Workspace.loadsInput_modelChanging, late.not_loading_advance (by simp)⟩

/-- An input is loaded, which happens only before a tree was made. -/
theorem Fits.load (h : Fits settings uri s) {rest : List DocumentAccess}
    (task : s.handlers n = ⟨.inputChanged :: rest, analysis⟩)
    (fits : s.AnalysisFits settings uri analysis) (left : Owed uri s.brought rest)
    (follows : .modelChanging uri ∈ rest) : Fits settings uri
      (s.advance n ⟨rest, analysis⟩ (s.documents.perform .inputChanged) []) := by
  have early : s.Early uri := h.phase.resolve_right fun late => late.opened n (by simp [task])
  refine h.advance Workspace.forgets_inputChanged h.stored left
    (fits.carry Workspace.forgets_inputChanged (List.Subset.refl _) ?_) (.inl early) ?_
    isVersioned_nil
  · exact .inl (early.not_parsing task)
  · exact .inl ⟨early.empty, early.not_parsing_advance (by rw [task]; exact id),
      fun _ => ⟨n, by rw [handlers_advance]; exact follows⟩⟩

/-- A text is stored, and an announcement follows. -/
theorem Fits.store (h : Fits settings uri s) {rest : List DocumentAccess}
    (task : s.handlers n = ⟨.store uri document :: rest, analysis⟩)
    (fits : s.AnalysisFits settings uri analysis) (left : Owed uri s.brought rest)
    (follows : .modelChanging uri ∈ rest) (sent : document ∈ s.brought) : Fits settings uri
      (s.advance n ⟨rest, analysis⟩ (s.documents.perform (.store uri document)) []) := by
  have forgets : s.documents.workspace.Forgets (fun _ => False)
    (s.documents.perform (.store uri document)).workspace := .nothing rfl rfl rfl
  have pending : (s.advance n ⟨rest, analysis⟩ (s.documents.perform (.store uri document))
      []).Pending uri := ⟨n, by rw [handlers_advance]; exact follows⟩
  have stored : (s.documents.perform (.store uri document)).get? uri = some document :=
    (OpenDocuments.get?_store uri).trans (if_pos rfl)
  refine h.advance forgets (fun other found => ?_) left
    (fits.carry forgets (List.Subset.refl _) (.inr (.inr fun _ _ => .inr pending)))
    (.inr (.inr fun _ _ => .inr pending)) ?_ isVersioned_nil
  · exact Option.some.inj (stored.symm.trans found) ▸ sent
  · refine h.phase.imp (fun early => ?_) fun late => ?_
    · exact ⟨early.empty, early.not_parsing_advance (by rw [task]; exact id), fun _ => pending⟩
    · refine ⟨?_, late.loaded, late.not_loading_advance (by simp [task])⟩
      show (s.documents.perform (.store uri document)).get? uri ≠ none
      rw [stored]
      nofun

/-- A handler makes its next access. -/
theorem Fits.access (h : Fits settings uri s) {access : DocumentAccess}
    {rest : List DocumentAccess} (task : s.handlers n = ⟨access :: rest, analysis⟩) :
    Fits settings uri (s.advance n ⟨rest, analysis⟩ (s.documents.perform access) []) := by
  have fits := h.analyses n
  have owed := h.owed n
  rw [task] at fits owed
  obtain ⟨left, last | ⟨follows, loads | ⟨document, sent, stores⟩⟩⟩ := owed.cons
  · obtain ⟨rfl, rfl⟩ := last
    exact h.announce task fits
  · subst loads
    exact h.load task fits left follows
  · subst stores
    exact h.store task fits left follows sent

/-! ### Analyses -/

/-- An analysis that leaves all texts and trees as they are. -/
theorem Fits.idle (h : Fits settings uri s) (task : s.handlers n = ⟨[], analysis⟩)
    {after : Analysis} (fits : s.AnalysisFits settings uri after) (quiet : ¬ after.IsParsing)
    (versioned : ∀ notice ∈ sent, IsVersioned settings uri s.brought notice) :
    Fits settings uri (s.advance n ⟨[], after⟩ s.documents sent) := by
  have nothing : s.documents.workspace.Forgets (fun _ => False) s.documents.workspace :=
    .nothing rfl rfl rfl
  have stands : ∀ text, s.Stands uri text → (s.advance n ⟨[], after⟩ s.documents sent).Stands uri
      text := fun text stood => stood.advance (by rw [task]) rfl
  refine h.advance nothing h.stored .nothing
    (fits.carry nothing (List.Subset.refl _) (.inl quiet)) (.inr (.inr stands)) ?_ versioned
  refine h.phase.imp (fun early => ?_) fun late => ?_
  · exact ⟨early.empty, early.not_parsing_advance fun parsing => absurd parsing quiet,
      fun loads => (early.loading loads).advance (by simp [task])⟩
  · exact ⟨late.there, late.loaded, late.not_loading_advance (by simp)⟩

/-- Looking up: a tree that is found is the one of the stored text, because nothing is
    pending. -/
theorem Fits.lookup (h : Fits settings uri s)
    (task : s.handlers n = ⟨[], .retrieving uri (.read uri text)⟩) (current : s.Holds uri text)
    (alone : ∀ m, (s.handlers m).accesses = []) : Fits settings uri (s.proceed n) := by
  have settled : ¬ s.Pending uri := fun ⟨m, there⟩ => by rw [alone m] at there; cases there
  have forgets := Workspace.forgets_lookup h.orderly uri.text
  have loadsInput := Workspace.loadsInput_lookup h.orderly uri.text
  have late : s.Late uri := by
    -- A reading of a text was preceded by an opening, so the early phase is over.
    refine h.phase.elim (fun early => ?_) id
    obtain ⟨document, there, -⟩ := current
    exact ⟨by rw [there]; nofun, Bool.eq_false_iff.mpr (mt early.loading settled),
      fun m there => by rw [alone m] at there; cases there⟩
  have stands : ∀ {after : Analysis} {w : Workspace} (text), s.Stands uri text →
      (s.advance n ⟨[], after⟩ { s.documents with workspace := w } []).Stands uri text :=
    fun text stood => stood.advance (by rw [task]) rfl
  rw [proceed_of_retrieval task (Nat.succ_pos _), Retrieval.step, FileMetadata.key_ofUri]
  cases looked : s.documents.workspace.lookup uri.text with
  | mk answer w =>
      rw [looked] at forgets loadsInput
      have after : ∀ analysis, (s.advance n ⟨[], analysis⟩ { s.documents with workspace := w }
          []).Late uri := fun analysis =>
        ⟨late.there, loadsInput.trans late.loaded, late.not_loading_advance (by simp)⟩
      cases answer with
      | found tree =>
          have kept := Workspace.lookup_found h.orderly (congrArg Prod.fst looked)
          obtain ⟨other, stood, parse⟩ := h.tree tree kept
          obtain ⟨document, there, rfl⟩ := current
          obtain ⟨present, found, rfl⟩ := stood.resolve_right settled
          obtain rfl : document = present := Option.some.inj (there.symm.trans found)
          -- The tree that was hit is a parse of the text that stands, which is the text asked for.
          exact h.advance forgets h.stored .nothing ⟨rfl, parse⟩ (.inr (.inr stands))
            (.inr (after _)) isVersioned_nil
      | missing fetch =>
          obtain rfl := Workspace.lookup_missing h.orderly (congrArg Prod.fst looked)
          refine h.advance forgets h.stored .nothing ⟨rfl, rfl, forgets.mono _, fun _ => ?_⟩
            (.inr (.inr stands)) (.inr (after _)) isVersioned_nil
          -- A miss notes the generation; until it is raised, the text asked for stands.
          exact stands text (.inl current)

/-- Keeping a tree whose text stands. -/
theorem Fits.keep (h : Fits settings uri s) (late : s.Late uri) (fetch : PendingFetch)
    {tree : ParsedTree}
    (parse : tree.tree = SyntaxTree.parse settings.options text.toList uri.text)
    (stood : s.documents.workspace.generation fetch.key = fetch.generation → s.Stands uri text) :
    Fits settings uri
      ⟨{ s.documents with workspace := s.documents.workspace.keep fetch tree }, s.handlers,
        s.brought, s.sent⟩ where
  orderly := h.orderly.keep
  configured := Workspace.settings_keep.trans h.configured
  stored := h.stored
  owed := h.owed
  analyses m := by
    have before := h.analyses m
    show AnalysisFits settings uri _ (s.handlers m).analysis
    generalize (s.handlers m).analysis = other at before ⊢
    -- Keeping a tree touches no handler; only what waits for a fetch looks at the generations.
    match other, before with
    | .retrieving _ (.asked _), before => exact before
    | .retrieving _ (.read _ _), before => exact before
    | .retrieving _ (.done (some _)), before => exact before
    | .retrieving _ (.done none), _ => trivial
    | .retrieved _ _, before => exact before
    | .sending _, before => exact before
    | .done, _ => trivial
    | .retrieving _ (.missed _ _), before =>
        simp only [AnalysisFits, Workspace.generation_keep]
        exact before
  tree other found := by
    -- The cached tree is the one just kept, or was cached before.
    rcases h.orderly.peek?_keep found with ⟨-, rfl, current⟩ | before
    · exact ⟨text, stood current, parse⟩
    · exact h.tree other before
  phase := .inr ⟨late.there, Workspace.loadsInput_keep.trans late.loaded, late.opened⟩
  sent := h.sent

/-- Making a tree: it is kept only if its text is stored, or if it will be forgotten. -/
theorem Fits.conclude (h : Fits settings uri s) {fetch : PendingFetch}
    (task : s.handlers n = ⟨[], .retrieving uri (.missed fetch text)⟩) :
    Fits settings uri (s.proceed n) := by
  have fits := h.analyses n
  rw [task] at fits
  obtain ⟨-, key, noted, stood⟩ := fits
  -- A handler that is waiting for its parse shows that the document was opened.
  have late : s.Late uri := h.phase.resolve_left fun early =>
    early.idle n (by rw [task]; trivial)
  let made := s.documents.workspace.parseText fetch.key text
  let after : SharedServer := s.advance n ⟨[], .retrieving uri (.done (some ⟨made.1, text⟩))⟩
    { s.documents with workspace := made.2 } []
  have parse : made.1.tree = SyntaxTree.parse settings.options text.toList uri.text := by
    rw [← h.configured, ← key]
    rfl
  have forgets : s.documents.workspace.Forgets (fun _ => False) made.2 :=
    Workspace.forgets_parseText fetch.key text
  have stands : ∀ text, s.Stands uri text → after.Stands uri text :=
    fun text stood => stood.advance (by rw [task]) rfl
  have late' : after.Late uri := ⟨late.there, late.loaded, late.not_loading_advance (by simp)⟩
  -- The step is taken in two: the text is parsed, then the tree is kept.
  have parsed : Fits settings uri after :=
    h.advance forgets h.stored .nothing ⟨rfl, parse⟩ (.inr (.inr stands)) (.inr late')
      isVersioned_nil
  have kept := parsed.keep late' fetch parse fun current => stands text (stood current)
  rw [proceed, task]
  exact kept

/-- The version is read: it is the one of the stored text, which was analysed. -/
theorem Fits.note (h : Fits settings uri s) {found : DocumentTree}
    (task : s.handlers n = ⟨[], .retrieved uri found⟩)
    (parse : found.parsed.tree = SyntaxTree.parse settings.options found.text.toList uri.text)
    (stored : s.Holds uri found.text) : Fits settings uri (s.proceed n) := by
  obtain ⟨document, there, same⟩ := stored
  have notice : Analysis.noticeOf uri found ((s.documents.get? uri).map OpenDocument.version) =
      EditorView.notice settings.options uri document := by
    rw [there, Analysis.noticeOf, parse, ← same, EditorView.ofTree_eq_problems]
    rfl
  rw [SharedServer.proceed, task]
  refine h.idle task (fun _ _ version own => ?_) id isVersioned_nil
  rw [notice] at own ⊢
  cases own
  exact ⟨document, h.stored document there, rfl, rfl⟩

/-- Every step that the rule allows. -/
theorem Fits.proceed (h : Fits settings uri s) (rule : s.Undisturbed uri n) :
    Fits settings uri (s.proceed n) := by
  have fits := h.analyses n
  cases task : s.handlers n with
  | mk accesses analysis =>
      rw [task] at fits
      cases accesses with
      | cons access rest =>
          rw [proceed_of_access task]
          exact h.access task
      | nil =>
          -- No access is left, so it is the analysis that goes on, phase by phase.
          match analysis, fits, task with
          | .retrieving about (.asked u), ⟨own, same⟩, task =>
              subst own same
              rw [proceed_of_retrieval task (Nat.succ_pos _), Retrieval.step]
              cases there : s.documents.get? u with
              | none => exact h.idle task trivial id isVersioned_nil
              | some document => exact h.idle task ⟨rfl, rfl⟩ id isVersioned_nil
          | .retrieving about (.read u text), ⟨own, same⟩, task =>
              subst own same
              exact h.lookup task (rule.current _ _ _ task) (rule.alone _ _ _ task)
          | .retrieving about (.missed fetch text), ⟨own, _⟩, task =>
              subst own
              exact h.conclude task
          | .retrieving about (.done (some found)), fits, task =>
              rw [SharedServer.proceed, task]
              exact h.idle task fits id isVersioned_nil
          | .retrieving about (.done none), fits, task =>
              rw [SharedServer.proceed, task]
              exact h.idle task trivial id isVersioned_nil
          -- The version is read last, and the rule says that it is still that of the text parsed.
          | .retrieved about found, ⟨own, parse⟩, task =>
              subst own
              exact h.note task parse (rule.version _ _ task)
          | .sending notice, fits, task =>
              rw [SharedServer.proceed, task]
              exact h.idle task trivial id fun other there => by
                obtain rfl := List.mem_singleton.mp there
                exact fits
          | .done, fits, task =>
              rw [SharedServer.proceed, task]
              exact h.idle task trivial id isVersioned_nil

/-! ## The run -/

/-- A handler is set to work on a new text. -/
theorem Fits.begin (h : Fits settings uri s)
    (owed : Owed uri (document :: s.brought) handler.accesses)
    (start : handler.analysis = .start uri) (idle : s.handlers n = .idle)
    (closed : .inputChanged ∈ handler.accesses → s.documents.get? uri = none) :
    Fits settings uri (s.begin n handler document) := by
  -- An opening only adds a document to those brought and touches no workspace yet.
  have more : s.brought ⊆ document :: s.brought := List.subset_cons_self _ _
  have nothing : s.documents.workspace.Forgets (fun _ => False)
      (s.begin n handler document).documents.workspace := .nothing rfl rfl rfl
  have pending : s.Pending uri → (s.begin n handler document).Pending uri := by
    rintro ⟨m, there⟩
    have other : m ≠ n := fun same => by rw [same, idle] at there; cases there
    exact ⟨m, by rwa [show (s.begin n handler document).handlers m = _ from if_neg other]⟩
  have stands : ∀ text, s.Stands uri text → (s.begin n handler document).Stands uri text :=
    fun _ => Or.imp id pending
  have fits : (s.begin n handler document).AnalysisFits settings uri handler.analysis := by
    rw [start]
    exact ⟨rfl, rfl⟩
  have quiet : ¬ handler.analysis.IsParsing := by
    rw [start]
    exact id
  exact
    { orderly := h.orderly
      configured := h.configured
      stored := fun other found => more (h.stored other found)
      owed := forall_begin (p := fun t => Owed uri (document :: s.brought) t.accesses) owed
        fun m => (h.owed m).mono more
      analyses := forall_begin (p := fun t => AnalysisFits settings uri _ t.analysis) fits
        fun m => (h.analyses m).carry nothing more (.inr (.inr stands))
      tree := fun tree found => by
        obtain ⟨text, stood, parse⟩ := h.tree tree found
        exact ⟨text, stands text stood, parse⟩
      -- Before the first access a new handler neither parses nor ends the early phase.
      phase := by
        refine h.phase.imp (fun early => ?_) fun late => ?_
        · exact ⟨early.empty, forall_begin (p := fun t => ¬ t.analysis.IsParsing) quiet early.idle,
            fun loads => pending (early.loading loads)⟩
        · exact ⟨late.there, late.loaded, forall_begin (p := fun t => .inputChanged ∉ t.accesses)
            (fun there => late.there (closed there)) late.opened⟩
      sent := fun notice there => (h.sent notice there).mono more }

/-- Nothing has happened yet. -/
theorem fits_start : Fits settings uri (ofSettings settings) where
  orderly := Workspace.orderly_ofSettings settings
  configured := rfl
  stored document found := by
    simp [ofSettings, OpenDocuments.ofSettings, OpenDocuments.get?] at found
  owed _ := .nothing
  analyses _ := trivial
  tree tree found := by
    have none : (ofSettings settings).documents.workspace.trees.peek? uri.text = none :=
      RecencyCache.peek?_empty
    cases none.symm.trans found
  phase := .inl ⟨RecencyCache.peek?_empty, fun _ => id, nofun⟩
  sent := nofun

/-- Whatever has come, what is out of date will be forgotten. -/
theorem Reached.fits (h : Reached settings uri (Undisturbed uri) s) : Fits settings uri s := by
  induction h with
  | start => exact fits_start
  | opened _ _ _ idle closed _ ih =>
      exact ih.begin (.opening List.mem_cons_self) rfl idle fun _ => closed
  | changed _ _ _ _ _ idle last _ ih =>
      rw [Server.changed_of_last last]
      exact ih.begin (.change List.mem_cons_self) rfl idle fun there => by
        simp [DocumentAccess.changing] at there
  | proceed _ follows ih => exact ih.proceed follows

/-- PUBLISHED DIAGNOSTICS MATCH THEIR VERSION, if a tree is looked up only for the text
    that is stored, while no handler has yet to announce a change, and if a version is
    read only while the text that was analysed is stored: whatever handlers open and
    change the document and however they overlap, what is published with a version is
    what is wrong with the text that was sent with it. -/
theorem versioned_of_undisturbed (settings : WorkspaceSettings) (uri : Uri)
    (h : Reached settings uri (Undisturbed uri) s) : s.Versioned settings uri := h.fits.sent

/-! ## Handlers that nothing interrupts -/

/-- A handler makes all its accesses. -/
theorem Reached.accesses (h : Reached settings uri rule s) (accesses : List DocumentAccess)
    (task : s.handlers n = ⟨accesses, analysis⟩) (some : accesses ≠ [])
    (follows : ∀ t : SharedServer, (t.handlers n).accesses ≠ [] → rule t n) :
    Reached settings uri rule
      (s.advance n ⟨[], analysis⟩ (s.documents.performAll accesses) []) := by
  have go : ∀ left d, Reached settings uri rule (s.advance n ⟨left, analysis⟩ d []) →
      Reached settings uri rule (s.advance n ⟨[], analysis⟩ (d.performAll left) []) := by
    intro left
    induction left with
    | nil => exact fun d h => h
    | cons access left ih =>
        intro d h
        have next := h.proceed (follows _ (by rw [handlers_advance]; nofun))
        rw [proceed_of_access handlers_advance, advance_advance] at next
        exact ih _ next
  obtain ⟨access, left, rfl⟩ := List.exists_cons_of_ne_nil some
  have first := h.proceed (follows s (by rw [task]; nofun))
  rw [proceed_of_access task] at first
  exact go left _ first

/-- The text of a document is read for its analysis. -/
theorem Reached.asked (h : Reached settings uri rule s) (task : s.handlers n = .analyse uri)
    (there : s.documents.get? uri = some document) (follows : rule s n) :
    Reached settings uri rule
      (s.advance n ⟨[], .retrieving uri (.read uri document.text)⟩ s.documents []) := by
  have next := h.proceed follows
  rw [proceed_of_retrieval task (Nat.succ_pos _), OpenDocuments.step_asked_of_open there] at next
  exact next

/-- What was retrieved is published. -/
theorem Reached.publish (h : Reached settings uri rule s) {found : DocumentTree}
    (task : s.handlers n = ⟨[], .retrieving uri (.done (some found))⟩)
    (follows : ∀ t : SharedServer, t.documents = s.documents →
      (∀ about u text, t.handlers n ≠ ⟨[], .retrieving about (.read u text)⟩) →
      (∀ about other, t.handlers n = ⟨[], .retrieved about other⟩ → other = found) → rule t n) :
    Reached settings uri rule (s.advance n .idle s.documents
      [Analysis.noticeOf uri found ((s.documents.get? uri).map OpenDocument.version)]) := by
  let notice := Analysis.noticeOf uri found ((s.documents.get? uri).map OpenDocument.version)
  have retrieved := h.proceed (follows s rfl (by simp [task]) (by simp [task]))
  rw [proceed_of_step task rfl] at retrieved
  have read := retrieved.proceed (n := n) (follows _ rfl (by simp) (by simp))
  rw [proceed_of_step handlers_advance rfl, advance_advance] at read
  replace read : Reached settings uri rule
    (s.advance n ⟨[], .sending notice⟩ s.documents []) := read
  have sent := read.proceed (n := n) (follows _ rfl (by simp) (by simp))
  rw [proceed_of_step handlers_advance rfl, advance_advance] at sent
  exact sent

/-- A text that was read is analysed. -/
theorem Reached.analyse (h : Reached settings uri rule s) (text : String)
    (task : s.handlers n = ⟨[], .retrieving uri (.read uri text)⟩) (first : rule s n)
    (follows : ∀ t : SharedServer, t.documents.documents = s.documents.documents →
      (∀ about u text, t.handlers n ≠ ⟨[], .retrieving about (.read u text)⟩) →
      (∀ about found, t.handlers n = ⟨[], .retrieved about found⟩ → found.text = text) →
      rule t n) :
    Reached settings uri rule (s.advance n .idle (s.documents.fetched uri text)
      [Analysis.noticeOf uri (s.documents.treeOf uri text)
        ((s.documents.get? uri).map OpenDocument.version)]) := by
  -- What both answers of the cache have in common: the tree is there, and its notice is sent.
  have publish : ∀ (found : DocumentTree) d, found.text = text →
      d.documents = s.documents.documents →
      Reached settings uri rule (s.advance n ⟨[], .retrieving uri (.done (some found))⟩ d []) →
      Reached settings uri rule (s.advance n .idle d
        [Analysis.noticeOf uri found ((s.documents.get? uri).map OpenDocument.version)]) := by
    intro found d own same retrieved
    have published := retrieved.publish handlers_advance fun t there unread other =>
      follows t (by rw [there]; exact same) unread fun about found task => by
        rw [other about found task]
        exact own
    rw [advance_advance, OpenDocuments.get?] at published
    rw [OpenDocuments.get?, ← same]
    exact published
  have looked := h.proceed first
  rw [proceed_of_retrieval task (Nat.succ_pos _), Retrieval.step,
    FileMetadata.key_ofUri] at looked
  simp only [OpenDocuments.treeOf, OpenDocuments.fetched, Workspace.retrieve]
  cases found : s.documents.workspace.lookup uri.text with
  | mk answer w =>
      rw [found] at looked
      cases answer with
      | found tree => exact publish ⟨tree, text⟩ _ rfl rfl looked
      | missing fetch =>
          -- A miss parses in a step of its own and keeps the tree in the same one.
          replace looked : Reached settings uri rule (s.advance n
            ⟨[], .retrieving uri (.missed fetch text)⟩ ⟨s.documents.documents, w⟩ []) := looked
          have made := looked.proceed (n := n) (follows _ rfl (by simp) (by simp))
          rw [proceed_of_step handlers_advance rfl, advance_advance] at made
          exact publish ⟨(w.conclude fetch text).1, text⟩ _ rfl rfl made

/-- The document is opened, and its text is read for its analysis. -/
def readOnce (settings : WorkspaceSettings) (uri : Uri) (document : OpenDocument) : SharedServer :=
  ((ofSettings settings).begin 0 (.opened uri document) document).advance 0
    ⟨[], .retrieving uri (.read uri document.text)⟩
    ((OpenDocuments.ofSettings settings).openDocument uri document) []

/-- The document is open. -/
theorem get?_readOnce : (readOnce settings uri document).documents.get? uri = some document :=
  (OpenDocuments.get?_store uri).trans (if_pos rfl)

/-- Where one text was sent, only its version is not new. -/
theorem isNew_of_brought {document : OpenDocument} (brought : s.brought = [document])
    (differ : document.version ≠ version) : s.IsNew version := by
  intro other sent
  rw [brought, List.mem_singleton] at sent
  exact sent ▸ differ

/-- Handlers have led there. -/
theorem reached_readOnce (document : OpenDocument)
    (follows : ∀ t : SharedServer, (∀ about u text,
      t.handlers 0 ≠ ⟨[], .retrieving about (.read u text)⟩) →
      (∀ about found, t.handlers 0 ≠ ⟨[], .retrieved about found⟩) → rule t 0) :
    Reached settings uri rule (readOnce settings uri document) := by
  have nobody : Reached settings uri rule (ofSettings settings) := .start
  have opened := nobody.opened 0 document rfl
    (by simp [ofSettings, OpenDocuments.ofSettings, OpenDocuments.get?]) nofun
  have stored := opened.accesses (DocumentAccess.opening uri document) handlers_begin
    (List.cons_ne_nil _ _) fun t some =>
      follows t (fun _ _ _ task => some (by rw [task])) fun _ _ task => some (by rw [task])
  have asked := stored.asked handlers_advance
    ((OpenDocuments.get?_store uri).trans (if_pos rfl)) (follows _ (by simp [Analysis.start])
      (by simp [Analysis.start]))
  rw [advance_advance] at asked
  exact asked

/-- A handler that neither looks a tree up nor reads a version may always go on. -/
theorem undisturbed_of_blind
    (unread : ∀ about u text, s.handlers n ≠ ⟨[], .retrieving about (.read u text)⟩)
    (unretrieved : ∀ about found, s.handlers n ≠ ⟨[], .retrieved about found⟩) :
    s.Undisturbed uri n where
  current about u text task := absurd task (unread about u text)
  alone about u text task := absurd task (unread about u text)
  version about found task := absurd task (unretrieved about found)

/-- The stored text is analysed, while no handler has accesses left. -/
theorem Reached.analyseAlone (h : Reached settings uri (Undisturbed uri) s)
    (task : s.handlers n = ⟨[], .retrieving uri (.read uri text)⟩) (holds : s.Holds uri text)
    (alone : ∀ m, (s.handlers m).accesses = []) :
    Reached settings uri (Undisturbed uri) (s.advance n .idle (s.documents.fetched uri text)
      [Analysis.noticeOf uri (s.documents.treeOf uri text)
        ((s.documents.get? uri).map OpenDocument.version)]) := by
  refine h.analyse text task ⟨fun _ _ _ own => ?_, fun _ _ _ _ => alone, fun _ _ own => ?_⟩
    fun t same unread own => ⟨fun about u text task => absurd task (unread about u text),
      fun about u text task => absurd task (unread about u text), fun about found task => ?_⟩
  · cases task.symm.trans own
    exact holds
  · cases task.symm.trans own
  · rw [own about found task]
    obtain ⟨document, there, text⟩ := holds
    rw [OpenDocuments.get?, ← same] at there
    exact ⟨document, there, text⟩

/-- A document is opened and analysed, and so is the text of a change. -/
theorem versioned_of_undisturbed_changed :
    let uri : Uri := ⟨"untitled", none, "a", none, none⟩
    ∃ s first second, Reached .default uri (Undisturbed uri) s ∧ s.sent = [first, second] ∧
      s.brought = [⟨"a;", 2⟩, ⟨"a(", 1⟩] ∧ s.Versioned .default uri := by
  intro uri
  have read : Reached .default uri (Undisturbed uri) (readOnce .default uri ⟨"a(", 1⟩) :=
    reached_readOnce _ fun t => undisturbed_of_blind
  have first := read.analyseAlone handlers_advance ⟨_, get?_readOnce, rfl⟩
    (by rintro (_ | _) <;> rfl)
  have changed := first.changed 1 ["a;"] "a;" 2 rfl rfl (isNew_of_brought rfl (by decide))
  generalize (readOnce .default uri ⟨"a(", 1⟩).documents.fetched uri "a(" = d at changed
  have announced := changed.accesses (DocumentAccess.changing uri ⟨"a;", 2⟩) handlers_begin
    (List.cons_ne_nil _ _) fun t some => undisturbed_of_blind
      (fun _ _ _ task => some (by rw [task])) fun _ _ task => some (by rw [task])
  have present : (d.performAll (DocumentAccess.changing uri ⟨"a;", 2⟩)).get? uri = some ⟨"a;", 2⟩ :=
    (OpenDocuments.get?_store uri).trans (if_pos rfl)
  have asked := announced.asked handlers_advance present
    (undisturbed_of_blind (by simp [Analysis.start]) (by simp [Analysis.start]))
  have second := asked.analyseAlone handlers_advance ⟨_, present, rfl⟩
    (by rintro (_ | _ | _) <;> rfl)
  exact ⟨_, _, _, second, rfl, rfl, versioned_of_undisturbed .default uri second⟩

/-! ## Handlers that overlap freely -/

/-- A change that comes while the former text is analysed: both analyses publish what
    is wrong with the tree of the former text, and both with the version of the latter. -/
theorem exists_misversioned (settings : WorkspaceSettings) (uri : Uri)
    (former latter : OpenDocument) (differ : former.version ≠ latter.version) :
    let tree := SyntaxTree.parse settings.options former.text.toList uri.text
    ∃ s, Reached settings uri (fun _ _ => True) s ∧ s.brought = [latter, former] ∧
      s.sent = [
        .publish uri (EditorDiagnostic.ofTree former.text.toList tree) (some latter.version),
        .publish uri (EditorDiagnostic.ofTree latter.text.toList tree) (some latter.version)] := by
  intro tree
  have read : Reached settings uri (fun _ _ => True) (readOnce settings uri former) :=
    reached_readOnce former fun _ _ _ => trivial
  have changed := read.changed 1 [latter.text] latter.text latter.version rfl rfl
    (isNew_of_brought rfl differ)
  have announced := changed.accesses (DocumentAccess.changing uri latter) handlers_begin
    (List.cons_ne_nil _ _) fun _ _ => trivial
  let d := (readOnce settings uri former).documents.changeDocument uri latter
  have there : d.get? uri = some latter := (OpenDocuments.get?_store uri).trans (if_pos rfl)
  have opened := Workspace.forgets_inputChanged.trans
    (Workspace.forgets_modelChanging_of_loading
      (show (Workspace.ofSettings settings).inputChanged.loadsInput = true from rfl)
      (some (.ofUri uri)))
  have forgets := Workspace.forgets_modelChanging_of_loaded
    (show (readOnce settings uri former).documents.workspace.loadsInput = false from
      Workspace.loadsInput_modelChanging) (some (.ofUri uri))
  have orderly := opened.orderly (Workspace.orderly_ofSettings settings)
  obtain ⟨made, found⟩ := OpenDocuments.treeOf_of_absent (d := d) (forgets.orderly orderly)
    (forgets.dropped orderly uri.text rfl) former.text latter.text
  have configured : d.workspace.settings = settings := forgets.settings.trans opened.settings
  rw [configured] at made
  -- The first analysis makes the tree of the former text, and the second finds it.
  have first := announced.analyse (n := 0) former.text rfl trivial fun _ _ _ _ => trivial
  have kept : (d.fetched uri former.text).get? uri = some latter :=
    (OpenDocuments.get?_fetched _ _).trans there
  have asked := first.asked (n := 1) rfl kept trivial
  have second := asked.analyse latter.text handlers_advance trivial fun _ _ _ _ => trivial
  refine ⟨_, second, rfl, ?_⟩
  show [Analysis.noticeOf uri (d.treeOf uri former.text) ((d.get? uri).map OpenDocument.version),
    Analysis.noticeOf uri ((d.fetched uri former.text).treeOf uri latter.text)
      (((d.fetched uri former.text).get? uri).map OpenDocument.version)] = _
  rw [there, kept, Analysis.noticeOf, Analysis.noticeOf, found, made]
  rfl

/-- Handlers that overlap may publish what is wrong with another text than the one that
    was sent with the version. -/
theorem not_versioned :
    ¬ ∀ settings uri s, Reached settings uri (fun _ _ => True) s → s.Versioned settings uri := by
  intro all
  let uri : Uri := ⟨"untitled", none, "a", none, none⟩
  obtain ⟨s, reached, brought, sent⟩ :=
    exists_misversioned .default uri ⟨"(", 1⟩ ⟨")", 2⟩ (by decide)
  obtain ⟨document, there, same, notice⟩ := all _ _ s reached _
    (by rw [sent]; exact List.mem_cons_self) uri _ 2 rfl
  obtain rfl : document = ⟨")", 2⟩ := by
    rw [brought] at there
    rcases List.mem_cons.mp there with latter | former
    · exact latter
    · obtain rfl := List.mem_singleton.mp former
      cases same
  have diagnostics := (ServerNotice.publish.inj notice).2.1
  have first := congrArg (fun l => l.head?.map EditorDiagnostic.message) diagnostics
  exact absurd first (by decide +kernel)

end SharedServer

end ScriptTree

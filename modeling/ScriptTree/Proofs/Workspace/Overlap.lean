import ScriptTree.Proofs.Workspace.Generation

/-! # Overlapping fetches

    Any number of calls ask a workspace for trees, each in three steps: it looks
    the key up, it reads and parses the text, and it has the tree kept.  Other
    calls and the events of editors may come between any two of them.

    What is kept under a key was made by a call whose steps have all come since
    the key was invalidated last.  The invariant ties each call to the generation
    it has noted: while that is the generation of its key, no step of the call is
    older than the last invalidation. -/

namespace ScriptTree

/-- How far a call for a tree has come. -/
inductive FetchPhase where
  /-- Nothing was done yet. -/
  | idle
  /-- No tree was found; the text is still to be read. -/
  | reading (pending : PendingFetch)
  /-- The text was parsed; the tree is still to be kept. -/
  | parsed (pending : PendingFetch) (tree : ParsedTree)
  /-- A tree was found and is returned. -/
  | found (tree : ParsedTree)
  /-- The tree that was made is returned, kept or not. -/
  | made (tree : ParsedTree)
  /-- There was no text. -/
  | failed (error : FetchError)

/-- What a call has returned. -/
def FetchPhase.outcome? : FetchPhase → Option (Except FetchError ParsedTree)
  | .found tree => some (.ok tree)
  | .made tree => some (.ok tree)
  | .failed error => some (.error error)
  | _ => none

/-- A step of a call, or an event. -/
inductive WorkspaceEvent where
  | lookup (call : Nat) (file : Option FileMetadata)
  | read (call : Nat) (text : Except FetchError String)
  | keep (call : Nat)
  | invalidate (file : Option FileMetadata)
  | inputChanged
  | modelChanging (file : Option FileMetadata)
  | filesChanged (kind : FileEventKind) (files : List FileMetadata)

/-- A workspace and the calls on it, each with a number of its own. -/
structure SharedWorkspace where
  workspace : Workspace
  phases : Nat → FetchPhase

namespace SharedWorkspace

/-- A workspace without trees, on which nobody has called. -/
def ofSettings (settings : WorkspaceSettings) : SharedWorkspace :=
  ⟨.ofSettings settings, fun _ => .idle⟩

/-- A call has come to another phase and has left a workspace behind. -/
def advance (s : SharedWorkspace) (call : Nat) (phase : FetchPhase) (workspace : Workspace) :
    SharedWorkspace :=
  ⟨workspace, fun c => if c = call then phase else s.phases c⟩

/-- What may come next, and what it leads to. -/
inductive Step (s : SharedWorkspace) : WorkspaceEvent → SharedWorkspace → Prop where
  | hit {call : Nat} {file : Option FileMetadata} {tree : ParsedTree} {w : Workspace} :
      s.phases call = .idle →
      s.workspace.lookup (FileMetadata.key file) = (.found tree, w) →
      s.Step (.lookup call file) (s.advance call (.found tree) w)
  | miss {call : Nat} {file : Option FileMetadata} {pending : PendingFetch} {w : Workspace} :
      s.phases call = .idle →
      s.workspace.lookup (FileMetadata.key file) = (.missing pending, w) →
      s.Step (.lookup call file) (s.advance call (.reading pending) w)
  | read {call : Nat} {text : String} {pending : PendingFetch} {tree : ParsedTree}
      {w : Workspace} :
      s.phases call = .reading pending →
      s.workspace.parseText pending.key text = (tree, w) →
      s.Step (.read call (.ok text)) (s.advance call (.parsed pending tree) w)
  | fail {call : Nat} {error : FetchError} {pending : PendingFetch} :
      s.phases call = .reading pending →
      s.Step (.read call (.error error)) (s.advance call (.failed error) s.workspace)
  | keep {call : Nat} {pending : PendingFetch} {tree : ParsedTree} :
      s.phases call = .parsed pending tree →
      s.Step (.keep call) (s.advance call (.made tree) (s.workspace.keep pending tree))
  | invalidate (file : Option FileMetadata) :
      s.Step (.invalidate file) { s with workspace := (s.workspace.invalidate file).2 }
  | inputChanged : s.Step .inputChanged { s with workspace := s.workspace.inputChanged }
  | modelChanging (file : Option FileMetadata) :
      s.Step (.modelChanging file) { s with workspace := s.workspace.modelChanging file }
  | filesChanged (kind : FileEventKind) (files : List FileMetadata) :
      s.Step (.filesChanged kind files)
        { s with workspace := s.workspace.filesChanged kind files }

/-- A history, what came last in front, has led here. -/
inductive Reached (settings : WorkspaceSettings) :
    List WorkspaceEvent → SharedWorkspace → Prop where
  | start : Reached settings [] (.ofSettings settings)
  | step {history : List WorkspaceEvent} {event : WorkspaceEvent} {s t : SharedWorkspace} :
      Reached settings history s → s.Step event t → Reached settings (event :: history) t

end SharedWorkspace

/-! ## Histories -/

namespace WorkspaceEvent

/-- An input that an editor has turned to was not loaded yet. -/
def awaitsLoad : List WorkspaceEvent → Bool
  | [] => false
  | .inputChanged :: _ => true
  | .modelChanging _ :: _ => false
  | _ :: before => awaitsLoad before

/-- An event behind a history makes the tree of a key wrong.  The model change
    that comes from loading an input does not. -/
def invalidates (scriptType key : String) (before : List WorkspaceEvent) :
    WorkspaceEvent → Bool
  | .invalidate file => FileMetadata.key file == key
  | .modelChanging file => !awaitsLoad before && FileMetadata.key file == key
  | .filesChanged .changed files => files.any fun file =>
    file.contentType == some scriptType && FileMetadata.key (some file) == key
  | _ => false

/-- What has come since the tree of a key was made wrong last. -/
def sinceInvalidation (scriptType key : String) : List WorkspaceEvent → List WorkspaceEvent
  | [] => []
  | event :: before =>
    if event.invalidates scriptType key before then []
    else event :: sinceInvalidation scriptType key before

variable {scriptType key : String} {event : WorkspaceEvent} {steps before : List WorkspaceEvent}

/-- Other events put no steps out of date. -/
theorem since_cons (h : steps.Sublist (sinceInvalidation scriptType key before))
    (other : ¬ event.invalidates scriptType key before) :
    steps.Sublist (sinceInvalidation scriptType key (event :: before)) := by
  rw [sinceInvalidation, if_neg other]
  exact h.cons event

/-- One more step is up to date if those before it are. -/
theorem since_cons_cons (h : steps.Sublist (sinceInvalidation scriptType key before))
    (other : ¬ event.invalidates scriptType key before) :
    (event :: steps).Sublist (sinceInvalidation scriptType key (event :: before)) := by
  rw [sinceInvalidation, if_neg other]
  exact h.cons_cons event

end WorkspaceEvent

namespace SharedWorkspace

open WorkspaceEvent (awaitsLoad invalidates sinceInvalidation since_cons since_cons_cons)

variable {settings : WorkspaceSettings} {history : List WorkspaceEvent} {event : WorkspaceEvent}
  {s t : SharedWorkspace} {w w' : Workspace} {call : Nat} {phase : FetchPhase} {key : String}
  {tree : ParsedTree}

/-- A call has made the tree of a key, and all its steps have come, in this
    order, since the key was invalidated last. -/
def FetchedSince (settings : WorkspaceSettings) (history : List WorkspaceEvent)
    (s : SharedWorkspace) (key : String) (tree : ParsedTree) : Prop :=
  ∃ call file text, s.phases call = .made tree ∧ FileMetadata.key file = key ∧
    tree.tree = SyntaxTree.parse settings.options text.toList key ∧
    [.keep call, .read call (.ok text), .lookup call file].Sublist
      (sinceInvalidation settings.scriptType key history)

/-- A call on its way has noted a generation of its key.  If it is the present
    one, its steps have come since the key was invalidated last. -/
def Standing (settings : WorkspaceSettings) (w : Workspace) (history : List WorkspaceEvent)
    (call : Nat) : FetchPhase → Prop
  | .reading pending => pending.generation ≤ w.generation pending.key ∧
    (w.generation pending.key = pending.generation →
      ∃ file, FileMetadata.key file = pending.key ∧
        [.lookup call file].Sublist
          (sinceInvalidation settings.scriptType pending.key history))
  | .parsed pending tree => pending.generation ≤ w.generation pending.key ∧
    (w.generation pending.key = pending.generation →
      ∃ file text, FileMetadata.key file = pending.key ∧
        tree.tree = SyntaxTree.parse settings.options text.toList pending.key ∧
        [.read call (.ok text), .lookup call file].Sublist
          (sinceInvalidation settings.scriptType pending.key history))
  | _ => True

/-- The workspace agrees with the history that has led to it. -/
structure Coherent (settings : WorkspaceSettings) (history : List WorkspaceEvent)
    (s : SharedWorkspace) : Prop where
  orderly : s.workspace.Orderly
  configured : s.workspace.settings = settings
  loadsInput : s.workspace.loadsInput = awaitsLoad history
  standing : ∀ call, Standing settings s.workspace history call (s.phases call)
  fetched : ∀ key tree, s.workspace.trees.peek? key = some tree →
    FetchedSince settings history s key tree

/-- Nothing has happened yet. -/
theorem coherent_start : Coherent settings [] (.ofSettings settings) where
  orderly := Workspace.orderly_ofSettings settings
  configured := rfl
  loadsInput := rfl
  standing _ := trivial
  fetched key tree found := by
    have none : (ofSettings settings).workspace.trees.peek? key = none :=
      RecencyCache.peek?_empty
    rw [none] at found
    cases found

/-! ## What an event changes -/

/-- Another generation puts a call out of date, the same one leaves it as it
    stands. -/
theorem Standing.behind (h : Standing settings w history call phase)
    (raised : ∀ key, event.invalidates settings.scriptType key history →
      w.generation key < w'.generation key)
    (same : ∀ key, ¬ event.invalidates settings.scriptType key history →
      w'.generation key = w.generation key) :
    Standing settings w' (event :: history) call phase := by
  -- A pending fetch is current afterwards only where the event did not concern its key.
  have later : ∀ pending : PendingFetch, pending.generation ≤ w.generation pending.key →
      pending.generation ≤ w'.generation pending.key ∧
        (w'.generation pending.key = pending.generation →
          w.generation pending.key = pending.generation ∧
            ¬ event.invalidates settings.scriptType pending.key history) := by
    intro pending noted
    have := raised pending.key
    have := same pending.key
    grind
  cases phase with
  | reading pending =>
      obtain ⟨noted, steps⟩ := h
      obtain ⟨noted', current⟩ := later pending noted
      refine ⟨noted', fun now => ?_⟩
      obtain ⟨now, other⟩ := current now
      obtain ⟨file, own, since⟩ := steps now
      exact ⟨file, own, since_cons since other⟩
  | parsed pending tree =>
      obtain ⟨noted, steps⟩ := h
      obtain ⟨noted', current⟩ := later pending noted
      refine ⟨noted', fun now => ?_⟩
      obtain ⟨now, other⟩ := current now
      obtain ⟨file, text, own, parse, since⟩ := steps now
      exact ⟨file, text, own, parse, since_cons since other⟩
  | idle | found | made | failed => trivial

/-- A tree that was fetched since the last invalidation still is, if its key is
    not invalidated and its call has returned. -/
theorem FetchedSince.behind (h : FetchedSince settings history s key tree)
    (other : ¬ event.invalidates settings.scriptType key history)
    (made : ∀ call, s.phases call = .made tree → t.phases call = .made tree) :
    FetchedSince settings (event :: history) t key tree := by
  obtain ⟨call, file, text, phase, own, parse, since⟩ := h
  exact ⟨call, file, text, made call phase, own, parse, since_cons since other⟩

/-- An event that forgets what it invalidates keeps the workspace coherent. -/
theorem Coherent.heed (h : Coherent settings history s)
    (forgets : s.workspace.Forgets
      (fun key => event.invalidates settings.scriptType key history) w)
    (loadsInput : w.loadsInput = awaitsLoad (event :: history)) :
    Coherent settings (event :: history) { s with workspace := w } where
  orderly := forgets.orderly h.orderly
  configured := forgets.settings.trans h.configured
  loadsInput := loadsInput
  standing call := (h.standing call).behind forgets.raised forgets.same
  fetched key tree found := by
    by_cases wrong : event.invalidates settings.scriptType key history
    · cases (forgets.dropped h.orderly key wrong).symm.trans found
    · rw [forgets.kept h.orderly key wrong] at found
      exact (h.fetched key tree found).behind wrong fun _ made => made

/-! ## What a call changes -/

/-- An event that is a step of a call invalidates nothing and loads no input. -/
structure Quiet (event : WorkspaceEvent) : Prop where
  invalidates : ∀ scriptType key history, event.invalidates scriptType key history = false
  awaitsLoad : ∀ history, awaitsLoad (event :: history) = awaitsLoad history

/-- A lookup raises no generation. -/
theorem quiet_lookup {file : Option FileMetadata} : Quiet (.lookup call file) :=
  ⟨fun _ _ _ => rfl, fun _ => rfl⟩

/-- Nor does reading a text. -/
theorem quiet_read {text : Except FetchError String} : Quiet (.read call text) :=
  ⟨fun _ _ _ => rfl, fun _ => rfl⟩

/-- Nor does keeping a tree. -/
theorem quiet_keep : Quiet (.keep call) := ⟨fun _ _ _ => rfl, fun _ => rfl⟩

/-- Where no generation is raised, a call stands as it stood. -/
theorem Standing.quiet (h : Standing settings w history call phase) (quiet : Quiet event)
    (generation : ∀ key, w'.generation key = w.generation key) :
    Standing settings w' (event :: history) call phase :=
  h.behind (fun key wrong => by simp [quiet.invalidates] at wrong) fun key _ => generation key

/-- A tree that was fetched since is not out of date by a quiet event. -/
theorem FetchedSince.quiet (h : FetchedSince settings history s key tree) (quiet : Quiet event)
    (unmade : ∀ tree, s.phases call ≠ .made tree) :
    FetchedSince settings (event :: history) (s.advance call phase w) key tree :=
  h.behind (by simp [quiet.invalidates]) fun c made => by
    simp only [advance]
    split
    · rename_i same
      exact absurd (same ▸ made) (unmade tree)
    · exact made

/-- A call that has not returned comes to its next phase. -/
theorem Coherent.advance (h : Coherent settings history s) (quiet : Quiet event)
    (unmade : ∀ tree, s.phases call ≠ .made tree)
    (forgets : s.workspace.Forgets (fun _ => False) w)
    (loadsInput : w.loadsInput = s.workspace.loadsInput)
    (standing : Standing settings w (event :: history) call phase) :
    Coherent settings (event :: history) (s.advance call phase w) where
  orderly := forgets.orderly h.orderly
  configured := forgets.settings.trans h.configured
  loadsInput := loadsInput.trans (h.loadsInput.trans (quiet.awaitsLoad history).symm)
  standing c := by
    simp only [SharedWorkspace.advance]
    split
    · rename_i same
      exact same ▸ standing
    · exact (h.standing c).quiet quiet fun key => forgets.same key id
  fetched key tree found := by
    rw [show (s.advance call phase w).workspace = w from rfl, forgets.kept h.orderly key id]
      at found
    exact (h.fetched key tree found).quiet quiet unmade

/-- A call that looks up a key notes the present generation. -/
theorem standing_reading {file : Option FileMetadata} :
    Standing settings w (.lookup call file :: history) call
      (.reading ⟨FileMetadata.key file, w.generation (FileMetadata.key file)⟩) :=
  ⟨Nat.le_refl _, fun _ => ⟨file, rfl, since_cons_cons (List.nil_sublist _)
    (by simp [quiet_lookup.invalidates])⟩⟩

/-- A call that reads a text makes the tree of that text. -/
theorem Standing.read {pending : PendingFetch}
    (h : Standing settings w history call (.reading pending)) (configured : w.settings = settings)
    (text : String) :
    Standing settings (w.parseText pending.key text).2 (.read call (.ok text) :: history) call
      (.parsed pending (w.parseText pending.key text).1) := by
  obtain ⟨noted, steps⟩ := h
  refine ⟨noted, fun current => ?_⟩
  obtain ⟨file, own, since⟩ := steps current
  exact ⟨file, text, own, configured ▸ rfl,
    since_cons_cons since (by simp [quiet_read.invalidates])⟩

/-- A call that has its tree kept is one whose steps are up to date. -/
theorem Coherent.keep (h : Coherent settings history s) {pending : PendingFetch}
    (phase : s.phases call = .parsed pending tree) :
    Coherent settings (.keep call :: history)
      (s.advance call (.made tree) (s.workspace.keep pending tree)) where
  orderly := h.orderly.keep
  configured := Workspace.settings_keep.trans h.configured
  loadsInput := Workspace.loadsInput_keep.trans h.loadsInput
  standing c := by
    simp only [SharedWorkspace.advance]
    split
    · trivial
    · exact (h.standing c).quiet quiet_keep fun _ => Workspace.generation_keep
  fetched key found kept := by
    rcases h.orderly.peek?_keep kept with ⟨rfl, rfl, current⟩ | before
    · have standing := h.standing call
      rw [phase] at standing
      obtain ⟨-, steps⟩ := standing
      obtain ⟨file, text, own, parse, since⟩ := steps current
      refine ⟨call, file, text, if_pos rfl, own, parse, since_cons_cons since ?_⟩
      simp [quiet_keep.invalidates]
    · exact (h.fetched key found before).quiet quiet_keep fun tree => by simp [phase]

/-- Every step keeps the workspace coherent. -/
theorem Coherent.step (h : Coherent settings history s) (step : s.Step event t) :
    Coherent settings (event :: history) t := by
  cases step with
  | @hit call file tree w idle found =>
      obtain rfl := congrArg Prod.snd found
      exact h.advance quiet_lookup (by simp [idle]) (Workspace.forgets_lookup h.orderly _)
        (Workspace.loadsInput_lookup h.orderly _) trivial
  | @miss call file pending w idle missing =>
      obtain rfl := congrArg Prod.snd missing
      obtain rfl := Workspace.lookup_missing h.orderly (congrArg Prod.fst missing)
      have forgets := Workspace.forgets_lookup h.orderly (FileMetadata.key file)
      refine h.advance quiet_lookup (by simp [idle]) forgets
        (Workspace.loadsInput_lookup h.orderly _) ?_
      rw [← forgets.same _ id]
      exact standing_reading
  | @read call text pending tree w reading parse =>
      obtain ⟨rfl, rfl⟩ := Prod.mk.inj parse
      exact h.advance quiet_read (by simp [reading])
        (Workspace.forgets_parseText pending.key text) rfl
        -- The text just read is parsed under the generation noted with the miss.
        ((reading ▸ h.standing call).read h.configured text)
  | fail reading =>
      exact h.advance quiet_read (by simp [reading]) (.nothing rfl rfl rfl) rfl trivial
  | keep parsed => exact h.keep parsed
  | invalidate file =>
      exact h.heed ((Workspace.forgets_invalidate file).congr fun _ => by simp [invalidates])
        h.loadsInput
  | inputChanged =>
      exact h.heed (Workspace.forgets_inputChanged.congr fun _ => by simp [invalidates]) rfl
  -- A model change is heeded unless an input change announced it.
  | modelChanging file =>
      refine h.heed (Workspace.forgets_modelChanging.congr fun _ => ?_)
        Workspace.loadsInput_modelChanging
      simp [invalidates, h.loadsInput]
  | filesChanged kind files =>
      refine h.heed (Workspace.forgets_filesChanged.congr fun _ => ?_)
        (Workspace.loadsInput_filesChanged.trans h.loadsInput)
      cases kind <;> simp [invalidates, h.configured]

/-- Whatever has come, the workspace is coherent. -/
theorem Reached.coherent (h : Reached settings history s) : Coherent settings history s := by
  induction h with
  | start => exact coherent_start
  | step _ step ih => exact ih.step step

/-- NO OUTDATED TREES: however calls and events alternate, the tree kept under a
    key was made by a call that has looked it up, read its text and had its tree
    kept since the key was invalidated last.  Every tree that a lookup finds is
    such a tree. -/
theorem kept_fetchedSince (h : Reached settings history s) :
    (∀ key tree, s.workspace.trees.peek? key = some tree →
      FetchedSince settings history s key tree) ∧
    ∀ call file tree t, s.Step (.lookup call file) t → t.phases call = .found tree →
      FetchedSince settings history s (FileMetadata.key file) tree := by
  have coherent := h.coherent
  refine ⟨coherent.fetched, fun call file tree t step found => coherent.fetched _ _ ?_⟩
  cases step with
  | hit idle looked =>
      obtain rfl : _ = tree := FetchPhase.found.inj ((if_pos rfl).symm.trans found)
      exact Workspace.lookup_found coherent.orderly (congrArg Prod.fst looked)
  | miss idle looked => cases (if_pos rfl).symm.trans found

/-! ## Calls that nothing interrupts -/

/-- A call that finds nothing will read the text. -/
theorem Reached.miss (h : Reached settings history s) (call : Nat) (file : Option FileMetadata)
    (idle : s.phases call = .idle)
    (absent : s.workspace.trees.peek? (FileMetadata.key file) = none) :
    ∃ w, s.workspace.Forgets (fun _ => False) w ∧
      Reached settings (.lookup call file :: history)
        (s.advance call (.reading ⟨FileMetadata.key file,
          s.workspace.generation (FileMetadata.key file)⟩) w) := by
  have orderly := h.coherent.orderly
  exact ⟨_, Workspace.forgets_lookup orderly _,
    h.step (.miss idle (Prod.ext (Workspace.lookup_of_none orderly absent) rfl))⟩

/-- It reads the text and parses it. -/
theorem Reached.read (h : Reached settings history s) (call : Nat) (text : String)
    {pending : PendingFetch} (reading : s.phases call = .reading pending) :
    Reached settings (.read call (.ok text) :: history)
      (s.advance call (.parsed pending (s.workspace.parseText pending.key text).1)
        (s.workspace.parseText pending.key text).2) :=
  h.step (.read reading rfl)

/-- It keeps the tree that was made. -/
theorem Reached.keep (h : Reached settings history s) (call : Nat) {pending : PendingFetch}
    (parsed : s.phases call = .parsed pending tree) :
    Reached settings (.keep call :: history)
      (s.advance call (.made tree) (s.workspace.keep pending tree)) :=
  h.step (.keep parsed)

/-- The tree of a call that is up to date is kept. -/
theorem Reached.keep_current (h : Reached settings history s) (call : Nat)
    {pending : PendingFetch} (parsed : s.phases call = .parsed pending tree)
    (current : s.workspace.generation pending.key = pending.generation) :
    ∃ t, Reached settings (.keep call :: history) t ∧
      t.workspace.trees.peek? pending.key = some tree :=
  ⟨_, h.keep call parsed, h.coherent.orderly.peek?_keep_self current⟩

/-- A call whose steps follow each other at once is a fetch. -/
theorem Reached.fetch (h : Reached settings history s) (call : Nat) (file : Option FileMetadata)
    (text : Except FetchError String) (idle : s.phases call = .idle) :
    ∃ steps t, Reached settings (steps ++ history) t ∧
      t.workspace = (s.workspace.fetch file text).2 ∧
      (t.phases call).outcome? = some (s.workspace.fetch file text).1 := by
  have now : ∀ {s : SharedWorkspace} {phase w}, (s.advance call phase w).phases call = phase :=
    if_pos rfl
  rw [Workspace.fetch]
  cases looked : s.workspace.lookup (FileMetadata.key file) with
  | mk found w =>
      cases found with
      | found tree =>
          exact ⟨[.lookup call file], _, h.step (.hit idle looked), rfl, by rw [now]; rfl⟩
      | missing pending =>
          have missed := h.step (.miss idle looked)
          cases text with
          | error error =>
              exact ⟨[.read call (.error error), .lookup call file], _, missed.step (.fail now),
                rfl, by rw [now]; rfl⟩
          | ok text =>
              exact ⟨[.keep call, .read call (.ok text), .lookup call file], _,
                (missed.read call text now).keep call now, rfl, by rw [now]; rfl⟩

/-- Two calls with an invalidation between their lookups: what is kept at the end
    is the tree of the second. -/
theorem kept_fetchedSince_between :
    let file : Option FileMetadata := some ⟨some "a.js", none, none⟩
    let history : List WorkspaceEvent := [.keep 1, .keep 0, .read 1 (.ok "b"), .lookup 1 file,
      .invalidate file, .read 0 (.ok "a"), .lookup 0 file]
    ∃ s tree, Reached .default history s ∧ s.workspace.trees.peek? "a.js" = some tree ∧
      FetchedSince .default history s "a.js" tree := by
  intro file history
  have nobody : Reached .default [] (.ofSettings .default) := .start
  obtain ⟨w, -, looked⟩ := nobody.miss 0 file rfl RecencyCache.peek?_empty
  have first := looked.read 0 "a" rfl
  have absent := (Workspace.forgets_invalidate file).dropped first.coherent.orderly "a.js" rfl
  obtain ⟨w', same, looked⟩ := (first.step (.invalidate file)).miss 1 file rfl absent
  have second := (looked.read 1 "b" rfl).keep 0 rfl
  -- The generation that the second call has noted is not raised any more.
  obtain ⟨t, kept, found⟩ := second.keep_current 1 rfl
    (Workspace.generation_keep.trans (same.same "a.js" id))
  exact ⟨t, _, kept, found, (kept_fetchedSince kept).1 "a.js" _ found⟩

end SharedWorkspace

end ScriptTree

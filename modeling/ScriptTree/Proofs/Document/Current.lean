import ScriptTree.Proofs.Document.Fetching
import ScriptTree.Proofs.Document.Interleaving

/-! # Documents and their trees

    The tree that is kept for a document is the one of its text once every
    operation has come to its end, if two things never happen: a change is
    announced while an input is being loaded, whose loading then takes the
    announcement for its own; and a tree is looked up for a text that has been
    replaced since it was read.

    The invariant says that whatever is out of date will be forgotten.  A kept
    tree of another text, or a retrieval that could still keep one, is there only
    while some task has yet to announce a change of the document or its closing. -/

namespace ScriptTree

open DocumentAccess (modelChanging invalidate)
open OpenDocuments (get?_store get?_remove)

/-- The task has yet to make the tree of a document wrong.  What opening
    announces does not count: it may be taken for the loading of an input. -/
def DocumentTask.willForget (uri : Uri) : DocumentTask → Prop
  | .altering (.opening _ _) _ => False
  | .altering _ left => modelChanging uri ∈ left ∨ invalidate uri ∈ left
  | _ => False

namespace SharedDocuments

/-- A change is announced only while no input is being loaded. -/
def AnnouncesAlone (s : SharedDocuments) : DocumentEvent → Prop
  | .proceed n => ∀ uri document left, s.tasks n = .altering (.changing uri document) left →
    s.documents.workspace.loadsInput = false
  | _ => True

/-- A tree is looked up only for the present text of its document. -/
def LooksUpCurrent (s : SharedDocuments) : DocumentEvent → Prop
  | .proceed n => ∀ uri text, s.tasks n = .retrieving (.read uri text) →
    ∃ document, s.documents.get? uri = some document ∧ document.text = text
  | _ => True

/-- Both rules are followed, and the documents that come in are named ones. -/
structure Undisturbed (named : Uri → Prop) (s : SharedDocuments) (event : DocumentEvent) :
    Prop where
  known : ∀ uri, event.uri? = some uri → named uri
  alone : s.AnnouncesAlone event
  current : s.LooksUpCurrent event

variable {settings : WorkspaceSettings} {named : Uri → Prop} {s t : SharedDocuments} {n : Nat}
  {task : DocumentTask} {d : OpenDocuments} {uri : Uri} {wrong : String → Prop}

/-- Only what announces a change can break the first rule. -/
theorem announcesAlone (h : s.tasks n = task)
    (other : ∀ uri document left, task ≠ .altering (.changing uri document) left) :
    s.AnnouncesAlone (.proceed n) :=
  fun uri document left own => absurd (h.symm.trans own) (other uri document left)

/-- Only what looks a tree up can break the second rule. -/
theorem looksUpCurrent (h : s.tasks n = task)
    (other : ∀ uri text, task ≠ .retrieving (.read uri text)) : s.LooksUpCurrent (.proceed n) :=
  fun uri text own => absurd (h.symm.trans own) (other uri text)

/-- A task that neither announces a change nor looks a tree up may always go on. -/
theorem undisturbed_proceed (h : s.tasks n = task)
    (silent : ∀ uri document left, task ≠ .altering (.changing uri document) left)
    (blind : ∀ uri text, task ≠ .retrieving (.read uri text)) :
    s.Undisturbed named (.proceed n) :=
  ⟨nofun, announcesAlone h silent, looksUpCurrent h blind⟩

/-- An operation may go on where no input is being loaded. -/
theorem undisturbed_announce {operation : DocumentOperation} {left : List DocumentAccess}
    (h : s.tasks n = .altering operation left)
    (loaded : s.documents.workspace.loadsInput = false) : s.Undisturbed named (.proceed n) :=
  ⟨nofun, fun _ _ _ _ => loaded, looksUpCurrent h nofun⟩

/-- A retrieval may look the tree of a present text up. -/
theorem undisturbed_lookUp {text : String} {version : Int}
    (h : s.tasks n = .retrieving (.read uri text))
    (present : s.documents.get? uri = some ⟨text, version⟩) : s.Undisturbed named (.proceed n) := by
  refine ⟨nofun, announcesAlone h nofun, fun _ _ task => ?_⟩
  cases h.symm.trans task
  exact ⟨_, present, rfl⟩

/-- Some task has yet to make the tree of a document wrong. -/
def Pending (s : SharedDocuments) (uri : Uri) : Prop := ∃ n, (s.tasks n).willForget uri

/-- What is known of a task.  The text of a retrieval that may still keep its tree
    is the present one, or its tree will be forgotten. -/
def TaskFits (named : Uri → Prop) (s : SharedDocuments) : DocumentTask → Prop
  | .altering operation left => named operation.uri ∧ left <:+ operation.accesses.tail
  | .retrieving (.asked uri) => named uri
  | .retrieving (.read uri _) => named uri
  | .retrieving (.missed fetch text) => ∃ uri, named uri ∧ fetch.key = uri.text ∧
    fetch.generation ≤ s.documents.workspace.generation fetch.key ∧
    (s.documents.workspace.generation fetch.key = fetch.generation →
      (∃ document, s.documents.get? uri = some document ∧ document.text = text) ∨ s.Pending uri)
  | _ => True

/-- Whatever is out of date will be forgotten. -/
structure Fits (settings : WorkspaceSettings) (named : Uri → Prop) (s : SharedDocuments) :
    Prop where
  orderly : s.documents.workspace.Orderly
  configured : s.documents.workspace.settings = settings
  opened : ∀ uri document, s.documents.get? uri = some document → named uri
  tasks : ∀ n, s.TaskFits named (s.tasks n)
  trees : ∀ uri tree, named uri → s.documents.workspace.trees.peek? uri.text = some tree →
    (∃ document, s.documents.get? uri = some document ∧
      tree.tree = SyntaxTree.parse settings.options document.text.toList uri.text) ∨ s.Pending uri

/-- Nothing has happened yet. -/
theorem fits_start : Fits settings named (.ofSettings settings) where
  orderly := Workspace.orderly_ofSettings settings
  configured := rfl
  opened uri document found := by simp [ofSettings, OpenDocuments.ofSettings, OpenDocuments.get?]
    at found
  tasks _ := trivial
  trees uri tree _ found := by
    have none : (ofSettings settings).documents.workspace.trees.peek? uri.text = none :=
      RecencyCache.peek?_empty
    cases none.symm.trans found

/-! ## One task goes on -/

/-- What is pending stays so, unless this task had it to do and has done it. -/
theorem Pending.advance (h : s.Pending uri)
    (done : ¬ (s.tasks n).willForget uri ∨ task.willForget uri) :
    (s.advance n task d).Pending uri := by
  by_cases own : task.willForget uri
  · exact ⟨n, by simpa [SharedDocuments.advance] using own⟩
  · obtain ⟨m, there⟩ := h
    have other : m ≠ n := fun same => done.elim (fun no => no (same ▸ there)) own
    exact ⟨m, by simpa [SharedDocuments.advance, other] using there⟩

/-- The step of a task leaves a document safe: its tree is forgotten, or this task
    will have it forgotten, or its text and what was pending for it stay. -/
def Safe (wrong : String → Prop) (s : SharedDocuments) (n : Nat) (task : DocumentTask)
    (d : OpenDocuments) (uri : Uri) : Prop :=
  wrong uri.text ∨ task.willForget uri ∨ ¬ (s.tasks n).willForget uri ∧
    ∀ document, s.documents.get? uri = some document → d.get? uri = some document

/-- A document that is safe is still there, or still to come. -/
theorem Safe.present (h : s.Safe wrong n task d uri) (right : ¬ wrong uri.text)
    {present : OpenDocument → Prop}
    (before : (∃ document, s.documents.get? uri = some document ∧ present document) ∨
      s.Pending uri) :
    (∃ document, d.get? uri = some document ∧ present document) ∨
      (s.advance n task d).Pending uri := by
  rcases h with wrong | own | ⟨undone, same⟩
  · exact absurd wrong right
  · exact .inr ⟨n, by simpa [SharedDocuments.advance] using own⟩
  · rcases before with ⟨document, there, fits⟩ | pending
    · exact .inl ⟨document, same document there, fits⟩
    · exact .inr (pending.advance (.inl undone))

/-- A task may go on if that leaves all documents safe. -/
theorem Fits.advance (h : Fits settings named s)
    (forgets : s.documents.workspace.Forgets wrong d.workspace)
    (opened : ∀ uri document, d.get? uri = some document → named uri)
    (safe : ∀ uri, named uri → s.Safe wrong n task d uri)
    (fits : (s.advance n task d).TaskFits named task) :
    Fits settings named (s.advance n task d) where
  orderly := forgets.orderly h.orderly
  configured := forgets.settings.trans h.configured
  opened := opened
  tasks m := by
    show TaskFits named _ (if m = n then task else s.tasks m)
    split
    · exact fits
    · have before := h.tasks m
      generalize s.tasks m = other at before ⊢
      match other, before with
      | .idle, _ => trivial
      | .altering _ _, before => exact before
      | .retrieving (.asked _), before => exact before
      | .retrieving (.read _ _), before => exact before
      | .retrieving (.done _), _ => trivial
      | .retrieving (.missed fetch text), ⟨uri, known, own, noted, present⟩ =>
          refine ⟨uri, known, own, Nat.le_trans noted (forgets.mono _), fun current => ?_⟩
          -- A raised generation cannot be the one that was noted.
          have right : ¬ wrong fetch.key := fun gone =>
            absurd current (Nat.ne_of_gt (Nat.lt_of_le_of_lt noted (forgets.raised _ gone)))
          rw [show (s.advance n task d).documents = d from rfl, forgets.same _ right] at current
          exact (safe uri known).present (own ▸ right) (present current)
  trees uri tree known found := by
    have right : ¬ wrong uri.text := fun gone => by
      cases (forgets.dropped h.orderly _ gone).symm.trans found
    rw [show (s.advance n task d).documents = d from rfl, forgets.kept h.orderly _ right] at found
    exact (safe uri known).present right (h.trees uri tree known found)

/-! ## Each step -/

/-- Beginning an operation. -/
theorem Fits.begin (h : Fits settings named s) {operation : DocumentOperation}
    {access : DocumentAccess} {left : List DocumentAccess} (idle : s.tasks n = .idle)
    (allowed : operation.Allowed s.documents) (first : operation.accesses = access :: left)
    (known : named operation.uri) :
    Fits settings named (s.advance n (.altering operation left) (s.documents.perform access)) := by
  have undone : ∀ uri, ¬ (s.tasks n).willForget uri := fun uri => by
    rw [idle]
    exact id
  have fits : ∀ t : SharedDocuments, t.TaskFits named (.altering operation left) :=
    fun t => ⟨known, by rw [first]; exact List.suffix_refl _⟩
  -- A task that stores a document stores one that is named.
  have stored : ∀ uri document, uri = operation.uri → ∀ v other,
      (s.documents.perform (.store uri document)).get? v = some other → named v := by
    intro uri document own v other found
    rw [get?_store] at found
    split at found
    · rename_i same
      exact same ▸ own ▸ known
    · exact h.opened v other found
  cases operation with
  | opening uri document =>
      obtain ⟨rfl, rfl⟩ := List.cons.inj first
      -- The document was closed, so no tree of it has to be right yet.
      refine h.advance (.nothing rfl rfl rfl) (stored uri document rfl) (fun v _ => ?_) (fits _)
      refine .inr (.inr ⟨undone v, fun other found => ?_⟩)
      have differ : uri ≠ v := fun same => by cases (same ▸ allowed).symm.trans found
      rw [get?_store, if_neg differ, found]
  | changing uri document =>
      obtain ⟨rfl, rfl⟩ := List.cons.inj first
      refine h.advance (.nothing rfl rfl rfl) (stored uri document rfl) (fun v _ => ?_) (fits _)
      -- The tree of the former text may be wrong now; the announcement that will drop it is
      -- pending.
      by_cases same : uri = v
      · exact .inr (.inl (.inl (by simp [same])))
      · exact .inr (.inr ⟨undone v, fun other found => by rw [get?_store, if_neg same, found]⟩)
  | closing uri =>
      obtain ⟨rfl, rfl⟩ := List.cons.inj first
      refine h.advance (.nothing rfl rfl rfl) (fun v other found => ?_) (fun v _ => ?_) (fits _)
      · rw [get?_remove] at found
        split at found
        · cases found
        · exact h.opened v other found
      -- So it is for a document that is closed.
      · by_cases same : uri = v
        · exact .inr (.inl (.inr (by simp [same])))
        · exact .inr (.inr ⟨undone v, fun other found => by
            rw [get?_remove, if_neg same, found]⟩)

/-- What is left of one last access. -/
theorem of_suffix_singleton {access last : DocumentAccess} {left : List DocumentAccess}
    (h : (access :: left) <:+ [last]) : access = last ∧ left = [] := by
  rcases List.suffix_cons_iff.mp h with whole | none
  · exact List.cons.inj whole
  · cases List.suffix_nil.mp none

/-- Going on with an operation. -/
theorem Fits.access (h : Fits settings named s) (alone : s.AnnouncesAlone (.proceed n))
    {operation : DocumentOperation} {access : DocumentAccess} {left : List DocumentAccess}
    (task : s.tasks n = .altering operation (access :: left)) :
    Fits settings named (s.advance n (.altering operation left) (s.documents.perform access)) := by
  obtain ⟨known, behind⟩ : named operation.uri ∧ (access :: left) <:+ operation.accesses.tail := by
    have fits := h.tasks n
    rw [task] at fits
    exact fits
  have fits : ∀ t : SharedDocuments, t.TaskFits named (.altering operation left) :=
    fun t => ⟨known, (List.suffix_cons access left).trans behind⟩
  cases operation with
  | opening uri document =>
      have undone : ∀ v, ¬ (s.tasks n).willForget v := fun v => by
        rw [task]
        exact id
      -- Two accesses are left: the change of the input forgets nothing, the announcement may drop
      -- the tree of its own document.
      rcases List.suffix_cons_iff.mp behind with whole | last
      · obtain ⟨rfl, rfl⟩ := List.cons.inj whole
        exact h.advance Workspace.forgets_inputChanged h.opened
          (fun v _ => .inr (.inr ⟨undone v, fun _ => id⟩)) (fits _)
      · obtain ⟨rfl, rfl⟩ := of_suffix_singleton last
        exact h.advance Workspace.forgets_modelChanging h.opened
          (fun v _ => .inr (.inr ⟨undone v, fun _ => id⟩)) (fits _)
  | changing uri document =>
      obtain ⟨rfl, rfl⟩ := of_suffix_singleton behind
      -- This is where the rule is needed: the input is loaded, so the announcement is not
      -- swallowed.
      refine h.advance (Workspace.forgets_modelChanging_of_loaded (alone uri document _ task) _)
        h.opened (fun v knownv => ?_) (fits _)
      by_cases same : uri = v
      · exact .inl (congrArg Uri.text same)
      · exact .inr (.inr ⟨by simp [task, DocumentTask.willForget, Ne.symm same], fun _ => id⟩)
  | closing uri =>
      obtain ⟨rfl, rfl⟩ := of_suffix_singleton behind
      refine h.advance (Workspace.forgets_invalidate _) h.opened (fun v knownv => ?_) (fits _)
      by_cases same : uri = v
      · exact .inl (congrArg Uri.text same)
      · exact .inr (.inr ⟨by simp [task, DocumentTask.willForget, Ne.symm same], fun _ => id⟩)

/-- Keeping a tree that is right, or will be forgotten. -/
theorem Fits.keep (h : Fits settings named s) {fetch : PendingFetch} {tree : ParsedTree}
    (right : ∀ uri, named uri → uri.text = fetch.key →
      s.documents.workspace.generation fetch.key = fetch.generation →
      (∃ document, s.documents.get? uri = some document ∧
        tree.tree = SyntaxTree.parse settings.options document.text.toList uri.text) ∨
        s.Pending uri) :
    Fits settings named
      ⟨{ s.documents with workspace := s.documents.workspace.keep fetch tree }, s.tasks⟩ where
  orderly := h.orderly.keep
  configured := Workspace.settings_keep.trans h.configured
  opened := h.opened
  tasks m := by
    have before := h.tasks m
    show TaskFits named _ (s.tasks m)
    generalize s.tasks m = other at before ⊢
    match other, before with
    | .idle, _ => trivial
    | .altering _ _, before => exact before
    | .retrieving (.asked _), before => exact before
    | .retrieving (.read _ _), before => exact before
    | .retrieving (.done _), _ => trivial
    -- Only a task with a pending fetch looks at generations, and keeping raises none.
    | .retrieving (.missed _ _), before =>
        simp only [TaskFits, Workspace.generation_keep]
        exact before
  trees uri other known found := by
    rcases h.orderly.peek?_keep found with ⟨own, rfl, current⟩ | before
    · exact right uri known own.symm current
    · exact h.trees uri other known before

/-- Going on with a retrieval. -/
theorem Fits.retrieve (h : Fits settings named s) (current : s.LooksUpCurrent (.proceed n))
    (distinct : ∀ u v, named u → named v → u.text = v.text → u = v)
    {retrieval next : Retrieval} (task : s.tasks n = .retrieving retrieval)
    (step : retrieval.step s.documents = (next, d)) :
    Fits settings named (s.advance n (.retrieving next) d) := by
  have safe : ∀ {wrong task} {d : OpenDocuments}, d.documents = s.documents.documents →
      ∀ v, named v → s.Safe wrong n task d v := fun same v _ =>
    .inr (.inr ⟨by rw [‹s.tasks n = _›]; exact id, fun document found => by
      rw [OpenDocuments.get?, same]
      exact found⟩)
  have fits := h.tasks n
  rw [task] at fits
  cases retrieval with
  | asked uri =>
      rw [Retrieval.step] at step
      split at step
      · obtain ⟨rfl, rfl⟩ := Prod.mk.inj step
        exact h.advance (.nothing rfl rfl rfl) h.opened (safe rfl) trivial
      · obtain ⟨rfl, rfl⟩ := Prod.mk.inj step
        exact h.advance (.nothing rfl rfl rfl) h.opened (safe rfl) fits
  | read uri text =>
      have forgets := Workspace.forgets_lookup h.orderly uri.text
      rw [Retrieval.step] at step
      split at step
      · rename_i tree w looked
        obtain ⟨rfl, rfl⟩ := Prod.mk.inj step
        obtain rfl := congrArg Prod.snd looked
        exact h.advance forgets h.opened (safe rfl) trivial
      · rename_i fetch w looked
        obtain ⟨rfl, rfl⟩ := Prod.mk.inj step
        obtain rfl := congrArg Prod.snd looked
        obtain rfl := Workspace.lookup_missing h.orderly (congrArg Prod.fst looked)
        -- What was missing is to be fetched for the text that is current, by the rule.
        refine h.advance forgets h.opened (safe rfl) ⟨uri, fits, rfl, forgets.mono _, fun _ => ?_⟩
        exact .inl (current uri text task)
  | missed fetch text =>
      obtain ⟨uri, known, own, -, present⟩ := fits
      obtain ⟨rfl, rfl⟩ := Prod.mk.inj step
      let made := s.documents.workspace.parseText fetch.key text
      have parsed : Fits settings named (s.advance n (.retrieving (.done (some ⟨made.1, text⟩)))
          { s.documents with workspace := made.2 }) :=
        h.advance (Workspace.forgets_parseText fetch.key text) h.opened (safe rfl) trivial
      refine parsed.keep fun v knownv ownv now => ?_
      -- The tree goes to the document of its key.  If that was changed meanwhile, either its
      -- generation was raised, so that nothing is kept, or it will be.
      obtain rfl := distinct v uri knownv known (ownv.trans own)
      rcases present now with ⟨document, there, same⟩ | pending
      · refine .inl ⟨document, there, ?_⟩
        rw [same, ← h.configured, ← own]
      · exact .inr (pending.advance (.inl (by rw [task]; exact id)))
  | done result =>
      obtain ⟨rfl, rfl⟩ := Prod.mk.inj step
      exact h.advance (.nothing rfl rfl rfl) h.opened (safe rfl) trivial

/-- Every step that the two rules allow. -/
theorem Fits.step (h : Fits settings named s) {event : DocumentEvent}
    (distinct : ∀ u v, named u → named v → u.text = v.text → u = v)
    (follows : s.Undisturbed named event) (step : s.Step event t) : Fits settings named t := by
  cases step with
  | begin idle allowed first => exact h.begin idle allowed first (follows.known _ rfl)
  | ask idle =>
      refine h.advance (.nothing rfl rfl rfl) h.opened (fun v _ => ?_) (follows.known _ rfl)
      exact .inr (.inr ⟨by rw [idle]; exact id, fun _ => id⟩)
  | access task => exact h.access follows.alone task
  | retrieve task taken => exact h.retrieve follows.current distinct task taken

/-- Where no operation is on its way, nothing is pending. -/
theorem Settled.not_pending (h : s.Settled) : ¬ s.Pending uri := by
  rintro ⟨n, there⟩
  have settled := h n
  generalize s.tasks n = task at there settled
  match task, there, settled with
  | .altering (.changing _ _) _, there, rfl => simp [DocumentTask.willForget] at there
  | .altering (.closing _) _, there, rfl => simp [DocumentTask.willForget] at there

/-! ## Settled documents -/

/-- One document is open, and its text was read for a retrieval. -/
def readOnce (settings : WorkspaceSettings) (uri : Uri) (document : OpenDocument) :
    SharedDocuments :=
  let documents : OpenDocuments := ⟨{(uri, document)}, .ofSettings settings⟩
  ((ofSettings settings).advance 0 (.altering (.opening uri document) []) documents).advance 1
    (.retrieving (.read uri document.text)) documents

/-- Only the document is open. -/
theorem get?_readOnce {document : OpenDocument} (v : Uri) :
    (readOnce settings uri document).documents.get? v =
      if uri = v then some document else none := by
  simp [readOnce, advance, OpenDocuments.get?, Std.HashMap.getElem?_insert]

/-- Two tasks have led there. -/
theorem reached_readOnce {rule : SharedDocuments → DocumentEvent → Prop}
    {document : OpenDocument} (begins : ∀ t, rule t (.begin 0 (.opening uri document)))
    (asks : ∀ t, rule t (.ask 1 uri))
    (opens : ∀ t left, t.tasks 0 = .altering (.opening uri document) left → rule t (.proceed 0))
    (reads : ∀ t, t.tasks 1 = .retrieving (.asked uri) → rule t (.proceed 1)) :
    Reached settings rule (readOnce settings uri document) := by
  have nobody : Reached settings rule (.ofSettings settings) := .start
  have opened := nobody.alter 0 (.opening uri document) rfl
    (by simp [DocumentOperation.Allowed, ofSettings, OpenDocuments.ofSettings, OpenDocuments.get?])
    (begins _) opens
  have asked := opened.step (asks _) (.ask rfl)
  have present : (readOnce settings uri document).documents.get? uri = some document :=
    (get?_readOnce uri).trans (if_pos rfl)
  rw [readOnce, ← advance_advance]
  exact asked.step (reads _ tasks_advance)
    (.retrieve tasks_advance (OpenDocuments.step_asked_of_open present))

/-- The text that was read is the current one. -/
theorem looksUpCurrent_readOnce {document : OpenDocument} :
    (readOnce settings uri document).LooksUpCurrent (.proceed 1) := by
  intro _ _ task
  cases task
  exact ⟨document, (get?_readOnce uri).trans (if_pos rfl), rfl⟩

/-- TREES OF PRESENT TEXTS: if changes are announced only while no input is being
    loaded, and trees are looked up only for texts that are still the present
    ones, then all kept trees of open documents are right once every operation has
    come to its end.  The documents must have URIs that are written differently. -/
theorem current_of_settled
    (distinct : ∀ u v, named u → named v → u.text = v.text → u = v)
    (h : Reached settings (Undisturbed named) s) (settled : s.Settled) : s.Current settings := by
  have fits : Fits settings named s := by
    clear settled
    induction h with
    | start => exact fits_start
    | step _ follows step ih => exact ih.step distinct follows step
  intro uri document tree there kept
  rcases fits.trees uri tree (fits.opened uri document there) kept with ⟨other, found, right⟩ | no
  · cases there.symm.trans found
    exact right
  · exact absurd no settled.not_pending

/-- A document is changed, and between the two accesses of the change another one is opened.
    The tree of the former text is dropped. -/
theorem Reached.changeBeside (h : Reached settings (Undisturbed named) s) {first second : Uri}
    (known : named first) (known' : named second) (differ : second ≠ first)
    (closed : s.documents.get? second = none)
    (loaded : s.documents.workspace.loadsInput = false) (orderly : s.documents.workspace.Orderly)
    (latter other : OpenDocument) (m n : Nat) (apart : n ≠ m) (idle : s.tasks m = .idle)
    (idle' : s.tasks n = .idle) :
    ∃ t, Reached settings (Undisturbed named) t ∧
      (∀ k, k ≠ m → k ≠ n → t.tasks k = s.tasks k) ∧ (t.tasks m).Ended ∧ (t.tasks n).Ended ∧
      t.documents.get? first = some latter ∧ t.documents.get? second = some other ∧
      t.documents.workspace.Orderly ∧ t.documents.workspace.trees.peek? first.text = none := by
  have begins (t : SharedDocuments) (n : Nat) (operation : DocumentOperation)
      (known : named operation.uri) : t.Undisturbed named (.begin n operation) :=
    ⟨fun v same => Option.some.inj same ▸ known, trivial, trivial⟩
  have changing := h.begin m (.changing first latter) (begins _ m _ known) idle trivial rfl
  have still : (s.documents.perform (.store first latter)).get? second = none :=
    (get?_store second).trans ((if_neg differ.symm).trans closed)
  have opening := changing.begin n (.opening second other) (begins _ n _ known')
    ((tasks_advance_of_ne apart).trans idle') still rfl
  have announced := opening.access m (undisturbed_announce (tasks_advance_beside apart.symm) loaded)
    (tasks_advance_beside apart.symm)
  have loading := announced.access n
    (undisturbed_proceed (tasks_advance_beside apart) nofun nofun) (tasks_advance_beside apart)
  have opened := loading.access n (undisturbed_proceed tasks_advance nofun nofun) tasks_advance
  -- What the change drops stays dropped: the opening's announcement is taken for its loading.
  let w := s.documents.workspace.modelChanging (some (.ofUri first))
  have forgets : Workspace.Forgets _ s.documents.workspace w :=
    Workspace.forgets_modelChanging_of_loaded loaded _
  have input : Workspace.Forgets _ w w.inputChanged := Workspace.forgets_inputChanged
  have swallowed : Workspace.Forgets _ w.inputChanged _ :=
    Workspace.forgets_modelChanging_of_loading rfl (some (.ofUri second))
  have behind := input.orderly (forgets.orderly orderly)
  refine ⟨_, opened, fun k km kn => ?_, ?_, ?_, ?_, ?_, swallowed.orderly behind, ?_⟩
  · simp only [advance, km, kn, if_false]
  · simp [advance, apart.symm, DocumentTask.Ended]
  · simp [advance, DocumentTask.Ended]
  · exact (get?_store first).trans ((if_neg differ).trans ((get?_store first).trans (if_pos rfl)))
  · exact (get?_store second).trans (if_pos rfl)
  · refine (swallowed.kept behind _ id).trans ?_
    refine (input.kept (forgets.orderly orderly) _ id).trans ?_
    exact forgets.dropped orderly _ rfl

/-- The tree of a text is kept, the text is changed while another document is being opened,
    and the tree of the new text is retrieved. -/
theorem current_of_settled_changed :
    let first : Uri := ⟨"untitled", none, "a", none, none⟩
    let second : Uri := ⟨"untitled", none, "b", none, none⟩
    ∃ s, Reached .default (Undisturbed fun u => u = first ∨ u = second) s ∧ s.Settled ∧
      s.documents.get? first = some ⟨"a;", 2⟩ ∧ s.documents.get? second = some ⟨"b;", 1⟩ ∧
      (s.documents.workspace.cached? (some (.ofUri first))).isSome ∧ s.Current .default := by
  intro first second
  let named : Uri → Prop := fun u => u = first ∨ u = second
  have asks (t : SharedDocuments) (n : Nat) : t.Undisturbed named (.ask n first) :=
    ⟨fun v same => .inl (Option.some.inj same).symm, trivial, trivial⟩
  have read : Reached .default (Undisturbed named) (readOnce .default first ⟨"(", 1⟩) :=
    reached_readOnce (fun _ => ⟨fun v same => .inl (Option.some.inj same).symm, trivial, trivial⟩)
      (fun t => asks t 1) (fun _ _ task => undisturbed_proceed task nofun nofun)
      fun _ task => undisturbed_proceed task nofun nofun
  have text : (readOnce .default first ⟨"(", 1⟩).documents.get? first = some ⟨"(", 1⟩ :=
    (get?_readOnce first).trans (if_pos rfl)
  have closed : (readOnce .default first ⟨"(", 1⟩).documents.get? second = none :=
    (get?_readOnce second).trans (if_neg (by decide))
  -- The first text is parsed and kept.
  obtain ⟨former, w, -, kept, orderly, loaded, -, -⟩ := read.retrieve (n := 1) rfl
    (Workspace.orderly_ofSettings .default) RecencyCache.peek?_empty (undisturbed_lookUp rfl text)
    fun _ _ task => undisturbed_proceed task nofun nofun
  -- One document is changed while the other is opened.
  obtain ⟨t, changed, others, ended, ended', present, beside, still, dropped⟩ :=
    kept.changeBeside (.inl rfl) (.inr rfl) (by decide) closed loaded orderly ⟨"a;", 2⟩ ⟨"b;", 1⟩
      2 3 (by decide) rfl rfl
  have idle (k : Nat) : t.tasks (k + 4) = .idle := others _ (by omega) (by omega)
  have asked := changed.step (asks _ 4) (.ask (idle 0))
  have again := asked.step (undisturbed_proceed tasks_advance nofun nofun)
    (.retrieve tasks_advance (OpenDocuments.step_asked_of_open present))
  rw [advance_advance] at again
  -- The tree of the first text is gone, so the second one is parsed.
  obtain ⟨latter, w', tree, settled, -, -, found, -⟩ := again.retrieve tasks_advance still dropped
    (undisturbed_lookUp tasks_advance present)
    fun _ _ task => undisturbed_proceed task nofun nofun
  rw [advance_advance] at settled
  have done : (t.advance 4 (.retrieving (.done latter)) ⟨t.documents.documents, w'⟩).Settled := by
    intro n
    match n with
    | 0 => exact others 0 (by decide) (by decide) ▸ rfl
    | 1 => exact others 1 (by decide) (by decide) ▸ ⟨former, rfl⟩
    | 2 => exact ended
    | 3 => exact ended'
    | 4 => exact ⟨latter, rfl⟩
    | k + 5 => exact idle (k + 1) ▸ trivial
  have distinct : ∀ u v, named u → named v → u.text = v.text → u = v := by
    rintro u v (rfl | rfl) (rfl | rfl) same
    · rfl
    · exact absurd same (by decide)
    · exact absurd same (by decide)
    · rfl
  exact ⟨_, settled, done, present, beside, Option.isSome_iff_exists.mpr ⟨tree, found⟩,
    current_of_settled distinct settled done⟩

/-! ## Neither rule can be left out -/

/-- A retrieval that a change overtakes between reading and looking up keeps the
    tree of the former text. -/
theorem exists_overtaken (settings : WorkspaceSettings) (uri : Uri) (former latter : OpenDocument) :
    ∃ s tree, Reached settings AnnouncesAlone s ∧ s.Settled ∧
      s.documents.get? uri = some latter ∧
      s.documents.workspace.cached? (some (.ofUri uri)) = some tree ∧
      tree.tree = SyntaxTree.parse settings.options former.text.toList uri.text := by
  have read : Reached settings AnnouncesAlone (readOnce settings uri former) :=
    reached_readOnce (fun _ => trivial) (fun _ => trivial)
      (fun _ _ task => announcesAlone task nofun) fun _ task => announcesAlone task nofun
  have stored := read.begin 2 (.changing uri latter) trivial rfl trivial rfl
  have announced := stored.access 2 (fun _ _ _ _ => rfl) rfl
  have forgets := Workspace.forgets_modelChanging_of_loaded
    (show (Workspace.ofSettings settings).loadsInput = false from rfl) (some (.ofUri uri))
  have orderly := Workspace.orderly_ofSettings settings
  obtain ⟨result, w, tree, kept, -, -, found, parse⟩ := announced.retrieve (n := 1) rfl
    (forgets.orderly orderly) (forgets.dropped orderly _ rfl)
    (announcesAlone rfl nofun) fun _ _ task => announcesAlone task nofun
  refine ⟨_, tree, kept, ?_, ?_, found, parse.trans ?_⟩
  · exact fun | 0 => rfl | 1 => ⟨result, rfl⟩ | 2 => rfl | _ + 3 => trivial
  · exact (get?_store uri).trans (if_pos rfl)
  · exact congrArg (fun settings : WorkspaceSettings =>
      SyntaxTree.parse settings.options former.text.toList uri.text) forgets.settings

/-- A change that is announced while another document is being loaded leaves the
    tree of the former text. -/
theorem exists_swallowed (settings : WorkspaceSettings) {uri other : Uri}
    (differ : uri.text ≠ other.text) (former latter loaded : OpenDocument) :
    ∃ s tree, Reached settings LooksUpCurrent s ∧ s.Settled ∧
      s.documents.get? uri = some latter ∧
      s.documents.workspace.cached? (some (.ofUri uri)) = some tree ∧
      tree.tree = SyntaxTree.parse settings.options former.text.toList uri.text := by
  have read : Reached settings LooksUpCurrent (readOnce settings uri former) :=
    reached_readOnce (fun _ => trivial) (fun _ => trivial)
      (fun _ _ task => looksUpCurrent task nofun) fun _ task => looksUpCurrent task nofun
  obtain ⟨result, w, tree, kept, orderly, -, found, parse⟩ := read.retrieve (n := 1) rfl
    (Workspace.orderly_ofSettings settings) RecencyCache.peek?_empty
    looksUpCurrent_readOnce fun _ _ task => looksUpCurrent task nofun
  have closed : (readOnce settings uri former).documents.get? other = none :=
    (get?_readOnce other).trans (if_neg fun same => differ (congrArg Uri.text same))
  -- The input change of an opening comes first, and the announcement of a change in between.
  have loading := (kept.begin 2 (.opening other loaded) trivial rfl closed rfl).access 2
    (looksUpCurrent rfl nofun) rfl
  have changed := (loading.begin 3 (.changing uri latter) trivial rfl trivial rfl).access 3
    (looksUpCurrent rfl nofun) rfl
  have loaded := changed.access 2 (looksUpCurrent rfl nofun) rfl
  -- So the change is swallowed, and the announcement of the opening drops another key.
  have swallowed := Workspace.forgets_modelChanging_of_loading
    (show w.inputChanged.loadsInput = true from rfl) (some (.ofUri uri))
  have announced := Workspace.forgets_modelChanging_of_loaded
    (show (w.inputChanged.modelChanging (some (.ofUri uri))).loadsInput = false from
      Workspace.loadsInput_modelChanging) (some (.ofUri other))
  refine ⟨_, tree, loaded, ?_, ?_, ?_, parse⟩
  · exact fun | 0 => rfl | 1 => ⟨result, rfl⟩ | 2 => rfl | 3 => rfl | _ + 4 => trivial
  · exact (get?_store uri).trans (if_pos rfl)
  · refine (announced.kept (swallowed.orderly orderly) _ fun same => differ same.symm).trans ?_
    exact (swallowed.kept orderly _ id).trans found

/-- Operations that overlap may leave an open document with the tree of another
    text. -/
theorem not_current :
    ¬ ∀ settings s, Reached settings (fun _ _ => True) s → s.Settled → s.Current settings := by
  intro all
  have other : Uri.text ⟨"untitled", none, "b", none, none⟩ ≠
      Uri.text ⟨"untitled", none, "a", none, none⟩ := by decide
  obtain ⟨s, tree, reached, settled, there, kept, parse⟩ :=
    exists_swallowed .default other ⟨"", 1⟩ ⟨";", 2⟩ ⟨"", 1⟩
  have same := (all _ s (reached.mono fun _ _ _ => trivial) settled _ _ tree there kept).symm.trans
    parse
  exact absurd (congrArg (fun t => t.program.span) same) (by decide +kernel)

end SharedDocuments

end ScriptTree

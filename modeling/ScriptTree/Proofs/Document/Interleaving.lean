import ScriptTree.Document.Retrieval
import ScriptTree.Proofs.Workspace.Generation

/-! # Operations that overlap

    Any number of operations open, change and close documents and ask for their
    trees.  Each makes its accesses one by one, and those of others may come
    between any two of them.  Where no operation is left, the tree that is kept
    for a document should be the one of its text. -/

namespace ScriptTree

/-- What an operation makes of a document. -/
inductive DocumentOperation where
  | opening (uri : Uri) (document : OpenDocument)
  | changing (uri : Uri) (document : OpenDocument)
  | closing (uri : Uri)
deriving DecidableEq

namespace DocumentOperation

/-- The document it is about. -/
def uri : DocumentOperation → Uri
  | .opening uri _ => uri
  | .changing uri _ => uri
  | .closing uri => uri

/-- Its accesses, one after another. -/
def accesses : DocumentOperation → List DocumentAccess
  | .opening uri document => DocumentAccess.opening uri document
  | .changing uri document => DocumentAccess.changing uri document
  | .closing uri => DocumentAccess.closing uri

/-- A document is opened only while it is closed. -/
def Allowed (documents : OpenDocuments) : DocumentOperation → Prop
  | .opening uri _ => documents.get? uri = none
  | _ => True

end DocumentOperation

/-- What one of many tasks is about. -/
inductive DocumentTask where
  | idle
  /-- These accesses of an operation are left. -/
  | altering (operation : DocumentOperation) (left : List DocumentAccess)
  | retrieving (retrieval : Retrieval)

/-- Nothing is left to do of it. -/
def DocumentTask.Ended : DocumentTask → Prop
  | .idle => True
  | .altering _ left => left = []
  | .retrieving retrieval => ∃ result, retrieval = .done result

/-- What a task does next. -/
inductive DocumentEvent where
  /-- It begins an operation with its first access. -/
  | begin (task : Nat) (operation : DocumentOperation)
  /-- It is asked for the tree of a document. -/
  | ask (task : Nat) (uri : Uri)
  /-- It makes its next access. -/
  | proceed (task : Nat)

/-- The document that an event brings in. -/
def DocumentEvent.uri? : DocumentEvent → Option Uri
  | .begin _ operation => some operation.uri
  | .ask _ uri => some uri
  | .proceed _ => none

/-- The documents and the tasks that work on them. -/
structure SharedDocuments where
  documents : OpenDocuments
  tasks : Nat → DocumentTask

namespace SharedDocuments

/-- No documents, no trees, nothing to do. -/
def ofSettings (settings : WorkspaceSettings) : SharedDocuments :=
  ⟨.ofSettings settings, fun _ => .idle⟩

/-- One task goes on and leaves documents behind. -/
def advance (s : SharedDocuments) (n : Nat) (task : DocumentTask) (documents : OpenDocuments) :
    SharedDocuments :=
  ⟨documents, fun m => if m = n then task else s.tasks m⟩

/-- What may come next, and what it leads to. -/
inductive Step (s : SharedDocuments) : DocumentEvent → SharedDocuments → Prop where
  | begin {n : Nat} {operation : DocumentOperation} {access : DocumentAccess}
      {left : List DocumentAccess} :
      s.tasks n = .idle → operation.Allowed s.documents → operation.accesses = access :: left →
      s.Step (.begin n operation)
        (s.advance n (.altering operation left) (s.documents.perform access))
  | ask {n : Nat} {uri : Uri} : s.tasks n = .idle →
      s.Step (.ask n uri) (s.advance n (.retrieving (.asked uri)) s.documents)
  | access {n : Nat} {operation : DocumentOperation} {access : DocumentAccess}
      {left : List DocumentAccess} :
      s.tasks n = .altering operation (access :: left) →
      s.Step (.proceed n) (s.advance n (.altering operation left) (s.documents.perform access))
  | retrieve {n : Nat} {retrieval next : Retrieval} {documents : OpenDocuments} :
      s.tasks n = .retrieving retrieval → retrieval.step s.documents = (next, documents) →
      s.Step (.proceed n) (s.advance n (.retrieving next) documents)

/-- Steps that a rule allows have led here. -/
inductive Reached (settings : WorkspaceSettings) (rule : SharedDocuments → DocumentEvent → Prop) :
    SharedDocuments → Prop where
  | start : Reached settings rule (.ofSettings settings)
  | step {s t : SharedDocuments} {event : DocumentEvent} :
      Reached settings rule s → rule s event → s.Step event t → Reached settings rule t

/-- No operation is on its way. -/
def Settled (s : SharedDocuments) : Prop := ∀ n, (s.tasks n).Ended

/-- The tree that is kept for an open document is the one of its text. -/
def Current (settings : WorkspaceSettings) (s : SharedDocuments) : Prop :=
  ∀ uri document tree, s.documents.get? uri = some document →
    s.documents.workspace.cached? (some (.ofUri uri)) = some tree →
    tree.tree = SyntaxTree.parse settings.options document.text.toList uri.text

/-- A looser rule allows all runs that a rule allows. -/
theorem Reached.mono {settings : WorkspaceSettings} {s : SharedDocuments}
    {rule rule' : SharedDocuments → DocumentEvent → Prop} (h : Reached settings rule s)
    (looser : ∀ s event, rule s event → rule' s event) : Reached settings rule' s := by
  induction h with
  | start => exact .start
  | step _ follows step ih => exact ih.step (looser _ _ follows) step

/-! ## Tasks that nothing interrupts -/

variable {settings : WorkspaceSettings} {rule : SharedDocuments → DocumentEvent → Prop}
  {s : SharedDocuments} {n : Nat} {task task' : DocumentTask} {d d' : OpenDocuments}

theorem tasks_advance : (s.advance n task d).tasks n = task := if_pos rfl

/-- The other tasks stay where they are. -/
theorem tasks_advance_of_ne {m : Nat} (other : m ≠ n) :
    (s.advance n task d).tasks m = s.tasks m := if_neg other

/-- So does one that another task goes on beside. -/
theorem tasks_advance_beside {m : Nat} (other : m ≠ n) :
    ((s.advance m task d).advance n task' d').tasks m = task :=
  (tasks_advance_of_ne other).trans tasks_advance

/-- A task that goes on twice. -/
theorem advance_advance : (s.advance n task d).advance n task' d' = s.advance n task' d' := by
  simp only [advance, SharedDocuments.mk.injEq, true_and]
  funext m
  split <;> rfl

/-- A task begins with the first access of its operation. -/
theorem Reached.begin (h : Reached settings rule s) (n : Nat) (operation : DocumentOperation)
    (follows : rule s (.begin n operation)) (idle : s.tasks n = .idle)
    (allowed : operation.Allowed s.documents) {access : DocumentAccess}
    {left : List DocumentAccess} (first : operation.accesses = access :: left) :
    Reached settings rule
      (s.advance n (.altering operation left) (s.documents.perform access)) :=
  h.step follows (.begin idle allowed first)

/-- A task goes on with its next access. -/
theorem Reached.access (h : Reached settings rule s) (n : Nat) (follows : rule s (.proceed n))
    {operation : DocumentOperation} {access : DocumentAccess} {left : List DocumentAccess}
    (task : s.tasks n = .altering operation (access :: left)) :
    Reached settings rule
      (s.advance n (.altering operation left) (s.documents.perform access)) :=
  h.step follows (.access task)

/-- An operation makes all its accesses. -/
theorem Reached.alter (h : Reached settings rule s) (n : Nat) (operation : DocumentOperation)
    (idle : s.tasks n = .idle) (allowed : operation.Allowed s.documents)
    (first : rule s (.begin n operation))
    (rest : ∀ t left, t.tasks n = .altering operation left → rule t (.proceed n)) :
    Reached settings rule (s.advance n (.altering operation [])
      (s.documents.performAll operation.accesses)) := by
  have go : ∀ left d, Reached settings rule (s.advance n (.altering operation left) d) →
      Reached settings rule (s.advance n (.altering operation []) (d.performAll left)) := by
    intro left
    induction left with
    | nil => exact fun d h => h
    | cons access left ih =>
        intro d h
        have next := h.access n (rest _ _ tasks_advance) tasks_advance
        rw [advance_advance] at next
        exact ih _ next
  obtain ⟨access, left, accesses⟩ : ∃ access left, operation.accesses = access :: left := by
    cases operation <;> exact ⟨_, _, rfl⟩
  rw [accesses]
  exact go left _ (h.begin n operation first idle allowed accesses)

/-- The tree of a text that was read is kept, if none is there. -/
theorem Reached.retrieve (h : Reached settings rule s) {uri : Uri} {text : String}
    (task : s.tasks n = .retrieving (.read uri text)) (orderly : s.documents.workspace.Orderly)
    (absent : s.documents.workspace.trees.peek? uri.text = none)
    (first : rule s (.proceed n))
    (rest : ∀ t fetch, t.tasks n = .retrieving (.missed fetch text) → rule t (.proceed n)) :
    ∃ result w tree, Reached settings rule (s.advance n (.retrieving (.done result))
        ⟨s.documents.documents, w⟩) ∧ w.Orderly ∧
      w.loadsInput = s.documents.workspace.loadsInput ∧ w.trees.peek? uri.text = some tree ∧
      tree.tree = SyntaxTree.parse s.documents.workspace.settings.options text.toList uri.text := by
  -- The tree is missing, so the two steps behind the look-up parse the text and keep the tree.
  have missing := Workspace.lookup_of_none orderly absent
  have forgets := Workspace.forgets_lookup orderly uri.text
  have loadsInput := Workspace.loadsInput_lookup orderly uri.text
  cases looked : s.documents.workspace.lookup uri.text with
  | mk found w =>
      rw [looked] at missing forgets loadsInput
      obtain rfl := missing
      let fetch : PendingFetch := ⟨uri.text, s.documents.workspace.generation uri.text⟩
      let made := w.parseText uri.text text
      have step : (Retrieval.read uri text).step s.documents =
          (.missed fetch text, ⟨s.documents.documents, w⟩) := by
        rw [Retrieval.step, FileMetadata.key_ofUri, looked]
      have missed := h.step first (.retrieve task step)
      have kept : Reached settings rule (s.advance n (.retrieving (.done (some ⟨made.1, text⟩)))
          ⟨s.documents.documents, made.2.keep fetch made.1⟩) := by
        rw [← advance_advance]
        exact missed.step (rest _ _ tasks_advance) (.retrieve tasks_advance rfl)
      have orderly : made.2.Orderly := forgets.orderly orderly
      refine ⟨_, _, made.1, kept, orderly.keep, Workspace.loadsInput_keep.trans loadsInput,
        orderly.peek?_keep_self (forgets.same _ id), ?_⟩
      exact congrArg (fun settings : WorkspaceSettings =>
        SyntaxTree.parse settings.options text.toList uri.text) forgets.settings

end SharedDocuments

end ScriptTree

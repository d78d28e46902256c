import Mathlib.Data.List.Infix
import ScriptTree.Proofs.Workspace.Overlap

/-! # Counts — how often a key is invalidated

    The generation of a key is the number of times that its tree was made wrong.  Three
    kinds of events count: a request to invalidate the key, a script of the key among
    changed files, and a model change of the key.  A batch of files counts once for each
    script in it.  A model change does not count if the last change of an input or a model
    before it, of whatever file, was one of an input: it comes from loading that.

    Each event adds to the generations what it counts for, so a history adds up to them. -/

namespace ScriptTree

namespace WorkspaceEvent

/-- The event is a request to invalidate the key. -/
def isInvalidation (key : String) : WorkspaceEvent → Bool
  | .invalidate file => FileMetadata.key file == key
  | _ => false

/-- The file is a script with the key. -/
def isScript (scriptType key : String) (file : FileMetadata) : Bool :=
  file.contentType == some scriptType && FileMetadata.key (some file) == key

/-- The files of a batch whose content has changed. -/
def changedFiles : WorkspaceEvent → List FileMetadata
  | .filesChanged .changed files => files
  | _ => []

/-- An input or a model changes. -/
def isTurn : WorkspaceEvent → Bool
  | .inputChanged => true
  | .modelChanging _ => true
  | _ => false

/-- An input changes. -/
def isInputChange : WorkspaceEvent → Bool
  | .inputChanged => true
  | _ => false

/-- The last event of the history is a model change of the key, and the last change of an
    input or a model before it was none of an input. -/
def endsWithModelChange (key : String) : List WorkspaceEvent → Bool
  | .modelChanging file :: before =>
    FileMetadata.key file == key && !(before.find? isTurn).any isInputChange
  | _ => false

/-- The requests to invalidate the key. -/
def invalidations (key : String) (history : List WorkspaceEvent) : Nat :=
  history.countP (isInvalidation key)

/-- The scripts with the key in batches of changed files. -/
def changedScripts (scriptType key : String) (history : List WorkspaceEvent) : Nat :=
  (history.flatMap changedFiles).countP (isScript scriptType key)

/-- The model changes of the key that do not come from loading an input. -/
def modelChanges (key : String) (history : List WorkspaceEvent) : Nat :=
  history.tails.countP (endsWithModelChange key)

/-- How often an event behind a history makes the tree of a key wrong. -/
def raises (scriptType key : String) (before : List WorkspaceEvent) (event : WorkspaceEvent) :
    Nat :=
  (if event.isInvalidation key then 1 else 0) +
    event.changedFiles.countP (isScript scriptType key) +
    if endsWithModelChange key (event :: before) then 1 else 0

variable {scriptType key : String} {event : WorkspaceEvent} {before : List WorkspaceEvent}

/-- An input is awaited if the last change of an input or a model was one of an input. -/
theorem awaitsLoad_eq (history : List WorkspaceEvent) :
    awaitsLoad history = (history.find? isTurn).any isInputChange := by
  induction history with
  | nil => rfl
  | cons event before ih =>
      cases event with
      | inputChanged => rfl
      | modelChanging file => rfl
      | _ => exact ih

/-- One more event counts for what it raises. -/
theorem counts_cons : invalidations key (event :: before) +
      changedScripts scriptType key (event :: before) + modelChanges key (event :: before) =
    invalidations key before + changedScripts scriptType key before + modelChanges key before +
      event.raises scriptType key before := by
  simp only [invalidations, changedScripts, modelChanges, raises, List.countP_cons,
    List.flatMap_cons, List.countP_append, List.tails_cons]
  omega

end WorkspaceEvent

namespace Workspace

open WorkspaceEvent (isScript)

variable {w : Workspace} {key : String}

/-- Changed files raise the generation of a key once for each script with the key. -/
theorem generation_foldl_contentChanged (files : List FileMetadata) :
    (files.foldl contentChanged w).generation key =
      w.generation key + files.countP (isScript w.settings.scriptType key) := by
  induction files generalizing w with
  | nil => rfl
  | cons file rest ih =>
      rw [List.foldl_cons, ih, (forgets_contentChanged file).settings, List.countP_cons]
      -- The first file raises the generation by one or leaves it.
      have first : (w.contentChanged file).generation key =
          w.generation key + if isScript w.settings.scriptType key file then 1 else 0 := by
        rw [contentChanged, isScript]
        by_cases script : file.contentType = some w.settings.scriptType
        · rw [if_pos (beq_iff_eq.mpr script), invalidate, generation_invalidateKey, script]
          by_cases same : FileMetadata.key (some file) = key <;> simp [same]
        · simp [script]
      omega

/-- What has raised the generation of a key has forgotten its tree. -/
theorem Forgets.peek?_of_raised {w' : Workspace} {wrong : String → Prop}
    (h : Forgets wrong w w') (orderly : w.Orderly) (raised : w.generation key < w'.generation key) :
    w'.trees.peek? key = none := by
  refine h.dropped orderly key (Classical.byContradiction fun right => ?_)
  exact absurd (h.same key right) (Nat.ne_of_gt raised)

end Workspace

namespace SharedWorkspace

open WorkspaceEvent

variable {settings : WorkspaceSettings} {history : List WorkspaceEvent} {event : WorkspaceEvent}
  {s t : SharedWorkspace} {key : String}

/-- Every step adds to the generation of a key what its event counts for. -/
theorem Coherent.generation_step (h : Coherent settings history s) (step : s.Step event t) :
    t.workspace.generation key =
      s.workspace.generation key + event.raises settings.scriptType key history := by
  cases step with
  | hit idle found =>
      obtain rfl := congrArg Prod.snd found
      exact (Workspace.forgets_lookup h.orderly _).same key id
  | miss idle missing =>
      obtain rfl := congrArg Prod.snd missing
      exact (Workspace.forgets_lookup h.orderly _).same key id
  | read reading parse =>
      obtain ⟨-, rfl⟩ := Prod.mk.inj parse
      rfl
  | fail reading => rfl
  | keep parsed => exact Workspace.generation_keep
  | invalidate file =>
      show (s.workspace.invalidateKey _).2.generation key = _
      rw [Workspace.generation_invalidateKey]
      by_cases same : FileMetadata.key file = key <;>
        simp [same, raises, isInvalidation, changedFiles, endsWithModelChange]
  | inputChanged => rfl
  -- Whether a change of a file raises anything depends on what happened before it.
  | modelChanging file =>
      have loads : s.workspace.loadsInput = (history.find? isTurn).any isInputChange :=
        h.loadsInput.trans (awaitsLoad_eq history)
      show (s.workspace.modelChanging file).generation key = _
      rw [Workspace.modelChanging, loads]
      cases loading : (history.find? isTurn).any isInputChange with
      | true =>
          simp [raises, isInvalidation, changedFiles, endsWithModelChange, loading,
            Workspace.generation]
      | false =>
          simp only [Bool.false_eq_true, if_false, Workspace.invalidate,
            Workspace.generation_invalidateKey]
          by_cases same : FileMetadata.key file = key <;>
            simp [same, raises, isInvalidation, changedFiles, endsWithModelChange, loading]
  -- Only changed files raise; created and deleted ones are left to the input.
  | filesChanged kind files =>
      cases kind with
      | changed =>
          show (files.foldl Workspace.contentChanged s.workspace).generation key = _
          rw [Workspace.generation_foldl_contentChanged, h.configured]
          simp [raises, isInvalidation, changedFiles, endsWithModelChange]
      | created => rfl
      | deleted => rfl

/-- No tree is kept under a key whose generation a step has raised. -/
theorem Coherent.peek?_of_raised (h : Coherent settings history s) (step : s.Step event t)
    (raised : s.workspace.generation key < t.workspace.generation key) :
    t.workspace.trees.peek? key = none := by
  cases step with
  | hit idle found =>
      obtain rfl := congrArg Prod.snd found
      exact (Workspace.forgets_lookup h.orderly _).peek?_of_raised h.orderly raised
  | miss idle missing =>
      obtain rfl := congrArg Prod.snd missing
      exact (Workspace.forgets_lookup h.orderly _).peek?_of_raised h.orderly raised
  | @read _ text pending _ _ reading parse =>
      obtain ⟨-, rfl⟩ := Prod.mk.inj parse
      exact (Workspace.forgets_parseText pending.key text).peek?_of_raised h.orderly raised
  | fail reading => exact absurd raised (Nat.lt_irrefl _)
  | keep parsed => exact absurd Workspace.generation_keep (Nat.ne_of_gt raised)
  | invalidate file => exact (Workspace.forgets_invalidate file).peek?_of_raised h.orderly raised
  | inputChanged => exact Workspace.forgets_inputChanged.peek?_of_raised h.orderly raised
  | modelChanging file => exact Workspace.forgets_modelChanging.peek?_of_raised h.orderly raised
  | filesChanged kind files =>
      exact Workspace.forgets_filesChanged.peek?_of_raised h.orderly raised

/-- THE GENERATION COUNTS: however calls and events alternate, the generation of a key is the
    number of requests to invalidate it, of its scripts in batches of changed files, and of
    its model changes that do not come from loading an input.  Looking a key up, reading its
    text and keeping its tree count for nothing, nor do inputs, files that are made or deleted
    and files of other types.  Where a step adds to the generation of a key, no tree is kept
    for its files behind it. -/
theorem generation_eq_counts (h : Reached settings history s) (key : String) :
    s.workspace.generation key = invalidations key history +
        changedScripts settings.scriptType key history + modelChanges key history ∧
      ∀ event t, s.Step event t → s.workspace.generation key < t.workspace.generation key →
        ∀ file, FileMetadata.key file = key → t.workspace.cached? file = none := by
  refine ⟨?_, fun event t step raised file own => ?_⟩
  · induction h with
    | start => exact Std.HashMap.getD_empty
    | step reached step ih => rw [reached.coherent.generation_step step, ih, counts_cons]
  · rw [Workspace.cached?, own]
    exact h.coherent.peek?_of_raised step raised

/-- Two scripts of one batch count, a file of another type and the loading of an input do
    not. -/
theorem generation_eq_counts_batch :
    let script : FileMetadata := ⟨some "a.js", some ContentType.javaScript, none⟩
    let page : FileMetadata := ⟨some "a.js", some "text/html", none⟩
    let history : List WorkspaceEvent := [.modelChanging (some script),
      .filesChanged .created [script], .modelChanging none, .inputChanged,
      .filesChanged .changed [script, page, script]]
    ∃ s t, Reached .default history s ∧ s.workspace.generation "a.js" = 3 ∧
      s.Step (.invalidate (some script)) t ∧ t.workspace.generation "a.js" = 4 ∧
      t.workspace.cached? (some script) = none := by
  intro script page history
  have nobody : Reached .default [] (.ofSettings .default) := .start
  obtain ⟨s, reached⟩ : ∃ s, Reached .default history s :=
    ⟨_, ((((nobody.step (.filesChanged _ _)).step .inputChanged).step (.modelChanging _)).step
      (.filesChanged _ _)).step (.modelChanging _)⟩
  have next := Step.invalidate (s := s) (some script)
  have before : s.workspace.generation "a.js" = 3 :=
    (generation_eq_counts reached "a.js").1.trans (by decide)
  have behind := (generation_eq_counts (reached.step next) "a.js").1.trans
    (by decide : _ = 4)
  refine ⟨s, _, reached, before, next, behind, ?_⟩
  exact (generation_eq_counts reached "a.js").2 _ _ next (by rw [before, behind]; decide)
    (some script) rfl

end SharedWorkspace

end ScriptTree

import ScriptTree.Proofs.Cache.Peek
import ScriptTree.Workspace.Basic

/-! # Trees and generations

    What each access to a workspace does to the trees that are kept and to the
    generations of their keys.  Events `Forget` the keys they make wrong: no tree
    is kept under such a key, its generation rises, and nothing else changes.
    A lookup forgets nothing; `keep` adds one tree at most, and only while the
    generation of its key is the one of the lookup. -/

namespace ScriptTree.Workspace

variable {w w' w'' : Workspace} {key other : String} {file : Option FileMetadata}
  {wrong wrong' : String → Prop} {pending : PendingFetch} {tree found : ParsedTree}

/-- The cache of a workspace stands for a list of trees. -/
def Orderly (w : Workspace) : Prop := ∃ l, w.trees.Lists l

/-- A new workspace is orderly. -/
theorem orderly_ofSettings (settings : WorkspaceSettings) : (ofSettings settings).Orderly :=
  ⟨_, RecencyCache.lists_empty _⟩

/-- Up to the greatest capacity a workspace can be made. -/
theorem create?_of_le {settings : WorkspaceSettings}
    (room : settings.capacity ≤ RecencyCache.capacityLimit) :
    create? settings = some (ofSettings settings) := by
  have one : 1 ≤ RecencyCache.capacityLimit := by decide
  rw [create?, RecencyCache.create?, if_pos (Nat.max_le.mpr ⟨room, one⟩)]
  rfl

/-- Beyond it none can. -/
theorem create?_of_lt {settings : WorkspaceSettings}
    (much : RecencyCache.capacityLimit < settings.capacity) : create? settings = none := by
  have beyond : ¬ max settings.capacity 1 ≤ RecencyCache.capacityLimit := by
    rw [Nat.max_le]
    exact fun room => Nat.not_le.mpr much room.1
  rw [create?, RecencyCache.create?, if_neg beyond]
  rfl

/-- From one workspace to another, the trees of wrong keys are forgotten. -/
structure Forgets (wrong : String → Prop) (w w' : Workspace) : Prop where
  orderly : w.Orderly → w'.Orderly
  settings : w'.settings = w.settings
  dropped : w.Orderly → ∀ key, wrong key → w'.trees.peek? key = none
  raised : ∀ key, wrong key → w.generation key < w'.generation key
  kept : w.Orderly → ∀ key, ¬ wrong key → w'.trees.peek? key = w.trees.peek? key
  same : ∀ key, ¬ wrong key → w'.generation key = w.generation key

namespace Forgets

/-- Nothing is forgotten where trees and generations stay. -/
theorem nothing (trees : w'.trees = w.trees) (generations : w'.generations = w.generations)
    (settings : w'.settings = w.settings) : Forgets (fun _ => False) w w' where
  orderly := fun ⟨l, h⟩ => ⟨l, trees ▸ h⟩
  settings := settings
  dropped _ _ h := h.elim
  raised _ h := h.elim
  kept _ _ _ := by rw [trees]
  same _ _ := by rw [generation, generation, generations]

/-- Generations are never lowered. -/
theorem mono (h : Forgets wrong w w') : ∀ key, w.generation key ≤ w'.generation key := by
  intro key
  by_cases hk : wrong key
  · exact Nat.le_of_lt (h.raised key hk)
  · exact Nat.le_of_eq (h.same key hk).symm

/-- What is wrong may be said in another way. -/
theorem congr (h : Forgets wrong w w') (same : ∀ key, wrong key ↔ wrong' key) :
    Forgets wrong' w w' := by
  obtain rfl : wrong = wrong' := funext fun key => propext (same key)
  exact h

/-- What is forgotten in two steps. -/
theorem trans (h : Forgets wrong w w') (h' : Forgets wrong' w' w'') :
    Forgets (fun key => wrong key ∨ wrong' key) w w'' where
  orderly ho := h'.orderly (h.orderly ho)
  settings := h'.settings.trans h.settings
  dropped ho key hk := by
    by_cases hk' : wrong' key
    · exact h'.dropped (h.orderly ho) key hk'
    · rw [h'.kept (h.orderly ho) key hk', h.dropped ho key (hk.resolve_right hk')]
  raised key hk := by
    by_cases hk' : wrong' key
    · exact Nat.lt_of_le_of_lt (h.mono key) (h'.raised key hk')
    · rw [h'.same key hk']
      exact h.raised key (hk.resolve_right hk')
  kept ho key hk := by
    rw [h'.kept (h.orderly ho) key fun h => hk (.inr h), h.kept ho key fun h => hk (.inl h)]
  same key hk := by
    rw [h'.same key fun h => hk (.inr h), h.same key fun h => hk (.inl h)]

end Forgets

/-! ## Events -/

/-- Invalidating a key raises its generation, and no other. -/
theorem generation_invalidateKey : (w.invalidateKey key).2.generation other =
    if key == other then w.generation key + 1 else w.generation other := by
  simp only [generation, invalidateKey, Std.HashMap.getD_insert]

/-- Its tree is forgotten. -/
theorem forgets_invalidateKey : Forgets (key = ·) w (w.invalidateKey key).2 where
  orderly := fun ⟨_, h⟩ => ⟨_, (h.erase key).2⟩
  settings := rfl
  dropped := fun ⟨_, h⟩ other same => by
    rw [invalidateKey, h.peek?_erase, if_pos (beq_iff_eq.mpr same)]
  raised other same := by
    rw [generation_invalidateKey, if_pos (beq_iff_eq.mpr same), same]
    exact Nat.lt_succ_self _
  kept := fun ⟨_, h⟩ other differ => by
    rw [invalidateKey, h.peek?_erase, if_neg (mt beq_iff_eq.mp differ)]
  same other differ := by
    rw [generation_invalidateKey, if_neg (mt beq_iff_eq.mp differ)]

/-- Invalidating a file forgets the tree of its key. -/
theorem forgets_invalidate (file : Option FileMetadata) :
    Forgets (FileMetadata.key file = ·) w (w.invalidate file).2 := forgets_invalidateKey

/-- A change of the input forgets nothing. -/
theorem forgets_inputChanged : Forgets (fun _ => False) w w.inputChanged := .nothing rfl rfl rfl

/-- A model change makes the key of its file wrong, unless an input is being
    loaded. -/
theorem forgets_modelChanging :
    Forgets (fun key => w.loadsInput = false ∧ FileMetadata.key file = key) w
      (w.modelChanging file) := by
  rw [modelChanging]
  cases w.loadsInput with
  | true =>
      have loaded : Forgets (fun _ => False) w { w with loadsInput := false } :=
        .nothing rfl rfl rfl
      exact loaded.congr fun _ => by simp
  | false => exact (forgets_invalidate file).congr fun _ => by simp

/-- A change of the model behind a loaded input forgets the tree of the file. -/
theorem forgets_modelChanging_of_loaded (loaded : w.loadsInput = false)
    (file : Option FileMetadata) :
    Forgets (FileMetadata.key file = ·) w (w.modelChanging file) :=
  forgets_modelChanging.congr fun _ => by simp [loaded]

/-- While an input is being loaded, a model change is taken for its loading. -/
theorem forgets_modelChanging_of_loading (loading : w.loadsInput = true)
    (file : Option FileMetadata) : Forgets (fun _ => False) w (w.modelChanging file) :=
  forgets_modelChanging.congr fun _ => by simp [loading]

/-- The input counts as loaded from then on. -/
theorem loadsInput_modelChanging : (w.modelChanging file).loadsInput = false := by
  rw [modelChanging]
  split
  · rfl
  · rename_i h
    exact Bool.eq_false_iff.mpr h

/-- New content of a script forgets its tree. -/
theorem forgets_contentChanged (file : FileMetadata) :
    Forgets (fun key => file.contentType = some w.settings.scriptType ∧
      FileMetadata.key (some file) = key) w (w.contentChanged file) := by
  rw [contentChanged]
  by_cases script : file.contentType = some w.settings.scriptType
  · rw [if_pos (beq_iff_eq.mpr script)]
    exact (forgets_invalidate (some file)).congr fun _ => by simp [script]
  · rw [if_neg (mt beq_iff_eq.mp script)]
    exact (Forgets.nothing rfl rfl rfl).congr fun _ => by simp [script]

/-- New content does not tell whether the input is loaded. -/
theorem loadsInput_contentChanged {file : FileMetadata} :
    (w.contentChanged file).loadsInput = w.loadsInput := by
  rw [contentChanged]
  split <;> rfl

/-- The changed files make the keys of all scripts among them wrong. -/
theorem forgets_foldl_contentChanged (files : List FileMetadata) :
    Forgets (fun key => ∃ file ∈ files, file.contentType = some w.settings.scriptType ∧
      FileMetadata.key (some file) = key) w (files.foldl contentChanged w) := by
  induction files generalizing w with
  | nil => exact (Forgets.nothing rfl rfl rfl).congr fun _ => by simp
  | cons file rest ih =>
      have first : w.Forgets _ (w.contentChanged file) := forgets_contentChanged file
      exact (first.trans ih).congr fun _ => by simp [first.settings]

/-- Nor do changes of files. -/
theorem loadsInput_filesChanged {kind : FileEventKind} {files : List FileMetadata} :
    (w.filesChanged kind files).loadsInput = w.loadsInput := by
  cases kind with
  | changed =>
      rw [filesChanged]
      induction files generalizing w with
      | nil => rfl
      | cons file rest ih => rw [List.foldl_cons, ih, loadsInput_contentChanged]
  | created => rfl
  | deleted => rfl

/-- Changed files lose their trees if they are scripts, others keep them. -/
theorem forgets_filesChanged {kind : FileEventKind} {files : List FileMetadata} :
    Forgets (fun key => kind = .changed ∧ ∃ file ∈ files,
      file.contentType = some w.settings.scriptType ∧ FileMetadata.key (some file) = key) w
      (w.filesChanged kind files) := by
  cases kind with
  | changed => exact (forgets_foldl_contentChanged files).congr fun _ => by simp
  | created => exact (Forgets.nothing rfl rfl rfl).congr fun _ => by simp
  | deleted => exact (Forgets.nothing rfl rfl rfl).congr fun _ => by simp

/-! ## Fetches -/

/-- Looking a key up finds the tree that is kept, or notes the generation. -/
theorem lookup_eq (h : w.Orderly) : w.lookup key =
    ((w.trees.peek? key).elim (.missing ⟨key, w.generation key⟩) .found,
      { w with trees := (w.trees.get? key).2 }) := by
  obtain ⟨l, h⟩ := h
  rw [lookup, ← h.get?_fst]
  cases hg : w.trees.get? key with
  | mk found trees => cases found <;> rfl

/-- Looking a key up forgets nothing. -/
theorem forgets_lookup (h : w.Orderly) (key : String) :
    Forgets (fun _ => False) w (w.lookup key).2 := by
  rw [lookup_eq h]
  obtain ⟨l, h⟩ := h
  exact ⟨fun _ => ⟨_, (h.get? key).2⟩, rfl, fun _ _ no => no.elim, fun _ no => no.elim,
    fun _ _ _ => h.peek?_get?, fun _ _ => rfl⟩

/-- Nor does it tell whether the input is loaded. -/
theorem loadsInput_lookup (h : w.Orderly) (key : String) :
    (w.lookup key).2.loadsInput = w.loadsInput := by
  rw [lookup_eq h]

/-- What is found was kept. -/
theorem lookup_found (h : w.Orderly) (found : (w.lookup key).1 = .found tree) :
    w.trees.peek? key = some tree := by
  rw [lookup_eq h] at found
  cases peek : w.trees.peek? key with
  | none => rw [peek] at found; cases found
  | some kept => rw [peek] at found; exact congrArg some (Lookup.found.inj found)

/-- What is missing is to be fetched at the present generation. -/
theorem lookup_missing (h : w.Orderly) (missing : (w.lookup key).1 = .missing pending) :
    pending = ⟨key, w.generation key⟩ := by
  rw [lookup_eq h] at missing
  cases peek : w.trees.peek? key with
  | none => rw [peek] at missing; exact (Lookup.missing.inj missing).symm
  | some kept => rw [peek] at missing; cases missing

/-- What is missing was not kept. -/
theorem lookup_absent (h : w.Orderly) (missing : (w.lookup key).1 = .missing pending) :
    w.trees.peek? key = none := by
  rw [lookup_eq h] at missing
  cases peek : w.trees.peek? key with
  | none => rfl
  | some kept => rw [peek] at missing; cases missing

/-- Where no tree is kept, none is found. -/
theorem lookup_of_none (h : w.Orderly) (absent : w.trees.peek? key = none) :
    (w.lookup key).1 = .missing ⟨key, w.generation key⟩ := by
  rw [lookup_eq h, absent]
  rfl

/-- Parsing forgets nothing. -/
theorem forgets_parseText (key text : String) :
    Forgets (fun _ => False) w (w.parseText key text).2 := .nothing rfl rfl rfl

/-- A tree is kept only if its generation is still the present one. -/
theorem keep_eq : w.keep pending tree =
    if w.generation pending.key = pending.generation then
      { w with trees := (w.trees.put pending.key tree).2 } else w := by
  simp [keep]

/-- Keeping a tree leaves the workspace orderly. -/
theorem Orderly.keep (h : w.Orderly) : (w.keep pending tree).Orderly := by
  obtain ⟨l, h⟩ := h
  rw [keep_eq]
  split
  · exact ⟨_, (h.put _ _).2⟩
  · exact ⟨l, h⟩

@[simp] theorem generation_keep : (w.keep pending tree).generation key = w.generation key := by
  rw [keep_eq]
  split <;> rfl

@[simp] theorem loadsInput_keep : (w.keep pending tree).loadsInput = w.loadsInput := by
  rw [keep_eq]
  split <;> rfl

@[simp] theorem settings_keep : (w.keep pending tree).settings = w.settings := by
  rw [keep_eq]
  split <;> rfl

/-- A tree is kept if it is up to date. -/
theorem Orderly.peek?_keep_self (h : w.Orderly)
    (current : w.generation pending.key = pending.generation) :
    (w.keep pending tree).trees.peek? pending.key = some tree := by
  obtain ⟨l, h⟩ := h
  rw [keep_eq, if_pos current]
  exact h.peek?_put_self

/-- What is kept was kept before, or it is the new tree, up to date. -/
theorem Orderly.peek?_keep (h : w.Orderly)
    (after : (w.keep pending tree).trees.peek? key = some found) :
    (pending.key = key ∧ tree = found ∧ w.generation pending.key = pending.generation) ∨
      w.trees.peek? key = some found := by
  obtain ⟨l, h⟩ := h
  rw [keep_eq] at after
  split at after
  · rename_i current
    exact (h.peek?_put after).imp (fun ⟨same, new⟩ => ⟨same, new, current⟩) id
  · exact .inr after

end ScriptTree.Workspace

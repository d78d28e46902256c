import ScriptTree.Proofs.Cache.Residence
import ScriptTree.Proofs.Workspace.Overlap

/-! # Residence — how long a workspace keeps a tree

    What a step does to the trees of a workspace is a change of a recency list: a lookup
    that finds a tree and a tree that is kept use one key, events drop the keys that they
    invalidate, and nothing else changes anything.  So a tree that is in the cache when a
    call returns it stays there while its key is left alone and fewer other keys are used
    than there is room for.

    That the tree was put there by this very call needs an argument: the tree of another
    call is another tree, since no two parses of a workspace have the same number. -/

namespace ScriptTree

/-- The fetch of a call that is on its way. -/
def FetchPhase.pending? : FetchPhase → Option PendingFetch
  | .reading pending => some pending
  | .parsed pending _ => some pending
  | _ => none

/-- The tree that a call has made by itself. -/
def FetchPhase.own? : FetchPhase → Option ParsedTree
  | .parsed _ tree => some tree
  | .made tree => some tree
  | _ => none

namespace Workspace

variable {w : Workspace} {key text : String} {pending : PendingFetch} {tree : ParsedTree}
  {l : RecencyList String ParsedTree}

/-! ## What accesses do to the trees -/

/-- New content of a script takes its key out of the list. -/
theorem lists_contentChanged (h : w.trees.Lists l) (file : FileMetadata) :
    ∃ keys, (∀ key ∈ keys, file.contentType = some w.settings.scriptType ∧
      FileMetadata.key (some file) = key) ∧
      (w.contentChanged file).trees.Lists (l.eraseAll keys) := by
  rw [contentChanged]
  by_cases script : file.contentType = some w.settings.scriptType
  · rw [if_pos (beq_iff_eq.mpr script)]
    refine ⟨[FileMetadata.key (some file)], fun key hk => ?_, (h.erase _).2⟩
    exact ⟨script, (List.mem_singleton.mp hk).symm⟩
  · rw [if_neg (mt beq_iff_eq.mp script)]
    exact ⟨[], fun _ none => absurd none List.not_mem_nil, h⟩

/-- Changed files drop the trees of the scripts among them. -/
theorem lists_foldl_contentChanged (h : w.trees.Lists l) (files : List FileMetadata) :
    ∃ keys, (∀ key ∈ keys, ∃ file ∈ files, file.contentType = some w.settings.scriptType ∧
      FileMetadata.key (some file) = key) ∧
      (files.foldl contentChanged w).trees.Lists (l.eraseAll keys) := by
  induction files generalizing w l with
  | nil => exact ⟨[], nofun, h⟩
  | cons file rest ih =>
      obtain ⟨first, wrong, lists⟩ := lists_contentChanged h file
      obtain ⟨others, wrong', lists⟩ := ih lists
      rw [(forgets_contentChanged file).settings] at wrong'
      refine ⟨first ++ others, fun key hk => ?_, ?_⟩
      · rcases List.mem_append.mp hk with hk | hk
        · exact ⟨file, List.mem_cons_self, wrong key hk⟩
        · obtain ⟨other, there, wrong⟩ := wrong' key hk
          exact ⟨other, List.mem_cons_of_mem _ there, wrong⟩
      · rw [RecencyList.eraseAll, List.foldl_append]
        exact lists

/-! ## Numbers of parses -/

/-- Looking a key up is no parse. -/
theorem parses_lookup : (w.lookup key).2.parses = w.parses := by
  rw [lookup]
  split <;> rfl

/-- Nor is keeping a tree. -/
theorem parses_keep : (w.keep pending tree).parses = w.parses := by
  rw [keep_eq]
  split <;> rfl

/-- Nor is a change of the model. -/
theorem parses_modelChanging (file : Option FileMetadata) :
    (w.modelChanging file).parses = w.parses := by
  rw [modelChanging]
  split <;> rfl

/-- Nor is a change of files. -/
theorem parses_filesChanged (kind : FileEventKind) (files : List FileMetadata) :
    (w.filesChanged kind files).parses = w.parses := by
  cases kind with
  | changed =>
      rw [filesChanged]
      induction files generalizing w with
      | nil => rfl
      | cons file rest ih =>
          rw [List.foldl_cons, ih, contentChanged]
          split <;> rfl
  | created => rfl
  | deleted => rfl

end Workspace

namespace SharedWorkspace

open WorkspaceEvent (awaitsLoad invalidates)

variable {settings : WorkspaceSettings} {history : List WorkspaceEvent} {event : WorkspaceEvent}
  {s t u : SharedWorkspace} {w : Workspace} {call : Nat} {phase : FetchPhase} {key : String}
  {tree : ParsedTree} {l : RecencyList String ParsedTree}

/-- The key that a step uses: that of a lookup that finds a tree, or of a tree that is
    kept. -/
def uses (s : SharedWorkspace) : WorkspaceEvent → List String
  | .lookup _ file => if (s.workspace.cached? file).isSome then [FileMetadata.key file] else []
  | .keep call => match s.phases call with
    | .parsed pending _ =>
      if s.workspace.generation pending.key = pending.generation then [pending.key] else []
    | _ => []
  | _ => []

/-- Keeping a tree uses its key, if the tree is kept. -/
theorem uses_keep {pending : PendingFetch} (parsed : s.phases call = .parsed pending tree) :
    s.uses (.keep call) =
      if s.workspace.generation pending.key = pending.generation then [pending.key] else [] := by
  rw [uses, parsed]

/-- What a step does to the trees. -/
theorem Coherent.changes (h : Coherent settings history s) (step : s.Step event t)
    (lists : s.workspace.trees.Lists l) :
    ∃ l', t.workspace.trees.Lists l' ∧
      l.Changes (fun key => event.invalidates settings.scriptType key history)
        (s.uses event) l' := by
  cases step with
  | @hit call file tree w idle found =>
      have kept := Workspace.lookup_found h.orderly (congrArg Prod.fst found)
      obtain rfl := congrArg Prod.snd found
      -- A hit moves its key to the front, which is the one use of the event.
      rw [Workspace.lookup_eq h.orderly, uses, Workspace.cached?, kept]
      exact ⟨_, (lists.get? _).2, .find _⟩
  | @miss call file pending w idle missing =>
      have absent := Workspace.lookup_absent h.orderly (congrArg Prod.fst missing)
      obtain rfl := congrArg Prod.snd missing
      rw [Workspace.lookup_eq h.orderly, uses, Workspace.cached?, absent]
      -- A miss changes nothing, since the key is absent.
      have same := (lists.get? (FileMetadata.key file)).2
      rw [RecencyList.get?_of_absent ((lists.peek? _).symm.trans absent)] at same
      exact ⟨l, same, .refl⟩
  | read reading parse =>
      obtain ⟨-, rfl⟩ := Prod.mk.inj parse
      exact ⟨l, lists, .refl⟩
  | fail reading => exact ⟨l, lists, .refl⟩
  | @keep call pending tree parsed =>
      rw [uses_keep parsed]
      show ∃ l', (s.workspace.keep pending tree).trees.Lists l' ∧ _
      rw [Workspace.keep_eq]
      split
      · exact ⟨_, (lists.put _ _).2, .put _ _⟩
      · exact ⟨l, lists, .refl⟩
  | invalidate file =>
      refine ⟨l.eraseAll [FileMetadata.key file], (lists.erase _).2, .drop fun key hk => ?_⟩
      obtain rfl := List.mem_singleton.mp hk
      exact beq_self_eq_true _
  | inputChanged => exact ⟨l, lists, .refl⟩
  | modelChanging file =>
      have loads := h.loadsInput
      show ∃ l', (s.workspace.modelChanging file).trees.Lists l' ∧ _
      -- Swallowed, the change drops nothing.
      rw [Workspace.modelChanging]
      split
      · exact ⟨l, lists, .refl⟩
      · rename_i loaded
        refine ⟨l.eraseAll [FileMetadata.key file], (lists.erase _).2, .drop fun key hk => ?_⟩
        obtain rfl := List.mem_singleton.mp hk
        rw [loads] at loaded
        simp [invalidates, loaded]
  | filesChanged kind files =>
      cases kind with
      | changed =>
          obtain ⟨keys, wrong, after⟩ := Workspace.lists_foldl_contentChanged lists files
          refine ⟨_, after, .drop fun key hk => ?_⟩
          rw [h.configured] at wrong
          simpa [invalidates] using wrong key hk
      | created => exact ⟨l, lists, .refl⟩
      | deleted => exact ⟨l, lists, .refl⟩

/-- A workspace stands for a list of trees that has room for as many as its settings say. -/
theorem Reached.lists (h : Reached settings history s) :
    ∃ l, s.workspace.trees.Lists l ∧ l.capacity = max settings.capacity 1 := by
  induction h with
  | start => exact ⟨_, RecencyCache.lists_empty _, rfl⟩
  | step reached step ih =>
      obtain ⟨l, lists, capacity⟩ := ih
      obtain ⟨l', lists', changes⟩ := reached.coherent.changes step lists
      exact ⟨l', lists', changes.capacity.trans capacity⟩

/-! ## Trees of other calls -/

/-- The trees that calls have made are numbered by the parses, so no two calls have made the
    same one. -/
structure Numbered (s : SharedWorkspace) : Prop where
  below : ∀ call tree, (s.phases call).own? = some tree → tree.serial < s.workspace.parses
  apart : ∀ call other tree, (s.phases call).own? = some tree →
    (s.phases other).own? = some tree → call = other

/-- What calls have made and how many texts were parsed is all that counts. -/
theorem Numbered.same (h : s.Numbered) (parses : t.workspace.parses = s.workspace.parses)
    (own : ∀ call, (t.phases call).own? = (s.phases call).own?) : t.Numbered where
  below call tree made := parses ▸ h.below call tree (own call ▸ made)
  apart call other tree made made' := h.apart call other tree (own call ▸ made) (own other ▸ made')

/-- A call that goes on without a parse keeps its number. -/
theorem Numbered.advance (h : s.Numbered) (parses : w.parses = s.workspace.parses)
    (own : phase.own? = (s.phases call).own?) : (s.advance call phase w).Numbered := by
  refine h.same parses fun c => ?_
  simp only [SharedWorkspace.advance]
  split
  · rename_i same
    exact same ▸ own
  · rfl

/-- A parse has a number of its own. -/
theorem Numbered.read (h : s.Numbered) {pending : PendingFetch} (text : String) :
    (s.advance call (.parsed pending (s.workspace.parseText pending.key text).1)
      (s.workspace.parseText pending.key text).2).Numbered := by
  have new : (s.workspace.parseText pending.key text).1.serial = s.workspace.parses := rfl
  generalize (s.workspace.parseText pending.key text).1 = parsed at new
  -- A call has the new tree, or it has what it had, which is older.
  have either : ∀ {c tree}, ((s.advance call (.parsed pending parsed)
      (s.workspace.parseText pending.key text).2).phases c).own? = some tree →
      (c = call ∧ tree = parsed) ∨
        ((s.phases c).own? = some tree ∧ tree.serial < s.workspace.parses) := by
    intro c tree made
    simp only [SharedWorkspace.advance] at made
    split at made
    · exact .inl ⟨‹_›, (Option.some.inj made).symm⟩
    · exact .inr ⟨made, h.below c tree made⟩
  constructor
  · intro c tree made
    show tree.serial < s.workspace.parses + 1
    rcases either made with ⟨-, rfl⟩ | ⟨-, older⟩ <;> omega
  · intro c d tree made made'
    rcases either made with ⟨rfl, rfl⟩ | ⟨own, older⟩
    · rcases either made' with ⟨rfl, -⟩ | ⟨-, older⟩
      · rfl
      · omega
    · rcases either made' with ⟨rfl, rfl⟩ | ⟨own', -⟩
      · omega
      · exact h.apart c d tree own own'

/-- Every step keeps the numbers. -/
theorem Numbered.step (h : s.Numbered) (step : s.Step event t) : t.Numbered := by
  cases step with
  | hit idle found =>
      obtain rfl := congrArg Prod.snd found
      exact h.advance Workspace.parses_lookup (by rw [idle]; rfl)
  | miss idle missing =>
      obtain rfl := congrArg Prod.snd missing
      exact h.advance Workspace.parses_lookup (by rw [idle]; rfl)
  | read reading parse =>
      obtain ⟨rfl, rfl⟩ := Prod.mk.inj parse
      exact h.read _
  | fail reading => exact h.advance rfl (by rw [reading]; rfl)
  | keep parsed => exact h.advance Workspace.parses_keep (by rw [parsed]; rfl)
  | invalidate file => exact h.same rfl fun _ => rfl
  | inputChanged => exact h.same rfl fun _ => rfl
  | modelChanging file => exact h.same (Workspace.parses_modelChanging file) fun _ => rfl
  | filesChanged kind files => exact h.same (Workspace.parses_filesChanged kind files) fun _ => rfl

/-- So they are those of the parses on every run. -/
theorem Reached.numbered (h : Reached settings history s) : s.Numbered := by
  induction h with
  | start => exact ⟨nofun, nofun⟩
  | step _ step ih => exact ih.step step

/-- A tree that its call is still to keep is kept under no key. -/
theorem Reached.not_kept (h : Reached settings history s) {pending : PendingFetch}
    (parsed : s.phases call = .parsed pending tree) :
    s.workspace.trees.peek? key ≠ some tree := by
  intro kept
  obtain ⟨other, file, text, made, -⟩ := h.coherent.fetched key tree kept
  obtain rfl := h.numbered.apart call other tree (by rw [parsed]; rfl) (by rw [made]; rfl)
  rw [parsed] at made
  cases made

/-! ## A key that is left alone -/

/-- No call for the key is on its way. -/
def NoneFor (key : String) (s : SharedWorkspace) : Prop :=
  ∀ call pending, (s.phases call).pending? = some pending → pending.key ≠ key

/-- A history goes on from a state to another one and leaves a key alone: it does not
    invalidate the key, and no call looks it up.  Meanwhile these keys are used. -/
inductive LeavesAlone (settings : WorkspaceSettings) (key : String)
    (history : List WorkspaceEvent) (s : SharedWorkspace) :
    List WorkspaceEvent → SharedWorkspace → List String → Prop where
  | start : LeavesAlone settings key history s history s []
  | step {later : List WorkspaceEvent} {event : WorkspaceEvent} {t u : SharedWorkspace}
      {used : List String} :
      LeavesAlone settings key history s later t used →
      t.Step event u →
      ¬ event.invalidates settings.scriptType key later →
      (∀ call file, event = .lookup call file → FileMetadata.key file ≠ key) →
      LeavesAlone settings key history s (event :: later) u (t.uses event ++ used)

/-- A call that goes on for another key has nothing for this one. -/
theorem NoneFor.advance (h : s.NoneFor key)
    (other : ∀ pending, phase.pending? = some pending → pending.key ≠ key) :
    (s.advance call phase w).NoneFor key := by
  intro c pending fetch
  simp only [SharedWorkspace.advance] at fetch
  split at fetch
  · exact other pending fetch
  · exact h c pending fetch

/-- Calls for the key come from lookups of it only. -/
theorem NoneFor.step (h : s.NoneFor key) (coherent : Coherent settings history s)
    (step : s.Step event t)
    (asked : ∀ call file, event = .lookup call file → FileMetadata.key file ≠ key) :
    t.NoneFor key := by
  cases step with
  | hit idle found => exact h.advance nofun
  | miss idle missing =>
      obtain rfl := Workspace.lookup_missing coherent.orderly (congrArg Prod.fst missing)
      exact h.advance fun pending fetch => Option.some.inj fetch ▸ asked _ _ rfl
  | @read call text pending tree w reading parse =>
      refine h.advance fun other fetch => ?_
      obtain rfl := Option.some.inj fetch
      exact h call pending (by rw [reading]; rfl)
  | fail reading => exact h.advance nofun
  | keep parsed => exact h.advance nofun
  | invalidate file => exact h
  | inputChanged => exact h
  | modelChanging file => exact h
  | filesChanged kind files => exact h

/-- A step uses the key of a lookup or of a call on its way. -/
theorem NoneFor.not_mem_uses (h : s.NoneFor key)
    (asked : ∀ call file, event = .lookup call file → FileMetadata.key file ≠ key) :
    key ∉ s.uses event := by
  intro used
  cases event with
  | lookup call file =>
      rw [uses] at used
      split at used
      · exact asked call file rfl (List.mem_singleton.mp used).symm
      · cases used
  | keep call =>
      cases phase : s.phases call with
      | parsed pending tree =>
          rw [uses_keep phase] at used
          split at used
          · exact h call pending (by rw [phase]; rfl) (List.mem_singleton.mp used).symm
          · cases used
      | _ => simp [uses, phase] at used
  | _ => cases used

/-- The state was reached, and the tree of the key is recent but for these keys. -/
structure Resides (settings : WorkspaceSettings) (history : List WorkspaceEvent)
    (s : SharedWorkspace) (key : String) (tree : ParsedTree) (used : List String) : Prop where
  reached : Reached settings history s
  noneFor : s.NoneFor key
  recent : ∃ l, s.workspace.trees.Lists l ∧ l.capacity = max settings.capacity 1 ∧
    l.Recent key tree used

/-- A tree stays while its key is left alone and there is room for the keys used since. -/
theorem Resides.leavesAlone {later : List WorkspaceEvent} {used : List String}
    (h : Resides settings history s key tree [])
    (alone : LeavesAlone settings key history s later t used)
    (room : (used.toFinset.erase key).card < max settings.capacity 1) :
    Resides settings later t key tree used := by
  induction alone with
  | start => exact h
  | @step later event t u used _ step spared asked ih =>
      have before : (used.toFinset.erase key).card < max settings.capacity 1 := by
        refine Nat.lt_of_le_of_lt (Finset.card_le_card (Finset.erase_subset_erase key ?_)) room
        intro k hk
        rw [List.mem_toFinset] at hk ⊢
        exact List.mem_append_right _ hk
      obtain ⟨reached, noneFor, l, lists, capacity, recent⟩ := ih before
      have coherent := reached.coherent
      obtain ⟨l', lists', changes⟩ := coherent.changes step lists
      refine ⟨reached.step step, noneFor.step coherent step asked, l', lists',
        changes.capacity.trans capacity, ?_⟩
      exact recent.change changes spared (noneFor.not_mem_uses asked) (capacity ▸ room)

/-- The step with which a call for the key returns the tree: a lookup that finds it, or the
    last step of a call that has made it. -/
inductive Returns (s t : SharedWorkspace) (key : String) (tree : ParsedTree) :
    WorkspaceEvent → Prop where
  | found {call : Nat} {file : Option FileMetadata} : FileMetadata.key file = key →
      t.phases call = .found tree → Returns s t key tree (.lookup call file)
  | made {call : Nat} {pending : PendingFetch} : pending.key = key →
      s.phases call = .parsed pending tree → Returns s t key tree (.keep call)

/-- A tree that is in the cache when its call returns was used by this very step. -/
theorem Reached.recent (h : Reached settings history s) (step : s.Step event t)
    (returns : Returns s t key tree event)
    (kept : t.workspace.trees.peek? key = some tree) :
    ∃ l, t.workspace.trees.Lists l ∧ l.capacity = max settings.capacity 1 ∧
      l.Recent key tree [] := by
  obtain ⟨l, lists, capacity⟩ := h.lists
  have orderly := h.coherent.orderly
  cases returns with
  | found own found =>
      cases step with
      | hit idle looked =>
          obtain rfl : _ = tree := FetchPhase.found.inj ((if_pos rfl).symm.trans found)
          have before := Workspace.lookup_found orderly (congrArg Prod.fst looked)
          obtain rfl := congrArg Prod.snd looked
          obtain rfl := own
          refine ⟨(l.get? _).2, ?_, RecencyList.capacity_get?.trans capacity,
            RecencyList.recent_get? ((lists.peek? _).symm.trans before)⟩
          rw [Workspace.lookup_eq orderly]
          exact (lists.get? _).2
      | miss idle looked => cases (if_pos rfl).symm.trans found
  | @made call pending own made =>
      obtain rfl := own
      -- The tree is in the cache behind the step, so the fetch was still current.
      cases step with
      | @keep _ fetch result parsed =>
          obtain ⟨rfl, rfl⟩ := FetchPhase.parsed.inj (made.symm.trans parsed)
          have after : (s.workspace.keep pending tree).trees.peek? pending.key = some tree := kept
          show ∃ l, (s.workspace.keep pending tree).trees.Lists l ∧ _
          rw [Workspace.keep_eq] at after ⊢
          split at after
          · rename_i current
            rw [if_pos current]
            exact ⟨_, (lists.put _ _).2, RecencyList.capacity_put.trans capacity,
              RecencyList.recent_put⟩
          · exact absurd after (h.not_kept made)

/-- CACHED TREES STAY: a call for a key has returned a tree, which is in the cache then, and
    no other call for the key is on its way.  Behind it calls for other keys and events may
    come in any order, so long as none invalidates the key, and fewer other keys than the
    cache has room for are found or kept.  Then the next call for the key finds the same
    tree, and asks for no text. -/
theorem found_again (h : Reached settings history s) (step : s.Step event t)
    (returns : Returns s t key tree event) (kept : t.workspace.trees.peek? key = some tree)
    (noneFor : t.NoneFor key) {later : List WorkspaceEvent} {used : List String}
    (alone : LeavesAlone settings key (event :: history) t later u used)
    (room : (used.toFinset.erase key).card < max settings.capacity 1) :
    (∀ call file, FileMetadata.key file = key → u.phases call = .idle →
      (∃ v, u.Step (.lookup call file) v) ∧
        ∀ v, u.Step (.lookup call file) v → v.phases call = .found tree) ∧
    ∀ file : MemoryFile, FileMetadata.key file.metadata = key →
      ∃ w, u.workspace.fetchFrom file = (.ok tree, file, w) := by
  have resides : Resides settings (event :: history) t key tree [] :=
    ⟨h.step step, noneFor, h.recent step returns kept⟩
  obtain ⟨reached, -, l, lists, -, recent⟩ := resides.leavesAlone alone room
  -- At most the other keys used stand before it, and there is room for these.
  have finds : u.workspace.lookup key =
      (.found tree, { u.workspace with trees := (u.workspace.trees.get? key).2 }) := by
    rw [Workspace.lookup_eq reached.coherent.orderly, lists.peek?, recent.peek?]
    rfl
  constructor
  · rintro call file rfl idle
    refine ⟨⟨_, .hit idle finds⟩, fun v step => ?_⟩
    cases step with
    | hit _ looked =>
        rw [finds] at looked
        obtain rfl := Lookup.found.inj (congrArg Prod.fst looked)
        exact if_pos rfl
    | miss _ looked => cases congrArg Prod.fst (finds.symm.trans looked)
  · rintro file rfl
    rw [Workspace.fetchFrom, finds]
    exact ⟨_, rfl⟩

/-- With room for two trees, one stays while a call that was on its way has another one
    kept. -/
theorem found_again_two :
    let a : Option FileMetadata := some ⟨some "a.js", none, none⟩
    let b : Option FileMetadata := some ⟨some "b.js", none, none⟩
    let history : List WorkspaceEvent := [.keep 1, .keep 0, .read 1 (.ok "b"), .lookup 1 b,
      .read 0 (.ok "a"), .lookup 0 a]
    ∃ u v tree, Reached ⟨2, "", {}⟩ history u ∧ u.Step (.lookup 2 a) v ∧
      v.phases 2 = .found tree := by
  intro a b history
  have nobody : Reached ⟨2, "", {}⟩ [] (.ofSettings ⟨2, "", {}⟩) := .start
  obtain ⟨w, same, looked⟩ := nobody.miss 0 a rfl RecencyCache.peek?_empty
  have first := looked.read 0 "a" rfl
  have absent := (same.kept nobody.coherent.orderly "b.js" id).trans RecencyCache.peek?_empty
  obtain ⟨w', same', looked⟩ := first.miss 1 b rfl absent
  have second := looked.read 1 "b" rfl
  -- Both calls have their trees now, and the first one keeps its tree.
  obtain ⟨s, reached, ⟨pending, tree, phase, own, current⟩, ⟨other, found, phase', own'⟩, idle⟩ :
      ∃ s, Reached ⟨2, "", {}⟩ (history.drop 2) s ∧
        (∃ pending tree, s.phases 0 = .parsed pending tree ∧ pending.key = "a.js" ∧
          s.workspace.generation pending.key = pending.generation) ∧
        (∃ pending tree, s.phases 1 = .parsed pending tree ∧ pending.key = "b.js") ∧
        ∀ call, call ≠ 0 → call ≠ 1 → s.phases call = .idle :=
    ⟨_, second, ⟨_, _, rfl, rfl, (same'.same "a.js" id).trans (same.same "a.js" id)⟩,
      ⟨_, _, rfl, rfl⟩, fun call h0 h1 => by simp [advance, ofSettings, h0, h1]⟩
  let t := s.advance 0 (.made tree) (s.workspace.keep pending tree)
  let u := t.advance 1 (.made found) (t.workspace.keep other found)
  have returns : s.Step (.keep 0) t := .keep phase
  have between : t.phases 1 = .parsed other found := phase'
  have kept : t.workspace.trees.peek? "a.js" = some tree :=
    own ▸ reached.coherent.orderly.peek?_keep_self current
  have alone : LeavesAlone ⟨2, "", {}⟩ "a.js" (.keep 0 :: history.drop 2) t
      (.keep 1 :: .keep 0 :: history.drop 2) u (t.uses (.keep 1) ++ []) :=
    .step .start (.keep between) (by simp [invalidates]) fun _ _ same => by cases same
  have room : ((t.uses (.keep 1) ++ []).toFinset.erase "a.js").card < 2 := by
    rw [uses_keep between, own']
    split <;> decide
  have noneFor : t.NoneFor "a.js" := by
    intro call fetch there
    by_cases zero : call = 0
    · subst zero
      cases there
    · by_cases one : call = 1
      · subst one
        rw [between] at there
        obtain rfl := Option.some.inj there
        rw [own']
        decide
      · simp [t, advance, zero, idle call zero one, FetchPhase.pending?] at there
  obtain ⟨finds, -⟩ := found_again reached returns (.made own phase) kept noneFor alone room
  obtain ⟨⟨v, next⟩, same⟩ := finds 2 a rfl (by simp [u, t, advance, idle])
  exact ⟨u, v, tree, (reached.step returns).step (.keep between), next, same v next⟩

end SharedWorkspace

end ScriptTree

import ScriptTree.Proofs.Workspace.Generation

/-! # Trees that are right

    Which trees are right for a key is left open: it depends on the texts that lie
    under the keys.  A workspace in which all kept trees are right hands out right
    trees only, whatever it has room for and whatever it gave up before.  Events
    keep it so if they forget the trees that are right no longer. -/

namespace ScriptTree.Workspace

variable {w w' : Workspace} {key text : String} {right right' : String → SyntaxTree → Prop}
  {wrong : String → Prop}

/-- The tree of a text under a key, if nothing comes between the two accesses. -/
def retrieve (w : Workspace) (key text : String) : ParsedTree × Workspace :=
  match w.lookup key with
  | (.found tree, w) => (tree, w)
  | (.missing fetch, w) => w.conclude fetch text

/-- All trees that are kept are right for their keys. -/
structure KeepsRight (right : String → SyntaxTree → Prop) (w : Workspace) : Prop where
  orderly : w.Orderly
  kept : ∀ key tree, w.trees.peek? key = some tree → right key tree.tree

/-- A new workspace has no trees that could be wrong. -/
theorem keepsRight_ofSettings (settings : WorkspaceSettings) :
    (ofSettings settings).KeepsRight right where
  orderly := orderly_ofSettings settings
  kept key tree found := by
    have none : (ofSettings settings).trees.peek? key = none := RecencyCache.peek?_empty
    cases none.symm.trans found

/-- Trees may become wrong if they are forgotten. -/
theorem KeepsRight.forget (h : w.KeepsRight right) (forgets : Forgets wrong w w')
    (stays : ∀ key tree, ¬ wrong key → right key tree → right' key tree) :
    w'.KeepsRight right' where
  orderly := forgets.orderly h.orderly
  kept key tree found := by
    by_cases lost : wrong key
    · cases (forgets.dropped h.orderly key lost).symm.trans found
    · rw [forgets.kept h.orderly key lost] at found
      exact stays key tree.tree lost (h.kept key tree found)

/-- What is handed out and kept is right, if the tree of the text would be. -/
theorem KeepsRight.retrieve (h : w.KeepsRight right)
    (fresh : right key (SyntaxTree.parse w.settings.options text.toList key)) :
    right key (w.retrieve key text).1.tree ∧ (w.retrieve key text).2.KeepsRight right := by
  have forgets := forgets_lookup h.orderly key
  have looked : (w.lookup key).2.KeepsRight right := h.forget forgets fun _ _ _ => id
  cases found : w.lookup key with
  | mk answer u =>
      rw [found] at forgets looked
      simp only [Workspace.retrieve, found]
      cases answer with
      | found tree =>
          have kept := lookup_found h.orderly (congrArg Prod.fst found)
          exact ⟨h.kept key tree kept, looked⟩
      | missing fetch =>
          obtain rfl := lookup_missing h.orderly (congrArg Prod.fst found)
          have parsed := looked.forget (forgets_parseText key text) fun _ _ _ => id
          have made : right key (u.parseText key text).1.tree := by
            rw [← forgets.settings] at fresh
            exact fresh
          refine ⟨made, parsed.orderly.keep, fun other tree there => ?_⟩
          rcases parsed.orderly.peek?_keep there with ⟨rfl, rfl, -⟩ | before
          · exact made
          · exact parsed.kept other tree before

/-- What is kept is handed out, whatever the text. -/
theorem retrieve_of_kept (h : w.Orderly) {tree : ParsedTree}
    (kept : w.trees.peek? key = some tree) : (w.retrieve key text).1 = tree := by
  have found : w.lookup key = _ := lookup_eq h
  rw [kept] at found
  rw [retrieve, found]
  rfl

/-- Where no tree is kept, the tree of the text is made and kept. -/
theorem retrieve_of_absent (h : w.Orderly) (absent : w.trees.peek? key = none) (text : String) :
    (w.retrieve key text).1.tree = SyntaxTree.parse w.settings.options text.toList key ∧
      (w.retrieve key text).2.Orderly ∧
      (w.retrieve key text).2.trees.peek? key = some (w.retrieve key text).1 := by
  have missing := lookup_of_none h absent
  have forgets := forgets_lookup h key
  cases looked : w.lookup key with
  | mk answer u =>
      rw [looked] at missing forgets
      obtain rfl : answer = .missing ⟨key, w.generation key⟩ := missing
      simp only [Workspace.retrieve, looked]
      have orderly : (u.parseText key text).2.Orderly := forgets.orderly h
      refine ⟨?_, orderly.keep, orderly.peek?_keep_self (forgets.same key id)⟩
      rw [← forgets.settings]
      rfl

@[simp] theorem settings_retrieve (h : w.Orderly) :
    (w.retrieve key text).2.settings = w.settings := by
  have looked := (forgets_lookup h key).settings
  rw [retrieve]
  split
  · rename_i found
    rwa [found] at looked
  · rename_i found
    rw [found] at looked
    exact settings_keep.trans looked

/-- A retrieval does not tell whether the input is loaded. -/
theorem loadsInput_retrieve (h : w.Orderly) :
    (w.retrieve key text).2.loadsInput = w.loadsInput := by
  have looked := loadsInput_lookup h key
  rw [retrieve]
  split
  · rename_i found
    rwa [found] at looked
  · rename_i found
    rw [found] at looked
    exact loadsInput_keep.trans looked

/-- The text of a file in memory is always to be had. -/
theorem fetchFrom_ofText (metadata : Option FileMetadata) (text : String) :
    ∃ file, w.fetchFrom (.ofText metadata text) =
      (.ok (w.retrieve (FileMetadata.key metadata) text).1, file,
        (w.retrieve (FileMetadata.key metadata) text).2) := by
  rw [fetchFrom, retrieve, MemoryFile.ofText]
  cases w.lookup (FileMetadata.key metadata) with
  | mk answer u => cases answer <;> exact ⟨_, rfl⟩

end ScriptTree.Workspace

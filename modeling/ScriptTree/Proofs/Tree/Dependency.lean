import ScriptTree.Tree.Dependency

/-! # Dependencies gathered in two goes

    Gathering what a node mentions joins it to what is known already.  Joining
    is associative and has `References.none` as its unit, so what is gathered
    behind known references is those references joined to what is gathered
    from nothing; and joining references to themselves adds nothing, since
    every module keeps its first mention. -/

namespace ScriptTree.References

variable {known names more : List String}

/-- Names are added in two goes as in one. -/
theorem addModules_append :
    addModules known (names ++ more) = addModules (addModules known names) more := by
  induction names generalizing known with
  | nil => rfl
  | cons name rest ih => exact ih

/-- The modules are those known before and those added. -/
theorem mem_addModules {name : String} :
    name ∈ addModules known names ↔ name ∈ known ∨ name ∈ names := by
  induction names generalizing known with
  | nil => simp [addModules]
  | cons first rest ih =>
      rw [addModules, ih]
      split
      · rename_i mentioned
        have : first ∈ known := List.contains_iff_mem.mp mentioned
        constructor
        · rintro (h | h)
          · exact .inl h
          · exact .inr (List.mem_cons_of_mem _ h)
        · rintro (h | h)
          · exact .inl h
          · rcases List.mem_cons.mp h with rfl | h
            · exact .inl this
            · exact .inr h
      · simp [or_assoc]

/-- Modules that are known already add nothing. -/
theorem addModules_of_subset (h : ∀ name ∈ names, name ∈ known) :
    addModules known names = known := by
  induction names with
  | nil => rfl
  | cons first rest ih =>
      have mentioned := List.contains_iff_mem.mpr (h first (List.mem_cons_self ..))
      rw [addModules, if_pos mentioned]
      exact ih fun name hn => h name (List.mem_cons_of_mem _ hn)

/-- Modules may be added to others before these are added to what is known. -/
theorem addModules_addModules :
    addModules known (addModules names more) = addModules (addModules known names) more := by
  induction more generalizing names with
  | nil => rfl
  | cons first rest ih =>
      rw [addModules, addModules, ih]
      congr 1
      by_cases mentioned : first ∈ names
      · have there : first ∈ addModules known names := mem_addModules.mpr (.inr mentioned)
        rw [if_pos (List.contains_iff_mem.mpr mentioned),
          if_pos (List.contains_iff_mem.mpr there)]
      · rw [if_neg (mt List.contains_iff_mem.mp mentioned), addModules_append]
        rfl

/-- What two programs mention, the first one first. -/
def join (r s : References) : References :=
  ⟨addModules r.modules s.modules, r.node || s.node, r.amd || s.amd⟩

/-- Nothing joined behind references leaves them. -/
theorem join_none (r : References) : r.join .none = r := by
  simp [join, none, addModules]

/-- References join in any grouping. -/
theorem join_assoc (r s t : References) : (r.join s).join t = r.join (s.join t) := by
  simp [join, addModules_addModules, Bool.or_assoc]

/-- What is known already adds nothing. -/
theorem join_self (r : References) : r.join r = r := by
  simp [join, addModules_of_subset fun _ h => h]

end ScriptTree.References

import ScriptTree.Proofs.Assembly.Phrase

/-! # What functions and classes make

    Functions and classes are closed over their names, parameters and bodies.  The
    words `static`, `get` and `set` in front of a name are names that are left out
    of the tree.  One word follows the opening of the member at once; of two, the
    second one follows the first. -/

namespace ScriptTree.Grammar

open Assembly
open Rule (Turn)

variable {σ : Type} {setting : Setting σ} {M : Assembly setting} {p q r : Progress σ}
  {ns : List Node} {o : Opened}

/-- Parameters are made in turn. -/
theorem parameters_makes : M.Makes parameters := by
  intro p
  refine (made_refl p).pass (expect_passes _) fun _ q made => ?_
  refine made.then (commaChain_makes _ bindingOrRest_makes) fun params r made => ?_
  exact made.pass (expect_passes _) fun _ s made => .pure made

/-- A name is made if there is one, or if there has to be one. -/
theorem optionalName_makes (isStatement : Bool) : M.Makes (optionalName isStatement) := by
  intro p
  refine look_then ?_
  refine .ite (fun _ => ?_) fun _ => .ite (fun _ => ?_) fun _ => ?_
  · exact (identifier_makes p).bind fun name q made => .pure made
  · exact unexpected_then fun _ => .pure (made_refl p)
  · exact .pure (made_refl p)

/-- A function makes its name, its parameters and its body. -/
theorem functionRest_ensures (begun : M.Begun true p o q) (isStatement : Bool) :
    M.Ensures (functionRest o isStatement) q fun n r => M.Made p [n] r := by
  refine (optionalName_makes isStatement q).bind fun name r made => ?_
  refine made.then parameters_makes fun params s made => ?_
  refine made.then functionBody_makes fun body t made => ?_
  refine begun.closeOver made ?_ (by cases isStatement <;> rfl) (by cases isStatement <;> rfl)
    (by simp)
  cases isStatement <;> simp [Shape.Covers, Shape.parts, Shape.children]

theorem function_ensures (begun : M.Begun true p o q) (isStatement : Bool) :
    M.Ensures (function o isStatement) q fun n r => M.Made p [n] r := by
  rw [function_eq]
  have taken := begun.behind (M.taken q)
  refine take_then ?_
  refine look_then ?_
  refine .ite (fun _ => ?_) fun _ => functionRest_ensures taken isStatement
  refine taken.pass (complainHere_passes _) fun _ r begun => ?_
  exact take_then (functionRest_ensures (begun.behind (M.taken r)) isStatement)

/-- A method makes a function that begins at its parenthesis. -/
theorem methodFunction_makes : M.Makes methodFunction := by
  intro p
  refine openNode_then fun o q begun _ => ?_
  refine (parameters_makes q).bind fun params r made => ?_
  refine made.then functionBody_makes fun body s made => ?_
  exact begun.closeOver made (by simp [Shape.Covers, Shape.parts, Shape.children]) rfl rfl
    (by simp)

/-- Only a name makes an accessor of the name behind it, where it is not computed. -/
theorem name_of_accessor {c : Prop} [Decidable c] {key : Node} {kind : PropertyKind}
    (h : (if c then none else accessorKind? key) = some kind) :
    ¬ c ∧ key.identifierName?.isSome = true ∧ (kind = .get ∨ kind = .set) := by
  split at h
  · cases h
  · rename_i absent
    rw [accessorKind?] at h
    split at h
    · rename_i name
      cases h
      exact ⟨absent, by rw [name]; rfl, .inl rfl⟩
    · rename_i name
      cases h
      exact ⟨absent, by rw [name]; rfl, .inr rfl⟩
    · cases h

/-- A name that is not computed may be a word in front of another name. -/
theorem word_of_propertyName {name : Node × Bool} (h : M.Made p [name.1] q ∧
      (setting.mode = .strict → name.2 = false → p.OnToken name.1 q))
    (plain : name.2 = false) (named : name.1.identifierName?.isSome = true) :
    p.Word setting M.Made name.1 q :=
  ⟨h.1, named, fun strict => h.2 strict plain⟩

/-- A method behind its name. -/
theorem method_ensures {key : Node} {kind : MethodKind} {computed isStatic : Bool}
    (begun : M.Begun true p o q) (made : M.Made q [key] r) : M.Ensures (do
      let value ← methodFunction
      closeNode o (.methodDefinition key value kind computed isStatic)) r
      fun n s => M.Made p [n] s :=
  made.then methodFunction_makes fun _ _ made => begun.closeOver made ⟨rfl, rfl⟩ rfl rfl (by simp)

/-- A method makes its key and its function. -/
theorem classMethod_makes : M.Makes classMethod := by
  intro p
  refine openNode_opens fun o q opens _ _ => ?_
  have begun : M.Begun true p o q := ⟨q, opens, made_refl q⟩
  refine propertyName_ensures.bind ?_
  rintro ⟨first, firstComputed⟩ r named
  refine look_then ?_
  refine .ite (fun static => ?_) fun _ => ?_
  -- Behind `static` that is no method's own name, the first name was a word.
  · simp only [Bool.and_eq_true, Bool.not_eq_true', beq_iff_eq] at static
    have word : q.Word setting M.Made first r :=
      word_of_propertyName named static.1.1 (by simp [static.1.2])
    have isStatic : (!firstComputed && first.identifierName? == some "static" &&
        !r.situation.token.isPunctuator .openParen) = true := by
      simp [static]
    refine propertyName_ensures.bind ?_
    rintro ⟨second, secondComputed⟩ s again
    refine look_then ?_
    -- If an accessor follows, both words are dropped, and only the third name is kept.
    refine .ite (fun accessor => ?_) fun _ => method_ensures begun (M.word opens word again.1)
    obtain ⟨kind, accessor⟩ := Option.isSome_iff_exists.mp accessor
    obtain ⟨plain, name, which⟩ := name_of_accessor accessor
    rw [Bool.or_eq_true, not_or] at plain
    have second : r.Word setting M.Made second s :=
      word_of_propertyName again (Bool.eq_false_iff.mpr plain.1) name
    rw [accessor, isStatic]
    refine propertyName_ensures.bind ?_
    rintro ⟨key, computed⟩ t keyed
    refine keyed.1.then methodFunction_makes fun value u made => closeNodeAt_ensures ?_
    exact M.staticAccessor opens word second made (by
      rcases which with rfl | rfl
      · exact .inl rfl
      · exact .inr rfl)
  · refine look_then ?_
    -- Without `static` there is at most one word in front of the name.
    refine .ite (fun accessor => ?_) fun _ => method_ensures begun named.1
    obtain ⟨kind, accessor⟩ := Option.isSome_iff_exists.mp accessor
    obtain ⟨plain, name, -⟩ := name_of_accessor accessor
    rw [Bool.or_eq_true, not_or] at plain
    have word : q.Word setting M.Made first r :=
      word_of_propertyName named (Bool.eq_false_iff.mpr plain.1) name
    exact propertyName_ensures.bind fun _ t again =>
      method_ensures begun (M.word opens word again.1)

/-- A method that took no token is dropped. -/
theorem classMethods_makes : M.Makes classMethods := by
  intro p
  refine .loop (fun found q => M.Made p (nodes found) q) (made_refl p) fun found q made => ?_
  refine look_then ?_
  refine .ite (fun _ => .pure made) fun _ => ?_
  refine eat_then (fun _ => .pure (made.behind (M.taken q))) fun _ => ?_
  refine look_then ?_
  refine (classMethod_makes q).bind fun n r next => ?_
  refine look_then ?_
  refine .ite (fun none => ?_) fun _ => ?_
  · have left : M.Made q [] r := M.dropped next (beq_iff_eq.mp none)
    exact take_then (.pure ((made.behind left).behind (M.taken r)))
  · exact .pure ((M.append made next).of_eq (nodes_push found n).symm)

/-- Behind its head, a class makes its methods. -/
theorem classRest_ensures {name superClass : Option Node} (begun : M.Begun true p o q)
    (made : M.Made q (name.toList ++ superClass.toList) r) (isStatement : Bool) :
    M.Ensures (classRest o isStatement name superClass) r fun n s => M.Made p [n] s := by
  refine openNode_then fun ob s body _ => ?_
  refine (expect_ensures _).bind fun _ t ⟨on, grew⟩ => ?_
  have lt (strict : setting.mode = .strict) : r.situation.consumed < t.situation.consumed :=
    Nat.lt_of_le_of_lt body.forward (grew (.inl strict))
  refine (classMethods_makes t).bind fun methods u inside => ?_
  refine inside.list.pass (expect_passes _) fun _ v inside => ?_
  refine ((body.behind on).closeGrown inside ⟨rfl, rfl⟩ rfl rfl lt).bind fun body w last => ?_
  refine begun.closeOver (M.append made last) ?_ (by cases isStatement <;> rfl)
    (by cases isStatement <;> rfl) (by simp)
  cases isStatement <;> simp [Shape.Covers, Shape.parts, Shape.children]

/-- A class makes its name, what it extends and its methods. -/
theorem classPhrase_ensures (begun : M.Begun true p o q) (isStatement : Bool) :
    M.Ensures (classPhrase o isStatement) q fun n r => M.Made p [n] r := by
  rw [classPhrase_eq]
  refine take_then ?_
  replace begun := begun.behind (M.taken q)
  refine (optionalName_makes isStatement _).bind fun name r made => ?_
  refine eatWord_then (fun _ => look_then ?_) fun _ => ?_
  · refine atom_ensures.bind fun base s operates => ?_
    refine (subscripts_ensures operates).bind fun superClass t last => ?_
    have head := M.append (made.behind (M.taken r)) last.made
    exact classRest_ensures begun (head.of_eq (by simp)) isStatement
  · exact classRest_ensures begun (made.of_eq (by simp)) isStatement

end ScriptTree.Grammar

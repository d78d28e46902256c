import ScriptTree.Grammar.Machine
import ScriptTree.Proofs.Node.Form
import ScriptTree.Proofs.Node.Subtree

/-! # Patterns — what reinterpretation keeps, and what it lets through

    An expression that turns out to be a pattern stays where it is: node by node the
    pattern lies where the expression lay, with the same comments, and only a few
    shapes change.  What has become a pattern is one, so becoming a pattern twice is
    becoming it once.  And where no fault is found, every part that would be assigned
    to is a name, a member, or a pattern of such parts. -/

namespace ScriptTree

variable {α : Type}

/-- The parts that an assignment to the shape goes on to: elements of arrays, properties
    of objects and their values, and what stands behind three dots. -/
def Shape.targets : Shape α → List α
  | arrayExpression elements => elements.filterMap id
  | arrayPattern elements => elements.filterMap id
  | objectExpression properties => properties
  | objectPattern properties => properties
  | property _ value _ _ _ _ => [value]
  | spreadElement argument => [argument]
  | restElement argument => [argument]
  | _ => []

/-- The types of nodes that assignments go through or end at. -/
def NodeType.isTarget : NodeType → Bool
  | .identifier => true
  | .memberExpression => true
  | .objectPattern => true
  | .arrayPattern => true
  | .property => true
  | .assignmentPattern => true
  | .restElement => true
  | _ => false

namespace Node

variable {n m q : Node}

/-- The second node is what the first one becomes as a pattern, and all that is met on the
    way through its targets is of a type to be assigned to, down to what was a pattern
    before. -/
inductive Targets : Node → Node → Prop where
  | before {n : Node} (pattern : n.shape.isPattern = true) : Targets n n
  | through {n q : Node} (target : q.type.isTarget = true)
      (further : List.Forall₂ Targets n.shape.targets q.shape.targets) : Targets n q

/-- Where a node lies, and its comments. -/
def place (n : Node) : Span × List Comment × List Comment :=
  (n.span, n.leadingComments, n.trailingComments)

/-- Nodes that are alike stand at the same place. -/
theorem Alike.place (h : n.Alike m) : m.place = n.place := by
  rw [Node.place, Node.place, h.span, h.leading, h.trailing]

/-! ## What stays -/

/-- The second node is the first one taken for a pattern: with the nodes of the walk at the
    same places in the same order, and so with those of the whole tree; each of them
    has kept its shape, or has one that a pattern takes in its turn. -/
structure Reinterpreted (n q : Node) : Prop where
  places : q.walk.map place = n.walk.map place
  allPlaces : q.subtree.map place = n.subtree.map place
  shapes : List.Forall₂ (fun a b => b.shape = a.shape ∨ a.shape.Becomes b.shape) n.walk q.walk
  allShapes : List.Forall₂ (fun a b => b.shape = a.shape ∨ a.shape.Becomes b.shape)
    n.subtree q.subtree

/-- Node by node the walk of a pattern goes where the walk of the expression went. -/
theorem walk_toPattern (n : Node) : List.Forall₂ Alike n.walk n.toPattern.walk := by
  refine (toPattern_induction (motive := fun n m => List.Forall₂ Alike n.walk m.walk)
    (fun n => List.forall₂_same.mpr fun x _ => .refl x) (fun n m recast => ?_) n).1
  rw [walk_eq, walk_eq]
  exact .cons recast.alike (List.rel_flatMap recast.children fun _ _ below => below)

/-- A node is reinterpreted as its pattern. -/
theorem reinterpreted_toPattern (n : Node) : n.Reinterpreted n.toPattern where
  places := map_eq_of_related n.walk_toPattern fun _ _ alike => alike.place
  allPlaces := map_eq_of_related n.subtree_toPattern fun _ _ alike => alike.place
  shapes := n.walk_toPattern.imp fun _ _ alike => alike.shape
  allShapes := n.subtree_toPattern.imp fun _ _ alike => alike.shape

/-! ## Becoming a pattern twice -/

/-- What no pattern takes in turn stays as it is. -/
theorem toPattern_of_isPattern (h : n.shape.isPattern = true) : n.toPattern = n := by
  obtain ⟨shape, span, leading, trailing⟩ := n
  cases shape with
  | objectPattern | arrayPattern | restElement | assignmentPattern => rw [toPattern]
  | _ => cases h

/-- A pattern is either what the expression was or of a shape that patterns have. -/
theorem toPattern_cases (n : Node) : n.toPattern = n ∨ n.toPattern.shape.isPattern = true := by
  rw [toPattern]
  split
  · exact .inr rfl
  · exact .inr rfl
  · exact .inr rfl
  · exact .inr rfl
  · exact .inl rfl

/-- A pattern of a pattern is the pattern. -/
theorem toPattern_toPattern (n : Node) : n.toPattern.toPattern = n.toPattern := by
  rcases n.toPattern_cases with same | pattern
  · rw [same, same]
  · exact toPattern_of_isPattern pattern

/-- A pattern has no fault. -/
theorem patternFault?_of_isPattern (h : n.shape.isPattern = true) : n.patternFault? = none := by
  obtain ⟨shape, span, leading, trailing⟩ := n
  cases shape with
  | objectPattern | arrayPattern | restElement | assignmentPattern => rw [patternFault?]
  | _ => cases h

/-- Where nothing was wrong nothing is wrong with the pattern. -/
theorem patternFault?_toPattern (h : n.patternFault? = none) :
    n.toPattern.patternFault? = none := by
  rcases n.toPattern_cases with same | pattern
  · rw [same]
    exact h
  · exact patternFault?_of_isPattern pattern

/-- What no pattern may have is told as no place to assign to, or as an accessor. -/
theorem fault_of_patternFault? (n : Node) :
    (∀ found, n.patternFault? = some found →
      found.2 = .invalidTarget ∨ found.2 = .accessorInPattern) ∧
    ∀ found, n.propertyFault? = some found →
      found.2 = .invalidTarget ∨ found.2 = .accessorInPattern := by
  induction n using induction_on_parts with
  | step n ih =>
      obtain ⟨shape, span, leading, trailing⟩ := n
      constructor
      · intro found h
        cases shape with
        | objectExpression properties =>
            rw [patternFault?_object] at h
            obtain ⟨p, hp, h⟩ := List.exists_of_findSome?_eq_some h
            exact (ih p hp).2 found h
        | arrayExpression elements =>
            rw [patternFault?_array] at h
            obtain ⟨element, there, h⟩ := List.exists_of_findSome?_eq_some h
            obtain ⟨x, rfl, h⟩ := Option.bind_eq_some_iff.mp h
            exact (ih x (List.mem_filterMap.mpr ⟨some x, there, rfl⟩)).1 found h
        | spreadElement argument =>
            rw [patternFault?_spread] at h
            exact (ih argument (List.mem_singleton_self argument)).1 found h
        | assignmentExpression operator left right =>
            rw [patternFault?] at h
            split at h <;> simp_all
            exact .inl (h ▸ rfl)
        -- Targets, and what is a pattern already, have no fault.
        | identifier | memberExpression | objectPattern | arrayPattern | restElement
        | assignmentPattern =>
            rw [patternFault?] at h
            cases h
        -- Every other shape is no target itself.
        | _ =>
            rw [patternFault?] at h
            exact .inl (Option.some.inj h ▸ rfl)
      · intro found h
        cases shape with
        | property key value kind computed shorthand isMethod =>
            rw [propertyFault?] at h
            split at h
            · rename_i same
              cases same
              exact (ih value (by simp [parts, Shape.parts])).1 found h
            · exact .inr (Option.some.inj h ▸ rfl)
        | _ =>
            rw [propertyFault?] at h
            exact .inr (Option.some.inj h ▸ rfl)

/-! ## What is let through -/

section Faultless

variable {key value left right : Node} {kind : PropertyKind} {operator : Punctuator}
  {computed shorthand isMethod : Bool} {span : Span} {leading trailing : List Comment}

/-- Of assignments only those with `=` are patterns. -/
theorem assign_of_faultless
    (h : patternFault? ⟨.assignmentExpression operator left right, span, leading, trailing⟩ =
      none) : operator = .assign := by
  rw [patternFault?] at h
  split at h <;> simp_all

/-- Nothing is wrong with any element of an array that is one. -/
theorem elements_of_faultless {elements : List (Option Node)}
    (h : patternFault? ⟨.arrayExpression elements, span, leading, trailing⟩ = none) :
    ∀ x ∈ elements.filterMap id, x.patternFault? = none := by
  rw [patternFault?_array, List.findSome?_eq_none_iff] at h
  intro x hx
  obtain ⟨element, there, same⟩ := List.mem_filterMap.mp hx
  obtain rfl : element = some x := same
  exact h _ there

/-- No accessor and no method is a property of a pattern. -/
theorem init_of_faultless
    (h : propertyFault? ⟨.property key value kind computed shorthand isMethod, span, leading,
      trailing⟩ = none) : kind = .init ∧ isMethod = false := by
  rw [propertyFault?] at h
  split at h <;> simp_all

end Faultless

/-- What becomes a pattern without a fault has targets only, and so has a property whose
    value does. -/
theorem targets_of_faultless (n : Node) : (n.patternFault? = none → n.Targets n.toPattern) ∧
    (n.propertyFault? = none → n.Targets n.propertyToPattern) := by
  induction n using induction_on_parts with
  | step n ih =>
      obtain ⟨shape, span, leading, trailing⟩ := n
      constructor
      · intro faultless
        cases shape with
        | objectExpression properties =>
            rw [patternFault?_object, List.findSome?_eq_none_iff] at faultless
            rw [toPattern_object]
            refine .through rfl (List.forall₂_map_right_iff.mpr ?_)
            exact List.forall₂_same.mpr fun p hp => (ih p hp).2 (faultless p hp)
        | arrayExpression elements =>
            have faultless := elements_of_faultless faultless
            -- A hole of an array stays a hole.
            have below : (elements.map (Option.map toPattern)).filterMap id =
                (elements.filterMap id).map toPattern := by
              rw [List.filterMap_map, List.map_filterMap]
              rfl
            rw [toPattern_array]
            refine .through rfl ?_
            show List.Forall₂ Targets (elements.filterMap id) _
            rw [show Shape.targets (.arrayPattern _) = _ from below, List.forall₂_map_right_iff]
            exact List.forall₂_same.mpr fun x hx => (ih x hx).1 (faultless x hx)
        | spreadElement argument =>
            rw [patternFault?_spread] at faultless
            rw [toPattern_spread]
            refine .through rfl (.cons ((ih argument ?_).1 faultless) .nil)
            exact List.mem_singleton_self argument
        | assignmentExpression operator left right =>
            obtain rfl := assign_of_faultless faultless
            rw [toPattern]
            exact .through rfl .nil
        -- A pattern is left as it was, so nothing below it is asked.
        | objectPattern | arrayPattern | restElement | assignmentPattern =>
            rw [toPattern_of_isPattern rfl]
            exact .before rfl
        | identifier | memberExpression =>
            rw [toPattern]
            exact .through rfl .nil
        | _ => simp [patternFault?] at faultless
      · intro faultless
        cases shape with
        | property key value kind computed shorthand isMethod =>
            obtain ⟨rfl, rfl⟩ := init_of_faultless faultless
            rw [propertyFault?_init] at faultless
            rw [propertyToPattern_init]
            refine .through rfl (.cons ((ih value ?_).1 faultless) .nil)
            exact List.mem_cons_of_mem _ (List.mem_singleton_self value)
        -- Only a property without accessor and method is faultless.
        | _ => simp [propertyFault?] at faultless

end Node

/-! ## Reinterpretation in a parse -/

section Runs

variable {σ : Type} {setting : Setting σ} {fuel : Nat}
  {parse : Nonterminal → Progress σ → Outcome σ Node} {n q : Node} {p r : Progress σ}

namespace Grammar

/-- A loose parse passes over what is wrong. -/
theorem run_asPattern_of_loose (loose : setting.mode = .loose) :
    (asPattern n).run setting fuel parse p = .done n.toPattern p := by
  rw [asPattern]
  split
  · rw [Rule.run, Progress.complain, loose]
    rfl
  · rfl

/-- A node without a fault is reinterpreted without a complaint. -/
theorem run_asPattern_of_faultless (h : n.patternFault? = none) :
    (asPattern n).run setting fuel parse p = .done n.toPattern p := by
  rw [asPattern, h]
  rfl

/-- A strict parse goes on only where nothing is wrong. -/
theorem faultless_of_run_asPattern (strict : setting.mode = .strict)
    (h : (asPattern n).run setting fuel parse p = .done q r) : n.patternFault? = none := by
  rw [asPattern] at h
  split at h
  · rw [Rule.run, Progress.complain, strict] at h
    cases h
  · assumption

/-- Whatever comes of reinterpreting is the pattern. -/
theorem eq_toPattern_of_run_asPattern
    (h : (asPattern n).run setting fuel parse p = .done q r) : q = n.toPattern := by
  cases mode : setting.mode with
  | loose =>
      rw [run_asPattern_of_loose mode] at h
      cases h
      rfl
  | strict =>
      rw [run_asPattern_of_faultless (faultless_of_run_asPattern mode h)] at h
      cases h
      rfl

/-- REINTERPRETATION: a loose parse always takes an expression for a pattern.  In either
    mode the pattern lies node by node where the expression lay, with the same comments,
    and only lists, objects, spreads and assignments with `=` have changed their shapes;
    taken for a pattern again, wherever a parse stands, it is accepted and stays as it
    is.  And what a strict parse accepts is met with targets only, down to what was a
    pattern before. -/
theorem asPattern_reinterprets (setting : Setting σ) (fuel : Nat)
    (parse : Nonterminal → Progress σ → Outcome σ Node) (n : Node) (p : Progress σ) :
    (setting.mode = .loose → ∃ q r, (asPattern n).run setting fuel parse p = .done q r) ∧
    ∀ q r, (asPattern n).run setting fuel parse p = .done q r →
      n.Reinterpreted q ∧ (∀ s, (asPattern q).run setting fuel parse s = .done q s) ∧
        (setting.mode = .strict → n.Targets q) := by
  refine ⟨fun loose => ⟨_, _, run_asPattern_of_loose loose⟩, fun q r done => ?_⟩
  obtain rfl := eq_toPattern_of_run_asPattern done
  refine ⟨n.reinterpreted_toPattern, fun s => ?_, fun strict => ?_⟩
  · cases mode : setting.mode with
    | loose => rw [run_asPattern_of_loose mode, n.toPattern_toPattern]
    | strict =>
        have faultless := Node.patternFault?_toPattern (faultless_of_run_asPattern mode done)
        rw [run_asPattern_of_faultless faultless, n.toPattern_toPattern]
  · exact n.targets_of_faultless.1 (faultless_of_run_asPattern strict done)

/-- So `[a,,...{b}]` is accepted: a name, a hole, and an object behind three dots. -/
theorem asPattern_reinterprets_nested : ∃ n q : Node,
    n.type = .arrayExpression ∧ n.walk.length = 6 ∧
    ∀ p : Progress Unit, (asPattern n).run ⟨.strict, .ofText [], .silent⟩ 0
        (fun _ p => .stopped .outOfFuel p) p = .done q p ∧
      n.Reinterpreted q ∧ (∀ s, (asPattern q).run ⟨.strict, .ofText [], .silent⟩ 0
        (fun _ p => .stopped .outOfFuel p) s = .done q s) ∧ n.Targets q := by
  let b : Node := .bare (.identifier "b") ⟨8, 9⟩
  let rest : Node := .bare (.objectExpression [.bare (.property b b .init false true false) b.span])
    ⟨7, 10⟩
  let n : Node := .bare (.arrayExpression
    [some (.bare (.identifier "a") ⟨1, 2⟩), none, some (.bare (.spreadElement rest) ⟨4, 10⟩)])
    ⟨0, 11⟩
  have faultless : n.patternFault? = none := by
    have named (name : String) (span : Span) :
        Node.patternFault? ⟨.identifier name, span, [], []⟩ = none := by
      rw [Node.patternFault?]
    simp only [n, rest, b, Node.bare, Node.patternFault?_array, Node.patternFault?_spread,
      Node.patternFault?_object, Node.propertyFault?_init, List.findSome?_cons, List.findSome?_nil,
      Option.bind_some, Option.bind_none, named]
  refine ⟨n, n.toPattern, rfl, ?_, fun p => ?_⟩
  · simp [n, rest, b, Node.bare, Node.walk_eq, Node.children, Shape.children]
  · have done : (asPattern n).run ⟨.strict, .ofText [], .silent⟩ 0
        (fun _ p => .stopped .outOfFuel p) p = .done n.toPattern p :=
      run_asPattern_of_faultless faultless
    obtain ⟨kept, again, targets⟩ := (asPattern_reinterprets _ _ _ n p).2 _ _ done
    exact ⟨done, kept, again, targets rfl⟩

end Grammar

end Runs

end ScriptTree

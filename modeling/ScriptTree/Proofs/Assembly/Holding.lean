import ScriptTree.Proofs.Assembly.Basic

/-! # Holding — a property that every node of a tree has

    Some properties speak of one node at a time: of its shape, its span and the tokens
    that it was made of.  Such a property is shown where nodes are closed; in a tree it
    holds of all nodes because nothing that is made later changes them.  An `Assembly`
    tells where they are closed.  What else is needed is said by `Keeps`, and the
    assembly is one for nodes with the property as well. -/

namespace ScriptTree

namespace Assembly

variable {σ : Type} {setting : Setting σ}

/-- Nodes came about between the two places, and if the first one is such a place, the
    property holds of all nodes in their trees. -/
structure Holds (M : Assembly setting) (place : Progress σ → Prop) (good : Node → Prop)
    (p : Progress σ) (ns : List Node) (q : Progress σ) : Prop where
  made : M.Made p ns q
  holds : place p → ∀ n ∈ ns, ∀ m ∈ n.subtree, good m

/-- A parse goes on in such places, and the property holds of what is closed there, however
    it is. -/
structure Keeps (M : Assembly setting) (place : Progress σ → Prop) (good : Node → Prop) :
    Prop where
  onward : ∀ {p q ns}, M.Made p ns q → place p → place q
  beside : ∀ {p q : Progress σ}, q.situation = p.situation → place p → place q
  drop : ∀ {p q ns}, M.Made p ns q → M.Made p [] q
  /-- Whatever the law of the shape, the node is made. -/
  closes : ∀ {own o ns shape} {p q r s : Progress σ}, p.Opens setting own o q →
    Progress.Completes setting M.Made own p q shape ns r s →
    let closed := s.closeAt setting o shape r.situation.previousEnd
    M.Made p [closed.1] closed.2
  closed : ∀ {own o ns shape} {p q r s : Progress σ}, p.Opens setting own o q →
    Progress.Completes setting M.Made own p q shape ns r s → place p →
    good (s.closeAt setting o shape r.situation.previousEnd).1
  /-- So is one without a text of its own that starts with the token at the first place. -/
  wordless : ∀ {p n q}, M.Made p [n] q → place p → n.span.start = p.situation.token.span.start →
    n.shape.quoted? = none → good n
  default : ∀ {p key value q}, p.Twin setting M.Made key value q → place p →
    key.identifierName?.isSome = true → value.shape.quoted? = none → good value
  chunk : ∀ {p raw isTail}, Grammar.templateChunk? p.situation.token.kind = some (raw, isTail) →
    place p → let start := p.situation.token.span.start + 1
      good ((p.taken setting).closeAt setting (Grammar.openedAt start)
        (.templateElement raw isTail) (start + raw.utf8ByteSize)).1
  filler : ∀ {p : Progress σ} {shape}, setting.mode = .loose →
    (shape.quoted?.isSome = true → shape = .identifier Node.placeholderName) →
    good (.bare shape (.point p.situation.previousEnd))
  detached : ∀ {n}, good n → good n.detached
  alike : ∀ {n m}, n.Alike m → good n → good m

variable {M : Assembly setting} {place : Progress σ → Prop} {good : Node → Prop}
  {p q r s : Progress σ} {ns ms : List Node} {own : Bool} {o : Grammar.Opened} {n : Node}

namespace Holds

/-- No node was made. -/
theorem nothing (made : M.Made p [] q) : M.Holds place good p [] q := ⟨made, fun _ => nofun⟩

/-- Nodes of two rows hold it in turn. -/
theorem append (onward : M.Made p ns q → place p → place q) (h : M.Holds place good p ns q)
    (k : M.Holds place good q ms r) : M.Holds place good p (ns ++ ms) r where
  made := M.append h.made k.made
  holds there n hn := (List.mem_append.mp hn).elim (h.holds there n)
    (k.holds (onward h.made there) n)

/-- A node is put in the place of what is below it. -/
theorem single (made : M.Made p [n] q) (self : place p → good n)
    (parts : place p → ∀ x ∈ n.parts, ∀ m ∈ x.subtree, good m) : M.Holds place good p [n] q :=
  ⟨made, fun there _ hm => List.mem_singleton.mp hm ▸
    Node.forall_subtree (self there) (parts there)⟩

end Holds

namespace Keeps

/-- A node without a text of its own is put in the place of what is below it. -/
theorem put (keeps : M.Keeps place good) (made : M.Made p [n] q)
    (start : n.span.start = p.situation.token.span.start) (none : n.shape.quoted? = none)
    (parts : place p → ∀ x ∈ n.parts, ∀ m ∈ x.subtree, good m) : M.Holds place good p [n] q :=
  .single made (fun there => keeps.wordless made there start none) parts

/-- A node that is closed holds it where its parts do. -/
theorem close (keeps : M.Keeps place good) {shape : Shape Node}
    (opens : p.Opens setting own o q)
    (complete : Progress.Completes setting (M.Holds place good) own p q shape ns r s) :
    let closed := s.closeAt setting o shape r.situation.previousEnd
    M.Holds place good p [closed.1] closed.2 := by
  intro closed
  have complete' := complete.mono fun _ _ _ h => h.made
  exact .single (keeps.closes opens complete') (keeps.closed opens complete') fun there x hx =>
    complete.below.holds (keeps.beside opens.place.1 there) x (complete.covers.2 ▸ hx)

/-- What a name and its value are made of has the property. -/
theorem of_twin (keeps : M.Keeps place good) {key value : Node}
    (name : key.identifierName?.isSome = true)
    (twin : p.Twin setting (M.Holds place good) key value q) (there : place p) :
    ∀ x ∈ [key, value], ∀ m ∈ x.subtree, good m := by
  have leaf : key.detached.parts = [] := Node.parts_of_identifierName? name
  -- A name without its comments is as much as the name.
  have both {r : Progress σ} (named : M.Holds place good p [key] r) :
      (∀ m ∈ key.subtree, good m) ∧ ∀ m ∈ key.detached.subtree, good m := by
    have holds := named.holds there key (List.mem_singleton_self _)
    refine ⟨holds, Node.forall_subtree (keeps.detached (holds key key.mem_subtree_self)) ?_⟩
    rw [leaf]
    exact nofun
  have valued := keeps.default (twin.mono fun _ _ _ h => h.made) there name
  intro x hx
  cases twin with
  | name named =>
      rcases List.mem_pair.mp hx with rfl | rfl
      · exact (both named).1
      · exact (both named).2
  | @default q r right _ named _ behind closes =>
      subst closes
      rcases List.mem_pair.mp hx with rfl | rfl
      · exact (both named).1
      · refine Node.forall_subtree (valued rfl) fun d hd => ?_
        rcases List.mem_pair.mp hd with rfl | rfl
        · exact (both named).2
        · exact behind.holds (keeps.onward named.made there) _ (List.mem_singleton_self _)

/-- The property of all nodes is kept up as well. -/
def holding (keeps : M.Keeps place good) : Assembly setting where
  Made := M.Holds place good
  still h := .nothing (M.still h)
  append := .append keeps.onward
  forward h := M.forward h.made
  taken p := .nothing (M.taken p)
  opened loose opens := .nothing (M.opened loose opens)
  closed opens complete _ := keeps.close opens complete
  headed := Progress.headed_of_closed (.append keeps.onward)
    (fun p => .nothing (made_refl p)) keeps.close
  shorthand opens name twin := by
    -- The node is put behind its halves, and the halves hold what they are one node for.
    have ⟨same, start⟩ := opens.place
    exact keeps.put (M.shorthand opens name (twin.mono fun _ _ _ h => h.made)) start rfl
      fun there => keeps.of_twin name twin (keeps.beside same there)
  chunk read := .single (M.chunk read) (keeps.chunk read) fun _ => nofun
  filler {p _} loose leaf call missing := by
    refine .single (M.filler loose leaf call missing) (fun _ => keeps.filler (p := p) loose missing)
      fun _ x hx => ?_
    rw [Node.parts, Node.bare, leaf] at hx
    cases hx
  dropped h none := .nothing (M.dropped h.made none)
  word opens word next := by
    have passed := keeps.drop word.taken.made
    exact ⟨M.word opens (word.mono fun _ _ _ h => h.made) next.made, fun there =>
      next.holds (keeps.onward passed there)⟩
  staticAccessor opens word second parts accessor := by
    have ⟨same, start⟩ := opens.place
    exact keeps.put (M.staticAccessor opens (word.mono fun _ _ _ h => h.made)
      (second.mono fun _ _ _ h => h.made) parts.made accessor) start rfl fun there =>
        parts.holds (keeps.onward second.taken.made
          (keeps.onward word.taken.made (keeps.beside same there)))
  reinterpreted h := by
    -- What stands in a pattern is like something that stood in the expression.
    refine ⟨M.reinterpreted h.made, fun there m hm k hk => ?_⟩
    obtain ⟨n, hn, rfl⟩ := List.mem_map.mp hm
    obtain ⟨x, hx, alike⟩ := Node.exists_related n.subtree_toPattern hk
    exact keeps.alike alike (h.holds there n hn x hx)

end Keeps

end Assembly

end ScriptTree

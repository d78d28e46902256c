import ScriptTree.Proofs.Tree.Standing

/-! # Leading — a comment leads the first node behind it

    A node that is opened is given all comments in front of it that none was given
    before, so a comment that is given goes to the first node that is opened behind it.
    Nodes are opened in the order of a tree, parents first, so this is the first node of
    the tree that was opened by itself and starts behind the comment.

    Some nodes are given up: the words in front of the name of an accessor.  The first of
    them is opened where the node around it was, and finds no comments left.  The second
    one, behind `static`, may be given comments, which no node of the tree has then. -/

namespace ScriptTree

namespace Node

variable {c : Comment} {n m : Node} {xs ys : List Node}

/-- The node was opened by itself, where the comment ends or behind it. -/
def opensBehind (c : Comment) (n : Node) : Bool :=
  !n.shape.inheritsStart && decide (c.span.stop ≤ n.span.start)

/-- The comment leads the first of the nodes that was opened behind it. -/
def LeadsFirst (c : Comment) (xs : List Node) : Prop :=
  ∃ n, xs.find? (opensBehind c) = some n ∧ c ∈ n.leadingComments

/-- The node is a static accessor, and the comment stands between `static`, which is the
    first token of the node, and the next token. -/
structure Swallows (text : List Char) (c : Comment) (n : Node) : Prop where
  accessor : ∃ key value kind computed, n.shape = .methodDefinition key value kind computed true ∧
    (kind = .get ∨ kind = .set)
  behind : n.span.start < c.span.start
  front : ∀ t ∈ (lex text).tokens, n.span.start < t.span.start → c.span.stop ≤ t.span.start

/-- A node opens behind a comment if its start is its own and is not in front of the
    comment's end. -/
theorem opensBehind_iff : n.opensBehind c = true ↔
    n.shape.inheritsStart = false ∧ c.span.stop ≤ n.span.start := by
  simp [opensBehind]

/-- A node that inherits its start opens behind nothing. -/
theorem opensBehind_eq_false (h : n.shape.inheritsStart = true) : n.opensBehind c = false := by
  simp [opensBehind, h]

/-- More nodes behind do not change which is the first. -/
theorem LeadsFirst.append (h : LeadsFirst c xs) (ys : List Node) : LeadsFirst c (xs ++ ys) := by
  obtain ⟨n, found, leads⟩ := h
  exact ⟨n, by rw [List.find?_append, found]; rfl, leads⟩

/-- Nodes that were opened in front of the comment do not count. -/
theorem LeadsFirst.behind (h : LeadsFirst c ys) (none : ∀ n ∈ xs, n.opensBehind c = false) :
    LeadsFirst c (xs ++ ys) := by
  obtain ⟨n, found, leads⟩ := h
  have skipped : xs.find? (opensBehind c) = .none :=
    List.find?_eq_none.mpr fun n hn => Bool.eq_false_iff.mp (none n hn)
  exact ⟨n, by rw [List.find?_append, skipped, found]; rfl, leads⟩

/-- A node in front that does not open behind the comment is passed over. -/
theorem LeadsFirst.cons (h : LeadsFirst c xs) (none : n.opensBehind c = false) :
    LeadsFirst c (n :: xs) := by
  obtain ⟨m, found, leads⟩ := h
  exact ⟨m, by rw [List.find?_cons, none]; exact found, leads⟩

/-- The node that is led opens behind the comment. -/
theorem LeadsFirst.exists_behind (h : LeadsFirst c xs) : ∃ n ∈ xs, n.opensBehind c = true := by
  obtain ⟨n, found, -⟩ := h
  exact ⟨n, List.mem_of_find?_eq_some found, List.find?_some found⟩

/-- Nodes that are alike open behind the same comments. -/
theorem Alike.opensBehind (h : n.Alike m) : m.opensBehind c = n.opensBehind c := by
  rw [Node.opensBehind, Node.opensBehind, h.inherits, h.span]

/-- Rows that are alike are led alike. -/
theorem LeadsFirst.of_alike (h : LeadsFirst c xs) (alike : List.Forall₂ Alike xs ys) :
    LeadsFirst c ys := by
  obtain ⟨n, found, leads⟩ := h
  induction alike with
  | nil => cases found
  | @cons x y xs ys first _ ih =>
      rw [List.find?_cons] at found
      cases behind : x.opensBehind c with
      | true =>
          rw [behind] at found
          obtain rfl := Option.some.inj found
          refine ⟨y, ?_, first.leading ▸ leads⟩
          rw [List.find?_cons, first.opensBehind, behind]
      | false =>
          rw [behind] at found
          obtain ⟨m, found, leads⟩ := ih found
          refine ⟨m, ?_, leads⟩
          rw [List.find?_cons, first.opensBehind, behind]
          exact found

/-- A pattern swallows what the expression did. -/
theorem Swallows.of_alike {text : List Char} (h : n.Swallows text c) (alike : n.Alike m) :
    m.Swallows text c := by
  obtain ⟨⟨key, value, kind, computed, shape, which⟩, behind, front⟩ := h
  have same : m.shape = n.shape := alike.shape.resolve_right fun becomes => by
    rw [shape] at becomes
    cases becomes
  refine ⟨⟨key, value, kind, computed, same.trans shape, which⟩, ?_, ?_⟩
  · rw [alike.span]
    exact behind
  · rw [alike.span]
    exact front

/-- A name swallows nothing. -/
theorem Swallows.not_name {text : List Char} (h : n.Swallows text c) :
    n.identifierName?.isSome = false := by
  obtain ⟨⟨key, value, kind, computed, shape, -⟩, -, -⟩ := h
  rw [identifierName?, shape]
  rfl

end Node

namespace Annotations

variable {options : ParseOptions} {lines : LineIndex} {file : String} {text : List Char}
  {p q r s : Progress Annotations} {c : Comment} {n m : Node} {ns ms xs ys : List Node}
  {own : Bool} {o : Grammar.Opened}

/-- What is given between two places stays given, and stands in front of the last token
    that was taken. -/
structure Hands (p q : Progress Annotations) : Prop where
  grows : p.observed.given ⊆ q.observed.given
  early : ∀ c ∈ q.observed.given, c ∈ p.observed.given ∨ c.span.start < q.situation.previousEnd

/-- Comments are handed over and then handed over again. -/
theorem Hands.trans (h : Hands p q) (k : Hands q r)
    (le : q.situation.previousEnd ≤ r.situation.previousEnd) : Hands p r where
  grows := List.Subset.trans h.grows k.grows
  early c hc := (k.early c hc).elim
    (fun hc => (h.early c hc).imp_right (Nat.lt_of_lt_of_le · le)) .inr

/-- The comments that were given between two places are those in front of the nodes that
    were opened there, and each of them leads the first of these nodes, unless a static
    accessor swallows it. -/
structure Leading (all : List Comment) (text : List Char) (p : Progress Annotations)
    (xs : List Node) (q : Progress Annotations) : Prop where
  hands : Hands p q
  starts : ∀ n ∈ xs, p.situation.token.span.start ≤ n.span.start
  passed : ∀ n ∈ xs, ∀ c ∈ all, n.opensBehind c = true → c ∈ q.observed.given
  leads : ∀ c ∈ q.observed.given, c ∈ p.observed.given ∨ Node.LeadsFirst c xs ∨
    ∃ n ∈ xs, n.Swallows text c

namespace Leading

variable {all : List Comment}

/-- No comment is given, so none has to lead. -/
theorem nothing (hands : Hands p q) (same : q.observed.given ⊆ p.observed.given) :
    Leading all text p [] q where
  hands := hands
  starts _ hn := absurd hn List.not_mem_nil
  passed _ hn := absurd hn List.not_mem_nil
  leads _ hc := .inl (same hc)

/-- Where no node was made, nothing was given. -/
theorem given_subset (h : Leading all text p [] q) : q.observed.given ⊆ p.observed.given := by
  intro c hc
  rcases h.leads c hc with earlier | ⟨n, found, -⟩ | ⟨n, hn, -⟩
  · exact earlier
  · cases found
  · cases hn

/-- Only the comments that were given and the last token count. -/
theorem of_same (h : Leading all text p xs q) (given : r.observed.given = q.observed.given)
    (previousEnd : r.situation.previousEnd = q.situation.previousEnd) :
    Leading all text p xs r where
  hands := ⟨given ▸ h.hands.grows, given ▸ previousEnd ▸ h.hands.early⟩
  starts := h.starts
  passed := given ▸ h.passed
  leads := given ▸ h.leads

/-- The comments between two places lead nodes of the first row, and those behind it nodes
    of the second. -/
theorem append (h : Leading all text p xs q) (k : Leading all text q ys r)
    (known : r.observed.given ⊆ all)
    (start : p.situation.token.span.start ≤ q.situation.token.span.start)
    (le : q.situation.previousEnd ≤ r.situation.previousEnd) :
    Leading all text p (xs ++ ys) r where
  hands := h.hands.trans k.hands le
  starts n hn := (List.mem_append.mp hn).elim (h.starts n) fun hn =>
    Nat.le_trans start (k.starts n hn)
  passed n hn c hc behind := (List.mem_append.mp hn).elim
    (fun hn => k.hands.grows (h.passed n hn c hc behind)) fun hn => k.passed n hn c hc behind
  leads c hc := by
    by_cases before : c ∈ q.observed.given
    · rcases h.leads c before with earlier | leads | ⟨n, hn, swallows⟩
      · exact .inl earlier
      · exact .inr (.inl (leads.append ys))
      · exact .inr (.inr ⟨n, List.mem_append_left _ hn, swallows⟩)
    · rcases k.leads c hc with earlier | leads | ⟨n, hn, swallows⟩
      · exact absurd earlier before
      · -- Otherwise a node made before would have been given the comment.
        have none (n : Node) (hn : n ∈ xs) : n.opensBehind c = false :=
          Bool.eq_false_iff.mpr fun behind => before (h.passed n hn c (known hc) behind)
        exact .inr (.inl (leads.behind none))
      · exact .inr (.inr ⟨n, List.mem_append_right _ hn, swallows⟩)

/-- A node that was not opened by itself is put in front. -/
theorem cons_inherits (h : Leading all text p xs q) (inherits : n.shape.inheritsStart = true)
    (start : p.situation.token.span.start ≤ n.span.start) : Leading all text p (n :: xs) q where
  hands := h.hands
  starts := List.forall_mem_cons.mpr ⟨start, h.starts⟩
  passed m hm c hc behind := by
    rcases List.mem_cons.mp hm with rfl | hm
    · rw [Node.opensBehind_eq_false inherits] at behind
      cases behind
    · exact h.passed m hm c hc behind
  leads c hc := by
    rcases h.leads c hc with earlier | leads | ⟨m, hm, swallows⟩
    · exact .inl earlier
    · exact .inr (.inl (leads.cons (Node.opensBehind_eq_false inherits)))
    · exact .inr (.inr ⟨m, List.mem_cons_of_mem _ hm, swallows⟩)

/-- A node is put behind that was not opened by itself, or stands for one that was. -/
theorem snoc (h : Leading all text p xs q)
    (start : p.situation.token.span.start ≤ n.span.start)
    (known : n.shape.inheritsStart = true ∨ ∃ m ∈ xs, ∀ c, n.opensBehind c = m.opensBehind c) :
    Leading all text p (xs ++ [n]) q where
  hands := h.hands
  starts m hm := (List.mem_append.mp hm).elim (h.starts m) fun hm =>
    List.mem_singleton.mp hm ▸ start
  passed m hm c hc behind := by
    rcases List.mem_append.mp hm with hm | hm
    · exact h.passed m hm c hc behind
    · obtain rfl := List.mem_singleton.mp hm
      rcases known with inherits | ⟨k, hk, same⟩
      · rw [Node.opensBehind_eq_false inherits] at behind
        cases behind
      · exact h.passed k hk c hc (same c ▸ behind)
  leads c hc := by
    rcases h.leads c hc with earlier | leads | ⟨m, hm, swallows⟩
    · exact .inl earlier
    · exact .inr (.inl (leads.append _))
    · exact .inr (.inr ⟨m, List.mem_append_left _ hm, swallows⟩)

/-- A name can only lead comments in front of it. -/
theorem of_name (h : Leading all text p ([n].flatMap Node.subtree) q)
    (name : n.identifierName?.isSome = true) : ∀ c ∈ q.observed.given,
      c ∈ p.observed.given ∨ c.span.stop ≤ n.span.start := by
  have alone : [n].flatMap Node.subtree = [n] := by
    rw [List.flatMap_singleton, Node.subtree_eq, Node.parts_of_identifierName? name]
    rfl
  rw [alone] at h
  intro c hc
  refine (h.leads c hc).imp_right fun led => ?_
  rcases led with leads | ⟨m, hm, swallows⟩
  · obtain ⟨m, hm, behind⟩ := leads.exists_behind
    rw [List.mem_singleton.mp hm] at behind
    exact (Node.opensBehind_iff.mp behind).2
  · have other := swallows.not_name
    rw [List.mem_singleton.mp hm, name] at other
    cases other

/-- Rows that are alike are led alike between the same places. -/
theorem of_alike (h : Leading all text p xs q) (alike : List.Forall₂ Node.Alike xs ys) :
    Leading all text p ys q where
  hands := h.hands
  starts y hy := by
    obtain ⟨x, hx, same⟩ := Node.exists_related alike hy
    rw [same.span]
    exact h.starts x hx
  passed y hy c hc behind := by
    obtain ⟨x, hx, same⟩ := Node.exists_related alike hy
    exact h.passed x hx c hc (same.opensBehind ▸ behind)
  leads c hc := by
    rcases h.leads c hc with earlier | leads | ⟨x, hx, swallows⟩
    · exact .inl earlier
    · exact .inr (.inl (leads.of_alike alike))
    · obtain ⟨y, hy, same⟩ := Node.exists_related alike.flip hx
      exact .inr (.inr ⟨y, hy, swallows.of_alike same⟩)

/-- A node that was opened by itself is put in front of what was made since.  It may
    swallow a comment that one of the nodes that were given up was given. -/
theorem cons_opened (stands : Stands options lines file text p)
    (opens : p.Opens ⟨.strict, lines, observer options lines file⟩ true o q)
    (hands : Hands q r) (grown : p.situation.token.span.start < r.situation.previousEnd)
    (start : n.span.start = o.start) (leading : n.leadingComments = o.leading)
    (own : n.shape.inheritsStart = false)
    (starts : ∀ m ∈ xs, p.situation.token.span.start ≤ m.span.start)
    (passed : ∀ m ∈ xs, ∀ c ∈ allComments options lines file text,
      m.opensBehind c = true → c ∈ r.observed.given)
    (known : r.observed.given ⊆ allComments options lines file text)
    (leads : ∀ c ∈ r.observed.given, c ∈ q.observed.given ∨ Node.LeadsFirst c xs ∨
      ∃ m ∈ n :: xs, m.Swallows text c) :
    Leading (allComments options lines file text) text p (n :: xs) r := by
  obtain ⟨given, recorded⟩ := stands.given_of_opens opens
  have place : n.span.start = p.situation.token.span.start := start.trans opens.place.2
  have front (c : Comment) (hc : c ∈ o.leading) : c.span.stop ≤ n.span.start := by
    have there : c ∈ p.observed.comments.toList := by
      rw [← recorded, given]
      exact List.mem_append_right _ hc
    rw [place]
    exact (stands.recorded_iff (stands.mem_of_recorded there)).mp there
  -- Comments in front of the node were given when it was opened.
  have before {c : Comment} (hc : c ∈ allComments options lines file text)
      (behind : n.opensBehind c = true) : c ∈ q.observed.given := by
    rw [recorded, stands.recorded_iff hc, ← place]
    exact (Node.opensBehind_iff.mp behind).2
  refine ⟨⟨?_, fun c hc => ?_⟩, ?_, fun m hm c hc behind => ?_, fun c hc => ?_⟩
  · refine List.Subset.trans ?_ hands.grows
    rw [given]
    exact List.subset_append_left _ _
  · rcases hands.early c hc with hc | early
    · rw [given, List.mem_append] at hc
      refine hc.imp_right fun hc => ?_
      have some := nonempty_of_mem (known (hands.grows (given ▸ List.mem_append_right _ hc)))
      have := front c hc
      omega
    · exact .inr early
  · exact List.forall_mem_cons.mpr ⟨Nat.le_of_eq place.symm, starts⟩
  · rcases List.mem_cons.mp hm with rfl | hm
    · exact hands.grows (before hc behind)
    · exact passed m hm c hc behind
  · by_cases earlier : c ∈ q.observed.given
    · rw [given, List.mem_append] at earlier
      refine earlier.imp_right fun hc => .inl ⟨n, ?_, leading ▸ hc⟩
      exact List.find?_cons_of_pos (Node.opensBehind_iff.mpr ⟨own, front c hc⟩)
    · rcases leads c hc with given | leads | swallows
      · exact absurd given earlier
      · exact .inr (.inl (leads.cons (Bool.eq_false_iff.mpr fun behind =>
          earlier (before (known hc) behind))))
      · exact .inr (.inr swallows)

end Leading

section

variable (options lines file text)

/-- What is made between two places of a strict parse lies between them, and is led by
    the comments that were given there. -/
structure Led (p : Progress Annotations) (ns : List Node) (q : Progress Annotations) : Prop where
  nested : Nested text p ns q
  stands : Stands options lines file text p → Stands options lines file text q
  leading : Stands options lines file text p →
    Leading (allComments options lines file text) text p (ns.flatMap Node.subtree) q

end

namespace Led

/-- Nothing was made or given. -/
theorem nothing (nested : Nested text p [] q)
    (stands : Stands options lines file text p → Stands options lines file text q)
    (same : Stands options lines file text p → q.observed.given = p.observed.given) :
    Led options lines file text p [] q where
  nested := nested
  stands := stands
  leading here :=
    .nothing ⟨(same here).symm ▸ List.Subset.refl _, fun _ hc => .inl (same here ▸ hc)⟩
      ((same here) ▸ List.Subset.refl _)

/-- Nothing happens. -/
theorem refl (p : Progress Annotations) : Led options lines file text p [] p :=
  nothing (.refl p) id fun _ => rfl

/-- A token is taken. -/
theorem taken (p : Progress Annotations) :
    Led options lines file text p [] (p.taken ⟨.strict, lines, observer options lines file⟩) :=
  nothing (.taken p) Stands.taken Stands.given_taken

/-- Two rows of nodes in turn. -/
theorem append (h : Led options lines file text p ns q) (k : Led options lines file text q ms r) :
    Led options lines file text p (ns ++ ms) r where
  nested := h.nested.append k.nested
  stands := k.stands ∘ h.stands
  leading here := by
    have there := h.stands here
    have first := h.nested.laid here.situation.lies
    have second := k.nested.laid there.situation.lies
    rw [List.flatMap_append]
    exact (h.leading here).append (k.leading there) (fun _ => (k.stands there).mem_of_given)
      first.start_le (second.previousEnd_le there.situation.lies)

/-- A node is closed over what was made since it was opened. -/
theorem close {shape : Shape Node} {stop : Nat}
    (opens : p.Opens ⟨.strict, lines, observer options lines file⟩ own o q)
    (opened : own = !shape.inheritsStart)
    (stands : Stands options lines file text q → Stands options lines file text r)
    (leading : Stands options lines file text q → Leading (allComments options lines file text)
      text q (shape.parts.flatMap Node.subtree) r) :
    let closed := r.closeAt ⟨.strict, lines, observer options lines file⟩ o shape stop
    Nested text p [closed.1] closed.2 → Led options lines file text p [closed.1] closed.2 := by
  intro closed nested
  refine ⟨nested, fun here => (stands (here.of_opens opens)).close shape stop, fun here => ?_⟩
  have there := here.of_opens opens
  have inner := leading there
  have laid := nested.laid here.situation.lies
  have reaches := laid.reaches _ (List.mem_singleton_self _)
  have inside := (laid.inside _ (List.mem_singleton_self _)).2
  have subtree : [closed.1].flatMap Node.subtree =
      closed.1 :: shape.parts.flatMap Node.subtree := by
    rw [List.flatMap_singleton, Node.subtree_eq]
    rfl
  rw [subtree]
  -- A node that starts with its first part takes the comments over; any other one takes its own.
  cases opens with
  | inherited =>
      have inherits : shape.inheritsStart = true := by simpa using opened.symm
      exact (inner.cons_inherits inherits (Nat.le_refl _)).of_same rfl rfl
  | here =>
      have own : shape.inheritsStart = false := by simpa using opened.symm
      refine Leading.of_same (.cons_opened here .here inner.hands
        (Nat.lt_of_lt_of_le reaches inside) rfl rfl own inner.starts inner.passed
        (fun _ => (stands there).mem_of_given) fun c hc => ?_) rfl rfl
      -- What is swallowed below stays swallowed.
      refine (inner.leads c hc).imp_right (.imp_right ?_)
      rintro ⟨m, hm, swallows⟩
      exact ⟨m, List.mem_cons_of_mem _ hm, swallows⟩

/-- A node that is closed is led by what was given when it was opened. -/
theorem closed {shape : Shape Node}
    (opens : p.Opens ⟨.strict, lines, observer options lines file⟩ own o q)
    (complete : Progress.Completes ⟨.strict, lines, observer options lines file⟩
      (Led options lines file text) own p q shape ns r s) :
    let closed := s.closeAt ⟨.strict, lines, observer options lines file⟩ o shape
      r.situation.previousEnd
    Led options lines file text p [closed.1] closed.2 := by
  have made := complete.below.append complete.behind
  rw [List.append_nil] at made
  have covers : shape.parts = ns := complete.covers.2
  exact close opens complete.opened made.stands (covers ▸ made.leading)
    (.closed opens (complete.mono fun _ _ _ h => h.nested))

/-- The text of a chunk becomes a node behind its token. -/
theorem chunk {raw : String} {isTail : Bool}
    (read : Grammar.templateChunk? p.situation.token.kind = some (raw, isTail)) :
    let start := p.situation.token.span.start + 1
    let closed := (p.taken ⟨.strict, lines, observer options lines file⟩).closeAt
      ⟨.strict, lines, observer options lines file⟩ (Grammar.openedAt start)
      (.templateElement raw isTail) (start + raw.utf8ByteSize)
    Led options lines file text p [closed.1] closed.2 := by
  intro start closed
  have subtree : [closed.1].flatMap Node.subtree = [closed.1] := by
    rw [List.flatMap_singleton, Node.subtree_eq]
    rfl
  refine ⟨.chunk read, fun here => here.taken.close _ _, fun here => ?_⟩
  rw [subtree]
  exact (((taken p).leading here).cons_inherits rfl (Nat.le_succ _)).of_same rfl rfl

/-- A node takes a token. -/
theorem consumed_lt (h : Led options lines file text p [n] q)
    (here : Stands options lines file text p) :
    p.situation.consumed < q.situation.consumed := by
  have laid := h.nested.laid here.situation.lies
  refine Nat.lt_of_le_of_ne laid.forward fun same => ?_
  have reaches := laid.reaches n (List.mem_singleton_self n)
  have inside := (laid.inside n (List.mem_singleton_self n)).2
  have previousEnd := (laid.still same.symm).2
  have behind := here.situation.lies.behind
  omega

/-- So one that took none does not occur. -/
theorem dropped (h : Led options lines file text p [n] q)
    (none : q.situation.consumed = p.situation.consumed) :
    Led options lines file text p [] q :=
  ⟨h.nested.drop, h.stands, fun here => absurd none (Nat.ne_of_gt (h.consumed_lt here))⟩

/-- A name that is its own value is made twice, but opened once. -/
theorem of_twin {key value : Node} (name : key.identifierName?.isSome = true)
    (twin : p.Twin ⟨.strict, lines, observer options lines file⟩ (Led options lines file text)
      key value q) :
    (Stands options lines file text p → Stands options lines file text q) ∧
      (Stands options lines file text p → Leading (allComments options lines file text) text p
        ([key, value].flatMap Node.subtree) q) := by
  have leaf {n : Node} (none : n.parts = []) : n.subtree = [n] := by
    rw [Node.subtree_eq, none]
    rfl
  have parts := Node.parts_of_identifierName? name
  have alone : key.subtree = [key] := leaf parts
  have detached : key.detached.subtree = [key.detached] := leaf parts
  -- The second node stands for the first one.
  have again (xs : List Node) (hx : key ∈ xs) :
      ∃ m ∈ xs, ∀ c, key.detached.opensBehind c = m.opensBehind c := ⟨key, hx, fun _ => rfl⟩
  cases twin with
  | name named =>
      refine ⟨named.stands, fun here => ?_⟩
      have first := named.leading here
      have start := first.starts key (by simp [alone])
      have both : [key, key.detached].flatMap Node.subtree = [key] ++ [key.detached] := by
        simp [alone, detached]
      rw [List.flatMap_singleton, alone] at first
      rw [both]
      exact first.snoc start (.inr (again _ (List.mem_singleton_self _)))
  | @default r _ right closed named on behind closes =>
      refine ⟨fun here => closes ▸ (behind.stands (named.stands here)).close _ _, fun here => ?_⟩
      have first := named.leading here
      have start := first.starts key (by simp [alone])
      have there := named.stands here
      have laid := named.nested.laid here.situation.lies
      have further := (behind.nested.laid there.situation.lies).previousEnd_le
        there.situation.lies
      have shape : closed.1.shape = .assignmentPattern key.detached right := by rw [closes]; rfl
      have begins : closed.1.span.start = key.span.start := by rw [closes]; rfl
      have both : [key, closed.1].flatMap Node.subtree =
          [key] ++ [closed.1] ++ [key.detached] ++ [right].flatMap Node.subtree := by
        have parts : closed.1.parts = [key.detached, right] := by
          rw [Node.parts, shape]
          rfl
        simp [alone, Node.subtree_eq closed.1, parts, detached]
      rw [List.flatMap_singleton, alone] at first
      rw [both]
      have names := (first.snoc (n := closed.1) (begins ▸ start)
        (.inl (by rw [shape]; rfl))).snoc (n := key.detached) start
          (.inr (again _ (by simp)))
      refine (names.append (behind.leading there)
        (fun _ => (behind.stands there).mem_of_given) laid.start_le further).of_same ?_ ?_
      · rw [closes]
        rfl
      · rw [closes]
        rfl

/-- A shorthand property opens three times at one offset; the first one is given the
    comments. -/
theorem shorthand {key value : Node} {kind : PropertyKind} {computed isMethod : Bool}
    (opens : p.Opens ⟨.strict, lines, observer options lines file⟩ true o q)
    (name : key.identifierName?.isSome = true)
    (twin : q.Twin ⟨.strict, lines, observer options lines file⟩ (Led options lines file text)
      key value r) :
    let closed := r.closeAt ⟨.strict, lines, observer options lines file⟩ o
      (.property key value kind computed true isMethod) r.situation.previousEnd
    Led options lines file text p [closed.1] closed.2 := by
  obtain ⟨stands, leading⟩ := of_twin name twin
  exact close opens rfl stands leading (.shorthand opens name (twin.mono fun _ _ _ h => h.nested))

/-- The first word behind the opening of a node is given nothing: it was opened where the
    node was. -/
theorem of_word {word : Node}
    (opens : p.Opens ⟨.strict, lines, observer options lines file⟩ true o q)
    (first : q.Word ⟨.strict, lines, observer options lines file⟩ (Led options lines file text)
      word r) : Led options lines file text q [] r := by
  refine ⟨first.taken.nested.drop, first.taken.stands, fun here => ?_⟩
  have led := first.taken.leading here
  have before := here.of_opened opens
  have nothing : r.observed.given ⊆ q.observed.given := fun c hc => by
    refine (led.of_name first.name c hc).elim id fun front => ?_
    have known := (first.taken.stands here).mem_of_given hc
    rw [(first.on rfl).start, opens.place.1] at front
    rw [(before.given_of_opens opens).2]
    exact (before.recorded_iff known).mpr front
  exact .nothing ⟨led.hands.grows, fun c hc => .inl (nothing hc)⟩ nothing

/-- What is given to the second word of a static accessor is swallowed. -/
theorem staticAccessor {first second key value : Node} {kind : MethodKind} {computed : Bool}
    {t : Progress Annotations}
    (opens : p.Opens ⟨.strict, lines, observer options lines file⟩ true o q)
    (word : q.Word ⟨.strict, lines, observer options lines file⟩ (Led options lines file text)
      first r)
    (next : r.Word ⟨.strict, lines, observer options lines file⟩ (Led options lines file text)
      second s)
    (parts : Led options lines file text s [key, value] t)
    (accessor : kind = MethodKind.get ∨ kind = MethodKind.set) :
    let closed := t.closeAt ⟨.strict, lines, observer options lines file⟩ o
      (.methodDefinition key value kind computed true) t.situation.previousEnd
    Led options lines file text p [closed.1] closed.2 := by
  intro closed
  have nested : Nested text p [closed.1] closed.2 :=
    .staticAccessor opens word.taken.nested next.taken.nested parts.nested
  have front := of_word opens word
  refine ⟨nested, fun here => ?_, fun here => ?_⟩
  · exact (parts.stands (next.taken.stands (front.stands (here.of_opens opens)))).close _ _
  have atFirst := here.of_opens opens
  have atSecond := front.stands atFirst
  have atKey := next.taken.stands atSecond
  have atEnd := parts.stands atKey
  have laid := nested.laid here.situation.lies
  have reaches := laid.reaches _ (List.mem_singleton_self _)
  have inside := (laid.inside _ (List.mem_singleton_self _)).2
  have second := next.taken.nested.laid atSecond.situation.lies
  have last := parts.nested.laid atKey.situation.lies
  have words := front.nested.append next.taken.nested.drop |>.laid atFirst.situation.lies
  have hands := ((front.leading atFirst).hands.trans (next.taken.leading atSecond).hands
    (second.previousEnd_le atSecond.situation.lies)).trans (parts.leading atKey).hands
      (last.previousEnd_le atKey.situation.lies)
  obtain ⟨same, start⟩ := opens.place
  have subtree : [closed.1].flatMap Node.subtree =
      closed.1 :: [key, value].flatMap Node.subtree := by
    rw [List.flatMap_singleton, Node.subtree_eq]
    rfl
  rw [subtree]
  refine Leading.of_same (.cons_opened here opens hands (Nat.lt_of_lt_of_le reaches inside)
    rfl rfl rfl (fun m hm => ?_) (parts.leading atKey).passed (fun _ => atEnd.mem_of_given)
    fun c hc => ?_) rfl rfl
  · exact Nat.le_trans (same ▸ words.start_le) ((parts.leading atKey).starts m hm)
  rcases (parts.leading atKey).leads c hc with earlier | leads | ⟨m, hm, swallows⟩
  · by_cases given : c ∈ q.observed.given
    · exact .inl given
    have known := atKey.mem_of_given earlier
    rcases (next.taken.leading atSecond).of_name next.name c earlier with earlier | behind
    · exact .inl ((front.leading atFirst).given_subset earlier)
    -- The comment came up behind `static`, and went to the second word.
    refine .inr (.inr ⟨closed.1, List.mem_cons_self, ⟨⟨_, _, _, _, rfl, accessor⟩, ?_, ?_⟩⟩)
    · have later : c ∉ q.observed.comments.toList := fun recorded => given <| by
        have whole : q.observed.comments = p.observed.comments := by (cases opens; rfl)
        rw [(here.given_of_opens opens).2, ← whole]
        exact recorded
      have lt := atFirst.start_lt known later
      rw [same] at lt
      exact Nat.lt_of_le_of_lt (Nat.le_of_eq start) lt
    · intro t ht after
      have begins : closed.1.span.start = q.situation.token.span.start := start.trans (by rw [same])
      have le := atFirst.situation.next_le ht (begins ▸ after)
      rw [← (word.on rfl).next, ← (next.on rfl).start] at le
      exact Nat.le_trans behind le
  · exact .inr (.inl leads)
  · exact .inr (.inr ⟨m, List.mem_cons_of_mem _ hm, swallows⟩)

/-- Reinterpreting keeps starts and comments. -/
theorem reinterpreted (h : Led options lines file text p ns q) :
    Led options lines file text p (ns.map Node.toPattern) q :=
  ⟨h.nested.reinterpreted, h.stands, fun here =>
    (h.leading here).of_alike (Node.subtrees_toPattern ns)⟩

end Led

/-- Leading keeps up with every strict parse. -/
def leading (options : ParseOptions) (lines : LineIndex) (file : String) (text : List Char) :
    Assembly ⟨.strict, lines, observer options lines file⟩ where
  Made := Led options lines file text
  still h := .nothing (.still h) (fun here => here.of_still h) fun _ => by
    obtain ⟨depth, inFunction, rfl⟩ := h
    rfl
  append := .append
  forward h := h.nested.forward
  taken := .taken
  opened loose _ := by cases loose
  closed opens complete _ := .closed opens complete
  headed := Progress.headed_of_closed .append .refl .closed
  shorthand := .shorthand
  chunk := .chunk
  filler loose := by cases loose
  dropped := .dropped
  word opens word next := (Led.of_word opens word).append next
  staticAccessor := .staticAccessor
  reinterpreted := .reinterpreted

/-- At its first lexeme a parse has recorded the comments in front of it. -/
theorem entry_stands (options : ParseOptions) (lines : LineIndex) (file : String)
    {first : Lexeme} {rest : List Lexeme} (lexemes : Lexeme.ofText text = first :: rest) :
    let p : Progress Annotations := .entry ⟨.strict, lines, observer options lines file⟩ first rest
      ((observer options lines file).opened 0 .empty).2
    Stands options lines file text p ∧ p.observed.given = [] := by
  intro p
  have observed : p.observed = { ((observer options lines file).opened 0 .empty).2 with
      comments := (first.comments.map (Comment.placed options lines file)).toArray
      diagnostics := (first.diagnostics.map fun d => d.locate lines).toArray } := by
    show (observer options lines file).pass lines first _ = _
    rw [pass_eq]
    simp [observer, openNode, empty]
  refine ⟨⟨entry_standsIn lexemes, ?_, ?_, ?_⟩, ?_⟩
  · rw [allComments, lexemes, observed]
    simp [p, Progress.entry]
  · rw [observed]
    exact Nat.zero_le _
  · rw [observed]
    exact Nat.zero_le _
  · rw [given, observed]
    rfl

/-- The comments that a strict parse has given at its end are those in front of a node
    that it opened, and each leads the first of them or is swallowed. -/
theorem leads_of_tree {program : Node} {a : Annotations}
    (h : parseText .strict text lines (observer options lines file) .empty = (.tree program, a)) :
    (∀ n ∈ program.subtree, ∀ c ∈ a.comments.toList, n.opensBehind c = true → c ∈ a.given) ∧
    ∀ c ∈ a.given, Node.LeadsFirst c program.subtree ∨
      ∃ n ∈ program.subtree, n.Swallows text c := by
  obtain ⟨first, rest, body, q, lexemes, series, -, closed, told⟩ :=
    parseText_made (leading options lines file text) h
  obtain ⟨here, fresh⟩ := entry_stands options lines file lexemes
  have made : Led options lines file text _ body q := series.made
  have known {c : Comment} (hc : c ∈ q.observed.given) := (made.stands here).mem_of_given hc
  have led := made.leading here
  have given : a.given = q.observed.given := by rw [told]; rfl
  have comments : a.comments = q.observed.comments := by rw [told]; rfl
  have subtree : program.subtree = program :: body.flatMap Node.subtree := by
    rw [Node.subtree_eq, closed]
    rfl
  have start : program.span.start = 0 := by rw [closed]; rfl
  -- The program starts with the text, in front of all comments.
  have front {c : Comment} (hc : c ∈ allComments options lines file text) :
      program.opensBehind c = false := by
    refine Bool.eq_false_iff.mpr fun behind => ?_
    have := (Node.opensBehind_iff.mp behind).2
    have := nonempty_of_mem hc
    omega
  rw [given, comments, subtree]
  refine ⟨fun n hn c hc behind => ?_, fun c hc => ?_⟩
  · replace hc := (made.stands here).mem_of_recorded hc
    rcases List.mem_cons.mp hn with rfl | hn
    · rw [front hc] at behind
      cases behind
    · exact led.passed n hn c hc behind
  · rcases led.leads c hc with none | leads | ⟨n, hn, swallows⟩
    · rw [fresh] at none
      cases none
    · exact .inl (leads.cons (front (known hc)))
    · exact .inr ⟨n, List.mem_cons_of_mem _ hn, swallows⟩

end Annotations

/-- FIRST NODES: in the tree of a text that the strict parser accepts, the leading cursor
    has given every comment with a node behind it that was opened by itself.  Each comment
    that it has given leads exactly one node, and this is the first one that was opened
    behind the comment, unless the comment stands between `static` and the next token of
    a static accessor. -/
theorem SyntaxTree.parse_leads_first (options : ParseOptions) (text : List Char) (file : String)
    {program : Node} {a : Annotations}
    (accepted : pass options text file .strict .empty = (.tree program, a)) :
    let tree := parse options text file
    tree.program = program ∧
    (∀ c ∈ tree.comments, ∀ n ∈ tree.program.subtree, n.opensBehind c = true → c ∈ a.given) ∧
    ∀ c ∈ a.given, (∃ n ∈ tree.program.subtree, n.Swallows text c) ∨
      Node.LeadsFirst c tree.program.subtree ∧
        (tree.program.subtree.flatMap Node.leadingComments).count c = 1 := by
  have once := (parse_comments_attached options text file).2.1
  rw [parse_of_tree options text file accepted] at once ⊢
  obtain ⟨given, leads⟩ := Annotations.leads_of_tree accepted
  refine ⟨rfl, fun c hc n hn => given n hn c hc, fun c hc => ?_⟩
  refine (leads c hc).symm.imp_right fun first => ⟨first, ?_⟩
  obtain ⟨n, found, there⟩ := first
  exact List.count_eq_one_of_mem once
    (List.mem_flatMap.mpr ⟨n, List.mem_of_find?_eq_some found, there⟩)

theorem SyntaxTree.parse_leads_first_accessor :
    let text := "class A { /*c*/ get /*d*/ x() {} }".toList
    ∃ program a, pass {} text "" .strict .empty = (.tree program, a) ∧ a.given.length = 2 ∧
      ∀ c ∈ a.given, (∃ n ∈ (parse {} text "").program.subtree, n.Swallows text c) ∨
        Node.LeadsFirst c (parse {} text "").program.subtree ∧
          ((parse {} text "").program.subtree.flatMap Node.leadingComments).count c = 1 := by
  intro text
  let run := pass {} text "" .strict .empty
  have two : run.1.tree?.map (fun _ => run.2.given.length) = some 2 := by decide +kernel
  obtain ⟨program, accepted, two⟩ := ParseResult.exists_tree two
  have accepted : pass {} text "" .strict .empty = (.tree program, run.2) := Prod.ext accepted rfl
  exact ⟨program, run.2, accepted, two, (parse_leads_first {} text "" accepted).2.2⟩

/-- Comments are lost in valid code: one behind `static` leads no node at all. -/
theorem SyntaxTree.parse_loses_comment :
    ¬ ∀ (options : ParseOptions) (text : List Char) (file : String) (program : Node)
      (a : Annotations), pass options text file .strict .empty = (.tree program, a) →
        ∀ c ∈ a.given, (program.subtree.flatMap Node.leadingComments).count c = 1 := by
  intro once
  let run := pass {} "class A { static /*c*/ get x() {} }".toList "" .strict .empty
  have lost : run.1.tree?.map (fun program => run.2.given.any fun c =>
      (program.subtree.flatMap Node.leadingComments).count c == 0) = some true := by
    decide +kernel
  obtain ⟨program, accepted, lost⟩ := ParseResult.exists_tree lost
  obtain ⟨c, given, none⟩ := List.any_eq_true.mp lost
  have one := once _ _ _ program run.2 (Prod.ext accepted rfl) c given
  rw [one] at none
  cases none

end ScriptTree

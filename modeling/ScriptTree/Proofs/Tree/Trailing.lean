import ScriptTree.Proofs.Tree.Leading

/-! # Trailing — a comment between two statements

    A statement is closed last, behind the comments in front of the next token, so a
    comment between two statements was considered when the second one is opened.  Then it
    trails a node in the first statement: the one that was closed first behind the last
    token.  This is the statement itself if the last token is no part of a node in it.
    The second statement is opened at its first token, and is led by the comment. -/

namespace ScriptTree

namespace Node

variable {n m : Node} {text : List Char} {all : List Comment}

/-- The token stands behind the node, and does not close it as a parenthesis does a
    sequence or a delimiter a chunk. -/
def IsFollowedBy (n : Node) (t : Token) : Prop :=
  n.span.stop < t.span.stop ∧ (n.shape.closesLate = true →
    t.isPunctuator .closeParen = false ∧ Grammar.templateChunk? t.kind = none)

/-- Whatever trails the node or something in it stands in front of all tokens behind the
    node. -/
def TrailsNear (text : List Char) (n : Node) : Prop :=
  ∀ m ∈ n.subtree, ∀ c ∈ m.trailingComments, ∀ t ∈ (lex text).tokens, n.IsFollowedBy t →
    c.span.stop ≤ t.span.start

/-- The last token of the node stands behind its parts. -/
def EndsItself (text : List Char) (n : Node) : Prop :=
  ∀ x ∈ n.parts, ∀ t ∈ (lex text).tokens, t.span.stop = n.span.stop → x.IsFollowedBy t

/-- The comment leads the second statement, and trails the first one or a node in it: the
    first one itself if its last token stands behind its parts. -/
structure Shares (text : List Char) (first second : Node) (c : Comment) : Prop where
  leads : c ∈ second.leadingComments
  trails : ∃ n ∈ first.subtree, c ∈ n.trailingComments
  whole : first.EndsItself text → c ∈ first.trailingComments

/-- Of the statements that the node holds, each two that follow each other share the
    comments between them. -/
def SharesComments (all : List Comment) (text : List Char) (n : Node) : Prop :=
  ∀ before first second behind, n.statements? = some (before ++ first :: second :: behind) →
    ∀ c ∈ all, first.span.stop ≤ c.span.start → c.span.stop ≤ second.span.start →
      Shares text first second c

/-- What is known of the comments of every node. -/
structure TrailsWell (all : List Comment) (text : List Char) (n : Node) : Prop where
  near : n.TrailsNear text
  shares : n.SharesComments all text

/-- A node without statements has nothing between them. -/
theorem sharesComments_of_none (h : n.statements? = none) : n.SharesComments all text := by
  intro before first second behind some
  rw [h] at some
  cases some

/-- A node of the same extent is followed by the same token. -/
theorem IsFollowedBy.of_extent {t : Token} (h : m.IsFollowedBy t) (same : m.extent = n.extent) :
    n.IsFollowedBy t := by
  obtain ⟨span, late⟩ := Prod.mk.inj same
  rw [IsFollowedBy, ← span, ← late]
  exact h

/-- A node without parts and comments. -/
theorem trailsWell_of_leaf (leaf : n.parts = []) (none : n.statements? = none)
    (bare : n.trailingComments = []) : n.TrailsWell all text := by
  refine ⟨fun m hm c hc => ?_, sharesComments_of_none none⟩
  rw [subtree_eq, leaf, List.flatMap_nil, List.mem_singleton] at hm
  rw [hm, bare] at hc
  cases hc

/-- Reinterpreting keeps what trails. -/
theorem trailsWell_toPattern (n : Node) (h : ∀ k ∈ n.subtree, k.TrailsWell all text) :
    ∀ k ∈ n.toPattern.subtree, k.TrailsWell all text := by
  refine ((toPattern_induction (motive := fun n m => List.Forall₂ Alike n.subtree m.subtree ∧
    ((∀ k ∈ n.subtree, k.TrailsWell all text) → ∀ k ∈ m.subtree, k.TrailsWell all text))
    (fun n => ⟨List.forall₂_same.mpr fun x _ => .refl x, id⟩) (fun n m recast => ?_) n).1).2 h
  have alike : List.Forall₂ Alike n.subtree m.subtree := by
    rw [subtree_eq, subtree_eq]
    exact .cons recast.alike (List.rel_flatMap recast.parts fun _ _ below => below.1)
  refine ⟨alike, fun h => forall_subtree ⟨?_, ?_⟩ fun y hy => ?_⟩
  · intro k hk c hc t ht follows
    obtain ⟨l, hl, same⟩ := exists_related alike hk
    have extent : m.extent = n.extent := Prod.ext recast.span <| by
      rw [extent, extent, Shape.closesLate_of_isExchanged recast.exchanged.1,
        Shape.closesLate_of_isExchanged recast.exchanged.2]
    exact (h n n.mem_subtree_self).near l hl c (same.trailing ▸ hc) t ht
      (follows.of_extent extent)
  · exact sharesComments_of_none (Shape.statements?_of_isExchanged recast.exchanged.2)
  · obtain ⟨x, hx, -, below⟩ := exists_related recast.parts hy
    exact below fun k hk => h k (subtree_subset_of_part hx hk)

end Node

namespace Annotations

variable {options : ParseOptions} {lines : LineIndex} {file : String} {text : List Char}
  {p q r s : Progress Annotations} {c : Comment} {n m : Node} {ns ms xs ys : List Node}
  {own : Bool} {o : Grammar.Opened} {all : List Comment}

/-- The comments that were considered between two places trail nodes that were closed
    there, or stand in front of the end of the last token that was taken. -/
structure Trailing (all : List Comment) (text : List Char) (p : Progress Annotations)
    (ns : List Node) (q : Progress Annotations) : Prop where
  trails : ∀ c ∈ q.observed.considered, c ∈ p.observed.considered ∨
    c.span.start < q.situation.previousEnd ∨
      ∃ n ∈ ns.flatMap Node.subtree, c ∈ n.trailingComments
  recorded : ∀ n ∈ ns.flatMap Node.subtree, n.trailingComments ⊆ q.observed.comments.toList
  well : ∀ n ∈ ns.flatMap Node.subtree, n.TrailsWell all text

namespace Trailing

/-- No comment was considered. -/
theorem nothing (same : q.observed.considered ⊆ p.observed.considered) :
    Trailing all text p [] q where
  trails _ hc := .inl (same hc)
  recorded _ hn := absurd hn List.not_mem_nil
  well _ hn := absurd hn List.not_mem_nil

/-- Two rows of nodes in turn: a comment is considered once. -/
theorem append (h : Trailing all text p ns q) (k : Trailing all text q ms r)
    (comments : q.observed.comments.toList ⊆ r.observed.comments.toList)
    (le : q.situation.previousEnd ≤ r.situation.previousEnd) :
    Trailing all text p (ns ++ ms) r := by
  have cases_append {motive : Node → Prop} (first : ∀ n ∈ ns.flatMap Node.subtree, motive n)
      (second : ∀ n ∈ ms.flatMap Node.subtree, motive n) :
      ∀ n ∈ (ns ++ ms).flatMap Node.subtree, motive n := by
    rw [List.flatMap_append]
    exact fun n hn => (List.mem_append.mp hn).elim (first n) (second n)
  refine ⟨fun c hc => ?_, cases_append (fun n hn => ?_) k.recorded, cases_append h.well k.well⟩
  · rw [List.flatMap_append]
    rcases k.trails c hc with earlier | front | ⟨n, hn, there⟩
    · rcases h.trails c earlier with earlier | front | ⟨n, hn, there⟩
      · exact .inl earlier
      · exact .inr (.inl (Nat.lt_of_lt_of_le front le))
      · exact .inr (.inr ⟨n, List.mem_append_left _ hn, there⟩)
    · exact .inr (.inl front)
    · exact .inr (.inr ⟨n, List.mem_append_right _ hn, there⟩)
  · exact List.Subset.trans (h.recorded n hn) comments

/-- Nodes are left out in front of others, for which a token was taken. -/
theorem behind (h : Trailing (allComments options lines file text) text p ms q)
    (k : Trailing (allComments options lines file text) text q ns r)
    (stands : Stands options lines file text q)
    (taken : q.situation.token.span.start < r.situation.previousEnd) :
    Trailing (allComments options lines file text) text p ns r := by
  refine ⟨fun c hc => ?_, k.recorded, k.well⟩
  rcases k.trails c hc with earlier | rest
  · refine (h.trails c earlier).imp_right fun h => .inl ?_
    rcases h with front | ⟨n, hn, there⟩
    · have := stands.situation.lies.behind
      omega
    · have recorded := h.recorded n hn there
      have known := stands.mem_of_recorded recorded
      have front := (stands.recorded_iff known).mp recorded
      have some := nonempty_of_mem known
      omega
  · exact .inr rest

/-- A node without parts and comments may be made out of nothing. -/
theorem bare (leaf : n.parts = []) (none : n.statements? = none)
    (bare : n.trailingComments = []) : Trailing all text p [n] p := by
  have alone : [n].flatMap Node.subtree = [n] := by
    rw [List.flatMap_singleton, Node.subtree_eq, leaf]
    rfl
  refine ⟨fun c hc => .inl hc, ?_, ?_⟩
  · rw [alone, List.forall_mem_singleton, bare]
    exact List.nil_subset _
  · rw [alone, List.forall_mem_singleton]
    exact Node.trailsWell_of_leaf leaf none bare

/-- Opening a node considers nothing. -/
theorem of_opens {mode : Mode} (h : Trailing all text q ns r)
    (opens : p.Opens ⟨mode, lines, observer options lines file⟩ own o q) :
    Trailing all text p ns r := by
  cases opens <;> exact ⟨h.trails, h.recorded, h.well⟩

/-- A node is closed over the last ones that were made. -/
theorem close {shape : Shape Node} {mode : Mode} {stop : Nat} (front : List Node)
    (h : Trailing (allComments options lines file text) text p (front ++ shape.parts) s) :
    let closed := s.closeAt ⟨mode, lines, observer options lines file⟩ o shape stop
    closed.1.span.stop ≤ s.situation.previousEnd →
    (∀ c ∈ s.observed.comments.toList, ∀ t ∈ (lex text).tokens, closed.1.IsFollowedBy t →
      c.span.stop ≤ t.span.start) →
    closed.1.SharesComments (allComments options lines file text) text →
    Trailing (allComments options lines file text) text p (front ++ [closed.1]) closed.2 := by
  intro closed inside near shares
  have parts : closed.1.parts = shape.parts := rfl
  have subtree : (front ++ [closed.1]).flatMap Node.subtree =
      front.flatMap Node.subtree ++ closed.1 :: shape.parts.flatMap Node.subtree := by
    rw [List.flatMap_append, List.flatMap_singleton, Node.subtree_eq, parts]
  have trailing : closed.1.trailingComments = s.observed.trailingAt closed.1.span.stop := rfl
  have here : closed.1.trailingComments ⊆ s.observed.comments.toList := by
    rw [trailing]
    exact List.Subset.trans (s.observed.trailingAt_sublist _).subset
      (List.drop_subset _ _)
  -- What is known of the nodes there, and of the new one, is known of all.
  have forall_subtree {motive : Node → Prop} (self : motive closed.1)
      (rest : ∀ n ∈ (front ++ shape.parts).flatMap Node.subtree, motive n) :
      ∀ n ∈ (front ++ [closed.1]).flatMap Node.subtree, motive n := by
    rw [List.flatMap_append] at rest
    rw [subtree]
    intro n hn
    rcases List.mem_append.mp hn with hn | hn
    · exact rest n (List.mem_append_left _ hn)
    · rcases List.mem_cons.mp hn with rfl | hn
      · exact self
      · exact rest n (List.mem_append_right _ hn)
  have recorded := forall_subtree here h.recorded
  refine ⟨fun c hc => ?_, recorded, forall_subtree ⟨fun m hm c hc => ?_, shares⟩ h.well⟩
  · by_cases earlier : c ∈ s.observed.considered
    · refine (h.trails c earlier).imp_right (.imp_right ?_)
      rintro ⟨n, hn, there⟩
      rw [List.flatMap_append, List.mem_append] at hn
      refine ⟨n, ?_, there⟩
      rw [subtree]
      exact List.mem_append.mpr (hn.imp_right (List.mem_cons_of_mem _))
    · have there : c ∈ s.observed.comments.toList := List.mem_of_mem_take hc
      rw [← List.take_append_drop s.observed.trailingCursor s.observed.comments.toList,
        List.mem_append] at there
      by_cases front' : closed.1.span.stop ≤ c.span.start
      · refine .inr (.inr ⟨closed.1, ?_, ?_⟩)
        · rw [subtree]
          exact List.mem_append_right _ List.mem_cons_self
        · rw [trailing, trailingAt, toList_extract_size, List.mem_filter]
          exact ⟨there.resolve_left earlier, decide_eq_true front'⟩
      · exact .inr (.inl (Nat.lt_of_lt_of_le (Nat.not_le.mp front') inside))
  · refine near c (recorded m ?_ hc)
    rw [List.flatMap_append, List.flatMap_singleton]
    exact List.mem_append_right _ hm

/-- Reinterpreting keeps what trails between two places. -/
theorem reinterpreted (h : Trailing all text p ns q) :
    Trailing all text p (ns.map Node.toPattern) q := by
  have alike := Node.subtrees_toPattern ns
  refine ⟨fun c hc => ?_, fun m hm => ?_, fun m hm => ?_⟩
  · refine (h.trails c hc).imp_right (.imp_right ?_)
    rintro ⟨n, hn, there⟩
    obtain ⟨m, hm, same⟩ := Node.exists_related alike.flip hn
    exact ⟨m, hm, same.trailing ▸ there⟩
  · obtain ⟨n, hn, same⟩ := Node.exists_related alike hm
    rw [same.trailing]
    exact h.recorded n hn
  · rw [List.flatMap_map] at hm
    obtain ⟨n, hn, hm⟩ := List.mem_flatMap.mp hm
    exact n.trailsWell_toPattern (fun k hk => h.well k (List.mem_flatMap.mpr ⟨n, hn, hk⟩)) m hm

end Trailing

section

variable (options lines file text)

/-- What is made between two places of a strict parse is led by the comments that were given
    there, and trailed by those that were considered. -/
structure Trailed (p : Progress Annotations) (ns : List Node) (q : Progress Annotations) :
    Prop where
  led : Led options lines file text p ns q
  trailing : Stands options lines file text p →
    Trailing (allComments options lines file text) text p ns q

end

/-- Recorded comments stay recorded. -/
theorem Led.comments_subset (h : Led options lines file text p ns q)
    (here : Stands options lines file text p) :
    p.observed.comments.toList ⊆ q.observed.comments.toList := by
  intro c hc
  have known := here.mem_of_recorded hc
  have le := (h.nested.laid here.situation.lies).start_le
  have front := (here.recorded_iff known).mp hc
  exact ((h.stands here).recorded_iff known).mpr (Nat.le_trans front le)

namespace Trailed

/-- Nothing was made, and no comment was considered. -/
theorem nothing (led : Led options lines file text p [] q)
    (same : Stands options lines file text p →
      q.observed.considered ⊆ p.observed.considered) : Trailed options lines file text p [] q :=
  ⟨led, fun here => .nothing (same here)⟩

/-- Nothing happens. -/
theorem refl (p : Progress Annotations) : Trailed options lines file text p [] p :=
  nothing (.refl p) fun _ => List.Subset.refl _

/-- A token is taken. -/
theorem taken (p : Progress Annotations) :
    Trailed options lines file text p []
      (p.taken ⟨.strict, lines, observer options lines file⟩) := by
  refine nothing (.taken p) fun here => ?_
  obtain ⟨tokens, comments, diagnostics, observed⟩ := observed_taken p
  rw [observed, considered, considered]
  simp only [Array.toList_append]
  rw [List.take_append_of_le_length here.trailing]
  exact List.Subset.refl _

/-- Two rows of nodes in turn. -/
theorem append (h : Trailed options lines file text p ns q)
    (k : Trailed options lines file text q ms r) :
    Trailed options lines file text p (ns ++ ms) r := by
  refine ⟨h.led.append k.led, fun here => ?_⟩
  have there := h.led.stands here
  have laid := k.led.nested.laid there.situation.lies
  exact (h.trailing here).append (k.trailing there) (k.led.comments_subset there)
    (laid.previousEnd_le there.situation.lies)

end Trailed

/-! ## Statements that follow each other -/

/-- What is known behind a statement: it started where it was opened, by itself, it reaches to
    the last token that was taken, and all comments in front of the next one were
    considered. -/
theorem facts_of_seals {start : Nat}
    (h : Progress.Seals ⟨.strict, lines, observer options lines file⟩ start n q) :
    n.span.start = start ∧ n.shape.inheritsStart = false ∧
      n.span.stop = max q.situation.previousEnd start ∧
        q.observed.considered = q.observed.comments.toList := by
  obtain ⟨o, shape, r, rfl, own, -, rfl, _, _, rfl⟩ := h
  exact ⟨rfl, own, rfl, List.take_of_length_le (Nat.le_refl _)⟩

namespace Trailed

variable {first second : Node} {before behind : List Node}

/-- Two statements that follow each other share the comments between them. -/
theorem shares (here : Stands options lines file text p)
    (one : Trailed options lines file text p [first] q)
    (oneSeals : Progress.Seals ⟨.strict, lines, observer options lines file⟩
      p.situation.token.span.start first q)
    (two : Trailed options lines file text q [second] r)
    (twoSeals : Progress.Seals ⟨.strict, lines, observer options lines file⟩
      q.situation.token.span.start second r)
    (hc : c ∈ allComments options lines file text) (left : first.span.stop ≤ c.span.start)
    (right : c.span.stop ≤ second.span.start) : Node.Shares text first second c := by
  have there := one.led.stands here
  have laid := one.led.nested.laid here.situation.lies
  obtain ⟨firstStart, -, firstStop, considered⟩ := facts_of_seals oneSeals
  obtain ⟨secondStart, own, -, -⟩ := facts_of_seals twoSeals
  have some := nonempty_of_mem hc
  have reaches : q.situation.previousEnd ≤ first.span.stop := firstStop ▸ Nat.le_max_left _ _
  have starts : p.situation.token.span.start ≤ first.span.stop :=
    firstStop ▸ Nat.le_max_right _ _
  -- The comment came up while the first statement was parsed.
  have late : c ∉ p.observed.comments.toList := fun recorded => by
    have := (here.recorded_iff hc).mp recorded
    omega
  have recorded : c ∈ q.observed.comments.toList :=
    (there.recorded_iff hc).mpr (secondStart ▸ right)
  have trails : ∃ n ∈ first.subtree, c ∈ n.trailingComments := by
    rcases (one.trailing here).trails c (considered ▸ recorded) with earlier | front | trails
    · exact absurd (List.mem_of_mem_take earlier) late
    · omega
    · rwa [List.flatMap_singleton] at trails
  refine ⟨?_, trails, fun ends => ?_⟩
  · have opens : second.opensBehind c = true := Node.opensBehind_iff.mpr ⟨own, right⟩
    have inside : second ∈ [second].flatMap Node.subtree := by
      rw [List.flatMap_singleton]
      exact second.mem_subtree_self
    have led := two.led.leading there
    rcases led.leads c (led.passed second inside c hc opens) with
      earlier | ⟨n, found, leads⟩ | ⟨n, hn, swallows⟩
    · rcases (one.led.leading here).hands.early c earlier with given | front
      · exact absurd (List.mem_of_mem_take given) late
      · omega
    · rw [List.flatMap_singleton, Node.subtree_eq, List.find?_cons_of_pos opens] at found
      exact Option.some.inj found ▸ leads
    · have := led.starts n hn
      have := swallows.behind
      omega
  · obtain ⟨n, hn, trails⟩ := trails
    rw [Node.subtree_eq] at hn
    rcases List.mem_cons.mp hn with rfl | hn
    · exact trails
    obtain ⟨x, hx, hn⟩ := List.mem_flatMap.mp hn
    have stop : first.span.stop = q.situation.previousEnd :=
      Nat.le_antisymm (laid.inside first (List.mem_singleton_self _)).2 reaches
    have grown := laid.reaches first (List.mem_singleton_self _)
    obtain ⟨t, ht, last⟩ := there.situation.exists_last (by omega)
    -- Otherwise the comment would stand in front of the last token.
    have well := (one.trailing here).well x (by
      rw [List.flatMap_singleton, Node.subtree_eq]
      exact List.mem_cons_of_mem _ (List.mem_flatMap.mpr ⟨x, hx, x.mem_subtree_self⟩))
    have front := well.near n hn c trails t ht (ends x hx t ht (last.trans stop.symm))
    have le := ((Lexeme.ofText_placed text).tokens t ht).span.le
    omega

/-- A statement in front of a row of others. -/
theorem uncons (h : Progress.Series ⟨.strict, lines, observer options lines file⟩
      (Trailed options lines file text) p (first :: behind) r)
    (here : Stands options lines file text p) : ∃ q,
      Trailed options lines file text p [first] q ∧
        Progress.Seals ⟨.strict, lines, observer options lines file⟩
          p.situation.token.span.start first q ∧
        Progress.Series ⟨.strict, lines, observer options lines file⟩
          (Trailed options lines file text) q behind r := by
  cases h with
  | cons made seals rest => exact ⟨_, made, seals rfl, rest⟩
  | skip made none _ => exact absurd none (Nat.ne_of_gt (made.led.consumed_lt here))

/-- So do any two of a row of statements. -/
theorem shares_of_series (h : Progress.Series ⟨.strict, lines, observer options lines file⟩
      (Trailed options lines file text) p (before ++ first :: second :: behind) r)
    (here : Stands options lines file text p)
    (hc : c ∈ allComments options lines file text) (left : first.span.stop ≤ c.span.start)
    (right : c.span.stop ≤ second.span.start) : Node.Shares text first second c := by
  induction before generalizing p with
  | nil =>
      obtain ⟨q, one, oneSeals, rest⟩ := uncons h here
      obtain ⟨s, two, twoSeals, -⟩ := uncons rest (one.led.stands here)
      exact shares here one oneSeals two twoSeals hc left right
  | cons n before ih =>
      obtain ⟨q, one, -, rest⟩ := uncons h here
      exact ih rest (one.led.stands here)

end Trailed

/-! ## Every strict parse -/

/-- What was recorded stands in front of the tokens that were not taken. -/
theorem Stands.stop_le (h : Stands options lines file text p)
    (recorded : c ∈ p.observed.comments.toList) {t : Token} (ht : t ∈ (lex text).tokens)
    (later : p.situation.previousEnd < t.span.stop) : c.span.stop ≤ t.span.start :=
  Nat.le_trans ((h.recorded_iff (h.mem_of_recorded recorded)).mp recorded)
    (h.situation.le_of_previousEnd_lt ht later)

namespace Trailed

/-- A node that is closed considers the comments up to its end. -/
theorem closed {shape : Shape Node}
    (opens : p.Opens ⟨.strict, lines, observer options lines file⟩ own o q)
    (complete : Progress.Completes ⟨.strict, lines, observer options lines file⟩
      (Trailed options lines file text) own p q shape ns r s) :
    let closed := s.closeAt ⟨.strict, lines, observer options lines file⟩ o shape
      r.situation.previousEnd
    Trailed options lines file text p [closed.1] closed.2 := by
  intro closed
  have led : Led options lines file text p [closed.1] closed.2 :=
    .closed opens (complete.mono fun _ _ _ h => h.led)
  refine ⟨led, fun here => ?_⟩
  have there := here.of_opens opens
  have atEnd := complete.below.led.stands there
  have behind := complete.behind.led.stands atEnd
  have made := (complete.below.append complete.behind).trailing there
  have covers : shape.parts = ns := complete.covers.2
  have inside := (led.nested.laid here.situation.lies).inside _ (List.mem_singleton_self _)
  rw [List.append_nil, ← covers] at made
  refine .close [] (made.of_opens opens) inside.2 (fun c hc t ht follows => ?_)
    fun before first second rest some c hc left right => ?_
  -- A comment behind the node was either recorded late, behind its closing parenthesis, or not.
  · have later : r.situation.previousEnd < t.span.stop :=
      Nat.lt_of_le_of_lt (Nat.le_max_left _ _) follows.1
    rcases complete.late with same | ⟨late, closes⟩
    · subst same
      exact behind.stop_le hc ht later
    · obtain ⟨paren, next⟩ := closes rfl
      have front := (behind.recorded_iff (behind.mem_of_recorded hc)).mp hc
      rcases atEnd.situation.token_cases ht with taken | same | le
      · exact absurd later (Nat.not_lt.mpr taken)
      · have other := (follows.2 late).1
        rw [same, paren] at other
        cases other
      · rw [← next] at le
        exact Nat.le_trans front le
  -- Two neighbours of the series share only what the series says they share.
  · obtain ⟨_, _, _, _, front, on, series, -⟩ := complete.series _ some
    exact shares_of_series series (on.led.stands (front.led.stands there)) hc left right

/-- A chunk of a template is closed like a leaf. -/
theorem chunk {raw : String} {isTail : Bool}
    (read : Grammar.templateChunk? p.situation.token.kind = some (raw, isTail)) :
    let start := p.situation.token.span.start + 1
    let closed := (p.taken ⟨.strict, lines, observer options lines file⟩).closeAt
      ⟨.strict, lines, observer options lines file⟩ (Grammar.openedAt start)
      (.templateElement raw isTail) (start + raw.utf8ByteSize)
    Trailed options lines file text p [closed.1] closed.2 := by
  intro start closed
  have led : Led options lines file text p [closed.1] closed.2 := .chunk read
  refine ⟨led, fun here => ?_⟩
  have laid := led.nested.laid here.situation.lies
  have reaches := laid.reaches _ (List.mem_singleton_self _)
  have inside := laid.inside _ (List.mem_singleton_self _)
  refine .close [] ((taken p).trailing here) inside.2 (fun c hc t ht follows => ?_)
    (Node.sharesComments_of_none rfl)
  have front := (here.taken.recorded_iff (here.taken.mem_of_recorded hc)).mp hc
  rw [Progress.situation_taken] at front
  -- The token in question is the chunk itself, or lies wholly on one side of it.
  rcases here.situation.token_cases ht with taken | same | le
  · have := here.situation.lies.behind
    have : closed.1.span.stop < t.span.stop := follows.1
    omega
  · have other := (follows.2 rfl).2
    rw [same, read] at other
    cases other
  · exact Nat.le_trans front le

/-- A name that is its own value leaves its comments to the key. -/
theorem of_twin {key value : Node} (name : key.identifierName?.isSome = true)
    (twin : p.Twin ⟨.strict, lines, observer options lines file⟩ (Trailed options lines file text)
      key value q) (here : Stands options lines file text p) :
    -- The copy of a shorthand key carries no comment, so it adds nothing.
    Trailing (allComments options lines file text) text p [key, value] q := by
  have again (r : Progress Annotations) : Trailing (allComments options lines file text) text r
      [key.detached] r := by
    refine .bare (Node.parts_of_identifierName? name) ?_ rfl
    obtain ⟨shape, span, leading, trailing⟩ := key
    cases shape <;> first | rfl | cases name
  cases twin with
  | name named =>
      exact (named.trailing here).append (again q) (List.Subset.refl _) (Nat.le_refl _)
  | @default t r right closed named on behind closes =>
      subst closes
      have there := named.led.stands here
      have first := named.led.nested.laid here.situation.lies
      have further := (behind.led.nested.laid there.situation.lies).previousEnd_le
        there.situation.lies
      have both := (named.trailing here).append (again t) (List.Subset.refl _) (Nat.le_refl _)
      have made := both.append (behind.trailing there) (behind.led.comments_subset there) further
      have start := (first.inside key (List.mem_singleton_self _)).2
      have le := (first.nests key (List.mem_singleton_self _)).self.span.le
      refine .close [key] made ?_ (fun c hc t ht follows => ?_)
        (Node.sharesComments_of_none rfl)
      · exact Nat.max_le.mpr ⟨Nat.le_refl _, Nat.le_trans le (Nat.le_trans start further)⟩
      · exact (behind.led.stands there).stop_le hc ht
          (Nat.lt_of_le_of_lt (Nat.le_max_left _ _) follows.1)

/-- The key, the value and the property end at one offset, and the first one takes the
    comments. -/
theorem shorthand {key value : Node} {kind : PropertyKind} {computed isMethod : Bool}
    (opens : p.Opens ⟨.strict, lines, observer options lines file⟩ true o q)
    (name : key.identifierName?.isSome = true)
    (twin : q.Twin ⟨.strict, lines, observer options lines file⟩ (Trailed options lines file text)
      key value r) :
    let closed := r.closeAt ⟨.strict, lines, observer options lines file⟩ o
      (.property key value kind computed true isMethod) r.situation.previousEnd
    Trailed options lines file text p [closed.1] closed.2 := by
  intro closed
  have led : Led options lines file text p [closed.1] closed.2 :=
    .shorthand opens name (twin.mono fun _ _ _ h => h.led)
  refine ⟨led, fun here => ?_⟩
  have there := here.of_opens opens
  have behind := (Led.of_twin name (twin.mono fun _ _ _ h => h.led)).1 there
  have inside := (led.nested.laid here.situation.lies).inside _ (List.mem_singleton_self _)
  exact .close [] ((of_twin name twin there).of_opens opens) inside.2
    (fun c hc t ht follows => behind.stop_le hc ht
      (Nat.lt_of_le_of_lt (Nat.le_max_left _ _) follows.1)) (Node.sharesComments_of_none rfl)

/-- The word in front of another name may be left out: what trailed it stands in front of
    the name. -/
theorem word {first : Node}
    (opens : p.Opens ⟨.strict, lines, observer options lines file⟩ true o q)
    (word : q.Word ⟨.strict, lines, observer options lines file⟩ (Trailed options lines file text)
      first r) (next : Trailed options lines file text r [n] s) :
    Trailed options lines file text q [n] s := by
  refine ⟨(Led.of_word opens (word.mono fun _ _ _ h => h.led)).append next.led, fun here => ?_⟩
  have there := word.taken.led.stands here
  have laid := next.led.nested.laid there.situation.lies
  have reaches := laid.reaches n (List.mem_singleton_self n)
  have inside := (laid.inside n (List.mem_singleton_self n)).2
  exact (word.taken.trailing here).behind (next.trailing there) there
    (Nat.lt_of_lt_of_le reaches inside)

/-- The word `static` is read as a key and then dropped. -/
theorem staticAccessor {first second key value : Node} {kind : MethodKind} {computed : Bool}
    {t : Progress Annotations}
    (opens : p.Opens ⟨.strict, lines, observer options lines file⟩ true o q)
    (word : q.Word ⟨.strict, lines, observer options lines file⟩ (Trailed options lines file text)
      first r)
    (next : r.Word ⟨.strict, lines, observer options lines file⟩ (Trailed options lines file text)
      second s)
    (parts : Trailed options lines file text s [key, value] t)
    (accessor : kind = MethodKind.get ∨ kind = MethodKind.set) :
    let closed := t.closeAt ⟨.strict, lines, observer options lines file⟩ o
      (.methodDefinition key value kind computed true) t.situation.previousEnd
    Trailed options lines file text p [closed.1] closed.2 := by
  intro closed
  have led : Led options lines file text p [closed.1] closed.2 :=
    .staticAccessor opens (word.mono fun _ _ _ h => h.led) (next.mono fun _ _ _ h => h.led)
      parts.led accessor
  refine ⟨led, fun here => ?_⟩
  have atFirst := here.of_opens opens
  have atSecond := word.taken.led.stands atFirst
  have atKey := next.taken.led.stands atSecond
  have second := next.taken.led.nested.laid atSecond.situation.lies
  have last := parts.led.nested.laid atKey.situation.lies
  have reaches := last.reaches key List.mem_cons_self
  have inside := (last.inside key List.mem_cons_self).2
  have taken := Nat.lt_of_lt_of_le reaches inside
  have closing := (led.nested.laid here.situation.lies).inside _ (List.mem_singleton_self _)
  -- The two words are dropped with their comments; what remains is behind them.
  have made := (word.taken.trailing atFirst).behind
    ((next.taken.trailing atSecond).behind (parts.trailing atKey) atKey taken) atSecond
      (Nat.lt_of_le_of_lt second.start_le taken)
  exact .close [] (made.of_opens opens) closing.2
    (fun c hc t ht follows => (parts.led.stands atKey).stop_le hc ht
      (Nat.lt_of_le_of_lt (Nat.le_max_left _ _) follows.1)) (Node.sharesComments_of_none rfl)

end Trailed

/-- Trailing keeps up with every strict parse. -/
def trailing (options : ParseOptions) (lines : LineIndex) (file : String) (text : List Char) :
    Assembly ⟨.strict, lines, observer options lines file⟩ where
  Made := Trailed options lines file text
  still h := by
    refine .nothing ((leading options lines file text).still h) fun _ => ?_
    obtain ⟨depth, inFunction, rfl⟩ := h
    exact List.Subset.refl _
  append := .append
  forward h := h.led.nested.forward
  taken := .taken
  opened loose _ := by cases loose
  closed opens complete _ := .closed opens complete
  headed := Progress.headed_of_closed .append .refl .closed
  shorthand := .shorthand
  chunk := .chunk
  filler loose := by cases loose
  dropped h none := ⟨h.led.dropped none, fun here =>
    absurd none (Nat.ne_of_gt (h.led.consumed_lt here))⟩
  word := .word
  staticAccessor := .staticAccessor
  reinterpreted h := ⟨h.led.reinterpreted, fun here => (h.trailing here).reinterpreted⟩

/-- All statements of a strict tree share the comments between them. -/
theorem shares_of_tree {program : Node} {a : Annotations}
    (h : parseText .strict text lines (observer options lines file) .empty = (.tree program, a)) :
    ∀ n ∈ program.subtree, n.SharesComments a.comments.toList text := by
  obtain ⟨first, rest, body, q, lexemes, series, -, closed, told⟩ :=
    parseText_made (trailing options lines file text) h
  have here := (entry_stands options lines file lexemes).1
  have made : Trailed options lines file text _ body q := series.made
  have comments : a.comments = q.observed.comments := by rw [told]; rfl
  have statements : program.statements? = some body := by rw [closed]; rfl
  have parts : program.parts = body := by rw [closed]; rfl
  have known {c : Comment} (hc : c ∈ a.comments.toList) :
      c ∈ allComments options lines file text :=
    (made.led.stands here).mem_of_recorded (comments ▸ hc)
  refine Node.forall_subtree (fun before first second behind some c hc left right => ?_)
    fun x hx n hn before first second behind some c hc => ?_
  · have whole : body = before ++ first :: second :: behind :=
      Option.some.inj (statements.symm.trans some)
    exact Trailed.shares_of_series (whole ▸ series) here (known hc) left right
  · have well := (made.trailing here).well n (List.mem_flatMap.mpr ⟨x, parts ▸ hx, hn⟩)
    exact well.shares before first second behind some c (known hc)

end Annotations

/-- SHARED COMMENTS: in the tree of a text that the strict parser accepts, a comment between
    two statements of a list leads the second one.  It trails the first one or a node in it,
    and the first one itself if its last token stands behind its parts. -/
theorem SyntaxTree.parse_shares_comments (options : ParseOptions) (text : List Char)
    (file : String) {program : Node}
    (accepted : (pass options text file .strict .empty).1 = .tree program) :
    let tree := parse options text file
    ∀ n ∈ tree.program.subtree, n.SharesComments tree.comments text := by
  rw [parse_of_tree options text file (Prod.ext accepted rfl)]
  exact Annotations.shares_of_tree (Prod.ext accepted rfl)

theorem SyntaxTree.parse_shares_comments_semicolon :
    let text := "a;/*c*/b".toList
    ∃ program first second c, (pass {} text "" .strict .empty).1 = .tree program ∧
      (parse {} text "").program.statements? = some [first, second] ∧
        c ∈ (parse {} text "").comments ∧ Node.Shares text first second c ∧
          c ∈ first.trailingComments := by
  intro text
  let ends (n : Node) : Bool :=
    n.parts.all fun x => x.span.stop < n.span.stop && !x.shape.closesLate
  have spans : (pass {} text "" .strict .empty).1.tree?.map (fun _ =>
      ((parse {} text "").program.statements?.map (List.map fun n => (n.span, ends n)),
        (parse {} text "").comments.map Comment.span)) =
      some (some [(⟨0, 2⟩, true), (⟨7, 8⟩, false)], [⟨2, 7⟩]) := by decide +kernel
  obtain ⟨program, accepted, spans⟩ := ParseResult.exists_tree spans
  obtain ⟨statements, comments⟩ := Prod.mk.inj spans
  obtain ⟨body, some, statements⟩ := Option.map_eq_some_iff.mp statements
  obtain ⟨first, rest, rfl, one, statements⟩ := List.map_eq_cons_iff.mp statements
  obtain ⟨second, rest, rfl, two, statements⟩ := List.map_eq_cons_iff.mp statements
  obtain rfl := List.map_eq_nil_iff.mp statements
  obtain ⟨left, parts⟩ := Prod.mk.inj one
  obtain ⟨right, -⟩ := Prod.mk.inj two
  obtain ⟨c, others, found, place, -⟩ := List.map_eq_cons_iff.mp comments
  have there : c ∈ (parse {} text "").comments := found ▸ List.mem_cons_self
  have shared : Node.Shares text first second c := by
    refine parse_shares_comments {} text "" accepted _ (Node.mem_subtree_self _) [] first second []
      some c there ?_ ?_
    · rw [left, place]
    · rw [right, place]
  refine ⟨program, first, second, c, accepted, some, there, shared, shared.whole ?_⟩
  -- The semicolon stands behind the name.
  intro x hx t _ last
  have inside := List.all_eq_true.mp parts x hx
  rw [Bool.and_eq_true, decide_eq_true_eq, Bool.not_eq_true'] at inside
  refine ⟨last ▸ inside.1, fun late => ?_⟩
  rw [inside.2] at late
  cases late

/-- A comment behind a statement without a semicolon may trail a node in the statement and
    not the statement. -/
theorem SyntaxTree.parse_not_shares :
    ¬ ∀ (options : ParseOptions) (text : List Char) (file : String) (program : Node),
      (pass options text file .strict .empty).1 = .tree program →
        ∀ first second, program.statements? = some [first, second] →
          ∀ c ∈ (parse options text file).comments, first.span.stop ≤ c.span.start →
            c.span.stop ≤ second.span.start →
              c ∈ first.trailingComments ∧ c ∈ second.leadingComments := by
  intro shared
  let text := "a\n/*c*/b".toList
  -- The texts are read off one run, and the comment is not trailing there.
  have spans : (pass {} text "" .strict .empty).1.tree?.map (fun program =>
      (program.statements?.map (List.map fun n => (n.span, n.trailingComments)),
        (parse {} text "").comments.map Comment.span)) =
      some (some [(⟨0, 1⟩, []), (⟨7, 8⟩, [])], [⟨2, 7⟩]) := by decide +kernel
  obtain ⟨program, accepted, spans⟩ := ParseResult.exists_tree spans
  obtain ⟨statements, comments⟩ := Prod.mk.inj spans
  obtain ⟨body, some, statements⟩ := Option.map_eq_some_iff.mp statements
  obtain ⟨first, rest, rfl, left, statements⟩ := List.map_eq_cons_iff.mp statements
  obtain ⟨second, rest, rfl, right, statements⟩ := List.map_eq_cons_iff.mp statements
  obtain rfl := List.map_eq_nil_iff.mp statements
  obtain ⟨c, others, found, place, -⟩ := List.map_eq_cons_iff.mp comments
  obtain ⟨start, trailing⟩ := Prod.mk.inj left
  have trails := (shared {} text "" program accepted first second some c
    (found ▸ List.mem_cons_self) (by rw [start, place]; decide)
    (by rw [(Prod.mk.inj right).1, place])).1
  rw [trailing] at trails
  cases trails

end ScriptTree

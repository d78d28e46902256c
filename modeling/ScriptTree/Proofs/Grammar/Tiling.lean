import ScriptTree.Proofs.Grammar.Fitting
import ScriptTree.Proofs.Grammar.Stream

/-! # Tiling — the statements of a list and the tokens they are made of

    Where statements tile a row of tokens, each of them reaches from its first token to
    its last one, and the next statement begins with the next token.  No token is left
    out, and since tokens lie one behind the other, none belongs to two statements.

    The statements that a strict parse makes one behind the other tile the tokens
    between its two places: each of them is closed last, behind the last token that was
    taken, and none is skipped, for what is made takes a token. -/

namespace ScriptTree

instance (s t : Span) : Decidable (s.Inside t) :=
  inferInstanceAs (Decidable (t.start ≤ s.start ∧ s.stop ≤ t.stop))

namespace Node

/-- The nodes part the tokens among them, in order: each starts where the first of its
    tokens starts and ends where the last one ends. -/
inductive Tiling : List Node → List Token → Prop where
  | nil : Tiling [] []
  | cons {n : Node} {ns : List Node} {first : Token} {further ts : List Token}
      (start : n.span.start = first.span.start)
      (stop : n.span.stop = (further.getLastD first).span.stop) (rest : Tiling ns ts) :
      Tiling (n :: ns) (first :: (further ++ ts))

variable {ns : List Node} {ts : List Token} {t : Token}

/-- Each node starts with a token. -/
theorem Tiling.starts (h : Tiling ns ts) : ∀ n ∈ ns, ∃ t ∈ ts, n.span.start = t.span.start := by
  induction h with
  | nil => nofun
  | cons start _ _ ih =>
      intro n hn
      rcases List.mem_cons.mp hn with rfl | hn
      · exact ⟨_, List.mem_cons_self, start⟩
      · obtain ⟨t, ht, same⟩ := ih n hn
        exact ⟨t, List.mem_cons_of_mem _ (List.mem_append_right _ ht), same⟩

/-- One token of a group is the last one, and the others end before it. -/
theorem stop_le_getLastD {first : Token} {further : List Token}
    (ordered : (first :: further).Pairwise fun t u => t.span.Before u.span)
    (forward : ∀ t ∈ first :: further, t.span.start ≤ t.span.stop) :
    ∀ t ∈ first :: further, t.span.stop ≤ (further.getLastD first).span.stop := by
  induction further generalizing first with
  | nil =>
      intro t ht
      rw [List.mem_singleton.mp ht]
      exact Nat.le_refl _
  | cons second further ih =>
      obtain ⟨before, ordered⟩ := List.pairwise_cons.mp ordered
      have later := ih ordered fun t ht => forward t (List.mem_cons_of_mem _ ht)
      rw [List.getLastD_cons]
      intro t ht
      rcases List.mem_cons.mp ht with rfl | ht
      · have behind : t.span.stop ≤ second.span.start := before second List.mem_cons_self
        have reaches := forward second (List.mem_cons_of_mem _ List.mem_cons_self)
        exact Nat.le_trans behind (Nat.le_trans reaches (later second List.mem_cons_self))
      · exact later t ht

section

variable {n : Node} {first : Token} {further : List Token}

/-- The tokens that a node is made of lie in it. -/
theorem inside_of_group (start : n.span.start = first.span.start)
    (stop : n.span.stop = (further.getLastD first).span.stop)
    (ordered : (first :: further).Pairwise fun t u => t.span.Before u.span)
    (nonempty : ∀ t ∈ first :: further, t.span.start < t.span.stop) :
    ∀ t ∈ first :: further, t.span.Inside n.span := by
  intro t ht
  have ends := stop_le_getLastD ordered (fun u hu => Nat.le_of_lt (nonempty u hu)) t ht
  refine ⟨?_, stop ▸ ends⟩
  rw [start]
  rcases List.mem_cons.mp ht with rfl | later
  · exact Nat.le_refl _
  · have before : first.span.stop ≤ t.span.start := (List.pairwise_cons.mp ordered).1 t later
    exact Nat.le_trans (Nat.le_of_lt (nonempty first List.mem_cons_self)) before

/-- One that stands behind them does not. -/
theorem not_inside_of_behind (stop : n.span.stop = (further.getLastD first).span.stop)
    (behind : ∀ u ∈ first :: further, u.span.Before t.span)
    (nonempty : t.span.start < t.span.stop) : ¬ t.span.Inside n.span := by
  intro inside
  have before : (further.getLastD first).span.stop ≤ t.span.start :=
    behind _ List.getLastD_mem_cons
  have reaches := inside.2
  omega

end

/-- A token in front of all tokens of a tiling lies in none of its nodes. -/
theorem Tiling.not_inside (h : Tiling ns ts) (before : ∀ u ∈ ts, t.span.Before u.span)
    (nonempty : t.span.start < t.span.stop) : ∀ n ∈ ns, ¬ t.span.Inside n.span := by
  intro n hn inside
  obtain ⟨u, hu, same⟩ := h.starts n hn
  have before : t.span.stop ≤ u.span.start := before u hu
  have starts := inside.1
  omega

/-- Each token lies in one of the nodes that tile them and in no other. -/
theorem Tiling.countP_inside (h : Tiling ns ts)
    (ordered : ts.Pairwise fun t u => t.span.Before u.span)
    (nonempty : ∀ t ∈ ts, t.span.start < t.span.stop) :
    ∀ t ∈ ts, ns.countP (fun n => t.span.Inside n.span) = 1 := by
  induction h with
  | nil => nofun
  | @cons n ns first further ts start stop rest ih =>
      rw [← List.cons_append] at ordered nonempty ⊢
      obtain ⟨group, behind, apart⟩ := List.pairwise_append.mp ordered
      obtain ⟨some, later⟩ := List.forall_mem_append.mp nonempty
      intro t ht
      rcases List.mem_append.mp ht with ht | ht
      -- It is one of the first node, and every other node starts behind it.
      · have inside := inside_of_group start stop group some t ht
        have none : ns.countP (fun n => t.span.Inside n.span) = 0 :=
          List.countP_eq_zero.mpr fun m hm there =>
            rest.not_inside (apart t ht) (some t ht) m hm (of_decide_eq_true there)
        rw [List.countP_cons_of_pos (by simpa using inside), none]
      -- It is one of a later node, and the first one ends in front of it.
      · have outside := not_inside_of_behind stop (fun u hu => apart u hu t ht) (later t ht)
        rw [List.countP_cons_of_neg (by simpa using outside)]
        exact ih behind later t ht

end Node

/-! ## Statements in a row -/

section

variable {σ : Type} {text : List Char} {lines : LineIndex} {w : Observer σ}
  {made : Progress σ → List Node → Progress σ → Prop} {p q : Progress σ} {n : Node}
  {ns : List Node}

/-- A statement that is closed last reaches from the token it began with to the last one
    that was taken. -/
theorem Progress.Seals.span (seals : Seals ⟨.strict, lines, w⟩ p.situation.token.span.start n q)
    (laid : Laid text p.situation [n] q.situation) :
    n.span = ⟨p.situation.token.span.start, q.situation.previousEnd⟩ := by
  obtain ⟨o, shape, r, start, -, -, same, still⟩ := seals
  have span : n.span = ⟨o.start, max r.situation.previousEnd o.start⟩ := by rw [same]; rfl
  have reaches : p.situation.token.span.start < n.span.stop :=
    laid.reaches n (List.mem_singleton_self n)
  have last : q.situation.previousEnd = r.situation.previousEnd := still.samePlace.previousEnd
  have stop : max r.situation.previousEnd o.start = r.situation.previousEnd := by
    rw [span, ← start] at reaches
    simp only at reaches
    omega
  rw [span, stop, start, last]

/-- Statements that a strict parse makes in a row tile the tokens that it takes. -/
theorem Progress.Series.tiles (series : Series ⟨.strict, lines, w⟩ made p ns q)
    (nested : ∀ {p ns q}, made p ns q → Nested text p ns q)
    (stands : ∀ {p ns q}, made p ns q → p.situation.StandsIn text → q.situation.StandsIn text)
    (here : p.situation.StandsIn text) : q.situation.StandsIn text ∧ ∃ group,
      p.situation.ahead = group ++ q.situation.ahead ∧
        Node.Tiling ns (group.map Lexeme.token) := by
  induction series with
  | nil p => exact ⟨here, [], rfl, .nil⟩
  | @cons p q r n ns first seals _ ih =>
      have laid := (nested first).laid here.lies
      have span := (seals rfl).span laid
      obtain ⟨there, group, ahead, tiling⟩ := ih (stands first here)
      have reaches := laid.reaches n (List.mem_singleton_self n)
      obtain ⟨further, front, last⟩ := here.between (stands first here) (by rwa [span] at reaches)
      refine ⟨there, p.situation.current :: (further ++ group), ?_, ?_⟩
      · rw [front, ahead]
        simp
      · rw [List.map_cons, List.map_append]
        exact .cons (by rw [span]; rfl) (by rw [span]; exact last.symm) tiling
  | @skip p q r n ns first none _ _ =>
      -- What was made would reach behind the token that it stands at.
      have laid := (nested first).laid here.lies
      have still := (laid.still none).2
      have reaches := laid.reaches n (List.mem_singleton_self n)
      have inside := (laid.inside n (List.mem_singleton_self n)).2
      have behind := here.lies.behind
      omega

end

end ScriptTree

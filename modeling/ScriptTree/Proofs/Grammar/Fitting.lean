import ScriptTree.Proofs.Grammar.Nesting

/-! # Fitting — where the parts of broken trees lie

    A node for missing text stands behind the last token that was taken, which may be
    in front of the node that it is part of; but it covers nothing.  What covers
    something was read between two places of a parse, of a loose one as well, and lies
    in its parent.  Only what expressions and patterns take in turn is left out: the
    default of a property may start with a missing name. -/

namespace ScriptTree

/-- The span lies in the other one. -/
def Span.Inside (s t : Span) : Prop := t.start ≤ s.start ∧ s.stop ≤ t.stop

namespace Node

variable {n m : Node}

/-- Parts that cover something lie in the node. -/
def Fits (n : Node) : Prop := n.shape.isExchanged = false →
  ∀ x ∈ n.parts, x.span.start < x.span.stop → x.span.Inside n.span

/-- So it is with all nodes of the tree. -/
def FitsBelow (n : Node) : Prop := ∀ m ∈ n.subtree, m.Fits

/-- What lies below a part fits too. -/
theorem FitsBelow.part (h : n.FitsBelow) {x : Node} (hx : x ∈ n.parts) : x.FitsBelow :=
  fun m hm => h m (subtree_subset_of_part hx hm)

/-- A node without parts. -/
theorem fitsBelow_of_leaf (leaf : n.parts = []) : n.FitsBelow := by
  refine forall_subtree (fun _ x hx => ?_) fun x hx => ?_
  · rw [leaf] at hx
    cases hx
  · rw [leaf] at hx
    cases hx

/-- A pattern has the parts of the expression it was, or of those it may exchange. -/
theorem fitsBelow_toPattern (n : Node) :
    n.toPattern.span = n.span ∧ (n.FitsBelow → n.toPattern.FitsBelow) := by
  refine (toPattern_induction (motive := fun n m => m.span = n.span ∧ (n.FitsBelow → m.FitsBelow))
    (fun _ => ⟨rfl, id⟩) (fun n m recast => ?_) n).1
  refine ⟨recast.span, fun h => forall_subtree (fun plain => ?_) fun y hy => ?_⟩
  · rw [recast.exchanged.2] at plain
    cases plain
  · obtain ⟨x, hx, -, below⟩ := exists_related recast.parts hy
    exact below (h.part hx)

end Node

section

variable {text : List Char} {p q r : Situation} {n : Node} {ns ms : List Node}

/-- Nodes that cover something lie between two places of a parse. -/
structure Fitted (text : List Char) (p : Situation) (ns : List Node) (q : Situation) : Prop where
  laid : Laid text p [] q
  inside : ∀ n ∈ ns, n.span.start < n.span.stop →
    n.span.Inside ⟨p.token.span.start, q.previousEnd⟩
  fits : ∀ n ∈ ns, n.FitsBelow

namespace Fitted

/-- Nothing was made, so nothing has to fit. -/
theorem nothing (laid : Laid text p [] q) : Fitted text p [] q := ⟨laid, nofun, nofun⟩

/-- Two rows of nodes in turn. -/
theorem append (h : Fitted text p ns q) (k : Fitted text q ms r) : Fitted text p (ns ++ ms) r where
  laid := h.laid.append k.laid
  inside n hn covers := by
    rcases List.mem_append.mp hn with hn | hn
    · obtain ⟨start, stop⟩ := h.inside n hn covers
      exact ⟨start, Nat.le_trans stop (k.laid.previousEnd_le h.laid.lies)⟩
    · obtain ⟨start, stop⟩ := k.inside n hn covers
      exact ⟨Nat.le_trans h.laid.start_le start, stop⟩
  fits n hn := (List.mem_append.mp hn).elim (h.fits n) (k.fits n)

/-- What was made may be left out. -/
theorem drop (h : Fitted text p ns q) : Fitted text p [] q := nothing h.laid

/-- A single node is put in the place of those that were made. -/
theorem single (h : Laid text p [] q) (fits : n.FitsBelow)
    (inside : n.span.start < n.span.stop → n.span.Inside ⟨p.token.span.start, q.previousEnd⟩) :
    Fitted text p [n] q where
  laid := h
  inside _ hm := List.mem_singleton.mp hm ▸ inside
  fits _ hm := List.mem_singleton.mp hm ▸ fits

/-- A node is closed over its parts: it reaches from the token where it was opened to
    the last one that was taken. -/
theorem close (h : Fitted text p ns q) (start : n.span.start = p.token.span.start)
    (stop : n.span.stop = max q.previousEnd n.span.start)
    (parts : n.shape.isExchanged = false → n.parts = ns) (fits : ∀ x ∈ n.parts, x.FitsBelow) :
    Fitted text p [n] q := by
  refine single h.laid (Node.forall_subtree (fun plain x hx covers => ?_) fits) fun covers => ?_
  · obtain ⟨left, right⟩ := h.inside x (parts plain ▸ hx) covers
    exact ⟨start ▸ left, stop ▸ Nat.le_trans right (Nat.le_max_left _ _)⟩
  · have right : n.span.stop ≤ q.previousEnd := by omega
    exact ⟨Nat.le_of_eq start.symm, right⟩

end Fitted

end

section

variable {σ : Type} {setting : Setting σ} {text : List Char} {p q r s : Progress σ}
  {ns ms : List Node} {own : Bool} {o : Grammar.Opened}

/-- Nodes that came about between two places of a parse lie between them. -/
structure Fitting (text : List Char) (p : Progress σ) (ns : List Node) (q : Progress σ) :
    Prop where
  forward : p.situation.consumed ≤ q.situation.consumed
  fitted : p.situation.LiesIn text → Fitted text p.situation ns q.situation

namespace Fitting

/-- Two rows of parts in turn. -/
theorem append (h : Fitting text p ns q) (k : Fitting text q ms r) :
    Fitting text p (ns ++ ms) r where
  forward := Nat.le_trans h.forward k.forward
  fitted lies := (h.fitted lies).append (k.fitted (h.fitted lies).laid.lies)

/-- Parts may be dropped. -/
theorem drop (h : Fitting text p ns q) : Fitting text p [] q :=
  ⟨h.forward, fun lies => (h.fitted lies).drop⟩

/-- Nothing happens. -/
theorem refl (p : Progress σ) : Fitting text p [] p :=
  ⟨Nat.le_refl _, fun lies => .nothing (.refl lies)⟩

/-- A token is taken. -/
theorem taken (p : Progress σ) : Fitting text p [] (p.taken setting) := by
  refine ⟨p.consumed_le_taken, fun lies => ?_⟩
  rw [Progress.situation_taken]
  exact .nothing (.taken lies)

/-- Opening a node makes nothing. -/
theorem of_opens (h : p.Opens setting own o q) : Fitting text p [] q := by
  obtain ⟨same, -⟩ := h.place
  refine ⟨Nat.le_of_eq (congrArg _ same.symm), fun lies => .nothing ?_⟩
  rw [same]
  exact .refl lies

/-- A node that was opened is closed, behind which nothing was made yet. -/
theorem close {shape : Shape Node} (opens : p.Opens setting own o q) (h : Fitting text q ns r)
    (behind : Fitting text r [] s) (parts : shape.isExchanged = false → shape.parts = ns)
    (fits : q.situation.LiesIn text → ∀ x ∈ shape.parts, x.FitsBelow) :
    let closed := s.closeAt setting o shape r.situation.previousEnd
    Fitting text p [closed.1] closed.2 := by
  intro closed
  obtain ⟨same, start⟩ := opens.place
  refine ⟨same ▸ Nat.le_trans h.forward behind.forward, fun lies => ?_⟩
  have inside := h.fitted (same ▸ lies)
  have below := fits (same ▸ lies)
  rw [same] at inside
  exact (inside.close (n := closed.1) start rfl parts below).append
    (behind.fitted inside.laid.lies)

/-- A node that is closed fits around its parts. -/
theorem closed {shape : Shape Node} (opens : p.Opens setting own o q)
    (complete : Progress.Completes setting (Fitting text) own p q shape ns r s) :
    let closed := s.closeAt setting o shape r.situation.previousEnd
    Fitting text p [closed.1] closed.2 := by
  refine .close opens complete.below complete.behind (fun _ => complete.covers.2)
    fun lies x hx => ?_
  exact (complete.below.fitted lies).fits x (complete.covers.2 ▸ hx)

/-- The text of a chunk lies inside of the token that was taken. -/
theorem chunk {raw : String} {isTail : Bool}
    (read : Grammar.templateChunk? p.situation.token.kind = some (raw, isTail)) :
    let start := p.situation.token.span.start + 1
    let closed := (p.taken setting).closeAt setting (Grammar.openedAt start)
      (.templateElement raw isTail) (start + raw.utf8ByteSize)
    Fitting text p [closed.1] closed.2 := by
  intro start closed
  have taken : Fitting text p [] (p.taken setting) := .taken p
  refine ⟨taken.forward, fun lies => .single (taken.fitted lies).laid
    (Node.fitsBelow_of_leaf rfl) fun _ => ?_⟩
  have reaches := (lies.token.chunk raw isTail read).2
  have span : closed.1.span = ⟨start, start + raw.utf8ByteSize⟩ :=
    congrArg (Span.mk start) (Nat.max_eq_left (Nat.le_add_right _ _))
  have stop : closed.2.situation.previousEnd = p.situation.token.span.stop := by
    show (p.taken setting).situation.previousEnd = _
    rw [Progress.situation_taken,
      Situation.previousEnd_taken (Token.isEnd_of_reading rfl read)]
  rw [span, stop]
  exact ⟨Nat.le_succ _, reaches⟩

/-- What a name and its value are made of lies between the places as well. -/
theorem of_twin {key value : Node} (name : key.identifierName?.isSome = true)
    (twin : p.Twin setting (Fitting text) key value q) : Fitting text p [] q ∧
      (p.situation.LiesIn text → ∀ x ∈ [key, value], x.FitsBelow) := by
  have leaf := Node.parts_of_identifierName? name
  have detached : key.detached.FitsBelow := Node.fitsBelow_of_leaf leaf
  have both {x y : Node} (hx : x.FitsBelow) (hy : y.FitsBelow) : ∀ z ∈ [x, y], z.FitsBelow := by
    intro z hz
    rcases List.mem_pair.mp hz with rfl | rfl
    · exact hx
    · exact hy
  cases twin with
  | name named => exact ⟨named.drop, fun _ => both (Node.fitsBelow_of_leaf leaf) detached⟩
  | @default q r _ _ named _ behind closes =>
      subst closes
      have made : Fitting text p [] r := named.drop.append behind.drop
      refine ⟨⟨made.forward, made.fitted⟩, fun lies => both (Node.fitsBelow_of_leaf leaf) ?_⟩
      have right := (behind.fitted (named.fitted lies).laid.lies).fits _ (List.mem_singleton_self _)
      exact Node.forall_subtree nofun (both detached right)

end Fitting

/-- Fitting keeps up with every parse. -/
def fitting (text : List Char) (setting : Setting σ) : Assembly setting where
  Made := Fitting text
  still h := by
    obtain ⟨depth, inFunction, rfl⟩ := h
    exact ⟨Nat.le_refl _, fun lies => .nothing (.of_still ⟨lies.placed, lies.boundary, lies.behind⟩
      rfl rfl rfl)⟩
  append := .append
  forward := Fitting.forward
  taken := .taken
  opened _ opens := .of_opens opens
  closed opens complete _ := .closed opens complete
  headed := Progress.headed_of_closed .append .refl .closed
  -- Both halves may be one node, so they need not follow each other; they fit all the same.
  shorthand opens name twin :=
    have ⟨made, below⟩ := Fitting.of_twin name twin
    .close opens made (.refl _) nofun below
  chunk := .chunk
  filler _ leaf _ _ :=
    ⟨Nat.le_refl _, fun lies => .single (.refl lies) (Node.fitsBelow_of_leaf leaf)
      fun covers => absurd covers (Nat.lt_irrefl _)⟩
  dropped h _ := h.drop
  word _ word next := word.taken.drop.append next
  staticAccessor opens word second parts _ := by
    -- The words are dropped, so only the name and the function have to fit.
    have whole := (word.taken.drop.append second.taken.drop).append parts
    exact .close opens whole (.refl _) (fun _ => rfl) fun lies => (whole.fitted lies).fits
  reinterpreted h := by
    refine ⟨h.forward, fun lies => ⟨(h.fitted lies).laid, fun m hm => ?_, fun m hm => ?_⟩⟩
    · obtain ⟨n, hn, rfl⟩ := List.mem_map.mp hm
      rw [n.fitsBelow_toPattern.1]
      exact (h.fitted lies).inside n hn
    · obtain ⟨n, hn, rfl⟩ := List.mem_map.mp hm
      exact n.fitsBelow_toPattern.2 ((h.fitted lies).fits n hn)

/-- In every tree, of a broken text as well, parts that cover something lie in their
    nodes. -/
theorem parseText_fitsBelow {mode : Mode} {lines : LineIndex} {w : Observer σ} {observed a : σ}
    {program : Node} (h : parseText mode text lines w observed = (.tree program, a)) :
    program.FitsBelow := by
  obtain ⟨first, rest, body, q, lexemes, series, -, closed, -⟩ :=
    parseText_made (fitting text ⟨mode, lines, w⟩) h
  have made : Fitting text _ body q := series.made
  have fitted := made.fitted (entry_liesIn lexemes)
  have span : program.span = ⟨0, Text.byteLength text⟩ := by
    rw [closed]
    exact congrArg (Span.mk 0) (Nat.max_eq_left (Nat.zero_le _))
  have parts : program.parts = body := by rw [closed]; rfl
  refine Node.forall_subtree (fun _ x hx covers => ?_) (parts ▸ fitted.fits)
  rw [span]
  have inside := fitted.inside x (parts ▸ hx) covers
  exact ⟨Nat.zero_le _, Nat.le_trans inside.2 fitted.laid.lies.boundary.le_byteLength⟩

end

end ScriptTree

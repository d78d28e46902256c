import ScriptTree.Proofs.Assembly.Program
import ScriptTree.Proofs.Lexeme.Place

/-! # Nesting — where the nodes of a strict parse lie

    A parse goes along tokens that lie one behind the other.  What is made between two
    places of a strict parse lies between the start of the token at the first one and
    the end of the last token that was taken before the second one; where no token was
    taken, both places are the same.  So nodes made one after the other lie one behind
    the other, and a node that is closed over them lies over all of them. -/

namespace ScriptTree

/-! ## Places of a parse -/

/-- The parse stands in the text, behind the last token that it took. -/
structure Situation.LiesIn (s : Situation) (text : List Char) : Prop where
  placed : Lexeme.Placed s.ahead text
  boundary : Text.Boundary text s.previousEnd
  behind : s.previousEnd ≤ s.token.span.start

namespace Situation.LiesIn

variable {text : List Char} {s : Situation}

/-- The current token lies in the text. -/
theorem token (h : s.LiesIn text) : s.token.LiesIn text :=
  h.placed.tokens _ List.mem_cons_self

/-- So does the next one. -/
theorem taken (h : s.LiesIn text) : s.taken.LiesIn text := by
  cases goes : s.token.isEnd with
  | true =>
      rw [taken_of_isEnd goes]
      exact h
  | false =>
      have upcoming := upcoming_eq h.placed.terminated goes
      obtain ⟨behind, ordered⟩ := List.pairwise_cons.mp h.placed.ordered
      have next := h.placed.terminated.tail goes
      rw [upcoming] at next behind ordered
      refine ⟨⟨next, ordered, fun t ht => h.placed.tokens t ?_⟩, ?_, ?_⟩
      · rw [ahead, upcoming]
        exact List.mem_cons_of_mem _ ht
      · rw [previousEnd_taken goes]
        exact h.token.span.stop
      · rw [previousEnd_taken goes]
        exact behind _ List.mem_cons_self

end Situation.LiesIn

/-! ## Nodes over their children -/

/-- One span ends before the other starts, and they are not the same place. -/
def Span.Precedes (s t : Span) : Prop := s.stop ≤ t.start ∧ s.start < t.stop

namespace Node

variable {text : List Char} {n m : Node}

/-- Where the node lies, and whether it may lie there without covering anything. -/
def extent (n : Node) : Span × Bool := (n.span, n.shape.closesLate)

/-- The node covers something, unless its shape says that it need not. -/
def CoversText (n : Node) : Prop := n.shape.closesLate = false → n.span.start < n.span.stop

/-- A node that keeps its extent covers the same text. -/
theorem CoversText.of_extent (h : n.CoversText) (same : m.extent = n.extent) : m.CoversText := by
  obtain ⟨span, late⟩ := Prod.mk.inj same
  rw [CoversText, span, late]
  exact h

/-- The node lies in the text and over its children, which lie one behind the other. -/
structure Nests (n : Node) (text : List Char) : Prop where
  span : n.span.LiesIn text
  inside : ∀ c ∈ n.children, n.span.start ≤ c.span.start ∧ c.span.stop ≤ n.span.stop
  ordered : n.children.Pairwise fun c d => c.span.Precedes d.span
  covers : ∀ c ∈ n.children, c.CoversText

/-- All nodes of the tree lie over their children. -/
def NestsBelow (n : Node) (text : List Char) : Prop := ∀ m ∈ n.subtree, m.Nests text

/-- A node nests its own children. -/
theorem NestsBelow.self (h : n.NestsBelow text) : n.Nests text := h n n.mem_subtree_self

/-- So do those below it. -/
theorem NestsBelow.part (h : n.NestsBelow text) {x : Node} (hx : x ∈ n.parts) :
    x.NestsBelow text :=
  fun m hm => h m (subtree_subset_of_part hx hm)

/-- Lists of nodes that lie at the same places are ordered alike. -/
theorem precedes_of_extents {ns ms : List Node} (h : ns.Pairwise fun c d => c.span.Precedes d.span)
    (same : ms.map extent = ns.map extent) : ms.Pairwise fun c d => c.span.Precedes d.span := by
  have ordered {xs : List Node} : xs.Pairwise (fun c d => c.span.Precedes d.span) ↔
      (xs.map extent).Pairwise fun c d => c.1.Precedes d.1 := by
    rw [List.pairwise_map]
    rfl
  exact ordered.mpr (same ▸ ordered.mp h)

/-- For each of them there is one at the same place. -/
theorem exists_of_extents {ns ms : List Node} (same : ms.map extent = ns.map extent) {m : Node}
    (hm : m ∈ ms) : ∃ n ∈ ns, m.extent = n.extent := by
  have there : m.extent ∈ ns.map extent := same ▸ List.mem_map_of_mem hm
  obtain ⟨n, hn, same⟩ := List.mem_map.mp there
  exact ⟨n, hn, same.symm⟩

/-- Only places count. -/
theorem Nests.of_extents (h : n.Nests text) (span : m.span = n.span)
    (children : m.children.map extent = n.children.map extent) : m.Nests text where
  span := span ▸ h.span
  inside c hc := by
    obtain ⟨d, hd, same⟩ := exists_of_extents children hc
    have place : c.span = d.span := congrArg Prod.fst same
    rw [span, place]
    exact h.inside d hd
  ordered := precedes_of_extents h.ordered children
  covers c hc := by
    obtain ⟨d, hd, same⟩ := exists_of_extents children hc
    exact (h.covers d hd).of_extent same

/-- A pattern lies where the expression lay. -/
theorem nestsBelow_toPattern (n : Node) (text : List Char) :
    n.toPattern.extent = n.extent ∧ (n.NestsBelow text → n.toPattern.NestsBelow text) := by
  refine (toPattern_induction (motive := fun n m => m.extent = n.extent ∧
    (n.NestsBelow text → m.NestsBelow text)) (fun _ => ⟨rfl, id⟩) (fun n m recast => ?_) n).1
  have late : m.shape.closesLate = n.shape.closesLate := by
    rw [Shape.closesLate_of_isExchanged recast.exchanged.1,
      Shape.closesLate_of_isExchanged recast.exchanged.2]
  refine ⟨Prod.ext recast.span late, fun h => forall_subtree
    (h.self.of_extents recast.span ?_) ?_⟩
  · exact map_eq_of_related recast.children fun _ _ below => below.1
  · intro y hy
    obtain ⟨x, hx, -, below⟩ := exists_related recast.parts hy
    exact below (h.part hx)

end Node

/-! ## What is made between two places -/

section

variable {text : List Char} {p q r : Situation} {n : Node} {ns ms : List Node}

/-- The nodes lie between two places of a parse, one behind the other. -/
structure Laid (text : List Char) (p : Situation) (ns : List Node) (q : Situation) : Prop where
  lies : q.LiesIn text
  forward : p.consumed ≤ q.consumed
  still : q.consumed = p.consumed → q.token = p.token ∧ q.previousEnd = p.previousEnd
  grown : p.consumed < q.consumed → p.token.span.start < q.previousEnd
  nests : ∀ n ∈ ns, n.NestsBelow text
  inside : ∀ n ∈ ns, p.token.span.start ≤ n.span.start ∧ n.span.stop ≤ q.previousEnd
  reaches : ∀ n ∈ ns, p.token.span.start < n.span.stop
  ordered : ns.Pairwise fun m n => m.span.Precedes n.span
  covers : ∀ n ∈ ns, n.CoversText

namespace Laid

/-- No node was made. -/
theorem nothing (lies : q.LiesIn text) (forward : p.consumed ≤ q.consumed)
    (still : q.consumed = p.consumed → q.token = p.token ∧ q.previousEnd = p.previousEnd)
    (grown : p.consumed < q.consumed → p.token.span.start < q.previousEnd) :
    Laid text p [] q :=
  ⟨lies, forward, still, grown, nofun, nofun, nofun, .nil, nofun⟩

/-- Nor was a token taken. -/
theorem of_still (lies : q.LiesIn text) (consumed : q.consumed = p.consumed)
    (token : q.token = p.token) (previousEnd : q.previousEnd = p.previousEnd) :
    Laid text p [] q :=
  nothing lies (Nat.le_of_eq consumed.symm) (fun _ => ⟨token, previousEnd⟩)
    fun more => absurd consumed (Nat.ne_of_gt more)

/-- Between a place and itself nothing is made. -/
theorem refl (lies : p.LiesIn text) : Laid text p [] p := of_still lies rfl rfl rfl

/-- Nor over a token that belongs to no node. -/
theorem taken (lies : p.LiesIn text) : Laid text p [] p.taken := by
  cases goes : p.token.isEnd with
  | true =>
      rw [Situation.taken_of_isEnd goes]
      exact refl lies
  | false =>
      have counted := Situation.consumed_taken goes
      refine nothing lies.taken (by omega) (fun same => by omega) fun _ => ?_
      rw [Situation.previousEnd_taken goes]
      exact lies.token.nonempty goes

/-- The places follow each other. -/
theorem start_le (h : Laid text p ns q) : p.token.span.start ≤ q.token.span.start := by
  rcases Nat.eq_or_lt_of_le h.forward with same | more
  · exact Nat.le_of_eq (congrArg (·.span.start) (h.still same.symm).1.symm)
  · exact Nat.le_trans (Nat.le_of_lt (h.grown more)) h.lies.behind

/-- So do the ends of the tokens before them. -/
theorem previousEnd_le (h : Laid text p ns q) (lies : p.LiesIn text) :
    p.previousEnd ≤ q.previousEnd := by
  rcases Nat.eq_or_lt_of_le h.forward with same | more
  · exact Nat.le_of_eq (h.still same.symm).2.symm
  · exact Nat.le_trans lies.behind (Nat.le_of_lt (h.grown more))

/-- What is made between two places, and then between the second and a third. -/
theorem append (h : Laid text p ns q) (k : Laid text q ms r) : Laid text p (ns ++ ms) r where
  lies := k.lies
  forward := Nat.le_trans h.forward k.forward
  -- If no token was taken on the whole way, none was taken on either part.
  still same := by
    have := h.forward
    have := k.forward
    obtain ⟨token, previousEnd⟩ := h.still (by omega)
    rw [← token, ← previousEnd]
    exact k.still (by omega)
  grown more := by
    -- A token was taken on the first part or on the second.
    rcases Nat.eq_or_lt_of_le k.forward with same | further
    · rw [(k.still same.symm).2]
      exact h.grown (same ▸ more)
    · exact Nat.lt_of_le_of_lt h.start_le (k.grown further)
  nests n hn := (List.mem_append.mp hn).elim (h.nests n) (k.nests n)
  inside n hn := by
    rcases List.mem_append.mp hn with hn | hn
    · exact ⟨(h.inside n hn).1, Nat.le_trans (h.inside n hn).2 (k.previousEnd_le h.lies)⟩
    · exact ⟨Nat.le_trans h.start_le (k.inside n hn).1, (k.inside n hn).2⟩
  reaches n hn := (List.mem_append.mp hn).elim (h.reaches n) fun hn =>
    Nat.lt_of_le_of_lt h.start_le (k.reaches n hn)
  ordered := by
    refine List.pairwise_append.mpr ⟨h.ordered, k.ordered, fun m hm n hn => ?_⟩
    -- What was made first ends in front of the place between, and what was made then begins there.
    have between : m.span.stop ≤ q.token.span.start :=
      Nat.le_trans (h.inside m hm).2 h.lies.behind
    have le := (h.nests m hm).self.span.le
    have first := (k.inside n hn).1
    have last := k.reaches n hn
    exact ⟨by omega, by omega⟩
  covers n hn := (List.mem_append.mp hn).elim (h.covers n) (k.covers n)

/-- What was made may be left out. -/
theorem drop (h : Laid text p ns q) : Laid text p [] q :=
  nothing h.lies h.forward h.still h.grown

/-- A single node between the places is put in the place of those that were made. -/
theorem single (h : Laid text p ns q) (nests : n.NestsBelow text)
    (start : p.token.span.start ≤ n.span.start) (stop : n.span.stop ≤ q.previousEnd)
    (reaches : p.token.span.start < n.span.stop) (covers : n.CoversText) :
    Laid text p [n] q where
  lies := h.lies
  forward := h.forward
  still := h.still
  grown := h.grown
  nests _ hm := List.mem_singleton.mp hm ▸ nests
  inside _ hm := List.mem_singleton.mp hm ▸ ⟨start, stop⟩
  reaches _ hm := List.mem_singleton.mp hm ▸ reaches
  ordered := List.pairwise_singleton _ _
  covers _ hm := List.mem_singleton.mp hm ▸ covers

/-- Other nodes may lie where those that were made lay. -/
theorem replace (h : Laid text p ns q) (nests : ∀ m ∈ ms, m.NestsBelow text)
    (same : ms.map Node.extent = ns.map Node.extent) : Laid text p ms q where
  lies := h.lies
  forward := h.forward
  still := h.still
  grown := h.grown
  nests := nests
  inside m hm := by
    obtain ⟨n, hn, same⟩ := Node.exists_of_extents same hm
    have place : m.span = n.span := congrArg Prod.fst same
    rw [place]
    exact h.inside n hn
  reaches m hm := by
    obtain ⟨n, hn, same⟩ := Node.exists_of_extents same hm
    have place : m.span = n.span := congrArg Prod.fst same
    rw [place]
    exact h.reaches n hn
  ordered := Node.precedes_of_extents h.ordered same
  covers m hm := by
    obtain ⟨n, hn, same⟩ := Node.exists_of_extents same hm
    exact (h.covers n hn).of_extent same

/-- A node is closed over the nodes that were made since its first token: it reaches
    to the last token that was taken. -/
theorem close (h : Laid text p ns q) (lies : p.LiesIn text)
    (start : n.span.start = p.token.span.start)
    (stop : n.span.stop = max q.previousEnd n.span.start) (children : n.children = ns)
    (parts : ∀ x ∈ n.parts, x.NestsBelow text)
    (grew : ns = [] → p.consumed < q.consumed) : Laid text p [n] q := by
  have reaches : p.token.span.start < q.previousEnd := by
    cases ns with
    | nil => exact h.grown (grew rfl)
    | cons first rest =>
        have inside := h.inside first List.mem_cons_self
        exact Nat.lt_of_lt_of_le (h.reaches first List.mem_cons_self) inside.2
  have stop : n.span.stop = q.previousEnd := by omega
  refine h.single (Node.forall_subtree ⟨⟨?_, ?_, ?_⟩, ?_, ?_, ?_⟩ parts) (by omega) (by omega)
    (by omega) fun _ => by omega
  · omega
  · exact start ▸ lies.token.span.start
  · exact stop ▸ h.lies.boundary
  · rw [children, start, stop]
    exact h.inside
  · exact children ▸ h.ordered
  · exact children ▸ h.covers

end Laid

end

/-! ## Strict parses -/

section

variable {σ : Type} {text : List Char} {lines : LineIndex} {w : Observer σ}
  {p q r : Progress σ} {ns ms : List Node} {own : Bool} {o : Grammar.Opened}

/-- What is made between two places of a parse lies between them. -/
structure Nested (text : List Char) (p : Progress σ) (ns : List Node) (q : Progress σ) :
    Prop where
  forward : p.situation.consumed ≤ q.situation.consumed
  laid : p.situation.LiesIn text → Laid text p.situation ns q.situation

/-- Two rows of nested nodes in turn. -/
theorem Nested.append (h : Nested text p ns q) (k : Nested text q ms r) :
    Nested text p (ns ++ ms) r where
  forward := Nat.le_trans h.forward k.forward
  laid lies := (h.laid lies).append (k.laid (h.laid lies).lies)

/-- What was made may be left out. -/
theorem Nested.drop (h : Nested text p ns q) : Nested text p [] q :=
  ⟨h.forward, fun lies => (h.laid lies).drop⟩

/-- A token is taken. -/
theorem Nested.taken (p : Progress σ) : Nested text p [] (p.taken ⟨.strict, lines, w⟩) := by
  refine ⟨p.consumed_le_taken, fun lies => ?_⟩
  rw [Progress.situation_taken]
  exact .taken lies

/-- Nothing happens. -/
theorem Nested.refl (p : Progress σ) : Nested text p [] p :=
  ⟨Nat.le_refl _, fun lies => .refl lies⟩

/-- A node is closed over the nodes that were made since it was opened. -/
theorem Nested.closed {shape : Shape Node} {s : Progress σ}
    (opens : p.Opens ⟨.strict, lines, w⟩ own o q)
    (complete : Progress.Completes ⟨.strict, lines, w⟩ (Nested text) own p q shape ns r s) :
    let closed := s.closeAt ⟨.strict, lines, w⟩ o shape r.situation.previousEnd
    Nested text p [closed.1] closed.2 := by
  intro closed
  obtain ⟨same, start⟩ := opens.place
  have forward := Nat.le_trans complete.below.forward complete.behind.forward
  refine ⟨same ▸ forward, fun lies => ?_⟩
  have inside := complete.below.laid (same ▸ lies)
  rw [same] at inside
  refine .append (inside.close (n := closed.1) lies start rfl complete.covers.1
    (fun x hx => ?_) fun none => ?_) (complete.behind.laid inside.lies)
  · exact inside.nests x (complete.covers.2 ▸ hx)
  · exact complete.grew (.inr ⟨rfl, none⟩)

/-- The text of a chunk lies inside of the token that was taken. -/
theorem Nested.chunk {raw : String} {isTail : Bool}
    (read : Grammar.templateChunk? p.situation.token.kind = some (raw, isTail)) :
    let start := p.situation.token.span.start + 1
    let closed := (p.taken ⟨.strict, lines, w⟩).closeAt ⟨.strict, lines, w⟩
      (Grammar.openedAt start) (.templateElement raw isTail) (start + raw.utf8ByteSize)
    Nested text p [closed.1] closed.2 := by
  intro start closed
  have taken : Nested text p [] (p.taken ⟨.strict, lines, w⟩) := .taken p
  refine ⟨taken.forward, fun lies => ?_⟩
  obtain ⟨inside, reaches⟩ := lies.token.chunk raw isTail read
  have span : closed.1.span = ⟨start, start + raw.utf8ByteSize⟩ :=
    congrArg (Span.mk start) (Nat.max_eq_left (Nat.le_add_right _ _))
  have nests : closed.1.Nests text := ⟨span ▸ inside, nofun, .nil, nofun⟩
  refine (taken.laid lies).single (Node.forall_subtree nests nofun) ?_ ?_ ?_ nofun
  · rw [span]
    exact Nat.le_succ _
  · rw [span, Progress.situation_taken,
      Situation.previousEnd_taken (Token.isEnd_of_reading rfl read)]
    exact reaches
  · rw [span]
    exact Nat.lt_of_lt_of_le (Nat.lt_succ_self _) (Nat.le_add_right _ _)

/-- A name that is its own value lies at the same place twice. -/
theorem Nested.of_twin {key value : Node} (name : key.identifierName?.isSome = true)
    (twin : p.Twin ⟨.strict, lines, w⟩ (Nested text) key value q) :
    Nested text p [value] q ∧ (p.situation.LiesIn text → key.NestsBelow text) := by
  have parts : key.detached.parts = [] := Node.parts_of_identifierName? name
  -- What is known of the key is known of the name without its comments.
  have detach {r : Progress σ} (named : Laid text p.situation [key] r.situation) :
      Laid text p.situation [key.detached] r.situation ∧ key.NestsBelow text := by
    have nests := named.nests key (List.mem_singleton_self _)
    have below : key.detached.NestsBelow text := by
      refine Node.forall_subtree (nests.self.of_extents rfl rfl) fun x hx => ?_
      rw [parts] at hx
      cases hx
    exact ⟨named.replace (fun m hm => List.mem_singleton.mp hm ▸ below) rfl, nests⟩
  cases twin with
  | name named =>
      exact ⟨⟨named.forward, fun lies => (detach (named.laid lies)).1⟩,
        fun lies => (detach (named.laid lies)).2⟩
  | @default r _ right _ named start behind closes =>
      subst closes
      refine ⟨⟨Nat.le_trans named.forward behind.forward, fun lies => ?_⟩,
        fun lies => (detach (named.laid lies)).2⟩
      have both := (detach (named.laid lies)).1.append (behind.laid (named.laid lies).lies)
      exact both.close lies (start rfl) rfl rfl both.nests nofun

/-- Nothing is made while the parse stands still. -/
theorem Nested.still (h : p.Still q) : Nested text p [] q := by
  obtain ⟨depth, inFunction, rfl⟩ := h
  exact ⟨Nat.le_refl _, fun lies => .of_still ⟨lies.placed, lies.boundary, lies.behind⟩
    rfl rfl rfl⟩

/-- A property is closed whose key is its value as well. -/
theorem Nested.shorthand {key value : Node} {kind : PropertyKind} {computed isMethod : Bool}
    (opens : p.Opens ⟨.strict, lines, w⟩ true o q) (name : key.identifierName?.isSome = true)
    (twin : q.Twin ⟨.strict, lines, w⟩ (Nested text) key value r) :
    let closed := r.closeAt ⟨.strict, lines, w⟩ o (.property key value kind computed true isMethod)
      r.situation.previousEnd
    Nested text p [closed.1] closed.2 := by
  intro closed
  obtain ⟨same, start⟩ := opens.place
  obtain ⟨valued, keyed⟩ := Nested.of_twin name twin
  refine ⟨same ▸ valued.forward, fun lies => ?_⟩
  have inside := valued.laid (same ▸ lies)
  have key := keyed (same ▸ lies)
  rw [same] at inside
  refine inside.close (n := closed.1) lies start rfl rfl (fun x hx => ?_) nofun
  rcases List.mem_cons.mp hx with rfl | hx
  · exact key
  · exact inside.nests x hx

/-- A static accessor is closed behind the two words in front of its name. -/
theorem Nested.staticAccessor {first second key value : Node} {kind : MethodKind}
    {computed : Bool} {s t : Progress σ} (opens : p.Opens ⟨.strict, lines, w⟩ true o q)
    (word : Nested text q [first] r) (next : Nested text r [second] s)
    (parts : Nested text s [key, value] t) :
    let closed := t.closeAt ⟨.strict, lines, w⟩ o (.methodDefinition key value kind computed true)
      t.situation.previousEnd
    Nested text p [closed.1] closed.2 := by
  intro closed
  obtain ⟨same, start⟩ := opens.place
  have whole := (word.drop.append next.drop).append parts
  refine ⟨same ▸ whole.forward, fun lies => ?_⟩
  have inside := whole.laid (same ▸ lies)
  rw [same] at inside
  exact inside.close (n := closed.1) lies start rfl rfl inside.nests nofun

/-- Reinterpreting moves no node. -/
theorem Nested.reinterpreted (h : Nested text p ns q) :
    Nested text p (ns.map Node.toPattern) q := by
  refine ⟨h.forward, fun lies => (h.laid lies).replace (fun m hm => ?_) ?_⟩
  · obtain ⟨n, hn, rfl⟩ := List.mem_map.mp hm
    exact (n.nestsBelow_toPattern text).2 ((h.laid lies).nests n hn)
  · rw [List.map_map]
    exact List.map_congr_left fun n _ => (n.nestsBelow_toPattern text).1

/-- Nesting keeps up with every strict parse. -/
def nesting (text : List Char) (lines : LineIndex) (w : Observer σ) :
    Assembly ⟨.strict, lines, w⟩ where
  Made := Nested text
  still := .still
  append := .append
  forward := Nested.forward
  taken := .taken
  opened loose _ := by cases loose
  closed opens complete _ := .closed opens complete
  headed := Progress.headed_of_closed .append .refl .closed
  shorthand := .shorthand
  chunk := .chunk
  filler loose := by cases loose
  dropped h _ := h.drop
  word _ word next := word.taken.drop.append next
  staticAccessor opens word second parts _ := .staticAccessor opens word.taken second.taken parts
  reinterpreted := .reinterpreted

/-- At its first lexeme a parse stands at the start of the text. -/
theorem entry_liesIn {setting : Setting σ} {first : Lexeme} {rest : List Lexeme} {a : σ}
    (lexemes : Lexeme.ofText text = first :: rest) :
    (Progress.entry setting first rest a).situation.LiesIn text := by
  refine ⟨?_, Text.boundary_start text, Nat.zero_le _⟩
  show Lexeme.Placed (first :: rest) text
  exact lexemes ▸ Lexeme.ofText_placed text

end

/-- All nodes of a strict tree lie over their children. -/
theorem parseText_nestsBelow {σ : Type} {text : List Char} {lines : LineIndex} {w : Observer σ}
    {observed : σ} {program : Node}
    (h : (parseText .strict text lines w observed).1 = .tree program) :
    program.NestsBelow text := by
  obtain ⟨first, rest, body, q, lexemes, series, -, closed, -⟩ :=
    parseText_made (nesting text lines w) (Prod.ext h rfl)
  have made : Nested text _ body q := series.made
  have laid := made.laid (entry_liesIn lexemes)
  have stop := Text.boundary_stop text
  have span : program.span = ⟨0, Text.byteLength text⟩ := by
    rw [closed]
    exact congrArg (Span.mk 0) (Nat.max_eq_left (Nat.zero_le _))
  have children : program.children = body := by rw [closed]; rfl
  have parts : program.parts = body := by rw [closed]; rfl
  have self : program.Nests text := by
    refine ⟨?_, fun c hc => ?_, children ▸ laid.ordered, children ▸ laid.covers⟩
    · rw [span]
      exact ⟨Nat.zero_le _, Text.boundary_start text, stop⟩
    · rw [span]
      have inside := laid.inside c (children ▸ hc)
      exact ⟨Nat.zero_le _, Nat.le_trans inside.2 laid.lies.boundary.le_byteLength⟩
  exact Node.forall_subtree self (parts ▸ laid.nests)

/-- Ranges of strict trees nest.  Every node of the tree of a text that the strict
    parser accepts, shorthand keys included, lies in the text between characters and
    over its children, and each child ends before the next one starts. -/
theorem parseText_nests {σ : Type} {text : List Char} {lines : LineIndex} {w : Observer σ}
    {observed : σ} {program : Node}
    (h : (parseText .strict text lines w observed).1 = .tree program) :
    ∀ n ∈ program.subtree, n.span.LiesIn text ∧
      (∀ c ∈ n.children, n.span.start ≤ c.span.start ∧ c.span.stop ≤ n.span.stop) ∧
      n.children.Pairwise fun c d => c.span.Before d.span := by
  intro n hn
  have nests := parseText_nestsBelow h n hn
  exact ⟨nests.span, nests.inside, nests.ordered.imp And.left⟩

/-- The statements, the callee and its arguments, the properties, a key and its value, the
    condition and the body are siblings.  The call lies in parentheses, which its statement
    covers; the key of `b` is no child, and it has the place of the value. -/
theorem parseText_nests_siblings : ∃ program,
    parse .strict "(é(a, {b, c: d}));\nfor (;; e) {}".toList = .tree program ∧
      ((program.subtree.map fun n => n.children.map (·.span)).filter fun spans =>
        1 < spans.length) =
          [[⟨0, 19⟩, ⟨20, 33⟩], [⟨1, 3⟩, ⟨4, 5⟩, ⟨7, 16⟩], [⟨8, 9⟩, ⟨11, 15⟩],
            [⟨11, 12⟩, ⟨14, 15⟩], [⟨28, 29⟩, ⟨31, 33⟩]] ∧
      ∀ n ∈ program.subtree, n.span.LiesIn "(é(a, {b, c: d}));\nfor (;; e) {}".toList ∧
        (∀ c ∈ n.children, n.span.start ≤ c.span.start ∧ c.span.stop ≤ n.span.stop) ∧
        n.children.Pairwise fun c d => c.span.Before d.span := by
  have siblings : (parse .strict "(é(a, {b, c: d}));\nfor (;; e) {}".toList).tree?.map
      (fun program => (program.subtree.map fun n => n.children.map (·.span)).filter fun spans =>
        1 < spans.length) =
          some [[⟨0, 19⟩, ⟨20, 33⟩], [⟨1, 3⟩, ⟨4, 5⟩, ⟨7, 16⟩], [⟨8, 9⟩, ⟨11, 15⟩],
            [⟨11, 12⟩, ⟨14, 15⟩], [⟨28, 29⟩, ⟨31, 33⟩]] := by
    decide +kernel
  obtain ⟨program, accepted, spans⟩ := ParseResult.exists_tree siblings
  exact ⟨program, accepted, spans, parseText_nests accepted⟩

end ScriptTree

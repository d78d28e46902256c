import ScriptTree.Proofs.Grammar.Stream

/-! # Quotation — names, literals and chunks are text of the source

    A leaf is made of a single token, and of one that is written as the leaf says: a
    literal keeps the text of its token, and a name is what its token is called.  The
    chunks of a template lie between delimiters inside of their tokens.  None of it
    changes where text is missing, where a name is read twice, or where an expression
    becomes a pattern, so every leaf of a tree has the text that its span reads. -/

namespace ScriptTree

namespace Node

variable {text : List Char} {n m : Node}

/-- If the node has a text of its own, and does not stand for missing text, then it is the
    text that its span reads. -/
def Quotes (n : Node) (text : List Char) : Prop :=
  ∀ quoted, n.shape.quoted? = some quoted → n.isPlaceholder = false →
    n.span.LiesIn text ∧ quoted = String.ofList (Text.slice text n.span)

/-- A node without words quotes nothing. -/
theorem quotes_of_wordless (h : n.shape.quoted? = none) : n.Quotes text := by
  intro quoted some
  rw [h] at some
  cases some

/-- Shapes that patterns take have no text of their own. -/
theorem quoted?_of_becomes {shape other : Shape Node} (h : shape.Becomes other) :
    other.quoted? = none := by
  cases h <;> rfl

/-- A node that is like another quotes the same. -/
theorem Alike.quotes (h : n.Alike m) (quotes : n.Quotes text) : m.Quotes text := by
  rcases h.shape with same | becomes
  · intro quoted some absent
    rw [h.span]
    refine quotes quoted (same ▸ some) ?_
    rwa [isPlaceholder, identifierName?, ← same]
  · exact quotes_of_wordless (quoted?_of_becomes becomes)

/-- All nodes of a pattern quote the text if those of the expression do. -/
theorem quotes_toPattern (h : ∀ m ∈ n.subtree, m.Quotes text) :
    ∀ m ∈ n.toPattern.subtree, m.Quotes text := by
  intro m hm
  obtain ⟨x, hx, alike⟩ := exists_related n.subtree_toPattern hm
  exact alike.quotes (h x hx)

end Node

section

variable {σ : Type} {setting : Setting σ} {text : List Char} {p q r s : Progress σ}
  {ns ms : List Node} {own : Bool} {o : Grammar.Opened} {shape : Shape Node}

/-- Nodes that came about between two places of a parse quote the text. -/
structure Quoting (text : List Char) (p : Progress σ) (ns : List Node) (q : Progress σ) :
    Prop where
  forward : p.situation.consumed ≤ q.situation.consumed
  stands : p.situation.StandsIn text → q.situation.StandsIn text
  quotes : p.situation.StandsIn text → ∀ n ∈ ns, ∀ m ∈ n.subtree, m.Quotes text

namespace Quoting

/-- Two rows of nodes in turn. -/
theorem append (h : Quoting text p ns q) (k : Quoting text q ms r) :
    Quoting text p (ns ++ ms) r where
  forward := Nat.le_trans h.forward k.forward
  stands := k.stands ∘ h.stands
  quotes stands n hn := (List.mem_append.mp hn).elim (h.quotes stands n)
    (k.quotes (h.stands stands) n)

/-- What was made may be left out. -/
theorem drop (h : Quoting text p ns q) : Quoting text p [] q :=
  ⟨h.forward, h.stands, fun _ => nofun⟩

/-- Nothing happens. -/
theorem refl (p : Progress σ) : Quoting text p [] p := ⟨Nat.le_refl _, id, fun _ => nofun⟩

/-- A token is taken. -/
theorem taken (p : Progress σ) : Quoting text p [] (p.taken setting) := by
  refine ⟨p.consumed_le_taken, fun stands => ?_, fun _ => nofun⟩
  rw [Progress.situation_taken]
  exact stands.taken

/-- Opening a node makes nothing. -/
theorem of_opens (h : p.Opens setting own o q) : Quoting text p [] q := by
  obtain ⟨same, -⟩ := h.place
  exact ⟨Nat.le_of_eq (congrArg _ same.symm), fun stands => same ▸ stands, fun _ => nofun⟩

/-- A node that quotes the text is put in the place of what is below it. -/
theorem single {n : Node} (h : Quoting text p [] q)
    (quotes : p.situation.StandsIn text → n.Quotes text)
    (parts : p.situation.StandsIn text → ∀ x ∈ n.parts, ∀ m ∈ x.subtree, m.Quotes text) :
    Quoting text p [n] q :=
  ⟨h.forward, h.stands, fun stands _ hm => List.mem_singleton.mp hm ▸
    Node.forall_subtree (quotes stands) (parts stands)⟩

/-- What is closed and has a text of its own reaches over the token that it was made of. -/
theorem of_reads {word : String} (reads : q.Reads word r) (stands : q.situation.StandsIn text)
    {span : Span} (start : span.start = q.situation.token.span.start)
    (stop : span.stop = max r.situation.previousEnd span.start) :
    span.LiesIn text ∧ word = String.ofList (Text.slice text span) := by
  have lies := stands.lies.token.span
  have last : span.stop = q.situation.token.span.stop := by
    rw [stop, reads.next, Situation.previousEnd_taken reads.goes, start,
      Nat.max_eq_left lies.le]
  have same : span = q.situation.token.span := by
    obtain ⟨first, behind⟩ := span
    obtain rfl : first = _ := start
    obtain rfl : behind = _ := last
    rfl
  have spelled : q.situation.token.text = String.ofList (Text.slice text span) := by
    rw [same]
    exact Lexeme.ofText_spelledIn stands.current_mem
  refine ⟨same ▸ lies, ?_⟩
  rw [← spelled]
  rcases reads.written with written | named
  · exact written.symm
  · exact (Lexeme.text_of_word? stands.current_mem named).symm

/-- A node that is closed quotes its own words, and its parts theirs. -/
theorem closed (opens : p.Opens setting own o q)
    (complete : Progress.Completes setting (Quoting text) own p q shape ns r s) :
    let closed := s.closeAt setting o shape r.situation.previousEnd
    Quoting text p [closed.1] closed.2 := by
  intro closed
  obtain ⟨same, start⟩ := opens.place
  have whole : Quoting text p [] s :=
    ((of_opens opens).append complete.below.drop).append complete.behind
  refine .single ⟨whole.forward, whole.stands, fun _ => nofun⟩ (fun stands word some _ => ?_)
    fun stands x hx => complete.below.quotes (same ▸ stands) x (complete.covers.2 ▸ hx)
  rw [← same] at start stands
  exact of_reads (complete.reads word some) stands start rfl

/-- The text of a chunk is a piece of the token that was taken. -/
theorem chunk {raw : String} {isTail : Bool}
    (read : Grammar.templateChunk? p.situation.token.kind = some (raw, isTail)) :
    let start := p.situation.token.span.start + 1
    let closed := (p.taken setting).closeAt setting (Grammar.openedAt start)
      (.templateElement raw isTail) (start + raw.utf8ByteSize)
    Quoting text p [closed.1] closed.2 := by
  intro start closed
  have whole : Quoting text p [] (p.taken setting) := .taken p
  refine .single ⟨whole.forward, whole.stands, fun _ => nofun⟩ (fun stands word some _ => ?_)
    fun _ => nofun
  obtain rfl : raw = word := Option.some.inj some
  have span : closed.1.span = ⟨start, start + raw.utf8ByteSize⟩ :=
    congrArg (Span.mk start) (Nat.max_eq_left (Nat.le_add_right _ _))
  rw [span]
  exact ⟨(stands.lies.token.chunk raw isTail read).1,
    Lexeme.slice_chunk stands.current_mem read⟩

/-- What a name and its value are made of quotes the text as well. -/
theorem of_twin {key value : Node} (name : key.identifierName?.isSome = true)
    (twin : p.Twin setting (Quoting text) key value q) : Quoting text p [] q ∧
      (p.situation.StandsIn text → ∀ x ∈ [key, value], ∀ m ∈ x.subtree, m.Quotes text) := by
  have leaf := Node.parts_of_identifierName? name
  -- A name without its comments is as much as the name.
  have both {r : Progress σ} (named : Quoting text p [key] r)
      (stands : p.situation.StandsIn text) : (∀ m ∈ key.subtree, m.Quotes text) ∧
        ∀ m ∈ key.detached.subtree, m.Quotes text := by
    have quotes := named.quotes stands key (List.mem_singleton_self _)
    refine ⟨quotes, Node.forall_subtree (quotes key key.mem_subtree_self) fun x hx => ?_⟩
    rw [show key.detached.parts = [] from leaf] at hx
    cases hx
  cases twin with
  | name named =>
      refine ⟨named.drop, fun stands x hx => ?_⟩
      rcases List.mem_pair.mp hx with rfl | rfl
      · exact (both named stands).1
      · exact (both named stands).2
  | @default q r right _ named _ behind closes =>
      subst closes
      have made : Quoting text p [] r := named.drop.append behind.drop
      refine ⟨⟨made.forward, made.stands, fun _ => nofun⟩, fun stands x hx => ?_⟩
      rcases List.mem_pair.mp hx with rfl | rfl
      · exact (both named stands).1
      · refine Node.forall_subtree (Node.quotes_of_wordless rfl) fun d hd => ?_
        rcases List.mem_pair.mp hd with rfl | rfl
        · exact (both named stands).2
        · exact behind.quotes (named.stands stands) _ (List.mem_singleton_self _)

end Quoting

/-- Quoting keeps up with every parse. -/
def quoting (text : List Char) (setting : Setting σ) : Assembly setting where
  Made := Quoting text
  still h := by
    obtain ⟨depth, inFunction, rfl⟩ := h
    exact ⟨Nat.le_refl _, fun stands => stands.of_same rfl rfl rfl, fun _ => nofun⟩
  append := .append
  forward := Quoting.forward
  taken := .taken
  opened _ opens := .of_opens opens
  closed opens complete _ := .closed opens complete
  headed := Progress.headed_of_closed .append .refl .closed
  -- The two halves quote, and the property has no words of its own.
  shorthand opens name twin := by
    obtain ⟨made, below⟩ := Quoting.of_twin name twin
    have whole := (Quoting.of_opens opens).append made
    have same := opens.place.1
    exact .single ⟨whole.forward, whole.stands, fun _ => nofun⟩
      (fun _ => Node.quotes_of_wordless rfl) fun stands => below (same ▸ stands)
  chunk := .chunk
  filler _ leaf _ missing := by
    refine .single (.refl _) (fun _ word some absent => ?_) fun _ x hx => ?_
    · obtain rfl := missing (Option.isSome_of_eq_some some)
      cases absent
    · rw [Node.parts, Node.bare, leaf] at hx
      cases hx
  dropped h _ := h.drop
  word _ word next := word.taken.drop.append next
  staticAccessor opens word second parts _ := by
    -- Nothing is asked of the words that are dropped.
    have words := word.taken.drop.append second.taken.drop
    have whole := (Quoting.of_opens opens).append (words.append parts.drop)
    have same := opens.place.1
    exact .single ⟨whole.forward, whole.stands, fun _ => nofun⟩
      (fun _ => Node.quotes_of_wordless rfl)
      fun stands => parts.quotes (words.stands (same ▸ stands))
  reinterpreted h := by
    refine ⟨h.forward, h.stands, fun stands m hm => ?_⟩
    obtain ⟨n, hn, rfl⟩ := List.mem_map.mp hm
    exact Node.quotes_toPattern (h.quotes stands n hn)

/-- QUOTATION: in every tree, of a broken text as well, a name that does not stand for
    missing text, the text of a literal and that of a chunk of a template are what the
    text reads between the two ends of the node, which lie between characters; shorthand
    keys and all nodes of patterns are no exception. -/
theorem parseText_quotes {mode : Mode} {lines : LineIndex} {w : Observer σ} {observed : σ}
    {program : Node} (h : (parseText mode text lines w observed).1 = .tree program) :
    ∀ n ∈ program.subtree, ∀ quoted, n.shape.quoted? = some quoted → n.isPlaceholder = false →
      n.span.LiesIn text ∧ quoted = String.ofList (Text.slice text n.span) := by
  obtain ⟨first, rest, body, q, lexemes, series, -, closed, -⟩ :=
    parseText_made (quoting text ⟨mode, lines, w⟩) (Prod.ext h rfl)
  have made : Quoting text _ body q := series.made
  have parts : program.parts = body := by rw [closed]; rfl
  have wordless : program.shape.quoted? = none := by rw [closed]; rfl
  exact Node.forall_subtree (Node.quotes_of_wordless wordless)
    (parts ▸ made.quotes (entry_standsIn lexemes))

end

/-- So it is with keys that are read twice, an object that became a pattern, a reserved word
    for a name, and a template without an end; only missing text has a name of its own. -/
theorem parseText_quotes_template : ∃ program,
    parse .loose "({a,b=1}=c.if+);`ñ${2}z".toList = .tree program ∧
      program.subtree.filterMap (fun n => n.shape.quoted?) =
        ["a", "a", "b", "b", "1", "c", "if", Node.placeholderName, "ñ", "2", "z"] ∧
      ∀ n ∈ program.subtree, ∀ quoted, n.shape.quoted? = some quoted → n.isPlaceholder = false →
        n.span.LiesIn "({a,b=1}=c.if+);`ñ${2}z".toList ∧
          quoted = String.ofList (Text.slice "({a,b=1}=c.if+);`ñ${2}z".toList n.span) := by
  have leaves : (parse .loose "({a,b=1}=c.if+);`ñ${2}z".toList).tree?.map
      (fun program => program.subtree.filterMap fun n => n.shape.quoted?) =
        some ["a", "a", "b", "b", "1", "c", "if", Node.placeholderName, "ñ", "2", "z"] := by
    decide +kernel
  obtain ⟨program, parsed, leaves⟩ := ParseResult.exists_tree leaves
  exact ⟨program, parsed, leaves, parseText_quotes parsed⟩

end ScriptTree

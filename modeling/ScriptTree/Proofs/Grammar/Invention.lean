import ScriptTree.Proofs.Assembly.Holding
import ScriptTree.Proofs.Grammar.Quotation
import ScriptTree.Proofs.Lexeme.Binding

/-! # Invention — what stands in a tree and not in the text

    Where text is missing a loose parse puts a name that no token can have, for the
    character it is written with begins no word.  So a node that is called so was put
    there, and a strict parse, which ends where text is missing, puts none.  It makes a
    node of at least one token, from the start of which the node reaches beyond it; only
    a chunk of a template may be empty between its delimiters, and the program of an
    empty text. -/

namespace ScriptTree

/-! ## No token is called like missing text -/

namespace Lexeme

variable {text : List Char} {l : Lexeme}

/-- No token has the name of missing text for its text. -/
theorem text_ne_placeholderName (h : l ∈ ofText text) :
    l.token.text ≠ Node.placeholderName := by
  refine forall_ofText (motive := fun l => l.token.text ≠ Node.placeholderName)
    (fun s _ written => ?_) l h
  obtain ⟨t, -, ⟨word, read, next⟩ | next⟩ := s.next_cases
  · obtain ⟨piece, reached, -, -⟩ := Scanner.word?_written read
    have spelled : String.ofList piece = Node.placeholderName := by
      rw [← Cursor.textTo_eq reached, ← written, next]
      rfl
    have here : t.cursor.rest = '✖' :: word.cursor.rest := by
      rw [reached.1, ← String.toList_ofList (l := piece), spelled]
      rfl
    rw [Scanner.word?_of_not_ascii here (by decide) (by decide +kernel)] at read
    cases read
  · rw [next] at written
    exact absurd written (show "" ≠ Node.placeholderName by decide)

/-- So none is called so. -/
theorem not_isWritten_placeholderName (h : l ∈ ofText text) :
    ¬ l.token.IsWritten Node.placeholderName := by
  rintro (written | named)
  · exact text_ne_placeholderName h written
  · exact text_ne_placeholderName h (text_of_word? h named)

end Lexeme

/-! ## Nodes that stand for missing text -/

namespace Node

variable {mode : Mode} {text : List Char} {n m : Node}

/-- If the node is called like missing text, then it stands for it in a loose parse. -/
def Founded (mode : Mode) (n : Node) : Prop :=
  n.isPlaceholder = true → mode = .loose ∧ ∃ offset, n = .placeholder offset

/-- A placeholder is an identifier with the name that nothing is called by. -/
theorem shape_of_isPlaceholder (h : n.isPlaceholder = true) :
    n.shape = .identifier placeholderName := by
  have named : n.identifierName? = some placeholderName := eq_of_beq h
  obtain ⟨shape, span, leading, trailing⟩ := n
  cases shape with
  | identifier name => exact congrArg Shape.identifier (Option.some.inj named)
  | _ => cases named

/-- A node of another shape is founded in either mode. -/
theorem founded_of_shape (h : n.shape ≠ .identifier placeholderName) : n.Founded mode :=
  fun called => absurd (shape_of_isPlaceholder called) h

/-- So is one without words. -/
theorem founded_of_wordless (h : n.shape.quoted? = none) : n.Founded mode :=
  founded_of_shape fun called => by simp [called, Shape.quoted?] at h

/-- A node that is like a founded one is founded. -/
theorem Alike.founded (h : n.Alike m) (founded : n.Founded mode) : m.Founded mode := by
  rcases h.shape with same | becomes
  · intro called
    have called : n.isPlaceholder = true := by
      rwa [isPlaceholder, identifierName?, same] at called
    obtain ⟨loose, offset, rfl⟩ := founded called
    obtain ⟨shape, span, leading, trailing⟩ := m
    obtain ⟨rfl, rfl, rfl, -⟩ := h
    obtain rfl := same
    exact ⟨loose, offset, rfl⟩
  · exact founded_of_wordless (quoted?_of_becomes becomes)

/-- A node that can be read as a name has words. -/
theorem quoted?_of_identifierName? (h : n.identifierName?.isSome = true) :
    n.shape.quoted? ≠ none := by
  obtain ⟨shape, span, leading, trailing⟩ := n
  cases shape <;> first | exact Option.some_ne_none _ | cases h

/-- A name without its comments is as much as the name. -/
theorem Founded.detached (h : n.Founded mode) : n.detached.Founded mode := by
  intro called
  obtain ⟨loose, offset, rfl⟩ := h called
  exact ⟨loose, offset, rfl⟩

/-- The node is a chunk of a template. -/
def IsChunk (n : Node) : Prop := ∃ raw isTail, n.shape = .templateElement raw isTail

/-- The node covers something, if it is no chunk. -/
def Extends (n : Node) : Prop := n.IsChunk ∨ n.span.start < n.span.stop

/-- A node that is like another one extends as far. -/
theorem Alike.extends (h : n.Alike m) (covers : n.Extends) : m.Extends := by
  rcases covers with ⟨raw, isTail, chunk⟩ | covers
  · rcases h.shape with same | becomes
    · exact .inl ⟨raw, isTail, same.trans chunk⟩
    · rw [chunk] at becomes
      cases becomes
  · exact .inr (h.span ▸ covers)

end Node

/-! ## What every parse keeps up -/

section

variable {σ : Type} {text : List Char} {lines : LineIndex} {w : Observer σ}

/-- What is closed and called by a name was read from a token. -/
theorem founded_keeps (text : List Char) (setting : Setting σ) :
    (quoting text setting).Keeps (fun p => p.situation.StandsIn text)
      (Node.Founded setting.mode) where
  onward made := made.stands
  beside same stands := same ▸ stands
  drop made := made.drop
  closes := .closed
  closed {_ _ _ shape _ _ _ _} opens complete stands := by
    refine Node.founded_of_shape fun (called : shape = _) => ?_
    rw [← opens.place.1] at stands
    have written := (complete.reads _ (congrArg Shape.quoted? called)).written
    exact Lexeme.not_isWritten_placeholderName stands.current_mem written
  wordless _ _ _ none := Node.founded_of_wordless none
  default _ _ _ none := Node.founded_of_wordless none
  chunk _ _ := Node.founded_of_shape nofun
  filler loose missing called := by
    have named : _ = Shape.identifier Node.placeholderName := Node.shape_of_isPlaceholder called
    obtain rfl := missing (congrArg (·.quoted?.isSome) named)
    exact ⟨loose, _, rfl⟩
  detached founded := founded.detached
  alike alike := alike.founded

/-- What starts with a token reaches beyond its start. -/
theorem extends_keeps (text : List Char) (lines : LineIndex) (w : Observer σ) :
    (nesting text lines w).Keeps (fun p => p.situation.LiesIn text) Node.Extends where
  onward made lies := (made.laid lies).lies
  beside same lies := same ▸ lies
  drop made := made.drop
  closes := .closed
  -- The node reaches beyond its start, since it took a token.
  closed {_ _ _ _ p _ r s} opens complete lies := by
    have made : Nested text p [_] _ := .closed opens complete
    have reaches := (made.laid lies).reaches _ (List.mem_singleton_self _)
    rw [← opens.place.2] at reaches
    exact .inr reaches
  wordless made lies start _ := by
    have reaches := (Nested.laid made lies).reaches _ (List.mem_singleton_self _)
    exact .inr (start ▸ reaches)
  default twin lies name none := by
    -- A default covers the name in front of it, and a bare name has words of its own.
    have reaches := ((Nested.of_twin name twin).1.laid lies).reaches _ (List.mem_singleton_self _)
    cases twin with
    | name _ => exact absurd none (Node.quoted?_of_identifierName? name)
    | default _ start _ closes =>
        subst closes
        rw [← start rfl] at reaches
        exact .inr reaches
  chunk _ _ := .inl ⟨_, _, rfl⟩
  filler loose := by cases loose
  detached covers := covers
  alike alike := alike.extends

/-- All nodes of a tree that are called like missing text stand for it. -/
theorem parseText_founded {mode : Mode} {observed : σ} {program : Node}
    (h : (parseText mode text lines w observed).1 = .tree program) :
    ∀ n ∈ program.subtree, n.Founded mode := by
  obtain ⟨first, rest, body, q, lexemes, series, -, closed, -⟩ :=
    parseText_made (founded_keeps text ⟨mode, lines, w⟩).holding (Prod.ext h rfl)
  have parts : program.parts = body := by rw [closed]; rfl
  have wordless : program.shape.quoted? = none := by rw [closed]; rfl
  exact Node.forall_subtree (Node.founded_of_wordless wordless)
    (parts ▸ series.made.holds (entry_standsIn lexemes))

/-- All nodes below the program of a strict parse cover something, if they are no chunks. -/
theorem parseText_extends {observed : σ} {program : Node}
    (h : (parseText .strict text lines w observed).1 = .tree program) :
    ∀ n ∈ program.subtree, n = program ∨ n.Extends := by
  obtain ⟨first, rest, body, q, lexemes, series, -, closed, -⟩ :=
    parseText_made (extends_keeps text lines w).holding (Prod.ext h rfl)
  have parts : program.parts = body := by rw [closed]; rfl
  exact Node.forall_subtree (.inl rfl) fun x hx m hm =>
    .inr (series.made.holds (entry_liesIn lexemes) x (parts ▸ hx) m hm)

/-- INVENTION: no name and no reserved word of any text is called like missing text, so in
    every tree a node that is called so is one that a loose parse put there, and empty.  A
    tree of a strict parse has no such node, and all its nodes cover some of the text, but
    for the program and for chunks of templates. -/
theorem parseText_invents (text : List Char) (lines : LineIndex) (w : Observer σ) (observed : σ) :
    (∀ t ∈ (lex text).tokens, ∀ word, t.kind.word? = some word →
      t.text = word ∧ word ≠ Node.placeholderName) ∧
    ∀ mode program, (parseText mode text lines w observed).1 = .tree program →
      (∀ n ∈ program.subtree, n.isPlaceholder = true →
        mode = .loose ∧ ∃ offset, n = .placeholder offset) ∧
      (mode = .strict → ∀ n ∈ program.subtree, n.isPlaceholder = false ∧
        (n = program ∨ n.IsChunk ∨ n.span.start < n.span.stop)) := by
  refine ⟨fun t ht word named => ?_, fun mode program h => ⟨parseText_founded h, ?_⟩⟩
  · obtain ⟨l, hl, rfl⟩ := List.mem_map.mp ht
    exact ⟨Lexeme.text_of_word? hl named, fun same =>
      Lexeme.not_isWritten_placeholderName hl (.inr (same ▸ named))⟩
  · rintro rfl n hn
    refine ⟨Bool.eq_false_iff.mpr fun called => ?_, parseText_extends h n hn⟩
    obtain ⟨loose, -⟩ := parseText_founded h n hn called
    cases loose

end

/-- The chunks of a template around its only substitution are empty, and no other node of the
    strict tree is; in the place of an operand that is missing the loose tree has the name. -/
theorem parseText_invents_template :
    (∃ program, parse .strict "`${a}`".toList = .tree program ∧
      program.subtree.map (fun n => n.span.length) = [6, 6, 6, 0, 1, 0] ∧
      ∀ n ∈ program.subtree, n.isPlaceholder = false ∧
        (n = program ∨ n.IsChunk ∨ n.span.start < n.span.stop)) ∧
    ∃ program, parse .loose "f(+)".toList = .tree program ∧
      program.subtree.map (fun n => n.isPlaceholder) = [false, false, false, false, false, true] ∧
      ∀ n ∈ program.subtree, n.isPlaceholder = true → ∃ offset, n = .placeholder offset := by
  have lengths : (parse .strict "`${a}`".toList).tree?.map
      (fun program => program.subtree.map fun n => n.span.length) = some [6, 6, 6, 0, 1, 0] := by
    decide +kernel
  have called : (parse .loose "f(+)".toList).tree?.map
      (fun program => program.subtree.map fun n => n.isPlaceholder) =
        some [false, false, false, false, false, true] := by
    decide +kernel
  obtain ⟨whole, accepted, lengths⟩ := ParseResult.exists_tree lengths
  obtain ⟨broken, recovered, called⟩ := ParseResult.exists_tree called
  exact ⟨⟨whole, accepted, lengths,
      ((parseText_invents _ _ _ _).2 _ whole accepted).2 rfl⟩,
    broken, recovered, called, fun n hn name =>
      (((parseText_invents _ _ _ _).2 _ broken recovered).1 n hn name).2⟩

end ScriptTree

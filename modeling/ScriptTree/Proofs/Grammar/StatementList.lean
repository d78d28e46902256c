import ScriptTree.Proofs.Grammar.Upholding

/-! # Statement lists — no token between two statements

    The statements of a program tile the tokens of its text up to the end, and those of
    a block the tokens between its braces.  So code that is accepted belongs to exactly
    one statement of each list that it stands in, and none is silently passed over.

    A semicolon may be left out at the end of the text, in front of a closing brace and
    at the end of a line.  A strict parse lets a statement that needs one end nowhere
    else, whatever the statement stands in; only a declaration in the head of a loop
    ends with the head.  Where a line must not end, it does not. -/

namespace ScriptTree

namespace Node

/-- The nodes tile the tokens, and each token lies in exactly one of them. -/
structure Tiles (ns : List Node) (ts : List Token) : Prop where
  tiling : Tiling ns ts
  once : ∀ t ∈ ts, ns.countP (fun n => t.span.Inside n.span) = 1

end Node

section

variable {text : List Char} {t : Token} {ts : List Token} {ns : List Node}

/-- The end of the text is the last token and no other one. -/
theorem lex_filter_isEnd (text : List Char) :
    (lex text).tokens.filter (fun t => !t.isEnd) = (lex text).tokens.dropLast := by
  obtain ⟨words, stop, stream, ends, goes⟩ := Lexeme.ofText_terminated text
  have tokens : (lex text).tokens = words.map Lexeme.token ++ [stop.token] := by
    show (Lexeme.ofText text).map Lexeme.token = _
    rw [stream, List.map_append, List.map_singleton]
  rw [tokens, List.dropLast_concat, List.filter_append, List.filter_singleton, ends]
  have all : (words.map Lexeme.token).filter (fun t => !t.isEnd) = words.map Lexeme.token := by
    refine List.filter_eq_self.mpr fun t ht => ?_
    obtain ⟨l, hl, rfl⟩ := List.mem_map.mp ht
    rw [goes l hl]
    rfl
  rw [all]
  exact List.append_nil _

/-- Tokens in front of the end cover something and lie one behind the other, so what tiles
    some of them has each of them once. -/
theorem Node.Tiling.tiles (h : Node.Tiling ns ts) (among : ts.Sublist (lex text).tokens.dropLast) :
    Node.Tiles ns ts := by
  have placed := Lexeme.ofText_placed text
  refine ⟨h, h.countP_inside ?_ fun t ht => ?_⟩
  · exact placed.ordered.sublist (among.trans (List.dropLast_sublist _))
  · have there : t ∈ (lex text).tokens.filter fun t => !t.isEnd :=
      lex_filter_isEnd text ▸ among.subset ht
    obtain ⟨there, goes⟩ := List.mem_filter.mp there
    exact (placed.tokens t there).nonempty (by simpa using goes)

end

variable {σ : Type} {text : List Char} {lines : LineIndex} {w : Observer σ} {observed : σ}
  {program : Node}

/-- The statements of a program go from the first token to the last one in front of the
    end. -/
theorem parseText_tiling (h : (parseText .strict text lines w observed).1 = .tree program) :
    ∃ body, program.shape = .program body ∧ Node.Tiling body (lex text).tokens.dropLast := by
  obtain ⟨first, rest, body, q, lexemes, series, ends, closed, -⟩ :=
    parseText_made (upholding text lines w) (Prod.ext h rfl)
  obtain ⟨there, group, ahead, tiling⟩ :=
    series.tiles Upheld.nested Upheld.stands (entry_standsIn lexemes)
  have last : q.situation.ahead = [q.situation.current] := by
    rw [Situation.ahead, there.lies.placed.terminated.eq_nil_of_isEnd ends]
  have tokens : (lex text).tokens = group.map Lexeme.token ++ [q.situation.token] := by
    show (Lexeme.ofText text).map Lexeme.token = _
    have stream : Lexeme.ofText text = group ++ [q.situation.current] := by
      rw [lexemes, ← last, ← ahead]
      rfl
    rw [stream, List.map_append, List.map_singleton]
    rfl
  refine ⟨body, by rw [closed]; rfl, ?_⟩
  rw [tokens, List.dropLast_concat]
  exact tiling

/-- STATEMENT LISTS: in a tree that a strict parse ends with, the statements of the program
    tile the tokens of the text but for its end: each starts where its first token starts
    and ends where its last one ends, and every token lies in exactly one of them.  Every
    block reaches from an opening brace to a closing one, and its statements tile the
    tokens between them likewise. -/
theorem parseText_tiles (h : (parseText .strict text lines w observed).1 = .tree program) :
    (∃ body, program.shape = .program body ∧
      Node.Tiles body ((lex text).tokens.filter fun t => !t.isEnd)) ∧
    ∀ n ∈ program.subtree, ∀ body, n.shape = .blockStatement body →
      ∃ before opening inside closing behind,
        (lex text).tokens = before ++ opening :: (inside ++ closing :: behind) ∧
          (opening.isPunctuator .openBrace = true ∧ opening.span.start = n.span.start) ∧
          (closing.isPunctuator .closeBrace = true ∧ closing.span.stop = n.span.stop) ∧
          Node.Tiles body inside := by
  constructor
  · obtain ⟨body, shape, tiling⟩ := parseText_tiling h
    rw [lex_filter_isEnd]
    exact ⟨body, shape, tiling.tiles (List.Sublist.refl _)⟩
  · intro n hn body shape
    have fills := (parseText_upholds h n hn).block
    rw [Node.FillsBraces, shape] at fills
    obtain ⟨before, opening, inside, closing, behind, tokens, opens, closes, tiling⟩ := fills
    have among : inside.Sublist (lex text).tokens.dropLast := by
      have split : (lex text).tokens = (before ++ [opening] ++ inside) ++ closing :: behind := by
        simp [tokens]
      rw [split, List.dropLast_append_cons]
      exact (List.sublist_append_right _ _).trans (List.sublist_append_left _ _)
    exact ⟨before, opening, inside, closing, behind, tokens, opens, closes, tiling.tiles among⟩

/-- So it is with a loop that ends without a semicolon, a label, and two blocks in each
    other, one of them the body of an arrow function. -/
theorem parseText_tiles_label : ∃ program body,
    parse .strict "do a\nwhile(b)c:{d=>{e};f}".toList = .tree program ∧
      program.shape = .program body ∧ body.length = 2 ∧
      (program.subtree.filter fun n => n.type == .blockStatement).length = 2 ∧
      Node.Tiles body
        ((lex "do a\nwhile(b)c:{d=>{e};f}".toList).tokens.filter fun t => !t.isEnd) ∧
      ∀ n ∈ program.subtree, ∀ body, n.shape = .blockStatement body →
        ∃ before opening inside closing behind,
          (lex "do a\nwhile(b)c:{d=>{e};f}".toList).tokens =
              before ++ opening :: (inside ++ closing :: behind) ∧
            (opening.isPunctuator .openBrace = true ∧ opening.span.start = n.span.start) ∧
            (closing.isPunctuator .closeBrace = true ∧ closing.span.stop = n.span.stop) ∧
            Node.Tiles body inside := by
  have counts : (parse .strict "do a\nwhile(b)c:{d=>{e};f}".toList).tree?.map
      (fun program => (program.children.length,
        (program.subtree.filter fun n => n.type == .blockStatement).length)) = some (2, 2) := by
    decide +kernel
  obtain ⟨program, parsed, counts⟩ := ParseResult.exists_tree counts
  obtain ⟨two, blocks⟩ := Prod.mk.inj counts
  obtain ⟨⟨body, shape, tiles⟩, inside⟩ := parseText_tiles parsed
  rw [Node.children, shape] at two
  exact ⟨program, body, parsed, shape, two, blocks, tiles, inside⟩

/-! ## Where statements end -/

/-- SEMICOLONS: in a tree that a strict parse ends with, every statement that needs a
    semicolon ends with one, or in front of the end of the text, a closing brace or a
    token on a new line; declarations in the heads of loops are the only ones that need
    none.  No line ends between `return`, `throw`, `break` or `continue` and what belongs
    to it, in front of `++` and `--` behind an operand, and in front of `=>`. -/
theorem parseText_terminated (h : (parseText .strict text lines w observed).1 = .tree program) :
    (∀ n ∈ program.subtree, ∀ d ∈ n.parts, d.shape.isEnded = true →
      d.Terminated text ∨ n.Heads d) ∧
    ∀ n ∈ program.subtree, n.KeepsLine text := by
  refine ⟨fun n hn d hd ended => ?_, fun n hn => (parseText_upholds h n hn).line⟩
  exact ((parseText_upholds h n hn).parts d hd).imp_left fun settled => settled ended

/-- The declaration in the head of the loop needs no end; its body and the `throw` have one. -/
theorem parseText_terminated_loop : ∃ program,
    parse .strict "for(var i of a)b=>b++\nthrow c".toList = .tree program ∧
      (program.subtree.filter fun n => n.shape.isEnded).length = 3 ∧
      (∀ n ∈ program.subtree, ∀ d ∈ n.parts, d.shape.isEnded = true →
        d.Terminated "for(var i of a)b=>b++\nthrow c".toList ∨ n.Heads d) ∧
      ∀ n ∈ program.subtree, n.KeepsLine "for(var i of a)b=>b++\nthrow c".toList := by
  have statements : (parse .strict "for(var i of a)b=>b++\nthrow c".toList).tree?.map
      (fun program => (program.subtree.filter fun n => n.shape.isEnded).length) = some 3 := by
    decide +kernel
  obtain ⟨program, parsed, statements⟩ := ParseResult.exists_tree statements
  exact ⟨program, parsed, statements, parseText_terminated parsed⟩

end ScriptTree

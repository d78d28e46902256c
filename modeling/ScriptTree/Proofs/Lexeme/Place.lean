import ScriptTree.Grammar.Expression
import ScriptTree.Proofs.Lexeme.Partition

/-! # Places — where the lexemes of a text lie

    The tokens of a text lie in it one behind the other, up to the end of input at
    its end.  A chunk of a template lies inside of its token, behind the delimiter in
    front of it. -/

namespace ScriptTree

namespace Text

variable {text before : List Char} {offset : Nat}

/-- Lengths in bytes are those of the string. -/
theorem byteLength_toList (s : String) : byteLength s.toList = s.utf8ByteSize := by
  have size (cs : List Char) : byteLength cs = cs.utf8Encode.size := by
    induction cs with
    | nil => rfl
    | cons c cs ih =>
        rw [byteLength_cons, List.utf8Encode_cons, ByteArray.size_append, ih,
          List.utf8Encode_singleton, List.size_toByteArray, String.length_utf8EncodeChar]
  rw [size, String.utf8Encode_toList, String.size_toByteArray]

end Text

/-- The span lies in the text: it is not reversed, and both of its ends lie between
    characters. -/
structure Span.LiesIn (s : Span) (text : List Char) : Prop where
  le : s.start ≤ s.stop
  start : Text.Boundary text s.start
  stop : Text.Boundary text s.stop

/-- The token lies in the text, and only the end of input covers nothing.  The text
    of a chunk lies inside of its token. -/
structure Token.LiesIn (t : Token) (text : List Char) : Prop where
  span : t.span.LiesIn text
  nonempty : t.isEnd = false → t.span.start < t.span.stop
  chunk : ∀ raw isTail, Grammar.templateChunk? t.kind = some (raw, isTail) →
    let start := t.span.start + 1
    (Span.mk start (start + raw.utf8ByteSize)).LiesIn text ∧
      start + raw.utf8ByteSize ≤ t.span.stop

/-- The lexemes lie in the text, one behind the other. -/
structure Lexeme.Placed (lexemes : List Lexeme) (text : List Char) : Prop where
  terminated : Terminated lexemes
  ordered : (lexemes.map token).Pairwise fun t u => t.span.Before u.span
  tokens : ∀ t ∈ lexemes.map token, t.LiesIn text

/-- The text of a chunk stands behind the delimiter in front of it, inside of its token. -/
theorem Tiled.chunk_place {text : List Char} {tiles : List Tile} {stop : Cursor}
    (h : Tiled ⟨0, text⟩ tiles stop) {t : Token} (there : .word t ∈ tiles) {raw : String}
    {isTail : Bool} (chunk : Grammar.templateChunk? t.kind = some (raw, isTail)) :
    ∃ rest behind,
      Cursor.Reaches ⟨0, text⟩ ⟨t.span.start + 1, rest⟩ ∧
      Cursor.ReachesBy ⟨t.span.start + 1, rest⟩
        ⟨t.span.start + 1 + raw.utf8ByteSize, behind⟩ raw.toList ∧
      t.span.start + 1 + raw.utf8ByteSize ≤ t.span.stop := by
  obtain ⟨isHead, kind⟩ : ∃ isHead, t.kind = .template raw isHead isTail := by
    unfold Grammar.templateChunk? at chunk
    split at chunk
    · rename_i isHead _ kind
      cases chunk
      exact ⟨isHead, kind⟩
    · cases chunk
  obtain ⟨front, back, piece, reached, ⟨here, stops⟩, -, ⟨-, -, written⟩, place⟩ := h.place there
  obtain ⟨x, behind, rfl, narrow⟩ := written raw isHead isTail kind
  have place : t.span = front.spanTo back := place
  have begins : t.span.start = front.offset := by
    rw [place]
    rfl
  -- Two cursors go along: one behind the delimiter, the other behind the text.
  have delimiter : front.ReachesBy ⟨t.span.start + 1, raw.toList ++ behind ++ back.rest⟩ [x] := by
    refine ⟨here, ?_⟩
    rw [begins, Text.byteLength_cons, narrow]
    rfl
  refine ⟨_, _, reached.trans ⟨_, delimiter⟩, ⟨List.append_assoc _ _ _, ?_⟩, ?_⟩
  · rw [Text.byteLength_toList]
  · rw [Text.byteLength_cons, Text.byteLength_append, Text.byteLength_toList, narrow] at stops
    have stop : t.span.stop = back.offset := by
      rw [place]
      rfl
    omega

/-- A word that is a tile of a text lies in it. -/
theorem Tiled.word_liesIn {text : List Char} {tiles : List Tile} {stop : Cursor}
    (h : Tiled ⟨0, text⟩ tiles stop) {t : Token} (there : .word t ∈ tiles) : t.LiesIn text := by
  have reads : t.span.ReadFrom text := h.readFrom there
  refine ⟨⟨Nat.le_of_lt reads.some, reads.start, reads.stop⟩, fun _ => reads.some, ?_⟩
  intro raw isTail chunk start
  obtain ⟨rest, behind, first, inside, stops⟩ := h.chunk_place there chunk
  exact ⟨⟨Nat.le_add_right _ _, first.boundary, (first.trans ⟨_, inside⟩).boundary⟩, stops⟩

/-- The lexemes of a text lie in it. -/
theorem Lexeme.ofText_placed (text : List Char) : Placed (ofText text) text := by
  obtain ⟨stop, tiles, cover, length⟩ := ofText_cover text
  obtain ⟨last, tokens, ends, place⟩ := cover.tokens
  rw [length] at place
  refine ⟨ofText_terminated text, ?_, fun t ht => ?_⟩
  · rw [tokens, List.pairwise_append]
    refine ⟨cover.words_ordered, List.pairwise_singleton _ _, fun t ht u hu => ?_⟩
    rw [List.mem_singleton] at hu
    subst hu
    have inside := (cover.tiled.word_liesIn (Tile.mem_of_word? ht)).span.stop.le_byteLength
    rw [Span.Before, place]
    exact inside
  · rw [tokens, List.mem_append, List.mem_singleton] at ht
    rcases ht with ht | rfl
    · exact cover.tiled.word_liesIn (Tile.mem_of_word? ht)
    · have stop := Text.boundary_stop text
      refine ⟨?_, fun goes => ?_, fun raw isTail chunk => ?_⟩
      · rw [place]
        exact ⟨Nat.le_refl _, stop, stop⟩
      · rw [ends] at goes
        cases goes
      · rw [Token.isEnd_of_reading rfl chunk] at ends
        cases ends

end ScriptTree

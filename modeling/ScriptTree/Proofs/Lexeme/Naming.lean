import ScriptTree.Proofs.Lexeme.Place

/-! # Naming — names and chunks are written as they are called

    A name and a reserved word have no other text than what they are called, and a chunk
    of a template has its text where it stands between its delimiters.  So what the
    grammar takes from the kind of a token can be read from the text again. -/

namespace ScriptTree

/-- What a name or a reserved word is called. -/
def TokenKind.word? : TokenKind → Option String
  | .name text => some text
  | .keyword word => some word.spelling
  | _ => none

namespace Scanner

/-- A reserved word that was found by its spelling has that spelling. -/
theorem spelling_of_ofSpelling? {text : String} {word : Keyword}
    (h : Keyword.ofSpelling? text = some word) : word.spelling = text := by
  rw [Keyword.ofSpelling?] at h
  have found := List.find?_some h
  exact eq_of_beq found

/-- A name or keyword is called as it is written. -/
theorem scanWord_word? (c : Cursor) :
    (scanWord c).kind.word? = some (String.ofList (c.textTo (scanWord c).cursor)) := by
  simp only [scanWord]
  split
  · rename_i word found
    exact congrArg some (spelling_of_ofSpelling? found)
  · rfl

/-- A word with a name is written as the name. -/
theorem textTo_of_word? {s : Scanner} {c : Cursor} {w : Scanned} (h : s.word? c = some w)
    {name : String} (named : w.kind.word? = some name) :
    String.ofList (c.textTo w.cursor) = name := by
  have template (isHead : Bool) (d : Cursor) : (Template.scan isHead d).kind.word? = none := by
    obtain ⟨raw, isTail, chunk⟩ := Template.scan_kind isHead d
    rw [chunk]
    rfl
  -- Of all that may stand there only names and reserved words have names.
  have unnamed {v : Scanned} (named : v.kind.word? = some name) (none : v.kind.word? = none) :
      String.ofList (c.textTo v.cursor) = name := by
    rw [none] at named
    cases named
  cases reads_of_word? h with
  | template => exact unnamed named (template true _)
  | chunk => exact unnamed named (template false _)
  | string => exact unnamed named rfl
  | number =>
      obtain ⟨value, number⟩ := Numeral.scan_kind c
      exact unnamed named (by rw [number]; rfl)
  | regExp =>
      obtain ⟨pattern, flags, regExp⟩ := RegExpLiteral.scan_kind c
      exact unnamed named (by rw [regExp]; rfl)
  | name =>
      rw [scanWord_word?] at named
      exact Option.some.inj named
  | punctuator => exact unnamed named rfl

end Scanner

namespace Lexeme

variable {text : List Char} {l : Lexeme}

/-- A token with a name has the name for a text. -/
theorem text_of_word? (h : l ∈ ofText text) {name : String}
    (named : l.token.kind.word? = some name) : l.token.text = name := by
  refine forall_ofText (motive := fun l => ∀ name, l.token.kind.word? = some name →
    l.token.text = name) (fun s _ name named => ?_) l h name named
  obtain ⟨t, -, ⟨word, read, next⟩ | next⟩ := s.next_cases
  · rw [next] at named ⊢
    exact Scanner.textTo_of_word? read named
  · rw [next] at named
    cases named

/-- The text of a chunk is what stands behind the delimiter in front of it. -/
theorem slice_chunk (h : l ∈ ofText text) {raw : String} {isTail : Bool}
    (chunk : Grammar.templateChunk? l.token.kind = some (raw, isTail)) :
    let start := l.token.span.start + 1
    raw = String.ofList (Text.slice text ⟨start, start + raw.utf8ByteSize⟩) := by
  intro start
  obtain ⟨stop, tiles, cover, -⟩ := ofText_cover text
  obtain ⟨last, tokens, ends, -⟩ := cover.tokens
  have there : l.token ∈ (ofText text).map token := List.mem_map_of_mem h
  rw [tokens, List.mem_append, List.mem_singleton] at there
  rcases there with word | same
  · obtain ⟨rest, behind, first, inside, -⟩ :=
      cover.tiled.chunk_place (Tile.mem_of_word? word) chunk
    have reads := Cursor.slice_spanTo first ⟨_, inside⟩
    rw [Cursor.textTo_eq inside] at reads
    exact (String.ofList_toList.symm.trans (congrArg String.ofList reads.symm))
  · rw [← same, Token.isEnd_of_reading rfl chunk] at ends
    cases ends

end Lexeme

end ScriptTree

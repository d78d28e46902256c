import ScriptTree.Lexeme.Stream

/-! # Tiles — what every piece of a text came to

    Scanning goes over a text piece by piece, and every piece comes to
    something: a blank, a character that belongs to no word, a comment, or a
    word.  `Tiled c tiles d` says that the tiles lie one behind the other from
    the cursor `c` to the cursor `d` and that each is read from the characters
    it lies on.  So tiles are ordered, none overlaps another, and no byte
    between the two cursors is outside of all of them. -/

namespace ScriptTree

/-! ## Places in a text -/

/-- The offset lies between two characters of the text, or at one of its
    ends. -/
def Text.Boundary (text : List Char) (offset : Nat) : Prop :=
  ∃ before after, text = before ++ after ∧ offset = Text.byteLength before

/-- The span is read from the text: it has a byte at least, and both of its ends
    lie between characters. -/
structure Span.ReadFrom (s : Span) (text : List Char) : Prop where
  some : s.start < s.stop
  start : Text.Boundary text s.start
  stop : Text.Boundary text s.stop

/-- The first span ends where the second one starts, or earlier. -/
def Span.Before (s t : Span) : Prop := s.stop ≤ t.start

/-- The byte at the offset is one of the span. -/
def Span.Covers (s : Span) (offset : Nat) : Prop := s.start ≤ offset ∧ offset < s.stop

namespace Cursor

variable {c d e : Cursor} {s t text : List Char}

/-- The text between two places falls into the texts between them and a third. -/
theorem ReachesBy.trans (h : c.ReachesBy d s) (k : d.ReachesBy e t) :
    c.ReachesBy e (s ++ t) :=
  ⟨by rw [h.1, k.1, List.append_assoc],
    by rw [k.2, h.2, Text.byteLength_append, Nat.add_assoc]⟩

/-- One character on. -/
theorem ReachesBy.next {x : Char} {rest : List Char} (h : c.rest = x :: rest) :
    c.ReachesBy c.next [x] := by
  obtain ⟨offset, chars⟩ := c
  subst h
  simp [ReachesBy, Cursor.next]

/-- Two characters on. -/
theorem ReachesBy.skip_two {x y : Char} {rest : List Char} (h : c.rest = x :: y :: rest) :
    c.ReachesBy (c.skip 2) [x, y] := by
  obtain ⟨offset, chars⟩ := c
  subst h
  simp [ReachesBy, skip, Cursor.next, Nat.add_assoc]

/-- Places lie one behind the other. -/
theorem Reaches.offset_le (h : c.Reaches d) : c.offset ≤ d.offset := by
  obtain ⟨text, -, ho⟩ := h
  omega

/-- A text that is not empty leads further. -/
theorem ReachesBy.offset_lt (h : c.ReachesBy d text) (some : text ≠ []) :
    c.offset < d.offset := by
  have := mt Text.byteLength_eq_zero_iff.mp some
  have := h.2
  omega

/-- A cursor that the start of a text reaches stands at a boundary. -/
theorem Reaches.boundary (h : Reaches ⟨0, text⟩ c) : Text.Boundary text c.offset := by
  obtain ⟨before, hb, ho⟩ := h
  exact ⟨before, c.rest, hb, ho.trans (Nat.zero_add _)⟩

end Cursor

/-- A text begins between characters. -/
theorem Text.boundary_start (text : List Char) : Boundary text 0 := ⟨[], text, rfl, rfl⟩

/-- It ends between characters. -/
theorem Text.boundary_stop (text : List Char) : Boundary text (byteLength text) :=
  ⟨text, [], (List.append_nil text).symm, rfl⟩

/-- No boundary lies past the end. -/
theorem Text.Boundary.le_byteLength {text : List Char} {offset : Nat}
    (h : Boundary text offset) : offset ≤ byteLength text := by
  obtain ⟨before, after, rfl, rfl⟩ := h
  rw [byteLength_append]
  exact Nat.le_add_right _ _

/-! ## Tiles -/

/-- The comment is written as these characters, in front of the rest of the
    text.  A block comment that is never closed reaches to the end. -/
def Comment.Written (c : Comment) (text rest : List Char) : Prop :=
  match c.kind with
  | .line => text = '/' :: '/' :: c.text.toList
  | .block =>
    ¬ ['*', '/'] <:+: c.text.toList ∧
      (text = '/' :: '*' :: (c.text.toList ++ ['*', '/']) ∨
        text = '/' :: '*' :: c.text.toList ∧ rest = [])

/-- The kind is that of a word with these characters: not the end of input, and
    a chunk of a template has its text behind a delimiter of one byte. -/
def TokenKind.Written (kind : TokenKind) (text : List Char) : Prop :=
  kind ≠ .endOfInput ∧ ∀ raw isHead isTail, kind = .template raw isHead isTail →
    ∃ x behind, text = x :: (raw.toList ++ behind) ∧ x.utf8Size = 1

/-- A piece of a text and what it came to. -/
inductive Tile where
  /-- A blank or a line terminator. -/
  | blank (span : Span)
  /-- A character that belongs to no word. -/
  | stray (diagnostic : Diagnostic)
  | comment (comment : Comment)
  | word (token : Token)

namespace Tile

/-- The span of the piece. -/
def span : Tile → Span
  | blank span => span
  | stray d => d.span
  | comment c => c.span
  | word t => t.span

/-- The comment that a tile is. -/
def comment? : Tile → Option Comment
  | comment c => some c
  | _ => none

/-- The word that a tile is. -/
def word? : Tile → Option Token
  | word t => some t
  | _ => none

/-- Where a tile lies that is a comment or a word. -/
def solid? : Tile → Option Span
  | comment c => some c.span
  | word t => some t.span
  | _ => none

/-- The tile is read from these characters, in front of the rest of the
    text. -/
def Reads (text rest : List Char) : Tile → Prop
  | blank _ => ∃ x, text = [x] ∧ (Character.isBlank x = true ∨ Character.isLineTerminator x = true)
  | stray d => ∃ x, text = [x] ∧ d.fault = .unexpectedCharacter x
  | comment c => c.Written text rest
  | word t => text ≠ [] ∧ t.kind.Written text

/-- No tile is read from nothing. -/
theorem Reads.ne_nil {tile : Tile} {text rest : List Char} (h : tile.Reads text rest) :
    text ≠ [] := by
  cases tile with
  | blank span =>
      obtain ⟨x, rfl, -⟩ := h
      exact List.cons_ne_nil x []
  | stray d =>
      obtain ⟨x, rfl, -⟩ := h
      exact List.cons_ne_nil x []
  | comment c =>
      simp only [Reads, Comment.Written] at h
      rintro rfl
      split at h
      · cases h
      · obtain ⟨-, h | h⟩ := h
        · cases h
        · cases h.1
  | word t => exact h.1

/-- A comment that is told of tiles is one of them. -/
theorem mem_of_comment? {tiles : List Tile} {c : Comment}
    (h : c ∈ tiles.filterMap comment?) : comment c ∈ tiles := by
  obtain ⟨tile, there, found⟩ := List.mem_filterMap.mp h
  cases tile <;> cases found
  exact there

/-- A token that is told of tiles is one of them. -/
theorem mem_of_word? {tiles : List Tile} {t : Token} (h : t ∈ tiles.filterMap word?) :
    word t ∈ tiles := by
  obtain ⟨tile, there, found⟩ := List.mem_filterMap.mp h
  cases tile <;> cases found
  exact there

/-- The tile of a comment spans the comment. -/
theorem span_of_comment? {tile : Tile} {c : Comment} (h : tile.comment? = some c) :
    c.span = tile.span := by
  cases tile <;> cases h
  rfl

/-- The tile of a token spans the token. -/
theorem span_of_word? {tile : Tile} {t : Token} (h : tile.word? = some t) :
    t.span = tile.span := by
  cases tile <;> cases h
  rfl

/-- A solid tile is told by its span. -/
theorem span_of_solid? {tile : Tile} {s : Span} (h : tile.solid? = some s) : s = tile.span := by
  cases tile <;> cases h <;> rfl

/-- Without words only comments are left. -/
theorem filterMap_solid? {tiles : List Tile} (wordless : tiles.filterMap word? = []) :
    tiles.filterMap solid? = (tiles.filterMap comment?).map Comment.span := by
  induction tiles with
  | nil => rfl
  | cons tile tiles ih =>
      rw [List.filterMap_eq_nil_iff, List.forall_mem_cons, ← List.filterMap_eq_nil_iff] at wordless
      obtain ⟨other, rest⟩ := wordless
      cases tile with
      | word t => cases other
      | comment c => exact congrArg (c.span :: ·) (ih rest)
      | blank span => exact ih rest
      | stray d => exact ih rest

end Tile

/-- The tiles lie one behind the other between two cursors. -/
inductive Tiled : Cursor → List Tile → Cursor → Prop where
  | nil (c : Cursor) : Tiled c [] c
  | cons {c d e : Cursor} {tile : Tile} {tiles : List Tile} {text : List Char}
      (step : c.ReachesBy d text) (reads : tile.Reads text d.rest)
      (span : tile.span = c.spanTo d) (behind : Tiled d tiles e) : Tiled c (tile :: tiles) e

namespace Tiled

variable {c d e : Cursor} {tile : Tile} {tiles more : List Tile} {text : List Char}

/-- One tile covers the step from its start to its end. -/
theorem single (step : c.ReachesBy d text) (reads : tile.Reads text d.rest)
    (span : tile.span = c.spanTo d) : Tiled c [tile] d :=
  .cons step reads span (.nil d)

/-- Tilings that meet are one tiling. -/
theorem append (h : Tiled c tiles d) (k : Tiled d more e) : Tiled c (tiles ++ more) e := by
  induction h with
  | nil c => exact k
  | cons step reads span _ ih => exact .cons step reads span (ih k)

/-- Tiles lead from the first place to the last. -/
theorem reaches (h : Tiled c tiles d) : c.Reaches d := by
  induction h with
  | nil c => exact .refl c
  | cons step _ _ _ ih => exact Cursor.Reaches.trans ⟨_, step⟩ ih

/-- Where a tile lies. -/
theorem place (h : Tiled c tiles e) (there : tile ∈ tiles) : ∃ front back text,
    c.Reaches front ∧ front.ReachesBy back text ∧ back.Reaches e ∧ tile.Reads text back.rest ∧
      tile.span = front.spanTo back := by
  induction h with
  | nil c => cases there
  | @cons c d e first tiles text step reads span behind ih =>
      rcases List.mem_cons.mp there with rfl | there
      · exact ⟨c, d, text, .refl c, step, behind.reaches, reads, span⟩
      · obtain ⟨front, back, text, reached, rest⟩ := ih there
        exact ⟨front, back, text, Cursor.Reaches.trans ⟨_, step⟩ reached, rest⟩

/-- Each tile lies behind those in front of it. -/
theorem ordered (h : Tiled c tiles e) : tiles.Pairwise fun a b => a.span.Before b.span := by
  induction h with
  | nil c => exact .nil
  | cons step reads span behind ih =>
      refine .cons (fun tile there => ?_) ih
      obtain ⟨front, back, text, reached, -, -, -, place⟩ := behind.place there
      rw [span, place]
      exact reached.offset_le

/-- Of any two tiles one lies behind the other. -/
theorem apart (h : Tiled c tiles e) {a b : Tile} (ha : a ∈ tiles) (hb : b ∈ tiles)
    (other : a ≠ b) : a.span.Before b.span ∨ b.span.Before a.span := by
  have ordered := h.ordered
  clear h
  induction ordered with
  | nil => cases ha
  | @cons first rest behind _ ih =>
      rw [List.mem_cons] at ha hb
      rcases ha with rfl | ha
      · exact .inl (behind b (hb.resolve_left other.symm))
      · rcases hb with rfl | hb
        · exact .inr (behind a ha)
        · exact ih ha hb

/-- Every byte between the cursors lies on a tile. -/
theorem covers (h : Tiled c tiles e) {offset : Nat} (low : c.offset ≤ offset)
    (high : offset < e.offset) :
    ∃ tile ∈ tiles, tile.span.Covers offset := by
  induction h with
  | nil c => exact absurd high (Nat.not_lt.mpr low)
  | @cons c d e first tiles text step reads span behind ih =>
      by_cases here : offset < d.offset
      · exact ⟨first, List.mem_cons_self, by rw [span]; exact ⟨low, here⟩⟩
      · obtain ⟨tile, there, on⟩ := ih (Nat.not_lt.mp here) high
        exact ⟨tile, List.mem_cons_of_mem _ there, on⟩

/-- A tile of a text is read from it. -/
theorem readFrom (h : Tiled ⟨0, text⟩ tiles e) (there : tile ∈ tiles) :
    tile.span.ReadFrom text := by
  obtain ⟨front, back, piece, reached, step, -, reads, place⟩ := h.place there
  rw [place]
  exact ⟨step.offset_lt reads.ne_nil, reached.boundary,
    Cursor.Reaches.boundary (reached.trans ⟨piece, step⟩)⟩

/-- The characters that a tile of a text is read from are those at its span. -/
theorem reads (h : Tiled ⟨0, text⟩ tiles e) (there : tile ∈ tiles) : ∃ before after,
    text = before ++ Text.slice text tile.span ++ after ∧
      tile.Reads (Text.slice text tile.span) after := by
  obtain ⟨front, back, piece, ⟨before, whole, start⟩, ⟨here, stop⟩, -, reads, place⟩ :=
    h.place there
  have parts : text = before ++ piece ++ back.rest := by
    rw [List.append_assoc, ← here, ← whole]
  have slice : Text.slice text tile.span = piece := by
    rw [place, Cursor.spanTo, stop, start, Nat.zero_add, parts, Text.slice_append]
  rw [slice]
  exact ⟨before, back.rest, parts, reads⟩

end Tiled

end ScriptTree

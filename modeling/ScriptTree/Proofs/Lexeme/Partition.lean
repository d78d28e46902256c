import ScriptTree.Proofs.Lexeme.Ending
import ScriptTree.Proofs.Lexeme.Spelling
import ScriptTree.Proofs.Lexeme.Step
import ScriptTree.Proofs.Lexeme.Tiling

/-! # The partition of a text — scanning lays tiles without gaps

    Every step of the scanner lays tiles: a piece of trivia one, a stray
    character one, a lexeme those of its trivia and one for its word.  So the
    whole text is tiled, its comments and tokens are tiles, and what lies
    outside of them is blank or was reported. -/

namespace ScriptTree

/-! ## Trivia -/

namespace Trivia

variable {t u v : Trivia} {tiles more : List Tile}

/-- From one state of the trivia to a later one the tiles were laid: they are
    no words, the comments among them were gathered, and the stray characters
    among them were reported. -/
structure Lays (t : Trivia) (tiles : List Tile) (u : Trivia) : Prop where
  tiled : Tiled t.cursor tiles u.cursor
  comments : u.comments.toList = t.comments.toList ++ tiles.filterMap Tile.comment?
  wordless : tiles.filterMap Tile.word? = []
  reported : ∀ d, d ∈ t.diagnostics ∨ Tile.stray d ∈ tiles → d ∈ u.diagnostics

/-- Nothing is skipped, and no tile is laid. -/
theorem Lays.refl (t : Trivia) : t.Lays [] t where
  tiled := .nil t.cursor
  comments := by simp
  wordless := rfl
  reported := by simp

/-- Tiles of one skip behind those of another. -/
theorem Lays.trans (h : t.Lays tiles u) (k : u.Lays more v) : t.Lays (tiles ++ more) v where
  tiled := h.tiled.append k.tiled
  comments := by simp [k.comments, h.comments]
  wordless := by simp [h.wordless, k.wordless]
  reported d hd := by
    refine k.reported d ?_
    rcases hd with hd | hd
    · exact .inl (h.reported d (.inl hd))
    · exact (List.mem_append.mp hd).imp_left fun hd => h.reported d (.inr hd)

/-- The body of a block comment has no `*/` in it, and ends at one or with the
    text. -/
theorem findClose_body (offset : Nat) (rest : List Char) : ∃ body,
    Cursor.ReachesBy ⟨offset, rest⟩ (findClose offset rest).1 body ∧ ¬ ['*', '/'] <:+: body ∧
      if (findClose offset rest).2 then
        ∃ behind, (findClose offset rest).1.rest = '*' :: '/' :: behind
      else (findClose offset rest).1.rest = [] := by
  fun_induction findClose offset rest with
  | case1 offset => exact ⟨[], by simp [Cursor.ReachesBy], by simp, rfl⟩
  | case2 offset rest => exact ⟨[], by simp [Cursor.ReachesBy], by simp, rest, rfl⟩
  | case3 offset x rest other ih =>
      obtain ⟨body, reached, free, ends⟩ := ih
      refine ⟨x :: body, ?_, ?_, ends⟩
      · exact (Cursor.ReachesBy.next (c := ⟨offset, x :: rest⟩) rfl).trans reached
      · intro inside
        rcases List.infix_cons_iff.mp inside with ⟨behind, front⟩ | inside
        -- A `*/` that began here would have ended the comment.
        · obtain ⟨rfl, rfl⟩ := List.cons.inj front
          exact other (behind ++ (findClose (offset + _) rest).1.rest) rfl reached.1
        · exact free inside

/-- A comment up to the end of the line is one tile. -/
theorem lineComment_lays {rest : List Char} (h : t.cursor.rest = '/' :: '/' :: rest) :
    ∃ tiles, t.Lays tiles t.lineComment := by
  obtain ⟨body, reached⟩ := Cursor.Reaches.skipWhile (fun x => !Character.isLineTerminator x)
    (t.cursor.skip 2)
  let c := comment .line t.cursor (t.cursor.skip 2) t.lineComment.cursor t.lineComment.cursor
  have text : c.text.toList = body :=
    String.toList_ofList.trans (Cursor.textTo_eq reached)
  refine ⟨[.comment c], ?_, ?_, rfl, ?_⟩
  · refine .single ((Cursor.ReachesBy.skip_two h).trans reached) ?_ rfl
    show '/' :: '/' :: body = '/' :: '/' :: c.text.toList
    rw [text]
  · exact Array.toList_push
  · rintro d (hd | hd)
    · exact hd
    · simp at hd

/-- A block comment is one tile, also if it is not closed. -/
theorem blockComment_lays {rest : List Char} (h : t.cursor.rest = '/' :: '*' :: rest) :
    ∃ tiles, t.Lays tiles t.blockComment := by
  obtain ⟨body, reached, free, ends⟩ :=
    findClose_body (t.cursor.skip 2).offset (t.cursor.skip 2).rest
  have opening := (Cursor.ReachesBy.skip_two h).trans reached
  generalize found : findClose (t.cursor.skip 2).offset (t.cursor.skip 2).rest = close
    at reached ends opening
  let c := comment .block t.cursor (t.cursor.skip 2) close.1 t.blockComment.cursor
  have text : c.text.toList = body :=
    String.toList_ofList.trans (Cursor.textTo_eq reached)
  have gathered : t.blockComment.comments = t.comments.push c := by
    simp only [blockComment, found, c]
  refine ⟨[.comment c], ?_, ?_, rfl, ?_⟩
  · have stop : t.blockComment.cursor = if close.2 then close.1.skip 2 else close.1 := by
      simp only [blockComment, found]
    -- What was found is the whole comment with its closing mark, or all that is left of the text.
    cases closed : close.2 with
    | true =>
        rw [closed, if_pos rfl] at ends stop
        obtain ⟨behind, ends⟩ := ends
        refine .single (?_ : t.cursor.ReachesBy _ ('/' :: '*' :: (body ++ ['*', '/']))) ?_ rfl
        · rw [stop]
          exact opening.trans (.skip_two ends)
        · show ¬ _ <:+: c.text.toList ∧ (_ = '/' :: '*' :: (c.text.toList ++ _) ∨ _)
          rw [text]
          exact ⟨free, .inl rfl⟩
    | false =>
        rw [closed, if_neg Bool.false_ne_true] at ends stop
        refine .single (?_ : t.cursor.ReachesBy _ ('/' :: '*' :: body)) ?_ rfl
        · rw [stop]
          exact opening
        · show ¬ _ <:+: c.text.toList ∧ (_ ∨ _ = '/' :: '*' :: c.text.toList ∧ _)
          rw [text, stop]
          exact ⟨free, .inr ⟨rfl, ends⟩⟩
  · rw [gathered]
    exact Array.toList_push
  -- Only an unclosed comment is reported, behind what was reported before.
  · rintro d (hd | hd)
    · simp only [blockComment]
      split
      · exact hd
      · exact Array.mem_push_of_mem _ hd
    · simp at hd

/-- One character that separates words. -/
theorem blank_lays {x : Char} {rest : List Char} (h : t.cursor.rest = x :: rest)
    (blank : Character.isBlank x = true ∨ Character.isLineTerminator x = true)
    (newline : Bool) : ∃ tiles, t.Lays tiles { t with cursor := t.cursor.next, newline } :=
  ⟨[.blank (t.cursor.spanTo t.cursor.next)], .single (.next h) ⟨x, rfl, blank⟩ rfl, by
    simp [Tile.comment?], rfl, by simp⟩

/-- A piece of trivia lays tiles. -/
theorem step?_lays (h : t.step? = some u) : ∃ tiles, t.Lays tiles u := by
  unfold step? at h
  split at h
  · cases h
  · rename_i here
    cases h
    exact lineComment_lays here
  · rename_i here
    cases h
    exact blockComment_lays here
  · rename_i x rest _ _ here
    split at h
    · rename_i ends
      cases h
      exact blank_lays here (.inr ends) true
    · split at h
      · rename_i blank
        cases h
        exact blank_lays here (.inl blank) t.newline
      · cases h

/-- All trivia that are skipped are laid out in tiles. -/
theorem skip_lays (t : Trivia) : ∃ tiles, t.Lays tiles t.skip := by
  fun_induction skip t with
  | case1 t => exact ⟨[], .refl t⟩
  | case2 t u stepped ih =>
      obtain ⟨first, hf⟩ := step?_lays stepped
      obtain ⟨rest, hr⟩ := ih
      exact ⟨first ++ rest, hf.trans hr⟩

/-- A stray character is a tile, and reported. -/
theorem skipStray_lays {x : Char} {rest : List Char} (h : t.cursor.rest = x :: rest) :
    ∃ tiles, t.Lays tiles (t.skipStray x) := by
  refine ⟨[.stray (t.cursor.diagnose t.cursor.next (.unexpectedCharacter x))],
    .single (.next h) ⟨x, rfl, rfl⟩ rfl, by simp [skipStray, Tile.comment?], rfl, ?_⟩
  rintro d (hd | hd)
  · exact Array.mem_push_of_mem _ hd
  · rw [List.mem_singleton, Tile.stray.injEq] at hd
    subst hd
    exact Array.mem_push_self

end Trivia

/-! ## Words -/

/-- A chunk of a template is read behind a delimiter of one byte. -/
theorem Template.scan_written {c : Cursor} {x : Char} {rest : List Char} (isHead : Bool)
    (here : c.rest = x :: rest) (narrow : x.utf8Size = 1) : ∃ text,
      c.ReachesBy (scan isHead c.next).cursor text ∧ (scan isHead c.next).kind.Written text := by
  obtain ⟨raw, reached⟩ := findEnding_reaches c.next.offset c.next.rest
  have opening := (Cursor.ReachesBy.next here).trans reached
  have text := Cursor.textTo_eq reached
  have written (isTail : Bool) (behind : List Char) :
      (TokenKind.template (String.ofList (c.next.textTo (findEnding c.next.offset c.next.rest).1))
        isHead isTail).Written ([x] ++ raw ++ behind) := by
    refine ⟨by simp, ?_⟩
    rintro _ _ _ ⟨⟩
    rw [text, String.toList_ofList]
    exact ⟨x, behind, by simp, narrow⟩
  simp only [scan]
  split
  · obtain ⟨behind, hb⟩ := Cursor.Reaches.next (findEnding c.next.offset c.next.rest).1
    exact ⟨_, opening.trans hb, written true behind⟩
  · obtain ⟨behind, hb⟩ := Cursor.Reaches.skip 2 (findEnding c.next.offset c.next.rest).1
    exact ⟨_, opening.trans hb, written false behind⟩
  · exact ⟨_, opening, by simpa using written true []⟩

/-- A word lies on at least one character and is written there. -/
theorem Scanner.word?_written {s : Scanner} {c : Cursor} {w : Scanned}
    (h : s.word? c = some w) :
    ∃ text, c.ReachesBy w.cursor text ∧ text ≠ [] ∧ w.kind.Written text := by
  obtain ⟨behind, onward⟩ := word?_reaches h
  obtain ⟨x, rest, here⟩ := List.exists_cons_of_ne_nil (word?_rest_ne_nil h)
  have reached := (Cursor.ReachesBy.next here).trans onward
  -- Any other word than a template is written however it is.
  have plain (goes : w.kind ≠ .endOfInput)
      (other : ∀ raw isHead isTail, w.kind ≠ .template raw isHead isTail) :
      ∃ text, c.ReachesBy w.cursor text ∧ text ≠ [] ∧ w.kind.Written text :=
    ⟨_, reached, List.cons_ne_nil x behind, goes, fun raw isHead isTail h =>
      absurd h (other raw isHead isTail)⟩
  have chunk (isHead : Bool) (narrow : x.utf8Size = 1)
      (scanned : w = Template.scan isHead c.next) :
      ∃ text, c.ReachesBy w.cursor text ∧ text ≠ [] ∧ w.kind.Written text := by
    obtain ⟨text, there, written⟩ := Template.scan_written isHead here narrow
    subst scanned
    refine ⟨text, there, ?_, written⟩
    rintro rfl
    have far := reached.offset_lt (List.cons_ne_nil x behind)
    have := there.2
    simp at this
    omega
  have narrow {y : Char} (there : c.peek? = some y) (one : y.utf8Size = 1) : x.utf8Size = 1 := by
    rw [Cursor.peek?, here] at there
    rwa [Option.some.inj there]
  cases reads_of_word? h with
  | template quote => exact chunk true (narrow quote rfl) rfl
  | chunk brace => exact chunk false (narrow brace rfl) rfl
  | string => exact plain (by simp [StringLiteral.scan]) fun _ _ _ => by simp [StringLiteral.scan]
  | number =>
      obtain ⟨value, number⟩ := Numeral.scan_kind c
      exact plain (by simp [number]) fun _ _ _ => by simp [number]
  | regExp =>
      obtain ⟨pattern, flags, regExp⟩ := RegExpLiteral.scan_kind c
      exact plain (by simp [regExp]) fun _ _ _ => by simp [regExp]
  | name =>
      obtain ⟨word, keyword⟩ | ⟨name, identifier⟩ := scanWord_kind c
      · exact plain (by simp [keyword]) fun _ _ _ => by simp [keyword]
      · exact plain (by simp [identifier]) fun _ _ _ => by simp [identifier]
  | punctuator => exact plain (by simp) fun _ _ _ => by simp

/-! ## Lexemes -/

/-- The tile of a word; the end of input has none. -/
def Token.tiles (t : Token) : List Tile := if t.isEnd then [] else [.word t]

/-- Where the comments of a lexeme and its token lie. -/
def Lexeme.spans (l : Lexeme) : List Span := l.comments.map Comment.span ++ [l.token.span]

namespace Scanner

/-- Stray characters between the trivia are tiles as well. -/
theorem seek_lays (s : Scanner) (t : Trivia) : ∃ tiles, t.Lays tiles (s.seek t).1 := by
  fun_induction seek s t with
  | case1 t u none => exact t.skip_lays
  | case2 t u x rest here word found => exact t.skip_lays
  | case3 t u x rest here none ih =>
      obtain ⟨trivia, ht⟩ := t.skip_lays
      obtain ⟨stray, hs⟩ := Trivia.skipStray_lays here
      obtain ⟨more, hm⟩ := ih
      exact ⟨_, (ht.trans hs).trans hm⟩

/-- Where no word was found, the text is at its end. -/
theorem rest_of_seek {s : Scanner} {t : Trivia} (h : (s.seek t).2 = none) :
    (s.seek t).1.cursor.rest = [] := by
  fun_induction seek s t with
  | case1 t u none => exact none
  | case2 t u x rest here word found => cases h
  | case3 t u x rest here none ih => exact ih h

/-- The tiles of a lexeme: those of its trivia, and behind them one for its word, which
    the end of input does not have. -/
theorem next_tiled (s : Scanner) : ∃ trivia, trivia.filterMap Tile.word? = [] ∧
    let tiles := trivia ++ s.next.1.token.tiles
    Tiled s.cursor tiles s.next.2.cursor ∧
      s.next.1.comments = trivia.filterMap Tile.comment? ∧
        (∀ d, Tile.stray d ∈ tiles → d ∈ s.next.1.diagnostics) ∧
          (s.next.1.token.isEnd = true → s.next.2.cursor.rest = [] ∧
            s.next.1.token.span = .point s.next.2.cursor.offset) := by
  obtain ⟨tiles, laid⟩ := s.seek_lays (Trivia.start s.cursor)
  have comments := laid.comments
  rw [next]
  split
  -- A word behind the trivia is the last tile.
  · rename_i t word found
    rw [found] at laid comments
    have stands := word?_of_seek (s := s) (t := Trivia.start s.cursor) (by rw [found])
    rw [found] at stands
    obtain ⟨text, reached, some, written⟩ := word?_written stands
    have goes : (Lexeme.ofWord t word).token.isEnd = false := ofWord_isEnd stands
    have last : (Lexeme.ofWord t word).token.tiles = [.word (Lexeme.ofWord t word).token] :=
      if_neg (by simp [goes])
    refine ⟨tiles, laid.wordless, ?_, comments, fun d hd => ?_, fun ends => ?_⟩
    · rw [last]
      exact laid.tiled.append (.single reached ⟨some, written⟩ rfl)
    · rw [last, List.mem_append, List.mem_singleton] at hd
      refine List.mem_append_left _ (Array.mem_toList_iff.mpr (laid.reported d (.inr ?_)))
      exact hd.resolve_right (by simp)
    · rw [goes] at ends
      cases ends
  -- The end lays no tile of its own.
  · rename_i t found
    have ends := rest_of_seek (s := s) (t := Trivia.start s.cursor) (by rw [found])
    rw [found] at laid comments ends
    have last : (Lexeme.ofEnd t).token.tiles = [] := if_pos (ofEnd_isEnd t)
    refine ⟨tiles, laid.wordless, ?_, comments, fun d hd => ?_, fun _ => ⟨ends, rfl⟩⟩
    · rw [last, List.append_nil]
      exact laid.tiled
    · rw [last, List.append_nil] at hd
      exact Array.mem_toList_iff.mpr (laid.reported d (.inr hd))

end Scanner

/-- The lexemes are those of a text from a cursor on: the tiles reach to its end,
    the words among them are the tokens up to the end of input, the comments are
    those of the lexemes, both stand as they do in the lexemes, and what is stray was
    reported. -/
structure Lexeme.Cover (lexemes : List Lexeme) (c stop : Cursor) (tiles : List Tile) : Prop where
  tiled : Tiled c tiles stop
  rest : stop.rest = []
  tokens : ∃ last, lexemes.map token = tiles.filterMap Tile.word? ++ [last] ∧
    last.isEnd = true ∧ last.span = .point stop.offset
  comments : lexemes.flatMap Lexeme.comments = tiles.filterMap Tile.comment?
  spans : lexemes.flatMap Lexeme.spans = tiles.filterMap Tile.solid? ++ [.point stop.offset]
  reported : ∀ d, .stray d ∈ tiles → d ∈ lexemes.flatMap Lexeme.diagnostics

namespace Scanner

/-- The lexemes from a scanner on cover the rest of the text. -/
theorem Runs.cover {s : Scanner} {lexemes : List Lexeme} (run : s.Runs lexemes) :
    ∃ stop tiles, Lexeme.Cover lexemes s.cursor stop tiles := by
  induction run with
  | @stop s ends =>
      obtain ⟨trivia, wordless, tiled, comments, reported, last⟩ := s.next_tiled
      have none : s.next.1.token.tiles = [] := if_pos ends
      rw [none, List.append_nil] at tiled reported
      obtain ⟨rest, place⟩ := last ends
      refine ⟨_, trivia, tiled, rest, ⟨s.next.1.token, ?_⟩, ?_, ?_, ?_⟩
      · rw [wordless]
        exact ⟨rfl, ends, place⟩
      · simpa using comments
      · rw [Tile.filterMap_solid? wordless, ← comments, ← place]
        exact List.flatMap_singleton _ _
      · simpa using reported
  | @step s lexemes goes run ih =>
      obtain ⟨trivia, wordless, tiled, comments, reported, -⟩ := s.next_tiled
      have one : s.next.1.token.tiles = [.word s.next.1.token] := if_neg (by simp [goes])
      rw [one] at tiled reported
      obtain ⟨stop, more, behind⟩ := ih
      obtain ⟨last, tokens, ends⟩ := behind.tokens
      refine ⟨stop, trivia ++ [.word s.next.1.token] ++ more, tiled.append behind.tiled,
        behind.rest, ⟨last, ?_, ends⟩, ?_, ?_, ?_⟩
      · rw [List.map_cons, tokens, List.filterMap_append, List.filterMap_append, wordless]
        rfl
      · rw [List.flatMap_cons, behind.comments, comments, List.filterMap_append,
          List.filterMap_append]
        exact congrArg (· ++ _) (List.append_nil _).symm
      · rw [List.flatMap_cons, behind.spans, List.filterMap_append, List.filterMap_append,
          Tile.filterMap_solid? wordless, ← comments, ← List.append_assoc]
        rfl
      · intro d hd
        rw [List.flatMap_cons, List.mem_append]
        exact (List.mem_append.mp hd).imp (reported d) (behind.reported d)

end Scanner

/-- The lexemes of a text cover it. -/
theorem Lexeme.ofText_cover (text : List Char) : ∃ stop tiles,
    Cover (ofText text) ⟨0, text⟩ stop tiles ∧ stop.offset = Text.byteLength text := by
  obtain ⟨stop, tiles, cover⟩ := (runs_ofText text).cover
  refine ⟨stop, tiles, cover, ?_⟩
  obtain ⟨whole, front, reached⟩ := cover.tiled.reaches
  rw [reached, show text = whole ++ stop.rest from front, cover.rest, List.append_nil]
  exact Nat.zero_add _

namespace Lexeme.Cover

variable {lexemes : List Lexeme} {c stop : Cursor} {tiles : List Tile} {text : List Char}

/-- Each word lies behind those in front of it. -/
theorem words_ordered (h : Cover lexemes c stop tiles) :
    (tiles.filterMap Tile.word?).Pairwise fun t u => t.span.Before u.span :=
  h.tiled.ordered.filterMap _ fun a b before t ht u hu => by
    rwa [Tile.span_of_word? ht, Tile.span_of_word? hu]

/-- Each comment lies behind those in front of it. -/
theorem comments_ordered (h : Cover lexemes c stop tiles) :
    (lexemes.flatMap Lexeme.comments).Pairwise fun c d => c.span.Before d.span := by
  rw [h.comments]
  exact h.tiled.ordered.filterMap _ fun a b before c hc d hd => by
    rwa [Tile.span_of_comment? hc, Tile.span_of_comment? hd]

/-- So it is with comments and words together, and with the end of input. -/
theorem spans_ordered (h : Cover lexemes c stop tiles) :
    (lexemes.flatMap Lexeme.spans).Pairwise Span.Before := by
  rw [h.spans, List.pairwise_append]
  refine ⟨h.tiled.ordered.filterMap _ fun a b before s hs t ht => ?_,
    List.pairwise_singleton _ _, fun s hs t ht => ?_⟩
  · rwa [Tile.span_of_solid? hs, Tile.span_of_solid? ht]
  · obtain ⟨tile, there, found⟩ := List.mem_filterMap.mp hs
    obtain ⟨front, back, text, -, -, reached, -, place⟩ := h.tiled.place there
    rw [List.mem_singleton.mp ht, Tile.span_of_solid? found, place]
    exact reached.offset_le

/-- The comments of the lexemes are tiles. -/
theorem mem_of_comment (h : Cover lexemes c stop tiles) {d : Comment}
    (hd : d ∈ lexemes.flatMap Lexeme.comments) : .comment d ∈ tiles :=
  Tile.mem_of_comment? (h.comments ▸ hd)

end Lexeme.Cover

/-- The span reads a single character that separates words, or that was reported
    with this span as being part of no word. -/
def Lexed.LeavesOut (scanned : Lexed) (text : List Char) (span : Span) : Prop :=
  ∃ x, Text.slice text span = [x] ∧
    (Character.isBlank x = true ∨ Character.isLineTerminator x = true ∨
      ∃ d ∈ scanned.diagnostics, d.fault = .unexpectedCharacter x ∧ d.span = span)

/-- Scanning parts the text without loss.  The tokens up to the end of input and
    the comments are read from the text, one behind the other and none over
    another; a byte outside of them belongs to a character that separates words
    or was reported; and the text of a comment is what its span reads without the
    delimiters. -/
theorem lex_partition (text : List Char) : ∃ words last,
    (lex text).tokens = words ++ [last] ∧
      (last.kind = .endOfInput ∧ last.span = .point (Text.byteLength text)) ∧
      (∀ t ∈ words, t.kind ≠ .endOfInput ∧ t.span.ReadFrom text) ∧
      (∀ c ∈ (lex text).comments, c.span.ReadFrom text) ∧
      words.Pairwise (fun t u => t.span.Before u.span) ∧
      (lex text).comments.Pairwise (fun c d => c.span.Before d.span) ∧
      (∀ t ∈ words, ∀ c ∈ (lex text).comments, t.span.Before c.span ∨ c.span.Before t.span) ∧
      (∀ offset < Text.byteLength text,
        (∃ t ∈ words, t.span.Covers offset) ∨ (∃ c ∈ (lex text).comments, c.span.Covers offset) ∨
          ∃ span, span.ReadFrom text ∧ span.Covers offset ∧ (lex text).LeavesOut text span) ∧
      ∀ c ∈ (lex text).comments, ∃ before after,
        text = before ++ Text.slice text c.span ++ after ∧
          c.Written (Text.slice text c.span) after := by
  obtain ⟨stop, tiles, cover, length⟩ := Lexeme.ofText_cover text
  obtain ⟨last, tokens, ends, place⟩ := cover.tokens
  have tiled := cover.tiled
  have comments : (lex text).comments = tiles.filterMap Tile.comment? := cover.comments
  have comment {c : Comment} (hc : c ∈ (lex text).comments) : .comment c ∈ tiles :=
    cover.mem_of_comment hc
  refine ⟨tiles.filterMap Tile.word?, last, tokens, ⟨Token.isEnd_iff.mp ends, length ▸ place⟩,
    fun t ht => ⟨?_, tiled.readFrom (Tile.mem_of_word? ht)⟩,
    fun c hc => tiled.readFrom (comment hc), cover.words_ordered, cover.comments_ordered,
    fun t ht c hc => tiled.apart (Tile.mem_of_word? ht) (comment hc) (by simp),
    fun offset inside => ?_, fun c hc => tiled.reads (comment hc)⟩
  · obtain ⟨before, after, -, -, written⟩ := tiled.reads (Tile.mem_of_word? ht)
    exact written.1
  · obtain ⟨tile, there, covered⟩ := tiled.covers (Nat.zero_le offset) (length ▸ inside)
    have out (left : (lex text).LeavesOut text tile.span) :
        ∃ span : Span, span.ReadFrom text ∧ span.Covers offset ∧ (lex text).LeavesOut text span :=
      ⟨tile.span, tiled.readFrom there, covered, left⟩
    obtain ⟨before, after, -, reads⟩ := tiled.reads there
    cases tile with
    | word t => exact .inl ⟨t, List.mem_filterMap.mpr ⟨_, there, rfl⟩, covered⟩
    | comment c =>
        exact .inr (.inl ⟨c, comments ▸ List.mem_filterMap.mpr ⟨_, there, rfl⟩, covered⟩)
    | blank span =>
        obtain ⟨x, slice, separates⟩ := reads
        exact .inr (.inr (out ⟨x, slice, separates.imp_right .inl⟩))
    | stray d =>
        obtain ⟨x, slice, fault⟩ := reads
        exact .inr (.inr (out ⟨x, slice, .inr (.inr ⟨d, cover.reported d there, fault, rfl⟩)⟩))

end ScriptTree

import Mathlib.Data.List.TakeWhile
import ScriptTree.Proofs.Grammar.Upholding
import ScriptTree.Proofs.Tree.Attachment

/-! # Standing — where a parse stands among the comments

    A text is a row of comments and tokens, one behind the other.  What was recorded at a
    place of a parse are the comments in front of the current token, so the two cursors
    that go along the comments are compared with offsets of the text: a node that is opened
    is given all that was not given before, and a node that is closed considers all that
    was not considered before. -/

namespace ScriptTree

/-- The comments and tokens of a text lie one behind the other. -/
theorem Lexeme.ofText_spans_ordered (text : List Char) :
    ((ofText text).flatMap spans).Pairwise Span.Before := by
  obtain ⟨stop, tiles, cover, -⟩ := ofText_cover text
  exact cover.spans_ordered

/-- A comment of a text covers something. -/
theorem Lexeme.comment_nonempty {text : List Char} {c : Comment}
    (h : c ∈ (ofText text).flatMap comments) : c.span.start < c.span.stop := by
  obtain ⟨stop, tiles, cover, -⟩ := ofText_cover text
  exact (cover.tiled.readFrom (cover.mem_of_comment h)).some

namespace Situation.StandsIn

variable {text : List Char} {s : Situation} {words : List Lexeme} {c : Comment} {t : Token}

/-- The comments up to the current lexeme end in front of its token. -/
theorem comment_before (stream : Lexeme.ofText text = words ++ s.ahead)
    (hc : c ∈ (words ++ [s.current]).flatMap Lexeme.comments) :
    c.span.stop ≤ s.token.span.start := by
  have ordered := Lexeme.ofText_spans_ordered text
  rw [stream, Situation.ahead, List.flatMap_append, List.flatMap_cons,
    ← List.append_assoc] at ordered
  have front := (List.pairwise_append.mp ordered).1
  rw [Lexeme.spans, ← List.append_assoc] at front
  refine (List.pairwise_append.mp front).2.2 c.span ?_ _ (List.mem_singleton_self _)
  rw [List.flatMap_append, List.mem_append, List.flatMap_singleton] at hc
  rcases hc with hc | hc
  · obtain ⟨l, hl, hc⟩ := List.mem_flatMap.mp hc
    refine List.mem_append_left _ (List.mem_flatMap.mpr ⟨l, hl, ?_⟩)
    exact List.mem_append_left _ (List.mem_map_of_mem hc)
  · exact List.mem_append_right _ (List.mem_map_of_mem hc)

/-- Those of the lexemes behind it start behind its token. -/
theorem comment_behind (h : s.StandsIn text) (hc : c ∈ s.upcoming.flatMap Lexeme.comments) :
    s.token.span.stop ≤ c.span.start := by
  obtain ⟨words, stream, -⟩ := h.stream
  have ordered := Lexeme.ofText_spans_ordered text
  rw [stream, Situation.ahead, List.flatMap_append, List.flatMap_cons] at ordered
  have behind := (List.pairwise_append.mp ordered).2.1
  obtain ⟨l, hl, hc⟩ := List.mem_flatMap.mp hc
  refine (List.pairwise_append.mp behind).2.2 s.token.span ?_ c.span ?_
  · exact List.mem_append_right _ (List.mem_singleton_self _)
  · exact List.mem_flatMap.mpr ⟨l, hl, List.mem_append_left _ (List.mem_map_of_mem hc)⟩

/-- A token of the text was taken, is the current one, or is not in front of the next. -/
theorem token_cases (h : s.StandsIn text) (ht : t ∈ (lex text).tokens) :
    t.span.stop ≤ s.previousEnd ∨ t = s.token ∨ s.taken.token.span.start ≤ t.span.start := by
  obtain ⟨words, stream, last⟩ := h.stream
  have placed := Lexeme.ofText_placed text
  have ordered := placed.ordered
  obtain ⟨l, hl, rfl⟩ := List.mem_map.mp ht
  rw [stream, List.map_append, List.pairwise_append] at ordered
  rw [stream, Situation.ahead, List.mem_append, List.mem_cons] at hl
  -- A token was consumed, is the current one, or is still upcoming.
  rcases hl with hl | rfl | hl
  · left
    -- Of those consumed only the last one is compared with; the others lie before it.
    rcases List.eq_nil_or_concat' words with none | ⟨front, back, rfl⟩
    · rw [none] at hl
      cases hl
    · have last : s.previousEnd = back.token.span.stop := by simpa using last
      rw [last]
      rcases List.mem_append.mp hl with hl | hl
      · have front := ordered.1
        rw [List.map_append, List.pairwise_append] at front
        have before := front.2.2 _ (List.mem_map_of_mem hl) _ (List.mem_singleton_self _)
        refine Nat.le_trans before (placed.tokens _ ?_).span.le
        rw [stream]
        exact List.mem_map_of_mem (List.mem_append_left _
          (List.mem_append_right _ (List.mem_singleton_self _)))
      · exact Nat.le_of_eq (congrArg (·.token.span.stop) (List.mem_singleton.mp hl))
  · exact .inr (.inl rfl)
  · right; right
    -- With a token upcoming, the current one is not the end.
    have goes : s.token.isEnd = false := Bool.eq_false_iff.mpr fun ends => by
      rw [h.lies.placed.terminated.eq_nil_of_isEnd ends] at hl
      cases hl
    rw [Situation.upcoming_eq h.lies.placed.terminated goes] at hl
    rcases List.mem_cons.mp hl with rfl | hl
    · exact Nat.le_refl _
    · have there := h.taken.lies
      have behind := (List.pairwise_cons.mp there.placed.ordered).1
      exact Nat.le_trans there.token.span.le (behind _ (List.mem_map_of_mem hl))

/-- A token that starts behind the current one is the next one, or behind it. -/
theorem next_le (h : s.StandsIn text) (ht : t ∈ (lex text).tokens)
    (later : s.token.span.start < t.span.start) :
    s.taken.token.span.start ≤ t.span.start := by
  rcases h.token_cases ht with taken | rfl | le
  · have behind := h.lies.behind
    have le := ((Lexeme.ofText_placed text).tokens _ ht).span.le
    omega
  · exact absurd later (Nat.lt_irrefl _)
  · exact le

/-- One that ends behind the last token that was taken is the current one, or behind it. -/
theorem le_of_previousEnd_lt (h : s.StandsIn text) (ht : t ∈ (lex text).tokens)
    (later : s.previousEnd < t.span.stop) : s.token.span.start ≤ t.span.start := by
  rcases h.token_cases ht with taken | rfl | le
  · exact absurd later (Nat.not_lt.mpr taken)
  · exact Nat.le_refl _
  · exact Nat.le_trans (Laid.taken h.lies).start_le le

/-- So it is with the end of the last token that was taken. -/
theorem exists_last (h : s.StandsIn text) (some : 0 < s.previousEnd) :
    ∃ t ∈ (lex text).tokens, t.span.stop = s.previousEnd := by
  obtain ⟨words, stream, last⟩ := h.stream
  rcases List.eq_nil_or_concat words with none | ⟨front, back, rfl⟩
  · rw [none] at last
    exact absurd last (Nat.ne_of_gt some)
  · refine ⟨back.token, List.mem_map_of_mem ?_, by simpa using last.symm⟩
    rw [stream]
    simp

end Situation.StandsIn

namespace Annotations

section

variable (options : ParseOptions) (lines : LineIndex) (file : String) (text : List Char)

/-- The comments of a text as a tree records them. -/
def allComments : List Comment :=
  ((Lexeme.ofText text).flatMap Lexeme.comments).map (Comment.placed options lines file)

/-- The parse stands in the text, and has recorded its comments up to the current token. -/
structure Stands (p : Progress Annotations) : Prop where
  situation : p.situation.StandsIn text
  comments : allComments options lines file text = p.observed.comments.toList ++
    (p.situation.upcoming.flatMap Lexeme.comments).map (Comment.placed options lines file)
  leading : p.observed.leadingCursor ≤ p.observed.comments.size
  trailing : p.observed.trailingCursor ≤ p.observed.comments.size

end

variable {options : ParseOptions} {lines : LineIndex} {file : String} {text : List Char}
  {p q r : Progress Annotations} {c : Comment} {own : Bool} {o : Grammar.Opened}

/-- A comment is recorded with its span. -/
theorem placed_span (c : Comment) : (c.placed options lines file).span = c.span :=
  congrArg (·.2.2) (c.placed_same options lines file)

/-- No comment is empty. -/
theorem nonempty_of_mem (hc : c ∈ allComments options lines file text) :
    c.span.start < c.span.stop := by
  obtain ⟨d, hd, rfl⟩ := List.mem_map.mp hc
  rw [placed_span]
  exact Lexeme.comment_nonempty hd

namespace Stands

/-- A recorded comment is one of the text's. -/
theorem mem_of_recorded (h : Stands options lines file text p)
    (hc : c ∈ p.observed.comments.toList) : c ∈ allComments options lines file text := by
  rw [h.comments]
  exact List.mem_append_left _ hc

/-- A comment that was given is one of the text's. -/
theorem mem_of_given (h : Stands options lines file text p) (hc : c ∈ p.observed.given) :
    c ∈ allComments options lines file text :=
  h.mem_of_recorded (List.mem_of_mem_take hc)

/-- The comments in front of the current token were recorded, and no others. -/
theorem recorded_iff (h : Stands options lines file text p)
    (hc : c ∈ allComments options lines file text) : c ∈ p.observed.comments.toList ↔
      c.span.stop ≤ p.situation.token.span.start := by
  constructor
  · intro recorded
    obtain ⟨words, stream, -⟩ := h.situation.stream
    have whole := h.comments
    rw [allComments, stream, Situation.ahead, List.flatMap_append, List.flatMap_cons,
      ← List.append_assoc, List.map_append] at whole
    rw [← List.append_cancel_right whole] at recorded
    obtain ⟨d, hd, rfl⟩ := List.mem_map.mp recorded
    rw [placed_span]
    refine Situation.StandsIn.comment_before stream ?_
    rw [List.flatMap_append, List.flatMap_singleton]
    exact hd
  · intro front
    have some := nonempty_of_mem hc
    rw [h.comments, List.mem_append] at hc
    refine hc.resolve_right fun behind => ?_
    obtain ⟨d, hd, rfl⟩ := List.mem_map.mp behind
    have behind := h.situation.comment_behind hd
    have le := h.situation.lies.token.span.le
    rw [placed_span] at front some
    omega

/-- Behind a token that is taken the comments of the next lexeme were recorded as well. -/
theorem taken {mode : Mode} (h : Stands options lines file text p) :
    Stands options lines file text (p.taken ⟨mode, lines, observer options lines file⟩) := by
  let setting : Setting Annotations := ⟨mode, lines, observer options lines file⟩
  have situation : (p.taken setting).situation.StandsIn text := by
    rw [Progress.situation_taken]
    exact h.situation.taken
  cases ends : p.situation.token.isEnd with
  | true =>
      rw [Progress.taken, if_pos ends]
      exact h
  | false =>
      have upcoming := Situation.upcoming_eq h.situation.lies.placed.terminated ends
      let next := p.situation.taken.current
      obtain ⟨u, -, told⟩ := addToken_eq ends p.observed
      have observed : (p.taken setting).observed = { p.observed with
          tokens := p.observed.tokens.push u
          comments := p.observed.comments ++
            (next.comments.map (Comment.placed options lines file)).toArray
          diagnostics := p.observed.diagnostics ++
            (next.diagnostics.map fun d => d.locate lines).toArray } := by
        have token : setting.observer.token p.situation.token p.observed = _ := told
        rw [Progress.taken, if_neg (by simp [ends])]
        simp only [upcoming, Situation.ahead, token]
        exact pass_eq next _
      refine ⟨situation, ?_, ?_, ?_⟩
      · rw [h.comments, upcoming, Progress.situation_taken, observed]
        simp [Situation.ahead, next]
      · rw [observed]
        exact Nat.le_trans h.leading (by simp)
      · rw [observed]
        exact Nat.le_trans h.trailing (by simp)

/-- A parse that stands still stands where it stood. -/
theorem of_still (h : Stands options lines file text p) (still : p.Still q) :
    Stands options lines file text q := by
  obtain ⟨depth, inFunction, rfl⟩ := still
  exact ⟨h.situation.of_same rfl rfl rfl, h.comments, h.leading, h.trailing⟩

/-- Opening a node moves a cursor. -/
theorem of_opens {mode : Mode} (h : Stands options lines file text p)
    (opens : p.Opens ⟨mode, lines, observer options lines file⟩ own o q) :
    Stands options lines file text q := by
  cases opens with
  | inherited => exact h
  | here =>
      refine ⟨h.situation, h.comments, ?_, h.trailing⟩
      have front := (p.observed.leadingAt_front p.situation.token.span.start).length_le
      rw [List.length_drop] at front
      have size : p.observed.comments.toList.length = p.observed.comments.size :=
        Array.length_toList
      have := h.leading
      show p.observed.leadingCursor + _ ≤ p.observed.comments.size
      omega

/-- The place where a node was opened is known from the place behind the opening. -/
theorem of_opened {mode : Mode} (h : Stands options lines file text q)
    (opens : p.Opens ⟨mode, lines, observer options lines file⟩ own o q) :
    Stands options lines file text p := by
  cases opens with
  | inherited => exact h
  | here =>
      exact ⟨h.situation, h.comments, Nat.le_trans (Nat.le_add_right _ _) h.leading, h.trailing⟩

/-- So does closing one. -/
theorem close {mode : Mode} (h : Stands options lines file text p) (shape : Shape Node)
    (stop : Nat) : Stands options lines file text
      (p.closeAt ⟨mode, lines, observer options lines file⟩ o shape stop).2 :=
  ⟨h.situation, h.comments, h.leading, Nat.le_refl _⟩

/-- Taking a token gives no comment. -/
theorem given_taken {mode : Mode} (h : Stands options lines file text p) :
    (p.taken ⟨mode, lines, observer options lines file⟩).observed.given = p.observed.given := by
  obtain ⟨tokens, comments, diagnostics, observed⟩ := observed_taken p
  rw [observed, given, given]
  simp only [Array.toList_append]
  exact List.take_append_of_le_length h.leading

/-- A comment that was not recorded starts behind the start of the current token. -/
theorem start_lt (h : Stands options lines file text p)
    (hc : c ∈ allComments options lines file text) (later : c ∉ p.observed.comments.toList) :
    p.situation.token.span.start < c.span.start := by
  rw [h.comments, List.mem_append] at hc
  obtain ⟨d, hd, rfl⟩ := List.mem_map.mp (hc.resolve_left later)
  have goes : p.situation.token.isEnd = false := by
    refine Bool.eq_false_iff.mpr fun ends => ?_
    rw [h.situation.lies.placed.terminated.eq_nil_of_isEnd ends] at hd
    cases hd
  rw [placed_span]
  exact Nat.lt_of_lt_of_le (h.situation.lies.token.nonempty goes)
    (h.situation.comment_behind hd)

/-- A node that is opened is given all comments in front of it that no other node was
    given. -/
theorem given_of_opens {mode : Mode} (h : Stands options lines file text p)
    (opens : p.Opens ⟨mode, lines, observer options lines file⟩ true o q) :
    q.observed.given = p.observed.given ++ o.leading ∧
      q.observed.given = p.observed.comments.toList := by
  cases opens
  have all : p.observed.leadingAt p.situation.token.span.start =
      p.observed.comments.toList.drop p.observed.leadingCursor := by
    rw [leadingAt, toList_extract_size, List.takeWhile_eq_self_iff]
    intro c hc
    have recorded := List.mem_of_mem_drop hc
    exact decide_eq_true ((h.recorded_iff (h.mem_of_recorded recorded)).mp recorded)
  have given := given_openNode p.observed p.situation.token.span.start
  refine ⟨given, ?_⟩
  rw [all] at given
  exact given.trans (List.take_append_drop _ _)

end Stands

end Annotations

end ScriptTree

import ScriptTree.Proofs.Grammar.Nesting

/-! # The stream — how many lexemes are behind a place of a parse

    A parse reads the lexemes of a text in order, so those that it has taken and those
    that are ahead of it make up the text's stream.  Two of its places part the stream
    into what is in front, what is between and what is behind them. -/

namespace ScriptTree

/-- The parse stands in the text and in its stream, behind the last token that it took. -/
structure Situation.StandsIn (s : Situation) (text : List Char) : Prop where
  lies : s.LiesIn text
  stream : ∃ words, Lexeme.ofText text = words ++ s.ahead ∧
    s.previousEnd = (words.getLast?.map (·.token.span.stop)).getD 0

namespace Situation.StandsIn

variable {text : List Char} {s t : Situation}

/-- Only the place counts. -/
theorem of_same (h : s.StandsIn text) (current : t.current = s.current)
    (upcoming : t.upcoming = s.upcoming) (previousEnd : t.previousEnd = s.previousEnd) :
    t.StandsIn text := by
  obtain ⟨⟨placed, boundary, behind⟩, words, stream, last⟩ := h
  have ahead : t.ahead = s.ahead := by rw [Situation.ahead, current, upcoming, Situation.ahead]
  have token : t.token = s.token := congrArg Lexeme.token current
  refine ⟨⟨ahead ▸ placed, previousEnd ▸ boundary, ?_⟩, words, ahead ▸ stream, ?_⟩
  · rw [previousEnd, token]
    exact behind
  · rw [previousEnd, last]

/-- One lexeme more is behind. -/
theorem taken (h : s.StandsIn text) : s.taken.StandsIn text := by
  refine ⟨h.lies.taken, ?_⟩
  cases goes : s.token.isEnd with
  | true =>
      rw [taken_of_isEnd goes]
      exact h.stream
  | false =>
      obtain ⟨words, stream, -⟩ := h.stream
      refine ⟨words ++ [s.current], ?_, ?_⟩
      · rw [stream, ahead, upcoming_eq h.lies.placed.terminated goes, List.append_assoc]
        rfl
      · rw [previousEnd_taken goes, List.getLast?_concat]
        rfl

/-- The current lexeme is one of the text's. -/
theorem current_mem (h : s.StandsIn text) : s.current ∈ Lexeme.ofText text := by
  obtain ⟨words, stream, -⟩ := h.stream
  rw [stream]
  exact List.mem_append_right _ List.mem_cons_self

/-- Behind a token that is taken another one follows. -/
theorem next (h : s.StandsIn text) (goes : s.token.isEnd = false) :
    ∃ words next rest, Lexeme.ofText text = words ++ s.current :: next :: rest ∧
      next.token = s.taken.token := by
  obtain ⟨words, stream, -⟩ := h.stream
  rw [ahead, upcoming_eq h.lies.placed.terminated goes] at stream
  exact ⟨words, s.taken.current, s.taken.upcoming, stream, rfl⟩

/-- A node that ends behind the last token that was taken ends with it. -/
theorem last {n : Node} (h : s.StandsIn text) (stop : n.span.stop = s.previousEnd)
    (some : 0 < n.span.stop) : ∃ words last rest,
      Lexeme.ofText text = words ++ last :: s.current :: rest ∧
        last.token.span.stop = n.span.stop := by
  obtain ⟨words, stream, last⟩ := h.stream
  rcases List.eq_nil_or_concat words with none | ⟨front, l, rfl⟩
  · subst none
    have zero : s.previousEnd = 0 := last
    omega
  · refine ⟨front, l, s.upcoming, ?_, ?_⟩
    · rw [stream]
      simp [Situation.ahead]
    · rw [stop, last]
      simp

/-- Between two places that more than nothing lies between there are the lexeme at the first
    one and further ones, the last of which was the last one taken before the second. -/
theorem between (h : s.StandsIn text) (k : t.StandsIn text)
    (more : s.token.span.start < t.previousEnd) : ∃ further,
      s.ahead = s.current :: (further ++ t.ahead) ∧
        ((further.map Lexeme.token).getLastD s.token).span.stop = t.previousEnd := by
  obtain ⟨front, here, _⟩ := h.stream
  obtain ⟨words, there, last⟩ := k.stream
  -- Both places cut the same row of lexemes, and one of the cuts is in front of the other.
  rcases List.append_eq_append_iff.mp (here.symm.trans there) with
    ⟨group, whole, ahead⟩ | ⟨group, -, ahead⟩
  · cases group with
    | nil =>
        have same : s.current = t.current := (List.cons.inj ahead).1
        have behind := k.lies.behind
        rw [Situation.token, ← same] at behind
        exact absurd (Nat.lt_of_lt_of_le more behind) (Nat.lt_irrefl _)
    | cons first further =>
        obtain ⟨rfl, -⟩ := List.cons.inj ahead
        refine ⟨further, ahead, ?_⟩
        rcases List.eq_nil_or_concat further with rfl | ⟨inner, l, rfl⟩
        · rw [last, whole]
          simp [Situation.token]
        · have whole : words = (front ++ s.current :: inner) ++ [l] := by simp [whole]
          rw [last, whole, List.getLast?_concat]
          simp
  -- The second place is in front of the first one, which contradicts the order.
  · have order := k.lies.placed.ordered
    have behind := k.lies.behind
    rw [ahead] at order
    have before : t.token.span.start ≤ s.token.span.start := by
      cases group with
      | nil =>
          have same : t.current = s.current := (List.cons.inj ahead).1
          exact Nat.le_of_eq (congrArg (·.token.span.start) same)
      | cons first further =>
          obtain ⟨rfl, -⟩ := List.cons.inj ahead
          have first : t.token.span.Before s.token.span :=
            (List.pairwise_cons.mp order).1 _ (by simp [Situation.ahead, Situation.token])
          exact Nat.le_trans k.lies.token.span.le first
    omega

end Situation.StandsIn

/-- So it does at its first lexeme. -/
theorem entry_standsIn {σ : Type} {setting : Setting σ} {text : List Char} {first : Lexeme}
    {rest : List Lexeme} {a : σ} (lexemes : Lexeme.ofText text = first :: rest) :
    (Progress.entry setting first rest a).situation.StandsIn text :=
  ⟨entry_liesIn lexemes, [], lexemes, rfl⟩

end ScriptTree

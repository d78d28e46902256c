import ScriptTree.Grammar.Machine
import ScriptTree.Proofs.Lexeme.Ending

/-! # Positions — how far a parse has come

    The situation of a parse is a place in a stream of lexemes.  `Leads` says
    that one situation lies behind another in the same stream, by as many
    tokens as were taken between them; so two of them that have taken equally
    many tokens stand at the same lexeme.  `taken` is the situation behind the
    current token, which is where every parse goes that takes it. -/

namespace ScriptTree.Situation

variable {s t u : Situation}

/-- The current lexeme and those behind it. -/
def ahead (s : Situation) : List Lexeme := s.current :: s.upcoming

/-- How many lexemes stand behind the current one. -/
def remaining (s : Situation) : Nat := s.upcoming.length

/-- The situation behind the current token; the end of input stays. -/
def taken (s : Situation) : Situation :=
  if s.token.isEnd then s
  else
    { s with
      current := s.upcoming.headD s.current
      upcoming := s.upcoming.tail
      previousEnd := s.token.span.stop
      consumed := s.consumed + 1 }

/-- `t` lies at or behind `s` in the same stream. -/
def Leads (s t : Situation) : Prop :=
  ∃ words, s.ahead = words ++ t.ahead ∧ t.consumed = s.consumed + words.length

namespace Leads

/-- Nothing has been taken. -/
theorem refl (s : Situation) : s.Leads s := ⟨[], rfl, rfl⟩

/-- Leading on is transitive. -/
theorem trans (h : s.Leads t) (k : t.Leads u) : s.Leads u := by
  obtain ⟨v, hv, hc⟩ := h
  obtain ⟨w, hw, hd⟩ := k
  refine ⟨v ++ w, ?_, ?_⟩
  · rw [hv, hw, List.append_assoc]
  · rw [hd, hc, List.length_append, Nat.add_assoc]

/-- The count of taken tokens tells how far a situation lies behind. -/
theorem remaining_add (h : s.Leads t) :
    t.remaining + t.consumed = s.remaining + s.consumed := by
  obtain ⟨words, hw, hc⟩ := h
  have hl := congrArg List.length hw
  simp only [ahead, List.length_cons, List.length_append] at hl
  simp only [remaining]
  omega

/-- Tokens are only ever taken. -/
theorem consumed_le (h : s.Leads t) : s.consumed ≤ t.consumed := by
  obtain ⟨words, -, hc⟩ := h
  omega

/-- Where no token was taken, the same lexemes stand. -/
theorem ahead_eq (h : s.Leads t) (same : t.consumed = s.consumed) : t.ahead = s.ahead := by
  obtain ⟨words, hw, hc⟩ := h
  have none : words = [] := List.length_eq_zero_iff.mp (by omega)
  subst none
  exact hw.symm

/-- Where no token was taken, the current one is the same. -/
theorem current_eq (h : s.Leads t) (same : t.consumed = s.consumed) :
    t.current = s.current :=
  (List.cons.inj (h.ahead_eq same)).1

/-- The end of the text is still ahead. -/
theorem terminated (h : s.Leads t) (hs : Lexeme.Terminated s.ahead) :
    Lexeme.Terminated t.ahead := by
  obtain ⟨words, hw, -⟩ := h
  rw [hw] at hs
  clear hw
  induction words with
  | nil => exact hs
  | cons w words ih =>
      refine ih (hs.tail ?_)
      cases ends : w.token.isEnd with
      | false => rfl
      | true =>
          have none := hs.eq_nil_of_isEnd ends
          simp [ahead] at none

end Leads

/-- The end of input is not taken. -/
theorem taken_of_isEnd (ends : s.token.isEnd = true) : s.taken = s := by
  rw [taken, if_pos ends]

/-- Behind any other token the lexemes that stood behind it are ahead. -/
theorem upcoming_eq (h : Lexeme.Terminated s.ahead) (goes : s.token.isEnd = false) :
    s.upcoming = s.taken.ahead := by
  obtain ⟨l, rest, next⟩ := List.exists_cons_of_ne_nil (h.tail goes).ne_nil
  simp [ahead, taken, goes, next]

/-- A token other than the end of input is counted. -/
theorem consumed_taken (goes : s.token.isEnd = false) :
    s.taken.consumed = s.consumed + 1 := by
  simp [taken, goes]

/-- It is the last one then. -/
theorem previousEnd_taken (goes : s.token.isEnd = false) :
    s.taken.previousEnd = s.token.span.stop := by
  simp [taken, goes]

/-- Taking a token leads on. -/
theorem leads_taken (h : Lexeme.Terminated s.ahead) : s.Leads s.taken := by
  cases goes : s.token.isEnd with
  | true =>
      rw [taken_of_isEnd goes]
      exact .refl s
  | false =>
      exact ⟨[s.current], by rw [ahead, upcoming_eq h goes]; rfl, consumed_taken goes⟩

end ScriptTree.Situation

import ScriptTree.Proofs.Lexeme.Step

/-! # The end of the stream

    A stream of lexemes is TERMINATED when it ends with the end of input and
    has it nowhere else.  The lexemes of a text are; so is every rest of a
    terminated stream that is not empty, which is what a parse keeps while it
    moves through the stream. -/

namespace ScriptTree

namespace Token

/-- A token of any other kind is not the end of input. -/
theorem isEnd_eq_false {t : Token} {kind : TokenKind} (h : t.kind = kind)
    (other : kind ≠ .endOfInput) : t.isEnd = false := by
  simp [isEnd, h, other]

/-- What reads something from a token but nothing from the end of input has not
    read the end of input. -/
theorem isEnd_of_reading {α : Type} {read : TokenKind → Option α} {a : α} {t : Token}
    (none : read .endOfInput = none) (h : read t.kind = some a) : t.isEnd = false := by
  refine isEnd_eq_false rfl fun ends => ?_
  rw [ends, none] at h
  cases h

/-- A punctuator is not the end. -/
theorem isEnd_of_isPunctuator {t : Token} {p : Punctuator} (h : t.isPunctuator p = true) :
    t.isEnd = false :=
  isEnd_eq_false (isPunctuator_iff.mp h) (by simp)

/-- Nor is a keyword. -/
theorem isEnd_of_isKeyword {t : Token} {k : Keyword} (h : t.isKeyword k = true) :
    t.isEnd = false :=
  isEnd_eq_false (isKeyword_iff.mp h) (by simp)

end Token

end ScriptTree

namespace ScriptTree.Lexeme

/-- The lexemes end with the end of input, which stands nowhere else. -/
def Terminated (lexemes : List Lexeme) : Prop :=
  ∃ words stop, lexemes = words ++ [stop] ∧ stop.token.isEnd = true ∧
    ∀ w ∈ words, w.token.isEnd = false

namespace Terminated

variable {l : Lexeme} {rest : List Lexeme}

/-- Where the end of input stands, nothing follows. -/
theorem eq_nil_of_isEnd (h : Terminated (l :: rest)) (ends : l.token.isEnd = true) :
    rest = [] := by
  obtain ⟨words, stop, hs, -, hw⟩ := h
  cases words with
  | nil => exact (List.cons.inj hs).2
  | cons w words =>
      obtain ⟨rfl, -⟩ := List.cons.inj hs
      rw [hw l (List.mem_cons_self ..)] at ends
      exact absurd ends Bool.false_ne_true

/-- Any other lexeme is followed by a stream that is terminated as well. -/
theorem tail (h : Terminated (l :: rest)) (goes : l.token.isEnd = false) :
    Terminated rest := by
  obtain ⟨words, stop, hs, he, hw⟩ := h
  cases words with
  | nil =>
      obtain ⟨rfl, -⟩ := List.cons.inj hs
      rw [goes] at he
      exact absurd he Bool.false_ne_true
  | cons w words =>
      obtain ⟨-, rfl⟩ := List.cons.inj hs
      exact ⟨words, stop, rfl, he, fun w hm => hw w (List.mem_cons_of_mem _ hm)⟩

/-- There is at least the end. -/
theorem ne_nil {lexemes : List Lexeme} (h : Terminated lexemes) : lexemes ≠ [] := by
  obtain ⟨words, stop, rfl, -, -⟩ := h
  simp

end Terminated

end ScriptTree.Lexeme

namespace ScriptTree

namespace Scanner

/-- A run ends with the end of input, which it reads nowhere else. -/
theorem Runs.terminated {s : Scanner} {lexemes : List Lexeme} (run : s.Runs lexemes) :
    Lexeme.Terminated lexemes := by
  induction run with
  | stop ends => exact ⟨[], _, rfl, ends, nofun⟩
  | step goes behind ih =>
      obtain ⟨words, stop, rfl, ends, others⟩ := ih
      exact ⟨_ :: words, stop, rfl, ends, List.forall_mem_cons.mpr ⟨goes, others⟩⟩

end Scanner

/-- The stream of a text is terminated. -/
theorem Lexeme.ofText_terminated (text : List Char) : Terminated (ofText text) :=
  (runs_ofText text).terminated

end ScriptTree

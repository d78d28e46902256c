import ScriptTree.Proofs.Lexeme.Step

/-! # Spelling — a token's text is the text at its span

    A scanner only moves forward, so the place where a word starts and the
    place where it ends both lie behind the start of the text.  Offsets count
    bytes from there; hence the characters between the two places are those
    that the span of the word reads from the text. -/

namespace ScriptTree

/-- A span between two places of a text reads what stands between them. -/
theorem Cursor.slice_spanTo {text : List Char} {c d : Cursor} (h : Cursor.Reaches ⟨0, text⟩ c)
    (k : c.Reaches d) : Text.slice text (c.spanTo d) = c.textTo d := by
  obtain ⟨before, hb, ho⟩ := h
  obtain ⟨middle, hm⟩ := k
  rw [textTo_eq hm]
  obtain ⟨hr, hd⟩ := hm
  simp only at hb ho
  rw [hr, ← List.append_assoc] at hb
  rw [spanTo, hd, ho, Nat.zero_add, hb]
  exact Text.slice_append before middle d.rest

namespace Lexeme

/-- The token has the text that its span reads. -/
def SpelledIn (text : List Char) (l : Lexeme) : Prop :=
  l.token.text = String.ofList (Text.slice text l.token.span)

/-- A token is spelled as the text is between the places where it was read. -/
theorem ofWord_spelledIn {text : List Char} {t : Trivia} {word : Scanned}
    (h : Cursor.Reaches ⟨0, text⟩ t.cursor) (k : t.cursor.Reaches word.cursor) :
    (ofWord t word).SpelledIn text :=
  congrArg String.ofList (Cursor.slice_spanTo h k).symm

/-- The end is spelled as nothing, at the end. -/
theorem ofEnd_spelledIn {text : List Char} {t : Trivia}
    (h : Cursor.Reaches ⟨0, text⟩ t.cursor) : (ofEnd t).SpelledIn text := by
  have none := Cursor.slice_spanTo h (.refl t.cursor)
  have empty : t.cursor.ReachesBy t.cursor [] := ⟨rfl, rfl⟩
  rw [Cursor.textTo_eq empty] at none
  exact congrArg String.ofList none.symm

end Lexeme

namespace Scanner

/-- The next lexeme has the text at its span. -/
theorem next_spelledIn {text : List Char} {s : Scanner} (h : Cursor.Reaches ⟨0, text⟩ s.cursor) :
    s.next.1.SpelledIn text := by
  obtain ⟨t, sought, ⟨word, read, hn⟩ | hn⟩ := s.next_cases
  · rw [hn]
    exact Lexeme.ofWord_spelledIn (h.trans sought) (reaches_of_word? read)
  · rw [hn]
    exact Lexeme.ofEnd_spelledIn (h.trans sought)

/-- What holds of the next lexeme wherever a scanner stands in the text holds of all. -/
theorem Runs.forall_mem {text : List Char} {motive : Lexeme → Prop}
    (step : ∀ s : Scanner, Cursor.Reaches ⟨0, text⟩ s.cursor → motive s.next.1) {s : Scanner}
    {lexemes : List Lexeme} (run : s.Runs lexemes) (h : Cursor.Reaches ⟨0, text⟩ s.cursor) :
    ∀ l ∈ lexemes, motive l := by
  induction run with
  | stop ends => exact List.forall_mem_singleton.mpr (step _ h)
  | step goes behind ih =>
      exact List.forall_mem_cons.mpr ⟨step _ h, ih (h.trans (next_reaches _))⟩

end Scanner

/-- What holds of the next lexeme at every place of a text holds of all its lexemes. -/
theorem Lexeme.forall_ofText {text : List Char} {motive : Lexeme → Prop}
    (step : ∀ s : Scanner, Cursor.Reaches ⟨0, text⟩ s.cursor → motive s.next.1) :
    ∀ l ∈ ofText text, motive l :=
  (runs_ofText text).forall_mem step (.refl _)

/-- Every token of a text has the text at its span. -/
theorem Lexeme.ofText_spelledIn {text : List Char} {l : Lexeme} (h : l ∈ ofText text) :
    l.SpelledIn text :=
  forall_ofText (fun _ => Scanner.next_spelledIn) l h

end ScriptTree

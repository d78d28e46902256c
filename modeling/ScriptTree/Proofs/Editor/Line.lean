import ScriptTree.Proofs.Source.LineIndex
import ScriptTree.Source.EditorPosition

/-! # Lines — an editor's and a reader's

    Editor positions count the LFs in front of an offset, the line index counts its line
    breaks.  Every LF ends a line break, alone or behind a CR, and the line breaks that
    end with none are U+2028, U+2029 and the lone CR.  An editor does not know the first
    two.  It does know a lone CR, so in a text without the first two the lines agree
    up to the first lone CR and differ by the number of them behind it. -/

namespace ScriptTree

namespace Text

/-- The character is a CR that no LF follows. -/
def isLoneReturn (c : Char) (rest : List Char) : Bool :=
  c == '\r' && !(rest.head? == some '\n')

/-- Where the CRs end that no LF follows. -/
def loneReturns (text : List Char) : List Nat := endsOf isLoneReturn 0 text

/-- Where the LFs end. -/
def lineFeeds (text : List Char) : List Nat := endsOf (fun c _ => c == '\n') 0 text

/-- A line break that ends with neither U+2028 nor U+2029 ends with an LF or is a lone CR. -/
theorem countP_lineBreaks {text : List Char}
    (plain : ∀ c ∈ text, c ≠ '\u2028' ∧ c ≠ '\u2029') (cut : Nat → Bool) :
    (lineBreaks text).countP cut =
      (lineFeeds text).countP cut + (loneReturns text).countP cut := by
  refine countP_endsOf_add cut fun before c behind whole => ?_
  obtain ⟨noLine, noParagraph⟩ := plain c (by simp [whole])
  by_cases lf : c = '\n'
  · subst lf
    exact ⟨rfl, rfl⟩
  · rw [endsLine, isLoneReturn, Character.isLineTerminator, beq_eq_false_iff_ne.mpr lf,
      beq_eq_false_iff_ne.mpr noLine, beq_eq_false_iff_ne.mpr noParagraph]
    cases c == '\r' <;> exact ⟨rfl, rfl⟩

end Text

namespace EditorPosition

/-- A walk counts the LFs that it goes over. -/
theorem line_walk (offset : Nat) (p : EditorPosition) (reached : Nat) (text : List Char) :
    (walk offset p reached text).line = p.line + UInt32.ofNat
      ((Text.endsOf (fun c _ => c == '\n') reached text).countP (· ≤ offset)) := by
  induction text generalizing p reached with
  | nil => exact (UInt32.add_zero _).symm
  | cons c rest ih =>
      rw [walk]
      -- Where the walk stops, all that follows ends behind the offset.
      by_cases stops : reached ≥ offset
      · have none : (Text.endsOf (fun c _ => c == '\n') reached (c :: rest)).countP
            (· ≤ offset) = 0 := by
          rw [List.countP_eq_zero]
          intro stop there
          have := Text.le_of_mem_endsOf_cons there
          have := c.utf8Size_pos
          rw [decide_eq_true_eq]
          omega
        rw [if_pos stops, none]
        exact (UInt32.add_zero _).symm
      · rw [if_neg stops, ih, Text.endsOf_cons, List.countP_append, UInt32.ofNat_add, after]
        by_cases lf : c = '\n'
        · subst lf
          have one : ('\n' : Char).utf8Size = 1 := rfl
          have inside : reached + 1 ≤ offset := by omega
          simp [one, inside, UInt32.add_assoc]
        · simp [lf]

end EditorPosition

/-- The line of an offset, in an editor and for a reader: the lone CRs up to the offset are
    the difference. -/
theorem line_lineColumn_eq {text : List Char}
    (plain : ∀ c ∈ text, c ≠ '\u2028' ∧ c ≠ '\u2029') (offset : Nat) :
    ((LineIndex.ofText text).lineColumn offset).line =
      (EditorPosition.ofOffset text offset).line + 1 +
        UInt32.ofNat ((Text.loneReturns text).countP (· ≤ offset)) := by
  have counted : (EditorPosition.ofOffset text offset).line =
      UInt32.ofNat ((Text.lineFeeds text).countP (· ≤ offset)) :=
    (EditorPosition.line_walk offset ⟨0, 0⟩ 0 text).trans (UInt32.zero_add _)
  have one : (1 : UInt32) = UInt32.ofNat 1 := rfl
  rw [LineIndex.line_lineColumn_ofText, Text.countP_lineBreaks plain, counted, one,
    ← UInt32.ofNat_add, ← UInt32.ofNat_add]
  exact congrArg UInt32.ofNat (by omega)

/-- LINES: in a text without U+2028 and U+2029, the line of an offset is one more for a reader
    than in an editor, and one more for each lone CR that ends there or earlier; so the two
    agree exactly if there is no such CR.  Both count in 32 bits, where `2 ^ 32` lone CRs
    would be none again. -/
theorem editorLine_eq {text : List Char} (plain : ∀ c ∈ text, c ≠ '\u2028' ∧ c ≠ '\u2029')
    (offset : Nat) :
    ((LineIndex.ofText text).lineColumn offset).line =
        (EditorPosition.ofOffset text offset).line + 1 +
          UInt32.ofNat ((Text.loneReturns text).countP (· ≤ offset)) ∧
      ((Text.loneReturns text).length < UInt32.size →
        ((EditorPosition.ofOffset text offset).line + 1 =
            ((LineIndex.ofText text).lineColumn offset).line ↔
          ∀ stop ∈ Text.loneReturns text, offset < stop)) := by
  have same := line_lineColumn_eq plain offset
  refine ⟨same, fun few => ?_⟩
  have counted : (Text.loneReturns text).countP (· ≤ offset) < UInt32.size :=
    Nat.lt_of_le_of_lt List.countP_le_length few
  rw [same, UInt32.left_eq_add, ← UInt32.toNat_inj, UInt32.toNat_ofNat_of_lt' counted,
    UInt32.toNat_zero, List.countP_eq_zero]
  simp only [decide_eq_true_eq, Nat.not_le]

/-- Behind `b` one LF and one lone CR have ended. -/
theorem editorLine_eq_mixed :
    let text := "a\r\nb\rc".toList
    (∀ c ∈ text, c ≠ '\u2028' ∧ c ≠ '\u2029') ∧
      ((LineIndex.ofText text).lineColumn 5).line =
        (EditorPosition.ofOffset text 5).line + 1 + 1 ∧
      (Text.loneReturns text).length < UInt32.size ∧
      (EditorPosition.ofOffset text 5).line + 1 ≠
        ((LineIndex.ofText text).lineColumn 5).line := by
  intro text
  have plain : ∀ c ∈ text, c ≠ '\u2028' ∧ c ≠ '\u2029' := by simp [text]
  have few : (Text.loneReturns text).length < UInt32.size := by decide
  have ended : 5 ∈ Text.loneReturns text := by decide
  obtain ⟨lines, agree⟩ := editorLine_eq plain 5
  refine ⟨plain, lines.trans (by decide), few, fun same => ?_⟩
  exact Nat.lt_irrefl 5 ((agree few).mp same 5 ended)

/-- Behind a lone CR an editor's line is not a reader's. -/
theorem not_editorLine_behind_return :
    ¬ ∀ text : List Char, (∀ c ∈ text, c ≠ '\u2028' ∧ c ≠ '\u2029') →
      ∀ offset, Text.Boundary text offset →
        (EditorPosition.ofOffset text offset).line + 1 =
          ((LineIndex.ofText text).lineColumn offset).line := by
  intro same
  have stands : Text.Boundary "a\rb".toList 2 := ⟨"a\r".toList, ['b'], by decide, by decide⟩
  have plain : ∀ c ∈ "a\rb".toList, c ≠ '\u2028' ∧ c ≠ '\u2029' := by simp
  have lines := same "a\rb".toList plain 2 stands
  rw [line_lineColumn_eq plain] at lines
  revert lines
  decide

end ScriptTree

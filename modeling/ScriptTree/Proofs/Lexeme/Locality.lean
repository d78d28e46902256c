import ScriptTree.Proofs.Lexeme.Binding
import ScriptTree.Proofs.Lexeme.Delimited
import ScriptTree.Proofs.Lexeme.Numeral

/-! # Locality — a word is told by its own characters

    Which word stands at a cursor is told by the first two characters and the state of the
    scanner, and each kind of word is read again from its own characters wherever it stands.
    So a word does not depend on the place it stands at, nor on what comes behind it, as
    long as it ends there.  What a scanner does next is looked at in the same way: up to the
    next word, if nothing is reported. -/

namespace ScriptTree

namespace Scanner

/-- The scanners are in the same state, wherever they stand. -/
structure Agrees (s t : Scanner) : Prop where
  templates : t.templates = s.templates
  braces : t.braces = s.braces
  regExpAllowed : t.regExpAllowed = s.regExpAllowed

variable {s t : Scanner} {c d : Cursor} {w : Scanned} {text other : List Char}

/-- Behind words of one kind they are in the same state. -/
theorem Agrees.after (h : s.Agrees t) {v : Scanned} (same : v.kind = w.kind) :
    (s.after w).Agrees (t.after v) where
  templates := by simp only [Scanner.after, same, h.templates, h.braces]
  braces := by simp only [Scanner.after, same, h.braces]
  regExpAllowed := by simp only [Scanner.after, same]

/-- LOCALITY: a word without a diagnostic is read again from its own characters, wherever
    they stand and whatever comes behind them, as long as the word cannot go on there. -/
theorem word?_beside (agrees : s.Agrees t) (h : s.word? c = some w) (clean : w.diagnostics = [])
    (reach : c.ReachesBy w.cursor text) (beside : Text.Beside w.cursor.rest other)
    (here : d.rest = text ++ other) : t.word? d = some ⟨w.kind, d.past text other, []⟩ := by
  obtain ⟨x, chars, first⟩ := List.exists_cons_of_ne_nil (word?_rest_ne_nil h)
  obtain ⟨more, rfl, onward⟩ := reach.behind first (word?_reaches h)
  obtain rfl : chars = more ++ w.cursor.rest := (List.cons.inj (first.symm.trans reach.1)).2
  have there : d.rest = x :: (more ++ other) := here
  have next := Cursor.next_eq_past there
  have resumes : t.resumesTemplate = s.resumesTemplate := by
    rw [resumesTemplate, agrees.templates, agrees.braces, resumesTemplate]
  have chunk {isHead : Bool} (same : some (Template.scan isHead c.next) = some w) :
      some (Template.scan isHead d.next) = some ⟨w.kind, d.past (x :: more) other, []⟩ := by
    cases same
    rw [Template.scan_beside clean onward (congrArg Cursor.rest next), next, Cursor.past_past]
    rfl
  -- What stands there is told by the first two characters, which are the same.
  rw [word?, first] at h
  rw [word?, there]
  simp only [resumes, agrees.regExpAllowed] at h ⊢
  split at h
  · rename_i quote
    rw [if_pos quote]
    exact chunk h
  rename_i noQuote
  rw [if_neg noQuote]
  split at h
  · rename_i resumed
    rw [if_pos resumed]
    exact chunk h
  rename_i noBrace
  rw [if_neg noBrace]
  split at h
  · rename_i quoted
    rw [if_pos quoted]
    cases h
    rw [StringLiteral.scan_beside first clean reach here]
  rename_i noString
  rw [if_neg noString]
  split at h
  · rename_i number
    cases h
    have opens := Numeral.opens_beside first number clean reach other
    rw [Numeral.opens] at opens
    rw [if_pos opens, Numeral.scan_beside (by simp [first]) clean reach beside.stops here]
  rename_i noNumber
  have plain : Numeral.opens x (more ++ other) = false :=
    Numeral.not_opens_beside beside.stops (Bool.eq_false_iff.mpr noNumber)
  rw [Numeral.opens] at plain
  rw [if_neg (Bool.eq_false_iff.mp plain)]
  split at h
  · rename_i slash
    rw [if_pos slash]
    cases h
    have opens : x = '/' := eq_of_beq (Bool.and_eq_true_iff.mp slash).1
    rw [RegExpLiteral.scan_beside ⟨_, opens ▸ first⟩ clean reach beside.stops here]
  rename_i noSlash
  rw [if_neg noSlash]
  split at h
  · rename_i start
    rw [if_pos start]
    cases h
    have stops := scanWord_stops c
    rw [scanWord_beside reach (beside.stops _ (fun _ => Character.isIdentifierPart_separator) stops)
      here]
  rename_i noName
  rw [if_neg noName]
  exact scanPunctuator?_beside h reach beside here

/-! ## Texts without a diagnostic -/

variable {u : Trivia} {lexemes : List Lexeme}

/-- A stray character is skipped, and the search goes on behind it. -/
theorem seek_of_stray {x : Char} {rest : List Char} (here : u.skip.cursor.rest = x :: rest)
    (h : s.word? u.skip.cursor = none) : s.seek u = s.seek (u.skip.skipStray x) := by
  rw [seek]
  split
  · rename_i none
    rw [here] at none
    cases none
  · rename_i there
    obtain ⟨rfl, -⟩ := List.cons.inj (here.symm.trans there)
    rw [h]

/-- What was reported on the way is among the diagnostics of the lexeme. -/
theorem mem_next_diagnostics {d : Diagnostic}
    (h : d ∈ (s.seek (Trivia.start s.cursor)).1.diagnostics) : d ∈ s.next.1.diagnostics := by
  rw [next]
  split
  · rename_i found
    rw [found] at h
    exact List.mem_append_left _ (Array.mem_toList_iff.mpr h)
  · rename_i found
    rw [found] at h
    exact Array.mem_toList_iff.mpr h

/-- If nothing is reported, a word or the end of the text stands right behind the trivia. -/
theorem next_clean (clean : s.next.1.diagnostics = []) :
    let u := (Trivia.start s.cursor).skip
    u.diagnostics = #[] ∧
      (u.cursor.rest = [] ∨ ∃ w, s.word? u.cursor = some w ∧ w.diagnostics = []) := by
  intro u
  cases here : u.cursor.rest with
  | nil =>
      rw [next_of_end rfl here] at clean
      exact ⟨Array.toList_eq_nil_iff.mp clean, .inl rfl⟩
  | cons x rest =>
      cases found : s.word? u.cursor with
      | some w =>
          rw [next_of_word rfl found] at clean
          obtain ⟨quiet, clean⟩ := List.append_eq_nil_iff.mp clean
          exact ⟨Array.toList_eq_nil_iff.mp quiet, .inr ⟨w, rfl, clean⟩⟩
      | none =>
          -- A stray character would be reported.
          obtain ⟨tiles, laid⟩ := s.seek_lays (u.skipStray x)
          have kept := laid.reported _ (.inl Array.mem_push_self)
          rw [← seek_of_stray here found] at kept
          have reported := mem_next_diagnostics kept
          rw [clean] at reported
          cases reported

/-- The lexemes from the scanner on, nothing being reported: words behind their trivia,
    one behind the other, and the end of the text behind the last trivia. -/
inductive Lexes : Scanner → List Lexeme → Prop where
  | stop {s : Scanner} {u : Trivia} (skipped : (Trivia.start s.cursor).skip = u)
    (quiet : u.diagnostics = #[]) (ends : u.cursor.rest = []) : Lexes s [.ofEnd u]
  | word {s : Scanner} {u : Trivia} {w : Scanned} {lexemes : List Lexeme}
    (skipped : (Trivia.start s.cursor).skip = u) (quiet : u.diagnostics = #[])
    (here : s.word? u.cursor = some w) (clean : w.diagnostics = [])
    (behind : Lexes (s.after w) lexemes) : Lexes s (.ofWord u w :: lexemes)

/-- The scanner finds them. -/
theorem Lexes.lexemesAfter (h : s.Lexes lexemes) (found : Array Lexeme) :
    (s.lexemesAfter found).toList = found.toList ++ lexemes := by
  induction h generalizing found with
  | stop skipped quiet ends =>
      rw [lexemesAfter_of_end (next_of_end skipped ends) (ofEnd_isEnd _), Array.toList_push]
  | word skipped quiet here clean behind ih =>
      rw [lexemesAfter_of_next (next_of_word skipped here) (ofWord_isEnd here), ih,
        Array.toList_push, List.append_assoc, List.singleton_append]

/-- What the scanner finds are such lexemes, if none of them reports anything. -/
theorem Runs.lexes (run : s.Runs lexemes) (clean : ∀ l ∈ lexemes, l.diagnostics = []) :
    s.Lexes lexemes := by
  induction run with
  | stop ends =>
      obtain ⟨quiet, none | ⟨w, here, -⟩⟩ := next_clean (clean _ List.mem_cons_self)
      · rw [next_of_end rfl none]
        exact .stop rfl quiet none
      · rw [next_of_word rfl here, ofWord_isEnd here] at ends
        cases ends
  | step goes behind ih =>
      obtain ⟨first, clean⟩ := List.forall_mem_cons.mp clean
      obtain ⟨quiet, none | ⟨w, here, plain⟩⟩ := next_clean first
      · rw [next_of_end rfl none, ofEnd_isEnd] at goes
        cases goes
      · have found := next_of_word rfl here
        have onward := ih clean
        rw [found] at onward ⊢
        exact .word rfl quiet here plain onward

/-- No lexeme has a diagnostic. -/
theorem Lexes.clean (h : s.Lexes lexemes) : ∀ l ∈ lexemes, l.diagnostics = [] := by
  induction h with
  | stop skipped quiet ends => simp [Lexeme.ofEnd, quiet]
  | word skipped quiet here clean behind ih =>
      exact List.forall_mem_cons.mpr ⟨by simp [Lexeme.ofWord, quiet, clean], ih⟩

end Scanner

namespace Lexeme

variable {text : List Char} {lexemes : List Lexeme}

/-- The lexemes of a text without a diagnostic. -/
theorem lexes_ofText (clean : (lex text).diagnostics = []) :
    (Scanner.start text).Lexes (ofText text) :=
  (runs_ofText text).lexes (List.flatMap_eq_nil_iff.mp clean)

/-- No other lexemes are those of the text. -/
theorem ofText_eq (h : (Scanner.start text).Lexes lexemes) : ofText text = lexemes :=
  h.lexemesAfter #[]

end Lexeme

end ScriptTree

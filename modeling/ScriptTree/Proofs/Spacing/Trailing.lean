import ScriptTree.Proofs.Grammar.Rejection
import ScriptTree.Proofs.Lexeme.Blanks
import ScriptTree.Proofs.Spacing.Program

/-! # Blanks behind a program

    Blanks behind a text change neither whether it is a program nor what is wrong with it.
    They may change how the error is called: its kind tells whether anything stands behind
    the token that the parse had come to, and if that is the last word and the text ended
    with it, the blanks now do. -/

namespace ScriptTree

/-- The lexeme that the strict parse of a text had come to when it was rejected. -/
def rejectedAt? (text : List Char) : Option Lexeme :=
  match parseLexemes ⟨.strict, .ofText text, .silent⟩ (Lexeme.ofText text)
    (Text.byteLength text) () with
  | .stopped (.rejected _) p => some p.situation.current
  | _ => none

/-- A strict parse of a text without a diagnostic is rejected at one of its lexemes. -/
theorem parse_rejected {text : List Char} (clean : (lex text).diagnostics = []) {e : SyntaxError}
    (h : parse .strict text = .rejected e) :
    ∃ p, parseLexemes ⟨.strict, .ofText text, .silent⟩ (Lexeme.ofText text)
        (Text.byteLength text) () = .stopped (.rejected e) p ∧
      p.situation.ahead <:+ Lexeme.ofText text ∧ e.kind = .ofAtEnd p.situation.current.atEnd := by
  have ends := parseLexemes_endsAt ⟨.strict, .ofText text, .silent⟩
    (Lexeme.ofText_terminated text).ne_nil (Text.byteLength text) ()
  obtain ⟨p, rejected⟩ := Outcome.eq_rejected_of_result h
  rw [rejected] at ends
  refine ⟨p, rejected, ends.ahead, ?_⟩
  -- No lexeme has a diagnostic, so it was a complaint.
  obtain ⟨d, rfl, ⟨l, there, found⟩ | kind⟩ := ends.blames e rfl
  · rw [List.flatMap_eq_nil_iff.mp clean l there] at found
    cases found
  · exact kind

/-- A word is the last thing in a text if it reaches to its end. -/
theorem Lexeme.atEnd_iff {text : List Char} {l : Lexeme} (there : l ∈ ofText text) :
    l.token.isEnd = false → (l.atEnd = true ↔ l.token.span.stop = Text.byteLength text) := by
  refine forall_ofText (motive := fun l => l.token.isEnd = false →
    (l.atEnd = true ↔ l.token.span.stop = Text.byteLength text)) (fun s here word => ?_) l there
  obtain ⟨t, sought, ⟨w, read, hn⟩ | hn⟩ := s.next_cases
  · obtain ⟨front, reach⟩ := (here.trans sought).trans (Scanner.reaches_of_word? read)
    have offset : w.cursor.offset = Text.byteLength front := reach.2.trans (Nat.zero_add _)
    have whole : text = front ++ w.cursor.rest := reach.1
    rw [hn]
    show w.cursor.rest.isEmpty = true ↔ w.cursor.offset = Text.byteLength text
    rw [List.isEmpty_iff, ← Text.byteLength_eq_zero_iff, whole, Text.byteLength_append, offset]
    omega
  · rw [hn, Scanner.ofEnd_isEnd] at word
    cases word

/-- Two streams with as much ahead are at related lexemes. -/
theorem Situation.related_current {R : Lexeme → Lexeme → Prop} {lexemes lexemes' : List Lexeme}
    {s t : Situation} (related : List.Forall₂ R lexemes lexemes') (hs : s.ahead <:+ lexemes)
    (ht : t.ahead <:+ lexemes') (same : s.ahead.length = t.ahead.length) :
    R s.current t.current := by
  have dropped := List.forall₂_drop (lexemes.length - s.ahead.length) related
  rw [← List.suffix_iff_eq_drop.mp hs, related.length_eq, same,
    ← List.suffix_iff_eq_drop.mp ht] at dropped
  exact (List.forall₂_cons.mp dropped).1

/-- BLANKS BEHIND A PROGRAM: a text without a diagnostic is as much of a program with
    blanks behind it, and if it is none, the message is the same.  The kind of the error is
    also the same, unless the text ends with the very word that the parse had come to:
    then it is called unfinished without the blanks and unexpected with them. -/
theorem parse_trailing_blanks {text gap : List Char} (clean : (lex text).diagnostics = [])
    (blank : ∀ x ∈ gap, Character.isBlank x = true) :
    (parse .strict text).Alike (parse .strict (text ++ gap)) ∧
      ∀ e e', parse .strict text = .rejected e → parse .strict (text ++ gap) = .rejected e' →
        ∃ l ∈ Lexeme.ofText text, rejectedAt? text = some l ∧
          let bared := l.token.isEnd = false ∧ l.token.span.stop = Text.byteLength text ∧ gap ≠ []
          (¬ bared → e'.kind = e.kind) ∧
            (bared → e.kind = .endOfInput ∧ e'.kind = .unexpected) := by
  obtain ⟨trails, clean'⟩ := Lexeme.ofText_padded clean blank
  have alike := trails.imp fun _ _ h => h.alike
  refine ⟨parseText_alike .strict alike _ _ .silent .silent () (), fun e e' he he' => ?_⟩
  have ends := parseLexemes_alike (s := ⟨.strict, .ofText text, .silent⟩)
    (t := ⟨.strict, .ofText (text ++ gap), .silent⟩) rfl alike (Text.byteLength text)
    (Text.byteLength (text ++ gap)) () ()
  -- Both rejections stop at lexemes that stand at the same place of their streams.
  obtain ⟨p, rejected, stands⟩ := parse_rejected clean he
  obtain ⟨q, rejected', stands'⟩ := parse_rejected clean' he'
  rw [rejected, rejected'] at ends
  cases ends with
  | rejected same situations =>
      have here : Lexeme.Trails gap p.situation.current q.situation.current :=
        Situation.related_current trails stands.1 stands'.1
          (congrArg Nat.succ situations.upcoming.length_eq)
      have there := stands.1.subset List.mem_cons_self
      have last := Lexeme.atEnd_iff there
      refine ⟨p.situation.current, there, by rw [rejectedAt?, rejected], ?_⟩
      rw [stands.2, stands'.2, here.atEnd]
      -- The kinds can differ only where the last word ends the bare text and not the padded one.
      generalize p.situation.current = l at there last
      cases ends : l.token.isEnd with
      | true => simp [ErrorKind.ofAtEnd]
      | false =>
          rw [← last ends]
          cases l.atEnd <;> cases gap <;> simp [ErrorKind.ofAtEnd]

/-- The kind of the error that a text was rejected with. -/
def ParseResult.kind? : ParseResult → Option ErrorKind
  | .rejected e => some e.kind
  | _ => none

/-- A bracket that closes nothing, at the end of the text and in front of a blank. -/
theorem parse_trailing_blanks_bracket :
    (lex ")".toList).diagnostics = [] ∧ (∀ x ∈ [' '], Character.isBlank x = true) ∧
      ∃ e e', parse .strict ")".toList = .rejected e ∧
        parse .strict (")".toList ++ [' ']) = .rejected e' ∧
          e.message = e'.message ∧ e.kind = .endOfInput ∧ e'.kind = .unexpected := by
  have clean : (lex ")".toList).diagnostics = [] := by decide +kernel
  have blank : ∀ x ∈ [' '], Character.isBlank x = true :=
    List.all_eq_true.mp (by decide)
  obtain ⟨alike, kinds⟩ := parse_trailing_blanks clean blank
  have stands : (rejectedAt? ")".toList).map (·.token) =
      some ⟨.punctuator .closeParen, ⟨0, 1⟩, false, ")"⟩ := by decide +kernel
  have refused : (parse .strict ")".toList).kind?.isSome = true := by decide +kernel
  generalize parse .strict ")".toList = one, parse .strict (")".toList ++ [' ']) = other
    at alike kinds refused ⊢
  cases alike with
  | tree form => cases refused
  | @rejected e e' message =>
      obtain ⟨l, -, here, -, apart⟩ := kinds e e' rfl rfl
      rw [here] at stands
      have token : l.token = ⟨.punctuator .closeParen, ⟨0, 1⟩, false, ")"⟩ :=
        Option.some.inj stands
      have bared := apart ⟨by rw [token]; decide, by rw [token]; decide, by decide⟩
      exact ⟨clean, blank, e, e', rfl, rfl, message, bared⟩

/-- The kind of an error does depend on blanks behind the text. -/
theorem parse_kind_blanks : ¬ ∀ text gap : List Char, (lex text).diagnostics = [] →
    (∀ x ∈ gap, x = ' ') → (parse .strict (text ++ gap)).kind? = (parse .strict text).kind? := by
  intro same
  exact absurd (same ")".toList [' '] (by decide +kernel) (by simp)) (by decide +kernel)

end ScriptTree

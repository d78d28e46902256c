import ScriptTree.Proofs.Fuel.Program
import ScriptTree.Proofs.Grammar.Running

/-! # Reading — a loose parse tells of every lexeme once

    However broken a text is, a loose parse moves through its lexemes one by
    one and stops at the last.  Whatever the grammar does, an observer is told
    of the tokens, comments and diagnostics of the stream in order; between
    them nodes are opened and closed.  So a property of what was remembered
    that these messages keep up, lexeme by lexeme, holds for the whole stream
    in the end (`parseLexemes_reads`). -/

namespace ScriptTree

variable {σ α β : Type}

/-- A property of what is remembered where some lexemes were taken and one is
    looked at, which every message keeps up. -/
structure Observer.KeepsUp (o : Observer σ) (lines : LineIndex)
    (inv : List Lexeme → Lexeme → σ → Prop) : Prop where
  opened : ∀ start words l a, inv words l a → inv words l (o.opened start a).2
  closed : ∀ n words l a, inv words l a → inv words l (o.closed n a).2
  taken : ∀ words l next a, l.token.isEnd = false → inv words l a →
    inv (words ++ [l]) next (o.pass lines next (o.token l.token a))

/-- The property holds at a place in the stream. -/
def Progress.Upholds (lexemes : List Lexeme) (inv : List Lexeme → Lexeme → σ → Prop)
    (p : Progress σ) : Prop :=
  Lexeme.Terminated p.situation.ahead ∧
    ∃ words, lexemes = words ++ p.situation.ahead ∧ inv words p.situation.current p.observed

/-- The property holds where the parse ended. -/
def Outcome.Upholds (lexemes : List Lexeme) (inv : List Lexeme → Lexeme → σ → Prop) :
    Outcome σ α → Prop
  | .done _ p => p.Upholds lexemes inv
  | .stopped _ p => p.Upholds lexemes inv

variable {lexemes : List Lexeme} {inv : List Lexeme → Lexeme → σ → Prop} {setting : Setting σ}

/-- What is upheld by the first part is upheld by what follows. -/
theorem Outcome.Upholds.andThen {o : Outcome σ α} {f : α → Progress σ → Outcome σ β}
    (h : o.Upholds lexemes inv)
    (k : ∀ a p, p.Upholds lexemes inv → (f a p).Upholds lexemes inv) :
    (o.andThen f).Upholds lexemes inv := by
  cases o with
  | done a p => exact k a p h
  | stopped why p => exact h

/-- Where the parse stands in the stream is all that matters. -/
theorem Outcome.Upholds.adjust {o : Outcome σ α} {move : Situation → Situation}
    (h : o.Upholds lexemes inv) (still : ∀ s, (move s).ahead = s.ahead) :
    (o.adjust move).Upholds lexemes inv := by
  have moved (p : Progress σ) (h : p.Upholds lexemes inv) :
      Progress.Upholds lexemes inv { p with situation := move p.situation } := by
    obtain ⟨terminated, words, hw, hi⟩ := h
    have same := still p.situation
    refine ⟨same ▸ terminated, words, same ▸ hw, ?_⟩
    rw [show (move p.situation).current = p.situation.current from (List.cons.inj same).1]
    exact hi
  cases o with
  | done a p => exact moved p h
  | stopped why p => exact moved p h

namespace Progress

/-- A loose parse passes over all diagnostics. -/
theorem passDiagnostics_loose (loose : setting.mode = .loose) (diagnostics : List Diagnostic)
    (p : Progress σ) :
    passDiagnostics setting diagnostics p = .done () { p with
      observed := diagnostics.foldl
        (fun a d => setting.observer.error (d.locate setting.lines) false a) p.observed } := by
  induction diagnostics generalizing p with
  | nil => rfl
  | cons d rest ih =>
      have passes : (d.fault.isFatal && setting.mode == .strict) = false := by simp [loose]
      simp only [passDiagnostics, passes, Bool.false_eq_true, ↓reduceIte]
      exact ih _

/-- A loose parse always reads the next lexeme. -/
theorem advance_loose (loose : setting.mode = .loose) {p : Progress σ} {next : Lexeme}
    {rest : List Lexeme} (h : p.situation.upcoming = next :: rest) :
    p.advance setting = .done ()
      ⟨{ p.situation with current := next, upcoming := rest },
        setting.observer.pass setting.lines next p.observed⟩ := by
  rw [advance]
  rw [h]
  exact passDiagnostics_loose loose _ _

/-- Taking a token tells of the next lexeme, so one more is told of. -/
theorem take_upholds (loose : setting.mode = .loose)
    (keeps : setting.observer.KeepsUp setting.lines inv) {p : Progress σ}
    (h : p.Upholds lexemes inv) : (p.take setting).Upholds lexemes inv := by
  simp only [take]
  split
  · exact h
  · rename_i goes
    rw [Bool.not_eq_true] at goes
    obtain ⟨terminated, words, hw, hi⟩ := h
    -- The token is not the end of input, so a lexeme stands behind it.
    obtain ⟨next, rest, hn⟩ := List.exists_cons_of_ne_nil (terminated.tail goes).ne_nil
    have moved : (⟨{ p.situation with
        previousEnd := p.situation.token.span.stop, consumed := p.situation.consumed + 1 },
        setting.observer.token p.situation.token p.observed⟩ : Progress σ).situation.upcoming =
          next :: rest := hn
    rw [advance_loose loose moved]
    refine ⟨?_, words ++ [p.situation.current], ?_, ?_⟩
    · show Lexeme.Terminated (next :: rest)
      exact hn ▸ terminated.tail goes
    · rw [hw, List.append_assoc, Situation.ahead, hn]
      rfl
    · exact keeps.taken words p.situation.current next p.observed goes hi

/-- A loose parse goes on behind a complaint. -/
theorem complain_loose (loose : setting.mode = .loose) (span : Span) (fault : Fault)
    (p : Progress σ) : p.complain setting span fault = .done () p := by
  rw [complain, loose]

/-- A call upholds what the phrase does. -/
theorem call_upholds (loose : setting.mode = .loose)
    (keeps : setting.observer.KeepsUp setting.lines inv)
    {parse : Nonterminal → Progress σ → Outcome σ Node}
    (inside : ∀ phrase p, p.Upholds lexemes inv → (parse phrase p).Upholds lexemes inv)
    (frame : Frame) (phrase : Nonterminal) {p : Progress σ} (h : p.Upholds lexemes inv) :
    (p.call setting parse frame phrase).Upholds lexemes inv := by
  cases frame with
  | same => exact inside phrase p h
  | chain =>
      simp only [call]
      exact (inside phrase p h).adjust fun _ => rfl
  | functionBody =>
      simp only [call]
      exact (inside phrase ⟨{ p.situation with inFunction := true }, p.observed⟩ h).adjust
        fun _ => rfl
  | nested =>
      simp only [call, complain_loose loose]
      split
      · exact (take_upholds loose keeps h).andThen fun _ r hr => hr
      · exact (inside phrase ⟨{ p.situation with depth := p.situation.depth + 1 }, p.observed⟩
          h).adjust (by exact fun _ => rfl)

end Progress

/-- A loose run of a rule upholds the property, if the parses of its
    nonterminals do. -/
theorem Rule.run_upholds (loose : setting.mode = .loose)
    (keeps : setting.observer.KeepsUp setting.lines inv) {fuel : Nat}
    {parse : Nonterminal → Progress σ → Outcome σ Node}
    (inside : ∀ phrase p, p.Upholds lexemes inv → (parse phrase p).Upholds lexemes inv)
    (r : Rule α) {p : Progress σ} (h : p.Upholds lexemes inv) :
    (r.run setting fuel parse p).Upholds lexemes inv := by
  induction r generalizing p with
  | done a => exact h
  | look next ih => exact ih _ h
  | take next ih => exact (Progress.take_upholds loose keeps h).andThen fun t q hq => ih t hq
  -- Opening and closing tell of no lexeme, and the observer keeps up by assumption.
  | openAt start next ih =>
      obtain ⟨terminated, words, hw, hi⟩ := h
      exact ih _ ⟨terminated, words, hw, keeps.opened start _ _ _ hi⟩
  | close node next ih =>
      obtain ⟨terminated, words, hw, hi⟩ := h
      exact ih _ ⟨terminated, words, hw, keeps.closed node _ _ _ hi⟩
  | complain span fault next ih =>
      rw [run, Progress.complain_loose loose]
      exact ih h
  | deepen next ih =>
      -- A loose parse goes on where no level may be opened.
      rw [run, Progress.deepen]
      simp only [Progress.complain_loose loose]
      split
      · exact ih false h
      · exact ih true h
  | call frame phrase next ih =>
      exact (Progress.call_upholds loose keeps inside frame phrase h).andThen
        fun n q hq => ih n hq
  | budget next ih => exact ih _ h
  | overrun => exact h

/-- Every phrase upholds it, by induction on the fuel. -/
theorem derive_upholds (loose : setting.mode = .loose)
    (keeps : setting.observer.KeepsUp setting.lines inv) (fuel : Nat) (phrase : Nonterminal)
    (p : Progress σ) (h : p.Upholds lexemes inv) :
    (derive setting fuel phrase p).Upholds lexemes inv := by
  induction fuel generalizing phrase p with
  | zero => exact h
  | succ fuel ih => exact Rule.run_upholds loose keeps ih phrase.rule h

/-- THE READING: a loose parse ends with a program, behind all lexemes of the
    stream but the last, and what was remembered has the property there. -/
theorem parseLexemes_reads (loose : setting.mode = .loose)
    (keeps : setting.observer.KeepsUp setting.lines inv) (stream : Lexeme.Terminated lexemes)
    (stop : Nat) {a : σ}
    (start : ∀ first, inv [] first (setting.observer.pass setting.lines first
      (setting.observer.opened 0 a).2)) :
    ∃ program p words last, parseLexemes setting lexemes stop a = .done program p ∧
      lexemes = words ++ [last] ∧ last.token.isEnd = true ∧ inv words last p.observed := by
  obtain ⟨first, rest, rfl⟩ := List.exists_cons_of_ne_nil stream.ne_nil
  have opened : Progress.Upholds (first :: rest) inv
      ⟨{ (Progress.start (first :: rest) a).situation with current := first, upcoming := rest },
        setting.observer.pass setting.lines first (setting.observer.opened 0 a).2⟩ :=
    ⟨stream, [], rfl, start first⟩
  let fuel := fuelFor (first :: rest).length
  have rules {γ : Type} (r : Rule γ) (p : Progress σ) (h : p.Upholds (first :: rest) inv) :
      (r.run setting fuel (derive setting fuel) p).Upholds (first :: rest) inv :=
    Rule.run_upholds loose keeps (derive_upholds loose keeps fuel) r h
  have upheld : (parseLexemes setting (first :: rest) stop a).Upholds (first :: rest) inv := by
    simp only [parseLexemes]
    rw [Progress.advance_loose loose rfl]
    refine (rules Grammar.programBody _ opened).andThen fun body q hq => ?_
    exact rules (Grammar.closeNodeAt _ _ stop)
      ⟨{ q.situation with previousEnd := stop }, q.observed⟩ hq
  have ends := parseLexemes_ends setting stream stop a
  obtain ⟨program, p, parsed⟩ := parseLexemes_loose loose stream stop a
  rw [parsed] at upheld ends
  obtain ⟨terminated, words, hw, hi⟩ := upheld
  -- Statements are read up to the end of input, and nothing follows that.
  have last := terminated.eq_nil_of_isEnd ends.1
  refine ⟨program, p, words, p.situation.current, parsed, ?_, ends.1, hi⟩
  rw [hw, Situation.ahead, last]

end ScriptTree

import ScriptTree.Grammar.Program
import ScriptTree.Proofs.Grammar.Position

/-! # Rejection — where a parse ends, and with which error

    A parse only ever moves along the lexemes of its text, however it ends.  If it is
    rejected, this is because of a diagnostic of a lexeme that it came to, or because of a
    complaint; either way the error tells the line and the column where its span starts.
    The kind of a complaint tells whether anything stands behind the token that the parse
    had come to: not the token that the error is about, and not the end of the text that
    the message may speak of. -/

namespace ScriptTree

variable {σ α β : Type} {setting : Setting σ} {lines : LineIndex}

/-! ## The ends of a parse -/

/-- Where a parse ended, with a value or before. -/
def Outcome.ending : Outcome σ α → Progress σ
  | .done _ p => p
  | .stopped _ p => p

/-- The error that a parse was rejected with. -/
def Outcome.error? : Outcome σ α → Option SyntaxError
  | .stopped (.rejected e) _ => some e
  | _ => none

/-- A parse of whose error something is known was rejected. -/
theorem Outcome.exists_rejected {o : Outcome σ α} {f : SyntaxError → β} {b : β}
    (h : o.error?.map f = some b) : ∃ e p, o = .stopped (.rejected e) p ∧ f e = b := by
  rcases o with ⟨a, p⟩ | ⟨e | _, p⟩
  · cases h
  · exact ⟨e, p, rfl, Option.some.inj h⟩
  · cases h

/-- A parse that ended with a value behind an outcome had a value before. -/
theorem Outcome.andThen_eq_done {o : Outcome σ α} {f : α → Progress σ → Outcome σ β} {b : β}
    {q : Progress σ} (h : o.andThen f = .done b q) : ∃ a r, o = .done a r ∧ f a r = .done b q := by
  cases o with
  | done a r => exact ⟨a, r, rfl, h⟩
  | stopped why r => cases h

/-- One that was rejected was so before or behind. -/
theorem Outcome.andThen_eq_rejected {o : Outcome σ α} {f : α → Progress σ → Outcome σ β}
    {e : SyntaxError} {q : Progress σ} (h : o.andThen f = .stopped (.rejected e) q) :
    o = .stopped (.rejected e) q ∨ ∃ a r, o = .done a r ∧ f a r = .stopped (.rejected e) q := by
  cases o with
  | done a r => exact .inr ⟨a, r, rfl, h⟩
  | stopped why r =>
      cases h
      exact .inl rfl

/-- Where a parse ends that moves its situation. -/
theorem Outcome.situation_adjust {o : Outcome σ α} (f : Situation → Situation) :
    (o.adjust f).ending.situation = f o.ending.situation := by
  cases o <;> rfl

/-- Moving the situation keeps the error. -/
theorem Outcome.error?_adjust {o : Outcome σ α} (f : Situation → Situation) :
    (o.adjust f).error? = o.error? := by
  rcases o with ⟨a, p⟩ | ⟨e | _, p⟩ <;> rfl

namespace Progress

variable {p : Progress σ}

/-- Passing diagnostics on leaves the situation as it is. -/
theorem situation_passDiagnostics (diagnostics : List Diagnostic) (p : Progress σ) :
    (passDiagnostics setting diagnostics p).ending.situation = p.situation := by
  induction diagnostics generalizing p with
  | nil => rfl
  | cons d rest ih =>
      rw [passDiagnostics]
      split
      · rfl
      · exact ih _

/-- A parse that is rejected on the way to a lexeme has found its error there. -/
theorem error?_passDiagnostics {diagnostics : List Diagnostic} {e : SyntaxError}
    (h : (passDiagnostics setting diagnostics p).error? = some e) :
    ∃ d ∈ diagnostics, e = d.locate setting.lines := by
  induction diagnostics generalizing p with
  | nil => cases h
  | cons d rest ih =>
      rw [passDiagnostics] at h
      split at h
      · exact ⟨d, List.mem_cons_self, (Option.some.inj h).symm⟩
      · obtain ⟨c, hc, same⟩ := ih h
        exact ⟨c, List.mem_cons_of_mem _ hc, same⟩

/-- Whether a parse is stopped on the way or not, the next lexeme is the current one then. -/
theorem situation_advance (setting : Setting σ) (p : Progress σ) :
    (p.advance setting).ending.situation =
      { p.situation with
        current := p.situation.upcoming.headD p.situation.current
        upcoming := p.situation.upcoming.tail } := by
  rw [advance]
  cases upcoming : p.situation.upcoming with
  | nil =>
      show p.situation = { p.situation with upcoming := [] }
      rw [← upcoming]
  | cons next rest => exact situation_passDiagnostics _ _

/-- Reading the next lexeme is rejected with one of the diagnostics ahead. -/
theorem error?_advance {e : SyntaxError} (h : (p.advance setting).error? = some e) :
    ∃ l ∈ p.situation.upcoming, ∃ d ∈ l.diagnostics, e = d.locate setting.lines := by
  rw [advance] at h
  split at h
  · cases h
  · rename_i next rest upcoming
    exact ⟨next, upcoming ▸ List.mem_cons_self, error?_passDiagnostics h⟩

/-- Taking a token leads to the next one, also if that is rejected. -/
theorem situation_take (setting : Setting σ) (p : Progress σ) :
    (p.take setting).ending.situation = p.situation.taken := by
  have kept {o : Outcome σ Unit} (t : Token) :
      (o.andThen fun _ q => Outcome.done t q).ending.situation = o.ending.situation := by
    cases o <;> rfl
  rw [take, Situation.taken]
  dsimp only
  split
  · rfl
  · rw [kept, situation_advance]

/-- Taking a token is rejected with one of the diagnostics ahead. -/
theorem error?_take {e : SyntaxError} (h : (p.take setting).error? = some e) :
    ∃ l ∈ p.situation.upcoming, ∃ d ∈ l.diagnostics, e = d.locate setting.lines := by
  have kept {o : Outcome σ Unit} (t : Token) :
      (o.andThen fun _ q => Outcome.done t q).error? = o.error? := by
    rcases o with ⟨a, q⟩ | ⟨e | _, q⟩ <;> rfl
  rw [take] at h
  dsimp only at h
  split at h
  · cases h
  · rw [kept] at h
    have found := error?_advance h
    exact found

/-- Complaining leaves the situation as it is. -/
theorem situation_complain (span : Span) (fault : Fault) :
    (p.complain setting span fault).ending.situation = p.situation := by
  rw [complain]
  cases setting.mode <;> rfl

end Progress

/-! ## Along the lexemes -/

/-- The second situation lies at or behind the first one: tokens were taken, and levels and
    what stands around may have changed. -/
inductive Situation.Onward : Situation → Situation → Prop where
  | still {s t : Situation} (ahead : t.ahead = s.ahead)
      (previousEnd : t.previousEnd = s.previousEnd) : Onward s t
  | taken (s : Situation) : Onward s s.taken
  | trans {s t u : Situation} (first : Onward s t) (rest : Onward t u) : Onward s u

namespace Situation

variable {s t u : Situation} {e : SyntaxError}

/-- Nothing has been read. -/
theorem Onward.refl (s : Situation) : s.Onward s := .still rfl rfl

/-- Nothing but lexemes that were ahead is ahead. -/
theorem Onward.ahead_suffix (h : s.Onward t) : t.ahead <:+ s.ahead := by
  induction h with
  | still ahead _ => exact ahead ▸ List.suffix_refl _
  | taken s =>
      rw [Situation.taken]
      split
      · exact List.suffix_refl _
      · cases upcoming : s.upcoming with
        | nil => simp [ahead, upcoming]
        | cons next rest => simp [ahead, upcoming]
  | trans _ _ ih ih' => exact ih'.trans ih

/-- What is ahead later was ahead before. -/
theorem Onward.upcoming_suffix (h : s.Onward t) : t.upcoming <:+ s.upcoming := by
  induction h with
  | still ahead _ => exact (List.cons.inj ahead).2 ▸ List.suffix_refl _
  | taken s =>
      rw [Situation.taken]
      split
      · exact List.suffix_refl _
      · exact List.tail_suffix _
  | trans _ _ ih ih' => exact ih'.trans ih

/-- A parse that was going on at the first situation is rejected at the second one: for a
    diagnostic of a lexeme that was still to come, or for a complaint. -/
def Blames (lines : LineIndex) (s t : Situation) (e : SyntaxError) : Prop :=
  ∃ d : Diagnostic, e = d.locate lines ∧
    ((∃ l ∈ s.upcoming, d ∈ l.diagnostics) ∨ d.kind = .ofAtEnd t.current.atEnd)

/-- What is blamed further on is blamed here. -/
theorem Blames.of_onward (h : t.Blames lines u e) (onward : s.Onward t) : s.Blames lines u e := by
  obtain ⟨d, located, ⟨l, there, found⟩ | kind⟩ := h
  · exact ⟨d, located, .inl ⟨l, onward.upcoming_suffix.subset there, found⟩⟩
  · exact ⟨d, located, .inr kind⟩

end Situation

/-- The parse has gone on since the situation, and if it was rejected, its error was found
    since then. -/
structure Outcome.Stands (lines : LineIndex) (s : Situation) (o : Outcome σ α) : Prop where
  onward : s.Onward o.ending.situation
  blames : ∀ e, o.error? = some e → s.Blames lines o.ending.situation e

namespace Outcome.Stands

variable {s t : Situation} {o : Outcome σ α}

/-- A value was made here. -/
theorem done (a : α) (p : Progress σ) : (Outcome.done a p).Stands lines p.situation :=
  ⟨.refl _, nofun⟩

/-- What stands further on stands here. -/
theorem of_onward (h : o.Stands lines t) (onward : s.Onward t) : o.Stands lines s :=
  ⟨onward.trans h.onward, fun e he => (h.blames e he).of_onward onward⟩

/-- What follows the first part stands further on. -/
theorem andThen {f : α → Progress σ → Outcome σ β} (h : o.Stands lines s)
    (k : ∀ a p, (f a p).Stands lines p.situation) : (o.andThen f).Stands lines s := by
  rcases o with ⟨a, p⟩ | ⟨e | _, p⟩
  · exact (k a p).of_onward h.onward
  · exact ⟨h.onward, h.blames⟩
  · exact ⟨h.onward, nofun⟩

/-- What a frame restores does not matter. -/
theorem adjust {move : Situation → Situation} (h : o.Stands lines s)
    (ahead : ∀ s, (move s).ahead = s.ahead)
    (previousEnd : ∀ s, (move s).previousEnd = s.previousEnd) :
    (o.adjust move).Stands lines s := by
  constructor
  · rw [situation_adjust]
    exact h.onward.trans (.still (ahead _) (previousEnd _))
  · intro e he
    rw [error?_adjust] at he
    rw [situation_adjust, Situation.Blames, show (move o.ending.situation).current = _ from
      (List.cons.inj (ahead _)).1]
    exact h.blames e he

end Outcome.Stands

namespace Progress

variable {p : Progress σ}

/-- A token is taken along the lexemes. -/
theorem take_stands (setting : Setting σ) (p : Progress σ) :
    (p.take setting).Stands setting.lines p.situation where
  onward := situation_take setting p ▸ .taken _
  blames e he := by
    obtain ⟨l, there, d, found, located⟩ := error?_take he
    exact ⟨d, located, .inl ⟨l, there, found⟩⟩

/-- A complaint is located where the parse stands. -/
theorem complain_stands (span : Span) (fault : Fault) :
    (p.complain setting span fault).Stands setting.lines p.situation := by
  rw [complain]
  cases setting.mode with
  | strict =>
      refine ⟨.refl _, fun e he => ?_⟩
      obtain rfl := Option.some.inj he
      exact ⟨_, rfl, .inr rfl⟩
  | loose => exact .done () p

/-- So is the complaint of the nesting. -/
theorem deepen_stands : (p.deepen setting).Stands setting.lines p.situation := by
  rw [deepen]
  split
  · exact (complain_stands _ _).andThen fun _ q => .done false q
  · exact ⟨.still rfl rfl, nofun⟩

/-- A call leads along the lexemes as the phrase does. -/
theorem call_stands {parse : Nonterminal → Progress σ → Outcome σ Node}
    (inside : ∀ phrase p, (parse phrase p).Stands setting.lines p.situation) (frame : Frame)
    (phrase : Nonterminal) :
    (p.call setting parse frame phrase).Stands setting.lines p.situation := by
  -- A frame moves the levels and the flag before the phrase and behind it.
  have framed (depth : Nat) (inFunction : Bool) :
      (parse phrase { p with situation := { p.situation with depth, inFunction } }).Stands
        setting.lines p.situation :=
    (inside phrase ⟨{ p.situation with depth, inFunction }, p.observed⟩).of_onward (.still rfl rfl)
  cases frame with
  | same => exact inside phrase p
  | chain =>
      simp only [call]
      exact (inside phrase p).adjust (fun _ => rfl) fun _ => rfl
  | functionBody =>
      simp only [call]
      exact (framed _ true).adjust (fun _ => rfl) fun _ => rfl
  | nested =>
      simp only [call]
      split
      · exact (complain_stands _ _).andThen fun _ q =>
          (take_stands setting q).andThen fun _ r => .done _ r
      · exact (framed _ _).adjust (fun _ => rfl) fun _ => rfl

end Progress

/-! ## Runs of rules -/

/-- A run of a rule goes on along the lexemes, if the parses of its nonterminals do. -/
theorem Rule.run_stands {fuel : Nat} {parse : Nonterminal → Progress σ → Outcome σ Node}
    (inside : ∀ phrase p, (parse phrase p).Stands setting.lines p.situation) (r : Rule α)
    (p : Progress σ) : (r.run setting fuel parse p).Stands setting.lines p.situation := by
  induction r generalizing p with
  | done a => exact .done a p
  | look next ih => exact ih _ p
  | take next ih => exact (Progress.take_stands setting p).andThen fun t q => ih t q
  | openAt start next ih =>
      let answer := setting.observer.opened start p.observed
      exact ih answer.1 ⟨p.situation, answer.2⟩
  | close node next ih =>
      let answer := setting.observer.closed node p.observed
      exact ih _ ⟨p.situation, answer.2⟩
  | complain span fault next ih =>
      exact (Progress.complain_stands span fault).andThen fun _ q => ih q
  | deepen next ih => exact Progress.deepen_stands.andThen fun ok q => ih ok q
  | call frame phrase next ih =>
      exact (Progress.call_stands inside frame phrase).andThen fun n q => ih n q
  | budget next ih => exact ih _ p
  | overrun => exact ⟨.refl _, nofun⟩

/-- Every phrase does, by induction on the fuel. -/
theorem derive_stands (setting : Setting σ) (fuel : Nat) (phrase : Nonterminal) (p : Progress σ) :
    (derive setting fuel phrase p).Stands setting.lines p.situation := by
  induction fuel generalizing phrase p with
  | zero => exact ⟨.refl _, nofun⟩
  | succ fuel ih => exact Rule.run_stands ih phrase.rule p

/-- A parse ended at one of the lexemes.  If it was rejected, its error is a diagnostic of
    one of them, or its kind tells whether the one where it ended is the last thing in the
    text. -/
structure Outcome.EndsAt (lines : LineIndex) (lexemes : List Lexeme) (o : Outcome σ α) :
    Prop where
  ahead : o.ending.situation.ahead <:+ lexemes
  blames : ∀ e, o.error? = some e → ∃ d : Diagnostic, e = d.locate lines ∧
    ((∃ l ∈ lexemes, d ∈ l.diagnostics) ∨ d.kind = .ofAtEnd o.ending.situation.current.atEnd)

namespace Outcome

variable {lexemes : List Lexeme} {o : Outcome σ α}

/-- A parse that starts at a lexeme of the text ends at one. -/
theorem Stands.endsAt {s : Situation} (h : o.Stands lines s) (here : s.ahead <:+ lexemes) :
    o.EndsAt lines lexemes := by
  refine ⟨h.onward.ahead_suffix.trans here, fun e he => ?_⟩
  obtain ⟨d, located, ⟨l, there, found⟩ | kind⟩ := h.blames e he
  · exact ⟨d, located, .inl ⟨l, here.subset (List.mem_cons_of_mem _ there), found⟩⟩
  · exact ⟨d, located, .inr kind⟩

/-- What follows ends at a lexeme of the text, since the first part does. -/
theorem EndsAt.andThen {f : α → Progress σ → Outcome σ β} (h : o.EndsAt lines lexemes)
    (k : ∀ a p, p.situation.ahead <:+ lexemes → (f a p).EndsAt lines lexemes) :
    (o.andThen f).EndsAt lines lexemes := by
  rcases o with ⟨a, p⟩ | ⟨e | _, p⟩
  · exact k a p h.ahead
  · exact ⟨h.ahead, h.blames⟩
  · exact ⟨h.ahead, nofun⟩

end Outcome

/-- THE REJECTION: a parse of lexemes ends at one of them, and if it is rejected, it is for
    a diagnostic of one of them or for a complaint about the place where it ends. -/
theorem parseLexemes_endsAt (setting : Setting σ) {lexemes : List Lexeme} (filled : lexemes ≠ [])
    (stop : Nat) (a : σ) : (parseLexemes setting lexemes stop a).EndsAt setting.lines lexemes := by
  obtain ⟨first, rest, rfl⟩ := List.exists_cons_of_ne_nil filled
  have start (b : σ) : ((Progress.start (first :: rest) b).advance setting).EndsAt setting.lines
      (first :: rest) := by
    refine ⟨?_, fun e he => ?_⟩
    · rw [Progress.situation_advance]
      exact List.suffix_refl _
    · obtain ⟨l, there, d, found, located⟩ := Progress.error?_advance he
      exact ⟨d, located, .inl ⟨l, there, found⟩⟩
  let fuel := fuelFor (first :: rest).length
  have rules {γ : Type} (r : Rule γ) (p : Progress σ) (here : p.situation.ahead <:+ first :: rest) :
      (r.run setting fuel (derive setting fuel) p).EndsAt setting.lines (first :: rest) :=
    (Rule.run_stands (derive_stands setting fuel) r p).endsAt here
  rw [parseLexemes]
  refine (start _).andThen fun _ p here => ?_
  exact (rules _ p here).andThen fun body q there => rules _ _ there

/-- The error of a parse that is rejected tells the line and the column of its span. -/
theorem parseText_located {mode : Mode} {text : List Char} {w : Observer σ} {a : σ}
    {e : SyntaxError} (h : (parseText mode text lines w a).1 = .rejected e) :
    e.position = lines.lineColumn e.span.start := by
  have ends := parseLexemes_endsAt ⟨mode, lines, w⟩ (Lexeme.ofText_terminated text).ne_nil
    (Text.byteLength text) a
  obtain ⟨p, rejected⟩ := Outcome.eq_rejected_of_result h
  rw [rejected] at ends
  obtain ⟨d, rfl, -⟩ := ends.blames e rfl
  rfl

end ScriptTree

import ScriptTree.Proofs.Fuel.Statement

/-! # Fuel for programs — every parse ends

    Every nonterminal keeps to its account, so its rule descends below what the
    nonterminal measures.  With it the fuel that a program is given lasts, and
    the program ends with a tree or a rejection; more fuel would change nothing.
    A loose parse rejects nothing. -/

namespace ScriptTree

open Grammar

variable {σ : Type} {mode : Mode} {fuel : Nat} {s : Situation}

/-- The rule of every nonterminal keeps to the cost of the nonterminal, with one
    level of fuel for the nonterminal itself. -/
theorem Nonterminal.rule_descends (phrase : Nonterminal)
    (hs : s.Affords (fuel + 1) (phrase.cost s)) :
    phrase.rule.Descends mode fuel s fun _ t => s.Leads t := by
  have less {cost : Nat} (h : phrase.cost s = cost + 1) : s.Affords fuel cost :=
    ⟨hs.1, by have := hs.2; omega⟩
  cases phrase with
  | statement => exact statementRule_runs (Nat.le_refl 4) mode fuel s (less rfl)
  | block =>
      -- A block is called for in front of its brace, and then is cheap; where the brace is
      -- missing, no token may be taken, and it costs more than all statements.
      by_cases brace : s.token.isPunctuator .openBrace = true
      · exact blockRule_takes brace (less (by simp only [cost, brace, ↓reduceIte]))
      · exact blockRule_runs (Nat.le_refl 5) mode fuel s (less (if_neg brace))
  | assignment noIn => exact assignmentRule_runs noIn (Nat.le_refl 3) mode fuel s (less rfl)
  | unary => exact unaryRule_runs (Nat.le_refl 2) mode fuel s (less rfl)
  | atom => exact atomRule_runs (Nat.le_refl 1) mode fuel s (less rfl)
  | operators left start minimum noIn =>
      exact operatorsRule_runs left start minimum noIn (Nat.le_refl 1) mode fuel s (less rfl)
  | subscripts base start noCalls =>
      exact subscriptsRule_runs base start noCalls (Nat.le_refl 1) mode fuel s (less rfl)
  | arrayPattern =>
      by_cases bracket : s.token.isPunctuator .openBracket = true
      · have goes := Token.isEnd_of_isPunctuator bracket
        exact arrayPattern_advances.meets goes (less (if_pos bracket)) (Nat.le_refl 1)
          fun _ _ on _ => on
      · exact arrayPattern_runs (Nat.le_refl 2) mode fuel s (less (if_neg bracket))
  | objectPattern => exact objectPattern_runs (Nat.le_refl 1) mode fuel s (less rfl)

/-- Every nonterminal costs something, and less than a token pays for. -/
theorem Nonterminal.cost_bounds (phrase : Nonterminal) (s : Situation) :
    0 < phrase.cost s ∧ phrase.cost s < 8 := by
  cases phrase <;> simp only [Nonterminal.cost] <;> (try split) <;> omega

/-- No nonterminal can start without fuel. -/
theorem Nonterminal.not_affords_zero (phrase : Nonterminal) :
    ¬ s.Affords 0 (phrase.cost s) := by
  intro hs
  have := hs.2
  have := (phrase.cost_bounds s).1
  omega

/-- With the fuel that its tokens and its cost ask for, the parse of a
    nonterminal goes forward and does not run out of fuel. -/
theorem derive_onward (setting : Setting σ) (fuel : Nat) :
    (Contract.onward setting.mode).KeptBy fuel (derive setting fuel) := by
  refine Contract.derive_keeps rfl (fun phrase s hs => phrase.not_affords_zero hs) ?_ fuel
  exact fun fuel phrase s hs => (phrase.rule_descends hs).meets (Nat.le_refl fuel)

/-- Fuel above what the nonterminal can afford changes nothing. -/
theorem derive_affords (setting : Setting σ) {bound fuel : Nat} (le : bound ≤ fuel)
    {phrase : Nonterminal} {p : Progress σ}
    (h : p.situation.Affords bound (phrase.cost p.situation)) :
    derive setting fuel phrase p = derive setting bound phrase p := by
  induction bound generalizing fuel phrase p with
  | zero => exact (phrase.not_affords_zero h).elim
  | succ bound ih =>
      obtain ⟨more, rfl⟩ := Nat.exists_eq_add_of_le le
      rw [Nat.add_right_comm]
      -- The nonterminals that the rule calls can afford one level less.
      refine ((phrase.rule_descends h).run_eq (Nat.le_refl bound) (Nat.le_add_right bound more)
        (derive_onward setting bound) (fun phrase q hq => ?_) rfl).symm
      exact (ih (Nat.le_add_right bound more) hq).symm

/-- The statements of a program end at the end of input. -/
theorem programBody_descends (hs : s.Affords fuel 5) :
    programBody.Descends mode fuel s fun _ t => s.Leads t ∧ t.token.isEnd = true := by
  refine (statementsUntil_descends _ (Nat.le_refl 5) hs).mono fun _ t ht => ⟨ht.1, ?_⟩
  rw [← Bool.or_false t.token.isEnd]
  exact ht.2

/-- A parse of a terminated stream does not run out of fuel; if it ends with a
    program, it stands at the end of the stream. -/
theorem parseLexemes_ends (setting : Setting σ) {lexemes : List Lexeme}
    (h : Lexeme.Terminated lexemes) (stop : Nat) (observed : σ) :
    (parseLexemes setting lexemes stop observed).Ends setting.mode False fun _ t =>
      t.token.isEnd = true ∧ ∃ words, lexemes = words ++ t.ahead ∧ t.consumed = words.length := by
  obtain ⟨first, rest, rfl⟩ := List.exists_cons_of_ne_nil h.ne_nil
  refine Outcome.Ends.andThen (Progress.passDiagnostics_ends _ _) fun _ p hp => ?_
  have ahead : p.situation.ahead = first :: rest := by rw [hp]; rfl
  have counted : p.situation.consumed = 0 := by rw [hp]; rfl
  have paid : p.situation.Affords (fuelFor (first :: rest).length) 5 := by
    refine ⟨ahead ▸ h, ?_⟩
    rw [hp]
    simp only [Situation.remaining, fuelFor, nestingLimit, List.length_cons]
    show 8 * rest.length + 5 ≤ _
    omega
  have meets : programBody.Meets (.onward setting.mode) _ p.situation _ :=
    (programBody_descends paid).meets (Nat.le_refl _)
  refine Outcome.Ends.andThen (meets.ends rfl (derive_onward setting _)) fun body q hq => ?_
  obtain ⟨⟨words, hw, hc⟩, ends⟩ := hq
  -- Closing the program moves nothing but where the last token ended.
  refine ⟨ends, words, ?_, ?_⟩
  · exact ahead.symm.trans hw
  · exact hc.trans (by rw [counted, Nat.zero_add])

/-- A loose parse of a terminated stream ends with a program, whoever watches. -/
theorem parseLexemes_loose {setting : Setting σ} (loose : setting.mode = .loose)
    {lexemes : List Lexeme} (h : Lexeme.Terminated lexemes) (stop : Nat) (observed : σ) :
    ∃ program p, parseLexemes setting lexemes stop observed = .done program p := by
  have ends := parseLexemes_ends setting h stop observed
  rw [loose] at ends
  revert ends
  cases parseLexemes setting lexemes stop observed with
  | done program p => exact fun _ => ⟨program, p, rfl⟩
  | stopped why p =>
      cases why with
      | rejected e => exact fun ends => Mode.noConfusion ends
      | outOfFuel => exact fun ends => ends.elim

/-- EVERY PARSE FINISHES: in either mode a parse of a text ends with a tree or is
    rejected. -/
theorem parseText_finishes (mode : Mode) (text : List Char) (lines : LineIndex) (o : Observer σ)
    (observed : σ) : (parseText mode text lines o observed).1 ≠ .unfinished := by
  have ends := parseLexemes_ends ⟨mode, lines, o⟩ (Lexeme.ofText_terminated text)
    (Text.byteLength text) observed
  rw [parseText]
  revert ends
  cases parseLexemes ⟨mode, lines, o⟩ (Lexeme.ofText text) (Text.byteLength text) observed with
  | done program p => exact fun _ => ParseResult.noConfusion
  | stopped why p =>
      cases why with
      | rejected e => exact fun _ => ParseResult.noConfusion
      | outOfFuel => exact fun ends => ends.elim

/-- A loose parse of a text always gives a tree. -/
theorem parseText_loose (text : List Char) (lines : LineIndex) (o : Observer σ) (observed : σ) :
    ∃ program after, parseText .loose text lines o observed = (.tree program, after) := by
  obtain ⟨program, p, hp⟩ : ∃ program p, parseLexemes ⟨.loose, lines, o⟩ (Lexeme.ofText text)
      (Text.byteLength text) observed = .done program p :=
    parseLexemes_loose rfl (Lexeme.ofText_terminated text) _ _
  exact ⟨program, p.observed, by rw [parseText, hp]; rfl⟩

/-- EVERY PARSE TERMINATES: in either mode the rule of every nonterminal descends
    below what the nonterminal measures where it starts, and so do the statements
    of a program, each round of a loop that goes on takes a token, and each call
    measures less than its caller.  Levels cost less than a token pays for, so
    the measure orders by the tokens ahead first.  Hence it does not matter how
    much fuel there is above the measure.  A parse of a text ends with a tree or
    is rejected, and a loose one ends with a tree. -/
theorem parse_terminates {σ : Type} (text : List Char) (lines : LineIndex) (o : Observer σ)
    (observed : σ) :
    (∀ (phrase : Nonterminal) (s : Situation), 0 < phrase.cost s ∧ phrase.cost s < 8) ∧
    (∀ mode (phrase : Nonterminal) (s : Situation) bound,
      Lexeme.Terminated s.ahead → phrase.measure s = bound + 1 →
        phrase.rule.Descends mode bound s fun _ t => s.Leads t) ∧
    (∀ mode (s : Situation), Lexeme.Terminated s.ahead →
      programBody.Descends mode (8 * s.remaining + 5) s
        fun _ t => s.Leads t ∧ t.token.isEnd = true) ∧
    (∀ (setting : Setting σ) (phrase : Nonterminal) p fuel, Lexeme.Terminated p.situation.ahead →
      phrase.measure p.situation ≤ fuel →
        derive setting fuel phrase p = derive setting (phrase.measure p.situation) phrase p) ∧
    (∀ (setting : Setting σ) p fuel, Lexeme.Terminated p.situation.ahead →
      8 * p.situation.remaining + 5 ≤ fuel →
        programBody.run setting fuel (derive setting fuel) p =
          programBody.run setting (8 * p.situation.remaining + 5)
            (derive setting (8 * p.situation.remaining + 5)) p) ∧
    Lexeme.Terminated (Lexeme.ofText text) ∧
    (∀ mode, (parseText mode text lines o observed).1 ≠ .unfinished) ∧
    ∃ program after, parseText .loose text lines o observed = (.tree program, after) := by
  refine ⟨Nonterminal.cost_bounds, fun mode phrase s bound hs measured => ?_,
    fun mode s hs => programBody_descends ⟨hs, Nat.le_refl _⟩,
    fun setting phrase p fuel hp le => derive_affords setting le ⟨hp, Nat.le_refl _⟩,
    fun setting p fuel hp le => ?_, Lexeme.ofText_terminated text,
    fun mode => parseText_finishes mode text lines o observed,
    parseText_loose text lines o observed⟩
  · exact phrase.rule_descends ⟨hs, Nat.le_of_eq measured⟩
  -- More fuel than the measure changes nothing, since every call finds enough of it.
  · refine ((programBody_descends ⟨hp, Nat.le_refl _⟩).run_eq (Nat.le_refl _) le
      (derive_onward setting _) (fun phrase q hq => ?_) rfl).symm
    exact (derive_affords setting le hq).symm

end ScriptTree

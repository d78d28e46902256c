import ScriptTree.Proofs.Assembly.Program
import ScriptTree.Proofs.Level.Weight

/-! # Levels in programs

    Every rule of the grammar gives back what it found: the levels that are open, and whether
    a `return` may stand there.  So the statements of a list all start at the level of the
    list, however many there are.  If a program is rejected for too many levels, it is one of
    its statements that opened them, and it had to take tokens to do so: a program is never
    rejected for its length. -/

namespace ScriptTree

variable {σ α β : Type}

namespace Grammar

/-- The rules that the grammar is made of, but for the two chains. -/
inductive Part : {α : Type} → Rule α → Prop where
  -- Phrases
  | situation : Part situation
  | token : Part token
  | here : Part here
  | consumed : Part consumed
  | isAt (mark : Punctuator) : Part (isAt mark)
  | isAtWord (word : Keyword) : Part (isAtWord word)
  | take : Part take
  | eat (mark : Punctuator) : Part (eat mark)
  | eatWord (word : Keyword) : Part (eatWord word)
  | expect (mark : Punctuator) : Part (expect mark)
  | expectWord (word : Keyword) : Part (expectWord word)
  | semicolon : Part semicolon
  | complain (span : Span) (fault : Fault) : Part (complain span fault)
  | complainHere (fault : Fault) : Part (complainHere fault)
  | unexpected : Part unexpected
  | openNode : Part openNode
  | closeNodeAt (opened : Opened) (shape : Shape Node) (stop : Nat) :
    Part (closeNodeAt opened shape stop)
  | closeNode (opened : Opened) (shape : Shape Node) : Part (closeNode opened shape)
  | placeholder : Part placeholder
  -- Calls
  | parse (phrase : Nonterminal) (plain : phrase.isChain = false) : Part (parse phrase)
  | parseNested (phrase : Nonterminal) (plain : phrase.isChain = false) :
    Part (parseNested phrase)
  | parseChain (phrase : Nonterminal) : Part (parseChain phrase)
  | statement : Part statement
  | assignment (noIn : Bool) : Part (assignment noIn)
  | unary : Part unary
  | functionBody : Part functionBody
  | expression (noIn : Bool) : Part (expression noIn)
  -- Lists
  | isAtClose (close : Punctuator) : Part (isAtClose close)
  | endItem (close : Punctuator) (before : Nat) : Part (endItem close before)
  | items (close : Punctuator) {item : Rule Node} (part : Part item) : Part (items close item)
  | elements (close : Punctuator) {item : Rule Node} (part : Part item) :
    Part (elements close item)
  | commaChain (close : Punctuator) {item : Rule Node} (part : Part item) :
    Part (commaChain close item)
  | statementsUntil (ends : Token → Bool) : Part (statementsUntil ends)
  -- Leaves
  | leaf (shape : Shape Node) : Part (leaf shape)
  | missing : Part missing
  | identifier : Part identifier
  | identifierName : Part identifierName
  | literal : Part literal
  | propertyName : Part propertyName
  -- Patterns
  | bindingTarget : Part bindingTarget
  | withDefault (start : Nat) (target : Node) : Part (withDefault start target)
  | bindingElement : Part bindingElement
  | restElement : Part restElement
  | bindingOrRest : Part bindingOrRest
  | arrayPattern : Part arrayPattern
  | patternProperty : Part patternProperty
  | objectPattern : Part objectPattern
  | asPattern (n : Node) : Part (asPattern n)
  | asPatterns (found : List Node) : Part (asPatterns found)
  | checkSimpleTarget (n : Node) : Part (checkSimpleTarget n)
  -- Functions and classes
  | parameters : Part parameters
  | optionalName (isStatement : Bool) : Part (optionalName isStatement)
  | function (opened : Opened) (isStatement : Bool) : Part (function opened isStatement)
  | methodFunction : Part methodFunction
  | classMethod : Part classMethod
  | classMethods : Part classMethods
  | classPhrase (opened : Opened) (isStatement : Bool) : Part (classPhrase opened isStatement)
  -- Expressions
  | conditional (noIn : Bool) : Part (conditional noIn)
  | assignmentTarget (operator : Punctuator) (left : Node) :
    Part (assignmentTarget operator left)
  | assignmentRule (noIn : Bool) : Part (assignmentRule noIn)
  | postfixOperators (start : Nat) (operand : Node) : Part (postfixOperators start operand)
  | unaryRule : Part unaryRule
  | spreadOrAssignment : Part spreadOrAssignment
  | callArguments : Part callArguments
  | template : Part template
  | subscript (base : Node) (kind : Subscript) : Part (subscript base kind)
  | isAtArrow : Part isAtArrow
  | arrowBody (opened : Opened) (params : List Node) : Part (arrowBody opened params)
  | nameOrArrow : Part nameOrArrow
  | array : Part array
  | propertyRest (key : Node) (computed : Bool) : Part (propertyRest key computed)
  | objectProperty : Part objectProperty
  | object : Part object
  | parenthesized : Part parenthesized
  | parenOrArrow : Part parenOrArrow
  | newObject : Part newObject
  | wordAtom (word : Keyword) : Part (wordAtom word)
  | atomRule : Part atomRule
  -- Statements
  | blockRule : Part blockRule
  | parenExpression : Part parenExpression
  | declarators (noIn : Bool) : Part (declarators noIn)
  | variableStatement (kind : BindingKind) : Part (variableStatement kind)
  | ifStatement : Part ifStatement
  | forRest (opened : Opened) (init : Option Node) : Part (forRest opened init)
  | forEach (opened : Opened) (left : Node) : Part (forEach opened left)
  | isAtForEach : Part isAtForEach
  | forStatement : Part forStatement
  | whileStatement : Part whileStatement
  | doWhileStatement : Part doWhileStatement
  | returnStatement : Part returnStatement
  | jumpLabel : Part jumpLabel
  | jumpStatement (shape : Option Node → Shape Node) : Part (jumpStatement shape)
  | throwStatement : Part throwStatement
  | catchClause : Part catchClause
  | tryStatement : Part tryStatement
  | caseRest (opened : Opened) (test : Option Node) : Part (caseRest opened test)
  | switchCases : Part switchCases
  | switchStatement : Part switchStatement
  | withStatement : Part withStatement
  | expressionStatement : Part expressionStatement
  | plainStatement : Part plainStatement
  | wordStatement (word : Keyword) : Part (wordStatement word)
  | statementRule : Part statementRule

/-- Every rule of the grammar is framed. -/
theorem Part.framed {chained : Bool} {r : Rule α} (h : Part r) : r.Framed chained true := by
  induction h <;> simp [*]

end Grammar

/-! ## Nonterminals -/

section Deriving

variable {setting : Setting σ} {fuel : Nat}

/-- The rule of a nonterminal is framed, as a chain if it is one. -/
theorem Nonterminal.rule_framed (phrase : Nonterminal) :
    phrase.rule.Framed phrase.isChain false := by
  cases phrase with
  | statement => exact Grammar.statementRule_framed
  | block => exact Grammar.blockRule_framed
  | assignment noIn => exact Grammar.assignmentRule_framed noIn
  | unary => exact Grammar.unaryRule_framed
  | atom => exact Grammar.atomRule_framed
  | operators left start minimum noIn => exact Grammar.operatorsRule_framed left start minimum noIn
  | subscripts base start noCalls => exact Grammar.subscriptsRule_framed base start noCalls
  | arrayPattern => exact Grammar.arrayPattern_framed
  | objectPattern => exact Grammar.objectPattern_framed

/-- Every phrase resumes the situation, by induction on the fuel. -/
theorem derive_leveled (setting : Setting σ) (fuel : Nat) :
    Progress.LeveledBy (derive setting fuel) := by
  induction fuel with
  | zero => exact fun _ _ limited => .refl limited
  | succ fuel ih => exact fun phrase p limited => phrase.rule_framed.resumes setting fuel ih limited

/-- A phrase comes by no place that is above its own level. -/
theorem trail_within (setting : Setting σ) (fuel : Nat) (phrase : Nonterminal) (p : Progress σ)
    (limited : p.situation.depth ≤ nestingLimit) :
    ∀ q ∈ trail setting fuel phrase p, p.situation.Within q.situation := by
  induction fuel generalizing phrase p with
  | zero => exact List.forall_mem_singleton.mpr ⟨Nat.le_refl _, limited⟩
  | succ fuel ih =>
      exact phrase.rule_framed.trail_within (derive_leveled setting fuel) ih limited

/-- A phrase comes by the place where it ends. -/
theorem ending_mem_trail (setting : Setting σ) (fuel : Nat) (phrase : Nonterminal)
    (p : Progress σ) : (derive setting fuel phrase p).ending ∈ trail setting fuel phrase p := by
  cases fuel with
  | zero => exact List.mem_singleton_self p
  | succ fuel => exact Rule.ending_mem_trail

/-- A phrase that is rejected for its nesting has spent its weight on levels and tokens. -/
theorem derive_sunk (setting : Setting σ) (fuel : Nat) :
    Progress.SunkBy fuel (derive setting fuel) := by
  induction fuel with
  | zero => exact fun phrase _ paid _ _ => (phrase.not_affords_zero paid).elim
  | succ fuel ih =>
      exact fun phrase p paid limited lexical =>
        phrase.rule_sinks (derive_onward setting fuel) (derive_leveled setting fuel) ih paid
          limited lexical

end Deriving

/-! ## Lists of statements -/

/-- Where a parse is done, a place behind its first part is among those that are followed. -/
theorem Outcome.mem_follow {o : Outcome σ α} {f : α → Progress σ → Outcome σ β} {b : β}
    {q t : Progress σ} {g : α → Progress σ → List (Progress σ)} (h : o.andThen f = .done b q)
    (k : ∀ a r, f a r = .done b q → t ∈ g a r) : t ∈ o.follow g := by
  obtain ⟨a, r, rfl, rest⟩ := andThen_eq_done h
  exact k a r rest

/-- What is passed behind a rule is passed by the two together. -/
theorem Rule.mem_trail_bind {setting : Setting σ} {fuel : Nat}
    {parse : Nonterminal → Progress σ → Outcome σ Node}
    {within : Nonterminal → Progress σ → List (Progress σ)} {p q t : Progress σ}
    {r : Rule α} {f : α → Rule β} {a : α} (run : r.run setting fuel parse p = .done a q)
    (h : t ∈ (f a).trail setting fuel parse within q) :
    t ∈ (r >>= f).trail setting fuel parse within p := by
  show t ∈ (r.bind f).trail setting fuel parse within p
  induction r generalizing p with
  | done b =>
      obtain ⟨⟩ := run
      exact h
  | look next ih => exact List.mem_cons_of_mem _ (ih _ run)
  | take next ih => exact List.mem_cons_of_mem _ (Outcome.mem_follow run fun b _ => ih b)
  | openAt start next ih => exact List.mem_cons_of_mem _ (ih _ run)
  | close node next ih => exact List.mem_cons_of_mem _ (ih _ run)
  | complain span fault next ih =>
      exact List.mem_cons_of_mem _ (Outcome.mem_follow run fun _ _ => ih)
  | deepen next ih => exact List.mem_cons_of_mem _ (Outcome.mem_follow run fun b _ => ih b)
  | call frame phrase next ih =>
      exact List.mem_cons_of_mem _
        (List.mem_append_right _ (Outcome.mem_follow run fun b _ => ih b))
  | budget next ih => exact List.mem_cons_of_mem _ (ih _ run)
  | overrun => cases run

/-- A list of statements may start here: the fuel affords it, and what is reported of the
    tokens ahead was found while scanning. -/
structure Situation.Ready (fuel : Nat) (s : Situation) : Prop where
  paid : s.Affords fuel 5
  limited : s.depth ≤ nestingLimit
  lexical : ∀ l ∈ s.upcoming, Diagnostic.Lexical l.diagnostics

namespace Grammar

/-- One statement of a list. -/
theorem statementRound_runs (ends : Token → Bool) (found : Array Node) :
    (statementRound ends found).Runs 5 := by
  refine situation_stays.bind_runs fun s => .ite (.pure _) ?_
  refine (statement_runs (Nat.le_refl 5)).bind fun next => consumed_stays.bind_runs fun after => ?_
  exact .ite (take_runs.bind fun _ => .pure _) (.pure _)

variable {setting : Setting σ} {fuel : Nat} {p q z : Progress σ} {ends : Token → Bool}
  {found : Array Node} {e : SyntaxError}

/-- A round that is rejected for too many levels is rejected in its statement. -/
theorem statementRound_deep (ready : p.situation.Ready fuel)
    (h : (statementRound ends found).run setting fuel (derive setting fuel) p =
      .stopped (.rejected e) z) (deep : e.fault = .nestingTooDeep) :
    ∃ r, statement.run setting fuel (derive setting fuel) p = .stopped (.rejected e) r := by
  change Rule.run setting fuel (derive setting fuel)
    (if (p.situation.token.isEnd || ends p.situation.token) = true then _ else _) p = _ at h
  split at h
  · cases h
  rw [Rule.run_bind] at h
  have framed : statement.Framed false false := statement_framed
  have on := framed.resumes setting fuel (derive_leveled setting fuel) ready.limited
  -- If the statement is rejected, the round is; a round does nothing else that could be rejected
  -- for its nesting.
  cases parsed : statement.run setting fuel (derive setting fuel) p with
  | stopped why r =>
      rw [parsed] at h
      obtain ⟨rfl, -⟩ := Outcome.stopped.inj h
      exact ⟨r, rfl⟩
  | done n q =>
      rw [parsed] at h on
      change Rule.run setting fuel (derive setting fuel)
        (if (q.situation.consumed == p.situation.consumed) = true then _ else _) q = _ at h
      split at h
      · -- What is wrong with the token that is skipped was found while scanning.
        have sinks : (q.take setting).Sinks 0 :=
          Progress.take_sinks fun l hl => ready.lexical l (on.upcoming.subset hl)
        rw [Rule.run_bind] at h
        simp only [take, Rule.run] at h
        cases skipped : q.take setting with
        | stopped why u =>
            rw [skipped] at h sinks
            obtain ⟨rfl, -⟩ := Outcome.stopped.inj h
            exact absurd (sinks deep) (by simp [nestingLimit])
        | done t u =>
            rw [skipped] at h
            cases h
      · cases h

/-- If a list of statements is rejected for too many levels, so is one of its statements
    where it starts, which is at the level of the list. -/
theorem iterate_deep (n : Nat) (ready : p.situation.Ready fuel)
    (h : (Rule.iterate (statementRound ends) n found).run setting fuel (derive setting fuel) p =
      .stopped (.rejected e) z) (deep : e.fault = .nestingTooDeep) :
    ∃ q r, q ∈ (Rule.iterate (statementRound ends) n found).trail setting fuel
        (derive setting fuel) (trail setting fuel) p ∧
      q.situation.depth = p.situation.depth ∧ q.situation.Ready fuel ∧
      statement.run setting fuel (derive setting fuel) q = .stopped (.rejected e) r := by
  induction n generalizing found p with
  | zero => cases h
  | succ n ih =>
      change Rule.run setting fuel _ (statementRound ends found >>= _) p = _ at h
      rw [Rule.run_bind] at h
      have framed : (statementRound ends found).Framed false false :=
        statementRound_framed ends found
      have on := framed.resumes setting fuel (derive_leveled setting fuel) ready.limited
      have leads := ((statementRound_runs ends found setting.mode fuel _ ready.paid).meets
        (Nat.le_refl fuel)).ends (rfl : setting.mode = _) (derive_onward setting fuel)
      cases went : (statementRound ends found).run setting fuel (derive setting fuel) p with
      | stopped why r =>
          rw [went] at h
          obtain ⟨rfl, -⟩ := Outcome.stopped.inj h
          obtain ⟨r, rejected⟩ := statementRound_deep ready went deep
          exact ⟨p, r, Rule.start_mem_trail, rfl, ready, rejected⟩
      | done turn q =>
          rw [went] at h on leads
          cases turn with
          | leave body => cases h
          | again found' =>
              have next : q.situation.Ready fuel :=
                ⟨ready.paid.leads leads, on.limited, fun l hl =>
                  ready.lexical l (on.upcoming.subset hl)⟩
              -- The round has given its levels back, so the next one starts where it did.
              obtain ⟨u, r, passed, level, ready, rejected⟩ := ih next h
              exact ⟨u, r, Rule.mem_trail_bind went passed, level.trans (on.level rfl), ready,
                rejected⟩

/-- A list of statements is rejected for its nesting inside of one of them, which starts at
    the level of the list. -/
theorem statementsUntil_deep (ready : p.situation.Ready fuel)
    (h : (statementsUntil ends).run setting fuel (derive setting fuel) p =
      .stopped (.rejected e) z) (deep : e.fault = .nestingTooDeep) :
    ∃ q r, q ∈ (statementsUntil ends).trail setting fuel (derive setting fuel)
        (trail setting fuel) p ∧
      q.situation.depth = p.situation.depth ∧ q.situation.Ready fuel ∧
      statement.run setting fuel (derive setting fuel) q = .stopped (.rejected e) r := by
  rw [statementsUntil_eq] at h ⊢
  obtain ⟨q, r, passed, rest⟩ := iterate_deep fuel ready h deep
  exact ⟨q, r, List.mem_cons_of_mem p passed, rest⟩

/-- A statement that is rejected for too many levels took tokens for them. -/
theorem statement_deep (ready : p.situation.Ready fuel)
    (h : statement.run setting fuel (derive setting fuel) p = .stopped (.rejected e) z)
    (deep : e.fault = .nestingTooDeep) :
    nestingLimit + 8 * z.situation.remaining ≤
      p.situation.depth + 8 * p.situation.remaining + 6 := by
  have stands : p.situation.Stands (8 * p.situation.remaining + 5) p.situation.depth :=
    ⟨rfl, ready.limited, Nat.le_add_right _ _, ready.lexical⟩
  have sunk := (derive_sunk setting fuel).mono ready.paid.2
  have calls : (Contract.onward setting.mode).Calls (8 * p.situation.remaining + 5) .nested
      .statement p.situation _ :=
    Contract.calls_onward ⟨ready.paid.1, Nat.le_refl _⟩
  have sinks : (statement.run setting fuel (derive setting fuel) p).Sinks _ :=
    (Progress.call_sinks stands sunk calls nofun).andThen fun _ _ _ => trivial
  rw [h] at sinks
  have := sinks deep
  omega

end Grammar

/-! ## Programs -/

/-- The places that the parse of some lexemes passes behind the first of them. -/
def passes (setting : Setting σ) (lexemes : List Lexeme) (observed : σ) : List (Progress σ) :=
  let fuel := fuelFor lexemes.length
  ((Progress.start lexemes (setting.observer.opened 0 observed).2).advance setting).follow
    fun _ p => Grammar.programBody.trail setting fuel (derive setting fuel) (trail setting fuel) p

/-- The first token of a text has all the fuel that the text needs. -/
theorem Situation.Ready.first {first : Lexeme} {rest : List Lexeme}
    (terminated : Lexeme.Terminated (first :: rest))
    (lexical : ∀ l ∈ first :: rest, Diagnostic.Lexical l.diagnostics) :
    Ready (fuelFor (first :: rest).length) ⟨first, rest, 0, 0, 0, false⟩ where
  paid := by
    refine ⟨terminated, ?_⟩
    show 8 * rest.length + 5 ≤ 8 * ((rest.length + 1) + nestingLimit) + 8
    omega
  limited := Nat.zero_le _
  lexical l hl := lexical l (List.mem_cons_of_mem _ hl)

open Grammar in
/-- A program that is rejected for too many levels has a statement that is so, where no level
    is open. -/
theorem parseLexemes_deep {setting : Setting σ} {lexemes : List Lexeme}
    (terminated : Lexeme.Terminated lexemes)
    (lexical : ∀ l ∈ lexemes, Diagnostic.Lexical l.diagnostics) {stop : Nat} {observed : σ}
    {e : SyntaxError} {z : Progress σ}
    (h : parseLexemes setting lexemes stop observed = .stopped (.rejected e) z)
    (deep : e.fault = .nestingTooDeep) :
    ∃ q r, q ∈ passes setting lexemes observed ∧ q.situation.depth = 0 ∧
      statement.run setting (fuelFor lexemes.length) (derive setting (fuelFor lexemes.length)) q =
        .stopped (.rejected e) r ∧
      r.situation.remaining + 32 ≤ q.situation.remaining := by
  obtain ⟨first, rest, rfl⟩ := List.exists_cons_of_ne_nil terminated.ne_nil
  let start : Progress σ := .start (first :: rest) (setting.observer.opened 0 observed).2
  -- Reading the first lexeme cannot be rejected for the nesting either.
  have sinks : (start.advance setting).Sinks 0 := Progress.advance_sinks lexical
  have starts : (start.advance setting).Satisfies _ := Progress.advance_satisfies rfl
  change (start.advance setting).andThen _ = _ at h
  change ∃ q r, q ∈ (start.advance setting).follow _ ∧ _
  cases went : start.advance setting with
  | stopped why u =>
      rw [went] at h sinks
      obtain ⟨rfl, -⟩ := Outcome.stopped.inj h
      exact absurd (sinks deep) (by simp [nestingLimit])
  | done _ p =>
      rw [went] at h starts
      have here : p.situation = ⟨first, rest, 0, 0, 0, false⟩ := congrArg Progress.situation starts
      have ready : p.situation.Ready (fuelFor (first :: rest).length) :=
        here ▸ .first terminated lexical
      change Outcome.andThen (programBody.run _ _ _ p) _ = _ at h
      cases parsed : programBody.run setting (fuelFor (first :: rest).length)
          (derive setting (fuelFor (first :: rest).length)) p with
      | done body q =>
          rw [parsed] at h
          cases h
      | stopped why u =>
          rw [parsed] at h
          obtain ⟨rfl, -⟩ := Outcome.stopped.inj h
          -- Inside of the list, it is one statement that is rejected; it stands at level zero, and
          -- to get from there to the limit takes tokens.
          obtain ⟨q, r, passed, level, ready, rejected⟩ := statementsUntil_deep ready parsed deep
          have outside : q.situation.depth = 0 := level.trans (congrArg Situation.depth here)
          have took := statement_deep ready rejected deep
          rw [outside, nestingLimit] at took
          exact ⟨q, r, passed, outside, rejected, by omega⟩

/-- LEVELS: a rule ends at the level where it began, with a `return` allowed as before, whether
    it ends with a value or stops, and so does a chain but for its own levels.  On the way no
    level is closed that was open before, and there are never more than the limit.  Hence
    statements in a row do not add up: a text that is rejected for too many levels has a
    statement outside of all others that is rejected so, after more than thirty tokens. -/
theorem parse_levels (text : List Char) (lines : LineIndex) (w : Observer σ) (observed : σ) :
    (∀ {α : Type} {r : Rule α}, Grammar.Part r →
      ∀ (setting : Setting σ) (fuel : Nat) (p : Progress σ), p.situation.depth ≤ nestingLimit →
        let ending := (r.run setting fuel (derive setting fuel) p).ending
        let trail := r.trail setting fuel (derive setting fuel) (trail setting fuel) p
        ending.situation.depth = p.situation.depth ∧
          ending.situation.inFunction = p.situation.inFunction ∧ ending ∈ trail ∧
          ∀ q ∈ trail, p.situation.depth ≤ q.situation.depth ∧ q.situation.depth ≤ nestingLimit) ∧
    (∀ phrase : Nonterminal, phrase.isChain = true →
      ∀ (setting : Setting σ) (fuel : Nat) (p : Progress σ), p.situation.depth ≤ nestingLimit →
        let ending := (derive setting fuel phrase p).ending
        ending.situation.inFunction = p.situation.inFunction ∧
          ending ∈ trail setting fuel phrase p ∧
          ∀ q ∈ trail setting fuel phrase p,
            p.situation.depth ≤ q.situation.depth ∧ q.situation.depth ≤ nestingLimit) ∧
    ∀ (e : SyntaxError) (told : σ),
      parseText .strict text lines w observed = (.rejected e, told) → e.fault = .nestingTooDeep →
        let setting : Setting σ := ⟨.strict, lines, w⟩
        let fuel := fuelFor (Lexeme.ofText text).length
        ∃ q r, q ∈ passes setting (Lexeme.ofText text) observed ∧ q.situation.depth = 0 ∧
          Grammar.statement.run setting fuel (derive setting fuel) q = .stopped (.rejected e) r ∧
          r.situation.remaining + 32 ≤ q.situation.remaining := by
  refine ⟨fun part setting fuel p limited => ?_, fun phrase _ setting fuel p limited => ?_,
    fun e told h deep => ?_⟩
  · have framed : Rule.Framed false true _ := part.framed
    have leveled := derive_leveled setting fuel
    have on := framed.resumes setting fuel leveled limited
    exact ⟨on.level rfl, on.inFunction, Rule.ending_mem_trail,
      framed.trail_within leveled (trail_within setting fuel) limited⟩
  · exact ⟨(derive_leveled setting fuel phrase p limited).inFunction,
      ending_mem_trail setting fuel phrase p, trail_within setting fuel phrase p limited⟩
  · obtain ⟨z, run⟩ := Outcome.eq_rejected_of_result (congrArg Prod.fst h)
    exact parseLexemes_deep (Lexeme.ofText_terminated text) (@Lexeme.lexical_ofText text) run deep

/-- A strict parse of a text that nobody watches. -/
def Setting.strict (text : List Char) : Setting Unit := ⟨.strict, .ofText text, .silent⟩

/-- A parse in front of the first token of a text. -/
def Progress.before (text : List Char) : Progress Unit :=
  ⟨⟨(Lexeme.ofText text).headD .none, (Lexeme.ofText text).tail, 0, 0, 0, false⟩, ()⟩

/-- A parse there where so many levels are open. -/
def Progress.atLevel (depth : Nat) (text : List Char) : Progress Unit :=
  { before text with situation := { (before text).situation with depth } }

/-- With one level left, a body is rejected in the condition it holds, and the one level is
    left again.  Operators keep the levels they opened.  And a text of braces is rejected in
    its first statement. -/
theorem parse_levels_braces :
    (∃ e q, Grammar.functionBody.run (.strict "{if (a) b}".toList) 20
        (derive (.strict "{if (a) b}".toList) 20) (.atLevel 255 "{if (a) b}".toList) =
          .stopped (.rejected e) q ∧
      e.fault = .nestingTooDeep ∧ q.situation.depth = 255) ∧
    (∃ e q, derive (.strict "+ b - c".toList) 40 (.operators (.placeholder 0) 0 0 false)
        (.atLevel 254 "+ b - c".toList) = .stopped (.rejected e) q ∧
      q.situation.inFunction = false ∧ q.situation.depth = 256) ∧
    ∃ e q r, parse .strict (.replicate 257 '{') = .rejected e ∧ q.situation.depth = 0 ∧
      Grammar.statement.run (.strict (.replicate 257 '{'))
        (fuelFor (Lexeme.ofText (.replicate 257 '{')).length)
        (derive (.strict (.replicate 257 '{'))
          (fuelFor (Lexeme.ofText (.replicate 257 '{')).length)) q = .stopped (.rejected e) r ∧
      r.situation.remaining + 32 ≤ q.situation.remaining := by
  have body : (Grammar.functionBody.run (.strict "{if (a) b}".toList) 20
      (derive (.strict "{if (a) b}".toList) 20) (.atLevel 255 "{if (a) b}".toList)).error?.map
        (·.fault) = some .nestingTooDeep := by
    decide +kernel
  have operators : (derive (.strict "+ b - c".toList) 40 (.operators (.placeholder 0) 0 0 false)
      (.atLevel 254 "+ b - c".toList)).error?.map (·.span.start) = some 6 := by
    decide +kernel
  have raised : (derive (.strict "+ b - c".toList) 40 (.operators (.placeholder 0) 0 0 false)
      (.atLevel 254 "+ b - c".toList)).ending.situation.depth = 256 := by
    decide +kernel
  -- Many braces are rejected for their nesting.
  have braces : (parse .strict (.replicate 257 '{')).failure?.map (·.fault) =
      some .nestingTooDeep := by
    decide +kernel
  obtain ⟨e, p, stopped, deep⟩ := Outcome.exists_rejected body
  obtain ⟨f, q, chained, -⟩ := Outcome.exists_rejected operators
  obtain ⟨g, rejected, deeply⟩ := ParseResult.exists_rejected braces
  obtain ⟨rules, chains, texts⟩ :=
    parse_levels (.replicate 257 '{') (.ofText (.replicate 257 '{')) .silent ()
  obtain ⟨level, -⟩ := rules .functionBody (.strict "{if (a) b}".toList) 20
    (.atLevel 255 "{if (a) b}".toList) (by decide)
  obtain ⟨flag, -⟩ := chains (.operators (.placeholder 0) 0 0 false) rfl
    (.strict "+ b - c".toList) 40 (.atLevel 254 "+ b - c".toList) (by decide)
  have told : (parseText .strict (.replicate 257 '{') (.ofText (.replicate 257 '{')) .silent ()).1 =
      .rejected g := by
    rw [← rejected, parse]
  obtain ⟨s, t, -, outside, run, took⟩ := texts g _ (Prod.ext told rfl) deeply
  rw [stopped] at level
  rw [chained] at flag raised
  exact ⟨⟨e, p, stopped, deep, level⟩, ⟨f, q, chained, flag, raised⟩,
    g, s, t, rejected, outside, run, took⟩

end ScriptTree

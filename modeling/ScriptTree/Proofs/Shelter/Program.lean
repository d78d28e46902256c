import ScriptTree.Proofs.Assembly.Program
import ScriptTree.Proofs.Fuel.Program
import ScriptTree.Proofs.Shelter.Running
import ScriptTree.Proofs.Shelter.Statement

/-! # Sheltering in programs

    A program starts outside of functions, so all of its statements are sheltered.  The body
    of a function is parsed inside, whatever the function stands in, and the flag is given
    back behind it.

    A text that the strict parser rejects for a `return` has a tree all the same, the one of
    the loose parse.  No body of a function in that tree lies around the `return`: what
    stands in such a body is never rejected for standing outside of functions. -/

namespace ScriptTree

open Grammar

variable {σ : Type} {text : List Char} {S : Shelter text} {setting : Setting σ} {inside : Bool}

/-- No other fault is told in the words that a `return` outside of functions is told in. -/
theorem Fault.eq_of_message {fault : Fault}
    (h : fault.message = "'return' outside of function") : fault = .returnOutsideFunction := by
  -- The messages that name something begin with a letter.
  have clash {word rest : String} {x : Char} (first : word.toList.head? = some x)
      (other : x ≠ '\'') : word ++ rest ≠ "'return' outside of function" := by
    intro same
    have heads := congrArg (fun s => s.toList.head?) same
    simp only [String.toList_append, List.head?_append, first] at heads
    exact other (by simpa using heads)
  cases fault with
  | returnOutsideFunction => rfl
  | unexpectedCharacter c =>
      have joined : "Unexpected character '" ++ (toString c ++ "'") = _ :=
        String.append_assoc.symm.trans h
      exact absurd joined (clash (x := 'U') (by simp) (by decide))
  | missingDigits radix =>
      have joined : "Expected number in radix " ++ toString radix = _ := h
      exact absurd joined (clash (x := 'E') (by simp) (by decide))
  | unexpectedToken description =>
      have joined : "Unexpected " ++ toString description = _ := h
      exact absurd joined (clash (x := 'U') (by simp) (by decide))
  | _ => exact absurd h (by decide)

/-! ## Phrases -/

/-- Every phrase houses what it makes, inside of functions and outside. -/
theorem Nonterminal.rule_houses (phrase : Nonterminal) :
    phrase.rule.Houses S inside (nodes phrase.left?) := by
  cases phrase with
  | statement => exact statementRule_houses
  | block => exact blockRule_houses
  | assignment noIn => exact assignmentRule_houses noIn
  | unary => exact unaryRule_houses
  | atom => exact atomRule_houses
  | operators first start minimum noIn =>
      exact operatorsRule_houses (List.mem_singleton_self first)
  | subscripts base start noCalls => exact subscriptsRule_houses (List.mem_singleton_self base)
  | arrayPattern => exact arrayPattern_houses
  | objectPattern => exact objectPattern_houses

/-- A block reaches from the token where it was opened to the last one that was taken. -/
theorem Grammar.blockRule_blocks {fuel : Nat} {parse : Nonterminal → Progress σ → Outcome σ Node}
    {p q : Progress σ} {n : Node} (run : blockRule.run setting fuel parse p = .done n q) :
    n.Blocks p.situation q.situation := by
  have any {α : Type} (o : Outcome σ α) : o.Satisfies fun _ _ => True := by
    cases o <;> trivial
  have ends : (blockRule.run setting fuel parse p).Satisfies fun n q =>
      n.Blocks p.situation q.situation := by
    let answer := setting.observer.opened p.situation.token.span.start p.observed
    let opened : Opened := ⟨p.situation.token.span.start, answer.1⟩
    show Outcome.Satisfies _ (Rule.run setting fuel parse
      (expect .openBrace >>= fun _ => blockRest opened) ⟨p.situation, answer.2⟩)
    -- Whatever stands between the braces, closing the block is what comes last.
    simp only [blockRest, Rule.run_bind]
    refine (any _).andThen fun _ _ _ => (any _).andThen fun body _ _ => ?_
    exact (any _).andThen fun _ r _ => ⟨rfl, rfl⟩
  rwa [run] at ends

/-- All phrases give what the shelter says, by induction on the fuel. -/
theorem derive_keptBy_shelter (mode : setting.mode = S.mode) (fuel : Nat) :
    S.KeptBy (derive setting fuel) := by
  induction fuel with
  | zero => exact fun _ _ _ _ _ _ => nofun
  | succ fuel ih =>
      intro phrase p n q here left run clear
      have rule := phrase.rule_houses p.situation rfl left
      obtain ⟨flag, housed⟩ := rule.done_run mode (derive_stands setting fuel) ih here rfl run clear
      refine ⟨flag, housed n (List.mem_singleton_self n), ?_⟩
      rintro rfl
      exact blockRule_blocks run

/-- A strict parse that is rejected for a `return` stands outside of functions, by induction
    on the fuel. -/
theorem derive_blamedBy (strict : S.mode = .strict) (mode : setting.mode = .strict) (fuel : Nat) :
    S.BlamedBy (derive setting fuel) := by
  induction fuel with
  | zero => exact fun _ _ _ _ _ _ => nofun
  | succ fuel ih =>
      intro phrase p e q here left run fault
      have rule := phrase.rule_houses p.situation rfl left
      exact rule.rejected_run strict mode (derive_stands setting fuel)
        (derive_keptBy_shelter (mode.trans strict.symm) fuel) ih here rfl run fault

/-- The loose parse leads past a `return` that the strict one rejects, by induction on the
    fuel. -/
theorem derive_crossedBy (lines : LineIndex) (w : Observer σ) (x fuel : Nat) :
    (Shelter.around text x).CrossedBy x (derive ⟨.strict, lines, w⟩ fuel)
      (derive ⟨.loose, lines, w⟩ fuel) := by
  induction fuel with
  | zero => exact fun _ _ _ _ _ _ _ _ => nofun
  | succ fuel ih =>
      intro phrase p e q n u here left rejected fault place run
      have rule := phrase.rule_houses p.situation rfl left
      have lockstep := derive_lockstep (s := ⟨.strict, lines, w⟩) (t := ⟨.loose, lines, w⟩)
        ⟨rfl, rfl, w.agrees_self⟩ fuel
      have kept : (Shelter.around text x).KeptBy (derive ⟨.loose, lines, w⟩ fuel) :=
        derive_keptBy_shelter rfl fuel
      obtain ⟨outside, flag, past, housed⟩ := rule.crossed_run lockstep
        (derive_stands ⟨.strict, lines, w⟩ fuel) (derive_stands ⟨.loose, lines, w⟩ fuel) kept ih
        here rfl rejected fault place run
      exact ⟨outside, flag, past, housed n (List.mem_singleton_self n)⟩

/-! ## Programs -/

/-- In a strict tree the body of a function that may hold a `return` is to be a block. -/
def Shelter.strict (text : List Char) : Shelter text where
  mode := .strict
  Good body := body.type = .blockStatement
  Clear _ _ := True
  always _ _ _ := trivial
  front _ _ := trivial
  back _ _ := trivial
  body _ _ _ type _ _ := type

section

variable {first : Lexeme} {rest : List Lexeme} {stop : Nat} {observed : σ} {program : Node}
  {z : Progress σ}

/-- Behind the first lexeme a parse enters the program. -/
theorem Progress.eq_entry_of_advance {u : Unit} {p : Progress σ}
    (came : (start (first :: rest) observed).advance setting = .done u p) :
    p = .entry setting first rest observed := by
  have starts : ((start (first :: rest) observed).advance setting).Satisfies fun _ q =>
      q = .entry setting first rest observed :=
    advance_satisfies rfl
  rwa [came] at starts

/-- A parse that ends with a program has run through its statements, from the first lexeme
    on. -/
theorem parseLexemes_eq_done
    (h : parseLexemes setting (first :: rest) stop observed = .done program z) :
    let fuel := fuelFor (first :: rest).length
    let start : Progress σ := .entry setting first rest (setting.observer.opened 0 observed).2
    ∃ body q, programBody.run setting fuel (derive setting fuel) start = .done body q ∧
      program.shape = .program body := by
  obtain ⟨_, p, came, behind⟩ := Outcome.andThen_eq_done h
  obtain rfl := Progress.eq_entry_of_advance came
  obtain ⟨body, q, parsed, closed⟩ := Outcome.andThen_eq_done behind
  cases closed
  exact ⟨body, q, parsed, rfl⟩

/-- One that is rejected is so for what was found while scanning, or in a statement. -/
theorem parseLexemes_eq_rejected {e : SyntaxError}
    (lexical : ∀ l ∈ first :: rest, Diagnostic.Lexical l.diagnostics)
    (h : parseLexemes setting (first :: rest) stop observed = .stopped (.rejected e) z) :
    let fuel := fuelFor (first :: rest).length
    let start : Progress σ := .entry setting first rest (setting.observer.opened 0 observed).2
    e.fault.isLexical = true ∨
      ∃ q, programBody.run setting fuel (derive setting fuel) start = .stopped (.rejected e) q := by
  let start : Progress σ := .start (first :: rest) (setting.observer.opened 0 observed).2
  rcases Outcome.andThen_eq_rejected h with stopped | ⟨_, p, came, behind⟩
  · have found : (start.advance setting).error? = some e := by
      rw [stopped]
      rfl
    obtain ⟨l, there, d, reported, rfl⟩ := Progress.error?_advance found
    exact .inl (lexical l there d reported)
  · obtain rfl := Progress.eq_entry_of_advance came
    rcases Outcome.andThen_eq_rejected behind with rejected | ⟨body, q, -, closed⟩
    · exact .inr ⟨z, rejected⟩
    · cases closed

/-- At its first lexeme a parse stands in the text. -/
theorem Progress.entry_reads (lexemes : Lexeme.ofText text = first :: rest) :
    (entry setting first rest observed).situation.Reads text where
  lies := entry_liesIn lexemes
  lexical l hl := Lexeme.lexical_ofText l (lexemes ▸ List.mem_cons_of_mem _ hl)

/-- What is asked of the statements of a program is asked of the program. -/
theorem Shelter.keeps_program {body : List Node} (h : S.Housed inside (nodes body))
    (same : program.shape = .program body) : S.Keeps inside program := by
  refine keeps_of_transparent (by rw [same]; rfl) fun x hx => h x ?_
  have parts : program.parts = body := by
    rw [Node.parts, same]
    rfl
  rwa [nodes_list, ← parts]

end

/-- In a strict tree every `return` stands in the body of a function, which is a block. -/
theorem parseText_sheltered {lines : LineIndex} {w : Observer σ} {observed : σ} {program : Node}
    (h : (parseText .strict text lines w observed).1 = .tree program) :
    program.Sheltered False fun body => body.type = .blockStatement := by
  obtain ⟨first, rest, lexemes⟩ :=
    List.exists_cons_of_ne_nil (Lexeme.ofText_terminated text).ne_nil
  obtain ⟨z, ended⟩ := Outcome.eq_done_of_result h
  rw [lexemes] at ended
  obtain ⟨body, q, run, shape⟩ := parseLexemes_eq_done ended
  let setting : Setting σ := ⟨.strict, lines, w⟩
  have statements : programBody.Houses (.strict text) false [] := statementsUntil_houses _
  obtain ⟨-, housed⟩ := (statements _ rfl .nil).done_run rfl (derive_stands setting _)
    (derive_keptBy_shelter rfl _) (Progress.entry_reads lexemes) rfl run trivial
  have sheltered := Shelter.keeps_program housed shape fun _ => rfl
  rwa [eq_false (fun loose : (Shelter.strict text).mode = .loose => nomatch loose)] at sheltered

/-- Where a strict parse is rejected for a `return`, the loose parse makes no function around
    the word. -/
theorem parseText_uncovered {lines : LineIndex} {w : Observer σ} {observed : σ} {e : SyntaxError}
    {program : Node} (h : (parseText .strict text lines w observed).1 = .rejected e)
    (fault : e.fault = .returnOutsideFunction)
    (tree : (parseText .loose text lines w observed).1 = .tree program) :
    (∃ l ∈ Lexeme.ofText text, l.token.kind = .keyword .returnWord ∧ l.token.span = e.span) ∧
      ∀ f ∈ program.subtree, ∀ body, f.shape.functionBody? = some body →
        ¬ body.Covers e.span.start := by
  obtain ⟨first, rest, lexemes⟩ :=
    List.exists_cons_of_ne_nil (Lexeme.ofText_terminated text).ne_nil
  obtain ⟨z, stopped⟩ := Outcome.eq_rejected_of_result h
  obtain ⟨z', ended⟩ := Outcome.eq_done_of_result tree
  rw [lexemes] at stopped ended
  let fuel := fuelFor (first :: rest).length
  let strict : Setting σ := ⟨.strict, lines, w⟩
  let loose : Setting σ := ⟨.loose, lines, w⟩
  let start : Progress σ := .entry strict first rest (w.opened 0 observed).2
  have here : start.situation.Reads text := Progress.entry_reads lexemes
  have lexical (l : Lexeme) (hl : l ∈ first :: rest) : Diagnostic.Lexical l.diagnostics :=
    Lexeme.lexical_ofText l (lexemes ▸ hl)
  have statements {S : Shelter text} : programBody.Houses S false [] := statementsUntil_houses _
  rcases parseLexemes_eq_rejected lexical stopped with scanned | ⟨q, rejected⟩
  · rw [fault] at scanned
    cases scanned
  -- The word is the token at which the strict parse was rejected.
  have due := (statements (S := .strict text) _ rfl .nil).rejected_run rfl rfl
    (derive_stands strict fuel) (derive_keptBy_shelter rfl fuel) (derive_blamedBy rfl rfl fuel)
    here rfl rejected fault
  have there := ((Rule.run_stands (derive_stands strict fuel) _ start).of_stopped
    rejected).ahead_suffix
  refine ⟨⟨q.situation.current, ?_, due.word, due.place.symm⟩, ?_⟩
  · rw [lexemes]
    exact there.subset List.mem_cons_self
  have crossed : (Shelter.around text e.span.start).CrossedBy _ _ _ :=
    derive_crossedBy lines w e.span.start fuel
  obtain ⟨body, u, run, shape⟩ := parseLexemes_eq_done ended
  have lockstep := derive_lockstep (s := strict) (t := loose) ⟨rfl, rfl, w.agrees_self⟩ fuel
  obtain ⟨-, -, -, housed⟩ := (statements _ rfl .nil).crossed_run lockstep
    (derive_stands strict fuel) (derive_stands loose fuel) (derive_keptBy_shelter rfl fuel)
    crossed here rfl rejected fault (congrArg Span.start due.place).symm run
  have sheltered := Shelter.keeps_program housed shape nofun
  intro f hf body some covers
  rcases sheltered.inside_or f hf with own | ⟨-, -, outer, -, good, inside⟩
  · exact (own.2 body some).1 covers
  · exact good.2 f inside body some covers

/-- RETURN STATEMENTS: every `return` in the tree of a strict parse stands in the body of a
    function of the tree, which is a block.  And if a text is rejected for a `return` outside
    of functions, then it has such a word at the place that is told, and no body of a function
    lies around that place in the tree of the text, which is that of the loose parse. -/
theorem parseText_returns (text : List Char) (lines : LineIndex) (w : Observer σ) (observed : σ) :
    (∀ program, (parseText .strict text lines w observed).1 = .tree program →
      ∀ r ∈ program.subtree, r.type = .returnStatement →
        ∃ f ∈ program.subtree, ∃ body, f.shape.functionBody? = some body ∧
          body.type = .blockStatement ∧ r ∈ body.subtree) ∧
    ∀ e, (parseText .strict text lines w observed).1 = .rejected e →
      e.message = "'return' outside of function" →
        (∃ l ∈ Lexeme.ofText text, l.token.kind = .keyword .returnWord ∧ l.token.span = e.span) ∧
        ∃ program, (parseText .loose text lines w observed).1 = .tree program ∧
          ∀ f ∈ program.subtree, ∀ body, f.shape.functionBody? = some body →
            ¬ (body.span.start ≤ e.span.start ∧ e.span.start < body.span.stop) := by
  refine ⟨fun program h r hr type => ?_, fun e h told => ?_⟩
  · rcases (parseText_sheltered h).inside_or r hr with own | inner
    · exact (own.1 type).elim
    · exact inner
  · have fault := Fault.eq_of_message told
    obtain ⟨program, after, tree⟩ := parseText_loose text lines w observed
    obtain ⟨place, uncovered⟩ := parseText_uncovered h fault (congrArg Prod.fst tree)
    exact ⟨place, program, congrArg Prod.fst tree, uncovered⟩

/-- A `return` that stands in no function, with the bodies of three functions around: of a
    method, of a default of its parameters and of an argument. -/
def strayReturn : List Char :=
  "class A {m(a = () => {return}) {return 1}} if (b) {return} f(function () {})".toList

/-- The default of a pattern is a function with a `return` in its body.  A text is rejected
    for the one `return` that stands in none of its three bodies. -/
theorem parseText_returns_default :
    (∃ program, parse .strict "[a = () => {do return; while (b)}] = c".toList = .tree program ∧
      (program.subtree.any fun n => n.type == .returnStatement) = true ∧
      ∀ r ∈ program.subtree, r.type = .returnStatement →
        ∃ f ∈ program.subtree, ∃ body, f.shape.functionBody? = some body ∧
          body.type = .blockStatement ∧ r ∈ body.subtree) ∧
    ∃ e program, parse .strict strayReturn = .rejected e ∧
      e.message = "'return' outside of function" ∧ e.span = ⟨51, 57⟩ ∧
      parse .loose strayReturn = .tree program ∧
      program.subtree.filterMap (fun f => f.shape.functionBody?.map (·.span)) =
        [⟨31, 41⟩, ⟨21, 29⟩, ⟨73, 75⟩] ∧
      ∀ f ∈ program.subtree, ∀ body, f.shape.functionBody? = some body →
        ¬ (body.span.start ≤ e.span.start ∧ e.span.start < body.span.stop) := by
  -- The three runs are evaluated; what the theorem says of them is then applied.
  have accepted : (parse .strict "[a = () => {do return; while (b)}] = c".toList).tree?.map
      (fun program => program.subtree.any fun n => n.type == .returnStatement) = some true := by
    decide +kernel
  have refused : (parse .strict strayReturn).failure?.map (fun e => (e.message, e.span)) =
      some ("'return' outside of function", ⟨51, 57⟩) := by
    decide +kernel
  have bodies : (parse .loose strayReturn).tree?.map
      (fun program => program.subtree.filterMap fun f => f.shape.functionBody?.map (·.span)) =
        some [⟨31, 41⟩, ⟨21, 29⟩, ⟨73, 75⟩] := by
    decide +kernel
  obtain ⟨program, tree, returns⟩ := ParseResult.exists_tree accepted
  obtain ⟨e, rejected, told⟩ := ParseResult.exists_rejected refused
  obtain ⟨recovered, loose, spans⟩ := ParseResult.exists_tree bodies
  obtain ⟨message, span⟩ := Prod.mk.inj told
  -- Both passes find the same tree, so what is said of one names the bodies of the other.
  obtain ⟨-, found, same, uncovered⟩ := (parseText_returns _ _ _ ()).2 e rejected message
  obtain rfl : found = recovered := ParseResult.tree.inj (same.symm.trans loose)
  exact ⟨⟨program, tree, returns, (parseText_returns _ _ _ _).1 program tree⟩,
    e, found, rejected, message, span, loose, spans, uncovered⟩

end ScriptTree

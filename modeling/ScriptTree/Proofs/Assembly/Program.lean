import ScriptTree.Proofs.Assembly.Statement

/-! # What programs are made of

    The rule of every nonterminal makes what the nonterminal is to give, so every
    parse does, by induction on the fuel.  A program is closed over the statements
    that were made between the first lexeme and the end of the text. -/

namespace ScriptTree

open Assembly

variable {σ α : Type} {setting : Setting σ} {M : Assembly setting} {p : Progress σ}

/-- A condition on something else may be met afterwards. -/
theorem Assembly.Ensures.of_forall {β : Type} {r : Rule α} {met : β → Prop}
    {post : β → α → Progress σ → Prop} (h : ∀ b, met b → M.Ensures r p (post b)) :
    M.Ensures r p fun a q => ∀ b, met b → post b a q := by
  intro fuel parse kept
  cases run : r.run setting fuel parse p with
  | done a q =>
      intro b hb
      have satisfied := h b hb fuel parse kept
      rw [run] at satisfied
      exact satisfied
  | stopped why q => trivial

/-- The rule of a nonterminal makes what it is to give. -/
theorem Nonterminal.rule_gives (phrase : Nonterminal) (p : Progress σ) :
    M.Ensures phrase.rule p (M.Gives phrase p) := by
  cases phrase with
  | statement =>
      exact (Grammar.statementRule_makes p).both (Grammar.statementRule_seals p)
  | block => exact (Grammar.blockRule_makes p).both (Grammar.blockRule_seals p)
  | assignment noIn => exact Grammar.assignmentRule_ensures noIn
  | unary => exact Grammar.unaryRule_ensures
  | atom => exact Grammar.atomRule_ensures
  | operators left start minimum noIn =>
      refine .of_forall fun first ⟨rounds, same⟩ => ?_
      subst same
      exact Grammar.operatorsRule_ensures rounds
  | subscripts base start noCalls =>
      refine .of_forall fun first ⟨operates, same⟩ => ?_
      subst same
      exact Grammar.subscriptsRule_ensures operates
  | arrayPattern => exact Grammar.arrayPattern_makes p
  | objectPattern => exact Grammar.objectPattern_makes p

/-- All phrases give what the assembly says, by induction on the fuel. -/
theorem derive_keptBy (fuel : Nat) : M.KeptBy (derive setting fuel) := by
  induction fuel with
  | zero => exact fun _ _ => trivial
  | succ fuel ih => exact fun phrase p => phrase.rule_gives p fuel (derive setting fuel) ih

/-- Where a parse stands at its first lexeme, before it takes a token. -/
def Progress.entry (setting : Setting σ) (first : Lexeme) (rest : List Lexeme) (observed : σ) :
    Progress σ :=
  ⟨{ (start (first :: rest) observed).situation with current := first, upcoming := rest },
    setting.observer.pass setting.lines first observed⟩

/-- The statements of a program were made in a row from the first lexeme on, and the program
    is closed over them at the end of the text. -/
theorem parseLexemes_made (M : Assembly setting) (first : Lexeme) (rest : List Lexeme)
    (stop : Nat) (observed : σ) :
    (parseLexemes setting (first :: rest) stop observed).Satisfies fun program r =>
      let opened := setting.observer.opened 0 observed
      ∃ body q, M.Series (.entry setting first rest opened.2) body q ∧
        q.situation.token.isEnd = true ∧
        let closed := q.closeAt setting ⟨0, opened.1⟩ (.program body) stop
        program = closed.1 ∧ r.observed = closed.2.observed := by
  refine (Progress.advance_satisfies rfl).andThen fun _ p here => ?_
  have statements : M.Ensures Grammar.programBody p fun body q => M.Series p body q ∧
      (q.situation.token.isEnd || false) = true :=
    Grammar.statementsUntil_ensures _
  refine (statements _ _ (derive_keptBy _)).andThen fun body q ⟨series, ends⟩ => ?_
  subst here
  exact ⟨body, q, series, by simpa using ends, rfl, rfl⟩

/-- So were those of the program of a text. -/
theorem parseText_made {mode : Mode} {text : List Char} {lines : LineIndex} {o : Observer σ}
    {observed a : σ} {program : Node} (M : Assembly ⟨mode, lines, o⟩)
    (h : parseText mode text lines o observed = (.tree program, a)) :
    ∃ first rest body q, Lexeme.ofText text = first :: rest ∧
      M.Series (.entry ⟨mode, lines, o⟩ first rest (o.opened 0 observed).2) body q ∧
        q.situation.token.isEnd = true ∧
        let closed := q.closeAt ⟨mode, lines, o⟩ ⟨0, (o.opened 0 observed).1⟩
          (.program body) (Text.byteLength text)
        program = closed.1 ∧ a = closed.2.observed := by
  obtain ⟨first, rest, lexemes⟩ :=
    List.exists_cons_of_ne_nil (Lexeme.ofText_terminated text).ne_nil
  have made := parseLexemes_made M first rest (Text.byteLength text) observed
  rw [parseText, lexemes] at h
  obtain ⟨r, parsed⟩ := Outcome.eq_done_of_result (congrArg Prod.fst h)
  rw [parsed] at made h
  obtain ⟨⟩ := h
  obtain ⟨body, q, made, closed⟩ := made
  exact ⟨first, rest, body, q, lexemes, made, closed⟩

/-! ## Results of single texts -/

/-- The tree that a parse ended with. -/
def ParseResult.tree? : ParseResult → Option Node
  | .tree program => some program
  | _ => none

/-- A result with a tree is the tree. -/
theorem ParseResult.eq_tree {r : ParseResult} {program : Node} (h : r.tree? = some program) :
    r = .tree program := by
  cases r with
  | tree found => exact congrArg tree (Option.some.inj h)
  | rejected error => cases h
  | unfinished => cases h

/-- A text of whose tree something is known has a tree. -/
theorem ParseResult.exists_tree {α : Type} {r : ParseResult} {f : Node → α} {a : α}
    (h : r.tree?.map f = some a) : ∃ program, r = .tree program ∧ f program = a := by
  obtain ⟨program, found, same⟩ := Option.map_eq_some_iff.mp h
  exact ⟨program, ParseResult.eq_tree found, same⟩

/-- The error that ended a parse. -/
def ParseResult.failure? : ParseResult → Option SyntaxError
  | .rejected error => some error
  | _ => none

/-- A parse of whose failure something is known was rejected. -/
theorem ParseResult.exists_rejected {r : ParseResult} {f : SyntaxError → α} {a : α}
    (h : r.failure?.map f = some a) : ∃ e, r = .rejected e ∧ f e = a := by
  cases r with
  | rejected e => exact ⟨e, rfl, Option.some.inj h⟩
  | tree program => cases h
  | unfinished => cases h

end ScriptTree

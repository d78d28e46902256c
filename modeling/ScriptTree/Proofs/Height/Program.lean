import ScriptTree.Proofs.Height.Statement
import ScriptTree.Proofs.Height.Tower

/-! # Heights of programs

    The rule of every nonterminal stays under the height of the nonterminal, so
    every parse does, and the height of a program is bounded by the nesting limit
    and by the tokens of its text that wrap. -/

namespace ScriptTree

open Grammar

variable {σ : Type} {mode : Mode} {fuel : Nat} {s : Situation} {phrase : Nonterminal}

namespace Nonterminal

/-- The rule of a nonterminal keeps its contract if it stays under the height by
    itself. -/
theorem ceiled_of_builds (h : phrase.rule.Builds [] phrase.height)
    (hs : Lexeme.Terminated s.ahead) :
    phrase.rule.Meets (.ceiled mode) fuel s ((Contract.ceiled mode).gives phrase s) := by
  refine (h mode fuel s _ hs (Nat.le_refl _) (.nil s _)).mono fun n t behind => ?_
  obtain ⟨ht, hn⟩ := behind
  refine ⟨ht.leads, fun _ => ht.depth, fun top room _ => ?_⟩
  have high : n.height + t.slack ≤ phrase.height s.levels + s.slack :=
    hn n (List.mem_singleton_self n)
  omega

/-- The rule of a nonterminal that continues a node keeps its contract if it exceeds
    no ceiling over that node by more than the levels. -/
theorem ceiled_of_chain {left : Node} (continues : phrase.left? = some left)
    (linked : phrase.links s.levels = s.levels)
    (h : ∀ top, phrase.height s.levels + s.slack ≤ top → left.height + s.slack ≤ top →
      phrase.rule.Meets (.ceiled mode) fuel s fun n t =>
        s.Leads t ∧ n.height + t.slack ≤ top + s.levels) :
    phrase.rule.Meets (.ceiled mode) fuel s ((Contract.ceiled mode).gives phrase s) := by
  -- The lowest ceiling that has room speaks for all of them.
  refine (h (max (phrase.height s.levels + s.slack) (left.height + s.slack))
    (Nat.le_max_left _ _) (Nat.le_max_right _ _)).mono fun n t behind => ?_
  obtain ⟨ht, hn⟩ := behind
  refine ⟨ht, fun none => ?_, fun top room under => ?_⟩
  · rw [continues] at none
    cases none
  · have := under left (by rw [continues]; exact List.mem_singleton_self left)
    rw [linked]
    omega

/-- Every nonterminal stays under the ceilings that have room for it. -/
theorem rule_ceiled (phrase : Nonterminal) (hs : Lexeme.Terminated s.ahead) :
    phrase.rule.Meets (.ceiled mode) fuel s ((Contract.ceiled mode).gives phrase s) := by
  cases phrase with
  | statement => exact ceiled_of_builds (statementRule_builds (Nat.le_refl 5)) hs
  | block =>
      have closes : blockRule.Closes [] (tall · + 0) := blockRule_closes
      exact ceiled_of_builds (closes.under (Nat.le_refl 1)) hs
  | assignment noIn => exact ceiled_of_builds (assignmentRule_builds noIn) hs
  | unary => exact ceiled_of_builds unaryRule_builds hs
  | atom => exact ceiled_of_builds atomRule_builds hs
  | operators left start minimum noIn =>
      exact ceiled_of_chain rfl rfl fun top room under => operatorsRule_meets hs room under
  | subscripts base start noCalls =>
      exact ceiled_of_chain rfl rfl fun top room under => subscriptsRule_meets hs room under
  | arrayPattern =>
      have closes : Grammar.arrayPattern.Closes [] (tall · + 1) :=
        arrayPattern_closes (Nat.le_refl 1)
      exact ceiled_of_builds (closes.under (by omega)) hs
  | objectPattern =>
      have closes : Grammar.objectPattern.Closes [] (tall · + 2) :=
        objectPattern_closes (Nat.le_refl 2)
      exact ceiled_of_builds (closes.under (Nat.le_refl 3)) hs

end Nonterminal

/-- All phrases keep below the ceiling, by induction on the fuel. -/
theorem derive_ceiled (setting : Setting σ) (fuel : Nat) :
    (Contract.ceiled setting.mode).KeptBy fuel (derive setting fuel) :=
  Contract.derive_keeps rfl (fun _ _ _ => trivial) (fun _ phrase _ hs => phrase.rule_ceiled hs)
    fuel

/-- Statements that stand in no other statement are nested one level deep. -/
theorem statements_le :
    deeper Nonterminal.statement.height nestingLimit + 1 =
      nestingLimit * nestingLimit + 5 * nestingLimit + 3 := rfl

/-- The trees of all lexemes are below it. -/
theorem parseLexemes_height (setting : Setting σ) {lexemes : List Lexeme}
    (h : Lexeme.Terminated lexemes) (stop : Nat) (observed : σ) :
    (parseLexemes setting lexemes stop observed).Ends setting.mode True fun program _ =>
      program.height ≤ nestingLimit * nestingLimit + 5 * nestingLimit + 3 +
        Lexeme.wrappers lexemes * (nestingLimit + 1) := by
  obtain ⟨first, rest, rfl⟩ := List.exists_cons_of_ne_nil h.ne_nil
  refine Outcome.Ends.andThen (Progress.passDiagnostics_ends _ _) fun _ p hp => ?_
  have ahead : p.situation.ahead = first :: rest := by rw [hp]; rfl
  have levels : p.situation.levels = nestingLimit := by rw [hp]; rfl
  have slack : p.situation.slack = Lexeme.wrappers (first :: rest) * (nestingLimit + 1) := by
    rw [Situation.slack, ahead]
  have body : programBody.Builds [] (deeper Nonterminal.statement.height) :=
    statementsUntil_builds _ (.nested rfl fun _ => Nat.le_refl _)
  refine Outcome.Ends.andThen ((body setting.mode _ p.situation _ (ahead ▸ h) (Nat.le_refl _)
    (.nil _ _)).ends rfl (derive_ceiled setting _)) fun body q closed => ?_
  obtain ⟨-, under⟩ := closed
  -- The program is closed over its statements at the end of the text.
  show Node.height _ ≤ _
  rw [← statements_le, Nat.add_right_comm, Node.height_le_succ]
  intro n hn
  have high : n.height + q.situation.slack ≤
      deeper Nonterminal.statement.height p.situation.levels + p.situation.slack + 0 :=
    under n (by rw [nodes_list]; exact hn)
  rw [levels, slack] at high
  omega

/-- THE BOUND ON TREES: the levels that may be nested, and the tokens of the text
    that wrap without opening a level, bound the height of every program. -/
theorem parseText_height (mode : Mode) (text : List Char) (lines : LineIndex) (o : Observer σ)
    (observed : σ) (program : Node)
    (h : (parseText mode text lines o observed).1 = .tree program) :
    program.height ≤ nestingLimit * nestingLimit + 5 * nestingLimit + 3 +
      Lexeme.wrappers (Lexeme.ofText text) * (nestingLimit + 1) := by
  have ends := parseLexemes_height ⟨mode, lines, o⟩ (Lexeme.ofText_terminated text)
    (Text.byteLength text) observed
  rw [parseText] at h
  revert h ends
  cases parseLexemes ⟨mode, lines, o⟩ (Lexeme.ofText text) (Text.byteLength text) observed with
  | done found p =>
      intro h ends
      cases h
      exact ends
  | stopped why p =>
      intro h
      cases why <;> cases h

/-- The bound leaves room for a word of the tower, which wraps. -/
theorem parseText_height_tower : ∃ program,
    (parseText .loose (tower 2) (.ofText (tower 2)) .silent ()).1 = .tree program ∧
      program.height ≤ nestingLimit * nestingLimit + 5 * nestingLimit + 3 +
        Lexeme.wrappers (Lexeme.ofText (tower 2)) * (nestingLimit + 1) := by
  have tree := Tower.parse_tower .loose 2
  exact ⟨Tower.tree 2, tree,
    parseText_height .loose (tower 2) (.ofText (tower 2)) .silent () (Tower.tree 2) tree⟩

/-- The levels alone bound nothing: this tree is higher than four times the limit,
    and the strict parse has no error to tell. -/
theorem strict_tower_exceeds : ∃ program, parse .strict (tower 1022) = .tree program ∧
    4 * nestingLimit < program.height := by
  refine ⟨Tower.tree 1022, Tower.parse_tower .strict 1022, ?_⟩
  rw [Tower.height_tree]
  decide

end ScriptTree

import ScriptTree.Proofs.Fuel.Basic

/-! # Fuel for phrases, leaves, lists and patterns

    The vocabulary of the grammar keeps to the account of fuel.  Lists are
    where loops are: a round of one goes on only behind a token it took, be it
    a comma, an item, or a token skipped because the item took none. -/

namespace ScriptTree

open Rule (Turn)

namespace Grammar

variable {cost : Nat}

/-! ## Phrases -/

theorem situation_stays : situation.Stays := .look .pure

theorem token_stays : token.Stays := .look fun s => .pure s.token

theorem here_stays : here.Stays := .look fun _ => .pure _

theorem consumed_stays : consumed.Stays := .look fun _ => .pure _

theorem isAt_stays (mark : Punctuator) : (isAt mark).Stays := .look fun _ => .pure _

theorem isAtWord_stays (word : Keyword) : (isAtWord word).Stays := .look fun _ => .pure _

theorem isAtClose_stays (close : Punctuator) : (isAtClose close).Stays :=
  .look fun _ => .pure _

theorem placeholder_stays : placeholder.Stays := .look fun _ => .pure _

theorem complain_stays (span : Span) (fault : Fault) : (complain span fault).Stays :=
  .complain span fault (.pure ())

theorem complainHere_stays (fault : Fault) : (complainHere fault).Stays :=
  .look fun _ => complain_stays _ _

theorem unexpected_stays : unexpected.Stays := .look fun _ => complain_stays _ _

theorem missing_stays : missing.Stays := unexpected_stays.bind fun _ => placeholder_stays

theorem openNode_stays : openNode.Stays :=
  .look fun _ _ _ s => .openAt fun _ => .done ⟨.refl s, rfl⟩

theorem closeNodeAt_stays (opened : Opened) (shape : Shape Node) (stop : Nat) :
    (closeNodeAt opened shape stop).Stays :=
  fun _ _ s => .close fun _ => .done ⟨.refl s, rfl⟩

theorem closeNode_stays (opened : Opened) (shape : Shape Node) :
    (closeNode opened shape).Stays :=
  .look fun _ => closeNodeAt_stays opened shape _

theorem deepen_stays : (Rule.deepen .done).Stays := by
  intro mode fuel s
  have opens : (Contract.onward mode).Deepens s
      fun _ t => s.Leads t ∧ t.consumed = s.consumed := by
    rw [Contract.Deepens]
    split
    · exact fun _ => ⟨.refl s, rfl⟩
    · exact ⟨⟨[], rfl, rfl⟩, rfl⟩
  exact .deepen opens fun _ _ ht => .done ht

theorem take_runs : take.Runs cost := .take fun t => .pure t

theorem take_advances : take.Advances := .take fun t => .pure t

theorem eat_tells (mark : Punctuator) : (eat mark).Tells := by
  intro mode fuel s hs
  refine .look ?_
  show Rule.Descends _ _ (if s.token.isPunctuator mark = true then _ else _) s _
  split
  · rename_i here
    have goes := Token.isEnd_of_isPunctuator here
    exact .take (.done (Situation.leads_on goes hs.1))
  · exact .done rfl

theorem eatWord_tells (word : Keyword) : (eatWord word).Tells := by
  intro mode fuel s hs
  refine .look ?_
  show Rule.Descends _ _ (if s.token.isKeyword word = true then _ else _) s _
  split
  · rename_i here
    have goes := Token.isEnd_of_isKeyword here
    exact .take (.done (Situation.leads_on goes hs.1))
  · exact .done rfl

theorem expect_runs (mark : Punctuator) (pos : 1 ≤ cost) : (expect mark).Runs cost :=
  (eat_tells mark).bind pos (.pure ()) unexpected_stays.runs

theorem expectWord_runs (word : Keyword) (pos : 1 ≤ cost) : (expectWord word).Runs cost :=
  (eatWord_tells word).bind pos (.pure ()) unexpected_stays.runs

/-- A mark that is expected where it stands is taken. -/
theorem expect_takes {mode : Mode} {fuel : Nat} {s : Situation} {mark : Punctuator}
    (here : s.token.isPunctuator mark = true) (hs : s.Affords fuel 1) :
    (expect mark).Descends mode fuel s fun _ t => s.Leads t ∧ s.consumed < t.consumed := by
  refine .look ?_
  show Rule.Descends _ _ ((if s.token.isPunctuator mark = true then _ else _ : Rule Bool).bind _)
    s _
  rw [if_pos here]
  exact .take (.done (Situation.leads_on (Token.isEnd_of_isPunctuator here) hs.1))

theorem semicolon_runs (pos : 1 ≤ cost) : semicolon.Runs cost := by
  refine (eat_tells .semicolon).bind pos (.pure ()) ?_
  refine situation_stays.bind_runs fun s => ?_
  exact .ite (.pure ()) unexpected_stays.runs

theorem statement_runs (h : 5 ≤ cost) : statement.Runs cost := .call fun _ => h

theorem assignment_runs (noIn : Bool) (h : 4 ≤ cost) : (assignment noIn).Runs cost :=
  .call fun _ => h

theorem unary_runs (h : 3 ≤ cost) : unary.Runs cost := .call fun _ => h

theorem atom_runs (h : 2 ≤ cost) : (parse .atom).Runs cost := .call fun _ => h

theorem operators_runs (left : Node) (start minimum : Nat) (noIn : Bool) (h : 2 ≤ cost) :
    (parseChain (.operators left start minimum noIn)).Runs cost :=
  .call fun _ => h

theorem subscripts_runs (base : Node) (start : Nat) (noCalls : Bool) (h : 2 ≤ cost) :
    (parseChain (.subscripts base start noCalls)).Runs cost :=
  .call fun _ => h

theorem block_runs (h : 6 ≤ cost) : (parse .block).Runs cost := by
  refine .call fun s => ?_
  simp only [Nonterminal.cost]
  split <;> omega

theorem nested_runs (noIn : Bool) (h : 4 ≤ cost) :
    (parseNested (.assignment noIn)).Runs cost :=
  .call fun _ => h

theorem functionBody_runs (h : 6 ≤ cost) : functionBody.Runs cost := by
  refine .call fun s => ?_
  simp only [Nonterminal.cost]
  split <;> omega

theorem expression_runs (noIn : Bool) (h : 4 ≤ cost) : (expression noIn).Runs cost := by
  refine here_stays.bind_runs fun start => ?_
  refine (assignment_runs noIn h).bind fun first => ?_
  refine (isAt_stays .comma).bind_runs fun more => .ite ?_ (.pure first)
  refine Rule.Runs.bind (.loop (by omega) fun found => ?_) fun found => (closeNode_stays _ _).runs
  refine (eat_tells .comma).turns (by omega) ?_ (.pure_leave _)
  exact (assignment_runs noIn (by omega)).bind fun next => .pure _

/-! ## Leaves -/

theorem leaf_runs (shape : Shape Node) : (leaf shape).Runs cost :=
  openNode_stays.bind_runs fun _ => take_runs.bind fun _ => (closeNode_stays _ _).runs

theorem leaf_advances (shape : Shape Node) : (leaf shape).Advances :=
  openNode_stays.bind_advances fun _ =>
    take_advances.bind fun _ => (closeNode_stays _ _).runs

theorem identifier_runs : identifier.Runs cost := by
  refine token_stays.bind_runs fun t => ?_
  split
  · exact leaf_runs _
  · exact missing_stays.runs

theorem identifierName_runs : identifierName.Runs cost := by
  refine token_stays.bind_runs fun t => ?_
  split
  · exact leaf_runs _
  · exact leaf_runs _
  · exact missing_stays.runs

theorem literal_runs : literal.Runs cost := by
  refine token_stays.bind_runs fun t => ?_
  split
  · exact leaf_runs _
  · exact missing_stays.runs

theorem propertyName_runs (pos : 1 ≤ cost) : propertyName.Runs cost := by
  refine (eat_tells .openBracket).bind pos ?_ ?_
  · refine (assignment_runs false (by omega)).bind fun key => ?_
    exact (expect_runs _ (by omega)).bind fun _ => .pure _
  · refine token_stays.bind_runs fun t => ?_
    split
    · exact literal_runs.bind fun _ => .pure _
    · exact literal_runs.bind fun _ => .pure _
    · exact identifierName_runs.bind fun _ => .pure _

/-! ## Lists -/

section Lists

variable {α β : Type} {item : Rule Node}

/-- Another item follows only behind one that took a token. -/
theorem endItem_descends {mode : Mode} {fuel : Nat} {s : Situation} (close : Punctuator)
    {before : Nat} (le : before ≤ s.consumed) (hs : s.Affords fuel 1) :
    (endItem close before).Descends mode fuel s
      fun b t => s.Leads t ∧ (b = true → before < t.consumed) := by
  refine .look ?_
  show Rule.Descends _ _ (if (s.consumed == before) = true then _ else _) s _
  split
  · exact .done ⟨.refl s, fun no => absurd no Bool.false_ne_true⟩
  · rename_i took
    -- The item took a token, so whatever is answered now is paid for.
    have lt : before < s.consumed :=
      Nat.lt_of_le_of_ne le fun same => took (beq_iff_eq.mpr same.symm)
    have rest : (isAt close >>= fun closes => if closes = true then pure true else
        eat .comma >>= fun goes => if goes = true then pure true else
          unexpected >>= fun _ => pure false).Runs 1 := by
      refine (isAt_stays close).bind_runs fun closes => .ite (.pure _) ?_
      refine (eat_tells .comma).bind (Nat.le_refl 1) (.pure _) ?_
      exact unexpected_stays.bind_runs fun _ => .pure _
    refine (rest mode fuel s hs).mono fun b t ht => ?_
    exact ⟨ht, fun _ => Nat.lt_of_lt_of_le lt ht.consumed_le⟩

/-- A round that reads an item goes on only if the item took a token. -/
theorem endItem_turns (close : Punctuator) (pos : 1 ≤ cost) (h : item.Runs cost)
    (on : Node → α) (off : Node → β) :
    (consumed >>= fun before => item >>= fun n => endItem close before >>= fun more =>
      if more = true then pure (Turn.again (on n)) else pure (.leave (off n))).Turns cost := by
  intro mode fuel s hs
  refine .look ((h mode fuel s hs).bind fun n t ht => ?_)
  have paid := (hs.leads ht).mono pos
  refine (endItem_descends close ht.consumed_le paid).bind fun more u hu => ?_
  cases more with
  | true => exact .done ⟨ht.trans hu.1, hu.2 rfl⟩
  | false => exact .done (ht.trans hu.1)

theorem items_runs (close : Punctuator) (pos : 1 ≤ cost) (h : item.Runs cost) :
    (items close item).Runs cost := by
  refine .loop pos fun found => ?_
  refine .bind (isAtClose_stays close).runs fun closes => ?_
  split
  · exact .pure_leave _
  · exact endItem_turns close pos h _ _

theorem elements_runs (close : Punctuator) (pos : 1 ≤ cost) (h : item.Runs cost) :
    (elements close item).Runs cost := by
  refine .loop pos fun found => ?_
  refine .bind (isAtClose_stays close).runs fun closes => ?_
  split
  · exact .pure_leave _
  · refine (eat_tells .comma).turns pos (.pure _) ?_
    exact endItem_turns close pos h _ _

theorem commaChain_runs (close : Punctuator) (pos : 1 ≤ cost) (h : item.Runs cost) :
    (commaChain close item).Runs cost := by
  refine .loop pos fun found => ?_
  refine .bind (isAtClose_stays close).runs fun closes => ?_
  split
  · exact .pure_leave _
  · refine .bind consumed_stays.runs fun before => ?_
    refine .bind h fun n => ?_
    refine .bind consumed_stays.runs fun after => ?_
    split
    · exact .pure_leave _
    · exact (eat_tells .comma).turns pos (.pure _) (.pure_leave _)

/-- A round that reads an item, and skips a token if it took none, goes on. -/
theorem skipping_descends {mode : Mode} {fuel : Nat} {s : Situation}
    (goes : s.token.isEnd = false) (pos : 1 ≤ cost) (hs : s.Affords fuel cost)
    (h : item.Runs cost) (drop : α) (keep : Node → α) :
    (item >>= fun n => consumed >>= fun after => if (after == s.consumed) = true then
      take >>= fun _ => pure (Turn.again drop) else pure (.again (keep n)) :
        Rule (Turn α β)).Descends mode fuel s fun turn t =>
          (∃ a, turn = .again a) ∧ s.Leads t ∧ s.consumed < t.consumed := by
  refine (h mode fuel s hs).bind fun n t ht => ?_
  refine .look ?_
  show Rule.Descends _ _ (if (t.consumed == s.consumed) = true then _ else _) t _
  split
  · rename_i same
    have still : t.token.isEnd = false := by
      show t.current.token.isEnd = false
      rw [ht.current_eq (beq_iff_eq.mp same)]
      exact goes
    have paid := (hs.leads ht).mono pos
    refine (take_advances mode fuel t still paid).bind fun _ u hu => ?_
    exact .done ⟨⟨drop, rfl⟩, ht.trans hu.1, Nat.lt_of_le_of_lt ht.consumed_le hu.2⟩
  · rename_i took
    refine .done ⟨⟨keep n, rfl⟩, ht, Nat.lt_of_le_of_ne ht.consumed_le fun same => took ?_⟩
    exact beq_iff_eq.mpr same.symm

/-- Statements up to a token end at the token, or at the end of input. -/
theorem statementsUntil_descends {mode : Mode} {fuel : Nat} {s : Situation} (ends : Token → Bool)
    (h : 5 ≤ cost) (hs : s.Affords fuel cost) :
    (statementsUntil ends).Descends mode fuel s
      fun _ t => s.Leads t ∧ (t.token.isEnd || ends t.token) = true := by
  refine .rounds (fun _ t => s.Leads t) (hs.mono (by omega)) (.refl s) fun found t ht => ?_
  refine .look ?_
  show Rule.Descends _ _ (if (t.token.isEnd || ends t.token) = true then _ else _) t _
  split
  · rename_i here
    exact .done ⟨.refl t, ht, here⟩
  · rename_i goes
    rw [Bool.or_eq_true, not_or] at goes
    have stands := Bool.eq_false_iff.mpr goes.1
    refine (skipping_descends stands (by omega) (hs.leads ht) (statement_runs h) _ _).mono
      fun turn u hu => ?_
    obtain ⟨⟨found, rfl⟩, on⟩ := hu
    exact ⟨on, ht.trans on.1⟩

theorem statementsUntil_runs (ends : Token → Bool) (h : 5 ≤ cost) :
    (statementsUntil ends).Runs cost :=
  fun _ _ _ hs => (statementsUntil_descends ends h hs).mono fun _ _ ht => ht.1

end Lists

/-! ## Patterns -/

theorem bindingTarget_runs (h : 2 ≤ cost) : bindingTarget.Runs cost := by
  intro mode fuel s hs
  refine Rule.descends_token ?_
  split
  · exact identifier_runs mode fuel s hs
  · rename_i here
    -- Where the bracket stands the pattern costs what its bracket pays for.
    have stands := Token.isPunctuator_iff.mpr here
    refine Rule.descends_call (hs.mono ?_)
    simp only [Nonterminal.cost, stands, ↓reduceIte]
    exact h
  · exact Rule.descends_call (hs.mono h)
  · exact missing_stays.runs mode fuel s hs

theorem withDefault_runs (start : Nat) (target : Node) (h : 4 ≤ cost) :
    (withDefault start target).Runs cost :=
  (assignment_runs false h).bind fun _ => (closeNode_stays _ _).runs

theorem bindingElement_runs (h : 2 ≤ cost) : bindingElement.Runs cost := by
  refine here_stays.bind_runs fun start => ?_
  refine (bindingTarget_runs h).bind fun target => ?_
  exact (eat_tells .assign).bind (by omega) (withDefault_runs _ _ (by omega)) (.pure target)

theorem restElement_runs (h : 2 ≤ cost) : restElement.Runs cost := by
  refine openNode_stays.bind_runs fun opened => take_runs.bind fun _ => ?_
  exact (bindingTarget_runs h).bind fun argument => (closeNode_stays _ _).runs

theorem bindingOrRest_runs (h : 2 ≤ cost) : bindingOrRest.Runs cost :=
  (isAt_stays .ellipsis).bind_runs fun _ => .ite (restElement_runs h) (bindingElement_runs h)

/-- What stands behind the opening bracket of a list of patterns. -/
theorem arrayPattern_rest_runs (opened : Opened) (h : 2 ≤ cost) : Rule.Runs (do
    let elements ← elements .closeBracket bindingOrRest
    expect .closeBracket
    closeNode opened (.arrayPattern elements)) cost := by
  refine (elements_runs _ (by omega) (bindingOrRest_runs h)).bind fun found => ?_
  exact (expect_runs _ (by omega)).bind fun _ => (closeNode_stays _ _).runs

theorem arrayPattern_runs (h : 2 ≤ cost) : arrayPattern.Runs cost :=
  openNode_stays.bind_runs fun opened => take_runs.bind fun _ => arrayPattern_rest_runs opened h

theorem arrayPattern_advances : arrayPattern.Advances :=
  openNode_stays.bind_advances fun opened =>
    take_advances.bind fun _ => arrayPattern_rest_runs opened (by omega)

theorem patternProperty_runs (pos : 1 ≤ cost) : patternProperty.Runs cost := by
  refine openNode_stays.bind_runs fun opened => ?_
  refine (propertyName_runs pos).bind fun name => ?_
  refine (eat_tells .colon).bind pos ?_ ?_
  · exact (bindingElement_runs (by omega)).bind fun _ => (closeNode_stays _ _).runs
  · simp only [Bool.false_eq_true, ↓reduceIte]
    split
    · refine (eat_tells .assign).bind pos ?_ (closeNode_stays _ _).runs
      exact (withDefault_runs _ _ (by omega)).bind fun _ => (closeNode_stays _ _).runs
    · exact missing_stays.bind_runs fun _ => (closeNode_stays _ _).runs

theorem objectPattern_runs (pos : 1 ≤ cost) : objectPattern.Runs cost := by
  refine openNode_stays.bind_runs fun opened => take_runs.bind fun _ => ?_
  refine (items_runs _ pos (patternProperty_runs pos)).bind fun found => ?_
  exact (expect_runs _ pos).bind fun _ => (closeNode_stays _ _).runs

end Grammar

end ScriptTree

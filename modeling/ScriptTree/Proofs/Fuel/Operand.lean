import ScriptTree.Proofs.Fuel.Expression

/-! # Fuel for operands and subscripts

    An operand begins with a token that says which one it is, and takes it.
    So does a subscript.  A template goes round only where a chunk of it
    stands. -/

namespace ScriptTree.Grammar

open Rule (Turn)

variable {cost : Nat} {mode : Mode} {fuel : Nat} {s : Situation}

/-! ## Subscripts and templates -/

/-- An argument may be spread. -/
theorem spreadOrAssignment_runs (h : 4 ≤ cost) : spreadOrAssignment.Runs cost := by
  refine (isAt_stays .ellipsis).bind_runs fun spreads => .ite ?_ (assignment_runs false h)
  refine openNode_stays.bind_runs fun opened => take_runs.bind fun _ => ?_
  exact (assignment_runs false h).bind fun argument => (closeNode_stays _ _).runs

/-- What stands behind the parenthesis that opens arguments. -/
theorem arguments_rest_runs (h : 4 ≤ cost) : Rule.Runs (do
    let arguments ← items .closeParen spreadOrAssignment
    expect .closeParen
    pure arguments) cost := by
  refine (items_runs _ (by omega) (spreadOrAssignment_runs h)).bind fun found => ?_
  exact (expect_runs _ (by omega)).bind fun _ => .pure _

/-- The parentheses around arguments are tokens. -/
theorem callArguments_runs (h : 4 ≤ cost) : callArguments.Runs cost :=
  (expect_runs _ (by omega)).bind fun _ => arguments_rest_runs h

/-- Arguments take the parenthesis that opens them. -/
theorem callArguments_takes (stands : s.token.isPunctuator .openParen = true)
    (hs : s.Affords fuel 1) : callArguments.Descends mode fuel s
      fun _ t => s.Leads t ∧ s.consumed < t.consumed := by
  refine (expect_takes stands hs).bind fun _ t ht => ?_
  have paid := hs.advanced ht.1 ht.2
  refine (arguments_rest_runs (by omega) mode fuel t paid).mono fun _ u hu => ?_
  exact ⟨ht.1.trans hu, Nat.lt_of_lt_of_le ht.2 hu.consumed_le⟩

/-- A template takes the chunk it starts with. -/
theorem template_takes {chunk : String × Bool}
    (stands : templateChunk? s.token.kind = some chunk) (hs : s.Affords fuel 1) :
    template.Descends mode fuel s fun _ t => s.Leads t ∧ s.consumed < t.consumed := by
  refine (openNode_stays mode fuel s).bind fun opened t ht => ?_
  -- Where a round ends the template without a token, some round took one before.
  refine .loop (fun _ u => s.Leads u) (fun _ u => s.Leads u ∧ s.consumed < u.consumed)
    (hs.leads ht.1) ht.1 ?_ fun found u hu => ?_
  · rintro ⟨quasis, expressions⟩ u hu
    refine Rule.descends_token ?_
    split
    · rename_i none
      refine (unexpected_stays mode fuel u).bind fun _ v hv => .done ⟨hv.1, hu.trans hv.1, ?_⟩
      have moved : u.consumed ≠ s.consumed := by
        intro same
        rw [Situation.token, hu.current_eq same] at none
        cases stands.symm.trans none
      have := hu.consumed_le
      have := hv.1.consumed_le
      omega
    · rename_i raw isTail chunk
      have goes := Token.isEnd_of_reading rfl chunk
      refine Rule.Advances.meets (take_advances.bind fun _ => ?_) goes (hs.leads hu)
        (Nat.le_refl 1) fun turn w on lt => ⟨.of_lt on lt, ?_⟩
      · refine (closeNodeAt_stays _ _ _).bind_runs fun quasi => .ite (.pure _) ?_
        refine (expression_runs false (by omega)).bind fun substitution => ?_
        refine token_stays.bind_runs fun next => .ite (.pure _) ?_
        exact unexpected_stays.bind_runs fun _ => .pure _
      · cases turn with
        | again found => exact hu.trans on
        | leave found => exact ⟨hu.trans on, Nat.lt_of_le_of_lt hu.consumed_le lt⟩
  · refine (closeNode_stays opened _ mode fuel u).mono fun _ w hw => ?_
    exact ⟨hu.1.trans hw.1, hw.2 ▸ hu.2⟩

/-- A template that begins here has a first chunk. -/
theorem templateChunk_of_isTemplateHead {t : Token} (h : t.isTemplateHead = true) :
    ∃ chunk, templateChunk? t.kind = some chunk := by
  rw [Token.isTemplateHead] at h
  split at h
  · rename_i raw isHead isTail kind
    exact ⟨(raw, isTail), by rw [kind]; rfl⟩
  · exact absurd h Bool.false_ne_true

/-- A subscript takes the token that begins it. -/
theorem subscript_takes {base : Node} {noCalls : Bool} {kind : Subscript}
    (stands : Subscript.ofToken? noCalls s.token = some kind) (hs : s.Affords fuel 1) :
    (subscript base kind).Descends mode fuel s
      fun _ t => s.Leads t ∧ s.consumed < t.consumed := by
  -- The four kinds of subscripts, in the order in which they are asked for.
  rw [Subscript.ofToken?] at stands
  split at stands
  · rename_i dot
    cases stands
    have goes := Token.isEnd_of_isPunctuator dot
    refine Rule.Advances.bind take_advances (fun _ => ?_) mode fuel s goes hs
    exact identifierName_runs.bind fun _ => .pure _
  split at stands
  · rename_i bracket
    cases stands
    have goes := Token.isEnd_of_isPunctuator bracket
    refine Rule.Advances.bind take_advances (fun _ => ?_) mode fuel s goes hs
    refine (expression_runs false (by omega)).bind fun prop => ?_
    exact (expect_runs _ (by omega)).bind fun _ => .pure _
  split at stands
  · rename_i paren
    cases stands
    rw [Bool.and_eq_true] at paren
    exact (callArguments_takes paren.2 hs).bind fun _ _ ht => .done ht
  split at stands
  · rename_i head
    cases stands
    obtain ⟨chunk, hc⟩ := templateChunk_of_isTemplateHead head
    exact (template_takes hc hs).bind fun _ _ ht => .done ht
  · cases stands

/-- Every round takes the token of its subscript. -/
theorem subscriptsRule_runs (base : Node) (start : Nat) (noCalls : Bool) (pos : 1 ≤ cost) :
    (subscriptsRule base start noCalls).Runs cost := by
  refine .loop pos fun base => ?_
  intro mode fuel s hs
  refine Rule.descends_token ?_
  split
  · exact .done (.refl s)
  · rename_i kind stands
    -- Opening a level takes no token, so the subscript still begins here.
    refine deepen_stays.turned (hs.mono pos) fun ok t same ht => ?_
    cases ok with
    | false => exact .done (.refl t)
    | true =>
        refine (subscript_takes (same ▸ stands) ht).bind fun shape u hu => ?_
        refine (closeNode_stays _ _ mode fuel u).bind fun whole v hv => ?_
        exact .done ⟨hu.1.trans hv.1, hv.2 ▸ hu.2⟩

/-! ## Operands -/

theorem isAtArrow_stays : isAtArrow.Stays := .look fun _ => .pure _

/-- The body behind the arrow is a block or an assignment. -/
theorem arrowBody_runs (opened : Opened) (params : List Node) (h : 6 ≤ cost) :
    (arrowBody opened params).Runs cost := by
  refine (expect_runs _ (by omega)).bind fun _ => ?_
  refine (isAt_stays .openBrace).bind_runs fun braced => .ite ?_ ?_
  · exact (functionBody_runs h).bind fun body => (closeNode_stays _ _).runs
  · exact (assignment_runs false (by omega)).bind fun body => (closeNode_stays _ _).runs

/-- A name is taken, whether an arrow follows or not. -/
theorem nameOrArrow_takes {text : String} (stands : s.token.kind = .name text)
    (hs : s.Affords fuel cost) (pos : 1 ≤ cost) :
    nameOrArrow.Descends mode fuel s fun _ t => s.Leads t := by
  have name : identifier.Descends mode fuel s
      fun _ t => s.Leads t ∧ s.consumed < t.consumed := by
    refine Rule.descends_token ?_
    rw [stands]
    exact leaf_advances _ mode fuel s (Token.isEnd_eq_false stands (by simp)) (hs.mono pos)
  have rest (start : Nat) (name : Node) : Rule.Runs (do
      if ← isAtArrow then arrowBody (openedAt start) [name] else pure name) 9 :=
    isAtArrow_stays.bind_runs fun arrow => .ite (arrowBody_runs _ _ (by omega)) (.pure _)
  refine .look (name.bind fun found t ht => ?_)
  have paid := (hs.mono pos).advanced ht.1 ht.2
  exact (rest _ found mode fuel t paid).mono fun _ u hu => ht.1.trans hu

/-- An array takes its bracket. -/
theorem array_advances : array.Advances := by
  refine openNode_stays.bind_advances fun opened => take_advances.bind fun _ => ?_
  refine (elements_runs _ (by omega) (spreadOrAssignment_runs (by omega))).bind fun found => ?_
  exact (expect_runs _ (by omega)).bind fun _ => (closeNode_stays _ _).runs

/-- What follows a key is a method, a value or nothing. -/
theorem propertyRest_runs (key : Node) (computed : Bool) (h : 6 ≤ cost) :
    (propertyRest key computed).Runs cost := by
  refine token_stays.bind_runs fun next => ?_
  simp only
  split
  · refine (propertyName_runs (by omega)).bind fun name => ?_
    exact (methodFunction_runs h).bind fun value => .pure _
  split
  · exact (methodFunction_runs h).bind fun value => .pure _
  refine (eat_tells .colon).bind (by omega) ?_ ?_
  · exact (assignment_runs false (by omega)).bind fun value => .pure _
  simp only [Bool.false_eq_true, ↓reduceIte]
  split
  · refine (eat_tells .assign).bind (by omega) ?_ (.pure _)
    exact (withDefault_runs _ _ (by omega)).bind fun value => .pure _
  · exact missing_stays.bind_runs fun value => .pure _

/-- A property may be spread. -/
theorem objectProperty_runs (h : 6 ≤ cost) : objectProperty.Runs cost := by
  refine openNode_stays.bind_runs fun opened => ?_
  refine (propertyName_runs (by omega)).bind fun name => ?_
  exact (propertyRest_runs _ _ h).bind fun rest => (closeNode_stays _ _).runs

/-- An object takes its brace. -/
theorem object_advances : object.Advances := by
  refine openNode_stays.bind_advances fun opened => take_advances.bind fun _ => ?_
  refine (items_runs _ (by omega) (objectProperty_runs (by omega))).bind fun found => ?_
  exact (expect_runs _ (by omega)).bind fun _ => (closeNode_stays _ _).runs

/-- An item between parentheses is followed by a comma, or is the last one. -/
theorem parenthesizedTurn_turns (found : Array Node) (hasRest : Bool) (before : Nat)
    (pos : 1 ≤ cost) : (parenthesizedTurn found hasRest before).Turns cost := by
  refine .bind consumed_stays.runs fun after => ?_
  split
  · exact .pure_leave _
  · exact (eat_tells .comma).turns pos (.pure _) (.pure_leave _)

/-- Items in parentheses end at the closing one. -/
theorem parenthesized_runs (h : 4 ≤ cost) : parenthesized.Runs cost := by
  rw [parenthesized_eq]
  refine .loop (by omega) fun state => ?_
  refine .bind (isAtClose_stays .closeParen).runs fun closes => ?_
  split
  · exact .pure_leave _
  refine .bind consumed_stays.runs fun before => ?_
  refine .bind (isAt_stays .ellipsis).runs fun isRest => ?_
  cases isRest with
  | true =>
      refine .bind (restElement_runs (by omega)) fun item => ?_
      exact parenthesizedTurn_turns _ _ before (by omega)
  | false =>
      refine .bind (assignment_runs false h) fun item => ?_
      exact parenthesizedTurn_turns _ _ before (by omega)

/-- Parentheses take the opening one. -/
theorem parenOrArrow_advances : parenOrArrow.Advances := by
  refine here_stays.bind_advances fun start => take_advances.bind fun _ => ?_
  refine here_stays.bind_runs fun innerStart => ?_
  refine (parenthesized_runs (by omega)).bind fun found => ?_
  refine situation_stays.bind_runs fun inner => ?_
  refine (expect_runs _ (by omega)).bind fun _ => ?_
  refine isAtArrow_stays.bind_runs fun arrow => .ite ?_ ?_
  · exact (asPatterns_stays _).bind_runs fun params => arrowBody_runs _ _ (by omega)
  refine .ite (unexpected_stays.bind_runs fun _ => ?_) ?_
  all_goals
    split
    · exact placeholder_stays.runs
    · exact .pure _
    · exact (closeNodeAt_stays _ _ _).runs

/-- A `new` takes its word. -/
theorem newObject_advances : newObject.Advances := by
  refine openNode_stays.bind_advances fun opened => take_advances.bind fun _ => ?_
  refine here_stays.bind_runs fun start => ?_
  refine (atom_runs (by omega)).bind fun base => ?_
  refine (subscripts_runs _ _ _ (by omega)).bind fun callee => ?_
  refine (isAt_stays .openParen).bind_runs fun called => ?_
  refine .optional (callArguments_runs (by omega)) fun arguments => ?_
  exact (closeNode_stays _ _).runs

/-- A word that begins an operand is taken. -/
theorem wordAtom_takes {word : Keyword} (stands : s.token.kind = .keyword word)
    (hs : s.Affords fuel cost) (pos : 1 ≤ cost) :
    (wordAtom word).Descends mode fuel s fun _ t => s.Leads t := by
  have goes := Token.isEnd_eq_false stands (by simp)
  simp only [wordAtom]
  split
  · exact leaf_runs _ mode fuel s hs
  · exact leaf_runs _ mode fuel s hs
  · exact literal_runs mode fuel s hs
  · exact literal_runs mode fuel s hs
  · exact literal_runs mode fuel s hs
  · refine (openNode_stays.bind_advances fun opened => ?_).meets goes hs pos fun _ _ on _ => on
    exact function_advances opened false
  · refine (openNode_stays.bind_advances fun opened => ?_).meets goes hs pos fun _ _ on _ => on
    exact classPhrase_advances opened false
  · exact newObject_advances.meets goes hs pos fun _ _ on _ => on
  · exact missing_stays.runs mode fuel s hs

/-- An operand takes a token or complains of one. -/
theorem atomRule_runs (pos : 1 ≤ cost) : atomRule.Runs cost := by
  intro mode fuel s hs
  refine Rule.descends_token ?_
  -- An operand that a mark opens takes the mark.
  have opens (mark : Punctuator) (stands : s.token.kind = .punctuator mark) {r : Rule Node}
      (h : r.Advances) : r.Descends mode fuel s fun _ t => s.Leads t :=
    h.meets (Token.isEnd_eq_false stands (by simp)) hs pos fun _ _ on _ => on
  split
  · rename_i word stands
    exact wordAtom_takes stands hs pos
  · rename_i text stands
    exact nameOrArrow_takes stands hs pos
  · exact literal_runs mode fuel s hs
  · exact literal_runs mode fuel s hs
  · exact literal_runs mode fuel s hs
  · rename_i stands
    exact (template_takes (by rw [stands]; rfl) (hs.mono pos)).mono fun _ _ ht => ht.1
  · rename_i stands
    exact opens _ stands parenOrArrow_advances
  · rename_i stands
    exact opens _ stands array_advances
  · rename_i stands
    exact opens _ stands object_advances
  · exact missing_stays.runs mode fuel s hs

end ScriptTree.Grammar

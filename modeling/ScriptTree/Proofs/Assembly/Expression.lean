import ScriptTree.Proofs.Assembly.Function

/-! # What expressions make

    Chains of operators and subscripts are closed over the node they begin with,
    which is as old as the chain.  What turns out to be a pattern is reinterpreted
    as a whole, after it was made. -/

namespace ScriptTree.Grammar

open Assembly
open Rule (Turn)

variable {σ α : Type} {setting : Setting σ} {M : Assembly setting} {first p q r : Progress σ}
  {ns : List Node} {o : Opened} {own : Bool} {post : α → Progress σ → Prop}

/-! ## Patterns of expressions -/

/-- A node becomes its pattern, and the parse stays. -/
theorem asPattern_ensures (n : Node) : M.Ensures (asPattern n) p fun m q =>
    m = n.toPattern ∧ q = p := by
  rw [asPattern]
  split
  · exact complain_then (f := fun _ => .done n.toPattern) fun _ => .pure ⟨rfl, rfl⟩
  · exact .pure ⟨rfl, rfl⟩

/-- An expression that was made becomes a pattern. -/
theorem reinterpreted_ensures {n : Node} (made : M.Made p [n] q) :
    M.Ensures (asPattern n) q fun m r => M.Made p [m] r :=
  (asPattern_ensures n).mono fun _ _ ⟨same, still⟩ => by
    subst same still
    exact M.reinterpreted made

/-- So do several nodes. -/
theorem asPatterns_ensures (found : List Node) : M.Ensures (asPatterns found) p fun ms q =>
    ms = found.map Node.toPattern ∧ q = p := by
  induction found with
  | nil => exact .pure ⟨rfl, rfl⟩
  | cons item rest ih =>
      refine (asPattern_ensures item).bind fun first q ⟨same, still⟩ => ?_
      subst same still
      refine ih.bind fun others q ⟨same, still⟩ => .pure ⟨?_, still⟩
      rw [same, List.map_cons]

/-- A target is checked, and nothing is made. -/
theorem checkSimpleTarget_passes (n : Node) : M.Passes (checkSimpleTarget n) :=
  fun p => .ite (fun _ => .pure (made_refl p)) fun _ => complain_passes _ _ p

/-- The target of an assignment is what was made, or its pattern. -/
theorem assignmentTarget_ensures {operator : Punctuator} {left : Node}
    (made : M.Made p [left] q) :
    M.Ensures (assignmentTarget operator left) q fun n r => M.Made p [n] r := by
  refine .ite (fun _ => reinterpreted_ensures made) fun _ => ?_
  exact made.pass (checkSimpleTarget_passes left) fun _ r made => .pure made

/-! ## Assignments -/

/-- A condition makes a conditional expression, or its test is all there is. -/
theorem conditional_ensures (noIn : Bool) : M.Ensures (conditional noIn) p (M.Assigns noIn p) := by
  refine look_then ?_
  refine unary_ensures.bind fun left q rounds => ?_
  refine (operators_ensures rounds).bind fun test r climbs => ?_
  have made := climbs.made.behind (M.taken r)
  refine eat_then (fun question => ?_) fun none => .pure
    ⟨climbs.made, fun strict => (climbs.climbed strict).expression, fun strict => ?_⟩
  · refine made.then (nestedAssignment_makes false) fun consequent s made => ?_
    refine made.pass (expect_passes _) fun _ t made => ?_
    refine (nestedAssignment_ensures noIn).bind fun alternate u last => ?_
    have law : M.Bound false p (openedAt p.situation.token.span.start) p
        (.conditionalExpression test consequent alternate) u := by
      refine bound_inherited fun strict => ?_
      refine Progress.inFront_of_arrow (climbs.climbed strict).arrow fun ends => ?_
      have none := ends.question
      rw [question] at none
      cases none
    refine (begun_inherited.closeLawfulOver (M.append made last.made) ⟨rfl, rfl⟩ ⟨rfl, rfl, rfl⟩ law
      rfl (by simp)).mono fun n v ⟨whole, closes⟩ => ⟨whole, fun _ => ?_, fun strict => ?_⟩
    · rw [closes.shape]
      rfl
    · exact ((last.ends strict).after (reaches_of_made made)).place closes.samePlace
  -- Without a question no operator is left that binds tighter than nothing.
  · obtain ⟨-, -, -, stops, operand⟩ := climbs.climbed strict
    refine ⟨Option.eq_none_iff_forall_ne_some.mpr fun operator next => ?_, none, operand⟩
    have least := stops operator next
    cases operator <;> simp [BinaryOperator.precedence] at least

/-- An assignment makes one node, whichever of its forms it has. -/
theorem assignmentRule_ensures (noIn : Bool) :
    M.Ensures (assignmentRule noIn) p (M.Assigns noIn p) := by
  refine look_then ?_
  refine (conditional_ensures noIn).bind fun left q assigns => ?_
  refine look_then ?_
  split
  · exact .pure assigns
  · refine (assignmentTarget_ensures assigns.made).bind fun target r made => ?_
    refine take_then ?_
    replace made := made.behind (M.taken r)
    refine (nestedAssignment_ensures noIn).bind fun right s last => ?_
    refine ((begun_inherited.closeOver (M.append made last.made) ⟨rfl, rfl⟩ rfl rfl
      (by simp)).both closeNode_closed).mono fun n t ⟨whole, closes⟩ =>
        ⟨whole, fun _ => ?_, fun strict => ?_⟩
    · rw [closes.shape]
      rfl
    · exact ((last.ends strict).after (reaches_of_made made)).place closes.samePlace

/-! ## Operators -/

/-- Both shapes of binary operations cover their operands. -/
theorem binaryShape_covers (operator : BinaryOperator) (left right : Node) :
    (binaryShape operator left right).Covers [left, right] ∧
      (binaryShape operator left right).isCall = false ∧
        (binaryShape operator left right).Plain false := by
  rw [binaryShape]
  split
  · exact ⟨⟨rfl, rfl⟩, rfl, ⟨rfl, rfl, rfl⟩⟩
  · exact ⟨⟨rfl, rfl⟩, rfl, ⟨rfl, rfl, rfl⟩⟩

/-- Operators are folded to the left as long as they bind tightly enough. -/
theorem operatorsRule_ensures {left : Node} {minimum : Nat} {noIn : Bool}
    (rounds : M.Rounds first left p) : M.Ensures
      (operatorsRule left first.situation.token.span.start minimum noIn) p
      (M.Climbs noIn minimum first) := by
  -- A round closes a node over the chain so far, so it starts where the chain does.
  refine .loop (fun left q => M.Made first [left] q ∧ (setting.mode = .strict →
      first.Folded setting M.Made noIn minimum left q))
    ⟨rounds.made, fun strict => .of_operand (rounds.operand strict) (rounds.ends strict)⟩ ?_
  rintro left q ⟨made, folded⟩
  refine look_then ?_
  split
  · rename_i none
    refine .pure ⟨made, fun strict => (folded strict).climbed fun operator next => ?_⟩
    rw [none] at next
    cases next
  rename_i operator here
  refine .ite (fun least => .pure ⟨made, fun strict => ?_⟩) fun tight => ?_
  · refine (folded strict).climbed fun other next => ?_
    obtain rfl := Option.some.inj (here.symm.trans next)
    exact least
  refine deepen_then fun ok r still allowed => ?_
  replace made := made.behind (M.still still)
  refine .ite (fun denied => .pure ⟨made, fun strict => ?_⟩) fun _ => ?_
  · rw [allowed strict] at denied
    cases denied
  refine take_then ?_
  refine look_then ?_
  have reach := reaches_of_made (made.behind (M.taken r))
  refine unary_ensures.bind fun operand s next => ?_
  refine (operators_ensures next).bind fun right t climbs => ?_
  obtain ⟨covers, noCall, plain⟩ := binaryShape_covers operator left right
  have law : M.Bound false first (openedAt first.situation.token.span.start) first
      (binaryShape operator left right) t :=
    bound_inherited fun strict => (folded strict).lawful here reach (climbs.climbed strict)
  refine (begun_inherited.closeLawfulOver (M.append (made.behind (M.taken r)) climbs.made) covers
    plain law noCall (by simp)).bind fun whole u ⟨made, closes⟩ => .pure ⟨made, fun strict => ?_⟩
  have again : first.Folded setting M.Made noIn minimum whole t :=
    .again closes.shape (Nat.not_le.mp tight) reach (climbs.climbed strict)
  exact again.place closes.samePlace

/-- A target that may not stand there stops a strict parse. -/
theorem checkSimpleTarget_then {n : Node} {f : Unit → Rule α} (k : M.Ensures (f ()) p post) :
    M.Ensures (checkSimpleTarget n >>= f) p post := by
  have stays : M.Ensures (checkSimpleTarget n) p fun _ q => q = p :=
    .ite (fun _ => .pure rfl) fun _ => complain_then (f := .done) fun _ => .pure rfl
  exact stays.bind fun _ q same => same ▸ k

/-- Signs behind an operand make a node around it. -/
theorem postfixOperators_ensures {operand : Node} (rounds : M.Rounds first operand p) :
    M.Ensures (postfixOperators first.situation.token.span.start operand) p (M.Rounds first) := by
  refine .loop (fun operand q => M.Rounds first operand q) rounds fun operand q rounds => ?_
  refine look_then ?_
  split
  · exact .pure rounds
  · rename_i operator here
    refine .ite (fun _ => .pure rounds) fun sameLine => checkSimpleTarget_then ?_
    refine take_then ?_
    have goes : q.situation.token.isEnd = false := Token.isEnd_of_reading rfl here
    have stored : first.EndsIn setting M.Made (fun t => UpdateOperator.ofToken? t.kind =
        some operator ∧ t.newlineBefore = false) (q.taken setting) :=
      .after (reaches_of_made rounds.made) (.taken goes ⟨here, Bool.eq_false_iff.mpr sameLine⟩)
    have law : M.Bound false first (openedAt first.situation.token.span.start) first
        (.updateExpression operator operand false) (q.taken setting) :=
      bound_inherited fun _ => stored
    refine (begun_inherited.closeLawfulOver (rounds.made.behind (M.taken q)) ⟨rfl, rfl⟩
      ⟨rfl, rfl, rfl⟩ law rfl (by simp)).bind fun whole s ⟨made, closes⟩ =>
        .pure ⟨⟨made, fun _ => ?_⟩, fun _ => ?_⟩
    · exact Progress.operand_of_plain (congrArg Shape.isPlain closes.shape)
    · have ends : first.EndsIn setting M.Made Token.IsUpdate (q.taken setting) :=
        .after (reaches_of_made rounds.made) (.taken goes (by rw [Token.IsUpdate, here]; rfl))
      exact .inr (ends.place closes.samePlace)

/-- An operator in front of an operand is closed over what is known behind it. -/
theorem prefixOperator_ensures {shape : Shape Node} {argument : Node}
    (opens : p.Opens setting true o q) (rounds : M.Rounds (q.taken setting) argument r)
    (covers : shape.Covers [argument]) (noCall : shape.isCall = false)
    (free : shape.isFree true = true) (plain : shape.isPlain = true) :
    M.Ensures (closeNode o shape) r (M.Rounds p) := by
  have begun : M.Begun true p o (q.taken setting) := ⟨q, opens, M.taken q⟩
  refine ((begun.closeOver rounds.made covers noCall free (by simp)).both closeNode_closed).mono
    fun n s ⟨made, closes⟩ => ⟨⟨made, fun _ => ?_⟩, fun strict => ?_⟩
  · exact Progress.operand_of_plain (congrArg Shape.isPlain closes.shape ▸ plain)
  · exact ((rounds.ends strict).after (.opens opens (reaches_of_made (M.taken q)))).place
      closes.samePlace

/-- Signs in front make a node around what they stand before. -/
theorem unaryRule_ensures : M.Ensures unaryRule p (M.Rounds p) := by
  refine look_then ?_
  split
  · refine openNode_opens fun o q opens _ _ => ?_
    refine take_then ?_
    refine unary_ensures.bind fun argument r rounds => checkSimpleTarget_then ?_
    exact prefixOperator_ensures opens rounds ⟨rfl, rfl⟩ rfl rfl rfl
  · refine openNode_opens fun o q opens _ _ => ?_
    refine take_then ?_
    refine unary_ensures.bind fun argument r rounds => ?_
    exact prefixOperator_ensures opens rounds ⟨rfl, rfl⟩ rfl rfl rfl
  · refine look_then ?_
    refine atom_ensures.bind fun base q operates => ?_
    refine (subscripts_ensures operates).bind fun operand r subscribes => ?_
    exact postfixOperators_ensures ⟨subscribes.toOperates, fun strict =>
      .inl (subscribes.ends strict)⟩

/-! ## Arguments and templates -/

/-- A spread makes a node around its argument. -/
theorem spreadOrAssignment_makes : M.Makes spreadOrAssignment := by
  intro p
  refine look_then ?_
  refine .ite (fun _ => ?_) fun _ => assignment_makes false p
  refine openNode_then fun o q begun _ => ?_
  refine take_then ?_
  refine (assignment_makes false _).bind fun argument r made => ?_
  exact (begun.behind (M.taken q)).closeOver made ⟨rfl, rfl⟩ rfl rfl (by simp)

/-- Arguments take the parenthesis they begin with. -/
theorem callArguments_ensures : M.Ensures callArguments p fun arguments q =>
    M.Made p arguments q ∧ (p.situation.token.isPunctuator .openParen = true →
      p.situation.consumed < q.situation.consumed) := by
  refine (expect_ensures .openParen).bind fun _ q ⟨on, grew⟩ => ?_
  refine (items_makes _ spreadOrAssignment_makes q).bind fun arguments r made => ?_
  refine made.pass (expect_passes _) fun _ s made => .pure ⟨?_, fun opens => ?_⟩
  · exact (M.append on made).of_eq (by simp)
  · exact Nat.lt_of_lt_of_le (grew (.inr opens)) (M.forward made)

/-- Behind as many chunks as substitutions one more chunk comes last. -/
theorem interleave_chunk {quasis expressions : List Node} {quasi : Node}
    (even : quasis.length = expressions.length) :
    Shape.interleave (quasis ++ [quasi]) expressions =
      Shape.interleave quasis expressions ++ [quasi] := by
  fun_induction Shape.interleave quasis expressions with
  | case1 expressions =>
      obtain rfl := List.length_eq_zero_iff.mp even.symm
      rfl
  | case2 first quasis => cases even
  | case3 first quasis expression expressions ih =>
      simp only [List.cons_append, Shape.interleave]
      rw [ih (Nat.succ.inj even)]

/-- So does a chunk with its substitution. -/
theorem interleave_substitution {quasis expressions : List Node} {quasi expression : Node}
    (even : quasis.length = expressions.length) :
    Shape.interleave (quasis ++ [quasi]) (expressions ++ [expression]) =
      Shape.interleave quasis expressions ++ [quasi, expression] := by
  fun_induction Shape.interleave quasis expressions with
  | case1 expressions =>
      obtain rfl := List.length_eq_zero_iff.mp even.symm
      rfl
  | case2 first quasis => cases even
  | case3 first quasis expression expressions ih =>
      simp only [List.cons_append, Shape.interleave]
      rw [ih (Nat.succ.inj even)]

/-- The text of a chunk is made where its token is taken. -/
theorem chunk_ensures {raw : String} {isTail : Bool}
    (read : templateChunk? p.situation.token.kind = some (raw, isTail)) :
    M.Ensures (closeNodeAt (openedAt (p.situation.token.span.start + 1))
      (.templateElement raw isTail) (p.situation.token.span.start + 1 + raw.utf8ByteSize))
      (p.taken setting) fun n q => M.Made p [n] q :=
  closeNodeAt_ensures (M.chunk read)

/-- A template makes chunks and expressions in turn. -/
theorem template_makes : M.Makes template := by
  intro p
  refine openNode_then fun o q begun _ => ?_
  -- Between two rounds there are as many chunks as substitutions.
  refine (Ensures.loop
    (fun (found : Array Node × Array Node) r => found.1.toList.length = found.2.toList.length ∧
      M.Made q (Shape.interleave found.1.toList found.2.toList) r) ⟨rfl, made_refl q⟩ ?_).bind
    fun found r (woven : M.Made q (Shape.interleave found.1 found.2) r ∧
      (setting.mode = .strict → found.1 ≠ [])) => ?_
  · rintro ⟨quasis, expressions⟩ r ⟨even, made⟩
    refine look_then ?_
    split
    · exact unexpected_then fun loose => .pure ⟨made, by simp [loose]⟩
    · rename_i raw isTail read
      refine take_then ?_
      refine (chunk_ensures read).bind fun quasi s chunk => ?_
      refine .ite (fun _ => .pure ⟨?_, by simp⟩) fun _ => ?_
      · exact (M.append made chunk).of_eq (by rw [Array.toList_push, interleave_chunk even])
      refine chunk.then (expression_makes false) fun substitution t chunk => ?_
      refine look_then ?_
      have both : M.Made q (Shape.interleave (quasis.push quasi).toList
          (expressions.push substitution).toList) t :=
        (M.append made chunk).of_eq (by
          rw [Array.toList_push, Array.toList_push, interleave_substitution even]
          rfl)
      refine .ite (fun _ => .pure ⟨by simpa using even, both⟩) fun _ => ?_
      exact unexpected_then fun loose => .pure ⟨both, by simp [loose]⟩
  · obtain ⟨quasis, expressions⟩ := found
    obtain ⟨made, filled⟩ := woven
    refine begun.close made ⟨rfl, rfl⟩ rfl fun h => ?_
    rcases h with call | ⟨strict, none⟩
    · cases call
    · cases quasis with
      | nil => exact absurd rfl (filled strict)
      | cons quasi quasis => cases expressions <;> cases none

/-! ## Subscripts -/

/-- A call begins with a parenthesis. -/
theorem opens_of_call {noCalls : Bool} {t : Token}
    (h : Subscript.ofToken? noCalls t = some .call) : t.isPunctuator .openParen = true := by
  unfold Subscript.ofToken? at h
  split at h
  · cases h
  split at h
  · cases h
  split at h
  · rename_i opens
    exact (Bool.and_eq_true _ _ ▸ opens).2
  split at h <;> cases h

/-- A subscript continues the node it stands behind. -/
theorem subscript_ensures {base : Node} {kind : Subscript} {noCalls : Bool}
    (made : M.Made first [base] p)
    (here : Subscript.ofToken? noCalls p.situation.token = some kind) :
    M.Ensures (subscript base kind) p fun shape q => ∃ ns, M.Made first ns q ∧
      shape.Covers ns ∧ ns ≠ [] ∧ shape.Plain false ∧
        (shape.isCall = true → first.situation.consumed < q.situation.consumed) ∧
        shape.isPlain = true ∧
          (first.Subscripted setting M.Made base → first.Lawful setting M.Made shape q) := by
  cases kind with
  | member =>
      refine take_then ?_
      refine (made.behind (M.taken p)).then identifierName_makes fun prop q made => .pure ?_
      exact ⟨_, made, ⟨rfl, rfl⟩, by simp, ⟨rfl, rfl, rfl⟩, nofun, rfl, id⟩
  | computedMember =>
      refine take_then ?_
      refine (made.behind (M.taken p)).then (expression_makes false) fun prop q made => ?_
      refine made.pass (expect_passes _) fun _ r made => .pure ?_
      exact ⟨_, made, ⟨rfl, rfl⟩, by simp, ⟨rfl, rfl, rfl⟩, nofun, rfl, id⟩
  | call =>
      refine callArguments_ensures.bind fun arguments q ⟨next, grew⟩ => .pure ?_
      refine ⟨_, M.append made next, ⟨rfl, rfl⟩, by simp, ⟨rfl, rfl, rfl⟩, fun _ => ?_, rfl, id⟩
      -- Only a call is charged: its parenthesis is a token of its own.
      exact Nat.lt_of_le_of_lt (M.forward made) (grew (opens_of_call here))
  | template =>
      exact made.then template_makes fun quasi q made => .pure
        ⟨_, made, ⟨rfl, rfl⟩, by simp, ⟨rfl, rfl, rfl⟩, nofun, rfl, id⟩

/-- Subscripts are folded to the left. -/
theorem subscriptsRule_ensures {base : Node} {noCalls : Bool} (operates : M.Operates first base p) :
    M.Ensures (subscriptsRule base first.situation.token.span.start noCalls) p
      (M.Subscribes noCalls first) := by
  refine .loop (fun base q => M.Operates first base q) operates fun base q operates => ?_
  refine look_then ?_
  split
  · exact .pure ⟨operates, fun _ => ‹_›⟩
  · rename_i kind here
    -- A level is opened first.  In strict mode it is allowed, so the round goes on.
    refine deepen_then fun ok r still allowed => ?_
    have made := operates.made.behind (M.still still)
    have operand (strict : setting.mode = .strict) : first.Operand setting M.Made base r :=
      (operates.operand strict).place still.samePlace
    rw [← still.samePlace.token] at here
    refine .ite (fun denied => .pure ⟨⟨made, operand⟩, fun strict => ?_⟩) fun _ => ?_
    -- A round without a level leaves the loop, which only a loose parse does.
    · rw [allowed strict] at denied
      cases denied
    refine (subscript_ensures made here).bind
      fun shape r ⟨ns, made, covers, filled, plain, grew, other, lawful⟩ => ?_
    have law : M.Bound false first (openedAt first.situation.token.span.start) first shape r :=
      bound_inherited fun strict => lawful ((operand strict).subscripted here)
    refine (begun_inherited.closeLawful made covers plain law fun h => ?_).bind
      fun whole s ⟨made, closes⟩ => .pure ⟨made, fun _ => ?_⟩
    · rcases h with call | ⟨-, none⟩
      · exact grew call
      · exact absurd none filled
    · exact Progress.operand_of_plain (congrArg Shape.isPlain closes.shape ▸ other)

/-! ## Operands -/

/-- `=>` stands on the line of what is in front of it. -/
def StandsArrow (p : Progress σ) : Prop :=
  p.situation.token.isPunctuator .arrow = true ∧ p.situation.token.newlineBefore = false

/-- The token is an arrow on the line of what is in front of it. -/
theorem standsArrow_of_isAtArrow
    (h : (p.situation.token.isPunctuator .arrow && !p.situation.token.newlineBefore) = true) :
    StandsArrow p := by
  rw [Bool.and_eq_true, Bool.not_eq_true'] at h
  exact h

/-- An arrow function is made of its parameters and its body. -/
theorem arrowBody_ensures {params : List Node} (made : M.Made p params q) (here : StandsArrow q) :
    M.Ensures (arrowBody (openedAt p.situation.token.span.start) params) q (M.Operates p) := by
  -- Whatever the body is, the node is closed over the parameters and the body.
  have close {body : Node} {isExpression : Bool} {r : Progress σ}
      (behind : M.Made (q.taken setting) [body] r)
      (ends : setting.mode = .strict → isExpression = false ∨
        (q.taken setting).EndsAssignment setting M.Made false r) :
      M.Ensures (closeNode (openedAt p.situation.token.span.start)
        (.arrowFunctionExpression params body isExpression)) r (M.Operates p) := by
    have law : M.Bound false p (openedAt p.situation.token.span.start) p
        (.arrowFunctionExpression params body isExpression) r :=
      bound_inherited fun _ => ⟨q, made, here, behind⟩
    have taken := made.behind (M.taken q)
    -- An arrow function is no operation; it reaches to the end of its body, and an expression
    -- there ends as an assignment does.
    refine (begun_inherited.closeLawfulOver (M.append taken behind) ⟨rfl, rfl⟩ ⟨rfl, rfl, rfl⟩ law
      rfl (by simp)).mono fun n s ⟨whole, closes⟩ => ⟨whole, fun strict => ⟨?_, fun operation => ?_,
        fun _ => .inr ⟨?_, ?_⟩⟩⟩
    · rw [closes.shape]
      rfl
    · rw [Node.binaryOperator?, closes.shape] at operation
      cases operation
    · rw [closes.span, closes.situation]
    · rw [Node.isBlockArrow, closes.shape]
      refine (ends strict).imp (fun block => ?_) fun ends => ?_
      · rw [block]
        rfl
      · exact (ends.after (reaches_of_made taken)).place closes.samePlace
  refine expect_here here.1 ?_
  refine look_then ?_
  refine .ite (fun _ => ?_) fun _ => ?_
  · exact (functionBody_makes _).bind fun body r behind => close behind fun _ => .inl rfl
  · exact (assignment_ensures false).bind fun body r assigns =>
      close assigns.made fun strict => .inr (assigns.ends strict)

/-- A leaf is plain if its shape is. -/
theorem leaf_plainly {shape : Shape Node} (plain : shape.isPlain = true) :
    M.Plainly (leaf shape) :=
  .bind fun _ => .bind fun _ => plainly_close plain

/-- So is what stands for missing text. -/
theorem missing_plainly : M.Plainly missing := .bind fun _ => fun _ _ _ _ => rfl

/-- So is a name. -/
theorem identifier_plainly : M.Plainly identifier := by
  refine .bind fun t => ?_
  split
  · exact leaf_plainly rfl
  · exact missing_plainly

/-- A name is an operand, and so is an arrow function with one parameter. -/
theorem nameOrArrow_ensures : M.Ensures nameOrArrow p (M.Operates p) := by
  refine look_then ?_
  refine (identifier_plainly.operates (identifier_makes p)).bind fun name q operates => ?_
  refine look_then ?_
  exact .ite (fun arrow => arrowBody_ensures operates.made (standsArrow_of_isAtArrow arrow))
    fun _ => .pure operates

/-- An array makes its elements. -/
theorem array_makes : M.Makes array := by
  intro p
  refine openNode_then fun o q begun _ => ?_
  refine take_then ?_
  refine (elements_makes _ spreadOrAssignment_makes _).bind fun found r made => ?_
  exact closeExpected (begun.behind (M.taken q)) made.holes ⟨rfl, rfl⟩ rfl rfl

/-- A method makes a function. -/
theorem methodFunction_plainly : M.Plainly methodFunction :=
  .bind fun _ => .bind fun _ => .bind fun _ => plainly_close rfl

/-- The value behind a key is no pattern, but for a default. -/
def Enters (rest : PropertyRest) : Prop :=
  rest.value.shape.isPattern = false ∨
    rest.kind = .init ∧ rest.computed = false ∧ rest.shorthand = true ∧ rest.isMethod = false ∧
      rest.key.Defaults rest.value

/-- A property behind its name.  The word in front of the name of an accessor is
    dropped. -/
theorem propertyRest_ensures {key : Node} {computed : Bool}
    (opens : first.Opens setting true o p) (made : M.Made p [key] q)
    (on : setting.mode = .strict → computed = false → p.OnToken key q) :
    M.Ensures (propertyRest key computed) q fun rest r =>
      Halves M p rest.key rest.value rest.shorthand r ∧ (setting.mode = .strict → Enters rest) := by
  -- A method behind any keys makes its function and nothing else.
  have method {keys : List Node} {r : Progress σ} (made : M.Made p keys r) :
      M.Ensures methodFunction r fun value s => M.Made p (keys ++ [value]) s ∧
        value.shape.isPattern = false :=
    ((methodFunction_makes r).both (methodFunction_plainly r)).mono fun value s h =>
      ⟨M.append made h.1, (Shape.of_isPlain h.2).2⟩
  refine look_then ?_
  simp only
  split
  -- The key was `get` or `set`: it is dropped, and the next name is the key.
  · rename_i kind accessor
    obtain ⟨plain, named, -⟩ := name_of_accessor accessor
    rw [Bool.or_eq_true, not_or] at plain
    have word : p.Word setting M.Made key q :=
      ⟨made, named, fun strict => on strict (Bool.eq_false_iff.mpr plain.1)⟩
    refine propertyName_ensures.bind ?_
    rintro ⟨name, nameComputed⟩ r ⟨next, -⟩
    exact (method (M.word opens word next)).bind fun value s ⟨made, plain⟩ =>
      .pure ⟨made, fun _ => .inl plain⟩
  · refine .ite (fun _ => ?_) fun _ => eat_then (fun _ => ?_) fun _ => .ite (fun name => ?_) ?_
    · exact (method made).bind fun value r ⟨made, plain⟩ => .pure ⟨made, fun _ => .inl plain⟩
    · exact (assignment_ensures false).bind fun value r assigns => .pure
        ⟨M.append (made.behind (M.taken q)) assigns.made,
          fun strict => .inl (assigns.expression strict)⟩
    -- Without a value, the key stands for it, perhaps with a default.
    · refine shorthand_ensures made on name fun value r halves which => .pure ⟨halves, fun _ => ?_⟩
      rw [Bool.and_eq_true, Bool.not_eq_true'] at name
      exact which.imp_right fun defaults => ⟨rfl, name.1, rfl, rfl, defaults⟩
    · exact fun _ => missing_ensures.bind fun value r ⟨loose, next⟩ => .pure
        ⟨M.append made next, absurd_strict loose⟩

/-- A property makes its key and its value, and is an entry. -/
theorem objectProperty_ensures : M.Ensures objectProperty p fun n q =>
    M.Made p [n] q ∧ (setting.mode = .strict → n.IsEntry) := by
  refine openNode_opens fun o q opens _ _ => ?_
  refine propertyName_ensures.bind ?_
  rintro ⟨key, computed⟩ r ⟨made, on⟩
  refine (propertyRest_ensures opens made on).bind fun rest s ⟨halves, enters⟩ => ?_
  exact ((closeProperty_ensures opens halves).both closeNode_closed).mono fun n t ⟨made, closes⟩ =>
    ⟨made, fun strict => ⟨_, _, _, _, _, _, closes.shape, enters strict⟩⟩

/-- An object makes its properties. -/
theorem object_makes : M.Makes object := by
  intro p
  refine openNode_then fun o q begun _ => ?_
  refine take_then ?_
  refine (items_ensures _ _ fun _ => objectProperty_ensures).bind fun found r ⟨made, entries⟩ => ?_
  have law (s : Progress σ) : M.Bound true p o (q.taken setting) (.objectExpression found) s :=
    fun strict _ _ _ x hx => entries x hx strict
  exact closeExpectedLawful (begun.behind (M.taken q)) made ⟨rfl, rfl⟩ rfl ⟨rfl, rfl, rfl⟩ law

/-- No item between parentheses is a pattern, unless one of them takes the rest. -/
def HoldsExpressions (setting : Setting σ) (found : List Node) (hasRest : Bool) : Prop :=
  setting.mode = .strict → hasRest = false → ∀ n ∈ found, n.shape.isPattern = false

/-- Items that are no rest are expressions. -/
theorem HoldsExpressions.push {found : Array Node} {item : Node} {hasRest isRest : Bool}
    (h : HoldsExpressions setting found.toList hasRest)
    (this : setting.mode = .strict → isRest = false → item.shape.isPattern = false) :
    HoldsExpressions setting (found.push item).toList (hasRest || isRest) := by
  intro strict none
  rw [Bool.or_eq_false_iff] at none
  rw [Array.toList_push]
  exact List.forall_mem_append.mpr ⟨h strict none.1, fun n hn =>
    List.mem_singleton.mp hn ▸ this strict none.2⟩

/-- Behind an item the list goes on at a comma. -/
theorem parenthesizedTurn_ensures {found : Array Node} {hasRest : Bool} {before : Nat}
    (made : M.Made p found.toList q) (known : HoldsExpressions setting found.toList hasRest) :
    M.Ensures (parenthesizedTurn found hasRest before) q
      (Turned (fun found r => M.Made p found.1.toList r ∧
          HoldsExpressions setting found.1.toList found.2)
        fun found r => M.Made p found.1 r ∧ HoldsExpressions setting found.1 found.2) := by
  refine look_then ?_
  refine .ite (fun _ => .pure ⟨made, known⟩) fun _ => ?_
  exact eat_then (fun _ => .pure ⟨made.behind (M.taken q), known⟩) fun _ => .pure ⟨made, known⟩

/-- What stands in parentheses is made, and holds expressions but for a rest. -/
theorem parenthesized_ensures : M.Ensures parenthesized p fun found q =>
    M.Made p found.1 q ∧ HoldsExpressions setting found.1 found.2 := by
  rw [parenthesized_eq]
  refine .loop (fun found q => M.Made p found.1.toList q ∧
    HoldsExpressions setting found.1.toList found.2) ⟨made_refl p, nofun⟩ ?_
  intro state q ⟨made, known⟩
  have pushed {item : Node} {r : Progress σ} (next : M.Made q [item] r) :
      M.Made p (state.1.push item).toList r :=
    (M.append made next).of_eq Array.toList_push.symm
  refine look_then ?_
  refine .ite (fun _ => .pure ⟨made, known⟩) fun _ => ?_
  refine look_then ?_
  refine look_then ?_
  refine .ite (fun takes => ?_) fun _ => ?_
  -- A rest is followed by no further item, so it has to be known only that it is one.
  · refine (restElement_makes q).bind fun item r next => ?_
    refine parenthesizedTurn_ensures (pushed next) (known.push fun _ none => ?_)
    rw [takes] at none
    cases none
  · refine (assignment_ensures false).bind fun item r assigns => ?_
    exact parenthesizedTurn_ensures (pushed assigns.made)
      (known.push fun strict _ => assigns.expression strict)

/-- Parentheses give an expression, a sequence or the parameters of an arrow function. -/
theorem parenOrArrow_ensures (opens : p.situation.token.isPunctuator .openParen = true) :
    M.Ensures parenOrArrow p (M.Operates p) := by
  refine look_then ?_
  refine take_then ?_
  refine look_then ?_
  refine parenthesized_ensures.bind ?_
  rintro ⟨found, hasRest⟩ r ⟨made, known⟩
  have inside := M.append (M.taken p) made
  refine look_then ?_
  refine (expect_closes _).bind fun _ s ⟨on, closes⟩ => ?_
  refine look_then ?_
  refine .ite (fun arrow => ?_) ?_
  -- In front of an arrow the expressions were parameters all along.
  · refine (asPatterns_ensures found).bind fun params t ⟨same, still⟩ => ?_
    subst same still
    exact arrowBody_ensures (M.reinterpreted (inside.behind on)) (standsArrow_of_isAtArrow arrow)
  refine fun _ => unexpectedIf_then fun missing => ?_
  split
  · exact (placeholder_ensures (missing rfl)).mono fun n t next =>
      ⟨M.append (inside.behind on) next, absurd_strict (missing rfl)⟩
  · rename_i only
    have enclosed (strict : setting.mode = .strict) : p.Enclosed setting M.Made only s := by
      obtain ⟨last, next⟩ := closes strict
      refine ⟨opens, r, made, last, ?_⟩
      rw [next, Situation.previousEnd_taken (Token.isEnd_of_isPunctuator last)]
    have expression (strict : setting.mode = .strict) : only.shape.isPattern = false := by
      refine known strict (Bool.eq_false_iff.mpr fun (takes : hasRest = true) => ?_) only
        (List.mem_singleton_self only)
      exact absurd_strict (missing (by rw [takes, Bool.or_true])) strict
    exact .pure ⟨inside.behind on, fun strict => ⟨expression strict, fun _ => enclosed strict,
      fun _ => .inl (enclosed strict)⟩⟩
  -- A sequence reaches from behind the parenthesis to the one that closes it.
  · refine closeNodeAt_ensures ⟨M.append (M.taken p) (M.closed .inherited
      ⟨made, on, .inr ⟨rfl, closes⟩, ⟨rfl, rfl⟩, rfl, nofun, fun h => ?_, nofun⟩
      fun _ => Progress.lawful_of_free rfl _ _), fun _ => Progress.operand_of_plain rfl⟩
    rcases h with call | ⟨-, none⟩
    · cases call
    · exact absurd none ‹_›

/-- A call of `new` takes that word. -/
theorem newObject_ensures (goes : p.situation.token.isEnd = false) :
    M.Ensures newObject p fun n q => M.Made p [n] q := by
  refine openNode_then fun o q begun same => ?_
  refine take_then ?_
  refine look_then ?_
  refine atom_ensures.bind fun base r operates => ?_
  refine (subscripts_ensures operates).bind fun callee s subscribes => ?_
  have close {arguments : List Node} {t : Progress σ}
      (made : M.Made (q.taken setting) (callee :: arguments) t) :
      M.Ensures (closeNode o (.newExpression callee arguments)) t fun n u => M.Made p [n] u := by
    refine (begun.behind (M.taken q)).close made ⟨rfl, rfl⟩ rfl fun _ => ?_
    exact Nat.lt_of_lt_of_le (lt_taken_of_same goes same) (M.forward made)
  refine look_then ?_
  refine .ite (fun _ => ?_) fun _ => close subscribes.made
  exact callArguments_ensures.bind fun arguments t ⟨next, _⟩ =>
    close (M.append subscribes.made next)

/-! ### Other operands

    What is made by the other rules for operands is no operation, whatever stands in
    it. -/

/-- A literal is plain. -/
theorem literal_plainly : M.Plainly literal := by
  refine .bind fun s => ?_
  split
  · exact leaf_plainly rfl
  · exact missing_plainly

/-- A literal is an operand. -/
theorem literal_operates : M.Ensures literal p (M.Operates p) :=
  literal_plainly.operates (literal_makes p)

/-- So is a function. -/
theorem functionRest_plainly (o : Opened) : M.Plainly (functionRest o false) :=
  .bind fun _ => .bind fun _ => .bind fun _ => plainly_close rfl

theorem function_plainly (o : Opened) : M.Plainly (function o false) := by
  rw [function_eq]
  refine .bind fun _ => .bind fun _ => .ite ?_ (functionRest_plainly o)
  exact .bind fun _ => .bind fun _ => functionRest_plainly o

/-- So is a class. -/
theorem classRest_plainly (o : Opened) (name superClass : Option Node) :
    M.Plainly (classRest o false name superClass) :=
  .bind fun _ => .bind fun _ => .bind fun _ => .bind fun _ => .bind fun _ => plainly_close rfl

theorem classPhrase_plainly (o : Opened) : M.Plainly (classPhrase o false) := by
  rw [classPhrase_eq]
  refine .bind fun _ => .bind fun name => .bind fun _ => .ite ?_ (classRest_plainly o name none)
  exact .bind fun _ => .bind fun _ => .bind fun _ => classRest_plainly o name _

/-- So is what is made by `new`. -/
theorem newObject_plainly : M.Plainly newObject := by
  refine .bind fun _ => .bind fun _ => .bind fun _ => ?_
  refine .bind fun _ => .bind fun _ => .bind fun _ => ?_
  exact .ite (.bind fun _ => plainly_close rfl) (plainly_close rfl)

/-- A template is plain. -/
theorem template_plainly : M.Plainly template :=
  .bind fun _ => .bind fun _ => plainly_close rfl

/-- An array is plain. -/
theorem array_plainly : M.Plainly array :=
  .bind fun _ => .bind fun _ => .bind fun _ => .bind fun _ => plainly_close rfl

/-- An object is plain. -/
theorem object_plainly : M.Plainly object :=
  .bind fun _ => .bind fun _ => .bind fun _ => .bind fun _ => plainly_close rfl

/-- Operands that begin with a word. -/
theorem wordAtom_ensures (word : Keyword) (goes : p.situation.token.isEnd = false) :
    M.Ensures (wordAtom word) p (M.Operates p) := by
  have single {shape : Shape Node} (leaf : IsLeaf shape) (wordless : shape.quoted? = none) :
      M.Ensures (Grammar.leaf shape) p fun n q => M.Made p [n] q :=
    (leaf_ensures goes leaf (by simp [wordless])).mono fun _ _ h => h.1
  cases word with
  | thisWord => exact (leaf_plainly rfl).operates (single ⟨⟨rfl, rfl⟩, rfl, rfl, rfl⟩ rfl)
  | superWord => exact (leaf_plainly rfl).operates (single ⟨⟨rfl, rfl⟩, rfl, rfl, rfl⟩ rfl)
  | trueWord => exact literal_operates
  | falseWord => exact literal_operates
  | nullWord => exact literal_operates
  | functionWord =>
      exact Plainly.operates (.bind function_plainly)
        (openNode_then fun o q begun _ => function_ensures begun false)
  | classWord =>
      exact Plainly.operates (.bind classPhrase_plainly)
        (openNode_then fun o q begun _ => classPhrase_ensures begun false)
  | newWord => exact newObject_plainly.operates (newObject_ensures goes)
  | _ => exact missing_plainly.operates (missing_makes p)

/-- All operands. -/
theorem atomRule_ensures : M.Ensures atomRule p (M.Operates p) := by
  refine look_then ?_
  split
  · rename_i word kind
    exact wordAtom_ensures word (Token.isEnd_eq_false kind (by simp))
  · exact nameOrArrow_ensures
  · exact literal_operates
  · exact literal_operates
  · exact literal_operates
  · exact template_plainly.operates (template_makes p)
  · rename_i kind
    exact parenOrArrow_ensures (by rw [Token.isPunctuator, kind]; rfl)
  · exact array_plainly.operates (array_makes p)
  · exact object_plainly.operates (object_makes p)
  · exact missing_plainly.operates (missing_makes p)

end ScriptTree.Grammar

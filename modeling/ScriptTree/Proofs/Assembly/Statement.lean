import ScriptTree.Proofs.Assembly.Expression

/-! # What statements and programs make

    Statements are closed over what stands in them, in the order of the text.  With
    them every nonterminal is known, so every parse makes what its rule makes, and a
    program is closed over the statements that were made between the start and the
    end of the text. -/

namespace ScriptTree

namespace Grammar

open Assembly
open Rule (Turn)

variable {σ : Type} {setting : Setting σ} {M : Assembly setting} {p q r : Progress σ}
  {ns : List Node} {o : Opened}

/-- A block makes its statements. -/
theorem blockRule_makes : M.Makes blockRule := by
  intro p
  refine openNode_then fun o q begun same => ?_
  refine ((expect_ensures _).both (expect_closes _)).bind fun _ r ⟨⟨on, grew⟩, _, opens⟩ => ?_
  refine (statementsUntil_ensures _).bind fun body s ⟨series, _⟩ => ?_
  refine (expect_closes _).bind fun _ t ⟨behind, closes⟩ => ?_
  have law : M.Bound true p o q (.blockStatement body) t :=
    bound_here fun strict between place _ => by
      obtain ⟨brace, next⟩ := opens strict
      rw [same, ← place] at brace next
      exact ⟨brace, r, s, next, series, closes strict⟩
  exact begun.closeSeries on series behind ⟨rfl, rfl⟩ rfl law fun strict =>
    Nat.lt_of_le_of_lt begun.forward (grew (.inl strict))

/-- Parentheses make the expression in them. -/
theorem parenExpression_makes : M.Makes parenExpression := by
  intro p
  refine (made_refl p).pass (expect_passes _) fun _ q made => ?_
  refine made.then (expression_makes false) fun inner r made => ?_
  exact made.pass (expect_passes _) fun _ s made => .pure made

/-! ## Declarations -/

/-- A declaration is closed over its target and its value, and goes on at a comma. -/
theorem declaratorTurn_ensures {found : Array Node} {id : Node} {init : Option Node}
    (made : M.Made p found.toList q) (begun : M.Begun true q o r)
    (parts : M.Made r (id :: init.toList) s) :
    M.Ensures (declaratorTurn o found id init) s
      (Turned (fun found t => M.Made p found.toList t)
        fun found t => M.Made p found t ∧ found ≠ []) := by
  refine (begun.closeOver parts ⟨rfl, rfl⟩ rfl rfl (by simp)).bind fun n t next => ?_
  have pushed : M.Made p (found.push n).toList t :=
    (M.append made next).of_eq Array.toList_push.symm
  exact eat_then (fun _ => .pure (pushed.behind (M.taken t)))
    fun _ => .pure ⟨pushed, by simp⟩

/-- A declaration makes at least one variable. -/
theorem declarators_ensures (noIn : Bool) : M.Ensures (declarators noIn) p fun found q =>
    M.Made p found q ∧ found ≠ [] := by
  rw [declarators_eq]
  refine .loop (fun found q => M.Made p found.toList q) (made_refl p) fun found q made => ?_
  refine openNode_then fun o r begun _ => (bindingTarget_makes r).bind fun id s parts => ?_
  refine eat_then (fun _ => ?_) fun _ => declaratorTurn_ensures made begun parts
  refine (parts.behind (M.taken s)).then (assignment_makes noIn) fun init t parts => ?_
  exact declaratorTurn_ensures made begun parts

/-- A statement is closed behind its semicolon, or where one may be left out. -/
theorem closeEnded {shape : Shape Node} (begun : M.Begun true p o q) (made : M.Made q ns r)
    (covers : shape.Covers ns) (noCall : shape.isCall = false) (plain : shape.Plain true)
    (grew : setting.mode = .strict → ns = [] → p.situation.consumed < q.situation.consumed)
    (lawful : ∀ between s : Progress σ, between.situation = p.situation →
      between.Ended setting M.Made s → between.Lawful setting M.Made shape s) :
    M.Ensures (semicolon >>= fun _ => closeNode o shape) r fun n s => M.Made p [n] s := by
  refine semicolon_ensures.bind fun _ s ⟨on, ended⟩ => ?_
  have law : M.Bound true p o q shape s := bound_here fun strict between same reach =>
    lawful between s same ((ended strict).imp_left (.after (reach.trans (reaches_of_made made))))
  refine (begun.closeLawful (made.behind on) covers plain law fun h => ?_).mono fun _ _ h => h.1
  rcases h with call | ⟨strict, none⟩
  · rw [noCall] at call
    cases call
  · exact Nat.lt_of_lt_of_le (grew strict none) (M.forward (made.behind on))

/-- A declaration of variables makes a node around them. -/
theorem variableStatement_makes (kind : BindingKind) : M.Makes (variableStatement kind) := by
  intro p
  refine openNode_then fun o q begun _ => ?_
  refine take_then ?_
  refine (declarators_ensures false).bind fun found r ⟨made, filled⟩ => ?_
  exact closeEnded (begun.behind (M.taken q)) made ⟨rfl, rfl⟩ rfl ⟨rfl, rfl, rfl⟩
    (fun _ none => absurd none filled) fun _ _ _ ended => ended

/-! ## Control flow -/

/-- An `if` makes its test and its statements. -/
theorem ifStatement_makes : M.Makes ifStatement := by
  intro p
  refine openNode_then fun o q begun _ => ?_
  refine take_then ?_
  refine (parenExpression_makes _).bind fun test r made => ?_
  refine made.then statement_makes fun consequent s made => ?_
  replace begun := begun.behind (M.taken q)
  refine eatWord_then (fun _ => ?_) fun _ => ?_
  · refine (made.behind (M.taken s)).then statement_makes fun alternate t made => ?_
    exact begun.closeOver made ⟨rfl, rfl⟩ rfl rfl (by simp)
  · exact begun.closeOver made ⟨rfl, rfl⟩ rfl rfl (by simp)

/-- A part that is left out where a mark stands. -/
theorem optional_then {α : Type} {c : Prop} [Decidable c] {part : Rule Node}
    {f : Option Node → Rule α} {post : α → Progress σ → Prop} (made : M.Made p ns q)
    (h : M.Makes part) (k : ∀ x r, M.Made p (ns ++ x.toList) r → M.Ensures (f x) r post) :
    M.Ensures (if c then Pure.pure none >>= f else part >>= fun n => Pure.pure (some n) >>= f)
      q post := by
  refine .ite (fun _ => k none q (made.of_eq (List.append_nil ns).symm)) fun _ => ?_
  exact made.then h fun n r made => k (some n) r made

/-- A loop is closed over what stands in its head and what comes behind. -/
theorem forRest_ensures {init : Option Node}
    (close : ∀ {test update : Option Node} {body : Node} {s : Progress σ},
      M.Made r (test.toList ++ update.toList ++ [body]) s →
        M.Ensures (closeNode o (.forStatement init test update body)) s fun n t => M.Made p [n] t) :
    M.Ensures (forRest o init) r fun n s => M.Made p [n] s := by
  refine (made_refl r).pass (expect_passes _) fun _ s made => ?_
  refine look_then ?_
  refine optional_then made (expression_makes false) fun test t made => ?_
  refine made.pass (expect_passes _) fun _ u made => ?_
  refine look_then ?_
  refine optional_then made (expression_makes false) fun update v made => ?_
  refine made.pass (expect_passes _) fun _ w made => ?_
  exact made.then statement_makes fun body x made => close made

/-- A loop over something makes what stands on the right and its body. -/
theorem forEach_ensures {left : Node}
    (close : ∀ {right body : Node} {s : Progress σ} (isOf : Bool), M.Made r [right, body] s →
      M.Ensures (closeNode o
        (if isOf then .forOfStatement left right body else .forInStatement left right body)) s
        fun n t => M.Made p [n] t) :
    M.Ensures (forEach o left) r fun n s => M.Made p [n] s := by
  rw [forEach_eq]
  refine look_then ?_
  refine take_then ?_
  have rest {right : Node} {s : Progress σ} (isOf : Bool) (made : M.Made r [right] s) :
      M.Ensures (forEachBody o isOf left right) s fun n t => M.Made p [n] t := by
    refine made.pass (expect_passes _) fun _ t made => ?_
    exact made.then statement_makes fun body u made => close isOf made
  refine .ite (fun _ => ?_) fun _ => ?_
  · exact (M.taken r).then (assignment_makes false) fun right s made => rest _ made
  · exact (M.taken r).then (expression_makes false) fun right s made => rest _ made

/-- A declaration in the head of a loop is closed before the loop goes on. -/
theorem forStatement_makes : M.Makes forStatement := by
  intro p
  refine openNode_opens fun o q opens _ _ => ?_
  refine take_then ?_
  refine (M.taken q).pass (expect_passes _) fun _ r between => ?_
  have begun : M.Begun true p o r := ⟨q, opens, between⟩
  refine look_then ?_
  -- Neither a declaration nor an expression stands in front of the first semicolon.
  refine .ite (fun _ => forRest_ensures fun made => ?_) fun _ => ?_
  · exact begun.closeOver made ⟨rfl, rfl⟩ rfl rfl (by simp)
  refine look_then ?_
  split
  -- A declaration is closed before it is known which loop it heads.
  · rename_i kind _
    refine openNode_opens fun od s declared _ _ => ?_
    refine take_then ?_
    refine (declarators_ensures true).bind fun found t ⟨made, filled⟩ => ?_
    replace made := M.append (M.taken s) made
    let declaration := t.closeAt setting od (.variableDeclaration kind found)
      t.situation.previousEnd
    have close {shape : Shape Node} {rest : List Node} {u : Progress σ}
        (behind : M.Made declaration.2 rest u) (covers : shape.Covers (declaration.1 :: rest))
        (headed : shape.HeadedBy declaration.1) :
        M.Ensures (closeNode o shape) u fun n v => M.Made p [n] v :=
      closeNodeAt_ensures (M.headed opens between declared made filled behind covers headed)
    have closes : M.Ensures (closeNode od (.variableDeclaration kind found)) t
        fun n u => n = declaration.1 ∧ u = declaration.2 :=
      closeNodeAt_ensures ⟨rfl, rfl⟩
    refine closes.bind fun init u ⟨named, there⟩ => ?_
    subst named there
    refine look_then ?_
    refine .ite (fun _ => forEach_ensures fun isOf behind => ?_) fun _ =>
      forRest_ensures fun behind => close behind ⟨rfl, rfl⟩ .counted
    cases isOf with
    | true => exact close behind ⟨rfl, rfl⟩ .elements
    | false => exact close behind ⟨rfl, rfl⟩ .members
  -- An expression becomes a pattern if the loop goes over something.
  · refine (expression_makes true r).bind fun init s made => ?_
    refine look_then ?_
    refine .ite (fun _ => ?_) fun _ => forRest_ensures fun behind => ?_
    · refine (reinterpreted_ensures made).bind fun left t made => forEach_ensures
        fun isOf behind => ?_
      cases isOf with
      | true => exact begun.closeOver (M.append made behind) ⟨rfl, rfl⟩ rfl rfl (by simp)
      | false => exact begun.closeOver (M.append made behind) ⟨rfl, rfl⟩ rfl rfl (by simp)
    · exact begun.closeOver (M.append made behind) ⟨rfl, rfl⟩ rfl rfl (by simp)

/-- A `while` makes its test and its body. -/
theorem whileStatement_makes : M.Makes whileStatement := by
  intro p
  refine openNode_then fun o q begun _ => ?_
  refine take_then ?_
  refine (parenExpression_makes _).bind fun test r made => ?_
  refine made.then statement_makes fun body s made => ?_
  exact (begun.behind (M.taken q)).closeOver made ⟨rfl, rfl⟩ rfl rfl (by simp)

/-- A `do` makes its body and its test. -/
theorem doWhileStatement_makes : M.Makes doWhileStatement := by
  intro p
  refine openNode_then fun o q begun _ => ?_
  refine take_then ?_
  refine (statement_makes _).bind fun body r made => ?_
  refine made.pass (expectWord_passes _) fun _ s made => ?_
  refine made.then parenExpression_makes fun test t made => ?_
  have close {u : Progress σ} (made : M.Made (q.taken setting) [body, test] u) :
      M.Ensures (closeNode o (.doWhileStatement body test)) u fun n v => M.Made p [n] v :=
    (begun.behind (M.taken q)).closeOver made ⟨rfl, rfl⟩ rfl rfl (by simp)
  exact tested_then (·.isPunctuator .semicolon) (fun _ => close (made.behind (M.taken t)))
    fun _ => close made

/-- A statement that begins with a word goes on behind it on the same line. -/
theorem restricted_of_same {word : Keyword} {argument : Option Node} {between : Progress σ}
    (here : p.situation.token.isKeyword word = true)
    (line : argument.isSome = true → p.situation.taken.token.newlineBefore = false)
    (same : between.situation = p.situation) : between.Restricted word argument := by
  rw [Progress.Restricted, same]
  exact ⟨here, line⟩

/-- A `return` makes its argument, if that is on the line of the word. -/
theorem returnStatement_ensures (here : p.situation.token.isKeyword .returnWord = true) :
    M.Ensures returnStatement p fun n q => M.Made p [n] q := by
  rw [returnStatement_eq]
  refine openNode_then fun o q begun same => ?_
  have grew : p.situation.consumed < (q.taken setting).situation.consumed :=
    lt_taken_of_same (Token.isEnd_of_isKeyword here) same
  have next : (q.taken setting).situation = p.situation.taken := by
    rw [Progress.situation_taken, same]
  refine look_then ?_
  -- Whether the statement has ended or not is asked once; both answers are dealt with here.
  have answer {r : Progress σ} (ended : Bool) (made : M.Made (q.taken setting) [] r)
      (finished : ended = true → (q.taken setting).Ended setting M.Made r)
      (line : ended = false → p.situation.taken.token.newlineBefore = false) :
      M.Ensures (returnValue o ended) r fun n s => M.Made p [n] s := by
    have taken := begun.behind (M.taken q)
    refine .ite (fun yes => ?_) fun no => ?_
    -- Without an argument the law is about the end only.
    · have law : M.Bound true p o (q.taken setting) (.returnStatement none) r :=
        bound_here fun _ between same reach =>
          ⟨(finished yes).imp_left (.after reach), restricted_of_same here nofun same⟩
      exact (taken.closeLawful made ⟨rfl, rfl⟩ ⟨rfl, rfl, rfl⟩ law fun _ =>
        Nat.lt_of_lt_of_le grew (M.forward made)).mono fun _ _ h => h.1
    · refine (made.then (expression_makes false) fun argument s made => ?_)
      exact closeEnded taken made ⟨rfl, rfl⟩ rfl ⟨rfl, rfl, rfl⟩ (by simp) fun _ _ same ended =>
        ⟨ended, restricted_of_same here (fun _ => line (Bool.eq_false_iff.mpr no)) same⟩
  have rest : M.Ensures (returnRest o) (q.taken setting) fun n r => M.Made p [n] r := by
    refine eat_then (fun mark => ?_) fun _ => look_then ?_
    · exact answer true (M.taken _)
        (fun _ => .inl (.taken (Token.isEnd_of_isPunctuator mark) mark)) nofun
    · refine answer _ (made_refl _) .inr fun no => ?_
      rw [← next]
      exact (Bool.or_eq_false_iff.mp no).2
  exact .ite (fun _ => take_then rest) fun _ => complain_then fun _ => take_then rest

/-- A label stands on the line of the word. -/
theorem jumpLabel_ensures : M.Ensures jumpLabel p fun label q => M.Made p label.toList q ∧
    (label.isSome = true → p.situation.token.newlineBefore = false) := by
  refine look_then ?_
  refine .ite (fun named => ?_) fun _ => .pure ⟨made_refl p, nofun⟩
  rw [Bool.and_eq_true, Bool.not_eq_true'] at named
  exact (identifier_makes p).bind fun label q made => .pure ⟨made, fun _ => named.2⟩

/-- A `break` or `continue` makes its label, if that is on the line of the word. -/
theorem jumpStatement_ensures {shape : Option Node → Shape Node} {word : Keyword}
    (here : p.situation.token.isKeyword word = true)
    (covers : ∀ label, (shape label).Covers label.toList)
    (noCall : ∀ label, (shape label).isCall = false)
    (plain : ∀ label, (shape label).Plain true)
    (lawful : ∀ label (between s : Progress σ), between.Ended setting M.Made s →
      between.Restricted word label → between.Lawful setting M.Made (shape label) s) :
    M.Ensures (jumpStatement shape) p fun n q => M.Made p [n] q := by
  refine openNode_then fun o q begun same => ?_
  refine take_then ?_
  refine jumpLabel_ensures.bind fun label r ⟨made, line⟩ => ?_
  rw [Progress.situation_taken, same] at line
  refine closeEnded (begun.behind (M.taken q)) made (covers label) (noCall label) (plain label)
    (fun _ _ => lt_taken_of_same (Token.isEnd_of_isKeyword here) same)
    fun between s stands ended => ?_
  exact lawful label between s ended (restricted_of_same here line stands)

/-- A `throw` makes its argument. -/
theorem throwStatement_ensures (here : p.situation.token.isKeyword .throwWord = true) :
    M.Ensures throwStatement p fun n q => M.Made p [n] q := by
  rw [throwStatement_eq]
  refine openNode_then fun o q begun same => ?_
  refine take_then ?_
  refine look_then ?_
  have next : (q.taken setting).situation = p.situation.taken := by
    rw [Progress.situation_taken, same]
  have rest (line : setting.mode = .strict → p.situation.taken.token.newlineBefore = false) :
      M.Ensures (throwRest o) (q.taken setting) fun n r => M.Made p [n] r := by
    refine (expression_makes false _).bind fun argument r made => ?_
    refine semicolon_ensures.bind fun _ s ⟨on, ended⟩ => ?_
    have law : M.Bound true p o (q.taken setting) (.throwStatement argument) s :=
      bound_here fun strict between stands reach =>
        ⟨(ended strict).imp_left (.after (reach.trans (reaches_of_made made))),
          restricted_of_same here (fun _ => line strict) stands⟩
    exact ((begun.behind (M.taken q)).closeLawfulOver (made.behind on) ⟨rfl, rfl⟩ ⟨rfl, rfl, rfl⟩
      law rfl (by simp)).mono fun _ _ h => h.1
  refine .ite (fun _ => complain_then fun loose => rest (absurd_strict loose)) fun none =>
    rest fun _ => ?_
  rw [← next]
  exact Bool.eq_false_iff.mpr none

/-- A `catch` makes its parameter and its block. -/
theorem catchClause_makes : M.Makes catchClause := by
  intro p
  refine openNode_then fun o q begun _ => ?_
  refine take_then ?_
  refine (begun.behind (M.taken q)).pass (expect_passes _) fun _ r begun => ?_
  refine (bindingTarget_makes r).bind fun param s made => ?_
  refine made.pass (expect_passes _) fun _ t made => made.then block_makes fun body u made => ?_
  exact begun.closeOver made ⟨rfl, rfl⟩ rfl rfl (by simp)

/-- A `try` makes its blocks.  The ways to end differ in whether there are a handler and a last
    block. -/
theorem tryEnd_ensures {block : Node} {handler finalizer : Option Node}
    (begun : M.Begun true p o q)
    (made : M.Made q (block :: (handler.toList ++ finalizer.toList)) r) :
    M.Ensures (tryEnd o block handler finalizer) r fun n s => M.Made p [n] s := by
  have close : M.Ensures (closeNode o (.tryStatement block handler finalizer)) r
      fun n s => M.Made p [n] s :=
    begun.closeOver made ⟨rfl, rfl⟩ rfl rfl (by simp)
  exact .ite (fun _ => complain_then fun _ => close) fun _ => close

theorem tryRest_ensures {block : Node} {handler : Option Node} (begun : M.Begun true p o q)
    (made : M.Made q (block :: handler.toList) r) :
    M.Ensures (tryRest o block handler) r fun n s => M.Made p [n] s := by
  refine eatWord_then (fun _ => ?_) fun _ => tryEnd_ensures begun (made.of_eq (by simp))
  refine (made.behind (M.taken r)).then block_makes fun finalizer s made => ?_
  exact tryEnd_ensures begun (made.of_eq (by simp))

theorem tryStatement_makes : M.Makes tryStatement := by
  rw [tryStatement_eq]
  intro p
  refine openNode_then fun o q begun _ => ?_
  refine take_then ?_
  replace begun := begun.behind (M.taken q)
  refine (block_makes _).bind fun block r made => ?_
  refine look_then ?_
  refine .ite (fun _ => ?_) fun _ => tryRest_ensures begun made
  exact made.then catchClause_makes fun handler s made => tryRest_ensures begun made

/-- A case makes its test and its statements. -/
theorem caseRest_ensures (test : Option Node) (begun : M.Begun true p o q)
    (grew : p.situation.consumed < q.situation.consumed) (made : M.Made q test.toList r) :
    M.Ensures (caseRest o test) r fun n s => M.Made p [n] s := by
  refine made.pass (expect_passes _) fun _ s made => ?_
  refine (statementsUntil_ensures _).bind fun body t ⟨series, _⟩ => ?_
  exact begun.closeSeries made series (made_refl t) ⟨rfl, rfl⟩ rfl (bound_free rfl) fun _ =>
    Nat.lt_of_lt_of_le grew (M.forward made)

/-- The cases of a `switch` are made in turn. -/
theorem switchCases_makes : M.Makes switchCases := by
  intro p
  refine .loop (fun found q => M.Made p (nodes found) q) (made_refl p) fun found q made => ?_
  refine look_then ?_
  refine .ite (fun _ => .pure made) fun _ => ?_
  refine openNode_then fun o r begun same => ?_
  have taken := begun.behind (M.taken r)
  -- Every clause takes its word, so the list grows where the parse goes on.
  have lt_of_goes (goes : q.situation.token.isEnd = false) :
      q.situation.consumed < (r.taken setting).situation.consumed :=
    lt_taken_of_same goes same
  have pushed {clause : Node} {s : Progress σ} (next : M.Made q [clause] s) :
      M.Made p (nodes (found.push clause)) s :=
    (M.append made next).of_eq (nodes_push found clause).symm
  refine eatWord_then (fun here => ?_) fun _ => eatWord_then (fun here => ?_) fun _ => ?_
  · have grew := lt_of_goes (Token.isEnd_of_isKeyword (same ▸ here))
    refine (expression_makes false _).bind fun test s parts => ?_
    exact (caseRest_ensures (some test) taken grew parts).bind fun clause t next =>
      .pure (pushed next)
  · have grew := lt_of_goes (Token.isEnd_of_isKeyword (same ▸ here))
    exact (caseRest_ensures none taken grew (made_refl _)).bind fun clause t next =>
      .pure (pushed next)
  -- Another token is complained of and left out.
  · refine unexpected_then fun loose => ?_
    refine take_then ?_
    refine .pure ?_
    exact made.behind (taken.made loose)

/-- A `switch` makes what is looked at and its cases. -/
theorem switchStatement_makes : M.Makes switchStatement := by
  intro p
  refine openNode_then fun o q begun _ => ?_
  refine take_then ?_
  refine (parenExpression_makes _).bind fun discriminant r made => ?_
  refine made.pass (expect_passes _) fun _ s made => ?_
  refine made.then switchCases_makes fun cases t made => ?_
  refine made.pass (expect_passes _) fun _ u made => ?_
  refine (begun.behind (M.taken q)).closeOver made ?_ rfl rfl (by simp)
  rw [nodes_list]
  exact ⟨rfl, rfl⟩

/-- A `with` makes its object and its statement. -/
theorem withStatement_makes : M.Makes withStatement := by
  intro p
  refine openNode_then fun o q begun _ => ?_
  refine take_then ?_
  refine (parenExpression_makes _).bind fun object r made => ?_
  refine made.then statement_makes fun body s made => ?_
  exact (begun.behind (M.taken q)).closeOver made ⟨rfl, rfl⟩ rfl rfl (by simp)

/-! ## All statements -/

/-- An expression is a statement; a name with a colon behind it is a label. -/
theorem expressionStatement_makes : M.Makes expressionStatement := by
  rw [expressionStatement_eq]
  intro p
  refine openNode_then fun o q begun _ => ?_
  refine (expression_makes false q).bind fun inner r made => ?_
  have plain : M.Ensures (expressionEnd o inner) r fun n s => M.Made p [n] s :=
    closeEnded begun made ⟨rfl, rfl⟩ rfl ⟨rfl, rfl, rfl⟩ (by simp) fun _ _ _ ended => ended
  refine .ite (fun _ => eat_then (fun _ => ?_) fun _ => plain) fun _ => plain
  refine (made.behind (M.taken r)).then statement_makes fun body s made => ?_
  exact begun.closeOver made ⟨rfl, rfl⟩ rfl rfl (by simp)

/-- Statements that begin with no word of their own. -/
theorem plainStatement_makes : M.Makes plainStatement := by
  intro p
  refine look_then ?_
  refine .ite (fun _ => block_makes p) fun _ => .ite (fun here => ?_) fun _ => ?_
  · exact (leaf_ensures (Token.isEnd_of_isPunctuator here) ⟨⟨rfl, rfl⟩, rfl, rfl, rfl⟩
      (by simp [Shape.quoted?])).mono fun _ _ h => h.1
  · exact .ite (fun _ => variableStatement_makes _ p) fun _ => expressionStatement_makes p

/-- Statements that begin with a word. -/
theorem wordStatement_ensures (word : Keyword)
    (here : p.situation.token.isKeyword word = true) :
    M.Ensures (wordStatement word) p fun n q => M.Made p [n] q := by
  have moduleItem : M.Ensures (do
      complainHere .moduleItem
      plainStatement) p fun n q => M.Made p [n] q :=
    complain_then fun _ => plainStatement_makes p
  cases word with
  | varWord => exact variableStatement_makes _ p
  | constWord => exact variableStatement_makes _ p
  | functionWord => exact openNode_then fun o q begun _ => function_ensures begun true
  | classWord => exact openNode_then fun o q begun _ => classPhrase_ensures begun true
  | ifWord => exact ifStatement_makes p
  | forWord => exact forStatement_makes p
  | whileWord => exact whileStatement_makes p
  | doWord => exact doWhileStatement_makes p
  | returnWord => exact returnStatement_ensures here
  | breakWord =>
      exact jumpStatement_ensures here (fun _ => ⟨rfl, rfl⟩) (fun _ => rfl)
        (fun _ => ⟨rfl, rfl, rfl⟩) fun _ _ _ ended restricted => ⟨ended, restricted⟩
  | continueWord =>
      exact jumpStatement_ensures here (fun _ => ⟨rfl, rfl⟩) (fun _ => rfl)
        (fun _ => ⟨rfl, rfl, rfl⟩) fun _ _ _ ended restricted => ⟨ended, restricted⟩
  | throwWord => exact throwStatement_ensures here
  | tryWord => exact tryStatement_makes p
  | switchWord => exact switchStatement_makes p
  | withWord => exact withStatement_makes p
  | debuggerWord =>
      refine openNode_then fun o q begun same => ?_
      refine take_then ?_
      exact closeEnded (begun.behind (M.taken q)) (made_refl _) ⟨rfl, rfl⟩ rfl ⟨rfl, rfl, rfl⟩
        (fun _ _ => lt_taken_of_same (Token.isEnd_of_isKeyword here) same)
        fun _ _ _ ended => ended
  | importWord => exact moduleItem
  | exportWord => exact moduleItem
  | _ => exact plainStatement_makes p

/-- All statements. -/
theorem statementRule_makes : M.Makes statementRule := by
  intro p
  refine look_then ?_
  split
  · rename_i word kind
    exact wordStatement_ensures word (Token.isKeyword_iff.mpr kind)
  · exact plainStatement_makes p

end Grammar

end ScriptTree

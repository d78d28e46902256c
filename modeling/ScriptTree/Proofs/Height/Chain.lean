import Mathlib.Order.Monotone.Basic
import ScriptTree.Proofs.Height.Operand

/-! # Heights of chains

    A chain grows around the node it begins with.  An operator or a subscript
    opens a level for the rest of its chain, so a round of one TRADES a level for
    a node, and what is gained is bounded by the levels there are.  `++`, `new`
    and `extends` open none, and are paid for by the slack of their token. -/

namespace ScriptTree

open Grammar

namespace Rule

variable {kept : List Node} {extra room room' : Nat → Nat} {base : Node} {mode : Mode}
  {fuel top : Nat} {s : Situation}

/-! ## Trading levels -/

/-- Wherever a ceiling has room for the round and the chain before it, each node
    by which the chain behind it exceeds the ceiling costs a level. -/
def Trades (room : Nat → Nat) (base : Node) (round : Rule (Turn Node Node)) : Prop :=
  ∀ mode fuel s top, Lexeme.Terminated s.ahead → room s.levels + s.slack ≤ top →
    base.height + s.slack ≤ top → round.Meets (.ceiled mode) fuel s fun turn t =>
      s.Leads t ∧ t.levels ≤ s.levels ∧
        ∀ n ∈ nodes turn, n.height + t.slack + t.levels ≤ top + s.levels

/-- A chain that is left has its base. -/
theorem Trades.leave : (Pure.pure (.leave base) : Rule (Turn Node Node)).Trades room base := by
  intro mode fuel s top hs hr hb
  refine ⟨.refl s, Nat.le_refl _, fun n hn => ?_⟩
  obtain rfl := List.mem_singleton.mp hn
  omega

/-- A look at the token trades nothing. -/
theorem Trades.token {next : Token → Rule (Turn Node Node)}
    (h : ∀ t, (next t).Trades room base) : (Grammar.token >>= next).Trades room base :=
  fun mode fuel s => h s.token mode fuel s

/-- Both ways on trade alike. -/
theorem Trades.ite {b : Prop} [Decidable b] {yes no : Rule (Turn Node Node)}
    (h : yes.Trades room base) (k : no.Trades room base) :
    (if b then yes else no).Trades room base := by
  split
  · exact h
  · exact k

/-- A round that opens a level may close a node. -/
theorem Trades.deepen {rest : Rule (Turn Node Node)} (h : rest.Closes [base] room')
    (lower : ∀ levels, room' levels ≤ room (levels + 1)) :
    (Rule.deepen .done >>= fun ok =>
      if (!ok) = true then Pure.pure (.leave base) else rest).Trades room base := by
  intro mode fuel s top hs hr hb
  show Contract.Deepens _ s _
  rw [Contract.Deepens]
  split
  -- Without a level the loop is left with its base.
  · exact fun _ => Trades.leave mode fuel s top hs hr hb
  · rename_i allowed
    -- The level that is opened is traded for one node more on top of the base.
    have one : s.levels = Situation.levels { s with depth := s.depth + 1 } + 1 := by
      simp only [Situation.levels]
      omega
    have room := lower (Situation.levels { s with depth := s.depth + 1 })
    rw [← one] at room
    refine Rule.Meets.mono (h mode fuel _ top hs ?_ ?_) fun turn t ht => ⟨ht.1.leads, ?_, ?_⟩
    · exact Nat.le_trans (Nat.add_le_add_right room _) hr
    · intro n hn
      obtain rfl := List.mem_singleton.mp hn
      exact hb
    · rw [ht.1.levels]
      omega
    · intro n hn
      have high : n.height + t.slack ≤ top + 1 := ht.2 n hn
      rw [ht.1.levels]
      omega

/-- A chain exceeds a ceiling by no more nodes than there are levels. -/
theorem Trades.loop {round : Node → Rule (Turn Node Node)} (wider : Monotone room)
    (h : ∀ base, (round base).Trades room base) (hs : Lexeme.Terminated s.ahead)
    (hr : room s.levels + s.slack ≤ top) (hb : base.height + s.slack ≤ top) :
    (Rule.loop base round).Meets (.ceiled mode) fuel s fun n t =>
      s.Leads t ∧ n.height + t.slack ≤ top + s.levels := by
  have go : ∀ rounds base t, s.Leads t → t.levels ≤ s.levels →
      base.height + t.slack + t.levels ≤ top + s.levels →
      (Rule.iterate round rounds base).Meets (.ceiled mode) fuel t fun n u =>
        s.Leads u ∧ n.height + u.slack ≤ top + s.levels := by
    intro rounds
    induction rounds with
    | zero => exact fun _ _ _ _ _ => trivial
    | succ rounds ih =>
        intro base t leads fewer high
        have narrower := leads.slack_le
        have room := wider fewer
        show (round base >>= _).Meets _ _ t _
        -- The ceiling of the round is raised by the levels that were traded before.
        refine (h base mode fuel t (top + (s.levels - t.levels)) (leads.terminated hs) (by omega)
          (by omega)).bind fun turn u hu => ?_
        obtain ⟨on, less, traded⟩ := hu
        cases turn with
        | again n =>
            have := traded n (List.mem_singleton_self n)
            exact ih n u (leads.trans on) (by omega) (by omega)
        | leave n =>
            have := traded n (List.mem_singleton_self n)
            exact ⟨leads.trans on, by omega⟩
  exact go fuel base s (.refl s) (Nat.le_refl _) (by omega)

/-! ## Paying with slack -/

/-- Behind a token that wraps, a rule may exceed the ceiling by one node more than
    there can be levels. -/
theorem Within.wraps {α : Type} [HasNodes α] {next : Token → Rule α} {o : Nat}
    (h : ∀ t, (next t).Within extra kept room) (paid : ∀ levels, extra levels ≤ levels + 1 + o)
    (wraps : s.token.wraps = true) (hs : Lexeme.Terminated s.ahead)
    (hr : room s.levels + s.slack ≤ top) (hk : s.Under top kept) :
    (Rule.take next).Meets (.ceiled mode) fuel s fun a t =>
      s.Passes t ∧ t.Under (top + o) (nodes a) := by
  have passed := Situation.Passes.taken hs
  have slack := Situation.slack_taken hs wraps
  have few := paid s.levels
  have levels := s.levels_le
  refine (h s.token mode fuel s.taken (top - (nestingLimit + 1)) (passed.leads.terminated hs) ?_
    fun n hn => ?_).mono fun a t ⟨ht, ha⟩ => ⟨passed.trans ht, ha.raise ?_⟩
  · rw [passed.levels]
    omega
  · have := hk n hn
    omega
  · rw [passed.levels]
    omega

end Rule

namespace Grammar

open Rule

variable {kept : List Node} {room : Nat → Nat} {d : Nat} {mode : Mode} {fuel top : Nat}
  {s : Situation}

/-! ## Operators and subscripts -/

/-- The room of operands grows with the levels. -/
theorem operands_mono : Monotone (deeper Nonterminal.unary.height) := by
  refine monotone_nat_of_le_succ fun levels => ?_
  have := operands_le levels
  show _ ≤ tall levels + levels + 5
  omega

/-- A chain of operators pays each node with a level or a token. -/
theorem operatorsRule_meets {left : Node} {start minimum : Nat} {noIn : Bool}
    (hs : Lexeme.Terminated s.ahead)
    (hr : deeper Nonterminal.unary.height s.levels + s.slack ≤ top)
    (hb : left.height + s.slack ≤ top) :
    (operatorsRule left start minimum noIn).Meets (.ceiled mode) fuel s fun n t =>
      s.Leads t ∧ n.height + t.slack ≤ top + s.levels := by
  refine Trades.loop operands_mono (fun left => .token fun t => ?_) hs hr hb
  split
  · exact .leave
  rename_i operator stands
  have right {start : Nat} {kept : List Node} : Rule.Builds kept
      (fun levels => deeper Nonterminal.unary.height levels + levels) (do
        let operand ← unary
        parseChain (.operators operand start (rightMinimum operator) noIn)) :=
    (unary_builds.after fun operand => operators_chains (.of_subset (by simp))).fit
      fun _ => Nat.le_refl _
  -- An operator is paid by its level, and the chain on its right by that level's room.
  refine .ite .leave (.deepen (take_builds.after fun _ => here_builds.after fun start =>
    .group right fun right => ?_) ?_)
  · refine .before (closeNode_closes (.of_subset ?_)) fun whole => .pure (.of_subset (by simp))
    rw [binaryShape]
    split <;> simp [Shape.children]
  · intro levels
    have := operands_le levels
    show _ ≤ tall levels + levels + 5
    omega

/-- What stands in a subscript is not higher than one that stands here. -/
theorem subscript_builds {base : Node} {kind : Subscript} (here : base ∈ kept) (h : 2 ≤ d) :
    (subscript base kind).Builds kept (tall · + d) := by
  cases kind with
  | member =>
      refine take_builds.after fun _ => identifierName_builds.after fun prop => ?_
      exact .pure (.of_subset (by grind [Shape.children]))
  | computedMember =>
      refine take_builds.after fun _ => (expression_builds false (by omega)).after fun prop => ?_
      exact (expect_builds _).after fun _ => .pure (.of_subset (by grind [Shape.children]))
  | call =>
      refine (callArguments_builds (by omega)).after fun arguments => ?_
      exact .pure (.of_subset (by grind [Shape.children]))
  | template =>
      refine (Within.under (template_closes (Nat.le_refl 1)) h).after fun quasi => ?_
      exact .pure (.of_subset (by grind [Shape.children]))

/-- A chain of subscripts does so too. -/
theorem subscriptsRule_meets {base : Node} {start : Nat} {noCalls : Bool}
    (hs : Lexeme.Terminated s.ahead) (hr : tall s.levels + s.slack ≤ top)
    (hb : base.height + s.slack ≤ top) :
    (subscriptsRule base start noCalls).Meets (.ceiled mode) fuel s fun n t =>
      s.Leads t ∧ n.height + t.slack ≤ top + s.levels := by
  have wider : Monotone tall := monotone_nat_of_le_succ fun levels => by
    rw [tall_succ]
    omega
  refine Trades.loop wider (fun base => .token fun t => ?_) hs hr hb
  split
  · exact .leave
  rename_i kind stands
  have link : Rule.Closes [base] (tall · + 2) (do
      let shape ← subscript base kind
      let whole ← closeNode (openedAt start) shape
      pure (Turn.again whole : Turn Node Node)) := by
    refine (subscript_builds (by simp) (Nat.le_refl 2)).after fun shape => ?_
    refine (closeNode_closes (.of_subset (by simp))).before fun whole => ?_
    exact .pure (.of_subset (by simp))
  refine .deepen link fun levels => ?_
  rw [tall_succ]
  omega

/-! ## Wrapping -/

/-- Checking a target moves nothing. -/
theorem checkSimpleTarget_meets {α : Type} {c : Contract} {n : Node} {f : Unit → Rule α}
    {post : α → Situation → Prop} (h : (f ()).Meets c fuel s post) :
    (checkSimpleTarget n >>= f).Meets c fuel s post := by
  rw [checkSimpleTarget]
  split
  · exact h
  · exact fun _ => h

/-- Signs behind an operand wrap it once. -/
theorem postfixOperators_builds {start : Nat} {operand : Node} (here : operand ∈ kept) :
    (postfixOperators start operand).Builds kept room := by
  refine .loop (.of_subset (by simpa using here)) fun operand => ?_
  have leave : (Pure.pure (.leave operand) : Rule (Turn Node Node)).Builds
      (nodes operand ++ kept) room := .pure (.of_subset (by simp))
  intro mode fuel s top hs hr hk
  refine token_meets.mpr ?_
  split
  · exact leave mode fuel s top hs hr hk
  rename_i operator stands
  have wraps : s.token.wraps = true := by simp [Token.wraps, stands]
  have rest : Rule.Closes (nodes operand ++ kept) room (do
      let whole ← closeNode (openedAt start) (.updateExpression operator operand false)
      pure (Turn.again whole : Turn Node Node)) := by
    refine (closeNode_closes (.of_subset ?_)).before fun whole => .pure (.of_subset (by simp))
    simp [Shape.children]
  split
  · exact leave mode fuel s top hs hr hk
  · exact checkSimpleTarget_meets
      (Within.wraps (o := 0) (fun _ => rest) (fun _ => Nat.le_add_left ..) wraps hs hr hk)

/-- A `new` pays for its node with the word, which wraps. -/
theorem newObject_meets (wraps : s.token.wraps = true) (hs : Lexeme.Terminated s.ahead)
    (hr : tall s.levels + 5 + s.slack ≤ top) (hk : s.Under top kept) :
    newObject.Meets (.ceiled mode) fuel s fun n t => s.Passes t ∧ t.Under top (nodes n) := by
  intro comments
  have rest (opened : Opened) : Rule.Within (fun levels => levels + 1) kept (tall · + 5) (do
      let start ← here
      let base ← parse .atom
      let callee ← parseChain (.subscripts base start true)
      let arguments ← if ← isAt .openParen then callArguments else pure []
      closeNode opened (.newExpression callee arguments)) := by
    refine here_builds.after fun start => (atom_builds (Nat.le_refl 5)).after fun base => ?_
    refine (subscripts_chains (.of_subset (by simp))).bind fun callee => ?_
    refine (isAt_builds .openParen).after fun called => .ite ?_ ?_
    · refine (callArguments_builds (by omega)).after fun arguments => ?_
      exact closeNode_closes (.of_subset (by grind [Shape.children]))
    · exact closeNode_closes (.of_subset (by simp [Shape.children]))
  exact Within.wraps (o := 0) (fun _ => rest _) (fun _ => Nat.le_refl _) wraps hs hr hk

/-- The class a class extends pays for itself. -/
theorem extends_closes {yes no : Rule Node}
    (h : yes.Within (fun levels => levels + 1 + 1) kept room) (k : no.Closes kept room) :
    Rule.Closes kept room (do
      if ← eatWord .extendsWord then yes else no) := by
  intro mode fuel s top hs hr hk
  refine Rule.meets_bind.mpr ?_
  show Rule.Meets _ _ (if s.token.isKeyword .extendsWord = true then _ else _) s _
  split
  · rename_i stands
    refine Within.wraps (fun _ => h) (fun _ => Nat.le_refl _) ?_ hs hr hk
    simp [Token.wraps, stands]
  · exact k mode fuel s top hs hr hk

/-- The body of a class behind its opening brace. -/
def classBody (opened : Opened) : Rule Node := do
  let methods ← classMethods
  expect .closeBrace
  closeNode opened (.classBody methods)

/-- The body of a class is built within four nodes more. -/
theorem classBody_builds (opened : Opened) (h : 4 ≤ d) :
    (classBody opened).Builds kept (tall · + d) := by
  refine Within.under (o := 1) ((classMethods_builds (Nat.le_refl 3)).after fun methods => ?_) h
  refine (expect_builds _).after fun _ => closeNode_closes (.of_subset ?_)
  simp [Shape.children]

/-- The body of a class and the class, behind its head. -/
theorem classRest_closes {opened : Opened} {isStatement : Bool} {name superClass : Option Node}
    (here : name.toList ++ superClass.toList ⊆ kept) (h : 4 ≤ d) :
    (classRest opened isStatement name superClass).Closes kept (tall · + d) := by
  refine openNode_builds.after fun inner => (expect_builds _).after fun _ => ?_
  -- The body is a part of the class that is finished before the class is closed over it.
  have whole : Rule.Closes kept (tall · + d) (do
      let body ← classBody inner
      closeNode opened
        (if isStatement then .classDeclaration name superClass body
         else .classExpression name superClass body)) := by
    refine (classBody_builds inner h).after fun body => closeNode_closes (.of_subset ?_)
    cases isStatement <;> grind [Shape.children]
  simp only [classBody, LawfulMonad.bind_assoc] at whole
  exact whole

/-- A class is closed within them. -/
theorem classPhrase_closes {opened : Opened} {isStatement : Bool} (h : 4 ≤ d) :
    (classPhrase opened isStatement).Closes kept (tall · + d) := by
  rw [classPhrase_eq]
  refine take_builds.after fun _ => (optionalName_builds isStatement).after fun name => ?_
  refine extends_closes ?_ (classRest_closes (by simp) h)
  refine here_builds.after fun start => ?_
  -- The operand that is extended asks for a node more than the methods leave room for.
  have base {kept : List Node} : (parse .atom).Builds kept (tall · + (d + 1)) :=
    atom_builds (by omega)
  refine Within.further ((base.lower (o := 1) fun levels => Nat.le_refl _).bind fun base =>
    (subscripts_chains (.of_subset (by simp))).bind fun superClass =>
      classRest_closes (by grind) h) fun levels => ?_
  simp only [id]
  omega

/-- Operands that begin with a word are built within the room. -/
theorem wordAtom_meets {word : Keyword} (stands : s.token.kind = .keyword word)
    (hs : Lexeme.Terminated s.ahead) (hr : tall s.levels + 5 + s.slack ≤ top)
    (hk : s.Under top kept) :
    (wordAtom word).Meets (.ceiled mode) fuel s fun n t => s.Passes t ∧ t.Under top (nodes n) := by
  have built {r : Rule Node} (h : r.Builds kept (tall · + 5)) :
      r.Meets (.ceiled mode) fuel s fun n t => s.Passes t ∧ t.Under top (nodes n) :=
    h mode fuel s top hs hr hk
  simp only [wordAtom]
  split
  · exact built (leaf_builds rfl)
  · exact built (leaf_builds rfl)
  · exact built literal_builds
  · exact built literal_builds
  · exact built literal_builds
  · exact built (openNode_builds.after fun opened =>
      Within.under (function_closes opened false (Nat.le_refl 1)) (by omega))
  · exact built (openNode_builds.after fun opened =>
      Within.under (classPhrase_closes (Nat.le_refl 4)) (Nat.le_refl 5))
  · refine newObject_meets ?_ hs hr hk
    simp [Token.wraps, Token.isKeyword, stands]
  · exact built missing_builds

/-- All operands are. -/
theorem atomRule_builds : atomRule.Builds kept (tall · + 5) := by
  intro mode fuel s top hs hr hk
  have built {r : Rule Node} (h : r.Builds kept (tall · + 5)) :
      r.Meets (.ceiled mode) fuel s fun n t => s.Passes t ∧ t.Under top (nodes n) :=
    h mode fuel s top hs hr hk
  refine token_meets.mpr ?_
  split
  · rename_i word stands
    exact wordAtom_meets stands hs hr hk
  · exact built (Within.under (nameOrArrow_closes (Nat.le_refl 1)) (by omega))
  · exact built literal_builds
  · exact built literal_builds
  · exact built literal_builds
  · exact built (Within.under (template_closes (Nat.le_refl 1)) (by omega))
  · exact built (Within.under (parenOrArrow_closes (Nat.le_refl 1)) (by omega))
  · exact built (Within.under (array_closes (Nat.le_refl 1)) (by omega))
  · exact built (Within.under (object_closes (Nat.le_refl 3)) (by omega))
  · exact built missing_builds

/-- The height of an operand has room for its subscripts; `++` and `--` behind it
    pay for themselves. -/
theorem unaryRule_builds : unaryRule.Builds kept Nonterminal.unary.height := by
  have nested {kept : List Node} {f : Node → Rule Node}
      (h : ∀ argument kept, (f argument).Closes (nodes argument ++ kept)
        (deeper Nonterminal.unary.height)) :
      (unary >>= f).Builds kept Nonterminal.unary.height := by
    refine Within.fit (unary_builds.after fun argument => h argument []) fun levels => ?_
    have := operands_le levels
    simp only [Nonterminal.height]
    omega
  refine token_builds.after fun t => ?_
  split
  · refine openNode_builds.after fun opened => take_builds.after fun _ => nested ?_
    intro argument kept
    refine (checkSimpleTarget_builds argument).after fun _ => closeNode_closes (.of_subset ?_)
    simp [Shape.children]
  · refine openNode_builds.after fun opened => take_builds.after fun _ => nested ?_
    exact fun argument kept => closeNode_closes (.of_subset (by simp [Shape.children]))
  · have chain : Rule.Chains [] (tall · + 5) (do
        let start ← here
        let base ← parse .atom
        let operand ← parseChain (.subscripts base start false)
        postfixOperators start operand) := by
      refine here_builds.after fun start => (atom_builds (Nat.le_refl 5)).after fun base => ?_
      refine (subscripts_chains (.of_subset (by simp))).before fun operand => ?_
      exact postfixOperators_builds (by simp)
    refine chain.fit fun levels => ?_
    simp only [Nonterminal.height, id]
    omega

end Grammar

end ScriptTree

import ScriptTree.Proofs.Grammar.Tiling

/-! # Upholding — what every node of a strict tree keeps to

    What is known where a node is closed speaks of places of the parse.  Such a place
    stands in the stream of the lexemes of the text, and what was made behind it lies
    behind it in the text.  So what is known becomes a property of the node alone: of
    its span, of the operators of its operands, and of the tokens of the text.  One
    traversal shows it of all nodes of a tree that a strict parse ends with. -/

namespace ScriptTree

/-! ## What nodes keep to -/

/-- The shapes of statements that end with a semicolon, which may be left out. -/
def Shape.isEnded {α : Type} : Shape α → Bool
  | variableDeclaration .. => true
  | expressionStatement _ => true
  | debuggerStatement => true
  | returnStatement _ => true
  | throwStatement _ => true
  | breakStatement _ => true
  | continueStatement _ => true
  | _ => false

/-- In front of the token a semicolon may be left out. -/
def Token.endsStatement (t : Token) : Bool :=
  t.isEnd || t.isPunctuator .closeBrace || t.newlineBefore

namespace Node

variable (n : Node) (text : List Char)

/-- A semicolon of the text ends where the node ends, or the token behind the last one of
    the node is the end of the text, a closing brace, or on a new line. -/
def Terminated : Prop :=
  (∃ l ∈ Lexeme.ofText text, l.token.isPunctuator .semicolon = true ∧
    l.token.span.stop = n.span.stop) ∨
  ∃ words last next rest, Lexeme.ofText text = words ++ last :: next :: rest ∧
    last.token.span.stop = n.span.stop ∧ next.token.endsStatement = true

/-- The node is a loop with the declaration in its head. -/
def Heads (d : Node) : Prop :=
  (∃ kind found, d.shape = .variableDeclaration kind found) ∧ n.shape.HeadedBy d

/-- If the node is a statement that has to end, it does. -/
def Settled : Prop := n.shape.isEnded = true → n.Terminated text

/-- An operand in front of the operator that is an operation and starts where the node
    does binds at least as tight, and is none of `**`; one behind it that ends where the
    node does binds tighter, or both are `**`. -/
def BindsOperands (operator : BinaryOperator) (left right : Node) : Prop :=
  (∀ inner, left.binaryOperator? = some inner → left.span.start = n.span.start →
    operator.precedence ≤ inner.precedence ∧ operator ≠ .power) ∧
  ∀ inner, right.binaryOperator? = some inner → right.span.stop = n.span.stop →
    operator.precedence < inner.precedence ∨ operator = .power ∧ inner = .power

/-- The operator of the node binds its operands, and the node is a logical one if and only
    if the operator is. -/
def Binds : Prop :=
  match n.shape with
  | .binaryExpression operator left right =>
    operator.isLogical = false ∧ n.BindsOperands operator left right
  | .logicalExpression operator left right =>
    operator.isLogical = true ∧ n.BindsOperands operator left right
  | _ => True

/-- The word stands where the node starts, and the next token on the same line. -/
def GoesOn (word : Keyword) : Prop :=
  ∃ words here next rest, Lexeme.ofText text = words ++ here :: next :: rest ∧
    here.token.isKeyword word = true ∧ here.token.span.start = n.span.start ∧
    next.token.newlineBefore = false

/-- No line ends where the grammar forbids it: behind a word that an argument or a label
    belongs to, in front of `++` or `--` behind an operand, and in front of the `=>` that
    stands in the node between the parameters and the body. -/
def KeepsLine : Prop :=
  match n.shape with
  | .returnStatement (some _) => n.GoesOn text .returnWord
  | .throwStatement _ => n.GoesOn text .throwWord
  | .breakStatement (some _) => n.GoesOn text .breakWord
  | .continueStatement (some _) => n.GoesOn text .continueWord
  | .updateExpression operator _ false => ∃ l ∈ Lexeme.ofText text,
    UpdateOperator.ofToken? l.token.kind = some operator ∧ l.token.newlineBefore = false ∧
      l.token.span.stop = n.span.stop
  | .arrowFunctionExpression params body _ => ∃ l ∈ Lexeme.ofText text,
    l.token.isPunctuator .arrow = true ∧ l.token.newlineBefore = false ∧
      n.span.start ≤ l.token.span.start ∧ l.token.span.stop ≤ body.span.start ∧
        ∀ x ∈ params, x.span.stop ≤ l.token.span.start
  | _ => True

/-- An arrow function that is an operand in front starts behind the node, between
    parentheses, or has a block for a body. -/
def SparesOperand (operand : Node) : Prop :=
  operand.isArrow = true → operand.span.start = n.span.start → operand.isBlockArrow = true

/-- One in front of a subscript may end with `++` or `--` as well. -/
def SparesBase (base : Node) : Prop :=
  base.isArrow = true → base.span.start = n.span.start → base.isBlockArrow = true ∨
    ∃ l ∈ Lexeme.ofText text, l.token.IsUpdate ∧ l.token.span.stop = base.span.stop

/-- No arrow function with an expression for a body is continued, but for a subscript
    behind `++` or `--`. -/
def SparesArrows : Prop :=
  match n.shape with
  | .binaryExpression _ left _ => n.SparesOperand left
  | .logicalExpression _ left _ => n.SparesOperand left
  | .conditionalExpression test _ _ => n.SparesOperand test
  | .callExpression callee _ => n.SparesBase text callee
  | .memberExpression object _ _ => n.SparesBase text object
  | .taggedTemplateExpression tag _ => n.SparesBase text tag
  | _ => True

/-- A block reaches from an opening brace to a closing one, and its statements tile the
    tokens between them. -/
def FillsBraces : Prop :=
  match n.shape with
  | .blockStatement body => ∃ before opening inside closing behind,
    (lex text).tokens = before ++ opening :: (inside ++ closing :: behind) ∧
      (opening.isPunctuator .openBrace = true ∧ opening.span.start = n.span.start) ∧
      (closing.isPunctuator .closeBrace = true ∧ closing.span.stop = n.span.stop) ∧
      Tiling body inside
  | _ => True

/-- The parts of an object are properties whose values are no patterns, but for names with
    defaults. -/
def HoldsEntries : Prop :=
  match n.shape with
  | .objectExpression properties => ∀ x ∈ properties, x.IsEntry
  | _ => True

/-- All of it, and the statements in the node end. -/
structure Upholds : Prop where
  parts : ∀ d ∈ n.parts, d.Settled text ∨ n.Heads d
  binds : n.Binds
  line : n.KeepsLine text
  arrows : n.SparesArrows text
  block : n.FillsBraces text
  entries : n.HoldsEntries

variable {n text} {m : Node}

/-- Of a node that no law is about only the statements in it count. -/
theorem upholds_of_free (free : n.shape.isGoverned = false)
    (parts : ∀ d ∈ n.parts, d.Settled text ∨ n.Heads d) : n.Upholds text := by
  obtain ⟨shape, span, leading, trailing⟩ := n
  refine ⟨parts, ?_, ?_, ?_, ?_, ?_⟩
  · cases shape <;> trivial
  · cases shape with
    | updateExpression operator argument isPrefix => cases isPrefix <;> trivial
    | _ => trivial
  · cases shape <;> trivial
  · cases shape <;> trivial
  · cases shape <;> trivial

/-- No law is about patterns. -/
theorem ungoverned_of_becomes {α : Type} {shape other : Shape α} (h : shape.Becomes other) :
    other.isGoverned = false := by
  cases h <;> rfl

/-- Nodes that need no end are settled. -/
theorem settled_of_not_isEnded (h : n.shape.isEnded = false) : n.Settled text := by
  intro ended
  rw [h] at ended
  cases ended

/-- Nodes that were exchanged are settled, since their end is that of what they came from. -/
theorem settled_of_isExchanged (h : n.shape.isExchanged = true) : n.Settled text := by
  refine settled_of_not_isEnded ?_
  revert h
  cases n.shape <;> first | exact fun _ => rfl | exact nofun

/-- A name upholds everything, having nothing below it. -/
theorem upholds_of_name {root : Node} (name : root.identifierName?.isSome = true) :
    root.Settled text ∧ ∀ m ∈ root.subtree, m.Upholds text := by
  have leaf := parts_of_identifierName? name
  have plain : root.shape.isEnded = false ∧ root.shape.isGoverned = false := by
    obtain ⟨shape, span, leading, trailing⟩ := root
    cases shape <;> first | exact ⟨rfl, rfl⟩ | cases name
  refine ⟨settled_of_not_isEnded plain.1, forall_subtree (upholds_of_free plain.2 ?_) ?_⟩
  · simp [leaf]
  · simp [leaf]

/-- What an expression upholds its pattern does. -/
theorem upholds_toPattern (n : Node) (text : List Char)
    (h : n.Settled text ∧ ∀ m ∈ n.subtree, m.Upholds text) :
    n.toPattern.Settled text ∧ ∀ m ∈ n.toPattern.subtree, m.Upholds text := by
  refine (toPattern_induction (motive := fun n m => (n.Settled text ∧ ∀ k ∈ n.subtree,
    k.Upholds text) → m.Settled text ∧ ∀ k ∈ m.subtree, k.Upholds text) (fun _ => id)
    (fun n m recast h => ?_) n).1 h
  have exchanged := recast.exchanged.2
  have below : ∀ y ∈ m.parts, y.Settled text ∧ ∀ k ∈ y.subtree, k.Upholds text := by
    intro y hy
    obtain ⟨x, hx, kept⟩ := exists_related recast.parts hy
    have settled := (h.2 n n.mem_subtree_self).parts x hx
    refine kept ⟨settled.resolve_right fun heads => ?_, fun k hk =>
      h.2 k (subtree_subset_of_part hx hk)⟩
    -- No pattern is a loop.
    have loop := heads.2
    have pattern := recast.exchanged.1
    revert loop pattern
    cases n.shape <;> exact nofun
  refine ⟨settled_of_isExchanged exchanged, forall_subtree ?_ fun y hy => (below y hy).2⟩
  exact upholds_of_free (ungoverned_of_becomes recast.becomes) fun y hy => .inl (below y hy).1

end Node

/-! ## What is made between two places -/

section

variable {σ : Type} {text : List Char} {lines : LineIndex} {w : Observer σ}
  {p q r s : Progress σ} {ns ms : List Node} {own : Bool} {o : Grammar.Opened} {n left right : Node}

/-- What is made between two places of a parse upholds everything. -/
structure Upheld (text : List Char) (p : Progress σ) (ns : List Node) (q : Progress σ) :
    Prop where
  nested : Nested text p ns q
  stands : p.situation.StandsIn text → q.situation.StandsIn text
  upholds : p.situation.StandsIn text → ∀ n ∈ ns, n.Settled text ∧ ∀ m ∈ n.subtree, m.Upholds text

namespace Upheld

/-- Two rows of nodes in turn. -/
theorem append (h : Upheld text p ns q) (k : Upheld text q ms r) : Upheld text p (ns ++ ms) r where
  nested := h.nested.append k.nested
  stands := k.stands ∘ h.stands
  upholds stands n hn := (List.mem_append.mp hn).elim (h.upholds stands n)
    (k.upholds (h.stands stands) n)

/-- What was made may be left out. -/
theorem drop (h : Upheld text p ns q) : Upheld text p [] q :=
  ⟨h.nested.drop, h.stands, fun _ => nofun⟩

/-- A token is taken. -/
theorem taken (p : Progress σ) : Upheld text p [] (p.taken ⟨.strict, lines, w⟩) := by
  refine ⟨.taken p, fun stands => ?_, fun _ => nofun⟩
  rw [Progress.situation_taken]
  exact stands.taken

/-- What was made lies between the places. -/
theorem laid (h : Upheld text p ns q) (stands : p.situation.StandsIn text) :
    Laid text p.situation ns q.situation :=
  h.nested.laid stands.lies

end Upheld

/-- A parse that goes on stands further behind. -/
theorem Progress.Reaches.stands (h : Reaches ⟨.strict, lines, w⟩ (Upheld text) p q)
    (stands : p.situation.StandsIn text) : q.situation.StandsIn text ∧
      p.situation.token.span.start ≤ q.situation.token.span.start := by
  induction h with
  | refl p => exact ⟨stands, Nat.le_refl _⟩
  | made first _ ih =>
      obtain ⟨there, le⟩ := ih (first.stands stands)
      exact ⟨there, Nat.le_trans (first.laid stands).start_le le⟩
  | opens first _ ih =>
      have same := first.place.1
      obtain ⟨there, le⟩ := ih (same ▸ stands)
      rw [same] at le
      exact ⟨there, le⟩

/-- The last token that was taken is one of the text. -/
theorem Progress.EndsIn.token {test : Token → Prop}
    (h : p.EndsIn ⟨.strict, lines, w⟩ (Upheld text) test q)
    (stands : p.situation.StandsIn text) : ∃ l ∈ Lexeme.ofText text, test l.token ∧
      l.token.span.stop = q.situation.previousEnd ∧
        p.situation.token.span.start ≤ l.token.span.stop := by
  obtain ⟨r, reach, passes, last⟩ := h
  obtain ⟨there, le⟩ := reach.stands stands
  exact ⟨_, there.current_mem, passes, last.symm, Nat.le_trans le there.lies.token.span.le⟩

/-- What was made behind a token starts behind it. -/
theorem Upheld.behind_taken (h : Upheld text (p.taken ⟨.strict, lines, w⟩) [n] q)
    (goes : p.situation.token.isEnd = false) (stands : p.situation.StandsIn text) :
    p.situation.token.span.stop ≤ n.span.start := by
  have taken : Upheld text p [] (p.taken ⟨.strict, lines, w⟩) := .taken p
  have there := taken.stands stands
  have inside := (h.laid there).inside n (List.mem_singleton_self n)
  have behind := there.lies.behind
  rw [Progress.situation_taken] at behind inside
  rw [Situation.previousEnd_taken goes] at behind
  exact Nat.le_trans behind inside.1

/-- What stands in parentheses does not start with them. -/
theorem Progress.Inside.start_lt (h : p.Inside ⟨.strict, lines, w⟩ (Upheld text) n)
    (stands : p.situation.StandsIn text) : p.situation.token.span.start < n.span.start := by
  obtain ⟨opens, r, made⟩ := h
  have goes := Token.isEnd_of_isPunctuator opens
  exact Nat.lt_of_lt_of_le (stands.lies.token.nonempty goes) (made.behind_taken goes stands)

/-- Nor does it end with them. -/
theorem Progress.Enclosed.stop_lt (h : p.Enclosed ⟨.strict, lines, w⟩ (Upheld text) n q)
    (stands : p.situation.StandsIn text) : n.span.stop < q.situation.previousEnd := by
  obtain ⟨opens, r, made, closes, last⟩ := h
  have taken : Upheld text p [] (p.taken ⟨.strict, lines, w⟩) := .taken p
  have there := taken.stands stands
  have inside := (made.laid there).inside n (List.mem_singleton_self n)
  have behind := (made.stands there).lies.behind
  have nonempty := (made.stands there).lies.token.nonempty (Token.isEnd_of_isPunctuator closes)
  omega

/-! ## Laws of places as laws of nodes -/

/-- The node starts with the token of the first place and ends behind the last one that was
    taken before the second place. -/
structure Spans (text : List Char) (p : Progress σ) (n : Node) (q : Progress σ) : Prop where
  stands : p.situation.StandsIn text
  behind : q.situation.StandsIn text
  start : n.span.start = p.situation.token.span.start
  stop : n.span.stop = q.situation.previousEnd
  nonempty : n.span.start < n.span.stop

namespace Spans

variable {operator : BinaryOperator} {word : Keyword}

/-- Operands bind as the precedences of their operators say. -/
theorem bindsOperands (h : Spans text p n q)
    (leftOf : p.LeftOf ⟨.strict, lines, w⟩ (Upheld text) operator left)
    (rightOf : Progress.RightOf ⟨.strict, lines, w⟩ (Upheld text) operator right p q) :
    n.BindsOperands operator left right := by
  refine ⟨fun inner found start => ?_, fun inner found stop => ?_⟩
  · refine (leftOf inner found).resolve_left fun inside => ?_
    have behind := inside.start_lt h.stands
    rw [start, h.start] at behind
    exact Nat.lt_irrefl _ behind
  · refine (rightOf inner found).resolve_left fun ⟨r, reach, enclosed⟩ => ?_
    have before := enclosed.stop_lt (reach.stands h.stands).1
    rw [stop, h.stop] at before
    exact Nat.lt_irrefl _ before

/-- An arrow function in front of an operator has a block for a body. -/
theorem sparesOperand (h : Spans text p n q)
    (inFront : p.InFront ⟨.strict, lines, w⟩ (Upheld text) left) : n.SparesOperand left := by
  intro arrow start
  refine (inFront arrow).resolve_left fun inside => ?_
  have behind := inside.start_lt h.stands
  rw [start, h.start] at behind
  exact Nat.lt_irrefl _ behind

/-- One in front of a subscript has, or ends with `++` or `--`. -/
theorem sparesBase (h : Spans text p n q)
    (subscripted : p.Subscripted ⟨.strict, lines, w⟩ (Upheld text) left) :
    n.SparesBase text left := by
  intro arrow start
  rcases subscripted arrow with inside | block | ⟨r, stop, ends⟩
  · have behind := inside.start_lt h.stands
    rw [start, h.start] at behind
    exact absurd behind (Nat.lt_irrefl _)
  · exact .inl block
  · obtain ⟨l, there, update, last, le⟩ := ends.token h.stands
    have first := h.start
    exact .inr ⟨l, there, update, by omega⟩

/-- A statement ends at a semicolon, at a brace, at a new line or at the end. -/
theorem terminated (h : Spans text p n q)
    (ended : p.Ended ⟨.strict, lines, w⟩ (Upheld text) q) : n.Terminated text := by
  rcases ended with semicolon | allowed
  · obtain ⟨l, there, mark, last, -⟩ := semicolon.token h.stands
    exact .inl ⟨l, there, mark, last.trans h.stop.symm⟩
  · have some : 0 < n.span.stop := Nat.zero_lt_of_lt h.nonempty
    obtain ⟨words, last, rest, stream, stop⟩ := h.behind.last h.stop some
    exact .inr ⟨words, last, _, rest, stream, stop, allowed⟩

/-- The token behind a word that has an argument stands on the word's line. -/
theorem goesOn {argument : Option Node} (h : Spans text p n q)
    (restricted : p.Restricted word argument) (some : argument.isSome = true) :
    n.GoesOn text word := by
  obtain ⟨here, line⟩ := restricted
  obtain ⟨words, next, rest, stream, token⟩ := h.stands.next (Token.isEnd_of_isKeyword here)
  exact ⟨words, _, next, rest, stream, here, h.start.symm, token ▸ line some⟩

/-- A block reaches from brace to brace, and its statements tile what lies between. -/
theorem fillsBraces (h : Spans text p n q)
    (law : p.Lawful ⟨.strict, lines, w⟩ (Upheld text) n.shape q) : n.FillsBraces text := by
  obtain ⟨shape, span, leading, trailing⟩ := n
  cases shape with
  | blockStatement body =>
      obtain ⟨opening, r, s, first, series, closing, last⟩ := law
      have goes := Token.isEnd_of_isPunctuator opening
      have inside : r.situation.StandsIn text := first ▸ h.stands.taken
      obtain ⟨there, group, between, tiling⟩ := series.tiles Upheld.nested Upheld.stands inside
      obtain ⟨words, stream, -⟩ := h.stands.stream
      have close := Situation.upcoming_eq there.lies.placed.terminated
        (Token.isEnd_of_isPunctuator closing)
      rw [Situation.ahead, Situation.upcoming_eq h.stands.lies.placed.terminated goes, ← first,
        between, Situation.ahead, close] at stream
      refine ⟨words.map Lexeme.token, p.situation.token, group.map Lexeme.token,
        s.situation.token, s.situation.taken.ahead.map Lexeme.token, ?_,
        ⟨opening, h.start.symm⟩, ⟨closing, ?_⟩, tiling⟩
      · show (Lexeme.ofText text).map Lexeme.token = _
        rw [stream]
        simp [Situation.token]
      · rw [h.stop, last, Situation.previousEnd_taken (Token.isEnd_of_isPunctuator closing)]
  | _ => trivial

/-- Statements end, if their shapes ask for it. -/
theorem settled (h : Spans text p n q)
    (law : p.Lawful ⟨.strict, lines, w⟩ (Upheld text) n.shape q) : n.Settled text := by
  intro ended
  have ends : p.Ended ⟨.strict, lines, w⟩ (Upheld text) q := by
    revert ended law
    cases n.shape <;>
      first | exact fun law _ => law | exact fun law _ => law.1 | exact fun _ => nofun
  exact h.terminated ends

/-- The law of the place about operands is a law of the node. -/
theorem binds (h : Spans text p n q)
    (law : p.Lawful ⟨.strict, lines, w⟩ (Upheld text) n.shape q) : n.Binds := by
  obtain ⟨shape, span, leading, trailing⟩ := n
  cases shape with
  | binaryExpression operator left right =>
      obtain ⟨which, leftOf, rightOf, -⟩ := law
      exact ⟨which, h.bindsOperands leftOf rightOf⟩
  | logicalExpression operator left right =>
      obtain ⟨which, leftOf, rightOf, -⟩ := law
      exact ⟨which, h.bindsOperands leftOf rightOf⟩
  | _ => trivial

/-- So is the one about where no line may end. -/
theorem keepsLine (h : Spans text p n q)
    (law : p.Lawful ⟨.strict, lines, w⟩ (Upheld text) n.shape q) : n.KeepsLine text := by
  obtain ⟨shape, span, leading, trailing⟩ := n
  cases shape with
  | updateExpression operator argument isPrefix =>
      cases isPrefix with
      | true => trivial
      | false =>
          have ends : p.EndsIn ⟨.strict, lines, w⟩ (Upheld text) (fun t =>
            UpdateOperator.ofToken? t.kind = some operator ∧ t.newlineBefore = false) q := law
          obtain ⟨l, there, ⟨stored, line⟩, last, -⟩ := ends.token h.stands
          exact ⟨l, there, stored, line, last.trans h.stop.symm⟩
  | arrowFunctionExpression params body isExpression =>
      obtain ⟨r, before, ⟨arrow, line⟩, behind⟩ := law
      have there := before.stands h.stands
      have laid := before.laid h.stands
      -- Even without parameters no other `=>` stands behind the start of the function.
      have start : span.start ≤ r.situation.token.span.start := h.start ▸ laid.start_le
      refine ⟨_, there.current_mem, arrow, line, start,
        behind.behind_taken (Token.isEnd_of_isPunctuator arrow) there, fun x hx => ?_⟩
      exact Nat.le_trans (laid.inside x hx).2 there.lies.behind
  | throwStatement argument => exact h.goesOn law.2 rfl
  | returnStatement argument =>
      cases argument with
      | none => trivial
      | some argument => exact h.goesOn law.2 rfl
  | breakStatement label =>
      cases label with
      | none => trivial
      | some label => exact h.goesOn law.2 rfl
  | continueStatement label =>
      cases label with
      | none => trivial
      | some label => exact h.goesOn law.2 rfl
  | _ => trivial

/-- So is the one about arrow functions in front. -/
theorem sparesArrows (h : Spans text p n q)
    (law : p.Lawful ⟨.strict, lines, w⟩ (Upheld text) n.shape q) : n.SparesArrows text := by
  obtain ⟨shape, span, leading, trailing⟩ := n
  cases shape with
  | binaryExpression operator left right => exact h.sparesOperand law.2.2.2
  | logicalExpression operator left right => exact h.sparesOperand law.2.2.2
  | conditionalExpression test consequent alternate => exact h.sparesOperand law
  | callExpression callee arguments => exact h.sparesBase law
  | memberExpression object prop computed => exact h.sparesBase law
  | taggedTemplateExpression tag quasi => exact h.sparesBase law
  | _ => trivial

/-- So is the one about what objects hold. -/
theorem holdsEntries (law : p.Lawful ⟨.strict, lines, w⟩ (Upheld text) n.shape q) :
    n.HoldsEntries := by
  obtain ⟨shape, span, leading, trailing⟩ := n
  cases shape with
  | objectExpression properties => exact law
  | _ => trivial

/-- What is known where the node is closed is upheld by it. -/
theorem upholds (h : Spans text p n q)
    (law : p.Lawful ⟨.strict, lines, w⟩ (Upheld text) n.shape q)
    (parts : ∀ d ∈ n.parts, d.Settled text ∨ n.Heads d) : n.Upholds text where
  parts := parts
  binds := h.binds law
  line := h.keepsLine law
  arrows := h.sparesArrows law
  block := h.fillsBraces law
  entries := holdsEntries law

end Spans

/-! ## The traversal -/

namespace Upheld

/-- A node that no law is about may be put in the place of what is below it. -/
theorem of_free (nested : Nested text p [n] q)
    (stands : p.situation.StandsIn text → q.situation.StandsIn text)
    (plain : n.shape.isEnded = false) (free : n.shape.isGoverned = false)
    (parts : p.situation.StandsIn text →
      ∀ d ∈ n.parts, d.Settled text ∧ ∀ m ∈ d.subtree, m.Upholds text) :
    Upheld text p [n] q := by
  refine ⟨nested, stands, fun here m hm => ?_⟩
  obtain rfl := List.mem_singleton.mp hm
  exact ⟨Node.settled_of_not_isEnded plain, Node.forall_subtree (Node.upholds_of_free free
    fun d hd => .inl (parts here d hd).1) fun d hd => (parts here d hd).2⟩

/-- A node is closed over nodes that uphold everything, as the law of its shape has it. -/
theorem closed {shape : Shape Node} (opens : p.Opens ⟨.strict, lines, w⟩ own o q)
    (complete : Progress.Completes ⟨.strict, lines, w⟩ (Upheld text) own p q shape ns r s)
    (law : q.Lawful ⟨.strict, lines, w⟩ (Upheld text) shape r) :
    let closed := s.closeAt ⟨.strict, lines, w⟩ o shape r.situation.previousEnd
    Upheld text p [closed.1] closed.2 := by
  intro closed
  obtain ⟨same, start⟩ := opens.place
  have nested : Nested text p [closed.1] closed.2 :=
    .closed opens (complete.mono fun _ _ _ made => made.nested)
  have behind (stands : p.situation.StandsIn text) : r.situation.StandsIn text :=
    complete.below.stands (same ▸ stands)
  have there (stands : p.situation.StandsIn text) : closed.2.situation.StandsIn text :=
    complete.behind.stands (behind stands)
  have parts (stands : p.situation.StandsIn text) :
      ∀ d ∈ closed.1.parts, d.Settled text ∧ ∀ m ∈ d.subtree, m.Upholds text :=
    fun d hd => complete.below.upholds (same ▸ stands) d (complete.covers.2 ▸ hd)
  cases late : shape.closesLate with
  | true =>
      -- Only sequences and chunks close late, and no law is about them.
      have plain : shape.isEnded = false ∧ shape.isGoverned = false := by
        cases shape <;> first | exact ⟨rfl, rfl⟩ | cases late
      exact .of_free nested there plain.1 plain.2 parts
  | false =>
      refine ⟨nested, there, fun stands n hn => ?_⟩
      obtain rfl := List.mem_singleton.mp hn
      have covers : o.start < max r.situation.previousEnd o.start :=
        (nested.laid stands.lies).covers closed.1 (List.mem_singleton_self _) late
      -- The node ends where its last token does, so the law of the place is about the node.
      have stop : max r.situation.previousEnd o.start = r.situation.previousEnd := by omega
      have spans : Spans text q closed.1 r :=
        ⟨same ▸ stands, behind stands, same ▸ start, stop, covers⟩
      have upholds : closed.1.Upholds text :=
        spans.upholds law fun d hd => .inl (parts stands d hd).1
      exact ⟨spans.settled law, Node.forall_subtree upholds fun d hd => (parts stands d hd).2⟩

/-- The declaration in the head of a loop need not end. -/
theorem headed {od : Grammar.Opened} {kind : BindingKind} {found rest : List Node}
    {shape : Shape Node} {t u : Progress σ} (opens : p.Opens ⟨.strict, lines, w⟩ true o q)
    (between : Upheld text q [] r) (declared : r.Opens ⟨.strict, lines, w⟩ true od s)
    (below : Upheld text s found t) (filled : found ≠ []) :
    let declaration := t.closeAt ⟨.strict, lines, w⟩ od (.variableDeclaration kind found)
      t.situation.previousEnd
    Upheld text declaration.2 rest u → shape.Covers (declaration.1 :: rest) →
    shape.HeadedBy declaration.1 →
    let closed := u.closeAt ⟨.strict, lines, w⟩ o shape u.situation.previousEnd
    Upheld text p [closed.1] closed.2 := by
  intro declaration behind covers headed closed
  have nested : Nested text p [closed.1] closed.2 :=
    Progress.headed_of_closed .append .refl .closed opens between.nested declared below.nested
      filled behind.nested covers headed
  have inside (stands : p.situation.StandsIn text) : s.situation.StandsIn text := by
    rw [declared.place.1]
    exact between.stands (opens.place.1 ▸ stands)
  have after (stands : p.situation.StandsIn text) : declaration.2.situation.StandsIn text :=
    below.stands (inside stands)
  -- A loop is governed by no law and needs no end of its own.
  have free : shape.isGoverned = false ∧ shape.isEnded = false := by
    cases headed <;> exact ⟨rfl, rfl⟩
  refine ⟨nested, fun stands => behind.stands (after stands), fun stands n hn => ?_⟩
  obtain rfl := List.mem_singleton.mp hn
  have first := below.upholds (inside stands)
  have others := behind.upholds (after stands)
  have whole : closed.1.parts = declaration.1 :: rest := covers.2
  -- The declaration is the one part that need not end: it heads the loop.
  have heads : closed.1.Heads declaration.1 := ⟨⟨kind, found, rfl⟩, headed⟩
  have declares : declaration.1.Upholds text :=
    ⟨fun d hd => .inl (first d hd).1, trivial, trivial, trivial, trivial, trivial⟩
  refine ⟨Node.settled_of_not_isEnded free.2, Node.forall_subtree
    (Node.upholds_of_free free.1 fun d hd => ?_) fun d hd => ?_⟩
  · rcases List.mem_cons.mp (whole ▸ hd) with rfl | hd
    · exact .inr heads
    · exact .inl (others d hd).1
  · rcases List.mem_cons.mp (whole ▸ hd) with rfl | hd
    · exact Node.forall_subtree declares fun d hd => (first d hd).2
    · exact (others d hd).2

/-- The value of a property that is written by its name alone upholds everything. -/
theorem of_twin {key value : Node} (name : key.identifierName?.isSome = true)
    (twin : p.Twin ⟨.strict, lines, w⟩ (Upheld text) key value q) :
    (p.situation.StandsIn text → q.situation.StandsIn text) ∧ (p.situation.StandsIn text →
      ∀ x ∈ [key, value], x.Settled text ∧ ∀ m ∈ x.subtree, m.Upholds text) := by
  have detached : key.detached.Settled text ∧ ∀ m ∈ key.detached.subtree, m.Upholds text :=
    Node.upholds_of_name name
  cases twin with
  | name named =>
      refine ⟨named.stands, fun _ x hx => ?_⟩
      rcases List.mem_pair.mp hx with rfl | rfl
      · exact Node.upholds_of_name name
      · exact detached
  | @default q r right _ named _ behind closes =>
      subst closes
      refine ⟨behind.stands ∘ named.stands, fun stands x hx => ?_⟩
      rcases List.mem_pair.mp hx with rfl | rfl
      · exact Node.upholds_of_name name
      -- A default is a node over the name and an expression, and no law is about it.
      have both : ∀ d ∈ [key.detached, right],
          d.Settled text ∧ ∀ m ∈ d.subtree, m.Upholds text := by
        intro d hd
        rcases List.mem_pair.mp hd with rfl | rfl
        · exact detached
        · exact behind.upholds (named.stands stands) _ (List.mem_singleton_self _)
      exact ⟨Node.settled_of_not_isEnded rfl, Node.forall_subtree (Node.upholds_of_free rfl
        fun d hd => .inl (both d hd).1) fun d hd => (both d hd).2⟩

end Upheld

/-- Upholding keeps up with every strict parse. -/
def upholding (text : List Char) (lines : LineIndex) (w : Observer σ) :
    Assembly ⟨.strict, lines, w⟩ where
  Made := Upheld text
  still {p q} h := by
    refine ⟨.still h, fun stands => ?_, fun _ => nofun⟩
    obtain ⟨depth, inFunction, rfl⟩ := h
    exact stands.of_same rfl rfl rfl
  append := .append
  forward h := h.nested.forward
  taken := .taken
  opened loose _ := by cases loose
  closed opens complete law := .closed opens complete (law rfl)
  headed := .headed
  shorthand opens name twin := by
    obtain ⟨there, below⟩ := Upheld.of_twin name twin
    -- Halves that are one node uphold what they uphold alone.
    have same := opens.place.1
    exact .of_free (.shorthand opens name (twin.mono fun _ _ _ h => h.nested))
      (fun stands => there (same ▸ stands)) rfl rfl fun stands => below (same ▸ stands)
  chunk read := .of_free (.chunk read) (Upheld.taken _).stands rfl rfl fun _ => nofun
  filler loose := by cases loose
  dropped h _ := h.drop
  word _ word next := word.taken.drop.append next
  staticAccessor opens word second parts _ := by
    have same := opens.place.1
    have words := word.taken.drop.append second.taken.drop
    exact .of_free (.staticAccessor opens word.taken.nested second.taken.nested parts.nested)
      (fun stands => parts.stands (words.stands (same ▸ stands))) rfl rfl
      fun stands => parts.upholds (words.stands (same ▸ stands))
  reinterpreted h := by
    refine ⟨h.nested.reinterpreted, h.stands, fun stands m hm => ?_⟩
    obtain ⟨n, hn, rfl⟩ := List.mem_map.mp hm
    exact n.upholds_toPattern text (h.upholds stands n hn)

/-- All nodes of a strict tree uphold everything. -/
theorem parseText_upholds {observed : σ} {program : Node}
    (h : (parseText .strict text lines w observed).1 = .tree program) :
    ∀ n ∈ program.subtree, n.Upholds text := by
  obtain ⟨first, rest, body, q, lexemes, series, -, closed, -⟩ :=
    parseText_made (upholding text lines w) (Prod.ext h rfl)
  have made : Upheld text _ body q := series.made
  have start : (Progress.entry ⟨.strict, lines, w⟩ first rest
      (w.opened 0 observed).2).situation.StandsIn text := entry_standsIn lexemes
  have parts : program.parts = body := by rw [closed]; rfl
  have shape : program.shape = .program body := by rw [closed]; rfl
  have below := made.upholds start
  refine Node.forall_subtree (Node.upholds_of_free (by rw [shape]; rfl) fun d hd => ?_)
    fun d hd => (below d (parts ▸ hd)).2
  exact .inl (below d (parts ▸ hd)).1

end

end ScriptTree

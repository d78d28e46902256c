import ScriptTree.Proofs.Grammar.Nodes
import ScriptTree.Proofs.Grammar.Running
import ScriptTree.Proofs.Node.Subtree

/-! # Laws — what is known where a node is closed

    Some nodes are closed only after certain tokens were looked at.  An operator
    takes the operands that its binding power lets it have; a statement ends with a
    semicolon or where one may be left out; a few tokens must stand on the line of
    what is in front of them; the statements of a block follow each other from brace to
    brace, and an object has properties only.  `Lawful` says so for each shape, in terms
    of the places of the parse and of what was made between them.

    An operand that is an operation or an arrow function itself either stands between
    parentheses or is told by the token behind it.  So what is known of operands, as
    far as the laws of what is closed over them need it, is stated here as well. -/

namespace ScriptTree

/-- The operator between two operands, where the node has one. -/
def Node.binaryOperator? (n : Node) : Option BinaryOperator :=
  match n.shape with
  | .binaryExpression operator _ _ => some operator
  | .logicalExpression operator _ _ => some operator
  | _ => none

/-- The node is an arrow function. -/
def Node.isArrow (n : Node) : Bool :=
  match n.shape with
  | .arrowFunctionExpression .. => true
  | _ => false

/-- The node is an arrow function whose body stands between braces. -/
def Node.isBlockArrow (n : Node) : Bool :=
  match n.shape with
  | .arrowFunctionExpression _ _ isExpression => !isExpression
  | _ => false

/-- The token stores into an operand. -/
def Token.IsUpdate (t : Token) : Prop := (UpdateOperator.ofToken? t.kind).isSome = true

/-- Operations between two operands, and arrow functions. -/
def Shape.isOperation {α : Type} : Shape α → Bool
  | binaryExpression .. => true
  | logicalExpression .. => true
  | arrowFunctionExpression .. => true
  | _ => false

/-- Only operations have binary operators. -/
theorem Node.binaryOperator?_eq_none {n : Node} (h : n.shape.isOperation = false) :
    n.binaryOperator? = none := by
  unfold binaryOperator?
  split <;> simp_all [Shape.isOperation]

/-- Only operations are arrow functions. -/
theorem Node.isArrow_eq_false {n : Node} (h : n.shape.isOperation = false) :
    n.isArrow = false := by
  unfold isArrow
  split <;> simp_all [Shape.isOperation]

/-- The shape is no operation and no pattern. -/
def Shape.isPlain {α : Type} (shape : Shape α) : Bool := !shape.isOperation && !shape.isPattern

/-- A plain shape is neither. -/
theorem Shape.of_isPlain {α : Type} {shape : Shape α} (h : shape.isPlain = true) :
    shape.isOperation = false ∧ shape.isPattern = false := by
  rw [isPlain, Bool.and_eq_true, Bool.not_eq_true', Bool.not_eq_true'] at h
  exact h

/-- The value is the name with a default, which only patterns may have. -/
structure Node.Defaults (key value : Node) : Prop where
  name : key.identifierName?.isSome = true
  start : value.span.start = key.span.start
  shape : ∃ right, value.shape = .assignmentPattern key.detached right

/-- The node is a property whose value is no pattern, unless it is a name with a default
    that stands for key and value. -/
def Node.IsEntry (n : Node) : Prop :=
  ∃ key value kind computed shorthand isMethod,
    n.shape = .property key value kind computed shorthand isMethod ∧
      (value.shape.isPattern = false ∨
        kind = .init ∧ computed = false ∧ shorthand = true ∧ isMethod = false ∧
          key.Defaults value)

/-- Something has to be known where a node of the shape is closed. -/
def Shape.isGoverned {α : Type} : Shape α → Bool
  | blockStatement _ => true
  | objectExpression _ => true
  | binaryExpression .. => true
  | logicalExpression .. => true
  | conditionalExpression .. => true
  | callExpression .. => true
  | memberExpression .. => true
  | taggedTemplateExpression .. => true
  | updateExpression _ _ isPrefix => !isPrefix
  | arrowFunctionExpression .. => true
  | variableDeclaration .. => true
  | expressionStatement _ => true
  | debuggerStatement => true
  | returnStatement _ => true
  | throwStatement _ => true
  | breakStatement _ => true
  | continueStatement _ => true
  | _ => false

/-- The declaration stands in the head of the loop. -/
inductive Shape.HeadedBy {α : Type} (declaration : α) : Shape α → Prop where
  | counted {test update : Option α} {body : α} :
    HeadedBy declaration (.forStatement (some declaration) test update body)
  | members {right body : α} : HeadedBy declaration (.forInStatement declaration right body)
  | elements {right body : α} : HeadedBy declaration (.forOfStatement declaration right body)

namespace Progress

variable {σ : Type}

/-- Only the levels and what stands around are different. -/
def Still (p q : Progress σ) : Prop :=
  ∃ depth inFunction, q = ⟨{ p.situation with depth, inFunction }, p.observed⟩

/-- The same token comes next, behind the same last one. -/
structure SamePlace (p q : Progress σ) : Prop where
  token : q.situation.token = p.situation.token
  previousEnd : q.situation.previousEnd = p.situation.previousEnd

/-- A parse that stands still is at the same place. -/
theorem Still.samePlace {p q : Progress σ} (h : p.Still q) : p.SamePlace q := by
  obtain ⟨depth, inFunction, rfl⟩ := h
  exact ⟨rfl, rfl⟩

/-- A place is told by the situation. -/
theorem SamePlace.of_eq {p q : Progress σ} (h : q.situation = p.situation) : p.SamePlace q :=
  ⟨congrArg Situation.token h, congrArg Situation.previousEnd h⟩

/-- Taking a token does not depend on the levels. -/
theorem Still.taken {setting : Setting σ} {p q : Progress σ} (h : p.Still q) :
    (p.taken setting).Still (q.taken setting) := by
  obtain ⟨depth, inFunction, rfl⟩ := h
  refine ⟨depth, inFunction, ?_⟩
  cases ends : p.situation.token.isEnd with
  | true =>
      have same : Situation.token { p.situation with depth, inFunction } = p.situation.token := rfl
      simp [Progress.taken, same, ends]
  | false =>
      have same : Situation.token { p.situation with depth, inFunction } = p.situation.token := rfl
      simp [Progress.taken, Situation.taken, same, ends]

/-- How a node is opened: by itself, or as one that starts where a part of it
    does. -/
inductive Opens (setting : Setting σ) (p : Progress σ) :
    Bool → Grammar.Opened → Progress σ → Prop where
  /-- At the current token, with the comments that lead it. -/
  | here : p.Opens setting true
      ⟨p.situation.token.span.start,
        (setting.observer.opened p.situation.token.span.start p.observed).1⟩
      ⟨p.situation, (setting.observer.opened p.situation.token.span.start p.observed).2⟩
  /-- Where a part of it starts. -/
  | inherited : p.Opens setting false (Grammar.openedAt p.situation.token.span.start) p

/-- A node starts with a token, at the place where it was opened. -/
theorem Opens.place {setting : Setting σ} {own : Bool} {o : Grammar.Opened} {p q : Progress σ}
    (h : p.Opens setting own o q) :
    q.situation = p.situation ∧ o.start = p.situation.token.span.start := by
  cases h <;> exact ⟨rfl, rfl⟩

/-- A node that starts there was opened by itself, and closing it, behind the last
    token that was taken, was the last thing done. -/
def Seals (setting : Setting σ) (start : Nat) (n : Node) (q : Progress σ) : Prop :=
  ∃ (o : Grammar.Opened) (shape : Shape Node) (r : Progress σ), o.start = start ∧
    shape.inheritsStart = false ∧ shape.closesLate = false ∧
    let closed := r.closeAt setting o shape r.situation.previousEnd
    n = closed.1 ∧ closed.2.Still q

/-- Another level changes nothing about that. -/
theorem Seals.levels {setting : Setting σ} {start : Nat} {n : Node} {q : Progress σ}
    (h : q.Seals setting start n) {depth : Nat} {inFunction : Bool} :
    Seals setting start n ⟨{ q.situation with depth, inFunction }, q.observed⟩ := by
  obtain ⟨o, shape, r, place, own, late, same, _, _, rfl⟩ := h
  exact ⟨o, shape, r, place, own, late, same, _, _, rfl⟩

/-- Statements that were made one behind the other, with no token between them, each
    of them closed last if no error was passed.  One that took no token is dropped, and
    a token is skipped in its place. -/
inductive Series (setting : Setting σ) (made : Progress σ → List Node → Progress σ → Prop) :
    Progress σ → List Node → Progress σ → Prop where
  | nil (p : Progress σ) : Series setting made p [] p
  | cons {p q r : Progress σ} {n : Node} {ns : List Node} (first : made p [n] q)
      (seals : setting.mode = .strict → Seals setting p.situation.token.span.start n q)
      (rest : Series setting made q ns r) : Series setting made p (n :: ns) r
  | skip {p q r : Progress σ} {n : Node} {ns : List Node} (first : made p [n] q)
      (none : q.situation.consumed = p.situation.consumed)
      (rest : Series setting made (q.taken setting) ns r) : Series setting made p ns r

/-- Two series in turn. -/
theorem Series.append {setting : Setting σ}
    {made : Progress σ → List Node → Progress σ → Prop} {p q r : Progress σ}
    {ns ms : List Node} (h : Series setting made p ns q) (k : Series setting made q ms r) :
    Series setting made p (ns ++ ms) r := by
  induction h with
  | nil p => exact k
  | cons first seals _ ih => exact .cons first seals (ih k)
  | skip first none _ ih => exact .skip first none (ih k)

section

variable (setting : Setting σ) (made : Progress σ → List Node → Progress σ → Prop)

/-- The parse went from one place to the other: nodes were made, or one was opened that
    is not closed yet. -/
inductive Reaches : Progress σ → Progress σ → Prop where
  | refl (p : Progress σ) : Reaches p p
  | made {p q r : Progress σ} {ns : List Node} (first : made p ns q) (rest : Reaches q r) :
    Reaches p r
  | opens {p q r : Progress σ} {own : Bool} {o : Grammar.Opened}
      (first : p.Opens setting own o q) (rest : Reaches q r) : Reaches p r

/-- What is reached in two goes is reached. -/
theorem Reaches.trans {setting : Setting σ}
    {made : Progress σ → List Node → Progress σ → Prop} {p q r : Progress σ}
    (h : Reaches setting made p q) (k : Reaches setting made q r) : Reaches setting made p r := by
  induction h with
  | refl p => exact k
  | made first _ ih => exact .made first (ih k)
  | opens first _ ih => exact .opens first (ih k)

/-- The last token that was taken between the two places is such a one. -/
def EndsIn (test : Token → Prop) (p q : Progress σ) : Prop :=
  ∃ r, Reaches setting made p r ∧ test r.situation.token ∧
    q.situation.previousEnd = r.situation.token.span.stop

/-- The node was made behind an opening parenthesis. -/
def Inside (p : Progress σ) (n : Node) : Prop :=
  p.situation.token.isPunctuator .openParen = true ∧ ∃ r, made (p.taken setting) [n] r

/-- The node was made between parentheses that begin and end what was parsed. -/
def Enclosed (p : Progress σ) (n : Node) (q : Progress σ) : Prop :=
  p.situation.token.isPunctuator .openParen = true ∧ ∃ r, made (p.taken setting) [n] r ∧
    r.situation.token.isPunctuator .closeParen = true ∧
    q.situation.previousEnd = r.situation.token.span.stop

/-- What is enclosed in parentheses lies inside of them. -/
theorem Enclosed.inside {setting : Setting σ}
    {made : Progress σ → List Node → Progress σ → Prop} {p q : Progress σ} {n : Node}
    (h : p.Enclosed setting made n q) : p.Inside setting made n := by
  obtain ⟨opens, r, between, -, -⟩ := h
  exact ⟨opens, r, between⟩

/-- No subscript follows an operand, unless it ends with `++` or `--`. -/
def EndsOperand (p q : Progress σ) : Prop :=
  Grammar.Subscript.ofToken? false q.situation.token = none ∨ p.EndsIn setting made Token.IsUpdate q

/-- What follows an assignment does not continue it, but for a subscript behind `++`
    or `--`. -/
structure EndsAssignment (noIn : Bool) (p q : Progress σ) : Prop where
  operator : BinaryOperator.ofToken? noIn q.situation.token.kind = none
  question : q.situation.token.isPunctuator .question = false
  operand : p.EndsOperand setting made q

/-- The node ends with the last token that was taken.  Behind it an arrow function with
    an expression for a body cannot be continued. -/
def EndsArrow (p : Progress σ) (n : Node) (q : Progress σ) : Prop :=
  n.span.stop = max q.situation.previousEnd n.span.start ∧
    (n.isBlockArrow = true ∨ p.EndsAssignment setting made false q)

/-- What is known of an operand: it is no pattern, and operations stand between
    parentheses. -/
structure Operand (p : Progress σ) (n : Node) (q : Progress σ) : Prop where
  expression : n.shape.isPattern = false
  binary : n.binaryOperator?.isSome = true → p.Enclosed setting made n q
  arrow : n.isArrow = true → p.Enclosed setting made n q ∨ p.EndsArrow setting made n q

/-- What is known behind a chain of operators that bind tighter than `minimum`. -/
structure Climbed (noIn : Bool) (minimum : Nat) (p : Progress σ) (n : Node) (q : Progress σ) :
    Prop where
  expression : n.shape.isPattern = false
  binary : ∀ operator, n.binaryOperator? = some operator →
    p.Enclosed setting made n q ∨ minimum < operator.precedence
  arrow : n.isArrow = true → p.Enclosed setting made n q ∨ p.EndsArrow setting made n q
  stops : ∀ operator, BinaryOperator.ofToken? noIn q.situation.token.kind = some operator →
    operator.precedence ≤ minimum
  operand : p.EndsOperand setting made q

/-- An operation in front of an operator stands between parentheses, or binds at least
    as tight; none that is not in parentheses stands in front of `**`. -/
def LeftOf (operator : BinaryOperator) (p : Progress σ) (left : Node) : Prop :=
  ∀ inner, left.binaryOperator? = some inner → p.Inside setting made left ∨
    operator.precedence ≤ inner.precedence ∧ operator ≠ .power

/-- An operation behind an operator stands between parentheses, or binds tighter, or
    both are `**`. -/
def RightOf (operator : BinaryOperator) (right : Node) (p q : Progress σ) : Prop :=
  ∀ inner, right.binaryOperator? = some inner →
    (∃ r, Reaches setting made p r ∧ r.Enclosed setting made right q) ∨
      operator.precedence < inner.precedence ∨ operator = .power ∧ inner = .power

/-- An arrow function in front of what takes no arrow function stands between
    parentheses or has a block for a body. -/
def InFront (p : Progress σ) (n : Node) : Prop :=
  n.isArrow = true → p.Inside setting made n ∨ n.isBlockArrow = true

/-- One in front of a subscript may end with `++` or `--` as well. -/
def Subscripted (p : Progress σ) (n : Node) : Prop :=
  n.isArrow = true → p.Inside setting made n ∨ n.isBlockArrow = true ∨
    ∃ q : Progress σ, n.span.stop = max q.situation.previousEnd n.span.start ∧
      p.EndsIn setting made Token.IsUpdate q

/-- A statement ends with a semicolon, or one may be left out behind it. -/
def Ended (p q : Progress σ) : Prop :=
  p.EndsIn setting made (·.isPunctuator .semicolon = true) q ∨
    q.situation.allowsMissingSemicolon = true

/-- The statement begins with the word, and what belongs to it follows on the line. -/
def Restricted (word : Keyword) (argument : Option Node) (p : Progress σ) : Prop :=
  p.situation.token.isKeyword word = true ∧
    (argument.isSome = true → p.situation.taken.token.newlineBefore = false)

/-- The statements follow each other from behind the brace at the first place to the brace
    in front of the second one. -/
def Braced (p : Progress σ) (body : List Node) (q : Progress σ) : Prop :=
  p.situation.token.isPunctuator .openBrace = true ∧ ∃ r s,
    r.situation = p.situation.taken ∧ Series setting made r body s ∧
      s.situation.token.isPunctuator .closeBrace = true ∧ q.situation = s.situation.taken

/-- What is known where a node of the shape is closed at the second place, behind which
    the first one came when it was opened. -/
def Lawful (p : Progress σ) (shape : Shape Node) (q : Progress σ) : Prop :=
  match shape with
  | .blockStatement body => p.Braced setting made body q
  | .objectExpression properties => ∀ x ∈ properties, x.IsEntry
  | .binaryExpression operator left right =>
    operator.isLogical = false ∧ p.LeftOf setting made operator left ∧
      RightOf setting made operator right p q ∧ p.InFront setting made left
  | .logicalExpression operator left right =>
    operator.isLogical = true ∧ p.LeftOf setting made operator left ∧
      RightOf setting made operator right p q ∧ p.InFront setting made left
  | .conditionalExpression test _ _ => p.InFront setting made test
  | .callExpression callee _ => p.Subscripted setting made callee
  | .memberExpression object _ _ => p.Subscripted setting made object
  | .taggedTemplateExpression tag _ => p.Subscripted setting made tag
  | .updateExpression operator _ false => p.EndsIn setting made
      (fun t => UpdateOperator.ofToken? t.kind = some operator ∧ t.newlineBefore = false) q
  | .arrowFunctionExpression params body _ => ∃ r, made p params r ∧
      (r.situation.token.isPunctuator .arrow = true ∧ r.situation.token.newlineBefore = false) ∧
        made (r.taken setting) [body] q
  | .variableDeclaration _ _ => p.Ended setting made q
  | .expressionStatement _ => p.Ended setting made q
  | .debuggerStatement => p.Ended setting made q
  | .returnStatement argument => p.Ended setting made q ∧ p.Restricted .returnWord argument
  | .throwStatement argument => p.Ended setting made q ∧ p.Restricted .throwWord (some argument)
  | .breakStatement label => p.Ended setting made q ∧ p.Restricted .breakWord label
  | .continueStatement label => p.Ended setting made q ∧ p.Restricted .continueWord label
  | _ => True

variable {setting made}

/-- Nothing has to be known of the other shapes. -/
theorem lawful_of_free {shape : Shape Node} (free : shape.isGoverned = false) (p q : Progress σ) :
    p.Lawful setting made shape q := by
  cases shape with
  | updateExpression operator argument isPrefix => cases isPrefix <;> trivial
  | _ => trivial

end

end Progress

end ScriptTree

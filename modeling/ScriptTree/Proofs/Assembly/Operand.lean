import ScriptTree.Proofs.Assembly.Basic

/-! # Operands — what is known behind them

    What is known of an operand or an assignment tells of the place where it began and
    of what comes next.  It stays known if more stands in front of the place or if only
    levels are changed, and it is what an operator or a subscript behind the operand
    has to know of it. -/

namespace ScriptTree

variable {σ : Type} {setting : Setting σ} {M : Assembly setting} {p p' q q' r : Progress σ}
  {n left : Node} {noIn : Bool} {minimum : Nat} {test : Token → Prop}

namespace Assembly

/-- What is made leads from its beginning to its end. -/
theorem reaches_of_made {ns : List Node} (made : M.Made p ns q) :
    Progress.Reaches setting M.Made p q :=
  .made made (.refl q)

end Assembly

open Assembly

namespace Progress

/-! ## Other places to begin and to end -/

/-- The beginning may be moved to the front. -/
theorem EndsIn.after (reach : Reaches setting M.Made p p') (h : p'.EndsIn setting M.Made test q) :
    p.EndsIn setting M.Made test q := by
  obtain ⟨r, further, passes, last⟩ := h
  exact ⟨r, reach.trans further, passes, last⟩

/-- The end may be replaced by one at the same place. -/
theorem EndsIn.place (h : p.EndsIn setting M.Made test q) (same : q.SamePlace q') :
    p.EndsIn setting M.Made test q' := by
  obtain ⟨r, further, passes, last⟩ := h
  exact ⟨r, further, passes, same.previousEnd.trans last⟩

/-- The token that is taken is the last one then. -/
theorem EndsIn.taken (goes : p.situation.token.isEnd = false) (passes : test p.situation.token) :
    p.EndsIn setting M.Made test (p.taken setting) := by
  refine ⟨p, .refl p, passes, ?_⟩
  rw [situation_taken, Situation.previousEnd_taken goes]

/-- Behind an operand, the beginning may be moved to the front. -/
theorem EndsOperand.after (reach : Reaches setting M.Made p p')
    (h : p'.EndsOperand setting M.Made q) : p.EndsOperand setting M.Made q :=
  h.imp_right (.after reach)

/-- The end may be replaced there too. -/
theorem EndsOperand.place (h : p.EndsOperand setting M.Made q) (same : q.SamePlace q') :
    p.EndsOperand setting M.Made q' := by
  refine h.imp (fun none => ?_) fun ends => ends.place same
  rw [same.token]
  exact none

/-- Behind an assignment, the beginning may be moved to the front. -/
theorem EndsAssignment.after (reach : Reaches setting M.Made p p')
    (h : p'.EndsAssignment setting M.Made noIn q) : p.EndsAssignment setting M.Made noIn q :=
  ⟨h.operator, h.question, h.operand.after reach⟩

/-- The end may be replaced. -/
theorem EndsAssignment.place (h : p.EndsAssignment setting M.Made noIn q)
    (same : q.SamePlace q') : p.EndsAssignment setting M.Made noIn q' := by
  refine ⟨?_, ?_, h.operand.place same⟩
  · rw [same.token]
    exact h.operator
  · rw [same.token]
    exact h.question

/-- Behind an arrow function, the beginning may be moved to the front. -/
theorem EndsArrow.after (reach : Reaches setting M.Made p p')
    (h : p'.EndsArrow setting M.Made n q) : p.EndsArrow setting M.Made n q :=
  ⟨h.1, h.2.imp_right (.after reach)⟩

/-- The end may be replaced. -/
theorem EndsArrow.place (h : p.EndsArrow setting M.Made n q) (same : q.SamePlace q') :
    p.EndsArrow setting M.Made n q' := by
  refine ⟨?_, h.2.imp_right fun ends => ends.place same⟩
  rw [same.previousEnd]
  exact h.1

/-- Behind parentheses the end may be replaced. -/
theorem Enclosed.place (h : p.Enclosed setting M.Made n q) (same : q.SamePlace q') :
    p.Enclosed setting M.Made n q' := by
  obtain ⟨opens, r, between, closes, last⟩ := h
  exact ⟨opens, r, between, closes, same.previousEnd.trans last⟩

/-- The levels in front do not matter. -/
theorem Enclosed.levels (still : p.Still p') (h : p'.Enclosed setting M.Made n q) :
    p.Enclosed setting M.Made n q := by
  obtain ⟨opens, r, between, closes, last⟩ := h
  have taken : M.Made (p.taken setting) [] (p'.taken setting) := M.still still.taken
  exact ⟨still.samePlace.token ▸ opens, r, M.append taken between, closes, last⟩

/-- An operand ends at any such place. -/
theorem Operand.place (h : p.Operand setting M.Made n q) (same : q.SamePlace q') :
    p.Operand setting M.Made n q' where
  expression := h.expression
  binary operation := (h.binary operation).place same
  arrow arrow := (h.arrow arrow).imp (fun ends => ends.place same) fun ends => ends.place same

/-- An operand begins at any such place. -/
theorem Operand.levels (still : p.Still p') (h : p'.Operand setting M.Made n q) :
    p.Operand setting M.Made n q where
  expression := h.expression
  binary operation := (h.binary operation).levels still
  arrow arrow := (h.arrow arrow).imp (.levels still) (.after (reaches_of_made (M.still still)))

/-- A chain of operators ends at any such place. -/
theorem Climbed.place (h : p.Climbed setting M.Made noIn minimum n q) (same : q.SamePlace q') :
    p.Climbed setting M.Made noIn minimum n q' where
  expression := h.expression
  binary operator found := (h.binary operator found).imp_left fun ends => ends.place same
  arrow arrow := (h.arrow arrow).imp (fun ends => ends.place same) fun ends => ends.place same
  stops operator next := h.stops operator (same.token ▸ next)
  operand := h.operand.place same

/-- What is no operation and no pattern is an operand wherever it stands. -/
theorem operand_of_plain (plain : n.shape.isPlain = true) : p.Operand setting M.Made n q where
  expression := (Shape.of_isPlain plain).2
  binary operation := by
    rw [Node.binaryOperator?_eq_none (Shape.of_isPlain plain).1] at operation
    cases operation
  arrow arrow := by
    rw [Node.isArrow_eq_false (Shape.of_isPlain plain).1] at arrow
    cases arrow

/-! ## What comes behind an operand -/

/-- A token that begins a subscript where calls may not stand begins one elsewhere. -/
theorem subscript_of_noCalls {noCalls : Bool} {t : Token} {kind : Grammar.Subscript}
    (h : Grammar.Subscript.ofToken? noCalls t = some kind) :
    Grammar.Subscript.ofToken? false t ≠ none := by
  cases noCalls with
  | false => simp [h]
  | true =>
      intro none
      simp only [Grammar.Subscript.ofToken?, Bool.not_true, Bool.false_and, Bool.not_false,
        Bool.true_and] at h none
      grind

/-- In front of a subscript. -/
theorem Operand.subscripted {noCalls : Bool} {kind : Grammar.Subscript}
    (h : p.Operand setting M.Made n q)
    (next : Grammar.Subscript.ofToken? noCalls q.situation.token = some kind) :
    p.Subscripted setting M.Made n := by
  intro arrow
  rcases h.arrow arrow with enclosed | ⟨stop, block | ends⟩
  · exact .inl enclosed.inside
  · exact .inr (.inl block)
  · refine .inr (.inr ⟨q, stop, ends.operand.resolve_left (subscript_of_noCalls next)⟩)

/-- An operator where `in` is none is one elsewhere as well. -/
theorem operator_of_noIn {kind : TokenKind} {operator : BinaryOperator}
    (h : BinaryOperator.ofToken? noIn kind = some operator) :
    BinaryOperator.ofToken? false kind = some operator := by
  cases noIn with
  | false => exact h
  | true =>
      unfold BinaryOperator.ofToken? at h ⊢
      split at h <;> simp_all

/-- An arrow function that is not in parentheses and is followed by what does not follow
    an assignment has a block for a body. -/
theorem inFront_of_arrow (h : n.isArrow = true →
      p.Enclosed setting M.Made n q ∨ p.EndsArrow setting M.Made n q)
    (continued : ¬ p.EndsAssignment setting M.Made false q) : p.InFront setting M.Made n := by
  intro arrow
  rcases h arrow with enclosed | ⟨-, block | ends⟩
  · exact .inl enclosed.inside
  · exact .inr block
  · exact absurd ends continued

/-! ## Chains of operators -/

/-- What is known while operators are folded onto an operand: an operation that is not in
    parentheses binds tighter than `minimum`, and what comes next does not bind tighter
    than it. -/
structure Folded (setting : Setting σ) (made : Progress σ → List Node → Progress σ → Prop)
    (noIn : Bool) (minimum : Nat) (p : Progress σ) (n : Node) (q : Progress σ) : Prop where
  expression : n.shape.isPattern = false
  binary : ∀ operator, n.binaryOperator? = some operator →
    p.Enclosed setting made n q ∨ minimum < operator.precedence ∧
      ∀ next, BinaryOperator.ofToken? noIn q.situation.token.kind = some next →
        next.precedence ≤ operator.precedence ∧ next ≠ .power
  arrow : n.isArrow = true → p.Enclosed setting made n q ∨ p.EndsArrow setting made n q
  operand : p.EndsOperand setting made q

/-- A single operand is a chain. -/
theorem Folded.of_operand (operand : p.Operand setting M.Made n q)
    (ends : p.EndsOperand setting M.Made q) : p.Folded setting M.Made noIn minimum n q where
  expression := operand.expression
  binary operator found := .inl (operand.binary (by rw [found]; rfl))
  arrow := operand.arrow
  operand := ends

/-- It may end at any such place. -/
theorem Folded.place (h : p.Folded setting M.Made noIn minimum n q) (same : q.SamePlace q') :
    p.Folded setting M.Made noIn minimum n q' where
  expression := h.expression
  binary operator found := by
    rw [same.token]
    exact (h.binary operator found).imp_left fun ends => ends.place same
  arrow arrow := (h.arrow arrow).imp (fun ends => ends.place same) fun ends => ends.place same
  operand := h.operand.place same

/-- The chain ends in front of what does not bind tighter than `minimum`. -/
theorem Folded.climbed (h : p.Folded setting M.Made noIn minimum n q)
    (stops : ∀ operator, BinaryOperator.ofToken? noIn q.situation.token.kind = some operator →
      operator.precedence ≤ minimum) : p.Climbed setting M.Made noIn minimum n q where
  expression := h.expression
  binary operator found := (h.binary operator found).imp_right And.left
  arrow := h.arrow
  stops := stops
  operand := h.operand

/-- No operator binds tighter than `**`. -/
theorem precedence_le (operator : BinaryOperator) : operator.precedence ≤ 11 := by
  cases operator <;> decide

/-- Only `**` binds as tight. -/
theorem eq_power {operator : BinaryOperator} (h : 11 ≤ operator.precedence) :
    operator = .power := by
  cases operator <;> first | rfl | simp [BinaryOperator.precedence] at h

/-- What binds tighter than what may continue the right operand binds tighter than the
    operator, or both are `**`. -/
theorem tighter_of_rightMinimum {operator inner : BinaryOperator}
    (h : Grammar.rightMinimum operator < inner.precedence) :
    operator.precedence < inner.precedence ∨ operator = .power ∧ inner = .power := by
  rw [Grammar.rightMinimum] at h
  split at h
  · rename_i power
    rw [beq_iff_eq] at power
    subst power
    exact .inr ⟨rfl, eq_power h⟩
  · exact .inl h

/-- What ends the right operand does not bind tighter than the operator. -/
theorem stops_of_rightMinimum {operator next : BinaryOperator}
    (h : next.precedence ≤ Grammar.rightMinimum operator) :
    next.precedence ≤ operator.precedence ∧ next ≠ .power := by
  have le := precedence_le operator
  rw [Grammar.rightMinimum] at h
  split at h
  · refine ⟨by omega, fun power => ?_⟩
    subst power
    have above : 11 ≤ operator.precedence - 1 := h
    omega
  · rename_i other
    refine ⟨h, fun power => ?_⟩
    subst power
    exact other (beq_iff_eq.mpr (eq_power h))

/-- The operator can be read off the node, which is no arrow function. -/
theorem binaryOperator?_of_binaryShape {operator : BinaryOperator} {left right : Node}
    (shape : n.shape = Grammar.binaryShape operator left right) :
    n.binaryOperator? = some operator ∧ n.isArrow = false := by
  rw [Grammar.binaryShape] at shape
  rw [Node.binaryOperator?, Node.isArrow, shape]
  cases operator.isLogical <;> exact ⟨rfl, rfl⟩

variable {operator : BinaryOperator} {right : Node} {s t : Progress σ}

/-- An operator may be folded onto what is in front of it, with what it takes behind. -/
theorem Folded.lawful (h : p.Folded setting M.Made noIn minimum left q)
    (next : BinaryOperator.ofToken? noIn q.situation.token.kind = some operator)
    (reach : Reaches setting M.Made p s)
    (climbed : s.Climbed setting M.Made noIn (Grammar.rightMinimum operator) right t) :
    p.Lawful setting M.Made (Grammar.binaryShape operator left right) t := by
  have leftOf : p.LeftOf setting M.Made operator left := fun inner found =>
    (h.binary inner found).imp Enclosed.inside fun folded => folded.2 operator next
  have rightOf : RightOf setting M.Made operator right p t := fun inner found =>
    (climbed.binary inner found).imp (fun enclosed => ⟨s, reach, enclosed⟩)
      tighter_of_rightMinimum
  have inFront : p.InFront setting M.Made left := by
    refine inFront_of_arrow h.arrow fun ends => ?_
    have none := ends.operator
    rw [operator_of_noIn next] at none
    cases none
  rw [Grammar.binaryShape]
  split
  · exact ⟨‹_›, leftOf, rightOf, inFront⟩
  · exact ⟨Bool.eq_false_iff.mpr ‹_›, leftOf, rightOf, inFront⟩

/-- Then another one may follow. -/
theorem Folded.again (shape : n.shape = Grammar.binaryShape operator left right)
    (tight : minimum < operator.precedence) (reach : Reaches setting M.Made p s)
    (climbed : s.Climbed setting M.Made noIn (Grammar.rightMinimum operator) right t) :
    p.Folded setting M.Made noIn minimum n t where
  expression := by
    rw [shape, Grammar.binaryShape]
    split <;> rfl
  binary found here := by
    rw [(binaryOperator?_of_binaryShape shape).1] at here
    obtain rfl := Option.some.inj here
    exact .inr ⟨tight, fun next stands => stops_of_rightMinimum (climbed.stops next stands)⟩
  arrow arrow := by
    rw [(binaryOperator?_of_binaryShape shape).2] at arrow
    cases arrow
  operand := climbed.operand.after reach

end Progress

/-! ## Rules that end with something else -/

namespace Assembly

/-- The rule ends with no operation and no pattern. -/
def Plainly (M : Assembly setting) (r : Rule Node) : Prop :=
  ∀ p, M.Ensures r p fun n _ => n.shape.isPlain = true

/-- What comes last is plain. -/
theorem Plainly.bind {α : Type} {r : Rule α} {f : α → Rule Node} (h : ∀ a, M.Plainly (f a)) :
    M.Plainly (r >>= f) := by
  intro p
  have anything : M.Ensures r p fun _ _ => True := by
    intro fuel parse _
    cases r.run setting fuel parse p <;> trivial
  exact anything.bind fun a q _ => h a q

/-- Both ways on are plain. -/
theorem Plainly.ite {c : Prop} [Decidable c] {yes no : Rule Node} (h : M.Plainly yes)
    (k : M.Plainly no) : M.Plainly (if c then yes else no) :=
  fun p => .ite (fun _ => h p) fun _ => k p

/-- A node of a plain shape is closed. -/
theorem plainly_close {o : Grammar.Opened} {shape : Shape Node}
    (plain : shape.isPlain = true) : M.Plainly (Grammar.closeNode o shape) :=
  fun _ => closeNodeAt_ensures plain

/-- Such a rule makes an operand. -/
theorem Plainly.operates {r : Rule Node} (h : M.Plainly r)
    (made : M.Ensures r p fun n q => M.Made p [n] q) : M.Ensures r p (M.Operates p) :=
  (made.both (h p)).mono fun _ _ h => ⟨h.1, fun _ => Progress.operand_of_plain h.2⟩

end Assembly

end ScriptTree

import ScriptTree.Proofs.Assembly.Basic
import ScriptTree.Proofs.Grammar.Piece

/-! # Sealing — a statement is closed last

    Whatever a statement consists of, the last thing its rule does is to close a node
    that it opened at its first token.  So nothing stands between the end of a
    statement and the place where the next one starts.  A rule is gone through from
    behind: what comes first does not matter, as long as the rule ends so. -/

namespace ScriptTree

open Assembly

variable {σ α : Type} {setting : Setting σ} (M : Assembly setting)

/-- The rule ends by closing a node that starts there. -/
def Assembly.SealsAt (start : Nat) (r : Rule Node) : Prop :=
  ∀ p, M.Ensures r p (Progress.Seals setting start)

/-- The rule ends by closing a node that starts where the rule does. -/
def Assembly.SealsHere (r : Rule Node) : Prop :=
  ∀ p, M.Ensures r p (Progress.Seals setting p.situation.token.span.start)

variable {M} {start : Nat}

namespace Assembly

/-- What comes last seals. -/
theorem SealsAt.bind {r : Rule α} {f : α → Rule Node} (h : ∀ a, M.SealsAt start (f a)) :
    M.SealsAt start (r >>= f) := by
  intro p
  have anything : M.Ensures r p fun _ _ => True := by
    intro fuel parse _
    cases r.run setting fuel parse p <;> trivial
  exact anything.bind fun a q _ => h a q

/-- Both ways on seal. -/
theorem SealsAt.ite {c : Prop} [Decidable c] {yes no : Rule Node}
    (h : M.SealsAt start yes) (k : M.SealsAt start no) :
    M.SealsAt start (if c then yes else no) :=
  fun p => .ite (fun _ => h p) fun _ => k p

/-- A look is no obstacle. -/
theorem SealsHere.look {f : Situation → Rule Node} (h : ∀ s, M.SealsHere (f s)) :
    M.SealsHere (.look f) :=
  fun p fuel parse kept => h p.situation p fuel parse kept

/-- Both ways on seal, from here. -/
theorem SealsHere.ite {c : Prop} [Decidable c] {yes no : Rule Node}
    (h : M.SealsHere yes) (k : M.SealsHere no) : M.SealsHere (if c then yes else no) :=
  fun p => .ite (fun _ => h p) fun _ => k p

end Assembly

namespace Grammar

variable {o : Opened} {shape : Shape Node}

/-- Closing a node that has its own start seals it. -/
theorem closeNode_seals (o : Opened) (own : shape.inheritsStart = false)
    (late : shape.closesLate = false) : M.SealsAt o.start (closeNode o shape) :=
  fun p => closeNodeAt_ensures ⟨o, shape, p, rfl, own, late, rfl, _, _, rfl⟩

/-- The node that is opened here is the one to seal. -/
theorem openNode_seals {f : Opened → Rule Node} (h : ∀ o, M.SealsAt o.start (f o)) :
    M.SealsHere (openNode >>= f) := by
  intro p
  refine openNode_opens fun o q _ _ start => ?_
  exact start ▸ h o q

/-- A leaf seals itself. -/
theorem leaf_seals (own : shape.inheritsStart = false)
    (late : shape.closesLate = false) : M.SealsHere (leaf shape) :=
  openNode_seals fun o => .bind fun _ => closeNode_seals o own late

/-- A complaint in front does not matter. -/
theorem complainHere_seals {fault : Fault} {r : Rule Node} (h : M.SealsHere r) :
    M.SealsHere (complainHere fault >>= fun _ => r) :=
  fun p => complain_then fun _ => h p

/-! ## Blocks, functions and classes -/

/-- A block is closed behind its brace. -/
theorem blockRule_seals : M.SealsHere blockRule :=
  openNode_seals fun o => .bind fun _ => .bind fun _ => .bind fun _ => closeNode_seals o rfl rfl

/-- So is a block that is called for. -/
theorem block_seals : M.SealsHere (parse .block) :=
  fun _ _ _ kept => (kept .block _).andThen fun _ _ h => h.2

/-- A declaration of a function is closed behind its body. -/
theorem functionRest_seals (o : Opened) : M.SealsAt o.start (functionRest o true) :=
  .bind fun _ => .bind fun _ => .bind fun _ => closeNode_seals o rfl rfl

theorem function_seals (o : Opened) : M.SealsAt o.start (function o true) := by
  rw [function_eq]
  refine .bind fun _ => .bind fun _ => .ite ?_ (functionRest_seals o)
  exact .bind fun _ => .bind fun _ => functionRest_seals o

/-- One of a class is closed behind its methods. -/
theorem classRest_seals (o : Opened) (name superClass : Option Node) :
    M.SealsAt o.start (classRest o true name superClass) :=
  .bind fun _ => .bind fun _ => .bind fun _ => .bind fun _ => .bind fun _ =>
    closeNode_seals o rfl rfl

theorem classPhrase_seals (o : Opened) : M.SealsAt o.start (classPhrase o true) := by
  rw [classPhrase_eq]
  refine .bind fun _ => .bind fun name => .bind fun _ => .ite ?_ (classRest_seals o name none)
  exact .bind fun _ => .bind fun _ => .bind fun _ => classRest_seals o name _

/-! ## Statements -/

/-- A declaration of variables is closed behind its end. -/
theorem variableStatement_seals (kind : BindingKind) : M.SealsHere (variableStatement kind) :=
  openNode_seals fun o => .bind fun _ => .bind fun _ => .bind fun _ => closeNode_seals o rfl rfl

/-- An `if` is closed behind the last of its statements. -/
theorem ifStatement_seals : M.SealsHere ifStatement := by
  refine openNode_seals fun o => .bind fun _ => .bind fun _ => .bind fun _ => .bind fun _ => ?_
  exact .ite (.bind fun _ => closeNode_seals o rfl rfl) (closeNode_seals o rfl rfl)

/-- A loop with three parts is closed behind its body. -/
theorem forBody_seals (o : Opened) (init test update : Option Node) :
    M.SealsAt o.start (forBody o init test update) :=
  .bind fun _ => .bind fun _ => closeNode_seals o rfl rfl

theorem forUpdate_seals (o : Opened) (init test : Option Node) :
    M.SealsAt o.start (forUpdate o init test) :=
  .bind fun _ => .bind fun _ =>
    .ite (forBody_seals o init test none) (.bind fun _ => forBody_seals o init test _)

theorem forRest_seals (o : Opened) (init : Option Node) : M.SealsAt o.start (forRest o init) := by
  rw [forRest_eq]
  refine .bind fun _ => .bind fun _ => .ite (forUpdate_seals o init none) ?_
  exact .bind fun _ => forUpdate_seals o init _

/-- So is a loop over something. -/
theorem forEachBody_seals (o : Opened) (isOf : Bool) (left right : Node) :
    M.SealsAt o.start (forEachBody o isOf left right) := by
  refine .bind fun _ => .bind fun _ => ?_
  cases isOf with
  | true => exact closeNode_seals o rfl rfl
  | false => exact closeNode_seals o rfl rfl

theorem forEach_seals (o : Opened) (left : Node) : M.SealsAt o.start (forEach o left) := by
  rw [forEach_eq]
  exact .bind fun _ => .bind fun _ =>
    .ite (.bind fun _ => forEachBody_seals o _ left _) (.bind fun _ => forEachBody_seals o _ left _)

/-- So are all loops with `for`. -/
theorem forStatement_seals : M.SealsHere forStatement := by
  refine openNode_seals fun o => .bind fun _ => .bind fun _ => .bind fun _ => ?_
  refine .ite (forRest_seals o _) (.bind fun s => ?_)
  split
  · refine .bind fun _ => .bind fun _ => .bind fun _ => .bind fun _ => .bind fun _ => ?_
    exact .ite (forEach_seals o _) (forRest_seals o _)
  · refine .bind fun _ => .bind fun _ => .ite (.bind fun _ => ?_) (forRest_seals o _)
    exact forEach_seals o _

/-- So is `while`. -/
theorem whileStatement_seals : M.SealsHere whileStatement :=
  openNode_seals fun o => .bind fun _ => .bind fun _ => .bind fun _ => closeNode_seals o rfl rfl

/-- A `do` is closed behind its end. -/
theorem doWhileStatement_seals : M.SealsHere doWhileStatement :=
  openNode_seals fun o => .bind fun _ => .bind fun _ => .bind fun _ => .bind fun _ =>
    .bind fun _ => closeNode_seals o rfl rfl

/-- So is `return`. -/
theorem returnValue_seals (o : Opened) (ended : Bool) :
    M.SealsAt o.start (returnValue o ended) :=
  .ite (closeNode_seals o rfl rfl) (.bind fun _ => .bind fun _ => closeNode_seals o rfl rfl)

theorem returnRest_seals (o : Opened) : M.SealsAt o.start (returnRest o) :=
  .bind fun _ => .ite (returnValue_seals o true) (.bind fun _ => returnValue_seals o _)

theorem returnStatement_seals : M.SealsHere returnStatement := by
  rw [returnStatement_eq]
  refine openNode_seals fun o => .bind fun s => .ite (.bind fun _ => returnRest_seals o) ?_
  exact .bind fun _ => .bind fun _ => returnRest_seals o

/-- So are `break` and `continue`. -/
theorem jumpStatement_seals {shape : Option Node → Shape Node}
    (own : ∀ label, (shape label).inheritsStart = false)
    (late : ∀ label, (shape label).closesLate = false) : M.SealsHere (jumpStatement shape) :=
  openNode_seals fun o => .bind fun _ => .bind fun label => .bind fun _ =>
    closeNode_seals o (own label) (late label)

/-- So is `throw`. -/
theorem throwRest_seals (o : Opened) : M.SealsAt o.start (throwRest o) :=
  .bind fun _ => .bind fun _ => closeNode_seals o rfl rfl

theorem throwStatement_seals : M.SealsHere throwStatement := by
  rw [throwStatement_eq]
  refine openNode_seals fun o => .bind fun _ => .bind fun s => ?_
  exact .ite (.bind fun _ => throwRest_seals o) (throwRest_seals o)

/-- A `try` is closed behind its last block. -/
theorem tryEnd_seals (o : Opened) (block : Node) (handler finalizer : Option Node) :
    M.SealsAt o.start (tryEnd o block handler finalizer) :=
  .ite (.bind fun _ => closeNode_seals o rfl rfl) (closeNode_seals o rfl rfl)

theorem tryRest_seals (o : Opened) (block : Node) (handler : Option Node) :
    M.SealsAt o.start (tryRest o block handler) :=
  .bind fun _ =>
    .ite (.bind fun _ => tryEnd_seals o block handler _) (tryEnd_seals o block handler none)

theorem tryStatement_seals : M.SealsHere tryStatement := by
  rw [tryStatement_eq]
  refine openNode_seals fun o => .bind fun _ => .bind fun block => .bind fun _ => ?_
  exact .ite (.bind fun _ => tryRest_seals o block _) (tryRest_seals o block none)

/-- A `switch` is closed behind its brace. -/
theorem switchStatement_seals : M.SealsHere switchStatement :=
  openNode_seals fun o => .bind fun _ => .bind fun _ => .bind fun _ => .bind fun _ =>
    .bind fun _ => closeNode_seals o rfl rfl

/-- A `with` is closed behind its statement. -/
theorem withStatement_seals : M.SealsHere withStatement :=
  openNode_seals fun o => .bind fun _ => .bind fun _ => .bind fun _ => closeNode_seals o rfl rfl

/-- A statement of an expression is closed behind its end. -/
theorem expressionEnd_seals (o : Opened) (inner : Node) :
    M.SealsAt o.start (expressionEnd o inner) :=
  .bind fun _ => closeNode_seals o rfl rfl

theorem expressionStatement_seals : M.SealsHere expressionStatement := by
  rw [expressionStatement_eq]
  refine openNode_seals fun o => .bind fun inner => ?_
  refine .ite (.bind fun _ => .ite ?_ (expressionEnd_seals o inner)) (expressionEnd_seals o inner)
  exact .bind fun _ => closeNode_seals o rfl rfl

/-- A label or an expression is closed last, whichever it is. -/
theorem plainStatement_seals : M.SealsHere plainStatement :=
  .look fun _ => .ite block_seals (.ite (leaf_seals rfl rfl)
    (.ite (variableStatement_seals _) expressionStatement_seals))

/-- Statements with a word in front are closed last. -/
theorem wordStatement_seals (word : Keyword) : M.SealsHere (wordStatement word) := by
  cases word with
  | varWord => exact variableStatement_seals _
  | constWord => exact variableStatement_seals _
  | functionWord => exact openNode_seals function_seals
  | classWord => exact openNode_seals classPhrase_seals
  | ifWord => exact ifStatement_seals
  | forWord => exact forStatement_seals
  | whileWord => exact whileStatement_seals
  | doWord => exact doWhileStatement_seals
  | returnWord => exact returnStatement_seals
  | breakWord => exact jumpStatement_seals (fun _ => rfl) fun _ => rfl
  | continueWord => exact jumpStatement_seals (fun _ => rfl) fun _ => rfl
  | throwWord => exact throwStatement_seals
  | tryWord => exact tryStatement_seals
  | switchWord => exact switchStatement_seals
  | withWord => exact withStatement_seals
  | debuggerWord =>
    exact openNode_seals fun o => .bind fun _ => .bind fun _ => closeNode_seals o rfl rfl
  | importWord => exact complainHere_seals plainStatement_seals
  | exportWord => exact complainHere_seals plainStatement_seals
  | _ => exact plainStatement_seals

/-- All statements are. -/
theorem statementRule_seals : M.SealsHere statementRule := by
  refine .look fun s => ?_
  simp only [Rule.bind]
  split
  · exact wordStatement_seals _
  · exact plainStatement_seals

end Grammar

end ScriptTree

import ScriptTree.Proofs.Lint.Dispatch
import ScriptTree.Proofs.Node.Address

/-! # Unreachable statements — which ones are reported

    A statement of a block or a case is dead if one in front of it in the same list never
    passes control on, and it declares no names for the whole list.  The default rules
    report the dead statements of a tree and nothing else.

    Statements are told apart by their places: the address of the block or case, and the
    index in its list.  What stands behind the first exit of a list is what has any exit
    in front of it, so one scan of each list finds all of its dead statements. -/

namespace ScriptTree

namespace Unreachable

/-- A block lists its body, and a case what follows its test. -/
def Lists (n : Node) (statements : List Node) : Prop :=
  n.shape = .blockStatement statements ∨ ∃ test, n.shape = .switchCase test statements

/-- The statement at an index of a list at an address is dead: one in front of it leaves
    the list, and it declares no function and no variables. -/
def IsDead (program : Node) (address : List Nat) (i : Nat) (statement : Node) : Prop :=
  ∃ n statements, program.at? address = some n ∧ Lists n statements ∧
    statements[i]? = some statement ∧
    (∃ j < i, ∃ exit, statements[j]? = some exit ∧
      exit.type ∈ [.returnStatement, .throwStatement, .breakStatement, .continueStatement]) ∧
    statement.type ∉ [.functionDeclaration, .variableDeclaration]

variable {n statement : Node} {statements : List Node} {i : Nat}

/-! ## One list -/

/-- Four statements end the flow. -/
theorem endsFlow_iff : endsFlow n = true ↔
    n.type ∈ [.returnStatement, .throwStatement, .breakStatement, .continueStatement] := by
  rw [endsFlow]
  cases n.type <;> simp

/-- Two declarations are hoisted. -/
theorem isHoisted_iff : isHoisted n = true ↔
    n.type ∈ [.functionDeclaration, .variableDeclaration] := by
  rw [isHoisted]
  cases n.type <;> simp

/-- A list of statements is the one that the rule looks at. -/
theorem lists_iff : Lists n statements ∧ statements[i]? = some statement ↔
    listOf n = statements ∧ statements[i]? = some statement := by
  refine and_congr_left fun there => ?_
  have some : statements ≠ [] := fun none => by simp [none] at there
  rw [Lists, listOf]
  split <;> simp_all [eq_comm]

/-- In a list whose places ascend, what stands behind the first exit is what has an exit
    in front of it. -/
theorem mem_behind_exit {places : List (Node × Nat)} {place : Node × Nat}
    (ascends : places.Pairwise fun a b => a.2 < b.2) :
    place ∈ (places.dropWhile fun a => !endsFlow a.1).drop 1 ↔
      place ∈ places ∧ ∃ exit ∈ places, exit.2 < place.2 ∧ endsFlow exit.1 = true := by
  induction places with
  | nil => simp
  | cons first rest ih =>
      obtain ⟨behind, ascends⟩ := List.pairwise_cons.mp ascends
      -- Nothing stands in front of the first place.
      have least : ∀ exit ∈ first :: rest, ¬ exit.2 < first.2 := by
        intro exit there
        rcases List.mem_cons.mp there with rfl | there
        · exact Nat.lt_irrefl _
        · exact Nat.lt_asymm (behind exit there)
      cases exits : endsFlow first.1 with
      | true =>
          rw [List.dropWhile_cons_of_neg (by simp [exits]), List.drop_one, List.tail_cons]
          constructor
          · intro there
            exact ⟨List.mem_cons_of_mem _ there, first, List.mem_cons_self, behind _ there, exits⟩
          · rintro ⟨there, exit, hexit, before, -⟩
            rcases List.mem_cons.mp there with rfl | there
            · exact absurd before (least exit hexit)
            · exact there
      | false =>
          rw [List.dropWhile_cons_of_pos (by simp [exits]), ih ascends]
          constructor
          · rintro ⟨there, exit, hexit, before, ends⟩
            exact ⟨List.mem_cons_of_mem _ there, exit, List.mem_cons_of_mem _ hexit, before, ends⟩
          · rintro ⟨there, exit, hexit, before, ends⟩
            rcases List.mem_cons.mp there with rfl | there
            · exact absurd before (least exit hexit)
            · rcases List.mem_cons.mp hexit with rfl | hexit
              · simp [exits] at ends
              · exact ⟨there, exit, hexit, before, ends⟩

/-- The dead statements of a list with their indices. -/
def deadPlaces (statements : List Node) : List (Node × Nat) :=
  ((statements.zipIdx.dropWhile fun place => !endsFlow place.1).drop 1).filter fun place =>
    !isHoisted place.1

/-- Without the indices they are what one scan finds. -/
theorem map_fst_deadPlaces (statements : List Node) :
    (deadPlaces statements).map Prod.fst = deadIn statements := by
  have whole : statements.zipIdx.map Prod.fst = statements := List.zipIdx_map_fst 0 statements
  conv_rhs => rw [deadIn, ← whole, List.dropWhile_map, ← List.map_drop, List.filter_map]
  rfl

/-- Dead statements are found in their order. -/
theorem deadPlaces_ascends (statements : List Node) :
    (deadPlaces statements).Pairwise fun a b => a.2 < b.2 :=
  (Node.zipIdx_ascends statements 0).sublist
    ((List.filter_sublist).trans ((List.drop_sublist _ _).trans (List.dropWhile_sublist _)))

/-- A statement is dead if one before it ends the flow and it is not hoisted itself. -/
theorem mem_deadPlaces : (statement, i) ∈ deadPlaces statements ↔
    statements[i]? = some statement ∧
      (∃ j < i, ∃ exit, statements[j]? = some exit ∧ endsFlow exit = true) ∧
      isHoisted statement = false := by
  rw [deadPlaces, List.mem_filter, mem_behind_exit (Node.zipIdx_ascends statements 0),
    List.mk_mem_zipIdx_iff_getElem?, and_assoc, Bool.not_eq_true']
  simp only [Prod.exists, List.mk_mem_zipIdx_iff_getElem?]
  refine and_congr_right fun _ => and_congr_left fun _ => ?_
  constructor
  · rintro ⟨exit, j, there, before, ends⟩
    exact ⟨j, before, exit, there, ends⟩
  · rintro ⟨j, before, exit, there, ends⟩
    exact ⟨exit, j, there, before, ends⟩

/-! ## All lists of a tree -/

/-- The dead statements of a tree with their places. -/
def deadOf (program : Node) : List ((List Nat × Nat) × Node) :=
  program.located.flatMap fun place =>
    (deadPlaces (listOf place.2)).map fun dead => ((place.1, dead.2), dead.1)

/-- What is dead in a list is dead in the program. -/
theorem mem_deadOf {program : Node} {address : List Nat} :
    ((address, i), statement) ∈ deadOf program ↔ IsDead program address i statement := by
  simp only [deadOf, IsDead, List.mem_flatMap, List.mem_map, Prod.exists, Prod.mk.injEq,
    Node.mem_located, mem_deadPlaces, ← endsFlow_iff, ← isHoisted_iff]
  constructor
  · rintro ⟨address, n, there, s, j, ⟨listed, exits, counts⟩, ⟨rfl, rfl⟩, rfl⟩
    obtain ⟨lists, listed⟩ := lists_iff.mpr ⟨rfl, listed⟩
    exact ⟨n, _, there, lists, listed, exits, by simp [counts]⟩
  · rintro ⟨n, statements, there, lists, listed, exits, counts⟩
    obtain ⟨rfl, listed⟩ := lists_iff.mp ⟨lists, listed⟩
    exact ⟨address, n, there, statement, i, ⟨listed, exits, by simpa using counts⟩,
      ⟨rfl, rfl⟩, rfl⟩

/-- They come in the order of the tree, and list by list. -/
theorem deadOf_ascends (program : Node) : (deadOf program).Pairwise fun a b =>
    a.1.1 < b.1.1 ∨ a.1.1 = b.1.1 ∧ a.1.2 < b.1.2 := by
  refine List.pairwise_flatMap.mpr ⟨fun place _ => ?_, ?_⟩
  · rw [List.pairwise_map]
    exact (deadPlaces_ascends _).imp fun before => .inr ⟨rfl, before⟩
  · refine program.located_ascends.imp fun before a ha b hb => ?_
    obtain ⟨_, -, rfl⟩ := List.mem_map.mp ha
    obtain ⟨_, -, rfl⟩ := List.mem_map.mp hb
    exact .inl before

/-- What is said of a dead statement. -/
def finding (dead : Node) : Finding := ⟨"no-unreachable", "Unreachable code.", dead.span, .warning⟩

/-- By default one rule looks at blocks and cases. -/
theorem rulesFor_defaults (type : NodeType) :
    (LintTable.ofRules LintRule.defaults).rulesFor type =
      if type ∈ [.blockStatement, .switchCase] then [rule] else [] := by
  rw [LintTable.rulesFor_ofRules]
  cases type <;> rfl

/-- Only blocks and cases have lists. -/
theorem listOf_eq_nil (other : n.type ∉ [.blockStatement, .switchCase]) : listOf n = [] := by
  rw [listOf]
  split
  · rename_i found
    simp [Node.type, found, Shape.type] at other
  · rename_i found
    simp [Node.type, found, Shape.type] at other
  · rfl

/-- At every node the default rules report the dead statements of its list. -/
theorem findings_defaults (tree : SyntaxTree) (n : Node) :
    (((LintTable.ofRules LintRule.defaults).rulesFor n.type).flatMap fun rule =>
      rule.findings tree n) = (deadIn (listOf n)).map finding := by
  rw [rulesFor_defaults]
  split
  · rw [List.flatMap_singleton, LintRule.findings, rule, List.map_map]
    rfl
  · rename_i other
    rw [listOf_eq_nil other]
    rfl

/-- Node by node, the default rules report the dead statements. -/
theorem lint_eq_deadIn (tree : SyntaxTree) : lint tree LintRule.defaults =
    tree.program.walk.flatMap fun n => (deadIn (listOf n)).map finding := by
  rw [lint_eq_flatMap]
  simp only [findings_defaults]

end Unreachable

/-- DEAD STATEMENTS: the default rules report those of a tree, whatever the tree: each
    place of a dead statement once, in the order of the blocks and cases in the tree and
    then of their lists, with the span of the statement.  Nothing else is reported. -/
theorem lint_defaults (tree : SyntaxTree) :
    ∃ dead : List ((List Nat × Nat) × Node),
      (∀ address i statement, ((address, i), statement) ∈ dead ↔
        Unreachable.IsDead tree.program address i statement) ∧
      (dead.Pairwise fun a b => a.1.1 < b.1.1 ∨ a.1.1 = b.1.1 ∧ a.1.2 < b.1.2) ∧
      lint tree LintRule.defaults = dead.map fun d =>
        ⟨"no-unreachable", "Unreachable code.", d.2.span, .warning⟩ := by
  refine ⟨Unreachable.deadOf tree.program, fun _ _ _ => Unreachable.mem_deadOf,
    Unreachable.deadOf_ascends _, ?_⟩
  have perNode : ∀ n : Node, (Unreachable.deadIn (Unreachable.listOf n)).map Unreachable.finding =
      (Unreachable.deadPlaces (Unreachable.listOf n)).map (Unreachable.finding ∘ Prod.fst) := by
    intro n
    rw [← Unreachable.map_fst_deadPlaces, List.map_map]
  rw [Unreachable.lint_eq_deadIn, ← Node.map_snd_located, List.flatMap_map, Unreachable.deadOf,
    List.map_flatMap]
  simp only [perNode, List.map_map]
  rfl

/-- A block in dead code, two exits in one list, and a function between them. -/
theorem lint_defaults_nested :
    lint (SyntaxTree.parse {} "{ return; { throw e; a } break; function f() {} b }".toList "")
        LintRule.defaults =
      [⟨"no-unreachable", "Unreachable code.", ⟨10, 24⟩, .warning⟩,
        ⟨"no-unreachable", "Unreachable code.", ⟨25, 31⟩, .warning⟩,
        ⟨"no-unreachable", "Unreachable code.", ⟨48, 49⟩, .warning⟩,
        ⟨"no-unreachable", "Unreachable code.", ⟨21, 22⟩, .warning⟩] := by
  rw [Unreachable.lint_eq_deadIn]
  decide +kernel

end ScriptTree

import ScriptTree.Lint.Unreachable

/-! # Dispatch — rules by node type, and one context for all of them

    Rules are sorted by the types they list, and all of them report to one context,
    whose name and severity are those of the rule that ran last.  Neither is seen in
    the findings: they are those of a loop over nodes, rules and listed types in which
    every rule reports for itself.

    What a rule adds to the context depends on the tree alone, since a rule takes the
    context over before it reports; so steps of that kind can be put one after the
    other.  That is one lemma, used for the rules at a node and for the nodes of a walk. -/

namespace ScriptTree

/-- What a rule finds at a node, with its own name and severity. -/
def LintRule.findings (rule : LintRule) (tree : SyntaxTree) (n : Node) : List Finding :=
  (rule.check tree n).map fun remark => ⟨rule.name, remark.message, remark.span, rule.severity⟩

/-! ## The table -/

namespace LintTable

variable {table : LintTable} {rule : LintRule} {type other : NodeType}

/-- An empty table has no rules. -/
theorem rulesFor_empty : rulesFor ∅ type = [] := by
  rw [rulesFor, Std.HashMap.getD_empty]

/-- A rule is registered behind the others, for one type only. -/
theorem rulesFor_register : (table.register rule type).rulesFor other =
    table.rulesFor other ++ if type = other then [rule] else [] := by
  rw [rulesFor, register, Std.HashMap.getD_insert]
  by_cases same : type = other
  · subst same
    simp [rulesFor]
  · simp [rulesFor, same]

/-- A rule is registered as often as it lists the type. -/
theorem rulesFor_foldl_register (rule : LintRule) (types : List NodeType) (table : LintTable) :
    (types.foldl (fun table type => table.register rule type) table).rulesFor other =
      table.rulesFor other ++ (types.filter (· = other)).map fun _ => rule := by
  induction types generalizing table with
  | nil => simp
  | cons type rest ih =>
      rw [List.foldl_cons, ih, rulesFor_register, List.append_assoc]
      by_cases same : type = other
      · simp [same]
      · simp [same]

/-- The rules for a type, in order, each as often as it lists the type. -/
theorem rulesFor_ofRules (rules : List LintRule) : (ofRules rules).rulesFor type =
    rules.flatMap fun rule => (rule.types.filter (· = type)).map fun _ => rule := by
  have onward : ∀ table : LintTable,
      (rules.foldl (fun table rule =>
        rule.types.foldl (fun table type => table.register rule type) table) table).rulesFor type =
        table.rulesFor type ++
          rules.flatMap fun rule => (rule.types.filter (· = type)).map fun _ => rule := by
    induction rules with
    | nil => simp
    | cons rule rest ih =>
        intro table
        rw [List.foldl_cons, ih, rulesFor_foldl_register, List.flatMap_cons, List.append_assoc]
  rw [ofRules, onward, rulesFor_empty, List.nil_append]

end LintTable

/-! ## The context -/

namespace LintContext

variable {α : Type} {step : LintContext → α → LintContext}
  {tells : SyntaxTree → α → List Finding}

/-- A step keeps the tree and adds what it tells of the tree, whichever rule ran before. -/
structure Adds (step : LintContext → α → LintContext) (tells : SyntaxTree → α → List Finding) :
    Prop where
  tree : ∀ c x, (step c x).tree = c.tree
  findings : ∀ c x, (step c x).findings.toList = c.findings.toList ++ tells c.tree x

/-- Steps one after the other add what each of them tells. -/
theorem Adds.foldl (h : Adds step tells) :
    Adds (fun c (xs : List α) => xs.foldl step c) fun tree xs => xs.flatMap (tells tree) := by
  constructor
  · intro c xs
    induction xs generalizing c with
    | nil => rfl
    | cons x rest ih => rw [List.foldl_cons, ih, h.tree]
  · intro c xs
    induction xs generalizing c with
    | nil => simp
    | cons x rest ih =>
        rw [List.foldl_cons, ih, h.findings, h.tree, List.flatMap_cons, List.append_assoc]

/-- Remarks are reported in the name of the rule that is running. -/
theorem foldl_report (remarks : List Remark) (c : LintContext) :
    remarks.foldl report c = { c with
      findings := c.findings ++ (remarks.map fun remark =>
        (⟨c.rule, remark.message, remark.span, c.severity⟩ : Finding)).toArray } := by
  induction remarks generalizing c with
  | nil => simp
  | cons remark rest ih =>
      rw [List.foldl_cons, ih]
      simp [report]

/-- A rule adds its own findings. -/
theorem run_adds (n : Node) :
    Adds (fun c rule => c.run rule n) fun tree rule => rule.findings tree n := by
  constructor
  · intro c rule
    rw [run, foldl_report]
  · intro c rule
    rw [run, foldl_report]
    simp [LintRule.findings]

/-- A node adds the findings of the rules registered for its type. -/
theorem visit_adds (table : LintTable) : Adds (visit table) fun tree n =>
    (table.rulesFor n.type).flatMap fun rule => rule.findings tree n where
  tree c n := (run_adds n).foldl.tree c (table.rulesFor n.type)
  findings c n := (run_adds n).foldl.findings c (table.rulesFor n.type)

end LintContext

/-- The findings of the rules registered for each node of a walk. -/
theorem lint_eq_flatMap (tree : SyntaxTree) (rules : List LintRule) :
    lint tree rules = tree.program.walk.flatMap fun n =>
      ((LintTable.ofRules rules).rulesFor n.type).flatMap fun rule => rule.findings tree n := by
  have walked := (LintContext.visit_adds (LintTable.ofRules rules)).foldl.findings
    (.ofTree tree) tree.program.walk
  exact walked.trans (List.nil_append _)

/-- NOTHING OF THE TABLE IS SEEN: the findings are those of a plain loop over the nodes of
    the tree, the rules in order, and the types that a rule lists, in which a rule runs
    once for each type in its list that is the node's, under its own name and with its
    own severity. -/
theorem lint_eq_loops (tree : SyntaxTree) (rules : List LintRule) :
    lint tree rules = tree.program.walk.flatMap fun n => rules.flatMap fun rule =>
      (rule.types.filter (· = n.type)).flatMap fun _ => rule.findings tree n := by
  rw [lint_eq_flatMap]
  simp only [LintTable.rulesFor_ofRules, List.flatMap_assoc, List.flatMap_map]

end ScriptTree

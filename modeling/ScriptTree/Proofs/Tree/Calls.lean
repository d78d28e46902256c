import ScriptTree.Proofs.Assembly.Program
import ScriptTree.Proofs.Tree.Retry

/-! # Calls — the dependencies of the finished tree

    What a node mentions is gathered when the node is closed.  Nodes are closed in
    the order of a walk that visits children first, but not all of them come into
    the tree: a statement that took no token is left out, and so is the word in
    front of the name of an accessor.  Neither holds a call, and turning an
    expression into a pattern changes no call; so a walk over the finished tree
    gathers what the parse has gathered. -/

namespace ScriptTree

/-- Only calls mention modules. -/
theorem References.gather_of_isCall {n : Node} (plain : n.isCall = false) (r : References) :
    r.gather n = r := by
  have nothing : ofNode n = none := by
    rw [ofNode]
    rw [Node.isCall] at plain
    split
    · simp_all [Shape.isCall]
    · simp_all [Shape.isCall]
    · rfl
  show r.join (ofNode n) = r
  rw [nothing, join_none]

/-! ## The calls of a tree -/

namespace Node

/-- The calls at and below a node, those below first. -/
def calls (n : Node) : List Node := n.postorder.filter isCall

/-- The calls below a node come first, then the node itself. -/
theorem calls_eq (n : Node) : n.calls = n.children.flatMap calls ++ [n].filter isCall := by
  rw [calls, postorder_eq, List.filter_append, List.filter_flatMap]
  rfl

/-- A node that is no call has those below it. -/
theorem calls_of_isCall {n : Node} (plain : n.isCall = false) :
    n.calls = n.children.flatMap calls := by
  rw [calls_eq, List.filter_singleton, plain]
  exact List.append_nil _

/-- Nothing below, and no call by itself. -/
theorem calls_eq_nil {n : Node} (leaf : n.parts = []) (plain : n.isCall = false) :
    n.calls = [] := by
  rw [calls_of_isCall plain, children_of_parts leaf]
  rfl

/-- A name calls nothing. -/
theorem calls_of_identifierName? {n : Node} (name : n.identifierName?.isSome = true) :
    n.calls = [] :=
  calls_eq_nil (parts_of_identifierName? name) (isCall_of_identifierName? name)

/-- A pattern has the calls of the expression it was. -/
theorem calls_toPattern (n : Node) : n.toPattern.calls = n.calls := by
  refine (toPattern_induction (motive := fun n m => m.calls = n.calls) (fun _ => rfl) ?_ n).1
  intro n m recast
  have plain := recast.exchanged.imp Shape.isCall_of_isExchanged Shape.isCall_of_isExchanged
  rw [calls_of_isCall plain.1, calls_of_isCall plain.2, List.flatMap_def, List.flatMap_def,
    map_eq_of_related recast.children fun _ _ same => same]

end Node

/-! ## What was gathered -/

namespace Annotations

variable {options : ParseOptions} {mode : Mode} {lines : LineIndex} {file : String}
  {p q r s : Progress Annotations} {ns ms : List Node} {own : Bool} {o : Grammar.Opened}
  {shape : Shape Node}

/-- What was gathered between two places is what the calls mention that were made
    there; without a token there are none. -/
structure Gathered (p : Progress Annotations) (ns : List Node) (q : Progress Annotations) :
    Prop where
  forward : p.situation.consumed ≤ q.situation.consumed
  references : q.observed.references =
    (ns.flatMap Node.calls).foldl References.gather p.observed.references
  none : q.situation.consumed = p.situation.consumed → ns.flatMap Node.calls = []

namespace Gathered

/-- Nothing is made where nothing is gathered. -/
theorem of_references (forward : p.situation.consumed ≤ q.situation.consumed)
    (same : q.observed.references = p.observed.references) : Gathered p [] q :=
  ⟨forward, same, fun _ => rfl⟩

/-- Two rows of nodes in turn. -/
theorem append (h : Gathered p ns q) (k : Gathered q ms r) : Gathered p (ns ++ ms) r where
  forward := Nat.le_trans h.forward k.forward
  references := by rw [k.references, h.references, List.flatMap_append, List.foldl_append]
  none same := by
    have := h.forward
    have := k.forward
    rw [List.flatMap_append, h.none (by omega), k.none (by omega)]
    rfl

/-- Other nodes may be taken for those that were made if they have the same calls. -/
theorem of_calls (h : Gathered p ns q)
    (same : ms.flatMap Node.calls = ns.flatMap Node.calls) : Gathered p ms q :=
  ⟨h.forward, same ▸ h.references, same ▸ h.none⟩

/-- A name holds no call, so it may be left out. -/
theorem of_word {word : Node} (h : Gathered p [word] q)
    (name : word.identifierName?.isSome = true) : Gathered p [] q := by
  refine h.of_calls (Eq.symm ?_)
  rw [List.flatMap_singleton]
  exact Node.calls_of_identifierName? name

/-- A token is taken. -/
theorem taken (p : Progress Annotations) :
    Gathered p [] (p.taken ⟨mode, lines, observer options lines file⟩) := by
  obtain ⟨tokens, comments, diagnostics, observed⟩ := observed_taken p
  refine of_references p.consumed_le_taken ?_
  rw [observed]

/-- Opening a node gathers nothing. -/
theorem opened (h : p.Opens ⟨mode, lines, observer options lines file⟩ own o q) :
    Gathered p [] q := by
  cases h with
  | here => exact of_references (Nat.le_refl _) rfl
  | inherited => exact of_references (Nat.le_refl _) rfl

/-- A call is gathered behind the calls below it. -/
theorem close {stop : Nat} (h : Gathered p ns q) (shape : Shape Node) (covers : shape.children = ns)
    (grew : shape.isCall = true → p.situation.consumed < q.situation.consumed) :
    let closed := q.closeAt ⟨mode, lines, observer options lines file⟩ o shape stop
    Gathered p [closed.1] closed.2 := by
  intro closed
  have below : closed.1.children = ns := covers
  have told : closed.2.observed.references = q.observed.references.gather closed.1 := rfl
  have calls : closed.1.calls = ns.flatMap Node.calls ++ [closed.1].filter Node.isCall := by
    rw [Node.calls_eq, below]
  cases call : closed.1.isCall with
  | true =>
      rw [List.filter_singleton, call] at calls
      refine ⟨h.forward, ?_, fun same => ?_⟩
      · rw [told, h.references, List.flatMap_singleton, calls, List.foldl_append]
        rfl
      · exact absurd same (Nat.ne_of_gt (grew call))
  | false =>
      rw [List.filter_singleton, call] at calls
      have same : [closed.1].flatMap Node.calls = ns.flatMap Node.calls := by
        rw [List.flatMap_singleton, calls]
        exact List.append_nil _
      refine of_calls ⟨h.forward, ?_, h.none⟩ same
      rw [told, References.gather_of_isCall call, h.references]

/-- Closing a node gathers its own call behind those of its parts. -/
theorem closed {shape : Shape Node} {s : Progress Annotations}
    (opens : p.Opens ⟨mode, lines, observer options lines file⟩ own o q)
    (complete : Progress.Completes ⟨mode, lines, observer options lines file⟩ Gathered own p q
      shape ns r s) :
    let closed := s.closeAt ⟨mode, lines, observer options lines file⟩ o shape
      r.situation.previousEnd
    Gathered p [closed.1] closed.2 := by
  have made := ((Gathered.opened opens).append complete.below).append complete.behind
  refine made.close _ ?_ fun call => ?_
  · simpa using complete.covers.1
  · exact Nat.lt_of_lt_of_le (complete.grew (.inl call)) complete.behind.forward

/-- Nothing happens. -/
theorem refl (p : Progress Annotations) : Gathered p [] p := of_references (Nat.le_refl _) rfl

/-- A name that is its own value is gathered once; it mentions nothing. -/
theorem of_twin {key value : Node} (name : key.identifierName?.isSome = true)
    (twin : p.Twin ⟨mode, lines, observer options lines file⟩ Gathered key value q) :
    Gathered p [value] q := by
  have same : key.detached.calls = key.calls := by
    rw [Node.calls_of_identifierName? name]
    exact Node.calls_of_identifierName? name
  cases twin with
  | name named => exact named.of_calls (by simp [same])
  | default named _ behind closes =>
      subst closes
      refine close (named.append behind |>.of_calls ?_) _ rfl nofun
      simp [Shape.children, same]

end Gathered

/-- Gathering keeps up with every parse. -/
def gathering (options : ParseOptions) (mode : Mode) (lines : LineIndex) (file : String) :
    Assembly ⟨mode, lines, observer options lines file⟩ where
  Made := Gathered
  still h := by
    obtain ⟨depth, inFunction, rfl⟩ := h
    exact .of_references (Nat.le_refl _) rfl
  append := .append
  forward := Gathered.forward
  taken := .taken
  opened _ opens := .opened opens
  closed opens complete _ := .closed opens complete
  headed := Progress.headed_of_closed .append .refl .closed
  shorthand opens name twin :=
    ((Gathered.opened opens).append (.of_twin name twin)).close _ rfl nofun
  chunk _ := (Gathered.taken _).close _ rfl nofun
  -- A filler is a leaf of its own making, and leaves make no calls.
  filler _ leaf plain _ := by
    refine .of_calls (.of_references (Nat.le_refl _) rfl) ?_
    rw [List.flatMap_singleton]
    exact Node.calls_eq_nil leaf plain
  dropped h same := h.of_calls (h.none same).symm
  word _ word next := word.taken.of_word word.name |>.append next
  -- Both words of a static accessor are dropped; names make no calls.
  staticAccessor opens word second parts _ := by
    have words := (word.taken.of_word word.name).append (second.taken.of_word second.name)
    exact (((Gathered.opened opens).append words).append parts).close _ rfl nofun
  -- What becomes a pattern keeps its parts, and so their calls.
  reinterpreted h := h.of_calls (by
    rw [List.flatMap_map]
    exact List.flatMap_congr fun n _ => n.calls_toPattern)

/-- A parse from nothing has gathered what the calls of its program mention. -/
theorem references_of_tree {text : List Char} {program : Node} {a : Annotations}
    (h : parseText mode text lines (observer options lines file) .empty = (.tree program, a)) :
    a.references = program.calls.foldl References.gather .none := by
  obtain ⟨first, rest, body, q, -, series, -, rfl, rfl⟩ :=
    parseText_made (gathering options mode lines file) h
  have start : (Progress.entry ⟨mode, lines, observer options lines file⟩ first rest
      ((observer options lines file).opened 0 .empty).2).observed.references = .none := by
    rw [Progress.entry, pass_eq]
    rfl
  refine (Gathered.close series.made (.program body) rfl nofun).references.trans ?_
  rw [List.flatMap_singleton, start]

end Annotations

/-- The dependencies and environments of a tree are those that a walk over the tree
    gathers: it visits the calls, children before their parents and from left to
    right, and keeps the first mention of each module. -/
theorem SyntaxTree.parse_references_eq_postorder (options : ParseOptions) (text : List Char)
    (file : String) : (parse options text file).references =
      ((parse options text file).program.postorder.filter Node.isCall).foldl
        References.gather .none := by
  obtain ⟨program, a, words, last, loose, -, -, records⟩ :=
    Annotations.parseText_records options (.ofText text) file text
  rw [parse_eq_ofAnnotations options text file loose records.failure]
  exact Annotations.references_of_tree loose

/-- The text breaks off in the list of `define`.  Its modules come behind the script that is
    loaded among them, and the one that was required before is not mentioned again. -/
theorem SyntaxTree.parse_references_eq_postorder_lists :
    let text := "require(['a/b', 'c']); define('x', [, 'c', importScripts('d'), 'e'], +".toList
    let tree := parse {} text "f.js"
    tree.references = ⟨["a/b", "c", "d", "e"], true, true⟩ ∧
      (tree.program.postorder.filter Node.isCall).foldl References.gather .none =
        ⟨["a/b", "c", "d", "e"], true, true⟩ := by
  intro text tree
  have references : tree.references = ⟨["a/b", "c", "d", "e"], true, true⟩ := by decide +kernel
  exact ⟨references, (parse_references_eq_postorder {} text "f.js").symm.trans references⟩

end ScriptTree

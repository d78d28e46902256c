import ScriptTree.Editor.Diagnostic
import ScriptTree.Proofs.Editor.Position
import ScriptTree.Proofs.Grammar.Fitting
import ScriptTree.Proofs.Tree.Retry

/-! # Symbols — what an editor selects of a declaration

    An entry of an outline covers a node of the tree, and selects all of it or the name
    that the node begins with.  A name that covers something lies in its node, so its
    range lies in the range of the declaration.  A name that is missing stands where the
    last token ended, which may be in front of the declaration. -/

namespace ScriptTree

/-! ## Entries and symbols at all levels -/

mutual

/-- The entry and all entries below it. -/
def OutlineItem.all : OutlineItem → List OutlineItem
  | ⟨name, kind, detail, span, selection, children⟩ =>
    ⟨name, kind, detail, span, selection, children⟩ :: OutlineItem.allOf children

/-- All of the entries and those below them. -/
def OutlineItem.allOf : List OutlineItem → List OutlineItem
  | [] => []
  | item :: rest => item.all ++ OutlineItem.allOf rest

end

mutual

/-- The symbol and all symbols below it. -/
def EditorSymbol.all : EditorSymbol → List EditorSymbol
  | ⟨name, detail, kind, range, selectionRange, children⟩ =>
    ⟨name, detail, kind, range, selectionRange, children⟩ :: EditorSymbol.allOf children

/-- All of the symbols and those below them. -/
def EditorSymbol.allOf : List EditorSymbol → List EditorSymbol
  | [] => []
  | symbol :: rest => symbol.all ++ EditorSymbol.allOf rest

end

mutual

/-- Each entry has its symbol, at the same level. -/
theorem EditorSymbol.all_ofItem (text : List Char) : (item : OutlineItem) →
    (ofItem text item).all = item.all.map (ofItem text)
  | ⟨name, kind, detail, span, selection, children⟩ => by
    rw [ofItem, all, OutlineItem.all, List.map_cons, allOf_ofItems text children, ofItem]

/-- The symbols at all levels are those of the entries at all levels. -/
theorem EditorSymbol.allOf_ofItems (text : List Char) : (items : List OutlineItem) →
    allOf (ofItems text items) = (OutlineItem.allOf items).map (ofItem text)
  | [] => by simp only [ofItems, allOf, OutlineItem.allOf, List.map_nil]
  | item :: rest => by
    rw [ofItems, allOf, OutlineItem.allOf, List.map_append, all_ofItem text item,
      allOf_ofItems text rest]

end

/-! ## What a declaration is named by -/

namespace Node

variable {program n m id : Node}

/-- The node is named by its first part, which is an identifier or has other parts
    behind it. -/
structure NamedBy (n id : Node) : Prop where
  plain : n.shape.isExchanged = false
  first : ∃ rest, n.children = id :: rest ∧ (id.identifierName?.isSome = true ∨ rest ≠ [])

/-- The name is a child of what it names. -/
theorem NamedBy.mem (h : n.NamedBy id) : id ∈ n.children := by
  obtain ⟨rest, children, -⟩ := h.first
  rw [children]
  exact List.mem_cons_self

/-- A name that covers something lies in the node. -/
theorem NamedBy.showsIn (h : n.NamedBy id) (fits : n.Fits) (covers : id.span.start < id.span.stop) :
    id.span.ShowsIn n.span := by
  obtain ⟨start, stop⟩ := fits h.plain id (Shape.mem_parts_of_mem_children h.mem) covers
  exact ⟨start, by omega⟩

/-- In a strict tree every name does. -/
theorem NamedBy.showsIn_of_nests {text : List Char} (h : n.NamedBy id) (nests : n.Nests text) :
    id.span.ShowsIn n.span := by
  obtain ⟨start, stop⟩ := nests.inside id h.mem
  obtain ⟨rest, children, name | more⟩ := h.first
  · have covers := nests.covers id h.mem (closesLate_of_identifierName? name)
    exact ⟨start, by omega⟩
  · obtain ⟨next, others, rfl⟩ := List.exists_cons_of_ne_nil more
    have ordered := nests.ordered
    have there := nests.inside next
    rw [children] at ordered there
    have precedes := List.rel_of_pairwise_cons ordered List.mem_cons_self
    have behind := there (List.mem_cons_of_mem _ List.mem_cons_self)
    have before := precedes.2
    exact ⟨start, by omega⟩

end Node

/-! ## What an outline lists -/

/-- The entry covers a node of the program and selects all of it or its name, and so it
    is with the entries below. -/
inductive OutlineItem.Of (program : Node) : OutlineItem → Prop where
  | intro {item : OutlineItem} {n : Node} (here : n ∈ program.subtree) (span : item.span = n.span)
      (selection : item.selection = n.span ∨ ∃ id, n.NamedBy id ∧ item.selection = id.span)
      (children : ∀ c ∈ item.children, c.Of program) : item.Of program

namespace OutlineItem.Of

variable {program n id : Node}

/-- The node that the entry covers. -/
theorem exists_node {item : OutlineItem} (h : item.Of program) :
    ∃ n ∈ program.subtree, item.span = n.span ∧
      (item.selection = n.span ∨ ∃ id, n.NamedBy id ∧ item.selection = id.span) := by
  cases h with
  | intro here span selection _ => exact ⟨_, here, span, selection⟩

/-- The entry of a function that has a name or not. -/
theorem function {kind : OutlineKind} {name : String} {id : Option Node} {params : List Node}
    {children : List OutlineItem} (here : n ∈ program.subtree) (named : ∀ i ∈ id, n.NamedBy i)
    (below : ∀ c ∈ children, c.Of program) :
    (ofFunction kind name id n.span params children).Of program := by
  refine .intro here rfl ?_ below
  cases id with
  | none => exact .inl rfl
  | some i => exact .inr ⟨i, named i rfl, rfl⟩

/-- The entry of a class that has a name or not. -/
theorem classType {name : String} {id : Option Node} {children : List OutlineItem}
    (here : n ∈ program.subtree) (named : ∀ i ∈ id, n.NamedBy i)
    (below : ∀ c ∈ children, c.Of program) : (ofClass name id n.span children).Of program := by
  refine .intro here rfl ?_ below
  cases id with
  | none => exact .inl rfl
  | some i => exact .inr ⟨i, named i rfl, rfl⟩

/-- A variable is an entry of the program that declares it. -/
theorem binding {kind : BindingKind} {name : String} (here : n ∈ program.subtree)
    (named : n.NamedBy id) : (ofVariable kind name id n.span).Of program :=
  .intro here rfl (.inr ⟨id, named, rfl⟩) nofun

end OutlineItem.Of

namespace Node

variable {program n : Node}

/-- Whatever is listed at the node is of the program. -/
structure Outlined (n program : Node) : Prop where
  declarations : ∀ i ∈ n.declarations, i.Of program
  declaredBy : ∀ kind, ∀ i ∈ n.declaredBy kind, i.Of program
  declaredAs : ∀ kind name {m id : Node}, m ∈ program.subtree → m.NamedBy id →
    (n.declaredAs kind name id m.span).Of program
  functionsIn : ∀ i ∈ n.functionsIn, i.Of program
  methods : ∀ i ∈ n.methods, i.Of program
  methodItems : ∀ i ∈ n.methodItems, i.Of program
  methodBody : ∀ label {m key : Node}, m ∈ program.subtree → m.NamedBy key →
    ∀ i ∈ n.methodBody label key m.span, i.Of program

/-- A name in front of other parts names the node. -/
theorem namedBy_of_children {rest : List Node} {last : Node} {name : Option Node}
    (plain : n.shape.isExchanged = false) (children : n.children = name.toList ++ rest ++ [last]) :
    ∀ i ∈ name, n.NamedBy i := by
  rintro i rfl
  exact ⟨plain, rest ++ [last], children, .inr (by simp)⟩

/-! ### One collector at a time

    Each collector lists the node itself, or what the collectors list at its parts. -/

section

variable {id parent : Option Node} {params : List Node} {body : Node}
  (below : ∀ x ∈ n.parts, x.Outlined program)

include below

/-- The children of a node of the program are nodes of the program. -/
theorem outlined_child {x : Node} (hx : x ∈ n.children) : x.Outlined program :=
  below x (Shape.mem_parts_of_mem_children hx)

/-- Functions and classes hold their body last, behind their name. -/
theorem outlined_last {name : Option Node} {rest : List Node} {last : Node}
    (children : n.children = name.toList ++ rest ++ [last]) : last.Outlined program := by
  refine outlined_child below ?_
  rw [children]
  simp

/-- So do arrow functions, which have none. -/
theorem outlined_arrowBody {isExpression : Bool}
    (shape : n.shape = .arrowFunctionExpression params body isExpression) :
    body.Outlined program := by
  refine outlined_child below ?_
  rw [children, shape]
  simp [Shape.children]

/-- The entry of a function is of the program. -/
theorem of_function (here : n ∈ program.subtree)
    (shape : n.shape = .functionDeclaration id params body ∨
      n.shape = .functionExpression id params body) :
    (OutlineItem.ofFunction .function (OutlineItem.nameOf id) id n.span params
      body.declarations).Of program := by
  have children : n.children = id.toList ++ params ++ [body] := by
    rcases shape with found | found <;> exact congrArg Shape.children found
  have plain : n.shape.isExchanged = false := by
    rcases shape with found | found <;> rw [found] <;> rfl
  exact .function here (namedBy_of_children plain children)
    (outlined_last below children).declarations

/-- So is that of a class. -/
theorem of_classType (here : n ∈ program.subtree)
    (shape : n.shape = .classDeclaration id parent body ∨
      n.shape = .classExpression id parent body) :
    (OutlineItem.ofClass (OutlineItem.nameOf id) id n.span body.methods).Of program := by
  have children : n.children = id.toList ++ parent.toList ++ [body] := by
    rcases shape with found | found <;> exact congrArg Shape.children found
  have plain : n.shape.isExchanged = false := by
    rcases shape with found | found <;> rw [found] <;> rfl
  exact .classType here (namedBy_of_children plain children) (outlined_last below children).methods

/-- What a node declares are entries of the program. -/
theorem of_mem_declarations (here : n ∈ program.subtree) :
    ∀ i ∈ n.declarations, i.Of program := by
  intro i hi
  rw [declarations] at hi
  split at hi
  · rename_i found
    obtain rfl := List.mem_singleton.mp hi
    exact of_function below here (.inl found)
  · rename_i found
    obtain rfl := List.mem_singleton.mp hi
    exact of_classType below here (.inl found)
  · rename_i kind declarators found
    have children : n.children = declarators := congrArg Shape.children found
    obtain ⟨⟨d, hd⟩, -, hi⟩ := List.mem_flatMap.mp hi
    exact (outlined_child below (children ▸ hd)).declaredBy kind i hi
  · rename_i inner found
    have children : n.children = [inner] := congrArg Shape.children found
    exact (outlined_child below (children ▸ List.mem_singleton_self _)).functionsIn i hi
  · split at hi
    · obtain ⟨⟨x, hx⟩, -, hi⟩ := List.mem_flatMap.mp hi
      exact (outlined_child below hx).declarations i hi
    · cases hi

/-- What a declaration of variables declares are too. -/
theorem of_mem_declaredBy (here : n ∈ program.subtree) (kind : BindingKind) :
    ∀ i ∈ n.declaredBy kind, i.Of program := by
  intro i hi
  rw [declaredBy] at hi
  split at hi
  · rename_i id init found
    have children : n.children = id :: init.toList := congrArg Shape.children found
    split at hi
    · cases hi
    · rename_i name named
      have names : n.NamedBy id :=
        ⟨by rw [found]; rfl, init.toList, children, .inl (by rw [named]; rfl)⟩
      split at hi
      · obtain rfl := List.mem_singleton.mp hi
        exact .binding here names
      · rename_i value _ _
        obtain rfl := List.mem_singleton.mp hi
        have there : value ∈ n.children := by simp [children]
        exact (outlined_child below there).declaredAs kind name here names
  · cases hi

/-- The value of a name is listed with the node that the name names. -/
theorem of_declaredAs (kind : BindingKind) (name : String) {m key : Node}
    (there : m ∈ program.subtree) (names : m.NamedBy key) :
    (n.declaredAs kind name key m.span).Of program := by
  have named : ∀ i ∈ some key, m.NamedBy i := fun i hi => Option.some.inj hi ▸ names
  rw [declaredAs]
  split
  · rename_i found
    exact .function there named (outlined_last below (congrArg Shape.children found)).declarations
  · rename_i found
    exact .function there named (outlined_arrowBody below found).declarations
  · rename_i found
    exact .classType there named (outlined_last below (congrArg Shape.children found)).methods
  · exact .binding there names

/-- So are the functions inside of a node. -/
theorem of_mem_functionsIn (here : n ∈ program.subtree) : ∀ i ∈ n.functionsIn, i.Of program := by
  intro i hi
  rw [functionsIn] at hi
  split at hi
  · rename_i found
    obtain rfl := List.mem_singleton.mp hi
    exact of_function below here (.inr found)
  · rename_i found
    obtain rfl := List.mem_singleton.mp hi
    exact .function here (fun _ named => by cases named)
      (outlined_arrowBody below found).declarations
  · rename_i found
    obtain rfl := List.mem_singleton.mp hi
    exact of_classType below here (.inr found)
  · obtain ⟨⟨x, hx⟩, -, hi⟩ := List.mem_flatMap.mp hi
    exact (outlined_child below hx).functionsIn i hi

/-- So are the methods of a class. -/
theorem of_mem_methods : ∀ i ∈ n.methods, i.Of program := by
  intro i hi
  rw [methods] at hi
  split at hi
  · rename_i members found
    have children : n.children = members := congrArg Shape.children found
    obtain ⟨⟨x, hx⟩, -, hi⟩ := List.mem_flatMap.mp hi
    exact (outlined_child below (children ▸ hx)).methodItems i hi
  · cases hi

/-- So are the accessors and methods as they are listed. -/
theorem of_mem_methodItems (here : n ∈ program.subtree) : ∀ i ∈ n.methodItems, i.Of program := by
  intro i hi
  rw [methodItems] at hi
  split at hi
  · rename_i key value kind computed isStatic found
    have children : n.children = [key, value] := congrArg Shape.children found
    have there : value ∈ n.children := by simp [children]
    exact (outlined_child below there).methodBody _ here
      ⟨by rw [found]; rfl, [value], children, .inr (by simp)⟩ i hi
  · cases hi

/-- The function of a method is listed with the node that the key names. -/
theorem of_mem_methodBody (label : String) {m key : Node} (there : m ∈ program.subtree)
    (names : m.NamedBy key) : ∀ i ∈ n.methodBody label key m.span, i.Of program := by
  intro i hi
  have named : ∀ i ∈ some key, m.NamedBy i := fun i hi => Option.some.inj hi ▸ names
  rw [methodBody] at hi
  split at hi
  · rename_i found
    obtain rfl := List.mem_singleton.mp hi
    exact .function there named (outlined_last below (congrArg Shape.children found)).declarations
  · cases hi

end

/-- Whatever is listed at a node of the program is of it. -/
theorem outlined (n : Node) (here : n ∈ program.subtree) : n.Outlined program := by
  induction n using induction_on_parts with
  | step n ih =>
      have below : ∀ x ∈ n.parts, x.Outlined program :=
        fun x hx => ih x hx (mem_subtree_of_part here hx)
      exact
        { declarations := of_mem_declarations below here
          declaredBy := of_mem_declaredBy below here
          declaredAs := of_declaredAs below
          functionsIn := of_mem_functionsIn below here
          methods := of_mem_methods below
          methodItems := of_mem_methodItems below here
          methodBody := of_mem_methodBody below }

end Node

mutual

/-- So it is at all levels. -/
theorem OutlineItem.Of.of_all {program : Node} : (item : OutlineItem) → item.Of program →
    ∀ i ∈ item.all, i.Of program
  | ⟨name, kind, detail, span, selection, children⟩, h, i, hi => by
    rw [all] at hi
    rcases List.mem_cons.mp hi with rfl | hi
    · exact h
    · cases h with
      | intro _ _ _ below => exact of_allOf children below i hi

/-- Entries at all levels are entries of the program if those at the top are with all below
    them. -/
theorem OutlineItem.Of.of_allOf {program : Node} : (items : List OutlineItem) →
    (∀ i ∈ items, i.Of program) → ∀ i ∈ OutlineItem.allOf items, i.Of program
  | [], _, i, hi => by
    rw [allOf] at hi
    cases hi
  | item :: rest, h, i, hi => by
    rw [allOf] at hi
    rcases List.mem_append.mp hi with hi | hi
    · exact of_all item (h item List.mem_cons_self) i hi
    · exact of_allOf rest (fun j hj => h j (List.mem_cons_of_mem _ hj)) i hi

end

/-- The outline lists what is of the program. -/
theorem outline_of (tree : SyntaxTree) :
    ∀ item ∈ OutlineItem.allOf (outline tree), item.Of tree.program := by
  refine OutlineItem.Of.of_allOf _ fun item listed => ?_
  obtain ⟨statement, hs, listed⟩ := List.mem_flatMap.mp listed
  have there : statement ∈ tree.program.parts := by
    rw [SyntaxTree.body] at hs
    cases found : tree.program.statements? with
    | none =>
        rw [found] at hs
        cases hs
    | some body =>
        rw [found] at hs
        exact Shape.mem_parts_of_mem_children (Shape.mem_children_of_mem_statements found hs)
  have here := Node.subtree_subset_of_part there statement.mem_subtree_self
  exact (Node.outlined statement here).declarations item listed

/-- SELECTIONS: at every level of an outline, whatever the text, what an editor selects
    lies in the range of the declaration, if the name covers something or if the strict
    parser accepts the text.  The ranges are compared as an editor is told them, so all
    positions have to fit. -/
theorem EditorSymbol.ofTree_selection (options : ParseOptions) (text : List Char) (file : String) :
    let tree := SyntaxTree.parse options text file
    allOf (ofTree text tree) = (OutlineItem.allOf (outline tree)).map (ofItem text) ∧
      ∀ item ∈ OutlineItem.allOf (outline tree), Text.Fits text →
        item.selection.start < item.selection.stop ∨
          (SyntaxTree.pass options text file .strict .empty).1 = .tree tree.program →
        (ofItem text item).range.Contains (ofItem text item).selectionRange := by
  intro tree
  refine ⟨allOf_ofItems text _, fun item listed short sound => ?_⟩
  obtain ⟨program, a, words, last, loose, -, -, records⟩ :=
    Annotations.parseText_records options (.ofText text) file text
  have same : tree.program = program :=
    congrArg SyntaxTree.program (SyntaxTree.parse_eq_ofAnnotations options text file loose
      records.failure)
  have fits := parseText_fitsBelow loose
  obtain ⟨n, here, span, selection⟩ := (outline_of tree item listed).exists_node
  rw [same] at here
  have shows : item.selection.ShowsIn item.span := by
    rcases selection with whole | ⟨id, named, name⟩
    · rw [whole, span]
      exact .refl _
    · rw [name, span]
      rcases sound with covers | accepted
      · exact named.showsIn (fits n here) (name ▸ covers)
      · have nests := parseText_nestsBelow accepted
        exact named.showsIn_of_nests (nests n (same ▸ here))
  have ranges := EditorRange.contains_of_showsIn short shows
  obtain ⟨name, kind, detail, span, selection, children⟩ := item
  exact ranges

/-- The method and the variable inside of it are selected by their names. -/
theorem EditorSymbol.ofTree_selection_class :
    let text := "class A {}".toList
    ∃ item ∈ OutlineItem.allOf (outline (.parse {} text "")), item.selection = ⟨6, 7⟩ ∧
      (ofItem text item).range.Contains (ofItem text item).selectionRange := by
  intro text
  have selections : (OutlineItem.allOf (outline (.parse {} text ""))).map
      OutlineItem.selection = [⟨6, 7⟩] := by decide +kernel
  obtain ⟨item, listed, selection⟩ := List.mem_map.mp (selections ▸ List.mem_singleton_self _)
  have covers : item.selection.start < item.selection.stop := by
    rw [selection]
    decide
  have short : Text.Fits text := Text.fits_of_byteLength_lt (by decide)
  exact ⟨item, listed, selection,
    (EditorSymbol.ofTree_selection {} text "").2 item listed short (.inl covers)⟩

/-- A missing name may stand in front of its declaration, where the last token ended:
    so does that of the variable in `var = a;`. -/
theorem EditorSymbol.not_selection_inside :
    ¬ ∀ (options : ParseOptions) (text : List Char) (file : String),
      ∀ symbol ∈ allOf (ofTree text (.parse options text file)),
        symbol.range.Contains symbol.selectionRange := by
  intro inside
  exact absurd (inside {} "var = a;".toList "") (by decide +kernel)

end ScriptTree

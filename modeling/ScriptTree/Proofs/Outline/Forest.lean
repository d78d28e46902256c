import Mathlib.Data.List.Flatten
import ScriptTree.Proofs.Editor.Symbol
import ScriptTree.Proofs.Grammar.Nesting
import ScriptTree.Proofs.Node.Address

/-! # Forests — where the entries of an outline come from and how they lie

    An entry of an outline is made of the node of a function or a class, or of two nodes:
    a declarator and the value that it names, a method and its function.  It covers the
    first of them.  The collectors go through a tree from the left, and they go below an
    entry for the entries that it holds only.  So what they list comes along the walk of
    the tree, each node in its turn, and where nodes nest and lie one behind the other,
    entries do. -/

namespace ScriptTree

theorem Span.Inside.refl (s : Span) : s.Inside s := ⟨Nat.le_refl _, Nat.le_refl _⟩

theorem Span.Inside.trans {s t u : Span} (h : s.Inside t) (k : t.Inside u) : s.Inside u :=
  ⟨Nat.le_trans k.1 h.1, Nat.le_trans h.2 k.2⟩

namespace OutlineItem

/-! ## What entries are made of -/

/-- The entry is the one that these nodes make. -/
inductive MadeOf : OutlineItem → List Node → Prop
  | function {n body : Node} {id : Option Node} {params : List Node}
      (shape : n.shape = .functionDeclaration id params body ∨
        n.shape = .functionExpression id params body) :
      MadeOf (ofFunction .function (nameOf id) id n.span params body.declarations) [n]
  | arrow {n body : Node} {params : List Node} {flag : Bool}
      (shape : n.shape = .arrowFunctionExpression params body flag) :
      MadeOf (ofFunction .function anonymous none n.span params body.declarations) [n]
  | classType {n body : Node} {id parent : Option Node}
      (shape : n.shape = .classDeclaration id parent body ∨
        n.shape = .classExpression id parent body) :
      MadeOf (ofClass (nameOf id) id n.span body.methods) [n]
  | unset {d id : Node} {kind : BindingKind} {name : String}
      (shape : d.shape = .variableDeclarator id none) (named : id.identifierName? = some name) :
      MadeOf (ofVariable kind name id d.span) [d]
  | declared {d id value : Node} {kind : BindingKind} {name : String}
      (shape : d.shape = .variableDeclarator id (some value))
      (named : id.identifierName? = some name) :
      MadeOf (value.declaredAs kind name id d.span) [d, value]
  | method {m key value body : Node} {kind : MethodKind} {computed isStatic : Bool}
      {id : Option Node} {params : List Node}
      (shape : m.shape = .methodDefinition key value kind computed isStatic)
      (function : value.shape = .functionExpression id params body) :
      MadeOf (ofFunction .method (methodLabel kind key) (some key) m.span params
        body.declarations) [m, value]

/-- The entries of a list are its first one, those below that and those of the others. -/
theorem allOf_cons (item : OutlineItem) (rest : List OutlineItem) :
    allOf (item :: rest) = item :: (allOf item.children ++ allOf rest) := by
  obtain ⟨name, kind, detail, span, selection, children⟩ := item
  rw [allOf, all, List.cons_append]

/-- Entries of two lists in a row. -/
theorem allOf_append (items others : List OutlineItem) :
    allOf (items ++ others) = allOf items ++ allOf others := by
  induction items with
  | nil => rw [allOf, List.nil_append, List.nil_append]
  | cons item rest ih =>
      rw [List.cons_append, allOf, allOf, ih, List.append_assoc]

/-- An entry belongs to one of the nodes. -/
theorem mem_allOf_flatMap {ns : List Node} {f : Node → List OutlineItem} {item : OutlineItem} :
    item ∈ allOf (ns.flatMap f) ↔ ∃ n ∈ ns, item ∈ allOf (f n) := by
  induction ns with
  | nil => simp [allOf]
  | cons n rest ih => simp [allOf_append, ih]

/-- The entries and those below them are made of nodes that come along the row, in its
    order and without a node that is used twice. -/
def Along (items : List OutlineItem) (ns : List Node) : Prop :=
  ∃ origins, List.Forall₂ MadeOf (allOf items) origins ∧ origins.flatten.Sublist ns

namespace Along

variable {items others : List OutlineItem} {item : OutlineItem} {own ns ms : List Node}

/-- There is nothing to lie along the nodes. -/
theorem nil (ns : List Node) : Along [] ns := ⟨[], .nil, List.nil_sublist _⟩

/-- Entries along two rows of nodes. -/
theorem append (h : Along items ns) (k : Along others ms) : Along (items ++ others) (ns ++ ms) := by
  obtain ⟨origins, made, along⟩ := h
  obtain ⟨more, alike, further⟩ := k
  refine ⟨origins ++ more, ?_, ?_⟩
  · rw [allOf_append]
    exact List.rel_append made alike
  · rw [List.flatten_append]
    exact along.append further

/-- What an entry is made of comes in front of what the entries below are made of. -/
theorem entry (made : item.MadeOf own) (below : Along item.children ns)
    (along : (own ++ ns).Sublist ms) : Along [item] ms := by
  obtain ⟨origins, alike, inner⟩ := below
  refine ⟨own :: origins, ?_, ?_⟩
  · rw [allOf_cons, allOf, List.append_nil]
    exact .cons made alike
  · rw [List.flatten_cons]
    exact ((List.Sublist.refl own).append inner).trans along

/-- Entries node by node lie along the nodes one after another. -/
theorem flatMap {f : Node → List OutlineItem} (h : ∀ n ∈ ns, Along (f n) n.walk) :
    Along (ns.flatMap f) (ns.flatMap Node.walk) := by
  induction ns with
  | nil => exact nil _
  | cons n rest ih =>
      rw [List.flatMap_cons, List.flatMap_cons]
      exact (h n List.mem_cons_self).append (ih fun m hm => h m (List.mem_cons_of_mem _ hm))

end Along

/-! ## How entries lie -/

/-- The entries lie in the span, one behind the other. -/
structure LieIn (items : List OutlineItem) (span : Span) : Prop where
  inside : ∀ item ∈ items, item.span.Inside span
  ordered : items.Pairwise fun a b => a.span.Before b.span

namespace LieIn

variable {items : List OutlineItem} {item : OutlineItem} {s t : Span}

/-- No entry lies anywhere. -/
theorem nil (s : Span) : LieIn [] s := ⟨nofun, .nil⟩

/-- An entry lies in a span around its own. -/
theorem one (h : item.span.Inside s) : LieIn [item] s :=
  ⟨fun _ hi => List.mem_singleton.mp hi ▸ h, List.pairwise_singleton _ _⟩

/-- What lies in a span lies in one around it. -/
theorem widen (h : LieIn items s) (k : s.Inside t) : LieIn items t :=
  ⟨fun i hi => (h.inside i hi).trans k, h.ordered⟩

/-- Entries of nodes that lie one behind the other do so. -/
theorem flatMap {ns : List Node} {f : Node → List OutlineItem}
    (each : ∀ n ∈ ns, LieIn (f n) n.span) (inside : ∀ n ∈ ns, n.span.Inside s)
    (ordered : ns.Pairwise fun c d => c.span.Precedes d.span) : LieIn (ns.flatMap f) s where
  inside item hi := by
    obtain ⟨n, hn, hi⟩ := List.mem_flatMap.mp hi
    exact ((each n hn).inside item hi).trans (inside n hn)
  ordered := by
    refine List.pairwise_flatMap.mpr ⟨fun n hn => (each n hn).ordered, ?_⟩
    refine ordered.imp_of_mem fun hc hd precedes a ha b hb => ?_
    have left := ((each _ hc).inside a ha).2
    have right := ((each _ hd).inside b hb).1
    exact Nat.le_trans left (Nat.le_trans precedes.1 right)

end LieIn

end OutlineItem

/-! ## Nodes with entries below them -/

namespace Node

variable {text : List Char} {n value last : Node} {items : List OutlineItem} {item : OutlineItem}

/-- The entries lie in the node and those below in theirs, and they are made of nodes
    along its walk. -/
structure Bears (n : Node) (items : List OutlineItem) : Prop where
  here : OutlineItem.LieIn items n.span
  below : ∀ item ∈ OutlineItem.allOf items, OutlineItem.LieIn item.children item.span
  origins : OutlineItem.Along items n.walk

namespace Bears

/-- A node without entries bears none. -/
theorem nil (n : Node) : n.Bears [] where
  here := .nil _
  below item hi := by
    rw [OutlineItem.allOf] at hi
    cases hi
  origins := .nil _

/-- What children bear, their parent does. -/
theorem flatMap {ns : List Node} {f : Node → List OutlineItem} (nests : n.Nests text)
    (along : ns.Sublist n.children) (each : ∀ x ∈ ns, x.Bears (f x)) : n.Bears (ns.flatMap f) where
  here := .flatMap (fun x hx => (each x hx).here) (fun x hx => nests.inside x (along.subset hx))
    (nests.ordered.sublist along)
  below item hi := by
    obtain ⟨x, hx, hi⟩ := OutlineItem.mem_allOf_flatMap.mp hi
    exact (each x hx).below item hi
  origins := by
    obtain ⟨origins, made, there⟩ := OutlineItem.Along.flatMap fun x hx => (each x hx).origins
    refine ⟨origins, made, there.trans ?_⟩
    rw [walk_eq]
    exact (along.flatMap walk).cons _

/-- A node goes in front of the walk of a child. -/
theorem walk_sublist_of_child (h : last ∈ n.children) : (n :: last.walk).Sublist n.walk := by
  rw [walk_eq n, List.flatMap_def]
  exact (List.sublist_flatten_of_mem (List.mem_map_of_mem h)).cons_cons n

/-- An entry that covers the node holds what the last node bears, which stands in it
    behind the nodes of the entry. -/
theorem entry {own : List Node} (made : item.MadeOf own) (span : item.span = n.span)
    (held : last.Bears item.children) (inside : last.span.Inside n.span)
    (along : (own ++ last.walk).Sublist n.walk) : n.Bears [item] where
  here := .one (span ▸ .refl _)
  below i hi := by
    rw [OutlineItem.allOf_cons, OutlineItem.allOf, List.append_nil] at hi
    rcases List.mem_cons.mp hi with rfl | hi
    · exact span ▸ held.here.widen inside
    · exact held.below i hi
  origins := .entry made held.origins along

/-- An entry that holds nothing only has to come along the walk. -/
theorem bare {own : List Node} (made : item.MadeOf own) (span : item.span = n.span)
    (none : item.children = []) (along : own.Sublist n.walk) : n.Bears [item] where
  here := .one (span ▸ .refl _)
  below i hi := by
    rw [OutlineItem.allOf_cons, none] at hi
    obtain rfl := List.mem_singleton.mp hi
    exact none ▸ .nil _
  origins := .entry made (none ▸ .nil []) (List.append_nil own ▸ along)

/-- An entry of one node holds what a child of it bears. -/
theorem entry_own (made : item.MadeOf [n]) (span : item.span = n.span)
    (held : last.Bears item.children) (nests : n.Nests text) (inside : last ∈ n.children) :
    n.Bears [item] :=
  .entry made span held (nests.inside last inside) (walk_sublist_of_child inside)

/-- A function holds what its body declares. -/
theorem function {body : Node} {id : Option Node} {params : List Node}
    (shape : n.shape = .functionDeclaration id params body ∨
      n.shape = .functionExpression id params body)
    (nests : n.Nests text) (held : ∀ x ∈ n.children, x.Bears x.declarations) :
    n.Bears [.ofFunction .function (OutlineItem.nameOf id) id n.span params body.declarations] := by
  have there : body ∈ n.children := by
    rcases shape with found | found <;> simp [children, found, Shape.children]
  exact .entry_own (.function shape) rfl (held body there) nests there

/-- A class holds the methods of its body. -/
theorem classType {body : Node} {id parent : Option Node}
    (shape : n.shape = .classDeclaration id parent body ∨
      n.shape = .classExpression id parent body)
    (nests : n.Nests text) (held : ∀ x ∈ n.children, x.Bears x.methods) :
    n.Bears [.ofClass (OutlineItem.nameOf id) id n.span body.methods] := by
  have there : body ∈ n.children := by
    rcases shape with found | found <;> simp [children, found, Shape.children]
  exact .entry_own (.classType shape) rfl (held body there) nests there

/-- An entry of a node and its value holds what a child of the value bears. -/
theorem entry_value (made : item.MadeOf [n, value]) (span : item.span = n.span)
    (held : last.Bears item.children) (nests : n.Nests text) (there : value ∈ n.children)
    (inner : value.Nests text) (inside : last ∈ value.children) : n.Bears [item] := by
  refine .entry made span held (.trans (inner.inside last inside) (nests.inside value there)) ?_
  have deeper := walk_sublist_of_child inside
  exact (deeper.cons_cons n).trans (walk_sublist_of_child there)

end Bears

/-! ## What collectors list -/

/-- Whatever is listed at the node lies and stands as the node does. -/
structure Grows (n : Node) (text : List Char) : Prop where
  declarations : n.Bears n.declarations
  declaredBy : ∀ kind, n.Bears (n.declaredBy kind)
  declaredAs : ∀ {kind name} {d id : Node}, d.shape = .variableDeclarator id (some n) →
    id.identifierName? = some name → d.Nests text → d.Bears [n.declaredAs kind name id d.span]
  functionsIn : n.Bears n.functionsIn
  methods : n.Bears n.methods
  methodItems : n.Bears n.methodItems
  methodBody : ∀ {m key : Node} {kind computed isStatic},
    m.shape = .methodDefinition key n kind computed isStatic → m.Nests text →
      m.Bears (n.methodBody (OutlineItem.methodLabel kind key) key m.span)

/-! ### One collector at a time -/

section

variable (self : n.Nests text) (below : ∀ x ∈ n.children, x.Grows text)

include self below

/-- What a node declares lies along the node. -/
theorem bears_declarations : n.Bears n.declarations := by
  rw [declarations]
  split
  · rename_i found
    exact .function (.inl found) self fun x hx => (below x hx).declarations
  · rename_i found
    exact .classType (.inl found) self fun x hx => (below x hx).methods
  · rename_i kind declarators found
    have children : n.children = declarators := congrArg Shape.children found
    simp only [List.flatMap_subtype, List.unattach_attach]
    exact .flatMap self (children ▸ .refl _) fun d hd => (below d (children ▸ hd)).declaredBy kind
  · rename_i inner found
    have children : n.children = [inner] := congrArg Shape.children found
    rw [← List.flatMap_singleton functionsIn inner]
    exact .flatMap self (children ▸ .refl _) fun x hx => (below x (children ▸ hx)).functionsIn
  · split
    · simp only [List.flatMap_subtype, List.unattach_attach]
      exact .flatMap self (.refl _) fun x hx => (below x hx).declarations
    · exact .nil n

/-- So do the variables of a declaration. -/
theorem bears_declaredBy (kind : BindingKind) : n.Bears (n.declaredBy kind) := by
  rw [declaredBy]
  split
  · rename_i id init found
    split
    · exact .nil n
    · rename_i name named
      split
      · rename_i found _
        have there : id ∈ n.children := by simp [children, found, Shape.children]
        exact .entry_own (.unset found named) rfl (.nil id) self there
      · rename_i value found _
        have there : value ∈ n.children := by simp [children, found, Shape.children]
        exact (below value there).declaredAs found named self
  · exact .nil n

/-- The value of a name and its declarator are listed as one entry. -/
theorem bears_declaredAs {kind : BindingKind} {name : String} {d id : Node}
    (found : d.shape = .variableDeclarator id (some n)) (named : id.identifierName? = some name)
    (outer : d.Nests text) : d.Bears [n.declaredAs kind name id d.span] := by
  have there : n ∈ d.children := by simp [children, found, Shape.children]
  have made : OutlineItem.MadeOf (n.declaredAs kind name id d.span) [d, n] := .declared found named
  rw [declaredAs] at made ⊢
  split at made
  · rename_i body shape
    have inside : body ∈ n.children := by simp [children, shape, Shape.children]
    exact .entry_value made rfl (below body inside).declarations outer there self inside
  · rename_i body _ shape
    have inside : body ∈ n.children := by simp [children, shape, Shape.children]
    exact .entry_value made rfl (below body inside).declarations outer there self inside
  · rename_i body shape
    have inside : body ∈ n.children := by simp [children, shape, Shape.children]
    exact .entry_value made rfl (below body inside).methods outer there self inside
  · have first := List.singleton_sublist.mpr n.mem_walk_self
    exact .bare made rfl rfl ((first.cons_cons d).trans (Bears.walk_sublist_of_child there))

/-- So do the functions inside of a node. -/
theorem bears_functionsIn : n.Bears n.functionsIn := by
  rw [functionsIn]
  split
  · rename_i found
    exact .function (.inr found) self fun x hx => (below x hx).declarations
  · rename_i params body flag found
    have there : body ∈ n.children := by simp [children, found, Shape.children]
    exact .entry_own (.arrow found) rfl (below body there).declarations self there
  · rename_i found
    exact .classType (.inr found) self fun x hx => (below x hx).methods
  · simp only [List.flatMap_subtype, List.unattach_attach]
    exact .flatMap self (.refl _) fun x hx => (below x hx).functionsIn

/-- So do the methods of a class. -/
theorem bears_methods : n.Bears n.methods := by
  rw [methods]
  split
  · rename_i members found
    have children : n.children = members := congrArg Shape.children found
    simp only [List.flatMap_subtype, List.unattach_attach]
    exact .flatMap self (children ▸ .refl _) fun m hm => (below m (children ▸ hm)).methodItems
  · exact .nil n

/-- So do the methods as they are listed. -/
theorem bears_methodItems : n.Bears n.methodItems := by
  rw [methodItems]
  split
  · rename_i key value kind computed isStatic found
    have there : value ∈ n.children := by simp [children, found, Shape.children]
    exact (below value there).methodBody found self
  · exact .nil n

/-- The function of a method and the method are listed as one entry. -/
theorem bears_methodBody {m key : Node} {kind : MethodKind} {computed isStatic : Bool}
    (found : m.shape = .methodDefinition key n kind computed isStatic) (outer : m.Nests text) :
    m.Bears (n.methodBody (OutlineItem.methodLabel kind key) key m.span) := by
  have there : n ∈ m.children := by simp [children, found, Shape.children]
  rw [methodBody]
  split
  · rename_i id params body shape
    have inside : body ∈ n.children := by simp [children, shape, Shape.children]
    exact .entry_value (.method found shape) rfl (below body inside).declarations outer there self
      inside
  · exact .nil m

end

/-- Where all nodes nest, it is so at each of them. -/
theorem grows (n : Node) (nests : n.NestsBelow text) : n.Grows text := by
  induction n using induction_on_children with
  | step n ih =>
      have self := nests.self
      have below : ∀ x ∈ n.children, x.Grows text :=
        fun x hx => ih x hx (nests.part (Shape.mem_parts_of_mem_children hx))
      exact
        { declarations := bears_declarations self below
          declaredBy := bears_declaredBy self below
          declaredAs := bears_declaredAs self below
          functionsIn := bears_functionsIn self below
          methods := bears_methods self below
          methodItems := bears_methodItems self below
          methodBody := bears_methodBody self below }

end Node

/-- A row of nodes that is cut in slices cuts the row of their places alike. -/
theorem exists_slices {α β : Type} {f : α → β} {places : List α} {slices : List (List β)}
    (same : places.map f = slices.flatten) :
    ∃ parts : List (List α), parts.map (List.map f) = slices ∧ parts.flatten = places := by
  induction slices generalizing places with
  | nil => exact ⟨[], rfl, (List.map_eq_nil_iff.mp same).symm⟩
  | cons slice rest ih =>
      rw [List.flatten_cons] at same
      obtain ⟨first, others, rfl, rfl, below⟩ := List.map_eq_append_iff.mp same
      obtain ⟨parts, rfl, rfl⟩ := ih below
      exact ⟨first :: parts, rfl, rfl⟩

/-- The program bears the outline of its tree. -/
theorem outline_bears {text : List Char} (tree : SyntaxTree)
    (nests : tree.program.NestsBelow text) : tree.program.Bears (outline tree) := by
  have along : tree.body.Sublist tree.program.children := by
    rw [SyntaxTree.body]
    cases found : tree.program.statements? with
    | none => exact List.nil_sublist _
    | some body => exact Shape.statements_sublist_children found
  refine .flatMap nests.self along fun statement hs => ?_
  have there := Shape.mem_parts_of_mem_children (along.subset hs)
  exact (statement.grows (nests.part there)).declarations

/-- FORESTS: in the outline of a text that the strict parser accepts, all entries lie in the
    entry that holds them, in the program at the top, and each ends before the next one at
    its level starts.  All entries of the forest are made of functions, classes,
    declarators and methods of the tree, and of a place in the tree at most one is. -/
theorem outline_forest (options : ParseOptions) (text : List Char) (file : String)
    {program : Node}
    (accepted : (SyntaxTree.pass options text file .strict .empty).1 = .tree program) :
    let tree := SyntaxTree.parse options text file
    OutlineItem.LieIn (outline tree) tree.program.span ∧
    (∀ item ∈ OutlineItem.allOf (outline tree), OutlineItem.LieIn item.children item.span) ∧
    ∃ origins : List (List (List Nat × Node)),
      List.Forall₂ (fun item own => item.MadeOf (own.map Prod.snd))
        (OutlineItem.allOf (outline tree)) origins ∧
      (∀ place ∈ origins.flatten, tree.program.at? place.1 = some place.2) ∧
      origins.flatten.Pairwise fun a b => a.1 < b.1 := by
  intro tree
  have same : tree.program = program :=
    congrArg SyntaxTree.program (SyntaxTree.parse_of_tree options text file (Prod.ext accepted rfl))
  have nests : tree.program.NestsBelow text := same ▸ parseText_nestsBelow accepted
  obtain ⟨top, below, origins, made, along⟩ := outline_bears tree nests
  obtain ⟨places, nodes, there, ordered⟩ := Node.exists_places along
  obtain ⟨parts, rfl, rfl⟩ := exists_slices nodes
  exact ⟨top, below, parts, List.forall₂_map_right_iff.mp made, there, ordered⟩

/-- So it is with a class, its method, a function in the method, and a variable that names
    an arrow function. -/
theorem outline_forest_class :
    let text := "class A{m(){function f(){}}}var g=()=>{}".toList
    let tree := SyntaxTree.parse {} text ""
    ∃ program origins, (SyntaxTree.pass {} text "" .strict .empty).1 = .tree program ∧
      (OutlineItem.allOf (outline tree)).map OutlineItem.name = ["A", "m", "f", "g"] ∧
      OutlineItem.LieIn (outline tree) tree.program.span ∧
      (∀ item ∈ OutlineItem.allOf (outline tree), OutlineItem.LieIn item.children item.span) ∧
      List.Forall₂ (fun item own => item.MadeOf (own.map Prod.snd))
        (OutlineItem.allOf (outline tree)) origins ∧
      (∀ place ∈ origins.flatten, tree.program.at? place.1 = some place.2) ∧
      origins.flatten.Pairwise fun a b => a.1 < b.1 := by
  intro text tree
  have names : (SyntaxTree.pass {} text "" .strict .empty).1.tree?.map (fun _ =>
      (OutlineItem.allOf (outline tree)).map OutlineItem.name) = some ["A", "m", "f", "g"] := by
    decide +kernel
  obtain ⟨program, accepted, names⟩ := ParseResult.exists_tree names
  obtain ⟨top, below, origins, made, there, ordered⟩ := outline_forest {} text "" accepted
  exact ⟨program, origins, accepted, names, top, below, made, there, ordered⟩

end ScriptTree

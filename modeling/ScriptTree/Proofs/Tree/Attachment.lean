import Mathlib.Data.List.Nodup
import ScriptTree.Proofs.Assembly.Program
import ScriptTree.Proofs.Lexeme.Partition
import ScriptTree.Proofs.Tree.Parse

/-! # Attachment — which comments nodes carry

    Comments are handed out at two cursors.  Those in front of the leading cursor were
    given to nodes they lead, those in front of the trailing cursor were considered
    for nodes they trail, and neither cursor ever goes back.  So comments are counted:
    however often a comment leads the nodes that were made between two places of a
    parse, the leading cursor has passed it there as often at least, and likewise
    with what trails.  At the end each comment was passed once. -/

namespace ScriptTree

namespace Node

variable {own : Node → List Comment}

/-- The comments of all nodes of a tree. -/
def attached (own : Node → List Comment) (n : Node) : List Comment := n.subtree.flatMap own

/-- A node has its own comments in front of those of its parts. -/
theorem attached_eq (own : Node → List Comment) (n : Node) :
    n.attached own = own n ++ n.parts.flatMap (attached own) := by
  rw [attached, subtree_eq, List.flatMap_cons, List.flatMap_assoc]
  rfl

/-- The node carries comments of the list, in their order, and on the right side. -/
structure Carries (comments : List Comment) (n : Node) : Prop where
  leading : n.leadingComments.Sublist comments
  trailing : n.trailingComments.Sublist comments
  before : ∀ c ∈ n.leadingComments, c.span.stop ≤ n.span.start
  behind : ∀ c ∈ n.trailingComments, n.span.stop ≤ c.span.start

/-- What is carried stays carried where more comments are known. -/
theorem Carries.further {comments more : List Comment} {n : Node} (h : n.Carries comments)
    (front : comments <+: more) : n.Carries more :=
  ⟨h.leading.trans front.sublist, h.trailing.trans front.sublist, h.before, h.behind⟩

/-- A node that is like another carries the same. -/
theorem Carries.of_alike {comments : List Comment} {n m : Node} (h : n.Carries comments)
    (alike : n.Alike m) : m.Carries comments := by
  obtain ⟨span, leading, trailing, -⟩ := alike
  constructor
  · exact leading ▸ h.leading
  · exact trailing ▸ h.trailing
  · rw [leading, span]
    exact h.before
  · rw [trailing, span]
    exact h.behind

/-- A node without comments and parts. -/
theorem attached_bare {shape : Shape Node} {span : Span} (leaf : shape.parts = [])
    (none : own (bare shape span) = []) : (bare shape span).attached own = [] := by
  have parts : (bare shape span).parts = [] := leaf
  rw [attached_eq, none, parts]
  rfl

/-- A pattern has the comments of the expression it was. -/
theorem attached_toPattern (n : Node) (kept : ∀ a b, a.Alike b → own b = own a) :
    n.toPattern.attached own = n.attached own := by
  rw [attached, attached, List.flatMap_def, List.flatMap_def,
    map_eq_of_related n.subtree_toPattern kept]

end Node

namespace Annotations

variable {options : ParseOptions} {mode : Mode} {lines : LineIndex} {file : String}
  {p q r : Progress Annotations} {n : Node} {ns ms : List Node} {own : Bool} {o : Grammar.Opened}

/-- The comments that the leading cursor has passed. -/
def given (a : Annotations) : List Comment := a.comments.toList.take a.leadingCursor

/-- The comments that the trailing cursor has passed. -/
def considered (a : Annotations) : List Comment := a.comments.toList.take a.trailingCursor

/-- The nodes carry no comment more often than it was passed between the two. -/
def HandsOut (own : Node → List Comment) (passed : Annotations → List Comment) (a : Annotations)
    (ns : List Node) (b : Annotations) : Prop :=
  ∀ c, (ns.flatMap (Node.attached own)).count c + (passed a).count c ≤ (passed b).count c

/-- So do other nodes that carry the same. -/
theorem HandsOut.map {own : Node → List Comment} {passed : Annotations → List Comment}
    {a b : Annotations} (h : HandsOut own passed a ns b) (f : Node → Node)
    (same : ∀ n, (f n).attached own = n.attached own) :
    HandsOut own passed a (ns.map f) b := by
  intro c
  rw [List.flatMap_map, List.flatMap_congr fun n _ => same n]
  exact h c

/-- What is known of the comments of the nodes that were made between two places. -/
structure Attached (p : Progress Annotations) (ns : List Node) (q : Progress Annotations) :
    Prop where
  forward : p.situation.consumed ≤ q.situation.consumed
  comments : p.observed.comments.toList <+: q.observed.comments.toList
  leading : HandsOut Node.leadingComments given p.observed ns q.observed
  trailing : HandsOut Node.trailingComments considered p.observed ns q.observed
  carries : ∀ n ∈ ns, ∀ m ∈ n.subtree, m.Carries q.observed.comments.toList

namespace Attached

/-- Two rows of nodes in turn. -/
theorem append (h : Attached p ns q) (k : Attached q ms r) : Attached p (ns ++ ms) r where
  forward := Nat.le_trans h.forward k.forward
  comments := h.comments.trans k.comments
  leading c := by
    have := h.leading c
    have := k.leading c
    rw [List.flatMap_append, List.count_append]
    omega
  trailing c := by
    have := h.trailing c
    have := k.trailing c
    rw [List.flatMap_append, List.count_append]
    omega
  carries n hn m hm := by
    rcases List.mem_append.mp hn with hn | hn
    · exact (h.carries n hn m hm).further k.comments
    · exact k.carries n hn m hm

/-- Nothing was made, and comments came up at most. -/
theorem of_comments (forward : p.situation.consumed ≤ q.situation.consumed)
    (comments : p.observed.comments.toList <+: q.observed.comments.toList)
    (leading : q.observed.leadingCursor = p.observed.leadingCursor)
    (trailing : q.observed.trailingCursor = p.observed.trailingCursor) : Attached p [] q := by
  -- What a cursor has passed stays as it is when comments are put behind.
  have kept (cursor : Nat) (c : Comment) : (p.observed.comments.toList.take cursor).count c ≤
      (q.observed.comments.toList.take cursor).count c := by
    obtain ⟨more, comments⟩ := comments
    rw [← comments, List.take_append, List.count_append]
    exact Nat.le_add_right _ _
  refine ⟨forward, comments, fun c => ?_, fun c => ?_, nofun⟩
  · rw [List.flatMap_nil, List.count_nil, Nat.zero_add, given, given, leading]
    exact kept _ c
  · rw [List.flatMap_nil, List.count_nil, Nat.zero_add, considered, considered, trailing]
    exact kept _ c

/-- Nothing happens. -/
theorem refl (p : Progress Annotations) : Attached p [] p :=
  of_comments (Nat.le_refl _) (List.prefix_refl _) rfl rfl

/-- A token is taken. -/
theorem taken (p : Progress Annotations) :
    Attached p [] (p.taken ⟨mode, lines, observer options lines file⟩) := by
  obtain ⟨tokens, comments, diagnostics, observed⟩ := observed_taken p
  refine of_comments p.consumed_le_taken ?_ ?_ ?_
  · rw [observed, Array.toList_append]
    exact List.prefix_append _ _
  · rw [observed]
  · rw [observed]

end Attached

/-! ## Opening and closing -/

/-- The comments from a cursor on. -/
theorem toList_extract_size (comments : Array Comment) (cursor : Nat) :
    (comments.extract cursor).toList = comments.toList.drop cursor := by
  rw [Array.toList_extract, List.extract_eq_take_drop]
  exact List.take_of_length_le (by simp)

section

variable (a : Annotations) (offset : Nat)

/-- The comments that lead are the next ones. -/
theorem leadingAt_front :
    a.leadingAt offset <+: a.comments.toList.drop a.leadingCursor := by
  rw [leadingAt, toList_extract_size]
  exact List.takeWhile_prefix _

/-- The comments that trail are some of the next ones, in order. -/
theorem trailingAt_sublist :
    (a.trailingAt offset).Sublist (a.comments.toList.drop a.trailingCursor) := by
  rw [trailingAt, toList_extract_size]
  exact List.filter_sublist

/-- What leads a node that is opened stands behind what was given before. -/
theorem given_openNode : (openNode offset a).2.given = a.given ++ a.leadingAt offset := by
  show a.comments.toList.take (a.leadingCursor + (a.leadingAt offset).length) = _
  rw [List.take_add, ← List.prefix_iff_eq_take.mp (a.leadingAt_front offset)]
  rfl

/-- What trails a node that is closed was not considered before. -/
theorem considered_closeNode (n : Node) (c : Comment) :
    (a.trailingAt n.span.stop).count c + a.considered.count c ≤
      (closeNode n a).2.considered.count c := by
  have whole : (closeNode n a).2.considered =
      a.considered ++ a.comments.toList.drop a.trailingCursor := by
    rw [considered, considered, List.take_append_drop]
    exact List.take_of_length_le (Nat.le_refl _)
  have := (a.trailingAt_sublist n.span.stop).count_le c
  rw [whole, List.count_append]
  omega

end

/-- The node was opened between the two places, with comments that the leading
    cursor passed there. -/
structure Granted (p : Progress Annotations) (o : Grammar.Opened) (q : Progress Annotations) :
    Prop where
  made : Attached p [] q
  leading : ∀ c, o.leading.count c + p.observed.given.count c ≤ q.observed.given.count c
  sublist : o.leading.Sublist q.observed.comments.toList
  before : ∀ c ∈ o.leading, c.span.stop ≤ o.start

/-- A node without comments that lead it. -/
theorem Granted.plain (p : Progress Annotations) (start : Nat) :
    Granted p (Grammar.openedAt start) p where
  made := .refl p
  leading _ := Nat.le_of_eq (Nat.zero_add _)
  sublist := List.nil_sublist _
  before := nofun

/-- Opening a node grants it the comments in front of it. -/
theorem granted_of_opens (h : p.Opens ⟨mode, lines, observer options lines file⟩ own o q) :
    Granted p o q := by
  cases h with
  | inherited => exact .plain p _
  | here =>
      let start := p.situation.token.span.start
      have passed (c : Comment) : (p.observed.leadingAt start).count c +
          p.observed.given.count c = (openNode start p.observed).2.given.count c := by
        rw [given_openNode, List.count_append, Nat.add_comm]
      have front := (p.observed.leadingAt_front start).sublist
      refine ⟨⟨Nat.le_refl _, List.prefix_refl _, fun c => ?_, fun _ => ?_, nofun⟩,
        fun c => Nat.le_of_eq (passed c), front.trans (List.drop_sublist _ _), fun c hc => ?_⟩
      · exact Nat.le_trans (Nat.add_le_add_right (Nat.zero_le _) _) (Nat.le_of_eq (passed c))
      · exact Nat.le_of_eq (Nat.zero_add _)
      · have kept : c ∈ p.observed.leadingAt start := hc
        exact of_decide_eq_true (List.all_eq_true.mp List.all_takeWhile c kept)

namespace Attached

/-- A node is closed over the nodes that were made since it was opened. -/
theorem close {stop : Nat} (h : Attached q ns r) (opened : Granted p o q)
    (shape : Shape Node) (parts : shape.parts = ns) :
    let closed := r.closeAt ⟨mode, lines, observer options lines file⟩ o shape stop
    Attached p [closed.1] closed.2 := by
  intro closed
  let node : Node := ⟨shape, ⟨o.start, max stop o.start⟩, o.leading, []⟩
  have below : closed.1.parts = ns := parts
  have all (own : Node → List Comment) : [closed.1].flatMap (Node.attached own) =
      own closed.1 ++ ns.flatMap (Node.attached own) := by
    rw [List.flatMap_singleton, Node.attached_eq, below]
  have trails : closed.1.trailingComments = r.observed.trailingAt node.span.stop := rfl
  refine ⟨Nat.le_trans opened.made.forward h.forward, opened.made.comments.trans h.comments,
    fun c => ?_, fun c => ?_, fun n hn m hm => ?_⟩
  -- Leading comments were given when the node was opened, and are counted there.
  · have := opened.leading c
    have := h.leading c
    have same : closed.2.observed.given = r.observed.given := rfl
    have own : closed.1.leadingComments = o.leading := rfl
    rw [all, own, same, List.count_append]
    omega
  -- Trailing comments are given now, out of those not considered before.
  · have := opened.made.trailing c
    have := h.trailing c
    have : _ ≤ closed.2.observed.considered.count c := considered_closeNode r.observed node c
    rw [all, trails, List.count_append]
    rw [List.flatMap_nil, List.count_nil] at *
    omega
  · rw [List.mem_singleton] at hn
    subst hn
    rw [Node.subtree_eq, below] at hm
    -- The node itself carries its own comments; what is below it carried its own already.
    rcases List.mem_cons.mp hm with rfl | hm
    · refine ⟨opened.sublist.trans h.comments.sublist, ?_, opened.before, fun c hc => ?_⟩
      · exact (r.observed.trailingAt_sublist _).trans (List.drop_sublist _ _)
      · exact of_decide_eq_true (List.mem_filter.mp hc).2
    · obtain ⟨n, hn, hm⟩ := List.mem_flatMap.mp hm
      exact h.carries n hn m hm

/-- Behind which nothing was made yet. -/
theorem closed {shape : Shape Node} {s : Progress Annotations}
    (opens : p.Opens ⟨mode, lines, observer options lines file⟩ own o q)
    (complete : Progress.Completes ⟨mode, lines, observer options lines file⟩ Attached own p q
      shape ns r s) :
    let closed := s.closeAt ⟨mode, lines, observer options lines file⟩ o shape
      r.situation.previousEnd
    Attached p [closed.1] closed.2 := by
  refine (complete.below.append complete.behind).close (granted_of_opens opens) _ ?_
  rw [List.append_nil]
  exact complete.covers.2

/-- A node without comments and parts may be made out of nothing. -/
theorem bare (h : Attached p ns q) (shape : Shape Node) (span : Span)
    (leaf : shape.parts = []) : Attached p (Node.bare shape span :: ns) q where
  forward := h.forward
  comments := h.comments
  leading c := by
    rw [List.flatMap_cons, Node.attached_bare leaf rfl]
    exact h.leading c
  trailing c := by
    rw [List.flatMap_cons, Node.attached_bare leaf rfl]
    exact h.trailing c
  carries n hn m hm := by
    rcases List.mem_cons.mp hn with rfl | hn
    · have parts : (Node.bare shape span).parts = [] := leaf
      rw [Node.subtree_eq, parts, List.flatMap_nil, List.mem_singleton] at hm
      subst hm
      exact ⟨List.nil_sublist _, List.nil_sublist _, nofun, nofun⟩
    · exact h.carries n hn m hm

/-- Expressions may become patterns. -/
theorem toPattern (h : Attached p ns q) : Attached p (ns.map Node.toPattern) q where
  forward := h.forward
  comments := h.comments
  leading := h.leading.map _ fun n => n.attached_toPattern fun _ _ alike => alike.leading
  trailing := h.trailing.map _ fun n => n.attached_toPattern fun _ _ alike => alike.trailing
  carries m hm k hk := by
    obtain ⟨n, hn, rfl⟩ := List.mem_map.mp hm
    obtain ⟨l, hl, alike⟩ := Node.exists_related n.subtree_toPattern hk
    exact (h.carries n hn l hl).of_alike alike

/-- What was made may be left out. -/
theorem drop (h : Attached p ns q) : Attached p [] q where
  forward := h.forward
  comments := h.comments
  leading c := Nat.le_trans (Nat.add_le_add_right (Nat.zero_le _) _) (h.leading c)
  trailing c := Nat.le_trans (Nat.add_le_add_right (Nat.zero_le _) _) (h.trailing c)
  carries := nofun

/-- A name that is its own value leaves its comments to the key. -/
theorem of_twin {key value : Node} (name : key.identifierName?.isSome = true)
    (twin : p.Twin ⟨mode, lines, observer options lines file⟩ Attached key value q) :
    Attached p [key, value] q := by
  have leaf := Node.parts_of_identifierName? name
  cases twin with
  | name named => exact named.append ((refl q).bare _ _ leaf)
  | @default q r right _ named _ behind closes =>
      subst closes
      exact named.append ((behind.bare key.shape key.span leaf).close (.plain q _) _ rfl)

/-- No comment is carried more often than it came up. -/
theorem count_le (h : Attached p [n] q) (c : Comment) :
    (n.attached Node.leadingComments).count c ≤ q.observed.comments.toList.count c ∧
      (n.attached Node.trailingComments).count c ≤ q.observed.comments.toList.count c := by
  have leading := h.leading c
  have trailing := h.trailing c
  have given : q.observed.given.count c ≤ _ := (List.take_sublist _ _).count_le c
  have considered : q.observed.considered.count c ≤ _ := (List.take_sublist _ _).count_le c
  rw [List.flatMap_singleton] at leading trailing
  omega

end Attached

/-- Handing out comments keeps up with every parse. -/
def handingOut (options : ParseOptions) (mode : Mode) (lines : LineIndex) (file : String) :
    Assembly ⟨mode, lines, observer options lines file⟩ where
  Made := Attached
  still h := by
    obtain ⟨depth, inFunction, rfl⟩ := h
    exact .of_comments (Nat.le_refl _) (List.prefix_refl _) rfl rfl
  append := .append
  forward := Attached.forward
  taken := .taken
  opened _ opens := (granted_of_opens opens).made
  closed opens complete _ := .closed opens complete
  headed := Progress.headed_of_closed .append .refl .closed
  shorthand opens name twin :=
    (Attached.of_twin name twin).close (granted_of_opens opens) _ rfl
  chunk _ := (Attached.taken _).append ((Attached.refl _).close (.plain _ _) _ rfl)
  filler _ leaf _ _ := (Attached.refl _).bare _ _ leaf
  dropped h _ := h.drop
  word _ word next := word.taken.drop.append next
  staticAccessor opens word second parts _ :=
    ((word.taken.drop.append second.taken.drop).append parts).close (granted_of_opens opens) _ rfl
  reinterpreted := .toPattern

/-- A program is made as its parts are. -/
theorem attached_of_tree {text : List Char} {program : Node} {a : Annotations}
    (h : parseText mode text lines (observer options lines file) .empty = (.tree program, a)) :
    ∃ p q, Attached p [program] q ∧ q.observed = a := by
  obtain ⟨first, rest, body, q, -, series, -, rfl, rfl⟩ :=
    parseText_made (handingOut options mode lines file) h
  exact ⟨_, _, Attached.close series.made (.plain _ 0) (.program body) rfl, rfl⟩

end Annotations

/-- Behind a parse of the text the comments stand in its order, and each only once. -/
theorem Annotations.Records.comments_ordered {options : ParseOptions} {lines : LineIndex}
    {file : String} {text : List Char} {words : List Lexeme} {last : Lexeme} {a : Annotations}
    (h : Records options lines file words last a) (stream : Lexeme.ofText text = words ++ [last]) :
    (a.comments.toList.Pairwise fun c d => c.span.Before d.span) ∧ a.comments.toList.Nodup := by
  obtain ⟨stop, tiles, cover, -⟩ := Lexeme.ofText_cover text
  have place (c : Comment) : (c.placed options lines file).span = c.span :=
    congrArg (·.2.2) (c.placed_same options lines file)
  have ordered : a.comments.toList.Pairwise fun c d => c.span.Before d.span := by
    rw [h.comments, ← stream, List.pairwise_map]
    simp only [place]
    exact cover.comments_ordered
  have some : ∀ c ∈ a.comments.toList, c.span.start < c.span.stop := by
    rw [h.comments, ← stream]
    intro c hc
    obtain ⟨d, hd, rfl⟩ := List.mem_map.mp hc
    rw [place]
    exact (cover.tiled.readFrom (cover.mem_of_comment hd)).some
  refine ⟨ordered, ordered.imp_of_mem fun {c d} hc _ before same => ?_⟩
  -- A comment that stood behind itself would be empty.
  subst same
  exact Nat.not_le.mpr (some c hc) before

/-- Comments are attached soundly.  What leads a node ends in front of it, what trails
    a node starts behind it, and both are comments of the text, in its order.  In the
    whole tree, shorthand keys included, no comment leads two nodes or one node twice,
    and none trails two nodes or one node twice. -/
theorem SyntaxTree.parse_comments_attached (options : ParseOptions) (text : List Char)
    (file : String) :
    let tree := parse options text file
    (∀ n ∈ tree.program.subtree,
      (∀ c ∈ n.leadingComments, c ∈ tree.comments ∧ c.span.stop ≤ n.span.start) ∧
      (∀ c ∈ n.trailingComments, c ∈ tree.comments ∧ n.span.stop ≤ c.span.start) ∧
      n.leadingComments.Pairwise (fun c d => c.span.Before d.span) ∧
      n.trailingComments.Pairwise (fun c d => c.span.Before d.span)) ∧
    (tree.program.subtree.flatMap Node.leadingComments).Nodup ∧
    (tree.program.subtree.flatMap Node.trailingComments).Nodup := by
  obtain ⟨program, a, words, last, loose, stream, -, records⟩ :=
    Annotations.parseText_records options (.ofText text) file text
  rw [parse_eq_ofAnnotations options text file loose records.failure]
  obtain ⟨p, q, attached, rfl⟩ := Annotations.attached_of_tree loose
  obtain ⟨ordered, distinct⟩ := records.comments_ordered stream
  have once {cs : List Comment}
      (counts : ∀ c, cs.count c ≤ q.observed.comments.toList.count c) : cs.Nodup :=
    List.nodup_iff_count_le_one.mpr fun c =>
      Nat.le_trans (counts c) (List.nodup_iff_count_le_one.mp distinct c)
  refine ⟨fun n hn => ?_, once fun c => (attached.count_le c).1,
    once fun c => (attached.count_le c).2⟩
  have carries := attached.carries program (List.mem_singleton_self _) n hn
  exact ⟨fun c hc => ⟨carries.leading.subset hc, carries.before c hc⟩,
    fun c hc => ⟨carries.trailing.subset hc, carries.behind c hc⟩,
    ordered.sublist carries.leading, ordered.sublist carries.trailing⟩

end ScriptTree

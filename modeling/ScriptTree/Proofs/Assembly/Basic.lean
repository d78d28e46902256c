import ScriptTree.Proofs.Assembly.Law
import ScriptTree.Proofs.Lexeme.Naming

/-! # Assemblies — which nodes come about between two places of a parse

    What a tree is like depends on where its nodes were opened and closed, and on
    what was parsed between.  The grammar is therefore followed once, for a relation
    that is left open: `Made p ns q` says that the nodes `ns` came about, side by
    side, between `p` and `q`.  An `Assembly` is such a relation that every step of
    a parse keeps up.  One property of trees after the other is then proved by
    saying what `Made` means for it. -/

namespace ScriptTree

variable {σ α β : Type}

/-- The nodes are all that is below the shape. -/
def Shape.Covers (shape : Shape Node) (ns : List Node) : Prop :=
  shape.children = ns ∧ shape.parts = ns

/-- The shape belongs to a node that is opened by itself or not, holds no statements, and
    has no text of its own. -/
structure Shape.Plain (own : Bool) (shape : Shape Node) : Prop where
  opened : own = !shape.inheritsStart
  wordless : shape.quoted? = none
  none : shape.statements? = none

/-- Besides, nothing has to be known where it is closed. -/
def Shape.isFree (own : Bool) (shape : Shape Node) : Bool :=
  own == !shape.inheritsStart && shape.statements?.isNone && shape.quoted?.isNone &&
    !shape.isGoverned

/-- A free shape is plain and under no law. -/
theorem Shape.plain_of_isFree {own : Bool} {shape : Shape Node} (h : shape.isFree own = true) :
    shape.Plain own ∧ shape.isGoverned = false := by
  simp only [isFree, Bool.and_eq_true, beq_iff_eq, Option.isNone_iff_eq_none,
    Bool.not_eq_true'] at h
  obtain ⟨⟨⟨opened, none⟩, wordless⟩, free⟩ := h
  exact ⟨⟨opened, wordless, none⟩, free⟩

/-- The token is written so, or called so. -/
def Token.IsWritten (t : Token) (word : String) : Prop :=
  t.text = word ∨ t.kind.word? = some word

namespace Progress

/-- The node of the shape is closed there, where it was opened. -/
structure Closes (r : Progress σ) (o : Grammar.Opened) (shape : Shape Node) (n : Node)
    (s : Progress σ) : Prop where
  shape : n.shape = shape
  span : n.span = ⟨o.start, max r.situation.previousEnd o.start⟩
  situation : s.situation = r.situation

/-- Closing a node moves nothing but its comments. -/
theorem Closes.samePlace {r s : Progress σ} {o : Grammar.Opened} {shape : Shape Node} {n : Node}
    (h : r.Closes o shape n s) : r.SamePlace s :=
  .of_eq h.situation

/-- The value of a property that is written by its name alone: what was made of the
    name, without its comments, or that with a default. -/
inductive Twin (setting : Setting σ) (made : Progress σ → List Node → Progress σ → Prop)
    (p : Progress σ) (key : Node) : Node → Progress σ → Prop where
  | name {q : Progress σ} (named : made p [key] q) : p.Twin setting made key key.detached q
  | default {q r : Progress σ} {right : Node} {closed : Node × Progress σ}
      (named : made p [key] q)
      (start : setting.mode = .strict → key.span.start = p.situation.token.span.start)
      (behind : made q [right] r)
      (closes : closed = r.closeAt setting (Grammar.openedAt key.span.start)
        (.assignmentPattern key.detached right) r.situation.previousEnd) :
      p.Twin setting made key closed.1 closed.2

/-- The node starts with the token at the first place, which was the only one taken. -/
structure OnToken (p : Progress σ) (n : Node) (q : Progress σ) : Prop where
  start : n.span.start = p.situation.token.span.start
  next : q.situation = p.situation.taken

/-- The token at the first place is written so and was the only one taken. -/
structure Reads (p : Progress σ) (word : String) (q : Progress σ) : Prop where
  goes : p.situation.token.isEnd = false
  written : p.situation.token.IsWritten word
  next : q.situation = p.situation.taken

/-- A word in front of a name: a name as well, made of a single token. -/
structure Word (setting : Setting σ) (made : Progress σ → List Node → Progress σ → Prop)
    (p : Progress σ) (word : Node) (q : Progress σ) : Prop where
  taken : made p [word] q
  name : word.identifierName?.isSome = true
  on : setting.mode = .strict → p.OnToken word q

/-- A node may be closed at `s` over the nodes that were made between `q` and `r`, if
    it was opened by itself or not, as its shape says.  Nothing was made since. -/
structure Completes (setting : Setting σ) (made : Progress σ → List Node → Progress σ → Prop)
    (own : Bool) (p q : Progress σ) (shape : Shape Node) (ns : List Node) (r s : Progress σ) :
    Prop where
  below : made q ns r
  behind : made r [] s
  /-- A sequence ends in front of the parenthesis behind which it is closed. -/
  late : s = r ∨ shape.closesLate = true ∧ (setting.mode = .strict →
    r.situation.token.isPunctuator .closeParen = true ∧ s.situation = r.situation.taken)
  covers : shape.Covers ns
  opened : own = !shape.inheritsStart
  /-- The statements in the node follow each other. -/
  series : ∀ body, shape.statements? = some body → ∃ before t u v,
    made q before t ∧ made t [] u ∧ Series setting made u body v ∧ made v [] r
  /-- If the node is a call, or if there is nothing below it and no error was passed, a
      token was taken. -/
  grew : shape.isCall = true ∨ setting.mode = .strict ∧ ns = [] →
    p.situation.consumed < r.situation.consumed
  /-- What has a text of its own is a single token. -/
  reads : ∀ word, shape.quoted? = some word → q.Reads word r

section

variable {setting : Setting σ} {made made' : Progress σ → List Node → Progress σ → Prop}
  {p q r s : Progress σ} {n key value : Node} {ns : List Node}

/-- A series of what is made so is one of what is made in a weaker way. -/
theorem Series.mono (imp : ∀ p ns q, made p ns q → made' p ns q)
    (h : Series setting made p ns q) : Series setting made' p ns q := by
  induction h with
  | nil p => exact .nil p
  | cons first seals _ ih => exact .cons (imp _ _ _ first) seals ih
  | skip first none _ ih => exact .skip (imp _ _ _ first) none ih

/-- So is a pair that is made of one name. -/
theorem Twin.mono (imp : ∀ p ns q, made p ns q → made' p ns q)
    (h : p.Twin setting made key value q) : p.Twin setting made' key value q := by
  cases h with
  | name named => exact .name (imp _ _ _ named)
  | default named start behind closes =>
      exact .default (imp _ _ _ named) start (imp _ _ _ behind) closes

/-- So is a word that is read as a key. -/
theorem Word.mono (imp : ∀ p ns q, made p ns q → made' p ns q) (h : p.Word setting made n q) :
    p.Word setting made' n q :=
  ⟨imp _ _ _ h.taken, h.name, h.on⟩

/-- So is what completes a node. -/
theorem Completes.mono {own : Bool} {shape : Shape Node}
    (imp : ∀ p ns q, made p ns q → made' p ns q)
    (h : Completes setting made own p q shape ns r s) :
    Completes setting made' own p q shape ns r s where
  below := imp _ _ _ h.below
  behind := imp _ _ _ h.behind
  late := h.late
  covers := h.covers
  opened := h.opened
  series body some := by
    obtain ⟨before, t, u, v, first, on, series, last⟩ := h.series body some
    exact ⟨before, t, u, v, imp _ _ _ first, imp _ _ _ on, series.mono imp, imp _ _ _ last⟩
  grew := h.grew
  reads := h.reads

end

/-- Where nodes are closed whatever is known of them, a loop is closed over a declaration in
    its head like over other nodes. -/
theorem headed_of_closed {setting : Setting σ}
    {made : Progress σ → List Node → Progress σ → Prop}
    (append : ∀ {p q r ns ms}, made p ns q → made q ms r → made p (ns ++ ms) r)
    (refl : ∀ p, made p [] p)
    (closed : ∀ {own o ns shape} {p q r s : Progress σ}, p.Opens setting own o q →
      Completes setting made own p q shape ns r s →
      let closed := s.closeAt setting o shape r.situation.previousEnd
      made p [closed.1] closed.2)
    {o od : Grammar.Opened} {kind : BindingKind} {found rest : List Node} {shape : Shape Node}
    {p q r s t u : Progress σ} (opens : p.Opens setting true o q) (between : made q [] r)
    (declared : r.Opens setting true od s) (below : made s found t) (filled : found ≠ []) :
    let declaration := t.closeAt setting od (.variableDeclaration kind found)
      t.situation.previousEnd
    made declaration.2 rest u → shape.Covers (declaration.1 :: rest) →
    shape.HeadedBy declaration.1 →
    let closed := u.closeAt setting o shape u.situation.previousEnd
    made p [closed.1] closed.2 := by
  intro declaration behind covers headed
  -- The declaration is a node of its own, made behind the opening of the loop.
  have first : made r [declaration.1] declaration.2 :=
    closed declared ⟨below, refl t, .inl rfl, ⟨rfl, rfl⟩, rfl, nofun, fun h =>
      absurd (h.resolve_left Bool.false_ne_true).2 filled, nofun⟩
  refine closed opens
    ⟨append (append between first) behind, refl u, .inl rfl, covers, ?_, ?_, ?_, ?_⟩
  · cases headed <;> rfl
  · cases headed <;> exact nofun
  · intro h
    rcases h with call | ⟨-, none⟩
    · cases headed <;> cases call
    · cases none
  · cases headed <;> exact nofun

end Progress

/-- A relation between places of a parse and the nodes made between them, which
    every step of a parse keeps up. -/
structure Assembly (setting : Setting σ) where
  /-- The nodes came about between the two places. -/
  Made : Progress σ → List Node → Progress σ → Prop
  /-- A change of the levels makes nothing. -/
  still : ∀ {p q}, p.Still q → Made p [] q
  /-- What was made in turns was made one behind the other. -/
  append : ∀ {p q r ns ms}, Made p ns q → Made q ms r → Made p (ns ++ ms) r
  /-- No token is given back. -/
  forward : ∀ {p q ns}, Made p ns q → p.situation.consumed ≤ q.situation.consumed
  /-- A token was taken. -/
  taken : ∀ p, Made p [] (p.taken setting)
  /-- A node was opened that is given up. -/
  opened : ∀ {own o} {p q : Progress σ}, setting.mode = .loose →
    p.Opens setting own o q → Made p [] q
  /-- A node is closed over the nodes that were made since it was opened.  If no error was
      passed, the law of its shape holds. -/
  closed : ∀ {own o ns shape} {p q r s : Progress σ}, p.Opens setting own o q →
    Progress.Completes setting Made own p q shape ns r s →
    (setting.mode = .strict → q.Lawful setting Made shape r) →
    let closed := s.closeAt setting o shape r.situation.previousEnd
    Made p [closed.1] closed.2
  /-- A loop is closed over a declaration in its head, which ends without a semicolon. -/
  headed : ∀ {o od kind found rest shape} {p q r s t u : Progress σ}, p.Opens setting true o q →
    Made q [] r → r.Opens setting true od s → Made s found t → found ≠ [] →
    let declaration := t.closeAt setting od (.variableDeclaration kind found)
      t.situation.previousEnd
    Made declaration.2 rest u → shape.Covers (declaration.1 :: rest) →
    shape.HeadedBy declaration.1 →
    let closed := u.closeAt setting o shape u.situation.previousEnd
    Made p [closed.1] closed.2
  /-- A property is closed whose key is its value as well. -/
  shorthand : ∀ {o key value kind computed isMethod} {p q r : Progress σ},
    p.Opens setting true o q → key.identifierName?.isSome = true → q.Twin setting Made key value r →
    let closed := r.closeAt setting o (.property key value kind computed true isMethod)
      r.situation.previousEnd
    Made p [closed.1] closed.2
  /-- The text of a chunk becomes a node behind the token. -/
  chunk : ∀ {p raw isTail}, Grammar.templateChunk? p.situation.token.kind = some (raw, isTail) →
    let start := p.situation.token.span.start + 1
    let closed := (p.taken setting).closeAt setting (Grammar.openedAt start)
      (.templateElement raw isTail) (start + raw.utf8ByteSize)
    Made p [closed.1] closed.2
  /-- Where text is missing, a node stands for it; if it has a text, then one that says so. -/
  filler : ∀ {p shape}, setting.mode = .loose → shape.parts = [] → shape.isCall = false →
    (shape.quoted?.isSome = true → shape = .identifier Node.placeholderName) →
    Made p [.bare shape (.point p.situation.previousEnd)] p
  /-- A node that took no token may be left out. -/
  dropped : ∀ {p q n}, Made p [n] q → q.situation.consumed = p.situation.consumed → Made p [] q
  /-- The word in front of another name may be left out, where a node was opened in
      front of it. -/
  word : ∀ {o w n} {p q r s : Progress σ}, p.Opens setting true o q → q.Word setting Made w r →
    Made r [n] s → Made q [n] s
  /-- So may the two words of a static accessor; the method is closed over its name and
      its function. -/
  staticAccessor : ∀ {o w v key value kind computed} {p q r s t : Progress σ},
    p.Opens setting true o q →
    q.Word setting Made w r → r.Word setting Made v s → Made s [key, value] t →
    kind = MethodKind.get ∨ kind = MethodKind.set →
    let closed := t.closeAt setting o (.methodDefinition key value kind computed true)
      t.situation.previousEnd
    Made p [closed.1] closed.2
  /-- Expressions may become patterns. -/
  reinterpreted : ∀ {p q ns}, Made p ns q → Made p (ns.map Node.toPattern) q

namespace Assembly

variable {setting : Setting σ} (M : Assembly setting)

/-- An operand was made. -/
structure Operates (p : Progress σ) (n : Node) (q : Progress σ) : Prop where
  made : M.Made p [n] q
  operand : setting.mode = .strict → p.Operand setting M.Made n q

/-- An operand was made with all that belongs to it. -/
structure Rounds (p : Progress σ) (n : Node) (q : Progress σ) : Prop extends
    M.Operates p n q where
  ends : setting.mode = .strict → p.EndsOperand setting M.Made q

/-- An assignment was made with all that belongs to it. -/
structure Assigns (noIn : Bool) (p : Progress σ) (n : Node) (q : Progress σ) : Prop where
  made : M.Made p [n] q
  expression : setting.mode = .strict → n.shape.isPattern = false
  ends : setting.mode = .strict → p.EndsAssignment setting M.Made noIn q

/-- A chain of operators was made that bind tighter than `minimum`. -/
structure Climbs (noIn : Bool) (minimum : Nat) (p : Progress σ) (n : Node) (q : Progress σ) :
    Prop where
  made : M.Made p [n] q
  climbed : setting.mode = .strict → p.Climbed setting M.Made noIn minimum n q

/-- An operand was made with all subscripts behind it. -/
structure Subscribes (noCalls : Bool) (p : Progress σ) (n : Node) (q : Progress σ) :
    Prop extends M.Operates p n q where
  ends : setting.mode = .strict → Grammar.Subscript.ofToken? noCalls q.situation.token = none

/-- What a nonterminal makes: its node, or in place of the node it continues the
    whole.  A statement is closed last. -/
def Gives (phrase : Nonterminal) (p : Progress σ) (n : Node) (q : Progress σ) : Prop :=
  match phrase with
  | .statement | .block => M.Made p [n] q ∧ Progress.Seals setting p.situation.token.span.start n q
  | .assignment noIn => M.Assigns noIn p n q
  | .unary => M.Rounds p n q
  | .atom => M.Operates p n q
  | .operators left start minimum noIn =>
    ∀ first, M.Rounds first left p ∧ start = first.situation.token.span.start →
      M.Climbs noIn minimum first n q
  | .subscripts base start noCalls =>
    ∀ first, M.Operates first base p ∧ start = first.situation.token.span.start →
      M.Subscribes noCalls first n q
  | .arrayPattern | .objectPattern => M.Made p [n] q

/-- The nonterminals make what they are to give. -/
def KeptBy (parse : Nonterminal → Progress σ → Outcome σ Node) : Prop :=
  ∀ phrase p, (parse phrase p).Satisfies (M.Gives phrase p)

/-- A finished run of the rule from there ends with the property. -/
def Ensures (r : Rule α) (p : Progress σ) (post : α → Progress σ → Prop) : Prop :=
  ∀ fuel parse, M.KeptBy parse → (r.run setting fuel parse p).Satisfies post

/-- The rule makes the nodes of its value. -/
def Makes [HasNodes α] (r : Rule α) : Prop :=
  ∀ p, M.Ensures r p fun a q => M.Made p (nodes a) q

/-- The rule makes no node that is to be kept. -/
def Passes (r : Rule α) : Prop := ∀ p, M.Ensures r p fun _ q => M.Made p [] q

/-- The node was opened at the first place, and none of its parts before the
    second one. -/
def Begun (own : Bool) (p : Progress σ) (o : Grammar.Opened) (q : Progress σ) : Prop :=
  ∃ between, p.Opens setting own o between ∧ M.Made between [] q

/-- Statements were made one behind the other. -/
def Series (p : Progress σ) (ns : List Node) (q : Progress σ) : Prop :=
  Progress.Series setting M.Made p ns q

/-- What is known behind a round of a loop, which goes on or is left. -/
def Turned (inv : β → Progress σ → Prop) (post : α → Progress σ → Prop) :
    Rule.Turn β α → Progress σ → Prop
  | .again b, p => inv b p
  | .leave a, p => post a p

variable {M} {p q r : Progress σ} {ns : List Node} {o : Grammar.Opened} {shape : Shape Node}
  {own : Bool}

/-- Where nothing happens, nothing is made. -/
theorem made_refl (p : Progress σ) : M.Made p [] p := M.still ⟨_, _, rfl⟩

/-! ## Putting rules together -/

section Ensures

variable {rule : Rule β} {f : β → Rule α} {post : α → Progress σ → Prop}

/-- What is ensured ensures whatever follows. -/
theorem Ensures.mono {r : Rule α} {stronger : α → Progress σ → Prop}
    (h : M.Ensures r p stronger) (imp : ∀ a q, stronger a q → post a q) :
    M.Ensures r p post :=
  fun fuel parse kept => (h fuel parse kept).mono imp

/-- Two things that are ensured are ensured together. -/
theorem Ensures.both {r : Rule α} {other : α → Progress σ → Prop} (h : M.Ensures r p post)
    (k : M.Ensures r p other) : M.Ensures r p fun a q => post a q ∧ other a q :=
  fun fuel parse kept => (h fuel parse kept).both (k fuel parse kept)

/-- One rule behind another starts where the first has ended. -/
theorem Ensures.bind {between : β → Progress σ → Prop} (h : M.Ensures rule p between)
    (k : ∀ b q, between b q → M.Ensures (f b) q post) : M.Ensures (rule >>= f) p post := by
  intro fuel parse kept
  rw [Rule.run_bind]
  exact (h fuel parse kept).andThen fun b q hb => k b q hb fuel parse kept

/-- A value is given where the rule stands. -/
theorem Ensures.pure {a : α} (h : post a p) : M.Ensures (Pure.pure a : Rule α) p post :=
  fun _ _ _ => h

/-- Each way on may rely on the answer. -/
theorem Ensures.ite {c : Prop} [Decidable c] {yes no : Rule α}
    (h : c → M.Ensures yes p post) (k : ¬ c → M.Ensures no p post) :
    M.Ensures (if c then yes else no) p post := by
  split
  · exact h ‹_›
  · exact k ‹_›

/-- What is known of a loop holds when it is left. -/
theorem Ensures.loop {step : β → Rule (Rule.Turn β α)} {b : β} (inv : β → Progress σ → Prop)
    (start : inv b p) (round : ∀ b q, inv b q → M.Ensures (step b) q (Turned inv post)) :
    M.Ensures (Rule.loop b step) p post := by
  intro fuel parse kept
  have go : ∀ n b q, inv b q → M.Ensures (Rule.iterate step n b) q post := by
    intro n
    induction n with
    | zero => exact fun _ _ _ _ _ _ => trivial
    | succ n ih =>
        intro b q hb
        refine (round b q hb).bind fun turn r ht => ?_
        cases turn with
        | again b' => exact ih b' r ht
        | leave a => exact .pure ht
  exact go fuel b p start fuel parse kept

/-- Nodes are made behind those made before. -/
theorem Made.then [HasNodes β] (made : M.Made p ns q) (h : M.Makes rule)
    (k : ∀ b r, M.Made p (ns ++ nodes b) r → M.Ensures (f b) r post) :
    M.Ensures (rule >>= f) q post :=
  (h q).bind fun b r hb => k b r (M.append made hb)

/-- The list of nodes may be written in another way. -/
theorem Made.of_eq {ms : List Node} (made : M.Made p ns q) (same : ns = ms) : M.Made p ms q :=
  same ▸ made

/-- A list is made of its nodes. -/
theorem Made.list {ms : List Node} (made : M.Made p (nodes ms) q) : M.Made p ms q :=
  .of_eq made (nodes_list ms)

/-- A list with holes is made of those that are there. -/
theorem Made.holes {xs : List (Option Node)} (made : M.Made p (nodes xs) q) :
    M.Made p (xs.filterMap id) q :=
  .of_eq made (nodes_holes xs)

/-- The nodes of a series may be written in another way. -/
theorem Series.of_eq {ms : List Node} (series : M.Series p ns q) (same : ns = ms) :
    M.Series p ms q :=
  same ▸ series

/-- Two series in turn. -/
theorem Series.append {ms : List Node} (h : M.Series p ns q) (k : M.Series q ms r) :
    M.Series p (ns ++ ms) r :=
  Progress.Series.append h k

/-- Behind a part that makes nothing, the same nodes are there. -/
theorem Made.behind (made : M.Made p ns q) (k : M.Made q [] r) : M.Made p ns r :=
  .of_eq (M.append made k) (List.append_nil ns)

/-- A rule that makes nothing may come behind what is made. -/
theorem Made.pass (made : M.Made p ns q) (h : M.Passes rule)
    (k : ∀ b r, M.Made p ns r → M.Ensures (f b) r post) : M.Ensures (rule >>= f) q post :=
  (h q).bind fun b r hb => k b r (made.behind hb)

/-- Statements in a row are nodes that were made. -/
theorem Series.made : M.Series p ns q → M.Made p ns q := by
  intro (h : Progress.Series setting M.Made p ns q)
  induction h with
  | nil p => exact made_refl p
  | cons first _ _ ih => exact M.append first ih
  | skip first none _ ih =>
      exact M.append (M.append (M.dropped first none) (M.taken _)) ih

/-- A node is still begun behind what makes nothing. -/
theorem Begun.behind (begun : M.Begun own p o q) (k : M.Made q [] r) : M.Begun own p o r := by
  obtain ⟨between, opens, made⟩ := begun
  exact ⟨between, opens, made.behind k⟩

/-- A rule that makes nothing may come behind a node that is begun. -/
theorem Begun.pass (begun : M.Begun own p o q) (h : M.Passes rule)
    (k : ∀ b r, M.Begun own p o r → M.Ensures (f b) r post) : M.Ensures (rule >>= f) q post :=
  (h q).bind fun b r hb => k b r (begun.behind hb)

/-- No token is given back behind the opening of a node. -/
theorem Begun.forward (begun : M.Begun own p o q) :
    p.situation.consumed ≤ q.situation.consumed := by
  obtain ⟨between, opens, made⟩ := begun
  have forward := M.forward made
  cases opens with
  | here => exact forward
  | inherited => exact forward

/-- A node that was opened is given up. -/
theorem Begun.made (begun : M.Begun own p o q) (loose : setting.mode = .loose) :
    M.Made p [] q := by
  obtain ⟨between, opens, made⟩ := begun
  exact (M.opened loose opens).behind made

/-- A node that starts where a part of it did. -/
theorem begun_inherited : M.Begun false p (Grammar.openedAt p.situation.token.span.start) p :=
  ⟨p, .inherited, made_refl p⟩

end Ensures

/-! ## Single steps -/

section Steps

variable {post : α → Progress σ → Prop}

/-- What is only looked at is known. -/
theorem look_then {look : Situation → β} {f : β → Rule α}
    (k : M.Ensures (f (look p.situation)) p post) :
    M.Ensures (Rule.look (fun s => .done (look s)) >>= f) p post :=
  k

/-- A token is taken, and the rule goes on with it. -/
theorem take_then {f : Token → Rule α}
    (k : M.Ensures (f p.situation.token) (p.taken setting) post) :
    M.Ensures (Grammar.take >>= f) p post := by
  intro fuel parse kept
  refine (Progress.take_satisfies p).andThen fun t q ht => ?_
  obtain ⟨rfl, rfl⟩ := ht
  exact k fuel parse kept

/-- Only a loose parse goes on behind a complaint. -/
theorem complain_then {span : Span} {fault : Fault} {f : Unit → Rule α}
    (k : setting.mode = .loose → M.Ensures (f ()) p post) :
    M.Ensures (Grammar.complain span fault >>= f) p post := by
  intro fuel parse kept
  refine (Progress.complain_satisfies span fault p).andThen fun _ q hq => ?_
  obtain ⟨loose, rfl⟩ := hq
  exact k loose fuel parse kept

/-- Only a loose parse goes on where the nesting is too deep. -/
theorem deepen_then {f : Bool → Rule α}
    (k : ∀ ok q, p.Still q → (setting.mode = .strict → ok = true) → M.Ensures (f ok) q post) :
    M.Ensures (Rule.deepen .done >>= f) p post := by
  intro fuel parse kept
  show Outcome.Satisfies post (Outcome.andThen (p.deepen setting) _)
  rw [Progress.deepen]
  split
  · refine Outcome.Satisfies.andThen ((Progress.complain_satisfies _ _ p).andThen
      fun _ q hq => ?_) fun ok q (h : p.Still q ∧ (setting.mode = .strict → ok = true)) =>
        k ok q h.1 h.2 fuel parse kept
    obtain ⟨loose, rfl⟩ := hq
    exact ⟨⟨_, _, rfl⟩, fun strict => by simp [loose] at strict⟩
  · exact k true _ ⟨_, _, rfl⟩ (fun _ => rfl) fuel parse kept

/-- A node is opened at the current token. -/
theorem openNode_opens {f : Grammar.Opened → Rule α}
    (k : ∀ o q, p.Opens setting true o q → q.situation = p.situation →
      o.start = p.situation.token.span.start → M.Ensures (f o) q post) :
    M.Ensures (Grammar.openNode >>= f) p post :=
  fun fuel parse kept => k _ _ .here rfl rfl fuel parse kept

/-- A node is opened, and the rule goes on at the same place. -/
theorem openNode_then {f : Grammar.Opened → Rule α}
    (k : ∀ o q, M.Begun true p o q → q.situation = p.situation → M.Ensures (f o) q post) :
    M.Ensures (Grammar.openNode >>= f) p post :=
  openNode_opens fun o q opens same _ => k o q ⟨q, opens, made_refl q⟩ same

/-- Closing a node ends with what is known of the closed one. -/
theorem closeNodeAt_ensures {stop : Nat} {post : Node → Progress σ → Prop}
    (h : post (p.closeAt setting o shape stop).1 (p.closeAt setting o shape stop).2) :
    M.Ensures (Grammar.closeNodeAt o shape stop) p post :=
  fun _ _ _ => h

/-- A node that is closed takes no token. -/
theorem closeNode_closed :
    M.Ensures (Grammar.closeNode o shape) r fun n s => r.Closes o shape n s :=
  closeNodeAt_ensures ⟨rfl, rfl, rfl⟩

/-- What has to be known to close a node that was opened. -/
def Bound (M : Assembly setting) (own : Bool) (p : Progress σ) (o : Grammar.Opened)
    (q : Progress σ) (shape : Shape Node) (r : Progress σ) : Prop :=
  setting.mode = .strict → ∀ between, p.Opens setting own o between → M.Made between [] q →
    between.Lawful setting M.Made shape r

/-- No law is about the shape. -/
theorem bound_free (free : shape.isGoverned = false) : M.Bound own p o q shape r :=
  fun _ _ _ _ => Progress.lawful_of_free free _ _

/-- The node is closed over what was made since it was opened, as the law has it. -/
theorem Begun.closeLawful (begun : M.Begun own p o q) (made : M.Made q ns r)
    (covers : shape.Covers ns) (plain : shape.Plain own) (law : M.Bound own p o q shape r)
    (grew : shape.isCall = true ∨ setting.mode = .strict ∧ ns = [] →
      p.situation.consumed < r.situation.consumed) :
    M.Ensures (Grammar.closeNode o shape) r fun n s => M.Made p [n] s ∧ r.Closes o shape n s := by
  obtain ⟨between, opens, nothing⟩ := begun
  refine closeNodeAt_ensures ⟨M.closed opens ⟨M.append nothing made, made_refl r, .inl rfl,
    covers, plain.opened, fun body some => ?_, grew, fun word some => ?_⟩ fun strict => ?_,
      rfl, rfl, rfl⟩
  · rw [plain.none] at some
    cases some
  · rw [plain.wordless] at some
    cases some
  · exact law strict between opens nothing

/-- A node that inherits its start is bound by the law of its place. -/
theorem bound_inherited (law : setting.mode = .strict → p.Lawful setting M.Made shape r) :
    M.Bound false p (Grammar.openedAt p.situation.token.span.start) p shape r := by
  intro strict between opens _
  cases opens with
  | inherited => exact law strict

/-- A node that is opened here is bound by the law of all places like this one. -/
theorem bound_here (law : setting.mode = .strict → ∀ between : Progress σ,
      between.situation = p.situation → Progress.Reaches setting M.Made between q →
        between.Lawful setting M.Made shape r) : M.Bound own p o q shape r :=
  fun strict between opens made => law strict between opens.place.1 (.made made (.refl q))

/-- The node is no call, and something is below it. -/
theorem Begun.closeLawfulOver (begun : M.Begun own p o q) (made : M.Made q ns r)
    (covers : shape.Covers ns) (plain : shape.Plain own) (law : M.Bound own p o q shape r)
    (noCall : shape.isCall = false) (some : ns ≠ []) :
    M.Ensures (Grammar.closeNode o shape) r fun n s =>
      M.Made p [n] s ∧ r.Closes o shape n s := by
  refine begun.closeLawful made covers plain law fun h => ?_
  rcases h with call | ⟨-, none⟩
  · rw [noCall] at call
    cases call
  · exact absurd none some

/-- The node is closed over what was made since it was opened. -/
theorem Begun.close (begun : M.Begun own p o q) (made : M.Made q ns r) (covers : shape.Covers ns)
    (free : shape.isFree own = true)
    (grew : shape.isCall = true ∨ setting.mode = .strict ∧ ns = [] →
      p.situation.consumed < r.situation.consumed) :
    M.Ensures (Grammar.closeNode o shape) r fun n s => M.Made p [n] s := by
  obtain ⟨plain, ungoverned⟩ := Shape.plain_of_isFree free
  exact (begun.closeLawful made covers plain (bound_free ungoverned) grew).mono fun _ _ h => h.1

/-- The node is no call, and something is below it. -/
theorem Begun.closeOver (begun : M.Begun own p o q) (made : M.Made q ns r)
    (covers : shape.Covers ns) (noCall : shape.isCall = false) (free : shape.isFree own = true)
    (some : ns ≠ []) :
    M.Ensures (Grammar.closeNode o shape) r fun n s => M.Made p [n] s := by
  obtain ⟨plain, ungoverned⟩ := Shape.plain_of_isFree free
  exact (begun.closeLawfulOver made covers plain (bound_free ungoverned) noCall some).mono
    fun _ _ h => h.1

/-- The node is no call, and a token was taken for it before its parts. -/
theorem Begun.closeGrown (begun : M.Begun own p o q) (made : M.Made q ns r)
    (covers : shape.Covers ns) (noCall : shape.isCall = false) (free : shape.isFree own = true)
    (grew : setting.mode = .strict → p.situation.consumed < q.situation.consumed) :
    M.Ensures (Grammar.closeNode o shape) r fun n s => M.Made p [n] s := by
  refine begun.close made covers free fun h => ?_
  rcases h with call | ⟨strict, -⟩
  · rw [noCall] at call
    cases call
  · exact Nat.lt_of_lt_of_le (grew strict) (M.forward made)

/-- The node holds statements, behind its other parts. -/
theorem Begun.closeSeries {body before : List Node} {s t : Progress σ}
    (begun : M.Begun true p o q) (first : M.Made q before r) (series : M.Series r body s)
    (behind : M.Made s [] t) (covers : shape.Covers (before ++ body))
    (holds : shape.statements? = some body) (law : M.Bound true p o q shape t)
    (grew : setting.mode = .strict → p.situation.consumed < r.situation.consumed) :
    M.Ensures (Grammar.closeNode o shape) t fun n u => M.Made p [n] u := by
  obtain ⟨between, opens, nothing⟩ := begun
  have opened : true = !shape.inheritsStart := by
    cases shape <;> first | rfl | cases holds
  have wordless : shape.quoted? = none := by
    cases shape <;> first | rfl | cases holds
  have made : M.Made q (before ++ body) t := (M.append first series.made).behind behind
  refine closeNodeAt_ensures (M.closed opens ⟨M.append nothing made, made_refl t, .inl rfl,
    covers, opened, fun found same => ?_, fun h => ?_, fun word some => ?_⟩ fun strict =>
      law strict between opens nothing)
  · obtain rfl := Option.some.inj (holds.symm.trans same)
    exact ⟨before, r, r, s, M.append nothing first, made_refl r, series, behind⟩
  · rcases h with call | ⟨strict, -⟩
    · cases shape <;> cases call <;> cases holds
    · have le := M.forward (series.made.behind behind)
      exact Nat.lt_of_lt_of_le (grew strict) le
  · rw [wordless] at some
    cases some

end Steps

end Assembly

end ScriptTree

import ScriptTree.Proofs.Assembly.Operand
import ScriptTree.Proofs.Assembly.Sealing

/-! # What phrases, leaves, lists and patterns make

    The vocabulary of the grammar, in the order of the grammar.  Rules that test or
    take tokens pass and make nothing; leaves, lists and patterns make the nodes of
    their values.  A name that stands for a property and its value is made once. -/

namespace ScriptTree.Grammar

open Assembly
open Rule (Turn)

variable {σ α : Type} {setting : Setting σ} {M : Assembly setting} {p q r : Progress σ}
  {ns : List Node} {o : Opened} {own : Bool} {post : α → Progress σ → Prop}

/-! ## Phrases -/

/-- What holds of strict parses only says nothing of a loose one. -/
theorem absurd_strict {motive : Prop} (loose : setting.mode = .loose)
    (strict : setting.mode = .strict) : motive := by
  rw [loose] at strict
  cases strict

/-- A complaint makes nothing. -/
theorem complain_passes (span : Span) (fault : Fault) : M.Passes (complain span fault) :=
  fun p => complain_then (f := .done) fun _ => .pure (made_refl p)

theorem complainHere_passes (fault : Fault) : M.Passes (complainHere fault) :=
  fun p => complain_passes _ fault p

theorem unexpected_passes : M.Passes unexpected := fun p => complain_passes _ _ p

/-- Only a loose parse goes on behind what is unexpected. -/
theorem unexpected_then {f : Unit → Rule α}
    (k : setting.mode = .loose → M.Ensures (f ()) p post) :
    M.Ensures (unexpected >>= f) p post :=
  complain_then k

/-- So it does where something is unexpected on a condition. -/
theorem unexpectedIf_then {c : Prop} [Decidable c] {r : Rule α}
    (k : (c → setting.mode = .loose) → M.Ensures r p post) :
    M.Ensures (if c then unexpected >>= fun _ => r else r) p post := by
  refine .ite (fun _ => unexpected_then fun loose => k fun _ => loose) fun absent => ?_
  exact k fun present => absurd present absent

/-- A token that passes a test is taken. -/
theorem tested_then (test : Token → Bool) {f : Bool → Rule α}
    (yes : test p.situation.token = true → M.Ensures (f true) (p.taken setting) post)
    (no : test p.situation.token = false → M.Ensures (f false) p post) :
    M.Ensures ((Rule.look fun s =>
      if test s.token then .take fun _ => .done true else .done false) >>= f) p post := by
  show M.Ensures (Rule.bind (if test p.situation.token then _ else _) f) p post
  split
  · exact take_then (f := fun _ => f true) (yes ‹_›)
  · exact no (Bool.eq_false_iff.mpr ‹_›)

/-- A mark is eaten if it is there. -/
theorem eat_then {mark : Punctuator} {yes no : Rule α}
    (h : p.situation.token.isPunctuator mark = true → M.Ensures yes (p.taken setting) post)
    (k : p.situation.token.isPunctuator mark = false → M.Ensures no p post) :
    M.Ensures (eat mark >>= fun eaten => if eaten = true then yes else no) p post :=
  tested_then (·.isPunctuator mark) h k

/-- A word is eaten if it is there. -/
theorem eatWord_then {word : Keyword} {yes no : Rule α}
    (h : p.situation.token.isKeyword word = true → M.Ensures yes (p.taken setting) post)
    (k : p.situation.token.isKeyword word = false → M.Ensures no p post) :
    M.Ensures (eatWord word >>= fun eaten => if eaten = true then yes else no) p post :=
  tested_then (·.isKeyword word) h k

/-- A token that is taken is counted. -/
theorem lt_taken (goes : p.situation.token.isEnd = false) :
    p.situation.consumed < (p.taken setting).situation.consumed := by
  rw [Progress.consumed_taken goes]
  exact Nat.lt_succ_self _

/-- Opening a node in front of it does not change that. -/
theorem lt_taken_of_same (goes : p.situation.token.isEnd = false)
    (same : q.situation = p.situation) :
    p.situation.consumed < (q.taken setting).situation.consumed := by
  rw [← same] at goes ⊢
  exact lt_taken goes

/-- What is expected is taken where it stands; elsewhere an error is passed. -/
theorem expect_ensures (mark : Punctuator) : M.Ensures (expect mark) p fun _ q =>
    M.Made p [] q ∧ (setting.mode = .strict ∨ p.situation.token.isPunctuator mark = true →
      p.situation.consumed < q.situation.consumed) := by
  refine eat_then (fun here => .pure ⟨M.taken p, fun _ => ?_⟩) fun absent => ?_
  · exact lt_taken (Token.isEnd_of_isPunctuator here)
  · refine complain_then (f := .done) fun loose => .pure ⟨made_refl p, ?_⟩
    simp [loose, absent]

/-- A mark that is expected is eaten or missed, and nothing is made. -/
theorem expect_passes (mark : Punctuator) : M.Passes (expect mark) :=
  fun _ => (expect_ensures mark).mono fun _ _ h => h.1

/-- A strict parse goes on behind what was expected only. -/
theorem expect_closes (mark : Punctuator) : M.Ensures (expect mark) p fun _ q =>
    M.Made p [] q ∧ (setting.mode = .strict → p.situation.token.isPunctuator mark = true ∧
      q.situation = p.situation.taken) := by
  refine eat_then (fun here => .pure ⟨M.taken p, fun _ => ⟨here, p.situation_taken⟩⟩) fun _ => ?_
  exact complain_then (f := .done) fun loose => .pure ⟨made_refl p, absurd_strict loose⟩

/-- What stands there is taken. -/
theorem expect_here {mark : Punctuator} {f : Unit → Rule α}
    (here : p.situation.token.isPunctuator mark = true)
    (k : M.Ensures (f ()) (p.taken setting) post) : M.Ensures (expect mark >>= f) p post := by
  have taken : M.Ensures (expect mark) p fun _ q => q = p.taken setting := by
    refine eat_then (fun _ => .pure rfl) fun absent => ?_
    rw [here] at absent
    cases absent
  exact taken.bind fun _ q same => same ▸ k

/-- So it is for a word. -/
theorem expectWord_passes (word : Keyword) : M.Passes (expectWord word) :=
  fun p => eatWord_then (fun _ => .pure (M.taken p)) fun _ => unexpected_passes p

/-- A statement ends there, unless an error is passed. -/
theorem semicolon_ensures : M.Ensures semicolon p fun _ q =>
    M.Made p [] q ∧ (setting.mode = .strict → p.Ended setting M.Made q) := by
  refine eat_then (fun here => .pure ⟨M.taken p, fun _ => .inl ?_⟩) fun _ => ?_
  · exact .taken (Token.isEnd_of_isPunctuator here) here
  refine look_then ?_
  refine .ite (fun allowed => .pure ⟨made_refl p, fun _ => .inr allowed⟩) fun _ => ?_
  exact complain_then (f := .done) fun loose => .pure ⟨made_refl p, absurd_strict loose⟩

/-- The node is closed behind a mark that is expected, as the law has it. -/
theorem closeExpectedLawful {shape : Shape Node} {mark : Punctuator}
    (begun : M.Begun own p o q) (made : M.Made q ns r) (covers : shape.Covers ns)
    (noCall : shape.isCall = false) (plain : shape.Plain own)
    (law : ∀ s, M.Bound own p o q shape s) :
    M.Ensures (expect mark >>= fun _ => closeNode o shape) r fun n s => M.Made p [n] s := by
  refine (expect_ensures mark).bind fun _ s ⟨on, grew⟩ => ?_
  refine (begun.closeLawful (made.behind on) covers plain (law s) fun h => ?_).mono
    fun _ _ h => h.1
  have le := Nat.le_trans begun.forward (M.forward made)
  rcases h with call | ⟨strict, -⟩
  · rw [noCall] at call
    cases call
  · exact Nat.lt_of_le_of_lt le (grew (.inl strict))

/-- The node, about which there is no law, is closed behind a mark that is expected. -/
theorem closeExpected {shape : Shape Node} {mark : Punctuator} (begun : M.Begun own p o q)
    (made : M.Made q ns r) (covers : shape.Covers ns) (noCall : shape.isCall = false)
    (free : shape.isFree own = true) :
    M.Ensures (expect mark >>= fun _ => closeNode o shape) r fun n s => M.Made p [n] s := by
  obtain ⟨plain, ungoverned⟩ := Shape.plain_of_isFree free
  exact closeExpectedLawful begun made covers noCall plain fun _ => bound_free ungoverned

/-- Where text is missing, a name stands for it. -/
theorem placeholder_ensures (loose : setting.mode = .loose) :
    M.Ensures placeholder p fun n q => M.Made p [n] q :=
  fun _ _ _ => M.filler loose rfl rfl fun _ => rfl

/-- What is missing is stood for in loose mode only. -/
theorem missing_ensures : M.Ensures missing p fun n q => setting.mode = .loose ∧ M.Made p [n] q :=
  unexpected_then fun loose => (placeholder_ensures loose).mono fun _ _ h => ⟨loose, h⟩

theorem missing_makes : M.Makes missing := fun _ => missing_ensures.mono fun _ _ h => h.2

/-! ## Calls -/

section Calls

variable {phrase : Nonterminal}

/-- A phrase that is called gives what the phrase gives. -/
theorem parse_ensures (phrase : Nonterminal) : M.Ensures (parse phrase) p (M.Gives phrase p) :=
  fun _ _ kept => (kept phrase p).andThen fun _ _ h => h

/-- A phrase that is called for the levels it opens. -/
theorem parseChain_ensures {post : Node → Progress σ → Prop}
    (h : ∀ n q r, M.Gives phrase p n q → q.Still r → post n r) :
    M.Ensures (parseChain phrase) p post := by
  intro fuel parse kept
  refine Outcome.Satisfies.done ?_
  simp only [Progress.call]
  exact Outcome.Satisfies.adjust ((kept phrase p).mono fun n q gives => h n q _ gives ⟨_, _, rfl⟩)

/-- A chain of operators starts from an operand that is made. -/
theorem operators_ensures {first : Progress σ} {left : Node} {minimum : Nat} {noIn : Bool}
    (rounds : M.Rounds first left p) : M.Ensures
      (parseChain (.operators left first.situation.token.span.start minimum noIn)) p
      (M.Climbs noIn minimum first) :=
  parseChain_ensures fun _ _ _ gives still =>
    have climbs := gives first ⟨rounds, rfl⟩
    ⟨climbs.made.behind (M.still still), fun strict =>
      (climbs.climbed strict).place still.samePlace⟩

/-- A chain of subscripts starts from a base that is made. -/
theorem subscripts_ensures {first : Progress σ} {base : Node} {noCalls : Bool}
    (operates : M.Operates first base p) : M.Ensures
      (parseChain (.subscripts base first.situation.token.span.start noCalls)) p
      (M.Subscribes noCalls first) :=
  parseChain_ensures fun _ _ _ gives still =>
    have subscribes := gives first ⟨operates, rfl⟩
    ⟨⟨subscribes.made.behind (M.still still), fun strict =>
      (subscribes.operand strict).place still.samePlace⟩, fun strict => by
        rw [still.samePlace.token]
        exact subscribes.ends strict⟩

/-- A phrase that is called one level deeper.  A loose parse takes a token and lets text
    stand in for the phrase where the nesting is too deep. -/
theorem parseNested_ensures {post : Node → Progress σ → Prop}
    (deep : setting.mode = .loose → ∀ n q, M.Made p [n] q → post n q)
    (h : ∀ p' n q q', p.Still p' → M.Gives phrase p' n q → q.Still q' → post n q') :
    M.Ensures (parseNested phrase) p post := by
  intro fuel parse kept
  refine Outcome.Satisfies.done ?_
  simp only [Progress.call]
  split
  · refine (Progress.complain_satisfies _ _ p).andThen fun _ q ⟨loose, hq⟩ => ?_
    subst hq
    refine (Progress.take_satisfies q).andThen fun t r ⟨_, hr⟩ => ?_
    subst hr
    have stands : M.Made (q.taken setting)
        [Progress.fallback phrase (q.taken setting).situation.previousEnd] (q.taken setting) := by
      cases phrase with
      | statement => exact M.filler loose rfl rfl nofun
      | _ => exact M.filler loose rfl rfl fun _ => rfl
    exact deep loose _ _ (M.append (M.taken q) stands)
  · exact Outcome.Satisfies.adjust ((kept phrase _).mono fun n q gives =>
      h _ n q _ ⟨_, _, rfl⟩ gives ⟨_, _, rfl⟩)

/-- A nested phrase makes its node one level deeper. -/
theorem parseNested_makes (alone : ∀ p n q, M.Gives phrase p n q → M.Made p [n] q) :
    M.Makes (parseNested phrase) := fun _ =>
  parseNested_ensures (fun _ _ _ made => made) fun p' n q _ before gives behind =>
    (M.append (M.still before) (alone p' n q gives)).behind (M.still behind)

/-- The body of a function makes one node. -/
theorem functionBody_makes : M.Makes functionBody := by
  intro p fuel parse kept
  refine Outcome.Satisfies.done ?_
  simp only [Progress.call]
  refine Outcome.Satisfies.adjust ((kept .block _).mono fun n q h => ?_)
  have made : M.Made ⟨{ p.situation with inFunction := true }, p.observed⟩ [n] q := h.1
  exact (M.append (M.still ⟨_, _, rfl⟩) made).behind (M.still ⟨_, _, rfl⟩)

theorem statement_makes : M.Makes statement := parseNested_makes fun _ _ _ h => h.1

/-- If no error is passed, a statement is closed last. -/
theorem statement_ensures : M.Ensures statement p fun n q => M.Made p [n] q ∧
    (setting.mode = .strict → Progress.Seals setting p.situation.token.span.start n q) := by
  intro fuel parse kept
  refine ((statement_makes p fuel parse kept).both ?_).mono fun n q h => h
  refine Outcome.Satisfies.done ?_
  simp only [Progress.call]
  split
  · refine (Progress.complain_satisfies _ _ p).andThen fun _ q ⟨loose, _⟩ => ?_
    refine (Progress.take_satisfies q).andThen fun _ r _ strict => ?_
    rw [loose] at strict
    cases strict
  · refine Outcome.Satisfies.adjust ((kept .statement _).mono fun n q h _ => ?_)
    exact h.2.levels

/-- An assignment is the whole of what its operators may take. -/
theorem assignment_ensures (noIn : Bool) :
    M.Ensures (assignment noIn) p (M.Assigns noIn p) :=
  parse_ensures (.assignment noIn)

theorem assignment_makes (noIn : Bool) : M.Makes (assignment noIn) :=
  fun _ => (assignment_ensures noIn).mono fun _ _ h => h.made

/-- So is one that is a level deeper. -/
theorem nestedAssignment_ensures (noIn : Bool) :
    M.Ensures (parseNested (.assignment noIn)) p (M.Assigns noIn p) :=
  parseNested_ensures
    (fun loose _ _ made => ⟨made, absurd_strict loose, absurd_strict loose⟩)
    fun _ _ _ _ before (gives : M.Assigns noIn _ _ _) behind =>
      ⟨(M.append (M.still before) gives.made).behind (M.still behind), gives.expression,
        fun strict => ((gives.ends strict).after (reaches_of_made (M.still before))).place
          behind.samePlace⟩

theorem nestedAssignment_makes (noIn : Bool) : M.Makes (parseNested (.assignment noIn)) :=
  fun _ => (nestedAssignment_ensures noIn).mono fun _ _ h => h.made

/-- What stands behind signs may be an operand of operators. -/
theorem unary_ensures : M.Ensures unary p (M.Rounds p) :=
  parseNested_ensures
    (fun loose _ _ made => ⟨⟨made, absurd_strict loose⟩, absurd_strict loose⟩)
    fun _ _ _ _ before (gives : M.Rounds _ _ _) behind =>
      ⟨⟨(M.append (M.still before) gives.made).behind (M.still behind), fun strict =>
        ((gives.operand strict).levels before).place behind.samePlace⟩, fun strict =>
        ((gives.ends strict).after (reaches_of_made (M.still before))).place behind.samePlace⟩

theorem block_makes : M.Makes (parse .block) :=
  fun _ => (parse_ensures .block).mono fun _ _ h => h.1

/-- An atom may be followed by subscripts. -/
theorem atom_ensures : M.Ensures (parse .atom) p (M.Operates p) := parse_ensures .atom

end Calls

/-- Several assignments make a sequence. -/
theorem expression_makes (noIn : Bool) : M.Makes (expression noIn) := by
  intro p
  refine look_then ?_
  refine (assignment_makes noIn p).bind fun first q made => ?_
  refine look_then ?_
  refine .ite (fun _ => ?_) fun _ => .pure made
  refine (Ensures.loop (fun found r => found.toList ≠ [] ∧ M.Made p found.toList r)
    ⟨by simp, made⟩ ?_).bind fun found r (turned : found ≠ [] ∧ M.Made p found r) =>
      begun_inherited.closeOver turned.2 ⟨rfl, rfl⟩ rfl rfl turned.1
  rintro found r ⟨filled, made⟩
  refine eat_then (fun _ => ?_) fun _ => .pure ⟨filled, made⟩
  refine (made.behind (M.taken r)).then (assignment_makes noIn) fun next s made => ?_
  exact .pure ⟨by simp, made.of_eq (by simp)⟩

/-! ## Leaves -/

/-- The shape belongs to a node of a single token, about which there is no law. -/
structure IsLeaf (shape : Shape Node) : Prop where
  covers : shape.Covers []
  opened : shape.inheritsStart = false
  none : shape.statements? = none
  free : shape.isGoverned = false

/-- A token that is a node of its own. -/
theorem leaf_ensures {shape : Shape Node} (goes : p.situation.token.isEnd = false)
    (leaf : IsLeaf shape)
    (written : ∀ word, shape.quoted? = some word → p.situation.token.IsWritten word) :
    M.Ensures (Grammar.leaf shape) p fun n q => M.Made p [n] q ∧ p.OnToken n q := by
  refine openNode_opens fun o q opens same start => ?_
  refine take_then ?_
  refine closeNodeAt_ensures ⟨?_, start, (q.situation_taken).trans (congrArg _ same)⟩
  refine M.closed opens ⟨M.taken q, made_refl _, .inl rfl, leaf.covers, by rw [leaf.opened]; rfl,
    fun body some => ?_, fun _ => lt_taken_of_same goes same, fun word some => ?_⟩
      fun _ => Progress.lawful_of_free leaf.free _ _
  · rw [leaf.none] at some
    cases some
  · rw [← same] at goes
    exact ⟨goes, same ▸ written word some, q.situation_taken⟩

/-- What a name or a literal makes: a node of a single token, unless text was missing. -/
def Stands (M : Assembly setting) (p : Progress σ) (n : Node) (q : Progress σ) : Prop :=
  M.Made p [n] q ∧ (setting.mode = .strict → p.OnToken n q)

/-- A leaf stands at the token that it is written as. -/
theorem leaf_stands {shape : Shape Node} {word : String}
    (goes : p.situation.token.isEnd = false) (leaf : IsLeaf shape)
    (quoted : shape.quoted? = some word) (written : p.situation.token.IsWritten word) :
    M.Ensures (Grammar.leaf shape) p (Stands M p) := by
  refine (leaf_ensures goes leaf fun other some => ?_).mono fun _ _ h => ⟨h.1, fun _ => h.2⟩
  exact Option.some.inj (quoted.symm.trans some) ▸ written

/-- A name is written as it is called. -/
theorem name_stands {word : String} (goes : p.situation.token.isEnd = false)
    (written : p.situation.token.IsWritten word) :
    M.Ensures (leaf (.identifier word)) p (Stands M p) :=
  leaf_stands goes ⟨⟨rfl, rfl⟩, rfl, rfl, rfl⟩ rfl written

/-- What is missing stands where the parse does. -/
theorem missing_stands : M.Ensures missing p (Stands M p) :=
  missing_ensures.mono fun _ _ h => ⟨h.2, fun strict => by
    rw [h.1] at strict
    cases strict⟩

theorem identifier_makes : M.Makes identifier := by
  intro p
  refine look_then ?_
  split
  · rename_i text kind
    exact (name_stands (Token.isEnd_eq_false kind (by simp)) (.inr (by rw [kind]; rfl))).mono
      fun _ _ h => h.1
  · exact missing_makes p

/-- A name behind a point stands at its token, be it a keyword. -/
theorem identifierName_stands : M.Ensures identifierName p (Stands M p) := by
  refine look_then ?_
  split
  · rename_i text kind
    exact name_stands (Token.isEnd_eq_false kind (by simp)) (.inr (by rw [kind]; rfl))
  · rename_i word kind
    exact name_stands (Token.isEnd_eq_false kind (by simp)) (.inr (by rw [kind]; rfl))
  · exact missing_stands

theorem identifierName_makes : M.Makes identifierName :=
  fun _ => identifierName_stands.mono fun _ _ h => h.1

/-- A literal stands at its token. -/
theorem literal_stands : M.Ensures literal p (Stands M p) := by
  refine look_then ?_
  split
  · rename_i value read
    exact leaf_stands (Token.isEnd_of_reading rfl read) ⟨⟨rfl, rfl⟩, rfl, rfl, rfl⟩ rfl (.inl rfl)
  · exact missing_stands

theorem literal_makes : M.Makes literal := fun _ => literal_stands.mono fun _ _ h => h.1

/-- The name of a property; one that is not computed is a single token. -/
theorem propertyName_ensures : M.Ensures propertyName p fun name q =>
    M.Made p [name.1] q ∧ (setting.mode = .strict → name.2 = false → p.OnToken name.1 q) := by
  have stands {r : Rule Node} (h : M.Ensures r p (Stands M p)) :
      M.Ensures (r >>= fun key => Pure.pure (key, false)) p fun name q =>
        M.Made p [name.1] q ∧ (setting.mode = .strict → name.2 = false →
          p.OnToken name.1 q) :=
    h.bind fun key q h => .pure ⟨h.1, fun strict _ => h.2 strict⟩
  refine eat_then (fun _ => ?_) fun _ => look_then ?_
  · refine (M.taken p).then (assignment_makes false) fun key q made => ?_
    exact made.pass (expect_passes _) fun _ r made => .pure ⟨made, by simp⟩
  · split
    · exact stands literal_stands
    · exact stands literal_stands
    · exact stands identifierName_stands

/-! ## Lists -/

section Lists

variable {item : Rule Node}

/-- The comma behind an item makes nothing. -/
theorem endItem_passes (close : Punctuator) (before : Nat) : M.Passes (endItem close before) := by
  intro p
  refine look_then ?_
  refine .ite (fun _ => .pure (made_refl p)) fun _ => ?_
  refine look_then ?_
  refine .ite (fun _ => .pure (made_refl p)) fun _ => ?_
  refine eat_then (fun _ => .pure (M.taken p)) fun _ => ?_
  exact unexpected_then fun _ => .pure (made_refl p)

/-- Of items what is known of each of them. -/
theorem items_ensures (good : Node → Prop) (close : Punctuator)
    (h : ∀ p, M.Ensures item p fun n q => M.Made p [n] q ∧ good n) :
    M.Ensures (items close item) p fun found q => M.Made p found q ∧ ∀ n ∈ found, good n := by
  refine .loop (fun found q => M.Made p found.toList q ∧ ∀ n ∈ found.toList, good n)
    ⟨made_refl p, nofun⟩ fun found q ⟨made, known⟩ => ?_
  refine look_then ?_
  refine .ite (fun _ => .pure ⟨made, known⟩) fun _ => ?_
  refine look_then ?_
  refine (h q).bind fun n r ⟨next, this⟩ => ?_
  refine (M.append made next).pass (endItem_passes _ _) fun more s made => ?_
  have pushed : M.Made p (found.push n).toList s ∧ ∀ x ∈ (found.push n).toList, good x := by
    rw [Array.toList_push]
    exact ⟨made, List.forall_mem_append.mpr ⟨known, fun x hx => List.mem_singleton.mp hx ▸ this⟩⟩
  exact .ite (fun _ => .pure pushed) fun _ => .pure pushed

/-- A list makes its items in turn. -/
theorem items_makes (close : Punctuator) (h : M.Makes item) : M.Makes (items close item) := by
  intro p
  refine (items_ensures (fun _ => True) close fun q => ?_).mono fun found q made => ?_
  · exact (h q).mono fun _ _ next => ⟨next, trivial⟩
  · rw [nodes_list]
    exact made.1

/-- A list with holes makes those that are there. -/
theorem elements_makes (close : Punctuator) (h : M.Makes item) :
    M.Makes (elements close item) := by
  intro p
  refine .loop (fun found q => M.Made p (nodes found) q) (made_refl p) fun found q made => ?_
  refine look_then ?_
  refine .ite (fun _ => .pure made) fun _ => ?_
  refine eat_then (fun _ => .pure ?_) fun _ => look_then ?_
  · refine (made.behind (M.taken q)).of_eq ?_
    rw [nodes_push]
    simp
  refine made.then h fun n r made => made.pass (endItem_passes _ _) fun more s made => ?_
  have pushed := made.of_eq (nodes_push found (some n)).symm
  exact .ite (fun _ => .pure pushed) fun _ => .pure pushed

/-- What commas separate is made in turn. -/
theorem commaChain_makes (close : Punctuator) (h : M.Makes item) :
    M.Makes (commaChain close item) := by
  intro p
  refine .loop (fun found q => M.Made p (nodes found) q) (made_refl p) fun found q made => ?_
  refine look_then ?_
  refine .ite (fun _ => .pure made) fun _ => ?_
  refine look_then ?_
  refine made.then h fun n r made => ?_
  refine look_then ?_
  have pushed := made.of_eq (nodes_push found n).symm
  refine .ite (fun _ => .pure pushed) fun _ => ?_
  exact eat_then (fun _ => .pure (pushed.behind (M.taken r))) fun _ => .pure pushed

/-- A statement that took no token is dropped.  The statements go on up to such a token, or
    to the end of the text. -/
theorem statementsUntil_ensures (ends : Token → Bool) :
    M.Ensures (statementsUntil ends) p fun body q => M.Series p body q ∧
      (q.situation.token.isEnd || ends q.situation.token) = true := by
  refine .loop (fun found q => M.Series p found.toList q) (.nil p) fun found q series => ?_
  refine look_then ?_
  refine .ite (fun last => .pure ⟨series, last⟩) fun _ => ?_
  refine statement_ensures.bind fun n r ⟨next, seals⟩ => ?_
  refine look_then ?_
  refine .ite (fun none => ?_) fun _ => ?_
  · refine take_then (.pure ?_)
    exact .of_eq (series.append (.skip next (beq_iff_eq.mp none) (.nil _))) (by simp)
  · exact .pure (.of_eq (series.append (.cons next seals (.nil r))) (by simp))

end Lists

/-! ## Patterns -/

/-- A target is a name or a pattern. -/
theorem bindingTarget_makes : M.Makes bindingTarget := by
  intro p
  refine look_then ?_
  split
  · exact identifier_makes p
  · exact parseNested_makes (fun _ _ _ h => h) p
  · exact parseNested_makes (fun _ _ _ h => h) p
  · exact missing_makes p

/-- A target that was made since a node was opened is given a default. -/
theorem withDefault_ensures {start : Nat} {target : Node}
    (begun : M.Begun false p (openedAt start) p)
    (made : M.Made p [target] q) :
    M.Ensures (withDefault start target) q fun n r => M.Made p [n] r :=
  made.then (assignment_makes false) fun _ _ made =>
    begun.closeOver made ⟨rfl, rfl⟩ rfl rfl (by simp)

/-- An element may have a default. -/
theorem bindingElement_makes : M.Makes bindingElement := by
  intro p
  refine look_then ?_
  refine (bindingTarget_makes p).bind fun target q made => ?_
  refine eat_then (fun _ => ?_) fun _ => .pure made
  exact withDefault_ensures begun_inherited (made.behind (M.taken q))

/-- A rest makes a node around its target. -/
theorem restElement_makes : M.Makes restElement := by
  intro p
  refine openNode_then fun o q begun _ => ?_
  refine take_then ?_
  refine (bindingTarget_makes _).bind fun argument r made => ?_
  exact (begun.behind (M.taken q)).closeOver made ⟨rfl, rfl⟩ rfl rfl (by simp)

/-- An element or a rest. -/
theorem bindingOrRest_makes : M.Makes bindingOrRest :=
  fun p => look_then (.ite (fun _ => restElement_makes p) fun _ => bindingElement_makes p)

/-- A pattern of an array makes its elements. -/
theorem arrayPattern_makes : M.Makes arrayPattern := by
  intro p
  refine openNode_then fun o q begun _ => ?_
  refine take_then ?_
  refine (elements_makes _ bindingOrRest_makes _).bind fun found r made => ?_
  exact closeExpected (begun.behind (M.taken q)) made.holes ⟨rfl, rfl⟩ rfl rfl

/-- The two halves of a property that was opened: its key and its value, or a name
    that is both. -/
def Halves (M : Assembly setting) (p : Progress σ) (key value : Node) (shorthand : Bool)
    (q : Progress σ) : Prop :=
  if shorthand then key.identifierName?.isSome = true ∧ p.Twin setting M.Made key value q
  else M.Made p [key, value] q

/-- A property is closed around its two halves, which may be made of one name. -/
theorem closeProperty_ensures {key value : Node} {kind : PropertyKind}
    {computed shorthand isMethod : Bool} (opens : p.Opens setting true o q)
    (halves : Halves M q key value shorthand r) :
    M.Ensures (closeNode o (.property key value kind computed shorthand isMethod)) r
      fun n s => M.Made p [n] s := by
  cases shorthand with
  | true => exact closeNodeAt_ensures (M.shorthand opens halves.1 halves.2)
  | false =>
      have begun : M.Begun true p o q := ⟨q, opens, made_refl q⟩
      have made : M.Made q [key, value] r := halves
      exact begun.closeOver made ⟨rfl, rfl⟩ rfl rfl (by simp)

/-- A name alone, with or without a default, stands for the value as well. -/
theorem shorthand_ensures {key : Node} {computed : Bool} {f : Node → Rule α}
    (made : M.Made p [key] q)
    (on : setting.mode = .strict → computed = false → p.OnToken key q)
    (name : (!computed && key.identifierName?.isSome) = true)
    (k : ∀ value r, Halves M p key value true r →
      value.shape.isPattern = false ∨ key.Defaults value → M.Ensures (f value) r post) :
    M.Ensures (eat .assign >>= fun defaults =>
      if defaults then withDefault key.span.start key.detached >>= f else f key.detached)
      q post := by
  rw [Bool.and_eq_true, Bool.not_eq_true'] at name
  obtain ⟨uncomputed, name⟩ := name
  refine eat_then (fun _ => ?_) fun _ => k _ q ⟨name, .name made⟩ (.inl ?_)
  · have defaulted : M.Ensures (withDefault key.span.start key.detached) (q.taken setting)
        fun value r => Halves M p key value true r ∧ key.Defaults value := by
      refine (assignment_makes false _).bind fun right r behind => closeNodeAt_ensures ?_
      exact ⟨⟨name, .default (made.behind (M.taken q)) (fun strict => (on strict uncomputed).start)
        behind rfl⟩, name, rfl, right, rfl⟩
    exact defaulted.bind fun value r h => k value r h.1 (.inr h.2)
  · exact Node.isPattern_of_identifierName? name

/-- A property of a pattern makes its key and its target. -/
theorem patternProperty_makes : M.Makes patternProperty := by
  intro p
  refine openNode_opens fun o q opens _ _ => ?_
  refine propertyName_ensures.bind ?_
  rintro ⟨key, computed⟩ r ⟨made, on⟩
  refine eat_then (fun _ => ?_) fun _ => ?_
  · refine (made.behind (M.taken r)).then bindingElement_makes fun value s made => ?_
    exact closeProperty_ensures opens made
  refine .ite (fun name => ?_) fun _ => ?_
  · exact shorthand_ensures made on name fun value s halves _ =>
      closeProperty_ensures opens halves
  · refine made.then missing_makes fun value s made => ?_
    exact closeProperty_ensures opens made

/-- A pattern of an object makes its properties. -/
theorem objectPattern_makes : M.Makes objectPattern := by
  intro p
  refine openNode_then fun o q begun _ => ?_
  refine take_then ?_
  refine (items_makes _ patternProperty_makes _).bind fun found r made => ?_
  exact closeExpected (begun.behind (M.taken q)) made.list ⟨rfl, rfl⟩ rfl rfl

end ScriptTree.Grammar

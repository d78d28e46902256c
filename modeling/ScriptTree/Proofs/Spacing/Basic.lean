import Mathlib.Data.List.Forall2
import ScriptTree.Grammar.Program
import ScriptTree.Proofs.Node.Form

/-! # Two texts that differ in what lies between their tokens

    Two streams of lexemes are alike if their tokens have the same kinds, texts and
    line breaks in front of them, in the same places a `let` declares something, and
    nothing was wrong with either.  Offsets, comments and the watchers of two parses
    of them may differ.

    `Rule.Twin` relates two rules that do the same as long as they only see what is
    alike: a clause for each step says what the two may go on with.  That runs of
    twins end alike is one induction over this relation; that every rule of the
    grammar is a twin of itself is shown rule by rule behind it. -/

namespace ScriptTree

variable {σ τ : Type}

/-! ## What is alike -/

/-- The tokens differ at most in where they stand. -/
structure Token.Alike (t u : Token) : Prop where
  kind : t.kind = u.kind
  text : t.text = u.text
  newline : t.newlineBefore = u.newlineBefore

/-- The lexemes differ at most in where they stand and in their comments. -/
structure Lexeme.Alike (l m : Lexeme) : Prop where
  token : l.token.Alike m.token
  binding : l.opensBinding = m.opensBinding
  quiet : l.diagnostics = [] ∧ m.diagnostics = []

/-- Two parses stand at tokens that are alike, with alike tokens ahead. -/
structure Situation.Alike (s t : Situation) : Prop where
  current : s.current.Alike t.current
  upcoming : List.Forall₂ Lexeme.Alike s.upcoming t.upcoming
  consumed : s.consumed = t.consumed
  depth : s.depth = t.depth
  inFunction : s.inFunction = t.inFunction

/-- The nonterminals are the same, and continue phrases of one form. -/
inductive Nonterminal.Alike : Nonterminal → Nonterminal → Prop where
  | same (phrase : Nonterminal) : Alike phrase phrase
  | operators {left left' : Node} (form : left.form = left'.form) (start start' minimum : Nat)
      (noIn : Bool) :
      Alike (.operators left start minimum noIn) (.operators left' start' minimum noIn)
  | subscripts {base base' : Node} (form : base.form = base'.form) (start start' : Nat)
      (noCalls : Bool) : Alike (.subscripts base start noCalls) (.subscripts base' start' noCalls)

namespace Token.Alike

variable {t u : Token} (h : t.Alike u)
include h

/-- Tokens that are alike are the same punctuator. -/
theorem isPunctuator (mark : Punctuator) : t.isPunctuator mark = u.isPunctuator mark := by
  rw [Token.isPunctuator, h.kind, Token.isPunctuator]

/-- They are the same keyword. -/
theorem isKeyword (word : Keyword) : t.isKeyword word = u.isKeyword word := by
  rw [Token.isKeyword, h.kind, Token.isKeyword]

/-- They have the same name. -/
theorem isNamed (name : String) : t.isNamed name = u.isNamed name := by
  rw [Token.isNamed, h.kind, Token.isNamed]

/-- Both are names, or none. -/
theorem isName : t.isName = u.isName := by
  rw [Token.isName, h.kind, Token.isName]

/-- Both are the end, or none. -/
theorem isEnd : t.isEnd = u.isEnd := by
  rw [Token.isEnd, h.kind, Token.isEnd]

/-- Both open a template, or none. -/
theorem isTemplateHead : t.isTemplateHead = u.isTemplateHead := by
  rw [Token.isTemplateHead, h.kind, Token.isTemplateHead]

/-- Both continue a template, or none. -/
theorem isTemplateRest : t.isTemplateRest = u.isTemplateRest := by
  rw [Token.isTemplateRest, h.kind, Token.isTemplateRest]

end Token.Alike

/-- Situations that are alike have tokens that are. -/
theorem Situation.Alike.token {s t : Situation} (h : s.Alike t) : s.token.Alike t.token :=
  h.current.token

/-! ## Twins -/

/-- Two rules that do the same as long as they only see what is alike, and end with
    related values. -/
inductive Rule.Twin {α β : Type} (R : α → β → Prop) : Rule α → Rule β → Prop where
  | done {a : α} {b : β} (related : R a b) : Twin R (.done a) (.done b)
  | look {next : Situation → Rule α} {next' : Situation → Rule β}
      (on : ∀ s t, s.Alike t → Twin R (next s) (next' t)) : Twin R (.look next) (.look next')
  | take {next : Token → Rule α} {next' : Token → Rule β}
      (on : ∀ t u, t.Alike u → Twin R (next t) (next' u)) : Twin R (.take next) (.take next')
  | openAt {start start' : Nat} {next : List Comment → Rule α} {next' : List Comment → Rule β}
      (on : ∀ comments comments', Twin R (next comments) (next' comments')) :
      Twin R (.openAt start next) (.openAt start' next')
  | close {node node' : Node} {next : Node → Rule α} {next' : Node → Rule β}
      (form : node.form = node'.form)
      (on : ∀ n m, n.form = m.form → Twin R (next n) (next' m)) :
      Twin R (.close node next) (.close node' next')
  | complain {span span' : Span} {fault : Fault} {next : Rule α} {next' : Rule β}
      (on : Twin R next next') : Twin R (.complain span fault next) (.complain span' fault next')
  | deepen {next : Bool → Rule α} {next' : Bool → Rule β} (on : ∀ ok, Twin R (next ok) (next' ok)) :
      Twin R (.deepen next) (.deepen next')
  | call {frame : Frame} {phrase phrase' : Nonterminal} {next : Node → Rule α}
      {next' : Node → Rule β} (alike : phrase.Alike phrase')
      (on : ∀ n m, n.form = m.form → Twin R (next n) (next' m)) :
      Twin R (.call frame phrase next) (.call frame phrase' next')
  | budget {next : Nat → Rule α} {next' : Nat → Rule β} (on : ∀ n, Twin R (next n) (next' n)) :
      Twin R (.budget next) (.budget next')
  | overrun : Twin R .overrun .overrun

namespace Rule.Twin

variable {α β γ δ : Type} {R : α → β → Prop} {S : γ → δ → Prop}

/-- What comes behind twins. -/
theorem bind {r : Rule α} {r' : Rule β} {f : α → Rule γ} {f' : β → Rule δ} (h : Twin R r r')
    (k : ∀ a b, R a b → Twin S (f a) (f' b)) : Twin S (r >>= f) (r' >>= f') := by
  induction h with
  | done related => exact k _ _ related
  | look _ ih => exact .look ih
  | take _ ih => exact .take ih
  | openAt _ ih => exact .openAt ih
  | close form _ ih => exact .close form ih
  | complain _ ih => exact .complain ih
  | deepen _ ih => exact .deepen ih
  | call alike _ ih => exact .call alike ih
  | budget _ ih => exact .budget ih
  | overrun => exact .overrun

/-- What comes behind twins that end with one value. -/
theorem bindEq {r r' : Rule α} {f : α → Rule γ} {f' : α → Rule δ} (h : Twin Eq r r')
    (k : ∀ a, Twin S (f a) (f' a)) : Twin S (r >>= f) (r' >>= f') := by
  refine h.bind fun a b same => ?_
  subst same
  exact k a

/-- Values that are related are given. -/
theorem pure {a : α} {b : β} (related : R a b) : Twin R (Pure.pure a) (Pure.pure b) := .done related

/-- Both take the same branch. -/
theorem ite {c : Prop} [Decidable c] {yes no : Rule α} {yes' no' : Rule β}
    (h : c → Twin R yes yes') (k : ¬ c → Twin R no no') :
    Twin R (if c then yes else no) (if c then yes' else no') := by
  by_cases holds : c
  · rw [if_pos holds, if_pos holds]
    exact h holds
  · rw [if_neg holds, if_neg holds]
    exact k holds

/-- Twins that run only sometimes, with related values for where they do not. -/
theorem optional {c : Prop} [Decidable c] {r : Rule α} {r' : Rule β} {a : α} {b : β}
    {f : α → Rule γ} {f' : β → Rule δ} (h : Twin R r r') (instead : R a b)
    (k : ∀ a b, R a b → Twin S (f a) (f' b)) :
    Twin S (if c then r >>= f else Pure.pure a >>= f)
      (if c then r' >>= f' else Pure.pure b >>= f') :=
  .ite (fun _ => h.bind k) fun _ => k a b instead

/-- Twins in front of others that run only sometimes. -/
theorem first {c : Prop} [Decidable c] {r r' : Rule Unit} {f : Unit → Rule α} {f' : Unit → Rule β}
    (h : Twin Eq r r') (k : Twin R (f ()) (f' ())) :
    Twin R (if c then r >>= f else f ()) (if c then r' >>= f' else f' ()) :=
  .ite (fun _ => h.bindEq fun _ => k) fun _ => k

/-- Twins in front of others that run only where the test fails. -/
theorem firstElse {c : Prop} [Decidable c] {r r' : Rule Unit} {f : Unit → Rule α}
    {f' : Unit → Rule β} (h : Twin Eq r r') (k : Twin R (f ()) (f' ())) :
    Twin R (if c then f () else r >>= f) (if c then f' () else r' >>= f') :=
  .ite (fun _ => k) fun _ => h.bindEq fun _ => k

/-- How the rounds of two loops end: both go on, or both leave. -/
inductive Turned (R : α → β → Prop) (S : γ → δ → Prop) : Turn α γ → Turn β δ → Prop where
  | again {a : α} {b : β} (related : R a b) : Turned R S (.again a) (.again b)
  | leave {c : γ} {d : δ} (related : S c d) : Turned R S (.leave c) (.leave d)

/-- Loops whose rounds are twins. -/
theorem loop {a : α} {b : β} {step : α → Rule (Turn α γ)} {step' : β → Rule (Turn β δ)}
    (start : R a b) (h : ∀ a b, R a b → Twin (Turned R S) (step a) (step' b)) :
    Twin S (Rule.loop a step) (Rule.loop b step') := by
  refine .budget fun n => ?_
  induction n generalizing a b with
  | zero => exact .overrun
  | succ n ih =>
      refine (h a b start).bind fun turn turn' turned => ?_
      cases turned with
      | again related => exact ih related
      | leave related => exact .done related

end Rule.Twin

/-- The rules are twins that end with values of one form. -/
abbrev Rule.TwinBy {α γ : Type} (form : α → γ) (r r' : Rule α) : Prop :=
  Rule.Twin (fun a b => form a = form b) r r'

/-- The rule is a twin of itself: it does the same wherever its tokens stand. -/
abbrev Rule.Steady {α γ : Type} (form : α → γ) (r : Rule α) : Prop := Rule.TwinBy form r r

/-! ## Runs of twins -/

/-- Two parses end alike: with related values at alike tokens, or rejected with one
    message at alike tokens, or both without fuel. -/
inductive Outcome.Alike {α β : Type} (R : α → β → Prop) : Outcome σ α → Outcome τ β → Prop where
  | done {a : α} {b : β} {p : Progress σ} {q : Progress τ} (related : R a b)
      (alike : p.situation.Alike q.situation) : Alike R (.done a p) (.done b q)
  | rejected {e e' : SyntaxError} {p : Progress σ} {q : Progress τ}
      (same : e.message = e'.message) (alike : p.situation.Alike q.situation) :
      Alike R (.stopped (.rejected e) p) (.stopped (.rejected e') q)
  | outOfFuel {p : Progress σ} {q : Progress τ} :
      Alike R (.stopped .outOfFuel p) (.stopped .outOfFuel q)

/-- Parses that start at alike tokens end alike. -/
def Parallel {α β : Type} (R : α → β → Prop) (f : Progress σ → Outcome σ α)
    (g : Progress τ → Outcome τ β) : Prop :=
  ∀ p q, p.situation.Alike q.situation → (f p).Alike R (g q)

section Machine

variable {α β γ δ : Type} {R : α → β → Prop} {S : γ → δ → Prop} {s : Setting σ} {t : Setting τ}

/-- What follows goes on in parallel where the first parts ended alike. -/
theorem Outcome.Alike.andThen {o : Outcome σ α} {o' : Outcome τ β} (h : o.Alike R o')
    {f : α → Progress σ → Outcome σ γ} {g : β → Progress τ → Outcome τ δ}
    (k : ∀ a b, R a b → Parallel S (f a) (g b)) : (o.andThen f).Alike S (o'.andThen g) := by
  cases h with
  | done related alike => exact k _ _ related _ _ alike
  | rejected same alike => exact .rejected same alike
  | outOfFuel => exact .outOfFuel

/-- Both situations may be moved alike. -/
theorem Outcome.Alike.adjust {o : Outcome σ α} {o' : Outcome τ β} (h : o.Alike R o')
    {move move' : Situation → Situation} (k : ∀ s t, s.Alike t → (move s).Alike (move' t)) :
    (o.adjust move).Alike R (o'.adjust move') := by
  cases h with
  | done related alike => exact .done related (k _ _ alike)
  | rejected same alike => exact .rejected same (k _ _ alike)
  | outOfFuel => exact .outOfFuel

namespace Progress

/-- Where nothing was wrong with the lexemes, nothing is reported on the way. -/
theorem advance_parallel : Parallel (fun _ _ => True) (advance s) (advance t) := by
  intro p q alike
  rw [advance, advance]
  have upcoming := alike.upcoming
  generalize p.situation.upcoming = ahead, q.situation.upcoming = ahead' at upcoming
  cases upcoming with
  | nil => exact .done trivial alike
  | @cons l m rest rest' first others =>
      simp only [first.quiet.1, first.quiet.2, passDiagnostics]
      exact .done trivial ⟨first, others, alike.consumed, alike.depth, alike.inFunction⟩

/-- Tokens are taken in parallel. -/
theorem take_parallel : Parallel Token.Alike (take s) (take t) := by
  intro p q alike
  rw [take, take]
  simp only [alike.token.isEnd]
  by_cases ends : q.situation.token.isEnd = true
  · rw [if_pos ends, if_pos ends]
    exact .done alike.token alike
  · rw [if_neg ends, if_neg ends]
    refine (advance_parallel _ _ ?_).andThen fun _ _ _ p' q' alike' => .done alike.token alike'
    exact ⟨alike.current, alike.upcoming, congrArg (· + 1) alike.consumed, alike.depth,
      alike.inFunction⟩

/-- Complaints are made in parallel. -/
theorem complain_parallel (mode : s.mode = t.mode) (span span' : Span) (fault : Fault) :
    Parallel (fun _ _ => True) (complain s span fault) (complain t span' fault) := by
  intro p q alike
  rw [complain, complain, mode]
  cases t.mode with
  | strict => exact .rejected rfl alike
  | loose => exact .done trivial alike

/-- Levels are opened in parallel. -/
theorem deepen_parallel (mode : s.mode = t.mode) : Parallel Eq (deepen s) (deepen t) := by
  intro p q alike
  rw [deepen, deepen, alike.depth]
  by_cases deep : q.situation.depth ≥ nestingLimit
  · rw [if_pos deep, if_pos deep]
    exact (complain_parallel mode _ _ _ p q alike).andThen fun _ _ _ p' q' alike' =>
      .done rfl alike'
  · rw [if_neg deep, if_neg deep]
    exact .done rfl ⟨alike.current, alike.upcoming, alike.consumed, rfl, alike.inFunction⟩

/-- What stands for a missing phrase has one form. -/
theorem form_fallback {phrase phrase' : Nonterminal} (alike : phrase.Alike phrase')
    (offset offset' : Nat) : (fallback phrase offset).form = (fallback phrase' offset').form := by
  cases alike with
  | same phrase => cases phrase <;> rfl
  | operators => rfl
  | subscripts => rfl

/-- Frames change what two parses have in common in the same way. -/
theorem call_parallel (mode : s.mode = t.mode) {parse : Nonterminal → Progress σ → Outcome σ Node}
    {parse' : Nonterminal → Progress τ → Outcome τ Node} {phrase phrase' : Nonterminal}
    (alike : phrase.Alike phrase')
    (inside : Parallel (fun n m : Node => n.form = m.form) (parse phrase) (parse' phrase'))
    (frame : Frame) : Parallel (fun n m : Node => n.form = m.form) (call s parse frame phrase)
      (call t parse' frame phrase') := by
  intro p q here
  cases frame with
  | same => exact inside p q here
  -- The chain keeps the depth and the function it was in, as both frames restore the same.
  | chain =>
      simp only [call]
      refine (inside p q here).adjust fun u v h => ?_
      exact ⟨h.current, h.upcoming, h.consumed, here.depth, h.inFunction⟩
  | functionBody =>
      simp only [call]
      refine (inside _ _ ?_).adjust fun u v h => ?_
      · exact ⟨here.current, here.upcoming, here.consumed, here.depth, rfl⟩
      · exact ⟨h.current, h.upcoming, h.consumed, h.depth, here.inFunction⟩
  | nested =>
      simp only [call, here.depth]
      by_cases deep : q.situation.depth ≥ nestingLimit
      -- At the limit both runs complain and step over a token alike.
      · rw [if_pos deep, if_pos deep]
        refine (complain_parallel mode _ _ _ p q here).andThen fun _ _ _ p' q' here => ?_
        refine (take_parallel p' q' here).andThen fun _ _ _ p' q' here => ?_
        exact .done (form_fallback alike _ _) here
      · rw [if_neg deep, if_neg deep]
        refine (inside _ _ ?_).adjust fun u v h => ?_
        · exact ⟨here.current, here.upcoming, here.consumed, rfl, here.inFunction⟩
        · exact ⟨h.current, h.upcoming, h.consumed, congrArg (· - 1) h.depth, h.inFunction⟩

end Progress

/-- RUNS OF TWINS END ALIKE, if the parses of the nonterminals they call do. -/
theorem Rule.Twin.run {r : Rule α} {r' : Rule β} (h : Rule.Twin R r r') (mode : s.mode = t.mode)
    {fuel : Nat} {parse : Nonterminal → Progress σ → Outcome σ Node}
    {parse' : Nonterminal → Progress τ → Outcome τ Node}
    (inside : ∀ phrase phrase', phrase.Alike phrase' →
      Parallel (fun n m : Node => n.form = m.form) (parse phrase) (parse' phrase')) :
    Parallel R (r.run s fuel parse) (r'.run t fuel parse') := by
  induction h with
  | done related => exact fun p q alike => .done related alike
  | look _ ih => exact fun p q alike => ih _ _ alike p q alike
  | take _ ih => exact fun p q alike => (Progress.take_parallel p q alike).andThen ih
  | openAt _ ih => exact fun p q alike => ih _ _ _ _ alike
  | close form _ ih =>
      intro p q alike
      refine ih _ _ ?_ _ _ alike
      rw [Node.form_trailing, Node.form_trailing, form]
  | complain _ ih =>
      exact fun p q alike => (Progress.complain_parallel mode _ _ _ p q alike).andThen
        fun _ _ _ => ih
  -- How deep a run is depends on its calls and on no span, so both go on alike.
  | deepen _ ih =>
      exact fun p q alike => (Progress.deepen_parallel mode p q alike).andThen
        fun a b same => same ▸ ih a
  | call alike _ ih =>
      exact fun p q here =>
        (Progress.call_parallel mode alike (inside _ _ alike) _ p q here).andThen ih
  | budget _ ih => exact ih fuel
  | overrun => exact fun p q alike => .outOfFuel

end Machine

end ScriptTree

import ScriptTree.Grammar.Program

/-! # Lockstep — a strict parse is a loose parse that stops early

    A loose parse is followed step by step by a parse of the same lexemes in
    either mode, with an observer of its own.  As long as the observers give
    the same answers, both parses stand at the same place and have the same
    values in their hands; only a complaint parts them, where a strict parse
    tells its observer of the error and stops, and the loose one goes on.

    `Outcome.Follows` is this relation between two ends of a parse, and
    `Rule.run_lockstep` is the one induction over rules that proves it. -/

namespace ScriptTree

variable {σ τ α β : Type}

/-- What an observer remembers after more of a parse that no error ended. -/
inductive Observer.Reaches (o : Observer σ) (a : σ) : σ → Prop where
  | refl : Reaches o a a
  | token {b : σ} (h : Reaches o a b) (t : Token) : Reaches o a (o.token t b)
  | comment {b : σ} (h : Reaches o a b) (c : Comment) : Reaches o a (o.comment c b)
  | opened {b : σ} (h : Reaches o a b) (start : Nat) : Reaches o a (o.opened start b).2
  | closed {b : σ} (h : Reaches o a b) (n : Node) : Reaches o a (o.closed n b).2
  | error {b : σ} (h : Reaches o a b) (e : SyntaxError) : Reaches o a (o.error e false b)

/-- What is reached in two goes is reached. -/
theorem Observer.Reaches.trans {o : Observer σ} {a b c : σ} (h : o.Reaches a b)
    (k : o.Reaches b c) : o.Reaches a c := by
  induction k with
  | refl => exact h
  | token _ t ih => exact .token ih t
  | comment _ c ih => exact .comment ih c
  | opened _ start ih => exact .opened ih start
  | closed _ n ih => exact .closed ih n
  | error _ e ih => exact .error ih e

/-- Two observers give the same answers as long as what they remember is
    related, and being told the same keeps it related. -/
structure Observer.Agrees (o : Observer σ) (w : Observer τ) (R : σ → τ → Prop) : Prop where
  token : ∀ t a b, R a b → R (o.token t a) (w.token t b)
  comment : ∀ c a b, R a b → R (o.comment c a) (w.comment c b)
  opened : ∀ start a b, R a b → (o.opened start a).1 = (w.opened start b).1 ∧
    R (o.opened start a).2 (w.opened start b).2
  closed : ∀ n a b, R a b → (o.closed n a).1 = (w.closed n b).1 ∧
    R (o.closed n a).2 (w.closed n b).2
  error : ∀ e a b, R a b → R (o.error e false a) (w.error e false b)

/-- Every observer agrees with itself. -/
theorem Observer.agrees_self (o : Observer σ) : o.Agrees o Eq where
  token _ _ _ h := h ▸ rfl
  comment _ _ _ h := h ▸ rfl
  opened _ _ _ h := h ▸ ⟨rfl, rfl⟩
  closed _ _ _ h := h ▸ ⟨rfl, rfl⟩
  error _ _ _ h := h ▸ rfl

/-- What was observed, however the parse ended. -/
def Outcome.observed : Outcome σ α → σ
  | .done _ p => p.observed
  | .stopped _ p => p.observed

/-- One parse ended as the other did, or was rejected where the other went
    on. -/
inductive Outcome.Follows (o : Observer σ) (w : Observer τ) (R : σ → τ → Prop) :
    Outcome σ α → Outcome τ α → Prop where
  | done {a : α} {p : Progress σ} {q : Progress τ} (same : p.situation = q.situation)
      (related : R p.observed q.observed) : Follows o w R (.done a p) (.done a q)
  | rejected {e : SyntaxError} {p : Progress σ} {out : Outcome τ α} {a : σ} {b : τ}
      (related : R a b) (told : p.observed = o.error e true a)
      (on : w.Reaches b out.observed) : Follows o w R (.stopped (.rejected e) p) out
  | outOfFuel {p : Progress σ} {q : Progress τ} :
      Follows o w R (.stopped .outOfFuel p) (.stopped .outOfFuel q)

/-- What two settings have in common in lockstep; the second one passes over
    complaints. -/
structure Setting.Paired (s : Setting σ) (t : Setting τ) (R : σ → τ → Prop) : Prop where
  loose : t.mode = .loose
  lines : s.lines = t.lines
  agrees : s.observer.Agrees t.observer R

/-- Parses that start alike: the first follows the second, which only goes
    forward. -/
structure Lockstep (o : Observer σ) (w : Observer τ) (R : σ → τ → Prop)
    (f : Progress σ → Outcome σ α) (g : Progress τ → Outcome τ α) : Prop where
  follows : ∀ p q, p.situation = q.situation → R p.observed q.observed →
    (f p).Follows o w R (g q)
  forward : ∀ q, w.Reaches q.observed (g q).observed

/-! ## Composing parses in lockstep -/

namespace Lockstep

variable {o : Observer σ} {w : Observer τ} {R : σ → τ → Prop}
  {f : Progress σ → Outcome σ α} {g : Progress τ → Outcome τ α}

/-- Both parses end with the same value. -/
theorem done (a : α) : Lockstep o w R (.done a) (.done a) where
  follows _ _ same related := .done same related
  forward _ := .refl

/-- Both parses run out of fuel. -/
theorem outOfFuel : Lockstep (α := α) o w R (.stopped .outOfFuel) (.stopped .outOfFuel) where
  follows _ _ _ _ := .outOfFuel
  forward _ := .refl

/-- In each situation the parses are as two that are in lockstep. -/
theorem bySituation (h : ∀ s, ∃ f' g', Lockstep o w R f' g' ∧ (∀ a, f ⟨s, a⟩ = f' ⟨s, a⟩) ∧
    ∀ b, g ⟨s, b⟩ = g' ⟨s, b⟩) : Lockstep o w R f g := by
  constructor
  · rintro ⟨s, a⟩ ⟨_, b⟩ rfl related
    obtain ⟨f', g', k, hf, hg⟩ := h s
    rw [hf, hg]
    exact k.follows ⟨s, a⟩ ⟨s, b⟩ rfl related
  · rintro ⟨s, b⟩
    obtain ⟨f', g', k, -, hg⟩ := h s
    rw [hg]
    exact k.forward ⟨s, b⟩

/-- Both parses start behind a move and a message to the observers. -/
theorem after (h : Lockstep o w R f g) (move : Situation → Situation) {u : σ → σ} {v : τ → τ}
    (related : ∀ a b, R a b → R (u a) (v b)) (on : ∀ b, w.Reaches b (v b)) :
    Lockstep o w R (fun p => f ⟨move p.situation, u p.observed⟩)
      (fun q => g ⟨move q.situation, v q.observed⟩) where
  follows _ _ same rel := h.follows _ _ (congrArg move same) (related _ _ rel)
  forward q := (on q.observed).trans (h.forward ⟨move q.situation, v q.observed⟩)

/-- Both parses go on with what the observers answer. -/
theorem answered {f : List Comment → Progress σ → Outcome σ α}
    {g : List Comment → Progress τ → Outcome τ α} (h : ∀ c, Lockstep o w R (f c) (g c))
    {u : σ → List Comment × σ} {v : τ → List Comment × τ}
    (agree : ∀ a b, R a b → (u a).1 = (v b).1 ∧ R (u a).2 (v b).2)
    (on : ∀ b, w.Reaches b (v b).2) :
    Lockstep o w R (fun p => f (u p.observed).1 { p with observed := (u p.observed).2 })
      (fun q => g (v q.observed).1 { q with observed := (v q.observed).2 }) where
  follows p q same rel := by
    obtain ⟨answer, related⟩ := agree _ _ rel
    show (f (u p.observed).1 _).Follows o w R _
    rw [answer]
    exact (h _).follows _ _ same related
  forward q := (on q.observed).trans ((h _).forward { q with observed := (v q.observed).2 })

/-- What comes behind two parses in lockstep stays in it. -/
theorem andThen {f' : α → Progress σ → Outcome σ β} {g' : α → Progress τ → Outcome τ β}
    (h : Lockstep o w R f g) (k : ∀ a, Lockstep o w R (f' a) (g' a)) :
    Lockstep o w R (fun p => (f p).andThen f') (fun q => (g q).andThen g') := by
  have onward (out : Outcome τ α) : w.Reaches out.observed (out.andThen g').observed := by
    cases out with
    | done a q => exact (k a).forward q
    | stopped why q => exact .refl
  constructor
  · intro p q same related
    -- A rejection stays one: only the loose parse goes on with what comes behind.
    have first := h.follows p q same related
    show ((f p).andThen f').Follows o w R ((g q).andThen g')
    generalize f p = out, g q = out' at first
    cases first with
    | @done a _ _ same related => exact (k a).follows _ _ same related
    | rejected related told on => exact .rejected related told (on.trans (onward _))
    | outOfFuel => exact .outOfFuel
  · exact fun q => (h.forward q).trans (onward (g q))

/-- Both parses move in the end. -/
theorem adjust (h : Lockstep o w R f g) (move : Situation → Situation) :
    Lockstep o w R (fun p => (f p).adjust move) (fun q => (g q).adjust move) := by
  have unchanged (out : Outcome τ α) : (out.adjust move).observed = out.observed := by
    cases out <;> rfl
  constructor
  · intro p q same related
    have inside := h.follows p q same related
    show ((f p).adjust move).Follows o w R ((g q).adjust move)
    generalize f p = out, g q = out' at inside
    cases inside with
    | done same related => exact .done (congrArg move same) related
    | rejected related told on => exact .rejected related told (by rw [unchanged]; exact on)
    | outOfFuel => exact .outOfFuel
  · intro q
    show w.Reaches q.observed ((g q).adjust move).observed
    rw [unchanged]
    exact h.forward q

end Lockstep

/-! ## The steps of the machine in lockstep -/

section Steps

variable {s : Setting σ} {t : Setting τ} {R : σ → τ → Prop}

/-- Parses under the two settings in lockstep. -/
abbrev Setting.Lockstep (s : Setting σ) (t : Setting τ) (R : σ → τ → Prop)
    (f : Progress σ → Outcome σ α) (g : Progress τ → Outcome τ α) : Prop :=
  ScriptTree.Lockstep s.observer t.observer R f g

namespace Progress

/-- A diagnostic stops the strict parse, while the loose one notes it and goes on. -/
theorem passDiagnostics_lockstep (h : s.Paired t R) (diagnostics : List Diagnostic) :
    s.Lockstep t R (passDiagnostics s diagnostics) (passDiagnostics t diagnostics) := by
  induction diagnostics with
  | nil => exact .done ()
  | cons d rest ih =>
      -- The loose parse reports the diagnostic and goes on, whatever the other does.
      have on := ih.after id (h.agrees.error (d.locate s.lines))
        fun b => .error .refl (d.locate s.lines)
      have passes (q : Progress τ) : passDiagnostics t (d :: rest) q =
          passDiagnostics t rest (q.report t (d.locate s.lines) false) := by
        simp [passDiagnostics, h.loose, h.lines]
      refine ⟨fun p q same related => ?_, fun q => passes q ▸ on.forward q⟩
      by_cases stops : (d.fault.isFatal && s.mode == .strict) = true
      · have stopped : passDiagnostics s (d :: rest) p =
            .stopped (.rejected (d.locate s.lines)) (p.report s (d.locate s.lines) true) := by
          simp only [passDiagnostics, stops, ↓reduceIte]
        rw [stopped]
        exact .rejected related rfl (passes q ▸ on.forward q)
      · have goes : passDiagnostics s (d :: rest) p =
            passDiagnostics s rest (p.report s (d.locate s.lines) false) := by
          simp only [passDiagnostics, stops, Bool.false_eq_true, ↓reduceIte]
        rw [goes, passes]
        exact on.follows p q same related

/-- Comments are noted alike. -/
theorem comments_related (h : s.Paired t R) (comments : List Comment) (a : σ) (b : τ)
    (related : R a b) : R (comments.foldl (fun o c => s.observer.comment c o) a)
      (comments.foldl (fun o c => t.observer.comment c o) b) := by
  induction comments generalizing a b with
  | nil => exact related
  | cons c rest ih => exact ih _ _ (h.agrees.comment c a b related)

/-- The loose parse can note comments on the way. -/
theorem comments_reach (o : Observer τ) (comments : List Comment) (b : τ) :
    o.Reaches b (comments.foldl (fun b c => o.comment c b) b) := by
  induction comments generalizing b with
  | nil => exact .refl
  | cons c rest ih => exact (Observer.Reaches.comment .refl c).trans (ih _)

/-- Reading the next lexeme. -/
theorem advance_lockstep (h : s.Paired t R) : s.Lockstep t R (advance s) (advance t) := by
  refine .bySituation fun at' => ?_
  simp only [advance]
  cases at'.upcoming with
  | nil => exact ⟨_, _, .done (), fun _ => rfl, fun _ => rfl⟩
  | cons lexeme rest =>
      have next := (passDiagnostics_lockstep h lexeme.diagnostics).after
        (fun s => { s with current := lexeme, upcoming := rest })
        (comments_related h lexeme.comments) (comments_reach t.observer lexeme.comments)
      exact ⟨_, _, next, fun _ => rfl, fun _ => rfl⟩

/-- Taking a token. -/
theorem take_lockstep (h : s.Paired t R) : s.Lockstep t R (take s) (take t) := by
  refine .bySituation fun at' => ?_
  simp only [take]
  split
  · exact ⟨_, _, .done at'.token, fun _ => rfl, fun _ => rfl⟩
  · have next := ((advance_lockstep h).after
      (fun s => { s with previousEnd := at'.token.span.stop, consumed := s.consumed + 1 })
      (h.agrees.token at'.token) fun b => .token .refl at'.token).andThen fun _ =>
        .done at'.token
    exact ⟨_, _, next, fun _ => rfl, fun _ => rfl⟩

/-- Complaining stops the strict parse. -/
theorem complain_lockstep (h : s.Paired t R) (span : Span) (fault : Fault) :
    s.Lockstep t R (complain s span fault) (complain t span fault) := by
  constructor
  · intro p q same related
    simp only [complain, h.loose]
    cases s.mode with
    | strict => exact .rejected related rfl .refl
    | loose => exact .done same related
  · intro q
    simp only [complain, h.loose]
    exact .refl

/-- Moving alone is in lockstep. -/
theorem move_lockstep (a : α) (move : Situation → Situation) : s.Lockstep t R
    (fun p => .done a { p with situation := move p.situation })
    (fun q => .done a { q with situation := move q.situation }) :=
  (Lockstep.done a).after move (fun _ _ h => h) fun _ => .refl

/-- Opening a level in a chain. -/
theorem deepen_lockstep (h : s.Paired t R) : s.Lockstep t R (deepen s) (deepen t) := by
  refine .bySituation fun at' => ?_
  simp only [deepen]
  split
  · have deep := (complain_lockstep h at'.token.span .nestingTooDeep).andThen fun _ =>
      .done false
    exact ⟨_, _, deep, fun _ => rfl, fun _ => rfl⟩
  · exact ⟨_, _, move_lockstep true fun s => { s with depth := s.depth + 1 }, fun _ => rfl,
      fun _ => rfl⟩

/-- Calling a phrase, if that is in lockstep. -/
theorem call_lockstep (h : s.Paired t R) {parse : Nonterminal → Progress σ → Outcome σ Node}
    {parse' : Nonterminal → Progress τ → Outcome τ Node}
    (inside : ∀ phrase, s.Lockstep t R (parse phrase) (parse' phrase)) (frame : Frame)
    (phrase : Nonterminal) :
    s.Lockstep t R (call s parse frame phrase) (call t parse' frame phrase) := by
  -- A frame moves the situation of both parses alike, in front and behind.
  have moved (move : Situation → Situation) : s.Lockstep t R _ _ :=
    (inside phrase).after move (fun _ _ h => h) fun _ => .refl
  refine .bySituation fun at' => ?_
  cases frame with
  | same => exact ⟨_, _, inside phrase, fun _ => rfl, fun _ => rfl⟩
  | chain =>
      exact ⟨_, _, (inside phrase).adjust fun s => { s with depth := at'.depth }, fun _ => rfl,
        fun _ => rfl⟩
  | functionBody =>
      exact ⟨_, _, (moved fun s => { s with inFunction := true }).adjust
        fun s => { s with inFunction := at'.inFunction }, fun _ => rfl, fun _ => rfl⟩
  | nested =>
      simp only [call]
      split
      -- At the limit a strict parse stops, and a loose one makes the same node instead.
      · have instead : s.Lockstep t R
            (fun p => .done (fallback phrase p.situation.previousEnd) p)
            (fun q => .done (fallback phrase q.situation.previousEnd) q) :=
          .bySituation fun s =>
            ⟨_, _, .done (fallback phrase s.previousEnd), fun _ => rfl, fun _ => rfl⟩
        have deep := (complain_lockstep h at'.token.span .nestingTooDeep).andThen fun _ =>
          (take_lockstep h).andThen fun _ => instead
        exact ⟨_, _, deep, fun _ => rfl, fun _ => rfl⟩
      · exact ⟨_, _, (moved fun s => { s with depth := s.depth + 1 }).adjust
          fun s => { s with depth := s.depth - 1 }, fun _ => rfl, fun _ => rfl⟩

end Progress

/-- THE LOCKSTEP OF RULES: a run of a rule follows the loose run of it, if the
    parses of its nonterminals do. -/
theorem Rule.run_lockstep (h : s.Paired t R) {fuel : Nat}
    {parse : Nonterminal → Progress σ → Outcome σ Node}
    {parse' : Nonterminal → Progress τ → Outcome τ Node}
    (inside : ∀ phrase, s.Lockstep t R (parse phrase) (parse' phrase)) (r : Rule α) :
    s.Lockstep t R (r.run s fuel parse) (r.run t fuel parse') := by
  induction r with
  | done a => exact .done a
  | look next ih => exact .bySituation fun at' => ⟨_, _, ih at', fun _ => rfl, fun _ => rfl⟩
  | take next ih => exact (Progress.take_lockstep h).andThen ih
  | openAt start next ih =>
      exact .answered ih (h.agrees.opened start) fun b => .opened .refl start
  | close node next ih =>
      have closed (comments : List Comment) :=
        ih { node with trailingComments := node.trailingComments ++ comments }
      exact .answered closed (h.agrees.closed node) fun b => .closed .refl node
  | complain span fault next ih =>
      exact (Progress.complain_lockstep h span fault).andThen fun _ => ih
  | deepen next ih => exact (Progress.deepen_lockstep h).andThen ih
  | call frame phrase next ih =>
      exact (Progress.call_lockstep h inside frame phrase).andThen ih
  | budget next ih => exact ih fuel
  | overrun => exact .outOfFuel

/-- All phrases are in lockstep, by induction on the fuel. -/
theorem derive_lockstep (h : s.Paired t R) (fuel : Nat) (phrase : Nonterminal) :
    s.Lockstep t R (derive s fuel phrase) (derive t fuel phrase) := by
  induction fuel generalizing phrase with
  | zero => exact .outOfFuel
  | succ fuel ih => exact Rule.run_lockstep h ih phrase.rule

/-- THE LOCKSTEP OF PROGRAMS: a parse of lexemes follows the loose parse of
    them. -/
theorem parseLexemes_follows (h : s.Paired t R) (lexemes : List Lexeme) (stop : Nat) {a : σ}
    {b : τ} (related : R a b) : (parseLexemes s lexemes stop a).Follows s.observer t.observer R
      (parseLexemes t lexemes stop b) := by
  let fuel := fuelFor lexemes.length
  have run {γ : Type} (r : Rule γ) : s.Lockstep t R (r.run s fuel (derive s fuel))
      (r.run t fuel (derive t fuel)) := Rule.run_lockstep h (derive_lockstep h fuel) r
  have closed (comments : List Comment) (body : List Node) :=
    (run (Grammar.closeNodeAt ⟨0, comments⟩ (.program body) stop)).after
      (fun s => { s with previousEnd := stop }) (fun _ _ h => h) fun _ => .refl
  have whole (comments : List Comment) := (Progress.advance_lockstep h).andThen fun _ =>
    (run Grammar.programBody).andThen (closed comments)
  have program := Lockstep.answered whole (h.agrees.opened 0) fun b => .opened .refl 0
  exact program.follows (Progress.start lexemes a) (Progress.start lexemes b) rfl related

end Steps

end ScriptTree

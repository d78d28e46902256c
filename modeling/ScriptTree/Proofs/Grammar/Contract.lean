import ScriptTree.Grammar.Program
import ScriptTree.Proofs.Grammar.Position

/-! # Contracts — what rules promise, told without a machine

    A rule moves through situations, whoever watches.  `Meets` reads a rule as
    a condition on the situation it starts in: every way through the rule ends
    in a value and a situation that satisfy a given property.  The nonterminals
    it calls are known by their CONTRACT only, what they need and what they
    give.

    `Rule.Meets.ends` is the one statement about the machine: a run of a rule
    that meets a property ends with it.  With it, a contract that every
    nonterminal's rule keeps while it relies on the contract one level of fuel
    below is kept by every parse (`Contract.derive_keeps`). -/

namespace ScriptTree

/-- What a parse relies on where it calls nonterminals. -/
structure Contract where
  /-- What becomes of complaints. -/
  mode : Mode
  /-- The fuel is allowed to run out. -/
  overruns : Prop
  /-- What a nonterminal needs where it starts with so much fuel. -/
  needs : Nat → Nonterminal → Situation → Prop
  /-- What a nonterminal gives that started there: its node, and where it
      stops. -/
  gives : Nonterminal → Situation → Node → Situation → Prop

/-- A parse ends with a value that satisfies the property, or where it may. -/
def Outcome.Ends {σ α : Type} (mode : Mode) (overruns : Prop)
    (post : α → Situation → Prop) : Outcome σ α → Prop
  | .done a p => post a p.situation
  | .stopped (.rejected _) _ => mode = .strict
  | .stopped .outOfFuel _ => overruns

/-- A nonterminal that is called in a frame leads to a node and a situation
    that satisfy the property. -/
def Contract.Calls (c : Contract) (fuel : Nat) (frame : Frame) (phrase : Nonterminal)
    (s : Situation) (post : Node → Situation → Prop) : Prop :=
  match frame with
  | .same => c.needs fuel phrase s ∧ ∀ n t, c.gives phrase s n t → post n t
  | .chain =>
    c.needs fuel phrase s ∧ ∀ n t, c.gives phrase s n t → post n { t with depth := s.depth }
  | .functionBody =>
    c.needs fuel phrase { s with inFunction := true } ∧
      ∀ n t, c.gives phrase { s with inFunction := true } n t →
        post n { t with inFunction := s.inFunction }
  | .nested =>
    if s.depth ≥ nestingLimit then
      c.mode = .loose → post (Progress.fallback phrase s.taken.previousEnd) s.taken
    else
      c.needs fuel phrase { s with depth := s.depth + 1 } ∧
        ∀ n t, c.gives phrase { s with depth := s.depth + 1 } n t →
          post n { t with depth := t.depth - 1 }

/-- Opening one more level leads to an answer and a situation that satisfy the
    property. -/
def Contract.Deepens (c : Contract) (s : Situation) (post : Bool → Situation → Prop) : Prop :=
  if s.depth ≥ nestingLimit then c.mode = .loose → post false s
  else post true { s with depth := s.depth + 1 }

/-- Every way through the rule from a situation satisfies the property. -/
def Rule.Meets (c : Contract) (fuel : Nat) {α : Type} :
    Rule α → Situation → (α → Situation → Prop) → Prop
  | .done a, s, post => post a s
  | .look next, s, post => (next s).Meets c fuel s post
  | .take next, s, post => (next s.token).Meets c fuel s.taken post
  | .openAt _ next, s, post => ∀ comments, (next comments).Meets c fuel s post
  | .close node next, s, post =>
    ∀ comments, (next { node with trailingComments := node.trailingComments ++ comments }).Meets
      c fuel s post
  | .complain _ _ next, s, post => c.mode = .loose → next.Meets c fuel s post
  | .deepen next, s, post => c.Deepens s fun ok t => (next ok).Meets c fuel t post
  | .call frame phrase next, s, post =>
    c.Calls fuel frame phrase s fun n t => (next n).Meets c fuel t post
  | .budget next, s, post => (next fuel).Meets c fuel s post
  | .overrun, _, _ => c.overruns

/-! ## Composing what rules meet -/

section Composing

variable {c : Contract} {fuel : Nat} {α β : Type} {s : Situation} {post : α → Situation → Prop}

/-- A call may be relied upon for less. -/
theorem Contract.Calls.mono {frame : Frame} {phrase : Nonterminal}
    {weaker stronger : Node → Situation → Prop} (h : c.Calls fuel frame phrase s stronger)
    (imp : ∀ n t, stronger n t → weaker n t) : c.Calls fuel frame phrase s weaker := by
  simp only [Calls] at h ⊢
  cases frame with
  | same => exact ⟨h.1, fun n t hg => imp _ _ (h.2 n t hg)⟩
  | chain => exact ⟨h.1, fun n t hg => imp _ _ (h.2 n t hg)⟩
  | functionBody => exact ⟨h.1, fun n t hg => imp _ _ (h.2 n t hg)⟩
  | nested =>
      simp only at h ⊢
      split
      · rename_i deep
        rw [if_pos deep] at h
        exact fun hm => imp _ _ (h hm)
      · rename_i deep
        rw [if_neg deep] at h
        exact ⟨h.1, fun n t hg => imp _ _ (h.2 n t hg)⟩

/-- So may a level. -/
theorem Contract.Deepens.mono {weaker stronger : Bool → Situation → Prop}
    (h : c.Deepens s stronger) (imp : ∀ ok t, stronger ok t → weaker ok t) :
    c.Deepens s weaker := by
  rw [Deepens] at h ⊢
  split
  · rename_i deep
    rw [if_pos deep] at h
    exact fun hm => imp _ _ (h hm)
  · rename_i deep
    rw [if_neg deep] at h
    exact imp _ _ h

/-- What is met may be weakened. -/
theorem Rule.Meets.mono {r : Rule α} {weaker : α → Situation → Prop} (h : r.Meets c fuel s post)
    (imp : ∀ a t, post a t → weaker a t) : r.Meets c fuel s weaker := by
  induction r generalizing s with
  | done a => exact imp a s h
  | look next ih => exact ih _ h
  | take next ih => exact ih _ h
  | openAt start next ih => exact fun comments => ih _ (h comments)
  | close node next ih => exact fun comments => ih _ (h comments)
  | complain span fault next ih => exact fun hm => ih (h hm)
  | deepen next ih => exact Contract.Deepens.mono h fun ok t ho => ih ok ho
  | call frame phrase next ih => exact Contract.Calls.mono h fun n t hn => ih n hn
  | budget next ih => exact ih _ h
  | overrun => exact h

/-- A rule behind another starts where the other stops. -/
theorem Rule.meets_bind {r : Rule β} {f : β → Rule α} :
    (r >>= f).Meets c fuel s post ↔ r.Meets c fuel s fun b t => (f b).Meets c fuel t post := by
  show (r.bind f).Meets c fuel s post ↔ _
  induction r generalizing s with
  | done a => exact Iff.rfl
  | look next ih => exact ih _
  | take next ih => exact ih _
  | openAt start next ih => exact forall_congr' fun comments => ih _
  | close node next ih => exact forall_congr' fun comments => ih _
  | complain span fault next ih => exact forall_congr' fun hm => ih
  | deepen next ih =>
      constructor
      · exact fun h => Contract.Deepens.mono h fun ok t ho => (ih ok).mp ho
      · exact fun h => Contract.Deepens.mono h fun ok t ho => (ih ok).mpr ho
  | call frame phrase next ih =>
      constructor
      · exact fun h => Contract.Calls.mono h fun n t hn => (ih n).mp hn
      · exact fun h => Contract.Calls.mono h fun n t hn => (ih n).mpr hn
  | budget next ih => exact ih _
  | overrun => exact Iff.rfl

/-- A rule, and what follows it from wherever it stops. -/
theorem Rule.Meets.bind {r : Rule β} {f : β → Rule α} {between : β → Situation → Prop}
    (h : r.Meets c fuel s between) (k : ∀ b t, between b t → (f b).Meets c fuel t post) :
    (r >>= f).Meets c fuel s post :=
  meets_bind.mpr (h.mono k)

/-- A rule that looks at the token first goes on with it. -/
theorem Grammar.token_meets {f : Token → Rule α} :
    (token >>= f).Meets c fuel s post ↔ (f s.token).Meets c fuel s post := Iff.rfl

/-- A loop keeps an invariant while it goes round, each time nearer to the
    end of the stream, and leaves with the property. -/
theorem Rule.Meets.iterate {step : β → Rule (Turn β α)} {n : Nat} {b : β}
    (inv : β → Situation → Prop) (start : inv b s)
    (turn : ∀ b t, inv b t → (step b).Meets c fuel t fun
      | .again b', u => inv b' u ∧ u.remaining < t.remaining
      | .leave a, u => post a u)
    (enough : s.remaining < n) : (Rule.iterate step n b).Meets c fuel s post := by
  induction n generalizing b s with
  | zero => exact absurd enough (Nat.not_lt_zero _)
  | succ n ih =>
      show (step b >>= _).Meets c fuel s post
      refine (turn b s start).bind fun next t ht => ?_
      -- Fewer lexemes are left behind a round, so one round less suffices.
      cases next with
      | again b' => exact ih ht.1 (by have := ht.2; omega)
      | leave a => exact ht

end Composing

/-! ## Running what meets -/

section Running

variable {σ α β : Type} {mode : Mode} {overruns : Prop}

/-- If the first part ends well, it is enough that what follows does. -/
theorem Outcome.Ends.andThen {o : Outcome σ α} {f : α → Progress σ → Outcome σ β}
    {between : α → Situation → Prop} {post : β → Situation → Prop}
    (h : o.Ends mode overruns between)
    (k : ∀ a p, between a p.situation → (f a p).Ends mode overruns post) :
    (o.andThen f).Ends mode overruns post := by
  cases o with
  | done a p => exact k a p h
  | stopped why p => cases why <;> exact h

/-- Moving the situation back moves the promise. -/
theorem Outcome.Ends.adjust {o : Outcome σ α} {f : Situation → Situation}
    {post : α → Situation → Prop} (h : o.Ends mode overruns fun a s => post a (f s)) :
    (o.adjust f).Ends mode overruns post := by
  cases o with
  | done a p => exact h
  | stopped why p => cases why <;> exact h

namespace Progress

variable {setting : Setting σ}

/-- Passing diagnostics on ends, in strict mode perhaps with an error. -/
theorem passDiagnostics_ends (diagnostics : List Diagnostic) (p : Progress σ) :
    (passDiagnostics setting diagnostics p).Ends setting.mode overruns
      fun _ s => s = p.situation := by
  induction diagnostics generalizing p with
  | nil => rfl
  | cons d rest ih =>
      simp only [passDiagnostics]
      split
      · rename_i fatal
        rw [Bool.and_eq_true, beq_iff_eq] at fatal
        exact fatal.2
      · exact ih _

/-- Taking a token gives it and stops behind it. -/
theorem take_ends (p : Progress σ) :
    (p.take setting).Ends setting.mode overruns
      fun t s => t = p.situation.token ∧ s = p.situation.taken := by
  simp only [take, Situation.taken]
  split
  · exact ⟨rfl, rfl⟩
  · have behind (q : Progress σ) : (q.advance setting).Ends setting.mode overruns fun _ s =>
        s = { q.situation with
          current := q.situation.upcoming.headD q.situation.current
          upcoming := q.situation.upcoming.tail } := by
      rw [advance]
      cases upcoming : q.situation.upcoming with
      | nil =>
          show q.situation = { q.situation with upcoming := [] }
          rw [← upcoming]
      | cons l rest => exact passDiagnostics_ends _ _
    exact (behind _).andThen fun _ q hq => ⟨rfl, hq⟩

/-- A complaint goes on only in loose mode. -/
theorem complain_ends (span : Span) (fault : Fault) (p : Progress σ) :
    (p.complain setting span fault).Ends setting.mode overruns
      fun _ s => setting.mode = .loose ∧ s = p.situation := by
  rw [complain]
  cases mode : setting.mode with
  | strict => exact rfl
  | loose => exact ⟨rfl, rfl⟩

end Progress

/-- A parse that keeps a promise keeps a weaker one. -/
theorem Outcome.Ends.mono {o : Outcome σ α} {stronger weaker : α → Situation → Prop}
    (h : o.Ends mode overruns stronger) (imp : ∀ a s, stronger a s → weaker a s) :
    o.Ends mode overruns weaker := by
  cases o with
  | done a p => exact imp _ _ h
  | stopped why p => cases why <;> exact h

variable {c : Contract} {fuel : Nat} {setting : Setting σ}
  {parse : Nonterminal → Progress σ → Outcome σ Node}

/-- Every parse of a nonterminal that starts where the contract allows it ends
    as the contract says. -/
def Contract.KeptBy (c : Contract) (fuel : Nat)
    (parse : Nonterminal → Progress σ → Outcome σ Node) : Prop :=
  ∀ phrase p, c.needs fuel phrase p.situation →
    (parse phrase p).Ends c.mode c.overruns (c.gives phrase p.situation)

/-- A level is opened as the contract promises. -/
theorem Contract.Deepens.ends {p : Progress σ} {post : Bool → Situation → Prop}
    (h : c.Deepens p.situation post) (hm : setting.mode = c.mode) :
    (p.deepen setting).Ends c.mode c.overruns post := by
  rw [Progress.deepen]
  rw [Deepens] at h
  split
  · rename_i deep
    rw [if_pos deep] at h
    rw [← hm] at h ⊢
    refine (Progress.complain_ends _ _ p).andThen fun _ q hq => ?_
    obtain ⟨loose, hq⟩ := hq
    show post false q.situation
    rw [hq]
    exact h loose
  · rename_i deep
    rw [if_neg deep] at h
    exact h

/-- A phrase is called as the contract promises. -/
theorem Contract.Calls.ends {frame : Frame} {phrase : Nonterminal} {p : Progress σ}
    {post : Node → Situation → Prop} (h : c.Calls fuel frame phrase p.situation post)
    (hm : setting.mode = c.mode) (kept : c.KeptBy fuel parse) :
    (p.call setting parse frame phrase).Ends c.mode c.overruns post := by
  simp only [Progress.call]
  simp only [Calls] at h
  cases frame with
  | same => exact (kept phrase p h.1).mono h.2
  | chain => exact ((kept phrase p h.1).mono h.2).adjust
  | functionBody => exact ((kept phrase { p with situation := _ } h.1).mono h.2).adjust
  | nested =>
      simp only at h ⊢
      split
      -- At the limit there is no call: the phrase is stood for, and its token is left out.
      · rename_i deep
        rw [if_pos deep] at h
        rw [← hm] at h ⊢
        refine (Progress.complain_ends _ _ p).andThen fun _ q hq => ?_
        obtain ⟨loose, hq⟩ := hq
        refine (Progress.take_ends q).andThen fun _ r hr => ?_
        show post _ r.situation
        rw [hr.2, hq]
        exact h loose
      · rename_i deep
        rw [if_neg deep] at h
        exact ((kept phrase { p with situation := _ } h.1).mono h.2).adjust

/-- THE SOUNDNESS OF CONTRACTS: a run of a rule ends with what the rule meets,
    if the parse of its nonterminals keeps the contract. -/
theorem Rule.Meets.ends {r : Rule α} {p : Progress σ} {post : α → Situation → Prop}
    (h : r.Meets c fuel p.situation post) (hm : setting.mode = c.mode)
    (kept : c.KeptBy fuel parse) : (r.run setting fuel parse p).Ends c.mode c.overruns post := by
  induction r generalizing p with
  | done a => exact h
  | look next ih => exact ih _ h
  | take next ih =>
      rw [run, ← hm]
      refine (Progress.take_ends p).andThen fun t q hq => ?_
      rw [hm]
      obtain ⟨rfl, hq⟩ := hq
      refine ih _ ?_
      rw [hq]
      exact h
  | openAt start next ih => exact ih _ (h _)
  | close node next ih => exact ih _ (h _)
  | complain span fault next ih =>
      -- Only a loose parse goes on behind a complaint.
      rw [run, ← hm]
      refine (Progress.complain_ends span fault p).andThen fun _ q hq => ?_
      rw [hm]
      refine ih ?_
      rw [hq.2]
      exact h (hm ▸ hq.1)
  | deepen next ih => exact (Contract.Deepens.ends h hm).andThen fun ok q hq => ih ok hq
  | call frame phrase next ih =>
      exact (Contract.Calls.ends h hm kept).andThen fun n q hq => ih n hq
  | budget next ih => exact ih _ h
  | overrun => exact h

/-- A contract is kept by every parse if every nonterminal's rule keeps it
    while the nonterminals it calls keep it with one less fuel. -/
theorem Contract.derive_keeps (hm : setting.mode = c.mode)
    (starved : ∀ phrase s, c.needs 0 phrase s → c.overruns)
    (rules : ∀ fuel phrase s, c.needs (fuel + 1) phrase s →
      phrase.rule.Meets c fuel s (c.gives phrase s))
    (fuel : Nat) : c.KeptBy fuel (derive setting fuel) := by
  induction fuel with
  | zero => exact fun phrase p h => starved phrase p.situation h
  | succ fuel ih => exact fun phrase p h => (rules fuel phrase p.situation h).ends hm ih

end Running

end ScriptTree

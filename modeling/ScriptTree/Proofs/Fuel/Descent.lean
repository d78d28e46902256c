import ScriptTree.Proofs.Grammar.Contract
import ScriptTree.Proofs.Grammar.Running

/-! # Descent — a measure that every call lowers

    Each nonterminal has a COST, its level in the grammar, and a nonterminal
    that starts somewhere MEASURES eight for each token ahead and its cost.  A
    call at the same token always goes to a nonterminal that costs less, and a
    token that was taken pays for eight levels, which is more than any
    nonterminal costs.

    A rule DESCENDS below a bound when, on every way through it, each
    nonterminal it calls measures at most the bound and each round of its loops
    that goes on took a token.  There is no other way to go round: a rule that
    descends asks for no budget but through such a loop.

    What a descending rule does depends on no fuel: run with any fuel at or
    above the bound it ends alike (`Rule.Descends.run_eq`). -/

namespace ScriptTree

open Rule (Turn)

/-- The levels of fuel a nonterminal needs beside those its tokens pay for.  A
    block and a list of patterns cost less where the mark stands that opens
    them, since they take it first. -/
def Nonterminal.cost : Nonterminal → Situation → Nat
  | .statement, _ => 5
  | .block, s => if s.token.isPunctuator .openBrace then 2 else 6
  | .assignment _, _ => 4
  | .unary, _ => 3
  | .arrayPattern, s => if s.token.isPunctuator .openBracket then 2 else 3
  | .objectPattern, _ => 2
  | .atom, _ => 2
  | .operators .., _ => 2
  | .subscripts .., _ => 2

/-- What a nonterminal measures where it starts: the tokens ahead first, then its
    level in the grammar. -/
def Nonterminal.measure (phrase : Nonterminal) (s : Situation) : Nat :=
  8 * s.remaining + phrase.cost s

/-- The fuel lasts for the tokens ahead and a cost. -/
def Situation.Affords (s : Situation) (fuel cost : Nat) : Prop :=
  Lexeme.Terminated s.ahead ∧ 8 * s.remaining + cost ≤ fuel

/-- Nonterminals that can afford their cost go forward, and no fuel runs
    out. -/
def Contract.onward (mode : Mode) : Contract where
  mode
  overruns := False
  needs fuel phrase s := s.Affords fuel (phrase.cost s)
  gives _ s _ t := s.Leads t

namespace Situation

variable {s t : Situation} {fuel cost : Nat}

/-- Where tokens have been taken, the same can be afforded. -/
theorem Affords.leads (h : s.Affords fuel cost) (k : s.Leads t) : t.Affords fuel cost := by
  refine ⟨k.terminated h.1, ?_⟩
  have := h.2
  have := k.remaining_add
  have := k.consumed_le
  omega

/-- What costs less can be afforded. -/
theorem Affords.mono {less : Nat} (h : s.Affords fuel cost) (le : less ≤ cost) :
    s.Affords fuel less :=
  ⟨h.1, by have := h.2; omega⟩

/-- A token that was taken pays for everything behind it. -/
theorem Affords.advanced (h : s.Affords fuel 1) (k : s.Leads t) (lt : s.consumed < t.consumed) :
    t.Affords fuel 9 := by
  refine ⟨k.terminated h.1, ?_⟩
  have := h.2
  have := k.remaining_add
  omega

/-- Taking a token where one stands leads on by one. -/
theorem leads_on (goes : s.token.isEnd = false) (h : Lexeme.Terminated s.ahead) :
    s.Leads s.taken ∧ s.consumed < s.taken.consumed :=
  ⟨leads_taken h, consumed_taken goes ▸ Nat.lt_succ_self _⟩

end Situation

/-- The cost depends on the token at which the nonterminal starts only. -/
theorem Nonterminal.cost_congr (phrase : Nonterminal) {s t : Situation}
    (h : s.token = t.token) : phrase.cost s = phrase.cost t := by
  cases phrase with
  | block => simp only [cost, h]
  | arrayPattern => simp only [cost, h]
  | _ => rfl

/-- A phrase can be called where it can be afforded. -/
theorem Contract.calls_onward {mode : Mode} {fuel : Nat} {s : Situation} {frame : Frame}
    {phrase : Nonterminal} (h : s.Affords fuel (phrase.cost s)) :
    (Contract.onward mode).Calls fuel frame phrase s fun _ t => s.Leads t := by
  -- Frames change the depth and what stands around, not the lexemes ahead.
  have inside : ∀ t : Situation, t.ahead = s.ahead → t.Affords fuel (phrase.cost t) := by
    intro t ht
    obtain ⟨same, rest⟩ := List.cons.inj ht
    rw [phrase.cost_congr (congrArg Lexeme.token same)]
    exact ⟨ht ▸ h.1, by rw [Situation.remaining, rest]; exact h.2⟩
  simp only [Calls]
  cases frame with
  | same => exact ⟨h, fun _ _ hg => hg⟩
  | chain => exact ⟨h, fun _ _ hg => hg⟩
  | functionBody => exact ⟨inside _ rfl, fun _ _ hg => hg⟩
  | nested =>
      simp only
      split
      · exact fun _ => Situation.leads_taken h.1
      · exact ⟨inside _ rfl, fun _ _ hg => hg⟩

/-- With more fuel a call may go where it went with less. -/
theorem Contract.Calls.more {mode : Mode} {fuel more : Nat} {s : Situation} {frame : Frame}
    {phrase : Nonterminal} {post : Node → Situation → Prop}
    (h : (Contract.onward mode).Calls fuel frame phrase s post) (le : fuel ≤ more) :
    (Contract.onward mode).Calls more frame phrase s post := by
  have needs {t : Situation} (ht : t.Affords fuel (phrase.cost t)) :
      t.Affords more (phrase.cost t) :=
    ⟨ht.1, Nat.le_trans ht.2 le⟩
  simp only [Calls] at h ⊢
  cases frame with
  | same => exact ⟨needs h.1, h.2⟩
  | chain => exact ⟨needs h.1, h.2⟩
  | functionBody => exact ⟨needs h.1, h.2⟩
  | nested =>
      simp only at h ⊢
      split
      · rename_i deep
        rwa [if_pos deep] at h
      · rename_i deep
        rw [if_neg deep] at h
        exact ⟨needs h.1, h.2⟩

/-- Two parsers that agree on what a call can afford are called alike. -/
theorem Contract.Calls.call_eq {σ : Type} {setting : Setting σ} {mode : Mode} {fuel : Nat}
    {frame : Frame} {phrase : Nonterminal} {p : Progress σ} {post : Node → Situation → Prop}
    {parse parse' : Nonterminal → Progress σ → Outcome σ Node}
    (h : (Contract.onward mode).Calls fuel frame phrase p.situation post)
    (same : ∀ phrase p, p.situation.Affords fuel (phrase.cost p.situation) →
      parse phrase p = parse' phrase p) :
    p.call setting parse frame phrase = p.call setting parse' frame phrase := by
  simp only [Calls] at h
  simp only [Progress.call]
  cases frame with
  | same => exact same phrase p h.1
  | chain => exact congrArg (Outcome.adjust · _) (same phrase p h.1)
  | functionBody => exact congrArg (Outcome.adjust · _) (same phrase { p with situation := _ } h.1)
  | nested =>
      simp only at h ⊢
      split
      · rfl
      · rename_i deep
        rw [if_neg deep] at h
        exact congrArg (Outcome.adjust · _) (same phrase { p with situation := _ } h.1)

/-- A parse that ends well satisfies what it was to end with. -/
theorem Outcome.Ends.satisfies {σ α : Type} {mode : Mode} {overruns : Prop} {o : Outcome σ α}
    {post : α → Situation → Prop} (h : o.Ends mode overruns post) :
    o.Satisfies fun a p => post a p.situation := by
  cases o with
  | done a p => exact h
  | stopped why p => trivial

/-- Behind a run, what follows may be exchanged for what does the same there. -/
theorem Outcome.Satisfies.andThen_congr {σ α β : Type} {o : Outcome σ α}
    {between : α → Progress σ → Prop} {f g : α → Progress σ → Outcome σ β}
    (h : o.Satisfies between) (same : ∀ a p, between a p → f a p = g a p) :
    o.andThen f = o.andThen g := by
  cases o with
  | done a p => exact same a p h
  | stopped why p => rfl

namespace Rule

variable {α β γ : Type}

/-- A round of a loop has led here, by a token if the loop goes on. -/
def Turned (s : Situation) : Turn α β → Situation → Prop
  | .again _, t => s.Leads t ∧ s.consumed < t.consumed
  | .leave _, t => s.Leads t

/-- What is to hold behind a round that goes on, and behind one that leaves. -/
def Turn.Keeps (inv : α → Situation → Prop) (between : β → Situation → Prop) :
    Turn α β → Situation → Prop
  | .again a, t => inv a t
  | .leave b, t => between b t

/-- Every way through the rule from a situation ends with the property; on the
    way each nonterminal that is called measures at most the bound, and each
    loop that goes round again took a token. -/
inductive Descends (mode : Mode) (bound : Nat) :
    {α : Type} → Rule α → Situation → (α → Situation → Prop) → Prop where
  | done {α : Type} {a : α} {s : Situation} {post : α → Situation → Prop} (h : post a s) :
      Descends mode bound (.done a) s post
  | look {α : Type} {next : Situation → Rule α} {s : Situation}
      {post : α → Situation → Prop} (h : Descends mode bound (next s) s post) :
      Descends mode bound (.look next) s post
  | take {α : Type} {next : Token → Rule α} {s : Situation} {post : α → Situation → Prop}
      (h : Descends mode bound (next s.token) s.taken post) :
      Descends mode bound (.take next) s post
  | openAt {α : Type} {start : Nat} {next : List Comment → Rule α} {s : Situation}
      {post : α → Situation → Prop} (h : ∀ comments, Descends mode bound (next comments) s post) :
      Descends mode bound (.openAt start next) s post
  | close {α : Type} {node : Node} {next : Node → Rule α} {s : Situation}
      {post : α → Situation → Prop} (h : ∀ n, Descends mode bound (next n) s post) :
      Descends mode bound (.close node next) s post
  | complain {α : Type} {span : Span} {fault : Fault} {next : Rule α} {s : Situation}
      {post : α → Situation → Prop} (h : mode = .loose → Descends mode bound next s post) :
      Descends mode bound (.complain span fault next) s post
  | deepen {α : Type} {next : Bool → Rule α} {s : Situation} {post : α → Situation → Prop}
      {between : Bool → Situation → Prop} (h : (Contract.onward mode).Deepens s between)
      (k : ∀ ok t, between ok t → Descends mode bound (next ok) t post) :
      Descends mode bound (.deepen next) s post
  | call {α : Type} {frame : Frame} {phrase : Nonterminal} {next : Node → Rule α}
      {s : Situation} {post : α → Situation → Prop} {between : Node → Situation → Prop}
      (h : (Contract.onward mode).Calls bound frame phrase s between)
      (k : ∀ n t, between n t → Descends mode bound (next n) t post) :
      Descends mode bound (.call frame phrase next) s post
  | loop {α β γ : Type} {step : β → Rule (Turn β γ)} {b : β} {next : γ → Rule α}
      {s : Situation} {post : α → Situation → Prop} (inv : β → Situation → Prop)
      (between : γ → Situation → Prop) (paid : s.Affords bound 1) (start : inv b s)
      (turn : ∀ b t, inv b t → Descends mode bound (step b) t fun turn u =>
        Turned t turn u ∧ turn.Keeps inv between u)
      (k : ∀ c t, between c t → Descends mode bound (next c) t post) :
      Descends mode bound ((Rule.loop b step).bind next) s post

namespace Descends

variable {mode : Mode} {bound : Nat} {s : Situation} {post : α → Situation → Prop}

/-- What is met may be weakened. -/
theorem mono {r : Rule α} {weaker : α → Situation → Prop} (h : r.Descends mode bound s post)
    (imp : ∀ a t, post a t → weaker a t) : r.Descends mode bound s weaker := by
  induction h with
  | done h => exact .done (imp _ _ h)
  | look h ih => exact .look (ih imp)
  | take h ih => exact .take (ih imp)
  | openAt h ih => exact .openAt fun comments => ih comments imp
  | close h ih => exact .close fun n => ih n imp
  | complain h ih => exact .complain fun hm => ih hm imp
  | deepen h k ih => exact .deepen h fun ok t ht => ih ok t ht imp
  | call h k ih => exact .call h fun n t ht => ih n t ht imp
  | loop inv between paid start turn k _ ih =>
      exact .loop inv between paid start turn fun c t ht => ih c t ht imp

/-- A rule, and what follows it from wherever it stops. -/
theorem bind {r : Rule β} {f : β → Rule α} {between : β → Situation → Prop}
    (h : r.Descends mode bound s between)
    (k : ∀ b t, between b t → (f b).Descends mode bound t post) :
    (r >>= f).Descends mode bound s post := by
  show (r.bind f).Descends mode bound s post
  induction h with
  | done h => exact k _ _ h
  | look h ih => exact .look (ih k)
  | take h ih => exact .take (ih k)
  | openAt h ih => exact .openAt fun comments => ih comments k
  | close h ih => exact .close fun n => ih n k
  | complain h ih => exact .complain fun hm => ih hm k
  | deepen h _ ih => exact .deepen h fun ok t ht => ih ok t ht k
  | call h _ ih => exact .call h fun n t ht => ih n t ht k
  | loop inv stop paid start turn _ _ ih =>
      rw [bind_assoc]
      exact .loop inv stop paid start turn fun c t ht => ih c t ht k

/-- A loop that keeps an invariant while it takes tokens, and leaves with the
    property. -/
theorem rounds {step : β → Rule (Turn β α)} {b : β} (inv : β → Situation → Prop)
    (paid : s.Affords bound 1) (start : inv b s)
    (turn : ∀ b t, inv b t → (step b).Descends mode bound t fun turn u =>
      Turned t turn u ∧ turn.Keeps inv post u) :
    (Rule.loop b step).Descends mode bound s post :=
  bind_done (Rule.loop b step) ▸ .loop inv post paid start turn fun _ _ h => .done h

end Descends

/-- A call that the bound affords leads on. -/
theorem descends_call {mode : Mode} {bound : Nat} {s : Situation} {frame : Frame}
    {phrase : Nonterminal} (h : s.Affords bound (phrase.cost s)) :
    (Rule.call frame phrase .done).Descends mode bound s fun _ t => s.Leads t :=
  .call (Contract.calls_onward h) fun _ _ ht => .done ht

/-- A rule that looks at the token first goes on with it. -/
theorem descends_token {mode : Mode} {bound : Nat} {s : Situation} {f : Token → Rule α}
    {post : α → Situation → Prop} (h : (f s.token).Descends mode bound s post) :
    (Grammar.token >>= f).Descends mode bound s post :=
  .look h

/-! ## Running what descends -/

section Running

variable {σ : Type} {mode : Mode} {bound fuel fuel' : Nat} {s : Situation}
  {post : α → Situation → Prop} {setting : Setting σ}
  {parse parse' : Nonterminal → Progress σ → Outcome σ Node}

/-- With fuel at or above the bound, a rule that descends meets what it ends
    with. -/
theorem Descends.meets {r : Rule α} (h : r.Descends mode bound s post) (le : bound ≤ fuel) :
    r.Meets (.onward mode) fuel s post := by
  induction h with
  | done h => exact h
  | look _ ih => exact ih
  | take _ ih => exact ih
  | openAt _ ih => exact ih
  | close _ ih => exact fun comments => ih _
  | complain _ ih => exact ih
  | deepen h _ ih => exact h.mono ih
  | call h _ ih => exact (h.more le).mono ih
  | loop inv between paid start _ _ turned ih =>
      -- The fuel affords more rounds than there are lexemes left to take.
      refine meets_bind.mpr (Meets.iterate inv start (fun b t ht => ?_) ?_)
      · refine (turned b t ht).mono fun turn u hu => ?_
        cases turn with
        | again b' =>
            refine ⟨hu.2, ?_⟩
            have := hu.1.1.remaining_add
            have := hu.1.2
            omega
        | leave c => exact ih c u hu.2
      · have := paid.2
        omega

/-- What a rule descends below a bound for does not depend on the fuel. -/
theorem Descends.run_eq {r : Rule α} (h : r.Descends setting.mode bound s post)
    (le : bound ≤ fuel) (le' : bound ≤ fuel')
    (kept : (Contract.onward setting.mode).KeptBy fuel parse)
    (same : ∀ phrase p, p.situation.Affords bound (phrase.cost p.situation) →
      parse phrase p = parse' phrase p)
    {p : Progress σ} (here : p.situation = s) :
    r.run setting fuel parse p = r.run setting fuel' parse' p := by
  induction h generalizing p with
  | done _ => rfl
  | look _ ih =>
      subst here
      exact ih rfl
  | take _ ih =>
      subst here
      refine (Progress.take_satisfies p).andThen_congr fun t q hq => ?_
      obtain ⟨rfl, rfl⟩ := hq
      exact ih (Progress.situation_taken p)
  | openAt _ ih => exact ih _ here
  | close _ ih => exact ih _ here
  | complain _ ih =>
      refine (Progress.complain_satisfies _ _ p).andThen_congr fun _ q hq => ?_
      obtain ⟨loose, rfl⟩ := hq
      exact ih loose here
  | deepen h _ ih =>
      subst here
      exact (h.ends rfl).satisfies.andThen_congr fun ok q hq => ih ok _ hq rfl
  | call h _ ih =>
      subst here
      simp only [run, ← h.call_eq same]
      exact ((h.more le).ends rfl kept).satisfies.andThen_congr fun n q hq => ih n _ hq rfl
  | @loop _ _ _ step b next s post inv between paid start turn _ turned ih =>
      -- As long as there are rounds enough it does not matter how many there are.
      have go (n : Nat) : ∀ n' b t, inv b t → t.remaining < n → t.remaining < n' →
          ∀ p : Progress σ, p.situation = t →
            ((iterate step n b).bind next).run setting fuel parse p =
              ((iterate step n' b).bind next).run setting fuel' parse' p := by
        induction n with
        | zero => exact fun _ _ _ _ lt => absurd lt (Nat.not_lt_zero _)
        | succ n round =>
            intro n' b t ht lt lt' p hp
            cases n' with
            | zero => exact absurd lt' (Nat.not_lt_zero _)
            | succ n' =>
                subst hp
                simp only [iterate, bind_assoc]
                refine run_bind.trans (Eq.trans ?_ run_bind.symm)
                rw [← turned b _ ht rfl]
                have ends := ((turn b _ ht).meets le).ends (rfl : setting.mode = _) kept
                refine ends.satisfies.andThen_congr fun turn q hq => ?_
                cases turn with
                | again b' =>
                    have := hq.1.1.remaining_add
                    have := hq.1.2
                    exact round n' b' _ hq.2 (by omega) (by omega) q rfl
                | leave c => exact ih c _ hq.2 rfl
      have := paid.2
      exact go fuel fuel' b s start (by omega) (by omega) p here

end Running

end Rule

end ScriptTree

import ScriptTree.Proofs.Grammar.Rejection

/-! # Levels — what is opened is closed again

    A parse counts the nesting levels that are open, and it knows whether a `return` may
    stand where it is.  Both are changed by the frames in which phrases are called, which
    give them back behind the phrase, and the levels also by chains, which open one for each
    node they wrap and are called in a frame of their own.

    A rule is FRAMED if it goes by that: it opens no level by itself unless it is a chain,
    and calls chains in their frame only.  `Rule.Framed.resumes` says what this does to a
    run, whether it ends with a value or stops: levels and flag are as before.  And on the
    way, at each place of its TRAIL, no level is closed that it found open, and none is
    opened above the limit (`Rule.Framed.trail_within`). -/

namespace ScriptTree

variable {σ α β : Type}

/-! ## Where a parse comes by -/

/-- The places that are passed behind an outcome: where a parse stopped, no others are. -/
def Outcome.follow (o : Outcome σ α) (f : α → Progress σ → List (Progress σ)) :
    List (Progress σ) :=
  match o with
  | .done a p => f a p
  | .stopped _ p => [p]

/-- The places that a phrase passes in its frame.  In place of one that is nested too deep a
    token is skipped. -/
def Progress.inside (within : Nonterminal → Progress σ → List (Progress σ)) (frame : Frame)
    (phrase : Nonterminal) (p : Progress σ) : List (Progress σ) :=
  match frame with
  | .same => within phrase p
  | .chain => within phrase p
  | .functionBody => within phrase { p with situation := { p.situation with inFunction := true } }
  | .nested =>
    if p.situation.depth ≥ nestingLimit then []
    else within phrase { p with situation := { p.situation with depth := p.situation.depth + 1 } }

/-- The places that a run of a rule passes, from the first to the last: in front of each of
    its steps, within the phrases it calls, and where it ends. -/
def Rule.trail (setting : Setting σ) (fuel : Nat)
    (parse : Nonterminal → Progress σ → Outcome σ Node)
    (within : Nonterminal → Progress σ → List (Progress σ)) {α : Type} :
    Rule α → Progress σ → List (Progress σ)
  | .done _, p => [p]
  | .look next, p => p :: (next p.situation).trail setting fuel parse within p
  | .take next, p =>
    p :: (p.take setting).follow fun t q => (next t).trail setting fuel parse within q
  | .openAt start next, p =>
    let answer := setting.observer.opened start p.observed
    p :: (next answer.1).trail setting fuel parse within { p with observed := answer.2 }
  | .close node next, p =>
    let answer := setting.observer.closed node p.observed
    p :: (next { node with trailingComments := node.trailingComments ++ answer.1 }).trail setting
      fuel parse within { p with observed := answer.2 }
  | .complain span fault next, p =>
    p :: (p.complain setting span fault).follow fun _ q => next.trail setting fuel parse within q
  | .deepen next, p =>
    p :: (p.deepen setting).follow fun ok q => (next ok).trail setting fuel parse within q
  | .call frame phrase next, p =>
    p :: (p.inside within frame phrase ++ (p.call setting parse frame phrase).follow fun n q =>
      (next n).trail setting fuel parse within q)
  | .budget next, p => p :: (next fuel).trail setting fuel parse within p
  | .overrun, p => [p]

/-- The places that the parse of a nonterminal passes with so much fuel. -/
def trail (setting : Setting σ) : Nat → Nonterminal → Progress σ → List (Progress σ)
  | 0, _, p => [p]
  | fuel + 1, phrase, p =>
    phrase.rule.trail setting fuel (derive setting fuel) (trail setting fuel) p

/-- Where the second parse ends is among the places that are followed through the first. -/
theorem Outcome.ending_mem_follow {o : Outcome σ α} {f : α → Progress σ → Outcome σ β}
    {g : α → Progress σ → List (Progress σ)} (h : ∀ a q, (f a q).ending ∈ g a q) :
    (o.andThen f).ending ∈ o.follow g := by
  cases o with
  | done a q => exact h a q
  | stopped why q => exact List.mem_singleton_self q

namespace Rule

variable {r : Rule α} {p : Progress σ} {setting : Setting σ} {fuel : Nat}
  {parse : Nonterminal → Progress σ → Outcome σ Node}
  {within : Nonterminal → Progress σ → List (Progress σ)}

/-- A parse comes by the place where it starts. -/
theorem start_mem_trail : p ∈ r.trail setting fuel parse within p := by
  cases r <;> exact List.mem_cons_self

/-- It comes by the place where it ends. -/
theorem ending_mem_trail :
    (r.run setting fuel parse p).ending ∈ r.trail setting fuel parse within p := by
  induction r generalizing p with
  | done a => exact List.mem_singleton_self p
  | look next ih => exact List.mem_cons_of_mem _ (ih _)
  | take next ih => exact List.mem_cons_of_mem _ (Outcome.ending_mem_follow fun t _ => ih t)
  | openAt start next ih => exact List.mem_cons_of_mem _ (ih _)
  | close node next ih => exact List.mem_cons_of_mem _ (ih _)
  | complain span fault next ih =>
      exact List.mem_cons_of_mem _ (Outcome.ending_mem_follow fun _ _ => ih)
  | deepen next ih => exact List.mem_cons_of_mem _ (Outcome.ending_mem_follow fun ok _ => ih ok)
  | call frame phrase next ih =>
      exact List.mem_cons_of_mem _
        (List.mem_append_right _ (Outcome.ending_mem_follow fun n _ => ih n))
  | budget next ih => exact List.mem_cons_of_mem _ (ih _)
  | overrun => exact List.mem_singleton_self p

end Rule

/-! ## Framed rules -/

/-- The phrase opens levels that its caller has to close. -/
def Nonterminal.isChain : Nonterminal → Bool
  | .operators .. => true
  | .subscripts .. => true
  | _ => false

/-- The rule opens levels by itself only if it is a chain, and calls chains in the frame that
    closes their levels.  And it leaves it to frames and chains to complain of too many levels,
    unless it `blames` them. -/
def Rule.Framed (chained blames : Bool) {α : Type} : Rule α → Prop
  | .done _ => True
  | .look next => ∀ s, (next s).Framed chained blames
  | .take next => ∀ t, (next t).Framed chained blames
  | .openAt _ next => ∀ comments, (next comments).Framed chained blames
  | .close _ next => ∀ n, (next n).Framed chained blames
  | .complain _ fault next =>
    (fault = .nestingTooDeep → blames = true) ∧ next.Framed chained blames
  | .deepen next => chained = true ∧ ∀ ok, (next ok).Framed chained blames
  | .call frame phrase next =>
    (phrase.isChain = true → frame = .chain) ∧ ∀ n, (next n).Framed chained blames
  | .budget next => ∀ rounds, (next rounds).Framed chained blames
  | .overrun => True

namespace Rule.Framed

variable {chained blames : Bool} {r : Rule α} {f : α → Rule β}

/-- Ending with a value opens nothing. -/
theorem pure (a : α) : (Pure.pure a : Rule α).Framed chained blames := trivial

/-- A rule, and what follows it. -/
theorem bind (h : r.Framed chained blames) (k : ∀ a, (f a).Framed chained blames) :
    (r >>= f).Framed chained blames := by
  show (r.bind f).Framed chained blames
  induction r with
  | done a => exact k a
  | look next ih => exact fun s => ih s (h s)
  | take next ih => exact fun t => ih t (h t)
  | openAt start next ih => exact fun comments => ih comments (h comments)
  | close node next ih => exact fun n => ih n (h n)
  | complain span fault next ih => exact ⟨h.1, ih h.2⟩
  | deepen next ih => exact ⟨h.1, fun ok => ih ok (h.2 ok)⟩
  | call frame phrase next ih => exact ⟨h.1, fun n => ih n (h.2 n)⟩
  | budget next ih => exact fun rounds => ih rounds (h rounds)
  | overrun => trivial

/-- Both ways on are framed, so the choice is. -/
theorem ite {b : Prop} [Decidable b] {yes no : Rule α} (h : yes.Framed chained blames)
    (k : no.Framed chained blames) : (if b then yes else no).Framed chained blames := by
  split
  · exact h
  · exact k

/-- A loop is framed if its rounds are. -/
theorem loop {step : α → Rule (Turn α β)} {a : α} (h : ∀ a, (step a).Framed chained blames) :
    (Rule.loop a step).Framed chained blames := by
  intro rounds
  induction rounds generalizing a with
  | zero => trivial
  | succ rounds ih =>
      refine bind (h a) fun turn => ?_
      cases turn with
      | again a => exact ih
      | leave b => trivial

/-- A phrase that is no chain may be called in any frame. -/
theorem call {frame : Frame} {phrase : Nonterminal} (plain : phrase.isChain = false) :
    (Rule.call frame phrase .done).Framed chained blames :=
  ⟨fun chain => absurd (plain.symm.trans chain) Bool.false_ne_true, fun _ => trivial⟩

end Rule.Framed

/-! ## What frames give back -/

/-- The level is as before, or a chain has raised it below the limit, and so is what stands
    around.  The parse has gone on in the same stream. -/
structure Situation.Resumes (chained : Bool) (s t : Situation) : Prop where
  inFunction : t.inFunction = s.inFunction
  opened : s.depth ≤ t.depth
  limited : t.depth ≤ nestingLimit
  level : chained = false → t.depth = s.depth
  upcoming : t.upcoming <:+ s.upcoming

/-- No level is closed that was open at `s`, and none is opened above the limit. -/
def Situation.Within (s t : Situation) : Prop := s.depth ≤ t.depth ∧ t.depth ≤ nestingLimit

namespace Situation.Resumes

variable {chained : Bool} {s t u : Situation}

/-- A parse that has closed what it opened resumes the situation, as a chain or not. -/
theorem of_level (limited : s.depth ≤ nestingLimit) (depth : t.depth = s.depth)
    (inFunction : t.inFunction = s.inFunction) (upcoming : t.upcoming <:+ s.upcoming) :
    s.Resumes chained t :=
  ⟨inFunction, Nat.le_of_eq depth.symm, depth ▸ limited, fun _ => depth, upcoming⟩

/-- Nothing has happened yet. -/
theorem refl (limited : s.depth ≤ nestingLimit) : s.Resumes chained s :=
  .of_level limited rfl rfl (List.suffix_refl _)

/-- Resuming is transitive; a chain behind a chain is one chain. -/
theorem trans (h : s.Resumes chained t) (k : t.Resumes chained u) : s.Resumes chained u where
  inFunction := k.inFunction.trans h.inFunction
  opened := Nat.le_trans h.opened k.opened
  limited := k.limited
  level plain := (k.level plain).trans (h.level plain)
  upcoming := k.upcoming.trans h.upcoming

/-- What is at the same level again is so for chains as well. -/
theorem weaken (h : s.Resumes false t) : s.Resumes chained t :=
  ⟨h.inFunction, h.opened, h.limited, fun _ => h.level rfl, h.upcoming⟩

/-- What resumes the situation has not gone below its level. -/
theorem within (h : s.Resumes chained t) : s.Within t := ⟨h.opened, h.limited⟩

end Situation.Resumes

/-- A deeper situation is within, and what is within that one. -/
theorem Situation.Within.trans {s t u : Situation} (le : s.depth ≤ t.depth) (h : t.Within u) :
    s.Within u :=
  ⟨Nat.le_trans le h.1, h.2⟩

namespace Outcome

variable {chained : Bool} {s : Situation} {o : Outcome σ α}

/-- What goes on behind an outcome resumes what the outcome resumes. -/
theorem resumes_andThen {f : α → Progress σ → Outcome σ β}
    (h : s.Resumes chained o.ending.situation)
    (k : ∀ a (q : Progress σ), q.situation.depth ≤ nestingLimit →
      q.situation.Resumes chained (f a q).ending.situation) :
    s.Resumes chained (o.andThen f).ending.situation := by
  cases o with
  | done a q => exact h.trans (k a q h.limited)
  | stopped why q => exact h

/-- What is followed through a parse stays within where the parse started. -/
theorem within_follow {f : α → Progress σ → List (Progress σ)}
    (h : s.Resumes chained o.ending.situation)
    (k : ∀ a (q : Progress σ), q.situation.depth ≤ nestingLimit →
      ∀ t ∈ f a q, q.situation.Within t.situation) :
    ∀ t ∈ o.follow f, s.Within t.situation := by
  cases o with
  | done a q => exact fun t ht => (k a q h.limited t ht).trans h.opened
  | stopped why q =>
      intro t ht
      obtain rfl := List.mem_singleton.mp ht
      exact h.within

end Outcome

namespace Progress

variable {setting : Setting σ} {p : Progress σ}

/-- Reading the next lexeme does not touch the levels. -/
theorem advance_resumes (setting : Setting σ) (limited : p.situation.depth ≤ nestingLimit) :
    p.situation.Resumes false (p.advance setting).ending.situation := by
  rw [advance]
  split
  · exact .refl limited
  · rename_i next rest upcoming
    rw [situation_passDiagnostics]
    exact .of_level limited rfl rfl (upcoming ▸ List.suffix_cons next rest)

/-- Taking a token does not touch them. -/
theorem take_resumes (setting : Setting σ) (limited : p.situation.depth ≤ nestingLimit) :
    p.situation.Resumes false (p.take setting).ending.situation := by
  rw [take]
  simp only
  split
  · exact .refl limited
  · let taken : Progress σ :=
      { situation :=
          { p.situation with
            previousEnd := p.situation.token.span.stop
            consumed := p.situation.consumed + 1 }
        observed := setting.observer.token p.situation.token p.observed }
    have onward : taken.situation.Resumes false (taken.advance setting).ending.situation :=
      advance_resumes setting limited
    have here : p.situation.Resumes false taken.situation :=
      .of_level limited rfl rfl (List.suffix_refl _)
    exact Outcome.resumes_andThen (here.trans onward) fun _ q limited => .refl limited

/-- Complaining does not touch them. -/
theorem complain_resumes (limited : p.situation.depth ≤ nestingLimit) (span : Span)
    (fault : Fault) :
    p.situation.Resumes false (p.complain setting span fault).ending.situation := by
  rw [situation_complain]
  exact .refl limited

/-- A level more is still below the limit. -/
theorem deepen_resumes (limited : p.situation.depth ≤ nestingLimit) :
    p.situation.Resumes true (p.deepen setting).ending.situation := by
  rw [deepen]
  split
  · exact Outcome.resumes_andThen (complain_resumes limited _ _).weaken
      fun _ q limited => .refl limited
  · rename_i allowed
    exact ⟨rfl, Nat.le_succ _, Nat.lt_of_not_le allowed, fun none => absurd none (by decide),
      List.suffix_refl _⟩

/-- The parse of every phrase gives back what it found, but for the levels of a chain. -/
def LeveledBy (parse : Nonterminal → Progress σ → Outcome σ Node) : Prop :=
  ∀ phrase (p : Progress σ), p.situation.depth ≤ nestingLimit →
    p.situation.Resumes phrase.isChain (parse phrase p).ending.situation

variable {parse : Nonterminal → Progress σ → Outcome σ Node} {frame : Frame}
  {phrase : Nonterminal}

/-- Behind a frame everything is as before. -/
theorem call_resumes (setting : Setting σ) (leveled : LeveledBy parse)
    (limited : p.situation.depth ≤ nestingLimit) (framed : phrase.isChain = true → frame = .chain) :
    p.situation.Resumes false (p.call setting parse frame phrase).ending.situation := by
  have plain (other : frame ≠ .chain) : phrase.isChain = false :=
    Bool.eq_false_iff.mpr fun chain => other (framed chain)
  cases frame with
  | same => exact plain (by decide) ▸ leveled phrase p limited
  | chain =>
      simp only [call, Outcome.situation_adjust]
      have chain := leveled phrase p limited
      exact .of_level limited rfl chain.inFunction chain.upcoming
  | functionBody =>
      have body := leveled phrase
        { p with situation := { p.situation with inFunction := true } } limited
      rw [plain (by decide)] at body
      simp only [call, Outcome.situation_adjust]
      exact .of_level limited (body.level rfl) rfl body.upcoming
  | nested =>
      simp only [call]
      split
      · refine Outcome.resumes_andThen (complain_resumes limited _ _) fun _ q limited => ?_
        exact Outcome.resumes_andThen (take_resumes setting limited)
          fun _ r limited => .refl limited
      · rename_i allowed
        have body := leveled phrase
          { p with situation := { p.situation with depth := p.situation.depth + 1 } }
          (Nat.lt_of_not_le allowed)
        rw [plain (by decide)] at body
        simp only [Outcome.situation_adjust]
        -- The phrase has left its level open, so closing it leads back.
        have level := body.level rfl
        refine .of_level limited ?_ body.inFunction body.upcoming
        simp only [level, Nat.add_sub_cancel]

/-- The places inside of a call are one level deeper at most, so they are within the caller. -/
theorem inside_within {within : Nonterminal → Progress σ → List (Progress σ)}
    (limited : p.situation.depth ≤ nestingLimit)
    (h : ∀ phrase (p : Progress σ), p.situation.depth ≤ nestingLimit →
      ∀ q ∈ within phrase p, p.situation.Within q.situation) :
    ∀ q ∈ p.inside within frame phrase, p.situation.Within q.situation := by
  cases frame with
  | same => exact h phrase p limited
  | chain => exact h phrase p limited
  | functionBody =>
      exact h phrase { p with situation := { p.situation with inFunction := true } } limited
  | nested =>
      simp only [inside]
      split
      · exact fun q hq => absurd hq List.not_mem_nil
      · rename_i allowed
        exact fun q hq => (h phrase
          { p with situation := { p.situation with depth := p.situation.depth + 1 } }
          (Nat.lt_of_not_le allowed) q hq).trans (Nat.le_succ _)

end Progress

namespace Rule.Framed

variable {chained blames : Bool} {r : Rule α} {p : Progress σ} {setting : Setting σ} {fuel : Nat}
  {parse : Nonterminal → Progress σ → Outcome σ Node}

open Outcome in
/-- WHAT IS OPENED IS CLOSED: a run of a framed rule ends at the level where it began,
    however it ends, if the phrases it calls do. -/
theorem resumes (h : r.Framed chained blames) (setting : Setting σ) (fuel : Nat)
    (leveled : Progress.LeveledBy parse) (limited : p.situation.depth ≤ nestingLimit) :
    p.situation.Resumes chained (r.run setting fuel parse p).ending.situation := by
  induction r generalizing p with
  | done a => exact .refl limited
  | look next ih => exact ih _ (h _) limited
  | take next ih =>
      exact resumes_andThen (Progress.take_resumes setting limited).weaken
        fun t q limited => ih t (h t) limited
  | openAt start next ih =>
      let answer := setting.observer.opened start p.observed
      exact ih _ (h answer.1) (p := ⟨p.situation, answer.2⟩) limited
  | close node next ih =>
      let answer := setting.observer.closed node p.observed
      exact ih _ (h _) (p := ⟨p.situation, answer.2⟩) limited
  | complain span fault next ih =>
      exact resumes_andThen (Progress.complain_resumes limited _ _).weaken
        fun _ q limited => ih h.2 limited
  -- Only a chain may open levels, and that is what the flag of framed rules says.
  | deepen next ih =>
      obtain ⟨rfl, h⟩ := h
      exact resumes_andThen (Progress.deepen_resumes limited)
        fun ok q limited => ih ok (h ok) limited
  | call frame phrase next ih =>
      exact resumes_andThen (Progress.call_resumes setting leveled limited h.1).weaken
        fun n q limited => ih n (h.2 n) limited
  | budget next ih => exact ih _ (h _) limited
  | overrun => exact .refl limited

open Outcome in
/-- On the way no level is closed that was open before, and the limit is kept. -/
theorem trail_within {within : Nonterminal → Progress σ → List (Progress σ)}
    (h : r.Framed chained blames) (leveled : Progress.LeveledBy parse)
    (inner : ∀ phrase (p : Progress σ), p.situation.depth ≤ nestingLimit →
      ∀ q ∈ within phrase p, p.situation.Within q.situation)
    (limited : p.situation.depth ≤ nestingLimit) :
    ∀ q ∈ r.trail setting fuel parse within p, p.situation.Within q.situation := by
  have here : p.situation.Within p.situation := ⟨Nat.le_refl _, limited⟩
  induction r generalizing p with
  | done a => exact List.forall_mem_singleton.mpr here
  | look next ih => exact List.forall_mem_cons.mpr ⟨here, ih _ (h _) limited here⟩
  | take next ih =>
      refine List.forall_mem_cons.mpr ⟨here, ?_⟩
      exact within_follow (Progress.take_resumes setting limited)
        fun t q limited => ih t (h t) limited ⟨Nat.le_refl _, limited⟩
  | openAt start next ih =>
      exact List.forall_mem_cons.mpr ⟨here, ih _ (h _) (p := ⟨p.situation, _⟩) limited here⟩
  | close node next ih =>
      exact List.forall_mem_cons.mpr ⟨here, ih _ (h _) (p := ⟨p.situation, _⟩) limited here⟩
  | complain span fault next ih =>
      refine List.forall_mem_cons.mpr ⟨here, ?_⟩
      exact within_follow (Progress.complain_resumes limited _ _)
        fun _ q limited => ih h.2 limited ⟨Nat.le_refl _, limited⟩
  | deepen next ih =>
      refine List.forall_mem_cons.mpr ⟨here, ?_⟩
      exact within_follow (Progress.deepen_resumes limited)
        fun ok q limited => ih ok (h.2 ok) limited ⟨Nat.le_refl _, limited⟩
  | call frame phrase next ih =>
      -- The places inside of a call come first, then those behind it.
      refine List.forall_mem_cons.mpr ⟨here, List.forall_mem_append.mpr ⟨?_, ?_⟩⟩
      · exact Progress.inside_within limited inner
      · exact within_follow (Progress.call_resumes setting leveled limited h.1)
          fun n q limited => ih n (h.2 n) limited ⟨Nat.le_refl _, limited⟩
  | budget next ih => exact List.forall_mem_cons.mpr ⟨here, ih _ (h _) limited here⟩
  | overrun => exact List.forall_mem_singleton.mpr here

end Rule.Framed

end ScriptTree

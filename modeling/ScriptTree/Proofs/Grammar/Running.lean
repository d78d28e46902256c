import ScriptTree.Grammar.Program
import ScriptTree.Proofs.Grammar.Position

/-! # Running — what a finished run has done

    A run may stop early.  One that ends with a value has passed every step of
    the rule on its way, and then it is known what each step did: `Satisfies`
    states a property of the value and of where the run ended, and asks nothing
    of runs that stopped.  Taking a token always leads to the same place,
    `Progress.taken`. -/

namespace ScriptTree

variable {σ α β : Type}

/-- Be told of the comments in front of a lexeme and of what was wrong on the
    way to it. -/
def Observer.pass (o : Observer σ) (lines : LineIndex) (l : Lexeme) (a : σ) : σ :=
  l.diagnostics.foldl (fun a d => o.error (d.locate lines) false a)
    (l.comments.foldl (fun a c => o.comment c a) a)

/-- A parse that ends with a value ends with the property. -/
def Outcome.Satisfies (post : α → Progress σ → Prop) : Outcome σ α → Prop
  | .done a p => post a p
  | .stopped _ _ => True

namespace Outcome.Satisfies

variable {o : Outcome σ α} {f : α → Progress σ → Outcome σ β} {post : β → Progress σ → Prop}
  {between stronger weaker : α → Progress σ → Prop}

/-- What satisfies more satisfies less. -/
theorem mono (h : o.Satisfies stronger) (imp : ∀ a p, stronger a p → weaker a p) :
    o.Satisfies weaker := by
  cases o with
  | done a p => exact imp a p h
  | stopped why p => trivial

/-- What holds behind the first part is given to what follows. -/
theorem andThen (h : o.Satisfies between) (k : ∀ a p, between a p → (f a p).Satisfies post) :
    (o.andThen f).Satisfies post := by
  cases o with
  | done a p => exact k a p h
  | stopped why p => trivial

/-- Two properties hold together. -/
theorem both (h : o.Satisfies stronger) (k : o.Satisfies weaker) :
    o.Satisfies fun a p => stronger a p ∧ weaker a p := by
  cases o with
  | done a p => exact ⟨h, k⟩
  | stopped why p => trivial

/-- A value may be handed on. -/
theorem done (h : o.Satisfies between) :
    (o.andThen fun a p => .done a p).Satisfies between :=
  h.andThen fun _ _ h => h

/-- Moving the situation. -/
theorem adjust {move : Situation → Situation}
    (h : o.Satisfies fun a p => between a { p with situation := move p.situation }) :
    (o.adjust move).Satisfies between := by
  cases o with
  | done a p => exact h
  | stopped why p => trivial

end Outcome.Satisfies

namespace Progress

variable {setting : Setting σ}

/-- Where a parse stands behind the current token; the end of input stays. -/
def taken (setting : Setting σ) (p : Progress σ) : Progress σ :=
  if p.situation.token.isEnd then p
  else
    let told := setting.observer.token p.situation.token p.observed
    ⟨p.situation.taken,
      match p.situation.upcoming with
      | [] => told
      | next :: _ => setting.observer.pass setting.lines next told⟩

/-- Taking a token moves the situation on. -/
theorem situation_taken (p : Progress σ) :
    (p.taken setting).situation = p.situation.taken := by
  rw [taken]
  split
  · rename_i ends
    rw [Situation.taken_of_isEnd ends]
  · rfl

/-- A token other than the end of input is counted. -/
theorem consumed_taken {p : Progress σ} (goes : p.situation.token.isEnd = false) :
    (p.taken setting).situation.consumed = p.situation.consumed + 1 := by
  rw [situation_taken, Situation.consumed_taken goes]

/-- No token is given back. -/
theorem consumed_le_taken (p : Progress σ) :
    p.situation.consumed ≤ (p.taken setting).situation.consumed := by
  rw [situation_taken, Situation.taken]
  split
  · exact Nat.le_refl _
  · exact Nat.le_succ _

/-- Passing diagnostics on changes what was observed, and nothing else. -/
theorem passDiagnostics_satisfies (diagnostics : List Diagnostic) (p : Progress σ) :
    (passDiagnostics setting diagnostics p).Satisfies fun _ q => q = { p with
      observed := diagnostics.foldl
        (fun a d => setting.observer.error (d.locate setting.lines) false a) p.observed } := by
  induction diagnostics generalizing p with
  | nil => rfl
  | cons d rest ih =>
      simp only [passDiagnostics]
      split
      · trivial
      · exact ih _

/-- Reading the next lexeme makes it the current one. -/
theorem advance_satisfies {p : Progress σ} {next : Lexeme} {rest : List Lexeme}
    (h : p.situation.upcoming = next :: rest) :
    (p.advance setting).Satisfies fun _ q =>
      q = ⟨{ p.situation with current := next, upcoming := rest },
        setting.observer.pass setting.lines next p.observed⟩ := by
  rw [advance]
  rw [h]
  exact passDiagnostics_satisfies _ _

/-- A token is taken and given. -/
theorem take_satisfies (p : Progress σ) : (p.take setting).Satisfies fun t q =>
    t = p.situation.token ∧ q = p.taken setting := by
  simp only [take, taken]
  split
  · exact ⟨rfl, rfl⟩
  · rename_i goes
    let told : Progress σ :=
      ⟨{ p.situation with
          previousEnd := p.situation.token.span.stop, consumed := p.situation.consumed + 1 },
        setting.observer.token p.situation.token p.observed⟩
    have behind : (told.advance setting).Satisfies fun _ q => q = ⟨p.situation.taken,
        match p.situation.upcoming with
        | [] => told.observed
        | next :: _ => setting.observer.pass setting.lines next told.observed⟩ := by
      cases upcoming : p.situation.upcoming with
      | nil =>
          have none : told.situation.upcoming = [] := upcoming
          rw [advance]
          rw [none]
          simp [Outcome.Satisfies, told, Situation.taken, goes, upcoming]
      | cons next rest =>
          refine (advance_satisfies (p := told) upcoming).mono fun _ q hq => ?_
          simp [hq, told, Situation.taken, goes, upcoming]
    exact behind.andThen fun _ q hq => ⟨rfl, hq⟩

/-- Only a loose parse goes on behind a complaint. -/
theorem complain_satisfies (span : Span) (fault : Fault) (p : Progress σ) :
    (p.complain setting span fault).Satisfies fun _ q => setting.mode = .loose ∧ q = p := by
  rw [complain]
  cases mode : setting.mode with
  | strict => trivial
  | loose => exact ⟨rfl, rfl⟩

/-- Close a node and learn it with the comments that trail it. -/
def closeAt (setting : Setting σ) (opened : Grammar.Opened) (shape : Shape Node) (stop : Nat)
    (p : Progress σ) : Node × Progress σ :=
  let node : Node := ⟨shape, ⟨opened.start, max stop opened.start⟩, opened.leading, []⟩
  let answer := setting.observer.closed node p.observed
  ({ node with trailingComments := answer.1 }, { p with observed := answer.2 })

end Progress

namespace Rule

variable {setting : Setting σ} {fuel : Nat} {parse : Nonterminal → Progress σ → Outcome σ Node}

/-- A rule behind another runs from where the other ended. -/
theorem run_bind {rule : Rule α} {f : α → Rule β} {p : Progress σ} :
    (rule >>= f).run setting fuel parse p =
      (rule.run setting fuel parse p).andThen fun a q => (f a).run setting fuel parse q := by
  have assoc {γ δ : Type} (o : Outcome σ γ) (g : γ → Progress σ → Outcome σ δ)
      (k : δ → Progress σ → Outcome σ β) :
      (o.andThen g).andThen k = o.andThen fun a p => (g a p).andThen k := by
    cases o <;> rfl
  show (rule.bind f).run setting fuel parse p = _
  induction rule generalizing p with
  | done a => rfl
  | look next ih => exact ih _
  | take next ih => simp only [Rule.bind, run, assoc, ih]
  | openAt start next ih => exact ih _
  | close node next ih => exact ih _
  | complain span fault next ih => simp only [Rule.bind, run, assoc, ih]
  | deepen next ih => simp only [Rule.bind, run, assoc, ih]
  | call frame phrase next ih => simp only [Rule.bind, run, assoc, ih]
  | budget next ih => exact ih _
  | overrun => rfl

end Rule

end ScriptTree

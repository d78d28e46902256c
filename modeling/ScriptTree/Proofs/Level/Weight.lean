import ScriptTree.Proofs.Fuel.Program
import ScriptTree.Proofs.Level.Rule
import ScriptTree.Proofs.Lexeme.Fault

/-! # Weights — levels cost tokens

    Every call of a phrase lowers what the phrase measures: eight for each token ahead, and
    its level in the grammar.  And every call opens one level at most.  So levels and measure
    together do not grow on the way from a phrase to one that is called within it, and a
    parse that is rejected for its many levels must have taken tokens to open them.

    A chain opens a level in each round without a call.  It pays with a token for each: that is
    why chains are followed round by round here. -/

namespace ScriptTree

variable {σ α β : Type}

open Rule (Turn)

/-! ## What a rejection weighs -/

/-- If the parse was rejected for too many levels, these and eight for each token that was
    still ahead are no more than the weight. -/
def Outcome.Sinks (weight : Nat) : Outcome σ α → Prop
  | .stopped (.rejected e) q =>
    e.fault = .nestingTooDeep → nestingLimit + 8 * q.situation.remaining ≤ weight
  | _ => True

namespace Outcome.Sinks

variable {o : Outcome σ α} {weight more : Nat}

/-- A greater weight bounds more. -/
theorem mono (h : o.Sinks weight) (le : weight ≤ more) : o.Sinks more := by
  rcases o with ⟨a, p⟩ | ⟨_ | _, p⟩
  · trivial
  · exact fun deep => Nat.le_trans (h deep) le
  · trivial

/-- A parse that has stopped has no value of any kind. -/
theorem stopped {why : Stop} {p : Progress σ} (h : (.stopped why p : Outcome σ α).Sinks weight) :
    (.stopped why p : Outcome σ β).Sinks weight := by
  cases why with
  | rejected e => exact h
  | outOfFuel => trivial

/-- If the first part cannot sink below the weight, it is enough that what follows cannot. -/
theorem andThen {f : α → Progress σ → Outcome σ β} (h : o.Sinks weight)
    (k : ∀ a q, o = .done a q → (f a q).Sinks weight) : (o.andThen f).Sinks weight := by
  rcases o with ⟨a, p⟩ | ⟨_ | _, p⟩
  · exact k a p rfl
  · exact h
  · trivial

/-- A frame does not move the parse. -/
theorem adjust {move : Situation → Situation} (h : o.Sinks weight)
    (upcoming : ∀ s, (move s).upcoming = s.upcoming) : (o.adjust move).Sinks weight := by
  rcases o with ⟨a, p⟩ | ⟨_ | _, p⟩
  · trivial
  · intro deep
    show nestingLimit + 8 * (move p.situation).upcoming.length ≤ weight
    rw [upcoming]
    exact h deep
  · trivial

end Outcome.Sinks

/-- The parse stands at a level from where a bound affords the tokens ahead, and what is
    reported of them was found while scanning. -/
structure Situation.Stands (bound depth : Nat) (s : Situation) : Prop where
  depth : s.depth = depth
  limited : s.depth ≤ nestingLimit
  near : 8 * s.remaining ≤ bound
  lexical : ∀ l ∈ s.upcoming, Diagnostic.Lexical l.diagnostics

/-- The parse goes on standing there. -/
theorem Situation.Stands.resumes {bound depth : Nat} {s t : Situation}
    (h : s.Stands bound depth) (k : s.Resumes false t) : t.Stands bound depth where
  depth := (k.level rfl).trans h.depth
  limited := k.limited
  near := Nat.le_trans (Nat.mul_le_mul_left 8 k.upcoming.length_le) h.near
  lexical l hl := h.lexical l (k.upcoming.subset hl)

/-- The levels that a phrase may come to where it starts, in tokens of eight: a chain opens
    one for itself. -/
def Nonterminal.reach (phrase : Nonterminal) (s : Situation) : Nat :=
  s.depth + phrase.measure s + if phrase.isChain then 1 else 0

namespace Progress

variable {setting : Setting σ} {p : Progress σ} {weight bound depth : Nat}

/-- The scanner never complains of the nesting. -/
theorem passDiagnostics_sinks {diagnostics : List Diagnostic}
    (lexical : Diagnostic.Lexical diagnostics) :
    (passDiagnostics setting diagnostics p).Sinks weight := by
  induction diagnostics generalizing p with
  | nil => trivial
  | cons d rest ih =>
      rw [passDiagnostics]
      split
      · intro deep
        have scanned := lexical d List.mem_cons_self
        rw [show d.fault = .nestingTooDeep from deep] at scanned
        cases scanned
      · exact ih fun e he => lexical e (List.mem_cons_of_mem _ he)

/-- Nor does reading the next lexeme. -/
theorem advance_sinks (lexical : ∀ l ∈ p.situation.upcoming, Diagnostic.Lexical l.diagnostics) :
    (p.advance setting).Sinks weight := by
  rw [advance]
  split
  · trivial
  · rename_i next rest upcoming
    exact passDiagnostics_sinks (lexical next (upcoming ▸ List.mem_cons_self))

/-- What is wrong with a token is not that it lies too deep. -/
theorem take_sinks (lexical : ∀ l ∈ p.situation.upcoming, Diagnostic.Lexical l.diagnostics) :
    (p.take setting).Sinks weight := by
  rw [take]
  simp only
  split
  · trivial
  · exact Outcome.Sinks.andThen (advance_sinks (by exact lexical)) fun _ _ _ => trivial

/-- Other complaints weigh nothing. -/
theorem complain_sinks {span : Span} {fault : Fault} (other : fault ≠ .nestingTooDeep) :
    (p.complain setting span fault).Sinks weight := by
  rw [complain]
  cases setting.mode with
  | strict => exact fun deep => absurd deep other
  | loose => trivial

/-- It is complained of too many levels only where so many are open. -/
theorem complain_deep_sinks {span : Span} (deep : nestingLimit ≤ p.situation.depth)
    (le : p.situation.depth + 8 * p.situation.remaining ≤ weight) :
    (p.complain setting span .nestingTooDeep).Sinks weight := by
  rw [complain]
  cases setting.mode with
  | strict => exact fun _ => Nat.le_trans (Nat.add_le_add_right deep _) le
  | loose => trivial

/-- A phrase that the bound affords comes to no more levels than it may reach. -/
def SunkBy (bound : Nat) (parse : Nonterminal → Progress σ → Outcome σ Node) : Prop :=
  ∀ phrase (p : Progress σ), p.situation.Affords bound (phrase.cost p.situation) →
    p.situation.depth ≤ nestingLimit →
    (∀ l ∈ p.situation.upcoming, Diagnostic.Lexical l.diagnostics) →
      (parse phrase p).Sinks (phrase.reach p.situation)

variable {parse : Nonterminal → Progress σ → Outcome σ Node} {frame : Frame}
  {phrase : Nonterminal} {between : Node → Situation → Prop}

/-- A bound for more fuel is one for less. -/
theorem SunkBy.mono {less : Nat} (h : SunkBy bound parse) (le : less ≤ bound) :
    SunkBy less parse :=
  fun phrase p hp => h phrase p ⟨hp.1, Nat.le_trans hp.2 le⟩

/-- A call opens one level, or a chain opens it, and measures no more than the bound. -/
theorem call_sinks (stands : p.situation.Stands bound depth) (sunk : SunkBy bound parse)
    (calls : (Contract.onward setting.mode).Calls bound frame phrase p.situation between)
    (framed : phrase.isChain = true → frame = .chain) :
    (p.call setting parse frame phrase).Sinks (depth + 1 + bound) := by
  have level := stands.depth
  have near := stands.near
  have plain (other : frame ≠ .chain) : phrase.isChain = false :=
    Bool.eq_false_iff.mpr fun chain => other (framed chain)
  -- What the bound affords is measured by it, at the level of the caller or one more.
  have reaches {s : Situation} (paid : s.Affords bound (phrase.cost s))
      (le : s.depth + (if phrase.isChain then 1 else 0) ≤ depth + 1) :
      phrase.reach s ≤ depth + 1 + bound := by
    have := paid.2
    simp only [Nonterminal.reach, Nonterminal.measure]
    omega
  simp only [call]
  simp only [Contract.Calls] at calls
  cases frame with
  | same =>
      refine (sunk phrase p calls.1 stands.limited stands.lexical).mono (reaches calls.1 ?_)
      rw [plain (by decide), level]
      exact Nat.le_succ depth
  | chain =>
      refine ((sunk phrase p calls.1 stands.limited stands.lexical).mono
        (reaches calls.1 ?_)).adjust fun _ => rfl
      rw [level]
      split <;> omega
  | functionBody =>
      refine ((sunk phrase { p with situation := { p.situation with inFunction := true } } calls.1
        stands.limited stands.lexical).mono (reaches calls.1 ?_)).adjust fun _ => rfl
      rw [plain (by decide)]
      exact level ▸ Nat.le_succ _
  | nested =>
      simp only at calls ⊢
      split
      · rename_i deep
        refine (complain_deep_sinks deep (by omega)).andThen fun _ q passed => ?_
        have same : (p.complain setting p.situation.token.span .nestingTooDeep).Satisfies _ :=
          complain_satisfies _ _ p
        rw [passed] at same
        have here : q = p := same.2
        exact (take_sinks (here ▸ stands.lexical)).andThen fun _ _ _ => trivial
      · rename_i deep
        rw [if_neg deep] at calls
        refine ((sunk phrase { p with situation := { p.situation with
          depth := p.situation.depth + 1 } } calls.1 (Nat.lt_of_not_le deep)
          stands.lexical).mono (reaches calls.1 ?_)).adjust fun _ => rfl
        rw [plain (by decide)]
        exact Nat.le_of_eq (congrArg (· + 1) level)

end Progress

/-! ## Framed rules -/

namespace Rule

variable {chained blames : Bool} {setting : Setting σ} {fuel bound depth : Nat}
  {parse : Nonterminal → Progress σ → Outcome σ Node}

/-- A rule in front of a framed one is framed. -/
theorem Framed.of_bind {r : Rule α} {f : α → Rule β} (h : (r.bind f).Framed chained blames) :
    r.Framed chained blames := by
  induction r with
  | done a => trivial
  | look next ih => exact fun s => ih s (h s)
  | take next ih => exact fun t => ih t (h t)
  | openAt start next ih => exact fun comments => ih comments (h comments)
  | close node next ih => exact fun n => ih n (h n)
  | complain span fault next ih => exact ⟨h.1, ih h.2⟩
  | deepen next ih => exact ⟨h.1, fun ok => ih ok (h.2 ok)⟩
  | call frame phrase next ih => exact ⟨h.1, fun n => ih n (h.2 n)⟩
  | budget next ih => exact fun rounds => ih rounds (h rounds)
  | overrun => trivial

/-- What follows a rule is framed where the rule comes to it. -/
theorem Framed.behind {r : Rule α} {f : α → Rule β} {p q : Progress σ} {a : α}
    (h : (r.bind f).Framed chained blames) (run : r.run setting fuel parse p = .done a q) :
    (f a).Framed chained blames := by
  induction r generalizing p with
  | done b => obtain ⟨⟩ := run; exact h
  | look next ih => exact ih _ (h _) run
  | take next ih =>
      obtain ⟨t, r, -, rest⟩ := Outcome.andThen_eq_done run
      exact ih t (h t) rest
  | openAt start next ih => exact ih _ (h _) run
  | close node next ih => exact ih _ (h _) run
  | complain span fault next ih =>
      obtain ⟨_, r, -, rest⟩ := Outcome.andThen_eq_done run
      exact ih h.2 rest
  | deepen next ih =>
      obtain ⟨ok, r, -, rest⟩ := Outcome.andThen_eq_done run
      exact ih ok (h.2 ok) rest
  | call frame phrase next ih =>
      obtain ⟨n, r, -, rest⟩ := Outcome.andThen_eq_done run
      exact ih n (h.2 n) rest
  | budget next ih => exact ih _ (h _) run
  | overrun => cases run

/-- A framed rule that descends below a bound comes to no more levels than one above where it
    stands and those that the bound allows. -/
theorem Descends.sinks {r : Rule α} {s : Situation} {post : α → Situation → Prop}
    (h : r.Descends setting.mode bound s post) (framed : r.Framed false false) (le : bound ≤ fuel)
    (kept : (Contract.onward setting.mode).KeptBy fuel parse)
    (leveled : Progress.LeveledBy parse) (sunk : Progress.SunkBy bound parse)
    {p : Progress σ} (here : p.situation = s) (stands : p.situation.Stands bound depth) :
    (r.run setting fuel parse p).Sinks (depth + 1 + bound) := by
  induction h generalizing p with
  | done _ => trivial
  | look _ ih =>
      subst here
      exact ih (framed _) rfl stands
  | take _ ih =>
      subst here
      refine (Progress.take_sinks stands.lexical).andThen fun t q taken => ?_
      have on := Progress.take_resumes setting stands.limited
      have token : (p.take setting).Satisfies _ := Progress.take_satisfies p
      rw [taken] at on token
      obtain ⟨rfl, rfl⟩ := token
      exact ih (framed _) (Progress.situation_taken p) (stands.resumes on)
  | openAt _ ih => exact ih _ (framed _) here stands
  | close _ ih => exact ih _ (framed _) here stands
  | @complain _ span fault _ _ _ _ ih =>
      have other (deep : fault = .nestingTooDeep) : False := Bool.noConfusion (framed.1 deep)
      refine (Progress.complain_sinks other).andThen fun _ q passed => ?_
      have same : (p.complain setting span fault).Satisfies _ :=
        Progress.complain_satisfies span fault p
      rw [passed] at same
      obtain ⟨loose, rfl⟩ := same
      exact ih loose framed.2 here stands
  | deepen => exact absurd framed.1 Bool.false_ne_true
  | call calls _ ih =>
      subst here
      refine (Progress.call_sinks stands sunk calls framed.1).andThen fun n q called => ?_
      have on := Progress.call_resumes setting leveled stands.limited framed.1
      have ends := (calls.more le).ends (rfl : setting.mode = _) kept
      rw [called] at on ends
      exact ih n _ ends (framed.2 n) rfl (stands.resumes on)
  | @loop _ _ _ step b next s post inv between paid start turn _ turned ih =>
      -- The rounds stand at one level, since each of them is framed.
      have go (n : Nat) : ∀ b (p : Progress σ), inv b p.situation →
          ((iterate step n b).bind next).Framed false false → p.situation.Stands bound depth →
            (((iterate step n b).bind next).run setting fuel parse p).Sinks
              (depth + 1 + bound) := by
        induction n with
        | zero => exact fun _ _ _ _ _ => trivial
        | succ n round =>
            intro b p hb framed stands
            simp only [iterate, bind_assoc] at framed ⊢
            have one := framed.of_bind
            show Outcome.Sinks _ (Rule.run setting fuel parse (step b >>= _) p)
            rw [run_bind]
            refine (turned b _ hb one rfl stands).andThen fun next q went => ?_
            have on := one.resumes setting fuel leveled stands.limited
            have ends := ((turn b _ hb).meets le).ends (rfl : setting.mode = _) kept
            have rest := framed.behind went
            rw [went] at on ends
            cases next with
            | again b' => exact round b' q ends.2 rest (stands.resumes on)
            | leave c => exact ih c _ ends.2 rest rfl (stands.resumes on)
      subst here
      exact go fuel b p start (framed fuel) stands

end Rule

/-! ## Chains -/

/-- A round of a chain, at a token, leaves where it stands, or it opens a level and goes on
    behind the token. -/
def Rule.Links (round : Token → Rule (Turn α β)) : Prop :=
  ∀ t, (∃ b, round t = pure (.leave b)) ∨
    ∃ b rest, round t = (Rule.deepen .done >>= fun ok =>
        if (!ok) = true then pure (.leave b) else rest) ∧
      rest.Framed false false ∧ ∀ mode fuel s, s.token = t → s.Affords fuel 1 →
        rest.Descends mode fuel s fun _ u => s.Leads u ∧ s.consumed < u.consumed

namespace Grammar

/-- One round of the operators behind `left`. -/
def operatorRound (start minimum : Nat) (noIn : Bool) (left : Node) (t : Token) :
    Rule (Turn Node Node) :=
  match BinaryOperator.ofToken? noIn t.kind with
  | none => pure (.leave left)
  | some operator => do
    if operator.precedence ≤ minimum then pure (.leave left)
    else if !(← Rule.deepen .done) then pure (.leave left)
    else operatorTurn left start operator noIn

/-- The loop over operators, with its round by name. -/
theorem operatorsRule_eq (left : Node) (start minimum : Nat) (noIn : Bool) :
    operatorsRule left start minimum noIn =
      Rule.loop left fun left => token >>= operatorRound start minimum noIn left := rfl

/-- A round over an operator opens one level, which its operand pays with the operator. -/
theorem operatorRound_links (start minimum : Nat) (noIn : Bool) (left : Node) :
    Rule.Links (operatorRound start minimum noIn left) := by
  intro t
  rw [operatorRound]
  cases stands : BinaryOperator.ofToken? noIn t.kind with
  | none => exact .inl ⟨left, rfl⟩
  | some operator =>
      by_cases weak : operator.precedence ≤ minimum
      · exact .inl ⟨left, if_pos weak⟩
      refine .inr ⟨left, _, if_neg weak, operatorTurn_framed _ _ _ _, ?_⟩
      intro mode fuel s here paid
      have goes := Token.isEnd_of_reading (by cases noIn <;> rfl) stands
      refine Rule.Advances.bind take_advances (fun _ => ?_) mode fuel s (here ▸ goes) paid
      refine here_stays.bind_runs fun rightStart => (unary_runs (by omega)).bind fun operand => ?_
      refine (operators_runs _ _ _ _ (by omega)).bind fun right => ?_
      exact (closeNode_stays _ _).bind_runs fun whole => .pure _

/-- One round of the subscripts behind `base`. -/
def subscriptRound (start : Nat) (noCalls : Bool) (base : Node) (t : Token) :
    Rule (Turn Node Node) :=
  match Subscript.ofToken? noCalls t with
  | none => pure (.leave base)
  | some kind => do
    if !(← Rule.deepen .done) then pure (.leave base)
    else
      let shape ← subscript base kind
      let whole ← closeNode (openedAt start) shape
      pure (.again whole)

/-- The loop over subscripts, with its round by name. -/
theorem subscriptsRule_eq (base : Node) (start : Nat) (noCalls : Bool) :
    subscriptsRule base start noCalls =
      Rule.loop base fun base => token >>= subscriptRound start noCalls base := rfl

/-- A round over a subscript opens one level, which the token that it takes pays. -/
theorem subscriptRound_links (start : Nat) (noCalls : Bool) (base : Node) :
    Rule.Links (subscriptRound start noCalls base) := by
  intro t
  rw [subscriptRound]
  cases stands : Subscript.ofToken? noCalls t with
  | none => exact .inl ⟨base, rfl⟩
  | some kind =>
      refine .inr ⟨base, _, rfl, ?_, fun mode fuel s here paid => ?_⟩
      · refine (subscript_framed base kind).bind fun shape => ?_
        exact (closeNode_framed _ _).bind fun whole => .pure _
      · refine (subscript_takes (here ▸ stands) paid).bind fun shape u hu => ?_
        refine (closeNode_stays _ _ mode fuel u).bind fun whole v hv => ?_
        exact .done ⟨hu.1.trans hv.1, hv.2 ▸ hu.2⟩

end Grammar

/-- What a chain stands in: it opens levels, and pays with a token for each. -/
structure Situation.Balanced (weight : Nat) (s : Situation) : Prop where
  balance : s.depth + 8 * s.remaining ≤ weight
  limited : s.depth ≤ nestingLimit
  terminated : Lexeme.Terminated s.ahead
  lexical : ∀ l ∈ s.upcoming, Diagnostic.Lexical l.diagnostics

/-- Where no level can be opened any more, the weight is spent. -/
theorem Progress.deepen_sinks {setting : Setting σ} {p : Progress σ} {weight : Nat}
    (le : p.situation.depth + 8 * p.situation.remaining ≤ weight) :
    (p.deepen setting).Sinks weight := by
  rw [deepen]
  split
  · rename_i deep
    exact (complain_deep_sinks deep le).andThen fun _ _ _ => trivial
  · trivial

/-- A level is opened only below the limit, and nothing else changes. -/
theorem Progress.deepen_satisfies (setting : Setting σ) (p : Progress σ) :
    (p.deepen setting).Satisfies fun ok q => ok = true →
      p.situation.depth < nestingLimit ∧
        q = { p with situation := { p.situation with depth := p.situation.depth + 1 } } := by
  rw [deepen]
  split
  · exact (complain_satisfies _ _ p).andThen fun _ _ _ same => Bool.noConfusion same
  · rename_i allowed
    exact fun _ => ⟨Nat.lt_of_not_le allowed, rfl⟩

section Chains

variable {setting : Setting σ} {fuel weight : Nat}
  {parse : Nonterminal → Progress σ → Outcome σ Node}

/-- A round of a chain comes to hardly more levels than are balanced, and behind it they are
    balanced again: the token it took pays for the level it opened. -/
theorem Rule.Links.round_sinks {round : Token → Rule (Turn α β)} (links : Links round)
    (kept : (Contract.onward setting.mode).KeptBy fuel parse)
    (leveled : Progress.LeveledBy parse) (sunk : Progress.SunkBy fuel parse)
    {p : Progress σ} (balanced : p.situation.Balanced weight)
    (near : 8 * p.situation.remaining + 1 ≤ fuel) :
    let o := (round p.situation.token).run setting fuel parse p
    o.Sinks (weight + 3) ∧ o.Satisfies fun turn q => ∀ a, turn = .again a →
      q.situation.Balanced weight ∧ q.situation.remaining ≤ p.situation.remaining := by
  intro o
  have balance := balanced.balance
  obtain ⟨b, leaves⟩ | ⟨b, rest, opens, framed, takes⟩ := links p.situation.token
  · simp only [o, leaves]
    exact ⟨trivial, nofun⟩
  let next (ok : Bool) : Rule (Turn α β) := if (!ok) = true then pure (.leave b) else rest
  have run : o = (p.deepen setting).andThen fun ok q => (next ok).run setting fuel parse q := by
    simp only [o, opens]
    rfl
  rw [run]
  have sinks : (p.deepen setting).Sinks weight := Progress.deepen_sinks balance
  have ends := Progress.deepen_satisfies setting p
  cases opened : p.deepen setting with
  | stopped why q =>
      rw [opened] at sinks
      exact ⟨(sinks.mono (Nat.le_add_right weight 3)).stopped, trivial⟩
  | done ok q =>
      rw [opened] at ends
      cases ok with
      | false => exact ⟨trivial, nofun⟩
      | true =>
          obtain ⟨allowed, rfl⟩ := ends rfl
          let q : Progress σ :=
            { p with situation := { p.situation with depth := p.situation.depth + 1 } }
          have paid : q.situation.Affords (8 * p.situation.remaining + 1) 1 :=
            ⟨balanced.terminated, Nat.le_refl _⟩
          have descends := takes setting.mode _ q.situation rfl paid
          have stands : q.situation.Stands (8 * p.situation.remaining + 1)
              (p.situation.depth + 1) :=
            ⟨rfl, allowed, Nat.le_succ _, balanced.lexical⟩
          show Outcome.Sinks _ (rest.run setting fuel parse q) ∧
            (rest.run setting fuel parse q).Satisfies _
          constructor
          · refine (descends.sinks framed near kept leveled (sunk.mono near) rfl stands).mono ?_
            omega
          · have on := framed.resumes setting fuel leveled stands.limited
            have took := ((descends.meets near).ends rfl kept).satisfies
            cases went : rest.run setting fuel parse q with
            | stopped why u => trivial
            | done turn u =>
                rw [went] at on took
                intro a _
                have level : u.situation.depth = p.situation.depth + 1 := on.level rfl
                have apart := took.1.remaining_add
                have less := took.2
                have same : q.situation.remaining = p.situation.remaining := rfl
                refine ⟨⟨?_, on.limited, took.1.terminated balanced.terminated, fun l hl => ?_⟩, ?_⟩
                · omega
                · exact balanced.lexical l (on.upcoming.subset hl)
                · omega

/-- A chain comes to hardly more levels than are balanced where it starts. -/
theorem Rule.Links.sinks {round : α → Token → Rule (Turn α β)} (links : ∀ a, Links (round a))
    (kept : (Contract.onward setting.mode).KeptBy fuel parse)
    (leveled : Progress.LeveledBy parse) (sunk : Progress.SunkBy fuel parse) (n : Nat) (a : α)
    {p : Progress σ} (balanced : p.situation.Balanced weight)
    (near : 8 * p.situation.remaining + 1 ≤ fuel) :
    ((iterate (fun a => Grammar.token >>= round a) n a).run setting fuel parse p).Sinks
      (weight + 3) := by
  induction n generalizing a p with
  | zero => trivial
  | succ n ih =>
      obtain ⟨sinks, ends⟩ := (links a).round_sinks kept leveled sunk balanced near
      show Outcome.Sinks _ (Rule.run setting fuel parse ((Grammar.token >>= round a) >>= _) p)
      rw [run_bind]
      refine Outcome.Sinks.andThen sinks fun turn q went => ?_
      cases turn with
      | leave b => trivial
      | again a' =>
          have same : (round a p.situation.token).run setting fuel parse p = .done (.again a') q :=
            went
          rw [same] at ends
          obtain ⟨balanced, le⟩ := ends a' rfl
          exact ih a' balanced (by omega)

end Chains

/-! ## Phrases -/

/-- The rule of a phrase that the bound affords comes to no more levels than the phrase may
    reach, if what it calls does so below. -/
theorem Nonterminal.rule_sinks (phrase : Nonterminal) {setting : Setting σ} {fuel : Nat}
    {parse : Nonterminal → Progress σ → Outcome σ Node}
    (kept : (Contract.onward setting.mode).KeptBy fuel parse)
    (leveled : Progress.LeveledBy parse) (sunk : Progress.SunkBy fuel parse)
    {p : Progress σ} (paid : p.situation.Affords (fuel + 1) (phrase.cost p.situation))
    (limited : p.situation.depth ≤ nestingLimit)
    (lexical : ∀ l ∈ p.situation.upcoming, Diagnostic.Lexical l.diagnostics) :
    (phrase.rule.run setting fuel parse p).Sinks (phrase.reach p.situation) := by
  have measured := paid.2
  have balanced : p.situation.Balanced (p.situation.depth + 8 * p.situation.remaining) :=
    ⟨Nat.le_refl _, limited, paid.1, lexical⟩
  -- A phrase that is no chain descends below one less than it measures.
  have plain (other : phrase.isChain = false) (framed : phrase.rule.Framed false false) :
      (phrase.rule.run setting fuel parse p).Sinks (phrase.reach p.situation) := by
    obtain ⟨cost, costs⟩ := Nat.exists_eq_add_one_of_ne_zero
      (Nat.ne_of_gt (phrase.cost_bounds p.situation).1)
    have descends : phrase.rule.Descends setting.mode (8 * p.situation.remaining + cost)
        p.situation _ :=
      phrase.rule_descends ⟨paid.1, by omega⟩
    have stands : p.situation.Stands (8 * p.situation.remaining + cost) p.situation.depth :=
      ⟨rfl, limited, Nat.le_add_right _ _, lexical⟩
    have le : 8 * p.situation.remaining + cost ≤ fuel := by omega
    refine (descends.sinks framed le kept leveled (sunk.mono le) rfl stands).mono ?_
    rw [Nonterminal.reach, other, Nonterminal.measure]
    simp only [Bool.false_eq_true, if_false]
    omega
  cases phrase with
  | statement => exact plain rfl Grammar.statementRule_framed
  | block => exact plain rfl Grammar.blockRule_framed
  | assignment noIn => exact plain rfl (Grammar.assignmentRule_framed noIn)
  | unary => exact plain rfl Grammar.unaryRule_framed
  | atom => exact plain rfl Grammar.atomRule_framed
  | operators left start minimum noIn =>
      change ((Grammar.operatorsRule left start minimum noIn).run setting fuel parse p).Sinks _
      rw [Grammar.operatorsRule_eq]
      refine Rule.Links.sinks (Grammar.operatorRound_links start minimum noIn) kept leveled sunk
        fuel left balanced ?_
      simp only [Nonterminal.cost] at measured
      omega
  | subscripts base start noCalls =>
      change ((Grammar.subscriptsRule base start noCalls).run setting fuel parse p).Sinks _
      rw [Grammar.subscriptsRule_eq]
      refine Rule.Links.sinks (Grammar.subscriptRound_links start noCalls) kept leveled sunk
        fuel base balanced ?_
      simp only [Nonterminal.cost] at measured
      omega
  | arrayPattern => exact plain rfl Grammar.arrayPattern_framed
  | objectPattern => exact plain rfl Grammar.objectPattern_framed

end ScriptTree

import ScriptTree.Proofs.Fuel.Descent

/-! # Fuel — rules that keep to the account

    A rule `Runs` at a cost when, wherever the fuel affords the cost, it
    descends below the fuel and goes forward.  `Stays` are the rules that take
    nothing, `Advances` those that take a token where one stands, and `Tells`
    those that answer whether they took one; what follows a token that was
    taken may cost anything.  So the grammar is gone through with costs, and
    bounds are met only here. -/

namespace ScriptTree

namespace Rule

variable {α β : Type} {cost : Nat}

/-- The rule goes forward wherever the fuel affords the cost. -/
def Runs (r : Rule α) (cost : Nat) : Prop :=
  ∀ mode fuel s, s.Affords fuel cost →
    r.Descends mode fuel s fun _ t => s.Leads t

/-- The rule takes no token. -/
def Stays (r : Rule α) : Prop :=
  ∀ mode fuel s, r.Descends mode fuel s fun _ t => s.Leads t ∧ t.consumed = s.consumed

/-- The rule takes a token where one stands. -/
def Advances (r : Rule α) : Prop :=
  ∀ mode fuel s, s.token.isEnd = false → s.Affords fuel 1 →
    r.Descends mode fuel s fun _ t => s.Leads t ∧ s.consumed < t.consumed

/-- The rule says yes behind a token it took, and no where it started. -/
def Tells (r : Rule Bool) : Prop :=
  ∀ mode fuel s, s.Affords fuel 1 →
    r.Descends mode fuel s fun b t => match b with
      | true => s.Leads t ∧ s.consumed < t.consumed
      | false => t = s

/-- The rule is a round of a loop wherever the fuel affords the cost. -/
def Turns (r : Rule (Turn α β)) (cost : Nat) : Prop :=
  ∀ mode fuel s, s.Affords fuel cost → r.Descends mode fuel s (Turned s)

/-! ## Rules that stay -/

section Stays

/-- Ending with a value takes no token. -/
theorem Stays.pure (a : α) : (Pure.pure a : Rule α).Stays :=
  fun _ _ s => .done ⟨.refl s, rfl⟩

/-- Nor does a look. -/
theorem Stays.look {next : Situation → Rule α} (h : ∀ s, (next s).Stays) :
    (Rule.look next).Stays :=
  fun mode fuel s => .look (h s mode fuel s)

/-- Nor do two rules that take none. -/
theorem Stays.bind {r : Rule β} {f : β → Rule α} (h : r.Stays) (k : ∀ b, (f b).Stays) :
    (r >>= f).Stays := by
  intro mode fuel s
  refine (h mode fuel s).bind fun b t ht => (k b mode fuel t).mono fun _ u hu => ?_
  exact ⟨ht.1.trans hu.1, hu.2.trans ht.2⟩

/-- Nor does a complaint. -/
theorem Stays.complain (span : Span) (fault : Fault) {next : Rule α} (h : next.Stays) :
    (Rule.complain span fault next).Stays :=
  fun mode fuel s => .complain fun _ => h mode fuel s

/-- A rule that takes no token runs at any cost. -/
theorem Stays.runs {r : Rule α} (h : r.Stays) : r.Runs cost :=
  fun mode fuel s _ => (h mode fuel s).mono fun _ _ ht => ht.1

/-- It may stand in front of one that runs. -/
theorem Stays.bind_runs {r : Rule β} {f : β → Rule α} (h : r.Stays)
    (k : ∀ b, (f b).Runs cost) : (r >>= f).Runs cost := by
  intro mode fuel s hs
  refine (h mode fuel s).bind fun b t ht => ?_
  exact (k b mode fuel t (hs.leads ht.1)).mono fun _ u hu => ht.1.trans hu

/-- It may stand in front of one that takes a token. -/
theorem Stays.bind_advances {r : Rule β} {f : β → Rule α} (h : r.Stays)
    (k : ∀ b, (f b).Advances) : (r >>= f).Advances := by
  intro mode fuel s goes hs
  refine (h mode fuel s).bind fun b t ht => ?_
  have still : t.token.isEnd = false := by
    show t.current.token.isEnd = false
    rw [ht.1.current_eq ht.2]
    exact goes
  refine (k b mode fuel t still (hs.leads ht.1)).mono fun _ u hu => ?_
  exact ⟨ht.1.trans hu.1, ht.2 ▸ hu.2⟩

end Stays

/-! ## Rules that run -/

section Runs

/-- Both rules run at the cost. -/
theorem Runs.bind {r : Rule β} {f : β → Rule α} (h : r.Runs cost)
    (k : ∀ b, (f b).Runs cost) : (r >>= f).Runs cost := by
  intro mode fuel s hs
  refine (h mode fuel s hs).bind fun b t ht => ?_
  exact (k b mode fuel t (hs.leads ht)).mono fun _ u hu => ht.trans hu

/-- Ending with a value runs at any cost. -/
theorem Runs.pure (a : α) : (Pure.pure a : Rule α).Runs cost := (Stays.pure a).runs

/-- Both ways on run. -/
theorem Runs.ite {b : Prop} [Decidable b] {yes no : Rule α} (h : yes.Runs cost)
    (k : no.Runs cost) : (if b then yes else no).Runs cost := by
  split
  · exact h
  · exact k

/-- A part of a rule that is left out for a value runs as the part does. -/
theorem Runs.optional {b : Bool} {r : Rule β} {instead : β} {f : β → Rule α}
    (h : r.Runs cost) (k : ∀ x, (f x).Runs cost) :
    (if b = true then r >>= f else Pure.pure instead >>= f).Runs cost :=
  .ite (h.bind k) (k instead)

/-- A nonterminal runs at what it costs. -/
theorem Runs.call {frame : Frame} {phrase : Nonterminal} (h : ∀ s, phrase.cost s ≤ cost) :
    (Rule.call frame phrase .done).Runs cost :=
  fun _ _ s hs => descends_call (hs.mono (h s))

end Runs

/-! ## Rules that take a token -/

section Advances

/-- Taking a token, and anything behind it. -/
theorem Advances.take {next : Token → Rule α} (h : ∀ t, (next t).Runs 9) :
    (Rule.take next).Advances := by
  intro mode fuel s goes hs
  have ⟨on, lt⟩ := Situation.leads_on goes hs.1
  refine .take ((h s.token mode fuel s.taken (hs.advanced on lt)).mono fun _ t ht => ?_)
  exact ⟨on.trans ht, Nat.lt_of_lt_of_le lt ht.consumed_le⟩

/-- Behind a token there is fuel for everything. -/
theorem Advances.bind {r : Rule β} {f : β → Rule α} (h : r.Advances)
    (k : ∀ b, (f b).Runs 9) : (r >>= f).Advances := by
  intro mode fuel s goes hs
  refine (h mode fuel s goes hs).bind fun b t ht => ?_
  refine (k b mode fuel t (hs.advanced ht.1 ht.2)).mono fun _ u hu => ?_
  exact ⟨ht.1.trans hu, Nat.lt_of_lt_of_le ht.2 hu.consumed_le⟩

/-- Where a token stands, what takes it ends behind the token. -/
theorem Advances.meets {r : Rule α} {mode : Mode} {fuel : Nat} {s : Situation}
    {post : α → Situation → Prop} (h : r.Advances) (goes : s.token.isEnd = false)
    (hs : s.Affords fuel cost) (pos : 1 ≤ cost)
    (behind : ∀ a t, s.Leads t → s.consumed < t.consumed → post a t) :
    r.Descends mode fuel s post :=
  (h mode fuel s goes (hs.mono pos)).mono fun a t ht => behind a t ht.1 ht.2

/-- Taking a token runs also at the end of input, which stays. -/
theorem Runs.take {next : Token → Rule α} (h : ∀ t, (next t).Runs cost) :
    (Rule.take next).Runs cost := by
  intro mode fuel s hs
  have on := Situation.leads_taken hs.1
  exact .take ((h s.token mode fuel s.taken (hs.leads on)).mono fun _ t ht => on.trans ht)

/-- Behind a token that was taken, and behind none. -/
theorem Tells.bind {r : Rule Bool} {f : Bool → Rule α} (h : r.Tells) (pos : 1 ≤ cost)
    (yes : (f true).Runs 9) (no : (f false).Runs cost) : (r >>= f).Runs cost := by
  intro mode fuel s hs
  refine (h mode fuel s (hs.mono pos)).bind fun b t ht => ?_
  cases b with
  | true =>
      have paid := (hs.mono pos).advanced ht.1 ht.2
      exact (yes mode fuel t paid).mono fun _ u hu => ht.1.trans hu
  | false => exact ht ▸ no mode fuel s hs

/-- A rule that tells what it has taken runs. -/
theorem Tells.runs {r : Rule Bool} (h : r.Tells) (pos : 1 ≤ cost) : r.Runs cost := by
  intro mode fuel s hs
  refine (h mode fuel s (hs.mono pos)).mono fun b t ht => ?_
  cases b with
  | true => exact ht.1
  | false => exact ht ▸ .refl s

end Advances

/-! ## Loops -/

section Turns

variable {γ : Type} {mode : Mode} {fuel : Nat} {s t : Situation}

/-- A turn that has led on from here has done so from before. -/
theorem Turned.trans {turn : Turn α β} {u : Situation} (k : Turned t turn u)
    (h : s.Leads t) : Turned s turn u := by
  cases turn with
  | again a => exact ⟨h.trans k.1, Nat.lt_of_le_of_lt h.consumed_le k.2⟩
  | leave b => exact h.trans k

/-- Behind a token that was taken a round may go on or not. -/
theorem Turned.of_lt {turn : Turn α β} (h : s.Leads t) (lt : s.consumed < t.consumed) :
    Turned s turn t := by
  cases turn with
  | again a => exact ⟨h, lt⟩
  | leave b => exact h

/-- The loop may be left at any time. -/
theorem Turns.pure_leave (b : β) : (Pure.pure (.leave b) : Rule (Turn α β)).Turns cost :=
  fun _ _ s _ => .done (.refl s)

/-- A rule that runs may come first in a round. -/
theorem Turns.bind {r : Rule γ} {f : γ → Rule (Turn α β)} (h : r.Runs cost)
    (k : ∀ c, (f c).Turns cost) : (r >>= f).Turns cost := by
  intro mode fuel s hs
  refine (h mode fuel s hs).bind fun c t ht => ?_
  exact (k c mode fuel t (hs.leads ht)).mono fun turn u hu => hu.trans ht

/-- A round is a rule that runs. -/
theorem Turns.runs {r : Rule (Turn α β)} (h : r.Turns cost) : r.Runs cost := by
  intro mode fuel s hs
  refine (h mode fuel s hs).mono fun turn t ht => ?_
  cases turn with
  | again a => exact ht.1
  | leave b => exact ht

/-- A round that asks for a token goes on behind it, or where it started. -/
theorem Tells.turned {r : Rule Bool} {f : Bool → Rule (Turn α β)} (h : r.Tells)
    (hs : s.Affords fuel 1) (yes : (f true).Runs 9)
    (no : (f false).Descends mode fuel s (Turned s)) :
    (r >>= f).Descends mode fuel s (Turned s) := by
  refine (h mode fuel s hs).bind fun b t ht => ?_
  cases b with
  | true =>
      refine (yes mode fuel t (hs.advanced ht.1 ht.2)).mono fun turn u hu => ?_
      exact .of_lt (ht.1.trans hu) (Nat.lt_of_lt_of_le ht.2 hu.consumed_le)
  | false => exact ht ▸ no

/-- A round goes on only if a token was taken. -/
theorem Tells.turns {r : Rule Bool} {f : Bool → Rule (Turn α β)} (h : r.Tells)
    (pos : 1 ≤ cost) (yes : (f true).Runs 9) (no : (f false).Turns cost) :
    (r >>= f).Turns cost :=
  fun mode fuel s hs => h.turned (hs.mono pos) yes (no mode fuel s hs)

/-- A round that takes the token where it starts. -/
theorem Advances.turned {r : Rule (Turn α β)} (h : r.Advances) (goes : s.token.isEnd = false)
    (hs : s.Affords fuel 1) : r.Descends mode fuel s (Turned s) :=
  (h mode fuel s goes hs).mono fun _ _ ht => .of_lt ht.1 ht.2

/-- A round that first looks round stands at the same token behind it. -/
theorem Stays.turned {r : Rule γ} {f : γ → Rule (Turn α β)} (h : r.Stays)
    (hs : s.Affords fuel cost)
    (k : ∀ c t, t.token = s.token → t.Affords fuel cost →
      (f c).Descends mode fuel t (Turned t)) :
    (r >>= f).Descends mode fuel s (Turned s) := by
  refine (h mode fuel s).bind fun c t ht => ?_
  have same : t.token = s.token := congrArg Lexeme.token (ht.1.current_eq ht.2)
  exact (k c t same (hs.leads ht.1)).mono fun turn u hu => hu.trans ht.1

/-- A loop runs whose rounds take a token each. -/
theorem Runs.loop {step : α → Rule (Turn α β)} {a : α} (pos : 1 ≤ cost)
    (h : ∀ a, (step a).Turns cost) : (Rule.loop a step).Runs cost := by
  intro mode fuel s hs
  refine .rounds (fun _ t => s.Leads t) (hs.mono pos) (.refl s) fun a t ht => ?_
  refine (h a mode fuel t (hs.leads ht)).mono fun turn u hu => ?_
  cases turn with
  | again b => exact ⟨hu, ht.trans hu.1⟩
  | leave b => exact ⟨hu, ht.trans hu⟩

end Turns

end Rule

end ScriptTree

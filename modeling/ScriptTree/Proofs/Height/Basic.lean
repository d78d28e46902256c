import ScriptTree.Proofs.Grammar.Contract
import ScriptTree.Proofs.Grammar.Nodes
import ScriptTree.Proofs.Height.Measure

/-! # Building under a ceiling

    A rule is followed from a situation to one behind it under a ceiling.  The
    heights of all nodes at hand, with the slack of the tokens still ahead, stay
    below it; so a node may be kept while more tokens are taken, and a token that
    wraps pays for what it adds.

    `Within` says how far a rule may exceed the ceiling: `Builds` by nothing,
    `Closes` by the one node it closes, `Chains` by one node for each level that
    is left.  A rule that exceeds it `fits` under a ceiling that is as much
    higher. -/

namespace ScriptTree

/-! ## Nodes under others -/

/-- Nodes none of which is higher than all of some others. -/
def Below (low high : List Node) : Prop := ∀ n ∈ low, ∃ m ∈ high, n.height ≤ m.height

/-- A node is below itself. -/
theorem Below.refl (low : List Node) : Below low low := fun n hn => ⟨n, hn, Nat.le_refl _⟩

/-- Nothing is below anything. -/
theorem Below.nil (high : List Node) : Below [] high :=
  fun _ hn => absurd hn List.not_mem_nil

/-- More nodes may be above. -/
theorem Below.mono {low high more : List Node} (h : Below low high) (sub : high ⊆ more) :
    Below low more := by
  intro n hn
  obtain ⟨m, hm, le⟩ := h n hn
  exact ⟨m, sub hm, le⟩

/-- Two lists are below. -/
theorem Below.append {low more high : List Node} (h : Below low high) (k : Below more high) :
    Below (low ++ more) high :=
  fun n hn => (List.mem_append.mp hn).elim (h n) (k n)

/-- A node that is not higher than another, which is one of them. -/
theorem Below.one {n m : Node} {high : List Node} (h : m ∈ high) (le : n.height ≤ m.height) :
    Below [n] high := by
  intro x hx
  obtain rfl := List.mem_singleton.mp hx
  exact ⟨m, h, le⟩

/-- A part of a list is below the list. -/
theorem Below.of_subset {low high : List Node} (h : low ⊆ high) : Below low high :=
  fun n hn => ⟨n, h hn, Nat.le_refl _⟩

/-! ## The contract -/

/-- The height of a phrase that is called one level further down.  Where no level
    is left, a single node stands for it. -/
def deeper (height : Nat → Nat) : Nat → Nat
  | 0 => 1
  | levels + 1 => height levels

namespace Nonterminal

/-- The height of what a nonterminal makes by itself. -/
def height : Nonterminal → Nat → Nat
  | .statement, levels => tall levels + 5
  | .block, levels => tall levels + 1
  | .assignment _, levels => tall levels
  | .unary, levels => tall levels + levels + 5
  | .atom, levels => tall levels + 5
  | .operators .., levels => deeper (fun levels => tall levels + levels + 5) levels
  | .subscripts .., levels => tall levels
  | .arrayPattern, levels => tall levels + 3
  | .objectPattern, levels => tall levels + 3

/-- The node a nonterminal continues. -/
def left? : Nonterminal → Option Node
  | .operators left .. => some left
  | .subscripts base .. => some base
  | _ => none

/-- How many nodes it may put on top of that. -/
def links : Nonterminal → Nat → Nat
  | .operators .., levels => levels
  | .subscripts .., levels => levels
  | _, _ => 0

end Nonterminal

/-- `t` lies behind `s`, with as many levels open. -/
structure Situation.Passes (s t : Situation) : Prop where
  leads : s.Leads t
  depth : t.depth = s.depth

/-- Nodes are under a ceiling that leaves room for the slack. -/
def Situation.Under (s : Situation) (top : Nat) (kept : List Node) : Prop :=
  ∀ n ∈ kept, n.height + s.slack ≤ top

/-- What a nonterminal gives is under every ceiling that has room for it and for
    what it continues, but for the links it adds.  It is allowed to run out of
    fuel. -/
def Contract.ceiled (mode : Mode) : Contract where
  mode
  overruns := True
  needs _ _ s := Lexeme.Terminated s.ahead
  gives phrase s n t := s.Leads t ∧ (phrase.left? = none → t.depth = s.depth) ∧
    ∀ top, phrase.height s.levels + s.slack ≤ top → s.Under top (nodes phrase.left?) →
      n.height + t.slack ≤ top + phrase.links s.levels

namespace Situation

variable {s t u : Situation} {top : Nat} {kept more : List Node}

/-- Nothing has happened. -/
theorem Passes.refl (s : Situation) : s.Passes s := ⟨.refl s, rfl⟩

/-- Passing on is transitive. -/
theorem Passes.trans (h : s.Passes t) (k : t.Passes u) : s.Passes u :=
  ⟨h.leads.trans k.leads, k.depth.trans h.depth⟩

/-- A token is taken. -/
theorem Passes.taken (h : Lexeme.Terminated s.ahead) : s.Passes s.taken :=
  ⟨leads_taken h, by rw [Situation.taken]; split <;> rfl⟩

/-- The levels are those of before. -/
theorem Passes.levels (h : s.Passes t) : t.levels = s.levels := by
  rw [Situation.levels, Situation.levels, h.depth]

/-- Nodes that are kept stay under the ceiling. -/
theorem Under.passes (h : s.Under top kept) (k : s.Passes t) : t.Under top kept :=
  fun n hn => Nat.le_trans (Nat.add_le_add_left k.leads.slack_le _) (h n hn)

/-- No node is too high. -/
theorem Under.nil (s : Situation) (top : Nat) : s.Under top [] :=
  fun _ hn => absurd hn List.not_mem_nil

/-- Nodes of both lists are low enough. -/
theorem Under.append (h : s.Under top kept) (k : s.Under top more) : s.Under top (kept ++ more) :=
  fun n hn => (List.mem_append.mp hn).elim (h n) (k n)

/-- The ceiling may be raised. -/
theorem Under.raise {higher : Nat} (h : s.Under top kept) (le : top ≤ higher) :
    s.Under higher kept :=
  fun n hn => Nat.le_trans (h n hn) le

/-- What is below low nodes is low. -/
theorem Under.below (h : s.Under top kept) (k : Below more kept) : s.Under top more := by
  intro n hn
  obtain ⟨m, hm, le⟩ := k n hn
  exact Nat.le_trans (Nat.add_le_add_right le _) (h m hm)

end Situation

namespace Rule

variable {α β : Type} [HasNodes α] [HasNodes β] {extra extra' room room' : Nat → Nat}
  {kept more : List Node}

/-- Wherever a ceiling has room for the rule and the nodes kept so far, the rule
    passes on, and its nodes exceed the ceiling by so much at most. -/
def Within (extra : Nat → Nat) (kept : List Node) (room : Nat → Nat) (r : Rule α) : Prop :=
  ∀ mode fuel s top, Lexeme.Terminated s.ahead → room s.levels + s.slack ≤ top →
    s.Under top kept → r.Meets (.ceiled mode) fuel s fun a t =>
      s.Passes t ∧ t.Under (top + extra s.levels) (nodes a)

/-- The rule stays under the ceiling. -/
abbrev Builds (kept : List Node) (room : Nat → Nat) (r : Rule α) : Prop :=
  r.Within (fun _ => 0) kept room

/-- The rule exceeds the ceiling by one node. -/
abbrev Closes (kept : List Node) (room : Nat → Nat) (r : Rule α) : Prop :=
  r.Within (fun _ => 1) kept room

/-- The rule exceeds the ceiling by as many nodes as levels are left. -/
abbrev Chains (kept : List Node) (room : Nat → Nat) (r : Rule α) : Prop :=
  r.Within id kept room

namespace Within

/-- More may be kept, and there may be more room. -/
theorem mono {r : Rule α} (h : r.Within extra kept room) (below : Below kept more)
    (wider : ∀ levels, room levels ≤ room' levels)
    (further : ∀ levels, extra levels ≤ extra' levels) :
    r.Within extra' more room' := by
  intro mode fuel s top hs hr hk
  refine (h mode fuel s top hs ?_ (hk.below below)).mono fun a t ht => ⟨ht.1, fun n hn => ?_⟩
  · have := wider s.levels
    omega
  · have := ht.2 n hn
    have := further s.levels
    omega

/-- More may be added. -/
theorem further {r : Rule α} (h : r.Within extra kept room)
    (le : ∀ levels, extra levels ≤ extra' levels) : r.Within extra' kept room :=
  h.mono (.refl kept) (fun _ => Nat.le_refl _) le

/-- What exceeds a ceiling fits under one that is as much higher. -/
theorem fit {r : Rule α} (h : r.Within extra [] room)
    (higher : ∀ levels, room levels + extra levels ≤ room' levels) : r.Builds kept room' := by
  intro mode fuel s top hs hr hk
  have := higher s.levels
  refine (h mode fuel s (top - extra s.levels) hs (by omega) (.nil s _)).mono fun a t ht =>
    ⟨ht.1, fun n hn => ?_⟩
  have := ht.2 n hn
  omega

/-- A rule that builds on no node may leave any nodes aside. -/
theorem keep {r : Rule α} (h : r.Within extra [] room) : r.Within extra kept room :=
  h.mono (.nil kept) (fun _ => Nat.le_refl _) fun _ => Nat.le_refl _

/-- A rule that lacks some room exceeds the ceiling by so much more. -/
theorem lower {r : Rule α} {o : Nat} (h : r.Within extra kept room')
    (le : ∀ levels, room' levels ≤ room levels + o) :
    r.Within (fun levels => extra levels + o) kept room := by
  intro mode fuel s top hs hr hk
  have := le s.levels
  refine (h mode fuel s (top + o) hs (by omega) (hk.raise (Nat.le_add_right _ _))).mono
    fun a t ht => ⟨ht.1, ht.2.raise (by simp only; omega)⟩

/-- A rule that closes so many nodes, as a part of a higher one. -/
theorem under {r : Rule α} {c d o : Nat} (h : r.Within (fun _ => o) [] (tall · + c))
    (le : c + o ≤ d) : r.Builds kept (tall · + d) :=
  h.fit fun levels => by omega

/-- What two rules add to a ceiling adds up. -/
theorem bind {r : Rule β} {f : β → Rule α} (h : r.Within extra' kept room)
    (k : ∀ b, (f b).Within extra (nodes b ++ kept) room) :
    (r >>= f).Within (fun levels => extra' levels + extra levels) kept room := by
  intro mode fuel s top hs hr hk
  refine (h mode fuel s top hs hr hk).bind fun b t ⟨ht, hb⟩ => ?_
  have narrower := ht.leads.slack_le
  have raised : t.Under (top + extra' s.levels) kept := (hk.passes ht).raise (Nat.le_add_right _ _)
  refine (k b mode fuel t (top + extra' s.levels) (ht.leads.terminated hs) ?_
    (hb.append raised)).mono fun a u ⟨hu, ha⟩ => ⟨ht.trans hu, ?_⟩
  · rw [ht.levels]
    omega
  · rw [ht.levels, Nat.add_assoc] at ha
    exact ha

/-- A rule behind one that stays under the ceiling. -/
theorem after {r : Rule β} {f : β → Rule α} (h : r.Builds kept room)
    (k : ∀ b, (f b).Within extra (nodes b ++ kept) room) : (r >>= f).Within extra kept room :=
  (h.bind k).further fun levels => Nat.le_of_eq (Nat.zero_add (extra levels))

/-- A rule in front of one that stays under the ceiling. -/
theorem before {r : Rule β} {f : β → Rule α} (h : r.Within extra kept room)
    (k : ∀ b, (f b).Builds (nodes b ++ kept) room) : (r >>= f).Within extra kept room :=
  h.bind k

/-- Two rules that close a node each. -/
theorem twice {r : Rule β} {f : β → Rule α} (h : r.Closes kept room)
    (k : ∀ b, (f b).Closes (nodes b ++ kept) room) : (r >>= f).Within (fun _ => 2) kept room :=
  h.bind k

/-- Two rules may be taken together: what the first makes for the second only need
    not stay under the ceiling. -/
theorem group {γ : Type} {r : Rule γ} {f : γ → Rule β} {g : β → Rule α}
    (h : (r >>= f).Builds kept room) (k : ∀ b, (g b).Within extra (nodes b ++ kept) room) :
    (r >>= fun c => f c >>= g).Within extra kept room := by
  rw [← LawfulMonad.bind_assoc]
  exact h.after k

/-- A value that was kept is given. -/
theorem pure {a : α} (h : Below (nodes a) kept) : (Pure.pure a : Rule α).Within extra kept room :=
  fun _ _ s _ _ _ hk => ⟨.refl s, (hk.below h).raise (Nat.le_add_right _ _)⟩

/-- A node without children fits wherever there is room at all. -/
theorem single {n : Node} (alone : n.children = []) (h : ∀ levels, 1 ≤ room levels) :
    (Pure.pure n : Rule Node).Within extra kept room := by
  intro mode fuel s top hs hr hk
  refine ⟨.refl s, fun m hm => ?_⟩
  obtain rfl := List.mem_singleton.mp hm
  have := h s.levels
  rw [Node.height_of_leaf alone]
  omega

/-- A look builds nothing. -/
theorem look {next : Situation → Rule α} (h : ∀ s, (next s).Within extra kept room) :
    (Rule.look next).Within extra kept room :=
  fun mode fuel s => h s mode fuel s

/-- Both ways on build within the room. -/
theorem ite {b : Prop} [Decidable b] {yes no : Rule α} (h : yes.Within extra kept room)
    (k : no.Within extra kept room) : (if b then yes else no).Within extra kept room := by
  split
  · exact h
  · exact k

/-- Taking a token builds nothing. -/
theorem take {next : Token → Rule α} (h : ∀ t, (next t).Within extra kept room) :
    (Rule.take next).Within extra kept room := by
  intro mode fuel s top hs hr hk
  have passed := Situation.Passes.taken hs
  have narrower := passed.leads.slack_le
  refine (h s.token mode fuel s.taken top (passed.leads.terminated hs) ?_ (hk.passes passed)).mono
    fun a t ⟨ht, ha⟩ => ⟨passed.trans ht, ?_⟩
  · rw [passed.levels]
    omega
  · rw [← passed.levels]
    exact ha

/-- Nor does a complaint. -/
theorem complain {span : Span} {fault : Fault} {next : Rule α} (h : next.Within extra kept room) :
    (Rule.complain span fault next).Within extra kept room :=
  fun mode fuel s top hs hr hk _ => h mode fuel s top hs hr hk

/-- Nor does opening a node. -/
theorem openAt {start : Nat} {next : List Comment → Rule α}
    (h : ∀ comments, (next comments).Within extra kept room) :
    (Rule.openAt start next).Within extra kept room :=
  fun mode fuel s top hs hr hk comments => h comments mode fuel s top hs hr hk

/-- A node is closed over nodes that were kept. -/
theorem close {shape : Shape Node} {span : Span} {comments : List Comment}
    (h : Below shape.children kept) :
    (Rule.close ⟨shape, span, comments, []⟩ .done).Closes kept room := by
  intro mode fuel s top hs hr hk trailing
  refine ⟨.refl s, fun n hn => ?_⟩
  obtain rfl := List.mem_singleton.mp hn
  have lower : ∀ x ∈ shape.children, x.height ≤ top - s.slack := fun x hx => by
    have := (hk.below h) x hx
    omega
  have closed : Node.height ⟨shape, span, comments, [] ++ trailing⟩ ≤ top - s.slack + 1 :=
    Node.height_le_succ.mpr lower
  show Node.height ⟨shape, span, comments, [] ++ trailing⟩ + s.slack ≤ top + 1
  omega

end Within

/-! ## Loops -/

/-- A loop whose rounds stay under the ceiling stays under it, however often it
    goes round. -/
theorem Builds.loop {step : β → Rule (Turn β α)} {b : β} (start : Below (nodes b) kept)
    (h : ∀ b, (step b).Builds (nodes b ++ kept) room) : (Rule.loop b step).Builds kept room := by
  intro mode fuel s top hs hr hk
  have go : ∀ n b s, Lexeme.Terminated s.ahead → room s.levels + s.slack ≤ top →
      s.Under top (nodes b ++ kept) → (Rule.iterate step n b).Meets (.ceiled mode) fuel s
        fun a t => s.Passes t ∧ t.Under (top + 0) (nodes a) := by
    intro n
    induction n with
    | zero => exact fun _ _ _ _ _ => trivial
    | succ n ih =>
        intro b s hs hr hk
        show (step b >>= _).Meets _ _ s _
        refine (h b mode fuel s top hs hr hk).bind fun turn t ⟨ht, hb⟩ => ?_
        cases turn with
        | leave a => exact ⟨ht, hb⟩
        | again b =>
            have narrower := ht.leads.slack_le
            have rest := (hk.passes ht).below (.of_subset (List.subset_append_right _ _))
            refine (ih b t (ht.leads.terminated hs) ?_ (hb.append rest)).mono
              fun a u ⟨hu, ha⟩ => ⟨ht.trans hu, ha⟩
            rw [ht.levels]
            omega
  exact go fuel b s hs hr ((hk.below start).append hk)

/-! ## Calls -/

section Calls

variable {phrase : Nonterminal}

/-- What a phrase that continues nothing gives, told by the situation it was called
    in, which has as many tokens ahead. -/
theorem under_of_gives {mode : Mode} {s t u : Situation} {n : Node} {top : Nat}
    (alone : phrase.left? = none) (gives : (Contract.ceiled mode).gives phrase s n t)
    (room : phrase.height s.levels + s.slack ≤ top) (ahead : u.ahead = t.ahead) :
    u.Under (top + 0) (nodes n) := by
  intro m hm
  obtain rfl := List.mem_singleton.mp hm
  have high := gives.2.2 top room (by rw [alone]; exact .nil s top)
  have links : phrase.links s.levels = 0 := by
    cases phrase <;> first | rfl | cases alone
  rw [Situation.slack_congr ahead]
  omega

/-- Calling a phrase that continues nothing. -/
theorem Builds.same (alone : phrase.left? = none)
    (h : ∀ levels, phrase.height levels ≤ room levels) :
    (Rule.call .same phrase .done).Builds kept room := by
  intro mode fuel s top hs hr hk
  have := h s.levels
  exact ⟨hs, fun n t gives => ⟨⟨gives.1, gives.2.1 alone⟩,
    under_of_gives alone gives (by omega) rfl⟩⟩

/-- The body of a function is as high as the phrase that is called. -/
theorem Builds.functionBody (alone : phrase.left? = none)
    (h : ∀ levels, phrase.height levels ≤ room levels) :
    (Rule.call .functionBody phrase .done).Builds kept room := by
  intro mode fuel s top hs hr hk
  have := h s.levels
  refine ⟨hs, fun n t gives => ⟨⟨gives.1, gives.2.1 alone⟩, ?_⟩⟩
  exact under_of_gives alone gives (Nat.le_trans (Nat.add_le_add_right this _) hr) rfl

/-- Calling a phrase one level further down. -/
theorem Builds.nested (alone : phrase.left? = none)
    (h : ∀ levels, deeper phrase.height levels ≤ room levels) :
    (Rule.call .nested phrase .done).Builds kept room := by
  intro mode fuel s top hs hr hk
  have lower := h s.levels
  show Contract.Calls _ _ .nested _ _ _
  simp only [Contract.Calls]
  split
  -- At the limit there is no level to spend: what stands for the phrase has height one, which the
  -- token that is left out pays.
  · rename_i full
    have none : s.levels = 0 := Nat.sub_eq_zero_of_le full
    refine fun _ => ⟨.taken hs, fun n hn => ?_⟩
    obtain rfl := List.mem_singleton.mp hn
    have single : (Progress.fallback phrase s.taken.previousEnd).height = 1 := by
      cases phrase <;> exact Node.height_of_leaf rfl
    have narrower := (Situation.leads_taken hs).slack_le
    rw [none, deeper] at lower
    rw [none] at hr
    show (Progress.fallback phrase s.taken.previousEnd).height + s.taken.slack ≤ top + 0
    omega
  -- Below the limit the phrase is built with one level less.
  · rename_i allowed
    have one : s.levels = Situation.levels { s with depth := s.depth + 1 } + 1 := by
      simp only [Situation.levels]
      omega
    refine ⟨hs, fun n t gives => ⟨⟨gives.1, ?_⟩, under_of_gives alone gives ?_ rfl⟩⟩
    · show t.depth - 1 = s.depth
      rw [gives.2.1 alone]
      rfl
    · rw [one, deeper] at lower
      rw [one] at hr
      exact Nat.le_trans (Nat.add_le_add_right lower _) hr

/-- Calling a phrase that continues a node. -/
theorem Chains.continues (h : ∀ levels, phrase.height levels ≤ room levels)
    (k : Below (nodes phrase.left?) kept) : (Rule.call .chain phrase .done).Chains kept room := by
  intro mode fuel s top hs hr hk
  have lower := h s.levels
  refine ⟨hs, fun n t gives => ⟨⟨gives.1, rfl⟩, fun m hm => ?_⟩⟩
  obtain rfl := List.mem_singleton.mp hm
  have high := gives.2.2 top (by omega) (hk.below k)
  have links : phrase.links s.levels ≤ s.levels := by
    cases phrase <;> simp [Nonterminal.links]
  exact Nat.le_trans high (Nat.add_le_add_left links top)

end Calls

end Rule

end ScriptTree

import ScriptTree.Proofs.Height.Basic
import ScriptTree.Proofs.Node.Shelter

/-! # Sheltering — which rules put `return` where

    A rule is followed inside of a function or outside.  Outside, all nodes that a strict
    parse makes are to be sheltered; inside, it must not complain of a `return`.  Both are
    one condition on rules, since the flag that decides about the complaint is the one that
    says where the rule stands: `Shelters` reads the condition off a rule, step by step, and
    relies for the phrases that are called on what they are to give.

    A loose parse goes on behind a complaint, and what is of interest there is another
    thing: whether the body of a function lies around the place of the complaint.  So what
    is asked of nodes is a parameter, the `Shelter`.

    Most rules only close nodes over nodes that they kept, and `Houses` says so. -/

namespace ScriptTree

variable {σ α β : Type} {text : List Char}

/-! ## Shelters -/

/-- What is asked of the nodes that a parse of the text makes. -/
structure Shelter (text : List Char) where
  /-- What becomes of complaints. -/
  mode : Mode
  /-- The block may be the body of a function. -/
  Good : Node → Prop
  /-- Something is known of what was made between the two places. -/
  Clear : Situation → Situation → Prop
  always : mode = .strict → ∀ s t, Clear s t
  front : ∀ {s t u : Situation}, t.token.span.start ≤ u.token.span.start → Clear s u → Clear s t
  back : ∀ {s t u : Situation}, s.token.span.start ≤ t.token.span.start → Clear s u → Clear t u
  /-- A block that reaches from the one place to the other may be a body. -/
  body : ∀ {s t : Situation} {n : Node}, Clear s t →
    s.token.span.start ≤ t.token.span.start → t.previousEnd ≤ t.token.span.start →
    n.type = .blockStatement →
    n.span = ⟨s.token.span.start, max t.previousEnd s.token.span.start⟩ →
    (mode = .loose → n.Sheltered True Good) → Good n

namespace Shelter

variable (S : Shelter text) {inside : Bool} {ns ms : List Node} {n : Node}

/-- What is asked of a node inside of a function or outside: inside of one a strict parse
    asks nothing. -/
def Keeps (inside : Bool) (n : Node) : Prop :=
  (S.mode = .strict → inside = false) → n.Sheltered (S.mode = .loose) S.Good

/-- So it is asked of all nodes of a list. -/
def Housed (inside : Bool) (ns : List Node) : Prop := ∀ n ∈ ns, S.Keeps inside n

/-- What a phrase gives that was called in the frame. -/
def Gives (frame : Frame) (inside : Bool) (n : Node) : Prop :=
  match frame with
  | .functionBody => S.Good n
  | _ => S.Keeps inside n

variable {S}

namespace Housed

/-- No node asks for anything. -/
theorem nil : S.Housed inside [] := fun _ => nofun

/-- A part of a list is housed. -/
theorem mono (h : S.Housed inside ns) (sub : ms ⊆ ns) : S.Housed inside ms :=
  fun n hn => h n (sub hn)

/-- Two lists are housed. -/
theorem append (h : S.Housed inside ns) (k : S.Housed inside ms) : S.Housed inside (ns ++ ms) :=
  fun n hn => (List.mem_append.mp hn).elim (h n) (k n)

/-- A node that is kept is housed. -/
theorem one (h : S.Keeps inside n) : S.Housed inside [n] :=
  fun _ hn => List.mem_singleton.mp hn ▸ h

end Housed

/-- A node is closed over nodes that are kept: a `return` where it may stand, and a function
    with a good body. -/
theorem keeps_of_outside (admitted : n.type = .returnStatement → S.mode = .strict → inside = true)
    (block : ∀ body, n.shape.functionBody? = some body → S.Good body)
    (outside : ∀ x ∈ n.shape.outside, S.Keeps inside x) : S.Keeps inside n := by
  intro asked
  refine .intro (fun here => ?_) block fun x hx => outside x hx asked
  cases mode : S.mode with
  | strict => exact absurd ((admitted here mode).symm.trans (asked mode)) (by decide)
  | loose => rfl

/-- A node through which one looks is kept if its parts are. -/
theorem keeps_of_transparent (plain : n.shape.isTransparent = true)
    (parts : ∀ x ∈ n.parts, S.Keeps inside x) : S.Keeps inside n :=
  fun asked => .of_transparent plain fun x hx => parts x hx asked

end Shelter

/-- Where a phrase stands that is called in the frame. -/
def Frame.inside (outer : Bool) : Frame → Bool
  | .functionBody => true
  | _ => outer

/-! ## Rules -/

/-- The next step of the rule is to take a token. -/
def Rule.takes : Rule α → Bool
  | .take _ => true
  | _ => false

/-- Every way through the rule, inside of a function or outside, ends with the property, or
    in a complaint that is due there.  One about a `return` is made outside of functions, at
    the word, which is taken next if the parse goes on. -/
def Rule.Shelters (S : Shelter text) (inside : Bool) : Rule α → Situation → (α → Prop) → Prop
  | .done a, _, post => post a
  | .look next, s, post => (next s).Shelters S inside s post
  | .take next, _, post =>
    ∀ t (s : Situation), s.inFunction = inside → (next t).Shelters S inside s post
  | .openAt _ next, s, post => ∀ comments, (next comments).Shelters S inside s post
  | .close node next, s, post =>
    ∀ comments, (next { node with trailingComments := node.trailingComments ++ comments }).Shelters
      S inside s post
  | .complain span fault next, s, post =>
    (fault = .returnOutsideFunction → inside = false ∧ span = s.token.span ∧
      s.token.kind = .keyword .returnWord ∧ next.takes = true) ∧
      (S.mode = .loose → next.Shelters S inside s post)
  | .deepen next, _, post =>
    ∀ ok (s : Situation), s.inFunction = inside → (S.mode = .strict → ok = true) →
      (next ok).Shelters S inside s post
  | .call frame phrase next, _, post =>
    (frame = .functionBody → phrase = .block) ∧ S.Housed inside (nodes phrase.left?) ∧
      ∀ n (s : Situation), s.inFunction = inside → S.Gives frame inside n →
        (next n).Shelters S inside s post
  | .budget next, s, post => ∀ rounds, (next rounds).Shelters S inside s post
  | .overrun, _, _ => True

namespace Rule

variable {S : Shelter text} {inside : Bool} {between : β → Prop} {post : α → Prop} {s : Situation}

/-- A rule, and what follows it. -/
theorem Shelters.bind {r : Rule β} {f : β → Rule α} (h : r.Shelters S inside s between)
    (flag : s.inFunction = inside)
    (k : ∀ b (t : Situation), t.inFunction = inside → between b → (f b).Shelters S inside t post) :
    (r >>= f).Shelters S inside s post := by
  show (r.bind f).Shelters S inside s post
  induction r generalizing s with
  | done a => exact k a s flag h
  | look next ih => exact ih s h flag
  | take next ih => exact fun t s flag => ih t (h t s flag) flag
  | openAt start next ih => exact fun comments => ih comments (h comments) flag
  | close node next ih => exact fun comments => ih _ (h comments) flag
  | complain span fault next ih =>
      refine ⟨fun same => ?_, fun loose => ih (h.2 loose) flag⟩
      obtain ⟨outside, place, word, takes⟩ := h.1 same
      refine ⟨outside, place, word, ?_⟩
      cases next with
      | take next => rfl
      | _ => cases takes
  | deepen next ih => exact fun ok s flag opened => ih ok (h ok s flag opened) flag
  | call frame phrase next ih =>
      exact ⟨h.1, h.2.1, fun n s flag gives => ih n (h.2.2 n s flag gives) flag⟩
  | budget next ih => exact fun rounds => ih rounds (h rounds) flag
  | overrun => trivial

end Rule

/-! ## Rules that keep nodes -/

namespace Rule

/-- If the nodes kept so far are housed, so are those of the value the rule ends with. -/
def Houses [HasNodes α] (S : Shelter text) (inside : Bool) (kept : List Node) (r : Rule α) :
    Prop :=
  ∀ s : Situation, s.inFunction = inside → S.Housed inside kept →
    r.Shelters S inside s fun a => S.Housed inside (nodes a)

namespace Houses

variable [HasNodes α] [HasNodes β] {S : Shelter text} {inside : Bool} {kept more : List Node}

/-- A rule behind another may keep what that one made. -/
theorem after {r : Rule β} {f : β → Rule α} (h : r.Houses S inside kept)
    (k : ∀ b, (f b).Houses S inside (nodes b ++ kept)) : (r >>= f).Houses S inside kept :=
  fun s flag hk => (h s flag hk).bind flag fun b t flag hb => k b t flag (hb.append hk)

/-- What follows from the nodes that are kept may be kept as well. -/
theorem keep {r : Rule α} (also : S.Housed inside kept → S.Housed inside more)
    (h : r.Houses S inside (more ++ kept)) : r.Houses S inside kept :=
  fun s flag hk => h s flag ((also hk).append hk)

/-- A rule that keeps no node may stand behind any. -/
theorem alone {r : Rule α} (h : r.Houses S inside []) : r.Houses S inside kept :=
  fun s flag _ => h s flag .nil

/-- A value with nodes that were kept is given. -/
theorem pure {a : α} (h : nodes a ⊆ kept) : (Pure.pure a : Rule α).Houses S inside kept :=
  fun _ _ hk => hk.mono h

/-- A look makes nothing. -/
theorem look {next : Situation → Rule α}
    (h : ∀ s : Situation, s.inFunction = inside → (next s).Houses S inside kept) :
    (Rule.look next).Houses S inside kept :=
  fun s flag hk => h s flag s flag hk

/-- Both ways on house what they make. -/
theorem ite {b : Prop} [Decidable b] {yes no : Rule α} (h : yes.Houses S inside kept)
    (k : no.Houses S inside kept) : (if b then yes else no).Houses S inside kept := by
  split
  · exact h
  · exact k

/-- Taking a token makes nothing. -/
theorem take {next : Token → Rule α} (h : ∀ t, (next t).Houses S inside kept) :
    (Rule.take next).Houses S inside kept :=
  fun _ _ hk t s flag => h t s flag hk

/-- A complaint that has nothing to do with functions may be made anywhere. -/
theorem complain {span : Span} {fault : Fault} {next : Rule α}
    (other : fault ≠ .returnOutsideFunction) (h : next.Houses S inside kept) :
    (Rule.complain span fault next).Houses S inside kept :=
  fun s flag hk => ⟨fun same => absurd same other, fun _ => h s flag hk⟩

/-- Nor does opening a node. -/
theorem openAt {start : Nat} {next : List Comment → Rule α}
    (h : ∀ comments, (next comments).Houses S inside kept) :
    (Rule.openAt start next).Houses S inside kept :=
  fun s flag hk comments => h comments s flag hk

/-- A node is closed over nodes that were kept, if it is a `return` only where one may stand
    and the body of it, if it is a function, is a good one. -/
theorem close {shape : Shape Node} {span : Span} {comments : List Comment}
    (admitted : shape.type = .returnStatement → S.mode = .strict → inside = true)
    (block : ∀ body, shape.functionBody? = some body → S.Good body)
    (h : shape.outside ⊆ kept) :
    (Rule.close ⟨shape, span, comments, []⟩ .done).Houses S inside kept :=
  fun _ _ hk _ => .one (Shelter.keeps_of_outside admitted block fun x hx => hk x (h hx))

/-- Calling a phrase, which continues a node that was kept if it continues any. -/
theorem call {frame : Frame} {phrase : Nonterminal} (plain : frame ≠ .functionBody)
    (left : nodes phrase.left? ⊆ kept) : (Rule.call frame phrase .done).Houses S inside kept := by
  refine fun _ _ hk => ⟨fun same => absurd same plain, hk.mono left, fun n s flag gives => ?_⟩
  cases frame with
  | functionBody => exact absurd rfl plain
  | _ => exact .one gives

/-- A loop that houses its nodes round by round. -/
theorem loop {step : β → Rule (Turn β α)} {b : β} (start : nodes b ⊆ kept)
    (h : ∀ b, (step b).Houses S inside (nodes b ++ kept)) :
    (Rule.loop b step).Houses S inside kept := by
  intro s flag hk rounds
  have go (b : β) (s : Situation) (flag : s.inFunction = inside) (hb : S.Housed inside (nodes b)) :
      (Rule.iterate step rounds b).Shelters S inside s fun a => S.Housed inside (nodes a) := by
    induction rounds generalizing b s with
    | zero => trivial
    | succ rounds ih =>
        show (step b >>= _).Shelters S inside s _
        refine (h b s flag (hb.append hk)).bind flag fun turn t flag ht => ?_
        -- What a round hands on is housed, so the next one may start from it.
        cases turn with
        | again b => exact ih b t flag ht
        | leave a => exact ht
  exact go b s flag (hk.mono start)

end Houses

end Rule

end ScriptTree

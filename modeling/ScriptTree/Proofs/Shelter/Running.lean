import ScriptTree.Proofs.Grammar.Lockstep
import ScriptTree.Proofs.Grammar.Nesting
import ScriptTree.Proofs.Grammar.Rejection
import ScriptTree.Proofs.Lexeme.Fault
import ScriptTree.Proofs.Shelter.Basic

/-! # Sheltered runs — what becomes of the nodes, and of the flag

    A run of a rule that shelters ends as the rule says: with a value that satisfies the
    property (`Rule.Shelters.done_run`) or, in a strict parse, with a complaint that is due
    (`Rule.Shelters.rejected_run`).  The flag is left as it was found, whatever frames were
    opened between.

    Where a strict parse is rejected for a `return`, the loose parse of the same text takes
    the word and goes on.  `Rule.Shelters.crossed_run` follows both at once: up to the
    complaint they are in lockstep, so that every body of a function that the loose parse
    makes either ended before the word, or begins behind it, or was begun before and is open
    there.  In the last case the flag would be set, and nothing would be complained of. -/

namespace ScriptTree

variable {σ α β : Type} {text : List Char}

/-! ## Where a parse goes on -/

/-- The parse stands in the text, and what is reported of the lexemes to come was found while
    scanning. -/
structure Situation.Reads (text : List Char) (s : Situation) : Prop where
  lies : s.LiesIn text
  lexical : ∀ l ∈ s.upcoming, Diagnostic.Lexical l.diagnostics

/-- A parse goes on in the text, and never back. -/
theorem Situation.Onward.reads {s t : Situation} (h : s.Onward t) (here : s.Reads text) :
    t.Reads text ∧ s.token.span.start ≤ t.token.span.start := by
  induction h with
  | @still s t ahead previousEnd =>
      obtain ⟨current, upcoming⟩ := List.cons.inj ahead
      have token : t.token = s.token := congrArg Lexeme.token current
      refine ⟨⟨⟨?_, ?_, ?_⟩, upcoming ▸ here.lexical⟩, Nat.le_of_eq (by rw [token])⟩
      · rw [ahead]
        exact here.lies.placed
      · rw [previousEnd]
        exact here.lies.boundary
      · rw [previousEnd, token]
        exact here.lies.behind
  | taken s =>
      have lexical := fun l hl => here.lexical l ((Onward.taken s).upcoming_suffix.subset hl)
      exact ⟨⟨here.lies.taken, lexical⟩, (Laid.taken here.lies).start_le⟩
  | trans _ _ ih ih' =>
      obtain ⟨there, le⟩ := ih here
      obtain ⟨further, le'⟩ := ih' there
      exact ⟨further, Nat.le_trans le le'⟩

/-- Taking a token does not touch the flag. -/
theorem Situation.inFunction_taken (s : Situation) : s.taken.inFunction = s.inFunction := by
  rw [taken]
  split <;> rfl

namespace Frame

variable {s t : Situation}

/-- Where a phrase starts that is called in the frame. -/
def enter : Frame → Situation → Situation
  | .functionBody, s => { s with inFunction := true }
  | .nested, s => { s with depth := s.depth + 1 }
  | _, s => s

/-- What the frame gives back behind the phrase. -/
def leave (outer : Situation) : Frame → Situation → Situation
  | .same, t => t
  | .chain, t => { t with depth := outer.depth }
  | .functionBody, t => { t with inFunction := outer.inFunction }
  | .nested, t => { t with depth := t.depth - 1 }

/-- Entering a frame takes no token. -/
theorem enter_onward (frame : Frame) : s.Onward (frame.enter s) := by
  cases frame <;> exact .still rfl rfl

@[simp] theorem token_enter (frame : Frame) : (frame.enter s).token = s.token := by
  cases frame <;> rfl

@[simp] theorem inFunction_enter (frame : Frame) :
    (frame.enter s).inFunction = frame.inside s.inFunction := by
  cases frame <;> rfl

@[simp] theorem token_leave (frame : Frame) : (frame.leave s t).token = t.token := by
  cases frame <;> rfl

@[simp] theorem previousEnd_leave (frame : Frame) :
    (frame.leave s t).previousEnd = t.previousEnd := by
  cases frame <;> rfl

/-- Where the phrase has kept the flag, it is as it was before the frame. -/
theorem inFunction_leave {frame : Frame} (same : t.inFunction = (frame.enter s).inFunction) :
    (frame.leave s t).inFunction = s.inFunction := by
  cases frame <;> first | rfl | exact same

end Frame

namespace Outcome

variable {o : Outcome σ α} {move : Situation → Situation} {p : Progress σ}

/-- A parse is done behind a move of its situation if it was done before. -/
theorem adjust_eq_done {a : α} (h : o.adjust move = .done a p) :
    ∃ q, o = .done a q ∧ p = { q with situation := move q.situation } := by
  cases o with
  | done b q =>
      cases h
      exact ⟨q, rfl, rfl⟩
  | stopped why q => cases h

/-- A parse has stopped behind a move of its situation if it had stopped before. -/
theorem adjust_eq_stopped {why : Stop} (h : o.adjust move = .stopped why p) :
    ∃ q, o = .stopped why q ∧ p = { q with situation := move q.situation } := by
  cases o with
  | done b q => cases h
  | stopped other q =>
      cases h
      exact ⟨q, rfl, rfl⟩

/-- Where a parse is done, it stands further on. -/
theorem Stands.of_done {lines : LineIndex} {s : Situation} {a : α} (h : o.Stands lines s)
    (same : o = .done a p) : s.Onward p.situation := by
  subst same
  exact h.onward

/-- Where it has stopped, it stands further on too. -/
theorem Stands.of_stopped {lines : LineIndex} {s : Situation} {why : Stop}
    (h : o.Stands lines s) (same : o = .stopped why p) : s.Onward p.situation := by
  subst same
  exact h.onward

end Outcome

/-! ## Single steps -/

namespace Progress

variable {setting : Setting σ} {p q : Progress σ}

/-- A token that was taken is behind. -/
theorem take_eq_done {t : Token} (h : p.take setting = .done t q) :
    q.situation = p.situation.taken := by
  rw [← situation_take setting p, h]
  rfl

/-- An error that is met on the way to a token was found while scanning. -/
theorem lexical_of_take {e : SyntaxError} (here : p.situation.Reads text)
    (h : p.take setting = .stopped (.rejected e) q) : e.fault.isLexical = true := by
  have rejected : (p.take setting).error? = some e := by
    rw [h]
    rfl
  obtain ⟨l, there, d, found, rfl⟩ := error?_take rejected
  exact here.lexical l there d found

/-- Only a loose parse goes on behind a complaint. -/
theorem complain_eq_done {span : Span} {fault : Fault} {u : Unit}
    (h : p.complain setting span fault = .done u q) : setting.mode = .loose ∧ q = p := by
  rw [complain] at h
  cases mode : setting.mode with
  | strict =>
      rw [mode] at h
      cases h
  | loose =>
      rw [mode] at h
      cases h
      exact ⟨rfl, rfl⟩

/-- A complaint that rejects is strict, and is the one that was made. -/
theorem complain_eq_rejected {span : Span} {fault : Fault} {e : SyntaxError}
    (h : p.complain setting span fault = .stopped (.rejected e) q) :
    setting.mode = .strict ∧ e.fault = fault ∧ e.span = span ∧ q.situation = p.situation := by
  rw [complain] at h
  cases mode : setting.mode with
  | strict =>
      rw [mode] at h
      cases h
      exact ⟨rfl, rfl, rfl, rfl⟩
  | loose =>
      rw [mode] at h
      cases h

/-- A level that was opened in strict mode is allowed. -/
theorem deepen_eq_done {ok : Bool} (h : p.deepen setting = .done ok q) :
    (setting.mode = .strict → ok = true) ∧ q.situation.inFunction = p.situation.inFunction := by
  rw [deepen] at h
  split at h
  · obtain ⟨_, r, complained, goes⟩ := Outcome.andThen_eq_done h
    obtain ⟨loose, rfl⟩ := complain_eq_done complained
    cases goes
    exact ⟨fun strict => absurd (loose.symm.trans strict) (by decide), rfl⟩
  · cases h
    exact ⟨fun _ => rfl, rfl⟩

/-- Levels are rejected for their nesting. -/
theorem deepen_eq_rejected {e : SyntaxError}
    (h : p.deepen setting = .stopped (.rejected e) q) : e.fault = .nestingTooDeep := by
  rw [deepen] at h
  split at h
  · rcases Outcome.andThen_eq_rejected h with complained | ⟨_, r, -, goes⟩
    · exact (complain_eq_rejected complained).2.1
    · cases goes
  · cases h

variable {parse : Nonterminal → Progress σ → Outcome σ Node} {frame : Frame}
  {phrase : Nonterminal}

/-- A phrase is parsed in its frame, unless it is nested too deep. -/
theorem call_eq (shallow : frame = .nested → p.situation.depth < nestingLimit) :
    p.call setting parse frame phrase =
      (parse phrase { p with situation := frame.enter p.situation }).adjust
        (frame.leave p.situation) := by
  cases frame with
  | same =>
      show parse phrase p = (parse phrase p).adjust _
      cases parse phrase p <;> rfl
  | chain => rfl
  | functionBody => rfl
  | nested => exact if_neg (Nat.not_le_of_lt (shallow rfl))

/-- How a call came to its node: by the phrase, or in place of one that is nested too deep. -/
theorem call_eq_done {n : Node} (h : p.call setting parse frame phrase = .done n q) :
    (∃ r, parse phrase { p with situation := frame.enter p.situation } = .done n r ∧
      q = { r with situation := frame.leave p.situation r.situation }) ∨
    (frame = .nested ∧ nestingLimit ≤ p.situation.depth) ∧
      n = fallback phrase q.situation.previousEnd ∧ q.situation = p.situation.taken := by
  by_cases deep : frame = .nested ∧ nestingLimit ≤ p.situation.depth
  · obtain ⟨rfl, deep⟩ := deep
    rw [call] at h
    dsimp only at h
    rw [if_pos deep] at h
    obtain ⟨_, r, complained, rest⟩ := Outcome.andThen_eq_done h
    obtain ⟨-, rfl⟩ := complain_eq_done complained
    obtain ⟨t, s, taken, ends⟩ := Outcome.andThen_eq_done rest
    cases ends
    exact .inr ⟨⟨rfl, deep⟩, rfl, take_eq_done taken⟩
  · rw [call_eq fun nested => Nat.lt_of_not_le fun le => deep ⟨nested, le⟩] at h
    exact .inl (Outcome.adjust_eq_done h)

/-- How a call of a strict parse is rejected: in the phrase, or because it is nested too
    deep. -/
theorem call_eq_rejected (strict : setting.mode = .strict) {e : SyntaxError}
    (h : p.call setting parse frame phrase = .stopped (.rejected e) q) :
    (∃ r, parse phrase { p with situation := frame.enter p.situation } =
        .stopped (.rejected e) r ∧
      q = { r with situation := frame.leave p.situation r.situation } ∧
      ¬ (frame = .nested ∧ nestingLimit ≤ p.situation.depth)) ∨ e.fault = .nestingTooDeep := by
  by_cases deep : frame = .nested ∧ nestingLimit ≤ p.situation.depth
  · obtain ⟨rfl, le⟩ := deep
    rw [call] at h
    dsimp only at h
    rw [if_pos le] at h
    rcases Outcome.andThen_eq_rejected h with complained | ⟨_, r, complained, -⟩
    · exact .inr (complain_eq_rejected complained).2.1
    · exact absurd (strict.symm.trans (complain_eq_done complained).1) (by decide)
  · rw [call_eq fun nested => Nat.lt_of_not_le fun le => deep ⟨nested, le⟩] at h
    obtain ⟨r, stopped, same⟩ := Outcome.adjust_eq_stopped h
    exact .inl ⟨r, stopped, same, deep⟩

end Progress

/-! ## Runs that end with a value -/

/-- The block reaches from the one place to the last token that was taken before the other. -/
structure Node.Blocks (n : Node) (s t : Situation) : Prop where
  type : n.type = .blockStatement
  span : n.span = ⟨s.token.span.start, max t.previousEnd s.token.span.start⟩

/-- What the parse of a phrase has made is kept, as far as something is known of it. -/
def Shelter.KeptBy (S : Shelter text) (parse : Nonterminal → Progress σ → Outcome σ Node) : Prop :=
  ∀ phrase (p : Progress σ) n q, p.situation.Reads text →
    S.Housed p.situation.inFunction (nodes phrase.left?) → parse phrase p = .done n q →
    S.Clear p.situation q.situation →
      q.situation.inFunction = p.situation.inFunction ∧ S.Keeps p.situation.inFunction n ∧
        (phrase = .block → n.Blocks p.situation q.situation)

section

variable {S : Shelter text} {setting : Setting σ} {fuel : Nat}
  {parse : Nonterminal → Progress σ → Outcome σ Node} {inside : Bool} {p q : Progress σ}
  {post : α → Prop}

/-- What a frame keeps the phrase keeps. -/
theorem Shelter.Housed.enter {frame : Frame} {phrase : Nonterminal}
    (body : frame = .functionBody → phrase = .block) (h : S.Housed inside (nodes phrase.left?)) :
    S.Housed (frame.inside inside) (nodes phrase.left?) := by
  cases frame with
  | functionBody =>
      obtain rfl := body rfl
      exact .nil
  | _ => exact h

/-- A call gives what its frame asks for. -/
theorem Shelter.KeptBy.call (kept : S.KeptBy parse) (here : p.situation.Reads text)
    (flag : p.situation.inFunction = inside) {frame : Frame} {phrase : Nonterminal} {n : Node}
    (body : frame = .functionBody → phrase = .block) (left : S.Housed inside (nodes phrase.left?))
    (called : p.call setting parse frame phrase = .done n q)
    (onward : p.situation.Onward q.situation) (clear : S.Clear p.situation q.situation) :
    q.situation.inFunction = inside ∧ S.Gives frame inside n := by
  subst flag
  obtain ⟨there, le⟩ := onward.reads here
  rcases Progress.call_eq_done called with ⟨r, parsed, rfl⟩ | ⟨⟨rfl, -⟩, rfl, taken⟩
  -- The phrase stands in its frame, which reads the same tokens and may set the flag.
  · have entered := (frame.enter_onward (s := p.situation)).reads here
    have clear' : S.Clear (frame.enter p.situation) r.situation := by
      refine S.front (u := frame.leave p.situation r.situation) ?_ (S.back ?_ clear)
      · exact Nat.le_of_eq (by rw [Frame.token_leave])
      · exact entered.2
    obtain ⟨flag, keeps, block⟩ := kept phrase _ n r entered.1
      (by simpa using left.enter body) parsed clear'
    refine ⟨Frame.inFunction_leave flag, ?_⟩
    cases frame with
    | functionBody =>
        obtain ⟨type, span⟩ := block (body rfl)
        -- A body is sheltered whether or not it starts inside a function.
        refine S.body clear le there.lies.behind type span fun loose => ?_
        have sheltered := keeps fun strict => absurd (loose.symm.trans strict) nofun
        rwa [eq_true loose] at sheltered
    | _ => exact keeps
  -- At the limit the phrase is a placeholder, which holds no `return`.
  · refine ⟨by rw [taken, Situation.inFunction_taken], ?_⟩
    show S.Keeps p.situation.inFunction _
    cases phrase <;> exact Shelter.keeps_of_transparent rfl nofun

/-- Behind a step a run lies in the text as well, and either part of it is clear if the
    whole is. -/
theorem Rule.clear_behind {r : Rule α} {s : Situation} {a : α}
    (stands : ∀ phrase p, (parse phrase p).Stands setting.lines p.situation)
    (here : s.Reads text) (onward : s.Onward p.situation)
    (run : r.run setting fuel parse p = .done a q) (clear : S.Clear s q.situation) :
    p.situation.Reads text ∧ S.Clear s p.situation ∧ S.Clear p.situation q.situation := by
  obtain ⟨there, le⟩ := onward.reads here
  have le' := (((Rule.run_stands stands r p).of_done run).reads there).2
  exact ⟨there, S.front le' clear, S.back le clear⟩

/-- A run that ends with a value ends with what the rule shelters, and with the flag as it
    was. -/
theorem Rule.Shelters.done_run {r : Rule α} (h : r.Shelters S inside p.situation post)
    (mode : setting.mode = S.mode)
    (stands : ∀ phrase p, (parse phrase p).Stands setting.lines p.situation)
    (kept : S.KeptBy parse) (here : p.situation.Reads text)
    (flag : p.situation.inFunction = inside) {a : α}
    (run : r.run setting fuel parse p = .done a q) (clear : S.Clear p.situation q.situation) :
    q.situation.inFunction = inside ∧ post a := by
  induction r generalizing p with
  | done b =>
      cases run
      exact ⟨flag, h⟩
  | look next ih => exact ih _ h here flag run clear
  | take next ih =>
      obtain ⟨t, s, taken, goes⟩ := Outcome.andThen_eq_done run
      -- What the rule takes first is clear of the token in question, and so is what comes behind.
      obtain ⟨there, -, clear⟩ := clear_behind stands here
        ((Progress.take_stands setting p).of_done taken) goes clear
      have flag : s.situation.inFunction = inside := by
        rw [Progress.take_eq_done taken, Situation.inFunction_taken, flag]
      exact ih t (h t s.situation flag) there flag goes clear
  | openAt start next ih =>
      let answer := setting.observer.opened start p.observed
      exact ih answer.1 (p := ⟨p.situation, answer.2⟩) (h answer.1) here flag run clear
  | close node next ih =>
      let answer := setting.observer.closed node p.observed
      exact ih _ (p := ⟨p.situation, answer.2⟩) (h answer.1) here flag run clear
  -- In strict mode a complaint ends the run, so the mode is loose.
  | complain span fault next ih =>
      obtain ⟨_, s, complained, goes⟩ := Outcome.andThen_eq_done run
      obtain ⟨loose, rfl⟩ := Progress.complain_eq_done complained
      exact ih (h.2 (mode ▸ loose)) here flag goes clear
  | deepen next ih =>
      obtain ⟨ok, s, deepened, goes⟩ := Outcome.andThen_eq_done run
      obtain ⟨there, -, clear⟩ := clear_behind stands here
        (Progress.deepen_stands.of_done deepened) goes clear
      obtain ⟨opened, same⟩ := Progress.deepen_eq_done deepened
      have flag : s.situation.inFunction = inside := same.trans flag
      exact ih ok (h ok s.situation flag (mode ▸ opened)) there flag goes clear
  | call frame phrase next ih =>
      obtain ⟨n, s, called, goes⟩ := Outcome.andThen_eq_done run
      have onward := (Progress.call_stands stands frame phrase).of_done called
      obtain ⟨there, before, clear⟩ := clear_behind stands here onward goes clear
      obtain ⟨body, left, onto⟩ := h
      obtain ⟨flag, gives⟩ := kept.call here flag body left called onward before
      exact ih n (onto n s.situation flag gives) there flag goes clear
  | budget next ih => exact ih _ (h _) here flag run clear
  | overrun => cases run

/-! ## Strict runs that are rejected -/

/-- A complaint about a `return` is due at the situation: no function is around it, and the
    error is about the word there. -/
structure Situation.Due (inside : Bool) (s : Situation) (e : SyntaxError) : Prop where
  outside : inside = false
  place : e.span = s.token.span
  word : s.token.kind = .keyword .returnWord

/-- The parse of a phrase complains of a `return` only where this is due. -/
def Shelter.BlamedBy (S : Shelter text) (parse : Nonterminal → Progress σ → Outcome σ Node) :
    Prop :=
  ∀ phrase (p : Progress σ) e q, p.situation.Reads text →
    S.Housed p.situation.inFunction (nodes phrase.left?) →
    parse phrase p = .stopped (.rejected e) q → e.fault = .returnOutsideFunction →
      q.situation.Due p.situation.inFunction e

/-- A strict run is rejected for a `return` only where this is due. -/
theorem Rule.Shelters.rejected_run {r : Rule α} (h : r.Shelters S inside p.situation post)
    (strict : S.mode = .strict) (mode : setting.mode = .strict)
    (stands : ∀ phrase p, (parse phrase p).Stands setting.lines p.situation)
    (kept : S.KeptBy parse) (blamed : S.BlamedBy parse) (here : p.situation.Reads text)
    (flag : p.situation.inFunction = inside) {e : SyntaxError}
    (run : r.run setting fuel parse p = .stopped (.rejected e) q)
    (fault : e.fault = .returnOutsideFunction) : q.situation.Due inside e := by
  induction r generalizing p with
  | done b => cases run
  | look next ih => exact ih _ h here flag run
  | take next ih =>
      rcases Outcome.andThen_eq_rejected run with taken | ⟨t, s, taken, goes⟩
      · have scanned := Progress.lexical_of_take here taken
        rw [fault] at scanned
        cases scanned
      · have flag : s.situation.inFunction = inside := by
          rw [Progress.take_eq_done taken, Situation.inFunction_taken, flag]
        have there := (((Progress.take_stands setting p).of_done taken).reads here).1
        exact ih t (h t s.situation flag) there flag goes
  | openAt start next ih =>
      let answer := setting.observer.opened start p.observed
      exact ih answer.1 (p := ⟨p.situation, answer.2⟩) (h answer.1) here flag run
  | close node next ih =>
      let answer := setting.observer.closed node p.observed
      exact ih _ (p := ⟨p.situation, answer.2⟩) (h answer.1) here flag run
  | complain span found next ih =>
      rcases Outcome.andThen_eq_rejected run with complained | ⟨_, s, complained, -⟩
      · obtain ⟨-, same, place, still⟩ := Progress.complain_eq_rejected complained
        obtain ⟨outside, spans, word, -⟩ := h.1 (same.symm.trans fault)
        exact ⟨outside, by rw [place, spans, still], by rw [still, word]⟩
      · exact absurd (mode.symm.trans (Progress.complain_eq_done complained).1) nofun
  | deepen next ih =>
      rcases Outcome.andThen_eq_rejected run with deepened | ⟨ok, s, deepened, goes⟩
      · exact absurd (fault.symm.trans (Progress.deepen_eq_rejected deepened)) (by decide)
      · obtain ⟨opened, same⟩ := Progress.deepen_eq_done deepened
        have flag : s.situation.inFunction = inside := same.trans flag
        have there := ((Progress.deepen_stands.of_done deepened).reads here).1
        exact ih ok (h ok s.situation flag fun _ => opened mode) there flag goes
  | call frame phrase next ih =>
      obtain ⟨body, left, onto⟩ := h
      rcases Outcome.andThen_eq_rejected run with called | ⟨n, s, called, goes⟩
      · rcases Progress.call_eq_rejected mode called with ⟨r, parsed, rfl, -⟩ | deep
        · subst flag
          have entered := (frame.enter_onward (s := p.situation)).reads here
          obtain ⟨outside, place, word⟩ := blamed phrase _ e r entered.1
            (by simpa using left.enter body) parsed fault
          refine ⟨?_, by simpa using place, by simpa using word⟩
          -- In the body of a function the flag is set, so the complaint is not due there.
          cases frame with
          | functionBody => cases outside
          | _ => exact outside
        · exact absurd (fault.symm.trans deep) (by decide)
      · have onward := (Progress.call_stands stands frame phrase).of_done called
        obtain ⟨flag, gives⟩ := kept.call here flag body left called onward (S.always strict _ _)
        exact ih n (onto n s.situation flag gives) (onward.reads here).1 flag goes
  | budget next ih => exact ih _ (h _) here flag run
  | overrun => cases run

end

/-! ## A strict run and the loose one -/

/-- The node lies around the offset. -/
def Node.Covers (n : Node) (x : Nat) : Prop := n.span.start ≤ x ∧ x < n.span.stop

/-- What is asked of a loose parse about an offset: no body of a function that is made in
    front of it or behind it lies around it. -/
def Shelter.around (text : List Char) (x : Nat) : Shelter text where
  mode := .loose
  Good body := ¬ body.Covers x ∧
    ∀ f ∈ body.subtree, ∀ inner, f.shape.functionBody? = some inner → ¬ inner.Covers x
  Clear s t := t.token.span.start ≤ x ∨ x < s.token.span.start
  always := nofun
  front le := Or.imp_left (Nat.le_trans le)
  back le := Or.imp_right fun before => Nat.lt_of_lt_of_le before le
  body clear forth behind type span sheltered := by
    refine ⟨fun ⟨start, stop⟩ => ?_, fun f hf inner some covers => ?_⟩
    · rw [span] at start stop
      rcases clear with before | beyond
      · exact absurd (Nat.lt_of_lt_of_le stop (Nat.max_le.mpr ⟨behind, forth⟩))
          (Nat.not_lt_of_le before)
      · exact absurd start (Nat.not_le_of_lt beyond)
    · rcases (sheltered rfl).inside_or f hf with own | ⟨_, -, body, -, good, there⟩
      · exact (own.2 inner some).1 covers
      · exact good.2 f there inner some covers

/-- Parses in lockstep from one place end at one place. -/
theorem Lockstep.done_eq {w : Observer σ} {f g : Progress σ → Outcome σ α}
    (h : Lockstep w w Eq f g) {p q : Progress σ} {a : α} (done : f p = .done a q) :
    g p = .done a q := by
  have follows := h.follows p p rfl rfl
  rw [done] at follows
  generalize g p = o at follows
  cases follows with
  | @done _ _ r same related =>
      obtain ⟨s, m⟩ := q
      obtain ⟨t, n⟩ := r
      obtain rfl : s = t := same
      obtain rfl : m = n := related
      rfl

section

variable {lines : LineIndex} {w : Observer σ} {x fuel : Nat} {inside : Bool}
  {parse parse' : Nonterminal → Progress σ → Outcome σ Node} {p q u : Progress σ}
  {post : α → Prop}

/-- A phrase that the strict parse rejects for a `return` stands outside of functions, and the
    loose parse of it leads past the word. -/
def Shelter.CrossedBy (S : Shelter text) (x : Nat)
    (parse parse' : Nonterminal → Progress σ → Outcome σ Node) : Prop :=
  ∀ phrase (p : Progress σ) e q n u, p.situation.Reads text →
    S.Housed p.situation.inFunction (nodes phrase.left?) →
    parse phrase p = .stopped (.rejected e) q → e.fault = .returnOutsideFunction →
    q.situation.token.span.start = x → parse' phrase p = .done n u →
      p.situation.inFunction = false ∧ u.situation.inFunction = p.situation.inFunction ∧
        x < u.situation.token.span.start ∧ S.Keeps p.situation.inFunction n

/-- THE CROSSING: where the strict run of a rule is rejected for a `return` at an offset, the
    rule stands outside of functions, and no body of a function that the loose run of it
    makes lies around the offset. -/
theorem Rule.Shelters.crossed_run {r : Rule α}
    (h : r.Shelters (.around text x) inside p.situation post)
    (lockstep : ∀ phrase, Lockstep w w Eq (parse phrase) (parse' phrase))
    (stands : ∀ phrase p, (parse phrase p).Stands lines p.situation)
    (stands' : ∀ phrase p, (parse' phrase p).Stands lines p.situation)
    (kept : (Shelter.around text x).KeptBy parse')
    (crossed : (Shelter.around text x).CrossedBy x parse parse') (here : p.situation.Reads text)
    (flag : p.situation.inFunction = inside) {e : SyntaxError}
    (rejected : r.run ⟨.strict, lines, w⟩ fuel parse p = .stopped (.rejected e) q)
    (fault : e.fault = .returnOutsideFunction) (place : q.situation.token.span.start = x) {a : α}
    (run : r.run ⟨.loose, lines, w⟩ fuel parse' p = .done a u) :
    inside = false ∧ u.situation.inFunction = inside ∧ x < u.situation.token.span.start ∧
      post a := by
  have loose {ok : Bool} : (Shelter.around text x).mode = .strict → ok = true :=
    fun strict => absurd (show Mode.loose = .strict from strict) (by decide)
  have paired : Setting.Paired ⟨.strict, lines, w⟩ ⟨.loose, lines, w⟩ Eq :=
    ⟨rfl, rfl, w.agrees_self⟩
  -- Past the word only the loose parse goes on, and what it makes begins behind the word.
  have beyond {r : Rule α} {s : Progress σ}
      (h : r.Shelters (.around text x) inside s.situation post) (there : s.situation.Reads text)
      (flag : s.situation.inFunction = inside) (past : x < s.situation.token.span.start)
      (run : r.run ⟨.loose, lines, w⟩ fuel parse' s = .done a u) :
      u.situation.inFunction = inside ∧ x < u.situation.token.span.start ∧ post a := by
    have le := (((Rule.run_stands stands' r s).of_done run).reads there).2
    obtain ⟨flag, post⟩ := h.done_run rfl stands' kept there flag run (.inr past)
    exact ⟨flag, Nat.lt_of_lt_of_le past le, post⟩
  induction r generalizing p with
  | done b => cases rejected
  | look next ih => exact ih _ h here flag rejected run
  | take next ih =>
      rcases Outcome.andThen_eq_rejected rejected with taken | ⟨t, s, taken, goes⟩
      · have scanned := Progress.lexical_of_take here taken
        rw [fault] at scanned
        cases scanned
      · have same : s.situation.inFunction = inside := by
          rw [Progress.take_eq_done taken, Situation.inFunction_taken, flag]
        have there := (((Progress.take_stands _ p).of_done taken).reads here).1
        rw [Rule.run, (Progress.take_lockstep paired).done_eq taken] at run
        exact ih t (h t s.situation same) there same goes run
  | openAt start next ih =>
      let answer := w.opened start p.observed
      exact ih answer.1 (p := ⟨p.situation, answer.2⟩) (h answer.1) here flag rejected run
  | close node next ih =>
      let answer := w.closed node p.observed
      exact ih _ (p := ⟨p.situation, answer.2⟩) (h answer.1) here flag rejected run
  | complain span found next ih =>
      rcases Outcome.andThen_eq_rejected rejected with complained | ⟨_, s, complained, -⟩
      · obtain ⟨-, same, -, still⟩ := Progress.complain_eq_rejected complained
        obtain ⟨outside, -, word, takes⟩ := h.1 (same.symm.trans fault)
        have goes := Token.isEnd_eq_false word (by decide)
        refine ⟨outside, ?_⟩
        cases next with
        | take next =>
            obtain ⟨t, s, taken, rest⟩ := Outcome.andThen_eq_done (o := p.take _) run
            have behind := Progress.take_eq_done taken
            have flag : s.situation.inFunction = inside := by
              rw [behind, Situation.inFunction_taken, flag]
            have there := (((Progress.take_stands _ p).of_done taken).reads here).1
            refine beyond (h.2 rfl t s.situation flag) there flag ?_ rest
            rw [← place, still, behind]
            refine Nat.lt_of_lt_of_le (here.lies.token.nonempty goes) ?_
            rw [← Situation.previousEnd_taken goes]
            exact here.lies.taken.behind
        | _ => cases takes
      · exact absurd (Progress.complain_eq_done complained).1 (by simp)
  | deepen next ih =>
      rcases Outcome.andThen_eq_rejected rejected with deepened | ⟨ok, s, deepened, goes⟩
      · exact absurd (fault.symm.trans (Progress.deepen_eq_rejected deepened)) (by decide)
      · have same := (Progress.deepen_eq_done deepened).2.trans flag
        have there := ((Progress.deepen_stands.of_done deepened).reads here).1
        rw [Rule.run, (Progress.deepen_lockstep paired).done_eq deepened] at run
        exact ih ok (h ok s.situation same loose) there same goes run
  | call frame phrase next ih =>
      obtain ⟨body, left, onto⟩ := h
      rcases Outcome.andThen_eq_rejected rejected with called | ⟨n, s, called, goes⟩
      · -- The word stands in the phrase: the loose parse of it leads past it.
        obtain ⟨n, s, called', rest⟩ := Outcome.andThen_eq_done run
        have there := (((Progress.call_stands stands' frame phrase).of_done called').reads here).1
        rcases Progress.call_eq_rejected rfl called with ⟨r, parsed, rfl, shallow⟩ | deep
        · rcases Progress.call_eq_done called' with ⟨r', parsed', rfl⟩ | ⟨deep, -, -⟩
          · subst flag
            have entered := (frame.enter_onward (s := p.situation)).reads here
            obtain ⟨outside, same, past, keeps⟩ := crossed phrase _ e r n r' entered.1
              (by simpa using left.enter body) parsed fault (by simpa using place) parsed'
            have flag := Frame.inFunction_leave (s := p.situation) same
            have onward (gives : (Shelter.around text x).Gives frame p.situation.inFunction n) :=
              beyond (s := ⟨frame.leave p.situation r'.situation, r'.observed⟩)
                (onto n _ flag gives) there flag (by simpa using past) rest
            cases frame with
            | functionBody => cases outside
            | _ => exact ⟨outside, onward keeps⟩
          · exact absurd deep shallow
        · exact absurd (fault.symm.trans deep) (by decide)
      · -- The word stands behind the phrase, which both parses have read alike.
        have onward := (Progress.call_stands stands frame phrase).of_done called
        have there := (onward.reads here).1
        have le := (((Rule.run_stands stands (next n) s).of_stopped goes).reads there).2
        rw [place] at le
        have called' := (Progress.call_lockstep paired lockstep frame phrase).done_eq called
        rw [Rule.run, called'] at run
        obtain ⟨flag, gives⟩ := kept.call here flag body left called' onward (.inl le)
        exact ih n (onto n s.situation flag gives) there flag goes run
  | budget next ih => exact ih _ (h _) here flag rejected run
  | overrun => cases run

end

end ScriptTree

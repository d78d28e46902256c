import ScriptTree.Proofs.Fuel.Program
import ScriptTree.Observer
import ScriptTree.Proofs.Grammar.Lockstep

/-! # Strictness — a strict parse is a loose one cut at the first error

    Both modes take the same steps up to the first error that ends the strict
    parse.  So whoever watches sees a strict parse that succeeds and the loose
    parse of the same text do exactly the same, and of a strict parse that
    fails everything but its last message is the beginning of what the loose
    parse tells. -/

namespace ScriptTree

variable {σ τ : Type}

/-- Two observers of one parse: the first one answers, the second one only
    listens. -/
def Observer.beside (o : Observer σ) (w : Observer τ) : Observer (σ × τ) where
  token t m := (o.token t m.1, w.token t m.2)
  comment c m := (o.comment c m.1, w.comment c m.2)
  opened offset m :=
    let answer := o.opened offset m.1
    (answer.1, answer.2, (w.opened offset m.2).2)
  closed n m :=
    let answer := o.closed n m.1
    (answer.1, answer.2, (w.closed n m.2).2)
  error e fatal m := (o.error e fatal m.1, w.error e fatal m.2)

/-- More of a parse only adds to what was written down. -/
theorem Event.recorder_grows {o : Observer σ} {m m' : σ × Array Event}
    (h : (o.beside recorder).Reaches m m') : ∃ more, m'.2.toList = m.2.toList ++ more := by
  have pushed {events : Array Event} {e : Event} :
      (∃ more, events.toList = m.2.toList ++ more) →
        ∃ more, (events.push e).toList = m.2.toList ++ more := by
    rintro ⟨more, hm⟩
    exact ⟨more ++ [e], by rw [Array.toList_push, hm, List.append_assoc]⟩
  induction h with
  | refl => exact ⟨[], (List.append_nil _).symm⟩
  | token _ t ih => exact pushed ih
  | comment _ c ih => exact pushed ih
  | opened _ start ih => exact pushed ih
  | closed _ n ih => exact pushed ih
  | error _ e ih => exact pushed ih

/-- How a parse ends that follows one which ended with a program: with the same
    program, or rejected on the way there. -/
inductive EndsLike (o : Observer σ) (w : Observer τ) (R : σ → τ → Prop) (program : Node)
    (after : τ) : ParseResult × σ → Prop where
  | tree {before : σ} (related : R before after) :
      EndsLike o w R program after (.tree program, before)
  | rejected {e : SyntaxError} {a : σ} {b : τ} (related : R a b) (on : w.Reaches b after) :
      EndsLike o w R program after (.rejected e, o.error e true a)

/-- A parse of a text in either mode follows the loose parse of it. -/
theorem parseText_follows (mode : Mode) {text : List Char} {lines : LineIndex} {o : Observer σ}
    {w : Observer τ} {R : σ → τ → Prop} (agrees : o.Agrees w R) {a : σ} {b : τ}
    (related : R a b) {program : Node} {after : τ}
    (loose : parseText .loose text lines w b = (.tree program, after)) :
    EndsLike o w R program after (parseText mode text lines o a) := by
  have paired : Setting.Paired ⟨mode, lines, o⟩ ⟨.loose, lines, w⟩ R := ⟨rfl, rfl, agrees⟩
  have follows := parseLexemes_follows paired (Lexeme.ofText text) (Text.byteLength text) related
  obtain ⟨q, hq⟩ : ∃ q, parseLexemes ⟨.loose, lines, w⟩ (Lexeme.ofText text)
      (Text.byteLength text) b = .done program q :=
    Outcome.eq_done_of_result (congrArg Prod.fst loose)
  rw [hq] at follows
  rw [parseText, hq] at loose
  cases loose
  rw [parseText]
  generalize parseLexemes ⟨mode, lines, o⟩ (Lexeme.ofText text) (Text.byteLength text) a = out
    at follows
  obtain ⟨_, p⟩ | ⟨_, p⟩ := out
  · cases follows with
    | done same related => exact .tree related
  · cases follows with
    | @rejected e _ _ a b related told on =>
        show EndsLike o w R program q.observed (.rejected e, p.observed)
        rw [told]
        exact .rejected related on

/-- THE CUT: for every text and whoever answers, a strict parse that succeeds
    gives the program, the memory and the history of the loose parse; one that
    fails has told, before its error, what the loose parse begins with. -/
theorem parseText_strict_cut (text : List Char) (lines : LineIndex) (o : Observer σ)
    (observed : σ) :
    let run (mode : Mode) := parseText mode text lines (o.beside Event.recorder) (observed, #[])
    match (run .strict).1 with
    | .tree _ => run .loose = run .strict
    | .rejected error => ∃ before after,
        (run .strict).2.2.toList = before ++ [.error error true] ∧
          (run .loose).2.2.toList = before ++ after
    | .unfinished => False := by
  intro run
  obtain ⟨program, after, loose⟩ := parseText_loose text lines (o.beside Event.recorder)
    (observed, #[])
  have follows := parseText_follows .strict (o.beside Event.recorder).agrees_self rfl loose
  have hl : run .loose = (.tree program, after) := loose
  have hs : run .strict =
      parseText .strict text lines (o.beside Event.recorder) (observed, #[]) := rfl
  rw [hl, hs]
  generalize parseText .strict text lines (o.beside Event.recorder) (observed, #[]) = strict
    at follows
  cases follows with
  | tree related => rw [related]
  | @rejected e m _ related on =>
      -- The memory `m` in front of the error is one the loose parse had as well.
      cases related
      obtain ⟨more, hm⟩ := Event.recorder_grows on
      exact ⟨m.2.toList, more, Array.toList_push, hm⟩

end ScriptTree

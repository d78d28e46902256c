import ScriptTree.Grammar.Rule
import ScriptTree.Observer

/-! # The machine — what the steps of a rule do

    Running a rule moves through the lexemes, tells the observer, and ends
    with a value or stops early.  Two modes share it.  The strict one stops
    at the first complaint; the loose one passes over complaints, so that it
    always ends with a value.  A parse that is given too little fuel stops
    as `outOfFuel`; the entry point gives enough. -/

namespace ScriptTree

/-- What becomes of complaints. -/
inductive Mode where
  /-- The first one ends the parse. -/
  | strict
  /-- They are passed over. -/
  | loose
deriving DecidableEq, Repr, Inhabited

/-- How many nesting levels may be open. -/
def nestingLimit : Nat := 256

/-- What a parse runs under. -/
structure Setting (σ : Type) where
  mode : Mode
  lines : LineIndex
  observer : Observer σ

/-- A running parse: where it stands and what was observed. -/
structure Progress (σ : Type) where
  situation : Situation
  observed : σ

/-- Why a parse stopped early. -/
inductive Stop where
  | rejected (error : SyntaxError)
  | outOfFuel
deriving DecidableEq, Repr, Inhabited

/-- How a parse ends. -/
inductive Outcome (σ α : Type) where
  | done (value : α) (progress : Progress σ)
  | stopped (why : Stop) (progress : Progress σ)

namespace Outcome

variable {σ α β : Type}

/-- Go on behind a value. -/
@[inline] def andThen (o : Outcome σ α) (f : α → Progress σ → Outcome σ β) : Outcome σ β :=
  match o with
  | .done value progress => f value progress
  | .stopped why progress => .stopped why progress

/-- Change the situation, however the parse ended. -/
@[inline] def adjust (o : Outcome σ α) (f : Situation → Situation) : Outcome σ α :=
  match o with
  | .done value progress => .done value { progress with situation := f progress.situation }
  | .stopped why progress => .stopped why { progress with situation := f progress.situation }

end Outcome

namespace Progress

variable {σ : Type}

/-- Tell the observer of an error. -/
def report (setting : Setting σ) (error : SyntaxError) (fatal : Bool) (p : Progress σ) :
    Progress σ :=
  { p with observed := setting.observer.error error fatal p.observed }

/-- Tell the observer of comments that were passed. -/
def passComments (setting : Setting σ) (comments : List Comment) (p : Progress σ) :
    Progress σ :=
  { p with observed := comments.foldl (fun o c => setting.observer.comment c o) p.observed }

/-- Tell the observer of diagnostics; a strict parse stops at a fatal one. -/
def passDiagnostics (setting : Setting σ) :
    List Diagnostic → Progress σ → Outcome σ Unit
  | [], p => .done () p
  | d :: rest, p =>
    let error := d.locate setting.lines
    if d.fault.isFatal && setting.mode == .strict then
      .stopped (.rejected error) (p.report setting error true)
    else passDiagnostics setting rest (p.report setting error false)

/-- Make the next lexeme the current one. -/
def advance (setting : Setting σ) (p : Progress σ) : Outcome σ Unit :=
  match p.situation.upcoming with
  | [] => .done () p
  | lexeme :: rest =>
    let moved := { p with situation := { p.situation with current := lexeme, upcoming := rest } }
    passDiagnostics setting lexeme.diagnostics (moved.passComments setting lexeme.comments)

/-- Take the current token; the end of input stays. -/
def take (setting : Setting σ) (p : Progress σ) : Outcome σ Token :=
  let token := p.situation.token
  if token.isEnd then .done token p
  else
    let taken : Progress σ :=
      { situation :=
          { p.situation with
            previousEnd := token.span.stop
            consumed := p.situation.consumed + 1 }
        observed := setting.observer.token token p.observed }
    (taken.advance setting).andThen fun _ q => .done token q

/-- Complain: a strict parse stops, a loose one goes on. -/
def complain (setting : Setting σ) (span : Span) (fault : Fault) (p : Progress σ) :
    Outcome σ Unit :=
  match setting.mode with
  | .strict =>
    let kind := ErrorKind.ofAtEnd p.situation.current.atEnd
    let error := (Diagnostic.mk fault span kind).locate setting.lines
    .stopped (.rejected error) (p.report setting error true)
  | .loose => .done () p

/-- Open one more level, or complain that there are too many. -/
def deepen (setting : Setting σ) (p : Progress σ) : Outcome σ Bool :=
  if p.situation.depth ≥ nestingLimit then
    (p.complain setting p.situation.token.span .nestingTooDeep).andThen fun _ q => .done false q
  else
    .done true { p with situation := { p.situation with depth := p.situation.depth + 1 } }

/-- What stands for a phrase that is nested too deep. -/
def fallback (phrase : Nonterminal) (offset : Nat) : Node :=
  match phrase with
  | .statement => .bare .emptyStatement (.point offset)
  | _ => .placeholder offset

/-- Parse a nonterminal, as `parse` does, in a frame. -/
def call (setting : Setting σ) (parse : Nonterminal → Progress σ → Outcome σ Node)
    (frame : Frame) (phrase : Nonterminal) (p : Progress σ) : Outcome σ Node :=
  match frame with
  | .same => parse phrase p
  | .chain =>
    let depth := p.situation.depth
    (parse phrase p).adjust fun s => { s with depth }
  | .functionBody =>
    let inFunction := p.situation.inFunction
    (parse phrase { p with situation := { p.situation with inFunction := true } }).adjust
      fun s => { s with inFunction }
  | .nested =>
    if p.situation.depth ≥ nestingLimit then
      (p.complain setting p.situation.token.span .nestingTooDeep).andThen fun _ q =>
        (q.take setting).andThen fun _ r =>
          .done (fallback phrase r.situation.previousEnd) r
    else
      (parse phrase
        { p with situation := { p.situation with depth := p.situation.depth + 1 } }).adjust
        fun s => { s with depth := s.depth - 1 }

end Progress

namespace Rule

variable {σ : Type}

/-- Run a rule; `parse` parses the nonterminals it calls, and its loops go
    round at most `fuel` times. -/
def run (setting : Setting σ) (fuel : Nat) (parse : Nonterminal → Progress σ → Outcome σ Node)
    {α : Type} : Rule α → Progress σ → Outcome σ α
  | .done a, p => .done a p
  | .look next, p => (next p.situation).run setting fuel parse p
  | .take next, p => (p.take setting).andThen fun t q => (next t).run setting fuel parse q
  | .openAt start next, p =>
    let answer := setting.observer.opened start p.observed
    (next answer.1).run setting fuel parse { p with observed := answer.2 }
  | .close node next, p =>
    let answer := setting.observer.closed node p.observed
    (next { node with trailingComments := node.trailingComments ++ answer.1 }).run setting fuel
      parse { p with observed := answer.2 }
  | .complain span fault next, p =>
    (p.complain setting span fault).andThen fun _ q => next.run setting fuel parse q
  | .deepen next, p => (p.deepen setting).andThen fun ok q => (next ok).run setting fuel parse q
  | .call frame phrase next, p =>
    (p.call setting parse frame phrase).andThen fun n q => (next n).run setting fuel parse q
  | .budget next, p => (next fuel).run setting fuel parse p
  | .overrun, p => .stopped .outOfFuel p

end Rule

end ScriptTree

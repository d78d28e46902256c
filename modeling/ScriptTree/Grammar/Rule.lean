import ScriptTree.Lexeme.Stream
import ScriptTree.Node.Basic

/-! # Rules — the grammar as data

    A grammar rule is a program of a few parsing steps: look at the
    situation, take a token, open and close a node, complain, go one level
    deeper in a chain, and call a nonterminal.  `Rule` is the free monad of
    these steps, so a rule fixes which steps are taken and leaves open what
    they do.  That is said once, by the machine that runs rules; whatever
    holds of each step of the machine then holds of the whole grammar by one
    induction over rules. -/

namespace ScriptTree

/-- Where a parse stands. -/
structure Situation where
  /-- The token to be taken next, with what was found on the way to it. -/
  current : Lexeme
  /-- The lexemes behind the current one. -/
  upcoming : List Lexeme
  /-- Where the last taken token ended. -/
  previousEnd : Nat
  /-- How many tokens were taken. -/
  consumed : Nat
  /-- How many nesting levels are open. -/
  depth : Nat
  /-- A `return` may stand here. -/
  inFunction : Bool
deriving DecidableEq, Repr, Inhabited

namespace Situation

/-- The token to be taken next. -/
def token (s : Situation) : Token := s.current.token

/-- A semicolon may be left out before the current token. -/
def allowsMissingSemicolon (s : Situation) : Bool :=
  s.token.isEnd || s.token.isPunctuator .closeBrace || s.token.newlineBefore

end Situation

/-- The phrases of the grammar that refer to each other in a circle.  Some
    continue a phrase that has been parsed, whose node and start they
    take. -/
inductive Nonterminal where
  | statement
  /-- Statements between braces. -/
  | block
  /-- A conditional expression or an assignment. -/
  | assignment (noIn : Bool)
  /-- An operand with the operators in front of and behind it. -/
  | unary
  /-- An operand without operators or subscripts. -/
  | atom
  /-- Operators behind `left` that bind tighter than `minimum`. -/
  | operators (left : Node) (start minimum : Nat) (noIn : Bool)
  /-- Members, calls and templates behind `base`. -/
  | subscripts (base : Node) (start : Nat) (noCalls : Bool)
  | arrayPattern
  | objectPattern
deriving Inhabited

/-- What holds while a called nonterminal is parsed. -/
inductive Frame where
  /-- What held before. -/
  | same
  /-- One nesting level more is open; there is a limit on them. -/
  | nested
  /-- Levels that the phrase opens are closed behind it. -/
  | chain
  /-- A `return` may stand there. -/
  | functionBody
deriving DecidableEq, Repr, Inhabited

/-- A program of parsing steps that yields an `α`. -/
inductive Rule (α : Type) where
  /-- End with a value. -/
  | done (a : α)
  /-- Look at the situation. -/
  | look (next : Situation → Rule α)
  /-- Take the current token; the end of input stays. -/
  | take (next : Token → Rule α)
  /-- Open a node at an offset and learn which comments lead it. -/
  | openAt (start : Nat) (next : List Comment → Rule α)
  /-- Close a node and learn it with the comments that trail it. -/
  | close (node : Node) (next : Node → Rule α)
  /-- Complain about a span; parsing goes on only if errors are tolerated. -/
  | complain (span : Span) (fault : Fault) (next : Rule α)
  /-- Open one more level in a chain, if the limit allows it. -/
  | deepen (next : Bool → Rule α)
  /-- Parse a nonterminal. -/
  | call (frame : Frame) (phrase : Nonterminal) (next : Node → Rule α)
  /-- Learn how often a loop may go round at most. -/
  | budget (next : Nat → Rule α)
  /-- A loop went round more often than that. -/
  | overrun

namespace Rule

/-- One rule after another. -/
def bind {α β : Type} : Rule α → (α → Rule β) → Rule β
  | done a, f => f a
  | look next, f => .look fun s => (next s).bind f
  | take next, f => .take fun t => (next t).bind f
  | openAt start next, f => .openAt start fun comments => (next comments).bind f
  | close node next, f => .close node fun n => (next n).bind f
  | complain span fault next, f => .complain span fault (next.bind f)
  | deepen next, f => .deepen fun ok => (next ok).bind f
  | call frame phrase next, f => .call frame phrase fun n => (next n).bind f
  | budget next, f => .budget fun n => (next n).bind f
  | overrun, _ => .overrun

instance : Monad Rule where
  pure := .done
  bind := .bind

theorem bind_done {α : Type} (r : Rule α) : r.bind .done = r := by
  induction r with
  | done a => rfl
  | overrun => rfl
  | complain span fault next ih => simp [bind, ih]
  | look next ih => simp [bind, ih]
  | take next ih => simp [bind, ih]
  | openAt start next ih => simp [bind, ih]
  | close node next ih => simp [bind, ih]
  | deepen next ih => simp [bind, ih]
  | call frame phrase next ih => simp [bind, ih]
  | budget next ih => simp [bind, ih]

theorem bind_assoc {α β γ : Type} (r : Rule α) (f : α → Rule β) (g : β → Rule γ) :
    (r.bind f).bind g = r.bind fun a => (f a).bind g := by
  induction r with
  | done a => rfl
  | overrun => rfl
  | complain span fault next ih => simp [bind, ih]
  | look next ih => simp [bind, ih]
  | take next ih => simp [bind, ih]
  | openAt start next ih => simp [bind, ih]
  | close node next ih => simp [bind, ih]
  | deepen next ih => simp [bind, ih]
  | call frame phrase next ih => simp [bind, ih]
  | budget next ih => simp [bind, ih]

instance : LawfulMonad Rule :=
  LawfulMonad.mk' Rule (fun r => bind_done r) (fun _ _ => rfl) bind_assoc

/-- Whether a loop goes round again, and with what. -/
inductive Turn (α β : Type) where
  | again (a : α)
  | leave (b : β)

/-- Go round a loop, at most a number of times. -/
def iterate {α β : Type} (step : α → Rule (Turn α β)) : Nat → α → Rule β
  | 0, _ => .overrun
  | n + 1, a => (step a).bind fun
    | .again a' => iterate step n a'
    | .leave b => .done b

/-- Go round a loop until it is left. -/
def loop {α β : Type} (a : α) (step : α → Rule (Turn α β)) : Rule β :=
  .budget fun n => iterate step n a

end Rule

end ScriptTree

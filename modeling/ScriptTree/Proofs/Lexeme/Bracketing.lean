import Mathlib.Logic.Basic
import ScriptTree.Proofs.Lexeme.Step

/-! # Bracketing — substitutions and braces nest

    A closing brace may end a block or an object, or go back to the text of a template.  The
    scanner tells which by two numbers: how many braces are open, and how many were when the
    innermost substitution began.  Behind them stands one stack, of the braces and the
    substitutions that are open, and the numbers are its counts: so many braces in all, and
    so many below each substitution.  A substitution is innermost exactly if no brace was
    opened above it, which is what the scanner compares.  Braces that are missing or too many
    change nothing about that, since a substitution hides what is below it until it ends. -/

namespace ScriptTree

/-- What a closing brace may belong to. -/
inductive Bracket where
  | brace
  | substitution
deriving DecidableEq, Repr

namespace TokenKind

/-- The brackets that are open behind the token, the innermost one first.  A closing brace
    without an open one is ignored. -/
def brackets (stack : List Bracket) : TokenKind → List Bracket
  | .punctuator .openBrace => .brace :: stack
  | .punctuator .closeBrace => stack.tail
  | .template _ true false => .substitution :: stack
  | .template _ false true => stack.tail
  | _ => stack

/-- The token may stand where these brackets are open: a chunk that goes on with a template
    ends a substitution, and a closing brace ends none. -/
structure Fits (stack : List Bracket) (kind : TokenKind) : Prop where
  chunk : ∀ raw isTail, kind = .template raw false isTail → stack.head? = some .substitution
  brace : kind = .punctuator .closeBrace → stack.head? ≠ some .substitution

end TokenKind

/-- Each token fits the brackets that those before it leave open. -/
def WellBracketed : List Bracket → List TokenKind → Prop
  | _, [] => True
  | stack, kind :: kinds => kind.Fits stack ∧ WellBracketed (kind.brackets stack) kinds

namespace Bracket

/-- How many braces are open below each substitution, the innermost one first. -/
def depths : List Bracket → List Nat
  | [] => []
  | .brace :: stack => depths stack
  | .substitution :: stack => stack.count .brace :: depths stack

/-- No substitution lies deeper than there are braces open. -/
theorem depths_le (stack : List Bracket) : ∀ depth ∈ depths stack, depth ≤ stack.count .brace := by
  induction stack with
  | nil => exact nofun
  | cons bracket stack ih =>
      cases bracket with
      | brace => exact fun depth there => Nat.le_trans (ih depth there) List.count_le_count_cons
      | substitution =>
          rw [List.count_cons_of_ne (by decide)]
          exact List.forall_mem_cons.mpr ⟨Nat.le_refl _, ih⟩

end Bracket

namespace Scanner

variable {s : Scanner} {stack : List Bracket} {c : Cursor} {w : Scanned} {lexemes : List Lexeme}

/-- The scanner counts these brackets. -/
structure Counts (s : Scanner) (stack : List Bracket) : Prop where
  braces : s.braces = stack.count .brace
  templates : s.templates = Bracket.depths stack

namespace Counts

/-- THE COMPARISON: as many braces are open as below the innermost substitution exactly if
    none was opened in it. -/
theorem resumesTemplate_iff (h : s.Counts stack) :
    s.resumesTemplate = true ↔ stack.head? = some .substitution := by
  rw [resumesTemplate, h.templates, h.braces, beq_iff_eq]
  cases stack with
  | nil => simp [Bracket.depths]
  | cons bracket stack =>
      cases bracket with
      | substitution => simp [Bracket.depths]
      | brace =>
          rw [Bracket.depths, List.count_cons_self]
          refine ⟨fun head => ?_, nofun⟩
          have below := Bracket.depths_le stack _ (List.mem_of_mem_head? head)
          exact absurd below (Nat.not_succ_le_self _)

/-- A word fits the brackets that are counted in front of it. -/
theorem fits (h : s.Counts stack) (here : s.word? c = some w) : w.kind.Fits stack := by
  obtain ⟨kind, cursor, diagnostics⟩ := w
  cases finds_of_word? here with
  | chunk raw isTail resumes => exact ⟨fun _ _ _ => h.resumesTemplate_iff.mp resumes, nofun⟩
  | punctuator mark brace slash =>
      refine ⟨nofun, fun closes top => ?_⟩
      obtain rfl := TokenKind.punctuator.inj closes
      have other := brace (by decide)
      rw [h.resumesTemplate_iff.mpr top] at other
      cases other
  | _ => exact ⟨nofun, nofun⟩

/-- Behind a word that fits, the scanner counts the brackets behind it. -/
theorem after (h : s.Counts stack) (fits : w.kind.Fits stack) :
    (s.after w).Counts (w.kind.brackets stack) := by
  obtain ⟨braces, templates⟩ := h
  obtain ⟨kind, cursor, diagnostics⟩ := w
  cases kind with
  | template raw isHead isTail =>
      cases isHead with
      | true =>
          cases isTail with
          | true => exact ⟨braces, templates⟩
          -- The head of a template opens a substitution; the depth that it notes is that of the
          -- braces.
          | false =>
              refine ⟨?_, congrArg₂ List.cons braces templates⟩
              rw [TokenKind.brackets, List.count_cons_of_ne (by decide)]
              exact braces
      | false =>
          -- A chunk behind a substitution closes it, and may open the next one.
          obtain ⟨outer, rfl⟩ := List.head?_eq_some_iff.mp (fits.chunk raw isTail rfl)
          have count : s.braces = outer.count .brace := by
            rwa [List.count_cons_of_ne (by decide)] at braces
          have below : s.templates.tail = Bracket.depths outer := congrArg List.tail templates
          cases isTail with
          | true => exact ⟨count, below⟩
          | false => exact ⟨braces, congrArg₂ List.cons count below⟩
  | punctuator mark =>
      cases mark with
      | openBrace =>
          refine ⟨?_, templates⟩
          rw [TokenKind.brackets, List.count_cons_self]
          exact congrArg (· + 1) braces
      | closeBrace =>
          cases stack with
          | nil => exact ⟨congrArg (· - 1) braces, templates⟩
          | cons bracket outer =>
              -- A closing brace closes a brace, since in front of it no substitution is open.
              obtain rfl : bracket = .brace := by
                cases bracket with
                | brace => rfl
                | substitution => exact absurd rfl (fits.brace rfl)
              rw [List.count_cons_self] at braces
              exact ⟨congrArg (· - 1) braces, templates⟩
      | _ => exact ⟨braces, templates⟩
  | _ => exact ⟨braces, templates⟩

/-- From where the brackets are counted on, the tokens of a run are well bracketed. -/
theorem wellBracketed (h : s.Counts stack) (run : s.Runs lexemes) :
    WellBracketed stack (lexemes.map fun l => l.token.kind) := by
  induction run generalizing stack with
  | @stop s ends =>
      rw [List.map_singleton, Token.isEnd_iff.mp ends]
      exact ⟨⟨nofun, nofun⟩, trivial⟩
  | @step s lexemes goes behind ih =>
      obtain ⟨t, w, here, next⟩ := word_of_next goes
      rw [next] at ih ⊢
      exact ⟨h.fits here, ih (h.after (h.fits here))⟩

end Counts

end Scanner

/-- BRACKETING: whatever the text, a chunk that goes on with a template stands only where a
    substitution is the innermost open bracket, and a closing brace only where none is. -/
theorem lex_wellBracketed (text : List Char) :
    WellBracketed [] ((lex text).tokens.map Token.kind) := by
  have start : (Scanner.start text).Counts [] := ⟨rfl, rfl⟩
  have run := start.wellBracketed (Lexeme.runs_ofText text)
  rwa [lex, List.map_map]

end ScriptTree

import ScriptTree.Proofs.Grammar.Reading
import ScriptTree.Tree.Basic

/-! # Records — what a loose parse leaves beside its tree

    Annotations are told of the lexemes of a text one by one.  Behind each of
    them they hold the tokens taken so far, and the comments and diagnostics
    of these and of the lexeme that is looked at; opening and closing nodes
    moves cursors only.  So they hold the whole text in the end. -/

namespace ScriptTree

/-- A token as the tree records it at a place; the end of input has no
    record. -/
def TreeToken.ofToken? (index : Nat) (t : Token) : Option TreeToken :=
  (TokenClass.ofKind? t.kind).map fun kind => ⟨kind, Annotations.tokenValue t, t.span, index⟩

/-- A comment as the tree records it. -/
def Comment.placed (options : ParseOptions) (lines : LineIndex) (file : String) (c : Comment) :
    Comment :=
  let tag := if options.sourceFile then some file else none
  if options.locations then { c with location := some (lines.location c.span tag) } else c

namespace Annotations

variable {options : ParseOptions} {lines : LineIndex} {file : String}

/-- The annotations of a parse that took some lexemes, looks at one, and met
    no fatal error. -/
structure Records (options : ParseOptions) (lines : LineIndex) (file : String)
    (words : List Lexeme) (current : Lexeme) (a : Annotations) : Prop where
  tokens : a.tokens.toList.map some = words.mapIdx fun i l => TreeToken.ofToken? i l.token
  comments : a.comments.toList =
    ((words ++ [current]).flatMap Lexeme.comments).map (Comment.placed options lines file)
  diagnostics : a.diagnostics.toList =
    ((words ++ [current]).flatMap Lexeme.diagnostics).map fun d => d.locate lines
  failure : a.failure = none

/-- A token more is told at the end, with its number. -/
theorem addToken_eq {t : Token} (goes : t.isEnd = false) (a : Annotations) :
    ∃ u, TreeToken.ofToken? a.tokens.size t = some u ∧
      addToken t a = { a with tokens := a.tokens.push u } := by
  rw [addToken, TreeToken.ofToken?]
  cases kind : TokenClass.ofKind? t.kind with
  | none =>
      have ends := Token.isEnd_iff.mpr (TokenClass.ofKind?_eq_none_iff.mp kind)
      rw [goes] at ends
      cases ends
  | some c => exact ⟨_, rfl, rfl⟩

/-- Comments are told in their order. -/
theorem foldl_addComment (comments : List Comment) (a : Annotations) :
    comments.foldl (fun a c => addComment options lines file c a) a =
      { a with comments :=
          a.comments ++ (comments.map (Comment.placed options lines file)).toArray } := by
  induction comments generalizing a with
  | nil => simp
  | cons c rest ih =>
      rw [List.foldl_cons, ih]
      simp [addComment, Comment.placed]

/-- Diagnostics are told in their order. -/
theorem foldl_addError (diagnostics : List Diagnostic) (a : Annotations) :
    diagnostics.foldl (fun a d => addError (d.locate lines) false a) a =
      { a with
        diagnostics := a.diagnostics ++ (diagnostics.map fun d => d.locate lines).toArray } := by
  induction diagnostics generalizing a with
  | nil => simp
  | cons d rest ih =>
      rw [List.foldl_cons, ih]
      simp [addError]

/-- Passing a lexeme adds its comments, its diagnostics and its token. -/
theorem pass_eq (l : Lexeme) (a : Annotations) :
    (observer options lines file).pass lines l a = { a with
      comments := a.comments ++ (l.comments.map (Comment.placed options lines file)).toArray
      diagnostics := a.diagnostics ++ (l.diagnostics.map fun d => d.locate lines).toArray } := by
  rw [Observer.pass, observer]
  simp only [foldl_addComment, foldl_addError]

/-- Taking a token records it, and what comes up in front of the next one. -/
theorem observed_taken {mode : Mode} (p : Progress Annotations) :
    ∃ tokens comments diagnostics,
      (p.taken ⟨mode, lines, observer options lines file⟩).observed = { p.observed with
        tokens, comments := p.observed.comments ++ comments, diagnostics } := by
  rw [Progress.taken]
  split
  · exact ⟨p.observed.tokens, #[], p.observed.diagnostics, by rw [Array.append_empty]⟩
  · rename_i goes
    obtain ⟨u, -, told⟩ := addToken_eq (Bool.eq_false_iff.mpr goes) p.observed
    have observed : (observer options lines file).token p.situation.token p.observed = _ := told
    simp only [observed]
    cases p.situation.upcoming with
    | nil =>
        exact ⟨p.observed.tokens.push u, #[], p.observed.diagnostics, by rw [Array.append_empty]⟩
    | cons next rest =>
        simp only [pass_eq]
        exact ⟨_, _, _, rfl⟩

/-- What annotations record keeps up with the stream. -/
theorem records_keepsUp :
    (observer options lines file).KeepsUp lines (Records options lines file) where
  opened _ _ _ _ h := ⟨h.tokens, h.comments, h.diagnostics, h.failure⟩
  closed _ _ _ _ h := ⟨h.tokens, h.comments, h.diagnostics, h.failure⟩
  taken words l next a goes h := by
    obtain ⟨u, hu, ha⟩ := addToken_eq goes a
    have counted : a.tokens.size = words.length := by
      have := congrArg List.length h.tokens
      simpa using this
    rw [counted] at hu
    have told : (observer options lines file).token l.token a = _ := ha
    rw [told, pass_eq]
    constructor
    · simp [h.tokens, hu]
    · simp [h.comments]
    · simp [h.diagnostics]
    · exact h.failure

/-- THE RECORD: a loose parse of a text ends with a tree, and records its
    tokens but the last, which is the end of input, and all its comments and
    diagnostics. -/
theorem parseText_records (options : ParseOptions) (lines : LineIndex) (file : String)
    (text : List Char) : ∃ program a words last,
      parseText .loose text lines (observer options lines file) .empty = (.tree program, a) ∧
        Lexeme.ofText text = words ++ [last] ∧ last.token.isEnd = true ∧
          Records options lines file words last a := by
  have start (first : Lexeme) : Records options lines file [] first
      ((observer options lines file).pass lines first
        ((observer options lines file).opened 0 .empty).2) := by
    rw [pass_eq]
    constructor <;> simp [observer, openNode, empty]
  let setting : Setting Annotations := ⟨.loose, lines, observer options lines file⟩
  have loose : setting.mode = .loose := rfl
  obtain ⟨program, p, words, last, hp, hw, ends, records⟩ := parseLexemes_reads loose
    records_keepsUp (Lexeme.ofText_terminated text) (Text.byteLength text) start
  exact ⟨program, p.observed, words, last, congrArg Outcome.result hp, hw, ends, records⟩

end Annotations

end ScriptTree

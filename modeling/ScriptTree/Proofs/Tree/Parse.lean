import ScriptTree.Proofs.Grammar.Rejection
import ScriptTree.Proofs.Lexeme.Spelling
import ScriptTree.Proofs.Tree.Retry

/-! # Trees — what the tree of a text holds

    A tree holds what a single loose parse makes of the text, whether the text
    was parsed once or twice: the same program, every token and every comment
    in order, and the modules.  The error of the strict parse stands first
    among the errors; behind it stands every diagnostic of the scanner. -/

namespace ScriptTree

/-- An error with the file it lies in, if trees are to name files. -/
def SyntaxError.tagged (options : ParseOptions) (file : String) (e : SyntaxError) : SyntaxError :=
  if options.sourceFile then { e with sourceFile := some file } else e

/-- Tagging an error writes the name of the file into it, if that is asked for. -/
theorem SyntaxError.tagged_eq (options : ParseOptions) (file : String) (e : SyntaxError) :
    e.tagged options file =
      { e with sourceFile := if options.sourceFile then some file else e.sourceFile } := by
  rw [tagged]
  split <;> rfl

/-- The name of the file plays no part in what is a repeat. -/
theorem SyntaxError.tagged_repeats (options : ParseOptions) (file : String) (e f : SyntaxError) :
    (e.tagged options file).repeats f = e.repeats f := by
  rw [tagged]
  split <;> rfl

/-- The text a record of a token holds: a regular expression between slashes
    with its flags behind them, any other token as the text has it. -/
def Token.written (text : List Char) (t : Token) : String :=
  match t.kind with
  | .regExp pattern flags => s!"/{pattern}/{flags}"
  | _ => String.ofList (Text.slice text t.span)

/-- A token of the tree is told with its class, its text and its span. -/
theorem Lexeme.SpelledIn.ofToken?_eq {text : List Char} {l : Lexeme} (h : l.SpelledIn text)
    (i : Nat) : TreeToken.ofToken? i l.token =
      (TokenClass.ofKind? l.token.kind).map fun kind =>
        { kind, value := l.token.written text, span := l.token.span, index := i } := by
  have value : Annotations.tokenValue l.token = l.token.written text := by
    cases kind : l.token.kind with
    | regExp pattern flags => simp only [Annotations.tokenValue, Token.written, kind]
    | _ =>
        simp only [Annotations.tokenValue, Token.written, kind]
        exact h
  rw [TreeToken.ofToken?, value]

/-- A comment keeps its kind, text and span. -/
theorem Comment.placed_same (options : ParseOptions) (lines : LineIndex) (file : String)
    (c : Comment) : ((c.placed options lines file).kind, (c.placed options lines file).text,
      (c.placed options lines file).span) = (c.kind, c.text, c.span) := by
  simp only [placed]
  split <;> rfl

namespace Annotations

/-- The errors of a tree are all that were kept, without repeats, and tagged. -/
theorem errors_eq (options : ParseOptions) (file : String) (a : Annotations) :
    a.errors options file =
      (withoutRepeats [] (a.failure.toList ++ a.diagnostics.toList)).map
        (SyntaxError.tagged options file) := by
  simp only [errors]
  split
  · rename_i named
    exact List.map_congr_left fun e _ => by simp only [SyntaxError.tagged, named, ↓reduceIte]
  · rename_i unnamed
    exact (List.map_id _).symm.trans
      (List.map_congr_left fun e _ => by simp [SyntaxError.tagged, unnamed])

/-- An error in front of the others takes the place of those that repeat it. -/
theorem errors_of_failure (options : ParseOptions) (file : String) {a : Annotations}
    (fresh : a.failure = none) (e : SyntaxError) :
    { a with failure := some e }.errors options file =
      e.tagged options file :: (a.errors options file).filter fun f => !f.repeats e := by
  have first : mark e ∉ ([] : List (Nat × String)) := List.not_mem_nil
  have kept : (fun f => !f.repeats e) ∘ SyntaxError.tagged options file =
      fun f => !f.repeats e :=
    funext fun f => congrArg (!·) (f.tagged_repeats options file e)
  rw [errors_eq, errors_eq, fresh, List.filter_map, kept, ← withoutRepeats_cons_seen]
  show List.map _ (withoutRepeats [] (e :: a.diagnostics.toList)) = _
  rw [withoutRepeats_cons_of_not_mem first]
  rfl

end Annotations

namespace SyntaxTree

variable (options : ParseOptions) (text : List Char) (file : String)

/-- ONE PASS: the program, the tokens, the comments and the references of a tree
    are those of a single loose parse from nothing.  A strict parse that fails
    adds its error in front of the errors, and nothing else. -/
theorem parse_eq_single_pass : ∃ program a,
    pass options text file .loose .empty = (.tree program, a) ∧
      let once := ofAnnotations options file program a
      let tree := parse options text file
      tree.program = once.program ∧ tree.tokens = once.tokens ∧ tree.comments = once.comments ∧
        tree.references = once.references ∧ tree.sourceFile = once.sourceFile ∧
        tree.errors = match (pass options text file .strict .empty).1 with
          | .rejected e => e.tagged options file :: once.errors.filter fun f => !f.repeats e
          | _ => once.errors := by
  obtain ⟨program, a, words, last, loose, -, -, records⟩ :=
    Annotations.parseText_records options (.ofText text) file text
  have whole := parse_eq_ofAnnotations options text file loose records.failure
  refine ⟨program, a, loose, ?_⟩
  simp only [whole]
  refine ⟨rfl, rfl, rfl, rfl, rfl, ?_⟩
  -- A loose parse meets no fatal error, so without one nothing is added.
  have same : { a with failure := none } = a := by rw [← records.failure]
  cases (pass options text file .strict .empty).1 with
  | tree _ => exact congrArg (Annotations.errors options file) same
  | rejected e => exact Annotations.errors_of_failure options file records.failure e
  | unfinished => exact congrArg (Annotations.errors options file) same

/-- THE STREAM: the tokens of a tree are all tokens of the text but the end of
    input, each with its class, its text, its span and its place among them; the
    comments are all comments of the text.  Nothing is lost, repeated or moved,
    however the parses went. -/
theorem parse_holds_stream : ∃ words stop,
    (lex text).tokens = words ++ [stop] ∧ stop.isEnd = true ∧
      let tree := parse options text file
      tree.tokens.map some = (words.mapIdx fun i t =>
        (TokenClass.ofKind? t.kind).map fun kind =>
          { kind, value := t.written text, span := t.span, index := i }) ∧
      (tree.comments.map fun c => (c.kind, c.text, c.span)) =
        (lex text).comments.map fun c => (c.kind, c.text, c.span) := by
  obtain ⟨program, a, words, last, loose, stream, ends, records⟩ :=
    Annotations.parseText_records options (.ofText text) file text
  have whole := parse_eq_ofAnnotations options text file loose records.failure
  refine ⟨words.map Lexeme.token, last.token, ?_, ends, ?_⟩
  · simp [lex, stream]
  simp only [whole]
  constructor
  · refine records.tokens.trans (List.mapIdx_eq_iff.mpr fun i => ?_)
    rw [List.getElem?_mapIdx, List.getElem?_map, Option.map_map]
    -- Each word is recorded with its place in the stream, so the two lists agree index by index.
    cases found : words[i]? with
    | none => rfl
    | some l =>
        have there : l ∈ Lexeme.ofText text :=
          stream ▸ List.mem_append_left _ (List.mem_of_getElem? found)
        exact congrArg some ((Lexeme.ofText_spelledIn there).ofToken?_eq i).symm
  · show a.comments.toList.map _ = _
    rw [records.comments, List.map_map, ← stream]
    exact List.map_congr_left fun c _ => c.placed_same options _ file

/-- THE ERRORS: those of a tree are the error of the strict parse and the diagnostics of
    the scanner, in this order, each place and message once.  Each of them, the first one
    included, tells the line and the column where its span starts. -/
theorem parse_errors_eq :
    let errors := (parse options text file).errors
    let located (d : Diagnostic) : SyntaxError :=
      ⟨d.fault, d.span, d.kind, (LineIndex.ofText text).lineColumn d.span.start, none⟩
    let repeated (e f : SyntaxError) : Bool :=
      e.span.start == f.span.start && e.message == f.message
    let tagged (e : SyntaxError) : SyntaxError :=
      { e with sourceFile := if options.sourceFile then some file else e.sourceFile }
    errors = (((pass options text file .strict .empty).1.failure?.toList ++
        (lex text).diagnostics.map located).eraseDupsBy repeated).map tagged ∧
      (∀ e ∈ errors, e.position = (LineIndex.ofText text).lineColumn e.span.start) ∧
      (errors = [] ↔
        (∃ program, (pass options text file .strict .empty).1 = .tree program) ∧
          (lex text).diagnostics = []) := by
  intro errors located repeated tagged
  obtain ⟨program, a, words, last, loose, stream, ends, records⟩ :=
    Annotations.parseText_records options (.ofText text) file text
  have parsed := parse_eq_ofAnnotations options text file loose records.failure
  have found : a.diagnostics.toList = (lex text).diagnostics.map located := by
    rw [records.diagnostics, ← stream]
    rfl
  have finished : (pass options text file .strict .empty).1 ≠ .unfinished :=
    parseText_finishes .strict text _ _ _
  have rejection : ∀ e, (pass options text file .strict .empty).1 = .rejected e →
      e.position = (LineIndex.ofText text).lineColumn e.span.start :=
    fun e h => parseText_located h
  generalize (pass options text file .strict .empty).1 = strict at parsed finished rejection ⊢
  have whole : errors =
      (Annotations.withoutRepeats [] (strict.failure?.toList ++
        (lex text).diagnostics.map located)).map (SyntaxError.tagged options file) := by
    rw [show errors = _ from congrArg SyntaxTree.errors parsed, ← found]
    exact Annotations.errors_eq options file _
  refine ⟨?_, fun e he => ?_, ?_⟩
  · rw [whole, Annotations.withoutRepeats_eq_eraseDupsBy]
    exact List.map_congr_left fun e _ => SyntaxError.tagged_eq options file e
  · rw [whole] at he
    obtain ⟨f, hf, rfl⟩ := List.mem_map.mp he
    rw [SyntaxError.tagged_eq]
    -- An error is the one of the strict parse or was located by its diagnostic.
    rcases List.mem_append.mp (Annotations.withoutRepeats_subset hf) with failed | scanned
    · cases result : strict with
      | rejected e =>
          rw [result] at failed
          obtain rfl := List.mem_singleton.mp failed
          exact rejection f result
      | tree program => rw [result] at failed; cases failed
      | unfinished => rw [result] at failed; cases failed
    · obtain ⟨d, -, rfl⟩ := List.mem_map.mp scanned
      rfl
  · rw [whole, List.map_eq_nil_iff, Annotations.withoutRepeats_eq_nil_iff,
      List.append_eq_nil_iff, List.map_eq_nil_iff, Option.toList_eq_nil_iff]
    refine and_congr_left fun _ => ?_
    cases result : strict with
    | tree program => exact ⟨fun _ => ⟨program, rfl⟩, fun _ => rfl⟩
    | rejected e => simp [ParseResult.failure?]
    | unfinished => exact absurd result finished

end SyntaxTree

end ScriptTree

import ScriptTree.Proofs.Assembly.Program
import ScriptTree.Proofs.Grammar.Strictness
import ScriptTree.Proofs.Tree.Dependency
import ScriptTree.Proofs.Tree.Record
import ScriptTree.Proofs.Tree.Repeats

/-! # The second parse — as if it were the first

    A tree is made by a strict parse and, if that fails, by a loose one which
    goes on with the annotations of the first.  The error that ended the first
    parse made them forget tokens, comments and cursors, so the second parse
    is given the same comments as a parse from nothing.  It goes over the
    modules and diagnostics of the first again, which come to nothing: what is
    gathered twice is kept once.

    Hence the tree is that of a single loose parse from nothing, to which the
    strict parse adds its error. -/

namespace ScriptTree

namespace Annotations

variable {options : ParseOptions} {lines : LineIndex} {file : String} {a b m : Annotations}
  {e : SyntaxError}

/-! ## The first parse -/

/-- No fatal error was met yet. -/
def Fresh (a : Annotations) : Prop := a.failure = none ∧ a.awaitsFailure = true

/-- A token more does not touch what is fresh. -/
theorem addToken_fresh (t : Token) (h : a.Fresh) : (addToken t a).Fresh := by
  rw [addToken]
  split <;> exact h

/-- Two parses with the same annotations that met no fatal error. -/
theorem agrees_fresh : (observer options lines file).Agrees (observer options lines file)
    fun a b => a = b ∧ a.Fresh where
  token t _ _ h := ⟨h.1 ▸ rfl, addToken_fresh t h.2⟩
  comment _ _ _ h := ⟨h.1 ▸ rfl, h.2⟩
  opened _ _ _ h := ⟨h.1 ▸ rfl, h.1 ▸ rfl, h.2⟩
  closed _ _ _ h := ⟨h.1 ▸ rfl, h.1 ▸ rfl, h.2⟩
  error _ _ _ h := ⟨h.1 ▸ rfl, h.2⟩

/-- The first fatal error forgets what is read again, and is kept. -/
theorem addError_fatal (e : SyntaxError) (h : m.Fresh) :
    addError e true m = { m.forget with failure := some e } := by
  simp [addError, h.2, forget, h.1]

/-! ## What the first parse leaves behind -/

/-- What was gathered in a parse is still there, in front. -/
structure Grows (m a : Annotations) : Prop where
  references : ∃ more, a.references = m.references.join more
  diagnostics : ∃ more, a.diagnostics.toList = m.diagnostics.toList ++ more

/-- What can be reached has grown. -/
theorem grows_of_reaches (h : (observer options lines file).Reaches m a) : m.Grows a := by
  induction h with
  | refl => exact ⟨⟨.none, (References.join_none _).symm⟩, ⟨[], (List.append_nil _).symm⟩⟩
  | @token b _ t ih =>
      show m.Grows (addToken t b)
      rw [addToken]
      split
      · exact ⟨ih.references, ih.diagnostics⟩
      · exact ih
  | comment _ c ih => exact ⟨ih.references, ih.diagnostics⟩
  | opened _ start ih => exact ⟨ih.references, ih.diagnostics⟩
  | @closed b _ n ih =>
      obtain ⟨more, hr⟩ := ih.references
      refine ⟨⟨more.join (.ofNode n), ?_⟩, ih.diagnostics⟩
      show b.references.join (.ofNode n) = _
      rw [hr, References.join_assoc]
  | @error b _ e ih =>
      obtain ⟨more, hd⟩ := ih.diagnostics
      refine ⟨ih.references, more ++ [e], ?_⟩
      show (b.diagnostics.push e).toList = _
      rw [Array.toList_push, hd, List.append_assoc]

/-! ## The second parse -/

/-- The annotations `a` of a parse that goes on behind `m` and its error, and
    those `b` of a parse from nothing. -/
structure Resumes (m : Annotations) (e : SyntaxError) (a b : Annotations) : Prop where
  tokens : a.tokens = b.tokens
  comments : a.comments = b.comments
  leadingCursor : a.leadingCursor = b.leadingCursor
  trailingCursor : a.trailingCursor = b.trailingCursor
  references : a.references = m.references.join b.references
  diagnostics : a.diagnostics.toList = m.diagnostics.toList ++ b.diagnostics.toList
  failure : a.failure = some e

/-- The second parse starts as if it were the first, with an error in front. -/
theorem resumes_start (h : m.Fresh) : m.Resumes e (addError e true m) .empty := by
  rw [addError_fatal e h]
  exact ⟨rfl, rfl, rfl, rfl, (References.join_none _).symm, (List.append_nil _).symm, rfl⟩

/-- All observations agree with those of a first parse. -/
theorem agrees_resumes : (observer options lines file).Agrees (observer options lines file)
    (m.Resumes e) where
  token t a b h := by
    show m.Resumes e (addToken t a) (addToken t b)
    simp only [addToken]
    rw [h.tokens]
    split
    · exact ⟨rfl, h.comments, h.leadingCursor, h.trailingCursor, h.references, h.diagnostics,
        h.failure⟩
    · exact h
  comment c a b h := ⟨h.tokens, congrArg (Array.push · _) h.comments, h.leadingCursor,
    h.trailingCursor, h.references, h.diagnostics, h.failure⟩
  -- The cursor moves by the comments given, and those agree because the cursors did.
  opened start a b h := by
    have same : a.leadingAt start = b.leadingAt start := by
      rw [leadingAt, leadingAt, h.comments, h.leadingCursor]
    refine ⟨same, h.tokens, h.comments, ?_, h.trailingCursor, h.references, h.diagnostics,
      h.failure⟩
    show a.leadingCursor + (a.leadingAt start).length = _
    rw [same, h.leadingCursor]
    rfl
  closed n a b h := by
    have same : a.trailingAt n.span.stop = b.trailingAt n.span.stop := by
      rw [trailingAt, trailingAt, h.comments, h.trailingCursor]
    refine ⟨same, h.tokens, h.comments, h.leadingCursor, congrArg Array.size h.comments, ?_,
      h.diagnostics, h.failure⟩
    -- References are joined, so that those of the first pass stay in front.
    show a.references.join (.ofNode n) = m.references.join (b.references.join (.ofNode n))
    rw [h.references, References.join_assoc]
  error e a b h := by
    refine ⟨h.tokens, h.comments, h.leadingCursor, h.trailingCursor, h.references, ?_,
      h.failure⟩
    show (a.diagnostics.push e).toList = _ ++ (b.diagnostics.push e).toList
    rw [Array.toList_push, Array.toList_push, h.diagnostics, List.append_assoc]

/-- Where the parse from nothing went on behind the first one, the second
    parse makes the same tree, but for the error that ended the first. -/
theorem Resumes.ofAnnotations_eq (h : m.Resumes e a b) (grows : m.Grows b) (program : Node) :
    SyntaxTree.ofAnnotations options file program a =
      SyntaxTree.ofAnnotations options file program { b with failure := some e } := by
  obtain ⟨refs, hr⟩ := grows.references
  obtain ⟨more, hd⟩ := grows.diagnostics
  -- What `m` holds, `b` holds in front, so it is gathered a second time.
  have references : a.references = b.references := by
    rw [h.references, hr, ← References.join_assoc, References.join_self]
  have errors : a.errors options file = { b with failure := some e }.errors options file := by
    have kept : withoutRepeats [] (a.failure.toList ++ a.diagnostics.toList) =
        withoutRepeats [] (e :: b.diagnostics.toList) := by
      have first : mark e ∉ ([] : List (Nat × String)) := List.not_mem_nil
      rw [h.failure, h.diagnostics, hd, Option.toList_some, List.singleton_append,
        withoutRepeats_cons_of_not_mem first, withoutRepeats_again,
        withoutRepeats_cons_of_not_mem first]
    rw [Annotations.errors]
    simp only [kept]
    rfl
  simp only [SyntaxTree.ofAnnotations, h.tokens, h.comments, references, errors]

end Annotations

namespace SyntaxTree

variable (options : ParseOptions) (text : List Char) (file : String)

/-- A parse of the text in one mode, watched by annotations that were made
    before. -/
def pass (mode : Mode) (a : Annotations) : ParseResult × Annotations :=
  parseText mode text (.ofText text) (Annotations.observer options (.ofText text) file) a

/-- The tree of a text that the strict parse accepts. -/
theorem parse_of_tree {program : Node} {a : Annotations}
    (h : pass options text file .strict .empty = (.tree program, a)) :
    parse options text file = ofAnnotations options file program a := by
  rw [pass, parseText] at h
  simp only [parse, h]

/-- The tree of a text that it rejects. -/
theorem parse_of_rejected {e : SyntaxError} {program : Node} {told a : Annotations}
    (h : pass options text file .strict .empty = (.rejected e, told))
    (k : pass options text file .loose told = (.tree program, a)) :
    parse options text file = ofAnnotations options file program a := by
  rw [pass, parseText] at h k
  simp only [parse, h, k]

/-- THE SECOND PARSE: the tree of a text is that of a single loose parse from
    nothing, together with the error that ended the strict parse. -/
theorem parse_eq_ofAnnotations {program : Node} {a : Annotations}
    (loose : pass options text file .loose .empty = (.tree program, a))
    (fresh : a.failure = none) :
    parse options text file = ofAnnotations options file program
      { a with failure := (pass options text file .strict .empty).1.failure? } := by
  have follows : EndsLike _ _ _ program a (pass options text file .strict .empty) :=
    parseText_follows .strict Annotations.agrees_fresh ⟨rfl, rfl, rfl⟩ loose
  generalize hs : pass options text file .strict .empty = strict at follows
  cases follows with
  | tree related =>
      have unfailed : { a with failure := none } = a := by rw [← fresh]
      rw [parse_of_tree options text file hs, related.1]
      exact congrArg (ofAnnotations options file program) unfailed.symm
  | @rejected e m _ related on =>
      obtain ⟨rfl, unfailed⟩ := related
      -- `m` is also a memory of the loose parse from nothing, on its way to `a`.
      let told := Annotations.addError e true m
      obtain ⟨program', again, second⟩ := parseText_loose text (.ofText text)
        (Annotations.observer options (.ofText text) file) told
      have resumes := parseText_follows .loose Annotations.agrees_resumes
        (@Annotations.resumes_start m e unfailed) loose
      rw [second] at resumes
      cases resumes with
      | tree resumed =>
          rw [parse_of_rejected options text file hs second]
          exact resumed.ofAnnotations_eq (Annotations.grows_of_reaches on) program

end SyntaxTree

end ScriptTree

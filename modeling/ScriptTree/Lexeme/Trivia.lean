import ScriptTree.Comment
import ScriptTree.Lexeme.Cursor
import ScriptTree.Source.Character
import ScriptTree.SyntaxError

/-! # Trivia — what stands between tokens

    Blanks, line terminators and comments.  Skipping trivia goes piece by
    piece and gathers the comments, a mark for a line break (also inside a
    block comment), and the one diagnostic trivia can give: a block comment
    that is never closed, which then reaches to the end of the text. -/

namespace ScriptTree

/-- What was skipped so far, and where the skipping has got to. -/
structure Trivia where
  cursor : Cursor
  /-- A line break was crossed. -/
  newline : Bool
  comments : Array Comment
  diagnostics : Array Diagnostic
deriving DecidableEq, Repr, Inhabited

namespace Trivia

/-- Nothing skipped yet. -/
def start (c : Cursor) : Trivia := ⟨c, false, #[], #[]⟩

/-- The `*/` that closes a block comment, or the end of the text; and
    whether it was found. -/
def findClose (offset : Nat) : List Char → Cursor × Bool
  | [] => (⟨offset, []⟩, false)
  | '*' :: '/' :: rest => (⟨offset, '*' :: '/' :: rest⟩, true)
  | x :: rest => findClose (offset + x.utf8Size) rest

/-- The comment from its opening delimiter at `opening` to the cursor `stop`
    behind it, with its text between `body` and `bodyStop`. -/
def comment (kind : CommentKind) (opening body bodyStop stop : Cursor) : Comment :=
  ⟨kind, String.ofList (body.textTo bodyStop), opening.spanTo stop, none⟩

/-- Skip a comment that runs to the end of its line. -/
def lineComment (t : Trivia) : Trivia :=
  let body := t.cursor.skip 2
  let stop := body.skipWhile fun x => !Character.isLineTerminator x
  { t with
    cursor := stop
    comments := t.comments.push (comment .line t.cursor body stop stop) }

/-- Skip a comment between delimiters. -/
def blockComment (t : Trivia) : Trivia :=
  let body := t.cursor.skip 2
  let found := findClose body.offset body.rest
  let bodyStop := found.1
  let stop := if found.2 then bodyStop.skip 2 else bodyStop
  { cursor := stop
    newline := t.newline || (body.textTo bodyStop).any Character.isLineTerminator
    comments := t.comments.push (comment .block t.cursor body bodyStop stop)
    diagnostics :=
      if found.2 then t.diagnostics
      else t.diagnostics.push
        ⟨.unterminatedComment, t.cursor.spanTo stop, .ofAtEnd stop.atEnd⟩ }

/-- Skip one piece of trivia, if one stands at the cursor. -/
def step? (t : Trivia) : Option Trivia :=
  match t.cursor.rest with
  | [] => none
  | '/' :: '/' :: _ => some t.lineComment
  | '/' :: '*' :: _ => some t.blockComment
  | x :: _ =>
    if Character.isLineTerminator x then some { t with cursor := t.cursor.next, newline := true }
    else if Character.isBlank x then some { t with cursor := t.cursor.next }
    else none

theorem findClose_reaches (offset : Nat) (rest : List Char) :
    Cursor.Reaches ⟨offset, rest⟩ (findClose offset rest).1 := by
  fun_induction findClose offset rest with
  | case1 offset => exact .refl _
  | case2 offset rest => exact .refl _
  | case3 offset x rest _ ih => exact (Cursor.Reaches.cons offset x rest).trans ih

theorem skip_two_lt {c : Cursor} {x y : Char} {rest : List Char} (h : c.rest = x :: y :: rest) :
    (c.skip 2).rest.length < c.rest.length := by
  obtain ⟨offset, chars⟩ := c
  subst h
  simp only [Cursor.skip, Cursor.next, List.length_cons]
  omega

theorem lineComment_lt {t : Trivia} {x y : Char} {rest : List Char}
    (h : t.cursor.rest = x :: y :: rest) :
    t.lineComment.cursor.rest.length < t.cursor.rest.length :=
  Nat.lt_of_le_of_lt (Cursor.Reaches.skipWhile _ _).length_le (skip_two_lt h)

theorem blockComment_reaches (t : Trivia) :
    (t.cursor.skip 2).Reaches t.blockComment.cursor := by
  have stopped : ∀ found : Cursor × Bool,
      found.1.Reaches (if found.2 then found.1.skip 2 else found.1) := by
    intro found
    split
    · exact .skip 2 _
    · exact .refl _
  exact (findClose_reaches _ _).trans (stopped _)

theorem blockComment_lt {t : Trivia} {x y : Char} {rest : List Char}
    (h : t.cursor.rest = x :: y :: rest) :
    t.blockComment.cursor.rest.length < t.cursor.rest.length :=
  Nat.lt_of_le_of_lt (blockComment_reaches t).length_le (skip_two_lt h)

/-- A skipped piece of trivia is not empty. -/
theorem step?_lt {t u : Trivia} (h : t.step? = some u) :
    u.cursor.rest.length < t.cursor.rest.length := by
  unfold step? at h
  split at h
  · simp at h
  · rename_i heq
    cases h
    exact lineComment_lt heq
  · rename_i heq
    cases h
    exact blockComment_lt heq
  · rename_i x rest _ _ heq
    have hne : t.cursor.rest ≠ [] := by simp [heq]
    split at h
    · cases h; exact Cursor.length_next_lt hne
    · split at h
      · cases h; exact Cursor.length_next_lt hne
      · simp at h

/-- One piece of trivia moves the cursor forward. -/
theorem step?_reaches {t u : Trivia} (h : t.step? = some u) : t.cursor.Reaches u.cursor := by
  unfold step? at h
  split at h
  · simp at h
  · cases h
    exact (Cursor.Reaches.skip 2 _).trans (Cursor.Reaches.skipWhile _ _)
  · cases h
    exact (Cursor.Reaches.skip 2 _).trans (blockComment_reaches t)
  · split at h
    · cases h; exact .next _
    · split at h
      · cases h; exact .next _
      · simp at h

/-- Skip all trivia at the cursor. -/
def skip (t : Trivia) : Trivia :=
  match _skipped : t.step? with
  | none => t
  | some u => u.skip
termination_by t.cursor.rest.length
decreasing_by exact step?_lt _skipped

/-- Skipping trivia moves the cursor forward. -/
theorem skip_reaches (t : Trivia) : t.cursor.Reaches t.skip.cursor := by
  fun_induction skip t with
  | case1 t => exact .refl _
  | case2 t u h ih => exact (step?_reaches h).trans ih

end Trivia

end ScriptTree

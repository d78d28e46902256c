import ScriptTree.Lexeme.Cursor
import ScriptTree.Lexeme.Escape

/-! # Literals between delimiters

    String literals, whose escapes are resolved and which a line break ends
    early; chunks of templates, which keep their text as written; and
    regular expressions, in which a slash between square brackets does not
    close.  Each scanner reports a missing delimiter and yields what it has
    read. -/

namespace ScriptTree

namespace StringLiteral

/-- A string literal while it is read, the last character first. -/
structure Body where
  cursor : Cursor
  value : List Char
  diagnostics : List Diagnostic
deriving DecidableEq, Repr, Inhabited

namespace Body

/-- Take the character at the cursor for itself. -/
def plain (b : Body) (c : Char) : Body :=
  { b with cursor := b.cursor.next, value := c :: b.value }

/-- Take the escape sequence at the cursor. -/
def escaped (b : Body) : Body :=
  let read := Escape.read b.cursor.next
  let reached := { b with cursor := read.2 }
  match read.1 with
  | .character c => { reached with value := c :: b.value }
  | .nothing => reached
  | .malformed =>
    { reached with diagnostics := b.diagnostics ++ [b.cursor.diagnose read.2 .badEscape] }

/-- The character ends the literal where no closing quote stands. -/
def isBreak (c : Char) : Bool := c == '\n' || c == '\r'

theorem escaped_reaches (b : Body) : b.cursor.next.Reaches b.escaped.cursor := by
  have h := Escape.read_reaches b.cursor.next
  unfold escaped
  simp only
  split <;> exact h

/-- Read up to the closing quote and over it, or to where one is missing. -/
def scan (quote : Char) (opening : Cursor) (b : Body) : Body :=
  match _here : b.cursor.rest with
  | [] =>
    { b with diagnostics := b.diagnostics ++ [opening.diagnose b.cursor .unterminatedString] }
  | c :: _ =>
    if isBreak c then
      { b with diagnostics := b.diagnostics ++ [opening.diagnose b.cursor .unterminatedString] }
    else if c == quote then { b with cursor := b.cursor.next }
    else if c == '\\' then b.escaped.scan quote opening
    else (b.plain c).scan quote opening
termination_by b.cursor.rest.length
decreasing_by
  · have step := Cursor.length_next_lt (c := b.cursor) (by simp [_here])
    exact Nat.lt_of_le_of_lt (escaped_reaches b).length_le step
  · exact Cursor.length_next_lt (c := b.cursor) (by simp [_here])

/-- Reading a literal moves the cursor forward. -/
theorem scan_reaches (quote : Char) (opening : Cursor) (b : Body) :
    b.cursor.Reaches (b.scan quote opening).cursor := by
  fun_induction scan quote opening b with
  | case1 b h => exact .refl _
  | case2 b c rest h hb => exact .refl _
  | case3 b c rest h hb hq => exact .next _
  | case4 b c rest h hb hq hs ih =>
    exact (Cursor.Reaches.next _).trans ((escaped_reaches b).trans ih)
  | case5 b c rest h hb hq hs ih => exact (Cursor.Reaches.next _).trans ih

end Body

/-- Read the string literal at the cursor. -/
def scan (quote : Char) (c : Cursor) : Scanned :=
  let body := Body.scan quote c ⟨c.next, [], []⟩
  ⟨.string (String.ofList body.value.reverse), body.cursor, body.diagnostics⟩

/-- A string literal takes at least its opening quote. -/
theorem scan_reaches (quote : Char) (c : Cursor) : c.next.Reaches (scan quote c).cursor :=
  Body.scan_reaches quote c ⟨c.next, [], []⟩

end StringLiteral

namespace Template

/-- How a chunk of a template ends. -/
inductive Ending where
  | quote
  | substitution
  | missing
deriving DecidableEq, Repr, Inhabited

/-- The delimiter that ends a chunk, and which one it is. -/
def findEnding (offset : Nat) : List Char → Cursor × Ending
  | [] => (⟨offset, []⟩, .missing)
  | '\x60' :: rest => (⟨offset, '\x60' :: rest⟩, .quote)
  | '$' :: '{' :: rest => (⟨offset, '$' :: '{' :: rest⟩, .substitution)
  | '\\' :: x :: rest => findEnding (offset + 1 + x.utf8Size) rest
  | x :: rest => findEnding (offset + x.utf8Size) rest

theorem findEnding_reaches (offset : Nat) (rest : List Char) :
    Cursor.Reaches ⟨offset, rest⟩ (findEnding offset rest).1 := by
  fun_induction findEnding offset rest with
  | case1 offset => exact .refl _
  | case2 offset rest => exact .refl _
  | case3 offset rest => exact .refl _
  | case4 offset x rest ih =>
    exact (Cursor.Reaches.cons offset '\\' _).trans
      ((Cursor.Reaches.cons (offset + 1) x rest).trans ih)
  | case5 offset x rest _ _ _ ih => exact (Cursor.Reaches.cons offset x rest).trans ih

/-- Read a chunk whose text begins at the cursor. -/
def scan (isHead : Bool) (body : Cursor) : Scanned :=
  let found := findEnding body.offset body.rest
  let stop := found.1
  let raw := String.ofList (body.textTo stop)
  match found.2 with
  | .quote => ⟨.template raw isHead true, stop.next, []⟩
  | .substitution => ⟨.template raw isHead false, stop.skip 2, []⟩
  | .missing =>
    ⟨.template raw isHead true, stop, [body.diagnose stop .unterminatedTemplate]⟩

/-- Reading a chunk moves the cursor forward. -/
theorem scan_reaches (isHead : Bool) (body : Cursor) :
    body.Reaches (scan isHead body).cursor := by
  have h := findEnding_reaches body.offset body.rest
  unfold scan
  simp only
  split
  · exact h.trans (.next _)
  · exact h.trans (.skip _ _)
  · exact h

end Template

namespace RegExpLiteral

/-- The slash that closes a regular expression, or where the reading ends
    without one; and whether it was found. -/
def findClose (inClass : Bool) (offset : Nat) : List Char → Cursor × Bool
  | [] => (⟨offset, []⟩, false)
  | '\\' :: x :: rest =>
    if Character.isLineTerminator x then (⟨offset + 1, x :: rest⟩, false)
    else findClose inClass (offset + 1 + x.utf8Size) rest
  | x :: rest =>
    if Character.isLineTerminator x then (⟨offset, x :: rest⟩, false)
    else if x == '/' && !inClass then (⟨offset, x :: rest⟩, true)
    else
      findClose (if x == '[' then true else if x == ']' then false else inClass)
        (offset + x.utf8Size) rest

theorem findClose_reaches (inClass : Bool) (offset : Nat) (rest : List Char) :
    Cursor.Reaches ⟨offset, rest⟩ (findClose inClass offset rest).1 := by
  fun_induction findClose inClass offset rest with
  | case1 inClass offset => exact .refl _
  | case2 inClass offset x rest _ => exact .cons offset '\\' _
  | case3 inClass offset x rest _ ih =>
    exact (Cursor.Reaches.cons offset '\\' _).trans
      ((Cursor.Reaches.cons (offset + 1) x rest).trans ih)
  | case4 inClass offset x rest _ => exact .refl _
  | case5 inClass offset x rest _ => exact .refl _
  | case6 inClass offset x rest _ _ _ ih => exact (Cursor.Reaches.cons offset x rest).trans ih

/-- Read the regular expression at the cursor. -/
def scan (c : Cursor) : Scanned :=
  let body := c.next
  let found := findClose false body.offset body.rest
  let stop := found.1
  let pattern := String.ofList (body.textTo stop)
  if found.2 then
    let flags := stop.next
    let last := flags.skipWhile Character.isIdentifierPart
    ⟨.regExp pattern (String.ofList (flags.textTo last)), last, []⟩
  else ⟨.regExp pattern "", stop, [c.diagnose stop .unterminatedRegExp]⟩

/-- A regular expression takes at least its opening slash. -/
theorem scan_reaches (c : Cursor) : c.next.Reaches (scan c).cursor := by
  have h := findClose_reaches false c.next.offset c.next.rest
  unfold scan
  simp only
  split
  · exact h.trans ((Cursor.Reaches.next _).trans (.skipWhile _ _))
  · exact h

end RegExpLiteral

end ScriptTree

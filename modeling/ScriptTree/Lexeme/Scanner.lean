import ScriptTree.Lexeme.Numeral
import ScriptTree.Lexeme.Quoted
import ScriptTree.Lexeme.Trivia

/-! # The scanner — which word stands at the cursor

    Two characters are ambiguous.  A slash divides behind a word that ends a
    value and opens a regular expression behind any other.  A closing brace
    resumes a template when as many braces are open as were at the
    template's substitution.  A `Scanner` holds what decides both. -/

namespace ScriptTree

/-- The place in the text, and what the next word depends on. -/
structure Scanner where
  cursor : Cursor
  /-- For each open substitution, innermost first, how many braces were open
      when it began. -/
  templates : List Nat
  /-- How many braces are open. -/
  braces : Nat
  /-- A slash opens a regular expression. -/
  regExpAllowed : Bool
deriving DecidableEq, Repr, Inhabited

namespace TokenKind

/-- A slash behind the word opens a regular expression. -/
def allowsRegExp : TokenKind → Bool
  | .name _ => false
  | .number _ => false
  | .string _ => false
  | .regExp .. => false
  | .template _ _ isTail => !isTail
  | .keyword .thisWord => false
  | .keyword .superWord => false
  | .keyword .trueWord => false
  | .keyword .falseWord => false
  | .keyword .nullWord => false
  | .keyword _ => true
  | .punctuator .closeParen => false
  | .punctuator .closeBracket => false
  | .punctuator .increment => false
  | .punctuator .decrement => false
  | .punctuator _ => true
  | .endOfInput => true

end TokenKind

namespace Scanner

/-- At the start of a text. -/
def start (text : List Char) : Scanner := ⟨⟨0, text⟩, [], 0, true⟩

/-- The scanner behind a word. -/
def after (s : Scanner) (word : Scanned) : Scanner where
  cursor := word.cursor
  templates :=
    match word.kind with
    | .template _ isHead isTail =>
      let outer := if isHead then s.templates else s.templates.tail
      if isTail then outer else s.braces :: outer
    | _ => s.templates
  braces :=
    match word.kind with
    | .punctuator .openBrace => s.braces + 1
    | .punctuator .closeBrace => s.braces - 1
    | _ => s.braces
  regExpAllowed := word.kind.allowsRegExp

/-- Read an identifier or a reserved word. -/
def scanWord (c : Cursor) : Scanned :=
  let stop := c.skipWhile Character.isIdentifierPart
  let text := String.ofList (c.textTo stop)
  match Keyword.ofSpelling? text with
  | some word => ⟨.keyword word, stop, []⟩
  | none => ⟨.name text, stop, []⟩

/-- Read the longest punctuator at the cursor. -/
def scanPunctuator? (c : Cursor) : Option Scanned :=
  (Punctuator.ofText? c.rest).map fun mark =>
    ⟨.punctuator mark, c.skip mark.spelling.length, []⟩

/-- A closing brace here resumes a template. -/
def resumesTemplate (s : Scanner) : Bool := s.templates.head? == some s.braces

/-- Read the word at `c`, if one stands there. -/
def word? (s : Scanner) (c : Cursor) : Option Scanned :=
  match c.rest with
  | [] => none
  | x :: rest =>
    if x == '\x60' then some (Template.scan true c.next)
    else if x == '}' && s.resumesTemplate then some (Template.scan false c.next)
    else if x == '"' || x == '\'' then some (StringLiteral.scan x c)
    else if x.isDigit || (x == '.' && rest.head?.any Char.isDigit) then some (Numeral.scan c)
    else if x == '/' && s.regExpAllowed then some (RegExpLiteral.scan c)
    else if Character.isIdentifierStart x then some (scanWord c)
    else scanPunctuator? c

theorem spelling_length_pos (p : Punctuator) : 0 < p.spelling.length := by
  cases p <;> decide

/-- A word takes at least its first character. -/
theorem word?_reaches {s : Scanner} {c : Cursor} {w : Scanned} (h : s.word? c = some w) :
    c.next.Reaches w.cursor := by
  obtain ⟨offset, chars⟩ := c
  unfold word? at h
  split at h
  · simp at h
  rename_i x rest heq
  simp only at heq
  subst heq
  split at h
  · cases h; exact Template.scan_reaches true _
  split at h
  · cases h; exact Template.scan_reaches false _
  split at h
  · cases h; exact StringLiteral.scan_reaches x _
  split at h
  · cases h; exact Numeral.scan_reaches _
  split at h
  · cases h; exact RegExpLiteral.scan_reaches _
  split at h
  · rename_i opens
    have part := Character.isIdentifierPart_of_isIdentifierStart opens
    have stop : Cursor.Reaches ⟨offset + x.utf8Size, rest⟩
        (Cursor.skipWhile Character.isIdentifierPart ⟨offset, x :: rest⟩) := by
      simp only [Cursor.skipWhile, Cursor.skipFrom, part, if_true]
      exact .skipFrom _ _ _
    cases h
    unfold scanWord
    simp only
    split <;> exact stop
  · obtain ⟨mark, _, rfl⟩ := Option.map_eq_some_iff.mp h
    obtain ⟨n, hn⟩ := Nat.exists_eq_succ_of_ne_zero (Nat.ne_of_gt (spelling_length_pos mark))
    simp only [hn]
    exact .skip n _

/-- A word stands only where characters are left. -/
theorem word?_rest_ne_nil {s : Scanner} {c : Cursor} {w : Scanned} (h : s.word? c = some w) :
    c.rest ≠ [] := by
  intro none
  simp [word?, none] at h

/-- A word leaves fewer characters. -/
theorem word?_lt {s : Scanner} {c : Cursor} {w : Scanned} (h : s.word? c = some w) :
    w.cursor.rest.length < c.rest.length :=
  Nat.lt_of_le_of_lt (word?_reaches h).length_le (Cursor.length_next_lt (word?_rest_ne_nil h))

end Scanner

end ScriptTree

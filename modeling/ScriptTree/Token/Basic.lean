import ScriptTree.Source.Span
import ScriptTree.Token.Keyword
import ScriptTree.Token.Punctuator

/-! # Tokens — the words of a program

    A token has a kind, the span it was read from, its text, and a mark for
    a line break between it and the token before it, which the grammar
    consults where a semicolon may be left out. -/

namespace ScriptTree

/-- What a token is, with what was read from it. -/
inductive TokenKind where
  /-- A numeric literal and its value. -/
  | number (value : Float)
  /-- A string literal with its escapes resolved. -/
  | string (value : String)
  /-- A chunk of a template: heads open with the quote, tails close with it. -/
  | template (raw : String) (isHead isTail : Bool)
  /-- A regular expression without its delimiters. -/
  | regExp (pattern flags : String)
  /-- An identifier, or a word that is reserved only in places. -/
  | name (text : String)
  | keyword (word : Keyword)
  | punctuator (mark : Punctuator)
  /-- The end of the source; every token stream ends with it. -/
  | endOfInput
deriving DecidableEq, Repr, Inhabited

/-- A token where it stands. -/
structure Token where
  kind : TokenKind
  span : Span
  /-- A line break lies between the previous token and this one. -/
  newlineBefore : Bool
  /-- The source text of the token. -/
  text : String
deriving DecidableEq, Repr, Inhabited

namespace TokenKind

/-- What the token is called in an error message. -/
def description : TokenKind → String
  | .number _ => "number"
  | .string _ => "string"
  | .template .. => "template"
  | .regExp .. => "regular expression"
  | .name text => s!"identifier '{text}'"
  | .keyword word => s!"keyword '{word.spelling}'"
  | .punctuator mark => s!"'{mark.spelling}'"
  | .endOfInput => "end of input"

end TokenKind

namespace Token

/-- The token is the punctuator. -/
def isPunctuator (t : Token) (p : Punctuator) : Bool := t.kind == .punctuator p

/-- The token is the reserved word. -/
def isKeyword (t : Token) (k : Keyword) : Bool := t.kind == .keyword k

/-- The token is a name with this spelling. -/
def isNamed (t : Token) (word : String) : Bool := t.kind == .name word

/-- The token is a name. -/
def isName (t : Token) : Bool :=
  match t.kind with
  | .name _ => true
  | _ => false

/-- The token is the end of the source. -/
def isEnd (t : Token) : Bool := t.kind == .endOfInput

/-- The token is a template chunk that opens a template. -/
def isTemplateHead (t : Token) : Bool :=
  match t.kind with
  | .template _ isHead _ => isHead
  | _ => false

/-- The token is a template chunk that follows a substitution. -/
def isTemplateRest (t : Token) : Bool :=
  match t.kind with
  | .template _ isHead _ => !isHead
  | _ => false

theorem isPunctuator_iff {t : Token} {p : Punctuator} :
    t.isPunctuator p = true ↔ t.kind = .punctuator p := by
  simp [isPunctuator]

theorem isKeyword_iff {t : Token} {k : Keyword} :
    t.isKeyword k = true ↔ t.kind = .keyword k := by
  simp [isKeyword]

theorem isEnd_iff {t : Token} : t.isEnd = true ↔ t.kind = .endOfInput := by
  simp [isEnd]

end Token

end ScriptTree

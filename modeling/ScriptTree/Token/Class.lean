import ScriptTree.Token.Basic

/-! # Token classes — what tools call a token

    Tools that colour or index a program group its tokens coarsely.
    Template chunks count as punctuators; the end of the source has no
    class. -/

namespace ScriptTree

/-- The coarse category of a token. -/
inductive TokenClass where
  | numeric
  | string
  | regularExpression
  | identifier
  | keyword
  | boolean
  | null
  | punctuator
deriving DecidableEq, Repr, Inhabited

namespace TokenClass

/-- The class's name. -/
def name : TokenClass → String
  | .numeric => "Numeric"
  | .string => "String"
  | .regularExpression => "RegularExpression"
  | .identifier => "Identifier"
  | .keyword => "Keyword"
  | .boolean => "Boolean"
  | .null => "Null"
  | .punctuator => "Punctuator"

/-- The class of a kind of token; the end of the source has none. -/
def ofKind? : TokenKind → Option TokenClass
  | .number _ => some .numeric
  | .string _ => some .string
  | .regExp .. => some .regularExpression
  | .name _ => some .identifier
  | .keyword .nullWord => some .null
  | .keyword .trueWord => some .boolean
  | .keyword .falseWord => some .boolean
  | .keyword _ => some .keyword
  | .punctuator _ => some .punctuator
  | .template .. => some .punctuator
  | .endOfInput => none

/-- Only the end of the source has no class. -/
theorem ofKind?_eq_none_iff {kind : TokenKind} :
    ofKind? kind = none ↔ kind = .endOfInput := by
  cases kind with
  | keyword word => cases word <;> simp [ofKind?]
  | _ => simp [ofKind?]

end TokenClass

end ScriptTree

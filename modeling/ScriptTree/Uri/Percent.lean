import ScriptTree.Source.Character

/-! # Percent encoding — bytes written as `%` and two digits

    Each component of an URI escapes control characters, everything beyond
    ASCII, and a set of its own.  The sets are nested: what a fragment
    escapes, a path escapes too, and user information escapes still more.
    Escapes that are already there stay as they are. -/

namespace ScriptTree.Uri

/-- The components of an URI by what they escape. -/
inductive Component where
  /-- A path that is not parted by slashes. -/
  | opaquePath
  | fragment
  | query
  /-- The query of a scheme with rules of its own. -/
  | specialQuery
  | path
  | userInformation
deriving DecidableEq, Repr

namespace Component

/-- ASCII characters beside controls that a fragment escapes. -/
def reservedInFragment : List Char := [' ', '"', '<', '>', '\x60']

/-- ASCII characters beside controls that a path escapes. -/
def reservedInPath : List Char := reservedInFragment ++ ['#', '?', '\x7b', '\x7d']

/-- ASCII characters beside controls that a component escapes. -/
def reserved : Component → List Char
  | .opaquePath => []
  | .fragment => reservedInFragment
  | .query => [' ', '"', '#', '<', '>']
  | .specialQuery => [' ', '"', '#', '<', '>', '\x27']
  | .path => reservedInPath
  | .userInformation => reservedInPath ++ ['/', ':', ';', '=', '@', '[', '\\', ']', '^', '|']

/-- The component escapes the character. -/
def escapes (component : Component) (c : Char) : Bool :=
  c.toNat < 0x20 || c.toNat ≥ 0x7f || component.reserved.contains c

end Component

/-- A hexadecimal digit in upper case. -/
def upperHexDigit (n : Nat) : Char := ("0123456789ABCDEF".toList[n]?).getD '0'

/-- A byte as an escape. -/
def escapeByte (b : UInt8) : List Char :=
  ['%', upperHexDigit (b.toNat / 16), upperHexDigit (b.toNat % 16)]

/-- A text as it is written in a component. -/
def escape (component : Component) (text : List Char) : List Char :=
  text.flatMap fun c =>
    if component.escapes c then (String.utf8EncodeChar c).flatMap escapeByte else [c]

/-- The bytes of a text with its escapes read. -/
def unescapedBytes : List Char → List UInt8
  | [] => []
  | '%' :: a :: b :: rest =>
    match Character.digit? 16 a, Character.digit? 16 b with
    | some x, some y => UInt8.ofNat (16 * x + y) :: unescapedBytes rest
    | _, _ => '%'.toUInt8 :: unescapedBytes (a :: b :: rest)
  | c :: rest => String.utf8EncodeChar c ++ unescapedBytes rest

/-- A text with its escapes read; `none` if the bytes are no text. -/
def unescape? (text : List Char) : Option (List Char) :=
  (String.fromUTF8? ⟨(unescapedBytes text).toArray⟩).map String.toList

end ScriptTree.Uri

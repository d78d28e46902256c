import ScriptTree.Source.Text

/-! # Paths — where files lie

    To the system a path is a row of bytes, in which slashes stand between
    names.  Most paths are text in UTF-8, but nothing makes them so.  What is
    shown of a path is text in any case: the bytes that belong to no character
    are replaced, so different paths may be shown alike.

    A character begins with a byte that says how many more belong to it, and
    not every byte may be the second one.  A character that is broken off is
    replaced as a whole, and the byte that broke it off may begin another. -/

namespace ScriptTree

/-! ## Bytes that may be text -/

/-- A character that has begun: how many bytes it is owed, between which
    bounds the next of them lies, and the bits that were read. -/
structure PartialCharacter where
  owed : Nat
  low : Nat
  high : Nat
  bits : Nat
deriving DecidableEq, Repr, Inhabited

namespace PartialCharacter

/-- What is shown for bytes that belong to no character. -/
def replacement : Char := '\uFFFD'

/-- Read a byte where a character may begin: what is shown now, and what has
    begun. -/
def start (byte : Nat) : List Char × Option PartialCharacter :=
  if byte < 0x80 then ([Char.ofNat byte], none)
  else if byte < 0xC2 then ([replacement], none)
  else if byte < 0xE0 then ([], some ⟨1, 0x80, 0xBF, byte - 0xC0⟩)
  else if byte < 0xF0 then
    ([], some ⟨2, if byte == 0xE0 then 0xA0 else 0x80, if byte == 0xED then 0x9F else 0xBF,
      byte - 0xE0⟩)
  else if byte < 0xF5 then
    ([], some ⟨3, if byte == 0xF0 then 0x90 else 0x80, if byte == 0xF4 then 0x8F else 0xBF,
      byte - 0xF0⟩)
  else ([replacement], none)

/-- Read the next byte of a character. -/
def next (p : PartialCharacter) (byte : Nat) : List Char × Option PartialCharacter :=
  if p.low ≤ byte && byte ≤ p.high then
    let bits := 64 * p.bits + (byte - 0x80)
    if p.owed ≤ 1 then ([Char.ofNat bits], none)
    else ([], some ⟨p.owed - 1, 0x80, 0xBF, bits⟩)
  else
    let (shown, begun) := start byte
    (replacement :: shown, begun)

/-- Read bytes as text, behind a character that may have begun. -/
def decode : Option PartialCharacter → List UInt8 → List Char
  | none, [] => []
  | some _, [] => [replacement]
  | none, byte :: rest =>
    let (shown, begun) := start byte.toNat
    shown ++ decode begun rest
  | some p, byte :: rest =>
    let (shown, begun) := p.next byte.toNat
    shown ++ decode begun rest

end PartialCharacter

/-! ## Paths -/

/-- A path as the system has it. -/
structure FilePath where
  bytes : List UInt8
deriving DecidableEq, Repr, Inhabited

namespace FilePath

/-- The path that a text is. -/
def ofText (text : String) : FilePath := ⟨text.toList.flatMap String.utf8EncodeChar⟩

/-- What is shown of a path. -/
def display (path : FilePath) : String := String.ofList (PartialCharacter.decode none path.bytes)

/-- What stands between names. -/
def slash : UInt8 := 0x2F

/-- The name of the directory that a name is looked up in. -/
def current : List UInt8 := [0x2E]

/-- The name of the directory above. -/
def parent : List UInt8 := [0x2E, 0x2E]

/-- The names a path follows; behind a last slash stands the directory
    itself. -/
def names (path : FilePath) : List (List UInt8) :=
  let pieces := Text.pieces (· == slash) path.bytes
  pieces.filter (· != []) ++ (if pieces.getLast? == some [] then [current] else [])

/-- The path starts above all directories. -/
def isAbsolute (path : FilePath) : Bool := path.bytes.head? == some slash

end FilePath

end ScriptTree

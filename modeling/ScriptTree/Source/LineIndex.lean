import ScriptTree.Source.Span

/-! # Lines and columns — positions for people

    A `LineIndex` is built once for a source and then answers, by two binary
    searches, on which line an offset lies and how many characters stand
    between the start of that line and the offset.  Lines count from one,
    columns from zero.  LF, CR LF, a lone CR, U+2028 and U+2029 end a line.
    Offsets have 64 bits, lines and columns have 32 and wrap around behind
    the last of these numbers. -/

namespace ScriptTree

/-- A line, from one, and a column in characters, from zero. -/
structure LineColumn where
  line : UInt32
  column : UInt32
deriving DecidableEq, Repr, Inhabited

/-- The lines and columns of a span, with the file it lies in. -/
structure SourceLocation where
  start : LineColumn
  stop : LineColumn
  sourceFile : Option String
deriving DecidableEq, Repr, Inhabited

/-- A character that takes more than one byte: where it ends, and how many
    bytes beyond one each all such characters up to it have taken. -/
structure WideCharacter where
  stop : Nat
  extra : Nat
deriving DecidableEq, Repr, Inhabited

/-- The line starts and wide characters of a source, in ascending order. -/
structure LineIndex where
  lineStarts : Array Nat
  wideCharacters : Array WideCharacter
  length : Nat
deriving Repr, Inhabited

/-- How many leading entries satisfy `p`, found by halving; right when no
    entry that satisfies `p` follows one that does not. -/
def partitionPoint {α : Type} (entries : Array α) (p : α → Bool) : Nat :=
  go 0 entries.size
where
  /-- Search between `low` and `high`. -/
  go (low high : Nat) : Nat :=
    if _between : low < high then
      let middle := (low + high) / 2
      match entries[middle]? with
      | some entry => if p entry then go (middle + 1) high else go low middle
      | none => low
    else low
  termination_by high - low

namespace LineIndex

/-- Read the characters from `offset` on; `extra` bytes were beyond one each
    so far. -/
def scan (offset extra : Nat) (starts : Array Nat) (wide : Array WideCharacter) :
    List Char → LineIndex
  | [] => ⟨starts, wide, offset⟩
  | '\r' :: '\n' :: rest => scan (offset + 2) extra (starts.push (offset + 2)) wide rest
  | c :: rest =>
    let width := c.utf8Size
    let next := offset + width
    let extra' := extra + (width - 1)
    let wide' := if width > 1 then wide.push ⟨next, extra'⟩ else wide
    let starts' :=
      if c == '\n' || c == '\r' || c == '\u2028' || c == '\u2029' then starts.push next
      else starts
    scan next extra' starts' wide' rest

/-- The index of a source text. -/
def ofText (text : List Char) : LineIndex := scan 0 0 #[0] #[] text

/-- How many bytes the characters ending at or before `offset` take beyond
    one each. -/
def extraBytesBefore (index : LineIndex) (offset : Nat) : Nat :=
  match partitionPoint index.wideCharacters (fun w => w.stop ≤ offset) with
  | 0 => 0
  | n + 1 => (index.wideCharacters[n]?.map WideCharacter.extra).getD 0

/-- The line and column of an offset; an offset past the end means the end. -/
def lineColumn (index : LineIndex) (offset : Nat) : LineColumn :=
  let offset := min offset index.length
  let line := partitionPoint index.lineStarts (fun start => start ≤ offset)
  let lineStart := index.lineStarts[line - 1]?.getD 0
  let extra := index.extraBytesBefore offset - index.extraBytesBefore lineStart
  ⟨UInt32.ofNat (line - 1) + 1, UInt32.ofNat (offset - lineStart - extra)⟩

/-- The lines and columns of both ends of a span. -/
def location (index : LineIndex) (span : Span) (sourceFile : Option String) : SourceLocation :=
  ⟨index.lineColumn span.start, index.lineColumn span.stop, sourceFile⟩

/-- How many lines there are: one more than there are line breaks. -/
def lineCount (index : LineIndex) : Nat := index.lineStarts.size

end LineIndex

end ScriptTree

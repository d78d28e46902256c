import ScriptTree.Source.Text
import ScriptTree.Uri.Percent

/-! # Paths — segments between slashes

    A path goes down from segment to segment; a segment of one dot stays
    where it is and one of two dots goes up again, though never out of a
    drive.  Tabs and line breaks may stand anywhere in an URI and mean
    nothing, but for one place: behind the drive of a file they part it from
    what follows. -/

namespace ScriptTree.Uri

/-! ## Breaks -/

/-- A tab or a line break, which URIs may hold but do not mean. -/
def isBreak (c : Char) : Bool := c == '\t' || c == '\n' || c == '\r'

/-- A text without tabs and line breaks. -/
def unbroken (text : List Char) : List Char := text.filter fun c => !isBreak c

/-! ## Segments -/

/-- A character that parts a path. -/
def isSlash (special : Bool) (c : Char) : Bool := c == '/' || (special && c == '\\')

/-- What stands behind the slash a text starts with. -/
def behindSlash? (special : Bool) (text : List Char) : Option (List Char) :=
  match text.dropWhile isBreak with
  | c :: rest => if isSlash special c then some rest else none
  | [] => none

/-- The text without the slash it starts with. -/
def dropSlash (special : Bool) (text : List Char) : List Char :=
  (behindSlash? special text).getD text

/-- A letter and a colon, or a bar that stands for one: the drive of a path. -/
def isDrive : List Char → Bool
  | [letter, mark] => letter.isAlpha && (mark == ':' || mark == '|')
  | _ => false

/-- A segment that is a drive, up to a backslash. -/
def startsWithDrive (segment : List Char) : Bool := isDrive (segment.takeWhile (· != '\\'))

/-- A segment with escaped dots read. -/
def unescapeDots : List Char → List Char
  | '%' :: '2' :: e :: rest =>
    if e == 'e' || e == 'E' then '.' :: unescapeDots rest
    else '%' :: '2' :: e :: unescapeDots rest
  | c :: rest => c :: unescapeDots rest
  | [] => []

/-- The segment stands for the one above it. -/
def isParent (segment : List Char) : Bool := unescapeDots segment == ['.', '.']

/-- The segment stands for nothing. -/
def isCurrent (segment : List Char) : Bool := unescapeDots segment == ['.']

/-- The drive a segment starts with, if a break and more follow it, and what
    follows. -/
def brokenDrive? (segment : List Char) : Option (List Char × List Char) :=
  match segment.dropWhile isBreak with
  | letter :: rest =>
    match rest.dropWhile isBreak with
    | ':' :: b :: behind =>
      let behind := unbroken behind
      if letter.isAlpha && isBreak b && !behind.isEmpty then some ([letter, ':'], behind)
      else none
    | _ => none
  | [] => none

/-! ## Paths -/

/-- The way down a path: its segments, listed from the last, and whether the
    first one was a drive by itself. -/
structure Descent where
  above : List (List Char)
  startsAtDrive : Bool
deriving DecidableEq, Repr

namespace Descent

/-- Above every path. -/
def start : Descent := ⟨[], false⟩

/-- Leave the last segment, unless it is a drive. -/
def leave (d : Descent) : Descent :=
  match d.above with
  | [] => d
  | segment :: rest => if startsWithDrive segment then d else { d with above := rest }

/-- Go down to a segment.  At the top of the path of a file a drive has a
    colon, and a break behind it parts it from what follows. -/
def enter (isFile : Bool) (d : Descent) (segment : List Char) : Descent :=
  let plain := unbroken segment
  let written := escape .path plain
  if !isFile || !d.above.isEmpty then { d with above := written :: d.above }
  else if isDrive plain then ⟨[plain.take 1 ++ [':']], true⟩
  else
    match brokenDrive? segment with
    | some (drive, behind) => { d with above := [escape .path behind, drive] }
    | none => { d with above := [written] }

/-- Go down the segments of a path and resolve its dots; a path whose last
    segment is dots ends in a slash. -/
def follow (isFile : Bool) (d : Descent) : List (List Char) → Descent
  | [] => d
  | segment :: rest =>
    let plain := unbroken segment
    if isParent plain then
      follow isFile (if rest.isEmpty then d.leave.enter isFile [] else d.leave) rest
    else if isCurrent plain then
      follow isFile (if rest.isEmpty then d.enter isFile [] else d) rest
    else follow isFile (d.enter isFile segment) rest

/-- The path, behind a slash.  The path of a file starts with one slash
    only. -/
def text (isFile : Bool) (d : Descent) : String :=
  let segments := d.above.reverse
  let segments := if isFile then segments.dropWhile List.isEmpty else segments
  String.ofList ('/' :: ['/'].intercalate segments)

end Descent

/-- The way down a path that is written without its first slash. -/
def descend (special isFile : Bool) (path : List Char) : Descent :=
  Descent.start.follow isFile (Text.pieces (isSlash special) path)

end ScriptTree.Uri

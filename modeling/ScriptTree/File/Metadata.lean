import ScriptTree.File.Path
import ScriptTree.Uri.Basic

/-! # Files — what is known of them, and their text

    What is known of a file is read off what is shown of its path, a text
    whose parts stand between slashes.  Empty parts and parts that are a
    single dot name nothing.  The name of a file is the last part that is
    left, unless it is `..`; the extension of a name is what follows its last
    dot, unless that dot opens the name.

    A file may have a location, which tells it from all others, a type of
    content, guessed from the extension of its name, and a name.  The text of
    a file in memory is at hand, or is not to be had at all; how often it was
    asked for is counted. -/

/-! ## Names -/

namespace ScriptTree.Path

/-- The parts of a path that name something. -/
def parts (path : List Char) : List (List Char) :=
  (Text.pieces (· == '/') path).filter fun part => !(part == [] || part == ['.'])

/-- The part that stands for the directory above. -/
def parent : List Char := ['.', '.']

/-- The name of the file a path leads to. -/
def fileName? (path : List Char) : Option (List Char) :=
  (parts path).getLast?.filter fun name => !(name == parent)

/-- What follows the last dot of a name that something precedes. -/
def extensionOf? (name : List Char) : Option (List Char) :=
  let (behind, upToDot) := name.reverse.span (· != '.')
  match upToDot with
  | [] => none
  | [_] => none
  | _ => some behind.reverse

/-- The extension of the file a path leads to. -/
def extension? (path : List Char) : Option (List Char) := (fileName? path).bind extensionOf?

end ScriptTree.Path

namespace ScriptTree

/-! ## Metadata -/

namespace ContentType

/-- The content type of scripts. -/
def javaScript : String := "application/javascript"

/-- The content type that goes with an extension. -/
def ofExtension? : String → Option String
  | "js" | "mjs" | "cjs" => some javaScript
  | "json" => some "application/json"
  | "html" | "htm" => some "text/html"
  | _ => none

/-- The content type guessed from a path. -/
def ofPath? (path : String) : Option String :=
  (Path.extension? path.toList).bind fun extension => ofExtension? (String.ofList extension)

end ContentType

/-- What is known of a file. -/
structure FileMetadata where
  location : Option String
  contentType : Option String
  name : Option String
deriving DecidableEq, Repr, Inhabited

namespace FileMetadata

/-- What stands for the location of a file that has none. -/
def unknownLocation : String := "unknown"

/-- The key trees of a file are kept under. -/
def key (file : Option FileMetadata) : String :=
  (file.bind FileMetadata.location).getD unknownLocation

/-- A file found at a location, whose name and type are read off a path. -/
def located (location path : String) : FileMetadata :=
  ⟨some location, ContentType.ofPath? path, (Path.fileName? path.toList).map String.ofList⟩

/-- A file on disk; its location is what is shown of its path. -/
def ofPath (path : FilePath) : FileMetadata := located path.display path.display

/-- A file that an editor names. -/
def ofUri (uri : Uri) : FileMetadata := located uri.text uri.path

/-- A file of a document is kept under the text of its URI. -/
theorem key_ofUri (uri : Uri) : key (some (ofUri uri)) = uri.text := rfl

end FileMetadata

/-- Why the text of a file cannot be had. -/
inductive FetchError where
  /-- The file cannot be read. -/
  | unreadable (location reason : String)
  /-- The file has more bytes than are read. -/
  | tooLarge (location : String) (size limit : Nat)
  /-- Nothing can be learnt about the file. -/
  | noMetadata (reason : String)
  /-- The text is not to be had. -/
  | noText (reason : String)
deriving DecidableEq, Repr, Inhabited

/-- The error's text. -/
def FetchError.message : FetchError → String
  | .unreadable location reason => s!"failed to read {location}: {reason}"
  | .tooLarge location size limit =>
    s!"{location} is too large ({size} bytes, max {limit} bytes)"
  | .noMetadata reason => s!"file metadata unavailable: {reason}"
  | .noText reason => s!"file contents unavailable: {reason}"

/-! ## Files in memory -/

/-- A file whose text is in memory. -/
structure MemoryFile where
  metadata : Option FileMetadata
  text : Option String
  /-- How often the text was asked for. -/
  reads : Nat
deriving DecidableEq, Repr, Inhabited

namespace MemoryFile

/-- A file with a text. -/
def ofText (metadata : Option FileMetadata) (text : String) : MemoryFile :=
  ⟨metadata, some text, 0⟩

/-- A file whose text is not to be had. -/
def failing (metadata : FileMetadata) : MemoryFile := ⟨some metadata, none, 0⟩

/-- Ask for the text. -/
def read (file : MemoryFile) : Except FetchError String × MemoryFile :=
  let answer := match file.text with
    | some text => .ok text
    | none => .error (.noText ((file.metadata.bind FileMetadata.location).getD ""))
  (answer, { file with reads := file.reads + 1 })

end MemoryFile

end ScriptTree

import ScriptTree.File.Metadata
import ScriptTree.Source.Text

/-! # Files on disk

    A path leads through directories to a file or a directory, or to none.
    `Directory` is a directory with all below it; `find` follows a path from
    it, and `readText` gives the text of the file a path leads to, which has
    to be of a bounded size and in UTF-8.  Names are bytes; only what is said
    of a fault shows the path as text. -/

namespace ScriptTree

/-- Why the system refuses a file, by its number. -/
structure SystemFault where
  code : Nat
deriving DecidableEq, Repr, Inhabited

namespace SystemFault

/-- There is nothing of that name. -/
def notFound : SystemFault := ⟨2⟩

/-- Reading went wrong. -/
def inputOutput : SystemFault := ⟨5⟩

/-- What a name is looked up in is no directory. -/
def notDirectory : SystemFault := ⟨20⟩

/-- A directory has no text. -/
def isDirectory : SystemFault := ⟨21⟩

/-- A name has more bytes than names can have. -/
def nameTooLong : SystemFault := ⟨36⟩

/-- What the system calls a fault. -/
def phrase : SystemFault → String
  | ⟨2⟩ => "No such file or directory"
  | ⟨5⟩ => "Input/output error"
  | ⟨13⟩ => "Permission denied"
  | ⟨20⟩ => "Not a directory"
  | ⟨21⟩ => "Is a directory"
  | ⟨24⟩ => "Too many open files"
  | ⟨36⟩ => "File name too long"
  | ⟨40⟩ => "Too many levels of symbolic links"
  | ⟨code⟩ => s!"Unknown error {code}"

/-- The fault's text. -/
def message (fault : SystemFault) : String := s!"{fault.phrase} (os error {fault.code})"

end SystemFault

/-- What a file holds. -/
inductive FileContent where
  | bytes (bytes : ByteArray)
  /-- So many zero bytes. -/
  | zeros (count : Nat)

namespace FileContent

/-- How many bytes there are. -/
def size : FileContent → Nat
  | .bytes b => b.size
  | .zeros n => n

/-- The content as text, if it is in UTF-8. -/
def text? : FileContent → Option String
  | .bytes b => String.fromUTF8? b
  | .zeros n => some (String.ofList (List.replicate n '\x00'))

/-- The content that a text is stored as. -/
def ofText (text : String) : FileContent := .bytes text.toUTF8

end FileContent

/-- What a path leads to. -/
inductive DiskEntry where
  | file (content : FileContent)
  | directory

namespace DiskEntry

/-- The most bytes that are read from a file. -/
def sizeLimit : Nat := 104857600

/-- What is said of a text that is not in UTF-8. -/
def notText : String := "stream did not contain valid UTF-8"

/-- The text of what was found at a path. -/
def readText (path : FilePath) : Except SystemFault DiskEntry → Except FetchError String
  | .error fault => .error (.unreadable path.display fault.message)
  | .ok .directory => .error (.unreadable path.display SystemFault.isDirectory.message)
  | .ok (.file content) =>
    if content.size > sizeLimit then .error (.tooLarge path.display content.size sizeLimit)
    else match content.text? with
      | some text => .ok text
      | none => .error (.unreadable path.display notText)

end DiskEntry

/-- A directory: what lies below it, by the names on the way.  Directories on
    the way to an entry need no entry of their own. -/
structure Directory where
  entries : List (List (List UInt8) × DiskEntry)

namespace Directory

/-- A place that a path has led to. -/
inductive Place where
  /-- Below the directory, or the directory itself. -/
  | below (names : List (List UInt8))
  /-- Somewhere above the directory, where nothing is known. -/
  | above
deriving DecidableEq, Repr

/-- The most bytes a name can have. -/
def nameLimit : Nat := 255

/-- The most bytes a path can have. -/
def pathLimit : Nat := 4095

/-- What is said of a path with a zero byte, which the system is not asked
    for. -/
def zeroInPath : String := "file name contained an unexpected NUL byte"

/-- What lies at names below the directory. -/
def entryAt (dir : Directory) (names : List (List UInt8)) : Option DiskEntry :=
  match dir.entries.lookup names with
  | some entry => some entry
  | none =>
    if names.isEmpty || dir.entries.any fun e => names.isPrefixOf e.1 then some .directory
    else none

/-- What lies at a place. -/
def entryOf (dir : Directory) : Place → Option DiskEntry
  | .below names => dir.entryAt names
  | .above => some .directory

/-- Follow one name. -/
def follow (dir : Directory) (place : Place) (name : List UInt8) : Except SystemFault Place :=
  match dir.entryOf place with
  | none => .error .notFound
  | some (.file _) => .error .notDirectory
  | some .directory =>
    if name == FilePath.current then .ok place
    else if name.length > nameLimit then .error .nameTooLong
    else match place with
      | .above => if name == FilePath.parent then .ok .above else .error .notFound
      | .below names =>
        if name == FilePath.parent then
          .ok (if names.isEmpty then .above else .below names.dropLast)
        else if (dir.entryAt (names ++ [name])).isSome then .ok (.below (names ++ [name]))
        else .error .notFound

/-- Follow a path. -/
def find (dir : Directory) (path : FilePath) : Except SystemFault DiskEntry :=
  if path.bytes.length > pathLimit then .error .nameTooLong
  else do
    let start : Place := if path.isAbsolute then .above else .below []
    let place ← path.names.foldlM dir.follow start
    match dir.entryOf place with
    | some entry => .ok entry
    | none => .error .notFound

/-- The text of the file at a path. -/
def readText (dir : Directory) (path : FilePath) : Except FetchError String :=
  if path.bytes.contains 0 then .error (.unreadable path.display zeroInPath)
  else DiskEntry.readText path (dir.find path)

/-- The directory of files by their paths. -/
def ofFiles (files : List (FilePath × DiskEntry)) : Directory :=
  ⟨files.map fun (path, entry) => (path.names.filter (· != FilePath.current), entry)⟩

end Directory

end ScriptTree

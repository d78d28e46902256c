import ScriptTree.Command.Basic

/-! # Reading command lines

    A command line has two levels: what stands in front of the name of a
    subcommand, and what stands behind it.  Flags and the one option, the
    capacity, may stand anywhere on their level; behind `--` everything is a
    file.

    A value that was read is judged only when the next flag, option or other
    kind of value comes, or at the end.  So an argument that is unknown is
    reported before a bad value in front of it; and a bad value on the first
    level is reported behind all that is wrong on the second. -/

namespace ScriptTree

/-- The subcommands. -/
inductive Subcommand where
  | parse
  | tokens
  | dependencies
  | lint
deriving DecidableEq, Repr, Inhabited

namespace Subcommand

/-- The subcommand of a name. -/
def ofName? : String → Option Subcommand
  | "parse" => some .parse
  | "tokens" => some .tokens
  | "deps" => some .dependencies
  | "lint" => some .lint
  | _ => none

/-- The flags of a subcommand. -/
def flags : Subcommand → List String
  | .parse => ["json"]
  | .tokens => []
  | .dependencies => []
  | .lint => ["compact"]

/-- The subcommand takes any number of files. -/
def takesMany : Subcommand → Bool
  | .lint => true
  | _ => false

end Subcommand

namespace CommandLine

/-- The name that stands for help about a subcommand. -/
def helpName : String := "help"

/-- The option for the capacity. -/
def capacityName : String := "cache-capacity"

/-- The capacity where none is given. -/
def defaultCapacity : Nat := 10

/-- One more than the greatest capacity. -/
def capacityLimit : Nat := Nat.pow 2 64

/-- Values that were read but not judged. -/
inductive Pending where
  | nothing
  /-- The option for the capacity, with its value once it was read. -/
  | capacity (value : Option String)
  | files (values : List String)
deriving DecidableEq, Repr, Inhabited

/-- What was read on a level. -/
structure Level where
  flags : List String
  capacity : Option Nat
  files : List String
  pending : Pending
deriving DecidableEq, Repr, Inhabited

/-- Nothing was read. -/
def Level.empty : Level := ⟨[], none, [], .nothing⟩

/-- A capacity: decimal digits, perhaps behind a plus sign. -/
def capacity? (text : String) : Option Nat :=
  let digits := match text.toList with
    | '+' :: rest => rest
    | cs => cs
  if digits.isEmpty || !digits.all Char.isDigit then none
  else
    let value := digits.foldl (fun n c => 10 * n + (c.toNat - '0'.toNat)) 0
    if value < capacityLimit then some value else none

namespace Level

/-- Judge a value of the option for the capacity. -/
def setCapacity (l : Level) (value : String) : Except UsageError Level :=
  if l.capacity.isSome then .error .repeated
  else match capacity? value with
    | some n => .ok { l with capacity := some n }
    | none => .error .malformedValue

/-- Judge the values that were read. -/
def settle (l : Level) : Except UsageError Level :=
  match l.pending with
  | .nothing => .ok l
  | .capacity none => .error .emptyValue
  | .capacity (some value) => ({ l with pending := .nothing } : Level).setCapacity value
  | .files values =>
    if values.contains "" then .error .emptyValue
    else .ok { l with pending := .nothing, files := l.files ++ values }

/-- The option for the capacity still needs its value. -/
def awaitsValue (l : Level) : Bool := l.pending == .capacity none

/-- Some file was read. -/
def hasFile (l : Level) : Bool :=
  !l.files.isEmpty || (match l.pending with | .files _ => true | _ => false)

/-- Read a flag. -/
def addFlag (l : Level) (name : String) : Except UsageError Level := do
  let l ← l.settle
  if l.flags.contains name then .error .repeated
  else .ok { l with flags := name :: l.flags }

/-- Read the option for the capacity, with a value if one is attached. -/
def addCapacity (l : Level) (value : Option String) : Except UsageError Level := do
  let l ← l.settle
  match value with
  | some value => l.setCapacity value
  | none => .ok { l with pending := .capacity none }

/-- Read a file for a subcommand. -/
def addFile (sub : Subcommand) (l : Level) (name : String) : Except UsageError Level :=
  match l.pending with
  | .files values =>
    if sub.takesMany then .ok { l with pending := .files (values ++ [name]) }
    else .error .unknownArgument
  | _ =>
    if l.hasFile && !sub.takesMany then .error .unknownArgument
    else do
      let l ← l.settle
      .ok { l with pending := .files [name] }

end Level

/-- An argument by its form. -/
inductive Argument where
  /-- Two dashes alone. -/
  | separator
  /-- A name behind two dashes, perhaps with a value behind `=`. -/
  | long (name : String) (value : Option String)
  /-- Letters behind a dash. -/
  | short (first : Char)
  | plain (text : String)
deriving DecidableEq, Repr, Inhabited

/-- The form of an argument. -/
def Argument.ofText (text : String) : Argument :=
  match text.toList with
  | ['-', '-'] => .separator
  | '-' :: '-' :: rest =>
    let (name, value) := rest.span (· != '=')
    .long (String.ofList name) (match value with
      | [] => none
      | _ :: value => some (String.ofList value))
  | '-' :: c :: _ => .short c
  | _ => .plain text

/-- Judge what was read, then fail. -/
def failSettled {α : Type} (l : Level) (e : UsageError) : Except UsageError α := do
  let _ ← l.settle
  .error e

/-- Read a name behind two dashes; `flags` are those of the level. -/
def readLong (flags : List String) (isFirst : Bool) (l : Level) (name : String)
    (value : Option String) : Except UsageError Level :=
  let isHelp := name == "help"
  let isVersion := isFirst && name == "version"
  if name == capacityName then l.addCapacity value
  else if !(isHelp || isVersion || flags.contains name) then .error .unknownArgument
  else if value.isSome then .error .unexpectedValue
  else if isHelp then failSettled l .helpRequested
  else if isVersion then failSettled l .versionRequested
  else l.addFlag name

/-- Read a letter behind a dash. -/
def readShort (isFirst : Bool) (l : Level) (c : Char) : Except UsageError Level :=
  if c == 'h' then failSettled l .helpRequested
  else if isFirst && c == 'V' then failSettled l .versionRequested
  else .error .unknownArgument

/-! ## The second level -/

/-- Read what stands behind the name of a subcommand; `onlyFiles` holds
    behind a separator. -/
def readSecond (sub : Subcommand) (onlyFiles : Bool) (l : Level) :
    List String → Except UsageError Level
  | [] => do
    let l ← l.settle
    if l.files.isEmpty then .error .missingFile else .ok l
  | text :: rest =>
    if onlyFiles then do
      readSecond sub true (← l.addFile sub text) rest
    else match Argument.ofText text with
      | .separator => readSecond sub true l rest
      | .long name value => do
        readSecond sub false (← readLong sub.flags false l name value) rest
      | .short c => do readSecond sub false (← readShort false l c) rest
      | .plain text =>
        if l.awaitsValue then
          readSecond sub false { l with pending := .capacity (some text) } rest
        else do readSecond sub false (← l.addFile sub text) rest

/-- The command that was read on the second level. -/
def commandOf (sub : Subcommand) (l : Level) : Command :=
  let file := FilePath.ofText (l.files.headD "")
  match sub with
  | .parse => .parse file (l.flags.contains "json")
  | .tokens => .tokens file
  | .dependencies => .dependencies file
  | .lint => .lint (l.files.map .ofText) (l.flags.contains "compact")

/-! ## The first level -/

/-- The text is the name of a subcommand. -/
def namesSubcommand (text : String) : Bool :=
  text == helpName || (Subcommand.ofName? text).isSome

/-- Answer a request for help: at most one subcommand can be named. -/
def readHelp : List String → UsageError
  | [] => .helpRequested
  | [name] => if namesSubcommand name then .helpRequested else .unknownSubcommand
  | _ => .unknownSubcommand

/-- Read a command line. -/
def readFirst (l : Level) : List String → Except UsageError Invocation
  | [] => do
    let l ← l.settle
    .error (if l.capacity.isSome then .missingSubcommand else .nothingGiven)
  | text :: rest =>
    match Argument.ofText text with
    | .separator =>
      match rest with
      | [] => readFirst l []
      | name :: _ => .error (if namesSubcommand name then .unknownArgument else .unknownSubcommand)
    | .long name value => do readFirst (← readLong [] true l name value) rest
    | .short c => do readFirst (← readShort true l c) rest
    | .plain text =>
      if l.awaitsValue then readFirst { l with pending := .capacity (some text) } rest
      else if text == helpName then .error (readHelp rest)
      else match Subcommand.ofName? text with
        | none => .error .unknownSubcommand
        | some sub => do
          let second ← readSecond sub false .empty rest
          let first ← l.settle
          .ok ⟨commandOf sub second, (second.capacity.or first.capacity).getD defaultCapacity⟩

/-- Read a command line. -/
def read (arguments : List String) : Except UsageError Invocation := readFirst .empty arguments

end CommandLine

end ScriptTree

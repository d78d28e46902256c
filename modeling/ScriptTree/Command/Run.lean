import ScriptTree.Command.Basic
import ScriptTree.Json.Text
import ScriptTree.Lint.Unreachable
import ScriptTree.Report
import ScriptTree.Tree.Json
import ScriptTree.Workspace.Basic

/-! # Running commands

    A command reads the texts of its files, fetches their trees from one
    workspace, and prints what it finds.  A file that cannot be read stops
    the command; what was printed before stays.  In what is printed, and in
    the workspace, a file is what is shown of its path. -/

namespace ScriptTree

/-- How the text of a file is read. -/
abbrev TextReader := FilePath → Except FetchError String

/-- How a command has ended. -/
inductive CommandStatus where
  | success
  /-- Something is wrong with the files. -/
  | problems
  /-- The command could not do its work. -/
  | failed (message : String)
  /-- The program broke off before the command began. -/
  | crashed (message : String)
deriving DecidableEq, Repr, Inhabited

namespace CommandStatus

/-- The code the program ends with. -/
def exitCode : CommandStatus → Nat
  | .success => 0
  | .problems => 1
  | .failed _ => 1
  | .crashed _ => 101

/-- The status of work that is done, by whether something is wrong. -/
def ofProblems (found : Bool) : CommandStatus := if found then .problems else .success

end CommandStatus

/-- What a command has printed, and how it has ended. -/
structure CommandOutcome where
  output : String
  status : CommandStatus
deriving DecidableEq, Repr, Inhabited

/-- A file that a command has read. -/
structure LoadedFile where
  /-- What the file is called in what is printed. -/
  label : String
  text : String
  tree : SyntaxTree

namespace CommandOutcome

/-- The outcome of a file that cannot be had. -/
def ofError (output : String) (e : FetchError) : CommandOutcome :=
  ⟨output, .failed s!"Error: {e.message}"⟩

end CommandOutcome

namespace Command

/-- Write a text behind blanks, so that it has at least so many characters. -/
def alignRight (width : Nat) (text : String) : String :=
  String.ofList (List.replicate (width - text.length) ' ') ++ text

/-- Write a text in front of blanks, so that it has at least so many
    characters. -/
def alignLeft (width : Nat) (text : String) : String :=
  text ++ String.ofList (List.replicate (width - text.length) ' ')

/-- Lines, each with its end. -/
def linesText (lines : List String) : String := String.join (lines.map (· ++ "\n"))

/-- Read a file and fetch its tree. -/
def load (reader : TextReader) (w : Workspace) (path : FilePath) :
    Except FetchError LoadedFile × Workspace :=
  match reader path with
  | .error e => (.error e, w)
  | .ok text =>
    let (result, _, w) := w.fetchFrom (.ofText (some (.ofPath path)) text)
    (result.map fun parsed => ⟨path.display, text, parsed.tree⟩, w)

/-- What is said of a file without errors. -/
def summary (f : LoadedFile) : String :=
  s!"✓ {f.label}: {f.tree.body.length} statements, {f.tree.tokens.length} tokens, "
    ++ s!"{f.tree.comments.length} comments"

/-- Parse a file. -/
def runParse (f : LoadedFile) (json : Bool) : CommandOutcome :=
  let output :=
    if json then linesText [f.tree.toJson.pretty 0]
    else if f.tree.hasErrors then ""
    else linesText [summary f]
  ⟨output, .ofProblems f.tree.hasErrors⟩

/-- A token on one line: its number, class, bytes and text. -/
def tokenLine (t : TreeToken) : String :=
  alignRight 5 (toString t.index) ++ " " ++ t.kind.name ++ " "
    ++ alignRight 6 (toString t.span.start) ++ ".." ++ alignLeft 6 (toString t.span.stop) ++ " "
    ++ t.value

/-- List the tokens of a file. -/
def runTokens (f : LoadedFile) : CommandOutcome :=
  ⟨linesText (f.tree.tokens.map tokenLine), .success⟩

/-- List what a file depends on. -/
def runDependencies (f : LoadedFile) : CommandOutcome :=
  let environments := f.tree.references.environments.map Environment.name
  let last :=
    if environments.isEmpty then [] else ["environments: " ++ ", ".intercalate environments]
  ⟨linesText (f.tree.references.modules ++ last), .success⟩

/-- The findings of a file on a line each. -/
def findingLines (f : LoadedFile) (found : List Finding) : List String :=
  let lines := LineIndex.ofText f.text.toList
  found.map fun finding => finding.line f.label lines

/-- What is said when all files were linted. -/
def verdict (problems files : Nat) : String :=
  if problems == 0 then s!"✓ {files} file(s) clean"
  else s!"{problems} problem(s) in {files} file(s)"

/-- Lint the files that are left; `output` and `problems` are of those
    before. -/
def lintFiles (reader : TextReader) (compact : Bool) (count : Nat) (w : Workspace)
    (output : String) (problems : Nat) : List FilePath → CommandOutcome
  | [] => ⟨output ++ linesText [verdict problems count], .ofProblems (problems != 0)⟩
  | path :: rest =>
    match load reader w path with
    | (.error e, _) => .ofError output e
    | (.ok f, w) =>
      let found := ScriptTree.lint f.tree LintRule.defaults
      let shown := if compact then linesText (findingLines f found) else ""
      lintFiles reader compact count w (output ++ shown)
        (problems + f.tree.errors.length + found.length) rest

/-- Run a command on one file. -/
def onFile (reader : TextReader) (w : Workspace) (path : FilePath)
    (work : LoadedFile → CommandOutcome) : CommandOutcome :=
  match (load reader w path).1 with
  | .error e => .ofError "" e
  | .ok f => work f

/-- Run a command in a workspace. -/
def runIn (reader : TextReader) (w : Workspace) : Command → CommandOutcome
  | .parse file json => onFile reader w file fun f => runParse f json
  | .tokens file => onFile reader w file runTokens
  | .dependencies file => onFile reader w file runDependencies
  | .lint files compact => lintFiles reader compact files.length w "" 0 files

/-- The files a command works on. -/
def files : Command → List FilePath
  | .parse file _ => [file]
  | .tokens file => [file]
  | .dependencies file => [file]
  | .lint files _ => files

end Command

namespace Invocation

/-- How an invocation works with trees. -/
def settings (i : Invocation) : WorkspaceSettings :=
  { WorkspaceSettings.default with capacity := i.capacity }

/-- Run the command of an invocation in a new workspace, if there can be
    one. -/
def run (reader : TextReader) (i : Invocation) : CommandOutcome :=
  match Workspace.create? i.settings with
  | some w => i.command.runIn reader w
  | none => ⟨"", .crashed RecencyCache.overflow⟩

end Invocation

end ScriptTree

import ScriptTree.Command.Arguments
import ScriptTree.Command.Run
import ScriptTree.File.Disk

/-! # The program -/

namespace ScriptTree

/-- The number the system gives an error. -/
def faultOf : IO.Error → SystemFault
  | .noFileOrDirectory _ code _ => ⟨code.toNat⟩
  | .inappropriateType _ code _ => ⟨code.toNat⟩
  | .permissionDenied _ code _ => ⟨code.toNat⟩
  | .resourceExhausted _ code _ => ⟨code.toNat⟩
  | .invalidArgument _ code _ => ⟨code.toNat⟩
  | .noSuchThing _ code _ => ⟨code.toNat⟩
  | .otherError code _ => ⟨code.toNat⟩
  | _ => SystemFault.inputOutput

/-- Read what lies at a path.  Arguments come as text, so what is shown of a
    path is the path. -/
def readEntry (path : FilePath) : IO (Except SystemFault DiskEntry) := do
  try
    return .ok (.file (.bytes (← IO.FS.readBinFile path.display)))
  catch e =>
    return .error (faultOf e)

/-- Read the files of a command and run it. -/
def runInvocation (i : Invocation) : IO UInt32 := do
  let mut entries : List (FilePath × Except SystemFault DiskEntry) := []
  for path in i.command.files do
    entries := (path, ← readEntry path) :: entries
  let found := entries
  let outcome := i.run fun path =>
    DiskEntry.readText path ((found.lookup path).getD (.error .notFound))
  IO.print outcome.output
  match outcome.status with
  | .failed message => IO.eprintln message
  | .crashed message => IO.eprintln message
  | _ => pure ()
  return UInt32.ofNat outcome.status.exitCode

/-- How the program is called. -/
def usage : String :=
  "Usage: jsast [--cache-capacity N] <COMMAND>\n\n"
    ++ "Commands:\n"
    ++ "  parse <FILE> [--json]\n"
    ++ "  tokens <FILE>\n"
    ++ "  deps <FILE>\n"
    ++ "  lint <FILE>... [--compact]"

/-- Explain a command line that leads to no command. -/
def explain : UsageError → IO UInt32
  | .helpRequested => do
    IO.println usage
    return 0
  | .versionRequested => do
    IO.println "jsast 0.1.0"
    return 0
  | e => do
    IO.eprintln s!"error: {e.name}\n\n{usage}"
    return 2

end ScriptTree

/-- Run the command that the arguments name. -/
def main (arguments : List String) : IO UInt32 :=
  match ScriptTree.CommandLine.read arguments with
  | .ok i => ScriptTree.runInvocation i
  | .error e => ScriptTree.explain e

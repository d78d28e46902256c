import ScriptTree.Command.Arguments
import ScriptTree.Command.Run
import ScriptTree.Proofs.File.Path
import ScriptTree.Proofs.Lint.Unreachable
import ScriptTree.Proofs.Workspace.Rightness

/-! # Linting files with and without a cache

    What linting reports about files is said without a workspace: every file up to
    the first one that cannot be read is parsed by itself, and the reports and the
    numbers of problems are put together.  The command reports the same at every
    capacity for which it can have a workspace, since all trees in there are those of
    the texts that lie at their paths.

    A workspace knows a file by what is shown of its path.  Paths that are text are all
    shown differently; of others two may be shown alike, and then the one file is given
    the tree of the other. -/

namespace ScriptTree

namespace LoadedFile

/-- A file whose text was parsed for it alone. -/
def fresh (path : FilePath) (text : String) : LoadedFile :=
  ⟨path.display, text, SyntaxTree.parse {} text.toList path.display⟩

/-- What the default rules find in the file. -/
def findings (f : LoadedFile) : List Finding := lint f.tree LintRule.defaults

/-- How many errors and findings the file has. -/
def problems (f : LoadedFile) : Nat := f.tree.errors.length + f.findings.length

/-- What is printed of the file: nothing, or a line for every finding. -/
def report (compact : Bool) (f : LoadedFile) : String :=
  let place (x : Finding) := (LineIndex.ofText f.text.toList).lineColumn x.span.start
  let line (x : Finding) := s!"{f.label}:{(place x).line}:{(place x).column + 1}: "
    ++ s!"{x.severity.name}: {x.message} [{x.rule}]" ++ "\n"
  if compact then String.join (f.findings.map line) else ""

/-- Nothing is wrong with the file. -/
def IsClean (f : LoadedFile) : Prop := f.tree.errors = [] ∧ f.findings = []

/-- Nothing is wrong if nothing is counted. -/
theorem problems_eq_zero {f : LoadedFile} : f.problems = 0 ↔ f.IsClean := by
  simp [problems, IsClean]

/-- The lines of the command are those of the report. -/
theorem linesText_findingLines (f : LoadedFile) (compact : Bool) :
    (if compact then Command.linesText (Command.findingLines f f.findings) else "") =
      f.report compact := by
  have line (x : Finding) (lines : LineIndex) :
      x.line f.label lines ++ "\n" = s!"{f.label}:{(lines.lineColumn x.span.start).line}:"
        ++ s!"{(lines.lineColumn x.span.start).column + 1}: "
        ++ s!"{x.severity.name}: {x.message} [{x.rule}]" ++ "\n" := by
    simp only [Finding.line, String.append_assoc]
  rw [report]
  split
  · simp only [Command.linesText, Command.findingLines, List.map_map]
    refine congrArg String.join (List.map_congr_left fun x _ => ?_)
    rw [Function.comp_apply, line]
    simp only [String.append_assoc]
  · rfl

end LoadedFile

/-- The files up to the first one that cannot be read, and why that one cannot. -/
structure FileReadings where
  files : List LoadedFile
  failure : Option FetchError

namespace FileReadings

/-- Read files one after another, and parse each by itself. -/
def ofPaths (reader : TextReader) : List FilePath → FileReadings
  | [] => ⟨[], none⟩
  | path :: rest =>
    match reader path with
    | .error e => ⟨[], some e⟩
    | .ok text =>
      let behind := ofPaths reader rest
      ⟨.fresh path text :: behind.files, behind.failure⟩

/-- What is printed of the files that could be read. -/
def report (compact : Bool) (r : FileReadings) : String :=
  String.join (r.files.map (LoadedFile.report compact))

/-- How many problems the files have together. -/
def problems (r : FileReadings) : Nat := r.files.foldr (fun f n => f.problems + n) 0

/-- The outcome of linting behind a report on other files and their problems: a
    file that cannot be read stops it behind the report on those before; else the
    number of all problems is told. -/
def outcomeBehind (output : String) (problems : Nat) (compact : Bool) (count : Nat)
    (r : FileReadings) : CommandOutcome :=
  match r.failure with
  | some e => .ofError (output ++ r.report compact) e
  | none =>
    let problems := problems + r.problems
    ⟨output ++ r.report compact ++ Command.linesText [Command.verdict problems count],
      .ofProblems (problems != 0)⟩

/-- The first file is reported on, and its problems are counted, before the others. -/
theorem outcomeBehind_cons {output : String} {problems count : Nat} {compact : Bool}
    {f : LoadedFile} {r : FileReadings} :
    outcomeBehind output problems compact count ⟨f :: r.files, r.failure⟩ =
      r.outcomeBehind (output ++ f.report compact) (problems + f.problems) compact count := by
  have report : FileReadings.report compact ⟨f :: r.files, r.failure⟩ =
      f.report compact ++ r.report compact := by
    rw [FileReadings.report, List.map_cons, String.join_cons]
    rfl
  have sum : FileReadings.problems ⟨f :: r.files, r.failure⟩ = f.problems + r.problems := rfl
  simp only [outcomeBehind, report, sum, String.append_assoc, Nat.add_assoc]

/-- Where nothing stands in front, the outcome is written out. -/
theorem outcomeBehind_start (compact : Bool) (count : Nat) (r : FileReadings) :
    r.outcomeBehind "" 0 compact count =
      match r.failure with
      | some e => ⟨r.report compact, .failed ("Error: " ++ e.message)⟩
      | none =>
        if r.problems = 0 then ⟨r.report compact ++ s!"✓ {count} file(s) clean" ++ "\n", .success⟩
        else ⟨r.report compact ++ s!"{r.problems} problem(s) in {count} file(s)" ++ "\n",
          .problems⟩ := by
  have one (line : String) : Command.linesText [line] = line ++ "\n" := by
    simp [Command.linesText]
  rw [outcomeBehind]
  cases r.failure with
  | some e =>
      simp only [CommandOutcome.ofError, String.empty_append]
      rfl
  | none =>
      by_cases clean : r.problems = 0
      · simp [clean, one, Command.verdict, CommandStatus.ofProblems, String.append_assoc]
      · simp [clean, one, Command.verdict, CommandStatus.ofProblems, String.append_assoc]

/-- There are no problems if nothing is wrong with any file. -/
theorem problems_eq_zero {r : FileReadings} : r.problems = 0 ↔ ∀ f ∈ r.files, f.IsClean := by
  rw [problems]
  induction r.files with
  | nil => simp
  | cons f rest ih => simp [LoadedFile.problems_eq_zero, ih]

/-- Linting succeeds if all files can be read and nothing is wrong with them. -/
theorem exitCode_outcomeBehind {compact : Bool} {count : Nat} {r : FileReadings} :
    (r.outcomeBehind "" 0 compact count).status.exitCode = 0 ↔
      r.failure = none ∧ ∀ f ∈ r.files, f.IsClean := by
  rw [outcomeBehind_start, ← problems_eq_zero]
  cases r.failure with
  | some e => simp [CommandStatus.exitCode]
  | none =>
      by_cases clean : r.problems = 0
      · simp [clean, CommandStatus.exitCode]
      · simp [clean, CommandStatus.exitCode]

/-- All paths can be read if nothing has failed, and then every file is the one
    at its path. -/
theorem forall_ofPaths {reader : TextReader} {p : LoadedFile → Prop} {paths : List FilePath} :
    ((ofPaths reader paths).failure = none ∧ ∀ f ∈ (ofPaths reader paths).files, p f) ↔
      ∀ path ∈ paths, ∃ text, reader path = .ok text ∧ p (.fresh path text) := by
  induction paths with
  | nil => simp [ofPaths]
  | cons path rest ih =>
      rw [ofPaths, List.forall_mem_cons, ← ih]
      cases read : reader path with
      | error e => simp
      | ok text => simp [and_left_comm]

end FileReadings

namespace Command

variable {reader : TextReader} {w : Workspace} {path : FilePath} {paths : List FilePath}

/-- Files that are shown alike have the same text. -/
def ShownApart (reader : TextReader) (paths : List FilePath) : Prop :=
  ∀ p ∈ paths, ∀ q ∈ paths, p.display = q.display → reader p = reader q

/-- The tree is the one of the text that lies at one of the paths. -/
def IsTreeAt (reader : TextReader) (paths : List FilePath) (key : String) (tree : SyntaxTree) :
    Prop :=
  ∃ path ∈ paths, path.display = key ∧ ∃ text, reader path = .ok text ∧
    tree = SyntaxTree.parse {} text.toList key

/-- The workspace of a command on files that stay as they are. -/
structure Serves (reader : TextReader) (paths : List FilePath) (w : Workspace) : Prop where
  trees : w.KeepsRight (IsTreeAt reader paths)
  options : w.settings.options = {}

/-- A file is loaded with the tree that its workspace has for what is shown of its path. -/
theorem load_of_text {text : String} (read : reader path = .ok text) :
    load reader w path =
      (.ok ⟨path.display, text, (w.retrieve path.display text).1.tree⟩,
        (w.retrieve path.display text).2) := by
  obtain ⟨file, fetched⟩ := w.fetchFrom_ofText (some (.ofPath path)) text
  have key : FileMetadata.key (some (.ofPath path)) = path.display := rfl
  rw [key] at fetched
  simp only [load, read, fetched, Except.map]

/-- A file that can be read is loaded with the tree of its text, one that cannot
    is not; either way the workspace serves on. -/
theorem Serves.load (h : Serves reader paths w) (apart : ShownApart reader paths)
    (there : path ∈ paths) :
    (load reader w path).1 = (reader path).map (LoadedFile.fresh path) ∧
      Serves reader paths (load reader w path).2 := by
  cases read : reader path with
  | error e =>
      rw [Command.load, read]
      exact ⟨rfl, h⟩
  | ok text =>
      have parsed : IsTreeAt reader paths path.display
          (SyntaxTree.parse w.settings.options text.toList path.display) :=
        ⟨path, there, rfl, text, read, by rw [h.options]⟩
      obtain ⟨⟨other, listed, alike, own, same, tree⟩, trees⟩ := h.trees.retrieve parsed
      -- The kept tree may be of another path, but then the texts are the same.
      rw [apart other listed path there alike, read] at same
      cases same
      rw [load_of_text read]
      refine ⟨?_, trees, ?_⟩
      · rw [Except.map, LoadedFile.fresh, tree]
      · rw [Workspace.settings_retrieve h.trees.orderly, h.options]

/-- Linting goes from file to file as if each were parsed by itself. -/
theorem Serves.lintFiles {compact : Bool} {count : Nat} {rest : List FilePath}
    (h : Serves reader paths w) (apart : ShownApart reader paths) (listed : ∀ p ∈ rest, p ∈ paths)
    (output : String) (problems : Nat) :
    lintFiles reader compact count w output problems rest =
      (FileReadings.ofPaths reader rest).outcomeBehind output problems compact count := by
  induction rest generalizing w output problems with
  | nil => simp [Command.lintFiles, FileReadings.ofPaths, FileReadings.outcomeBehind,
      FileReadings.report, FileReadings.problems]
  | cons path rest ih =>
      obtain ⟨here, others⟩ := List.forall_mem_cons.mp listed
      obtain ⟨loaded, serves⟩ := h.load apart here
      rw [Command.lintFiles, FileReadings.ofPaths]
      cases found : Command.load reader w path with
      | mk result w' =>
          rw [found] at loaded serves
          obtain rfl : result = _ := loaded
          cases reader path with
          | error e =>
              simp [Except.map, FileReadings.outcomeBehind, FileReadings.report]
          | ok text =>
              rw [FileReadings.outcomeBehind_cons, ← ih serves others,
                ← LoadedFile.linesText_findingLines]
              simp only [Except.map, LoadedFile.problems, LoadedFile.findings, Nat.add_assoc]

/-- Up to the greatest capacity, linting is done in a new workspace. -/
theorem run_lint_of_le {files : List FilePath} {compact : Bool} {capacity : Nat}
    (room : capacity ≤ RecencyCache.capacityLimit) (apart : ShownApart reader files) :
    (Invocation.mk (.lint files compact) capacity).run reader =
      (FileReadings.ofPaths reader files).outcomeBehind "" 0 compact files.length := by
  let i : Invocation := ⟨.lint files compact, capacity⟩
  have made : Workspace.create? i.settings = some (.ofSettings i.settings) :=
    Workspace.create?_of_le room
  have serves : Serves reader files (.ofSettings i.settings) :=
    ⟨Workspace.keepsRight_ofSettings _, rfl⟩
  show i.run reader = _
  simp only [Invocation.run, made]
  exact serves.lintFiles apart (fun _ => id) "" 0

/-- Beyond the greatest capacity, no command begins. -/
theorem run_of_lt (reader : TextReader) {i : Invocation}
    (much : RecencyCache.capacityLimit < i.capacity) :
    i.run reader = ⟨"", .crashed RecencyCache.overflow⟩ := by
  have none : Workspace.create? i.settings = none := Workspace.create?_of_lt much
  simp only [Invocation.run, none]

/-- THE CACHE IS NOT SEEN, as far as there can be one and paths can be told apart: at every
    capacity that can be asked for, linting ends as if every file were parsed afresh.  It
    prints the reports on the files in their order and behind them the number of all
    problems, or fails at the first file that cannot be read.  It succeeds if every file
    can be read and has neither errors nor findings.  Beyond the greatest capacity the
    program breaks off. -/
theorem run_lint (reader : TextReader) (files : List FilePath) (compact : Bool)
    (capacity : Nat) :
    let outcome := (Invocation.mk (.lint files compact) capacity).run reader
    let readings := FileReadings.ofPaths reader files
    (capacity ≤ RecencyCache.capacityLimit → ShownApart reader files →
      outcome = (match readings.failure with
        | some e => ⟨readings.report compact, .failed ("Error: " ++ e.message)⟩
        | none =>
          if readings.problems = 0 then
            ⟨readings.report compact ++ s!"✓ {files.length} file(s) clean" ++ "\n", .success⟩
          else
            ⟨readings.report compact ++
              s!"{readings.problems} problem(s) in {files.length} file(s)" ++ "\n", .problems⟩) ∧
      (outcome.status.exitCode = 0 ↔
        ∀ path ∈ files, ∃ text, reader path = .ok text ∧ (LoadedFile.fresh path text).IsClean)) ∧
    (RecencyCache.capacityLimit < capacity →
      outcome = ⟨"", .crashed RecencyCache.overflow⟩) := by
  intro outcome readings
  refine ⟨fun room apart => ?_, fun much => run_of_lt reader much⟩
  have run : outcome = readings.outcomeBehind "" 0 compact files.length :=
    run_lint_of_le room apart
  refine ⟨run.trans (FileReadings.outcomeBehind_start ..), ?_⟩
  rw [run, FileReadings.exitCode_outcomeBehind, FileReadings.forall_ofPaths]

/-- Paths that are text are shown apart. -/
theorem shownApart_ofText (reader : TextReader) (texts : List String) :
    ShownApart reader (texts.map FilePath.ofText) := by
  intro p hp q hq alike
  obtain ⟨first, -, rfl⟩ := List.mem_map.mp hp
  obtain ⟨second, -, rfl⟩ := List.mem_map.mp hq
  rw [FilePath.display_ofText, FilePath.display_ofText] at alike
  rw [alike]

/-- The file `a.js`, in which a call cannot be reached, and no other file. -/
def onlyOne : TextReader := fun path =>
  if path = .ofText "a.js" then .ok "function f()\n{return; g();}"
  else .error (.unreadable path.display "No such file or directory (os error 2)")

/-- The file is listed twice, and its problem counts twice; in front of a file that is
    missing it is reported on, and the file behind that one is not. -/
theorem run_lint_twice :
    (Invocation.mk (.lint [.ofText "a.js", .ofText "a.js"] true) 0).run onlyOne =
      ⟨"a.js:2:10: warning: Unreachable code. [no-unreachable]\n" ++
        "a.js:2:10: warning: Unreachable code. [no-unreachable]\n" ++
        "2 problem(s) in 2 file(s)\n", .problems⟩ ∧
    (Invocation.mk (.lint [.ofText "a.js", .ofText "b.js", .ofText "a.js"] true) 10).run onlyOne =
      ⟨"a.js:2:10: warning: Unreachable code. [no-unreachable]\n",
        .failed "Error: failed to read b.js: No such file or directory (os error 2)"⟩ := by
  let file := LoadedFile.fresh (.ofText "a.js") "function f()\n{return; g();}"
  have found : file.findings = [⟨"no-unreachable", "Unreachable code.", ⟨22, 26⟩, .warning⟩] := by
    rw [LoadedFile.findings, Unreachable.lint_eq_deadIn]
    decide +kernel
  have report : file.report true = "a.js:2:10: warning: Unreachable code. [no-unreachable]\n" := by
    rw [LoadedFile.report, found]
    decide +kernel
  have problems : file.problems = 1 := by
    rw [LoadedFile.problems, found]
    decide +kernel
  -- The same file twice, with a cache of one entry: the second reading is a hit.
  have twice := (run_lint onlyOne [.ofText "a.js", .ofText "a.js"] true 0).1 (by decide)
    (shownApart_ofText onlyOne ["a.js", "a.js"])
  -- The second file cannot be read, so the third one is not looked at.
  have missing := (run_lint onlyOne [.ofText "a.js", .ofText "b.js", .ofText "a.js"] true 10).1
    (by decide) (shownApart_ofText onlyOne ["a.js", "b.js", "a.js"])
  have both : FileReadings.ofPaths onlyOne [.ofText "a.js", .ofText "a.js"] =
      ⟨[file, file], none⟩ := rfl
  have first : FileReadings.ofPaths onlyOne [.ofText "a.js", .ofText "b.js", .ofText "a.js"] =
      ⟨[file], some (.unreadable "b.js" "No such file or directory (os error 2)")⟩ := by
    have other : FilePath.ofText "b.js" ≠ .ofText "a.js" := by decide
    simp [FileReadings.ofPaths, onlyOne, other, file]
  rw [both] at twice
  rw [first] at missing
  constructor
  · refine twice.1.trans ?_
    simp only [FileReadings.problems, FileReadings.report, List.map_cons, List.map_nil,
      List.foldr_cons, List.foldr_nil, report, problems]
    decide +kernel
  · refine missing.1.trans ?_
    simp only [FileReadings.report, List.map_cons, List.map_nil, report]
    decide +kernel

/-- With a capacity of all 64 bits the program breaks off, and with the one it has by
    default it says that the file is clean. -/
theorem not_run_lint :
    ¬ ∀ (reader : TextReader) (files : List FilePath) (compact : Bool) (capacity other : Nat),
      capacity < UInt64.size → other < UInt64.size →
        (Invocation.mk (.lint files compact) capacity).run reader =
          (Invocation.mk (.lint files compact) other).run reader := by
  intro same
  let reader : TextReader := fun _ => .ok "var a;"
  let files : List FilePath := ["a.js"].map .ofText
  have outcomes := same reader files false (UInt64.size - 1) CommandLine.defaultCapacity (by decide)
    (by decide)
  have clean : (LoadedFile.fresh (.ofText "a.js") "var a;").problems = 0 := by
    rw [LoadedFile.problems, LoadedFile.findings, Unreachable.lint_eq_deadIn]
    decide +kernel
  have success : ((FileReadings.ofPaths reader files).outcomeBehind "" 0 false
      files.length).status.exitCode = 0 := by
    rw [FileReadings.exitCode_outcomeBehind, FileReadings.forall_ofPaths]
    intro path listed
    obtain rfl := List.mem_singleton.mp listed
    exact ⟨"var a;", rfl, LoadedFile.problems_eq_zero.mp clean⟩
  rw [run_of_lt reader (by decide), run_lint_of_le (by decide) (shownApart_ofText _ _)] at outcomes
  rw [← outcomes] at success
  exact absurd success (by decide)

/-- A file whose path is shown like one before is given the tree of that one. -/
theorem load_alike {other : FilePath} {former latter : String} (orderly : w.Orderly)
    (absent : w.trees.peek? path.display = none) (alike : other.display = path.display)
    (first : reader path = .ok former) (second : reader other = .ok latter) :
    (load reader (load reader w path).2 other).1 = .ok ⟨path.display, latter,
      SyntaxTree.parse w.settings.options former.toList path.display⟩ := by
  obtain ⟨tree, kept, found⟩ := Workspace.retrieve_of_absent orderly absent former
  rw [load_of_text first, load_of_text second]
  simp only [alike, Workspace.retrieve_of_kept kept found, tree]

/-- The paths `FF` and `FE` are no text and are shown alike; a clean file at the first one
    hides what is wrong with the file at the second. -/
theorem not_run_lint_alike :
    let reader : TextReader := fun path => if path = ⟨[0xFF]⟩ then .ok "" else .ok "("
    let files : List FilePath := [⟨[0xFF]⟩, ⟨[0xFE]⟩]
    (Invocation.mk (.lint files false) 10).run reader = ⟨"✓ 2 file(s) clean\n", .success⟩ ∧
      (FileReadings.ofPaths reader files).problems = 1 := by
  intro reader files
  let w := Workspace.ofSettings .default
  have made : Workspace.create? (Invocation.settings ⟨.lint files false, 10⟩) = some w :=
    Workspace.create?_of_le (by decide)
  have orderly : w.Orderly := Workspace.orderly_ofSettings .default
  have absent : w.trees.peek? (FilePath.display ⟨[0xFF]⟩) = none := RecencyCache.peek?_empty
  have read : reader ⟨[0xFF]⟩ = .ok "" := rfl
  have other : reader ⟨[0xFE]⟩ = .ok "(" := rfl
  have alike : FilePath.display ⟨[0xFE]⟩ = FilePath.display ⟨[0xFF]⟩ := by decide
  -- Both paths are shown alike, so the second one finds the tree of the first.
  have first := load_of_text (w := w) read
  have second := load_alike orderly absent alike read other
  have tree : (w.retrieve (FilePath.display ⟨[0xFF]⟩) "").1.tree =
      SyntaxTree.parse {} [] (FilePath.display ⟨[0xFF]⟩) :=
    (Workspace.retrieve_of_absent orderly absent "").1
  have clean : (SyntaxTree.parse {} [] (FilePath.display ⟨[0xFF]⟩)).errors = [] ∧
      ScriptTree.lint (SyntaxTree.parse {} [] (FilePath.display ⟨[0xFF]⟩)) LintRule.defaults =
        [] := by
    rw [Unreachable.lint_eq_deadIn]
    decide +kernel
  have broken : (LoadedFile.fresh ⟨[0xFE]⟩ "(").problems = 1 := by
    rw [LoadedFile.problems, LoadedFile.findings, Unreachable.lint_eq_deadIn]
    decide +kernel
  constructor
  · rw [first] at second
    cases loaded : load reader (w.retrieve (FilePath.display ⟨[0xFF]⟩) "").2 ⟨[0xFE]⟩ with
    | mk result after =>
        rw [loaded] at second
        obtain rfl : result = .ok ⟨FilePath.display ⟨[0xFF]⟩, "(",
          SyntaxTree.parse {} [] (FilePath.display ⟨[0xFF]⟩)⟩ := second
        simp only [Invocation.run, made]
        show lintFiles reader false 2 w "" 0 [⟨[0xFF]⟩, ⟨[0xFE]⟩] = _
        simp only [lintFiles, first, loaded, tree, clean]
        decide
  -- Read afresh, the second file has a problem.
  · have empty : (LoadedFile.fresh ⟨[0xFF]⟩ "").problems = 0 :=
      LoadedFile.problems_eq_zero.mpr clean
    show (LoadedFile.fresh ⟨[0xFF]⟩ "").problems +
      ((LoadedFile.fresh ⟨[0xFE]⟩ "(").problems + 0) = 1
    rw [empty, broken]

end Command

end ScriptTree

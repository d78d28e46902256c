import ScriptTree.Proofs.Document.Fetching
import ScriptTree.Server.Basic

/-! # Handlers that nothing interrupts

    A handler that runs alone makes its accesses and then analyses its document:
    nothing is sent for one that is closed, and for one that is open the problems of
    the tree that is retrieved, with the version of the document. -/

namespace ScriptTree.Handler

variable {d d' : OpenDocuments} {uri : Uri} {document : OpenDocument} {h next : Handler}

/-! ## Steps -/

/-- A step that sends nothing. -/
theorem steps_of_silent (silent : h.step d = (next, d', [])) (n : Nat) :
    h.steps d (n + 1) = next.steps d' n := by
  rw [steps, silent]
  rfl

/-- Nothing comes after the end. -/
theorem steps_done (n : Nat) : (Handler.mk [] .done).steps d n = (d, []) := by
  induction n with
  | zero => rfl
  | succ n ih =>
      have idle : (Handler.mk [] .done).step d = (⟨[], .done⟩, d, []) := rfl
      rw [steps_of_silent idle, ih]

/-- A notice is sent and nothing comes after it. -/
theorem steps_sending (notice : ServerNotice) (n : Nat) :
    (Handler.mk [] (.sending notice)).steps d (n + 1) = (d, [notice]) := by
  have sends : (Handler.mk [] (.sending notice)).step d = (⟨[], .done⟩, d, [notice]) := rfl
  rw [steps, sends]
  show ((steps d n ⟨[], .done⟩).1, [notice] ++ (steps d n ⟨[], .done⟩).2) = _
  rw [steps_done]
  rfl

/-- A retrieval takes its steps. -/
theorem step_retrieving (retrieval : Retrieval) (unfinished : 0 < retrieval.stepsLeft) :
    (Handler.mk [] (.retrieving uri retrieval)).step d =
      (⟨[], .retrieving uri (retrieval.step d).1⟩, (retrieval.step d).2, []) := by
  cases retrieval with
  | asked => rfl
  | read => rfl
  | missed => rfl
  | done result => exact absurd unfinished (Nat.lt_irrefl 0)

/-- What was retrieved is published with the version that is stored. -/
theorem steps_retrieved (found : DocumentTree) (n : Nat) :
    (Handler.mk [] (.retrieving uri (.done (some found)))).steps d (n + 3) =
      (d, [Analysis.noticeOf uri found ((d.get? uri).map OpenDocument.version)]) := by
  have retrieved : (Handler.mk [] (.retrieving uri (.done (some found)))).step d =
      (⟨[], .retrieved uri found⟩, d, []) := rfl
  have read : (Handler.mk [] (.retrieved uri found)).step d = (⟨[], .sending
      (Analysis.noticeOf uri found ((d.get? uri).map OpenDocument.version))⟩, d, []) := rfl
  rw [steps_of_silent retrieved, steps_of_silent read, steps_sending]

/-! ## Runs -/

/-- The analysis comes behind all accesses. -/
theorem run_accesses (accesses : List DocumentAccess) (analysis : Analysis) :
    (Handler.mk accesses analysis).run d =
      (Handler.mk [] analysis).run (d.performAll accesses) := by
  induction accesses generalizing d with
  | nil => rfl
  | cons access rest ih =>
      have first : (Handler.mk (access :: rest) analysis).step d =
          (⟨rest, analysis⟩, d.perform access, []) := rfl
      rw [run, stepsLeft, List.length_cons, Nat.add_right_comm, steps_of_silent first]
      exact ih

/-- A document that is closed is not analysed. -/
theorem run_analyse_of_closed (closed : d.get? uri = none) : (analyse uri).run d = (d, []) := by
  have asked := OpenDocuments.step_asked_of_closed closed
  have read : (analyse uri).step d = (⟨[], .retrieving uri (.done none)⟩, d, []) := by
    rw [analyse, Analysis.start, step_retrieving (.asked uri) (Nat.succ_pos _), asked]
  have ended : (Handler.mk [] (.retrieving uri (.done none))).step d = (⟨[], .done⟩, d, []) := rfl
  show steps d 6 (analyse uri) = _
  rw [steps_of_silent read, steps_of_silent ended, steps_done]

/-- The diagnostics of an open document are those of its text, with its version. -/
theorem run_analyse_of_open (there : d.get? uri = some document) :
    (analyse uri).run d = (d.fetched uri document.text,
      [Analysis.noticeOf uri (d.treeOf uri document.text) (some document.version)]) := by
  have asked := OpenDocuments.step_asked_of_open there
  have read : (analyse uri).step d = (⟨[], .retrieving uri (.read uri document.text)⟩, d, []) := by
    rw [analyse, Analysis.start, step_retrieving (.asked uri) (Nat.succ_pos _), asked]
  have version : ((d.fetched uri document.text).get? uri).map OpenDocument.version =
      some document.version := congrArg (Option.map OpenDocument.version) there
  show steps d 6 (analyse uri) = _
  -- The task asks the cache once; a hit ends it there and a miss parses first.
  rw [steps_of_silent read, ← version]
  simp only [OpenDocuments.treeOf, OpenDocuments.fetched, Workspace.retrieve]
  cases looked : d.workspace.lookup uri.text with
  | mk answer w =>
      cases answer with
      | found tree =>
          have hit : (Handler.mk [] (.retrieving uri (.read uri document.text))).step d =
              (⟨[], .retrieving uri (.done (some ⟨tree, document.text⟩))⟩,
                { d with workspace := w }, []) := by
            rw [step_retrieving (.read uri _) (Nat.succ_pos _), Retrieval.step,
              FileMetadata.key_ofUri, looked]
          rw [steps_of_silent hit, steps_retrieved]
      | missing fetch =>
          have missed : (Handler.mk [] (.retrieving uri (.read uri document.text))).step d =
              (⟨[], .retrieving uri (.missed fetch document.text)⟩,
                { d with workspace := w }, []) := by
            rw [step_retrieving (.read uri _) (Nat.succ_pos _), Retrieval.step,
              FileMetadata.key_ofUri, looked]
          -- With no request in between, what was missed is parsed and kept in one step.
          have made : (Handler.mk [] (.retrieving uri (.missed fetch document.text))).step
              { d with workspace := w } =
              (⟨[], .retrieving uri
                (.done (some ⟨(w.conclude fetch document.text).1, document.text⟩))⟩,
                { d with workspace := (w.conclude fetch document.text).2 }, []) := rfl
          rw [steps_of_silent missed, steps_of_silent made, steps_retrieved]

end ScriptTree.Handler

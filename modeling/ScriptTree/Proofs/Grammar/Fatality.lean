import ScriptTree.Proofs.Grammar.Reading
import ScriptTree.Proofs.Grammar.Strictness

/-! # Fatality — the error that ends a parse is told once, and last

    Whoever records a parse may forget what came before a fatal error, as long as
    nothing comes behind it.  A loose parse never tells of one: every message that
    it sends while it reads the stream keeps the history free of them.  A strict
    parse tells what the loose one tells up to its error, so its history is free of
    them as well, but for the very last event. -/

namespace ScriptTree

variable {σ : Type}

/-- The event tells of an error that ended the parse. -/
def Event.isFatal : Event → Bool
  | .error _ fatal => fatal
  | _ => false

/-- No event tells of an error that ended the parse. -/
def Event.NoneFatal (events : List Event) : Prop := ∀ e ∈ events, e.isFatal = false

namespace Event.NoneFatal

variable {events : Array Event} {e : Event}

/-- A further event that is not fatal. -/
theorem push (h : NoneFatal events.toList) (mild : e.isFatal = false) :
    NoneFatal (events.push e).toList := by
  intro x hx
  rw [Array.toList_push, List.mem_append, List.mem_singleton] at hx
  rcases hx with hx | rfl
  · exact h x hx
  · exact mild

/-- What is told on the way to a lexeme is not fatal. -/
theorem pass {o : Observer σ} {lines : LineIndex} {m : σ × Array Event}
    (h : NoneFatal m.2.toList) (l : Lexeme) :
    NoneFatal ((o.beside recorder).pass lines l m).2.toList := by
  have comments (cs : List Comment) (m : σ × Array Event) (h : NoneFatal m.2.toList) :
      NoneFatal (cs.foldl (fun a c => (o.beside recorder).comment c a) m).2.toList := by
    induction cs generalizing m with
    | nil => exact h
    | cons c rest ih => exact ih _ (h.push rfl)
  have diagnostics (ds : List Diagnostic) (m : σ × Array Event) (h : NoneFatal m.2.toList) :
      NoneFatal (ds.foldl
        (fun a d => (o.beside recorder).error (d.locate lines) false a) m).2.toList := by
    induction ds generalizing m with
    | nil => exact h
    | cons d rest ih => exact ih _ (h.push rfl)
  exact diagnostics _ _ (comments _ _ h)

end Event.NoneFatal

/-- A history that is free of fatal errors stays so while a parse goes on. -/
theorem Event.noneFatal_keepsUp (o : Observer σ) (lines : LineIndex) :
    (o.beside recorder).KeepsUp lines fun _ _ m => NoneFatal m.2.toList where
  opened _ _ _ _ h := h.push rfl
  closed _ _ _ _ h := h.push rfl
  taken _ _ next _ _ h := NoneFatal.pass (h.push rfl) next

/-- A loose parse tells of no fatal error. -/
theorem parseText_loose_noneFatal (text : List Char) (lines : LineIndex) (o : Observer σ)
    (observed : σ) :
    Event.NoneFatal
      (parseText .loose text lines (o.beside Event.recorder) (observed, #[])).2.2.toList := by
  have entry (first : Lexeme) : Event.NoneFatal
      ((o.beside Event.recorder).pass lines first
        ((o.beside Event.recorder).opened 0 (observed, #[])).2).2.toList :=
    .pass (.push (by simp [Event.NoneFatal]) rfl) first
  let setting : Setting (σ × Array Event) := ⟨.loose, lines, o.beside Event.recorder⟩
  have loose : setting.mode = .loose := rfl
  obtain ⟨program, p, words, last, ends, -, -, quiet⟩ := parseLexemes_reads loose
    (Event.noneFatal_keepsUp o lines) (Lexeme.ofText_terminated text) (Text.byteLength text) entry
  rw [parseText, ends]
  exact quiet

/-- THE FATAL ERROR: a strict parse is rejected with an error exactly if its history
    ends with that error as a fatal one and has no other; a strict parse that gives a
    tree has none, and a loose parse never has one. -/
theorem parseText_fatal_last (text : List Char) (lines : LineIndex) (o : Observer σ)
    (observed : σ) :
    let run (mode : Mode) := parseText mode text lines (o.beside Event.recorder) (observed, #[])
    let events (mode : Mode) := (run mode).2.2.toList
    (∀ error, (run .strict).1 = .rejected error ↔
      ∃ before, events .strict = before ++ [.error error true] ∧ Event.NoneFatal before) ∧
    (∀ program, (run .strict).1 = .tree program → Event.NoneFatal (events .strict)) ∧
    Event.NoneFatal (events .loose) := by
  intro run events
  have loose : Event.NoneFatal (events .loose) := parseText_loose_noneFatal text lines o observed
  have cut := parseText_strict_cut text lines o observed
  dsimp only at cut
  have accepted (program : Node) (h : (run .strict).1 = .tree program) :
      Event.NoneFatal (events .strict) := by
    rw [show (parseText .strict text lines (o.beside Event.recorder) (observed, #[])).1 =
      .tree program from h] at cut
    have same : run .loose = run .strict := cut
    show Event.NoneFatal (run .strict).2.2.toList
    rw [← same]
    exact loose
  have rejected (error : SyntaxError) (h : (run .strict).1 = .rejected error) :
      ∃ before after,
        events .strict = before ++ [.error error true] ∧ events .loose = before ++ after := by
    rw [show (parseText .strict text lines (o.beside Event.recorder) (observed, #[])).1 =
      .rejected error from h] at cut
    exact cut
  refine ⟨fun error => ⟨fun h => ?_, ?_⟩, accepted, loose⟩
  · obtain ⟨before, after, told, begins⟩ := rejected error h
    refine ⟨before, told, fun e he => loose e ?_⟩
    rw [begins]
    exact List.mem_append_left _ he
  · rintro ⟨before, told, -⟩
    have fatal : Event.error error true ∈ events .strict := by
      rw [told]
      exact List.mem_append_right _ (List.mem_singleton_self _)
    cases ended : (run .strict).1 with
    | tree program => exact absurd (accepted program ended _ fatal) (by simp [Event.isFatal])
    | rejected other =>
        obtain ⟨before', _, told', -⟩ := rejected other ended
        -- Both histories end with the error that they name.
        have last := (List.append_inj' (told.symm.trans told') rfl).2
        injection last with same
        injection same with same
        rw [same]
    | unfinished =>
        rw [show (parseText .strict text lines (o.beside Event.recorder) (observed, #[])).1 =
          .unfinished from ended] at cut
        exact cut.elim

end ScriptTree

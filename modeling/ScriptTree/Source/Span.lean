/-! # Spans — stretches of a source text

    A span names the bytes from `start` up to, and without, `stop`.  Spans
    are plain pairs: nothing forces `start ≤ stop`, and the length of a
    reversed span is zero. -/

namespace ScriptTree

/-- A half-open stretch of bytes of the UTF-8 source. -/
structure Span where
  start : Nat
  stop : Nat
deriving DecidableEq, Repr, Inhabited

namespace Span

/-- The empty span at an offset. -/
def point (offset : Nat) : Span := ⟨offset, offset⟩

/-- The number of bytes covered. -/
def length (s : Span) : Nat := s.stop - s.start

/-- The span covers no byte. -/
def isEmpty (s : Span) : Bool := s.length == 0

/-- The smallest span that reaches over both. -/
def merge (s t : Span) : Span :=
  ⟨min s.start t.start, max s.stop t.stop⟩

/-- The merge of a list of spans, from the left; no spans have no merge. -/
def mergeAll? : List Span → Option Span
  | [] => none
  | s :: rest => some (rest.foldl merge s)

theorem isEmpty_iff {s : Span} : s.isEmpty = true ↔ s.stop ≤ s.start := by
  simp [isEmpty, length]; omega

end Span

end ScriptTree

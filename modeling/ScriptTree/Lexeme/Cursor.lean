import ScriptTree.Source.Text
import ScriptTree.SyntaxError
import ScriptTree.Token.Basic

/-! # Cursors — a place in the text

    A `Cursor` is the offset reached and the characters from there on.  All
    scanning moves a cursor forward over some text: `c.Reaches d` says that
    `d` lies behind `c` by exactly the bytes of the characters between
    them.  The relation is reflexive and transitive, so a scanner that is
    put together from steps that reach also reaches, and so never runs
    backwards.

    What scanning one word gives is its kind, the place behind it, and the
    diagnostics it raised.  The kind of a diagnostic depends on where the
    cursor was when it was raised. -/

namespace ScriptTree

/-- An offset and the text that starts there. -/
structure Cursor where
  offset : Nat
  rest : List Char
deriving DecidableEq, Repr, Inhabited

namespace Cursor

/-- Nothing is left to read. -/
def atEnd (c : Cursor) : Bool := c.rest.isEmpty

/-- The character under the cursor. -/
def peek? (c : Cursor) : Option Char := c.rest.head?

/-- Step over one character; at the end, stay. -/
def next (c : Cursor) : Cursor :=
  match c.rest with
  | [] => c
  | x :: rest => ⟨c.offset + x.utf8Size, rest⟩

/-- Step over a number of characters. -/
def skip : Nat → Cursor → Cursor
  | 0, c => c
  | n + 1, c => skip n c.next

/-- Step over the characters that satisfy `p`, from `offset` on. -/
def skipFrom (p : Char → Bool) (offset : Nat) : List Char → Cursor
  | [] => ⟨offset, []⟩
  | x :: rest => if p x then skipFrom p (offset + x.utf8Size) rest else ⟨offset, x :: rest⟩

/-- Step over the characters that satisfy `p`. -/
def skipWhile (p : Char → Bool) (c : Cursor) : Cursor := skipFrom p c.offset c.rest

/-- The text between a cursor and a later one. -/
def textTo (c d : Cursor) : List Char := Text.takeBytes (d.offset - c.offset) c.rest

/-- The span between a cursor and a later one. -/
def spanTo (c d : Cursor) : Span := ⟨c.offset, d.offset⟩

/-- `d` lies behind `c` by the characters `text`. -/
def ReachesBy (c d : Cursor) (text : List Char) : Prop :=
  c.rest = text ++ d.rest ∧ d.offset = c.offset + Text.byteLength text

/-- `d` lies at or behind `c` in the same text. -/
def Reaches (c d : Cursor) : Prop := ∃ text, c.ReachesBy d text

namespace Reaches

theorem refl (c : Cursor) : c.Reaches c := ⟨[], by simp [ReachesBy]⟩

theorem trans {c d e : Cursor} (h : c.Reaches d) (k : d.Reaches e) : c.Reaches e := by
  obtain ⟨s, hs, ho⟩ := h
  obtain ⟨t, ht, hp⟩ := k
  exact ⟨s ++ t, by simp [hs, ht], by simp [hp, ho, Nat.add_assoc]⟩

/-- One character on. -/
theorem cons (offset : Nat) (x : Char) (rest : List Char) :
    Reaches ⟨offset, x :: rest⟩ ⟨offset + x.utf8Size, rest⟩ :=
  ⟨[x], by simp [ReachesBy]⟩

theorem length_le {c d : Cursor} (h : c.Reaches d) : d.rest.length ≤ c.rest.length := by
  obtain ⟨s, hs, _⟩ := h
  simp [hs]

theorem next (c : Cursor) : c.Reaches c.next := by
  obtain ⟨offset, rest⟩ := c
  cases rest with
  | nil => exact refl _
  | cons x rest => exact cons offset x rest

theorem skip (n : Nat) (c : Cursor) : c.Reaches (Cursor.skip n c) := by
  induction n generalizing c with
  | zero => exact refl c
  | succ n ih => exact (next c).trans (ih c.next)

theorem skipFrom (p : Char → Bool) (offset : Nat) (rest : List Char) :
    Reaches ⟨offset, rest⟩ (Cursor.skipFrom p offset rest) := by
  induction rest generalizing offset with
  | nil => exact refl _
  | cons x rest ih =>
    simp only [Cursor.skipFrom]
    split
    · exact (cons offset x rest).trans (ih _)
    · exact refl _

theorem skipWhile (p : Char → Bool) (c : Cursor) : c.Reaches (c.skipWhile p) :=
  skipFrom p c.offset c.rest

end Reaches

/-- Stepping over a character that is there leaves fewer. -/
theorem length_next_lt {c : Cursor} (h : c.rest ≠ []) :
    c.next.rest.length < c.rest.length := by
  obtain ⟨offset, rest⟩ := c
  cases rest with
  | nil => exact absurd rfl h
  | cons x rest => simp [next]

/-- The text between a cursor and one it reaches is what was stepped over. -/
theorem textTo_eq {c d : Cursor} {text : List Char} (h : c.ReachesBy d text) :
    c.textTo d = text := by
  obtain ⟨hr, ho⟩ := h
  rw [textTo, ho, hr, Nat.add_sub_cancel_left, Text.takeBytes_append]

end Cursor

/-! ## Scanned words -/

/-- A word that was read from the text. -/
structure Scanned where
  kind : TokenKind
  cursor : Cursor
  diagnostics : List Diagnostic
deriving DecidableEq, Repr, Inhabited

/-- Report a fault about the text between `start` and the cursor reached. -/
def Cursor.diagnose (start reached : Cursor) (fault : Fault) : Diagnostic :=
  ⟨fault, start.spanTo reached, .ofAtEnd reached.atEnd⟩

end ScriptTree

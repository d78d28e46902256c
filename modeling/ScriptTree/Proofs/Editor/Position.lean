import ScriptTree.Source.EditorPosition
import ScriptTree.Source.Text

/-! # Positions — the order in which an editor counts

    Positions are ordered by line, and on a line by character.  An editor is told them in
    32 bits; counted without a limit, every character moves the position forward, so the
    position behind a longer part of the text is later.  What is told has the same order
    as long as all positions of the text fit, and those of a text of fewer than `2 ^ 32`
    bytes do: no character has more units than bytes.  So a later offset is told no
    earlier position, and a span that lies in another one has its range in the other's. -/

namespace ScriptTree

/-! ## Positions without a limit -/

/-- A line, from zero, and UTF-16 units on it, counted without a limit. -/
structure TextPosition where
  line : Nat
  character : Nat

namespace TextPosition

/-- The position behind one more character. -/
def after (p : TextPosition) (c : Char) : TextPosition :=
  if c == '\n' then ⟨p.line + 1, 0⟩ else ⟨p.line, p.character + Character.utf16Units c⟩

/-- The position behind a text. -/
def behind (text : List Char) : TextPosition := text.foldl after ⟨0, 0⟩

/-- Positions are ordered by line, and on a line by character. -/
instance : LE TextPosition where
  le p q := p.line < q.line ∨ p.line = q.line ∧ p.character ≤ q.character

/-- The strict order. -/
instance : LT TextPosition where
  lt p q := p.line < q.line ∨ p.line = q.line ∧ p.character < q.character

variable {p q r : TextPosition} {text : List Char}

theorem le_iff : p ≤ q ↔ p.line < q.line ∨ p.line = q.line ∧ p.character ≤ q.character :=
  Iff.rfl

theorem lt_iff : p < q ↔ p.line < q.line ∨ p.line = q.line ∧ p.character < q.character :=
  Iff.rfl

theorem le_refl (p : TextPosition) : p ≤ p := .inr ⟨rfl, Nat.le_refl _⟩

theorem le_trans (h : p ≤ q) (k : q ≤ r) : p ≤ r := by
  rw [le_iff] at *
  omega

/-- A position in front of another is in front of all behind that one. -/
theorem lt_of_lt_of_le (h : p < q) (k : q ≤ r) : p < r := by
  rw [lt_iff] at *
  rw [le_iff] at k
  omega

theorem le_of_lt (h : p < q) : p ≤ q := by
  rw [lt_iff] at h
  rw [le_iff]
  omega

/-- Every character takes one unit at least. -/
theorem utf16Units_pos (c : Char) : 0 < Character.utf16Units c := by
  rw [Character.utf16Units]
  split <;> decide

/-- A character moves the position forward. -/
theorem lt_after (p : TextPosition) (c : Char) : p < p.after c := by
  rw [after]
  split
  · exact .inl (Nat.lt_succ_self _)
  · exact .inr ⟨rfl, Nat.lt_add_of_pos_right (utf16Units_pos c)⟩

/-- Reading on leads to no earlier position. -/
theorem le_foldl (p : TextPosition) (text : List Char) : p ≤ text.foldl after p := by
  induction text generalizing p with
  | nil => exact p.le_refl
  | cons c rest ih => exact le_trans (le_of_lt (p.lt_after c)) (ih _)

/-- Reading on starts where the first part has ended. -/
theorem behind_append (before more : List Char) :
    behind (before ++ more) = more.foldl after (behind before) := List.foldl_append

/-- No character has more UTF-16 units than bytes. -/
theorem utf16Units_le (c : Char) : Character.utf16Units c ≤ c.utf8Size := by
  have some := c.utf8Size_pos
  rw [Character.utf16Units]
  split
  · exact some
  · rename_i wide
    have code : c.toNat = c.val.toNat := rfl
    have more : c.utf8Size ≠ 1 := by
      have least : (127 : UInt32).toNat = 127 := rfl
      rw [Ne, Char.utf8Size_eq_one_iff, UInt32.le_iff_toNat_le, least]
      omega
    omega

/-- The lines and units behind a text are no more than its bytes. -/
theorem foldl_after_le (p : TextPosition) (text : List Char) :
    (text.foldl after p).line + (text.foldl after p).character ≤
      p.line + p.character + Text.byteLength text := by
  induction text generalizing p with
  | nil => exact Nat.le_refl _
  | cons c rest ih =>
      have later := ih (p.after c)
      have units := utf16Units_le c
      have bytes := c.utf8Size_pos
      have next : (p.after c).line + (p.after c).character ≤
          p.line + p.character + c.utf8Size := by
        rw [after]
        split <;> simp only <;> omega
      rw [List.foldl_cons, Text.byteLength_cons]
      omega

/-! ## What an editor is told -/

/-- The position as an editor is told it, in 32 bits. -/
def told (p : TextPosition) : EditorPosition := ⟨UInt32.ofNat p.line, UInt32.ofNat p.character⟩

/-- Reading a character and telling may be exchanged. -/
theorem told_after (p : TextPosition) (c : Char) : (p.after c).told = p.told.after c := by
  rw [after, EditorPosition.after]
  split
  · rw [told, UInt32.ofNat_add]
    rfl
  · rw [told, UInt32.ofNat_add]
    rfl

/-- So may reading a text and telling. -/
theorem told_foldl (p : TextPosition) (text : List Char) :
    (text.foldl after p).told = text.foldl EditorPosition.after p.told := by
  induction text generalizing p with
  | nil => rfl
  | cons c rest ih => rw [List.foldl_cons, List.foldl_cons, ih, told_after]

/-- The position can be told in 32 bits. -/
structure Fits (p : TextPosition) : Prop where
  line : p.line < UInt32.size
  character : p.character < UInt32.size

end TextPosition

/-- All positions of a text can be told in 32 bits. -/
def Text.Fits (text : List Char) : Prop :=
  ∀ before, before <+: text → (TextPosition.behind before).Fits

/-- The positions of a text of fewer than `2 ^ 32` bytes can. -/
theorem Text.fits_of_byteLength_lt {text : List Char} (short : byteLength text < UInt32.size) :
    Fits text := by
  rintro before ⟨more, rfl⟩
  have bound := TextPosition.foldl_after_le ⟨0, 0⟩ before
  rw [byteLength_append] at short
  simp only [Nat.zero_add] at bound
  constructor
  · exact Nat.lt_of_le_of_lt (Nat.le_trans (Nat.le_add_right _ _) bound) (by omega)
  · exact Nat.lt_of_le_of_lt (Nat.le_trans (Nat.le_add_left _ _) bound) (by omega)

namespace EditorPosition

/-- Positions are ordered by line, and on a line by character. -/
instance : LE EditorPosition where
  le p q := p.line < q.line ∨ p.line = q.line ∧ p.character ≤ q.character

instance (p q : EditorPosition) : Decidable (p ≤ q) :=
  inferInstanceAs (Decidable (_ ∨ _))

/-- The strict order. -/
instance : LT EditorPosition where
  lt p q := p.line < q.line ∨ p.line = q.line ∧ p.character < q.character

instance (p q : EditorPosition) : Decidable (p < q) :=
  inferInstanceAs (Decidable (_ ∨ _))

end EditorPosition

namespace TextPosition.Fits

variable {p q : TextPosition}

/-- What 32 bits can hold is told apart. -/
theorem ofNat_inj {m n : Nat} (hm : m < UInt32.size) (hn : n < UInt32.size) :
    UInt32.ofNat m = UInt32.ofNat n ↔ m = n := by
  rw [← UInt32.toNat_inj, UInt32.toNat_ofNat_of_lt' hm, UInt32.toNat_ofNat_of_lt' hn]

/-- So is what may be equal. -/
theorem told_le_iff (hp : p.Fits) (hq : q.Fits) : p.told ≤ q.told ↔ p ≤ q :=
  or_congr (UInt32.ofNat_lt_iff_lt hp.line hq.line) (and_congr (ofNat_inj hp.line hq.line)
    (UInt32.ofNat_le_iff_le hp.character hq.character))

end TextPosition.Fits

namespace EditorPosition

/-! ## Walking to an offset -/

/-- The characters a walk to an offset goes over: those that start in front of it. -/
def walked (offset reached : Nat) : List Char → List Char
  | [] => []
  | c :: rest => if reached ≥ offset then [] else c :: walked offset (reached + c.utf8Size) rest

/-- The walk reads the characters that are not past the offset. -/
theorem walk_eq_foldl (offset : Nat) (p : EditorPosition) (reached : Nat) (text : List Char) :
    walk offset p reached text = (walked offset reached text).foldl after p := by
  induction text generalizing p reached with
  | nil => rfl
  | cons c rest ih =>
      rw [walk, walked]
      split
      · rfl
      · rw [ih, List.foldl_cons]

/-- A walk to a later offset goes at least as far. -/
theorem walked_mono {offset further : Nat} (h : offset ≤ further) (reached : Nat)
    (text : List Char) : walked offset reached text <+: walked further reached text := by
  induction text generalizing reached with
  | nil => exact List.nil_prefix
  | cons c rest ih =>
      rw [walked, walked]
      by_cases stops : reached ≥ offset
      · rw [if_pos stops]
        exact List.nil_prefix
      · have goes : ¬ reached ≥ further := by omega
        rw [if_neg stops, if_neg goes, List.prefix_cons_inj]
        exact ih _

/-- They are the first ones of the text. -/
theorem walked_isBeginning (offset reached : Nat) (text : List Char) :
    walked offset reached text <+: text := by
  induction text generalizing reached with
  | nil => exact List.nil_prefix
  | cons c rest ih =>
      rw [walked]
      split
      · exact List.nil_prefix
      · rw [List.prefix_cons_inj]
        exact ih _

/-- An editor is told the position behind what the walk goes over. -/
theorem ofOffset_eq_told (text : List Char) (offset : Nat) :
    ofOffset text offset = (TextPosition.behind (walked offset 0 text)).told :=
  (walk_eq_foldl offset ⟨0, 0⟩ 0 text).trans (TextPosition.told_foldl ⟨0, 0⟩ _).symm

/-- A later offset has no earlier position. -/
theorem ofOffset_mono {text : List Char} (fits : Text.Fits text) {offset further : Nat}
    (h : offset ≤ further) : ofOffset text offset ≤ ofOffset text further := by
  obtain ⟨more, same⟩ := walked_mono h 0 text
  have here := fits _ (walked_isBeginning offset 0 text)
  have there := fits _ (walked_isBeginning further 0 text)
  rw [ofOffset_eq_told, ofOffset_eq_told, here.told_le_iff there, ← same,
    TextPosition.behind_append]
  exact TextPosition.le_foldl _ more

end EditorPosition

/-! ## Ranges -/

/-- The span, widened to one byte when it is empty, lies in the other one. -/
def Span.ShowsIn (s t : Span) : Prop :=
  t.start ≤ s.start ∧ max s.stop (s.start + 1) ≤ max t.stop (t.start + 1)

/-- A span shows itself. -/
theorem Span.ShowsIn.refl (s : Span) : s.ShowsIn s := ⟨Nat.le_refl _, Nat.le_refl _⟩

/-- The other range lies in this one. -/
structure EditorRange.Contains (outer inner : EditorRange) : Prop where
  start : outer.start ≤ inner.start
  stop : inner.stop ≤ outer.stop

instance (outer inner : EditorRange) : Decidable (outer.Contains inner) :=
  decidable_of_iff (outer.start ≤ inner.start ∧ inner.stop ≤ outer.stop)
    ⟨fun h => ⟨h.1, h.2⟩, fun h => ⟨h.start, h.stop⟩⟩

/-- The range of a span lies in that of a span around it. -/
theorem EditorRange.contains_of_showsIn {text : List Char} (fits : Text.Fits text) {s t : Span}
    (h : s.ShowsIn t) : (ofSpan text t).Contains (ofSpan text s) where
  start := EditorPosition.ofOffset_mono fits h.1
  stop := EditorPosition.ofOffset_mono fits h.2

end ScriptTree

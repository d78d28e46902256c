import ScriptTree.Source.Span

/-! # Text — characters addressed by byte offsets

    A source is the list of its characters; every offset counts the bytes
    of its UTF-8 encoding.  `byteLength` measures a text, `takeBytes` and
    `dropBytes` cut it at an offset, `slice` reads a span, and `pieces` parts
    it, or a row of bytes, at separators. -/

namespace ScriptTree.Text

/-- The bytes a text takes in UTF-8. -/
def byteLength (text : List Char) : Nat :=
  text.foldl (fun n c => n + c.utf8Size) 0

/-- The longest prefix of at most `n` bytes. -/
def takeBytes (n : Nat) : List Char → List Char
  | [] => []
  | c :: rest => if c.utf8Size ≤ n then c :: takeBytes (n - c.utf8Size) rest else []

/-- What is left behind the longest prefix of at most `n` bytes. -/
def dropBytes (n : Nat) : List Char → List Char
  | [] => []
  | c :: rest => if c.utf8Size ≤ n then dropBytes (n - c.utf8Size) rest else c :: rest

/-- The characters of a span. -/
def slice (text : List Char) (span : Span) : List Char :=
  takeBytes span.length (dropBytes span.start text)

/-- The pieces of a row between separators; a row without one is a single
    piece. -/
def pieces {α : Type} (isSeparator : α → Bool) : List α → List (List α)
  | [] => [[]]
  | x :: rest =>
    if isSeparator x then [] :: pieces isSeparator rest
    else match pieces isSeparator rest with
      | [] => [[x]]
      | piece :: others => (x :: piece) :: others

@[simp] theorem byteLength_nil : byteLength [] = 0 := rfl

private theorem foldl_size (text : List Char) (n : Nat) :
    text.foldl (fun n c => n + c.utf8Size) n = n + byteLength text := by
  induction text generalizing n with
  | nil => simp [byteLength]
  | cons c rest ih =>
    have step : byteLength (c :: rest)
        = rest.foldl (fun n c => n + c.utf8Size) (0 + c.utf8Size) := rfl
    rw [List.foldl_cons, ih, step, ih]
    omega

@[simp] theorem byteLength_cons (c : Char) (rest : List Char) :
    byteLength (c :: rest) = c.utf8Size + byteLength rest := by
  have step : byteLength (c :: rest)
      = rest.foldl (fun n c => n + c.utf8Size) (0 + c.utf8Size) := rfl
  rw [step, foldl_size]
  omega

@[simp] theorem byteLength_append (a b : List Char) :
    byteLength (a ++ b) = byteLength a + byteLength b := by
  induction a with
  | nil => simp
  | cons c rest ih => simp [ih, Nat.add_assoc]

/-- Only the empty text takes no byte. -/
theorem byteLength_eq_zero_iff {text : List Char} : byteLength text = 0 ↔ text = [] := by
  cases text with
  | nil => simp
  | cons c rest =>
    have := c.utf8Size_pos
    simp; omega

/-- Cutting behind a prefix gives the prefix back. -/
theorem takeBytes_append (a b : List Char) :
    takeBytes (byteLength a) (a ++ b) = a := by
  induction a with
  | nil =>
    cases b with
    | nil => rfl
    | cons c rest =>
      have := c.utf8Size_pos
      simp [takeBytes]; omega
  | cons c rest ih => simp [takeBytes, ih]

/-- Cutting behind a prefix leaves what follows it. -/
theorem dropBytes_append (a b : List Char) :
    dropBytes (byteLength a) (a ++ b) = b := by
  induction a with
  | nil =>
    cases b with
    | nil => rfl
    | cons c rest =>
      have := c.utf8Size_pos
      simp [dropBytes]; omega
  | cons c rest ih => simp [dropBytes, ih]

/-- The span of a middle part reads that part. -/
theorem slice_append (a b c : List Char) :
    slice (a ++ b ++ c) ⟨byteLength a, byteLength a + byteLength b⟩ = b := by
  simp [slice, Span.length, dropBytes_append, takeBytes_append]

end ScriptTree.Text

import ScriptTree.Proofs.Lexeme.Tiling

/-! # Line breaks — where the lines of a text end

    A line break ends behind LF, behind U+2028 and U+2029, and behind a CR that no LF
    follows; a CR in front of LF is the first half of a line break.  So whether a
    character ends a line is decided by the character and the one behind it, and
    `lineBreaks` lists where those characters end that do.

    Every offset, also one inside of a character or past the end, parts the text in
    two: the characters that end there or earlier, and the others.  What is picked out
    up to the offset is what is picked out of the first part. -/

namespace ScriptTree.Text

/-- Where the characters end that `p` picks out of a text which begins at `offset`; `p`
    is shown a character and what follows it. -/
def endsOf (p : Char → List Char → Bool) (offset : Nat) : List Char → List Nat
  | [] => []
  | c :: rest =>
    if p c rest then (offset + c.utf8Size) :: endsOf p (offset + c.utf8Size) rest
    else endsOf p (offset + c.utf8Size) rest

/-- The character ends a line.  A CR in front of LF does not: the LF does. -/
def endsLine (c : Char) (rest : List Char) : Bool :=
  Character.isLineTerminator c && !(c == '\r' && rest.head? == some '\n')

/-- Where the line breaks of a text end. -/
def lineBreaks (text : List Char) : List Nat := endsOf endsLine 0 text

/-- Where the line of an offset begins: behind the last line break that ends there or
    earlier, and at the start of the text if there is none. -/
def lineStart (text : List Char) (offset : Nat) : Nat :=
  ((lineBreaks text).filter (· ≤ offset)).getLastD 0

/-- Unless it is a CR in front of LF, a character is looked at by itself. -/
theorem endsLine_of_not_pair {c : Char} {rest : List Char}
    (other : ∀ more, c = '\r' → rest = '\n' :: more → False) :
    endsLine c rest = Character.isLineTerminator c := by
  by_cases pair : c = '\r' ∧ rest.head? = some '\n'
  · obtain ⟨cr, lf⟩ := pair
    obtain ⟨more, stands⟩ := List.head?_eq_some_iff.mp lf
    exact (other more cr stands).elim
  · have : (c == '\r' && rest.head? == some '\n') = false := by
      rw [Bool.eq_false_iff, Ne, Bool.and_eq_true, beq_iff_eq, beq_iff_eq]
      exact pair
    rw [endsLine, this, Bool.not_false, Bool.and_true]

section Ends

variable {p q r : Char → List Char → Bool} {offset stop : Nat} {text : List Char}

/-- The first character ends a line or does not. -/
theorem endsOf_cons (p : Char → List Char → Bool) (offset : Nat) (c : Char)
    (rest : List Char) : endsOf p offset (c :: rest) =
      (if p c rest then [offset + c.utf8Size] else []) ++
        endsOf p (offset + c.utf8Size) rest := by
  rw [endsOf]
  split <;> rfl

/-- At an offset that is listed, a character ends that was picked out, and the other way
    round. -/
theorem mem_endsOf : stop ∈ endsOf p offset text ↔ ∃ before c behind,
    text = before ++ c :: behind ∧ p c behind = true ∧
      stop = offset + byteLength (before ++ [c]) := by
  induction text generalizing offset with
  | nil => simp [endsOf]
  | cons x rest ih =>
      rw [endsOf_cons, List.mem_append, ih]
      constructor
      · rintro (here | ⟨before, c, behind, rfl, picked, rfl⟩)
        -- The end found is that of the first character, or one further on.
        · by_cases picked : p x rest = true
          · rw [if_pos picked, List.mem_singleton] at here
            exact ⟨[], x, rest, rfl, picked, by simpa using here⟩
          · rw [if_neg picked] at here
            cases here
        · refine ⟨x :: before, c, behind, rfl, picked, ?_⟩
          rw [List.cons_append, byteLength_cons, Nat.add_assoc]
      · rintro ⟨before, c, behind, whole, picked, rfl⟩
        -- Nothing before the ending character is the first case again.
        cases before with
        | nil =>
            obtain ⟨rfl, rfl⟩ := List.cons.inj whole
            left
            rw [if_pos picked]
            simp
        | cons y before =>
            obtain ⟨rfl, rfl⟩ := List.cons.inj whole
            right
            refine ⟨before, c, behind, rfl, picked, ?_⟩
            rw [List.cons_append, byteLength_cons, Nat.add_assoc]

/-- Nothing ends behind the text. -/
theorem le_of_mem_endsOf (h : stop ∈ endsOf p offset text) :
    stop ≤ offset + byteLength text := by
  obtain ⟨before, c, behind, rfl, -, rfl⟩ := mem_endsOf.mp h
  simp only [byteLength_append, byteLength_cons, byteLength_nil]
  omega

/-- Nothing ends before the first character does. -/
theorem le_of_mem_endsOf_cons {c : Char} {rest : List Char}
    (h : stop ∈ endsOf p offset (c :: rest)) : offset + c.utf8Size ≤ stop := by
  obtain ⟨before, x, behind, whole, -, rfl⟩ := mem_endsOf.mp h
  cases before with
  | nil =>
      obtain ⟨rfl, -⟩ := List.cons.inj whole
      simp
  | cons y before =>
      obtain ⟨rfl, -⟩ := List.cons.inj whole
      simp only [List.cons_append, byteLength_cons]
      omega

/-- The characters of the first part are shown with the second part behind them. -/
theorem endsOf_append (p : Char → List Char → Bool) (offset : Nat)
    (before behind : List Char) : endsOf p offset (before ++ behind) =
      endsOf (fun c rest => p c (rest ++ behind)) offset before ++
        endsOf p (offset + byteLength before) behind := by
  induction before generalizing offset with
  | nil => rfl
  | cons c rest ih =>
      rw [List.cons_append, endsOf_cons, endsOf_cons, ih, byteLength_cons, Nat.add_assoc,
        List.append_assoc]

/-- What is picked out in exactly one of two ways is counted by the two together. -/
theorem countP_endsOf_add (cut : Nat → Bool)
    (either : ∀ before c behind, text = before ++ c :: behind →
      p c behind = (q c behind || r c behind) ∧ (q c behind && r c behind) = false) :
    (endsOf p offset text).countP cut =
      (endsOf q offset text).countP cut + (endsOf r offset text).countP cut := by
  induction text generalizing offset with
  | nil => rfl
  | cons c rest ih =>
      have later := @ih (offset + c.utf8Size) fun before x behind whole =>
        either (c :: before) x behind (congrArg (c :: ·) whole)
      obtain ⟨same, apart⟩ := either [] c rest rfl
      simp only [endsOf_cons, List.countP_append, later, same]
      cases first : q c rest with
      | false =>
          simp only [Bool.false_or, Bool.false_eq_true, if_false, List.countP_nil]
          omega
      | true =>
          rw [first, Bool.true_and] at apart
          simp only [apart, Bool.or_false, Bool.false_eq_true, if_false, List.countP_nil]
          omega

end Ends

/-! ## The two parts of a text -/

/-- The first part has the characters that end at the offset or earlier, the second part
    the others. -/
structure Parts (before behind : List Char) (offset : Nat) : Prop where
  ended : byteLength before ≤ offset
  goes : ∀ c rest, behind = c :: rest → offset < byteLength before + c.utf8Size

/-- The two parts of a text at an offset between two characters. -/
theorem parts_boundary (before behind : List Char) :
    Parts before behind (byteLength before) where
  ended := Nat.le_refl _
  goes c _ _ := Nat.lt_add_of_pos_right c.utf8Size_pos

/-- Every offset parts a text. -/
theorem exists_parts (text : List Char) (offset : Nat) :
    ∃ before behind, text = before ++ behind ∧ Parts before behind offset := by
  induction text generalizing offset with
  | nil => exact ⟨[], [], rfl, Nat.zero_le _, nofun⟩
  | cons c rest ih =>
      by_cases fits : c.utf8Size ≤ offset
      · obtain ⟨before, behind, rfl, parts⟩ := ih (offset - c.utf8Size)
        refine ⟨c :: before, behind, rfl, ?_, fun x more stands => ?_⟩
        · have := parts.ended
          rw [byteLength_cons]
          omega
        · have := parts.goes x more stands
          rw [byteLength_cons]
          omega
      · refine ⟨[], c :: rest, rfl, Nat.zero_le _, fun x more stands => ?_⟩
        obtain ⟨rfl, -⟩ := List.cons.inj stands
        rw [byteLength_nil]
        omega

namespace Parts

variable {p : Char → List Char → Bool} {before behind : List Char} {offset stop : Nat}

/-- What ends in the first part ends up to the offset. -/
theorem le_of_mem (parts : Parts before behind offset) (h : stop ∈ endsOf p 0 before) :
    stop ≤ offset := by
  have := le_of_mem_endsOf h
  have := parts.ended
  omega

/-- What ends in the second part ends behind the offset. -/
theorem lt_of_mem (parts : Parts before behind offset)
    (h : stop ∈ endsOf p (0 + byteLength before) behind) : offset < stop := by
  cases behind with
  | nil => cases h
  | cons c rest =>
      have := le_of_mem_endsOf_cons h
      have := parts.goes c rest rfl
      omega

/-- What ends up to the offset is what ends in the first part. -/
theorem filter_endsOf (parts : Parts before behind offset) (p : Char → List Char → Bool) :
    (endsOf p 0 (before ++ behind)).filter (· ≤ offset) =
      endsOf (fun c rest => p c (rest ++ behind)) 0 before := by
  have low : ∀ stop ∈ endsOf (fun c rest => p c (rest ++ behind)) 0 before,
      decide (stop ≤ offset) = true := by
    intro stop there
    exact decide_eq_true (parts.le_of_mem there)
  have high : ∀ stop ∈ endsOf p (0 + byteLength before) behind,
      ¬ decide (stop ≤ offset) = true := by
    intro stop there
    rw [decide_eq_true_eq]
    exact Nat.not_le.mpr (parts.lt_of_mem there)
  rw [endsOf_append, List.filter_append, List.filter_eq_self.mpr low,
    List.filter_eq_nil_iff.mpr high, List.append_nil]

end Parts

/-! ## Between two offsets -/

end ScriptTree.Text

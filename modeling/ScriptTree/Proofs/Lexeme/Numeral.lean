import ScriptTree.Proofs.Lexeme.Separation

/-! # Numerals — the parts of a numeric literal

    A numeric literal is put together from runs of digits, each of which ends where no
    digit follows.  The parts are told in turn: a significand, an exponent, a decimal
    numeral, a literal of any radix.  Each is read from its parts alone, and each stays what
    it is in front of any text that does not go on with it. -/

namespace ScriptTree

/-! ## Numeric literals -/

section

variable {c d : Cursor} {text rest other : List Char}

namespace Numeral

/-- The whole part and the fraction of a decimal numeral, with what is behind it. -/
inductive Significand : List Char → List Char → Prop where
  | point {digits rest : List Char} (all : ∀ x ∈ digits, x.isDigit = true)
    (stops : rest.head?.any Char.isDigit = false) : Significand ('.' :: digits) rest
  | whole {x : Char} {digits rest : List Char} (first : (x == '.') = false)
    (all : ∀ x ∈ digits, x.isDigit = true) (stops : rest.head?.any Char.isDigit = false)
    (ends : rest.head?.any (· == '.') = false) : Significand (x :: digits) rest
  | fraction {x : Char} {digits more rest : List Char} (first : (x == '.') = false)
    (all : ∀ x ∈ digits, x.isDigit = true) (behind : ∀ x ∈ more, x.isDigit = true)
    (stops : rest.head?.any Char.isDigit = false) :
    Significand (x :: (digits ++ '.' :: more)) rest

/-- The digits and the point are skipped as they are written. -/
theorem Significand.skip_eq (h : Significand text rest) (here : c.rest = text ++ rest) :
    skipSignificand c = c.past text rest := by
  have next {x : Char} {chars : List Char} (here : c.rest = x :: chars) :
      c.peek? = some x ∧ c.next = c.past [x] chars :=
    ⟨by rw [Cursor.peek?, here]; rfl, Cursor.next_eq_past here⟩
  -- A significand has a point in front, none, or one between its digits.
  cases h with
  | point all stops =>
      obtain ⟨peek, step⟩ := next here
      simp [skipSignificand, peek, step, Cursor.skipWhile_past all stops]
  | @whole x digits rest first all stops ends =>
      obtain ⟨peek, step⟩ := next (show c.rest = x :: (digits ++ rest) from here)
      have point : (rest.head? == some '.') = false := by cases rest <;> first | rfl | exact ends
      have still : (c.past ([x] ++ digits) ([] ++ rest)).skipWhile Char.isDigit = _ :=
        Cursor.skipWhile_past (List.forall_mem_nil _) stops
      simp only [List.nil_append, List.append_nil] at still
      simp only [skipSignificand, peek, step, Cursor.skipWhile_past all stops, Cursor.past_peek?,
        point, Option.some_beq_some, first, if_false, still, Bool.false_eq_true]
      rfl
  | @fraction x digits more rest first all behind stops =>
      have split : c.rest = x :: (digits ++ '.' :: (more ++ rest)) := by simpa using here
      obtain ⟨peek, step⟩ := next split
      have point : ('.' :: (more ++ rest)).head?.any Char.isDigit = false := rfl
      simp only [skipSignificand, peek, step, Cursor.skipWhile_past all point,
        Cursor.past_peek?, Cursor.next_past, Cursor.skipWhile_past behind stops, first,
        Option.some_beq_some, List.head?_cons, beq_self_eq_true, if_true, if_false,
        Bool.false_eq_true]
      simp

/-- Every numeral has such a part. -/
theorem significand_parts (some : c.rest ≠ []) : ∃ text rest, c.rest = text ++ rest ∧
    Significand text rest := by
  obtain ⟨x, chars, first⟩ := List.exists_cons_of_ne_nil some
  obtain ⟨digits, rest, split, -, all, stops⟩ := Cursor.skipWhile_parts Char.isDigit ⟨0, chars⟩
  obtain rfl : chars = digits ++ rest := split
  cases point : x == '.' with
  | true =>
      obtain rfl : x = '.' := eq_of_beq point
      exact ⟨_, rest, first, .point all stops⟩
  | false =>
      cases ends : rest.head?.any (· == '.') with
      | false => exact ⟨_, rest, first, .whole point all stops ends⟩
      | true =>
          obtain ⟨tail, rfl⟩ : ∃ tail, rest = '.' :: tail := by
            cases rest with
            | nil => cases ends
            | cons y tail => exact ⟨tail, congrArg (· :: tail) (eq_of_beq ends)⟩
          obtain ⟨more, behind, split, -, further, halts⟩ :=
            Cursor.skipWhile_parts Char.isDigit ⟨0, tail⟩
          obtain rfl : tail = more ++ behind := split
          exact ⟨_, behind, by simp [first], .fraction point all further halts⟩

/-- No separator is a decimal digit. -/
theorem isDigit_separator {x : Char} (h : Character.isSeparator x = true) : x.isDigit = false :=
  Character.eq_false_of_isSeparator (by decide) h

/-- A significand is one in front of any text that stops it alike. -/
theorem Significand.beside (h : Significand text rest) (like : Text.StopsLike rest other) :
    Significand text other := by
  have digits := like Char.isDigit fun _ => isDigit_separator
  cases h with
  | point all stops => exact .point all (digits stops)
  | whole first all stops ends =>
      have point {x : Char} (gap : Character.isSeparator x = true) : (x == '.') = false :=
        Character.eq_false_of_isSeparator (f := (· == '.')) (by decide) gap
      exact .whole first all (digits stops) (like (· == '.') (fun _ => point) ends)
  | fraction first all behind stops => exact .fraction first all behind (digits stops)

/-- An exponent with digits, with what is behind it. -/
inductive Exponent : List Char → List Char → Prop where
  | plain {e x : Char} {digits rest : List Char} (first : x.isDigit = true)
    (all : ∀ x ∈ digits, x.isDigit = true) (stops : rest.head?.any Char.isDigit = false) :
    Exponent (e :: x :: digits) rest
  | signed {e sign x : Char} {digits rest : List Char} (marks : sign = '+' ∨ sign = '-')
    (first : x.isDigit = true) (all : ∀ x ∈ digits, x.isDigit = true)
    (stops : rest.head?.any Char.isDigit = false) : Exponent (e :: sign :: x :: digits) rest

/-- The exponent is skipped as it is written. -/
theorem Exponent.skip_eq (h : Exponent text rest) (here : c.rest = text ++ rest) :
    skipExponent c = c.past text rest := by
  cases h with
  | @plain e x digits rest first all stops =>
      have step := Cursor.next_eq_past (show c.rest = e :: (x :: digits ++ rest) from here)
      have last : (c.past [e] (x :: digits ++ rest)).skipWhile Char.isDigit = _ :=
        Cursor.skipWhile_past (List.forall_mem_cons.mpr ⟨first, all⟩) stops
      have sign (y : Char) (other : y.isDigit = false) : (x == y) = false := by
        refine beq_eq_false_iff_ne.mpr fun same => ?_
        rw [same, other] at first
        cases first
      simp only [skipExponent, step, Cursor.past_peek?, List.cons_append, List.head?_cons,
        Option.some_beq_some, sign '+' rfl, sign '-' rfl, Bool.or_self, if_false,
        Bool.false_eq_true]
      exact last
  | @signed e sign x digits rest marks first all stops =>
      have step := Cursor.next_eq_past
        (show c.rest = e :: (sign :: (x :: digits ++ rest)) from here)
      have last : (c.past [e, sign] (x :: digits ++ rest)).skipWhile Char.isDigit = _ :=
        Cursor.skipWhile_past (List.forall_mem_cons.mpr ⟨first, all⟩) stops
      have marked : (sign == '+' || sign == '-') = true := by rcases marks with rfl | rfl <;> rfl
      simp only [skipExponent, step, Cursor.past_peek?, List.head?_cons, Option.some_beq_some,
        marked, if_true, Cursor.next_past]
      exact last

/-- The digits of an exponent are looked for where they are. -/
theorem Exponent.has (h : Exponent text rest) : hasExponentDigits (text ++ rest) = true := by
  cases h with
  | plain first all stops => simp [hasExponentDigits, first]
  | signed marks first all stops => rcases marks with rfl | rfl <;> simp [hasExponentDigits, first]

/-- Where an exponent has digits, it is the longest one that can be read. -/
theorem exponent_parts (h : hasExponentDigits c.rest = true) : ∃ text rest,
    c.rest = text ++ rest ∧ Exponent text rest := by
  have digits (chars : List Char) : ∃ digits rest, chars = digits ++ rest ∧
      (∀ x ∈ digits, x.isDigit = true) ∧ rest.head?.any Char.isDigit = false := by
    obtain ⟨digits, rest, split, -, all, stops⟩ := Cursor.skipWhile_parts Char.isDigit ⟨0, chars⟩
    exact ⟨digits, rest, split, all, stops⟩
  unfold hasExponentDigits at h
  split at h
  case h_2 => cases h
  rename_i e sign tail here
  rw [Bool.or_eq_true, Bool.and_eq_true] at h
  rcases h with first | ⟨marks, more⟩
  · obtain ⟨more, rest, rfl, all, stops⟩ := digits tail
    exact ⟨_, rest, here, .plain first all stops⟩
  · cases tail with
    | nil => cases more
    | cons x tail =>
        obtain ⟨behind, rest, rfl, all, stops⟩ := digits tail
        rw [Bool.or_eq_true, beq_iff_eq, beq_iff_eq] at marks
        exact ⟨_, rest, here, .signed marks more all stops⟩

/-- An exponent is one in front of any text that stops it alike. -/
theorem Exponent.beside (h : Exponent text rest) (like : Text.StopsLike rest other) :
    Exponent text other := by
  have digits := like Char.isDigit fun _ => isDigit_separator
  cases h with
  | plain first all stops => exact .plain first all (digits stops)
  | signed marks first all stops => exact .signed marks first all (digits stops)

/-- The mark in front of an exponent. -/
def isMark (x : Char) : Bool := x == 'e' || x == 'E'

/-- A decimal numeral, with what is behind it. -/
inductive Decimal : List Char → List Char → Prop where
  | plain {text rest : List Char} (significand : Significand text rest)
    (ends : rest.head?.any isMark = false) : Decimal text rest
  | scientific {text more rest : List Char} (significand : Significand text (more ++ rest))
    (exponent : Exponent more rest) (marks : more.head?.any isMark = true) :
    Decimal (text ++ more) rest

/-- A mark is one of the two letters. -/
theorem head?_isMark (chars : List Char) :
    (chars.head? == some 'e' || chars.head? == some 'E') = chars.head?.any isMark := by
  cases chars <;> rfl

/-- A decimal literal is read as the number that its text is. -/
theorem Decimal.scan_eq (h : Decimal text rest) (here : c.rest = text ++ rest) :
    scanDecimal c = ⟨.number (Number.ofDecimalText text), c.past text rest, []⟩ := by
  have read := Cursor.textTo_past here
  cases h with
  | plain significand ends =>
      have skip := significand.skip_eq here
      simp only [scanDecimal, skip, Cursor.past_peek?, head?_isMark, ends, if_false,
        Bool.false_eq_true, read]
  | @scientific text more rest significand exponent marks =>
      rw [List.append_assoc] at here
      have skip := significand.skip_eq here
      have last := exponent.skip_eq (c := c.past text (more ++ rest)) rfl
      have marked : (more ++ rest).head?.any isMark = true := by
        cases more with
        | nil => cases marks
        | cons x more => exact marks
      rw [Cursor.past_past] at last
      simp only [scanDecimal, skip, Cursor.past_peek?, Cursor.past_rest, head?_isMark, marked,
        exponent.has, if_true, last, read]

/-- A decimal literal without a diagnostic falls into its parts. -/
theorem decimal_parts (some : c.rest ≠ []) (clean : (scanDecimal c).diagnostics = []) :
    ∃ text rest, c.rest = text ++ rest ∧ Decimal text rest := by
  obtain ⟨text, rest, split, significand⟩ := significand_parts some
  cases marks : rest.head?.any isMark with
  | false => exact ⟨text, rest, split, .plain significand marks⟩
  | true =>
      have skip := significand.skip_eq split
      simp only [scanDecimal, skip, Cursor.past_peek?, Cursor.past_rest, head?_isMark, marks,
        if_true] at clean
      split at clean
      case isFalse => cases clean
      rename_i digits
      obtain ⟨more, behind, split', exponent⟩ := exponent_parts (c := ⟨0, rest⟩) digits
      obtain rfl : rest = more ++ behind := split'
      refine ⟨text ++ more, behind, by simp [split], .scientific significand exponent ?_⟩
      cases exponent <;> exact marks

/-- A decimal literal is one in front of any text that stops it alike. -/
theorem Decimal.beside (h : Decimal text rest) (like : Text.StopsLike rest other) :
    Decimal text other := by
  cases h with
  | plain significand ends =>
      exact .plain (significand.beside like)
        (like isMark (fun _ => Character.eq_false_of_isSeparator (by decide)) ends)
  | @scientific _ more _ significand exponent marks =>
      exact .scientific (significand.beside (like.append more)) (exponent.beside like) marks

/-- The letter announces another radix behind a zero. -/
def isRadixMark (x : Char) : Bool :=
  (x == 'x' || x == 'X') || (x == 'o' || x == 'O') || (x == 'b' || x == 'B')

/-- Only a zero and a letter behind it choose a radix. -/
theorem radix?_eq_none {x : Char} {chars : List Char} :
    radix? (x :: chars) = none ↔ x ≠ '0' ∨ chars.head?.any isRadixMark = false := by
  unfold radix?
  split
  · rename_i mark tail same
    obtain ⟨rfl, rfl⟩ := List.cons.inj same
    simp only [List.head?_cons, Option.any_some, isRadixMark, ne_eq, not_true_eq_false, false_or]
    split
    · simp [*]
    split
    · simp [*]
    split
    · simp [*]
    · simp_all
  · rename_i other
    refine iff_of_true rfl ?_
    cases chars with
    | nil => exact .inr rfl
    | cons y tail => exact .inl fun same => other y tail (by rw [same])

/-- A leading zero is a zero with a digit behind it. -/
theorem hasLeadingZero_cons {x : Char} {chars : List Char} :
    hasLeadingZero (x :: chars) = (x == '0' && chars.head?.any Char.isDigit) := by
  unfold hasLeadingZero
  split
  · rename_i digit tail same
    obtain ⟨rfl, rfl⟩ := List.cons.inj same
    rfl
  · rename_i other
    cases chars with
    | nil => simp
    | cons y tail =>
        have zero : (x == '0') = false :=
          beq_eq_false_iff_ne.mpr fun same => other y tail (by rw [same])
        simp [zero]

/-- A numeral of a radix is announced by two characters. -/
theorem radix?_eq_some {chars : List Char} {radix : Nat} (h : radix? chars = some radix) :
    ∃ x y tail, chars = x :: y :: tail ∧ ∀ tail, radix? (x :: y :: tail) = some radix := by
  unfold radix? at h
  split at h
  · exact ⟨_, _, _, rfl, fun _ => h⟩
  · cases h

/-- A numeric literal, with what is behind it. -/
inductive Literal : List Char → List Char → TokenKind → Prop where
  | radix {x y : Char} {radix : Nat} {digits rest : List Char}
    (opens : ∀ tail, radix? (x :: y :: tail) = some radix) (filled : digits ≠ [])
    (all : ∀ x ∈ digits, Character.isDigitOf radix x = true)
    (stops : rest.head?.any (Character.isDigitOf radix) = false) :
    Literal (x :: y :: digits) rest (.number (Number.ofRadixDigits radix digits))
  | legacy {digits rest : List Char} (plain : radix? ('0' :: (digits ++ rest)) = none)
    (filled : digits ≠ []) (all : ∀ x ∈ digits, x.isDigit = true)
    (stops : rest.head?.any Char.isDigit = false) :
    Literal ('0' :: digits) rest
      (.number (if digits.all (Character.isDigitOf 8) then Number.ofRadixDigits 8 digits
        else Number.ofDecimalText digits))
  | decimal {text rest : List Char} (decimal : Decimal text rest)
    (plain : radix? (text ++ rest) = none) (noZero : hasLeadingZero (text ++ rest) = false) :
    Literal text rest (.number (Number.ofDecimalText text))

variable {kind : TokenKind}

/-- A literal of any radix is read as what it is written for. -/
theorem Literal.scan_eq (h : Literal text rest kind) (here : c.rest = text ++ rest) :
    scanDigits c = ⟨kind, c.past text rest, []⟩ := by
  cases h with
  | @radix x y radix digits rest opens filled all stops =>
      have start : c.skip 2 = c.past [x, y] (digits ++ rest) :=
        Cursor.skip_eq_past (show c.rest = [x, y] ++ (digits ++ rest) from here)
      have last : (c.past [x, y] (digits ++ rest)).skipWhile (Character.isDigitOf radix) =
          c.past ([x, y] ++ digits) rest :=
        Cursor.skipWhile_past all stops
      have read : (c.past [x, y] (digits ++ rest)).textTo (c.past ([x, y] ++ digits) rest) =
        digits := Cursor.past_textTo
      have empty : digits.isEmpty = false := by simpa using filled
      rw [scanDigits, here, List.cons_append, List.cons_append, opens]
      simp only [scanRadix, start]
      rw [last, read, empty]
      rfl
  | @legacy digits rest plain filled all stops =>
      obtain ⟨y, tail, rfl⟩ := List.exists_cons_of_ne_nil filled
      have digit := all y List.mem_cons_self
      have next := Cursor.next_eq_past (show c.rest = '0' :: (y :: tail ++ rest) from here)
      have last : c.skipWhile Char.isDigit = c.past ('0' :: (y :: tail)) rest :=
        Cursor.skipWhile_eq here (List.forall_mem_cons.mpr ⟨rfl, all⟩) stops
      have read : (c.past ['0'] (y :: tail ++ rest)).textTo (c.past (['0'] ++ (y :: tail)) rest) =
        y :: tail := Cursor.past_textTo
      have zero : hasLeadingZero ('0' :: (y :: tail ++ rest)) = true := digit
      rw [scanDigits, here, List.cons_append, plain]
      simp only [zero, if_true, scanLegacy, next, last]
      rw [show '0' :: (y :: tail) = ['0'] ++ (y :: tail) from rfl, read]
  | decimal decimal plain noZero =>
      rw [scanDigits, here, plain]
      simp only [noZero, Bool.false_eq_true, if_false]
      exact decimal.scan_eq here

/-- What is read without a diagnostic is a literal of one of the radices. -/
theorem literal_parts (some : c.rest ≠ []) (clean : (scanDigits c).diagnostics = []) :
    ∃ text rest kind, c.rest = text ++ rest ∧ Literal text rest kind := by
  rw [scanDigits] at clean
  split at clean
  · rename_i radix found
    obtain ⟨x, y, tail, here, opens⟩ := radix?_eq_some found
    obtain ⟨digits, rest, split, -, all, stops⟩ :=
      Cursor.skipWhile_parts (Character.isDigitOf radix) ⟨0, tail⟩
    obtain rfl : tail = digits ++ rest := split
    refine ⟨_, rest, _, here, .radix opens ?_ all stops⟩
    -- Without digits behind the mark, the literal would have been reported.
    rintro rfl
    have start : c.skip 2 = c.past [x, y] rest :=
      Cursor.skip_eq_past (show c.rest = [x, y] ++ rest from here)
    have still : (c.past [x, y] rest).skipWhile (Character.isDigitOf radix) = _ :=
      Cursor.skipWhile_eq (show _ = [] ++ rest from rfl) (List.forall_mem_nil _) stops
    have read : (c.past [x, y] rest).textTo ((c.past [x, y] rest).past [] rest) = [] :=
      Cursor.textTo_past rfl
    simp only [scanRadix, start] at clean
    rw [still, read] at clean
    cases clean
  · rename_i plain
    split at clean
    · rename_i zero
      obtain ⟨x, chars, here⟩ := List.exists_cons_of_ne_nil some
      rw [here, hasLeadingZero_cons, Bool.and_eq_true, beq_iff_eq] at zero
      obtain ⟨rfl, digit⟩ := zero
      obtain ⟨digits, rest, split, -, all, stops⟩ := Cursor.skipWhile_parts Char.isDigit ⟨0, chars⟩
      obtain rfl : chars = digits ++ rest := split
      refine ⟨_, rest, _, here, .legacy (here ▸ plain) ?_ all stops⟩
      -- A leading zero was found by a digit behind it, so there is one.
      rintro rfl
      rw [List.nil_append, stops] at digit
      cases digit
    · rename_i noZero
      obtain ⟨text, rest, split, decimal⟩ := decimal_parts some clean
      refine ⟨text, rest, _, split, .decimal decimal (split ▸ plain) (split ▸ ?_)⟩
      exact Bool.eq_false_iff.mpr noZero

/-- The characters that choose a radix are the literal's own. -/
theorem radix?_beside {x : Char} {t : List Char} (like : Text.StopsLike rest other)
    (h : radix? (x :: (t ++ rest)) = none) : radix? (x :: (t ++ other)) = none := by
  rw [radix?_eq_none] at h ⊢
  exact h.imp_right (like.append t _ fun _ => Character.eq_false_of_isSeparator (by decide))

/-- So are those that make a leading zero. -/
theorem hasLeadingZero_beside {x : Char} {t : List Char} (like : Text.StopsLike rest other)
    (h : hasLeadingZero (x :: (t ++ rest)) = false) :
    hasLeadingZero (x :: (t ++ other)) = false := by
  rw [hasLeadingZero_cons, Bool.and_eq_false_iff] at h ⊢
  exact h.imp_right (like.append t _ fun _ => isDigit_separator)

/-- A decimal literal has at least one character. -/
theorem Decimal.ne_nil (h : Decimal text rest) : text ≠ [] := by
  cases h with
  | plain significand ends => cases significand <;> simp
  | scientific significand exponent marks => cases significand <;> simp

/-- A literal is one in front of any text that stops it alike. -/
theorem Literal.beside (h : Literal text rest kind) (like : Text.StopsLike rest other) :
    Literal text other kind := by
  have digits := like Char.isDigit fun _ => isDigit_separator
  cases h with
  | radix opens filled all stops =>
      exact .radix opens filled all (like _ (fun _ => Character.isDigitOf_separator) stops)
  | legacy plain filled all stops =>
      exact .legacy (radix?_beside like plain) filled all (digits stops)
  | decimal decimal plain noZero =>
      obtain ⟨x, t, rfl⟩ := List.exists_cons_of_ne_nil decimal.ne_nil
      exact .decimal (decimal.beside like) (radix?_beside like plain)
        (hasLeadingZero_beside like noZero)

/-- No identifier may begin where the literal ends. -/
theorem Literal.scan_eq_of_ends (h : Literal text rest kind) (here : c.rest = text ++ rest)
    (ends : rest.head?.any Character.isIdentifierStart = false) :
    scan c = ⟨kind, c.past text rest, []⟩ := by
  simp [scan, h.scan_eq here, ends]

/-- Without a diagnostic no name begins behind the literal. -/
theorem scan_of_clean (clean : (scan c).diagnostics = []) : scan c = scanDigits c ∧
    (scanDigits c).cursor.peek?.any Character.isIdentifierStart = false := by
  have ends : (scanDigits c).cursor.peek?.any Character.isIdentifierStart = false := by
    refine Bool.eq_false_iff.mpr fun more => ?_
    simp [scan, more] at clean
  exact ⟨by simp [scan, ends], ends⟩

/-- A numeral is read alike in front of any text that stops it alike. -/
theorem scan_beside (some : c.rest ≠ []) (clean : (scan c).diagnostics = [])
    (reach : c.ReachesBy (scan c).cursor text) (like : Text.StopsLike (scan c).cursor.rest other)
    (here : d.rest = text ++ other) : scan d = ⟨(scan c).kind, d.past text other, []⟩ := by
  obtain ⟨word, ends⟩ := scan_of_clean clean
  obtain ⟨t, rest, kind, split, literal⟩ := literal_parts some (word ▸ clean)
  have first := literal.scan_eq split
  rw [word, first] at reach like ⊢
  rw [first] at ends
  obtain rfl := reach.unique (Cursor.reachesBy_past split)
  refine (literal.beside like).scan_eq_of_ends here (like _ (fun x gap => ?_) ends)
  refine Bool.eq_false_iff.mpr fun start => ?_
  have part := Character.isIdentifierPart_of_isIdentifierStart start
  rw [Character.isIdentifierPart_separator gap] at part
  cases part

/-- A point and a digit in front are the literal's own. -/
theorem Significand.takes {y : Char} {tail : List Char} (h : Significand text rest)
    (here : text ++ rest = '.' :: y :: tail) (digit : y.isDigit = true) :
    ∃ t, text = '.' :: y :: t := by
  cases h with
  | @point digits _ all stops =>
      cases digits with
      | nil =>
          obtain rfl : rest = y :: tail := (List.cons.inj here).2
          rw [show Option.any Char.isDigit (y :: tail).head? = y.isDigit from rfl, digit] at stops
          cases stops
      | cons z more =>
          obtain ⟨rfl, -⟩ := List.cons.inj (List.cons.inj here).2
          exact ⟨more, rfl⟩
  | whole first all stops ends =>
      obtain ⟨rfl, -⟩ := List.cons.inj here
      cases first
  | fraction first all behind stops =>
      obtain ⟨rfl, -⟩ := List.cons.inj here
      cases first

/-- A numeral that begins with a point has a digit behind it. -/
theorem scan_takes {y : Char} {tail : List Char} (here : c.rest = '.' :: y :: tail)
    (digit : y.isDigit = true) (clean : (scan c).diagnostics = [])
    (reach : c.ReachesBy (scan c).cursor text) : ∃ t, text = '.' :: y :: t := by
  obtain ⟨word, -⟩ := scan_of_clean clean
  obtain ⟨t, rest, kind, split, literal⟩ := literal_parts (by simp [here]) (word ▸ clean)
  rw [word, literal.scan_eq split] at reach
  obtain rfl := reach.unique (Cursor.reachesBy_past split)
  rw [here] at split
  cases literal with
  | radix opens filled all stops =>
      obtain ⟨rfl, -⟩ := List.cons.inj split
      cases (radix?_eq_none.mpr (.inl (by decide))).symm.trans (opens [])
  | legacy plain filled all stops =>
      cases (List.cons.inj split).1
  | decimal decimal plain noZero =>
      cases decimal with
      | plain significand ends => exact significand.takes split.symm digit
      | scientific significand exponent marks =>
          obtain ⟨t, rfl⟩ := significand.takes (by rw [split, List.append_assoc]) digit
          exact ⟨_, rfl⟩

/-- The character opens a numeric literal in front of the others. -/
def opens (x : Char) (chars : List Char) : Bool :=
  x.isDigit || (x == '.' && chars.head?.any Char.isDigit)

/-- A numeral opens with characters of its own. -/
theorem opens_beside {x : Char} {more : List Char} (first : c.rest = x :: (more ++ rest))
    (h : opens x (more ++ rest) = true) (clean : (scan c).diagnostics = [])
    (reach : c.ReachesBy (scan c).cursor (x :: more)) (other : List Char) :
    opens x (more ++ other) = true := by
  rw [opens, Bool.or_eq_true, Bool.and_eq_true] at h ⊢
  refine h.imp_right fun ⟨point, digit⟩ => ⟨point, ?_⟩
  obtain ⟨y, tail, split⟩ : ∃ y tail, more ++ rest = y :: tail := by
    refine List.exists_cons_of_ne_nil fun none => ?_
    rw [none] at digit
    cases digit
  rw [split] at first digit
  obtain rfl := eq_of_beq point
  obtain ⟨t, same⟩ := scan_takes first digit clean reach
  obtain rfl := (List.cons.inj same).2
  exact digit

/-- What does not open a numeral does not do so in front of the other text either. -/
theorem not_opens_beside {x : Char} {more : List Char} (like : Text.StopsLike rest other)
    (h : opens x (more ++ rest) = false) : opens x (more ++ other) = false := by
  rw [opens, Bool.or_eq_false_iff, Bool.and_eq_false_iff] at h ⊢
  exact ⟨h.1, h.2.imp_right (like.append more _ fun _ => isDigit_separator)⟩

end Numeral

end

end ScriptTree

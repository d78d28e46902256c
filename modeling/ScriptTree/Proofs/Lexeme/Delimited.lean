import ScriptTree.Proofs.Lexeme.Separation

/-! # Delimited words — chunks, regular expressions and strings

    A word between delimiters ends with its own delimiter.  Up to there its scanner looks
    at no character beyond it: what an escape sequence looks ahead at stands in front of
    the quote.  So without a diagnostic the word is read again from any text that begins
    with its characters. -/

namespace ScriptTree

/-! ## Words between delimiters -/

section

variable {c d : Cursor} {text rest other : List Char}

namespace Template

/-- What the delimiter is written with. -/
def Ending.delimiter : Ending → List Char
  | .quote => ['\x60']
  | .substitution => ['$', '{']
  | .missing => []

/-- The delimiter that was found is found in any text that reaches as far. -/
theorem findEnding_beside {offset : Nat} {chars : List Char} {ending : Ending}
    (found : (findEnding offset chars).2 = ending) (there : ending ≠ .missing) : ∃ raw rest,
      chars = raw ++ (ending.delimiter ++ rest) ∧
        ∀ place other, findEnding place (raw ++ (ending.delimiter ++ other)) =
          (⟨place + Text.byteLength raw, ending.delimiter ++ other⟩, ending) := by
  fun_induction findEnding offset chars with
  | case1 offset => exact absurd found.symm there
  | case2 offset rest =>
      obtain rfl := found
      exact ⟨[], rest, rfl, fun _ _ => rfl⟩
  | case3 offset rest =>
      obtain rfl := found
      exact ⟨[], rest, rfl, fun _ _ => rfl⟩
  | case4 offset x rest ih =>
      obtain ⟨raw, behind, here, again⟩ := ih found
      refine ⟨'\\' :: x :: raw, behind, by rw [here]; rfl, fun place other => ?_⟩
      have escape : ('\\' : Char).utf8Size = 1 := by decide
      simp only [List.cons_append, findEnding, again, Text.byteLength_cons, escape]
      simp only [Nat.add_assoc]
  | case5 offset x rest noQuote noMark noEscape ih =>
      obtain ⟨raw, behind, here, again⟩ := ih found
      refine ⟨x :: raw, behind, congrArg (x :: ·) here, fun place other => ?_⟩
      -- As far as the delimiter the two texts are the same.
      have head {y : Char} {tail : List Char}
          (more : raw ++ (ending.delimiter ++ other) = y :: tail) : ∃ tail, rest = y :: tail := by
        rw [here]
        cases raw with
        | cons z raw => exact ⟨_, congrArg (· :: _) (List.cons.inj more).1⟩
        | nil =>
            cases ending with
            | missing => exact absurd rfl there
            | quote => exact ⟨_, congrArg (· :: _) (List.cons.inj more).1⟩
            | substitution => exact ⟨_, congrArg (· :: _) (List.cons.inj more).1⟩
      rw [List.cons_append, findEnding, again]
      · simp [Nat.add_assoc]
      · exact noQuote
      · intro _ mark brace
        obtain ⟨tail, same⟩ := head brace
        exact noMark tail mark same
      · intro y _ escape more
        obtain ⟨tail, same⟩ := head more
        exact noEscape y tail escape same

/-- A chunk with a delimiter behind it. -/
theorem scan_eq (isHead : Bool) {raw : List Char} {ending : Ending} (there : ending ≠ .missing)
    (here : c.rest = raw ++ (ending.delimiter ++ rest))
    (found : findEnding c.offset c.rest = (c.past raw (ending.delimiter ++ rest), ending)) :
    scan isHead c = ⟨.template (String.ofList raw) isHead (ending == .quote),
      c.past (raw ++ ending.delimiter) rest, []⟩ := by
  have read := Cursor.textTo_past here
  rw [scan, found]
  simp only [read]
  cases ending with
  | missing => exact absurd rfl there
  | quote => simp [Ending.delimiter]
  | substitution => simp [Ending.delimiter, Cursor.skip]

/-- A chunk is read alike whatever lies behind it. -/
theorem scan_beside {isHead : Bool} (clean : (scan isHead c).diagnostics = [])
    (reach : c.ReachesBy (scan isHead c).cursor text) (here : d.rest = text ++ other) :
    scan isHead d = ⟨(scan isHead c).kind, d.past text other, []⟩ := by
  obtain ⟨ending, found⟩ : ∃ ending, (findEnding c.offset c.rest).2 = ending := ⟨_, rfl⟩
  have there : ending ≠ .missing := by
    rintro rfl
    simp [scan, found] at clean
  obtain ⟨raw, rest, same, again⟩ := findEnding_beside found there
  have first := scan_eq isHead there same (by rw [same]; exact again c.offset rest)
  rw [first] at reach ⊢
  obtain rfl := reach.unique (Cursor.reachesBy_past (by simpa using same))
  rw [List.append_assoc] at here
  exact scan_eq isHead there here (by rw [here]; exact again d.offset other)

end Template

namespace RegExpLiteral

/-- The slash that was found is found in any text that reaches as far. -/
theorem findClose_beside {inClass : Bool} {offset : Nat} {chars : List Char}
    (found : (findClose inClass offset chars).2 = true) : ∃ body rest,
      chars = body ++ '/' :: rest ∧
        ∀ place other, findClose inClass place (body ++ '/' :: other) =
          (⟨place + Text.byteLength body, '/' :: other⟩, true) := by
  fun_induction findClose inClass offset chars with
  | case1 inClass offset => cases found
  | case2 inClass offset x rest ends => cases found
  | case3 inClass offset x rest goes ih =>
      -- An escaped character is skipped with its backslash.
      obtain ⟨body, behind, here, again⟩ := ih found
      refine ⟨'\\' :: x :: body, behind, by rw [here]; rfl, fun place other => ?_⟩
      have escape : ('\\' : Char).utf8Size = 1 := by decide
      simp only [List.cons_append, findClose, goes, again, Text.byteLength_cons, escape]
      simp [Nat.add_assoc]
  | case4 inClass offset x rest noEscape ends => cases found
  | case5 inClass offset x rest noEscape goes closes =>
      rw [Bool.and_eq_true, beq_iff_eq, Bool.not_eq_true'] at closes
      obtain ⟨rfl, rfl⟩ := closes
      exact ⟨[], rest, rfl, fun place other => by simp [findClose, goes]⟩
  | case6 inClass offset x rest noEscape goes more ih =>
      obtain ⟨body, behind, here, again⟩ := ih found
      -- A backslash with nothing behind it is ruled out, since the slash is behind it.
      have escape : x ≠ '\\' := by
        rintro rfl
        rw [here] at noEscape
        obtain ⟨y, tail, same⟩ := List.exists_cons_of_ne_nil
          (List.append_ne_nil_of_right_ne_nil body (List.cons_ne_nil '/' behind))
        exact noEscape y tail rfl same
      refine ⟨x :: body, behind, congrArg (x :: ·) here, fun place other => ?_⟩
      rw [List.cons_append, findClose]
      · rw [if_neg goes, if_neg more, again, Text.byteLength_cons, Nat.add_assoc]
      · exact fun _ _ same => absurd same escape

/-- A regular expression with its flags. -/
theorem scan_eq {body flags : List Char} (here : c.rest = '/' :: (body ++ '/' :: (flags ++ rest)))
    (found : findClose false c.next.offset c.next.rest =
      (c.next.past body ('/' :: (flags ++ rest)), true))
    (all : ∀ x ∈ flags, Character.isIdentifierPart x = true)
    (stops : rest.head?.any Character.isIdentifierPart = false) :
    scan c = ⟨.regExp (String.ofList body) (String.ofList flags),
      c.past ('/' :: (body ++ '/' :: flags)) rest, []⟩ := by
  have opening := Cursor.next_eq_past here
  have last : (c.past ('/' :: (body ++ ['/'])) (flags ++ rest)).skipWhile
      Character.isIdentifierPart = _ := Cursor.skipWhile_eq rfl all stops
  have pattern : (c.past ['/'] (body ++ '/' :: (flags ++ rest))).textTo
      (c.past ('/' :: body) ('/' :: (flags ++ rest))) = body :=
    Cursor.past_textTo
  have letters : (c.past ('/' :: (body ++ ['/'])) (flags ++ rest)).textTo
      (c.past ('/' :: (body ++ ['/']) ++ flags) rest) = flags :=
    Cursor.past_textTo
  simp only [List.cons_append, List.append_assoc, List.nil_append] at letters
  rw [scan, found, opening]
  simp [last, pattern, letters]

/-- A regular expression is read alike in front of another text that stops its flags alike. -/
theorem scan_beside (opens : ∃ tail, c.rest = '/' :: tail) (clean : (scan c).diagnostics = [])
    (reach : c.ReachesBy (scan c).cursor text) (beside : Text.StopsLike (scan c).cursor.rest other)
    (here : d.rest = text ++ other) : scan d = ⟨(scan c).kind, d.past text other, []⟩ := by
  obtain ⟨tail, first⟩ := opens
  have opening := Cursor.next_eq_past first
  have found : (findClose false c.next.offset c.next.rest).2 = true := by
    refine Bool.not_eq_false _ ▸ fun missing => ?_
    simp [scan, missing] at clean
  obtain ⟨body, behind, same, again⟩ := findClose_beside found
  rw [opening, Cursor.past_rest] at same
  subst same
  obtain ⟨flags, rest, split, -, all, stops⟩ :=
    Cursor.skipWhile_parts Character.isIdentifierPart ⟨0, behind⟩
  obtain rfl : behind = flags ++ rest := split
  have read := scan_eq first (by rw [opening]; exact again _ _) all stops
  rw [read] at reach beside ⊢
  obtain rfl := reach.unique (Cursor.reachesBy_past (by simpa using first))
  have there : d.rest = '/' :: (body ++ '/' :: (flags ++ other)) := by simpa using here
  refine scan_eq there ?_ all (beside _ (fun _ => Character.isIdentifierPart_separator) stops)
  rw [Cursor.next_eq_past there]
  exact again _ _

end RegExpLiteral

end

/-! ## String literals -/

section

variable {c d : Cursor} {text rest other : List Char}

namespace Escape

/-- So many digits are read alike in front of another text, if they are all there. -/
theorem readFixed_beside {n : Nat} (sound : (readFixed n c).1 ≠ .malformed)
    (reach : c.ReachesBy (readFixed n c).2 text) (here : d.rest = text ++ other) :
    readFixed n d = ((readFixed n c).1, d.past text other) := by
  simp only [readFixed] at sound reach ⊢
  split at sound
  case isFalse => exact absurd rfl sound
  rename_i digits
  have width : (c.rest.take n).length = n := by simpa using (Bool.and_eq_true_iff.mp digits).1
  have split : c.rest = c.rest.take n ++ c.rest.drop n :=
    (List.take_append_drop n c.rest).symm
  have last := Cursor.skip_eq_past split
  rw [width] at last
  rw [if_pos digits, last] at reach
  obtain rfl := reach.unique (Cursor.reachesBy_past split)
  have same : d.rest.take n = c.rest.take n := by rw [here, List.take_left' width]
  have behind := Cursor.skip_eq_past here
  rw [width] at behind
  rw [same, if_pos digits, if_pos digits, behind]

/-- Digits between braces are read alike in front of another text. -/
theorem readBraced_beside (sound : (readBraced c).1 ≠ .malformed)
    (reach : c.ReachesBy (readBraced c).2 text) (here : d.rest = text ++ other) :
    readBraced d = ((readBraced c).1, d.past text other) := by
  obtain ⟨digits, rest, split, stop, all, stops⟩ :=
    Cursor.skipWhile_parts (Character.isDigitOf 16) c
  have read := Cursor.textTo_past split
  simp only [readBraced, stop, read] at sound reach ⊢
  split at sound
  case isFalse => exact absurd rfl sound
  rename_i closes
  obtain ⟨tail, rfl⟩ : ∃ tail, rest = '}' :: tail := by
    cases rest with
    | nil => cases closes
    | cons x tail => exact ⟨tail, congrArg (· :: tail) (Option.some.inj (eq_of_beq closes))⟩
  rw [if_pos closes, Cursor.next_past] at reach
  obtain rfl := reach.unique (Cursor.reachesBy_past (by simpa using split))
  rw [List.append_assoc] at here
  have last : d.skipWhile (Character.isDigitOf 16) = _ :=
    Cursor.skipWhile_eq here all (show Character.isDigitOf 16 '}' = false by decide)
  have again := Cursor.textTo_past here
  simp only [last, again, if_pos closes]
  rw [if_pos (show (_ == some '}') = true from rfl)]
  simp

/-- What is read behind the first character of an escape sequence. -/
def readBehind (x : Char) (b : Cursor) : Escape × Cursor :=
  match letter? x with
  | some control => (.character control, b)
  | none =>
    if x == '0' && !b.peek?.any Char.isDigit then (.character '\x00', b)
    else if x == 'x' then readFixed 2 b
    else if x == 'u' then if b.peek? == some '{' then readBraced b.next else readFixed 4 b
    else if x == '\r' then (.nothing, if b.peek? == some '\n' then b.next else b)
    else if x == '\n' || x == '\u2028' || x == '\u2029' then (.nothing, b)
    else (.character x, b)

/-- The character behind the backslash decides how an escape sequence is read. -/
theorem read_eq_readBehind {x : Char} (here : c.rest = x :: rest) :
    read c = readBehind x c.next := by
  obtain ⟨offset, chars⟩ := c
  obtain rfl : chars = x :: rest := here
  rfl

/-- Reading it leads on. -/
theorem readBehind_reaches (x : Char) (b : Cursor) : b.Reaches (readBehind x b).2 := by
  unfold readBehind
  split
  · exact .refl _
  split
  · exact .refl _
  split
  · exact readFixed_reaches _ _
  split
  · split
    · exact (Cursor.Reaches.next _).trans (readBraced_reaches _)
    · exact readFixed_reaches _ _
  split
  · split
    · exact .next _
    · exact .refl _
  split <;> exact .refl _

/-- An escape sequence is read alike in front of another text that begins like the first. -/
theorem readBehind_beside {x y : Char} {e : Escape} {stop : Cursor}
    (h : readBehind x c = (e, stop)) (sound : e ≠ .malformed) (reach : c.ReachesBy stop text)
    (more : stop.peek? = some y) (here : d.rest = text ++ y :: other) :
    readBehind x d = (e, d.past text (y :: other)) := by
  have peek : d.peek? = c.peek? := by
    rw [Cursor.peek?, Cursor.peek?, here, reach.1, List.head?_append, List.head?_append]
    exact congrArg _ more.symm
  -- Where nothing was read, nothing is.
  have stay (same : c = stop) : d = d.past text (y :: other) := by
    subst same
    exact reach.stays here
  have fixed {n : Nat} (h : readFixed n c = (e, stop)) :
      readFixed n d = (e, d.past text (y :: other)) := by
    have again := readFixed_beside (n := n) (c := c) (by rwa [h]) (by rwa [h]) here
    rwa [h] at again
  -- The character that was looked at is read in either text.
  have beyond {z : Char} (there : c.peek? = some z) (onward : c.next.Reaches stop) : ∃ t,
      c.next.ReachesBy stop t ∧ text = z :: t ∧ d.next = d.past [z] (t ++ y :: other) := by
    obtain ⟨rest, first⟩ := Cursor.rest_of_peek? there
    obtain ⟨t, rfl, onward⟩ := reach.behind first onward
    exact ⟨t, onward, rfl, Cursor.next_eq_past here⟩
  unfold readBehind at h ⊢
  rw [peek]
  cases control : letter? x with
  | some v =>
      rw [control] at h
      obtain ⟨rfl, same⟩ := Prod.mk.inj h
      exact congrArg _ (stay same)
  | none =>
      rw [control] at h
      simp only at h ⊢
      by_cases zero : (x == '0' && !c.peek?.any Char.isDigit) = true
      · rw [if_pos zero] at h ⊢
        obtain ⟨rfl, same⟩ := Prod.mk.inj h
        exact congrArg _ (stay same)
      rw [if_neg zero] at h ⊢
      by_cases two : (x == 'x') = true
      · rw [if_pos two] at h ⊢
        exact fixed h
      rw [if_neg two] at h ⊢
      by_cases four : (x == 'u') = true
      · rw [if_pos four] at h ⊢
        by_cases braced : (c.peek? == some '{') = true
        · rw [if_pos braced] at h ⊢
          obtain ⟨t, onward, rfl, next⟩ := beyond (eq_of_beq braced)
            (by simpa only [h] using readBraced_reaches c.next)
          have again := readBraced_beside (c := c.next) (d := d.next) (by rwa [h]) (by rwa [h])
            (congrArg Cursor.rest next)
          rw [h] at again
          rw [again, next, Cursor.past_past]
          rfl
        · rw [if_neg braced] at h ⊢
          exact fixed h
      rw [if_neg four] at h ⊢
      by_cases ends : (x == '\r') = true
      · rw [if_pos ends] at h ⊢
        obtain ⟨rfl, same⟩ := Prod.mk.inj h
        by_cases pair : (c.peek? == some '\n') = true
        · rw [if_pos pair] at same ⊢
          subst same
          obtain ⟨t, onward, rfl, next⟩ := beyond (eq_of_beq pair) (.refl _)
          rw [onward.stays (congrArg Cursor.rest next), next, Cursor.past_past]
          rfl
        · rw [if_neg pair] at same ⊢
          exact congrArg _ (stay same)
      rw [if_neg ends] at h ⊢
      by_cases line : (x == '\n' || x == '\u2028' || x == '\u2029') = true
      · rw [if_pos line] at h ⊢
        obtain ⟨rfl, same⟩ := Prod.mk.inj h
        exact congrArg _ (stay same)
      · rw [if_neg line] at h ⊢
        obtain ⟨rfl, same⟩ := Prod.mk.inj h
        exact congrArg _ (stay same)

/-- An escape sequence with a character behind it is read alike whatever comes further on. -/
theorem read_beside {y : Char} (sound : (read c).1 ≠ .malformed)
    (reach : c.ReachesBy (read c).2 text) (more : (read c).2.peek? = some y)
    (here : d.rest = text ++ y :: other) : read d = ((read c).1, d.past text (y :: other)) := by
  obtain ⟨x, rest, first⟩ : ∃ x rest, c.rest = x :: rest := by
    refine List.exists_cons_of_ne_nil fun none => ?_
    simp [read, none, Cursor.peek?] at more
  rw [read_eq_readBehind first] at sound reach more ⊢
  obtain ⟨t, rfl, onward⟩ := reach.behind first (readBehind_reaches x c.next)
  have next := Cursor.next_eq_past here
  generalize read : readBehind x c.next = found at sound onward more ⊢
  obtain ⟨e, stop⟩ := found
  have again := readBehind_beside read sound onward more (congrArg Cursor.rest next)
  rw [read_eq_readBehind here]
  refine again.trans ?_
  rw [next, Cursor.past_past]
  rfl

/-- The text behind an escape sequence. -/
def onto : Escape → List Char → List Char
  | .character c, value => c :: value
  | _, value => value

end Escape

namespace StringLiteral.Body

variable {quote x : Char} {opening : Cursor} {b : Body}

/-- A well-formed escape sequence only adds its value. -/
theorem escaped_eq (sound : (Escape.read b.cursor.next).1 ≠ .malformed) :
    b.escaped = ⟨(Escape.read b.cursor.next).2, (Escape.read b.cursor.next).1.onto b.value,
      b.diagnostics⟩ := by
  simp only [escaped]
  split
  · rename_i found
    rw [found]
    rfl
  · rename_i found
    rw [found]
    rfl
  · exact absurd ‹_› sound

/-- The quote closes the literal. -/
theorem scan_quote (here : b.cursor.rest = quote :: rest) (goes : isBreak quote = false) :
    b.scan quote opening = { b with cursor := b.cursor.next } := by
  rw [scan]
  split
  · rename_i none
    rw [here] at none
    cases none
  · rename_i c tail found
    obtain ⟨rfl, -⟩ := List.cons.inj (here.symm.trans found)
    simp [goes]

/-- Behind a backslash the literal goes on with what is escaped. -/
theorem scan_escape (here : b.cursor.rest = '\\' :: rest) (other : ('\\' == quote) = false) :
    b.scan quote opening = b.escaped.scan quote opening := by
  rw [scan]
  split
  · rename_i none
    rw [here] at none
    cases none
  · rename_i c tail found
    obtain ⟨rfl, -⟩ := List.cons.inj (here.symm.trans found)
    simp [other, show isBreak '\\' = false by decide]

/-- Any other character stands for itself. -/
theorem scan_plain (here : b.cursor.rest = x :: rest) (goes : isBreak x = false)
    (other : (x == quote) = false) (plain : (x == '\\') = false) :
    b.scan quote opening = (b.plain x).scan quote opening := by
  rw [scan]
  split
  · rename_i none
    rw [here] at none
    cases none
  · rename_i c tail found
    obtain ⟨rfl, -⟩ := List.cons.inj (here.symm.trans found)
    simp [goes, other, plain]

/-- What was reported before stays reported. -/
theorem diagnostics_of_scan (clean : (b.scan quote opening).diagnostics = []) :
    b.diagnostics = [] := by
  fun_induction scan quote opening b with
  | case1 b h => simp at clean
  | case2 b c rest h ends => simp at clean
  | case3 b c rest h goes closes => exact clean
  | case4 b c rest h goes more escape ih =>
      have before := ih clean
      simp only [escaped] at before
      split at before
      · exact before
      · exact before
      · simp at before
  | case5 b c rest h goes more plain ih => exact ih clean

/-- An escape sequence with a character behind it is taken alike. -/
theorem escaped_beside {a : Body} {y : Char} (sound : (Escape.read b.cursor.next).1 ≠ .malformed)
    (reach : b.cursor.next.ReachesBy b.escaped.cursor text) (more : b.escaped.cursor.peek? = some y)
    (value : a.value = b.value) (fresh : a.diagnostics = [])
    (here : a.cursor.rest = '\\' :: (text ++ y :: other)) :
    a.escaped = ⟨a.cursor.past ('\\' :: text) (y :: other), b.escaped.value, []⟩ := by
  have next := Cursor.next_eq_past here
  rw [escaped_eq sound] at reach more ⊢
  have read := Escape.read_beside sound reach more (congrArg Cursor.rest next)
  rw [escaped_eq (by rw [read]; exact sound), read, value, fresh, next, Cursor.past_past]
  rfl

/-- A literal that ends with its quote is read alike whatever comes behind. -/
theorem scan_beside (clean : (b.scan quote opening).diagnostics = [])
    (reach : b.cursor.ReachesBy (b.scan quote opening).cursor text) :
    text ≠ [] ∧ ∀ (a : Body) place other, a.value = b.value → a.diagnostics = [] →
      a.cursor.rest = text ++ other → a.scan quote place =
        ⟨a.cursor.past text other, (b.scan quote opening).value, []⟩ := by
  fun_induction scan quote opening b generalizing text with
  | case1 b h => simp at clean
  | case2 b c rest h ends => simp at clean
  | case3 b c rest h goes closes =>
      obtain rfl := reach.unique (Cursor.ReachesBy.next h)
      refine ⟨by simp, fun a place other value fresh here => ?_⟩
      obtain rfl : c = quote := eq_of_beq closes
      rw [scan_quote here (Bool.eq_false_iff.mpr goes), Cursor.next_eq_past here, value, fresh]
      rfl
  | case4 b c rest h goes more escape ih =>
      obtain rfl : c = '\\' := eq_of_beq escape
      -- A malformed escape would have been reported, and reports stay.
      have sound : (Escape.read b.cursor.next).1 ≠ .malformed := by
        intro bad
        have reported := diagnostics_of_scan clean
        simp [escaped, bad] at reported
      obtain ⟨e, inside⟩ := escaped_reaches b
      obtain ⟨t, onward⟩ := scan_reaches quote opening b.escaped
      obtain ⟨filled, again⟩ := ih clean onward
      -- Behind the escape something is left, so the escape is read with the same character ahead.
      obtain ⟨y, t, rfl⟩ := List.exists_cons_of_ne_nil filled
      obtain rfl := reach.unique (((Cursor.ReachesBy.next h).trans inside).trans onward)
      refine ⟨by simp, fun a place other same fresh here => ?_⟩
      rw [List.append_assoc, List.append_assoc] at here
      have follows : b.escaped.cursor.peek? = some y := by rw [Cursor.peek?, onward.1]; rfl
      have stepped := escaped_beside sound inside follows same fresh here
      have last := again a.escaped place other (by rw [stepped]) (by rw [stepped])
        (by rw [stepped]; rfl)
      rw [scan_escape here (Bool.eq_false_iff.mpr more), last, stepped, Cursor.past_past]
      simp
  | case5 b c rest h goes more plain ih =>
      obtain ⟨t, rfl, onward⟩ := reach.behind h (scan_reaches quote opening (b.plain c))
      obtain ⟨-, again⟩ := ih clean onward
      refine ⟨by simp, fun a place other value fresh here => ?_⟩
      have next := Cursor.next_eq_past here
      rw [scan_plain here (Bool.eq_false_iff.mpr goes) (Bool.eq_false_iff.mpr more)
        (Bool.eq_false_iff.mpr plain), again (a.plain c) place other (congrArg (c :: ·) value) fresh
          (congrArg Cursor.rest next)]
      show Body.mk (a.cursor.next.past t other) _ _ = _
      rw [next, Cursor.past_past]
      rfl

end StringLiteral.Body

/-- A string literal is read alike whatever lies behind it. -/
theorem StringLiteral.scan_beside {quote : Char} (first : c.rest = quote :: rest)
    (clean : (scan quote c).diagnostics = []) (reach : c.ReachesBy (scan quote c).cursor text)
    (here : d.rest = text ++ other) :
    scan quote d = ⟨(scan quote c).kind, d.past text other, []⟩ := by
  obtain ⟨t, rfl, onward⟩ := reach.behind first (scan_reaches quote c)
  obtain ⟨-, again⟩ := Body.scan_beside clean onward
  have next := Cursor.next_eq_past here
  have read := again ⟨d.next, [], []⟩ d other rfl rfl (congrArg Cursor.rest next)
  simp only [scan, read]
  rw [next, Cursor.past_past]
  rfl

end

end ScriptTree

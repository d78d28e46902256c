import ScriptTree.Lexeme.Stream

/-! # Steps of the scanner — one lexeme at a time, and a run of them

    What the scanner does next is known once it is known what stands at the
    cursor: a piece of trivia, a word, or the end of the text.  With these
    lemmas a text is scanned along its characters instead of along the scanner.
    The other way round, a word that was found tells which scanner read it and
    what made it the one to read; `Reads` is this said once for all words, and
    `Finds` for their kinds.

    The lexemes of a text come from one run of the scanner: it reads the next
    lexeme and goes on in the state behind it, up to the end of input.  What is
    said of every lexeme of a text, or of a lexeme and the one behind it, is
    shown by induction on the run from what is known of one step. -/

namespace ScriptTree

namespace Trivia

variable {t u : Trivia}

/-- Where no trivia are ahead, nothing is skipped. -/
theorem skip_of_none (h : t.step? = none) : t.skip = t := by
  rw [skip]
  split
  · rfl
  · rename_i there
    rw [h] at there
    cases there

/-- Trivia are skipped one by one. -/
theorem skip_of_some (h : t.step? = some u) : t.skip = u.skip := by
  rw [skip]
  split
  · rename_i none
    rw [h] at none
    cases none
  · rename_i there
    rw [h] at there
    rw [Option.some.inj there]

end Trivia

namespace Punctuator

/-- No punctuator is empty. -/
theorem spelling_ne_nil (p : Punctuator) : p.spelling.toList ≠ [] := by
  cases p <;> decide

/-- Punctuators are written in ASCII. -/
theorem ascii_spelling (p : Punctuator) : ∀ x ∈ p.spelling.toList, x.toNat < 128 := by
  have all : (p.spelling.toList.all fun x => x.toNat < 128) = true := by cases p <;> decide
  simpa using all

/-- Behind ASCII no punctuator begins. -/
theorem ofText?_of_not_ascii {x : Char} (h : 128 ≤ x.toNat) (rest : List Char) :
    ofText? (x :: rest) = none := by
  refine List.find?_eq_none.mpr fun p _ written => ?_
  obtain ⟨y, spelled, same⟩ := List.exists_cons_of_ne_nil p.spelling_ne_nil
  have low := p.ascii_spelling y (same ▸ List.mem_cons_self)
  rw [same, List.isPrefixOf, Bool.and_eq_true, beq_iff_eq] at written
  obtain rfl := written.1
  exact absurd low (Nat.not_lt.mpr h)

/-- A punctuator that was found begins where it was looked for. -/
theorem head?_of_ofText? {text : List Char} {mark : Punctuator} (h : ofText? text = some mark) :
    text.head? = mark.spelling.toList.head? := by
  have begins := List.find?_some h
  rw [List.isPrefixOf_iff_prefix] at begins
  obtain ⟨behind, rfl⟩ := begins
  obtain ⟨x, rest, spelled⟩ := List.exists_cons_of_ne_nil mark.spelling_ne_nil
  rw [spelled]
  rfl

end Punctuator

/-! ## Words -/

/-- A numeric literal scans to a number. -/
theorem Numeral.scan_kind (c : Cursor) : ∃ value, (scan c).kind = .number value := by
  have digits : ∃ value, (scanDigits c).kind = .number value := by
    rw [scanDigits]
    split
    · exact ⟨_, rfl⟩
    · split
      · exact ⟨_, rfl⟩
      · simp only [scanDecimal]
        split
        · split
          · exact ⟨_, rfl⟩
          · exact ⟨_, rfl⟩
        · exact ⟨_, rfl⟩
  simp only [scan]
  split
  · exact digits
  · exact digits

/-- What is read behind a slash is a regular expression. -/
theorem RegExpLiteral.scan_kind (c : Cursor) :
    ∃ pattern flags, (scan c).kind = .regExp pattern flags := by
  simp only [scan]
  split
  · exact ⟨_, _, rfl⟩
  · exact ⟨_, _, rfl⟩

/-- What is read of a template is a chunk of it, its head or not. -/
theorem Template.scan_kind (isHead : Bool) (body : Cursor) :
    ∃ raw isTail, (scan isHead body).kind = .template raw isHead isTail := by
  simp only [scan]
  split
  · exact ⟨_, _, rfl⟩
  · exact ⟨_, _, rfl⟩
  · exact ⟨_, _, rfl⟩

/-- A word is a keyword or a name. -/
theorem Scanner.scanWord_kind (c : Cursor) :
    (∃ word, (scanWord c).kind = .keyword word) ∨ ∃ name, (scanWord c).kind = .name name := by
  simp only [scanWord]
  split
  · exact .inl ⟨_, rfl⟩
  · exact .inr ⟨_, rfl⟩

namespace Scanner

variable {s behind : Scanner} {t : Trivia} {word : Scanned} {l : Lexeme} {found : Array Lexeme}

/-- Behind ASCII only names begin. -/
theorem word?_of_not_ascii {c : Cursor} {x : Char} {rest : List Char} (here : c.rest = x :: rest)
    (high : 128 ≤ x.toNat) (unnamed : Character.isIdentifierStart x = false) :
    s.word? c = none := by
  have other {y : Char} (low : y.toNat < 128) : (x == y) = false :=
    beq_eq_false_iff_ne.mpr fun same => absurd (same ▸ low) (Nat.not_lt.mpr high)
  have digit : x.isDigit = false := by
    rw [Char.isDigit, Bool.and_eq_false_iff]
    right
    refine decide_eq_false fun le => ?_
    have low : x.toNat ≤ 57 := UInt32.le_iff_toNat_le.mp le
    omega
  rw [word?, here]
  simp [other, digit, unnamed, scanPunctuator?, here, Punctuator.ofText?_of_not_ascii high]

/-- How the word at a cursor was read, with what decided it. -/
inductive Reads (s : Scanner) (c : Cursor) : Scanned → Prop where
  | template (here : c.peek? = some '\x60') : Reads s c (Template.scan true c.next)
  | chunk (here : c.peek? = some '}') (resumes : s.resumesTemplate = true) :
    Reads s c (Template.scan false c.next)
  | string {quote : Char} (here : c.peek? = some quote) : Reads s c (StringLiteral.scan quote c)
  | number : Reads s c (Numeral.scan c)
  | regExp (here : c.peek? = some '/') (allowed : s.regExpAllowed = true) :
    Reads s c (RegExpLiteral.scan c)
  | name : Reads s c (scanWord c)
  | punctuator {mark : Punctuator} (here : Punctuator.ofText? c.rest = some mark)
    (brace : c.peek? = some '}' → s.resumesTemplate = false)
    (slash : c.peek? = some '/' → s.regExpAllowed = false) :
    Reads s c ⟨.punctuator mark, c.skip mark.spelling.length, []⟩

/-- Every word is read in one of these ways. -/
theorem reads_of_word? {c : Cursor} (h : s.word? c = some word) : s.Reads c word := by
  obtain ⟨x, rest, there⟩ := List.exists_cons_of_ne_nil (word?_rest_ne_nil h)
  have here : c.peek? = some x := congrArg List.head? there
  rw [word?, there] at h
  simp only at h
  split at h
  · rename_i quote
    cases h
    exact .template (eq_of_beq quote ▸ here)
  split at h
  · rename_i brace
    obtain ⟨brace, resumes⟩ := Bool.and_eq_true_iff.mp brace
    cases h
    exact .chunk (eq_of_beq brace ▸ here) resumes
  rename_i noChunk
  split at h
  · cases h
    exact .string here
  split at h
  · cases h
    exact .number
  split at h
  · rename_i slash
    obtain ⟨slash, allowed⟩ := Bool.and_eq_true_iff.mp slash
    cases h
    exact .regExp (eq_of_beq slash ▸ here) allowed
  rename_i noSlash
  split at h
  · cases h
    exact .name
  -- A mark is left; had it been a brace or a slash, an earlier reading would have taken it.
  · obtain ⟨mark, found, rfl⟩ := Option.map_eq_some_iff.mp h
    refine .punctuator found (fun brace => ?_) (fun slash => ?_)
    · obtain rfl : x = '}' := Option.some.inj (here.symm.trans brace)
      simpa using noChunk
    · obtain rfl : x = '/' := Option.some.inj (here.symm.trans slash)
      simpa using noSlash

/-- Which kind of word a scanner finds, with what decides it. -/
inductive Finds (s : Scanner) : TokenKind → Prop where
  | head (raw : String) (isTail : Bool) : Finds s (.template raw true isTail)
  | chunk (raw : String) (isTail : Bool) (resumes : s.resumesTemplate = true) :
    Finds s (.template raw false isTail)
  | string (value : String) : Finds s (.string value)
  | number (value : Float) : Finds s (.number value)
  | regExp (pattern flags : String) (allowed : s.regExpAllowed = true) :
    Finds s (.regExp pattern flags)
  | keyword (word : Keyword) : Finds s (.keyword word)
  | name (text : String) : Finds s (.name text)
  | punctuator (mark : Punctuator)
    (brace : mark.spelling.toList.head? = some '}' → s.resumesTemplate = false)
    (slash : mark.spelling.toList.head? = some '/' → s.regExpAllowed = false) :
    Finds s (.punctuator mark)

/-- The word that is read is one that may stand there. -/
theorem finds_of_word? {c : Cursor} (h : s.word? c = some word) : s.Finds word.kind := by
  cases reads_of_word? h with
  | template =>
      obtain ⟨raw, isTail, kind⟩ := Template.scan_kind true c.next
      exact kind ▸ .head raw isTail
  | chunk _ resumes =>
      obtain ⟨raw, isTail, kind⟩ := Template.scan_kind false c.next
      exact kind ▸ .chunk raw isTail resumes
  | string => exact .string _
  | number =>
      obtain ⟨value, kind⟩ := Numeral.scan_kind c
      exact kind ▸ .number value
  | regExp _ allowed =>
      obtain ⟨pattern, flags, kind⟩ := RegExpLiteral.scan_kind c
      exact kind ▸ .regExp pattern flags allowed
  | name =>
      obtain ⟨word, kind⟩ | ⟨name, kind⟩ := scanWord_kind c
      · exact kind ▸ .keyword word
      · exact kind ▸ .name name
  | punctuator found brace slash =>
      have begins := Punctuator.head?_of_ofText? found
      exact .punctuator _ (fun first => brace (begins.trans first))
        fun first => slash (begins.trans first)

/-- A word is not the end of the text. -/
theorem ofWord_isEnd {c : Cursor} (here : s.word? c = some word) :
    (Lexeme.ofWord t word).token.isEnd = false := by
  refine Bool.eq_false_iff.mpr fun ends => ?_
  have found := finds_of_word? here
  rw [show word.kind = .endOfInput from Token.isEnd_iff.mp ends] at found
  cases found

/-! ## Lexemes -/

/-- The scanner goes on from where it reads a word. -/
theorem reaches_of_word? {s : Scanner} {c : Cursor} {word : Scanned}
    (h : s.word? c = some word) : c.Reaches word.cursor :=
  (Cursor.Reaches.next c).trans (word?_reaches h)

/-- A lexeme is that of a word which was read where the trivia end, or of the
    end of the text. -/
theorem next_cases (s : Scanner) : ∃ t : Trivia, s.cursor.Reaches t.cursor ∧
    ((∃ word, s.word? t.cursor = some word ∧ s.next = (.ofWord t word, s.after word)) ∨
      s.next = (.ofEnd t, { s with cursor := t.cursor })) := by
  have sought := s.seek_reaches (Trivia.start s.cursor)
  refine ⟨_, sought, ?_⟩
  rw [next]
  split
  · rename_i t word found
    have stands := @word?_of_seek s (Trivia.start s.cursor) word (by rw [found])
    rw [found] at stands ⊢
    exact .inl ⟨word, stands, rfl⟩
  · rename_i t found
    rw [found]
    exact .inr rfl

/-- The scanner behind a lexeme lies behind the text of the lexeme. -/
theorem next_reaches (s : Scanner) : s.cursor.Reaches s.next.2.cursor := by
  obtain ⟨t, sought, ⟨word, read, h⟩ | h⟩ := s.next_cases
  · rw [h]
    exact sought.trans (reaches_of_word? read)
  · rw [h]
    exact sought

/-- Unless it is the end of the text, a lexeme is that of a word. -/
theorem word_of_next (goes : s.next.1.token.isEnd = false) : ∃ t word,
    s.word? t.cursor = some word ∧ s.next = (.ofWord t word, s.after word) := by
  obtain ⟨t, -, ⟨word, read, next⟩ | next⟩ := s.next_cases
  · exact ⟨t, word, read, next⟩
  · rw [next, ofEnd_isEnd] at goes
    cases goes

/-- A word behind the trivia is found there. -/
theorem seek_of_word (h : s.word? t.skip.cursor = some word) :
    s.seek t = (t.skip, some word) := by
  rw [seek]
  split
  · rename_i none
    exact absurd none (word?_rest_ne_nil h)
  · rw [h]

/-- At the end of the text none is found. -/
theorem seek_of_end (h : t.skip.cursor.rest = []) : s.seek t = (t.skip, none) := by
  rw [seek]
  split
  · rfl
  · rename_i more
    rw [h] at more
    cases more

/-- The lexeme where a word stands behind the trivia. -/
theorem next_of_word (skipped : (Trivia.start s.cursor).skip = t)
    (h : s.word? t.cursor = some word) : s.next = (.ofWord t word, s.after word) := by
  subst skipped
  rw [next, seek_of_word h]

/-- The lexeme where nothing stands behind the trivia. -/
theorem next_of_end (skipped : (Trivia.start s.cursor).skip = t) (h : t.cursor.rest = []) :
    s.next = (.ofEnd t, { s with cursor := t.cursor }) := by
  subst skipped
  rw [next, seek_of_end h]

/-- All lexemes but the last are followed by others. -/
theorem lexemesAfter_of_next (h : s.next = (l, behind)) (goes : l.token.isEnd = false) :
    s.lexemesAfter found = behind.lexemesAfter (found.push l) := by
  rw [lexemesAfter]
  simp only [h, goes]
  rfl

/-- The one at the end is the last. -/
theorem lexemesAfter_of_end (h : s.next = (l, behind)) (ends : l.token.isEnd = true) :
    s.lexemesAfter found = found.push l := by
  rw [lexemesAfter]
  simp only [h, ends]
  rfl

/-! ## Runs -/

variable {lexemes : List Lexeme}

/-- The lexemes from the scanner on. -/
inductive Runs : Scanner → List Lexeme → Prop where
  | stop {s : Scanner} (ends : s.next.1.token.isEnd = true) : Runs s [s.next.1]
  | step {s : Scanner} {lexemes : List Lexeme} (goes : s.next.1.token.isEnd = false)
    (behind : Runs s.next.2 lexemes) : Runs s (s.next.1 :: lexemes)

/-- A run begins with the next lexeme. -/
theorem Runs.exists_cons (run : s.Runs lexemes) : ∃ more, lexemes = s.next.1 :: more := by
  cases run with
  | stop _ => exact ⟨[], rfl⟩
  | step _ _ => exact ⟨_, rfl⟩

/-- The lexemes that are collected are those of a run. -/
theorem lexemesAfter_runs (s : Scanner) (found : Array Lexeme) : ∃ lexemes,
    (s.lexemesAfter found).toList = found.toList ++ lexemes ∧ s.Runs lexemes := by
  fun_induction lexemesAfter s found with
  | case1 s found step ends => exact ⟨[step.1], Array.toList_push, .stop ends⟩
  | case2 s found step goes ih =>
      obtain ⟨lexemes, reads, behind⟩ := ih
      refine ⟨step.1 :: lexemes, ?_, .step (Bool.eq_false_iff.mpr goes) behind⟩
      rw [reads, Array.toList_push, List.append_assoc, List.singleton_append]

end Scanner

/-- The lexemes of a text are those of a run from its start. -/
theorem Lexeme.runs_ofText (text : List Char) : (Scanner.start text).Runs (ofText text) := by
  obtain ⟨lexemes, reads, run⟩ := (Scanner.start text).lexemesAfter_runs #[]
  rw [ofText, reads]
  exact run

end ScriptTree

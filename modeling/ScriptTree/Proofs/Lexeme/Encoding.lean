import Mathlib.Data.Nat.Digits.Defs
import ScriptTree.Proofs.Lexeme.Locality

/-! # Encoding — string literals are read as what they were written for

    A character of a string has many ways to be written: by itself, by a letter of its own,
    by its number in radix sixteen with two digits, with four, or in braces with any number
    of zeros in front; and between two characters a line may be continued.  `Escape.Written`
    and `StringLiteral.Encodes` are these ways, without the scanner.  What an escape sequence
    stands for can depend on the character behind it, which is why the rest of the literal is
    at hand where a sequence is written: a null character has no digit behind it, and a
    continued line that ends in a carriage return no line feed, which a literal never has
    outside of a sequence.  Everything else is read as far as it is written, so that the
    sequences of a literal come apart again however they are mixed. -/

namespace ScriptTree

/-! ## Numbers in radix sixteen -/

/-- The character is the digit of this value, in either case. -/
def Character.IsHexDigit (x : Char) (value : Nat) : Prop :=
  value < 16 ∧ (x = Nat.digitChar value ∨ x = (Nat.digitChar value).toUpper)

/-- The digits write the number in radix sixteen, with any number of zeros in front. -/
structure Hexadecimal (digits : List Char) (n : Nat) : Prop where
  nonempty : digits ≠ []
  value : ∃ values, List.Forall₂ Character.IsHexDigit digits values ∧
    Nat.ofDigits 16 values.reverse = n

instance : DecidableRel Character.IsHexDigit := fun x value =>
  inferInstanceAs (Decidable (value < 16 ∧ (x = value.digitChar ∨ x = value.digitChar.toUpper)))

/-- A digit in radix sixteen has its value. -/
theorem Character.IsHexDigit.digit?_eq {x : Char} {value : Nat} (h : IsHexDigit x value) :
    digit? 16 x = some value := by
  obtain ⟨low, rfl | rfl⟩ := h
  · interval_cases value <;> rfl
  · interval_cases value <;> rfl

/-- It is a digit to the scanner. -/
theorem Character.IsHexDigit.isDigitOf {x : Char} {value : Nat} (h : IsHexDigit x value) :
    Character.isDigitOf 16 x = true := by
  rw [Character.isDigitOf, h.digit?_eq]
  rfl

/-- It is written in one byte. -/
theorem Character.IsHexDigit.utf8Size_eq {x : Char} {value : Nat} (h : IsHexDigit x value) :
    x.utf8Size = 1 := by
  obtain ⟨low, rfl | rfl⟩ := h
  · interval_cases value <;> rfl
  · interval_cases value <;> rfl

namespace Hexadecimal

variable {digits : List Char} {n : Nat}

/-- All characters of a number in radix sixteen are digits to the scanner. -/
theorem isDigitOf (h : Hexadecimal digits n) : ∀ x ∈ digits, Character.isDigitOf 16 x = true := by
  obtain ⟨-, values, each, -⟩ := h
  induction each with
  | nil => exact nofun
  | cons digit _ ih => exact List.forall_mem_cons.mpr ⟨digit.isDigitOf, ih⟩

/-- Reading the digits gives the number they write. -/
theorem hexValue_eq (h : Hexadecimal digits n) : Escape.hexValue digits = n := by
  obtain ⟨-, values, each, rfl⟩ := h
  have folded (m : Nat) : digits.foldl (fun n c => n * 16 + (Character.digit? 16 c).getD 0) m =
      values.foldl (fun n d => n * 16 + d) m := by
    induction each generalizing m with
    | nil => rfl
    | cons digit _ ih => rw [List.foldl_cons, List.foldl_cons, digit.digit?_eq, ih]; rfl
  rw [Escape.hexValue, folded, Nat.ofDigits_eq_foldr, List.foldr_reverse]
  simp [Nat.mul_comm, Nat.add_comm]

/-- A number is below what its places can hold. -/
theorem lt (h : Hexadecimal digits n) : n < 16 ^ digits.length := by
  obtain ⟨-, values, each, rfl⟩ := h
  have low : ∀ value ∈ values, value < 16 := by
    induction each with
    | nil => exact nofun
    | cons digit _ ih => exact List.forall_mem_cons.mpr ⟨digit.1, ih⟩
  have places : digits.length = values.reverse.length := by rw [each.length_eq, List.length_reverse]
  rw [places]
  exact Nat.ofDigits_lt_base_pow_length (by decide) fun value there =>
    low value (List.mem_reverse.mp there)

/-- The number takes as many bytes as it has digits. -/
theorem byteLength_eq (h : Hexadecimal digits n) : Text.byteLength digits = digits.length := by
  obtain ⟨-, values, each, -⟩ := h
  induction each with
  | nil => rfl
  | cons digit _ ih =>
      rw [Text.byteLength_cons, ih, digit.utf8Size_eq, List.length_cons, Nat.add_comm]

end Hexadecimal

/-! ## Escape sequences -/

namespace Escape

/-- The control characters with a letter of their own. -/
def controls : List (Char × Char) :=
  [('n', '\n'), ('t', '\t'), ('r', '\r'), ('b', '\x08'), ('f', '\x0c'), ('v', '\x0b')]

/-- What ends a line, and behind a backslash continues the literal on the next one. -/
def lineBreaks : List (List Char) := [['\n'], ['\r', '\n'], ['\r'], ['\u2028'], ['\u2029']]

/-- The characters that mean something else than themselves behind a backslash. -/
def marked : List Char :=
  ['n', 't', 'r', 'b', 'f', 'v', 'x', 'u', '\n', '\r', '\u2028', '\u2029']

/-- What may stand behind a backslash, in front of the rest of a literal, and what it stands
    for there. -/
inductive Written (rest : List Char) : List Char → Escape → Prop where
  | letter {x c : Char} (named : (x, c) ∈ controls) : Written rest [x] (.character c)
  /-- With a digit behind it this would not be the null character. -/
  | null (alone : rest.head?.any Char.isDigit = false) : Written rest ['0'] (.character '\x00')
  | itself {x : Char} (plain : x ∉ marked) (other : x.isDigit = false) :
    Written rest [x] (.character x)
  | byte {digits : List Char} {c : Char} (code : Hexadecimal digits c.toNat)
    (two : digits.length = 2) : Written rest ('x' :: digits) (.character c)
  | unit {digits : List Char} {c : Char} (code : Hexadecimal digits c.toNat)
    (four : digits.length = 4) : Written rest ('u' :: digits) (.character c)
  | braced {digits : List Char} {c : Char} (code : Hexadecimal digits c.toNat) :
    Written rest ('u' :: '{' :: (digits ++ ['}'])) (.character c)
  | continued {line : List Char} (ends : line ∈ lineBreaks) : Written rest line .nothing

variable {c : Cursor} {digits rest text : List Char} {x y : Char} {n : Nat} {e : Escape}

/-- The code of a character stands for it. -/
theorem ofCode_toNat (x : Char) : ofCode x.toNat = .character x := by
  have valid : x.toNat.isValidChar := x.valid
  rw [ofCode, dif_pos valid]
  rfl

/-- So many digits are read as the number. -/
theorem readFixed_eq (code : Hexadecimal digits n) (here : c.rest = digits ++ rest) :
    readFixed digits.length c = (ofCode n, c.past digits rest) := by
  have all : digits.all (Character.isDigitOf 16) = true := List.all_eq_true.mpr code.isDigitOf
  simp only [readFixed, here, List.take_left, beq_self_eq_true, all, Bool.and_self, if_true,
    code.hexValue_eq, Cursor.skip_eq_past here]

/-- Digits between braces are read as the number. -/
theorem readBraced_eq (code : Hexadecimal digits n) (here : c.rest = digits ++ '}' :: rest) :
    readBraced c = (ofCode n, c.past (digits ++ ['}']) rest) := by
  have stop : c.skipWhile (Character.isDigitOf 16) = _ :=
    Cursor.skipWhile_eq here code.isDigitOf (show Character.isDigitOf 16 '}' = false by decide)
  have filled : digits.isEmpty = false := List.isEmpty_eq_false_iff.mpr code.nonempty
  simp only [readBraced, stop, Cursor.textTo_past here, Cursor.past_peek?, Cursor.next_past]
  simp [filled, code.hexValue_eq]

/-- Four digits behind a `u` are looked at alone, whatever stands behind them. -/
theorem read_unit (code : Hexadecimal digits n) (four : digits.length = 4)
    (here : c.rest = 'u' :: (digits ++ rest)) :
    read c = (ofCode n, c.past ('u' :: digits) rest) := by
  have behind := readFixed_eq (c := c.past ['u'] (digits ++ rest)) code rfl
  rw [four, Cursor.past_past] at behind
  have unbraced : ((digits ++ rest).head? == some '{') = false := by
    obtain ⟨y, more, rfl⟩ := List.exists_cons_of_ne_nil code.nonempty
    have digit := code.isDigitOf y List.mem_cons_self
    refine beq_eq_false_iff_ne.mpr fun brace => ?_
    obtain rfl : y = '{' := Option.some.inj brace
    cases digit
  rw [read_eq_readBehind here, Cursor.next_eq_past here]
  show (if (digits ++ rest).head? == some '{' then _ else readFixed 4 _) = _
  rw [unbraced]
  exact behind

/-- No escape sequence that can be written is malformed. -/
theorem Written.ne_malformed (h : Written rest text e) : e ≠ .malformed := by
  cases h <;> exact nofun

/-- READING AN ESCAPE: what is written behind a backslash is read as what it stands for, as
    far as it is written. -/
theorem Written.read_eq (h : Written rest text e) (here : c.rest = text ++ rest)
    (line : rest.head? ≠ some '\n') : read c = (e, c.past text rest) := by
  -- Escapes of one character are told by what comes behind the backslash.
  have one {x : Char} (first : c.rest = x :: rest) (plain : readBehind x (c.past [x] rest) =
      (e, c.past [x] rest)) : read c = (e, c.past [x] rest) := by
    rw [read_eq_readBehind first, Cursor.next_eq_past first, plain]
  cases h with
  -- A letter stands for a control character, of which there are six.
  | letter named =>
      refine one here ?_
      simp only [controls, List.mem_cons, List.not_mem_nil, or_false, Prod.mk.injEq] at named
      obtain ⟨rfl, rfl⟩ | ⟨rfl, rfl⟩ | ⟨rfl, rfl⟩ | ⟨rfl, rfl⟩ | ⟨rfl, rfl⟩ | ⟨rfl, rfl⟩ := named
      all_goals rfl
  | null alone =>
      refine one here ?_
      simp [readBehind, letter?, alone]
  | @itself x plain other =>
      refine one here ?_
      simp only [marked, List.mem_cons, List.not_mem_nil, or_false, not_or] at plain
      have zero : x ≠ '0' := by
        rintro rfl
        cases other
      simp [readBehind, letter?, plain, zero]
  | @byte digits x code two =>
      have behind := readFixed_eq (c := c.past ['x'] (digits ++ rest)) code rfl
      rw [two, ofCode_toNat, Cursor.past_past] at behind
      rw [read_eq_readBehind here, Cursor.next_eq_past here]
      exact behind
  | unit code four => rw [read_unit code four here, ofCode_toNat]
  | @braced digits x code =>
      rw [List.cons_append, List.cons_append, List.append_assoc] at here
      have behind := readBraced_eq (c := c.past ['u', '{'] (digits ++ '}' :: rest)) code rfl
      rw [ofCode_toNat, Cursor.past_past] at behind
      rw [read_eq_readBehind here, Cursor.next_eq_past here]
      show readBraced (Cursor.next _) = _
      rw [Cursor.next_past]
      exact behind
  | continued ends =>
      simp only [lineBreaks, List.mem_cons, List.not_mem_nil, or_false] at ends
      obtain rfl | rfl | rfl | rfl | rfl := ends
      · exact one here rfl
      · rw [read_eq_readBehind here, Cursor.next_eq_past here]
        show (Escape.nothing, if _ then Cursor.next _ else _) = _
        simp
      -- A CR continues the line alone; an LF behind it would belong to it.
      · refine one here ?_
        show (Escape.nothing, if _ then Cursor.next _ else _) = _
        simp [line]
      · exact one here rfl
      · exact one here rfl

end Escape

/-! ## String literals -/

namespace StringLiteral

/-- What stands behind the opening quote of a literal, its closing quote included, and the
    characters it was written for.  Each of these stands for itself or is written as an escape
    sequence, and a line may be continued anywhere. -/
inductive Encodes (quote : Char) : List Char → List Char → Prop where
  | closed : Encodes quote [] [quote]
  | plain {x : Char} {value text : List Char} (other : x ≠ quote) (unescaped : x ≠ '\\')
    (inside : x ≠ '\n' ∧ x ≠ '\r') (behind : Encodes quote value text) :
    Encodes quote (x :: value) (x :: text)
  | escaped {e : Escape} {value rest : List Char} (text : List Char)
    (written : Escape.Written rest text e) (behind : Encodes quote value rest) :
    Encodes quote (e.onto value) ('\\' :: (text ++ rest))

/-- The quotes of string literals. -/
def IsQuote (x : Char) : Prop := x = '"' ∨ x = '\''

variable {quote : Char} {value text rest : List Char} {c : Cursor}

namespace IsQuote

/-- A quote does not break the line. -/
theorem not_break (h : IsQuote quote) : Body.isBreak quote = false := by
  obtain rfl | rfl := h <;> rfl

/-- It is no backslash. -/
theorem ne_backslash (h : IsQuote quote) : ('\\' == quote) = false := by
  obtain rfl | rfl := h <;> rfl

end IsQuote

/-- No line of the source begins inside of a literal but behind a backslash. -/
theorem Encodes.head?_ne (h : Encodes quote value text) (delimits : IsQuote quote) :
    text.head? ≠ some '\n' := by
  cases h with
  | closed =>
      obtain rfl | rfl := delimits <;> decide
  | plain _ _ inside _ => exact fun line => inside.1 (Option.some.inj line)
  | escaped _ _ _ => exact nofun

/-- The value of a string is kept in reverse while it is read. -/
theorem Escape.onto_reverse (e : Escape) (value read : List Char) :
    (e.onto value).reverse ++ read = value.reverse ++ e.onto read := by
  cases e <;> simp [Escape.onto]

/-- DECODING: a literal is read up to its closing quote as what it was written for. -/
theorem Encodes.scan_eq (h : Encodes quote value text) (delimits : IsQuote quote) {b : Body}
    (here : b.cursor.rest = text) (opening : Cursor) : b.scan quote opening =
      ⟨b.cursor.past text [], value.reverse ++ b.value, b.diagnostics⟩ := by
  induction h generalizing b with
  | closed => rw [Body.scan_quote here delimits.not_break, Cursor.next_eq_past here]; rfl
  | @plain x value text other unescaped inside behind ih =>
      have goes : Body.isBreak x = false := by simp [Body.isBreak, inside]
      rw [Body.scan_plain here goes (beq_eq_false_iff_ne.mpr other)
        (beq_eq_false_iff_ne.mpr unescaped), ih (congrArg Cursor.rest (Cursor.next_eq_past here))]
      simp [Body.plain, Cursor.next_eq_past here]
  | @escaped e value rest text written behind ih =>
      have next := Cursor.next_eq_past here
      have read := written.read_eq (congrArg Cursor.rest next) (behind.head?_ne delimits)
      have sound : (Escape.read b.cursor.next).1 ≠ .malformed := by
        rw [read]
        exact written.ne_malformed
      have onward : b.escaped.cursor.rest = rest := by
        rw [Body.escaped_eq sound, read]
        rfl
      rw [Body.scan_escape here delimits.ne_backslash, ih onward, Body.escaped_eq sound, read, next,
        Cursor.past_past, Escape.onto_reverse, Cursor.past_past]
      simp

/-- The literal whose body was read to the end of the text. -/
theorem scan_of_body {diagnostics : List Diagnostic} (here : c.rest = quote :: text)
    (read : Body.scan quote c ⟨c.next, [], []⟩ =
      ⟨c.next.past text [], value.reverse, diagnostics⟩) :
    scan quote c = ⟨.string (String.ofList value), c.past (quote :: text) [], diagnostics⟩ := by
  rw [scan, read, Cursor.next_eq_past here, Cursor.past_past, List.reverse_reverse]
  rfl

/-- A quote begins a literal and nothing else. -/
theorem word?_quote {s : Scanner} (delimits : IsQuote quote) (here : c.rest = quote :: rest) :
    s.word? c = some (scan quote c) := by
  rw [Scanner.word?, here]
  obtain rfl | rfl := delimits <;> rfl

end StringLiteral

/-- The lexemes of a text that is a single word. -/
theorem Lexeme.ofText_word {text : List Char} {kind : TokenKind} {diagnostics : List Diagnostic}
    (settled : (Trivia.start ⟨0, text⟩).step? = .none)
    (word : (Scanner.start text).word? ⟨0, text⟩ =
      some ⟨kind, Cursor.past ⟨0, text⟩ text [], diagnostics⟩) :
    let length := Text.byteLength text
    ofText text =
      [⟨[], diagnostics, ⟨kind, ⟨0, length⟩, false, String.ofList text⟩, true, false⟩,
        ⟨[], [], ⟨.endOfInput, .point length, false, ""⟩, true, false⟩] := by
  intro length
  have whole : Cursor.past ⟨0, text⟩ text [] = ⟨length, []⟩ :=
    congrArg (Cursor.mk · []) (Nat.zero_add length)
  have read : Cursor.textTo ⟨0, text⟩ ⟨length, []⟩ = text :=
    whole ▸ Cursor.textTo_past (List.append_nil text).symm
  rw [whole] at word
  have first := Scanner.next_of_word (s := .start text) (Trivia.skip_of_none settled) word
  have lexeme : ofWord (.start ⟨0, text⟩) ⟨kind, ⟨length, []⟩, diagnostics⟩ =
      ⟨[], diagnostics, ⟨kind, ⟨0, length⟩, false, String.ofList text⟩, true, false⟩ := by
    simp [ofWord, Trivia.start, read, startsBinding, Cursor.spanTo, Cursor.atEnd]
  have last := Scanner.next_of_end
    (s := (Scanner.start text).after ⟨kind, ⟨length, []⟩, diagnostics⟩)
    (Trivia.skip_of_none rfl) rfl
  rw [ofText, Scanner.lexemesAfter_of_next first (Scanner.ofWord_isEnd word),
    Scanner.lexemesAfter_of_end last (Scanner.ofEnd_isEnd _)]
  exact congrArg (List.cons · _) lexeme

/-- The lexemes of a text that is a single string literal. -/
theorem Lexeme.ofText_literal {quote : Char} (delimits : StringLiteral.IsQuote quote)
    {text value : List Char} {diagnostics : List Diagnostic}
    (read : StringLiteral.Body.scan quote ⟨0, quote :: text⟩ ⟨⟨1, text⟩, [], []⟩ =
      ⟨Cursor.past ⟨1, text⟩ text [], value.reverse, diagnostics⟩) :
    let source := quote :: text
    let length := Text.byteLength source
    ofText source =
      [⟨[], diagnostics, ⟨.string (String.ofList value), ⟨0, length⟩, false, String.ofList source⟩,
          true, false⟩,
        ⟨[], [], ⟨.endOfInput, .point length, false, ""⟩, true, false⟩] := by
  intro source length
  have settled : (Trivia.start ⟨0, source⟩).step? = .none := by
    rw [Trivia.step?_eq_none rfl]
    obtain rfl | rfl := delimits <;> exact ⟨by decide, .inl (by decide)⟩
  have opening : Cursor.next ⟨0, source⟩ = ⟨1, text⟩ := by
    obtain rfl | rfl := delimits <;> rfl
  have word := StringLiteral.word?_quote (s := .start source) delimits
    (show Cursor.rest ⟨0, source⟩ = source from rfl)
  rw [StringLiteral.scan_of_body rfl (by rw [opening]; exact read)] at word
  exact ofText_word settled word

/-- STRING LITERALS: whatever way is chosen to write each character, and wherever a line is
    continued, the quoted text is read as one string literal with the value it was written for,
    and nothing is reported. -/
theorem lex_encoded {quote : Char} (delimits : StringLiteral.IsQuote quote)
    {value text : List Char} (h : StringLiteral.Encodes quote value text) :
    let source := quote :: text
    let length := Text.byteLength source
    lex source =
      ⟨[⟨.string (String.ofList value), ⟨0, length⟩, false, String.ofList source⟩,
        ⟨.endOfInput, .point length, false, ""⟩], [], []⟩ := by
  intro source length
  have read := h.scan_eq delimits (b := ⟨⟨1, text⟩, [], []⟩) rfl ⟨0, source⟩
  rw [List.append_nil] at read
  rw [lex, Lexeme.ofText_literal delimits read]
  rfl

/-- A literal that is written in most of these ways, with a continued line inside. -/
theorem lex_encoded_mixed :
    let text := ['a', '\\', 'x', '4', '1', '\\', '\r', '\n',
      '\\', 'u', '{', '0', '1', 'f', '6', '0', '0', '}', '\\', '0', '\\', '\'', '\'']
    StringLiteral.IsQuote '\'' ∧
      StringLiteral.Encodes '\'' ['a', 'A', '😀', '\x00', '\''] text ∧
      lex ('\'' :: text) =
        ⟨[⟨.string "aA😀\x00'", ⟨0, 24⟩, false, "'a\\x41\\\r\n\\u\x7b01f600\x7d\\0\\''"⟩,
          ⟨.endOfInput, .point 24, false, ""⟩], [], []⟩ := by
  intro text
  have code : Hexadecimal ['4', '1'] 'A'.toNat := ⟨by decide, [4, 1], by decide, rfl⟩
  have long : Hexadecimal ['0', '1', 'f', '6', '0', '0'] '😀'.toNat :=
    ⟨by decide, [0, 1, 15, 6, 0, 0], by decide, rfl⟩
  have written : StringLiteral.Encodes '\'' ['a', 'A', '😀', '\x00', '\''] text :=
    .plain (by decide) (by decide) (by decide) <|
    .escaped ['x', '4', '1'] (.byte code rfl) <|
    .escaped ['\r', '\n'] (.continued (by decide)) <|
    .escaped ['u', '{', '0', '1', 'f', '6', '0', '0', '}'] (.braced long) <|
    .escaped ['0'] (.null rfl) <|
    .escaped ['\''] (.itself (by decide) rfl) .closed
  exact ⟨.inr rfl, written, lex_encoded (.inr rfl) written⟩

end ScriptTree

import ScriptTree.Grammar.Program
import ScriptTree.Proofs.Lexeme.Encoding

/-! # Code units — pairs of surrogates are not joined

    A character beyond U+FFFF has two code units in UTF-16, and a literal may write each of
    them as an escape sequence of four digits.  But a sequence of four digits is read by
    itself: one that is half of a pair is no character, and is reported and left out.  So
    such a literal is read as the characters of one unit among those it was written for, and
    a program that consists of it is accepted exactly if it has no others. -/

namespace ScriptTree

/-! ## Code units -/

namespace Character

/-- The code units of a character in UTF-16: beyond U+FFFF they are a pair of surrogates. -/
def codeUnits (c : Char) : List Nat :=
  if c.toNat < 0x10000 then [c.toNat]
  else [0xd800 + (c.toNat - 0x10000) / 0x400, 0xdc00 + (c.toNat - 0x10000) % 0x400]

/-- The code unit is half of a pair. -/
def isSurrogate (unit : Nat) : Bool := 0xd800 ≤ unit && unit < 0xe000

/-- The character that a code unit is by itself. -/
def ofUnit? (unit : Nat) : Option Char :=
  if isSurrogate unit then none else some (.ofNat unit)

/-- One code unit is the character, and no surrogate. -/
theorem codeUnits_of_one {c : Char} (h : utf16Units c = 1) :
    codeUnits c = [c.toNat] ∧ isSurrogate c.toNat = false := by
  rw [utf16Units] at h
  split at h
  · rename_i low
    refine ⟨if_pos low, ?_⟩
    have valid : c.toNat < 0xd800 ∨ (0xdfff < c.toNat ∧ c.toNat < 0x110000) := c.valid
    rw [isSurrogate, Bool.and_eq_false_iff, decide_eq_false_iff_not, decide_eq_false_iff_not]
    omega
  · cases h

/-- Two code units are two surrogates. -/
theorem codeUnits_of_two {c : Char} (h : utf16Units c ≠ 1) :
    ∃ high low, codeUnits c = [high, low] ∧ isSurrogate high = true ∧ isSurrogate low = true := by
  rw [utf16Units] at h
  split at h
  · exact absurd rfl h
  · rename_i beyond
    refine ⟨_, _, if_neg beyond, ?_, ?_⟩
    all_goals
      have valid : c.toNat < 0xd800 ∨ (0xdfff < c.toNat ∧ c.toNat < 0x110000) := c.valid
      rw [isSurrogate, Bool.and_eq_true, decide_eq_true_eq, decide_eq_true_eq]
      omega

end Character

namespace StringLiteral

/-- What stands behind the opening quote of a literal that writes each code unit as an escape
    sequence of four digits. -/
inductive EncodesUnits (quote : Char) : List Nat → List Char → Prop where
  | closed : EncodesUnits quote [] [quote]
  | unit {unit : Nat} {units : List Nat} {digits rest : List Char} (code : Hexadecimal digits unit)
    (four : digits.length = 4) (behind : EncodesUnits quote units rest) :
    EncodesUnits quote (unit :: units) ('\\' :: 'u' :: (digits ++ rest))

/-- What is reported of the code units of a literal whose first one is written at the offset:
    each half of a pair, where it is written. -/
def surrogateFaults (offset : Nat) : List Nat → List Diagnostic
  | [] => []
  | unit :: units =>
    let behind := surrogateFaults (offset + 6) units
    if Character.isSurrogate unit then
      ⟨.badEscape, ⟨offset, offset + 6⟩, .unexpected⟩ :: behind
    else behind

variable {quote : Char} {units : List Nat} {digits text rest : List Char} {c : Cursor} {unit : Nat}

/-- An escape of code units is not empty. -/
theorem EncodesUnits.ne_nil (h : EncodesUnits quote units text) : text ≠ [] := by
  cases h <;> exact List.cons_ne_nil _ _

/-- A code unit is read by itself: as a character, or if it is half of a pair as none. -/
theorem ofCode_unit (low : unit < 0x10000) : Escape.ofCode unit =
    if Character.isSurrogate unit then .malformed else .character (.ofNat unit) := by
  have valid : unit.isValidChar ↔ Character.isSurrogate unit = false := by
    rw [Character.isSurrogate, Bool.and_eq_false_iff, decide_eq_false_iff_not,
      decide_eq_false_iff_not]
    show unit < 0xd800 ∨ (0xdfff < unit ∧ unit < 0x110000) ↔ _
    omega
  rw [Escape.ofCode, Char.ofNat]
  by_cases h : unit.isValidChar
  · rw [dif_pos h, dif_pos h, valid.mp h]
    rfl
  · rw [dif_neg h, if_pos (Bool.eq_true_of_not_eq_false (mt valid.mpr h))]

/-- An escape with four digits takes six bytes. -/
theorem byteLength_unit (code : Hexadecimal digits unit) (four : digits.length = 4) :
    Text.byteLength ('\\' :: 'u' :: digits) = 6 := by
  rw [Text.byteLength_cons, Text.byteLength_cons, code.byteLength_eq, four]
  rfl

/-- Code units are reported one by one, six bytes apart. -/
theorem surrogateFaults_cons (offset unit : Nat) (units : List Nat) :
    surrogateFaults offset (unit :: units) =
      surrogateFaults offset [unit] ++ surrogateFaults (offset + 6) units := by
  rw [surrogateFaults, surrogateFaults]
  split <;> rfl

namespace Body

/-- A code unit that is no half of a pair is taken for its character. -/
theorem escaped_unit {b : Body} (code : Hexadecimal digits unit) (four : digits.length = 4)
    (here : b.cursor.rest = '\\' :: 'u' :: (digits ++ rest)) (more : rest ≠ []) :
    b.escaped = ⟨b.cursor.past ('\\' :: 'u' :: digits) rest,
      (Character.ofUnit? unit).toList ++ b.value,
      b.diagnostics ++ surrogateFaults b.cursor.offset [unit]⟩ := by
  have next := Cursor.next_eq_past here
  have read := Escape.read_unit code four (congrArg Cursor.rest next)
  have low : unit < 0x10000 := by
    have bound := code.lt
    rwa [four] at bound
  rw [ofCode_unit low, next, Cursor.past_past] at read
  rw [escaped, next, read]
  cases half : Character.isSurrogate unit with
  | true =>
      obtain ⟨x, tail, rfl⟩ := List.exists_cons_of_ne_nil more
      have fault : b.cursor.diagnose (b.cursor.past ('\\' :: 'u' :: digits) (x :: tail))
          .badEscape = ⟨.badEscape, ⟨b.cursor.offset, b.cursor.offset + 6⟩, .unexpected⟩ := by
        rw [Cursor.diagnose, Cursor.spanTo, Cursor.past, byteLength_unit code four]
        rfl
      simp [surrogateFaults, Character.ofUnit?, half, fault]
  | false => simp [surrogateFaults, Character.ofUnit?, half]

end Body

/-- ONE UNIT AT A TIME: a literal of code units is read as the characters that they are by
    themselves, and each half of a pair is reported. -/
theorem EncodesUnits.scan_eq (h : EncodesUnits quote units text) (delimits : IsQuote quote)
    {b : Body} (here : b.cursor.rest = text) (opening : Cursor) : b.scan quote opening =
      ⟨b.cursor.past text [], (units.filterMap Character.ofUnit?).reverse ++ b.value,
        b.diagnostics ++ surrogateFaults b.cursor.offset units⟩ := by
  induction h generalizing b with
  | closed =>
      rw [Body.scan_quote here delimits.not_break, Cursor.next_eq_past here]
      simp [surrogateFaults]
  | @unit unit units digits rest code four behind ih =>
      have taken := Body.escaped_unit code four here behind.ne_nil
      have onward : (b.cursor.past ('\\' :: 'u' :: digits) rest).offset = b.cursor.offset + 6 :=
        congrArg (b.cursor.offset + ·) (byteLength_unit code four)
      rw [Body.scan_escape here delimits.ne_backslash, taken, ih rfl]
      simp only [Cursor.past_past, onward]
      rw [surrogateFaults_cons b.cursor.offset unit units, ← List.append_assoc]
      cases part : Character.ofUnit? unit <;> simp [part]

/-- Nothing is reported if no unit is a surrogate. -/
theorem surrogateFaults_eq_nil {offset : Nat} :
    surrogateFaults offset units = [] ↔ ∀ unit ∈ units, Character.isSurrogate unit = false := by
  induction units generalizing offset with
  | nil => simp [surrogateFaults]
  | cons unit units ih =>
      rw [surrogateFaults_cons, List.append_eq_nil_iff, ih, List.forall_mem_cons]
      cases half : Character.isSurrogate unit <;> simp [surrogateFaults, half]

/-- All of them are bad escape sequences. -/
theorem fault_of_surrogateFaults {offset : Nat} {d : Diagnostic}
    (h : d ∈ surrogateFaults offset units) : d.fault = .badEscape := by
  induction units generalizing offset with
  | nil => cases h
  | cons unit units ih =>
      rw [surrogateFaults] at h
      split at h
      · rcases List.mem_cons.mp h with rfl | behind
        · rfl
        · exact ih behind
      · exact ih h

end StringLiteral

namespace Character

/-- The characters of one code unit are those that the units give by themselves. -/
theorem filterMap_ofUnit? (value : List Char) :
    (value.flatMap codeUnits).filterMap ofUnit? = value.filter (utf16Units · == 1) := by
  induction value with
  | nil => rfl
  | cons c value ih =>
      rw [List.flatMap_cons, List.filterMap_append, ih]
      by_cases one : utf16Units c = 1
      · obtain ⟨units, whole⟩ := codeUnits_of_one one
        simp [units, one, ofUnit?, whole]
      · obtain ⟨high, low, units, first, second⟩ := codeUnits_of_two one
        simp [units, one, ofUnit?, first, second]

/-- A value has no half of a pair among its units exactly if it has no pair. -/
theorem forall_not_surrogate {value : List Char} :
    (∀ unit ∈ value.flatMap codeUnits, isSurrogate unit = false) ↔
      ∀ c ∈ value, utf16Units c = 1 := by
  rw [List.forall_mem_flatMap]
  refine forall₂_congr fun c _ => ?_
  by_cases one : utf16Units c = 1
  · obtain ⟨units, whole⟩ := codeUnits_of_one one
    simp [units, one, whole]
  · obtain ⟨high, low, units, first, second⟩ := codeUnits_of_two one
    simp [units, one, first]

end Character


/-! ## Programs -/

/-- The tree of a program that is a string literal and nothing else. -/
def Node.literalProgram (value raw : String) (length : Nat) : Node :=
  let literal := bare (.literal (.string value) raw) ⟨0, max length 0⟩
  let statement := bare (.expressionStatement literal) ⟨0, max length 0⟩
  .bare (.program [statement]) ⟨0, max length 0⟩

/-- A text that is one literal, without a fault, is a program. -/
theorem parse_literal {quote : Char} (delimits : StringLiteral.IsQuote quote)
    {text value : List Char}
    (read : StringLiteral.Body.scan quote ⟨0, quote :: text⟩ ⟨⟨1, text⟩, [], []⟩ =
      ⟨Cursor.past ⟨1, text⟩ text [], value.reverse, []⟩) (mode : Mode) :
    parse mode (quote :: text) = .tree (.literalProgram (String.ofList value)
      (String.ofList (quote :: text)) (Text.byteLength (quote :: text))) := by
  rw [parse, parseText, Lexeme.ofText_literal delimits read]
  rfl

/-- One with a fault is rejected because of the first one. -/
theorem parse_strict_literal {quote : Char} (delimits : StringLiteral.IsQuote quote)
    {text value : List Char} {fault : Diagnostic} {diagnostics : List Diagnostic}
    (read : StringLiteral.Body.scan quote ⟨0, quote :: text⟩ ⟨⟨1, text⟩, [], []⟩ =
      ⟨Cursor.past ⟨1, text⟩ text [], value.reverse, fault :: diagnostics⟩)
    (fatal : fault.fault.isFatal = true) :
    parse .strict (quote :: text) = .rejected (fault.locate (.ofText (quote :: text))) := by
  rw [parse, parseText, Lexeme.ofText_literal delimits read, parseLexemes]
  show ((Progress.passDiagnostics _ (fault :: diagnostics) _).andThen _).result.1 = _
  rw [Progress.passDiagnostics, fatal]
  rfl

/-- CODE UNITS: a literal that writes each code unit of a string by itself is read as the
    characters of one unit in the string, and each half of a pair is reported.  It is read as
    the string, nothing is reported, and the program that consists of it is accepted, each of
    them exactly if the string has no pair. -/
theorem lex_codeUnits {quote : Char} (delimits : StringLiteral.IsQuote quote)
    {value text : List Char}
    (h : StringLiteral.EncodesUnits quote (value.flatMap Character.codeUnits) text) :
    let source := quote :: text
    let length := Text.byteLength source
    let basic := value.filter (Character.utf16Units · == 1)
    let faults := StringLiteral.surrogateFaults 1 (value.flatMap Character.codeUnits)
    lex source =
      ⟨[⟨.string (String.ofList basic), ⟨0, length⟩, false, String.ofList source⟩,
        ⟨.endOfInput, .point length, false, ""⟩], [], faults⟩ ∧
      (faults = [] ↔ ∀ c ∈ value, Character.utf16Units c = 1) ∧
      (basic = value ↔ ∀ c ∈ value, Character.utf16Units c = 1) ∧
      ((∃ program, parse .strict source = .tree program) ↔
        ∀ c ∈ value, Character.utf16Units c = 1) := by
  intro source length basic faults
  -- One scan reads the whole literal and reports a fault for every surrogate.
  have read := h.scan_eq delimits (b := ⟨⟨1, text⟩, [], []⟩) rfl ⟨0, source⟩
  rw [Character.filterMap_ofUnit?, List.append_nil, List.nil_append] at read
  have quiet : faults = [] ↔ ∀ c ∈ value, Character.utf16Units c = 1 :=
    StringLiteral.surrogateFaults_eq_nil.trans Character.forall_not_surrogate
  refine ⟨?_, quiet, ?_, ?_⟩
  · rw [lex, Lexeme.ofText_literal delimits read]
    simp [source, length, basic, faults]
  · simp [basic, List.filter_eq_self]
  · rw [← quiet]
    constructor
    -- A literal with a fault is rejected, and one without is a program.
    · rintro ⟨program, accepted⟩
      cases found : faults with
      | nil => rfl
      | cons fault more =>
          have bad : fault.fault = .badEscape :=
            StringLiteral.fault_of_surrogateFaults (found ▸ List.mem_cons_self)
          rw [show StringLiteral.surrogateFaults _ _ = _ from found] at read
          rw [parse_strict_literal delimits read (by rw [bad]; rfl)] at accepted
          cases accepted
    · intro none
      rw [show StringLiteral.surrogateFaults _ _ = _ from none] at read
      exact ⟨_, parse_literal delimits read .strict⟩

/-- Of an emoji and a letter the letter is read, and the emoji reported twice. -/
theorem lex_codeUnits_pair :
    let text := ['\\', 'u', 'D', '8', '3', 'd', '\\', 'u', 'd', 'E', '0', '0',
      '\\', 'u', '0', '0', '6', '1', '"']
    StringLiteral.IsQuote '"' ∧
      StringLiteral.EncodesUnits '"' (['😀', 'a'].flatMap Character.codeUnits) text ∧
      lex ('"' :: text) =
        ⟨[⟨.string "a", ⟨0, 20⟩, false, "\"\\uD83d\\udE00\\u0061\""⟩,
          ⟨.endOfInput, .point 20, false, ""⟩], [],
          [⟨.badEscape, ⟨1, 7⟩, .unexpected⟩, ⟨.badEscape, ⟨7, 13⟩, .unexpected⟩]⟩ ∧
      ¬ ∃ program, parse .strict ('"' :: text) = .tree program := by
  intro text
  have high : Hexadecimal ['D', '8', '3', 'd'] 0xd83d := ⟨by decide, [13, 8, 3, 13], by decide, rfl⟩
  have low : Hexadecimal ['d', 'E', '0', '0'] 0xde00 := ⟨by decide, [13, 14, 0, 0], by decide, rfl⟩
  have letter : Hexadecimal ['0', '0', '6', '1'] 0x61 := ⟨by decide, [0, 0, 6, 1], by decide, rfl⟩
  have written : StringLiteral.EncodesUnits '"' (['😀', 'a'].flatMap Character.codeUnits) text :=
    .unit high rfl (.unit low rfl (.unit letter rfl .closed))
  obtain ⟨read, -, -, accepted⟩ := lex_codeUnits (.inl rfl) written
  refine ⟨.inl rfl, written, read.trans (by decide +kernel), fun program => ?_⟩
  exact absurd (accepted.mp program '😀' List.mem_cons_self) (by decide)

/-- A single pair is neither decoded nor accepted. -/
theorem not_decoded_pair : ¬ ∀ (quote : Char) (value text : List Char),
    StringLiteral.IsQuote quote →
      StringLiteral.EncodesUnits quote (value.flatMap Character.codeUnits) text →
      (lex (quote :: text)).diagnostics = [] ∧
        (lex (quote :: text)).tokens.head?.map Token.kind = some (.string (String.ofList value)) ∧
        ∃ program, parse .strict (quote :: text) = .tree program := by
  intro decoded
  have high : Hexadecimal ['d', '8', '3', 'd'] 0xd83d := ⟨by decide, [13, 8, 3, 13], by decide, rfl⟩
  have low : Hexadecimal ['d', 'e', '0', '0'] 0xde00 := ⟨by decide, [13, 14, 0, 0], by decide, rfl⟩
  have written : StringLiteral.EncodesUnits '\'' (['😀'].flatMap Character.codeUnits)
      ['\\', 'u', 'd', '8', '3', 'd', '\\', 'u', 'd', 'e', '0', '0', '\''] :=
    .unit high rfl (.unit low rfl .closed)
  obtain ⟨clean, -, -⟩ := decoded '\'' _ _ (.inr rfl) written
  exact absurd clean (by decide +kernel)

end ScriptTree

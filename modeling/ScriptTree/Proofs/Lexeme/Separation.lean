import Mathlib.Tactic.IntervalCases
import ScriptTree.Proofs.Lexeme.Naming
import ScriptTree.Proofs.Lexeme.Step

/-! # Separation — where a word ends whatever comes behind it

    A scanner stops where its word cannot go on.  No word but those between delimiters
    goes on with white space, so one that ends in front of some text ends in front of
    white space and of nothing as well, and white space at the far end of the text changes
    nothing.  Names and punctuators, which have no other end than that, are read alike in
    front of any such text. -/

namespace ScriptTree

/-! ## What separates words -/

namespace Character

/-- A character that stands between tokens by itself. -/
def isSeparator (x : Char) : Bool := isBlank x || isLineTerminator x

/-- The separators, one by one. -/
def separators : List Char :=
  ['\t', '\x0b', '\x0c', ' ', '\u00a0', '\ufeff', '\u1680', '\u2000', '\u2001', '\u2002', '\u2003',
   '\u2004', '\u2005', '\u2006', '\u2007', '\u2008', '\u2009', '\u200a', '\u202f', '\u205f',
   '\u3000', '\n', '\r', '\u2028', '\u2029']

/-- There are only so many separators. -/
theorem mem_separators {x : Char} (h : isSeparator x = true) : x ∈ separators := by
  simp only [isSeparator, isBlank, isLineTerminator, Bool.or_eq_true, Bool.and_eq_true,
    decide_eq_true_eq, beq_iff_eq, or_assoc] at h
  obtain rfl | rfl | rfl | rfl | rfl | rfl | rfl | ⟨low, high⟩ | rfl | rfl | rfl | rfl | rfl |
    rfl | rfl := h
  case inr.inr.inr.inr.inr.inr.inr.inl =>
    rw [Char.le_def, UInt32.le_iff_toNat_le] at low high
    change 0x2000 ≤ x.toNat at low
    change x.toNat ≤ 0x200a at high
    rw [← Char.ofNat_toNat x]
    generalize x.toNat = code at low high
    interval_cases code <;> decide
  all_goals decide

/-- A test that all of them fail, one by one. -/
theorem eq_false_of_isSeparator {f : Char → Bool} {x : Char}
    (all : (separators.all fun x => !f x) = true) (h : isSeparator x = true) : f x = false := by
  simpa using List.all_eq_true.mp all x (mem_separators h)

/-- No separator is part of a name. -/
theorem isIdentifierPart_separator {x : Char} (h : isSeparator x = true) :
    isIdentifierPart x = false :=
  eq_false_of_isSeparator (by decide +kernel) h

/-- No separator is a digit in any radix. -/
theorem isDigitOf_separator {radix : Nat} {x : Char} (h : isSeparator x = true) :
    isDigitOf radix x = false :=
  eq_false_of_isSeparator (by simp [separators, isDigitOf, digit?]) h

end Character

namespace Text

variable {rest other text : List Char}

/-- A word that ends in front of the first text ends in front of the second one as well: it
    begins with a separator or is empty, or only separators were put behind the first. -/
inductive Beside (rest : List Char) : List Char → Prop where
  | parted {other : List Char} (gap : other.head?.all Character.isSeparator = true) :
    Beside rest other
  | longer {more : List Char} (gap : ∀ x ∈ more, Character.isSeparator x = true) :
    Beside rest (rest ++ more)

/-- What no separator continues and the first text does not continue, the second one does
    not continue. -/
def StopsLike (rest other : List Char) : Prop :=
  ∀ p : Char → Bool, (∀ x, Character.isSeparator x = true → p x = false) →
    rest.head?.any p = false → other.head?.any p = false

/-- A text beside another stops what the other one stops. -/
theorem Beside.stops (h : Beside rest other) : StopsLike rest other := by
  intro p plain stops
  cases h with
  | parted gap =>
      cases other with
      | nil => rfl
      | cons x _ => exact plain x gap
  | @longer more gap =>
      cases rest with
      | cons x _ => exact stops
      | nil =>
          cases more with
          | nil => rfl
          | cons x _ => exact plain x (gap x List.mem_cons_self)

/-- The first character decides what stops. -/
theorem StopsLike.cons {x : Char} : StopsLike (x :: rest) (x :: other) := fun _ _ stops => stops

/-- Both texts may be put behind the same characters. -/
theorem StopsLike.append (h : StopsLike rest other) (text : List Char) :
    StopsLike (text ++ rest) (text ++ other) := by
  cases text with
  | nil => exact h
  | cons x text => exact .cons

end Text

/-! ## Places behind a text -/

namespace Cursor

variable {c d e : Cursor} {s t text rest other : List Char} {p : Char → Bool}

/-- Behind the text, with the rest ahead. -/
def past (c : Cursor) (text rest : List Char) : Cursor := ⟨c.offset + Text.byteLength text, rest⟩

/-- Behind a text lies what is told to lie there. -/
@[simp] theorem past_rest : (c.past text rest).rest = rest := rfl

/-- The character ahead is the first of it. -/
@[simp] theorem past_peek? : (c.past text rest).peek? = rest.head? := rfl

/-- Going past one text and then another is going past both. -/
@[simp] theorem past_past : (c.past s rest).past t other = c.past (s ++ t) other := by
  simp [past, Nat.add_assoc]

/-- Going on by one character. -/
@[simp] theorem next_past {x : Char} : (c.past s (x :: rest)).next = c.past (s ++ [x]) rest := by
  simp [past, next, Nat.add_assoc]

/-- The text that is gone past reaches the place. -/
theorem reachesBy_past (here : c.rest = text ++ rest) : c.ReachesBy (c.past text rest) text :=
  ⟨here, rfl⟩

/-- At most one text lies between two places. -/
theorem ReachesBy.unique (h : c.ReachesBy d s) (k : c.ReachesBy d t) : s = t :=
  List.append_cancel_right (h.1.symm.trans k.1)

/-- A place behind the first character is reached from there by the other characters. -/
theorem ReachesBy.behind {x : Char} (reach : c.ReachesBy e text) (first : c.rest = x :: rest)
    (onward : c.next.Reaches e) : ∃ more, text = x :: more ∧ c.next.ReachesBy e more := by
  obtain ⟨more, onward⟩ := onward
  exact ⟨more, reach.unique ((ReachesBy.next first).trans onward), onward⟩

/-- Where nothing is read, nothing is read at another place either. -/
theorem ReachesBy.stays (reach : c.ReachesBy c text) (here : d.rest = text ++ rest) :
    d = d.past text rest := by
  obtain rfl := reach.unique (⟨rfl, rfl⟩ : c.ReachesBy c [])
  obtain ⟨place, chars⟩ := d
  obtain rfl : chars = rest := here
  rfl

/-- The next place is past the first character. -/
theorem next_eq_past {x : Char} (here : c.rest = x :: rest) : c.next = c.past [x] rest := by
  obtain ⟨offset, chars⟩ := c
  obtain rfl : chars = x :: rest := here
  simp [next, past]

/-- Skipping as many characters as a text has is going past it. -/
theorem skip_eq_past (here : c.rest = text ++ rest) :
    c.skip text.length = c.past text rest := by
  induction text generalizing c with
  | nil =>
      obtain ⟨offset, chars⟩ := c
      obtain rfl : chars = rest := here
      rfl
  | cons x text ih =>
      rw [List.length_cons, skip, next_eq_past here, ih rfl, past_past, List.singleton_append]

/-- So it is for two characters. -/
theorem skip_two_eq_past {x y : Char} (here : c.rest = x :: y :: rest) :
    c.skip 2 = c.past [x, y] rest :=
  @skip_eq_past c [x, y] rest here

/-- Going past nothing leads nowhere. -/
theorem past_nil (here : c.rest = rest) : c.past [] rest = c :=
  (@skip_eq_past c [] rest here).symm

/-- A character that is seen ahead is the first of what is left. -/
theorem rest_of_peek? {x : Char} (h : c.peek? = some x) : ∃ rest, c.rest = x :: rest := by
  obtain ⟨offset, chars⟩ := c
  cases chars with
  | nil => cases h
  | cons y rest => exact ⟨rest, congrArg (· :: rest) (Option.some.inj h)⟩

/-- Between a place and the one past a text, the text is read. -/
theorem textTo_past (here : c.rest = text ++ rest) : c.textTo (c.past text rest) = text :=
  textTo_eq (reachesBy_past here)

/-- So it is from a place that is past a text already. -/
@[simp] theorem past_textTo : (c.past s (t ++ rest)).textTo (c.past (s ++ t) rest) = t := by
  rw [← past_past]
  exact textTo_past rfl

/-- Skipping goes over what has the property, up to what has not. -/
theorem skipWhile_parts (p : Char → Bool) (c : Cursor) : ∃ text rest, c.rest = text ++ rest ∧
    c.skipWhile p = c.past text rest ∧ (∀ x ∈ text, p x = true) ∧ rest.head?.any p = false := by
  obtain ⟨offset, chars⟩ := c
  induction chars generalizing offset with
  | nil => exact ⟨[], [], rfl, rfl, nofun, rfl⟩
  | cons x chars ih =>
      cases goes : p x with
      | false =>
          refine ⟨[], x :: chars, rfl, ?_, nofun, goes⟩
          simp [skipWhile, skipFrom, goes, past]
      | true =>
          obtain ⟨text, rest, here, stop, all, stops⟩ := ih (offset + x.utf8Size)
          refine ⟨x :: text, rest, congrArg (x :: ·) here, ?_, ?_, stops⟩
          · have first : skipWhile p ⟨offset, x :: chars⟩ =
                skipWhile p ⟨offset + x.utf8Size, chars⟩ := by
              simp [skipWhile, skipFrom, goes]
            rw [first, stop]
            simp [past, Nat.add_assoc]
          · exact List.forall_mem_cons.mpr ⟨goes, all⟩

/-- Characters are skipped up to the first that does not belong to them. -/
theorem skipWhile_eq (here : c.rest = text ++ rest) (all : ∀ x ∈ text, p x = true)
    (stops : rest.head?.any p = false) : c.skipWhile p = c.past text rest := by
  obtain ⟨offset, chars⟩ := c
  obtain rfl : chars = text ++ rest := here
  induction text generalizing offset with
  | nil =>
      cases rest with
      | nil => rfl
      | cons x rest =>
          have goes : p x = false := stops
          simp [skipWhile, skipFrom, goes, past]
  | cons x text ih =>
      obtain ⟨goes, all⟩ := List.forall_mem_cons.mp all
      have behind := ih all (offset + x.utf8Size)
      simp only [skipWhile] at behind
      simp [skipWhile, skipFrom, goes, behind, past, Nat.add_assoc]

/-- So they are from a place that is past a text already. -/
theorem skipWhile_past (all : ∀ x ∈ text, p x = true) (stops : rest.head?.any p = false) :
    (c.past s (text ++ rest)).skipWhile p = c.past (s ++ text) rest := by
  rw [skipWhile_eq rfl all stops, past_past]

/-- From another cursor skipping goes over the same. -/
theorem skipWhile_beside (reach : c.ReachesBy (c.skipWhile p) text)
    (here : d.rest = text ++ other) (stops : other.head?.any p = false) :
    d.skipWhile p = d.past text other := by
  obtain ⟨read, rest, there, stop, all, -⟩ := skipWhile_parts p c
  rw [stop] at reach
  obtain rfl := reach.unique (reachesBy_past there)
  exact skipWhile_eq here all stops

end Cursor

/-! ## Names and punctuators -/

section

variable {c d : Cursor} {text rest other : List Char} {w : Scanned}

/-- A word ends behind its identifier characters. -/
theorem Scanner.scanWord_cursor (c : Cursor) :
    (scanWord c).cursor = c.skipWhile Character.isIdentifierPart := by
  simp only [scanWord]
  split <;> rfl

/-- A name ends where no part of one follows. -/
theorem Scanner.scanWord_stops (c : Cursor) :
    (scanWord c).cursor.rest.head?.any Character.isIdentifierPart = false := by
  obtain ⟨text, rest, -, stop, -, stops⟩ := Cursor.skipWhile_parts Character.isIdentifierPart c
  rw [scanWord_cursor, stop]
  exact stops

/-- A word is read alike in front of another text that does not lengthen it. -/
theorem Scanner.scanWord_beside (reach : c.ReachesBy (scanWord c).cursor text)
    (stops : other.head?.any Character.isIdentifierPart = false) (here : d.rest = text ++ other) :
    scanWord d = ⟨(scanWord c).kind, d.past text other, []⟩ := by
  rw [scanWord_cursor] at reach
  have last := Cursor.skipWhile_beside reach here stops
  have read := Cursor.textTo_eq reach
  simp only [scanWord, last, Cursor.textTo_past here, read]
  split <;> rfl

namespace Punctuator

/-- No punctuator is written with a separator. -/
theorem spelling_separator (p : Punctuator) :
    ∀ x ∈ p.spelling.toList, Character.isSeparator x = false := by
  have all : (p.spelling.toList.all fun x => !Character.isSeparator x) = true := by
    cases p <;> decide
  simpa using all

/-- A text without separators that another text begins with ends in front of the first one. -/
theorem prefix_of_separator {written : List Char}
    (free : ∀ x ∈ written, Character.isSeparator x = false)
    (gap : other.head?.all Character.isSeparator = true) (h : written <+: text ++ other) :
    written <+: text := by
  obtain ⟨tail, same⟩ := h
  rcases List.append_eq_append_iff.mp same with ⟨more, rfl, -⟩ | ⟨more, rfl, rfl⟩
  · exact List.prefix_append _ _
  · cases more with
    | nil => simp
    | cons x more =>
        have part := free x (by simp)
        rw [show Character.isSeparator x = true from gap] at part
        cases part

/-- The longest punctuator does not grow. -/
theorem ofText?_beside {p : Punctuator} (h : ofText? (p.spelling.toList ++ rest) = some p)
    (beside : Text.Beside rest other) : ofText? (p.spelling.toList ++ other) = some p := by
  obtain ⟨-, before, after, all, none⟩ := List.find?_eq_some_iff_append.mp h
  refine List.find?_eq_some_iff_append.mpr ⟨?_, before, after, all, fun q hq => ?_⟩
  · simp
  have longer := none q hq
  rw [Bool.not_eq_true', Bool.eq_false_iff, Ne, List.isPrefixOf_iff_prefix] at longer ⊢
  intro begins
  refine longer ?_
  cases beside with
  | parted gap =>
      exact (prefix_of_separator q.spelling_separator gap begins).trans (List.prefix_append _ _)
  | @longer more gap =>
      rw [← List.append_assoc] at begins
      refine prefix_of_separator q.spelling_separator ?_ begins
      cases more with
      | nil => rfl
      | cons x _ => exact gap x List.mem_cons_self

end Punctuator

/-- A punctuator is read alike in front of another text that does not lengthen it. -/
theorem Scanner.scanPunctuator?_beside (h : scanPunctuator? c = some w)
    (reach : c.ReachesBy w.cursor text) (beside : Text.Beside w.cursor.rest other)
    (here : d.rest = text ++ other) : scanPunctuator? d = some ⟨w.kind, d.past text other, []⟩ := by
  obtain ⟨mark, found, rfl⟩ := Option.map_eq_some_iff.mp h
  have begins : mark.spelling.toList <+: c.rest := by
    have written := List.find?_some found
    rwa [List.isPrefixOf_iff_prefix] at written
  obtain ⟨rest, split⟩ := begins
  have last : c.skip mark.spelling.length = c.past mark.spelling.toList rest :=
    Cursor.skip_eq_past split.symm
  rw [last] at reach beside
  obtain rfl := reach.unique (Cursor.reachesBy_past split.symm)
  rw [← split] at found
  rw [scanPunctuator?, here, Punctuator.ofText?_beside found beside, Option.map_some]
  exact congrArg some (congrArg (Scanned.mk _ · []) (Cursor.skip_eq_past here))

end

/-! ## Trivia -/

namespace Trivia

variable {t u : Trivia} {x : Char} {chars more rest other : List Char}

/-- The character makes a comment of a slash in front of it. -/
def opensComment (y : Char) : Bool := y == '/' || y == '*'

/-- No trivia begins with a character that is no separator and opens no comment. -/
theorem step?_eq_none (here : t.cursor.rest = x :: chars) : t.step? = none ↔
    Character.isSeparator x = false ∧ (x ≠ '/' ∨ chars.head?.any opensComment = false) := by
  rw [step?, Character.isSeparator, Bool.or_eq_false_iff]
  split
  · rename_i none
    rw [here] at none
    cases none
  · rename_i there
    obtain ⟨rfl, rfl⟩ := List.cons.inj (here.symm.trans there)
    simp [opensComment]
  · rename_i there
    obtain ⟨rfl, rfl⟩ := List.cons.inj (here.symm.trans there)
    simp [opensComment]
  · rename_i y tail noLine noBlock there
    obtain ⟨rfl, rfl⟩ := List.cons.inj (here.symm.trans there)
    -- A slash that opens no comment is decided by the character behind it, if there is one.
    have plain : x ≠ '/' ∨ chars.head?.any opensComment = false := by
      by_cases slash : x = '/'
      · right
        cases chars with
        | nil => rfl
        | cons y tail =>
          have one : y ≠ '/' := fun same => noLine tail slash (by rw [same])
          have two : y ≠ '*' := fun same => noBlock tail slash (by rw [same])
          simp [opensComment, one, two]
      · exact .inl slash
    split
    · simp [*]
    · split <;> simp [*]

/-- A separator is a piece of trivia by itself. -/
theorem step?_separator (here : t.cursor.rest = x :: rest)
    (gap : Character.isSeparator x = true) : t.step? =
      some { t with
        cursor := t.cursor.past [x] rest
        newline := t.newline || Character.isLineTerminator x } := by
  have plain : x ≠ '/' := by
    rintro rfl
    cases gap
  rw [step?, ← Cursor.next_eq_past here, here]
  cases line : Character.isLineTerminator x with
  | true => simp [plain, line]
  | false =>
      rw [Character.isSeparator, line, Bool.or_false] at gap
      simp [plain, line, gap]

/-- What is no trivia in front of one text is none in front of the other. -/
theorem step?_beside (here : t.cursor.rest = x :: (more ++ rest)) (h : t.step? = none)
    (like : Text.StopsLike rest other) (there : u.cursor.rest = x :: (more ++ other)) :
    u.step? = none := by
  rw [step?_eq_none here] at h
  rw [step?_eq_none there]
  exact h.imp_right fun h => h.imp_right
    (like.append more _ fun _ => Character.eq_false_of_isSeparator (by decide))

end Trivia

end ScriptTree

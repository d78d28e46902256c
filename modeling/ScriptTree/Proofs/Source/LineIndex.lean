import ScriptTree.Source.LineIndex
import ScriptTree.Proofs.Source.LineBreak

/-! # The line index — line and column of every offset

    A search by halving finds where a row is cut whose entries satisfy a condition up to
    some place and nowhere behind it.  Both rows of a line index are of this kind: the
    line starts are the start of the text and the ends of its line breaks, and the
    entries for wide characters say how far bytes and characters are apart.  So an offset
    cuts both rows where it parts the text, the last entry in front of the cut is the
    start of its line, and what the wide characters take beyond one byte each cancels
    out: the column is the number of characters between the two.

    Both are told in 32 bits.  No line is longer than its text, and a text has at most as
    many line breaks as bytes, so up to the offset `2 ^ 32 - 2` nothing is lost; at the
    next one the line wraps around if all bytes in front of it end lines. -/

namespace ScriptTree

/-! ## Searching by halving -/

section Search

variable {α : Type} {entries : Array α} {p : α → Bool} {front back : List α}

/-- The search between two places finds the cut that lies between them. -/
theorem partitionPoint.go_eq {low high cut : Nat} (below : low ≤ cut) (above : cut ≤ high)
    (inside : high ≤ entries.size)
    (cuts : ∀ i entry, entries[i]? = some entry → (p entry = true ↔ i < cut)) :
    partitionPoint.go entries p low high = cut := by
  -- Each half that is gone on with has the cut between its ends.
  fun_induction partitionPoint.go entries p low high with
  | case1 low high between middle entry here yes ih =>
      have := (cuts middle entry here).mp yes
      exact ih (by omega) above inside
  | case2 low high between middle entry here no ih =>
      have : ¬ middle < cut := mt (cuts middle entry here).mpr no
      exact ih below (by omega) (by omega)
  | case3 low high between middle none =>
      rw [Array.getElem?_eq_none_iff] at none
      omega
  | case4 low high done => omega

/-- The search stays below its upper end. -/
theorem partitionPoint.go_le {low high : Nat} (between : low ≤ high) :
    partitionPoint.go entries p low high ≤ high := by
  fun_induction partitionPoint.go entries p low high with
  | case1 low high _ middle _ _ _ ih => exact ih (by omega)
  | case2 low high _ middle _ _ _ ih => exact Nat.le_trans (ih (by omega)) (by omega)
  | case3 low high _ _ _ => exact between
  | case4 low high _ => exact between

/-- In a row that falls into entries which satisfy the condition and entries which do
    not, the search finds where. -/
theorem partitionPoint_eq (parts : entries.toList = front ++ back)
    (yes : ∀ entry ∈ front, p entry = true) (no : ∀ entry ∈ back, p entry = false) :
    partitionPoint entries p = front.length := by
  have size : entries.size = front.length + back.length := by
    rw [← Array.length_toList, parts, List.length_append]
  refine partitionPoint.go_eq (Nat.zero_le _) (by omega) (Nat.le_refl _) ?_
  intro i entry here
  rw [← Array.getElem?_toList, parts] at here
  by_cases before : i < front.length
  · rw [List.getElem?_append_left before] at here
    exact ⟨fun _ => before, fun _ => yes entry (List.mem_of_getElem? here)⟩
  · rw [List.getElem?_append_right (by omega)] at here
    have fails := no entry (List.mem_of_getElem? here)
    constructor
    · intro holds
      rw [fails] at holds
      cases holds
    · intro low
      exact absurd low before

/-- The entry in front of the cut is the last one that satisfies the condition. -/
theorem getElem?_pred_length (parts : entries.toList = front ++ back) (some : front ≠ []) :
    entries[front.length - 1]? = front.getLast? := by
  have := List.length_pos_iff.mpr some
  rw [← Array.getElem?_toList, parts, List.getElem?_append_left (by omega),
    List.getLast?_eq_getElem?]

end Search

/-! ## What the index holds -/

/-- The bytes that the characters of a text take beyond one each. -/
def Text.excess : List Char → Nat
  | [] => 0
  | c :: rest => (c.utf8Size - 1) + excess rest

/-- Excess bytes add up. -/
theorem Text.excess_append (a b : List Char) : excess (a ++ b) = excess a + excess b := by
  induction a with
  | nil => exact (Nat.zero_add _).symm
  | cons c rest ih => rw [List.cons_append, excess, excess, ih, Nat.add_assoc]

/-- A text has a byte for each character, and its excess. -/
theorem Text.byteLength_eq_add_excess (text : List Char) :
    byteLength text = text.length + excess text := by
  induction text with
  | nil => rfl
  | cons c rest ih =>
      have := c.utf8Size_pos
      rw [byteLength_cons, excess, List.length_cons, ih]
      omega

namespace LineIndex

open Text

/-- The entries for the wide characters of a text that begins at `offset`, behind
    characters that took `extra` bytes beyond one each. -/
def wideOf (offset extra : Nat) : List Char → List WideCharacter
  | [] => []
  | c :: rest =>
    (if c.utf8Size > 1 then [⟨offset + c.utf8Size, extra + (c.utf8Size - 1)⟩] else []) ++
      wideOf (offset + c.utf8Size) (extra + (c.utf8Size - 1)) rest

/-- Entries are made where wide characters end. -/
theorem map_stop_wideOf (offset extra : Nat) (text : List Char) :
    (wideOf offset extra text).map WideCharacter.stop =
      endsOf (fun c _ => c.utf8Size > 1) offset text := by
  induction text generalizing offset extra with
  | nil => rfl
  | cons c rest ih =>
      rw [wideOf, endsOf_cons, List.map_append, ih]
      by_cases wide : c.utf8Size > 1 <;> simp [wide]

/-- The wide characters of the second part lie behind those of the first. -/
theorem wideOf_append (offset extra : Nat) (before behind : List Char) :
    wideOf offset extra (before ++ behind) = wideOf offset extra before ++
      wideOf (offset + byteLength before) (extra + excess before) behind := by
  induction before generalizing offset extra with
  | nil => rfl
  | cons c rest ih =>
      rw [List.cons_append, wideOf, wideOf, ih, byteLength_cons, excess, Nat.add_assoc,
        Nat.add_assoc, List.append_assoc]

/-- The last entry knows what all characters up to it have taken. -/
theorem elim_getLast?_wideOf (offset extra : Nat) (text : List Char) :
    (wideOf offset extra text).getLast?.elim extra WideCharacter.extra =
      extra + excess text := by
  induction text generalizing offset extra with
  | nil => rfl
  | cons c rest ih =>
      have later := ih (offset + c.utf8Size) (extra + (c.utf8Size - 1))
      rw [wideOf, excess, ← Nat.add_assoc, ← later]
      split
      · rw [List.singleton_append, List.getLast?_cons]
        cases (wideOf _ _ rest).getLast? <;> rfl
      · rename_i narrow
        have : c.utf8Size - 1 = 0 := by omega
        rw [this, Nat.add_zero, List.nil_append]

/-- Reading on, the index grows by the line breaks and the wide characters read. -/
theorem scan_eq (offset extra : Nat) (starts : Array Nat) (wide : Array WideCharacter)
    (text : List Char) : scan offset extra starts wide text =
      ⟨starts ++ (endsOf endsLine offset text).toArray,
        wide ++ (wideOf offset extra text).toArray, offset + byteLength text⟩ := by
  fun_induction scan offset extra starts wide text with
  | case1 offset extra starts wide => simp [endsOf, wideOf]
  | case2 offset extra starts wide rest ih =>
      -- A CR before an LF ends no line, and the LF behind it is skipped in the same step.
      have cr : ('\r' : Char).utf8Size = 1 := rfl
      have lf : ('\n' : Char).utf8Size = 1 := rfl
      have first : endsLine '\r' ('\n' :: rest) = false := rfl
      have second : endsLine '\n' rest = true := rfl
      rw [ih]
      simp [endsOf_cons, wideOf, cr, lf, first, second, ← Nat.add_assoc]
  | case3 offset extra starts wide c rest other width next extra' wide' starts' ih =>
      -- Any other character is judged by itself.
      have ends : endsLine c rest =
          (c == '\n' || c == '\r' || c == '\u2028' || c == '\u2029') :=
        endsLine_of_not_pair other
      rw [ih, mk.injEq]
      refine ⟨?_, ?_, ?_⟩
      · rw [endsOf_cons, ends]
        simp only [starts']
        split <;> simp [next, width]
      · rw [wideOf]
        simp only [wide']
        split <;> simp [next, width, extra']
      · rw [byteLength_cons, ← Nat.add_assoc]

variable (text : List Char)

/-- Lines start at the front and behind each line break. -/
theorem toList_lineStarts_ofText :
    (ofText text).lineStarts.toList = 0 :: lineBreaks text := by
  rw [ofText, scan_eq]
  simp [lineBreaks]

/-- The index holds all wide characters. -/
theorem toList_wideCharacters_ofText :
    (ofText text).wideCharacters.toList = wideOf 0 0 text := by
  rw [ofText, scan_eq]
  simp

/-- It holds the length in bytes. -/
theorem length_ofText : (ofText text).length = byteLength text := by
  rw [ofText, scan_eq]
  simp

/-! ## What the index answers -/

/-- The line of an offset, from one. -/
def lineNumber (index : LineIndex) (offset : Nat) : Nat :=
  partitionPoint index.lineStarts fun start => start ≤ offset

/-- Where the line of an offset begins. -/
def startOfLine (index : LineIndex) (offset : Nat) : Nat :=
  index.lineStarts[index.lineNumber offset - 1]?.getD 0

/-- Past the end an offset means the end. -/
theorem lineColumn_min (index : LineIndex) (offset : Nat) :
    index.lineColumn (min offset index.length) = index.lineColumn offset := by
  rw [lineColumn, Nat.min_assoc, Nat.min_self]
  rfl

/-- Inside the text, line and column are looked up at the offset itself. -/
theorem lineColumn_of_le {index : LineIndex} {offset : Nat} (inside : offset ≤ index.length) :
    index.lineColumn offset = ⟨UInt32.ofNat (index.lineNumber offset - 1) + 1,
      UInt32.ofNat (offset - index.startOfLine offset - (index.extraBytesBefore offset -
        index.extraBytesBefore (index.startOfLine offset)))⟩ := by
  rw [lineColumn, Nat.min_eq_left inside]
  rfl

section Parts

variable {before behind : List Char} {offset : Nat}

/-- The wide characters up to the offset are those of the first part. -/
theorem extraBytesBefore_ofText (parts : Parts before behind offset) :
    (ofText (before ++ behind)).extraBytesBefore offset = excess before := by
  have rows := toList_wideCharacters_ofText (before ++ behind)
  rw [wideOf_append] at rows
  have yes : ∀ w ∈ wideOf 0 0 before, decide (w.stop ≤ offset) = true := by
    intro w there
    have ends := List.mem_map_of_mem (f := WideCharacter.stop) there
    rw [map_stop_wideOf] at ends
    exact decide_eq_true (parts.le_of_mem ends)
  have no : ∀ w ∈ wideOf (0 + byteLength before) (0 + excess before) behind,
      decide (w.stop ≤ offset) = false := by
    intro w there
    have ends := List.mem_map_of_mem (f := WideCharacter.stop) there
    rw [map_stop_wideOf] at ends
    exact decide_eq_false (Nat.not_le.mpr (parts.lt_of_mem ends))
  -- The search stops behind the last entry of the first part, which knows the sum.
  have last := elim_getLast?_wideOf 0 0 before
  rw [Nat.zero_add] at last
  rw [extraBytesBefore, partitionPoint_eq rows yes no, ← last]
  generalize wideOf 0 0 before = front at rows
  cases front with
  | nil => rfl
  | cons w more =>
      have entry := getElem?_pred_length rows (List.cons_ne_nil w more)
      rw [List.length_cons, Nat.add_sub_cancel] at entry
      rw [List.length_cons]
      simp only [entry]
      cases (w :: more).getLast? <;> rfl

/-- The line of an offset is counted by the line breaks up to it, and begins behind the
    last of them. -/
theorem lineNumber_ofText (parts : Parts before behind offset) :
    let text := before ++ behind
    (ofText text).lineNumber offset = 1 + (lineBreaks text).countP (· ≤ offset) ∧
      (ofText text).startOfLine offset = lineStart text offset := by
  intro text
  have rows := toList_lineStarts_ofText text
  have ended := parts.filter_endsOf endsLine
  rw [lineBreaks, endsOf_append, ← ended, ← List.cons_append] at rows
  have number : (ofText text).lineNumber offset =
      (0 :: (lineBreaks text).filter (· ≤ offset)).length := by
    refine partitionPoint_eq rows ?_ ?_
    · intro start there
      rcases List.mem_cons.mp there with rfl | there
      · exact decide_eq_true (Nat.zero_le offset)
      · exact (List.mem_filter.mp there).2
    · intro start there
      exact decide_eq_false (Nat.not_le.mpr (parts.lt_of_mem there))
  constructor
  · rw [number, List.length_cons, List.countP_eq_length_filter, Nat.add_comm]
  · have entry := getElem?_pred_length rows (List.cons_ne_nil _ _)
    rw [List.getLast?_cons] at entry
    have start := congrArg (Option.getD · 0) entry
    rw [startOfLine, number, lineStart, List.getLastD_eq_getLast?]
    exact start

/-- The line of an offset begins in the first part. -/
theorem exists_lineStart (parts : Parts before behind offset) : ∃ earlier line,
    before = earlier ++ line ∧ lineStart (before ++ behind) offset = byteLength earlier := by
  have last : lineStart (before ++ behind) offset ∈
      0 :: (lineBreaks (before ++ behind)).filter (· ≤ offset) := List.getLastD_mem_cons
  rw [lineBreaks, parts.filter_endsOf] at last
  rcases List.mem_cons.mp last with first | there
  · exact ⟨[], before, rfl, first⟩
  · obtain ⟨earlier, c, line, whole, -, stop⟩ := mem_endsOf.mp there
    refine ⟨earlier ++ [c], line, ?_, ?_⟩
    · rw [whole, List.append_assoc, List.singleton_append]
    · rw [stop, Nat.zero_add]

/-- Up to the start of the line, the wide characters are those in front of the line. -/
theorem extraBytesBefore_startOfLine (parts : Parts before behind offset) :
    ∃ earlier line, before = earlier ++ line ∧
      lineStart (before ++ behind) offset = byteLength earlier ∧
      (ofText (before ++ behind)).startOfLine offset = byteLength earlier ∧
      (ofText (before ++ behind)).extraBytesBefore (byteLength earlier) = excess earlier := by
  obtain ⟨earlier, line, rfl, start⟩ := exists_lineStart parts
  refine ⟨earlier, line, rfl, start, (lineNumber_ofText parts).2.trans start, ?_⟩
  rw [List.append_assoc]
  exact extraBytesBefore_ofText (parts_boundary earlier (line ++ behind))

end Parts

/-- No subtraction on the way to the line and column of an offset goes below zero, and
    every entry that is looked up is there. -/
structure Exact (index : LineIndex) (offset : Nat) : Prop where
  line : 0 < index.lineNumber offset
  entry : index.lineNumber offset ≤ index.lineStarts.size
  wide : ∀ place, partitionPoint index.wideCharacters (fun w => w.stop ≤ place) ≤
    index.wideCharacters.size
  start : index.startOfLine offset ≤ offset
  extra : index.extraBytesBefore (index.startOfLine offset) ≤ index.extraBytesBefore offset
  column : index.extraBytesBefore offset - index.extraBytesBefore (index.startOfLine offset) ≤
    offset - index.startOfLine offset

/-- No look-up in the index fails, and no subtraction goes below zero. -/
theorem exact_ofText (text : List Char) (offset : Nat) : (ofText text).Exact offset := by
  obtain ⟨before, behind, rfl, parts⟩ := exists_parts text offset
  obtain ⟨earlier, line, rfl, -, begins, further⟩ := extraBytesBefore_startOfLine parts
  have here := extraBytesBefore_ofText parts
  have ended := parts.ended
  have bytes := byteLength_eq_add_excess line
  rw [excess_append] at here
  rw [byteLength_append] at ended
  constructor
  · rw [(lineNumber_ofText parts).1]
    omega
  · exact partitionPoint.go_le (Nat.zero_le _)
  · intro place
    exact partitionPoint.go_le (Nat.zero_le _)
  · rw [begins]
    omega
  · rw [here, begins, further]
    omega
  · rw [here, begins, further]
    omega

/-- Taking one off before the line is cut to 32 bits and adding it behind changes nothing. -/
theorem ofNat_pred_add_one {n : Nat} (pos : 0 < n) : UInt32.ofNat (n - 1) + 1 = UInt32.ofNat n := by
  have sum := UInt32.ofNat_add (n - 1) 1
  rw [Nat.sub_add_cancel pos] at sum
  exact sum.symm

/-- The line of any offset is counted by the line breaks up to it. -/
theorem line_lineColumn_ofText (text : List Char) (offset : Nat) :
    ((ofText text).lineColumn offset).line =
      UInt32.ofNat (1 + (lineBreaks text).countP (· ≤ offset)) := by
  rw [← lineColumn_min, lineColumn_of_le (Nat.min_le_right _ _), length_ofText]
  have exact := exact_ofText text (min offset (byteLength text))
  obtain ⟨before, behind, rfl, parts⟩ := exists_parts text (min offset (byteLength text))
  refine (ofNat_pred_add_one exact.line).trans (congrArg UInt32.ofNat ?_)
  refine (lineNumber_ofText parts).1.trans (congrArg (1 + ·) (List.countP_congr ?_))
  intro stop there
  have := le_of_mem_endsOf there
  simp only [decide_eq_true_eq]
  omega

end LineIndex

end ScriptTree

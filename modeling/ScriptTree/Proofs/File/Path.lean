import ScriptTree.File.Path

/-! # Paths that are text

    The encoding of a character is read back as the character: its first byte tells how
    many follow, and the bounds for the second one leave out what no character is
    encoded as.  So a path that is text is shown as it is, and two such paths are shown
    alike only if they are the same. -/

namespace ScriptTree

namespace PartialCharacter

variable {owed low high bits byte : Nat} {rest : List UInt8}

/-- Where no character has begun, a byte is read by itself. -/
theorem decode_first (small : byte < 256) : decode none (UInt8.ofNat byte :: rest) =
    (start byte).1 ++ decode (start byte).2 rest := by
  rw [decode, UInt8.toNat_ofNat_of_lt' small]

/-- The last byte that is owed ends the character. -/
theorem decode_last (within : low ≤ byte ∧ byte ≤ high) (small : byte < 256) :
    decode (some ⟨1, low, high, bits⟩) (UInt8.ofNat byte :: rest) =
      Char.ofNat (64 * bits + (byte - 0x80)) :: decode none rest := by
  rw [decode, UInt8.toNat_ofNat_of_lt' small]
  simp [next, within]

/-- A byte before the last adds its bits. -/
theorem decode_next (within : low ≤ byte ∧ byte ≤ high) (small : byte < 256) :
    decode (some ⟨owed + 2, low, high, bits⟩) (UInt8.ofNat byte :: rest) =
      decode (some ⟨owed + 1, 0x80, 0xBF, 64 * bits + (byte - 0x80)⟩) rest := by
  rw [decode, UInt8.toNat_ofNat_of_lt' small]
  simp [next, within]

/-- The encoding of a character is read as the character. -/
theorem decode_utf8EncodeChar (c : Char) (rest : List UInt8) :
    decode none (String.utf8EncodeChar c ++ rest) = c :: decode none rest := by
  have code : Char.ofNat c.val.toNat = c := Char.ofNat_toNat c
  have valid : c.val.toNat < 0xD800 ∨ 0xDFFF < c.val.toNat ∧ c.val.toNat < 0x110000 := c.valid
  rw [String.utf8EncodeChar]
  generalize c.val.toNat = v at code valid
  -- One case for each number of bytes; the bits that are read add up to the code again.
  by_cases one : v ≤ 0x7F
  · rw [if_pos one, List.singleton_append, decode_first (by omega), start,
      if_pos (by omega), code]
    rfl
  by_cases two : v ≤ 0x7FF
  · rw [if_neg one, if_pos two, List.cons_append, List.singleton_append,
      decode_first (by omega), start, if_neg (by omega), if_neg (by omega), if_pos (by omega)]
    simp only [List.nil_append]
    rw [decode_last (by omega) (by omega)]
    have sum : 64 * (v / 64 % 32 + 192 - 192) + (v % 64 + 128 - 128) = v := by omega
    rw [sum, code]
  by_cases three : v ≤ 0xFFFF
  · rw [if_neg one, if_neg two, if_pos three, List.cons_append, List.cons_append,
      List.singleton_append, decode_first (by omega), start, if_neg (by omega),
      if_neg (by omega), if_neg (by omega), if_pos (by omega)]
    simp only [List.nil_append, beq_iff_eq]
    rw [decode_next ⟨by split <;> omega, by split <;> omega⟩ (by omega),
      decode_last (by omega) (by omega)]
    have sum : 64 * (64 * (v / 4096 % 16 + 224 - 224) + (v / 64 % 64 + 128 - 128)) +
        (v % 64 + 128 - 128) = v := by omega
    rw [sum, code]
  · rw [if_neg one, if_neg two, if_neg three, List.cons_append, List.cons_append,
      List.cons_append, List.singleton_append, decode_first (by omega), start,
      if_neg (by omega), if_neg (by omega), if_neg (by omega), if_neg (by omega),
      if_pos (by omega)]
    simp only [List.nil_append, beq_iff_eq]
    rw [decode_next ⟨by split <;> omega, by split <;> omega⟩ (by omega),
      decode_next (by omega) (by omega), decode_last (by omega) (by omega)]
    have sum : 64 * (64 * (64 * (v / 262144 % 8 + 240 - 240) + (v / 4096 % 64 + 128 - 128)) +
        (v / 64 % 64 + 128 - 128)) + (v % 64 + 128 - 128) = v := by omega
    rw [sum, code]

/-- The bytes of a text are decoded to the text. -/
theorem decode_flatMap (text : List Char) :
    decode none (text.flatMap String.utf8EncodeChar) = text := by
  induction text with
  | nil => rfl
  | cons c text ih => rw [List.flatMap_cons, decode_utf8EncodeChar, ih]

end PartialCharacter

/-- A path that is text is shown as it is. -/
@[simp] theorem FilePath.display_ofText (text : String) : (ofText text).display = text := by
  rw [display, ofText, PartialCharacter.decode_flatMap, String.ofList_toList]

end ScriptTree

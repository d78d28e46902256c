import ScriptTree.Tree.Annotation

/-! # Errors without repeats

    Of several errors with the same place and message the first one is kept.
    Errors that stand in front of a list and at its beginning again are kept
    once, and an error in front of a list takes the place of those that repeat
    it. -/

namespace ScriptTree

/-- An error points at the offset of another and says the same. -/
def SyntaxError.repeats (e f : SyntaxError) : Bool := e.index == f.index && e.message == f.message

namespace Annotations

variable {seen others : List (Nat × String)} {e : SyntaxError} {xs ys : List SyntaxError}

/-- What an error is known by among others. -/
def mark (e : SyntaxError) : Nat × String := (e.index, e.message)

/-- Errors repeat each other if they have one mark. -/
theorem repeats_iff {f : SyntaxError} : e.repeats f = true ↔ mark e = mark f := by
  simp [SyntaxError.repeats, mark]

/-- An error whose mark was seen is left out. -/
theorem withoutRepeats_cons_of_mem (h : mark e ∈ seen) :
    withoutRepeats seen (e :: xs) = withoutRepeats seen xs :=
  if_pos (List.contains_iff_mem.mpr h)

/-- Another one stays, and its mark is seen from then on. -/
theorem withoutRepeats_cons_of_not_mem (h : mark e ∉ seen) :
    withoutRepeats seen (e :: xs) = e :: withoutRepeats (mark e :: seen) xs :=
  if_neg (mt List.contains_iff_mem.mp h)

/-- Only which marks were seen matters. -/
theorem withoutRepeats_congr (h : ∀ m, m ∈ seen ↔ m ∈ others) :
    withoutRepeats seen xs = withoutRepeats others xs := by
  induction xs generalizing seen others with
  | nil => rfl
  | cons e rest ih =>
      by_cases known : mark e ∈ seen
      · rw [withoutRepeats_cons_of_mem known, withoutRepeats_cons_of_mem ((h _).mp known)]
        exact ih h
      · rw [withoutRepeats_cons_of_not_mem known,
          withoutRepeats_cons_of_not_mem (mt (h _).mpr known)]
        exact congrArg (e :: ·) (ih fun m => by simp [h])

/-- The second part of a list is cleared of what the first part has. -/
theorem withoutRepeats_append : withoutRepeats seen (xs ++ ys) =
    withoutRepeats seen xs ++ withoutRepeats (xs.map mark ++ seen) ys := by
  induction xs generalizing seen with
  | nil => rfl
  | cons e rest ih =>
      rw [List.cons_append]
      by_cases known : mark e ∈ seen
      · rw [withoutRepeats_cons_of_mem known, withoutRepeats_cons_of_mem known, ih]
        exact congrArg (_ ++ ·) (withoutRepeats_congr fun m => by grind)
      · rw [withoutRepeats_cons_of_not_mem known, withoutRepeats_cons_of_not_mem known, ih]
        exact congrArg (e :: _ ++ ·) (withoutRepeats_congr fun m => by grind)

/-- Nothing is kept of errors that were all seen. -/
theorem withoutRepeats_eq_nil (h : ∀ e ∈ xs, mark e ∈ seen) : withoutRepeats seen xs = [] := by
  induction xs with
  | nil => rfl
  | cons e rest ih =>
      rw [withoutRepeats_cons_of_mem (h e (List.mem_cons_self ..))]
      exact ih fun f hf => h f (List.mem_cons_of_mem _ hf)

/-- Only errors that were there are kept. -/
theorem withoutRepeats_subset : withoutRepeats seen xs ⊆ xs := by
  induction xs generalizing seen with
  | nil => exact List.Subset.refl _
  | cons e rest ih =>
      by_cases known : mark e ∈ seen
      · rw [withoutRepeats_cons_of_mem known]
        exact List.subset_cons_of_subset _ ih
      · rw [withoutRepeats_cons_of_not_mem known]
        exact List.cons_subset_cons e ih

/-- Where nothing was seen, the first error is kept. -/
theorem withoutRepeats_eq_nil_iff : withoutRepeats [] xs = [] ↔ xs = [] := by
  cases xs with
  | nil => simp [withoutRepeats]
  | cons e rest => simp [withoutRepeats_cons_of_not_mem List.not_mem_nil]

/-- Errors that come again at once add nothing. -/
theorem withoutRepeats_again :
    withoutRepeats seen (xs ++ (xs ++ ys)) = withoutRepeats seen (xs ++ ys) := by
  have none : withoutRepeats (xs.map mark ++ seen) xs = [] :=
    withoutRepeats_eq_nil fun e he => List.mem_append_left _ (List.mem_map_of_mem he)
  have second : withoutRepeats (xs.map mark ++ seen) (xs ++ ys) =
      withoutRepeats (xs.map mark ++ (xs.map mark ++ seen)) ys := by
    rw [withoutRepeats_append, none, List.nil_append]
  rw [withoutRepeats_append, second, withoutRepeats_append]
  exact congrArg (_ ++ ·) (withoutRepeats_congr fun m => by grind)

/-- A mark that was seen strikes out the errors that bear it. -/
theorem withoutRepeats_cons_seen (f : SyntaxError) : withoutRepeats (mark f :: seen) xs =
    (withoutRepeats seen xs).filter fun e => !e.repeats f := by
  induction xs generalizing seen with
  | nil => rfl
  | cons e rest ih =>
      by_cases known : mark e ∈ seen
      · rw [withoutRepeats_cons_of_mem known,
          withoutRepeats_cons_of_mem (List.mem_cons_of_mem _ known), ih]
      · rw [withoutRepeats_cons_of_not_mem known]
        -- Behind an error with the mark of `f`, that mark was seen either way.
        by_cases same : mark e = mark f
        · rw [withoutRepeats_cons_of_mem (same ▸ List.mem_cons_self ..),
            List.filter_cons_of_neg (by simp [repeats_iff.mpr same]), ← ih, same]
          exact withoutRepeats_congr fun m => by simp
        · have fresh : mark e ∉ mark f :: seen := by simp [same, known]
          rw [withoutRepeats_cons_of_not_mem fresh, List.filter_cons_of_pos ?_, ← ih]
          · exact congrArg (e :: ·) (withoutRepeats_congr fun m => by grind)
          · simpa using mt repeats_iff.mp same

/-- What is kept is the first error of each mark. -/
theorem withoutRepeats_eq_eraseDupsBy :
    withoutRepeats [] xs = xs.eraseDupsBy SyntaxError.repeats := by
  -- The loop carries what it kept in reverse.
  have run : ∀ kept : List SyntaxError,
      List.eraseDupsBy.loop SyntaxError.repeats xs kept =
        kept.reverse ++ withoutRepeats (kept.map mark) xs := by
    induction xs with
    | nil => exact fun kept => (List.append_nil _).symm
    | cons e rest ih =>
        intro kept
        have met : kept.any e.repeats = true ↔ mark e ∈ kept.map mark := by
          simp only [List.any_eq_true, repeats_iff, List.mem_map]
          exact exists_congr fun f => and_congr_right fun _ => eq_comm
        rw [List.eraseDupsBy.loop]
        split
        · rename_i again
          rw [ih, withoutRepeats_cons_of_mem (met.mp again)]
        · rename_i first
          have fresh : mark e ∉ kept.map mark := by
            rw [← met, first]
            exact Bool.false_ne_true
          rw [ih, withoutRepeats_cons_of_not_mem fresh]
          simp
  exact (run []).symm

end Annotations

end ScriptTree

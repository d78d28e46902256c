import ScriptTree.Proofs.Cache.Refinement

/-! # What a cache finds

    A request changes what is found under its own key.  Under other keys the
    same is found as before, but for the entry that a full cache gives up.
    Each fact is read off the recency list. -/

namespace ScriptTree

namespace RecencyList

variable {κ ν : Type} [BEq κ] [LawfulBEq κ] {l : RecencyList κ ν} {key other : κ} {value : ν}

/-- What is found has the key. -/
theorem find?_key {entry : κ × ν} (h : l.find? key = some entry) : entry.1 = key := by
  rw [find?] at h
  simpa using List.find?_some h

/-- Leaving a key out hides it, and no other. -/
theorem find?_without : (l.without key).find? (·.1 == other) =
    if key == other then none else l.find? other := by
  rw [without, find?, List.find?_filter]
  split
  · rename_i same
    obtain rfl := eq_of_beq same
    exact List.find?_eq_none.mpr fun e _ => by simp
  · rename_i differ
    congr 1
    funext e
    by_cases h : e.1 == other
    · obtain rfl := eq_of_beq h
      simpa using fun same => differ (by simp [same])
    · simp [h]

/-- So does erasing it. -/
theorem peek?_erase :
    (l.erase key).2.peek? other = if key == other then none else l.peek? other := by
  have found : (l.erase key).2.find? other = if key == other then none else l.find? other :=
    find?_without
  rw [peek?, found]
  split <;> rfl

/-- Using an entry changes nothing of what is found. -/
theorem peek?_get? : (l.get? key).2.peek? other = l.peek? other := by
  rw [get?]
  cases found : l.find? key with
  | none => rfl
  | some entry =>
      obtain rfl := find?_key found
      rw [peek?, peek?, find?, List.find?_cons]
      cases same : entry.1 == other with
      | true => rw [← eq_of_beq same, found]
      | false =>
          rw [find?_without, same]
          rfl

omit [LawfulBEq κ] in
/-- Looking an entry up finds what peeking finds. -/
theorem get?_fst : (l.get? key).1 = l.peek? key := by
  rw [get?, peek?]
  cases l.find? key <;> rfl

/-- What was put is found. -/
theorem peek?_put_self : (l.put key value).2.peek? key = some value := by
  have front : ∀ rest : List (κ × ν),
      ((key, value) :: rest).find? (·.1 == key) = some (key, value) :=
    fun rest => List.find?_cons_of_pos (beq_self_eq_true key)
  rw [put]
  split
  · simp only [peek?, find?, front, Option.map_some]
  · split <;> simp only [peek?, find?, front, Option.map_some]

/-- What is found behind a put was put, or has been there before. -/
theorem peek?_put {found : ν} (h : (l.put key value).2.peek? other = some found) :
    (key = other ∧ value = found) ∨ l.peek? other = some found := by
  by_cases same : key = other
  · subst same
    rw [peek?_put_self] at h
    exact .inl ⟨rfl, Option.some.inj h⟩
  · have behind : ∀ rest : List (κ × ν),
        ((key, value) :: rest).find? (·.1 == other) = rest.find? (·.1 == other) :=
      fun rest => List.find?_cons_of_neg (by simpa using same)
    refine .inr ?_
    rw [put] at h
    split at h
    · simpa only [peek?, find?, behind, find?_without, beq_false_of_ne same, Bool.false_eq_true,
        if_false] using h
    · split at h
      · simpa only [peek?, find?, behind] using h
      · simp only [peek?, find?, behind, Option.map_eq_some_iff] at h ⊢
        obtain ⟨entry, there, rfl⟩ := h
        exact ⟨entry, (List.dropLast_prefix l.entries).find?_eq_some there, rfl⟩

end RecencyList

namespace RecencyCache

variable {κ ν : Type} [BEq κ] [Hashable κ] [LawfulBEq κ] [LawfulHashable κ]
  {c : RecencyCache κ ν} {l : RecencyList κ ν} {key other : κ} {value : ν}

/-- Nothing is found in an empty cache. -/
theorem peek?_empty {capacity : Nat} : (empty capacity : RecencyCache κ ν).peek? key = none := by
  simp [peek?, empty]

omit [LawfulHashable κ] in
/-- Looking an entry up finds what peeking finds. -/
theorem Lists.get?_fst (h : c.Lists l) : (c.get? key).1 = c.peek? key := by
  rw [(h.get? key).1, h.peek?, RecencyList.get?_fst]

omit [LawfulHashable κ] in
/-- Looking one up hides none. -/
theorem Lists.peek?_get? (h : c.Lists l) : (c.get? key).2.peek? other = c.peek? other := by
  rw [(h.get? key).2.peek?, h.peek?, RecencyList.peek?_get?]

/-- Erasing a key hides it, and no other. -/
theorem Lists.peek?_erase (h : c.Lists l) :
    (c.erase key).2.peek? other = if key == other then none else c.peek? other := by
  rw [(h.erase key).2.peek?, h.peek?, RecencyList.peek?_erase]

/-- What was put is found. -/
theorem Lists.peek?_put_self (h : c.Lists l) : (c.put key value).2.peek? key = some value := by
  rw [(h.put key value).2.peek?, RecencyList.peek?_put_self]

/-- Behind a put, what is found was put or was there. -/
theorem Lists.peek?_put (h : c.Lists l) {found : ν}
    (after : (c.put key value).2.peek? other = some found) :
    (key = other ∧ value = found) ∨ c.peek? other = some found := by
  rw [(h.put key value).2.peek?] at after
  rw [h.peek?]
  exact RecencyList.peek?_put after

end RecencyCache

end ScriptTree

import Mathlib.Data.Finset.Card
import ScriptTree.Proofs.Cache.Peek

/-! # Residence — how long an entry stays in a cache

    The entry that was used last stands in front of a recency list.  A key that is used
    behind it comes to stand in front of it, once however often it is used, and a removal
    only brings it forward.  It is given up by no request but a put of a new key, and then
    only as the last entry of a full list.  So an entry stays while the keys used since are
    fewer than the list has room for. -/

namespace ScriptTree.RecencyList

variable {κ ν : Type} [DecidableEq κ] {l l' : RecencyList κ ν} {key other : κ} {value new : ν}
  {used more : List κ}

/-- The key has the value, and since its entry was in front only these keys were used: the
    entries in front of it are of some of them, each of another one. -/
def Recent (l : RecencyList κ ν) (key : κ) (value : ν) (used : List κ) : Prop :=
  ∃ before behind, l.Splits before key value behind ∧ (before.map Prod.fst).Nodup ∧
    before.map Prod.fst ⊆ used

/-- A recent entry is found. -/
theorem Recent.peek? (h : l.Recent key value used) : l.peek? key = some value := by
  obtain ⟨before, behind, splits, -, -⟩ := h
  rw [RecencyList.peek?, splits.find?_eq]
  rfl

/-- More keys may have been used. -/
theorem Recent.widen (h : l.Recent key value used) (subset : used ⊆ more) :
    l.Recent key value more := by
  obtain ⟨before, behind, splits, nodup, among⟩ := h
  exact ⟨before, behind, splits, nodup, List.Subset.trans among subset⟩

/-! ## Entries in front -/

/-- Entries under other keys are left. -/
theorem ne_of_mem_without {e : κ × ν} (h : e ∈ l.without key) : e.1 ≠ key := by
  simpa [without] using (List.mem_filter.mp h).2

/-- No entry has a key that is not there. -/
theorem ne_of_not_contains (h : ¬ l.contains key) {e : κ × ν} (he : e ∈ l.entries) :
    e.1 ≠ key := by
  intro same
  refine h ?_
  rw [contains, find?, List.find?_isSome]
  exact ⟨e, he, by simp [same]⟩

/-- An entry in front of all others is recent. -/
theorem recent_front {capacity : Nat} {rest : List (κ × ν)} (alone : ∀ e ∈ rest, e.1 ≠ key) :
    Recent ⟨capacity, (key, value) :: rest⟩ key value [] :=
  ⟨[], rest, ⟨rfl, fun e he => beq_false_of_ne (alone e he)⟩, .nil, List.nil_subset _⟩

/-- Where nothing is found, nothing moves. -/
theorem get?_of_absent (h : l.peek? key = none) : l.get? key = (none, l) := by
  rw [RecencyList.get?, Option.map_eq_none_iff.mp h]

/-- What was found is in front. -/
theorem recent_get? (h : l.peek? key = some value) : (l.get? key).2.Recent key value [] := by
  obtain ⟨entry, found, rfl⟩ := Option.map_eq_some_iff.mp h
  obtain rfl := find?_key found
  rw [get?, found]
  exact recent_front fun e he => ne_of_mem_without he

/-- What was put is in front. -/
theorem recent_put : (l.put key value).2.Recent key value [] := by
  rw [put]
  split
  · exact recent_front fun e he => ne_of_mem_without he
  · rename_i absent
    split
    · exact recent_front fun e he => ne_of_not_contains absent he
    · exact recent_front fun e he => ne_of_not_contains absent (List.dropLast_subset _ he)

/-! ## Requests under other keys -/

/-- A key that is nowhere is not in front. -/
theorem Splits.not_mem_before {before behind : List (κ × ν)}
    (h : l.Splits before key value behind) (absent : ∀ e ∈ l.entries, e.1 ≠ other) :
    other ∉ before.map Prod.fst := by
  intro there
  obtain ⟨e, he, same⟩ := List.mem_map.mp there
  refine absent e ?_ same
  rw [h.entries]
  exact List.mem_append_left _ he

/-- Another entry comes to stand in front. -/
theorem Recent.cons (h : l.Recent key value used) (differ : other ≠ key)
    (absent : ∀ e ∈ l.entries, e.1 ≠ other) :
    Recent { l with entries := (other, new) :: l.entries } key value (other :: used) := by
  obtain ⟨before, behind, splits, nodup, among⟩ := h
  refine ⟨(other, new) :: before, behind, ⟨?_, ?_⟩, ?_, ?_⟩
  · rw [splits.entries, List.cons_append]
  · intro e he
    rcases List.mem_cons.mp he with rfl | he
    · exact beq_false_of_ne differ
    · exact splits.alone e he
  · exact List.nodup_cons.mpr ⟨splits.not_mem_before absent, nodup⟩
  · exact List.cons_subset_cons other among

/-- An entry under another key is taken out. -/
theorem Recent.without (h : l.Recent key value used) (differ : other ≠ key) :
    Recent { l with entries := l.without other } key value used := by
  obtain ⟨before, behind, splits, nodup, among⟩ := h
  refine ⟨before.filter (·.1 != other), behind.filter (·.1 != other), ⟨?_, fun e he => ?_⟩,
    nodup.sublist (List.filter_sublist.map _), fun k hk => among ?_⟩
  · rw [RecencyList.without, splits.entries, List.filter_append, List.filter_cons_of_pos]
    simpa using differ.symm
  · rw [← List.filter_append] at he
    exact splits.alone e (List.mem_of_mem_filter he)
  · exact (List.filter_sublist.map _).subset hk

/-- A removal brings the entry forward. -/
theorem Recent.erase (h : l.Recent key value used) (differ : other ≠ key) :
    (l.erase other).2.Recent key value used := h.without differ

/-- Looking another key up moves at most that one in front. -/
theorem Recent.get? (h : l.Recent key value used) (differ : other ≠ key) :
    (l.get? other).2.Recent key value (other :: used) := by
  rw [RecencyList.get?]
  cases found : l.find? other with
  | none => exact h.widen (List.subset_cons_self _ _)
  | some entry =>
      obtain rfl := find?_key found
      exact (h.without differ).cons differ fun e he => ne_of_mem_without he

/-- The last entry may go, if the list is longer than the entry and the keys used since. -/
theorem Recent.dropLast (h : l.Recent key value used) (absent : ∀ e ∈ l.entries, e.1 ≠ other)
    (differ : other ≠ key)
    (room : ((other :: used).toFinset.erase key).card < l.entries.length) :
    Recent { l with entries := l.entries.dropLast } key value used := by
  obtain ⟨before, behind, splits, nodup, among⟩ := h
  -- The new key and those in front of the entry are different keys that were used.
  have new : (other :: before.map Prod.fst).Nodup :=
    List.nodup_cons.mpr ⟨splits.not_mem_before absent, nodup⟩
  have all : (other :: before.map Prod.fst).toFinset ⊆ (other :: used).toFinset.erase key := by
    intro k hk
    rw [Finset.mem_erase, List.mem_toFinset]
    rw [List.mem_toFinset] at hk
    refine ⟨?_, List.cons_subset_cons other among hk⟩
    rcases List.mem_cons.mp hk with rfl | hk
    · exact differ
    · obtain ⟨e, he, rfl⟩ := List.mem_map.mp hk
      exact ne_of_beq_false (splits.alone e (List.mem_append_left _ he))
  have count := Finset.card_le_card all
  rw [List.toFinset_card_of_nodup new, List.length_cons, List.length_map] at count
  have length := congrArg List.length splits.entries
  rw [List.length_append, List.length_cons] at length
  have last : behind ≠ [] := by
    rintro rfl
    rw [List.length_nil] at length
    omega
  refine ⟨before, behind.dropLast, ⟨?_, fun e he => splits.alone e ?_⟩, nodup, among⟩
  · rw [splits.entries, List.dropLast_append_cons, List.dropLast_cons_of_ne_nil last]
  · exact ((List.Sublist.refl before).append behind.dropLast_sublist).subset he

/-- An entry that is put drives out others only, if there is room for the keys used since. -/
theorem Recent.put (h : l.Recent key value used) (differ : other ≠ key)
    (room : ((other :: used).toFinset.erase key).card < l.capacity) :
    (l.put other new).2.Recent key value (other :: used) := by
  rw [RecencyList.put]
  split
  · exact (h.without differ).cons differ fun e he => ne_of_mem_without he
  · rename_i unknown
    have absent : ∀ e ∈ l.entries, e.1 ≠ other := fun e he => ne_of_not_contains unknown he
    split
    · exact h.cons differ absent
    · rename_i full
      have shorter := h.dropLast absent differ (Nat.lt_of_lt_of_le room (Nat.le_of_not_lt full))
      exact shorter.cons differ fun e he => absent e (List.dropLast_subset _ he)

/-! ## Changes -/

/-- Delete the entries of some keys. -/
def eraseAll (l : RecencyList κ ν) (keys : List κ) : RecencyList κ ν :=
  keys.foldl (fun l key => (l.erase key).2) l

/-- What may happen to a list at once: entries of keys that may be dropped are deleted, or
    one key is used, found or put. -/
inductive Changes (drops : κ → Prop) (l : RecencyList κ ν) : List κ → RecencyList κ ν → Prop
  | drop {keys : List κ} : (∀ key ∈ keys, drops key) → Changes drops l [] (l.eraseAll keys)
  | find (key : κ) : Changes drops l [key] (l.get? key).2
  | put (key : κ) (value : ν) : Changes drops l [key] (l.put key value).2

variable {drops : κ → Prop} {keys now : List κ}

theorem Changes.refl : Changes drops l [] l :=
  .drop fun _ none => absurd none List.not_mem_nil

/-- Taking keys out keeps the capacity. -/
theorem capacity_eraseAll : (l.eraseAll keys).capacity = l.capacity := by
  induction keys generalizing l with
  | nil => rfl
  | cons key rest ih => exact ih

/-- No change touches the capacity. -/
theorem Changes.capacity (h : Changes drops l now l') : l'.capacity = l.capacity := by
  cases h with
  | drop => exact capacity_eraseAll
  | find key => exact capacity_get?
  | put key value => exact capacity_put

/-- Taking other keys out keeps what is recent. -/
theorem Recent.eraseAll (h : l.Recent key value used) (apart : key ∉ keys) :
    (l.eraseAll keys).Recent key value used := by
  induction keys generalizing l with
  | nil => exact h
  | cons other rest ih =>
      have differ : other ≠ key := fun same => apart (same ▸ List.mem_cons_self)
      exact ih (h.erase differ) fun there => apart (List.mem_cons_of_mem _ there)

/-- STAYING: an entry stays while others are used and dropped, if there is room for all keys
    that were used since. -/
theorem Recent.change (h : l.Recent key value used) (changes : Changes drops l now l')
    (kept : ¬ drops key) (others : key ∉ now)
    (room : ((now ++ used).toFinset.erase key).card < l.capacity) :
    l'.Recent key value (now ++ used) := by
  cases changes with
  | drop may => exact h.eraseAll fun there => kept (may key there)
  | find other => exact h.get? fun same => others (same ▸ List.mem_singleton_self _)
  | put other new => exact h.put (fun same => others (same ▸ List.mem_singleton_self _)) room

end ScriptTree.RecencyList

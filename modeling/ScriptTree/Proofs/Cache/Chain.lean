import Mathlib.Data.List.Perm.Subperm
import ScriptTree.Cache.Recency

/-! # Chains — the order in which the slots of a cache are linked

    A cache links its occupied slots both ways.  `Linked` says that a list of
    slots is linked one to the next between two neighbours, and `Chain` that
    such a list is the whole chain of a cache, from the slot used last to the
    one used longest ago.

    Taking a slot out of the chain and putting one in front of it change links
    only.  So what the slots hold, their ENTRIES, stays as it is, and the
    entries along the chain are what the cache lists. -/

namespace ScriptTree.RecencyCache

variable {κ ν : Type}

/-- Slots are linked one to the next, the first one behind `newer` and the last
    one in front of `older`. -/
def Linked (slot? : Nat → Option (RecencySlot κ ν)) : Option Nat → List Nat → Option Nat → Prop
  | _, [], _ => True
  | newer, i :: rest, older =>
    (∃ s, slot? i = some s ∧ s.newer = newer ∧ s.older = rest.head?.or older) ∧
      Linked slot? (some i) rest older

namespace Linked

variable {before after : Nat → Option (RecencySlot κ ν)} {newer older : Option Nat}
  {xs ys : List Nat} {i : Nat}

/-- A list is linked if its two parts are, each with the other as neighbour. -/
theorem append : Linked before newer (xs ++ ys) older ↔
    Linked before newer xs (ys.head?.or older) ∧
      Linked before (xs.getLast?.or newer) ys older := by
  induction xs generalizing newer with
  | nil => simp [Linked]
  | cons x xs ih =>
      have last : (x :: xs).getLast?.or newer = xs.getLast?.or (some x) := by
        cases h : xs.getLast? <;> simp [List.getLast?_cons, h]
      rw [last, List.cons_append]
      simp only [Linked, ih, List.head?_append, Option.or_assoc, and_assoc]

/-- Only the links of the slots matter. -/
theorem congr_links (h : Linked before newer xs older)
    (same : ∀ i ∈ xs, (after i).map (fun s => (s.newer, s.older)) =
      (before i).map fun s => (s.newer, s.older)) : Linked after newer xs older := by
  induction xs generalizing newer with
  | nil => trivial
  | cons x xs ih =>
      obtain ⟨⟨s, hs, hn, ho⟩, rest⟩ := h
      have links := same x (List.mem_cons_self ..)
      rw [hs] at links
      obtain ⟨t, ht, ends⟩ := Option.map_eq_some_iff.mp links
      obtain ⟨newer_eq, older_eq⟩ := Prod.mk.inj ends
      exact ⟨⟨t, ht, newer_eq.trans hn, older_eq.trans ho⟩,
        ih rest fun i hi => same i (List.mem_cons_of_mem _ hi)⟩

/-- Only the slots of the chain matter for how it is linked. -/
theorem congr (h : Linked before newer xs older) (same : ∀ i ∈ xs, after i = before i) :
    Linked after newer xs older :=
  h.congr_links fun i hi => congrArg _ (same i hi)

/-- Give the first slot another neighbour in front. -/
theorem setNewer (h : Linked before newer (i :: xs) older) (another : Option Nat)
    (same : ∀ j ∈ xs, after j = before j)
    (set : after i = (before i).map fun s => { s with newer := another }) :
    Linked after another (i :: xs) older := by
  obtain ⟨⟨s, hs, -, next⟩, rest⟩ := h
  exact ⟨⟨{ s with newer := another }, by rw [set, hs]; rfl, rfl, next⟩, rest.congr same⟩

/-- Give the last slot another neighbour behind. -/
theorem setOlder (h : Linked before newer (xs ++ [i]) older) (another : Option Nat)
    (same : ∀ j ∈ xs, after j = before j)
    (set : after i = (before i).map fun s => { s with older := another }) :
    Linked after newer (xs ++ [i]) another := by
  obtain ⟨front, ⟨s, hs, last, -⟩, -⟩ := append.mp h
  refine append.mpr ⟨front.congr same, ⟨{ s with older := another }, ?_, last, rfl⟩, trivial⟩
  rw [set, hs]
  rfl

/-- Every slot of a linked list is occupied. -/
theorem isSome (h : Linked before newer xs older) (hi : i ∈ xs) : (before i).isSome := by
  induction xs generalizing newer with
  | nil => cases hi
  | cons x xs ih =>
      obtain ⟨⟨s, hs, -⟩, rest⟩ := h
      cases hi with
      | head => rw [hs]; rfl
      | tail _ hi => exact ih rest hi

end Linked

variable [BEq κ] [Hashable κ] {c d : RecencyCache κ ν} {order xs ys : List Nat} {i j : Nat}

/-- The key and the value in a slot. -/
def pair? (c : RecencyCache κ ν) (i : Nat) : Option (κ × ν) :=
  (c.slot? i).map fun s => (s.key, s.value)

/-- The slots of a list are the chain of the cache. -/
structure Chain (c : RecencyCache κ ν) (order : List Nat) : Prop where
  newest : c.newest = order.head?
  oldest : c.oldest = order.getLast?
  linked : Linked c.slot? none order none
  nodup : order.Nodup

/-- The chain depends on its slots and its ends alone. -/
theorem Chain.congr (h : c.Chain order) (newest : d.newest = c.newest)
    (oldest : d.oldest = c.oldest) (same : ∀ i ∈ order, d.slot? i = c.slot? i) : d.Chain order :=
  ⟨newest.trans h.newest, oldest.trans h.oldest, h.linked.congr same, h.nodup⟩

/-- No slot stands in the chain twice. -/
theorem Chain.not_mem (h : c.Chain (xs ++ i :: ys)) : i ∉ xs ++ ys := by
  have := h.nodup
  grind

/-! ## Slots that are changed -/

omit [BEq κ] [Hashable κ] in
/-- Change the contents of one slot of many. -/
theorem join_modify {slots : Array (Option (RecencySlot κ ν))}
    (f : RecencySlot κ ν → RecencySlot κ ν) :
    ((slots.modify i (Option.map f))[j]?).join =
      if i = j then (slots[j]?).join.map f else (slots[j]?).join := by
  rw [Array.getElem?_modify]
  split
  · cases slots[j]? with
    | none => rfl
    | some o => rfl
  · rfl

/-- One slot is modified. -/
theorem slot?_modifySlot (f : RecencySlot κ ν → RecencySlot κ ν) :
    (c.modifySlot i f).slot? j = if i = j then (c.slot? j).map f else c.slot? j :=
  join_modify f

/-- There is no slot behind the last one. -/
theorem slot?_eq_none_of_size_le (h : c.slots.size ≤ i) : c.slot? i = none := by
  rw [slot?, Array.getElem?_eq_none h]
  rfl

/-- A slot is among those that there are. -/
theorem lt_size_of_isSome (h : (c.slot? i).isSome) : i < c.slots.size := by
  by_cases lt : i < c.slots.size
  · exact lt
  · rw [slot?_eq_none_of_size_le (Nat.le_of_not_lt lt)] at h
    cases h

/-! ## Taking a slot out -/

section Unlink

variable {s : RecencySlot κ ν}

/-- Taking a slot out clears its links and closes the gap. -/
theorem slot?_unlink (h : c.slot? i = some s) : (c.unlink i).slot? j =
    let cleared := if i = j then some { s with newer := none, older := none } else c.slot? j
    let joined :=
      if s.newer = some j then cleared.map fun t => { t with older := s.older } else cleared
    if s.older = some j then joined.map fun t => { t with newer := s.newer } else joined := by
  have alone : i = j → (c.slots[j]?).join = some s := fun same => same ▸ h
  simp only [unlink, h]
  cases s.newer <;> cases s.older <;> simp only [slot?, modifySlot, join_modify] <;>
    grind

/-- The next newer slot becomes the newest if there was none before it. -/
theorem newest_unlink (h : c.slot? i = some s) :
    (c.unlink i).newest = if s.newer = none then s.older else c.newest := by
  simp only [unlink, h]
  cases s.newer <;> cases s.older <;> rfl

/-- The next one becomes the oldest if there was none behind it. -/
theorem oldest_unlink (h : c.slot? i = some s) :
    (c.unlink i).oldest = if s.older = none then s.newer else c.oldest := by
  simp only [unlink, h]
  cases s.newer <;> cases s.older <;> rfl

/-- Slots that are not linked to the one that is taken out stay as they are. -/
theorem slot?_unlink_of_ne (h : c.slot? i = some s) (other : j ≠ i) (newer : s.newer ≠ some j)
    (older : s.older ≠ some j) : (c.unlink i).slot? j = c.slot? j := by
  simp [slot?_unlink h, newer, older, other.symm]

/-- The slot in front of the gap is linked to the one behind. -/
theorem slot?_unlink_newer (h : c.slot? i = some s) (other : j ≠ i) (newer : s.newer = some j)
    (older : s.older ≠ some j) :
    (c.unlink i).slot? j = (c.slot? j).map fun t => { t with older := s.older } := by
  simp [slot?_unlink h, newer, older, other.symm]

/-- The slot behind the gap is linked to the one in front. -/
theorem slot?_unlink_older (h : c.slot? i = some s) (other : j ≠ i) (newer : s.newer ≠ some j)
    (older : s.older = some j) :
    (c.unlink i).slot? j = (c.slot? j).map fun t => { t with newer := s.newer } := by
  simp [slot?_unlink h, newer, older, other.symm]

/-- The chain closes behind a slot that is taken out. -/
theorem Chain.unlink (h : c.Chain (xs ++ i :: ys)) : (c.unlink i).Chain (xs ++ ys) := by
  obtain ⟨front, ⟨s, hs, newer, older⟩, back⟩ := Linked.append.mp h.linked
  rw [Option.or_none] at newer older
  have here : ∀ j ∈ xs ++ ys, j ≠ i := by have := h.nodup; grind
  have apart : ∀ j, j ∈ xs → j ∉ ys := by have := h.nodup; grind
  have isNewer : ∀ j, s.newer = some j → j ∈ xs := fun j hj =>
    List.mem_of_getLast? (newer ▸ hj)
  have isOlder : ∀ j, s.older = some j → j ∈ ys := fun j hj =>
    List.mem_of_head? (older ▸ hj)
  constructor
  · rw [newest_unlink hs, h.newest, newer, older]
    cases xs <;> simp
  · rw [oldest_unlink hs, h.oldest, newer, older]
    cases ys <;> simp
  -- The chain was linked in two parts around the slot; each is linked still, but for the
  -- neighbour, whose link now skips the slot.
  · refine Linked.append.mpr ⟨?_, ?_⟩
    · rw [← older, Option.or_none]
      cases last : s.newer with
      | none =>
          rw [List.getLast?_eq_none_iff.mp (newer.symm.trans last)]
          trivial
      | some l =>
          obtain ⟨xs, rfl⟩ := List.getLast?_eq_some_iff.mp (newer.symm.trans last)
          refine front.setOlder s.older (fun j hj => ?_) ?_
          · refine slot?_unlink_of_ne hs (here j (by simp [hj])) ?_ fun ho => ?_
            · have := h.nodup
              grind
            · exact apart j (by simp [hj]) (isOlder j ho)
          · refine slot?_unlink_newer hs (here l (by simp)) last fun ho => ?_
            exact apart l (by simp) (isOlder l ho)
    · rw [← newer, Option.or_none]
      cases next : s.older with
      | none =>
          rw [List.head?_eq_none_iff.mp (older.symm.trans next)]
          trivial
      | some y =>
          obtain ⟨ys, rfl⟩ := List.head?_eq_some_iff.mp (older.symm.trans next)
          refine back.setNewer s.newer (fun j hj => ?_) ?_
          · refine slot?_unlink_of_ne hs (here j (by simp [hj])) (fun hn => ?_) ?_
            · exact apart j (isNewer j hn) (by simp [hj])
            · have := h.nodup
              grind
          · refine slot?_unlink_older hs (here y (by simp)) (fun hn => ?_) next
            exact apart y (isNewer y hn) (by simp)
  · have := h.nodup
    grind

end Unlink

/-- Taking a slot out keeps all entries. -/
@[simp] theorem pair?_unlink : (c.unlink i).pair? j = c.pair? j := by
  cases h : c.slot? i with
  | none => simp [unlink, h]
  | some s =>
      simp only [pair?, slot?_unlink h]
      by_cases same : i = j
      · simp only [← same, h]
        split <;> split <;> rfl
      · simp only [if_neg same]
        split <;> split <;> simp [Function.comp_def]

@[simp] theorem capacity_unlink : (c.unlink i).capacity = c.capacity := by
  simp only [unlink]
  split
  · rfl
  · split <;> split <;> rfl

@[simp] theorem index_unlink : (c.unlink i).index = c.index := by
  simp only [unlink]
  split
  · rfl
  · split <;> split <;> rfl

@[simp] theorem vacant_unlink : (c.unlink i).vacant = c.vacant := by
  simp only [unlink]
  split
  · rfl
  · split <;> split <;> rfl

@[simp] theorem size_slots_unlink : (c.unlink i).slots.size = c.slots.size := by
  simp only [unlink]
  split
  · rfl
  · split <;> split <;> simp [modifySlot]

/-! ## Putting a slot in front -/

/-- Putting a slot in front links it and the one that was in front. -/
theorem slot?_linkNewest : (c.linkNewest i).slot? j =
    let placed :=
      if i = j then (c.slot? j).map fun s => { s with newer := none, older := c.newest }
      else c.slot? j
    if c.newest = some j then placed.map fun s => { s with newer := some i } else placed := by
  simp only [linkNewest]
  cases c.newest with
  | none => simp only [slot?, modifySlot, join_modify]; rfl
  | some h => simp only [slot?, modifySlot, join_modify, Option.some.injEq]

/-- The oldest slot stays, if there was one. -/
theorem oldest_linkNewest : (c.linkNewest i).oldest = c.oldest.or (some i) := by
  simp only [linkNewest]
  cases c.newest <;> rfl

/-- Putting a slot in front keeps all entries. -/
@[simp] theorem pair?_linkNewest : (c.linkNewest i).pair? j = c.pair? j := by
  simp only [pair?, slot?_linkNewest]
  split <;> split <;> simp [Function.comp_def]

@[simp] theorem capacity_linkNewest : (c.linkNewest i).capacity = c.capacity := by
  simp only [linkNewest]
  cases c.newest <;> rfl

@[simp] theorem index_linkNewest : (c.linkNewest i).index = c.index := by
  simp only [linkNewest]
  cases c.newest <;> rfl

@[simp] theorem vacant_linkNewest : (c.linkNewest i).vacant = c.vacant := by
  simp only [linkNewest]
  cases c.newest <;> rfl

@[simp] theorem size_slots_linkNewest : (c.linkNewest i).slots.size = c.slots.size := by
  simp only [linkNewest]
  cases c.newest <;> simp [modifySlot]

/-- An occupied slot outside of the chain becomes its first one. -/
theorem Chain.linkNewest (h : c.Chain order) (fresh : i ∉ order) (there : (c.slot? i).isSome) :
    (c.linkNewest i).Chain (i :: order) := by
  obtain ⟨s, hs⟩ := Option.isSome_iff_exists.mp there
  constructor
  · rfl
  · rw [oldest_linkNewest, h.oldest, List.getLast?_cons]
    cases order.getLast? <;> rfl
  · refine ⟨⟨{ s with newer := none, older := c.newest }, ?_, rfl, ?_⟩, ?_⟩
    · have other : c.newest ≠ some i := fun hi =>
        fresh (List.mem_of_head? (h.newest ▸ hi))
      simp [slot?_linkNewest, other, hs]
    · rw [h.newest, Option.or_none]
    · cases order with
      | nil => trivial
      | cons x rest =>
          have first : c.newest = some x := h.newest
          have other : ∀ j ∈ x :: rest, i ≠ j := fun j hj same => fresh (same ▸ hj)
          refine h.linked.setNewer (some i) (fun j hj => ?_) ?_
          · have behind : x ≠ j := fun same => (List.nodup_cons.mp h.nodup).1 (same ▸ hj)
            simp [slot?_linkNewest, other j (List.mem_cons_of_mem _ hj), first, behind]
          · simp [slot?_linkNewest, other x (List.mem_cons_self ..), first]
  · exact List.nodup_cons.mpr ⟨fresh, h.nodup⟩

/-! ## Reading the chain -/

/-- A chain is no longer than there are slots. -/
theorem Chain.length_le (h : c.Chain order) : order.length ≤ c.slots.size := by
  have below : ∀ i ∈ order, i ∈ List.range c.slots.size := fun i hi =>
    List.mem_range.mpr (lt_size_of_isSome (h.linked.isSome hi))
  simpa using (h.nodup.subperm below).length_le

end ScriptTree.RecencyCache

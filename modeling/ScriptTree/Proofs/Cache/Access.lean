import ScriptTree.Proofs.Cache.Slots

/-! # Access — each slot that a request reads is occupied

    A cache takes a vacant slot for granted where it finds one: a neighbour that is not
    there is not changed, and an entry without a slot is not returned.  So a wrong link or
    a slot that was given up twice would lose entries or use ever more slots, and nothing
    would fail.

    Here it fails.  The CHECKED requests do what the requests of a cache do, but give
    nothing at the first access to a slot that is out of bounds or vacant, and at a new
    entry in a slot that is not a vacant one.  Every request passes its checks, behind any
    others, and the slots of the cache are in order each time. -/

namespace ScriptTree.RecencyCache

variable {κ ν : Type} [BEq κ] [Hashable κ]

namespace Checked

/-- Change what lies in a slot, which has to be occupied. -/
def modifySlot (c : RecencyCache κ ν) (i : Nat) (f : RecencySlot κ ν → RecencySlot κ ν) :
    Option (RecencyCache κ ν) :=
  (c.slot? i).map fun _ => c.modifySlot i f

/-- Take a slot out of the chain. -/
def unlink (c : RecencyCache κ ν) (i : Nat) : Option (RecencyCache κ ν) := do
  let s ← c.slot? i
  let c ← modifySlot c i fun s => { s with newer := none, older := none }
  let c ← match s.newer with
    | some n => modifySlot c n fun t => { t with older := s.older }
    | none => some { c with newest := s.older }
  match s.older with
  | some o => modifySlot c o fun t => { t with newer := s.newer }
  | none => some { c with oldest := s.newer }

/-- Put a slot in front of the chain. -/
def linkNewest (c : RecencyCache κ ν) (i : Nat) : Option (RecencyCache κ ν) := do
  let former := c.newest
  let c ← modifySlot c i fun s => { s with newer := none, older := former }
  let c ← match former with
    | some h => modifySlot c h fun s => { s with newer := some i }
    | none => some c
  return { c with newest := some i, oldest := c.oldest.or (some i) }

/-- Make a slot the one used last. -/
def touch (c : RecencyCache κ ν) (i : Nat) : Option (RecencyCache κ ν) := do
  linkNewest (← unlink c i) i

/-- Look a key up without using its entry. -/
def peek? (c : RecencyCache κ ν) (key : κ) : Option (Option ν) :=
  match c.index[key]? with
  | none => some none
  | some i => do return some (← c.slot? i).value

/-- Look a key up and use its entry. -/
def get? (c : RecencyCache κ ν) (key : κ) : Option (Option ν × RecencyCache κ ν) :=
  match c.index[key]? with
  | none => some (none, c)
  | some i => do return (some (← c.slot? i).value, ← touch c i)

/-- Give a slot up. -/
def vacate (c : RecencyCache κ ν) (i : Nat) : Option ((κ × ν) × RecencyCache κ ν) := do
  let c ← unlink c i
  let s ← c.slot? i
  return ((s.key, s.value),
    { c with
      index := c.index.erase s.key
      slots := c.slots.set! i none
      vacant := i :: c.vacant })

/-- Remove the entry of a key. -/
def erase (c : RecencyCache κ ν) (key : κ) : Option (Option ν × RecencyCache κ ν) :=
  match c.index[key]? with
  | none => some (none, c)
  | some i => do
    let (entry, c) ← vacate c i
    return (some entry.2, c)

/-- Remove the entry used longest ago, of which there has to be one. -/
def evict (c : RecencyCache κ ν) : Option ((κ × ν) × RecencyCache κ ν) := do
  vacate c (← c.oldest)

/-- Add an entry for a new key in a slot that is vacant, or in one more slot. -/
def occupy (c : RecencyCache κ ν) (key : κ) (value : ν) : Option (RecencyCache κ ν) :=
  let slot : RecencySlot κ ν := ⟨key, value, none, none⟩
  match c.vacant with
  | i :: rest =>
    if i < c.slots.size ∧ (c.slot? i).isNone then
      linkNewest
        { c with
          index := c.index.insert key i
          slots := c.slots.set! i (some slot)
          vacant := rest } i
    else none
  | [] =>
    linkNewest
      { c with
        index := c.index.insert key c.slots.size
        slots := c.slots.push (some slot) } c.slots.size

/-- Insert or replace the entry of a key. -/
def put (c : RecencyCache κ ν) (key : κ) (value : ν) :
    Option (Option (κ × ν) × RecencyCache κ ν) :=
  match c.index[key]? with
  | some i => do
    let c ← modifySlot c i fun s => { s with value := value }
    return (none, ← touch c i)
  | none =>
    if c.capacity ≤ c.size then do
      let (entry, c) ← evict c
      return (some entry, ← occupy c key value)
    else do return (none, ← occupy c key value)

/-- Answer a request. -/
def answer (c : RecencyCache κ ν) :
    CacheRequest κ ν → Option (CacheAnswer κ ν × RecencyCache κ ν)
  | .renew capacity => some (.nothing, .empty capacity)
  | .put key value => do let (evicted, c) ← put c key value; return (.evicted evicted, c)
  | .get key => do let (found, c) ← get? c key; return (.value found, c)
  | .peek key => do return (.value (← peek? c key), c)
  | .erase key => do let (removed, c) ← erase c key; return (.value removed, c)
  | .contains key => some (.present (c.contains key), c)
  | .clear => some (.nothing, c.clear)

end Checked

variable {c : RecencyCache κ ν} {order xs ys : List Nat} {i j : Nat} {key : κ} {value : ν}
  {entry : κ × ν}

/-! ## Links -/

/-- A slot that is changed stays occupied, as do all others. -/
@[simp] theorem isSome_slot?_modifySlot {f : RecencySlot κ ν → RecencySlot κ ν} :
    ((c.modifySlot i f).slot? j).isSome = (c.slot? j).isSome := by
  rw [slot?_modifySlot]
  split <;> simp

/-- A slot that is there can be modified. -/
theorem Checked.modifySlot_eq {f : RecencySlot κ ν → RecencySlot κ ν}
    (there : (c.slot? i).isSome) : Checked.modifySlot c i f = some (c.modifySlot i f) := by
  obtain ⟨s, hs⟩ := Option.isSome_iff_exists.mp there
  rw [Checked.modifySlot, hs]
  rfl

namespace Chain

/-- The neighbours of a slot in the chain are occupied. -/
theorem isSome_neighbours (h : c.Chain (xs ++ i :: ys)) {s : RecencySlot κ ν}
    (hs : c.slot? i = some s) : (∀ n, s.newer = some n → (c.slot? n).isSome) ∧
      ∀ o, s.older = some o → (c.slot? o).isSome := by
  obtain ⟨front, ⟨t, ht, newer, older⟩, back⟩ := Linked.append.mp h.linked
  obtain rfl : s = t := Option.some.inj (hs.symm.trans ht)
  rw [Option.or_none] at newer older
  exact ⟨fun n hn => front.isSome (List.mem_of_getLast? (newer ▸ hn)),
    fun o ho => back.isSome (List.mem_of_head? (older ▸ ho))⟩

/-- The neighbours of a slot of the chain are there. -/
theorem checked_unlink (h : c.Chain (xs ++ i :: ys)) :
    Checked.unlink c i = some (c.unlink i) := by
  have there : (c.slot? i).isSome := h.linked.isSome (by simp)
  obtain ⟨s, hs⟩ := Option.isSome_iff_exists.mp there
  obtain ⟨newer, older⟩ := h.isSome_neighbours hs
  simp only [Checked.unlink, RecencyCache.unlink, hs, Option.bind_eq_bind, Option.bind_some,
    Checked.modifySlot_eq there]
  cases hn : s.newer with
  | none =>
      cases ho : s.older with
      | none => rfl
      | some o => exact Checked.modifySlot_eq (isSome_slot?_modifySlot.trans (older o ho))
  | some n =>
      simp only [Checked.modifySlot_eq (isSome_slot?_modifySlot.trans (newer n hn)),
        Option.bind_some]
      cases ho : s.older with
      | none => rfl
      | some o => exact Checked.modifySlot_eq (by simp [older o ho])

/-- So is the newest slot, if there is one. -/
theorem checked_linkNewest (h : c.Chain order) (there : (c.slot? i).isSome) :
    Checked.linkNewest c i = some (c.linkNewest i) := by
  simp only [Checked.linkNewest, RecencyCache.linkNewest, Option.bind_eq_bind, Option.bind_some,
    Checked.modifySlot_eq there]
  cases hn : c.newest with
  | none => rfl
  | some n =>
      have newest : (c.slot? n).isSome := h.linked.isSome (List.mem_of_head? (h.newest ▸ hn))
      simp only [Checked.modifySlot_eq (isSome_slot?_modifySlot.trans newest), Option.bind_some]
      rfl

/-- A slot of the chain can be moved to the front. -/
theorem checked_touch (h : c.Chain (xs ++ i :: ys)) :
    Checked.touch c i = some (c.touch i) := by
  have there : ((c.unlink i).slot? i).isSome := by
    rw [← pair?_isSome, pair?_unlink, pair?_isSome]
    exact h.linked.isSome (by simp)
  simp only [Checked.touch, h.checked_unlink, Option.bind_eq_bind, Option.bind_some,
    h.unlink.checked_linkNewest there]
  rfl

/-- A slot of the chain can be vacated, and its entry taken. -/
theorem checked_vacate (h : c.Chain (xs ++ i :: ys)) (there : c.pair? i = some entry) :
    ∃ entry, Checked.vacate c i = some (entry, (c.vacate i).2) ∧
      (c.vacate i).1 = some entry := by
  obtain ⟨s, hs, -⟩ : ∃ s, (c.unlink i).slot? i = some s ∧ (s.key, s.value) = entry := by
    rw [← pair?_unlink (i := i), pair?] at there
    simpa using there
  refine ⟨(s.key, s.value), ?_, ?_⟩
  · simp [Checked.vacate, h.checked_unlink, RecencyCache.vacate, hs]
  · simp [RecencyCache.vacate, hs]

end Chain

/-! ## Requests -/

namespace Fills

variable [LawfulBEq κ] [LawfulHashable κ]

omit [LawfulBEq κ] [LawfulHashable κ] in
/-- A new entry finds its slot vacant, and the former newest one occupied. -/
theorem checked_occupy (h : c.Fills order) :
    Checked.occupy c key value = some (c.occupy key value) := by
  simp only [Checked.occupy, RecencyCache.occupy]
  cases vacant : c.vacant with
  -- No slot is vacant: a new one is appended, and the chain does not know its number.
  | nil =>
      dsimp only
      have slots : ∀ j, ((c.slots.push (some ⟨key, value, none, none⟩))[j]?).join =
          if j = c.slots.size then some ⟨key, value, none, none⟩ else c.slot? j := fun j => by
        rw [Array.getElem?_push]
        split <;> rfl
      refine Chain.checked_linkNewest (h.toChain.congr rfl rfl fun j hj => ?_) ?_
      · exact (slots j).trans (if_neg (Nat.ne_of_lt (lt_size_of_isSome (h.mem_iff.mp hj))))
      · rw [slot?, slots, if_pos rfl]
        rfl
  -- A vacant slot is used again.  It is empty, so it is not in the chain.
  | cons i rest =>
      obtain ⟨within, empty⟩ := h.mem_vacant.mp (vacant ▸ List.mem_cons_self ..)
      simp only [within, empty, Option.isNone_none, and_self, if_true]
      refine Chain.checked_linkNewest (h.toChain.congr rfl rfl fun j hj => ?_) ?_
      · have other : i ≠ j := fun same => by
          have there := h.mem_iff.mp hj
          rw [← same, empty] at there
          cases there
        exact join_set.trans (if_neg other)
      · rw [slot?, join_set, if_pos rfl, if_pos within]
        rfl

/-- What is used longest ago is there in a cache without room. -/
theorem evict (h : c.Fills order) (full : c.capacity ≤ c.size) (unknown : c.index[key]? = none) :
    ∃ entry d rest, Checked.evict c = some (entry, d) ∧ c.evict = (some entry, d) ∧
      d.Fills rest ∧ d.index[key]? = none ∧ rest.length < d.capacity := by
  -- A full cache has an oldest entry, since its capacity is at least one.
  have many : 0 < order.length := by
    have := c.capacity_pos
    have : c.size = order.length := h.size
    omega
  obtain ⟨front, i, rfl⟩ : ∃ front i, order = front ++ [i] :=
    ⟨_, _, (List.dropLast_concat_getLast (List.ne_nil_of_length_pos many)).symm⟩
  obtain ⟨entry, there⟩ := Option.isSome_iff_exists.mp
    (pair?_isSome.trans (h.linked.isSome (List.mem_append_right front (List.mem_singleton_self i))))
  have oldest : c.oldest = some i := by simpa using h.oldest
  obtain ⟨removed, holds, capacity, entries⟩ := h.toHolds.vacate there
  obtain ⟨entry, checked, same⟩ := h.toChain.checked_vacate there
  refine ⟨entry, (c.vacate i).2, _, ?_, ?_, h.vacate there, ?_, ?_⟩
  · simp [Checked.evict, oldest, checked]
  · rw [RecencyCache.evict, oldest, ← same]
  -- The new key is still unknown: what is indexed now was indexed before.
  · refine Option.eq_none_iff_forall_ne_some.mpr fun j hj => ?_
    have known := (holds.indexed key j).mp hj
    rw [entries] at known
    split at known
    · cases known
    · rw [(h.indexed key j).mpr known] at unknown
      cases unknown
  · have := h.room
    rw [capacity]
    simp only [List.length_append, List.length_singleton, List.length_nil] at this ⊢
    omega

omit [LawfulHashable κ] in
/-- Looking an entry up reads no slot that is empty. -/
theorem get? (h : c.Fills order) (key : κ) :
    Checked.get? c key = some (c.get? key) ∧ ∃ order, (c.get? key).2.Fills order := by
  rw [Checked.get?, RecencyCache.get?]
  cases hi : c.index[key]? with
  | none => exact ⟨rfl, order, h⟩
  | some i =>
      obtain ⟨xs, ys, value, rfl, there, -⟩ := h.split hi
      obtain ⟨s, hs, -⟩ := Option.map_eq_some_iff.mp there
      refine ⟨?_, _, h.touch⟩
      simp [hs, h.toChain.checked_touch]

omit [LawfulHashable κ] in
/-- Nor does peeking. -/
theorem peek? (h : c.Fills order) (key : κ) : Checked.peek? c key = some (c.peek? key) := by
  rw [Checked.peek?, RecencyCache.peek?]
  cases hi : c.index[key]? with
  | none => rfl
  | some i =>
      obtain ⟨-, -, value, -, there, -⟩ := h.split hi
      obtain ⟨s, hs, -⟩ := Option.map_eq_some_iff.mp there
      simp [hs]

/-- Nor does erasing. -/
theorem erase (h : c.Fills order) (key : κ) :
    Checked.erase c key = some (c.erase key) ∧ ∃ order, (c.erase key).2.Fills order := by
  rw [Checked.erase, RecencyCache.erase]
  cases hi : c.index[key]? with
  | none => exact ⟨rfl, order, h⟩
  | some i =>
      obtain ⟨xs, ys, value, rfl, there, -⟩ := h.split hi
      obtain ⟨entry, checked, same⟩ := h.toChain.checked_vacate there
      refine ⟨?_, _, h.vacate there⟩
      simp [checked, same]

/-- Nor does putting, which takes a vacant slot, a new one or that of the oldest entry. -/
theorem put (h : c.Fills order) (key : κ) (value : ν) :
    Checked.put c key value = some (c.put key value) ∧
      ∃ order, (c.put key value).2.Fills order := by
  rw [Checked.put, RecencyCache.put]
  cases hi : c.index[key]? with
  -- The key is known: its slot gets the value and moves to the front.
  | some i =>
      obtain ⟨xs, ys, old, rfl, there, -⟩ := h.split hi
      have set := h.setValue there value
      refine ⟨?_, _, set.touch⟩
      simp [Checked.modifySlot_eq (h.mem_iff.mp (by simp : i ∈ xs ++ i :: ys)),
        set.toChain.checked_touch]
  | none =>
      by_cases full : c.capacity ≤ c.size
      · obtain ⟨entry, d, rest, checked, same, fills, unknown, room⟩ := h.evict full hi
        obtain ⟨i, occupied⟩ := fills.occupy unknown room value
        simp only [if_pos full, checked, same]
        refine ⟨?_, _, occupied⟩
        simp [fills.checked_occupy]
      · have room : order.length < c.capacity := by
          have : c.size = order.length := h.size
          omega
        obtain ⟨i, occupied⟩ := h.occupy hi room value
        simp only [if_neg full]
        refine ⟨?_, _, occupied⟩
        simp [h.checked_occupy]

/-- Every request passes its checks and leaves no slot out. -/
theorem answer (h : c.Fills order) (request : CacheRequest κ ν) :
    Checked.answer c request = some (c.answer request) ∧
      ∃ order, (c.answer request).2.Fills order := by
  cases request with
  | renew capacity => exact ⟨rfl, [], start capacity⟩
  | put key value =>
      obtain ⟨checked, next⟩ := h.put key value
      exact ⟨by simp [Checked.answer, checked, RecencyCache.answer], next⟩
  | get key =>
      obtain ⟨checked, next⟩ := h.get? key
      exact ⟨by simp [Checked.answer, checked, RecencyCache.answer], next⟩
  | peek key => exact ⟨by simp [Checked.answer, h.peek? key, RecencyCache.answer], order, h⟩
  | erase key =>
      obtain ⟨checked, next⟩ := h.erase key
      exact ⟨by simp [Checked.answer, checked, RecencyCache.answer], next⟩
  | contains key => exact ⟨rfl, order, h⟩
  | clear => exact ⟨rfl, [], clear c⟩

/-- Any requests leave no slot out. -/
theorem behind (h : c.Fills order) (requests : List (CacheRequest κ ν)) :
    ∃ order, (c.behind requests).Fills order := by
  induction requests generalizing c order with
  | nil => exact ⟨order, h⟩
  | cons request rest ih =>
      obtain ⟨-, order, next⟩ := h.answer request
      exact ih next

end Fills

/-- NO SLOT IS LOST OR MISREAD: behind any requests to a new cache its slots agree with one
    another, and whatever is asked next reads and changes occupied slots only and puts a new
    entry into a vacant one. -/
theorem sound_behind [LawfulBEq κ] [LawfulHashable κ] (capacity : Nat)
    (requests : List (CacheRequest κ ν)) :
    let c := (empty capacity : RecencyCache κ ν).behind requests
    c.Sound ∧ ∀ request, Checked.answer c request = some (c.answer request) := by
  obtain ⟨order, fills⟩ := (Fills.start (κ := κ) (ν := ν) capacity).behind requests
  exact ⟨fills.sound, fun request => (fills.answer request).1⟩

/-- A slot that was given up and used again, and one that was given up by the oldest entry,
    are not lost. -/
theorem sound_behind_reused :
    let c := (empty 2 : RecencyCache String Nat).behind
      [.put "a" 1, .put "b" 2, .erase "a", .put "c" 3, .put "d" 4, .erase "c"]
    c.size = 1 ∧ c.Sound ∧
      Checked.answer c (.put "e" 5) = some (c.answer (.put "e" 5)) := by
  intro c
  have size : c.size = 1 := ((lists_empty 2).behind _).size.trans (by decide)
  obtain ⟨sound, checked⟩ := sound_behind (κ := String) (ν := Nat) 2
    [.put "a" 1, .put "b" 2, .erase "a", .put "c" 3, .put "d" 4, .erase "c"]
  exact ⟨size, sound, checked _⟩

end ScriptTree.RecencyCache

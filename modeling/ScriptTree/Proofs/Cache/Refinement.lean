import ScriptTree.Cache.Recency
import ScriptTree.Proofs.Cache.Chain

/-! # The cache and its list

    A recency list has the entries of a cache in the order of their last use, the one
    used last in front, with nothing of slots, links and indices.  Each request to a
    cache is said here as what it does to this list.

    A cache `Lists` the entries along its chain if its index, its slots and its
    vacant slots agree with them.  Every request to a cache gives what it gives
    to the list, and leads to a cache that lists what it makes of the list.  So
    no sequence of requests can tell a cache from a recency list. -/

namespace ScriptTree

/-- The entries of a cache, the one used last in front. -/
structure RecencyList (κ ν : Type) where
  capacity : Nat
  entries : List (κ × ν)

namespace RecencyList

variable {κ ν : Type}

/-- No entries; there is room for one at least. -/
def empty (capacity : Nat) : RecencyList κ ν := ⟨max capacity 1, []⟩

/-- The keys, the one used last in front. -/
def keys (l : RecencyList κ ν) : List κ := l.entries.map Prod.fst

/-- Drop all entries. -/
def clear (l : RecencyList κ ν) : RecencyList κ ν := { l with entries := [] }

variable [BEq κ] {l : RecencyList κ ν} {key : κ} {value : ν}

/-- The entry of a key. -/
def find? (l : RecencyList κ ν) (key : κ) : Option (κ × ν) := l.entries.find? (·.1 == key)

/-- The entries of all other keys. -/
def without (l : RecencyList κ ν) (key : κ) : List (κ × ν) := l.entries.filter (·.1 != key)

/-- There is an entry for the key. -/
def contains (l : RecencyList κ ν) (key : κ) : Bool := (l.find? key).isSome

/-- The value of a key; the list stays. -/
def peek? (l : RecencyList κ ν) (key : κ) : Option ν := (l.find? key).map Prod.snd

/-- The value of a key, whose entry moves to the front. -/
def get? (l : RecencyList κ ν) (key : κ) : Option ν × RecencyList κ ν :=
  match l.find? key with
  | none => (none, l)
  | some entry => (some entry.2, { l with entries := entry :: l.without key })

/-- Delete the entry of a key; returns its value. -/
def erase (l : RecencyList κ ν) (key : κ) : Option ν × RecencyList κ ν :=
  (l.peek? key, { l with entries := l.without key })

/-- Put an entry in front.  It takes the place of one with its key; otherwise it
    drives out the last entry of a full list, which is returned. -/
def put (l : RecencyList κ ν) (key : κ) (value : ν) : Option (κ × ν) × RecencyList κ ν :=
  if l.contains key then (none, { l with entries := (key, value) :: l.without key })
  else if l.entries.length < l.capacity then
    (none, { l with entries := (key, value) :: l.entries })
  else (l.entries.getLast?, { l with entries := (key, value) :: l.entries.dropLast })

/-- Looking an entry up keeps the capacity. -/
theorem capacity_get? : (l.get? key).2.capacity = l.capacity := by
  rw [get?]
  split <;> rfl

/-- Putting one keeps it. -/
theorem capacity_put : (l.put key value).2.capacity = l.capacity := by
  rw [put]
  split
  · rfl
  · split <;> rfl

/-! ## Where a key stands -/

/-- An entry between others stands for its key alone. -/
structure Splits (l : RecencyList κ ν) (before : List (κ × ν)) (key : κ) (value : ν)
    (behind : List (κ × ν)) : Prop where
  entries : l.entries = before ++ (key, value) :: behind
  alone : ∀ e ∈ before ++ behind, (e.1 == key) = false

variable {before behind : List (κ × ν)}

/-- The entry where the list splits is found. -/
theorem Splits.find?_eq [ReflBEq κ] (h : l.Splits before key value behind) :
    l.find? key = some (key, value) := by
  have none : before.find? (·.1 == key) = none :=
    List.find?_eq_none.mpr fun e he => by simp [h.alone e (List.mem_append_left _ he)]
  rw [find?, h.entries, List.find?_append, none]
  simp

/-- Without it the two parts are left. -/
theorem Splits.without_eq [ReflBEq κ] (h : l.Splits before key value behind) :
    l.without key = before ++ behind := by
  have kept : ∀ es : List (κ × ν), (∀ e ∈ es, e ∈ before ++ behind) →
      es.filter (·.1 != key) = es := fun es hes =>
    List.filter_eq_self.mpr fun e he => by simp [bne, h.alone e (hes e he)]
  have front := kept before fun e he => List.mem_append_left _ he
  have back := kept behind fun e he => List.mem_append_right _ he
  have own : ((key, value) :: behind).filter (·.1 != key) = behind.filter (·.1 != key) :=
    List.filter_cons_of_neg (by simp [bne])
  rw [without, h.entries, List.filter_append, front, own, back]

/-- A key that no entry has is not found. -/
theorem find?_eq_none (h : ∀ e ∈ l.entries, (e.1 == key) = false) : l.find? key = none :=
  List.find?_eq_none.mpr fun e he => by simp [h e he]

/-- Leaving it out changes nothing. -/
theorem without_eq_self (h : ∀ e ∈ l.entries, (e.1 == key) = false) : l.without key = l.entries :=
  List.filter_eq_self.mpr fun e he => by simp [bne, h e he]

end RecencyList

end ScriptTree

namespace ScriptTree.RecencyCache

variable {κ ν : Type} [BEq κ] [Hashable κ] {c d : RecencyCache κ ν} {order xs ys : List Nat}
  {i j : Nat} {key : κ} {value : ν} {entry : κ × ν}

/-- The slots of a list are the chain of the cache, hold one entry for each
    indexed key, and leave the vacant ones to be used again. -/
structure Holds (c : RecencyCache κ ν) (order : List Nat) : Prop extends c.Chain order where
  occupied : ∀ i, (c.pair? i).isSome → i ∈ order
  indexed : ∀ key i, c.index[key]? = some i ↔ (c.pair? i).map Prod.fst = some key
  size : c.index.size = order.length
  vacant : ∀ i ∈ c.vacant, i < c.slots.size ∧ c.pair? i = none
  vacant_nodup : c.vacant.Nodup
  room : order.length ≤ c.capacity

/-- A slot has an entry if it exists. -/
theorem pair?_isSome : (c.pair? i).isSome = (c.slot? i).isSome := by
  rw [pair?, Option.isSome_map]

/-- Moving a slot to the front keeps all entries. -/
@[simp] theorem pair?_touch : (c.touch i).pair? j = c.pair? j := by
  simp [touch]

/-- A slot of the chain that is used goes to its front. -/
theorem Holds.touch (h : c.Holds (xs ++ i :: ys)) : (c.touch i).Holds (i :: (xs ++ ys)) := by
  have alone := h.not_mem
  have there : ((c.unlink i).slot? i).isSome := by
    rw [← pair?_isSome, pair?_unlink, pair?_isSome]
    exact h.linked.isSome (by simp)
  have many : (i :: (xs ++ ys)).length = (xs ++ i :: ys).length := by simp +arith
  constructor
  · exact h.toChain.unlink.linkNewest alone there
  · intro j hj
    rw [pair?_touch] at hj
    have := h.occupied j hj
    grind
  · intro key j
    rw [pair?_touch]
    simpa [RecencyCache.touch] using h.indexed key j
  · rw [many]
    simpa [RecencyCache.touch] using h.size
  · simpa [RecencyCache.touch] using h.vacant
  · simpa [RecencyCache.touch] using h.vacant_nodup
  · rw [many]
    simpa [RecencyCache.touch] using h.room

section Store

omit [BEq κ] [Hashable κ] in
/-- Put something into one slot of many. -/
theorem join_set {slots : Array (Option (RecencySlot κ ν))} {s? : Option (RecencySlot κ ν)} :
    ((slots.set! i s?)[j]?).join =
      if i = j then (if i < slots.size then s? else none) else (slots[j]?).join := by
  rw [Array.set!_eq_setIfInBounds, Array.getElem?_setIfInBounds]
  split
  · split <;> rfl
  · rfl

variable [LawfulBEq κ] [LawfulHashable κ]

/-- What lies in a slot that is given up is returned; the chain closes behind
    it. -/
theorem Holds.vacate (h : c.Holds (xs ++ i :: ys)) (there : c.pair? i = some entry) :
    (c.vacate i).1 = some entry ∧ (c.vacate i).2.Holds (xs ++ ys) ∧
      (c.vacate i).2.capacity = c.capacity ∧
        ∀ j, (c.vacate i).2.pair? j = if i = j then none else c.pair? j := by
  obtain ⟨s, hs, rfl⟩ : ∃ s, (c.unlink i).slot? i = some s ∧ (s.key, s.value) = entry := by
    rw [← pair?_unlink (i := i), pair?] at there
    simpa using there
  have result : c.vacate i = (some (s.key, s.value), { c.unlink i with
      index := (c.unlink i).index.erase s.key
      slots := (c.unlink i).slots.set! i none
      vacant := i :: (c.unlink i).vacant }) := by
    simp [RecencyCache.vacate, hs]
  generalize hd : (c.vacate i).2 = d
  rw [result] at hd ⊢
  -- What the slots, the entries and the other fields are afterwards, each as one equation.
  have slots : ∀ j, d.slot? j = if i = j then none else (c.unlink i).slot? j := by
    intro j
    rw [← hd]
    simp only [slot?, join_set, ite_self]
  have entries : ∀ j, d.pair? j = if i = j then none else c.pair? j := by
    intro j
    rw [pair?, slots]
    split
    · rfl
    · exact pair?_unlink
  have index : d.index = c.index.erase s.key := by simp [← hd]
  have size : d.slots.size = c.slots.size := by simp [← hd]
  have vacant : d.vacant = i :: c.vacant := by simp [← hd]
  have capacity : d.capacity = c.capacity := by simp [← hd]
  have alone := h.not_mem
  have own : c.index[s.key]? = some i := (h.indexed _ _).mpr (by rw [there]; rfl)
  -- The fields of the invariant, in the order in which it lists them.
  refine ⟨rfl, ⟨?_, ?_, ?_, ?_, ?_, ?_, ?_⟩, capacity, entries⟩
  · refine h.toChain.unlink.congr (by rw [← hd]) (by rw [← hd]) fun j hj => ?_
    rw [slots, if_neg (fun same : i = j => alone (same ▸ hj))]
  · intro j hj
    rw [entries] at hj
    have := h.occupied j
    grind
  · intro key j
    rw [index, Std.HashMap.getElem?_erase, entries]
    have := h.indexed key j
    have := h.indexed s.key j
    grind
  · have known : s.key ∈ c.index := Std.HashMap.mem_iff_isSome_getElem?.mpr (by rw [own]; rfl)
    rw [index, Std.HashMap.size_erase, if_pos known, h.size]
    simp +arith
  · have below : i < c.slots.size := lt_size_of_isSome (h.linked.isSome (by simp))
    have := h.vacant
    grind
  · rw [vacant]
    exact List.nodup_cons.mpr ⟨fun hi => by simp [(h.vacant i hi).2] at there, h.vacant_nodup⟩
  · have := h.room
    rw [capacity]
    simp at this ⊢
    omega

/-- A new entry in a slot that was vacant comes in front of the chain. -/
theorem Holds.place (h : c.Holds order) (unknown : c.index[key]? = none)
    (room : order.length < c.capacity) (free : c.pair? i = none)
    (newest : d.newest = c.newest) (oldest : d.oldest = c.oldest)
    (capacity : d.capacity = c.capacity) (index : d.index = c.index.insert key i)
    (slots : ∀ j, d.slot? j = if i = j then some ⟨key, value, none, none⟩ else c.slot? j)
    (vacant : ∀ j ∈ d.vacant, j < d.slots.size ∧ j ≠ i ∧ c.pair? j = none)
    (vacant_nodup : d.vacant.Nodup) :
    (d.linkNewest i).Holds (i :: order) ∧ (d.linkNewest i).capacity = c.capacity ∧
      ∀ j, (d.linkNewest i).pair? j = if i = j then some (key, value) else c.pair? j := by
  -- The slot that is placed is the only one that has changed, and it was not in the chain.
  have entries : ∀ j, d.pair? j = if i = j then some (key, value) else c.pair? j := by
    intro j
    rw [pair?, slots]
    split <;> rfl
  have alone : i ∉ order := fun hi => by
    have := h.linked.isSome hi
    rw [← pair?_isSome, free] at this
    cases this
  have chain : d.Chain order := h.toChain.congr newest oldest fun j hj => by
    rw [slots, if_neg (fun same : i = j => alone (same ▸ hj))]
  refine ⟨⟨?_, ?_, ?_, ?_, ?_, ?_, ?_⟩, by simpa using capacity, by simpa using entries⟩
  · exact chain.linkNewest alone (by simp [slots])
  · intro j hj
    rw [pair?_linkNewest, entries] at hj
    have := h.occupied j
    grind
  · intro other j
    rw [index_linkNewest, index, Std.HashMap.getElem?_insert, pair?_linkNewest, entries]
    have := h.indexed other j
    have := h.indexed key j
    grind
  · have fresh : key ∉ c.index := by simp [Std.HashMap.mem_iff_isSome_getElem?, unknown]
    rw [index_linkNewest, index, Std.HashMap.size_insert, if_neg fresh, h.size]
    rfl
  · intro j hj
    rw [vacant_linkNewest] at hj
    obtain ⟨below, other, none⟩ := vacant j hj
    simp [below, entries, none, other.symm]
  · simpa using vacant_nodup
  · rw [capacity_linkNewest, capacity]
    exact room

/-- Occupying a slot for a new key, be it vacant or one more. -/
theorem Holds.occupy (h : c.Holds order) (unknown : c.index[key]? = none)
    (room : order.length < c.capacity) (value : ν) : ∃ i, c.pair? i = none ∧
      (c.occupy key value).Holds (i :: order) ∧ (c.occupy key value).capacity = c.capacity ∧
        ∀ j, (c.occupy key value).pair? j =
          if i = j then some (key, value) else c.pair? j := by
  simp only [RecencyCache.occupy]
  cases vacant : c.vacant with
  -- Without a vacant slot, a new one is appended.
  | nil =>
      have free : c.pair? c.slots.size = none := by
        rw [pair?, slot?_eq_none_of_size_le (Nat.le_refl _)]
        rfl
      refine ⟨_, free, h.place unknown room free rfl rfl rfl rfl (fun j => ?_) ?_ ?_⟩
      · simp only [slot?, Array.getElem?_push, eq_comm]
        split <;> rfl
      · simp
      · simp
  | cons i rest =>
      have hv := h.vacant
      have nodup := vacant ▸ h.vacant_nodup
      obtain ⟨below, free⟩ := hv i (by simp [vacant])
      refine ⟨i, free, h.place unknown room free rfl rfl rfl rfl (fun j => ?_) ?_ ?_⟩
      · simp only [slot?, join_set, if_pos below]
      · intro j hj
        have := hv j (by simp [vacant, hj])
        simp only [Array.set!_eq_setIfInBounds, Array.size_setIfInBounds]
        grind
      · exact (List.nodup_cons.mp nodup).2

end Store

/-! ## What a cache lists -/

/-- The entries along the chain of the cache are those of the list. -/
def Lists (c : RecencyCache κ ν) (l : RecencyList κ ν) : Prop :=
  ∃ order, c.Holds order ∧ l = ⟨c.capacity, order.filterMap c.pair?⟩

section Position

variable [LawfulBEq κ]

/-- The slot of an indexed key stands somewhere in the chain. -/
theorem Holds.split (h : c.Holds order) (hi : c.index[key]? = some i) :
    ∃ xs ys value, order = xs ++ i :: ys ∧ c.pair? i = some (key, value) ∧
      RecencyList.Splits ⟨c.capacity, order.filterMap c.pair?⟩
        (xs.filterMap c.pair?) key value (ys.filterMap c.pair?) := by
  obtain ⟨⟨_, value⟩, there, rfl⟩ := Option.map_eq_some_iff.mp ((h.indexed key i).mp hi)
  obtain ⟨xs, ys, rfl⟩ := List.append_of_mem (h.occupied i (by rw [there]; rfl))
  refine ⟨xs, ys, value, rfl, there, ⟨?_, ?_⟩⟩
  · simp [there]
  · intro e he
    rw [← List.filterMap_append, List.mem_filterMap] at he
    obtain ⟨j, hj, hej⟩ := he
    refine beq_eq_false_iff_ne.mpr fun same => ?_
    have := (h.indexed _ j).mpr (by rw [hej]; exact congrArg some same)
    have := h.nodup
    grind

/-- A key is not indexed if no entry has it. -/
theorem Holds.absent (h : c.Holds order) :
    c.index[key]? = none ↔ ∀ e ∈ order.filterMap c.pair?, (e.1 == key) = false := by
  constructor
  · intro unknown e he
    obtain ⟨j, -, hej⟩ := List.mem_filterMap.mp he
    refine beq_eq_false_iff_ne.mpr fun same => ?_
    have := (h.indexed key j).mpr (by rw [hej]; exact congrArg some same)
    rw [unknown] at this
    cases this
  · intro other
    cases hi : c.index[key]? with
    | none => rfl
    | some i =>
        obtain ⟨xs, ys, value, rfl, there, -⟩ := h.split hi
        have := other (key, value) (by simp [there])
        simp at this

end Position

/-- Slots outside of the list do not count. -/
theorem filterMap_pair?_of_ne {new : Option (κ × ν)} (outside : i ∉ order)
    (entries : ∀ j, d.pair? j = if i = j then new else c.pair? j) :
    order.filterMap d.pair? = order.filterMap c.pair? :=
  List.filterMap_congr fun j hj => by
    rw [entries, if_neg (fun same : i = j => outside (same ▸ hj))]

/-- The value of a slot is that of its entry. -/
theorem map_value_slot? : (c.slot? i).map RecencySlot.value = (c.pair? i).map Prod.snd := by
  rw [pair?, Option.map_map]
  rfl

/-- There is an entry in each slot of the chain. -/
theorem Holds.length_filterMap (h : c.Holds order) :
    (order.filterMap c.pair?).length = order.length :=
  List.filterMap_length_eq_length.mpr fun i hi => by
    rw [pair?_isSome]
    exact h.linked.isSome hi

/-- A value may be replaced in its slot. -/
theorem Holds.setValue (h : c.Holds order) {old : ν} (there : c.pair? i = some (key, old))
    (value : ν) : (c.modifySlot i fun s => { s with value }).Holds order ∧
      ∀ j, (c.modifySlot i fun s => { s with value }).pair? j =
        if i = j then some (key, value) else c.pair? j := by
  generalize hd : (c.modifySlot i fun s => { s with value }) = d
  have slots : ∀ j, d.slot? j =
      if i = j then (c.slot? j).map fun s => { s with value } else c.slot? j :=
    fun j => hd ▸ slot?_modifySlot _
  have entries : ∀ j, d.pair? j = if i = j then some (key, value) else c.pair? j := by
    intro j
    rw [pair?, slots]
    split
    · rename_i same
      obtain ⟨s, hs, own⟩ := Option.map_eq_some_iff.mp (same ▸ there)
      rw [hs]
      exact congrArg (fun e => some (e.1, value)) own
    · rfl
  -- Values are not part of how entries are kept, so all fields follow from the keys.
  have keys : ∀ j, (d.pair? j).map Prod.fst = (c.pair? j).map Prod.fst := by
    intro j
    rw [entries]
    split
    · rename_i same
      rw [← same, there]
      rfl
    · rfl
  refine ⟨⟨⟨hd ▸ h.newest, hd ▸ h.oldest, h.linked.congr_links fun j _ => ?_, h.nodup⟩, ?_, ?_,
    hd ▸ h.size, ?_, hd ▸ h.vacant_nodup, hd ▸ h.room⟩, entries⟩
  · rw [slots]
    split
    · exact Option.map_map ..
    · rfl
  · intro j hj
    have same := congrArg Option.isSome (keys j)
    rw [Option.isSome_map, Option.isSome_map] at same
    exact h.occupied j (same ▸ hj)
  · intro other j
    rw [keys, ← hd]
    exact h.indexed other j
  · intro j hj
    obtain ⟨below, none⟩ := h.vacant j (by rw [← hd] at hj; exact hj)
    refine ⟨by simpa [← hd, modifySlot] using below, ?_⟩
    simpa [none] using keys j

section Requests

variable [LawfulBEq κ] [LawfulHashable κ] {l : RecencyList κ ν}

/-- An empty cache lists nothing. -/
theorem lists_empty (capacity : Nat) :
    (empty capacity : RecencyCache κ ν).Lists (.empty capacity) := by
  refine ⟨[], ⟨⟨rfl, rfl, trivial, List.nodup_nil⟩, ?_, ?_, ?_, ?_, ?_, ?_⟩, rfl⟩ <;>
    simp [empty, pair?, slot?]

/-- Clearing leaves nothing on either side. -/
theorem Lists.clear (h : c.Lists l) : c.clear.Lists l.clear := by
  obtain ⟨order, h, rfl⟩ := h
  refine ⟨[], ⟨⟨rfl, rfl, trivial, List.nodup_nil⟩, ?_, ?_, ?_, ?_, ?_, ?_⟩, rfl⟩ <;>
    simp [RecencyCache.clear, pair?, slot?]

omit [LawfulHashable κ] in
/-- Both sides find the same without using it. -/
theorem Lists.peek? (h : c.Lists l) (key : κ) : c.peek? key = l.peek? key := by
  obtain ⟨order, h, rfl⟩ := h
  rw [RecencyCache.peek?, RecencyList.peek?]
  cases hi : c.index[key]? with
  | none =>
      rw [RecencyList.find?_eq_none (h.absent.mp hi)]
      rfl
  | some i =>
      obtain ⟨xs, ys, value, -, there, splits⟩ := h.split hi
      rw [splits.find?_eq, Option.bind_some, map_value_slot?, there]

/-- Both know the same keys. -/
theorem Lists.contains (h : c.Lists l) (key : κ) : c.contains key = l.contains key := by
  obtain ⟨order, h, rfl⟩ := h
  rw [RecencyCache.contains, RecencyList.contains, Std.HashMap.contains_eq_isSome_getElem?]
  cases hi : c.index[key]? with
  | none =>
      rw [RecencyList.find?_eq_none (h.absent.mp hi)]
      rfl
  | some i =>
      obtain ⟨xs, ys, value, -, there, splits⟩ := h.split hi
      rw [splits.find?_eq]
      rfl

omit [LawfulBEq κ] [LawfulHashable κ] in
/-- Both have the same room. -/
theorem Lists.capacity (h : c.Lists l) : c.capacity = l.capacity := by
  obtain ⟨order, -, rfl⟩ := h
  rfl

omit [LawfulBEq κ] [LawfulHashable κ] in
/-- The list is never longer than that. -/
theorem Lists.length_le (h : c.Lists l) : l.entries.length ≤ l.capacity := by
  obtain ⟨order, h, rfl⟩ := h
  rw [h.length_filterMap]
  exact h.room

omit [LawfulBEq κ] [LawfulHashable κ] in
/-- The cache counts the entries of the list. -/
theorem Lists.size (h : c.Lists l) : c.size = l.entries.length := by
  obtain ⟨order, h, rfl⟩ := h
  exact h.size.trans h.length_filterMap.symm

omit [LawfulHashable κ] in
/-- Using an entry moves it to the front of the list. -/
theorem Lists.get? (h : c.Lists l) (key : κ) :
    (c.get? key).1 = (l.get? key).1 ∧ (c.get? key).2.Lists (l.get? key).2 := by
  obtain ⟨order, h, rfl⟩ := h
  rw [RecencyCache.get?, RecencyList.get?]
  cases hi : c.index[key]? with
  | none =>
      rw [RecencyList.find?_eq_none (h.absent.mp hi)]
      exact ⟨rfl, order, h, rfl⟩
  | some i =>
      obtain ⟨xs, ys, value, rfl, there, splits⟩ := h.split hi
      rw [splits.find?_eq, splits.without_eq]
      refine ⟨?_, i :: (xs ++ ys), h.touch, ?_⟩
      · exact map_value_slot?.trans (congrArg _ there)
      · simp [RecencyCache.touch, there]

/-- Both lose the same entry. -/
theorem Lists.erase (h : c.Lists l) (key : κ) :
    (c.erase key).1 = (l.erase key).1 ∧ (c.erase key).2.Lists (l.erase key).2 := by
  obtain ⟨order, h, rfl⟩ := h
  rw [RecencyCache.erase, RecencyList.erase, RecencyList.peek?]
  cases hi : c.index[key]? with
  | none =>
      rw [RecencyList.find?_eq_none (h.absent.mp hi), RecencyList.without_eq_self (h.absent.mp hi)]
      exact ⟨rfl, order, h, rfl⟩
  | some i =>
      obtain ⟨xs, ys, value, rfl, there, splits⟩ := h.split hi
      obtain ⟨removed, holds, capacity, entries⟩ := h.vacate there
      rw [splits.find?_eq, splits.without_eq, ← List.filterMap_append,
        ← filterMap_pair?_of_ne h.not_mem entries, ← capacity]
      exact ⟨congrArg (Option.map Prod.snd) removed, xs ++ ys, holds, rfl⟩

/-- The entry used longest ago is the last one of the list. -/
theorem Lists.evict (h : c.Lists l) (some : l.entries ≠ []) :
    c.evict.1 = l.entries.getLast? ∧ c.evict.2.Lists { l with entries := l.entries.dropLast } := by
  obtain ⟨order, h, rfl⟩ := h
  obtain ⟨xs, i, rfl⟩ : ∃ xs i, order = xs ++ [i] := by
    refine ⟨_, _, (List.dropLast_concat_getLast fun none => some ?_).symm⟩
    rw [none]
    rfl
  obtain ⟨entry, there⟩ := Option.isSome_iff_exists.mp (pair?_isSome.trans (h.linked.isSome
    (List.mem_append_right xs (List.mem_singleton_self i))))
  obtain ⟨removed, holds, capacity, entries⟩ := h.vacate there
  have oldest : c.oldest = i := by simpa using h.oldest
  simp only [RecencyCache.evict, oldest]
  refine ⟨by simp [removed, there], xs ++ [], holds, ?_⟩
  rw [filterMap_pair?_of_ne h.not_mem entries, capacity]
  simp [there]

/-- A new key goes in front of the list, if there is room. -/
theorem Lists.occupy (h : c.Lists l) (unknown : ∀ e ∈ l.entries, (e.1 == key) = false)
    (room : l.entries.length < l.capacity) :
    (c.occupy key value).Lists { l with entries := (key, value) :: l.entries } := by
  obtain ⟨order, h, rfl⟩ := h
  rw [h.length_filterMap] at room
  obtain ⟨i, free, holds, capacity, entries⟩ := h.occupy (h.absent.mpr unknown) room value
  have alone : i ∉ order := fun hi => by
    have := h.linked.isSome hi
    rw [← pair?_isSome, free] at this
    cases this
  refine ⟨i :: order, holds, ?_⟩
  rw [capacity, List.filterMap_cons_some (by rw [entries, if_pos rfl]),
    filterMap_pair?_of_ne alone entries]

/-- An entry that is put comes in front of the list. -/
theorem Lists.put (h : c.Lists l) (key : κ) (value : ν) :
    (c.put key value).1 = (l.put key value).1 ∧ (c.put key value).2.Lists (l.put key value).2 := by
  have known : l.contains key = c.index[key]?.isSome :=
    (h.contains key).symm.trans Std.HashMap.contains_eq_isSome_getElem?
  rw [RecencyCache.put, RecencyList.put, known]
  cases hi : c.index[key]? with
  | some i =>
      obtain ⟨order, h, rfl⟩ := h
      -- The key stands at slot i: the list without it is what the others give, in order.
      obtain ⟨xs, ys, old, rfl, there, splits⟩ := h.split hi
      obtain ⟨holds, entries⟩ := h.setValue there value
      simp only [Option.isSome_some, if_true, splits.without_eq, true_and]
      refine ⟨i :: (xs ++ ys), holds.touch, ?_⟩
      rw [List.filterMap_congr fun j _ => pair?_touch,
        List.filterMap_cons_some (by rw [entries, if_pos rfl]),
        filterMap_pair?_of_ne h.not_mem entries, List.filterMap_append]
      simp [RecencyCache.touch, modifySlot]
  | none =>
      have unknown : ∀ e ∈ l.entries, (e.1 == key) = false := by
        obtain ⟨order, h, rfl⟩ := h
        exact h.absent.mp hi
      simp only [Option.isSome_none, Bool.false_eq_true, if_false, h.size, h.capacity]
      by_cases full : l.capacity ≤ l.entries.length
      -- A full cache gives up its last entry first; the key is not among the others.
      · have some : l.entries ≠ [] := fun none => by
          have := h.capacity ▸ c.capacity_pos
          simp [none] at full
          omega
        obtain ⟨evicted, rest⟩ := h.evict some
        simp only [if_pos full, if_neg (Nat.not_lt.mpr full)]
        refine ⟨evicted, rest.occupy (fun e he => unknown e (List.dropLast_subset _ he)) ?_⟩
        have := h.length_le
        have := List.length_pos_of_ne_nil some
        show l.entries.dropLast.length < l.capacity
        rw [List.length_dropLast]
        omega
      · simp only [if_neg full, if_pos (Nat.lt_of_not_le full), true_and]
        exact h.occupy unknown (Nat.lt_of_not_le full)

end Requests

end ScriptTree.RecencyCache

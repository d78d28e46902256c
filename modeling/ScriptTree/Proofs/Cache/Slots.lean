import Mathlib.Data.List.Induction
import Mathlib.Data.List.Nodup
import ScriptTree.Proofs.Cache.Requests

/-! # Slots — the slots of a cache are its chain and the vacant ones

    A slot that is neither linked nor vacant would be lost, and one that is vacant twice
    would be given to two entries.  So a cache has to be counted: its chain and its vacant
    slots are all of its slots, each of them once.

    From that all else follows.  A slot without an entry is vacant, for no other place is
    left; and the links lead over the occupied slots and over nothing else, from the newest
    to the oldest and back. -/

namespace ScriptTree.RecencyCache

variable {κ ν : Type} [BEq κ] [Hashable κ] {c : RecencyCache κ ν} {order xs ys : List Nat}
  {i j steps : Nat} {key : κ} {value : ν} {entry : κ × ν}

/-! ## Following links -/

/-- The slots that are met on the way from one slot to the next, over at most so many steps;
    a vacant slot ends the way. -/
def follow (c : RecencyCache κ ν) (link : RecencySlot κ ν → Option Nat) :
    Nat → Option Nat → List Nat
  | 0, _ => []
  | _ + 1, none => []
  | steps + 1, some i =>
    i :: match c.slot? i with
      | none => []
      | some s => c.follow link steps (link s)

/-- From the newest slot the way leads along the chain. -/
theorem follow_older {newer : Option Nat} (h : Linked c.slot? newer order none)
    (enough : order.length ≤ steps) : c.follow RecencySlot.older steps order.head? = order := by
  induction order generalizing newer steps with
  | nil => cases steps <;> rfl
  | cons i rest ih =>
      obtain ⟨⟨s, hs, -, older⟩, next⟩ := h
      rw [Option.or_none] at older
      cases steps with
      | zero => simp at enough
      | succ steps =>
          have behind := ih next (Nat.le_of_succ_le_succ enough)
          simp only [List.head?_cons, follow, hs, older, behind]

/-- From the oldest slot the way leads back. -/
theorem follow_newer {older : Option Nat} (h : Linked c.slot? none order older)
    (enough : order.length ≤ steps) :
    c.follow RecencySlot.newer steps order.getLast? = order.reverse := by
  -- The way back starts at the end, so the list is taken apart from there.
  induction order using List.reverseRecOn generalizing older steps with
  | nil => cases steps <;> rfl
  | append_singleton front i ih =>
      obtain ⟨front, ⟨s, hs, newer, -⟩, -⟩ := Linked.append.mp h
      rw [Option.or_none] at newer
      cases steps with
      | zero => simp at enough
      | succ steps =>
          have before := ih front (by simpa using enough)
          simp only [List.getLast?_concat, follow, hs, newer, before, List.reverse_append,
            List.reverse_singleton, List.singleton_append]

/-! ## All slots -/

/-- The slots of a cache are those of its chain and the vacant ones, and there are no more
    than it has room for. -/
structure Fills (c : RecencyCache κ ν) (order : List Nat) : Prop extends c.Holds order where
  all : order.length + c.vacant.length = c.slots.size
  few : c.slots.size ≤ c.capacity

/-- The slots of a cache agree with one another: the indexed keys and the vacant slots make up
    all of them, the keys lead to their slots, and the links lead over the occupied slots in
    both directions. -/
structure Sound (c : RecencyCache κ ν) : Prop where
  counted : c.index.size + c.vacant.length = c.slots.size
  few : c.slots.size ≤ c.capacity
  vacant_nodup : c.vacant.Nodup
  mem_vacant : ∀ i, i ∈ c.vacant ↔ i < c.slots.size ∧ c.slot? i = none
  indexed : ∀ key i, c.index[key]? = some i ↔ ∃ s, c.slot? i = some s ∧ s.key = key
  linked : ∃ order : List Nat, order.Nodup ∧ (∀ i, i ∈ order ↔ (c.slot? i).isSome) ∧
    order.head? = c.newest ∧ order.getLast? = c.oldest ∧
    ∀ steps, c.slots.size ≤ steps →
      c.follow RecencySlot.older steps c.newest = order ∧
        c.follow RecencySlot.newer steps c.oldest = order.reverse

namespace Fills

/-- A cleared cache has no slots at all. -/
theorem clear (c : RecencyCache κ ν) : c.clear.Fills [] := by
  refine ⟨⟨⟨rfl, rfl, trivial, List.nodup_nil⟩, ?_, ?_, ?_, ?_, ?_, ?_⟩, rfl, Nat.zero_le _⟩ <;>
    simp [RecencyCache.clear, pair?, slot?]

/-- Nor has a new one. -/
theorem start (capacity : Nat) : (empty capacity : RecencyCache κ ν).Fills [] :=
  clear (empty capacity)

/-- A slot is occupied if it stands in the chain. -/
theorem mem_iff (h : c.Fills order) : i ∈ order ↔ (c.slot? i).isSome :=
  ⟨h.linked.isSome, fun there => h.occupied i (pair?_isSome.trans there)⟩

/-- Every slot that is not occupied is vacant: there are not more slots than stand in the
    chain and among the vacant ones. -/
theorem mem_vacant (h : c.Fills order) : i ∈ c.vacant ↔ i < c.slots.size ∧ c.slot? i = none := by
  have none_iff : ∀ j, c.pair? j = none ↔ c.slot? j = none := fun j => Option.map_eq_none_iff
  have apart : order.Disjoint c.vacant := fun j occupied vacant => by
    have there := h.mem_iff.mp occupied
    rw [(none_iff j).mp (h.vacant j vacant).2] at there
    cases there
  have below : order ++ c.vacant ⊆ List.range c.slots.size := fun j hj => by
    rw [List.mem_range]
    obtain occupied | vacant := List.mem_append.mp hj
    · exact lt_size_of_isSome (h.mem_iff.mp occupied)
    · exact (h.vacant j vacant).1
  have every : (order ++ c.vacant).Perm (List.range c.slots.size) := by
    refine ((h.nodup.append h.vacant_nodup apart).subperm below).perm_of_length_le ?_
    exact Nat.le_of_eq (by rw [List.length_append, h.all, List.length_range])
  constructor
  · exact fun vacant => (h.vacant i vacant).imp_right (none_iff i).mp
  · rintro ⟨within, empty⟩
    obtain occupied | vacant :=
      List.mem_append.mp (every.mem_iff.mpr (List.mem_range.mpr within))
    · rw [h.mem_iff, empty] at occupied
      cases occupied
    · exact vacant

/-- What fills its slots has them in order. -/
theorem sound (h : c.Fills order) : c.Sound where
  counted := by rw [h.size, h.all]
  few := h.few
  vacant_nodup := h.vacant_nodup
  mem_vacant _ := h.mem_vacant
  indexed key i := by simp [h.indexed, pair?]
  linked := by
    refine ⟨order, h.nodup, fun _ => h.mem_iff, h.newest.symm, h.oldest.symm,
      fun steps enough => ?_⟩
    have reach := Nat.le_trans h.length_le enough
    rw [h.newest, h.oldest]
    exact ⟨follow_older h.linked reach, follow_newer h.linked reach⟩

/-- Using a slot changes its place in the chain only. -/
theorem touch (h : c.Fills (xs ++ i :: ys)) : (c.touch i).Fills (i :: (xs ++ ys)) where
  toHolds := h.toHolds.touch
  all := by
    have := h.all
    simp only [RecencyCache.touch, vacant_linkNewest, vacant_unlink, size_slots_linkNewest,
      size_slots_unlink, List.length_cons, List.length_append] at this ⊢
    omega
  few := by simpa [RecencyCache.touch] using h.few

/-- A new value for a slot moves no slot. -/
theorem setValue (h : c.Fills order) {old : ν} (there : c.pair? i = some (key, old))
    (value : ν) : (c.modifySlot i fun s => { s with value }).Fills order where
  toHolds := (h.toHolds.setValue there value).1
  all := by simpa [modifySlot] using h.all
  few := by simpa [modifySlot] using h.few

variable [LawfulBEq κ] [LawfulHashable κ]

/-- A slot that is given up goes from the chain to the vacant ones. -/
theorem vacate (h : c.Fills (xs ++ i :: ys)) (there : c.pair? i = some entry) :
    (c.vacate i).2.Fills (xs ++ ys) := by
  obtain ⟨-, holds, capacity, -⟩ := h.toHolds.vacate there
  have grown : (c.vacate i).2.vacant.length = c.vacant.length + 1 ∧
      (c.vacate i).2.slots.size = c.slots.size := by
    obtain ⟨s, hs, -⟩ : ∃ s, (c.unlink i).slot? i = some s ∧ (s.key, s.value) = entry := by
      rw [← pair?_unlink (i := i), pair?] at there
      simpa using there
    simp [RecencyCache.vacate, hs]
  refine ⟨holds, ?_, ?_⟩
  · have := h.all
    rw [grown.1, grown.2]
    simp only [List.length_append, List.length_cons] at this ⊢
    omega
  · rw [grown.2, capacity]
    exact h.few

/-- A new entry takes a vacant slot, and one more slot only if there is none. -/
theorem occupy (h : c.Fills order) (unknown : c.index[key]? = none)
    (room : order.length < c.capacity) (value : ν) :
    ∃ i, (c.occupy key value).Fills (i :: order) := by
  obtain ⟨i, -, holds, capacity, -⟩ := h.toHolds.occupy unknown room value
  have all := h.all
  refine ⟨i, holds, ?_, ?_⟩
  · simp only [RecencyCache.occupy]
    cases vacant : c.vacant with
    | nil =>
        rw [vacant] at all
        simpa using all
    | cons i rest =>
        rw [vacant] at all
        simp only [List.length_cons, vacant_linkNewest, size_slots_linkNewest,
          Array.set!_eq_setIfInBounds, Array.size_setIfInBounds] at all ⊢
        omega
  · rw [capacity]
    simp only [RecencyCache.occupy]
    cases vacant : c.vacant with
    | nil =>
        rw [vacant] at all
        simp only [List.length_nil, size_slots_linkNewest, Array.size_push] at all ⊢
        omega
    | cons i rest => simpa using h.few

end Fills

end ScriptTree.RecencyCache

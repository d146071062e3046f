/-!
# Sets of vertices

A set of the numbers below a fixed bound, as one mark for each of them. Numbers at or above the
bound are never in the set, so two sets with the same bound and the same members are equal.
-/

namespace TemplateTrace

/-- A set of vertices. -/
structure VertexSet where
  marks : Array Bool
  deriving DecidableEq, Repr, Inhabited

namespace VertexSet

/-- The set with no member, of vertices below `bound`. -/
def empty (bound : Nat) : VertexSet := ⟨Array.replicate bound false⟩

/-- The number of vertices that may be members. -/
def bound (set : VertexSet) : Nat := set.marks.size

/-- Whether a vertex is in the set. -/
def contains (set : VertexSet) (v : Nat) : Bool := set.marks.getD v false

/-- The set with one more vertex. -/
def insert (set : VertexSet) (v : Nat) : VertexSet := ⟨set.marks.setIfInBounds v true⟩

/-- The set without one vertex. -/
def erase (set : VertexSet) (v : Nat) : VertexSet := ⟨set.marks.setIfInBounds v false⟩

@[simp] theorem bound_empty (n : Nat) : (empty n).bound = n := by simp [bound, empty]

@[simp] theorem bound_insert (set : VertexSet) (v : Nat) : (set.insert v).bound = set.bound := by
  simp [bound, insert]

@[simp] theorem bound_erase (set : VertexSet) (v : Nat) : (set.erase v).bound = set.bound := by
  simp [bound, erase]

@[simp] theorem contains_empty (n v : Nat) : (empty n).contains v = false := by
  simp [contains, empty, Array.getD_eq_getD_getElem?, Array.getElem?_replicate]
  split <;> rfl

theorem contains_insert (set : VertexSet) (v w : Nat) :
    (set.insert v).contains w = (set.contains w || (v == w && decide (v < set.bound))) := by
  simp only [contains, insert, bound, Array.getD_eq_getD_getElem?,
    Array.getElem?_setIfInBounds]
  by_cases h : v = w
  · subst h
    by_cases hv : v < set.marks.size <;> simp [hv]
  · simp [h]

theorem contains_erase (set : VertexSet) (v w : Nat) :
    (set.erase v).contains w = (set.contains w && v != w) := by
  simp only [contains, erase, Array.getD_eq_getD_getElem?, Array.getElem?_setIfInBounds]
  by_cases h : v = w
  · subst h
    by_cases hv : v < set.marks.size <;> simp [hv]
  · simp [h]

end VertexSet

end TemplateTrace

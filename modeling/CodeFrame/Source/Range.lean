/-!
# Line ranges

The offsets that one line covers. Both ends belong to the range.
-/

namespace CodeFrame

/-- The offsets from `first` to `last`, both included. -/
structure LineRange where
  first : Int
  last : Int
  deriving DecidableEq, Repr

namespace LineRange

instance : Membership Int LineRange := ⟨fun r p => r.first ≤ p ∧ p ≤ r.last⟩

theorem mem_def {p : Int} {r : LineRange} : p ∈ r ↔ r.first ≤ p ∧ p ≤ r.last := Iff.rfl

instance (p : Int) (r : LineRange) : Decidable (p ∈ r) :=
  decidable_of_iff (r.first ≤ p ∧ p ≤ r.last) Iff.rfl

/-- Ranges are ordered by their first offset, then by their last one. -/
instance : Ord LineRange :=
  ⟨fun r s => (compare r.first s.first).then (compare r.last s.last)⟩

end LineRange

end CodeFrame

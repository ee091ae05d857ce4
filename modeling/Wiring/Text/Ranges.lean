/-!
# Ranges of Code Points

Classes of characters given by ranges of code points.

## Main statements

* `Ranges.contains`: whether a code point lies in one of the ranges.
* `Ranges.contains_eq_false_of_lt`: nothing below the first of ordered ranges lies in them.
-/

namespace Wiring.Text

/-- Ranges of code points, both ends included. -/
abbrev Ranges := List (Nat × Nat)

namespace Ranges

/-- Whether a code point lies in one of the ranges. -/
def contains (rs : Ranges) (n : Nat) : Bool := rs.any fun (first, last) => first ≤ n && n ≤ last

/-- Whether ranges are in order and do not touch, all of them beginning after `n`. -/
def orderedFrom (n : Nat) : Ranges → Bool
  | [] => true
  | (first, last) :: rest => n < first && first ≤ last && orderedFrom (last + 1) rest

theorem contains_eq_false_of_lt {rs : Ranges} {n m : Nat} (h : orderedFrom n rs = true)
    (hm : m ≤ n) : rs.contains m = false := by
  induction rs generalizing n with
  | nil => rfl
  | cons r rest ih =>
    obtain ⟨first, last⟩ := r
    simp only [orderedFrom, Bool.and_eq_true, decide_eq_true_eq] at h
    have hrest := ih h.2 (by omega)
    unfold contains at hrest ⊢
    rw [List.any_cons, hrest]
    have : ¬ first ≤ m := by omega
    simp [this]

end Ranges

end Wiring.Text

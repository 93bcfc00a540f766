/-
The order of Python floats.  NaN aside they are linearly ordered, with the
infinities at the ends.
-/
import Mathlib.Data.List.Sort
import Mathlib.Order.WithBot
import TeslamateWatchdog.Foundation.PyValue

namespace Foundation

namespace PyFloat

/-- Where a float stands among the others; a NaN has no place of its own. -/
def rank : PyFloat → WithBot (WithTop ℚ)
  | .finite value => ((value : WithTop ℚ) : WithBot (WithTop ℚ))
  | .posInf => ((⊤ : WithTop ℚ) : WithBot (WithTop ℚ))
  | .negInf => ⊥
  | .nan => ⊥

variable {left right : PyFloat}

theorem le_iff_rank (hleft : left ≠ .nan) (hright : right ≠ .nan) :
    left.le right = true ↔ left.rank ≤ right.rank := by
  cases left with
  | nan => exact absurd rfl hleft
  | negInf =>
      cases right with
      | nan => exact absurd rfl hright
      | _ => simp [le, rank]
  | finite value =>
      cases right with
      | nan => exact absurd rfl hright
      | _ => simp [le, rank]
  | posInf =>
      cases right with
      | nan => exact absurd rfl hright
      | _ => simp [le, rank]

theorem ne_nan_of_le (hle : left.le right = true) :
    left ≠ .nan ∧ right ≠ .nan := by
  cases left <;> cases right <;> simp_all [le]

theorem lt_eq_false_iff (hleft : left ≠ .nan) (hright : right ≠ .nan) :
    left.lt right = false ↔ right.le left = true := by
  rw [lt, Bool.and_eq_false_iff, Bool.not_eq_false', or_iff_right_iff_imp,
    Bool.eq_false_iff, Ne, le_iff_rank hleft hright, le_iff_rank hright hleft]
  exact fun hnot => (not_le.mp hnot).le

theorem eq_of_le_of_le (hle : left.le right = true) (hge : right.le left = true) :
    left = right := by
  cases left <;> cases right <;> simp_all [le]
  exact le_antisymm hle hge

/-- Sorting by "no later one is before an earlier one" sorts by the order of
floats. -/
theorem pairwise_insertionSort {α : Type} {key : α → PyFloat}
    {before : α → α → Prop} [DecidableRel before]
    (hbefore : ∀ a b, before a b ↔ (key b).lt (key a) = false)
    {items : List α} (hnan : ∀ item ∈ items, key item ≠ .nan) :
    (items.insertionSort before).Pairwise
      fun a b => (key a).le (key b) = true := by
  have hmem : ∀ item ∈ items.insertionSort before, key item ≠ .nan :=
    fun item hitem => hnan item ((List.mem_insertionSort before).mp hitem)
  have hranks := List.pairwise_insertionSort (· ≤ ·)
    (items.map fun item => (key item).rank)
  rw [← List.map_insertionSort before (· ≤ ·) fun item => (key item).rank,
    List.pairwise_map] at hranks
  · refine List.Pairwise.imp_of_mem ?_ hranks
    intro a b ha hb hle
    exact (le_iff_rank (hmem a ha) (hmem b hb)).mpr hle
  · intro a ha b hb
    rw [hbefore, lt_eq_false_iff (hnan b hb) (hnan a ha),
      le_iff_rank (hnan a ha) (hnan b hb)]

end PyFloat

end Foundation

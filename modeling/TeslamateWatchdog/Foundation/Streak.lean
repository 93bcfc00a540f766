/-
How a counter that is bumped on agreement and reset on disagreement relates to
the history it has seen: its value is the length of the longest agreeing end.
-/
import Mathlib.Data.List.DropRight

namespace Foundation

universe u

variable {A : Type u}

/-- Length of the longest end of `history` on which `agrees` holds. -/
def streak (agrees : A → Bool) (history : List A) : Nat :=
  (history.rtakeWhile agrees).length

/-- The last `count` entries of `history` exist and all satisfy `agrees`. -/
def LastAll (agrees : A → Bool) (count : Nat) (history : List A) : Prop :=
  ∃ ending : List A, ending <:+ history ∧ ending.length = count ∧
    ∀ entry ∈ ending, agrees entry = true

theorem streak_concat (agrees : A → Bool) (history : List A) (entry : A) :
    streak agrees (history ++ [entry]) =
      if agrees entry then streak agrees history + 1 else 0 := by
  by_cases hagrees : agrees entry = true
  · simp [streak, hagrees]
  · simp [streak, hagrees]

theorem streak_concat_of_agrees {agrees : A → Bool} (history : List A)
    {entry : A} (hagrees : agrees entry = true) :
    streak agrees (history ++ [entry]) = streak agrees history + 1 := by
  rw [streak_concat, if_pos hagrees]

/-- An agreeing end is never longer than the longest one. -/
theorem length_le_streak {agrees : A → Bool} {history ending : List A}
    (hending : ending <:+ history)
    (hall : ∀ entry ∈ ending, agrees entry = true) :
    ending.length ≤ streak agrees history := by
  induction history using List.reverseRecOn generalizing ending with
  | nil =>
      have hnil : ending = [] := List.suffix_nil.mp hending
      simp [hnil]
  | append_singleton history entry ih =>
      rcases List.suffix_concat_iff.mp hending with hnil | ⟨front, hfront, hsuffix⟩
      · simp [hnil]
      · subst hfront
        have hentry : agrees entry = true := hall entry (by simp)
        have hlength := ih hsuffix fun other hother =>
          hall other (List.mem_append_left [entry] hother)
        rw [streak_concat_of_agrees history hentry, List.length_append]
        exact Nat.add_le_add_right hlength 1

/-- Reading a streak counter against a threshold is asking about the last
`count` entries of the history. -/
theorem le_streak_iff (agrees : A → Bool) (count : Nat) (history : List A) :
    count ≤ streak agrees history ↔ LastAll agrees count history := by
  constructor
  · intro hcount
    let longest := history.rtakeWhile agrees
    refine ⟨longest.drop (longest.length - count), ?_, ?_, ?_⟩
    · exact (List.drop_suffix _ _).trans (List.rtakeWhile_suffix agrees history)
    · have hle : count ≤ longest.length := hcount
      rw [List.length_drop]
      omega
    · intro entry hentry
      exact List.mem_rtakeWhile_imp (List.mem_of_mem_drop hentry)
  · rintro ⟨ending, hending, rfl, hall⟩
    exact length_le_streak hending hall

instance lastAllDecidable (agrees : A → Bool) (count : Nat)
    (history : List A) : Decidable (LastAll agrees count history) :=
  decidable_of_iff _ (le_streak_iff agrees count history)

example : LastAll (· == 3) 2 [1, 3, 3] := by decide

end Foundation

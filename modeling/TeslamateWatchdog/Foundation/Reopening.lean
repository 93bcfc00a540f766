/-
When an admission test passes again.  For bookings in order, what stands in the
way is the last one, until its gap has passed, and the one that fills the
window, until it has left it.
-/
import TeslamateWatchdog.Foundation.Ledger

namespace Foundation

universe u

variable {T : Type u}

/-- Counting from a bound on: the entry that would be one too many is not
counted. -/
theorem countP_lt_iff {p : T → Bool} {cap : Nat} {entries : List T}
    (hlater : entries.Pairwise fun earlier later =>
      p earlier = true → p later = true) :
    entries.countP p < cap ↔ entries.length < cap ∨
      ∃ entry, entries[entries.length - cap]? = some entry ∧ p entry = false := by
  induction entries with
  | nil => simp
  | cons first rest ih =>
      obtain ⟨hfirst, hrest⟩ := List.pairwise_cons.mp hlater
      have hall : p first = true → (first :: rest).countP p = rest.length + 1 := by
        intro hcounted
        rw [List.countP_eq_length.mpr, List.length_cons]
        exact List.forall_mem_cons.mpr ⟨hcounted,
          fun later hmem => hfirst later hmem hcounted⟩
      rw [List.length_cons]
      rcases Nat.lt_trichotomy (rest.length + 1) cap with hroom | hfull | hover
      · have hcount := @List.countP_le_length T p (first :: rest)
        rw [List.length_cons] at hcount
        simp only [hroom, true_or, iff_true]
        omega
      · rw [← hfull, Nat.sub_self, List.getElem?_cons_zero]
        cases hp : p first with
        | true => simp [hall hp, hp]
        | false =>
            have hcount := @List.countP_le_length T p rest
            rw [List.countP_cons_of_neg (by simp [hp])]
            simp only [lt_self_iff_false, Option.some.injEq, false_or]
            exact ⟨fun _ => ⟨first, rfl, hp⟩, fun _ => by omega⟩
      · have hindex : rest.length + 1 - cap = rest.length - cap + 1 := by omega
        have hlong : ¬rest.length + 1 < cap := by omega
        rw [hindex, List.getElem?_cons_succ]
        simp only [hlong, false_or]
        cases hp : p first with
        | true =>
            rw [hall hp]
            constructor
            · intro hcount
              omega
            · rintro ⟨entry, hentry, hnot⟩
              have hcounted := hfirst entry (List.mem_of_getElem? hentry) hp
              rw [hnot] at hcounted
              cases hcounted
        | false =>
            have hlonger : ¬rest.length < cap := by omega
            rw [List.countP_cons_of_neg (by simp [hp]), ih hrest]
            simp only [hlonger, false_or]

variable [AddCommGroup T] [LinearOrder T]

/-- Nothing that was booked stands in the way any more. -/
structure Reopened (gap width : T) (cap : Nat) (booked : List T) (now : T) :
    Prop where
  gap_passed : ∀ last, booked.getLast? = some last → last + gap ≤ now
  room : booked.length < cap ∨ ∃ oldest,
    booked[booked.length - cap]? = some oldest ∧ oldest + width < now

variable {gap width now : T} {cap : Nat} {booked : List T}

theorem under_cap_iff [IsOrderedAddMonoid T] (hsorted : booked.Pairwise (· ≤ ·)) :
    booked.countP (fun time => now - width ≤ time) < cap ↔
      booked.length < cap ∨ ∃ oldest,
        booked[booked.length - cap]? = some oldest ∧ oldest + width < now := by
  rw [countP_lt_iff]
  · simp only [decide_eq_false_iff_not, not_le, lt_sub_iff_add_lt]
  · refine hsorted.imp fun hle hcounted => ?_
    rw [decide_eq_true_eq] at hcounted ⊢
    exact hcounted.trans hle

namespace Reopened

/-- With a cap of one or more, it opens some time. -/
theorem eventually (hcap : 0 < cap) (booked : List T) :
    ∃ opening, ∀ now, opening < now → Reopened gap width cap booked now := by
  have hgap : ∃ opening, ∀ last, booked.getLast? = some last →
      last + gap ≤ opening := by
    cases booked.getLast? with
    | none => exact ⟨0, fun last hnone => by cases hnone⟩
    | some last => exact ⟨last + gap, fun other hother => by cases hother; rfl⟩
  have hroom : ∃ opening, booked.length < cap ∨ ∃ oldest,
      booked[booked.length - cap]? = some oldest ∧ oldest + width ≤ opening := by
    by_cases hlength : booked.length < cap
    · exact ⟨0, .inl hlength⟩
    · have hindex : booked.length - cap < booked.length := by omega
      exact ⟨_, .inr ⟨_, List.getElem?_eq_getElem hindex, le_rfl⟩⟩
  obtain ⟨first, hfirst⟩ := hgap
  obtain ⟨second, hsecond⟩ := hroom
  refine ⟨max first second, fun now hnow => ⟨fun last hlast => ?_, ?_⟩⟩
  · exact (hfirst last hlast).trans ((le_max_left _ _).trans hnow.le)
  · refine hsecond.imp_right fun ⟨oldest, holdest, hleft⟩ => ?_
    exact ⟨oldest, holdest, hleft.trans_lt ((le_max_right _ _).trans_lt hnow)⟩

end Reopened

end Foundation

/-
The last event of a trace that says something.  It is what a variable holds
that every such event overwrites and no other event touches.
-/
import Mathlib.Data.List.Basic
import Mathlib.Data.List.Induction
import Mathlib.Order.Defs.PartialOrder

namespace Foundation

universe u v

variable {E : Type u} {V : Type v}

/-- What the last event that says anything says. -/
def latest (reads : E → Option V) (trace : List E) : Option V :=
  (trace.filterMap reads).getLast?

variable {reads : E → Option V} {trace : List E} {event : E} {value : V}

@[simp]
theorem latest_nil (reads : E → Option V) : latest reads [] = none := rfl

theorem latest_append (reads : E → Option V) (front back : List E) :
    latest reads (front ++ back) = (latest reads back).or (latest reads front) := by
  simp [latest, List.getLast?_append]

theorem latest_concat (reads : E → Option V) (trace : List E) (event : E) :
    latest reads (trace ++ [event]) = (reads event).or (latest reads trace) := by
  cases hreads : reads event <;> simp [latest, hreads]

theorem latest_concat_of_some (hreads : reads event = some value)
    (trace : List E) : latest reads (trace ++ [event]) = some value := by
  rw [latest_concat, hreads, Option.some_or]

theorem latest_concat_of_none (hreads : reads event = none) (trace : List E) :
    latest reads (trace ++ [event]) = latest reads trace := by
  rw [latest_concat, hreads, Option.none_or]

theorem latest_eq_none_iff :
    latest reads trace = none ↔ ∀ event ∈ trace, reads event = none := by
  simp [latest]

/-- The event that says it, and only silence after it. -/
theorem latest_eq_some_iff :
    latest reads trace = some value ↔
      ∃ front event rest, trace = front ++ event :: rest ∧
        reads event = some value ∧ ∀ later ∈ rest, reads later = none := by
  constructor
  · intro hlatest
    induction trace using List.reverseRecOn with
    | nil => cases hlatest
    | append_singleton trace last ih =>
        cases hreads : reads last with
        | some found =>
            rw [latest_concat_of_some hreads] at hlatest
            rw [hlatest] at hreads
            exact ⟨trace, last, [], rfl, hreads, by simp⟩
        | none =>
            rw [latest_concat_of_none hreads] at hlatest
            obtain ⟨front, event, rest, rfl, hvalue, hsilent⟩ := ih hlatest
            refine ⟨front, event, rest ++ [last], by simp, hvalue, ?_⟩
            intro later hlater
            rcases List.mem_append.mp hlater with hrest | hlast
            · exact hsilent later hrest
            · rw [List.mem_singleton.mp hlast, hreads]
  · rintro ⟨front, event, rest, rfl, hvalue, hsilent⟩
    have hrest : rest.filterMap reads = [] :=
      List.filterMap_eq_nil_iff.mpr hsilent
    simp [latest, hvalue, hrest]

/-- Somebody says it, and nobody says otherwise. -/
theorem latest_of_agree (hsaid : ∃ event ∈ trace, reads event = some value)
    (hagree : ∀ event ∈ trace, reads event = none ∨ reads event = some value) :
    latest reads trace = some value := by
  cases hlatest : latest reads trace with
  | none =>
      obtain ⟨event, hevent, hvalue⟩ := hsaid
      rw [latest_eq_none_iff.mp hlatest event hevent] at hvalue
      cases hvalue
  | some found =>
      obtain ⟨front, event, rest, rfl, hfound, -⟩ :=
        latest_eq_some_iff.mp hlatest
      rcases hagree event (by simp) with hnone | hvalue
      · rw [hnone] at hfound
        cases hfound
      · rw [← hfound, hvalue]

/-- What is said again later can be said before all as well. -/
theorem latest_cons_of_mem {copy : E} (hevent : event ∈ trace)
    (hcopy : reads event = none → reads copy = none) :
    latest reads (copy :: trace) = latest reads trace := by
  rw [← List.singleton_append, latest_append]
  cases hlatest : latest reads trace with
  | some found => rfl
  | none =>
      have hsilent := hcopy (latest_eq_none_iff.mp hlatest event hevent)
      rw [Option.none_or, latest_eq_none_iff]
      simpa using hsilent

/-- What is read elsewhere is found there, if every event of the trace says the
same. -/
theorem latest_map {W : Type v} {other : E → Option W} {change : V → W}
    (hsame : ∀ event ∈ trace, other event = (reads event).map change) :
    latest other trace = (latest reads trace).map change := by
  rw [latest, latest, List.filterMap_congr hsame, ← List.map_filterMap,
    List.getLast?_map]

/-- In a trace in the order of time, no event that says anything comes later in
time than the latest. -/
theorem exists_of_latest {T : Type u} [Preorder T] {time : E → T}
    (hordered : trace.Pairwise fun event later => time event ≤ time later)
    (hlatest : latest reads trace = some value) :
    ∃ last ∈ trace, reads last = some value ∧
      ∀ event ∈ trace, reads event ≠ none → time event ≤ time last := by
  obtain ⟨front, last, rest, rfl, hlast, hsilent⟩ :=
    latest_eq_some_iff.mp hlatest
  refine ⟨last, by simp, hlast, ?_⟩
  intro event hevent hreads
  rcases List.mem_append.mp hevent with hfront | hrest
  · exact (List.pairwise_append.mp hordered).2.2 event hfront last
      List.mem_cons_self
  · rcases List.mem_cons.mp hrest with rfl | hlater
    · exact le_refl (time event)
    · exact absurd (hsilent event hlater) hreads

end Foundation

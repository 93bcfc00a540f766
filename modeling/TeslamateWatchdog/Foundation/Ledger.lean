/-
Cooldown and sliding-window budgets.  An action is admitted at a time `now`
against the bookings made so far, starts at some later time, and is booked
later still.  Whatever the three clocks read, the starts and the bookings of
such a ledger respect both budgets.
-/
import Mathlib.Algebra.Order.Group.Defs
import Mathlib.Data.List.Basic
import Mathlib.Tactic.Linarith

namespace Foundation

universe u

variable {T : Type u} [AddCommGroup T] [LinearOrder T]

/-- One admitted action: when it started and under which time it was booked. -/
structure Booking (T : Type u) where
  start : T
  booked : T
deriving Repr

/-- Any two entries of a chronological list are at least `gap` apart. -/
def Spaced (gap : T) (times : List T) : Prop :=
  times.Pairwise fun earlier later => earlier + gap ≤ later

/-- Every closed window of the given width holds at most `cap` entries. -/
def Capped (width : T) (cap : Nat) (times : List T) : Prop :=
  ∀ opening : T,
    times.countP (fun time => opening ≤ time ∧ time ≤ opening + width) ≤ cap

/-- The admission test: the gap has passed since every booking, and fewer than
`cap` bookings are at most `width` old. -/
structure Admits (gap width : T) (cap : Nat) (booked : List T) (now : T) :
    Prop where
  gap_passed : ∀ time ∈ booked, time + gap ≤ now
  under_cap : booked.countP (fun time => now - width ≤ time) < cap

/-- Who forgets some of the bookings still admits. -/
theorem Admits.sublist {gap width : T} {cap : Nat} {kept booked : List T}
    {now : T} (hkept : kept.Sublist booked)
    (hadmits : Admits gap width cap booked now) :
    Admits gap width cap kept now where
  gap_passed time htime := hadmits.gap_passed time (hkept.subset htime)
  under_cap := (hkept.countP_le).trans_lt hadmits.under_cap

/-- Ledgers built by admitting against the bookings, acting, then booking. -/
inductive Ledger (gap width : T) (cap : Nat) : List (Booking T) → Prop
  | nil : Ledger gap width cap []
  | book {entries : List (Booking T)} {now start booked : T}
      (ledger : Ledger gap width cap entries)
      (admits : Admits gap width cap (entries.map Booking.booked) now)
      (acted : now ≤ start) (written : start ≤ booked) :
      Ledger gap width cap (entries ++ [⟨start, booked⟩])

namespace Ledger

variable {gap width : T} {cap : Nat} {entries : List (Booking T)}

theorem start_le_booked (ledger : Ledger gap width cap entries) :
    ∀ entry ∈ entries, entry.start ≤ entry.booked := by
  induction ledger with
  | nil => simp
  | book _ _ _ written ih =>
      intro entry hentry
      rcases List.mem_append.mp hentry with hold | hnew
      · exact ih entry hold
      · rw [List.mem_singleton.mp hnew]
        exact written

private theorem spaced_concat {times : List T} {time : T}
    (hspaced : Spaced gap times) (hlast : ∀ other ∈ times, other + gap ≤ time) :
    Spaced gap (times ++ [time]) := by
  refine List.pairwise_append.mpr ⟨hspaced, List.pairwise_singleton _ _, ?_⟩
  intro other hother later hlater
  rw [List.mem_singleton.mp hlater]
  exact hlast other hother

theorem spaced_booked (ledger : Ledger gap width cap entries) :
    Spaced gap (entries.map Booking.booked) := by
  induction ledger with
  | nil => simp [Spaced]
  | book _ admits acted written ih =>
      rw [List.map_append]
      exact spaced_concat ih fun time htime =>
        (admits.gap_passed time htime).trans (acted.trans written)

variable [IsOrderedAddMonoid T]

theorem spaced_start (ledger : Ledger gap width cap entries) :
    Spaced gap (entries.map Booking.start) := by
  induction ledger with
  | nil => simp [Spaced]
  | book ledger admits acted _ ih =>
      rw [List.map_append]
      refine spaced_concat ih ?_
      intro time htime
      obtain ⟨entry, hentry, rfl⟩ := List.mem_map.mp htime
      have hbooked := admits.gap_passed entry.booked
        (List.mem_map_of_mem hentry)
      calc entry.start + gap
          ≤ entry.booked + gap :=
            add_le_add_left (ledger.start_le_booked entry hentry) gap
        _ ≤ _ := hbooked.trans acted

/-- The counting argument behind both window bounds: if `time` closes a window
and every entry of the window was booked inside it, admission at a moment not
after `time` had room for one more. -/
private theorem capped_concat {booked times : List T} {now time : T}
    (hcapped : Capped width cap times)
    (hroom : booked.countP (fun other => now - width ≤ other) < cap)
    (hnow : now ≤ time)
    (hinside : ∀ opening, time ≤ opening + width →
      times.countP (fun other => opening ≤ other ∧ other ≤ opening + width) ≤
        booked.countP (fun other => opening ≤ other)) :
    Capped width cap (times ++ [time]) := by
  intro opening
  rw [List.countP_append]
  by_cases hwindow : opening ≤ time ∧ time ≤ opening + width
  · have hopening : now - width ≤ opening :=
      sub_le_iff_le_add.mpr (hnow.trans hwindow.2)
    have hlater : booked.countP (fun other => opening ≤ other) ≤
        booked.countP (fun other => now - width ≤ other) := by
      apply List.countP_mono_left
      intro other _ hother
      have hother : opening ≤ other := by simpa using hother
      simpa using hopening.trans hother
    have hcount := hinside opening hwindow.2
    simp only [List.countP_singleton, hwindow, and_self, decide_true, if_true]
    omega
  · simpa [List.countP_singleton, hwindow] using hcapped opening

theorem capped_start (ledger : Ledger gap width cap entries) :
    Capped width cap (entries.map Booking.start) := by
  induction ledger with
  | nil => simp [Capped]
  | @book entries now start booked ledger admits acted written ih =>
      rw [List.map_append]
      refine capped_concat ih admits.under_cap acted ?_
      intro opening _
      rw [List.countP_map, List.countP_map]
      apply List.countP_mono_left
      intro entry hentry hwindow
      have hwindow : opening ≤ entry.start ∧
          entry.start ≤ opening + width := by simpa using hwindow
      simpa using hwindow.1.trans (ledger.start_le_booked entry hentry)

theorem capped_booked (ledger : Ledger gap width cap entries) :
    Capped width cap (entries.map Booking.booked) := by
  induction ledger with
  | nil => simp [Capped]
  | @book entries now start booked ledger admits acted written ih =>
      rw [List.map_append]
      refine capped_concat ih admits.under_cap (acted.trans written) ?_
      intro opening _
      apply List.countP_mono_left
      intro time _ hwindow
      have hwindow : opening ≤ time ∧ time ≤ opening + width := by
        simpa using hwindow
      simpa using hwindow.1

end Ledger

end Foundation

/-
Loops that do a round of work, wait out the rest of an interval, and stop when
they are asked to.  Time passes and the request comes between any two steps.
-/
import Mathlib.Tactic.Abel
import TeslamateWatchdog.Foundation.Ledger
import TeslamateWatchdog.Foundation.Mealy

namespace Foundation

universe u v w

variable {T : Type u} {S : Type v} {I : Type w}

/-- Where the loop is: about to test whether it was asked to stop, past that
test, at work since a time, waiting until a time, or past its end. -/
inductive LoopPhase (T : Type u) where
  | testing
  | entering
  | working (started : T)
  | waiting (deadline : T)
  | ended
deriving DecidableEq

/-- The loop at some time, with the rounds it finished: when each was started,
and what it was given. -/
structure PeriodicLoop (T : Type u) (S : Type v) (I : Type w) where
  clock : T
  stopped : Bool
  phase : LoopPhase T
  state : S
  rounds : List (T × I)

inductive LoopEvent (T : Type u) (I : Type w) where
  | elapse (duration : T)
  | stop
  | test
  | enter
  | finish (input : I)
  | wake

namespace PeriodicLoop

/-- The loop before its first test. -/
def initial (clock : T) (state : S) : PeriodicLoop T S I :=
  ⟨clock, false, .testing, state, []⟩

variable [AddCommGroup T] [LinearOrder T]

/-- What an event makes of the loop; it leaves alone what it does not concern.
A wait ends early once the loop was asked to stop. -/
def react (interval : T) (body : S → I → S) (loop : PeriodicLoop T S I) :
    LoopEvent T I → PeriodicLoop T S I
  | .elapse duration =>
      if 0 ≤ duration then { loop with clock := loop.clock + duration } else loop
  | .stop => { loop with stopped := true }
  | .test =>
      match loop.phase with
      | .testing =>
          { loop with phase := if loop.stopped then .ended else .entering }
      | _ => loop
  | .enter =>
      match loop.phase with
      | .entering => { loop with phase := .working loop.clock }
      | _ => loop
  | .finish input =>
      match loop.phase with
      | .working started =>
          { loop with
            phase := .waiting (loop.clock +
              max 0 (interval - (loop.clock - started)))
            state := body loop.state input
            rounds := loop.rounds ++ [(started, input)] }
      | _ => loop
  | .wake =>
      match loop.phase with
      | .waiting deadline =>
          if loop.stopped = true ∨ deadline ≤ loop.clock then
            { loop with phase := .testing }
          else loop
      | _ => loop

/-- The time a round is started at. -/
def starts (loop : PeriodicLoop T S I) : LoopEvent T I → List T
  | .enter =>
      match loop.phase with
      | .entering => [loop.clock]
      | _ => []
  | _ => []

/-- The loop, as a machine that puts out when its rounds are started. -/
def machine (interval : T) (body : S → I → S) :
    Mealy (PeriodicLoop T S I) (LoopEvent T I) T where
  step loop event := (loop.react interval body event, loop.starts event)

/-- The next round is due, or will be once the wait is over. -/
def Due (interval : T) (loop : PeriodicLoop T S I) : Prop :=
  match loop.phase with
  | .testing => loop.stopped = true ∨
      ∀ round ∈ loop.rounds, round.1 + interval ≤ loop.clock
  | .entering => ∀ round ∈ loop.rounds, round.1 + interval ≤ loop.clock
  | .working started => (∀ round ∈ loop.rounds, round.1 + interval ≤ started) ∧
      started ≤ loop.clock
  | .waiting deadline => ∀ round ∈ loop.rounds, round.1 + interval ≤ deadline
  | .ended => True

/-- The rounds are an interval apart, and so will the next one be. -/
structure Timely (interval : T) (loop : PeriodicLoop T S I) : Prop where
  spaced : Spaced interval (loop.rounds.map Prod.fst)
  due : loop.Due interval

/-- The rounds that were started: the finished ones, and one under way. -/
def begun (loop : PeriodicLoop T S I) : List T :=
  loop.rounds.map Prod.fst ++
    match loop.phase with
    | .working started => [started]
    | _ => []

variable {interval : T} {body : S → I → S} {loop : PeriodicLoop T S I}

theorem timely_initial (clock : T) (state : S) :
    (initial clock state : PeriodicLoop T S I).Timely interval :=
  ⟨List.Pairwise.nil, .inr fun round hround => by cases hround⟩

theorem begun_react (event : LoopEvent T I) :
    (loop.react interval body event).begun = loop.begun ++ loop.starts event := by
  rcases loop with ⟨clock, stopped, phase, state, rounds⟩
  cases event with
  | elapse duration =>
      by_cases hduration : 0 ≤ duration <;>
        simp [react, starts, begun, hduration]
  | stop => simp [react, starts, begun]
  | test =>
      cases phase <;> cases stopped <;> simp [react, starts, begun]
  | enter => cases phase <;> simp [react, starts, begun]
  | finish input => cases phase <;> simp [react, starts, begun]
  | wake =>
      cases phase with
      | waiting deadline =>
          by_cases hover : stopped = true ∨ deadline ≤ clock <;>
            simp [react, starts, begun, hover]
      | _ => simp [react, starts, begun]

theorem Timely.spaced_begun (htimely : loop.Timely interval) :
    Spaced interval loop.begun := by
  obtain ⟨hspaced, hdue⟩ := htimely
  rcases loop with ⟨clock, stopped, phase, state, rounds⟩
  cases phase with
  | working started =>
      rw [Spaced, begun, List.pairwise_append]
      refine ⟨hspaced, List.pairwise_singleton _ _, ?_⟩
      intro earlier hearlier later hlater
      obtain ⟨round, hround, rfl⟩ := List.mem_map.mp hearlier
      obtain rfl := List.mem_singleton.mp hlater
      exact hdue.1 round hround
  | _ =>
      rw [begun, List.append_nil]
      exact hspaced

section Run

variable [IsOrderedAddMonoid T]

/-- From the first of some times to the last of them. -/
theorem nsmul_le_of_spaced {gap first last : T} {rest : List T}
    (hspaced : Spaced gap (first :: rest))
    (hlast : (first :: rest).getLast? = some last) :
    first + rest.length • gap ≤ last := by
  induction rest generalizing first with
  | nil =>
      cases hlast
      simp
  | cons second rest ih =>
      obtain ⟨hgap, hrest⟩ := List.pairwise_cons.mp hspaced
      rw [List.getLast?_cons_cons] at hlast
      calc first + (second :: rest).length • gap
          = first + gap + rest.length • gap := by
            rw [List.length_cons, succ_nsmul', add_assoc]
        _ ≤ second + rest.length • gap :=
            add_le_add_left (hgap second List.mem_cons_self) _
        _ ≤ last := ih hrest hlast

theorem due_elapse {duration : T} (hduration : 0 ≤ duration)
    (hdue : loop.Due interval) :
    { loop with clock := loop.clock + duration }.Due interval := by
  have hlater : loop.clock ≤ loop.clock + duration :=
    le_add_of_nonneg_right hduration
  rcases loop with ⟨clock, stopped, phase, state, rounds⟩
  cases phase with
  | testing =>
      exact hdue.imp_right fun hpast round hround =>
        (hpast round hround).trans hlater
  | entering => exact fun round hround => (hdue round hround).trans hlater
  | working started => exact ⟨hdue.1, hdue.2.trans hlater⟩
  | waiting deadline => exact hdue
  | ended => trivial

/-- The rest of the interval is waited out, however long the round took. -/
theorem started_le_deadline {started clock : T} :
    started + interval ≤ clock + max 0 (interval - (clock - started)) := by
  calc started + interval
      = clock + (interval - (clock - started)) := by abel
    _ ≤ clock + max 0 (interval - (clock - started)) :=
        add_le_add_right (le_max_right _ _) clock

theorem Timely.react (htimely : loop.Timely interval) (event : LoopEvent T I) :
    (loop.react interval body event).Timely interval := by
  obtain ⟨hspaced, hdue⟩ := htimely
  cases event with
  | elapse duration =>
      rw [PeriodicLoop.react]
      split
      · rename_i hduration
        exact ⟨hspaced, due_elapse hduration hdue⟩
      · exact ⟨hspaced, hdue⟩
  | stop =>
      refine ⟨hspaced, ?_⟩
      rcases loop with ⟨clock, stopped, phase, state, rounds⟩
      cases phase with
      | testing => exact .inl rfl
      | _ => exact hdue
  | test =>
      rcases loop with ⟨clock, stopped, phase, state, rounds⟩
      cases phase with
      | testing =>
          refine ⟨hspaced, ?_⟩
          cases stopped with
          | true => trivial
          | false => exact hdue.resolve_left Bool.false_ne_true
      | _ => exact ⟨hspaced, hdue⟩
  | enter =>
      rcases loop with ⟨clock, stopped, phase, state, rounds⟩
      cases phase with
      | entering => exact ⟨hspaced, hdue, le_rfl⟩
      | _ => exact ⟨hspaced, hdue⟩
  | finish input =>
      rcases loop with ⟨clock, stopped, phase, state, rounds⟩
      cases phase with
      | working started =>
          constructor
          · rw [Spaced, PeriodicLoop.react, List.map_append,
              List.pairwise_append]
            refine ⟨hspaced, List.pairwise_singleton _ _, ?_⟩
            intro earlier hearlier later hlater
            obtain ⟨round, hround, rfl⟩ := List.mem_map.mp hearlier
            obtain rfl := List.mem_singleton.mp hlater
            exact hdue.1 round hround
          · intro round hround
            rcases List.mem_append.mp hround with hold | hnew
            · have hpast := (hdue.1 round hold).trans hdue.2
              exact hpast.trans (le_add_of_nonneg_right (le_max_left _ _))
            · obtain rfl := List.mem_singleton.mp hnew
              exact started_le_deadline
      | _ => exact ⟨hspaced, hdue⟩
  | wake =>
      rcases loop with ⟨clock, stopped, phase, state, rounds⟩
      cases phase with
      | waiting deadline =>
          rw [PeriodicLoop.react]
          dsimp only
          split
          · rename_i hover
            exact ⟨hspaced, hover.imp_right fun hpassed round hround =>
              (hdue round hround).trans hpassed⟩
          · exact ⟨hspaced, hdue⟩
      | _ => exact ⟨hspaced, hdue⟩

variable {clock : T} {start : S} {events : List (LoopEvent T I)}

theorem timely_run (events : List (LoopEvent T I)) :
    ((machine interval body).run (initial clock start) events).1.Timely
      interval :=
  @Mealy.run_invariant _ _ _ _ (fun _ _ => True) _ (Timely interval)
    (timely_initial clock start)
    (fun _ event htimely _ => htimely.react event) events
    (Mealy.along_of_forall (fun _ _ => trivial) events)

end Run

section History

variable {clock : T} {start : S}

/-- What a run puts out is when its rounds were begun. -/
theorem begun_run (events : List (LoopEvent T I)) :
    ((machine interval body).run (initial clock start) events).2 =
      ((machine interval body).run (initial clock start) events).1.begun := by
  induction events using List.reverseRecOn with
  | nil => rfl
  | append_singleton events event ih =>
      rw [Mealy.run_concat, Mealy.feed, ih]
      exact (begun_react event).symm

/-- The state is that of the rounds, one after the other. -/
theorem state_run (events : List (LoopEvent T I)) :
    ((machine interval body).run (initial clock start) events).1.state =
      (((machine interval body).run (initial clock start)
        events).1.rounds.map Prod.snd).foldl body start := by
  have hreact : ∀ (loop : PeriodicLoop T S I) (event : LoopEvent T I),
      loop.state = (loop.rounds.map Prod.snd).foldl body start →
      (loop.react interval body event).state =
        ((loop.react interval body event).rounds.map Prod.snd).foldl body
          start := by
    intro loop event hstate
    rcases loop with ⟨clock, stopped, phase, state, rounds⟩
    cases event with
    | elapse duration => rw [react]; split <;> exact hstate
    | stop => exact hstate
    | test => cases phase <;> exact hstate
    | enter => cases phase <;> exact hstate
    | finish input =>
        cases phase with
        | working started =>
            dsimp only at hstate
            simp [react, hstate]
        | _ => exact hstate
    | wake =>
        cases phase with
        | waiting deadline =>
            rw [react]
            dsimp only
            split <;> exact hstate
        | _ => exact hstate
  exact @Mealy.run_invariant _ _ _ (machine interval body) (fun _ _ => True) _
    (fun loop => loop.state = (loop.rounds.map Prod.snd).foldl body start) rfl
    (fun loop event hstate _ => hreact loop event hstate) events
    (Mealy.along_of_forall (fun _ _ => trivial) events)

end History

/-- Asked to stop, with no round to be entered any more. -/
def Closing (loop : PeriodicLoop T S I) : Prop :=
  loop.stopped = true ∧ loop.phase ≠ .entering

theorem Closing.react (hclosing : loop.Closing) (event : LoopEvent T I) :
    (loop.react interval body event).Closing ∧ loop.starts event = [] := by
  rcases loop with ⟨clock, stopped, phase, state, rounds⟩
  obtain ⟨rfl, hphase⟩ := hclosing
  cases event with
  | elapse duration =>
      rw [PeriodicLoop.react]
      split
      · exact ⟨⟨rfl, hphase⟩, rfl⟩
      · exact ⟨⟨rfl, hphase⟩, rfl⟩
  | stop => exact ⟨⟨rfl, hphase⟩, rfl⟩
  | test => cases phase <;> simp_all [PeriodicLoop.react, Closing, starts]
  | enter => cases phase <;> simp_all [PeriodicLoop.react, Closing, starts]
  | finish input => cases phase <;> simp_all [PeriodicLoop.react, Closing, starts]
  | wake => cases phase <;> simp_all [PeriodicLoop.react, Closing, starts]

theorem Closing.run (hclosing : loop.Closing) (events : List (LoopEvent T I)) :
    ((machine interval body).run loop events).1.Closing ∧
      ((machine interval body).run loop events).2 = [] := by
  induction events using List.reverseRecOn with
  | nil => exact ⟨hclosing, rfl⟩
  | append_singleton events event ih =>
      obtain ⟨hafter, hnone⟩ :=
        @Closing.react _ _ _ _ _ interval body _ ih.1 event
      rw [Mealy.run_concat, Mealy.feed, ih.2]
      exact ⟨hafter, hnone⟩

/-- The request is not taken back. -/
theorem stopped_run (hstopped : loop.stopped = true)
    (events : List (LoopEvent T I)) :
    ((machine interval body).run loop events).1.stopped = true := by
  refine @Mealy.run_invariant _ _ _ (machine interval body) (fun _ _ => True)
    loop (fun loop => loop.stopped = true) hstopped ?_ events
    (Mealy.along_of_forall (fun _ _ => trivial) events)
  rintro ⟨clock, stopped, phase, state, rounds⟩ event hbefore -
  obtain rfl : stopped = true := hbefore
  cases event with
  | elapse duration =>
      change (PeriodicLoop.react interval body _ (.elapse duration)).stopped =
        true
      rw [PeriodicLoop.react]
      split <;> rfl
  | stop => rfl
  | test => cases phase <;> rfl
  | enter => cases phase <;> rfl
  | finish input => cases phase <;> rfl
  | wake => cases phase <;> rfl

/-- Asked to stop, the loop enters at most the round it was about to enter. -/
theorem length_run_of_stopped (hstopped : loop.stopped = true)
    (events : List (LoopEvent T I)) :
    ((machine interval body).run loop events).2.length ≤ 1 := by
  by_cases hphase : loop.phase = .entering
  · induction events generalizing loop with
    | nil => exact Nat.zero_le 1
    | cons event rest ih =>
        rw [Mealy.run_cons]
        rcases loop with ⟨clock, stopped, phase, state, rounds⟩
        obtain rfl : stopped = true := hstopped
        obtain rfl : phase = .entering := hphase
        cases event with
        | enter =>
            have hnone := (@Closing.run _ _ _ _ _ interval body
              ⟨clock, true, .working clock, state, rounds⟩
              ⟨rfl, fun hphase => by cases hphase⟩ rest).2
            change ([clock] ++ ((machine interval body).run
              ⟨clock, true, .working clock, state, rounds⟩ rest).2).length ≤ 1
            rw [hnone]
            exact le_rfl
        | elapse duration =>
            change ((machine interval body).run (PeriodicLoop.react interval body
              _ (.elapse duration)) rest).2.length ≤ 1
            rw [PeriodicLoop.react]
            split
            · exact ih rfl rfl
            · exact ih rfl rfl
        | stop => exact ih rfl rfl
        | test => exact ih rfl rfl
        | finish input => exact ih rfl rfl
        | wake => exact ih rfl rfl
  · rw [(@Closing.run _ _ _ _ _ interval body loop ⟨hstopped, hphase⟩ events).2]
    exact Nat.zero_le 1

/-- Asked to stop, the loop ends with the round that is under way. -/
theorem ended_of_stopped (hstopped : loop.stopped = true) (input : I) :
    ((machine interval body).run loop
      [.enter, .finish input, .wake, .test]).1.phase = .ended := by
  rcases loop with ⟨clock, stopped, phase, state, rounds⟩
  obtain rfl : stopped = true := hstopped
  cases phase <;> rfl

end PeriodicLoop

end Foundation

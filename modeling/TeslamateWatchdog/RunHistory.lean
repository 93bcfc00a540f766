/-
A run's state, read off the effects of the run: the machine replays the calls
made on it, the database streak is the healthy end of the observations, and the
restart manager answers as the log of everything it recorded would.
-/
import TeslamateWatchdog.CheckLoop
import TeslamateWatchdog.RestartLog

namespace TeslamateWatchdog

open Foundation

@[simp]
def Effect.machineCall? : Effect → Option MachineCall
  | .stepped observation => some (.step observation)
  | .forced state reason => some (.forceState state reason)
  | _ => none

@[simp]
def Effect.observation? : Effect → Option Observation
  | .observed observation => some observation
  | _ => none

@[simp]
def Effect.recordedAt? : Effect → Option ℚ
  | .recorded _ time => some time
  | _ => none

/-- The container a call of `DockerClient.restart` names. -/
@[simp]
def Effect.restartCall? : Effect → Option String
  | .restartCalled container => some container
  | _ => none

/-- The outcome of a restart POST, and when it went out. -/
@[simp]
def Effect.post? : Effect → Option (PostOutcome × ℚ)
  | .posted _ outcome time => some (outcome, time)
  | _ => none

/-- What a view finds in a list of effects. -/
def collect {α : Type} (view : Effect → Option α) (effects : List Effect) :
    List α :=
  effects.filterMap view

abbrev machineCalls (effects : List Effect) : List MachineCall :=
  collect Effect.machineCall? effects

abbrev observations (effects : List Effect) : List Observation :=
  collect Effect.observation? effects

abbrev recordedTimes (effects : List Effect) : List ℚ :=
  collect Effect.recordedAt? effects

abbrev restartCalls (effects : List Effect) : List String :=
  collect Effect.restartCall? effects

abbrev posts (effects : List Effect) : List (PostOutcome × ℚ) :=
  collect Effect.post? effects

section Collect

variable {α : Type} (view : Effect → Option α)

@[simp]
theorem collect_nil : collect view [] = [] := rfl

@[simp]
theorem collect_cons (effect : Effect) (rest : List Effect) :
    collect view (effect :: rest) =
      (view effect).toList ++ collect view rest := by
  cases hview : view effect <;> simp [collect, hview]

@[simp]
theorem collect_append (front back : List Effect) :
    collect view (front ++ back) = collect view front ++ collect view back :=
  List.filterMap_append

/-- What only the deciding effects are asked, the whole trace answers alike. -/
theorem collect_decides (hstatus : ∀ values, view (.status values) = none)
    (hcaptured : ∀ request, view (.captured request) = none)
    (hevent : ∀ published : Event, published.ofRecovery = false →
      view (.event published) = none) (effects : List Effect) :
    collect view (effects.filter Effect.decides) = collect view effects := by
  have hquiet : ∀ effect : Effect, effect.decides = false →
      view effect = none := by
    intro effect hdecides
    cases effect with
    | status values => exact hstatus values
    | captured request => exact hcaptured request
    | event published => exact hevent published hdecides
    | _ => cases hdecides
  induction effects with
  | nil => rfl
  | cons effect rest ih =>
      by_cases hdecides : effect.decides = true
      · rw [List.filter_cons_of_pos hdecides, collect_cons, collect_cons, ih]
      · rw [List.filter_cons_of_neg hdecides, collect_cons, ih,
          hquiet effect (Bool.eq_false_of_not_eq_true hdecides)]
        rfl

/-- A turn of the recovery forces a state and publishes, and does nothing
else. -/
theorem collect_take
    (hforced : ∀ state reason, view (.forced state reason) = none)
    (hevent : ∀ published, view (.event published) = none) (before : Digest)
    (answers : CycleAnswers) (taken : Turn) :
    collect view (before.take answers taken).effects =
      collect view before.effects := by
  cases taken with
  | holds recovery => rfl
  | recovers progress => simp [Digest.take, hforced, hevent]
  | escalates progress detail => simp [Digest.take, hforced, hevent]

end Collect

theorem machineCalls_decides (effects : List Effect) :
    machineCalls (effects.filter Effect.decides) = machineCalls effects :=
  collect_decides _ (fun _ => rfl) (fun _ => rfl) (fun _ _ => rfl) effects

theorem observations_decides (effects : List Effect) :
    observations (effects.filter Effect.decides) = observations effects :=
  collect_decides _ (fun _ => rfl) (fun _ => rfl) (fun _ _ => rfl) effects

theorem recordedTimes_decides (effects : List Effect) :
    recordedTimes (effects.filter Effect.decides) = recordedTimes effects :=
  collect_decides _ (fun _ => rfl) (fun _ => rfl) (fun _ _ => rfl) effects

theorem restartCalls_decides (effects : List Effect) :
    restartCalls (effects.filter Effect.decides) = restartCalls effects :=
  collect_decides _ (fun _ => rfl) (fun _ => rfl) (fun _ _ => rfl) effects

theorem posts_decides (effects : List Effect) :
    posts (effects.filter Effect.decides) = posts effects :=
  collect_decides _ (fun _ => rfl) (fun _ => rfl) (fun _ _ => rfl) effects

variable {config : Config} {classifier : LogClassifier}
  {answers : CycleAnswers} {transition : Transition}

@[simp]
theorem machineCalls_request (posted : Option Json) :
    machineCalls (requestEffects config answers transition posted) = [] := by
  cases posted <;> rfl

@[simp]
theorem observations_request (posted : Option Json) :
    observations (requestEffects config answers transition posted) = [] := by
  cases posted <;> rfl

@[simp]
theorem recordedTimes_request (posted : Option Json) :
    recordedTimes (requestEffects config answers transition posted) = [] := by
  cases posted <;> rfl

@[simp]
theorem restartCalls_request (posted : Option Json) :
    restartCalls (requestEffects config answers transition posted) =
      [config.teslamateContainer] := by
  cases posted <;> rfl

@[simp]
theorem posts_request (posted : Option Json) :
    posts (requestEffects config answers transition posted) =
      (posted.map fun _ => (answers.post, answers.postAt)).toList := by
  cases posted <;> rfl

/-- What a turn of the recovery calls on the machine. -/
def Turn.calls : Turn → List MachineCall
  | .holds _ => []
  | .recovers _ => [.forceState .healthy "recovered after restart"]
  | .escalates _ detail =>
      [.forceState .manualInterventionRequired
        ("still failing after restart: " ++ detail)]

theorem machineCalls_take (before : Digest) (taken : Turn) :
    machineCalls (before.take answers taken).effects =
      machineCalls before.effects ++ taken.calls := by
  cases taken with
  | holds recovery => exact (List.append_nil _).symm
  | recovers progress => simp [Digest.take, Turn.calls]
  | escalates progress detail => simp [Digest.take, Turn.calls]

/-- A begun restart that returns calls the machine once, and its reply tells
how; one that raises has not come to that. -/
theorem Begun.machineCalls_eq {before next : Digest}
    {reply : Except PyError Bool}
    (hbegun : Begun config answers before transition reply next) :
    ∃ calls, machineCalls next.effects = machineCalls before.effects ++ calls ∧
      match reply with
      | .error _ => calls = []
      | .ok false =>
          ∃ reason, calls = [.forceState .manualInterventionRequired reason]
      | .ok true => ∃ reason, calls = [.forceState .recovering reason] := by
  cases hbegun with
  | raised hcall => exact ⟨[], by simp [Digest.request], rfl⟩
  | @refused detail hcall =>
      exact ⟨[.forceState .manualInterventionRequired
        ("restart failed: " ++ detail)], by simp [Digest.request], _, rfl⟩
  | unrecorded hcall hrecord => exact ⟨[], by simp [Digest.request], rfl⟩
  | restarted hcall hrecord =>
      exact ⟨[.forceState .recovering
        ("restart issued: " ++ transition.reason)], by simp [Digest.request],
        _, rfl⟩

/-- The digest's machine and streak are those its effects lead to. -/
structure Traced (config : Config) (digest : Digest) : Prop where
  machine : (StateMachine.replay config (.initial .starting)
    (machineCalls digest.effects)).1 = digest.machine
  streak : digest.databaseHealthyStreak =
    streak (·.databaseHealthy == some true) (observations digest.effects)

namespace Traced

variable {digest : Digest}

theorem ofBuild (restarts : RestartManager) :
    Traced config (Digest.ofRun (.build restarts, [])) :=
  ⟨rfl, rfl⟩

theorem emit {effects : List Effect} (htraced : Traced config digest)
    (hcalls : machineCalls effects = [])
    (hobservations : observations effects = []) :
    Traced config (digest.emit effects) where
  machine := by
    simp only [Digest.emit_effects, collect_append, hcalls, List.append_nil]
    exact htraced.machine
  streak := by
    simp only [Digest.emit_effects, collect_append, hobservations,
      List.append_nil]
    exact htraced.streak

theorem call {call : MachineCall} {effect : Effect} {machine : StateMachine}
    (htraced : Traced config digest) (hcall : effect.machineCall? = some call)
    (hobservation : effect.observation? = none)
    (hmachine : (StateMachine.observeCall config (digest.machine, []) call).1 =
      machine) :
    Traced config { digest with
      machine := machine
      effects := digest.effects ++ [effect] } where
  machine := by
    have hcalls : machineCalls [effect] = [call] :=
      (collect_cons _ effect []).trans (by rw [hcall]; rfl)
    simp only [collect_append, hcalls, StateMachine.replay_concat, ← hmachine]
    cases call with
    | step observation =>
        exact congrArg (fun m => (m.step config observation).2) htraced.machine
    | forceState state reason =>
        exact congrArg (fun m => (m.forceState state reason).2) htraced.machine
  streak := by
    have hnone : observations [effect] = [] :=
      (collect_cons _ effect []).trans (by rw [hobservation]; rfl)
    simp only [collect_append, hnone, List.append_nil]
    exact htraced.streak

theorem step (htraced : Traced config digest) (observation : Observation) :
    Traced config (digest.step config observation) :=
  htraced.call rfl rfl rfl

theorem force (htraced : Traced config digest) (state : State)
    (reason : String) : Traced config (digest.force state reason) :=
  htraced.call rfl rfl rfl

theorem observe (htraced : Traced config digest) (observation : Observation) :
    Traced config (digest.observe observation) where
  machine := by
    simp only [Digest.observe_effects, collect_append]
    exact (congrArg (fun calls => (StateMachine.replay config _ calls).1)
      (List.append_nil _)).trans htraced.machine
  streak := by
    have hlast : observations [.observed observation] = [observation] := rfl
    simp only [Digest.observe_effects, collect_append, hlast, streak_concat,
      ← htraced.streak]
    simp only [Digest.observe, beq_iff_eq]

theorem setRecovery (htraced : Traced config digest)
    (recovery : RecoveryController) :
    Traced config (digest.setRecovery recovery) :=
  ⟨htraced.machine, htraced.streak⟩

theorem recorded (htraced : Traced config digest) :
    Traced config (digest.recorded answers transition) :=
  have hemit := @emit _ _ [.recorded transition.current answers.recordAt]
    htraced rfl rfl
  ⟨hemit.machine, hemit.streak⟩

theorem take (htraced : Traced config digest) (taken : Turn) :
    Traced config (digest.take answers taken) := by
  cases taken with
  | holds recovery => exact htraced.setRecovery recovery
  | recovers progress =>
      exact ((htraced.setRecovery _).force _ _).emit rfl rfl
  | escalates progress detail =>
      exact ((htraced.setRecovery _).force _ _).emit rfl rfl

theorem request (htraced : Traced config digest) :
    Traced config (digest.request config answers transition) :=
  htraced.emit (machineCalls_request _) (observations_request _)

theorem begun {next : Digest} {result : Except PyError Bool}
    (htraced : Traced config digest)
    (hbegun : Begun config answers digest transition result next) :
    Traced config next := by
  cases hbegun with
  | raised hcall => exact htraced.request
  | refused hcall =>
      exact (((htraced.request.emit rfl rfl).setRecovery _).force _ _).emit
        rfl rfl
  | unrecorded hcall hrecord =>
      exact (htraced.request.emit rfl rfl).recorded
  | restarted hcall hrecord =>
      exact (((htraced.request.emit rfl rfl).recorded).setRecovery _).force _ _

theorem course {next : Digest} {returned : Bool}
    (htraced : Traced config digest)
    (hcourse : Course config classifier answers digest returned next) :
    Traced config next := by
  cases hcourse with
  | blind hgather => exact htraced
  | recovering hgather hprogress => exact (htraced.observe _).take _
  | watching hgather hinactive => exact (htraced.observe _).step _
  | restarting hgather hinactive htransition hcleared hbegun hreturned =>
      exact ((htraced.observe _).step _).begun hbegun

end Traced

/-- The clock readings of a list of cycles, in order. -/
def wallClocks (inputs : List CycleAnswers) : List ℚ :=
  inputs.flatMap CycleAnswers.wallClock

theorem wallClocks_concat (inputs : List CycleAnswers)
    (answers : CycleAnswers) :
    wallClocks (inputs ++ [answers]) = wallClocks inputs ++ answers.wallClock := by
  simp [wallClocks]

theorem wallClock_le {answers : CycleAnswers}
    (hclock : answers.wallClock.Pairwise (· ≤ ·)) :
    answers.evaluateAt ≤ answers.postAt ∧ answers.postAt ≤ answers.recordAt ∧
      answers.recordAt ≤ answers.publishAt := by
  simp only [CycleAnswers.wallClock, List.pairwise_cons, List.mem_cons] at hclock
  exact ⟨hclock.1 _ (by simp), hclock.2.2.1 _ (by simp),
    hclock.2.2.2.1 _ (by simp)⟩

/-- A begun restart either records itself or leaves the records alone. -/
theorem Begun.restarts {before next : Digest} {result : Except PyError Bool}
    (hbegun : Begun config answers before transition result next) :
    (next.restarts = before.restarts ∧
      recordedTimes next.effects = recordedTimes before.effects) ∨
    (next.restarts = (before.restarts.record transition.current
        transition.reason answers.recordAt answers.historyWritten).2 ∧
      recordedTimes next.effects =
        recordedTimes before.effects ++ [answers.recordAt]) := by
  cases hbegun with
  | raised hcall => exact .inl ⟨rfl, by simp [Digest.request]⟩
  | refused hcall => exact .inl ⟨rfl, by simp [Digest.request]⟩
  | unrecorded hcall hrecord => exact .inr ⟨rfl, by simp [Digest.request]⟩
  | restarted hcall hrecord => exact .inr ⟨rfl, by simp [Digest.request]⟩

/-- A cycle keeps the manager in step with the log of the run. -/
theorem Course.remembers {before next : Digest} {returned : Bool}
    {times : List ℚ}
    (hcourse : Course config classifier answers before returned next)
    (hclock : answers.wallClock.Pairwise (· ≤ ·))
    (hremembers : before.restarts.Remembers
      (times ++ recordedTimes before.effects) answers.evaluateAt) :
    next.restarts.Remembers (times ++ recordedTimes next.effects)
      answers.publishAt := by
  obtain ⟨hpost, hrecord, hpublish⟩ := wallClock_le hclock
  have hlater := hremembers.mono (hpost.trans (hrecord.trans hpublish))
  cases hcourse with
  | blind hgather => exact hlater
  | @recovering observation progress _ hgather hprogress =>
      rw [Digest.take_restarts, recordedTimes,
        collect_take _ (fun _ _ => rfl) (fun _ => rfl)]
      simpa using hlater
  | watching hgather hinactive => simpa using hlater
  | @restarting observation transition _ _ _ hgather hinactive htransition
      hcleared hbegun hreturned =>
      rcases hbegun.restarts with ⟨hrestarts, htimes⟩ | ⟨hrestarts, htimes⟩
      · rw [hrestarts, htimes]
        simpa using hlater
      · obtain ⟨reachable, hprobe, hguarded⟩ := hcleared
        have hadmits := RestartManager.admits_of_guarded hremembers le_rfl
          hguarded
        have hpast : ∀ time ∈ times ++ recordedTimes before.effects,
            time ≤ answers.recordAt := by
          intro time htime
          have hgap := hadmits.gap_passed time htime
          have hcooldown : (0 : ℚ) ≤ config.restartCooldownSeconds :=
            Nat.cast_nonneg _
          linarith
        have hrecorded := @RestartManager.remembers_record _ _ _
          answers.recordAt transition.current transition.reason
          answers.historyWritten hremembers (hpost.trans hrecord) hpast
        rw [hrestarts, htimes]
        simpa using hrecorded.mono hpublish

/-- After any run, the manager answers as the log of the run does. -/
theorem run_remembers {restarts : RestartManager} {times : List ℚ}
    (hhistory : RestartManager.Chronological restarts.history times)
    (inputs : List CycleAnswers)
    (hclock : (wallClocks inputs).Pairwise (· ≤ ·)) {now : ℚ}
    (hnow : ∀ reading ∈ wallClocks inputs, reading ≤ now) :
    RestartManager.Remembers
      ((checkLoop config classifier).run (.build restarts) inputs).1.restarts
      (times ++ recordedTimes
        ((checkLoop config classifier).run (.build restarts) inputs).2) now := by
  have hrun := @loop_induction config classifier (fun _ _ => True)
    (fun inputs digest =>
      (wallClocks inputs).Pairwise (· ≤ ·) →
      ∀ now, (∀ reading ∈ wallClocks inputs, reading ≤ now) →
        RestartManager.Remembers digest.restarts
          (times ++ recordedTimes digest.effects) now)
    (.build restarts)
    (by
      intro _ now _
      have hstart := RestartManager.remembers_of_chronological hhistory now
      simpa [Digest.ofRun] using hstart)
    (by
      intro inputs w answers before next _ ih hcourse hclock now hnow
      rw [wallClocks_concat] at hclock hnow
      obtain ⟨hold, hnew, hbetween⟩ := List.pairwise_append.mp hclock
      have hbefore := ih hold answers.evaluateAt fun reading hreading =>
        hbetween reading hreading _ (by simp [CycleAnswers.wallClock])
      exact (hcourse.remembers hnew hbefore).mono
        (hnow _ (by simp [CycleAnswers.wallClock])))
    inputs (Mealy.along_of_forall (fun _ _ => trivial) inputs) hclock now hnow
  simpa [Digest.ofRun, recordedTimes_decides, Watchdog.digest] using hrun

/-- After any run, machine and streak are those of its effects. -/
theorem run_traced (config : Config) (classifier : LogClassifier)
    (restarts : RestartManager) (inputs : List CycleAnswers) :
    Traced config (Digest.ofRun
      ((checkLoop config classifier).run (.build restarts) inputs)) :=
  @loop_induction config classifier (fun _ _ => True)
    (fun _ digest => Traced config digest) (.build restarts)
    (Traced.ofBuild restarts)
    (fun _ _ _ _ _ _ htraced hcourse => htraced.course hcourse)
    inputs (Mealy.along_of_forall (fun _ _ => trivial) inputs)

end TeslamateWatchdog

/-
The restart budget as the engine sees it.  The guard counts the restarts on
record; the engine may carry out any POST it accepted or that timed out.  The
two agree as long as every POST gets its answer.
-/
import TeslamateWatchdog.RestartSafety
import TeslamateWatchdog.RestartTarget

namespace TeslamateWatchdog

open Foundation

/-- Whether the engine may have carried out a restart with this outcome. -/
def PostOutcome.possiblyCarriedOut : PostOutcome → Bool
  | .response status _ => status == 204 || status == 304
  | .timeout => true
  | .requestException _ _ => false

@[simp]
def Effect.carriedOutAt? : Effect → Option ℚ
  | .posted _ outcome time =>
      if outcome.possiblyCarriedOut then some time else none
  | _ => none

/-- When the restarts the engine may have carried out were requested. -/
abbrev carriedOut (effects : List Effect) : List ℚ :=
  collect Effect.carriedOutAt? effects

theorem carriedOut_decides (effects : List Effect) :
    carriedOut (effects.filter Effect.decides) = carriedOut effects :=
  collect_decides _ (fun _ => rfl) (fun _ => rfl) (fun _ _ => rfl) effects

variable {config : Config} {classifier : LogClassifier}
  {answers : CycleAnswers} {transition : Transition}

/-- A success is reported only for a POST the engine accepted. -/
theorem carriedOut_of_postResult {ref : ContainerRef} {post : PostOutcome}
    {detail : String}
    (hresult : DockerClient.postResult ref post = .ok (true, detail)) :
    post.possiblyCarriedOut = true := by
  cases post with
  | timeout => cases hresult
  | requestException typeName text => cases hresult
  | response status text =>
      by_cases haccepted : status = 204 ∨ status = 304
      · simpa [PostOutcome.possiblyCarriedOut] using haccepted
      · rw [DockerClient.postResult, if_neg haccepted] at hresult
        split at hresult <;> cases hresult

/-- An accepted POST that was answered is reported as a success, when the id of
the container is text. -/
theorem postResult_of_carriedOut {ref : ContainerRef} {post : PostOutcome}
    {id : String} (hid : ref.id = .str id) (hanswered : post ≠ .timeout)
    (hcarried : post.possiblyCarriedOut = true) :
    ∃ detail, DockerClient.postResult ref post = .ok (true, detail) := by
  cases post with
  | timeout => exact absurd rfl hanswered
  | requestException typeName text => cases hcarried
  | response status text =>
      have haccepted : status = 204 ∨ status = 304 := by
        simpa [PostOutcome.possiblyCarriedOut] using hcarried
      rw [DockerClient.postResult, if_pos haccepted, ContainerRef.shortId, hid]
      exact ⟨_, rfl⟩

/-- Every POST among the effects got its answer, and went to an id that is
text, as the engine's ids are. -/
def PostsAnswered (effects : List Effect) : Prop :=
  ∀ id outcome time, .posted id outcome time ∈ effects →
    outcome ≠ .timeout ∧ ∃ text, id = .str text

def Effect.answered : Effect → Bool
  | .posted (.str _) outcome _ => outcome != .timeout
  | .posted _ _ _ => false
  | _ => true

/-- The test of `PostsAnswered`, for lists at hand. -/
theorem postsAnswered_of_all {effects : List Effect}
    (hall : effects.all Effect.answered = true) : PostsAnswered effects := by
  intro id outcome time hmem
  have hanswered := List.all_eq_true.mp hall _ hmem
  cases id with
  | str text =>
      refine ⟨?_, text, rfl⟩
      simpa [Effect.answered] using hanswered
  | _ => cases hanswered

/-- An answered POST is reported as a success exactly when the engine may have
carried it out. -/
theorem restartCall_reports
    (hanswered : ∀ id, (restartCall config answers).posted = some id →
      answers.post ≠ .timeout ∧ ∃ text, id = .str text) :
    ((∃ detail, (restartCall config answers).result = .ok (true, detail)) ∧
      (restartCall config answers).posted.isSome = true ∧
      answers.post.possiblyCarriedOut = true) ∨
    ((∀ detail, (restartCall config answers).result ≠ .ok (true, detail)) ∧
      ((restartCall config answers).posted = none ∨
        answers.post.possiblyCarriedOut = false)) := by
  rcases DockerClient.restart_cases config answers.listing answers.post
    config.teslamateContainer with ⟨hnone, hfails⟩ | ⟨ref, _, _, _, _, hcall⟩
  · exact .inr ⟨hfails, .inl hnone⟩
  · have hcall : restartCall config answers =
        ⟨some ref.id, DockerClient.postResult ref answers.post⟩ := hcall
    obtain ⟨htimeout, text, hid⟩ := hanswered ref.id (by rw [hcall])
    rw [hcall]
    cases hcarried : answers.post.possiblyCarriedOut with
    | true =>
        exact .inl ⟨postResult_of_carriedOut hid htimeout hcarried, rfl, rfl⟩
    | false =>
        refine .inr ⟨fun detail hresult => ?_, .inr rfl⟩
        rw [carriedOut_of_postResult hresult] at hcarried
        cases hcarried

@[simp]
theorem carriedOut_request (posted : Option Json) :
    carriedOut (requestEffects config answers transition posted) =
      if posted.isSome ∧ answers.post.possiblyCarriedOut then
        [answers.postAt]
      else [] := by
  cases posted with
  | none => rfl
  | some id =>
      cases hcarried : answers.post.possiblyCarriedOut <;>
        simp [requestEffects, hcarried]

/-- The POST of a begun restart is among the effects. -/
theorem Begun.posted_mem {before next : Digest} {result : Except PyError Bool}
    (hbegun : Begun config answers before transition result next) {id : Json}
    (hposted : (restartCall config answers).posted = some id) :
    .posted id answers.post answers.postAt ∈ next.effects := by
  have hrequest : Effect.posted id answers.post answers.postAt ∈
      requestEffects config answers transition
        (restartCall config answers).posted := by
    rw [hposted]
    simp [requestEffects]
  cases hbegun with
  | raised hcall => simp [Digest.request, hrequest]
  | refused hcall => simp [Digest.request, hrequest]
  | unrecorded hcall hrecord => simp [Digest.request, hrequest]
  | restarted hcall hrecord => simp [Digest.request, hrequest]

/-- What the engine may carry out comes of the request alone. -/
theorem Begun.carriedOut_eq {before next : Digest}
    {result : Except PyError Bool}
    (hbegun : Begun config answers before transition result next) :
    carriedOut next.effects = carriedOut before.effects ++
      carriedOut (requestEffects config answers transition
        (restartCall config answers).posted) := by
  cases hbegun with
  | raised hcall => simp [Digest.request]
  | refused hcall => simp [Digest.request]
  | unrecorded hcall hrecord => simp [Digest.request]
  | restarted hcall hrecord => simp [Digest.request]

/-- A restart is put on record exactly when it is reported as a success. -/
theorem Begun.recordedTimes_of_success {before next : Digest}
    {result : Except PyError Bool} {detail : String}
    (hbegun : Begun config answers before transition result next)
    (hsuccess : (restartCall config answers).result = .ok (true, detail)) :
    recordedTimes next.effects =
      recordedTimes before.effects ++ [answers.recordAt] := by
  cases hbegun with
  | raised hcall =>
      rw [hcall] at hsuccess
      cases hsuccess
  | refused hcall =>
      rw [hcall] at hsuccess
      cases hsuccess
  | unrecorded hcall hrecord => simp [Digest.request]
  | restarted hcall hrecord => simp [Digest.request]

theorem Begun.recordedTimes_of_failure {before next : Digest}
    {result : Except PyError Bool}
    (hbegun : Begun config answers before transition result next)
    (hfails : ∀ detail,
      (restartCall config answers).result ≠ .ok (true, detail)) :
    recordedTimes next.effects = recordedTimes before.effects := by
  cases hbegun with
  | raised hcall => simp [Digest.request]
  | refused hcall => simp [Digest.request]
  | unrecorded hcall hrecord => exact absurd hcall (hfails _)
  | restarted hcall hrecord => exact absurd hcall (hfails _)

/-- A cycle whose POST is answered books what the engine may have carried out,
and books nothing else; what it books, the guard admitted. -/
theorem Course.books {before next : Digest} {returned : Bool}
    (hcourse : Course config classifier answers before returned next)
    (hfresh : before.effects = []) (hanswered : PostsAnswered next.effects) :
    recordedTimes next.effects = [] ∧ carriedOut next.effects = [] ∨
    recordedTimes next.effects = [answers.recordAt] ∧
      carriedOut next.effects = [answers.postAt] ∧
      ∃ state databaseHealthyStreak reachable,
        before.restarts.Guarded config state databaseHealthyStreak reachable
          answers.evaluateAt := by
  cases hcourse with
  | blind hgather => simp [hfresh]
  | recovering hgather hprogress =>
      left
      constructor
      · rw [recordedTimes, collect_take _ (fun _ _ => rfl) (fun _ => rfl)]
        simp [hfresh]
      · rw [carriedOut, collect_take _ (fun _ _ => rfl) (fun _ => rfl)]
        simp [hfresh]
  | watching hgather hinactive => simp [hfresh]
  | @restarting observation transition _ _ _ hgather hinactive htransition
      hcleared hbegun hreturned =>
      obtain ⟨reachable, _, hguarded⟩ := hcleared
      rcases restartCall_reports fun id hposted =>
          hanswered id _ _ (hbegun.posted_mem hposted) with
        ⟨⟨detail, hsuccess⟩, hposted, hcarried⟩ | ⟨hfails, hnothing⟩
      · right
        refine ⟨?_, ?_, _, _, reachable, hguarded⟩
        · simpa [hfresh] using hbegun.recordedTimes_of_success hsuccess
        · rw [hbegun.carriedOut_eq, carriedOut_request,
            if_pos ⟨hposted, hcarried⟩]
          simp [hfresh]
      · left
        constructor
        · simpa [hfresh] using hbegun.recordedTimes_of_failure hfails
        · rw [hbegun.carriedOut_eq, carriedOut_request, if_neg]
          · simp [hfresh]
          · rintro ⟨hposted, hcarried⟩
            rcases hnothing with hnone | hrefused
            · rw [hnone] at hposted
              cases hposted
            · rw [hrefused] at hcarried
              cases hcarried

/-- The ledger of a run: what the engine may have carried out, and what the
manager has on record, entry by entry. -/
structure Booked (config : Config) (effects : List Effect)
    (entries : List (Booking ℚ)) : Prop where
  ledger : Ledger (config.restartCooldownSeconds : ℚ) (secondsPerDay : ℚ)
    config.maxRestartsPer24Hours entries
  starts : entries.map Booking.start = carriedOut effects
  booked : entries.map Booking.booked = recordedTimes effects

theorem run_booked {restarts : RestartManager} {times : List ℚ}
    (hhistory : RestartManager.Chronological restarts.history times)
    (inputs : List CycleAnswers)
    (hclock : (wallClocks inputs).Pairwise (· ≤ ·))
    (hanswered : PostsAnswered
      ((checkLoop config classifier).run (.build restarts) inputs).2) :
    ∃ entries, Booked config
      ((checkLoop config classifier).run (.build restarts) inputs).2
      entries := by
  induction inputs using List.reverseRecOn with
  | nil => exact ⟨[], .nil, rfl, rfl⟩
  | append_singleton inputs answers ih =>
      rw [wallClocks_concat] at hclock
      obtain ⟨hold, hnew, hbetween⟩ := List.pairwise_append.mp hclock
      rw [Mealy.run_concat] at hanswered ⊢
      let run := (checkLoop config classifier).run (.build restarts) inputs
      obtain ⟨entries, hbooked⟩ := ih hold fun id outcome time hmem =>
        hanswered id outcome time (List.mem_append_left _ hmem)
      have hbooks := (cycle_course config classifier run.1 answers).books rfl
        fun id outcome time hmem => hanswered id outcome time
          (List.mem_append_right _ (List.mem_of_mem_filter hmem))
      have heffects : (cycleDigest config classifier run.1 answers).effects =
          (cycleTrace config classifier run.1 answers).filter
            Effect.decides := rfl
      rw [heffects, recordedTimes_decides, carriedOut_decides] at hbooks
      have hfed : ((checkLoop config classifier).feed run answers).2 =
          run.2 ++ cycleTrace config classifier run.1 answers := rfl
      rw [hfed]
      rcases hbooks with ⟨hrecorded, hcarried⟩ |
        ⟨hrecorded, hcarried, state, streak, reachable, hguarded⟩
      · refine ⟨entries, hbooked.ledger, ?_, ?_⟩
        · simp only [collect_append, hcarried, List.append_nil]
          exact hbooked.starts
        · simp only [collect_append, hrecorded, List.append_nil]
          exact hbooked.booked
      · have hadmits := RestartManager.admits_of_guarded
          (run_remembers hhistory inputs hold fun reading hreading =>
            hbetween reading hreading answers.evaluateAt
              (by simp [CycleAnswers.wallClock])) le_rfl hguarded
        rw [← hbooked.booked] at hadmits
        obtain ⟨hpost, hrecord, _⟩ := wallClock_le hnew
        refine ⟨entries ++ [⟨answers.postAt, answers.recordAt⟩],
          .book hbooked.ledger
            (hadmits.sublist (List.sublist_append_right _ _)) hpost hrecord,
          ?_, ?_⟩
        · simp only [collect_append, hcarried, List.map_append, hbooked.starts]
          rfl
        · simp only [collect_append, hrecorded, List.map_append,
            hbooked.booked]
          rfl

/-- While every restart POST is answered, the restarts the engine may have
carried out keep the cooldown and the daily cap. -/
theorem engine_budget (config : Config) (classifier : LogClassifier)
    {restarts : RestartManager} {times : List ℚ}
    (hhistory : RestartManager.Chronological restarts.history times)
    (inputs : List CycleAnswers)
    (hclock : (wallClocks inputs).Pairwise (· ≤ ·))
    (hanswered : PostsAnswered
      ((checkLoop config classifier).run (.build restarts) inputs).2) :
    let effects :=
      ((checkLoop config classifier).run (.build restarts) inputs).2
    Spaced (config.restartCooldownSeconds : ℚ) (carriedOut effects) ∧
      Capped 86400 config.maxRestartsPer24Hours (carriedOut effects) := by
  intro effects
  obtain ⟨entries, hbooked⟩ := run_booked hhistory inputs hclock hanswered
  have hstarts : entries.map Booking.start = carriedOut effects :=
    hbooked.starts
  rw [← hstarts]
  exact ⟨hbooked.ledger.spaced_start, hbooked.ledger.capped_start⟩

/-- One restart, accepted after a minute of the container being down. -/
theorem engine_budget_accepted :
    let effects := ((checkLoop .fromEmptyEnv .withoutPatterns).run
      (.build ⟨[], .missing⟩) [.calm 0, .stopped 60]).2
    carriedOut effects = [60] ∧
      Spaced (Config.fromEmptyEnv.restartCooldownSeconds : ℚ)
        (carriedOut effects) ∧
      Capped 86400 Config.fromEmptyEnv.maxRestartsPer24Hours
        (carriedOut effects) :=
  ⟨by decide +kernel, @engine_budget .fromEmptyEnv .withoutPatterns
    ⟨[], .missing⟩ [] ⟨rfl, List.Pairwise.nil⟩ [.calm 0, .stopped 60]
    (by decide +kernel) (postsAnswered_of_all (by decide +kernel))⟩

/-- A restart that times out, and two minutes later another one. -/
def unansweredRestart : List CycleAnswers :=
  [.calm 0,
    { CycleAnswers.stopped 60 with
      post := .timeout
      recordAt := 150
      finishAt := 150
      publishAt := 150 },
    .stopped 180]

/-- A restart that timed out is not on record, and the next one comes within
the cooldown. -/
theorem engine_budget_exceeded :
    ¬∀ (config : Config) (classifier : LogClassifier)
      (restarts : RestartManager) (times : List ℚ)
      (inputs : List CycleAnswers),
      RestartManager.Chronological restarts.history times →
      (wallClocks inputs).Pairwise (· ≤ ·) →
      Spaced (config.restartCooldownSeconds : ℚ)
          (carriedOut ((checkLoop config classifier).run (.build restarts)
            inputs).2) ∧
        Capped 86400 config.maxRestartsPer24Hours
          (carriedOut ((checkLoop config classifier).run (.build restarts)
            inputs).2) := by
  intro hbudget
  have hspaced := (hbudget .fromEmptyEnv .withoutPatterns ⟨[], .missing⟩ []
    unansweredRestart ⟨rfl, List.Pairwise.nil⟩ (by decide +kernel)).1
  have hcarried : carriedOut ((checkLoop .fromEmptyEnv .withoutPatterns).run
      (.build ⟨[], .missing⟩) unansweredRestart).2 = [60, 180] := by
    decide +kernel
  rw [hcarried] at hspaced
  have hgap : (60 : ℚ) + 21600 ≤ 180 :=
    (List.pairwise_cons.mp hspaced).1 180 (List.mem_singleton_self _)
  norm_num at hgap

end TeslamateWatchdog

/-
The logger verdict when the configured car was never heard of.  Then the first
of the candidates counts, in the order in which the cars were first heard from;
what of the verdict does not depend on that order is shown here.
-/
import TeslamateWatchdog.HeartbeatTraces

namespace TeslamateWatchdog

open Foundation

/-- The same callback, run at another time. -/
def Callback.withTime (time : ℚ) : Callback → Callback
  | .connect refused _ => .connect refused time
  | .disconnect _ => .disconnect time
  | .message topic payload _ wall => .message topic payload time wall

/-- What the messages left known of a car. -/
def CarObservation.known (car : CarObservation) :
    Option String × Option ℚ × Option String :=
  (car.healthyPayload, car.healthyMonotonic, car.statePayload)

namespace WatchdogMqtt

/-- Two clients that know the same of the same cars, over the same connection,
whatever the order the cars were first heard from. -/
structure SameKnowledge (left right : WatchdogMqtt) : Prop where
  link : left.connectedSince = right.connectedSince
  cars : ∀ carId, (left.car? carId).map CarObservation.known =
    (right.car? carId).map CarObservation.known

/-- The verdict itself, without the text that goes with it. -/
def verdict (config : MqttConfig) (client : WatchdogMqtt) (now : ℚ) :
    Option Bool × Bool :=
  ((loggerHealth config client now).1.healthy,
    (loggerHealth config client now).1.stale)

/-- What the verdict would be if it were about this car. -/
def verdictOn (config : MqttConfig) (client : WatchdogMqtt) (now : ℚ)
    (car : CarObservation) : Option Bool × Bool :=
  (car.healthy, (staleness config client car now).1)

/-- The cars the verdict may be about: the unhealthy ones, or all. -/
def candidates (client : WatchdogMqtt) : List CarObservation :=
  if client.cars.any (·.healthy == some false) then
    client.cars.filter (·.healthy == some false)
  else client.cars

/-- The configured car was never heard from, or there is none. -/
def PrimaryUnheard (config : MqttConfig) (client : WatchdogMqtt) : Prop :=
  ∀ primary ∈ config.topics.primaryCarId, client.car? primary = none

section Client

variable {config : MqttConfig} {client : WatchdogMqtt} {now : ℚ}

theorem mem_candidates {car : CarObservation} :
    car ∈ candidates client ↔ car ∈ client.cars ∧
      ((∃ other ∈ client.cars, other.healthy = some false) →
        car.healthy = some false) := by
  unfold candidates
  by_cases hany : client.cars.any (·.healthy == some false) = true
  · rw [if_pos hany, List.mem_filter]
    have hex : ∃ other ∈ client.cars, other.healthy = some false := by
      simpa using hany
    simp only [beq_iff_eq, forall_prop_of_true hex]
  · rw [if_neg hany]
    have hnone : ¬∃ other ∈ client.cars, other.healthy = some false := by
      simpa using hany
    simp only [hnone, false_imp_iff, and_true]

theorem head?_candidates (client : WatchdogMqtt) :
    (candidates client).head? =
      (client.cars.filter (·.healthy == some false)).head?.or
        client.cars.head? := by
  unfold candidates
  by_cases hany : client.cars.any (·.healthy == some false) = true
  · rw [if_pos hany]
    obtain ⟨car, hcar, hhealthy⟩ := List.any_eq_true.mp hany
    have hmem : car ∈ client.cars.filter (·.healthy == some false) :=
      List.mem_filter.mpr ⟨hcar, hhealthy⟩
    cases hfilter : client.cars.filter (·.healthy == some false) with
    | nil =>
        rw [hfilter] at hmem
        cases hmem
    | cons first rest => rfl
  · rw [if_neg hany]
    have hempty : client.cars.filter (·.healthy == some false) = [] := by
      simpa using hany
    rw [hempty]
    rfl

/-- Without the configured car the verdict is about the first candidate. -/
theorem verdict_of_primaryUnheard (hprimary : PrimaryUnheard config client) :
    verdict config client now =
      ((candidates client).head?.map (verdictOn config client now)).getD
        (none, false) := by
  have hselected : selected config client = (candidates client).head? := by
    rcases selected_cases config client with
      ⟨primary, hmem, car, hcar, -⟩ | ⟨-, hselected⟩
    · rw [hprimary primary hmem] at hcar
      cases hcar
    · rw [hselected, head?_candidates]
  unfold verdict loggerHealth
  rw [hselected]
  cases (candidates client).head? <;> rfl

theorem unhealthy_iff_of_primaryUnheard
    (hprimary : PrimaryUnheard config client) :
    (verdict config client now).1 = some false ↔
      ∃ car ∈ client.cars, car.healthy = some false := by
  rw [← first_unhealthy_iff, ← head?_candidates,
    verdict_of_primaryUnheard hprimary]
  cases (candidates client).head? <;> rfl

end Client

section Trace

variable {trace : List Callback} {carId : String}

/-- The healthy payload is the trimmed text of the latest heartbeat. -/
theorem payload_after (trace : List Callback) (carId : String) :
    ((after trace).car? carId).bind (·.healthyPayload) =
      (latest (Callback.heartbeat carId) trace).bind fun beat =>
        some (PyText.strip beat.2) := by
  induction trace using List.reverseRecOn with
  | nil => rfl
  | append_singleton trace callback ih =>
      rw [after_concat]
      cases callback with
      | connect refused time =>
          rw [latest_concat_of_none rfl, ← ih]
          cases refused <;> rfl
      | disconnect time =>
          rw [latest_concat_of_none rfl, ← ih]
          rfl
      | message topic payload time wall =>
          apply field_heartbeat topic payload time wall carId rfl
            (fun hbeat car => ?_) (fun hbeat car => ?_) ih
          · simp [CarObservation.hear, hbeat]
          · by_cases hstate : PyText.endsWith topic "/state" = true <;>
              simp [CarObservation.hear, hbeat, hstate]

/-- A car is known from its first message on, and by its latest ones. -/
theorem known_after (trace : List Callback) (carId : String) :
    ((after trace).car? carId).map CarObservation.known =
      if ((after trace).car? carId).isSome then
        some ((latest (Callback.heartbeat carId) trace).map
            fun beat => PyText.strip beat.2,
          (latest (Callback.heartbeat carId) trace).map Prod.fst,
          (latest (Callback.carState carId) trace).map PyText.strip)
      else none := by
  have hpayload := payload_after trace carId
  have hheard := (recalls_after trace).heard carId
  have hstate := (recalls_after trace).state carId
  cases hcar : (after trace).car? carId with
  | none => rfl
  | some car =>
      rw [hcar, Option.bind_some] at hpayload hheard hstate
      rw [Option.map_some, CarObservation.known, hpayload, hheard, hstate]
      simp only [Option.isSome_some, if_true, Option.map_eq_bind]
      rfl

/-- The healthy value is what the payload says. -/
theorem healthy_after {car : CarObservation}
    (hcar : (after trace).car? carId = some car) :
    car.healthy = parseBoolPayload car.healthyPayload := by
  have hpayload := payload_after trace carId
  have hhealthy := (recalls_after trace).healthy carId
  rw [hcar, Option.bind_some] at hpayload hhealthy
  rw [hpayload, hhealthy]
  cases latest (Callback.heartbeat carId) trace with
  | none => rfl
  | some beat => simp [parseBoolPayload]

end Trace

section Traces

variable {config : MqttConfig} {left right : List Callback} {now : ℚ}

/-- The verdict on a car depends on what is known of it only. -/
theorem verdictOn_eq {car other : CarObservation} {carId otherId : String}
    (hlink : (after left).connectedSince = (after right).connectedSince)
    (hcar : (after left).car? carId = some car)
    (hother : (after right).car? otherId = some other)
    (hknown : car.known = other.known) :
    verdictOn config (after left) now car =
      verdictOn config (after right) now other := by
  simp only [CarObservation.known, Prod.mk.injEq] at hknown
  obtain ⟨hpayload, hbeat, hstate⟩ := hknown
  have hlimit : staleLimit config car = staleLimit config other := by
    rw [staleLimit, staleLimit, hstate]
  have hstale : (staleness config (after left) car now).1 =
      (staleness config (after right) other now).1 := by
    rw [Bool.eq_iff_iff, staleness_iff, staleness_iff, hbeat, hlimit, hlink]
  rw [verdictOn, verdictOn, hstale, healthy_after hcar, healthy_after hother,
    hpayload]

theorem SameKnowledge.symm {left right : WatchdogMqtt}
    (hsame : SameKnowledge left right) : SameKnowledge right left :=
  ⟨hsame.link.symm, fun carId => (hsame.cars carId).symm⟩

theorem SameKnowledge.primaryUnheard {left right : WatchdogMqtt}
    (hsame : SameKnowledge left right) (hprimary : PrimaryUnheard config left) :
    PrimaryUnheard config right := by
  intro primary hmem
  have hknown := hsame.cars primary
  rw [hprimary primary hmem] at hknown
  exact Option.map_eq_none_iff.mp hknown.symm

/-- What one client knows of a car, the other one knows too. -/
theorem SameKnowledge.exists_car {left right : WatchdogMqtt}
    (hsame : SameKnowledge left right) {car : CarObservation}
    (hcar : car ∈ left.cars) :
    ∃ other, other ∈ right.cars ∧ other.carId = car.carId ∧
      car.known = other.known := by
  have hknown := hsame.cars car.carId
  rw [car?_of_mem hcar, Option.map_some] at hknown
  obtain ⟨other, hother, hfields⟩ := Option.map_eq_some_iff.mp hknown.symm
  refine ⟨other, List.mem_of_find?_eq_some hother, ?_, hfields.symm⟩
  simpa using List.find?_some hother

variable (hsame : SameKnowledge (after left) (after right))

include hsame

theorem exists_same_car {car : CarObservation}
    (hcar : car ∈ (after left).cars) :
    ∃ other ∈ (after right).cars, other.carId = car.carId ∧
      other.healthy = car.healthy ∧ ∀ config now,
        verdictOn config (after left) now car =
          verdictOn config (after right) now other := by
  obtain ⟨other, hother, hid, hknown⟩ := hsame.exists_car hcar
  refine ⟨other, hother, hid, ?_, fun config now => verdictOn_eq hsame.link
    (car?_of_mem hcar) (car?_of_mem hother) hknown⟩
  rw [healthy_after (car?_of_mem hcar), healthy_after (car?_of_mem hother),
    (Prod.mk.inj hknown).1]

theorem exists_unhealthy_of_sameKnowledge
    (hunhealthy : ∃ car ∈ (after left).cars, car.healthy = some false) :
    ∃ car ∈ (after right).cars, car.healthy = some false := by
  obtain ⟨car, hcar, hfalse⟩ := hunhealthy
  obtain ⟨other, hother, -, hhealthy, -⟩ := exists_same_car hsame hcar
  exact ⟨other, hother, hhealthy.trans hfalse⟩

/-- A candidate of one is a candidate of the other, with the same verdict. -/
theorem candidate_of_sameKnowledge {car : CarObservation}
    (hcar : car ∈ candidates (after left)) :
    ∃ other ∈ candidates (after right), other.carId = car.carId ∧
      ∀ config now, verdictOn config (after left) now car =
        verdictOn config (after right) now other := by
  obtain ⟨hmem, hfirst⟩ := mem_candidates.mp hcar
  obtain ⟨other, hother, hid, hhealthy, hverdict⟩ := exists_same_car hsame hmem
  refine ⟨other, mem_candidates.mpr ⟨hother, fun hex => ?_⟩, hid, hverdict⟩
  rw [hhealthy]
  exact hfirst (exists_unhealthy_of_sameKnowledge hsame.symm hex)

/-- Where the candidates agree, the verdict is theirs. -/
theorem verdict_eq_of_agree (hprimary : PrimaryUnheard config (after left))
    (hagree : ∀ car ∈ candidates (after left),
      ∀ other ∈ candidates (after left),
        verdictOn config (after left) now car =
          verdictOn config (after left) now other) :
    verdict config (after right) now = verdict config (after left) now := by
  rw [verdict_of_primaryUnheard hprimary,
    verdict_of_primaryUnheard (hsame.primaryUnheard hprimary)]
  cases hright : (candidates (after right)).head? with
  | none =>
      cases hleft : (candidates (after left)).head? with
      | none => rfl
      | some car =>
          obtain ⟨other, hother, -⟩ := candidate_of_sameKnowledge hsame
            (List.mem_of_mem_head? hleft)
          rw [List.head?_eq_none_iff.mp hright] at hother
          cases hother
  | some other =>
      obtain ⟨same, hmem, -, hverdict⟩ := candidate_of_sameKnowledge hsame.symm
        (List.mem_of_mem_head? hright)
      cases hleft : (candidates (after left)).head? with
      | none =>
          rw [List.head?_eq_none_iff.mp hleft] at hmem
          cases hmem
      | some car =>
          simp only [Option.map_some, Option.getD_some]
          rw [hverdict]
          exact hagree same hmem car (List.mem_of_mem_head? hleft)

end Traces

section HeardFirst

/-- The trace with a copy of one of its messages before all others, so that the
car it is about is heard from first. -/
def heardFirst (callback : Callback) (trace : List Callback) : List Callback :=
  callback.withTime ((trace.head?.map Callback.time).getD 0) :: trace

variable {carId : String} {trace : List Callback} {callback : Callback}

theorem mentions_withTime (callback : Callback) (time : ℚ) :
    (callback.withTime time).mentions = callback.mentions := by
  cases callback <;> rfl

theorem link_withTime (callback : Callback) (time : ℚ)
    (hlink : callback.link = none) : (callback.withTime time).link = none := by
  cases callback with
  | connect refused made =>
      cases refused with
      | true => rfl
      | false => cases hlink
  | disconnect made => cases hlink
  | message topic payload made wall => rfl

theorem heartbeat_withTime (callback : Callback) (time : ℚ)
    (hbeat : callback.heartbeat carId = none) :
    (callback.withTime time).heartbeat carId = none := by
  cases callback with
  | message topic payload made wall =>
      rw [Callback.heartbeat, ite_eq_right_iff] at hbeat
      exact if_neg fun hcar => absurd (hbeat hcar) (Option.some_ne_none _)
  | _ => rfl

theorem carState_withTime (callback : Callback) (time : ℚ) :
    (callback.withTime time).carState carId = callback.carState carId := by
  cases callback <;> rfl

/-- The copy says nothing that its original does not say again later. -/
theorem sameKnowledge_heardFirst (hcallback : callback ∈ trace) :
    SameKnowledge (after trace) (after (heardFirst callback trace)) := by
  have hrecalls := recalls_after trace
  have hcopied := recalls_after (heardFirst callback trace)
  constructor
  · rw [hrecalls.link, hcopied.link]
    exact congrArg Option.join
      (latest_cons_of_mem hcallback (link_withTime callback _)).symm
  · intro other
    have hknown : ((after (heardFirst callback trace)).car? other).isSome =
        ((after trace).car? other).isSome := by
      rw [Bool.eq_iff_iff, hrecalls.known, hcopied.known, heardFirst]
      simp only [List.exists_mem_cons_iff, mentions_withTime,
        or_iff_right_iff_imp]
      exact fun hmentions => ⟨callback, hcallback, hmentions⟩
    have hbeats : latest (Callback.heartbeat other)
        (heardFirst callback trace) = latest (Callback.heartbeat other) trace :=
      latest_cons_of_mem hcallback (heartbeat_withTime callback _)
    have hstates : latest (Callback.carState other)
        (heardFirst callback trace) = latest (Callback.carState other) trace :=
      latest_cons_of_mem hcallback (carState_withTime callback _).trans
    rw [known_after, known_after, hknown, hbeats, hstates]

/-- The copy is made when the trace begins, so the clock still does not run
backwards. -/
theorem timely_heardFirst {now : ℚ} (hcallback : callback ∈ trace)
    (htimely : Timely trace now) : Timely (heardFirst callback trace) now := by
  cases trace with
  | nil => cases hcallback
  | cons first rest =>
      have hcopy : (callback.withTime first.time).time = first.time := by
        cases callback <;> rfl
      refine List.pairwise_cons.mpr ⟨?_, htimely⟩
      intro time htime
      change (callback.withTime first.time).time ≤ time
      rw [hcopy]
      rcases List.mem_cons.mp htime with rfl | hlater
      · exact le_refl _
      · exact (List.pairwise_cons.mp htimely).1 time hlater

/-- The car that was heard from first stays first. -/
theorem head?_apply {client : WatchdogMqtt}
    (hfirst : (client.cars.map (·.carId)).head? = some carId)
    (callback : Callback) :
    ((callback.apply client).cars.map (·.carId)).head? = some carId := by
  cases callback with
  | connect refused time => cases refused <;> exact hfirst
  | disconnect time => exact hfirst
  | message topic payload time wall =>
      change ((updateCar _ _ client.cars).map (·.carId)).head? = some carId
      rw [map_carId_updateCar (CarObservation.hear_carId _ _ _ _)]
      split
      · exact hfirst
      · rw [List.head?_append, hfirst, Option.some_or]

theorem head?_after {first : Callback} (rest : List Callback)
    (hfirst : first.mentions = some carId) :
    ((after (first :: rest)).cars.map (·.carId)).head? = some carId := by
  induction rest using List.reverseRecOn with
  | nil =>
      cases first with
      | message topic payload time wall =>
          rw [← hfirst]
          change ((updateCar _ _ []).map (·.carId)).head? = _
          rw [map_carId_updateCar (CarObservation.hear_carId _ _ _ _)]
          rfl
      | _ => cases hfirst
  | append_singleton rest callback ih =>
      rw [← List.cons_append, after_concat]
      exact head?_apply ih callback

/-- A candidate that is heard from first is the first candidate. -/
theorem head?_candidates_heardFirst {car : CarObservation}
    (hcar : car ∈ candidates (after trace)) :
    ∃ callback ∈ trace, ∃ other,
      (candidates (after (heardFirst callback trace))).head? = some other ∧
      ∀ config now, verdictOn config (after trace) now car =
        verdictOn config (after (heardFirst callback trace)) now other := by
  obtain ⟨callback, hcallback, hmentions⟩ :=
    ((recalls_after trace).known car.carId).mp
      (by rw [car?_of_mem (mem_candidates.mp hcar).1]; rfl)
  obtain ⟨other, hother, hid, hverdict⟩ :=
    candidate_of_sameKnowledge (sameKnowledge_heardFirst hcallback) hcar
  refine ⟨callback, hcallback, other, ?_, hverdict⟩
  have hhead : ((after (heardFirst callback trace)).cars.map
      (·.carId)).head? = some car.carId :=
    head?_after trace ((mentions_withTime callback _).trans hmentions)
  cases hcars : (after (heardFirst callback trace)).cars with
  | nil =>
      rw [hcars] at hhead
      cases hhead
  | cons first rest =>
      rw [hcars] at hhead
      have hfirst : first.carId = other.carId :=
        (Option.some.inj hhead).trans hid.symm
      obtain rfl : first = other := List.inj_on_of_nodup_map
        (after (heardFirst callback trace)).cars_nodup
        (by rw [hcars]; exact List.mem_cons_self)
        (mem_candidates.mp hother).1 hfirst
      unfold candidates at hother ⊢
      rw [hcars] at hother ⊢
      split
      · rename_i hany
        rw [if_pos hany] at hother
        have hhealthy : first.healthy = some false := by
          simpa using (List.mem_filter.mp hother).2
        simp [hhealthy]
      · rfl

end HeardFirst

/-- If the verdict is the same for every order, each candidate has it. -/
theorem agree_of_fixed {config : MqttConfig} {trace : List Callback} {now : ℚ}
    (hprimary : PrimaryUnheard config (after trace))
    (hfixed : ∀ callback ∈ trace,
      verdict config (after (heardFirst callback trace)) now =
        verdict config (after trace) now)
    {car : CarObservation} (hcar : car ∈ candidates (after trace)) :
    verdictOn config (after trace) now car =
      verdict config (after trace) now := by
  obtain ⟨callback, hcallback, first, hfirst, hverdict⟩ :=
    head?_candidates_heardFirst hcar
  have hsame := sameKnowledge_heardFirst hcallback
  rw [← hfixed callback hcallback, hverdict,
    verdict_of_primaryUnheard (hsame.primaryUnheard hprimary), hfirst]
  rfl

/-- Without the configured car, whatever the order in which the cars were first
heard from: the verdict is that of the first candidate; it is unhealthy exactly
if some car reports unhealthy; it is the same when the same candidate was heard
from first; and it is the same for every order exactly if the candidates agree,
also when only the orders are counted that a clock can give. -/
theorem fallback_verdict (config : MqttConfig) (trace : List Callback) (now : ℚ)
    (hprimary : PrimaryUnheard config (after trace)) :
    (∀ other, SameKnowledge (after trace) (after other) →
      verdict config (after other) now =
        ((candidates (after other)).head?.map
          (verdictOn config (after other) now)).getD (none, false)) ∧
    (∀ other, SameKnowledge (after trace) (after other) →
      ((verdict config (after other) now).1 = some false ↔
        ∃ car ∈ (after trace).cars, car.healthy = some false)) ∧
    (∀ other, SameKnowledge (after trace) (after other) →
      (candidates (after other)).head?.map (·.carId) =
        (candidates (after trace)).head?.map (·.carId) →
      verdict config (after other) now = verdict config (after trace) now) ∧
    ((∀ other, SameKnowledge (after trace) (after other) →
        verdict config (after other) now = verdict config (after trace) now) ↔
      ∀ car ∈ candidates (after trace), ∀ other ∈ candidates (after trace),
        verdictOn config (after trace) now car =
          verdictOn config (after trace) now other) ∧
    (Timely trace now →
      (∀ other, Timely other now → SameKnowledge (after trace) (after other) →
        verdict config (after other) now = verdict config (after trace) now) →
      ∀ car ∈ candidates (after trace), ∀ other ∈ candidates (after trace),
        verdictOn config (after trace) now car =
          verdictOn config (after trace) now other) := by
  refine ⟨?_, ?_, ?_, ⟨?_, ?_⟩, ?_⟩
  · intro other hsame
    exact verdict_of_primaryUnheard (hsame.primaryUnheard hprimary)
  · intro other hsame
    rw [unhealthy_iff_of_primaryUnheard (hsame.primaryUnheard hprimary)]
    exact ⟨exists_unhealthy_of_sameKnowledge hsame.symm,
      exists_unhealthy_of_sameKnowledge hsame⟩
  · intro other hsame hheads
    rw [verdict_of_primaryUnheard hprimary,
      verdict_of_primaryUnheard (hsame.primaryUnheard hprimary)]
    cases hhead : (candidates (after trace)).head? with
    | none =>
        rw [hhead, Option.map_none, Option.map_eq_none_iff] at hheads
        rw [hheads]
        rfl
    | some car =>
        rw [hhead] at hheads
        obtain ⟨found, hfound, hid⟩ := Option.map_eq_some_iff.mp hheads
        obtain ⟨same, hmem, hsameId, -, hverdict⟩ := exists_same_car hsame
          (mem_candidates.mp (List.mem_of_mem_head? hhead)).1
        obtain rfl : same = found := List.inj_on_of_nodup_map
          (after other).cars_nodup hmem
          (mem_candidates.mp (List.mem_of_mem_head? hfound)).1
          (hsameId.trans hid.symm)
        rw [hfound, Option.map_some, Option.map_some, hverdict]
  · intro hfixed car hcar other hother
    have hagree := fun callback hcallback =>
      hfixed _ (@sameKnowledge_heardFirst trace callback hcallback)
    rw [agree_of_fixed hprimary hagree hcar,
      agree_of_fixed hprimary hagree hother]
  · intro hagree other hsame
    exact verdict_eq_of_agree hsame hprimary hagree
  · intro htimely hfixed car hcar other hother
    have hagree := fun callback hcallback =>
      hfixed _ (timely_heardFirst hcallback htimely)
        (@sameKnowledge_heardFirst trace callback hcallback)
    rw [agree_of_fixed hprimary hagree hcar,
      agree_of_fixed hprimary hagree hother]

/-- Two cars, of which one has only reported its state. -/
def twoCars : List Callback :=
  [.message "teslamate/cars/7/healthy" "true".toUTF8.toList 1 "",
    .message "teslamate/cars/8/state" "asleep".toUTF8.toList 2 ""]

/-- The configured car of the default configuration is not among them. -/
theorem primaryUnheard_twoCars :
    PrimaryUnheard .fromEmptyEnv (after twoCars) := by
  intro primary hprimary
  have hone : MqttConfig.fromEmptyEnv.topics.primaryCarId = some "1" := by
    decide +kernel
  rw [hone] at hprimary
  obtain rfl := Option.some.inj hprimary
  decide +kernel

theorem fallback_verdict_twoCars :
    (∀ other, SameKnowledge (after twoCars) (after other) →
      verdict .fromEmptyEnv (after other) 3 =
        ((candidates (after other)).head?.map
          (verdictOn .fromEmptyEnv (after other) 3)).getD (none, false)) ∧
    (∀ other, SameKnowledge (after twoCars) (after other) →
      ((verdict .fromEmptyEnv (after other) 3).1 = some false ↔
        ∃ car ∈ (after twoCars).cars, car.healthy = some false)) ∧
    (∀ other, SameKnowledge (after twoCars) (after other) →
      (candidates (after other)).head?.map (·.carId) =
        (candidates (after twoCars)).head?.map (·.carId) →
      verdict .fromEmptyEnv (after other) 3 =
        verdict .fromEmptyEnv (after twoCars) 3) ∧
    ((∀ other, SameKnowledge (after twoCars) (after other) →
        verdict .fromEmptyEnv (after other) 3 =
          verdict .fromEmptyEnv (after twoCars) 3) ↔
      ∀ car ∈ candidates (after twoCars), ∀ other ∈ candidates (after twoCars),
        verdictOn .fromEmptyEnv (after twoCars) 3 car =
          verdictOn .fromEmptyEnv (after twoCars) 3 other) ∧
    (Timely twoCars 3 →
      (∀ other, Timely other 3 → SameKnowledge (after twoCars) (after other) →
        verdict .fromEmptyEnv (after other) 3 =
          verdict .fromEmptyEnv (after twoCars) 3) →
      ∀ car ∈ candidates (after twoCars), ∀ other ∈ candidates (after twoCars),
        verdictOn .fromEmptyEnv (after twoCars) 3 car =
          verdictOn .fromEmptyEnv (after twoCars) 3 other) :=
  fallback_verdict .fromEmptyEnv twoCars 3 primaryUnheard_twoCars

/-- The same two cars, the other one heard from first: its state is reported
once more, at the time of the first message. -/
def twoCarsReversed : List Callback :=
  .message "teslamate/cars/8/state" "asleep".toUTF8.toList 1 "" :: twoCars

/-- A healthy car and one that has only reported its state: the verdict is
healthy or unknown, by which of them was heard from first. -/
theorem fallback_depends_on_order :
    ¬∀ (config : MqttConfig) (trace other : List Callback) (now : ℚ),
      Timely trace now → Timely other now →
      PrimaryUnheard config (after trace) →
      SameKnowledge (after trace) (after other) →
      verdict config (after other) now = verdict config (after trace) now := by
  intro hfixed
  have hverdict := hfixed .fromEmptyEnv twoCars twoCarsReversed 3
    (by norm_num [Timely, twoCars, Callback.time])
    (by norm_num [Timely, twoCarsReversed, twoCars, Callback.time])
    primaryUnheard_twoCars
    (@sameKnowledge_heardFirst twoCars
      (.message "teslamate/cars/8/state" "asleep".toUTF8.toList 2 "")
      (List.mem_cons_of_mem _ List.mem_cons_self))
  exact absurd hverdict (by decide +kernel)

end WatchdogMqtt

end TeslamateWatchdog

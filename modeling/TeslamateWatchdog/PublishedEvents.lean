/-
The JSON text of the events.  Whoever reads it gets back what was published,
all but the one signal the observation does not show.  The log categories have
texts for names: a key of the patterns file that is none would come back as one.
-/
import TeslamateWatchdog.Diagnostics
import TeslamateWatchdog.Foundation.JsonRoundTrip
import TeslamateWatchdog.RunHistory
import TeslamateWatchdog.TraceRules

namespace TeslamateWatchdog

open Foundation

/-- The first argument of `publish_event`. -/
def Event.kind : Event → String
  | .failureDetected _ => "failure_detected"
  | .authenticationRequired _ _ _ _ => "authentication_required"
  | .databaseUnhealthy _ _ => "database_unhealthy"
  | .diagnosticsCaptured _ _ _ => "diagnostics_captured"
  | .recoveryStarted _ _ _ _ => "recovery_started"
  | .restartExecuted _ _ _ _ => "restart_executed"
  | .recovered _ _ _ => "recovered"
  | .manualInterventionRequired _ _ _ _ => "manual_intervention_required"

/-- The `base` of the failure events. -/
def FailureReport.base (report : FailureReport) : List (String × Json) :=
  [("state", .str report.state.value),
    ("previous_state", .str report.previousState.value),
    ("reason", .str report.reason),
    ("observation", report.observation.asDict)]

def Incident.asDict (incident : Incident) : List (String × Json) :=
  [("directory", .str incident.directory), ("summary", .str incident.summary)]

/-- The second argument of `publish_event`. -/
def Event.payload : Event → List (String × Json)
  | .failureDetected report => report.base
  | .authenticationRequired report actionRequired teslamateUrl autoRestart =>
      report.base ++ [("action_required", .str actionRequired),
        ("teslamate_url", .str teslamateUrl),
        ("auto_restart", .bool autoRestart)]
  | .databaseUnhealthy report actionRequired =>
      report.base ++ [("action_required", .str actionRequired)]
  | .diagnosticsCaptured state reason incident =>
      [("state", .str state.value), ("reason", .str reason)] ++ incident.asDict
  | .recoveryStarted state reason container waitSeconds =>
      [("state", .str state.value), ("reason", .str reason),
        ("container", .str container), ("wait_seconds", .int waitSeconds)]
  | .restartExecuted state success detail container =>
      [("state", .str state.value), ("success", .bool success),
        ("detail", .str detail), ("container", .str container)]
  | .recovered recoveredFrom reason restartCount24h =>
      [("state", .str State.healthy.value),
        ("recovered_from", .str recoveredFrom.value), ("reason", .str reason),
        ("restart_count_24h", .int restartCount24h)]
  | .manualInterventionRequired recoveredFrom reason actionRequired
      restartCount24h =>
      [("state", .str State.manualInterventionRequired.value)] ++
        (recoveredFrom.map fun state =>
          ("recovered_from", Json.str state.value)).toList ++
        [("reason", .str reason), ("action_required", .str actionRequired)] ++
        (restartCount24h.map fun count =>
          ("restart_count_24h", Json.int count)).toList

/-- The dictionary `publish_event` puts together. -/
def Event.body (event : Event) (timestamp : String) : Json :=
  .obj (Dict.ofMembers ([("event", .str event.kind),
    ("timestamp", .str timestamp)] ++ event.payload))

/-- What `publish_event` publishes. -/
def Event.text (floats : Json.FloatRepr) (event : Event) (timestamp : String) :
    String :=
  Json.dumpsCompact floats (event.body timestamp)

/-- The match counts are a dictionary. -/
def Observation.Keyed (observation : Observation) : Prop :=
  ∀ signals, observation.logSignals = some signals →
    (signals.categoryMatches.map Prod.fst).Nodup

def Event.Keyed (event : Event) : Prop :=
  ∀ report, event.report? = some report → report.observation.Keyed

theorem nodup_bump {counts : List (String × Nat)}
    (hnodup : (counts.map Prod.fst).Nodup) (category : String) :
    ((bump category counts).map Prod.fst).Nodup := by
  rw [keys_bump]
  split
  · exact hnodup
  · rename_i hnew
    rw [← List.concat_eq_append]
    exact hnodup.concat hnew

/-- Counting makes a dictionary of the categories. -/
theorem nodup_classify (classifier : LogClassifier) (text : String) :
    ((classifier.classify text).counts.map Prod.fst).Nodup :=
  @LogClassifier.classify_invariant classifier
    (fun counts _ => (counts.map Prod.fst).Nodup) List.nodup_nil
    (fun category _ _ _ hnodup => nodup_bump hnodup category) text

section Gathered

variable {config : Config} {classifier : LogClassifier}
  {answers : CycleAnswers} {observation : Observation}

/-- What a cycle observes is keyed. -/
theorem keyed_of_gather
    (hgather : gather config classifier answers = .ok observation) :
    observation.Keyed := by
  intro signals hsignals
  have hgathered := (gatheredFrom config classifier answers hgather).signals
  rw [hsignals] at hgathered
  unfold gatherSignals at hgathered
  split at hgathered
  · cases hgathered
  · obtain ⟨text, -, hreply⟩ := bind_eq_ok.mp hgathered
    by_cases htext : text = ""
    · rw [if_pos htext] at hreply
      cases hreply
    · rw [if_neg htext] at hreply
      cases hreply
      exact nodup_classify classifier text

end Gathered

theorem distinct_countsDict {counts : List (String × Nat)}
    (hnodup : (counts.map Prod.fst).Nodup) : (countsDict counts).Distinct := by
  rw [countsDict, Json.distinct_obj, List.map_map]
  refine ⟨hnodup, fun member hmember => ?_⟩
  obtain ⟨entry, -, rfl⟩ := List.mem_map.mp hmember
  exact Json.distinct_int _

theorem distinct_elim {α : Type} {f : α → Json}
    (hf : ∀ value, (f value).Distinct) (optional : Option α) :
    (optional.elim .null f).Distinct := by
  cases optional with
  | none => exact Json.distinct_null
  | some value => exact hf value

theorem distinct_httpResult (result : HttpResult) :
    result.asDict.Distinct := by
  rw [HttpResult.asDict, Json.distinct_obj]
  refine ⟨by simp, ?_⟩
  simp [distinct_elim]

theorem distinct_observation {observation : Observation}
    (hkeyed : observation.Keyed) : observation.asDict.Distinct := by
  have hsignals : (observation.logSignals.elim .null
      LogSignals.asDict).Distinct := by
    cases hfound : observation.logSignals with
    | none => exact Json.distinct_null
    | some signals =>
        rw [Option.elim_some, LogSignals.asDict, Json.distinct_obj]
        refine ⟨by simp, ?_⟩
        simp [distinct_countsDict (hkeyed signals hfound)]
  rw [Observation.asDict, Json.distinct_obj]
  refine ⟨by simp, ?_⟩
  simp [hsignals, distinct_httpResult, distinct_elim]

/-- The payload names no key twice, and neither of the two before it. -/
theorem nodup_payload (event : Event) (timestamp : String) :
    (([("event", Json.str event.kind), ("timestamp", .str timestamp)] ++
      event.payload).map Prod.fst).Nodup := by
  cases event with
  | manualInterventionRequired recoveredFrom _ _ restartCount24h =>
      cases recoveredFrom <;> cases restartCount24h <;>
      simp [Event.payload]
  | _ => simp [Event.payload, FailureReport.base, Incident.asDict]

theorem body_eq (event : Event) (timestamp : String) :
    event.body timestamp = .obj ([("event", .str event.kind),
      ("timestamp", .str timestamp)] ++ event.payload) := by
  rw [Event.body, Dict.ofMembers_of_nodup (nodup_payload event timestamp)]

theorem distinct_body {event : Event} (hkeyed : event.Keyed)
    (timestamp : String) : (event.body timestamp).Distinct := by
  rw [body_eq, Json.distinct_obj]
  refine ⟨nodup_payload event timestamp, ?_⟩
  have hbase : ∀ report, event.report? = some report →
      report.observation.asDict.Distinct :=
    fun report hreport => distinct_observation (hkeyed report hreport)
  cases event with
  | manualInterventionRequired recoveredFrom _ _ restartCount24h =>
      cases recoveredFrom <;> cases restartCount24h <;>
      simp [Event.payload]
  | failureDetected report =>
      simp [Event.payload, FailureReport.base, hbase report rfl]
  | authenticationRequired report =>
      simp [Event.payload, FailureReport.base, hbase report rfl]
  | databaseUnhealthy report =>
      simp [Event.payload, FailureReport.base, hbase report rfl]
  | _ => simp [Event.payload, Incident.asDict]

/-- The text of a keyed event is read as its body. -/
theorem loads_text (floats : Json.FloatText) {event : Event}
    (hkeyed : event.Keyed) (timestamp : String) :
    Json.loads floats (event.text floats.toFloatRepr timestamp).toList =
      some (event.body timestamp) :=
  Json.loads_dumpsCompact (distinct_body hkeyed timestamp)

/-- The observation as its dictionary shows it. -/
def Observation.shown (observation : Observation) : Observation :=
  { observation with
    logSignals := observation.logSignals.map fun signals =>
      { signals with refreshSuccess := false } }

def FailureReport.shown (report : FailureReport) : FailureReport :=
  { report with observation := report.observation.shown }

def Event.shown : Event → Event
  | .failureDetected report => .failureDetected report.shown
  | .authenticationRequired report actionRequired teslamateUrl autoRestart =>
      .authenticationRequired report.shown actionRequired teslamateUrl
        autoRestart
  | .databaseUnhealthy report actionRequired =>
      .databaseUnhealthy report.shown actionRequired
  | event => event

theorem State.value_injective : Function.Injective State.value := by
  intro left right hvalue
  cases left <;> cases right <;> first | rfl | exact absurd hvalue (by decide)

theorem HttpCategory.value_injective :
    Function.Injective HttpCategory.value := by
  intro left right hvalue
  cases left <;> cases right <;> first | rfl | exact absurd hvalue (by decide)

theorem elim_inj {α : Type} {f : α → Json} (hf : Function.Injective f)
    (hnull : ∀ value, f value ≠ .null) {left right : Option α} :
    left.elim .null f = right.elim .null f ↔ left = right := by
  refine ⟨fun heq => ?_, fun heq => heq ▸ rfl⟩
  cases left with
  | none =>
      cases right with
      | none => rfl
      | some value => exact absurd heq.symm (hnull value)
  | some value =>
      cases right with
      | none => exact absurd heq (hnull value)
      | some other => exact congrArg some (hf heq)

theorem elim_str {left right : Option String} :
    left.elim .null Json.str = right.elim .null .str ↔ left = right :=
  elim_inj (fun _ _ => Json.str.inj) fun _ => Json.noConfusion

theorem elim_bool {left right : Option Bool} :
    left.elim .null Json.bool = right.elim .null .bool ↔ left = right :=
  elim_inj (fun _ _ => Json.bool.inj) fun _ => Json.noConfusion

theorem elim_nat {left right : Option Nat} :
    (left.elim Json.null fun n => .int n) =
      (right.elim Json.null fun n => .int n) ↔ left = right :=
  elim_inj (fun _ _ heq => Int.ofNat.inj (Json.int.inj heq))
    fun _ => Json.noConfusion

theorem countsDict_inj {left right : List (String × Nat)} :
    countsDict left = countsDict right ↔ left = right := by
  refine ⟨fun heq => ?_, fun heq => heq ▸ rfl⟩
  refine List.map_injective_iff.mpr ?_ (Json.obj.inj heq)
  rintro ⟨key, count⟩ ⟨other, number⟩ hentry
  obtain ⟨hkey, hcount⟩ := Prod.mk.inj hentry
  exact Prod.ext hkey (Int.ofNat.inj (Json.int.inj hcount))

theorem httpResult_inj {left right : HttpResult} :
    left.asDict = right.asDict ↔ left = right := by
  refine ⟨fun heq => ?_, fun heq => heq ▸ rfl⟩
  obtain ⟨category, statusCode, redirectTarget, elapsedMs, error, detail,
    checkedAt⟩ := left
  obtain ⟨category', statusCode', redirectTarget', elapsedMs', error', detail',
    checkedAt'⟩ := right
  simpa [HttpResult.asDict, elim_str, elim_nat,
    HttpCategory.value_injective.eq_iff] using heq

/-- Two observations look alike exactly when they differ in nothing shown. -/
theorem observation_asDict_iff {left right : Observation} :
    left.asDict = right.asDict ↔ left.shown = right.shown := by
  have hsignals : ∀ signals other : Option LogSignals,
      signals.elim .null LogSignals.asDict =
        other.elim .null LogSignals.asDict ↔
      signals.map (fun found => { found with refreshSuccess := false }) =
        other.map (fun found => { found with refreshSuccess := false }) := by
    intro signals other
    cases signals <;> cases other <;> simp [LogSignals.asDict, countsDict_inj]
  obtain ⟨http, loggerHealthy, loggerStale, loggerDetail, databaseHealthy,
    running, logSignals⟩ := left
  obtain ⟨http', loggerHealthy', loggerStale', loggerDetail', databaseHealthy',
    running', logSignals'⟩ := right
  simp [Observation.asDict, Observation.shown, httpResult_inj, elim_bool,
    hsignals]

theorem base_iff {left right : FailureReport} :
    left.base = right.base ↔ left.shown = right.shown := by
  obtain ⟨state, previousState, reason, observation⟩ := left
  obtain ⟨state', previousState', reason', observation'⟩ := right
  simp [FailureReport.base, FailureReport.shown, observation_asDict_iff,
    State.value_injective.eq_iff]

theorem base_append_iff {left right : FailureReport}
    {more other : List (String × Json)} :
    left.base ++ more = right.base ++ other ↔
      left.shown = right.shown ∧ more = other := by
  rw [← base_iff]
  constructor
  · intro heq
    exact List.append_inj heq rfl
  · rintro ⟨hbase, rfl⟩
    rw [hbase]

theorem payload_iff {left right : Event} (hkind : left.kind = right.kind) :
    left.payload = right.payload ↔ left.shown = right.shown := by
  cases left with
  | failureDetected =>
      cases right with
      | failureDetected =>
          simp [Event.payload, Event.shown, base_iff]
      | _ => simp [Event.kind] at hkind
  | authenticationRequired =>
      cases right with
      | authenticationRequired =>
          simp [Event.payload, Event.shown, base_append_iff]
      | _ => simp [Event.kind] at hkind
  | databaseUnhealthy =>
      cases right with
      | databaseUnhealthy =>
          simp only [Event.payload, base_append_iff, Event.shown,
            Event.databaseUnhealthy.injEq, List.cons.injEq, Prod.mk.injEq,
            Json.str.injEq, true_and, and_true]
      | _ => simp [Event.kind] at hkind
  | diagnosticsCaptured state reason incident =>
      cases right with
      | diagnosticsCaptured other because found =>
          obtain ⟨directory, summary⟩ := incident
          obtain ⟨directory', summary'⟩ := found
          simp [Event.payload, Event.shown, Incident.asDict,
            State.value_injective.eq_iff]
      | _ => simp [Event.kind] at hkind
  | recoveryStarted =>
      cases right with
      | recoveryStarted =>
          simp [Event.payload, Event.shown, State.value_injective.eq_iff]
      | _ => simp [Event.kind] at hkind
  | restartExecuted =>
      cases right with
      | restartExecuted =>
          simp [Event.payload, Event.shown, State.value_injective.eq_iff]
      | _ => simp [Event.kind] at hkind
  | recovered =>
      cases right with
      | recovered =>
          simp [Event.payload, Event.shown, State.value_injective.eq_iff]
      | _ => simp [Event.kind] at hkind
  | manualInterventionRequired recoveredFrom _ _ restartCount24h =>
      cases right with
      | manualInterventionRequired other _ _ count =>
          cases recoveredFrom <;> cases restartCount24h <;> cases other <;>
          cases count <;>
          simp [Event.payload, Event.shown, State.value_injective.eq_iff]
      | _ => simp [Event.kind] at hkind

/-- Two published texts are the same exactly when nothing that is shown of the
two events differs. -/
theorem text_eq_iff (floats : Json.FloatText) {left right : Event}
    (hleft : left.Keyed) (hright : right.Keyed) {timestamp other : String} :
    left.text floats.toFloatRepr timestamp =
        right.text floats.toFloatRepr other ↔
      timestamp = other ∧ left.shown = right.shown := by
  have hkind : ∀ event : Event, event.shown.kind = event.kind := by
    intro event
    cases event <;> rfl
  constructor
  · intro htext
    have hread := loads_text floats hleft timestamp
    rw [htext, loads_text floats hright other] at hread
    have hbody := Option.some.inj hread
    rw [body_eq, body_eq] at hbody
    simp only [List.cons_append, List.nil_append, Json.obj.injEq,
      List.cons.injEq, Prod.mk.injEq, Json.str.injEq, true_and] at hbody
    obtain ⟨hsame, htimestamp, hpayload⟩ := hbody
    exact ⟨htimestamp.symm, ((payload_iff hsame).mp hpayload).symm⟩
  · rintro ⟨rfl, hshown⟩
    have hsame : left.kind = right.kind := by
      rw [← hkind left, hshown, hkind right]
    rw [Event.text, Event.text, Event.body, Event.body, hsame,
      (payload_iff hsame).mpr hshown]

@[simp]
def Effect.event? : Effect → Option Event
  | .event published => some published
  | _ => none

abbrev eventsOf (effects : List Effect) : List Event :=
  collect Effect.event? effects

section Runs

variable {config : Config} {classifier : LogClassifier}

theorem covering_keyed (answers : CycleAnswers) :
    Covering answers Observation.Keyed fun effect =>
      ∀ event, effect.event? = some event → event.Keyed where
  silent effect hsilent event hevent := by
    cases effect with
    | event published => cases hsilent
    | _ => simp at hevent
  reported event report hreport hkeyed := by
    rintro other ⟨⟩ found hfound
    rw [hreport] at hfound
    rwa [← Option.some.inj hfound]
  announced event hnone := by
    rintro other ⟨⟩ report hreport
    rw [hnone] at hreport
    cases hreport
  published _ _ _ _ event hevent := by cases hevent

/-- Every event of a run is keyed. -/
theorem keyed_of_run {start : Watchdog} {inputs : List CycleAnswers}
    {event : Event}
    (hevent : event ∈ eventsOf ((checkLoop config classifier).run start inputs).2) :
    event.Keyed := by
  obtain ⟨effect, heffect, hsome⟩ := List.mem_filterMap.mp hevent
  exact tracesOnly_run (fun answers _ => covering_keyed answers)
    (fun _ _ _ => keyed_of_gather) start effect heffect event hsome

/-- Whatever the loop publishes is a line of printable ASCII, and reads back as
the event's kind, the time and the payload, nothing of it replaced. -/
theorem published_reads_back (floats : Json.FloatText) {start : Watchdog}
    {inputs : List CycleAnswers} {event : Event}
    (hevent : event ∈ eventsOf ((checkLoop config classifier).run start inputs).2)
    (timestamp : String) :
    Json.Printable (event.text floats.toFloatRepr timestamp).toList ∧
    Json.loads floats (event.text floats.toFloatRepr timestamp).toList =
      some (.obj ([("event", .str event.kind),
        ("timestamp", .str timestamp)] ++ event.payload)) := by
  refine ⟨Json.printable_dumpsCompact _ _, ?_⟩
  rw [loads_text floats (keyed_of_run hevent), body_eq]

/-- The failure that a first check of a stopped container reports. -/
def stoppedFailure : Event :=
  .failureDetected ⟨.teslamateUnreachable, .starting,
    "teslamate container is not running",
    { http := { category := .authenticated, statusCode := some 200 }
      loggerHealthy := some true
      loggerDetail := "healthy"
      databaseHealthy := some true
      teslamateContainerRunning := some false }⟩

theorem published_reads_back_stopped :
    Json.loads Json.wholeFloats (stoppedFailure.text
      Json.wholeFloats.toFloatRepr "2026-01-01T00:00:00+00:00").toList =
        some (.obj ([("event", .str stoppedFailure.kind),
          ("timestamp", .str "2026-01-01T00:00:00+00:00")] ++
            stoppedFailure.payload)) :=
  (@published_reads_back .fromEmptyEnv .withoutPatterns Json.wholeFloats
    (.build ⟨[], .missing⟩) [.stopped 0] stoppedFailure (by decide +kernel) _).2

/-- Of any two events of any two runs a reader can tell everything that their
dictionaries show. -/
theorem published_tells (floats : Json.FloatText) {other : Config}
    {reader : LogClassifier} {start second : Watchdog}
    {inputs more : List CycleAnswers} {left right : Event}
    (hleft : left ∈ eventsOf ((checkLoop config classifier).run start inputs).2)
    (hright : right ∈ eventsOf ((checkLoop other reader).run second more).2)
    (timestamp later : String) :
    left.text floats.toFloatRepr timestamp =
        right.text floats.toFloatRepr later ↔
      timestamp = later ∧ left.shown = right.shown :=
  text_eq_iff floats (keyed_of_run hleft) (keyed_of_run hright)

/-- The same failure, published twice. -/
theorem published_tells_stopped :
    stoppedFailure.text Json.wholeFloats.toFloatRepr
          "2026-01-01T00:00:00+00:00" =
        stoppedFailure.text Json.wholeFloats.toFloatRepr
          "2026-01-01T00:01:00+00:00" ↔
      "2026-01-01T00:00:00+00:00" = "2026-01-01T00:01:00+00:00" ∧
        stoppedFailure.shown = stoppedFailure.shown := by
  have hevent : stoppedFailure ∈ eventsOf ((checkLoop .fromEmptyEnv
      .withoutPatterns).run (.build ⟨[], .missing⟩) [.stopped 0]).2 := by
    decide +kernel
  exact published_tells Json.wholeFloats hevent hevent _ _

end Runs

end TeslamateWatchdog

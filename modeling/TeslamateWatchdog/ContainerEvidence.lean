/-
What the engine says of a container, and what the checks conclude from it.
Unknown is meant to stay unknown on the way from an inspect document to the
evaluation of a check; it does as long as the documents are outspoken.
-/
import TeslamateWatchdog.CheckLoop

namespace TeslamateWatchdog

open Foundation

namespace DockerClient

/-- An inspect document that `status` gets through without raising. -/
structure Readable (document : Json) : Prop where
  isObject : ∃ members, document = .obj members
  state : (document.look ["State"]).Maps
  health : (document.look ["State", "Health"]).Maps

/-- The status of a container, each field looked up in the document. -/
def described (ref : ContainerRef) (document : Json) : ContainerStatus where
  found := true
  running := some (document.look ["State", "Running"]).truthy
  status := document.look ["State", "Status"]
  health := document.look ["State", "Health", "Status"]
  restartCount := document.look ["RestartCount"]
  oomKilled := some (document.look ["State", "OOMKilled"]).truthy
  exitCode := document.look ["State", "ExitCode"]
  startedAt := document.look ["State", "StartedAt"]
  finishedAt := document.look ["State", "FinishedAt"]
  ref := some ref

theorem inspected_eq_ok {ref : ContainerRef} {document : Json}
    {status : ContainerStatus} :
    inspected ref document = .ok status ↔
      Readable document ∧ status = described ref document := by
  have hstate : ∀ key, document.look ["State", key] =
      (document.look ["State"]).look [key] := fun key =>
    document.look_cons "State" [key]
  have hhealth : document.look ["State", "Health", "Status"] =
      ((document.look ["State"]).look ["Health"]).look ["Status"] := by
    rw [document.look_cons, Json.look_cons _ "Health"]
  unfold inspected
  simp only [bind_eq_ok, Json.orElse_getD_eq_ok]
  simp only [Json.getD_eq_ok]
  constructor
  · rintro ⟨_, ⟨hobject, rfl⟩, _, ⟨hmaps, rfl⟩, _, ⟨hmapsHealth, rfl⟩, hrest⟩
    obtain ⟨_, ⟨_, rfl⟩, _, ⟨_, rfl⟩, _, ⟨_, rfl⟩, hrest⟩ := hrest
    obtain ⟨_, ⟨_, rfl⟩, _, ⟨_, rfl⟩, _, ⟨_, rfl⟩, _, ⟨_, rfl⟩, hrest⟩ := hrest
    refine ⟨⟨hobject, hmaps, (hstate "Health").symm ▸ hmapsHealth⟩, ?_⟩
    rw [← Except.ok.inj hrest, described, hhealth]
    simp only [hstate]
  · rintro ⟨⟨hobject, hmaps, hmapsHealth⟩, rfl⟩
    rw [hstate] at hmapsHealth
    rw [described, hhealth]
    simp only [hstate]
    exact ⟨_, ⟨hobject, rfl⟩, _, ⟨hmaps, rfl⟩, _, ⟨hmapsHealth, rfl⟩,
      _, ⟨hmaps, rfl⟩, _, ⟨hmaps, rfl⟩, _, ⟨hobject, rfl⟩, _, ⟨hmaps, rfl⟩,
      _, ⟨hmaps, rfl⟩, _, ⟨hmaps, rfl⟩, _, ⟨hmaps, rfl⟩, rfl⟩

end DockerClient

/-- The engine's answers to one `status` call: the list, then the inspection of
the container it resolved. -/
structure Inspection where
  listing : JsonAnswer
  inspect : Json → JsonAnswer

namespace Inspection

def status (inspection : Inspection) (configured : String) :
    Except PyError ContainerStatus :=
  DockerClient.status inspection.listing inspection.inspect configured

/-- The inspect document that `status` reads, when the engine sent one. -/
def document? (inspection : Inspection) (configured : String) : Option Json :=
  match DockerClient.resolve inspection.listing configured with
  | .ok (some ref) =>
      match inspection.inspect ref.id with
      | .body document => some document
      | _ => none
  | _ => none

variable (inspection : Inspection) (configured : String)

/-- The document says, in so many words, that the container is not running. -/
def StatesNotRunning : Prop :=
  ∃ document ∈ inspection.document? configured,
    document.look ["State", "Running"] = .bool false

/-- The document says that the healthcheck of the container fails. -/
def StatesUnhealthy : Prop :=
  ∃ document ∈ inspection.document? configured,
    document.look ["State", "Health", "Status"] = .str "unhealthy"

/-- The document says that no healthcheck is defined: it has no health status,
or the one documented for that. -/
def StatesNoHealthcheck : Prop :=
  ∃ document ∈ inspection.document? configured,
    document.look ["State", "Health", "Status"] = .null ∨
      document.look ["State", "Health", "Status"] = .str "none"

/-- A document that can be read says `true` (or what counts as true) or `false`
of the container running. -/
def SaysRunning : Prop :=
  ∀ document ∈ inspection.document? configured,
    DockerClient.Readable document →
      (document.look ["State", "Running"]).truthy = true ∨
        document.look ["State", "Running"] = .bool false

/-- A document that can be read, of a container that runs, has no health status
or one that `check_database` knows. -/
def KnownHealth : Prop :=
  ∀ document ∈ inspection.document? configured,
    DockerClient.Readable document →
      document.look ["State", "Running"] = .bool false ∨
        document.look ["State", "Health", "Status"] = .null ∨
        ∃ text ∈ ["healthy", "starting", "unhealthy"],
          document.look ["State", "Health", "Status"] = .str text

variable {inspection} {configured}

/-- A status is either the one a document describes, or unknown. -/
theorem status_cases {status : ContainerStatus}
    (hstatus : inspection.status configured = .ok status) :
    (∃ document ∈ inspection.document? configured,
        DockerClient.Readable document ∧
          ∃ ref, status = DockerClient.described ref document) ∨
      inspection.document? configured = none ∧ status.running = none ∧
        status.health = .null := by
  unfold Inspection.status DockerClient.status at hstatus
  obtain ⟨found, hresolve, hstatus⟩ := bind_eq_ok.mp hstatus
  cases found with
  | none =>
      obtain rfl := Except.ok.inj hstatus
      exact .inr ⟨by rw [document?, hresolve], rfl, rfl⟩
  | some ref =>
      cases hinspect : inspection.inspect ref.id with
      | body document =>
          simp only [hinspect] at hstatus
          obtain ⟨hreadable, hdescribed⟩ :=
            DockerClient.inspected_eq_ok.mp hstatus
          refine .inl ⟨document, ?_, hreadable, ref, hdescribed⟩
          simp [document?, hresolve, hinspect]
      | tooDeep =>
          simp only [hinspect] at hstatus
          cases hstatus
      | _ =>
          simp only [hinspect] at hstatus
          obtain rfl := Except.ok.inj hstatus
          exact .inr ⟨by simp [document?, hresolve, hinspect], rfl, rfl⟩

theorem status_of_readable {document : Json}
    (hdocument : document ∈ inspection.document? configured)
    (hreadable : DockerClient.Readable document) :
    ∃ ref, inspection.status configured =
      .ok (DockerClient.described ref document) := by
  unfold document? at hdocument
  cases hresolve : DockerClient.resolve inspection.listing configured with
  | error error => simp [hresolve] at hdocument
  | ok found =>
      cases found with
      | none => simp [hresolve] at hdocument
      | some ref =>
          cases hinspect : inspection.inspect ref.id with
          | body found =>
              simp only [hresolve, hinspect, Option.mem_some] at hdocument
              subst hdocument
              refine ⟨ref, ?_⟩
              rw [← DockerClient.inspected_eq_ok.mpr ⟨hreadable, rfl⟩]
              simp [Inspection.status, DockerClient.status, hresolve, hinspect,
                bind, Except.bind]
          | _ => simp [hresolve, hinspect] at hdocument

end Inspection

/-- How `check_database` comes to its verdict on a status. -/
inductive Judged (config : Config)
    (connect : String → Nat → Nat → ConnectAnswer) (status : ContainerStatus) :
    DatabaseHealth → Prop where
  | missing {health : DatabaseHealth} (hfound : status.found = false)
      (hhealthy : health.healthy = none) : Judged config connect status health
  | stopped {health : DatabaseHealth} (hrunning : status.running = some false)
      (hsource : health.source = "docker")
      (hhealthy : health.healthy = some false) :
      Judged config connect status health
  | probed {health : DatabaseHealth} {reachable : Bool} {detail : String}
      (hrunning : status.running ≠ some false) (hstatus : status.health = .null)
      (hprobe : tcpProbe connect config.databaseHost config.databasePort
        config.dockerTimeoutSeconds = .ok (reachable, detail))
      (hsource : health.source = "tcp")
      (hhealthy : health.healthy = some reachable) :
      Judged config connect status health
  | checked {health : DatabaseHealth} (hrunning : status.running ≠ some false)
      (hstatus : status.health ≠ .null) (hsource : health.source = "healthcheck")
      (hhealthy : health.healthy =
        if status.health.isStr "healthy" then some true
        else if status.health.isStr "starting" then none else some false) :
      Judged config connect status health

section Database

variable {config : Config} {classifier : LogClassifier}
  {answers : CycleAnswers} {teslamate database : Inspection}
  {health : DatabaseHealth}

theorem checkDatabase_judged
    {status : String → Except PyError ContainerStatus}
    {connect : String → Nat → Nat → ConnectAnswer}
    (hcheck : checkDatabase config status connect = .ok health) :
    ∃ found, status config.databaseContainer = .ok found ∧
      Judged config connect found health := by
  unfold checkDatabase at hcheck
  obtain ⟨found, hstatus, hcheck⟩ := bind_eq_ok.mp hcheck
  refine ⟨found, hstatus, ?_⟩
  dsimp only at hcheck
  by_cases hfound : (!found.found) = true
  · rw [if_pos hfound] at hcheck
    obtain rfl := Except.ok.inj hcheck
    exact .missing (by simpa using hfound) rfl
  · rw [if_neg hfound] at hcheck
    by_cases hrunning : found.running = some false
    · rw [if_pos hrunning] at hcheck
      obtain rfl := Except.ok.inj hcheck
      exact .stopped hrunning rfl rfl
    · rw [if_neg hrunning] at hcheck
      split at hcheck
      · rename_i hhealth
        obtain ⟨⟨reachable, detail⟩, hprobe, hcheck⟩ := bind_eq_ok.mp hcheck
        obtain rfl := Except.ok.inj hcheck
        exact .probed hrunning hhealth hprobe rfl rfl
      · rename_i hhealth
        by_cases hhealthy : found.health.isStr "healthy" = true
        · rw [if_pos hhealthy] at hcheck
          obtain rfl := Except.ok.inj hcheck
          exact .checked hrunning hhealth rfl (if_pos hhealthy).symm
        · rw [if_neg hhealthy] at hcheck
          by_cases hstarting : found.health.isStr "starting" = true
          · rw [if_pos hstarting] at hcheck
            obtain rfl := Except.ok.inj hcheck
            refine .checked hrunning hhealth rfl ?_
            rw [if_neg hhealthy, if_pos hstarting]
          · rw [if_neg hstarting] at hcheck
            obtain rfl := Except.ok.inj hcheck
            refine .checked hrunning hhealth rfl ?_
            rw [if_neg hhealthy, if_neg hstarting]

/-- A verdict is reached on every status that is not sent to the probe. -/
theorem checkDatabase_of_status {found : ContainerStatus}
    {status : String → Except PyError ContainerStatus}
    {connect : String → Nat → Nat → ConnectAnswer}
    (hstatus : status config.databaseContainer = .ok found)
    (hhealth : found.health ≠ .null) :
    ∃ health, checkDatabase config status connect = .ok health := by
  unfold checkDatabase
  rw [hstatus]
  dsimp only [bind, Except.bind]
  split
  · exact ⟨_, rfl⟩
  · split
    · exact ⟨_, rfl⟩
    · split
      · rename_i hnull
        exact absurd hnull hhealth
      · split
        · exact ⟨_, rfl⟩
        · split
          · exact ⟨_, rfl⟩
          · exact ⟨_, rfl⟩

/-- The engine says that the database does not run or is not healthy, or the
probe was made, and failed. -/
def DatabaseEvidence (config : Config) (answers : CycleAnswers)
    (database : Inspection) : Prop :=
  database.StatesNotRunning config.databaseContainer ∨
    database.StatesUnhealthy config.databaseContainer ∨
    ∃ health, checkDatabase config database.status answers.connect =
        .ok health ∧ health.source = "tcp" ∧
      ∃ detail, tcpProbe answers.connect config.databaseHost
        config.databasePort config.dockerTimeoutSeconds = .ok (false, detail)

/-- The answers, with each container's status read from the engine. -/
def CycleAnswers.inspecting (config : Config) (answers : CycleAnswers)
    (teslamate database : Inspection) : CycleAnswers :=
  { answers with
    status := fun configured =>
      if configured = config.databaseContainer then database.status configured
      else teslamate.status configured }

/-- From the statuses to the evaluation of a check, nothing fails without
evidence. -/
structure FailsOnEvidence (config : Config) (classifier : LogClassifier)
    (answers : CycleAnswers) (teslamate database : Inspection) : Prop where
  /-- A container is reported stopped only if the engine says so. -/
  stopped : ∀ inspection configured,
    (inspection, configured) ∈ [(teslamate, config.teslamateContainer),
      (database, config.databaseContainer)] →
    ∀ status, inspection.status configured = .ok status →
      status.running = some false → inspection.StatesNotRunning configured
  /-- The database is reported unhealthy only on evidence. -/
  unhealthy : ∀ health,
    checkDatabase config database.status answers.connect = .ok health →
      health.healthy = some false → DatabaseEvidence config answers database
  /-- Without a healthcheck the probe is made. -/
  probed : ∀ health,
    checkDatabase config database.status answers.connect = .ok health →
      database.StatesNoHealthcheck config.databaseContainer →
      ¬database.StatesNotRunning config.databaseContainer →
      health.source = "tcp"
  /-- The evaluation of an observation made of these answers. -/
  evaluated : ∀ w observation after,
    outcome (Watchdog.observe config classifier
        (answers.inspecting config teslamate database)) w =
      (.ok observation, after) →
    ((evaluate observation).immediate = true →
      teslamate.StatesNotRunning config.teslamateContainer) ∧
    ((evaluate observation).state = .databaseUnhealthy →
      DatabaseEvidence config answers database)

theorem checkDatabase_inspecting :
    checkDatabase config (answers.inspecting config teslamate database).status
        (answers.inspecting config teslamate database).connect =
      checkDatabase config database.status answers.connect := by
  unfold checkDatabase
  simp only [CycleAnswers.inspecting, if_true]

theorem stopped_of_saysRunning {inspection : Inspection} {configured : String}
    (hspoken : inspection.SaysRunning configured) {status : ContainerStatus}
    (hstatus : inspection.status configured = .ok status)
    (hrunning : status.running = some false) :
    inspection.StatesNotRunning configured := by
  rcases Inspection.status_cases hstatus with
    ⟨document, hdocument, hreadable, ref, rfl⟩ | ⟨-, hunknown, -⟩
  · rcases hspoken document hdocument hreadable with htruthy | hfalse
    · rw [DockerClient.described, htruthy] at hrunning
      cases hrunning
    · exact ⟨document, hdocument, hfalse⟩
  · rw [hunknown] at hrunning
    cases hrunning

theorem saysRunning_of_stopped {inspection : Inspection} {configured : String}
    (hstopped : ∀ status, inspection.status configured = .ok status →
      status.running = some false → inspection.StatesNotRunning configured) :
    inspection.SaysRunning configured := by
  intro document hdocument hreadable
  obtain ⟨ref, hstatus⟩ := Inspection.status_of_readable hdocument hreadable
  by_cases htruthy : (document.look ["State", "Running"]).truthy = true
  · exact .inl htruthy
  · have hrunning : (DockerClient.described ref document).running =
        some false := by
      rw [DockerClient.described, Bool.eq_false_of_not_eq_true htruthy]
    obtain ⟨found, hfound, hfalse⟩ := hstopped _ hstatus hrunning
    obtain rfl := Option.mem_unique hdocument hfound
    exact .inr hfalse

theorem evidence_of_unhealthy
    (hspoken : database.SaysRunning config.databaseContainer)
    (hknown : database.KnownHealth config.databaseContainer)
    (hcheck : checkDatabase config database.status answers.connect = .ok health)
    (hunhealthy : health.healthy = some false) :
    DatabaseEvidence config answers database := by
  obtain ⟨found, hstatus, hjudged⟩ := checkDatabase_judged hcheck
  cases hjudged with
  | missing hfound hhealthy =>
      rw [hhealthy] at hunhealthy
      cases hunhealthy
  | stopped hrunning hsource hhealthy =>
      exact .inl (stopped_of_saysRunning hspoken hstatus hrunning)
  | probed hrunning hnull hprobe hsource hhealthy =>
      obtain rfl := Option.some.inj (hhealthy.symm.trans hunhealthy)
      exact .inr (.inr ⟨health, hcheck, hsource, _, hprobe⟩)
  | checked hrunning hstated hsource hhealthy =>
      rcases Inspection.status_cases hstatus with
        ⟨document, hdocument, hreadable, ref, rfl⟩ | ⟨-, -, hunknown⟩
      · rcases hknown document hdocument hreadable with
          hfalse | hnull | ⟨text, htext, htold⟩
        · exact .inl ⟨document, hdocument, hfalse⟩
        · exact absurd hnull hstated
        · have hsame : (DockerClient.described ref document).health =
              .str text := htold
          rw [hsame, hunhealthy] at hhealthy
          simp only [List.mem_cons, List.not_mem_nil, or_false] at htext
          rcases htext with rfl | rfl | rfl
          · cases hhealthy
          · cases hhealthy
          · exact .inr (.inl ⟨document, hdocument, htold⟩)
      · exact absurd hunknown hstated

theorem probed_of_noHealthcheck
    (hspoken : database.SaysRunning config.databaseContainer)
    (hknown : database.KnownHealth config.databaseContainer)
    (hcheck : checkDatabase config database.status answers.connect = .ok health)
    (hnone : database.StatesNoHealthcheck config.databaseContainer)
    (hruns : ¬database.StatesNotRunning config.databaseContainer) :
    health.source = "tcp" := by
  obtain ⟨found, hstatus, hjudged⟩ := checkDatabase_judged hcheck
  obtain ⟨document, hdocument, hhealth⟩ := hnone
  rcases Inspection.status_cases hstatus with
    ⟨other, hother, hreadable, ref, rfl⟩ | ⟨hmissing, -, -⟩
  · obtain rfl := Option.mem_unique hdocument hother
    cases hjudged with
    | missing hfound hhealthy => cases hfound
    | stopped hrunning hsource hhealthy =>
        exact absurd (stopped_of_saysRunning hspoken hstatus hrunning) hruns
    | probed hrunning hnull hprobe hsource hhealthy => exact hsource
    | checked hrunning hstated hsource hhealthy =>
        rcases hknown document hdocument hreadable with
          hfalse | hnull | ⟨text, htext, htold⟩
        · exact absurd ⟨document, hdocument, hfalse⟩ hruns
        · exact absurd hnull hstated
        · rw [htold] at hhealth
          rcases hhealth with hnull | hnone
          · cases hnull
          · rw [Json.str.inj hnone] at htext
            exact absurd htext (by decide)
  · rw [hmissing] at hdocument
    cases hdocument

theorem knownHealth_of_unhealthy
    (hspoken : database.SaysRunning config.databaseContainer)
    (hunhealthy : ∀ health,
      checkDatabase config database.status answers.connect = .ok health →
        health.healthy = some false →
        DatabaseEvidence config answers database) :
    database.KnownHealth config.databaseContainer := by
  intro document hdocument hreadable
  by_cases hnull : document.look ["State", "Health", "Status"] = .null
  · exact .inr (.inl hnull)
  · obtain ⟨ref, hstatus⟩ := Inspection.status_of_readable hdocument hreadable
    obtain ⟨health, hcheck⟩ :=
      @checkDatabase_of_status config _ _ answers.connect hstatus hnull
    obtain ⟨found, hfound, hjudged⟩ := checkDatabase_judged hcheck
    obtain rfl := Except.ok.inj (hstatus.symm.trans hfound)
    cases hjudged with
    | missing hmissing hhealthy => cases hmissing
    | stopped hrunning hsource hhealthy =>
        obtain ⟨other, hother, hfalse⟩ :=
          stopped_of_saysRunning hspoken hstatus hrunning
        obtain rfl := Option.mem_unique hdocument hother
        exact .inl hfalse
    | probed hrunning hnone hprobe hsource hhealthy => exact absurd hnone hnull
    | checked hrunning hstated hsource hhealthy =>
        by_cases hwell : (document.look ["State", "Health", "Status"]).isStr
            "healthy" = true
        · exact .inr (.inr ⟨_, by decide, Json.eq_str_of_isStr hwell⟩)
        · by_cases hstarting : (document.look
              ["State", "Health", "Status"]).isStr "starting" = true
          · exact .inr (.inr ⟨_, by decide, Json.eq_str_of_isStr hstarting⟩)
          · have hfails : health.healthy = some false :=
              hhealthy.trans ((if_neg hwell).trans (if_neg hstarting))
            rcases hunhealthy health hcheck hfails with
              ⟨other, hother, hfalse⟩ | ⟨other, hother, htold⟩ |
                ⟨other, hother, hprobed, -⟩
            · obtain rfl := Option.mem_unique hdocument hother
              exact .inl hfalse
            · obtain rfl := Option.mem_unique hdocument hother
              exact .inr (.inr ⟨_, by decide, htold⟩)
            · obtain rfl := Except.ok.inj (hcheck.symm.trans hother)
              rw [hsource] at hprobed
              exact absurd hprobed (by decide)

theorem evaluated_on_evidence
    (hstopped : ∀ status,
      teslamate.status config.teslamateContainer = .ok status →
        status.running = some false →
        teslamate.StatesNotRunning config.teslamateContainer)
    (hunhealthy : ∀ health,
      checkDatabase config database.status answers.connect = .ok health →
        health.healthy = some false → DatabaseEvidence config answers database)
    {w after : Watchdog} {observation : Observation}
    (hobserve : outcome (Watchdog.observe config classifier
        (answers.inspecting config teslamate database)) w =
      (.ok observation, after)) :
    ((evaluate observation).immediate = true →
        teslamate.StatesNotRunning config.teslamateContainer) ∧
      ((evaluate observation).state = .databaseUnhealthy →
        DatabaseEvidence config answers database) := by
  obtain ⟨_, hgathered, -⟩ := observe_outcome config classifier
    (answers.inspecting config teslamate database) w
  have hgather : gather config classifier
      (answers.inspecting config teslamate database) = .ok observation :=
    congrArg Prod.fst (hgathered.symm.trans hobserve)
  have hfrom := gatheredFrom config classifier _ hgather
  constructor
  · intro himmediate
    obtain ⟨status, hstatus, hrunning⟩ := hfrom.container
    have hown : (answers.inspecting config teslamate database).status
        config.teslamateContainer =
          teslamate.status config.teslamateContainer :=
      if_neg config.containers_ne
    rw [(StateMachine.observable_evaluate observation).immediate himmediate]
      at hrunning
    apply hstopped status
    · rw [← hown, hstatus]
    · by_cases hfound : status.found = true
      · rw [if_pos hfound] at hrunning
        exact hrunning.symm
      · rw [if_neg hfound] at hrunning
        cases hrunning
  · intro hstate
    obtain ⟨health, hcheck, hhealthy⟩ := hfrom.database
    rw [checkDatabase_inspecting] at hcheck
    apply hunhealthy health hcheck
    exact hhealthy.symm.trans
      ((StateMachine.grounded_evaluate observation).database hstate)

/-- Absence of evidence is no evidence of failure exactly when the inspect
documents that can be read say whether their container runs, and the one of a
database that runs has no health status or one of the three that are known. -/
theorem failsOnEvidence_iff (config : Config) (classifier : LogClassifier)
    (answers : CycleAnswers) (teslamate database : Inspection) :
    FailsOnEvidence config classifier answers teslamate database ↔
      teslamate.SaysRunning config.teslamateContainer ∧
        database.SaysRunning config.databaseContainer ∧
        database.KnownHealth config.databaseContainer := by
  constructor
  · intro hfails
    have hteslamate := saysRunning_of_stopped
      (hfails.stopped teslamate config.teslamateContainer (by simp))
    have hdatabase := saysRunning_of_stopped
      (hfails.stopped database config.databaseContainer (by simp))
    exact ⟨hteslamate, hdatabase,
      knownHealth_of_unhealthy hdatabase hfails.unhealthy⟩
  · rintro ⟨hteslamate, hdatabase, hknown⟩
    have hstopped : ∀ status,
        teslamate.status config.teslamateContainer = .ok status →
          status.running = some false →
          teslamate.StatesNotRunning config.teslamateContainer :=
      fun status => stopped_of_saysRunning hteslamate
    have hunhealthy : ∀ health,
        checkDatabase config database.status answers.connect = .ok health →
          health.healthy = some false →
          DatabaseEvidence config answers database :=
      fun health => evidence_of_unhealthy hdatabase hknown
    refine ⟨?_, hunhealthy, ?_, ?_⟩
    · intro inspection configured hmem
      simp only [List.mem_cons, Prod.mk.injEq, List.not_mem_nil, or_false]
        at hmem
      rcases hmem with ⟨rfl, rfl⟩ | ⟨rfl, rfl⟩
      · exact hstopped
      · exact fun status => stopped_of_saysRunning hdatabase
    · exact fun health => probed_of_noHealthcheck hdatabase hknown
    · exact fun w observation after =>
        evaluated_on_evidence hstopped hunhealthy

end Database

/-- The engine lists one container and answers its inspection with `state`. -/
def Inspection.ofState (name : String) (state : Json) : Inspection where
  listing := .body (.arr [.obj [("Id", .str "4f66ad9a0b2e"),
    ("Names", .arr [.str ("/" ++ name)])]])
  inspect _ := .body (.obj [("State", state)])

/-- A database that runs without a healthcheck, the way Docker says so, is
unhealthy; a container that is not said to run is stopped. -/
theorem fails_without_evidence :
    ¬FailsOnEvidence .fromEmptyEnv .withoutPatterns (.calm 60)
        (.ofState "teslamate" (.obj [("Running", .bool true)]))
        (.ofState "database" (.obj [("Running", .bool true),
          ("Health", .obj [("Status", .str "none")])])) ∧
      ¬FailsOnEvidence .fromEmptyEnv .withoutPatterns (.calm 60)
        (.ofState "teslamate" (.obj [("Status", .str "running")]))
        (.ofState "database" (.obj [("Running", .bool true)])) := by
  constructor
  · intro hfails
    have hspoken := saysRunning_of_stopped
      (hfails.stopped _ _ (List.mem_cons_of_mem _ List.mem_cons_self))
    rcases knownHealth_of_unhealthy hspoken hfails.unhealthy _ rfl
        ⟨⟨_, rfl⟩, fun _ => ⟨_, rfl⟩, fun _ => ⟨_, rfl⟩⟩ with
      hfalse | hnull | ⟨text, htext, htold⟩
    · cases hfalse
    · cases hnull
    · rw [← Json.str.inj htold] at htext
      exact absurd htext (by decide)
  · intro hfails
    have hspoken := saysRunning_of_stopped
      (hfails.stopped _ _ List.mem_cons_self)
    rcases hspoken _ rfl ⟨⟨_, rfl⟩, fun _ => ⟨_, rfl⟩, Bool.noConfusion⟩ with
      htruthy | hfalse
    · cases htruthy
    · cases hfalse

end TeslamateWatchdog

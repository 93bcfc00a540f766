/-
The configurations that an environment can give.  They are the ones that pass
the checks, and each can be written out as an environment that gives it again.
-/
import TeslamateWatchdog.EnvironmentReads
import TeslamateWatchdog.Foundation.PyDigits
import TeslamateWatchdog.HaDiscovery

namespace TeslamateWatchdog

open Foundation PyText

/-- The texts behind the settings that are read further: the two topics lose
the slashes at their end, the level becomes upper case. -/
structure Spelling where
  baseTopic : String
  discoveryPrefix : String
  logLevel : String

namespace Settings

section Tables

variable (settings : Settings) (spelling : Spelling)

/-- The variables that are taken as they are, but for whitespace. -/
def textVariables : List (String × String) :=
  [("TESLAMATE_HEALTH_TOPIC", settings.teslamateHealthTopic),
    ("DIAGNOSTIC_LOG_LOOKBACK", settings.diagnosticLogLookback),
    ("LOG_ANALYSIS_LOOKBACK", settings.logAnalysisLookback),
    ("MQTT_HOST", settings.mqttHost),
    ("DATABASE_CONTAINER", settings.databaseContainer),
    ("DATABASE_HOST", settings.databaseHost),
    ("TESLAMATE_URL", settings.teslamateUrl),
    ("TESLAMATE_CONTAINER", settings.teslamateContainer),
    ("DOCKER_HOST", settings.dockerHost),
    ("TESLAMATE_SIGNIN_PATTERN", settings.teslamateSigninPattern),
    ("TESLA_AUTH_HOST", settings.teslaAuthHost),
    ("MQTT_USERNAME", settings.mqttUsername),
    ("MQTT_TLS_CA_CERT", settings.mqttTlsCaCert),
    ("DIAGNOSTIC_DIR", settings.diagnosticDir),
    ("PATTERNS_FILE", settings.patternsFile), ("DATA_DIR", settings.dataDir),
    ("MQTT_BASE_TOPIC", spelling.baseTopic),
    ("HA_DISCOVERY_PREFIX", spelling.discoveryPrefix),
    ("LOG_LEVEL", spelling.logLevel)]

/-- The variables that are numbers, each with the least that it can be. -/
def intVariables : List (String × Int × Int) :=
  [("DOCKER_TIMEOUT_SECONDS", settings.dockerTimeoutSeconds, 1),
    ("DATABASE_PORT", settings.databasePort, 1),
    ("TESLA_AUTH_PORT", settings.teslaAuthPort, 1),
    ("MQTT_PORT", settings.mqttPort, 1),
    ("CHECK_INTERVAL_SECONDS", settings.checkIntervalSeconds, 5),
    ("HTTP_TIMEOUT_SECONDS", settings.httpTimeoutSeconds, 1),
    ("MQTT_STALE_SECONDS", settings.mqttStaleSeconds, 1),
    ("MQTT_PARKED_STALE_SECONDS", settings.mqttParkedStaleSeconds, 1),
    ("FAILURE_CONFIRMATION_COUNT", settings.failureConfirmationCount, 1),
    ("RECOVERY_CONFIRMATION_COUNT", settings.recoveryConfirmationCount, 1),
    ("LOGGER_UNHEALTHY_CONFIRMATION_COUNT",
      settings.loggerUnhealthyConfirmationCount, 1),
    ("RESTART_COOLDOWN_SECONDS", settings.restartCooldownSeconds, 0),
    ("POST_RESTART_WAIT_SECONDS", settings.postRestartWaitSeconds, 0),
    ("MAX_RESTARTS_PER_24_HOURS", settings.maxRestartsPer24Hours, 0),
    ("DIAGNOSTIC_RETENTION_DAYS", settings.diagnosticRetentionDays, 0)]

/-- The switches, but for the one of staleness detection. -/
def flagVariables : List (String × Bool) :=
  [("LOGGED_OUT_RESTART_ENABLED", settings.loggedOutRestartEnabled),
    ("MQTT_TLS", settings.mqttTls),
    ("MQTT_TLS_INSECURE", settings.mqttTlsInsecure),
    ("AUTO_RESTART_ENABLED", settings.autoRestartEnabled),
    ("HA_DISCOVERY_ENABLED", settings.haDiscoveryEnabled)]

end Tables

/-- What the environment can say of the settings, read back from a spelling. -/
structure Spelled (world : Interpreter) (settings : Settings)
    (spelling : Spelling) : Prop where
  baseTopic : rstrip spelling.baseTopic '/' = settings.mqttBaseTopic
  discoveryPrefix :
    rstrip spelling.discoveryPrefix '/' = settings.haDiscoveryPrefix
  logLevel : world.upper spelling.logLevel = settings.logLevel
  stripped : ∀ entry ∈ settings.textVariables spelling, strip entry.2 = entry.2

/-- A list that commas can separate. -/
def Listed (markers : List String) : Prop :=
  ∀ marker ∈ markers, marker ≠ "" ∧ strip marker = marker ∧ ',' ∉ marker.toList

/-- What `validate` asks for. -/
structure Valid (world : Interpreter) (settings : Settings) : Prop where
  pattern : world.regexError settings.teslamateSigninPattern = .ok none
  url : startsWith settings.teslamateUrl "http://" = true ∨
    startsWith settings.teslamateUrl "https://" = true
  baseTopic_ne : settings.mqttBaseTopic ≠ ""
  stateFilter_of_staleness : settings.stalenessDetectionEnabled = true →
    settings.topics.stateFilter ≠ none
  dockerHost : settings.dockerHost ≠ "" →
    startsWith settings.dockerHost "tcp://" = true ∨
      startsWith settings.dockerHost "http://" = true
  containers_ne : settings.teslamateContainer ≠ settings.databaseContainer
  caCert : settings.mqttTlsCaCert ≠ "" →
    world.isFile settings.mqttTlsCaCert = .ok true
  lookback_le : settings.logAnalysisLookbackSeconds ≤
    settings.diagnosticLogLookbackSeconds

/-- What holds of every configuration, and of no other settings. -/
structure Possible (world : Interpreter) (settings : Settings) : Prop where
  spelled : ∃ spelling, settings.Spelled world spelling
  bounded : ∀ entry ∈ settings.intVariables,
    entry.2.2 ≤ entry.2.1 ∧ entry.2.1 < intLimit
  mqttHost_ne : settings.mqttHost ≠ ""
  markers : Listed settings.signinBodyMarkers
  topics : settings.topics = .derive settings.teslamateHealthTopic
  lookback : parseDuration settings.diagnosticLogLookback
    "DIAGNOSTIC_LOG_LOOKBACK" = .ok settings.diagnosticLogLookbackSeconds
  analysisLookback : parseDuration settings.logAnalysisLookback
    "LOG_ANALYSIS_LOOKBACK" = .ok settings.logAnalysisLookbackSeconds
  notes : settings.notes = [] ∨
    settings.stalenessDetectionEnabled = false ∧
      settings.topics.stateFilter = none ∧
      settings.notes = [stalenessNote settings.teslamateHealthTopic]
  valid : settings.Valid world

end Settings

section Readings

variable {env : Environment} {table : CaseTable} {name : String}

theorem strip_envText {fallback : String}
    (hfallback : strip fallback = fallback) :
    strip (envText env name fallback) = envText env name fallback := by
  unfold envText
  split
  · exact hfallback
  · exact strip_strip _

theorem envInt_eq_ok {fallback minimum value : Int} :
    envInt env name fallback minimum = .ok value ↔
      toInt (envText env name (toString fallback)) = .ok value ∧
        minimum ≤ value := by
  rw [envInt]
  cases toInt (envText env name (toString fallback)) with
  | error error => simp
  | ok read =>
      dsimp only
      split
      · rename_i hsmall
        constructor
        · intro hread
          cases hread
        · rintro ⟨hread, hminimum⟩
          cases hread
          omega
      · rename_i hlarge
        constructor
        · intro hread
          cases hread
          exact ⟨rfl, by omega⟩
        · rintro ⟨hread, -⟩
          cases hread
          rfl

theorem envInt_bounded {fallback minimum value : Int}
    (hread : envInt env name fallback minimum = .ok value) :
    minimum ≤ value ∧ value < intLimit := by
  obtain ⟨hint, hminimum⟩ := envInt_eq_ok.mp hread
  exact ⟨hminimum, toInt_lt hint⟩

theorem listed_envCsv {fallback : List String}
    (hfallback : Settings.Listed fallback) :
    Settings.Listed (envCsv env name fallback) := by
  unfold envCsv
  split
  · exact hfallback
  · split
    · exact hfallback
    · intro marker hmarker
      rw [List.mem_filter, List.mem_map, decide_eq_true_eq] at hmarker
      obtain ⟨⟨part, hpart, rfl⟩, hne⟩ := hmarker
      refine ⟨hne, strip_strip part, fun hcomma => ?_⟩
      obtain ⟨chars, hchars, rfl⟩ := List.mem_map.mp hpart
      have hmem := (toList_strip_within _).subset hcomma
      rw [String.toList_ofList] at hmem
      exact not_mem_of_mem_splitOn hchars hmem

theorem refuse_eq_ok {refused : Bool} {message : String} {done : Unit} :
    refuse refused message = .ok done ↔ refused = false := by
  cases refused <;> simp [refuse]

theorem compilePattern_eq_ok {world : Interpreter} {settings : Settings}
    {done : Unit} : settings.compilePattern world = .ok done ↔
      world.regexError settings.teslamateSigninPattern = .ok none := by
  rw [Settings.compilePattern]
  rcases world.regexError settings.teslamateSigninPattern with
    error | _ | problem <;> simp

theorem checkCaCert_eq_ok {world : Interpreter} {settings : Settings}
    {done : Unit} : settings.checkCaCert world = .ok done ↔
      (settings.mqttTlsCaCert ≠ "" →
        world.isFile settings.mqttTlsCaCert = .ok true) := by
  rw [Settings.checkCaCert]
  by_cases hunset : settings.mqttTlsCaCert = ""
  · simp [hunset]
  · rw [if_neg hunset]
    rcases world.isFile settings.mqttTlsCaCert with error | isFile
    · simp [hunset]
    · simp [refuse_eq_ok, hunset]

theorem validate_eq_ok_iff {world : Interpreter} {settings : Settings} :
    settings.validate world = .ok () ↔ settings.Valid world := by
  simp only [Settings.validate, bind_eq_ok, refuse_eq_ok, compilePattern_eq_ok,
    checkCaCert_eq_ok, exists_const, Settings.dockerHostRefused]
  constructor
  · rintro ⟨hpattern, hurl, hbase, hstaleness, hdocker, hcontainers, hcert,
      hlookback⟩
    exact ⟨hpattern, by simpa [Classical.or_iff_not_imp_left] using hurl,
      by simpa using hbase,
      by simpa [← Option.isSome_iff_ne_none] using hstaleness,
      by simpa [Classical.or_iff_not_imp_left] using hdocker,
      by simpa using hcontainers, hcert, by simpa using hlookback⟩
  · rintro ⟨hpattern, hurl, hbase, hstaleness, hdocker, hcontainers, hcert,
      hlookback⟩
    exact ⟨hpattern, by simpa [Classical.or_iff_not_imp_left] using hurl,
      by simpa using hbase,
      by simpa [← Option.isSome_iff_ne_none] using hstaleness,
      by simpa [Classical.or_iff_not_imp_left] using hdocker,
      by simpa using hcontainers, hcert, by simpa using hlookback⟩

theorem stalenessFromEnv_eq_ok {healthTopic : String} {enabled : Bool}
    {notes : List String}
    (hread : stalenessFromEnv table env healthTopic = .ok (enabled, notes)) :
    notes = [] ∨ enabled = false ∧
      (TopicLayout.derive healthTopic).stateFilter = none ∧
      notes = [stalenessNote healthTopic] := by
  obtain ⟨requested, -, hnext⟩ := bind_eq_ok.mp hread
  split at hnext
  · rename_i hgated
    split at hnext
    · cases hnext
    · cases hnext
      exact .inr ⟨rfl, hgated.2, rfl⟩
  · cases hnext
    exact .inl rfl

end Readings

theorem settingsFromEnv_possible {world : Interpreter} {env : Environment}
    {settings : Settings} (hread : settingsFromEnv world env = .ok settings)
    (hvalid : settings.Valid world) : settings.Possible world := by
  simp only [settingsFromEnv, bind_eq_ok] at hread
  obtain ⟨_, hhost, ⟨enabled, notes⟩, hstaleness, _, hdockerTimeout,
    _, hdatabasePort, _, hauthPort, _, -, _, hmqttPort, _, -, _, -,
    _, hinterval, _, hhttpTimeout, _, hstale, _, hparked, _, hfailure,
    _, hrecovery, _, hlogger, _, -, _, hcooldown, _, hwait, _, hrestarts,
    _, hlookback, _, hanalysis, _, hretention, _, -, hsettings⟩ := hread
  cases hsettings
  refine ⟨⟨⟨envText env "MQTT_BASE_TOPIC" "teslamate/watchdog",
    envText env "HA_DISCOVERY_PREFIX" "homeassistant",
    envText env "LOG_LEVEL" "INFO"⟩, rfl, rfl, rfl, ?_⟩, ?_, ?_, ?_, rfl,
    hlookback, hanalysis, stalenessFromEnv_eq_ok hstaleness, hvalid⟩
  · have hcontainer := @strip_envText env "DATABASE_CONTAINER" "database"
      (by decide)
    simp only [Settings.textVariables, List.forall_mem_cons,
      List.not_mem_nil, IsEmpty.forall_iff, implies_true, and_true]
    refine ⟨?_, ?_, ?_, ?_, hcontainer, strip_envText hcontainer, ?_, ?_, ?_,
      ?_, ?_, ?_, ?_, ?_, ?_, ?_, ?_, ?_, ?_⟩
    all_goals exact strip_envText (by decide +kernel)
  · simp only [Settings.intVariables, List.forall_mem_cons,
      List.not_mem_nil, IsEmpty.forall_iff, implies_true, and_true]
    exact ⟨envInt_bounded hdockerTimeout, envInt_bounded hdatabasePort,
      envInt_bounded hauthPort, envInt_bounded hmqttPort,
      envInt_bounded hinterval, envInt_bounded hhttpTimeout,
      envInt_bounded hstale, envInt_bounded hparked, envInt_bounded hfailure,
      envInt_bounded hrecovery, envInt_bounded hlogger,
      envInt_bounded hcooldown, envInt_bounded hwait,
      envInt_bounded hrestarts, envInt_bounded hretention⟩
  · exact beq_eq_false_iff_ne.mp (refuse_eq_ok.mp hhost)
  · apply listed_envCsv
    rw [Settings.Listed]
    decide +kernel

namespace Settings

variable (settings : Settings) (spelling : Spelling)

def flagText (flag : Bool) : String :=
  if flag then "true" else "false"

/-- The settings as variables.  Staleness detection that was switched off by
itself was not asked for, and the commas in front keep a list of markers from
being blank. -/
def entries : List (String × String) :=
  settings.textVariables spelling ++
    settings.intVariables.map (fun entry => (entry.1, toString entry.2.1)) ++
    settings.flagVariables.map (fun entry => (entry.1, flagText entry.2)) ++
    [("MQTT_PASSWORD", settings.mqttPassword),
      ("TESLAMATE_SIGNIN_BODY_MARKERS",
        ",".intercalate ("" :: "" :: settings.signinBodyMarkers))] ++
    if settings.notes = [] then
      [("STALENESS_DETECTION_ENABLED",
        flagText settings.stalenessDetectionEnabled)]
    else []

def toEnv : Environment := fun name =>
  (settings.entries spelling).lookup name

end Settings

section Written

variable {env : Environment} {table : CaseTable} {name : String}

theorem envText_of_some {text : String} (hvalue : env name = some text)
    (htext : strip text = text) (fallback : String) :
    envText env name fallback = text := by
  rw [envText, hvalue]
  exact htext

theorem envInt_of_some {value : Int} (hvalue : env name = some (toString value))
    {minimum : Int} (hminimum : 0 ≤ minimum)
    (hbounded : minimum ≤ value ∧ value < intLimit) (fallback : Int) :
    envInt env name fallback minimum = .ok value := by
  have hint : toInt (envText env name (toString fallback)) =
      toInt (toString value) := by
    rw [envText, hvalue]
    dsimp only
    rw [toInt, toInt, strip_strip]
  obtain ⟨n, rfl⟩ := Int.eq_ofNat_of_zero_le (hminimum.trans hbounded.1)
  rw [envInt_eq_ok, hint, toInt_toString (by exact_mod_cast hbounded.2)]
  exact ⟨rfl, hbounded.1⟩

theorem envBool_of_some {flag : Bool}
    (hvalue : env name = some (Settings.flagText flag)) (fallback : Bool) :
    envBool env table name fallback = .ok flag := by
  have htext : strip (Settings.flagText flag) = Settings.flagText flag := by
    cases flag <;> decide +kernel
  rw [envBool, envText_of_some hvalue htext]
  cases flag <;> rfl

theorem envCsv_of_some {markers : List String} (hlisted : Settings.Listed markers)
    (hvalue : env name = some (",".intercalate ("" :: "" :: markers)))
    (fallback : List String) : envCsv env name fallback = markers := by
  have hcomma : ',' ∈ (",".intercalate ("" :: "" :: markers)).toList := by
    rw [String.intercalate_cons_of_ne_nil (by simp)]
    simp
  have hsplit : PyText.split (",".intercalate ("" :: "" :: markers)) ',' =
      "" :: "" :: markers := by
    refine split_intercalate (by simp) ?_
    rw [List.forall_mem_cons, List.forall_mem_cons]
    exact ⟨by simp, by simp, fun marker hmarker => (hlisted marker hmarker).2.2⟩
  have hstrip : markers.map strip = markers := by
    rw [List.map_congr_left fun marker hmarker => (hlisted marker hmarker).2.1,
      List.map_id']
  have hempty : strip "" = "" := by decide
  rw [envCsv, hvalue]
  dsimp only
  rw [if_neg (strip_ne_empty (by decide) hcomma), hsplit, List.map_cons,
    List.map_cons, hstrip, hempty, List.filter_cons_of_neg (by simp),
    List.filter_cons_of_neg (by simp), List.filter_eq_self]
  exact fun marker hmarker => decide_eq_true (hlisted marker hmarker).1

end Written

namespace Settings

section Lookups

variable (settings : Settings) (spelling : Spelling)

theorem toEnv_text : ∀ entry ∈ settings.textVariables spelling,
    settings.toEnv spelling entry.1 = some entry.2 := by
  simp [textVariables, toEnv, entries, List.lookup_cons]

theorem toEnv_int : ∀ entry ∈ settings.intVariables,
    settings.toEnv spelling entry.1 = some (toString entry.2.1) := by
  simp [textVariables, intVariables, toEnv, entries, List.lookup_cons]

theorem toEnv_flag : ∀ entry ∈ settings.flagVariables,
    settings.toEnv spelling entry.1 = some (flagText entry.2) := by
  simp [textVariables, intVariables, flagVariables, toEnv, entries, List.lookup_cons]

theorem toEnv_password :
    settings.toEnv spelling "MQTT_PASSWORD" = some settings.mqttPassword := by
  simp [textVariables, intVariables, flagVariables, toEnv, entries, List.lookup_cons]

theorem toEnv_markers :
    settings.toEnv spelling "TESLAMATE_SIGNIN_BODY_MARKERS" =
      some (",".intercalate ("" :: "" :: settings.signinBodyMarkers)) := by
  simp [textVariables, intVariables, flagVariables, toEnv, entries, List.lookup_cons]

theorem toEnv_staleness :
    settings.toEnv spelling "STALENESS_DETECTION_ENABLED" =
      if settings.notes = [] then
        some (flagText settings.stalenessDetectionEnabled)
      else none := by
  by_cases hnotes : settings.notes = []
  · simp [textVariables, intVariables, flagVariables, toEnv, entries,
      List.lookup_cons, hnotes]
  · simp [textVariables, intVariables, flagVariables, toEnv, entries,
      List.lookup_cons, hnotes]

end Lookups

variable {world : Interpreter} {settings : Settings} {spelling : Spelling}

/-- Staleness detection that can be gated is what was asked for. -/
theorem stalenessFromEnv_of_requested {table : CaseTable} {env : Environment}
    {requested : Bool} {healthTopic : String}
    (hread : envBool env table "STALENESS_DETECTION_ENABLED" true =
      .ok requested)
    (hfilter : requested = true →
      (TopicLayout.derive healthTopic).stateFilter ≠ none) :
    stalenessFromEnv table env healthTopic = .ok (requested, []) := by
  rw [stalenessFromEnv, hread]
  exact if_neg fun hgated => hfilter hgated.1 hgated.2

theorem Possible.stalenessFromEnv_toEnv (hpossible : settings.Possible world) :
    stalenessFromEnv world.lowerTable (settings.toEnv spelling)
        settings.teslamateHealthTopic =
      .ok (settings.stalenessDetectionEnabled, settings.notes) := by
  have hstaleness := settings.toEnv_staleness spelling
  rcases hpossible.notes with hnotes | ⟨hdisabled, hfilter, hnotes⟩
  · rw [if_pos hnotes] at hstaleness
    rw [hnotes]
    apply stalenessFromEnv_of_requested (envBool_of_some hstaleness true)
    rw [← hpossible.topics]
    exact hpossible.valid.stateFilter_of_staleness
  · rw [hnotes, if_neg (List.cons_ne_nil _ _)] at hstaleness
    have hrequested : envBool (settings.toEnv spelling) world.lowerTable
        "STALENESS_DETECTION_ENABLED" true = .ok true := by
      rw [envBool, envText, hstaleness]
      rfl
    rw [hpossible.topics] at hfilter
    rw [stalenessFromEnv, hrequested, hdisabled, hnotes]
    refine (if_pos ⟨rfl, hfilter⟩).trans ?_
    rw [hstaleness]
    rfl

/-- What is possible is read back from its own environment. -/
theorem Possible.fromEnv_toEnv (hpossible : settings.Possible world)
    (hspelled : settings.Spelled world spelling) :
    fromEnv world (settings.toEnv spelling) = .ok settings := by
  have htexts : ∀ entry ∈ settings.textVariables spelling, ∀ fallback,
      envText (settings.toEnv spelling) entry.1 fallback = entry.2 :=
    fun entry hentry => envText_of_some
      (settings.toEnv_text spelling entry hentry) (hspelled.stripped entry hentry)
  have hminimum : ∀ entry ∈ settings.intVariables, 0 ≤ entry.2.2 := by
    simp [intVariables]
  have hints : ∀ entry ∈ settings.intVariables, ∀ fallback,
      envInt (settings.toEnv spelling) entry.1 fallback entry.2.2 =
        .ok entry.2.1 :=
    fun entry hentry => envInt_of_some (settings.toEnv_int spelling entry hentry)
      (hminimum entry hentry) (hpossible.bounded entry hentry)
  have hflags : ∀ entry ∈ settings.flagVariables, ∀ fallback,
      envBool (settings.toEnv spelling) world.lowerTable entry.1 fallback =
        .ok entry.2 :=
    fun entry hentry => envBool_of_some
      (settings.toEnv_flag spelling entry hentry)
  have hmarkers := envCsv_of_some hpossible.markers
    (settings.toEnv_markers spelling)
  have hpassword := settings.toEnv_password spelling
  have hhost : (settings.mqttHost == "") = false :=
    beq_eq_false_iff_ne.mpr hpossible.mqttHost_ne
  simp only [textVariables, intVariables, flagVariables, List.forall_mem_cons,
    List.not_mem_nil, IsEmpty.forall_iff, implies_true, and_true]
    at htexts hints hflags
  have hsettings : settingsFromEnv world (settings.toEnv spelling) =
      .ok settings := by
    simp only [settingsFromEnv, htexts, hints, hflags, hmarkers, hpassword,
      hhost, refuse, hpossible.lookback, hpossible.analysisLookback,
      hpossible.stalenessFromEnv_toEnv, hspelled.baseTopic,
      hspelled.discoveryPrefix, hspelled.logLevel, ← hpossible.topics]
    rfl
  rw [fromEnv, hsettings]
  refine bind_eq_ok.mpr ⟨settings, rfl, bind_eq_ok.mpr ⟨(), ?_, rfl⟩⟩
  exact validate_eq_ok_iff.mpr hpossible.valid

end Settings

/-- The settings that `from_env` can return are the possible ones. -/
theorem fromEnv_range (world : Interpreter) (settings : Settings) :
    (∃ env, fromEnv world env = .ok settings) ↔ settings.Possible world := by
  constructor
  · rintro ⟨env, hread⟩
    obtain ⟨_, hsettings, hnext⟩ := bind_eq_ok.mp hread
    obtain ⟨_, hvalid, hreturned⟩ := bind_eq_ok.mp hnext
    cases hreturned
    exact settingsFromEnv_possible hsettings (validate_eq_ok_iff.mp hvalid)
  · intro hpossible
    obtain ⟨spelling, hspelled⟩ := hpossible.spelled
    exact ⟨_, hpossible.fromEnv_toEnv hspelled⟩

namespace Settings

variable {world : Interpreter} (settings : Settings)
  (hpossible : settings.Possible world)

theorem Possible.least {settings : Settings}
    (hpossible : settings.Possible world) :
    1 ≤ settings.dockerTimeoutSeconds ∧ 1 ≤ settings.databasePort ∧
      1 ≤ settings.teslaAuthPort ∧ 1 ≤ settings.mqttPort ∧
      5 ≤ settings.checkIntervalSeconds ∧ 1 ≤ settings.httpTimeoutSeconds ∧
      1 ≤ settings.mqttStaleSeconds ∧ 1 ≤ settings.mqttParkedStaleSeconds ∧
      1 ≤ settings.failureConfirmationCount ∧
      1 ≤ settings.recoveryConfirmationCount ∧
      1 ≤ settings.loggerUnhealthyConfirmationCount ∧
      0 ≤ settings.restartCooldownSeconds ∧
      0 ≤ settings.postRestartWaitSeconds ∧
      0 ≤ settings.maxRestartsPer24Hours ∧
      0 ≤ settings.diagnosticRetentionDays := by
  have hleast : ∀ entry ∈ settings.intVariables, entry.2.2 ≤ entry.2.1 :=
    fun entry hentry => (hpossible.bounded entry hentry).1
  simpa [intVariables] using hleast

/-- What the checks read of the settings. -/
def config : Config where
  teslamateUrl := settings.teslamateUrl
  teslamateContainer := settings.teslamateContainer
  databaseContainer := settings.databaseContainer
  dockerTimeoutSeconds := settings.dockerTimeoutSeconds.toNat
  databaseHost := settings.databaseHost
  databasePort := settings.databasePort.toNat
  teslaAuthHost := settings.teslaAuthHost
  teslaAuthPort := settings.teslaAuthPort.toNat
  loggedOutRestartEnabled := settings.loggedOutRestartEnabled
  httpTimeoutSeconds := settings.httpTimeoutSeconds.toNat
  failureConfirmationCount := settings.failureConfirmationCount.toNat
  recoveryConfirmationCount := settings.recoveryConfirmationCount.toNat
  loggerUnhealthyConfirmationCount :=
    settings.loggerUnhealthyConfirmationCount.toNat
  autoRestartEnabled := settings.autoRestartEnabled
  restartCooldownSeconds := settings.restartCooldownSeconds.toNat
  postRestartWaitSeconds := settings.postRestartWaitSeconds.toNat
  maxRestartsPer24Hours := settings.maxRestartsPer24Hours.toNat
  diagnosticLogLookbackSeconds := settings.diagnosticLogLookbackSeconds.toNat
  logAnalysisLookbackSeconds := settings.logAnalysisLookbackSeconds.toNat
  dockerTimeoutSeconds_pos := by have := hpossible.least; omega
  databasePort_pos := by have := hpossible.least; omega
  teslaAuthPort_pos := by have := hpossible.least; omega
  httpTimeoutSeconds_pos := by have := hpossible.least; omega
  failureConfirmationCount_pos := by have := hpossible.least; omega
  recoveryConfirmationCount_pos := by have := hpossible.least; omega
  loggerUnhealthyConfirmationCount_pos := by have := hpossible.least; omega
  containers_ne := hpossible.valid.containers_ne
  lookback_le := Int.toNat_le_toNat hpossible.valid.lookback_le

/-- What the MQTT client reads of them. -/
def mqttConfig : MqttConfig where
  healthTopic := settings.teslamateHealthTopic
  mqttStaleSeconds := settings.mqttStaleSeconds.toNat
  mqttParkedStaleSeconds := settings.mqttParkedStaleSeconds.toNat
  stalenessDetectionEnabled := settings.stalenessDetectionEnabled
  mqttStaleSeconds_pos := by have := hpossible.least; omega
  mqttParkedStaleSeconds_pos := by have := hpossible.least; omega
  stateFilter_of_staleness henabled := by
    rw [← hpossible.topics]
    exact hpossible.valid.stateFilter_of_staleness henabled

/-- What is said of them on the broker. -/
def topicConfig : TopicConfig where
  mqttBaseTopic := settings.mqttBaseTopic
  haDiscoveryEnabled := settings.haDiscoveryEnabled
  haDiscoveryPrefix := settings.haDiscoveryPrefix
  mqttBaseTopic_ne := hpossible.valid.baseTopic_ne

end Settings

theorem possible_of_fromEnv {world : Interpreter} {env : Environment}
    {settings : Settings} (hread : fromEnv world env = .ok settings) :
    settings.Possible world :=
  (fromEnv_range world settings).mp ⟨env, hread⟩

/-- With `MQTT_HOST` alone, the configuration is the one of the defaults. -/
theorem fromEnv_onlyHost {world : Interpreter} {host : String}
    (hhost : strip host ≠ "")
    (hpattern : world.regexError "/sign[_-]?in" = .ok none) :
    ∃ settings, ∃ hread : fromEnv world
        (Function.update (fun _ => none) "MQTT_HOST" (some host)) = .ok settings,
      settings.config (possible_of_fromEnv hread) = .fromEmptyEnv ∧
        settings.mqttConfig (possible_of_fromEnv hread) = .fromEmptyEnv ∧
        settings.topicConfig (possible_of_fromEnv hread) = .fromEmptyEnv := by
  have hunset : ∀ name ≠ "MQTT_HOST", (Function.update (fun _ => none)
      "MQTT_HOST" (some host) : Environment) name = none :=
    fun name hname => Function.update_of_ne hname _ _
  generalize henv : (Function.update (fun _ => none)
    "MQTT_HOST" (some host) : Environment) = env at hunset ⊢
  have hname : envText env "MQTT_HOST" "" = strip host := by
    rw [envText, ← henv, Function.update_self]
  have hhosts : (strip host == "") = false := beq_eq_false_iff_ne.mpr hhost
  have hdatabase : ∀ fallback, envText env "DATABASE_HOST" fallback = fallback :=
    fun fallback => by rw [envText, hunset _ (by decide)]
  have hpasses : ∀ read ∈ reads, read.name ≠ "MQTT_HOST" →
      read.Passes world.lowerTable env :=
    fun read hread hother => passes_of_unset read hread (hunset _ hother)
  simp only [reads, List.forall_mem_cons, Read.name, Read.Passes, ne_eq,
    String.reduceEq, not_false_eq_true, not_true_eq_false, forall_const,
    IsEmpty.forall_iff, true_and, List.not_mem_nil, implies_true, and_true]
    at hpasses
  have hfilter : (TopicLayout.derive "teslamate/cars/1/healthy").stateFilter ≠
      none := by decide +kernel
  have hstaleness : stalenessFromEnv world.lowerTable env
      "teslamate/cars/1/healthy" = .ok (true, []) := by
    have hrequested : envBool env world.lowerTable
        "STALENESS_DETECTION_ENABLED" true = .ok true :=
      passes_of_unset (.flag "STALENESS_DETECTION_ENABLED" true) (by decide)
        (hunset _ (by decide))
    exact Settings.stalenessFromEnv_of_requested hrequested fun _ => hfilter
  have hlookback : parseDuration "2h" "DIAGNOSTIC_LOG_LOOKBACK" = .ok 7200 := by
    decide +kernel
  have hanalysis : parseDuration "15m" "LOG_ANALYSIS_LOOKBACK" = .ok 900 := by
    decide +kernel
  have hbase : rstrip "teslamate/watchdog" '/' = "teslamate/watchdog" := by
    decide +kernel
  have hdiscovery : rstrip "homeassistant" '/' = "homeassistant" := by
    decide +kernel
  have hurl : startsWith "http://teslamate:4000/" "http://" = true := by
    decide +kernel
  have hdocker : startsWith "tcp://socket-proxy:2375" "tcp://" = true := by
    decide +kernel
  have hcontainers : "teslamate" ≠ "database" := by decide
  have htopic : "teslamate/watchdog" ≠ "" := by decide
  have hwindows : (900 : Int) ≤ 7200 := by decide
  obtain ⟨settings, hsettings, hvalid, hconfigs⟩ : ∃ settings,
      settingsFromEnv world env = .ok settings ∧ settings.Valid world ∧
        ∀ hpossible : settings.Possible world,
          settings.config hpossible = .fromEmptyEnv ∧
          settings.mqttConfig hpossible = .fromEmptyEnv ∧
          settings.topicConfig hpossible = .fromEmptyEnv := by
    simp only [settingsFromEnv, hpasses, hname, hhosts, hdatabase, hstaleness,
      hlookback, hanalysis, hbase, hdiscovery, refuse]
    refine ⟨_, rfl, ?_, fun _ => ⟨rfl, rfl, rfl⟩⟩
    exact ⟨hpattern, .inl hurl, htopic, fun _ => hfilter,
      fun _ => .inl hdocker, hcontainers, fun hcert => absurd rfl hcert,
      hwindows⟩
  have hread : fromEnv world env = .ok settings := by
    rw [fromEnv, hsettings]
    exact bind_eq_ok.mpr ⟨settings, rfl, bind_eq_ok.mpr
      ⟨(), validate_eq_ok_iff.mpr hvalid, rfl⟩⟩
  exact ⟨settings, hread, hconfigs _⟩

end TeslamateWatchdog

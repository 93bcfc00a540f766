/-
The start of the program, up to the MQTT client: the environment is refused in one
line, or a redacted view of the configuration is logged.  No other dump of the
configuration exists.  What is raised outside of the handler of `main` ends the
program with a traceback.
-/
import TeslamateWatchdog.EnvironmentReads

namespace TeslamateWatchdog

open Foundation PyText

def version : String := "0.1.0"

def setOrUnset (text : String) : Json :=
  .str (if text = "" then "<unset>" else "<set>")

def optionText : Option String → Json
  | none => .null
  | some text => .str text

/-- `Config.summary`. -/
def Settings.summary (settings : Settings) : List (String × Json) :=
  [("teslamate_url", .str settings.teslamateUrl),
    ("teslamate_container", .str settings.teslamateContainer),
    ("database_container", .str settings.databaseContainer),
    ("docker_host", .str settings.dockerHost),
    ("mqtt_host", .str settings.mqttHost), ("mqtt_port", .int settings.mqttPort),
    ("mqtt_username", setOrUnset settings.mqttUsername),
    ("mqtt_password", setOrUnset settings.mqttPassword),
    ("mqtt_tls", .bool settings.mqttTls),
    ("mqtt_tls_ca_cert", .str (if settings.mqttTlsCaCert = "" then
      "<system CAs>" else settings.mqttTlsCaCert)),
    ("mqtt_tls_insecure", .bool settings.mqttTlsInsecure),
    ("mqtt_base_topic", .str settings.mqttBaseTopic),
    ("health_filter", .str settings.topics.healthFilter),
    ("state_filter", optionText settings.topics.stateFilter),
    ("primary_car_id", optionText settings.topics.primaryCarId),
    ("check_interval_seconds", .int settings.checkIntervalSeconds),
    ("failure_confirmation_count", .int settings.failureConfirmationCount),
    ("recovery_confirmation_count", .int settings.recoveryConfirmationCount),
    ("logger_unhealthy_confirmation_count",
      .int settings.loggerUnhealthyConfirmationCount),
    ("staleness_detection_enabled", .bool settings.stalenessDetectionEnabled),
    ("mqtt_stale_seconds", .int settings.mqttStaleSeconds),
    ("mqtt_parked_stale_seconds", .int settings.mqttParkedStaleSeconds),
    ("log_analysis_lookback", .str settings.logAnalysisLookback),
    ("diagnostic_log_lookback", .str settings.diagnosticLogLookback),
    ("auto_restart_enabled", .bool settings.autoRestartEnabled),
    ("logged_out_restart_enabled", .bool settings.loggedOutRestartEnabled),
    ("restart_cooldown_seconds", .int settings.restartCooldownSeconds),
    ("max_restarts_per_24_hours", .int settings.maxRestartsPer24Hours),
    ("ha_discovery_enabled", .bool settings.haDiscoveryEnabled)]

/-- A record that `main` logs: its level, its message and its context. -/
structure StartupLine where
  level : String
  message : String
  context : List (String × Json)

/-- Whether staleness is watched for, and within which limits. -/
def stalenessLine (settings : Settings) : StartupLine :=
  if settings.stalenessDetectionEnabled then
    ⟨"INFO", "MQTT staleness detection is enabled",
      [("driving_or_charging_limit_seconds", .int settings.mqttStaleSeconds),
        ("parked_limit_seconds", .int settings.mqttParkedStaleSeconds),
        ("note", .str ("the parked limit must exceed TeslaMate's suspend_min " ++
          "setting, during which it publishes nothing"))]⟩
  else
    ⟨"INFO", "MQTT staleness detection is disabled — a vehicle logger that " ++
      "dies silently while the web UI still responds will not be detected.", []⟩

def startupLines (settings : Settings) : List StartupLine :=
  ⟨"INFO", "teslamate-watchdog starting",
      ("version", .str version) :: settings.summary⟩ ::
    settings.notes.map (fun note => ⟨"WARNING", note, []⟩) ++
    [stalenessLine settings]

def insecureLine : StartupLine :=
  ⟨"WARNING", "MQTT_TLS_INSECURE is set — the broker's certificate is NOT being " ++
    "verified. Prefer MQTT_TLS_CA_CERT so verification stays on.", []⟩

/-- `_build_tls_context`: what it logs, and what it raises. -/
def Settings.buildTlsContext (world : Interpreter) (settings : Settings) :
    List StartupLine × Except ConfigRaise Unit :=
  if settings.mqttTlsInsecure then ([insecureLine], .ok ())
  else if settings.mqttTlsCaCert = "" then ([], .ok ())
  else
    match world.certificateError settings.mqttTlsCaCert with
    | .error error => ([], .error (.raised error))
    | .ok (some problem) => ([], .error (.configError
        ("MQTT_TLS_CA_CERT " ++ PyText.repr settings.mqttTlsCaCert ++
          " is not a readable PEM certificate (" ++ problem ++
          "). It should be the CA that signed your broker's certificate, in " ++
          "PEM format.")))
    | .ok none => ([], .ok ())

/-- What `main` makes of the environment: a line on the standard error and the
exit status 2; the records up to an exception that it does not catch, be it a
`ConfigError` or not; or the first records. -/
inductive StartUp where
  | refused (line : String)
  | raised (lines : List StartupLine) (problem : ConfigRaise)
  | started (lines : List StartupLine)

/-- `main` from `logging_setup.configure` up to the MQTT client. -/
def Settings.start (world : Interpreter) (settings : Settings) : StartUp :=
  match world.setLevel settings.logLevel with
  | .error error => .raised [] (.raised error)
  | .ok _ =>
      let (warnings, context) :=
        if settings.mqttTls then settings.buildTlsContext world else ([], .ok ())
      match context with
      | .error problem => .raised (startupLines settings ++ warnings) problem
      | .ok _ => .started (startupLines settings ++ warnings)

/-- `main`, up to the MQTT client. -/
def startUp (world : Interpreter) (env : Environment) : StartUp :=
  match fromEnv world env with
  | .error (.configError message) => .refused ("configuration error: " ++ message)
  | .error (.raised error) => .raised [] (.raised error)
  | .ok settings => settings.start world

section Credentials

variable {world : Interpreter} {env other : Environment}

/-- The environment without the credentials. -/
def Environment.bare (env : Environment) : Environment := fun name =>
  if name = "MQTT_USERNAME" ∨ name = "MQTT_PASSWORD" then none else env name

/-- The settings with other credentials. -/
def Settings.withCredentials (settings : Settings)
    (username password : String) : Settings :=
  { settings with mqttUsername := username, mqttPassword := password }

theorem bare_of_ne {name : String} (husername : name ≠ "MQTT_USERNAME")
    (hpassword : name ≠ "MQTT_PASSWORD") : env.bare name = env name := by
  rw [Environment.bare, if_neg (by simp [husername, hpassword])]

theorem Read.same_of_eq {table : CaseTable} {read : Read}
    (hvalue : env read.name = other read.name) : read.Same table env other := by
  apply Read.same_of_text
  · intro fallback
    rw [envText, envText, hvalue]
  · intro fallback
    rw [envCsv, envCsv, hvalue]

/-- The credentials are only stored. -/
theorem settingsFromEnv_bare (world : Interpreter) (env : Environment) :
    settingsFromEnv world env =
      (fun settings => settings.withCredentials (envText env "MQTT_USERNAME" "")
        ((env "MQTT_PASSWORD").getD "")) <$> settingsFromEnv world env.bare := by
  have hreads : ∀ read ∈ reads, read.name ≠ "MQTT_USERNAME" →
      read.Same world.lowerTable env.bare env := by
    intro read hread hname
    have hpassword : ∀ read ∈ reads, read.name ≠ "MQTT_PASSWORD" := by decide
    exact Read.same_of_eq (bare_of_ne hname (hpassword read hread))
  have hhost : ∀ fallback, envText env.bare "DATABASE_HOST" fallback =
      envText env "DATABASE_HOST" fallback := by
    intro fallback
    rw [envText, envText, bare_of_ne (by decide) (by decide)]
  have hexplicit : env.bare "STALENESS_DETECTION_ENABLED" =
      env "STALENESS_DETECTION_ENABLED" := bare_of_ne (by decide) (by decide)
  simp only [reads, List.forall_mem_cons, Read.name, Read.Same, ne_eq,
    String.reduceEq, not_false_eq_true, not_true_eq_false, forall_const,
    IsEmpty.forall_iff, true_and, List.not_mem_nil, implies_true, and_true]
    at hreads
  simp only [settingsFromEnv, stalenessFromEnv, hreads, hhost, hexplicit,
    map_bind]
  rfl

theorem fromEnv_bare (world : Interpreter) (env : Environment) :
    fromEnv world env =
      (fun settings => settings.withCredentials (envText env "MQTT_USERNAME" "")
        ((env "MQTT_PASSWORD").getD "")) <$> fromEnv world env.bare := by
  rw [fromEnv, fromEnv, settingsFromEnv_bare, map_bind]
  cases settingsFromEnv world env.bare with
  | error error => rfl
  | ok settings =>
      change (settings.validate world >>= fun _ =>
          pure (settings.withCredentials _ _)) =
        _ <$> (settings.validate world >>= fun _ => pure settings)
      rw [map_bind]
      rfl

/-- All that is logged of a credential is whether it is set. -/
theorem startupLines_withCredentials (settings : Settings)
    {username otherUsername password otherPassword : String}
    (husername : username = "" ↔ otherUsername = "")
    (hpassword : password = "" ↔ otherPassword = "") :
    startupLines (settings.withCredentials username password) =
      startupLines (settings.withCredentials otherUsername otherPassword) := by
  have hset : ∀ {text other : String}, (text = "" ↔ other = "") →
      setOrUnset text = setOrUnset other := by
    intro text other hsame
    rw [setOrUnset, setOrUnset]
    simp only [hsame]
  have hsummary : (settings.withCredentials username password).summary =
      (settings.withCredentials otherUsername otherPassword).summary := by
    rw [Settings.summary, Settings.summary, Settings.withCredentials,
      Settings.withCredentials, hset husername, hset hpassword]
  rw [startupLines, startupLines, hsummary]
  rfl

theorem start_withCredentials (world : Interpreter) (settings : Settings)
    {username otherUsername password otherPassword : String}
    (husername : username = "" ↔ otherUsername = "")
    (hpassword : password = "" ↔ otherPassword = "") :
    (settings.withCredentials username password).start world =
      (settings.withCredentials otherUsername otherPassword).start world := by
  rw [Settings.start, Settings.start,
    startupLines_withCredentials settings husername hpassword]
  rfl

/-- Whatever the environment says, what is written at the start does not depend
on the credentials, but for whether each is set. -/
theorem startUp_redacted (world : Interpreter)
    (hothers : ∀ name, name ≠ "MQTT_USERNAME" → name ≠ "MQTT_PASSWORD" →
      env name = other name)
    (husername : envText env "MQTT_USERNAME" "" = "" ↔
      envText other "MQTT_USERNAME" "" = "")
    (hpassword : (env "MQTT_PASSWORD").getD "" = "" ↔
      (other "MQTT_PASSWORD").getD "" = "") :
    startUp world env = startUp world other := by
  have hbare : env.bare = other.bare := by
    funext name
    rw [Environment.bare, Environment.bare]
    split
    · rfl
    · rename_i hname
      rw [not_or] at hname
      exact hothers name hname.1 hname.2
  rw [startUp, startUp, fromEnv_bare world env, fromEnv_bare world other, hbare]
  cases fromEnv world other.bare with
  | error error => rfl
  | ok settings =>
      exact start_withCredentials world settings husername hpassword

/-- One password for another. -/
theorem startUp_redacted_password :
    startUp .plain (fun name => [("MQTT_HOST", "broker"),
        ("MQTT_PASSWORD", "hunter2")].lookup name) =
      startUp .plain (fun name => [("MQTT_HOST", "broker"),
        ("MQTT_PASSWORD", "correct horse")].lookup name) := by
  refine startUp_redacted .plain ?_ (by decide +kernel) (by decide +kernel)
  intro name _ hpassword
  have hother := beq_false_of_ne hpassword
  simp [List.lookup_cons, hother]

end Credentials

/-- The texts on which reading a duration raises more than a `ConfigError`. -/
def Untold (text : List Char) : Prop :=
  LongSecond text ∨ maxStrDigits < (text.takeWhile isDecimal).length

theorem untold_of_parseDuration {raw field : String} {error : PyError}
    (hraised : parseDuration raw field = .error (.raised error)) :
    Untold (strip raw).toList := by
  rw [Untold, or_iff_not_imp_right, Nat.not_lt]
  intro hlimit
  cases hmatch : matchDuration (strip raw).toList with
  | none =>
      rw [parseDuration, hmatch] at hraised
      cases hraised
  | some groups =>
      obtain ⟨amount, unit⟩ := groups
      obtain ⟨tail, parts⟩ := parts_of_matchDuration hmatch
      rw [parts.takeWhile_eq] at hlimit
      obtain rfl := tail_eq_nil parts
      rw [parseDuration_of_parts parts hlimit] at hraised
      cases hunit : unitSeconds unit with
      | some seconds =>
          rw [hunit] at hraised
          cases hraised
      | none =>
          rcases parts.unit_cases with rfl | ⟨c, hc, rfl⟩
          · cases hunit
          · obtain rfl := unitSeconds_eq_none hc hunit
            have htext := parts.divides
            rw [List.append_nil] at htext
            exact ⟨amount, parts.nonempty, parts.decimals, htext⟩

/-- What is raised other than a `ConfigError` has the cause. -/
def RaisesFor {α : Type} (cause : Prop) (reply : Except ConfigRaise α) : Prop :=
  ∀ error, reply = .error (.raised error) → cause

namespace RaisesFor

variable {α β : Type} {cause : Prop} {env : Environment} {table : CaseTable}
  {name : String}

theorem ok (value : α) : RaisesFor cause (.ok value) := by
  rintro error ⟨⟩

theorem configError (message : String) :
    RaisesFor cause (.error (.configError message) : Except ConfigRaise α) := by
  rintro error ⟨⟩

theorem bind {reply : Except ConfigRaise α} (hreply : RaisesFor cause reply)
    {next : α → Except ConfigRaise β} (hnext : ∀ value,
      RaisesFor cause (next value)) :
    RaisesFor cause (reply >>= next) := by
  cases reply with
  | ok value => exact hnext value
  | error problem =>
      rintro error ⟨⟩
      exact hreply error rfl

theorem refuse (refused : Bool) (message : String) :
    RaisesFor cause (refuse refused message) := by
  cases refused with
  | true => exact configError message
  | false => exact ok ()

theorem envInt {fallback minimum : Int} :
    RaisesFor cause (envInt env name fallback minimum) := by
  rw [TeslamateWatchdog.envInt]
  cases toInt (envText env name (toString fallback)) with
  | error error => exact configError _
  | ok value =>
      dsimp only
      split
      · exact configError _
      · exact ok value

theorem envBool {fallback : Bool} :
    RaisesFor cause (envBool env table name fallback) := by
  unfold TeslamateWatchdog.envBool
  generalize lowerBy table _ = raw
  dsimp only
  split
  · exact ok true
  · split
    · exact ok false
    · exact configError _

theorem staleness {healthTopic : String} :
    RaisesFor cause (stalenessFromEnv table env healthTopic) := by
  refine envBool.bind fun requested => ?_
  split
  · split
    · exact configError _
    · exact ok _
  · exact ok _

theorem parseDuration {raw field : String}
    (huntold : Untold (strip raw).toList → cause) :
    RaisesFor cause (parseDuration raw field) :=
  fun _ hraised => huntold (untold_of_parseDuration hraised)

/-- In the order of the fields. -/
theorem settingsFromEnv {world : Interpreter} :
    RaisesFor (Untold
        (strip (envText env "DIAGNOSTIC_LOG_LOOKBACK" "2h")).toList ∨
      Untold (strip (envText env "LOG_ANALYSIS_LOOKBACK" "15m")).toList)
      (settingsFromEnv world env) := by
  refine (refuse _ _).bind fun _ => staleness.bind fun _ => ?_
  refine envInt.bind fun _ => envInt.bind fun _ => envInt.bind fun _ => ?_
  refine envBool.bind fun _ => envInt.bind fun _ => ?_
  refine envBool.bind fun _ => envBool.bind fun _ => ?_
  refine envInt.bind fun _ => envInt.bind fun _ => envInt.bind fun _ => ?_
  refine envInt.bind fun _ => envInt.bind fun _ => envInt.bind fun _ => ?_
  refine envInt.bind fun _ => envBool.bind fun _ => ?_
  refine envInt.bind fun _ => envInt.bind fun _ => envInt.bind fun _ => ?_
  refine (parseDuration .inl).bind fun _ => ?_
  refine (parseDuration .inr).bind fun _ => ?_
  exact envInt.bind fun _ => envBool.bind fun _ => ok _

end RaisesFor

namespace Settings

/-- The interpreter raises what nobody expects of it: compiling the pattern,
asking for the certificate, setting the level, or loading the certificate. -/
inductive Unexpected (world : Interpreter) (settings : Settings) : Prop
  | pattern {error : PyError}
      (hraises : world.regexError settings.teslamateSigninPattern = .error error)
  | isFile {error : PyError} (hnamed : settings.mqttTlsCaCert ≠ "")
      (hraises : world.isFile settings.mqttTlsCaCert = .error error)
  | level {error : PyError}
      (hraises : world.setLevel settings.logLevel = .error error)
  | certificate (htls : settings.mqttTls = true)
      (hverified : settings.mqttTlsInsecure = false)
      (hnamed : settings.mqttTlsCaCert ≠ "")
      (hfails : world.certificateError settings.mqttTlsCaCert ≠ .ok none)

variable {world : Interpreter} {settings : Settings}

theorem unexpected_of_validate :
    RaisesFor (settings.Unexpected world) (settings.validate world) := by
  have hpattern : RaisesFor (settings.Unexpected world)
      (settings.compilePattern world) := by
    intro error hraised
    unfold compilePattern at hraised
    split at hraised
    · rename_i hcompile
      exact .pattern hcompile
    · cases hraised
    · cases hraised
  have hcertificate : RaisesFor (settings.Unexpected world)
      (settings.checkCaCert world) := by
    intro error hraised
    unfold checkCaCert at hraised
    split at hraised
    · cases hraised
    · rename_i hnamed
      split at hraised
      · rename_i hasked
        exact .isFile hnamed hasked
      · exact absurd hraised (fun hraised =>
          (RaisesFor.refuse _ _ : RaisesFor False _) error hraised)
  exact hpattern.bind fun _ => (RaisesFor.refuse _ _).bind fun _ =>
    (RaisesFor.refuse _ _).bind fun _ => (RaisesFor.refuse _ _).bind fun _ =>
    (RaisesFor.refuse _ _).bind fun _ => (RaisesFor.refuse _ _).bind fun _ =>
    hcertificate.bind fun _ => RaisesFor.refuse _ _

theorem unexpected_of_start {lines : List StartupLine} {problem : ConfigRaise}
    (hraised : settings.start world = .raised lines problem) :
    settings.Unexpected world := by
  unfold start at hraised
  split at hraised
  · rename_i hlevel
    exact .level hlevel
  · by_cases htls : settings.mqttTls = true
    · rw [if_pos htls, buildTlsContext] at hraised
      by_cases hinsecure : settings.mqttTlsInsecure = true
      · rw [if_pos hinsecure] at hraised
        cases hraised
      · rw [if_neg hinsecure] at hraised
        by_cases hnamed : settings.mqttTlsCaCert = ""
        · rw [if_pos hnamed] at hraised
          cases hraised
        · refine .certificate htls (Bool.not_eq_true _ ▸ hinsecure) hnamed ?_
          intro hloads
          rw [if_neg hnamed, hloads] at hraised
          cases hraised
    · rw [if_neg htls] at hraised
      cases hraised

end Settings

/-- The start is refused with a message or goes on, whatever the environment
says, unless one of the two lookbacks is a text that the expression of the
durations accepts and the arithmetic on it does not, or the interpreter raises
what nobody expects of it on the settings read. -/
theorem uncaught_of_startUp {world : Interpreter} {env : Environment}
    {lines : List StartupLine} {problem : ConfigRaise}
    (hraised : startUp world env = .raised lines problem) :
    Untold (strip (envText env "DIAGNOSTIC_LOG_LOOKBACK" "2h")).toList ∨
      Untold (strip (envText env "LOG_ANALYSIS_LOOKBACK" "15m")).toList ∨
      ∃ settings, settingsFromEnv world env = .ok settings ∧
        settings.Unexpected world := by
  rw [← or_assoc]
  unfold startUp fromEnv at hraised
  cases hread : settingsFromEnv world env with
  | error unread =>
      rw [hread] at hraised
      cases unread with
      | configError message => cases hraised
      | raised error => exact .inl (RaisesFor.settingsFromEnv error hread)
  | ok settings =>
      refine .inr ⟨settings, rfl, ?_⟩
      rw [hread] at hraised
      cases hvalid : settings.validate world with
      | error invalid =>
          cases invalid with
          | configError message =>
              simp [bind, Except.bind, hvalid] at hraised
          | raised error => exact Settings.unexpected_of_validate error hvalid
      | ok done =>
          simp only [bind, Except.bind, hvalid, pure, Except.pure] at hraised
          exact Settings.unexpected_of_start hraised

def longSecondEnv : Environment := fun name =>
  [("MQTT_HOST", "broker"), ("DIAGNOSTIC_LOG_LOOKBACK", "5\u017F")].lookup name

/-- A level that names a text of the module `logging`. -/
def formatLevelEnv : Environment := fun name =>
  [("MQTT_HOST", "broker"), ("LOG_LEVEL", "basic_format")].lookup name

/-- A lookback of five long seconds ends the program with a `KeyError`, and the
level with a `ValueError`. -/
theorem uncaught_of_startUp_longSecond :
    (Untold (strip
        (envText longSecondEnv "DIAGNOSTIC_LOG_LOOKBACK" "2h")).toList ∨
      Untold (strip
        (envText longSecondEnv "LOG_ANALYSIS_LOOKBACK" "15m")).toList ∨
      ∃ settings, settingsFromEnv .plain longSecondEnv = .ok settings ∧
        settings.Unexpected .plain) ∧
    (Untold (strip
        (envText formatLevelEnv "DIAGNOSTIC_LOG_LOOKBACK" "2h")).toList ∨
      Untold (strip
        (envText formatLevelEnv "LOG_ANALYSIS_LOOKBACK" "15m")).toList ∨
      ∃ settings, settingsFromEnv .plain formatLevelEnv = .ok settings ∧
        settings.Unexpected .plain) := by
  have hread : fromEnv .plain longSecondEnv = .error (.raised .keyError) := by
    decide +kernel
  have hraised : startUp .plain longSecondEnv =
      .raised [] (.raised .keyError) := by
    rw [startUp, hread]
  have hlevel : ∃ settings, (fromEnv .plain formatLevelEnv).toOption =
      some settings ∧ (settings.logLevel == "BASIC_FORMAT") = true := by
    rw [← Option.any_eq_true]
    decide +kernel
  obtain ⟨settings, haccepted, hformat⟩ := hlevel
  have hsettings : fromEnv .plain formatLevelEnv = .ok settings := by
    cases hsame : fromEnv .plain formatLevelEnv with
    | error error =>
        rw [hsame] at haccepted
        cases haccepted
    | ok other =>
        rw [hsame] at haccepted
        exact congrArg Except.ok (Option.some.inj haccepted)
  have hrefused : startUp .plain formatLevelEnv =
      .raised [] (.raised .valueError) := by
    rw [startUp, hsettings]
    dsimp only
    rw [Settings.start, eq_of_beq hformat]
    rfl
  exact ⟨uncaught_of_startUp hraised, uncaught_of_startUp hrefused⟩

end TeslamateWatchdog

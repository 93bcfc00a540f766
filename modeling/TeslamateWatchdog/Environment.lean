/-
The configuration as `Config.from_env` reads it from the environment: every
variable with its default, the order of the checks, and their messages.
-/
import TeslamateWatchdog.Durations
import TeslamateWatchdog.MqttClient

namespace TeslamateWatchdog

open Foundation PyText

/-- `os.environ`.  A real environment holds no U+0000, which is not excluded
here. -/
abbrev Environment := String → Option String

/-- What the interpreter and the file system decide: the case tables;
`re.compile`, which may say what is wrong (a `re.error`) or raise something else;
`Path.is_file`; `setLevel` on the attribute of the module `logging` that has the
name; and `load_verify_locations`, which may say what is wrong (an `SSLError`) or
raise something else. -/
structure Interpreter where
  lowerTable : CaseTable
  upper : String → String
  regexError : String → Except PyError (Option String)
  isFile : String → Except PyError Bool
  setLevel : String → Except PyError Unit
  certificateError : String → Except PyError (Option String)

/-- The interpreter on a configuration in ASCII, without a certificate. -/
def Interpreter.plain : Interpreter where
  lowerTable _ c _ := [c]
  upper := String.map Char.toUpper
  regexError _ := .ok none
  isFile _ := .ok false
  setLevel level :=
    if level = "BASIC_FORMAT" then .error .valueError else .ok ()
  certificateError _ := .error .osError

section Variables

variable (env : Environment)

/-- `_env`. -/
def envText (name fallback : String) : String :=
  match env name with
  | none => fallback
  | some value => strip value

/-- `_env_int`. -/
def envInt (name : String) (fallback minimum : Int) : Except ConfigRaise Int :=
  let raw := envText env name (toString fallback)
  match toInt raw with
  | .error _ =>
      .error (.configError
        (name ++ " must be an integer, got " ++ PyText.repr raw))
  | .ok value =>
      if value < minimum then
        .error (.configError (name ++ " must be >= " ++ toString minimum ++
          ", got " ++ toString value))
      else .ok value

def truthy : List String := ["1", "true", "yes", "on"]

def falsy : List String := ["0", "false", "no", "off"]

/-- `_env_bool`. -/
def envBool (table : CaseTable) (name : String) (fallback : Bool) :
    Except ConfigRaise Bool :=
  let raw := lowerBy table
    (envText env name (if fallback then "true" else "false"))
  if raw ∈ truthy then .ok true
  else if raw ∈ falsy then .ok false
  else
    .error (.configError
      (name ++ " must be a boolean, got " ++ PyText.repr raw))

/-- `_env_csv`. -/
def envCsv (name : String) (fallback : List String) : List String :=
  match env name with
  | none => fallback
  | some raw =>
      if strip raw = "" then fallback
      else ((PyText.split raw ',').map strip).filter (· ≠ "")

end Variables

def defaultSigninBodyMarkers : List String :=
  ["refresh token", "access token", "tokens[refresh_token]",
    "tokens[access_token]"]

/-- The fields of the dataclass `Config`. -/
structure Settings where
  teslamateUrl : String
  teslamateContainer : String
  databaseContainer : String
  dockerHost : String
  dockerTimeoutSeconds : Int
  databaseHost : String
  databasePort : Int
  teslamateSigninPattern : String
  teslaAuthHost : String
  teslaAuthPort : Int
  loggedOutRestartEnabled : Bool
  signinBodyMarkers : List String
  mqttHost : String
  mqttPort : Int
  mqttUsername : String
  mqttPassword : String
  mqttTls : Bool
  mqttTlsCaCert : String
  mqttTlsInsecure : Bool
  mqttBaseTopic : String
  teslamateHealthTopic : String
  topics : TopicLayout
  checkIntervalSeconds : Int
  httpTimeoutSeconds : Int
  mqttStaleSeconds : Int
  mqttParkedStaleSeconds : Int
  stalenessDetectionEnabled : Bool
  failureConfirmationCount : Int
  recoveryConfirmationCount : Int
  loggerUnhealthyConfirmationCount : Int
  autoRestartEnabled : Bool
  restartCooldownSeconds : Int
  postRestartWaitSeconds : Int
  maxRestartsPer24Hours : Int
  diagnosticDir : String
  diagnosticLogLookback : String
  diagnosticLogLookbackSeconds : Int
  logAnalysisLookback : String
  logAnalysisLookbackSeconds : Int
  diagnosticRetentionDays : Int
  haDiscoveryEnabled : Bool
  haDiscoveryPrefix : String
  logLevel : String
  patternsFile : String
  dataDir : String
  notes : List String
deriving Repr, DecidableEq

def mqttHostMessage : String :=
  "MQTT_HOST is required — the watchdog has no other output channel"

def stalenessMessage : String :=
  "STALENESS_DETECTION_ENABLED requires a TESLAMATE_HEALTH_TOPIC of the form " ++
    "<root>/cars/<id>/healthy so the car's state topic can be derived for gating"

def stalenessNote (healthTopic : String) : String :=
  "staleness detection disabled automatically: TESLAMATE_HEALTH_TOPIC " ++
    PyText.repr healthTopic ++ " has no derivable car state topic to gate on"

/-- A check of `validate`. -/
def refuse (refused : Bool) (message : String) : Except ConfigRaise Unit :=
  if refused then .error (.configError message) else .ok ()

namespace Settings

variable (world : Interpreter) (settings : Settings)

def dockerHostRefused : Bool :=
  settings.dockerHost != "" && !(startsWith settings.dockerHost "tcp://" ||
    startsWith settings.dockerHost "http://")

/-- `re.compile` of the pattern, which is not kept. -/
def compilePattern : Except ConfigRaise Unit :=
  match world.regexError settings.teslamateSigninPattern with
  | .error error => .error (.raised error)
  | .ok (some problem) => .error (.configError
      ("TESLAMATE_SIGNIN_PATTERN is not a valid regex: " ++ problem))
  | .ok none => .ok ()

/-- The certificate must be a file, if one is named. -/
def checkCaCert : Except ConfigRaise Unit :=
  if settings.mqttTlsCaCert = "" then .ok ()
  else
    match world.isFile settings.mqttTlsCaCert with
    | .error error => .error (.raised error)
    | .ok isFile => refuse (!isFile)
        ("MQTT_TLS_CA_CERT points at " ++ PyText.repr settings.mqttTlsCaCert ++
          ", which is not a readable file inside the container — check the " ++
          "volume mount")

def validate : Except ConfigRaise Unit := do
  settings.compilePattern world
  refuse (!(startsWith settings.teslamateUrl "http://" ||
      startsWith settings.teslamateUrl "https://"))
    ("TESLAMATE_URL must start with http:// or https://, got " ++
      PyText.repr settings.teslamateUrl)
  refuse (settings.mqttBaseTopic == "") "MQTT_BASE_TOPIC must not be empty"
  refuse (settings.stalenessDetectionEnabled &&
    settings.topics.stateFilter.isNone) stalenessMessage
  refuse settings.dockerHostRefused
    ("DOCKER_HOST must be tcp:// or http:// (the socket proxy), got " ++
      PyText.repr settings.dockerHost ++
      ". Mounting /var/run/docker.sock directly is " ++
      "not supported — see the security section of the README.")
  refuse (settings.teslamateContainer == settings.databaseContainer)
    ("TESLAMATE_CONTAINER and DATABASE_CONTAINER must differ — the watchdog " ++
      "must never be able to resolve a restart onto the database")
  settings.checkCaCert world
  refuse (decide (settings.diagnosticLogLookbackSeconds <
      settings.logAnalysisLookbackSeconds))
    ("LOG_ANALYSIS_LOOKBACK must not exceed DIAGNOSTIC_LOG_LOOKBACK — the " ++
      "state window is meant to be the shorter of the two")

end Settings

/-- Whether staleness is watched for, and the note if it is not after all.
Only an explicit request without a state topic is an error. -/
def stalenessFromEnv (table : CaseTable) (env : Environment)
    (healthTopic : String) : Except ConfigRaise (Bool × List String) := do
  let requested ← envBool env table "STALENESS_DETECTION_ENABLED" true
  if requested = true ∧ (TopicLayout.derive healthTopic).stateFilter = none then
    if (env "STALENESS_DETECTION_ENABLED").isSome then
      throw (.configError stalenessMessage)
    else return (false, [stalenessNote healthTopic])
  else return (requested, [])

/-- `Config.from_env`, up to the validation. -/
def settingsFromEnv (world : Interpreter) (env : Environment) :
    Except ConfigRaise Settings := do
  let table := world.lowerTable
  let healthTopic :=
    envText env "TESLAMATE_HEALTH_TOPIC" "teslamate/cars/1/healthy"
  let lookback := envText env "DIAGNOSTIC_LOG_LOOKBACK" "2h"
  let analysisLookback := envText env "LOG_ANALYSIS_LOOKBACK" "15m"
  let mqttHost := envText env "MQTT_HOST" ""
  refuse (mqttHost == "") mqttHostMessage
  let databaseContainer := envText env "DATABASE_CONTAINER" "database"
  let (stalenessEnabled, notes) ← stalenessFromEnv table env healthTopic
  let dockerTimeoutSeconds ← envInt env "DOCKER_TIMEOUT_SECONDS" 10 1
  let databasePort ← envInt env "DATABASE_PORT" 5432 1
  let teslaAuthPort ← envInt env "TESLA_AUTH_PORT" 443 1
  let loggedOutRestartEnabled ←
    envBool env table "LOGGED_OUT_RESTART_ENABLED" true
  let mqttPort ← envInt env "MQTT_PORT" 1883 1
  let mqttTls ← envBool env table "MQTT_TLS" false
  let mqttTlsInsecure ← envBool env table "MQTT_TLS_INSECURE" false
  let checkIntervalSeconds ← envInt env "CHECK_INTERVAL_SECONDS" 60 5
  let httpTimeoutSeconds ← envInt env "HTTP_TIMEOUT_SECONDS" 10 1
  let mqttStaleSeconds ← envInt env "MQTT_STALE_SECONDS" 600 1
  let mqttParkedStaleSeconds ←
    envInt env "MQTT_PARKED_STALE_SECONDS" 5400 1
  let failureConfirmationCount ← envInt env "FAILURE_CONFIRMATION_COUNT" 3 1
  let recoveryConfirmationCount ← envInt env "RECOVERY_CONFIRMATION_COUNT" 2 1
  let loggerUnhealthyConfirmationCount ←
    envInt env "LOGGER_UNHEALTHY_CONFIRMATION_COUNT" 15 1
  let autoRestartEnabled ← envBool env table "AUTO_RESTART_ENABLED" true
  let restartCooldownSeconds ← envInt env "RESTART_COOLDOWN_SECONDS" 21600 0
  let postRestartWaitSeconds ← envInt env "POST_RESTART_WAIT_SECONDS" 90 0
  let maxRestartsPer24Hours ← envInt env "MAX_RESTARTS_PER_24_HOURS" 2 0
  let diagnosticLogLookbackSeconds ←
    parseDuration lookback "DIAGNOSTIC_LOG_LOOKBACK"
  let logAnalysisLookbackSeconds ←
    parseDuration analysisLookback "LOG_ANALYSIS_LOOKBACK"
  let diagnosticRetentionDays ← envInt env "DIAGNOSTIC_RETENTION_DAYS" 14 0
  let haDiscoveryEnabled ← envBool env table "HA_DISCOVERY_ENABLED" true
  return {
    teslamateUrl := envText env "TESLAMATE_URL" "http://teslamate:4000/"
    teslamateContainer := envText env "TESLAMATE_CONTAINER" "teslamate"
    databaseContainer
    dockerHost := envText env "DOCKER_HOST" "tcp://socket-proxy:2375"
    dockerTimeoutSeconds
    databaseHost := envText env "DATABASE_HOST" databaseContainer
    databasePort
    teslamateSigninPattern :=
      envText env "TESLAMATE_SIGNIN_PATTERN" "/sign[_-]?in"
    teslaAuthHost := envText env "TESLA_AUTH_HOST" "auth.tesla.com"
    teslaAuthPort
    loggedOutRestartEnabled
    signinBodyMarkers :=
      envCsv env "TESLAMATE_SIGNIN_BODY_MARKERS" defaultSigninBodyMarkers
    mqttHost
    mqttPort
    mqttUsername := envText env "MQTT_USERNAME" ""
    mqttPassword := (env "MQTT_PASSWORD").getD ""
    mqttTls
    mqttTlsCaCert := envText env "MQTT_TLS_CA_CERT" ""
    mqttTlsInsecure
    mqttBaseTopic :=
      rstrip (envText env "MQTT_BASE_TOPIC" "teslamate/watchdog") '/'
    teslamateHealthTopic := healthTopic
    topics := .derive healthTopic
    checkIntervalSeconds
    httpTimeoutSeconds
    mqttStaleSeconds
    mqttParkedStaleSeconds
    stalenessDetectionEnabled := stalenessEnabled
    failureConfirmationCount
    recoveryConfirmationCount
    loggerUnhealthyConfirmationCount
    autoRestartEnabled
    restartCooldownSeconds
    postRestartWaitSeconds
    maxRestartsPer24Hours
    diagnosticDir := envText env "DIAGNOSTIC_DIR" "/data/diagnostics"
    diagnosticLogLookback := lookback
    diagnosticLogLookbackSeconds
    logAnalysisLookback := analysisLookback
    logAnalysisLookbackSeconds
    diagnosticRetentionDays
    haDiscoveryEnabled
    haDiscoveryPrefix :=
      rstrip (envText env "HA_DISCOVERY_PREFIX" "homeassistant") '/'
    logLevel := world.upper (envText env "LOG_LEVEL" "INFO")
    patternsFile := envText env "PATTERNS_FILE" "/app/patterns.yaml"
    dataDir := envText env "DATA_DIR" "/data"
    notes }

/-- `Config.from_env`. -/
def fromEnv (world : Interpreter) (env : Environment) :
    Except ConfigRaise Settings := do
  let settings ← settingsFromEnv world env
  settings.validate world
  return settings

end TeslamateWatchdog

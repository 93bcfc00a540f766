/-
Which variables the configuration reads, and what it does not see of them:
whitespace around a value, a default that is written out, and, but for whether
they are set, the credentials.
-/
import TeslamateWatchdog.Environment
import TeslamateWatchdog.Foundation.PyStrip
import TeslamateWatchdog.Foundation.Raising

namespace TeslamateWatchdog

open Foundation PyText

/-- How a variable is read, and what it is when it is not set. -/
inductive Read where
  | text (name fallback : String)
  | int (name : String) (fallback minimum : Int)
  | flag (name : String) (fallback : Bool)
  | csv (name : String) (fallback : List String)
deriving Repr, DecidableEq

namespace Read

def name : Read → String
  | .text name _ => name
  | .int name _ _ => name
  | .flag name _ => name
  | .csv name _ => name

/-- The default as it can be written in the environment. -/
def written : Read → String
  | .text _ fallback => fallback
  | .int _ fallback _ => toString fallback
  | .flag _ fallback => if fallback then "true" else "false"
  | .csv _ fallback => ",".intercalate fallback

/-- The variable is read as its default. -/
def Passes (table : CaseTable) (env : Environment) : Read → Prop
  | .text name fallback => envText env name fallback = fallback
  | .int name fallback minimum =>
      envInt env name fallback minimum = .ok fallback
  | .flag name fallback => envBool env table name fallback = .ok fallback
  | .csv name fallback => envCsv env name fallback = fallback

/-- Two environments in which the variable is read the same. -/
def Same (table : CaseTable) (env other : Environment) : Read → Prop
  | .text name fallback => envText env name fallback = envText other name fallback
  | .int name fallback minimum =>
      envInt env name fallback minimum = envInt other name fallback minimum
  | .flag name fallback =>
      envBool env table name fallback = envBool other table name fallback
  | .csv name fallback => envCsv env name fallback = envCsv other name fallback

end Read

/-- Every variable with a default of its own, in the order of the fields.  The
database host defaults to the database container, and the password is taken as
it is. -/
def reads : List Read :=
  [.text "TESLAMATE_HEALTH_TOPIC" "teslamate/cars/1/healthy",
    .text "DIAGNOSTIC_LOG_LOOKBACK" "2h", .text "LOG_ANALYSIS_LOOKBACK" "15m",
    .text "MQTT_HOST" "", .text "DATABASE_CONTAINER" "database",
    .flag "STALENESS_DETECTION_ENABLED" true,
    .text "TESLAMATE_URL" "http://teslamate:4000/",
    .text "TESLAMATE_CONTAINER" "teslamate",
    .text "DOCKER_HOST" "tcp://socket-proxy:2375",
    .int "DOCKER_TIMEOUT_SECONDS" 10 1, .int "DATABASE_PORT" 5432 1,
    .text "TESLAMATE_SIGNIN_PATTERN" "/sign[_-]?in",
    .text "TESLA_AUTH_HOST" "auth.tesla.com", .int "TESLA_AUTH_PORT" 443 1,
    .flag "LOGGED_OUT_RESTART_ENABLED" true,
    .csv "TESLAMATE_SIGNIN_BODY_MARKERS" defaultSigninBodyMarkers,
    .int "MQTT_PORT" 1883 1, .text "MQTT_USERNAME" "", .flag "MQTT_TLS" false,
    .text "MQTT_TLS_CA_CERT" "", .flag "MQTT_TLS_INSECURE" false,
    .text "MQTT_BASE_TOPIC" "teslamate/watchdog",
    .int "CHECK_INTERVAL_SECONDS" 60 5, .int "HTTP_TIMEOUT_SECONDS" 10 1,
    .int "MQTT_STALE_SECONDS" 600 1, .int "MQTT_PARKED_STALE_SECONDS" 5400 1,
    .int "FAILURE_CONFIRMATION_COUNT" 3 1,
    .int "RECOVERY_CONFIRMATION_COUNT" 2 1,
    .int "LOGGER_UNHEALTHY_CONFIRMATION_COUNT" 15 1,
    .flag "AUTO_RESTART_ENABLED" true, .int "RESTART_COOLDOWN_SECONDS" 21600 0,
    .int "POST_RESTART_WAIT_SECONDS" 90 0, .int "MAX_RESTARTS_PER_24_HOURS" 2 0,
    .text "DIAGNOSTIC_DIR" "/data/diagnostics",
    .int "DIAGNOSTIC_RETENTION_DAYS" 14 0, .flag "HA_DISCOVERY_ENABLED" true,
    .text "HA_DISCOVERY_PREFIX" "homeassistant", .text "LOG_LEVEL" "INFO",
    .text "PATTERNS_FILE" "/app/patterns.yaml", .text "DATA_DIR" "/data"]

def Read.CsvDefault : Read → Prop
  | .csv _ fallback => fallback = defaultSigninBodyMarkers
  | _ => True

instance : DecidablePred Read.CsvDefault := fun read => by
  cases read <;> dsimp only [Read.CsvDefault] <;> infer_instance

/-- The markers are the only default that is a list. -/
theorem csvDefault_reads : ∀ read ∈ reads, read.CsvDefault := by
  decide

/-- Every default passes its own check. -/
theorem passes_of_unset {table : CaseTable} {env : Environment} :
    ∀ read ∈ reads, env read.name = none → read.Passes table env := by
  have hints : (reads.all fun
      | .int _ fallback minimum =>
          toInt (toString fallback) = .ok fallback ∧ minimum ≤ fallback
      | _ => true) = true := by decide +kernel
  intro read hread hunset
  have hint := List.all_eq_true.mp hints read hread
  cases read with
  | text name fallback =>
      rw [Read.name] at hunset
      rw [Read.Passes, envText, hunset]
  | int name fallback minimum =>
      rw [Read.name] at hunset
      obtain ⟨hparsed, hminimum⟩ := of_decide_eq_true hint
      rw [Read.Passes, envInt, envText, hunset]
      dsimp only
      rw [hparsed]
      exact if_neg (not_lt.mpr hminimum)
  | flag name fallback =>
      rw [Read.name] at hunset
      rw [Read.Passes, envBool, envText, hunset]
      cases fallback <;> rfl
  | csv name fallback =>
      rw [Read.name] at hunset
      rw [Read.Passes, envCsv, hunset]

section Congruence

variable {world : Interpreter} {env other : Environment}

/-- The configuration depends on nothing else. -/
theorem fromEnv_congr
    (hreads : ∀ read ∈ reads, read.Same world.lowerTable env other)
    (hexplicit : (env "STALENESS_DETECTION_ENABLED").isSome =
      (other "STALENESS_DETECTION_ENABLED").isSome)
    (hhost : ∀ fallback, envText env "DATABASE_HOST" fallback =
      envText other "DATABASE_HOST" fallback)
    (hpassword : (env "MQTT_PASSWORD").getD "" =
      (other "MQTT_PASSWORD").getD "") :
    fromEnv world env = fromEnv world other := by
  simp only [reads, List.forall_mem_cons, Read.Same, List.not_mem_nil,
    IsEmpty.forall_iff, implies_true, and_true] at hreads
  simp only [fromEnv, settingsFromEnv, stalenessFromEnv, hreads, hexplicit,
    hhost, hpassword]

end Congruence

section Written

variable {table : CaseTable} {world : Interpreter} {env other : Environment}

/-- Reading a variable twice, as text or through its text. -/
theorem Read.same_of_text {read : Read}
    (htext : ∀ fallback, envText env read.name fallback =
      envText other read.name fallback)
    (hcsv : ∀ fallback, envCsv env read.name fallback =
      envCsv other read.name fallback) : read.Same table env other := by
  cases read with
  | text name fallback => exact htext fallback
  | int name fallback minimum =>
      have hraw := htext (toString fallback)
      rw [Read.name] at hraw
      rw [Read.Same, envInt, envInt, hraw]
  | flag name fallback =>
      have hraw := htext (if fallback then "true" else "false")
      rw [Read.name] at hraw
      rw [Read.Same, envBool, envBool, hraw]
  | csv name fallback => exact hcsv fallback

/-- Every value without the whitespace around it; the password is left alone. -/
def Environment.stripped (env : Environment) : Environment := fun name =>
  if name = "MQTT_PASSWORD" then env name else (env name).map strip

theorem envText_stripped {name : String} (hname : name ≠ "MQTT_PASSWORD")
    (fallback : String) :
    envText env.stripped name fallback = envText env name fallback := by
  rw [envText, envText, Environment.stripped, if_neg hname]
  cases env name with
  | none => rfl
  | some value => exact strip_strip value

theorem envCsv_stripped {name : String} (hname : name ≠ "MQTT_PASSWORD")
    (fallback : List String) :
    envCsv env.stripped name fallback = envCsv env name fallback := by
  rw [envCsv, envCsv, Environment.stripped, if_neg hname]
  cases env name with
  | none => rfl
  | some value =>
      dsimp only [Option.map_some]
      rw [strip_strip, map_strip_split (by decide)]

/-- Whitespace around the value of any variable but the password makes no
difference to what is accepted, to the settings, or to the messages. -/
theorem fromEnv_stripped (world : Interpreter) (env : Environment) :
    fromEnv world env.stripped = fromEnv world env := by
  have hname : ∀ read ∈ reads, read.name ≠ "MQTT_PASSWORD" := by decide
  apply fromEnv_congr
  · intro read hread
    exact Read.same_of_text (envText_stripped (hname read hread))
      (envCsv_stripped (hname read hread))
  · rw [Environment.stripped, if_neg (by decide), Option.isSome_map]
  · exact envText_stripped (by decide)
  · rw [Environment.stripped, if_pos rfl]

theorem Read.same_update (read : Read) {name : String}
    (hname : read.name ≠ name) (left right : Option String) :
    read.Same table (Function.update env name left)
      (Function.update env name right) := by
  apply Read.same_of_text
  · intro fallback
    rw [envText, envText, Function.update_of_ne hname,
      Function.update_of_ne hname]
  · intro fallback
    rw [envCsv, envCsv, Function.update_of_ne hname,
      Function.update_of_ne hname]

theorem envText_written {name text fallback : String}
    (htext : strip text = fallback) :
    envText (Function.update env name (some text)) name fallback =
      envText (Function.update env name none) name fallback := by
  rw [envText, envText, Function.update_self, Function.update_self]
  exact htext

/-- The markers written out are split into the markers again. -/
theorem envCsv_written {name text : String}
    (htext : strip text = ",".intercalate defaultSigninBodyMarkers) :
    envCsv (Function.update env name (some text)) name
        defaultSigninBodyMarkers = defaultSigninBodyMarkers := by
  rw [envCsv, Function.update_self]
  dsimp only
  rw [← map_strip_split (by decide), htext]
  decide +kernel

/-- A default that is written out is read as if it were not. -/
theorem Read.same_written {read : Read} (hread : read ∈ reads) {text : String}
    (htext : strip text = read.written) :
    read.Same table (Function.update env read.name (some text))
      (Function.update env read.name none) := by
  cases read with
  | text name fallback => exact envText_written htext
  | int name fallback minimum =>
      have hraw : envText (Function.update env name (some text)) name _ = _ :=
        envText_written htext
      rw [Read.written] at hraw
      rw [Read.Same, Read.name, envInt, envInt, hraw]
  | flag name fallback =>
      have hraw : envText (Function.update env name (some text)) name _ = _ :=
        envText_written htext
      rw [Read.written] at hraw
      rw [Read.Same, Read.name, envBool, envBool, hraw]
  | csv name fallback =>
      obtain rfl : fallback = defaultSigninBodyMarkers :=
        csvDefault_reads _ hread
      rw [Read.Same, Read.name, envCsv_written htext, envCsv,
        Function.update_self]

/-- Writing a default out makes no difference, for any variable that has one of
its own, except that asking for staleness detection is then a request. -/
theorem fromEnv_written (world : Interpreter) (env : Environment) {read : Read}
    (hread : read ∈ reads) (hname : read.name ≠ "STALENESS_DETECTION_ENABLED")
    {text : String} (htext : strip text = read.written) :
    fromEnv world (Function.update env read.name (some text)) =
      fromEnv world (Function.update env read.name none) := by
  have hnodup : (reads.map Read.name).Nodup := by decide
  have hothers : ∀ read ∈ reads, read.name ≠ "DATABASE_HOST" ∧
      read.name ≠ "MQTT_PASSWORD" := by decide
  apply fromEnv_congr
  · intro other hother
    by_cases hsame : other.name = read.name
    · obtain rfl := List.inj_on_of_nodup_map hnodup hother hread hsame
      exact Read.same_written hother htext
    · exact other.same_update hsame _ _
  · rw [Function.update_of_ne (Ne.symm hname),
      Function.update_of_ne (Ne.symm hname)]
  · intro fallback
    rw [envText, envText, Function.update_of_ne (Ne.symm (hothers read hread).1),
      Function.update_of_ne (Ne.symm (hothers read hread).1)]
  · rw [Function.update_of_ne (Ne.symm (hothers read hread).2),
      Function.update_of_ne (Ne.symm (hothers read hread).2)]

/-- A check every minute, asked for or not. -/
theorem fromEnv_written_minute :
    fromEnv .plain (Function.update (fun _ => none) "CHECK_INTERVAL_SECONDS"
        (some " 60\n")) =
      fromEnv .plain (Function.update (fun _ => none) "CHECK_INTERVAL_SECONDS"
        none) := by
  have hread : .int "CHECK_INTERVAL_SECONDS" 60 5 ∈ reads := by decide
  exact fromEnv_written .plain _ hread (by decide) (by decide +kernel)

end Written

end TeslamateWatchdog

/-
Incident bundles: what was true at the moment something went wrong.  The files
of a bundle, as the writer puts them together from what it is handed.
-/
import TeslamateWatchdog.Foundation.JsonText
import TeslamateWatchdog.Redaction
import TeslamateWatchdog.Watchdog

namespace TeslamateWatchdog

open Foundation

/-- The value of the Python enumeration member. -/
def HttpCategory.value : HttpCategory → String
  | .authenticated => "authenticated"
  | .loggedOut => "logged_out"
  | .unreachable => "unreachable"
  | .applicationError => "application_error"
  | .unknown => "unknown"

def countsDict (counts : List (String × Nat)) : Json :=
  .obj (counts.map fun entry => (entry.1, .int entry.2))

def HttpResult.asDict (result : HttpResult) : Json :=
  .obj [("category", .str result.category.value),
    ("status_code", result.statusCode.elim .null fun code => .int code),
    ("redirect_target", result.redirectTarget.elim .null .str),
    ("elapsed_ms", result.elapsedMs.elim .null fun elapsed => .int elapsed),
    ("error", result.error.elim .null .str),
    ("detail", result.detail.elim .null .str),
    ("checked_at", .str result.checkedAt)]

/-- The signals as `Observation.as_dict` shows them; `refresh_success` is not
among them. -/
def LogSignals.asDict (signals : LogSignals) : Json :=
  .obj [("auth_refresh_failing", .bool signals.authRefreshFailing),
    ("auth_lost", .bool signals.authLost),
    ("database_failure", .bool signals.databaseFailure),
    ("token_decryption_failure", .bool signals.tokenDecryptionFailure),
    ("matches", countsDict signals.categoryMatches)]

def Observation.asDict (observation : Observation) : Json :=
  .obj [("http", observation.http.asDict),
    ("logger_healthy", observation.loggerHealthy.elim .null .bool),
    ("logger_stale", .bool observation.loggerStale),
    ("logger_detail", .str observation.loggerDetail),
    ("database_healthy", observation.databaseHealthy.elim .null .bool),
    ("teslamate_container_running",
      observation.teslamateContainerRunning.elim .null .bool),
    ("log_signals", observation.logSignals.elim .null LogSignals.asDict)]

def Classification.asDict (classification : Classification) : Json :=
  .obj [("counts", countsDict classification.counts),
    ("examples", .obj (classification.examples.map fun entry =>
      (entry.1, .str entry.2))),
    ("lines_scanned", .int classification.linesScanned)]

def DockerState.asDict (dockerState : DockerState) : Json :=
  .obj ([("teslamate", dockerState.teslamate),
      ("database", dockerState.database)] ++
    (dockerState.logClassification.map fun classification =>
      ("log_classification", classification.asDict)).toList)

/-- The `summary` that `RecoveryController.capture` hands over. -/
def CaptureRequest.summary (request : CaptureRequest) : List (String × Json) :=
  [("observation", request.observation.asDict),
    ("restart_count_24h", .int request.restartCount24h),
    ("last_restart", request.lastRestart.elim .null .str),
    ("restart_attempted", .bool request.restartAttempted)]

namespace DiagnosticsWriter

/-- The document of `summary.json`. -/
def body (timestamp : String) (request : CaptureRequest) : Json :=
  .obj ([("timestamp", .str timestamp), ("state", .str request.state.value),
    ("trigger_reason", .str request.reason)] ++ request.summary)

/-- `docker_state or {}`. -/
def dockerState (request : CaptureRequest) : Json :=
  request.dockerState.elim (.obj []) DockerState.asDict

/-- The files of a bundle, in the order `capture` writes them. -/
def bundle (alphanumeric : Char → Bool) (floats : Json.FloatRepr)
    (timestamp : String) (request : CaptureRequest) : List (String × String) :=
  [("summary.json", Json.dumps floats (body timestamp request)),
    ("teslamate.log", redact alphanumeric request.teslamateLog),
    ("database.log", redact alphanumeric request.databaseLog),
    ("docker-state.json", Json.dumps floats (dockerState request))]

end DiagnosticsWriter

/-- A printer for documents that hold no float. -/
def noFloats : Json.FloatRepr where
  text _ := "0.0"
  numeral _ _ hc := (by decide : "0.0".toList ⊆ "0123456789+-.e".toList) hc

theorem mem_texts_countsDict {text : String} {counts : List (String × Nat)} :
    text ∈ (countsDict counts).texts ↔ text ∈ counts.map Prod.fst := by
  rw [countsDict, Json.texts]
  induction counts with
  | nil => simp [Json.textsMembers]
  | cons entry rest ih =>
      rw [List.map_cons, List.map_cons, Json.textsMembers, List.mem_cons,
        List.mem_append, ih, List.mem_cons]
      simp [Json.texts]

theorem mem_textsMembers_examples {text : String}
    {examples : List (String × String)} :
    text ∈ Json.textsMembers (examples.map fun entry =>
        (entry.1, Json.str entry.2)) ↔
      text ∈ examples.map Prod.fst ∨ text ∈ examples.map Prod.snd := by
  induction examples with
  | nil => simp [Json.textsMembers]
  | cons entry rest ih =>
      rw [List.map_cons, List.map_cons, List.map_cons, Json.textsMembers,
        List.mem_cons, List.mem_append, ih, List.mem_cons, List.mem_cons,
        Json.texts, List.mem_singleton]
      constructor
      · rintro (hkey | hvalue | hkeys | hvalues)
        · exact .inl (.inl hkey)
        · exact .inr (.inl hvalue)
        · exact .inl (.inr hkeys)
        · exact .inr (.inr hvalues)
      · rintro ((hkey | hkeys) | hvalue | hvalues)
        · exact .inl hkey
        · exact .inr (.inr (.inl hkeys))
        · exact .inr (.inl hvalue)
        · exact .inr (.inr (.inr hvalues))

end TeslamateWatchdog

/-
The Docker Engine API as the watchdog uses it, through the socket proxy:
resolving a container, reading its log, and the one write, the restart.
Bodies are arbitrary JSON; what Python would raise on them is raised here.
-/
import TeslamateWatchdog.Config
import TeslamateWatchdog.Foundation.PyNumber
import TeslamateWatchdog.Foundation.Utf8

namespace TeslamateWatchdog

open Foundation

/-- Seconds Docker waits for a graceful stop before sending SIGKILL. -/
def restartStopTimeout : Nat := 30

/-- The restart's own HTTP budget: the stop timeout and a minute. -/
def restartHttpTimeout : Nat := restartStopTimeout + 60

/-- `_get(path).json()`: `DockerUnavailable` (no answer, or a status of 400 and
more), a body that is not JSON, one nested deeper than `json.loads` can follow,
or a document. -/
inductive JsonAnswer where
  | unavailable (error : String)
  | notJson (error : String)
  | tooDeep
  | body (document : Json)
deriving Repr

/-- `_get(path).content`: `DockerUnavailable`, or the bytes of the body. -/
inductive BytesAnswer where
  | unavailable (error : String)
  | content (raw : List UInt8)
deriving Repr

/-- What the restart POST ends with. -/
inductive PostOutcome where
  | response (status : Nat) (text : String)
  | timeout
  | requestException (typeName text : String)
deriving Repr, DecidableEq

/-- A container reference.  `id` and `composeService` are whatever JSON the
listing holds there; a missing service is `null`. -/
structure ContainerRef where
  id : Json
  name : String
  composeService : Json
deriving Repr

/-- `ContainerRef.matches`. -/
def ContainerRef.Matches (ref : ContainerRef) (configured : String) : Bool :=
  ref.name == configured || ref.composeService.isStr configured

/-- `ref.id[:12]`; only text and lists can be sliced. -/
def ContainerRef.shortId (ref : ContainerRef) : Except PyError Json :=
  match ref.id with
  | .str text => .ok (.str (PyText.front text 12))
  | .arr items => .ok (.arr (items.take 12))
  | .obj _ => .error .keyError
  | _ => .error .typeError

/-- A container's state.  `found` is the source's `exists`; `found = false` and
`running = none` mean unknown. -/
structure ContainerStatus where
  found : Bool
  running : Option Bool := none
  status : Json := .null
  health : Json := .null
  restartCount : Json := .null
  oomKilled : Option Bool := none
  exitCode : Json := .null
  startedAt : Json := .null
  finishedAt : Json := .null
  ref : Option ContainerRef := none
  error : Option String := none
deriving Repr

/-- `ContainerStatus.as_dict()`; what it raises on is the short id. -/
def ContainerStatus.asDict (status : ContainerStatus) : Except PyError Json := do
  let containerId ←
    match status.ref with
    | some ref => ref.shortId
    | none => .ok .null
  let optionalBool : Option Bool → Json := fun value =>
    value.elim .null .bool
  return .obj [("exists", .bool status.found),
    ("running", optionalBool status.running),
    ("status", status.status),
    ("health", status.health),
    ("restart_count", status.restartCount),
    ("oom_killed", optionalBool status.oomKilled),
    ("exit_code", status.exitCode),
    ("started_at", status.startedAt),
    ("finished_at", status.finishedAt),
    ("container_id", containerId),
    ("container_name", status.ref.elim .null fun ref => .str ref.name),
    ("compose_service", status.ref.elim .null (·.composeService)),
    ("error", status.error.elim .null .str)]

structure DatabaseHealth where
  healthy : Option Bool
  source : String
  detail : String
  status : ContainerStatus
deriving Repr

def DatabaseHealth.asDict (health : DatabaseHealth) : Except PyError Json := do
  let container ← health.status.asDict
  return .obj [("healthy", health.healthy.elim .null .bool),
    ("source", .str health.source), ("detail", .str health.detail),
    ("container", container)]

/-- What `restart` sent, and what it returned or raised. -/
structure RestartCall where
  posted : Option Json
  result : Except PyError (Bool × String)
deriving Repr

namespace DockerClient

/-- `DockerClient.ping`: does the list answer at all. -/
def ping : BytesAnswer → Except PyError Bool
  | .content _ => .ok true
  | .unavailable _ => .ok false

/-- The names of an entry, without leading slashes. -/
def entryNames (entry : Json) : Except PyError (List String) := do
  let names ← (← entry.getD "Names" (.arr [])).iterate
  names.mapM fun name =>
    match name with
    | .str text => .ok (PyText.lstrip text '/')
    | _ => .error .attributeError

/-- The compose-service label of an entry, `null` when it has none. -/
def entryService (entry : Json) : Except PyError Json := do
  let labels := (← entry.getD "Labels" .null).orElse (.obj [])
  labels.getD "com.docker.compose.service" .null

/-- The loop of `resolve`. -/
def scan (configured : String) :
    Option ContainerRef → List Json → Except PyError (Option ContainerRef)
  | byLabel, [] => .ok byLabel
  | byLabel, entry :: rest => do
      let names ← entryNames entry
      let service ← entryService entry
      let id ← entry.getD "Id" (.str "")
      let ref : ContainerRef := ⟨id, names.headD "", service⟩
      if configured ∈ names then
        return some ref
      else if service.isStr configured && byLabel.isNone then
        scan configured (some ref) rest
      else scan configured byLabel rest

/-- Find a container by exact name, then by compose-service label.  The error of a
body that is nested too deeply has no handler. -/
def resolve (listing : JsonAnswer) (configured : String) :
    Except PyError (Option ContainerRef) :=
  match listing with
  | .unavailable _ => .ok none
  | .notJson _ => .ok none
  | .tooDeep => .error .recursionError
  | .body containers => do
      let entries ← containers.iterate
      scan configured none entries

/-- The status that an inspect document describes. -/
def inspected (ref : ContainerRef) (data : Json) :
    Except PyError ContainerStatus := do
  let state := (← data.getD "State" .null).orElse (.obj [])
  let health ← ((← state.getD "Health" .null).orElse (.obj [])).getD
    "Status" .null
  let running ← state.getD "Running" .null
  let status ← state.getD "Status" .null
  let restartCount ← data.getD "RestartCount" .null
  let oomKilled ← state.getD "OOMKilled" .null
  let exitCode ← state.getD "ExitCode" .null
  let startedAt ← state.getD "StartedAt" .null
  let finishedAt ← state.getD "FinishedAt" .null
  return {
    found := true
    running := some running.truthy
    status := status
    health := health
    restartCount := restartCount
    oomKilled := some oomKilled.truthy
    exitCode := exitCode
    startedAt := startedAt
    finishedAt := finishedAt
    ref := some ref }

/-- `DockerClient.status`: what the listing and the inspection say of a
container.  An engine that does not answer leaves everything unknown. -/
def status (listing : JsonAnswer) (inspect : Json → JsonAnswer)
    (configured : String) : Except PyError ContainerStatus := do
  match ← resolve listing configured with
  | none =>
      return { found := false
               error := some ("no container matching " ++
                 PyText.repr configured) }
  | some ref =>
      match inspect ref.id with
      | .unavailable error =>
          return { found := true, ref := some ref, error := some error }
      | .notJson error =>
          return { found := true, ref := some ref, error := some error }
      | .tooDeep => .error .recursionError
      | .body data => inspected ref data

/-- What `restart` returns for the outcome of its POST.  A timeout is reported
as a failure that may still be in progress. -/
def postResult (ref : ContainerRef) : PostOutcome → Except PyError (Bool × String)
  | .timeout =>
      .ok (false, "restart did not complete within " ++
        toString restartHttpTimeout ++
        "s; it may still be in progress. Check the container before retrying.")
  | .requestException typeName text => .ok (false, typeName ++ ": " ++ text)
  | .response status text =>
      if status = 204 ∨ status = 304 then do
        let shortId ← ref.shortId
        return (true,
          "restarted " ++ ref.name ++ " (" ++ shortId.toStr ++ ")")
      else if status = 403 then
        .ok (false, "socket proxy denied the restart (403) — the proxy needs " ++
          "POST=1 as well as CONTAINERS=1. ALLOW_RESTARTS on its own is not " ++
          "sufficient; see the security section of the README.")
      else
        .ok (false, "restart returned " ++ toString status ++ ": " ++
          PyText.front text 200)

/-- What `restart` does with the reference it resolved. -/
def restartRef (config : Config) (post : PostOutcome) (ref : ContainerRef) :
    RestartCall :=
  let expected := config.teslamateContainer
  let database := config.databaseContainer
  if !ref.Matches expected then
    ⟨none, .ok (false, "resolved container " ++ PyText.repr ref.name ++
      " (service " ++ ref.composeService.repr ++ ") does not match " ++
      PyText.repr expected)⟩
  else if ref.name == database || ref.composeService.isStr database then
    ⟨none, .ok (false, "refusing to restart the database container (" ++
      PyText.repr database ++ ")")⟩
  else ⟨some ref.id, postResult ref post⟩

/-- Restart the named container after re-validating what it resolves to. -/
def restart (config : Config) (listing : JsonAnswer) (post : PostOutcome)
    (configured : String) : RestartCall :=
  let expected := config.teslamateContainer
  if configured ≠ expected then
    ⟨none, .ok (false, "refusing to restart " ++ PyText.repr configured ++
      ": only the configured TeslaMate container (" ++ PyText.repr expected ++
      ") may be restarted")⟩
  else
    match resolve listing configured with
    | .error error => ⟨none, .error error⟩
    | .ok none =>
        ⟨none, .ok (false, "no container matching " ++ PyText.repr configured)⟩
    | .ok (some ref) => restartRef config post ref

/-- Docker multiplexes non-TTY output into frames with an 8-byte header. -/
def frameHeader : Nat := 8

/-- The payloads of the frames at the front of `raw`, one frame a round; `none`
when a header is not valid.  The number of bytes is fuel enough. -/
def frames : Nat → List UInt8 → Option (List (List UInt8))
  | 0, _ => some []
  | fuel + 1, raw =>
      if raw.length < frameHeader then some []
      else
        let header := raw.take frameHeader
        if header.getD 0 0 ∉ [0, 1, 2] ∨ (header.drop 1).take 3 ≠ [0, 0, 0] then
          none
        else
          let size := (header.drop 4).foldl (fun n byte => n * 256 + byte.toNat) 0
          let rest := raw.drop frameHeader
          (frames fuel (rest.drop size)).map (rest.take size :: ·)

/-- Decode a Docker log stream, framed or raw. -/
def demultiplex (raw : List UInt8) : String :=
  if raw.length < frameHeader then Utf8.decode raw
  else
    match frames raw.length raw with
    | none => Utf8.decode raw
    | some chunks => Utf8.decode chunks.flatten

/-- The `tail` parameter `logs` sends. -/
def logTail : Nat := 2000

/-- `DockerClient.logs`.  `engineLog` answers the log request, given the id, the
`since` second and the number of lines asked for. -/
def logs (listing : JsonAnswer) (engineLog : Json → Int → Nat → BytesAnswer)
    (now : ℚ) (configured : String) (sinceSeconds : Nat) :
    Except PyError String := do
  match ← resolve listing configured with
  | none => return ""
  | some ref =>
      let since := PyFloat.truncate (now - sinceSeconds)
      match engineLog ref.id since logTail with
      | .unavailable _ => return ""
      | .content raw => return demultiplex raw

end DockerClient

/-- What `socket.create_connection` ends with. -/
inductive ConnectAnswer where
  | connected
  | osError (text : String)
  | raised (error : PyError)
deriving Repr, DecidableEq

/-- `tcp_probe`. -/
def tcpProbe (connect : String → Nat → Nat → ConnectAnswer) (host : String)
    (port timeout : Nat) : Except PyError (Bool × String) :=
  let target := host ++ ":" ++ toString port
  match connect host port timeout with
  | .connected => .ok (true, "tcp connect to " ++ target ++ " succeeded")
  | .osError text =>
      .ok (false, "tcp connect to " ++ target ++ " failed: " ++ text)
  | .raised error => .error error

/-- `check_database`: the Docker healthcheck if one is defined, otherwise a TCP
connect. -/
def checkDatabase (config : Config)
    (status : String → Except PyError ContainerStatus)
    (connect : String → Nat → Nat → ConnectAnswer) :
    Except PyError DatabaseHealth := do
  let status ← status config.databaseContainer
  if !status.found then
    return ⟨none, "docker",
      match status.error with
      | some error => if error = "" then "database container not found" else error
      | none => "database container not found", status⟩
  else if status.running = some false then
    return ⟨some false, "docker",
      "container not running (status=" ++ status.status.toStr ++ ")", status⟩
  else
    match status.health with
    | .null => do
        let (reachable, detail) ← tcpProbe connect config.databaseHost
          config.databasePort config.dockerTimeoutSeconds
        return ⟨some reachable, "tcp", detail, status⟩
    | health =>
        if health.isStr "healthy" then
          return ⟨some true, "healthcheck", "docker healthcheck healthy", status⟩
        else if health.isStr "starting" then
          return ⟨none, "healthcheck", "docker healthcheck starting", status⟩
        else
          return ⟨some false, "healthcheck",
            "docker healthcheck " ++ health.toStr, status⟩

end TeslamateWatchdog

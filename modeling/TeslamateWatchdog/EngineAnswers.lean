/-
Which answers of the engine the client turns into a value.  Every failure to
answer counts as unknown; a body that is JSON, but not of the documented shape,
raises where the shape is first relied on.
-/
import TeslamateWatchdog.ContainerEvidence
import TeslamateWatchdog.ContainerListing

namespace TeslamateWatchdog

open Foundation

/-- The answers to the calls the client makes for a container. -/
structure EngineAnswers where
  pinged : BytesAnswer
  listing : JsonAnswer
  inspect : Json → JsonAnswer
  engineLog : Json → Int → Nat → BytesAnswer
  post : PostOutcome
  connect : String → Nat → Nat → ConnectAnswer

/-- The status codes that `restart` takes for success. -/
def PostOutcome.Confirms : PostOutcome → Prop
  | .response status _ => status = 204 ∨ status = 304
  | _ => False

/-- A value of which `[:12]` can be taken. -/
def Sliceable (id : Json) : Prop :=
  (∃ text, id = .str text) ∨ ∃ items, id = .arr items

/-- `restart` sends the POST for the reference. -/
structure Accepted (config : Config) (ref : ContainerRef) : Prop where
  valid : ref.Matches config.teslamateContainer = true
  name : ref.name ≠ config.databaseContainer
  service : ref.composeService.isStr config.databaseContainer = false

/-- An inspection that can be read: none, no JSON, or a document of the shape
relied on. -/
def JsonAnswer.Readable : JsonAnswer → Prop
  | .body document => DockerClient.Readable document
  | .tooDeep => False
  | _ => True

theorem shortId_isOk_iff {ref : ContainerRef} :
    ref.shortId.isOk = true ↔ Sliceable ref.id := by
  unfold ContainerRef.shortId Sliceable
  cases ref.id <;> simp [Except.isOk, Except.toBool]

namespace DockerClient

/-- A listing that resolution gets through. -/
def Legible (configured : String) : JsonAnswer → Prop
  | .body document => ∃ entries, document.iterate = .ok entries ∧
      ∀ entry ∈ examined configured entries, Usable entry
  | .tooDeep => False
  | _ => True

/-- The inspection of the selected container, if any, can be read. -/
def Inspectable (configured : String) (listing : JsonAnswer)
    (inspect : Json → JsonAnswer) : Prop :=
  ∀ entry ∈ selected configured (listed listing),
    (inspect (reference entry).id).Readable

/-- The health of the database is left to the TCP probe: there is a container,
and no document says that it is stopped or has a healthcheck. -/
def Probed (config : Config) (listing : JsonAnswer)
    (inspect : Json → JsonAnswer) : Prop :=
  ∃ entry ∈ selected config.databaseContainer (listed listing), ∀ document,
    inspect (reference entry).id = .body document →
      (document.look ["State", "Running"]).truthy = true ∧
        document.look ["State", "Health", "Status"] = .null

section Calls

variable {configured : String} {listing : JsonAnswer}

theorem resolve_of_legible (hlegible : Legible configured listing) :
    resolve listing configured =
      .ok ((selected configured (listed listing)).map reference) := by
  cases listing with
  | unavailable error => rfl
  | notJson error => rfl
  | tooDeep => exact hlegible.elim
  | body document =>
      obtain ⟨entries, hentries, husable⟩ := hlegible
      have hlisted : listed (.body document) = entries := by
        simp [listed, hentries, Except.toOption]
      have hresolve : resolve (.body document) configured =
          scan configured none entries := by
        simp [resolve, hentries, bind, Except.bind]
      rw [hlisted, hresolve, scan_of_usable configured none husable, selected,
        Option.none_or, Option.map_or]

theorem resolve_isOk_iff :
    (resolve listing configured).isOk = true ↔ Legible configured listing := by
  constructor
  · intro hok
    obtain ⟨found, hresolve⟩ := isOk_iff.mp hok
    cases listing with
    | unavailable error => trivial
    | notJson error => trivial
    | tooDeep => cases hresolve
    | body document =>
        obtain ⟨entries, hentries, hscan⟩ := bind_eq_ok.mp hresolve
        exact ⟨entries, hentries, usable_of_scan configured none hscan⟩
  · intro hlegible
    exact isOk_iff.mpr ⟨_, resolve_of_legible hlegible⟩

/-- What follows the resolution in a call decides whether the call returns. -/
theorem resolve_bind_isOk_iff {α : Type}
    {next : Option ContainerRef → Except PyError α} :
    (resolve listing configured >>= next).isOk = true ↔
      Legible configured listing ∧
        (next ((selected configured (listed listing)).map reference)).isOk =
          true := by
  constructor
  · intro hok
    obtain ⟨value, hbind⟩ := isOk_iff.mp hok
    obtain ⟨found, hresolve, hnext⟩ := bind_eq_ok.mp hbind
    have hlegible := resolve_isOk_iff.mp (isOk_iff.mpr ⟨found, hresolve⟩)
    rw [resolve_of_legible hlegible] at hresolve
    rw [Except.ok.inj hresolve]
    exact ⟨hlegible, isOk_iff.mpr ⟨value, hnext⟩⟩
  · rintro ⟨hlegible, hnext⟩
    rw [resolve_of_legible hlegible]
    exact hnext

/-- A usable entry that matches is found. -/
theorem exists_selected {entry : Json} (hlegible : Legible configured listing)
    (hentry : entry ∈ listed listing)
    (hmatches : named configured entry = true ∨
      labelled configured entry = true) :
    ∃ found ∈ listed listing, Usable found ∧
      (named configured found = true ∨ labelled configured found = true) ∧
      selected configured (listed listing) = some found := by
  obtain ⟨found, hfound⟩ : ∃ found,
      selected configured (listed listing) = some found := by
    apply Option.isSome_iff_exists.mp
    rw [selected, Option.isSome_or, Bool.or_eq_true, List.find?_isSome,
      List.find?_isSome]
    rcases hmatches with hnamed | hlabelled
    · exact .inl ⟨entry, hentry, hnamed⟩
    · exact .inr ⟨entry, hentry, hlabelled⟩
  obtain ⟨target, htarget, hreduces⟩ := resolve_some
    (by rw [resolve_of_legible hlegible, hfound]; rfl)
  obtain rfl : found = target := Option.some.inj (hfound.symm.trans htarget)
  exact ⟨found, (selected_spec hfound).1, Usable.of_reduces hreduces,
    (selected_spec hfound).2, hfound⟩

theorem status_isOk_iff {inspect : Json → JsonAnswer} :
    (status listing inspect configured).isOk = true ↔
      Legible configured listing ∧ Inspectable configured listing inspect := by
  unfold status
  rw [resolve_bind_isOk_iff]
  apply and_congr_right
  intro _
  unfold Inspectable
  cases selected configured (listed listing) with
  | none => simp [Except.isOk, Except.toBool, pure, Except.pure]
  | some entry =>
      simp only [Option.map_some, Option.mem_some, forall_eq']
      cases hinspect : inspect (reference entry).id with
      | body document =>
          simp only [JsonAnswer.Readable]
          rw [isOk_iff]
          constructor
          · rintro ⟨found, hinspected⟩
            exact (inspected_eq_ok.mp hinspected).1
          · intro hreadable
            exact ⟨_, inspected_eq_ok.mpr ⟨hreadable, rfl⟩⟩
      | _ =>
          simp [JsonAnswer.Readable, Except.isOk, Except.toBool, pure,
            Except.pure]

theorem logs_isOk_iff {engineLog : Json → Int → Nat → BytesAnswer} {now : ℚ}
    {sinceSeconds : Nat} :
    (logs listing engineLog now configured sinceSeconds).isOk = true ↔
      Legible configured listing := by
  unfold logs
  rw [resolve_bind_isOk_iff, and_iff_left_iff_imp]
  intro _
  cases selected configured (listed listing) with
  | none => rfl
  | some entry =>
      rw [Option.map_some]
      dsimp only
      split <;> rfl

theorem postResult_isOk_iff {ref : ContainerRef} {post : PostOutcome} :
    (postResult ref post).isOk = true ↔ (post.Confirms → Sliceable ref.id) := by
  cases post with
  | timeout => simp [postResult, PostOutcome.Confirms, Except.isOk, Except.toBool]
  | requestException typeName text =>
      simp [postResult, PostOutcome.Confirms, Except.isOk, Except.toBool]
  | response code text =>
      rw [← shortId_isOk_iff, PostOutcome.Confirms, postResult]
      by_cases hcode : code = 204 ∨ code = 304
      · rw [if_pos hcode, forall_prop_of_true hcode]
        cases ref.shortId <;> rfl
      · rw [if_neg hcode]
        simp only [hcode, false_imp_iff, iff_true]
        split <;> rfl

theorem restartRef_isOk_iff {config : Config} {post : PostOutcome}
    {ref : ContainerRef} :
    (restartRef config post ref).result.isOk = true ↔
      (Accepted config ref → post.Confirms → Sliceable ref.id) := by
  unfold restartRef
  dsimp only
  cases hmatches : ref.Matches config.teslamateContainer with
  | false =>
      refine iff_of_true rfl ?_
      rintro ⟨hvalid, _, _⟩
      rw [hmatches] at hvalid
      cases hvalid
  | true =>
      rw [Bool.not_true, if_neg Bool.false_ne_true]
      by_cases hdatabase : (ref.name == config.databaseContainer ||
          ref.composeService.isStr config.databaseContainer) = true
      · rw [if_pos hdatabase]
        refine iff_of_true rfl ?_
        rintro ⟨_, hname, hservice⟩
        simp [hname, hservice] at hdatabase
      · rw [if_neg hdatabase]
        simp only [Bool.or_eq_true, beq_iff_eq, not_or, Bool.not_eq_true]
          at hdatabase
        have haccepted : Accepted config ref :=
          ⟨hmatches, hdatabase.1, hdatabase.2⟩
        rw [forall_prop_of_true haccepted]
        exact postResult_isOk_iff

theorem restart_isOk_iff {config : Config} {post : PostOutcome} :
    (restart config listing post configured).result.isOk = true ↔
      (configured = config.teslamateContainer →
        Legible configured listing ∧
          ∀ entry ∈ selected configured (listed listing),
            Accepted config (reference entry) → post.Confirms →
              Sliceable (reference entry).id) := by
  unfold restart
  dsimp only
  by_cases hconfigured : configured = config.teslamateContainer
  · rw [if_neg (not_not_intro hconfigured), forall_prop_of_true hconfigured]
    by_cases hlegible : Legible configured listing
    · rw [resolve_of_legible hlegible, and_iff_right hlegible]
      cases selected configured (listed listing) with
      | none => simp [Except.isOk, Except.toBool]
      | some entry =>
          simp only [Option.map_some, Option.mem_some, forall_eq']
          exact restartRef_isOk_iff
    · cases hresolve : resolve listing configured with
      | error error => simp [hlegible, Except.isOk, Except.toBool]
      | ok found =>
          exact absurd (resolve_isOk_iff.mp (isOk_iff.mpr ⟨found, hresolve⟩))
            hlegible
  · rw [if_pos hconfigured]
    simp [hconfigured, Except.isOk, Except.toBool]

end Calls

end DockerClient

theorem tcpProbe_isOk_iff {connect : String → Nat → Nat → ConnectAnswer}
    {host : String} {port timeout : Nat} :
    (tcpProbe connect host port timeout).isOk = true ↔
      ∀ error, connect host port timeout ≠ .raised error := by
  unfold tcpProbe
  cases connect host port timeout <;> simp [Except.isOk, Except.toBool]

section Database

open DockerClient

variable {config : Config} {connect : String → Nat → Nat → ConnectAnswer}

/-- Whether `check_database` returns depends on the probe only where nothing in
the status decides. -/
theorem checkDatabase_isOk_iff
    {status : String → Except PyError ContainerStatus} :
    (checkDatabase config status connect).isOk = true ↔
      ∃ found, status config.databaseContainer = .ok found ∧
        (found.found = true → found.running ≠ some false →
          found.health = .null →
          (tcpProbe connect config.databaseHost config.databasePort
            config.dockerTimeoutSeconds).isOk = true) := by
  constructor
  · intro hok
    obtain ⟨health, hcheck⟩ := isOk_iff.mp hok
    obtain ⟨found, hstatus, hjudged⟩ := checkDatabase_judged hcheck
    refine ⟨found, hstatus, fun hfound hrunning hhealth => ?_⟩
    cases hjudged with
    | missing hmissing => simp [hmissing] at hfound
    | stopped hstopped => exact absurd hstopped hrunning
    | probed _ _ hprobe => exact isOk_iff.mpr ⟨_, hprobe⟩
    | checked _ hdefined => exact absurd hhealth hdefined
  · rintro ⟨found, hstatus, hprobe⟩
    by_cases hhealth : found.health = .null
    · unfold checkDatabase
      rw [hstatus]
      change Except.isOk (if _ then _ else _) = true
      by_cases hfound : (!found.found) = true
      · rw [if_pos hfound]
        rfl
      · rw [if_neg hfound]
        by_cases hrunning : found.running = some false
        · rw [if_pos hrunning]
          rfl
        · rw [if_neg hrunning, hhealth]
          obtain ⟨reply, hreply⟩ :=
            isOk_iff.mp (hprobe (by simpa using hfound) hrunning hhealth)
          dsimp only
          rw [hreply]
          rfl
    · exact isOk_iff.mpr (checkDatabase_of_status hstatus hhealth)

/-- The status of a container as `check_database` reads it. -/
theorem probed_iff_of_status {listing : JsonAnswer}
    {inspect : Json → JsonAnswer} {found : ContainerStatus}
    (hlegible : Legible config.databaseContainer listing)
    (hstatus : status listing inspect config.databaseContainer = .ok found) :
    (found.found = true ∧ found.running ≠ some false ∧ found.health = .null) ↔
      Probed config listing inspect := by
  unfold status at hstatus
  rw [resolve_of_legible hlegible] at hstatus
  unfold Probed
  cases hselected : selected config.databaseContainer (listed listing) with
  | none =>
      rw [hselected] at hstatus
      obtain rfl := Except.ok.inj hstatus
      simp
  | some entry =>
      rw [hselected, Option.map_some] at hstatus
      cases hinspect : inspect (reference entry).id with
      | body document =>
          simp only [hinspect, bind, Except.bind] at hstatus
          obtain ⟨_, rfl⟩ := inspected_eq_ok.mp hstatus
          simp [described, hinspect]
      | tooDeep =>
          simp only [hinspect, bind, Except.bind] at hstatus
          cases hstatus
      | _ =>
          simp only [hinspect, bind, Except.bind] at hstatus
          obtain rfl := Except.ok.inj hstatus
          simp [hinspect]

theorem checkDatabase_status_isOk_iff {listing : JsonAnswer}
    {inspect : Json → JsonAnswer} :
    (checkDatabase config (status listing inspect) connect).isOk = true ↔
      Legible config.databaseContainer listing ∧
        Inspectable config.databaseContainer listing inspect ∧
        (Probed config listing inspect → ∀ error,
          connect config.databaseHost config.databasePort
            config.dockerTimeoutSeconds ≠ .raised error) := by
  rw [checkDatabase_isOk_iff, ← and_assoc, ← status_isOk_iff,
    ← tcpProbe_isOk_iff]
  constructor
  · rintro ⟨found, hstatus, hprobe⟩
    have hok := isOk_iff.mpr ⟨found, hstatus⟩
    refine ⟨hok, fun hprobed => ?_⟩
    obtain ⟨hfound, hrunning, hhealth⟩ :=
      (probed_iff_of_status (status_isOk_iff.mp hok).1 hstatus).mpr hprobed
    exact hprobe hfound hrunning hhealth
  · rintro ⟨hok, hprobe⟩
    obtain ⟨found, hstatus⟩ := isOk_iff.mp hok
    exact ⟨found, hstatus, fun hfound hrunning hhealth =>
      hprobe ((probed_iff_of_status (status_isOk_iff.mp hok).1 hstatus).mp
        ⟨hfound, hrunning, hhealth⟩)⟩

/-- Every call returns, and resolution finds what can be found. -/
structure Degrades (config : Config) (engine : EngineAnswers)
    (configured : String) : Prop where
  ping : (ping engine.pinged).isOk = true
  resolve : ∃ found, resolve engine.listing configured = .ok found ∧
    ((∃ entry ∈ listed engine.listing, Usable entry ∧
        (named configured entry = true ∨ labelled configured entry = true)) →
      ∃ entry ∈ listed engine.listing, Usable entry ∧
        (named configured entry = true ∨ labelled configured entry = true) ∧
        found = some (reference entry))
  status : (status engine.listing engine.inspect configured).isOk = true
  logs : ∀ now sinceSeconds, (logs engine.listing engine.engineLog now
    configured sinceSeconds).isOk = true
  restart : (restart config engine.listing engine.post
    configured).result.isOk = true
  database : (checkDatabase config (DockerClient.status engine.listing
    engine.inspect) engine.connect).isOk = true

/-- The answers keep to the documented shapes wherever a call relies on it. -/
structure WellShaped (config : Config) (engine : EngineAnswers)
    (configured : String) : Prop where
  listing : ∀ name ∈ [configured, config.databaseContainer],
    Legible name engine.listing
  inspect : ∀ name ∈ [configured, config.databaseContainer],
    Inspectable name engine.listing engine.inspect
  restarted : configured = config.teslamateContainer →
    ∀ entry ∈ selected configured (listed engine.listing),
      Accepted config (reference entry) → engine.post.Confirms →
        Sliceable (reference entry).id
  probed : Probed config engine.listing engine.inspect → ∀ error,
    engine.connect config.databaseHost config.databasePort
      config.dockerTimeoutSeconds ≠ .raised error

/-- An engine that lists one entry of any kind. -/
def EngineAnswers.listingOne (entry : Json) : EngineAnswers where
  pinged := .content []
  listing := .body (.arr [entry])
  inspect := fun _ => .unavailable ""
  engineLog := fun _ _ _ => .unavailable ""
  post := .timeout
  connect := fun _ _ _ => .connected

end Database

end TeslamateWatchdog

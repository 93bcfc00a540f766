/-
Where the texts of an incident bundle come from, the raw logs and the excerpts
apart: they are texts of the program itself, or they stand in an answer of the
cycle, or are the names of the categories that the log hits.
-/
import TeslamateWatchdog.CycleReports
import TeslamateWatchdog.Diagnostics

namespace TeslamateWatchdog

open Foundation

/-- The TeslaMate log that is classified, empty when it cannot be read. -/
def analysedLog (config : Config) (answers : CycleAnswers) : String :=
  match answers.logs config.teslamateContainer
      config.logAnalysisLookbackSeconds with
  | .ok text => text
  | .error _ => ""

/-- The texts of a result of the HTTP check. -/
def HttpResult.texts (result : HttpResult) : List String :=
  result.redirectTarget.toList ++ (result.error.toList ++
    (result.detail.toList ++ [result.checkedAt]))

def ContainerRef.texts (ref : ContainerRef) : List String :=
  ref.shortId.toOption.elim [] Json.texts ++ ref.name ::
    ref.composeService.texts

/-- The texts that the engine's answers left in a status. -/
def ContainerStatus.texts (status : ContainerStatus) : List String :=
  status.status.texts ++ (status.health.texts ++ (status.restartCount.texts ++
    (status.exitCode.texts ++ (status.startedAt.texts ++
      (status.finishedAt.texts ++ (status.ref.elim [] ContainerRef.texts ++
        status.error.toList))))))

/-- The categories that some line of the text counts for. -/
def hitCategories (classifier : LogClassifier) (text : String) : List String :=
  (classifier.patterns.map Prod.fst).filter fun category =>
    (classifier.firstHit category text).isSome

/-- The texts of the containers' states, and the detail of the database check. -/
def containerTexts (config : Config) (answers : CycleAnswers) : List String :=
  (answers.status config.teslamateContainer).toOption.elim []
      ContainerStatus.texts ++
    ((answers.status config.databaseContainer).toOption.elim []
        ContainerStatus.texts ++
      (checkDatabase config answers.status answers.connect).toOption.elim []
        fun health => [health.detail])

/-- What the answers of a cycle hand to its bundle as texts: the result of the
HTTP check, the detail of the logger health, the states of the containers, and
the categories that the analysed log hits. -/
def answeredTexts (config : Config) (classifier : LogClassifier)
    (answers : CycleAnswers) : List String :=
  answers.check.toOption.elim [] HttpResult.texts ++
    (answers.loggerHealth.detail :: (containerTexts config answers ++
      hitCategories classifier (analysedLog config answers)))

/-- JSON shows the token where it writes one of the strings. -/
def ShownIn (texts : List String) (token : List Char) : Prop :=
  ∃ text ∈ texts, token <:+: Json.escape text

/-- The token stands in what is kept of the first line of some category. -/
def InExcerpt (classifier : LogClassifier) (text : String)
    (token : List Char) : Prop :=
  ∃ category line, classifier.firstHit category text = some line ∧
    token <:+: Json.escape (truncate line)

section

variable {config : Config} {classifier : LogClassifier} {answers : CycleAnswers}
  {alphanumeric : Char → Bool} {token : List Char}

@[simp]
theorem shownIn_nil : ¬ShownIn [] token := by
  simp [ShownIn]

@[simp]
theorem shownIn_append {first second : List String} :
    ShownIn (first ++ second) token ↔
      ShownIn first token ∨ ShownIn second token := by
  simp only [ShownIn, List.mem_append, or_and_right, exists_or]

@[simp]
theorem shownIn_cons {text : String} {rest : List String} :
    ShownIn (text :: rest) token ↔
      token <:+: Json.escape text ∨ ShownIn rest token := by
  simp only [ShownIn, List.mem_cons, or_and_right, exists_or, exists_eq_left]

theorem shownIn_congr {first second : List String}
    (hsame : ∀ text, text ∈ first ↔ text ∈ second) :
    ShownIn first token ↔ ShownIn second token := by
  simp only [ShownIn, hsame]

@[simp]
theorem shownIn_toList {text : Option String} :
    ShownIn text.toList token ↔ ∃ kept ∈ text, token <:+: Json.escape kept := by
  cases text <;> simp

theorem TokenShaped.infix_dumps_iff (htoken : TokenShaped alphanumeric token)
    (floats : Json.FloatRepr) (document : Json) :
    token <:+: (Json.dumps floats document).toList ↔
      ShownIn document.texts token := by
  apply Json.infix_dumps_iff htoken.not_mem.2.2
  obtain ⟨c, hc, htelling⟩ := htoken.exists_telling
  refine ⟨c, hc, fun hplain => ?_⟩
  have hplainChars : Json.plainChars.any isTelling = false := by
    decide +kernel
  exact List.any_eq_false.mp hplainChars c hplain htelling

/-- The texts the program itself puts into a bundle: the keys, and the values it
chooses from. -/
def programTexts : List String :=
  ["timestamp", "state", "trigger_reason", "observation", "restart_count_24h",
    "last_restart", "restart_attempted", "http", "logger_healthy",
    "logger_stale", "logger_detail", "database_healthy",
    "teslamate_container_running", "log_signals", "category", "status_code",
    "redirect_target", "elapsed_ms", "error", "detail", "checked_at",
    "auth_refresh_failing", "auth_lost", "database_failure",
    "token_decryption_failure", "matches", "teslamate", "database",
    "log_classification", "counts", "examples", "lines_scanned", "exists",
    "running", "status", "health", "restart_count", "oom_killed", "exit_code",
    "started_at", "finished_at", "container_id", "container_name",
    "compose_service", "healthy", "source", "container"]

theorem not_shown_programTexts (htoken : TokenShaped alphanumeric token) :
    ∀ key ∈ programTexts, ¬token <:+: Json.escape key := by
  have hfree : ∀ key ∈ programTexts, tokenFree (Json.escape key) = true := by
    decide +kernel
  exact fun key hkey => htoken.not_infix (hfree key hkey)

theorem not_shown_value (htoken : TokenShaped alphanumeric token) :
    (∀ state : State, ¬token <:+: Json.escape state.value) ∧
      ∀ category : HttpCategory, ¬token <:+: Json.escape category.value := by
  constructor
  · intro state
    refine htoken.not_infix ?_
    cases state <;> decide +kernel
  · intro category
    refine htoken.not_infix ?_
    cases category <;> decide +kernel

/-- JSON writes the character as it is, and it tells of no token. -/
def isMute (c : Char) : Bool :=
  Json.escapeChar c == [c] && !isTelling c

theorem TokenShaped.not_shown_of_mute (htoken : TokenShaped alphanumeric token)
    {text : String} (hmute : text.toList.all isMute = true) :
    ¬token <:+: Json.escape text := by
  have hwritten : ∀ chars : List Char, chars.all isMute = true →
      chars.flatMap Json.escapeChar = chars ∧ chars.any isTelling = false := by
    intro chars hchars
    induction chars with
    | nil => exact ⟨rfl, rfl⟩
    | cons c rest ih =>
        rw [List.all_cons, Bool.and_eq_true, isMute, Bool.and_eq_true,
          beq_iff_eq, Bool.not_eq_true'] at hchars
        obtain ⟨hrest, hsilent⟩ := ih hchars.2
        rw [List.flatMap_cons, hchars.1.1, hrest, List.any_cons, hchars.1.2,
          hsilent]
        exact ⟨rfl, rfl⟩
  obtain ⟨hsame, hsilent⟩ := hwritten text.toList hmute
  obtain ⟨c, hc, htelling⟩ := htoken.exists_telling
  intro hpart
  rw [Json.escape, hsame] at hpart
  exact List.any_eq_false.mp hsilent c (hpart.subset hc) htelling

theorem mute_append {first second : String} :
    (first ++ second).toList.all isMute = true ↔
      first.toList.all isMute = true ∧ second.toList.all isMute = true := by
  rw [String.toList_append, List.all_append, Bool.and_eq_true]

theorem mute_toString (n : Nat) : (toString n).toList.all isMute = true := by
  have hcodes : ∀ code : Fin 0x3a, 0x30 ≤ code.val →
      isMute (Char.ofNat code.val) = true := by
    decide +kernel
  rw [List.all_eq_true]
  intro c hc
  rw [Nat.toString_eq_repr, Nat.toList_repr] at hc
  obtain ⟨hlow, hhigh⟩ := Char.isDigit_iff_toNat.mp
    (Nat.isDigit_of_mem_toDigits (by decide) (by decide) hc)
  rw [← Char.ofNat_toNat c]
  exact hcodes ⟨c.toNat, Nat.lt_succ_of_le hhigh⟩ hlow

theorem mute_zeroPadded (width value : Nat) :
    (PyText.zeroPadded width value).toList.all isMute = true := by
  rw [PyText.zeroPadded, mute_append]
  refine ⟨?_, mute_toString value⟩
  rw [String.toList_ofList, List.all_eq_true]
  intro c hc
  rw [List.eq_of_mem_replicate hc]
  decide +kernel

theorem mute_isoFormat (micros : Int) :
    (PyTime.isoFormat micros).toList.all isMute = true := by
  have hfixed : ["-", "T", ":", ".", "+00:00", ""].all
      (fun text => text.toList.all isMute) = true := by
    decide +kernel
  simp only [List.all_cons, List.all_nil, Bool.and_eq_true, and_true] at hfixed
  unfold PyTime.isoFormat
  dsimp only
  split
  · simp only [mute_append, mute_zeroPadded, hfixed, and_self]
  · simp only [mute_append, mute_zeroPadded, hfixed, and_self]

/-- The time of the last restart is no token. -/
theorem not_shown_lastRestart (htoken : TokenShaped alphanumeric token)
    {restarts : RestartManager} {lastRestart : Option String}
    (hlast : restarts.lastRestartIso = .ok lastRestart) :
    ¬ShownIn lastRestart.toList token := by
  rw [shownIn_toList]
  rintro ⟨text, hkept, hshown⟩
  obtain rfl := Option.mem_def.mp hkept
  refine htoken.not_shown_of_mute ?_ hshown
  unfold RestartManager.lastRestartIso at hlast
  cases hrecord : restarts.lastRestart with
  | none =>
      rw [hrecord] at hlast
      cases hlast
  | some record =>
      rw [hrecord] at hlast
      dsimp only at hlast
      cases hstamp : record.atTime with
      | finite seconds =>
          rw [hstamp, PyTime.isoFromTimestamp] at hlast
          by_cases hyear :
              PyTime.Representable (PyTime.microseconds seconds)
          · rw [if_pos hyear] at hlast
            obtain rfl := Option.some.inj (Except.ok.inj hlast)
            exact mute_isoFormat _
          · rw [if_neg hyear] at hlast
            split at hlast
            · cases hlast
            · split at hlast <;> cases hlast
      | nan => rw [hstamp] at hlast; cases hlast
      | posInf => rw [hstamp] at hlast; cases hlast
      | negInf => rw [hstamp] at hlast; cases hlast

theorem not_mem_parentheses (htoken : TokenShaped alphanumeric token) :
    '(' ∉ token ∧ ')' ∉ token := by
  have havoid : ∀ s ∈ redactions, s.pattern.Avoids '(' ∧
      s.pattern.Avoids ')' := by
    decide
  obtain ⟨s, hs, hderives⟩ := htoken.derives
  exact ⟨Regex.not_mem_of_avoids (havoid s hs).1 hderives,
    Regex.not_mem_of_avoids (havoid s hs).2 hderives⟩

/-- What a reason quotes stands between parentheses, which no token reaches
over. -/
theorem shown_of_parenthesised (htoken : TokenShaped alphanumeric token)
    {lead text : String}
    (hopening : (Json.escape lead).getLast? = some '(')
    (hlead : tokenFree (Json.escape lead) = true)
    (hshown : token <:+: Json.escape (lead ++ text ++ ")")) :
    token <:+: Json.escape text := by
  obtain ⟨front, hfront⟩ := List.getLast?_eq_some_iff.mp hopening
  obtain ⟨hopen, hclose⟩ := not_mem_parentheses htoken
  have hclosing : Json.escape ")" = [')'] := by decide
  have hwritten : Json.escape (lead ++ text ++ ")") =
      front ++ '(' :: (Json.escape text ++ [')']) := by
    have happend : ∀ first second : String, Json.escape (first ++ second) =
        Json.escape first ++ Json.escape second := by
      intro first second
      rw [Json.escape, String.toList_append, List.flatMap_append]
      rfl
    rw [happend, happend, hfront, hclosing, List.append_assoc,
      List.append_assoc, List.singleton_append]
  rw [hwritten] at hshown
  rcases (PyText.infix_append_cons hopen _ _).mp hshown with hbefore | hafter
  · refine absurd (hbefore.trans ?_) (htoken.not_infix hlead)
    rw [hfront]
    exact (List.prefix_append front ['(']).isInfix
  · rcases (PyText.infix_append_cons hclose _ _).mp hafter with htext | hnil
    · exact htext
    · have hempty := List.eq_nil_of_infix_nil hnil
      have hlength := htoken.length
      rw [hempty] at hlength
      cases hlength

theorem shown_of_quoted (htoken : TokenShaped alphanumeric token)
    {text : Option String} (hshown : token <:+: Json.escape (PyText.orNone text)) :
    ShownIn text.toList token := by
  cases text with
  | none => exact absurd hshown (htoken.not_infix (by decide +kernel))
  | some kept => exact shownIn_toList.mpr ⟨kept, rfl, hshown⟩

/-- The reason of an evaluation is a text of the program, or quotes the result of
the HTTP check or the detail of the logger health. -/
theorem shown_of_reason (htoken : TokenShaped alphanumeric token)
    {observation : Observation}
    (hshown : token <:+: Json.escape (evaluate observation).reason) :
    ShownIn (observation.http.texts ++ [observation.loggerDetail]) token := by
  have hdetail : ShownIn observation.http.detail.toList token →
      ShownIn (observation.http.texts ++ [observation.loggerDetail]) token := by
    intro hdetail
    simp only [HttpResult.texts, shownIn_append, hdetail, true_or, or_true]
  have hlogger : token <:+: Json.escape observation.loggerDetail →
      ShownIn (observation.http.texts ++ [observation.loggerDetail]) token := by
    intro hlogger
    simp only [shownIn_append, shownIn_cons, hlogger, true_or, or_true]
  unfold evaluate at hshown
  split at hshown
  · exact absurd hshown (htoken.not_infix (by decide +kernel))
  split at hshown
  · exact absurd hshown (htoken.not_infix (by decide +kernel))
  split at hshown
  · exact hdetail (shown_of_quoted htoken (shown_of_parenthesised htoken
      (by decide) (by decide +kernel) hshown))
  split at hshown
  · have herror := shown_of_quoted htoken (shown_of_parenthesised htoken
      (by decide) (by decide +kernel) hshown)
    simp only [HttpResult.texts, shownIn_append, herror, true_or, or_true]
  split at hshown
  · refine absurd hshown (htoken.not_shown_of_mute ?_)
    rw [mute_append, mute_append]
    refine ⟨⟨by decide +kernel, ?_⟩, by decide +kernel⟩
    cases observation.http.statusCode with
    | none => decide +kernel
    | some code => exact mute_toString code
  split at hshown
  · exact absurd hshown (htoken.not_infix (by decide +kernel))
  split at hshown
  · exact absurd hshown (htoken.not_infix (by decide +kernel))
  split at hshown
  · exact hlogger (shown_of_parenthesised htoken (by decide)
      (by decide +kernel) hshown)
  split at hshown
  · exact hlogger (shown_of_parenthesised htoken (by decide)
      (by decide +kernel) hshown)
  split at hshown
  · exact hdetail (shown_of_quoted htoken (shown_of_parenthesised htoken
      (by decide) (by decide +kernel) hshown))
  · exact absurd hshown (htoken.not_infix (by decide +kernel))

theorem shownIn_countsDict (counts : List (String × Nat)) :
    ShownIn (countsDict counts).texts token ↔
      ShownIn (counts.map Prod.fst) token :=
  shownIn_congr fun _ => mem_texts_countsDict

theorem shownIn_httpResult (htoken : TokenShaped alphanumeric token)
    (result : HttpResult) :
    ShownIn result.asDict.texts token ↔ ShownIn result.texts token := by
  have hkeys := not_shown_programTexts htoken
  simp only [programTexts, List.forall_mem_cons] at hkeys
  have hvalue := (not_shown_value htoken).2 result.category
  obtain ⟨category, statusCode, redirectTarget, elapsedMs, error, detail,
    checkedAt⟩ := result
  cases statusCode <;> cases redirectTarget <;> cases elapsedMs <;>
    cases error <;> cases detail <;>
    simp [HttpResult.asDict, HttpResult.texts, Json.texts, Json.textsMembers,
      hkeys, hvalue]

/-- What an observation shows: the result of the HTTP check, the detail of the
logger health, and the categories of its signals. -/
theorem shownIn_observation (htoken : TokenShaped alphanumeric token)
    (observation : Observation) :
    ShownIn observation.asDict.texts token ↔
      ShownIn observation.http.texts token ∨
        token <:+: Json.escape observation.loggerDetail ∨
        ∃ signals ∈ observation.logSignals,
          ShownIn (signals.categoryMatches.map Prod.fst) token := by
  have hkeys := not_shown_programTexts htoken
  simp only [programTexts, List.forall_mem_cons] at hkeys
  have hhttp := shownIn_httpResult htoken observation.http
  obtain ⟨http, loggerHealthy, loggerStale, loggerDetail, databaseHealthy,
    running, _ | signals⟩ := observation
  · cases loggerHealthy <;> cases databaseHealthy <;> cases running <;>
      simp [Observation.asDict, Json.texts, Json.textsMembers, hkeys, hhttp]
  · cases loggerHealthy <;> cases databaseHealthy <;> cases running <;>
      simp [Observation.asDict, LogSignals.asDict, Json.texts,
        Json.textsMembers, hkeys, hhttp, shownIn_countsDict]

theorem shownIn_status (htoken : TokenShaped alphanumeric token)
    {status : ContainerStatus} {dict : Json}
    (hdict : status.asDict = .ok dict) :
    ShownIn dict.texts token ↔ ShownIn status.texts token := by
  have hkeys := not_shown_programTexts htoken
  simp only [programTexts, List.forall_mem_cons] at hkeys
  obtain ⟨found, running, state, health, restartCount, oomKilled, exitCode,
    startedAt, finishedAt, _ | ref, error⟩ := status
  · obtain rfl := Except.ok.inj hdict
    cases running <;> cases oomKilled <;> cases error <;>
      simp [ContainerStatus.texts, Json.texts, Json.textsMembers, hkeys]
  · obtain ⟨containerId, hshort, hdict⟩ :=
      bind_eq_ok.mp (show ref.shortId >>= _ = _ from hdict)
    obtain rfl := Except.ok.inj hdict
    cases running <;> cases oomKilled <;> cases error <;>
      simp [ContainerStatus.texts, ContainerRef.texts, hshort,
        Except.toOption, Json.texts, Json.textsMembers, hkeys]

theorem checkDatabase_status {status : String → Except PyError ContainerStatus}
    {connect : String → Nat → Nat → ConnectAnswer} {health : DatabaseHealth}
    (hcheck : checkDatabase config status connect = .ok health) :
    status config.databaseContainer = .ok health.status ∧
      health.source ∈ ["docker", "tcp", "healthcheck"] := by
  unfold checkDatabase at hcheck
  obtain ⟨found, hstatus, hcheck⟩ := bind_eq_ok.mp hcheck
  dsimp only at hcheck
  split at hcheck
  · obtain rfl := Except.ok.inj hcheck
    exact ⟨hstatus, by simp⟩
  split at hcheck
  · obtain rfl := Except.ok.inj hcheck
    exact ⟨hstatus, by simp⟩
  split at hcheck
  · obtain ⟨_, _, hcheck⟩ := bind_eq_ok.mp hcheck
    obtain rfl := Except.ok.inj hcheck
    exact ⟨hstatus, by simp⟩
  split at hcheck
  · obtain rfl := Except.ok.inj hcheck
    exact ⟨hstatus, by simp⟩
  split at hcheck
  · obtain rfl := Except.ok.inj hcheck
    exact ⟨hstatus, by simp⟩
  · obtain rfl := Except.ok.inj hcheck
    exact ⟨hstatus, by simp⟩

theorem shownIn_database (htoken : TokenShaped alphanumeric token)
    {health : DatabaseHealth} {dict : Json}
    (hsource : health.source ∈ ["docker", "tcp", "healthcheck"])
    (hdict : health.asDict = .ok dict) :
    ShownIn dict.texts token ↔
      ShownIn health.status.texts token ∨
        token <:+: Json.escape health.detail := by
  have hkeys := not_shown_programTexts htoken
  simp only [programTexts, List.forall_mem_cons] at hkeys
  have hfixed : ∀ text ∈ ["docker", "tcp", "healthcheck"],
      tokenFree (Json.escape text) = true := by
    decide +kernel
  have hnoSource := htoken.not_infix (hfixed _ hsource)
  unfold DatabaseHealth.asDict at hdict
  obtain ⟨container, hcontainer, hdict⟩ := bind_eq_ok.mp hdict
  obtain rfl := Except.ok.inj hdict
  rw [← shownIn_status htoken hcontainer]
  cases health.healthy <;>
    simp [Json.texts, Json.textsMembers, hkeys, hnoSource, or_comm]

theorem mem_hitCategories {category text : String} :
    category ∈ hitCategories classifier text ↔
      ∃ line, classifier.firstHit category text = some line := by
  rw [hitCategories, List.mem_filter, Option.isSome_iff_exists]
  refine and_iff_right_of_imp ?_
  rintro ⟨line, hfirst⟩
  have hhit : classifier.isHit category line = true :=
    List.find?_some hfirst
  obtain ⟨_, entry, hentry, rfl, _⟩ := of_decide_eq_true hhit
  exact List.mem_map_of_mem hentry

theorem mem_categories_classify {category text : String} :
    category ∈ (classifier.classify text).examples.map Prod.fst ↔
      category ∈ hitCategories classifier text := by
  rw [mem_hitCategories, List.mem_map]
  constructor
  · rintro ⟨⟨_, excerpt⟩, hmem, rfl⟩
    obtain ⟨line, hfirst, _⟩ :=
      (LogClassifier.mem_examples_classify text excerpt).mp hmem
    exact ⟨line, hfirst⟩
  · rintro ⟨line, hfirst⟩
    exact ⟨(category, truncate line),
      (LogClassifier.mem_examples_classify text _).mpr ⟨line, hfirst, rfl⟩, rfl⟩

/-- The categories a classification counts, and those it has an example of. -/
theorem shownIn_categories (text : String) :
    (ShownIn ((classifier.classify text).counts.map Prod.fst) token ↔
      ShownIn (hitCategories classifier text) token) ∧
    (ShownIn ((classifier.classify text).examples.map Prod.fst) token ↔
      ShownIn (hitCategories classifier text) token) := by
  rw [LogClassifier.keys_classify]
  exact ⟨shownIn_congr fun _ => mem_categories_classify,
    shownIn_congr fun _ => mem_categories_classify⟩

/-- The examples that are kept are the excerpts of the first lines. -/
theorem shownIn_examples (text : String) :
    ShownIn ((classifier.classify text).examples.map Prod.snd) token ↔
      InExcerpt classifier text token := by
  constructor
  · rintro ⟨_, hexcerpt, htoken⟩
    obtain ⟨⟨category, _⟩, hmem, rfl⟩ := List.mem_map.mp hexcerpt
    obtain ⟨line, hfirst, hline⟩ :=
      (LogClassifier.mem_examples_classify text _).mp hmem
    dsimp only at htoken
    rw [hline] at htoken
    exact ⟨category, line, hfirst, htoken⟩
  · rintro ⟨category, line, hfirst, htoken⟩
    exact ⟨truncate line, List.mem_map.mpr ⟨(category, truncate line),
      (LogClassifier.mem_examples_classify text _).mpr ⟨line, hfirst, rfl⟩,
      rfl⟩, htoken⟩

/-- The log of a cycle is classified for the docker state and for the signals
alike, or no line of it counts for anything. -/
theorem classified_or_silent {classification : Option Classification}
    (hclassification : gatherClassification config classifier answers =
      .ok classification) :
    (classification =
        some (classifier.classify (analysedLog config answers)) ∧
      gatherSignals config classifier answers = .ok (some (classifier.signals
        (classifier.classify (analysedLog config answers))))) ∨
    (classification = none ∧
      gatherSignals config classifier answers = .ok none ∧
      ∀ category, classifier.firstHit category (analysedLog config answers) =
        none) := by
  unfold gatherClassification at hclassification
  unfold gatherSignals
  by_cases hempty : classifier.isEmpty = true
  · rw [if_pos hempty] at hclassification ⊢
    refine .inr ⟨(Except.ok.inj hclassification).symm, rfl, ?_⟩
    intro category
    rw [LogClassifier.firstHit, List.find?_eq_none]
    intro line _ hhit
    obtain ⟨_, entry, hentry, _, hany⟩ := of_decide_eq_true hhit
    obtain ⟨pattern, hpattern, _⟩ := List.any_eq_true.mp hany
    rw [LogClassifier.isEmpty, Bool.not_eq_true', List.any_eq_false] at hempty
    have hnothing := hempty entry hentry
    rw [Bool.not_eq_true', Bool.not_eq_false, List.isEmpty_iff] at hnothing
    rw [hnothing] at hpattern
    cases hpattern
  · rw [if_neg hempty] at hclassification ⊢
    obtain ⟨text, htext, hclassification⟩ := bind_eq_ok.mp hclassification
    obtain rfl := Except.ok.inj hclassification
    have hlog : analysedLog config answers = text := by
      rw [analysedLog, htext]
    rw [hlog, htext]
    by_cases hblank : text = ""
    · subst hblank
      exact .inr ⟨rfl, rfl, fun _ => rfl⟩
    · rw [if_neg hblank]
      refine .inl ⟨rfl, ?_⟩
      change Except.ok (if text = "" then none else some _) = _
      rw [if_neg hblank]

theorem not_shown_of_silent {text : String}
    (hsilent : ∀ category, classifier.firstHit category text = none) :
    ¬InExcerpt classifier text token ∧
      ¬ShownIn (hitCategories classifier text) token := by
  constructor
  · rintro ⟨category, line, hfirst, _⟩
    rw [hsilent] at hfirst
    cases hfirst
  · rintro ⟨category, hmem, _⟩
    obtain ⟨line, hfirst⟩ := mem_hitCategories.mp hmem
    rw [hsilent] at hfirst
    cases hfirst

theorem gatherDockerState_parts {dockerState : DockerState}
    (hdocker : gatherDockerState config classifier answers = .ok dockerState) :
    ∃ status health, answers.status config.teslamateContainer = .ok status ∧
      status.asDict = .ok dockerState.teslamate ∧
      checkDatabase config answers.status answers.connect = .ok health ∧
      health.asDict = .ok dockerState.database ∧
      gatherClassification config classifier answers =
        .ok dockerState.logClassification := by
  unfold gatherDockerState at hdocker
  obtain ⟨status, hstatus, hdocker⟩ := bind_eq_ok.mp hdocker
  obtain ⟨health, hhealth, hdocker⟩ := bind_eq_ok.mp hdocker
  obtain ⟨_, hteslamate, hdocker⟩ := bind_eq_ok.mp hdocker
  obtain ⟨_, hdatabase, hdocker⟩ := bind_eq_ok.mp hdocker
  obtain ⟨_, hclassification, hdocker⟩ := bind_eq_ok.mp hdocker
  obtain rfl := Except.ok.inj hdocker
  exact ⟨status, health, hstatus, hteslamate, hhealth, hdatabase,
    hclassification⟩

/-- What `docker-state.json` shows. -/
theorem shownIn_dockerState (htoken : TokenShaped alphanumeric token)
    {dockerState : DockerState}
    (hdocker : gatherDockerState config classifier answers = .ok dockerState) :
    ShownIn dockerState.asDict.texts token ↔
      InExcerpt classifier (analysedLog config answers) token ∨
        ShownIn (containerTexts config answers) token ∨
        ShownIn (hitCategories classifier (analysedLog config answers))
          token := by
  have hkeys := not_shown_programTexts htoken
  simp only [programTexts, List.forall_mem_cons] at hkeys
  obtain ⟨status, health, hstatus, hteslamate, hhealth, hdatabase,
    hclassification⟩ := gatherDockerState_parts hdocker
  obtain ⟨hdatabaseStatus, hsource⟩ := checkDatabase_status hhealth
  have hcontainers : ShownIn (containerTexts config answers) token ↔
      ShownIn dockerState.teslamate.texts token ∨
        ShownIn dockerState.database.texts token := by
    rw [shownIn_status htoken hteslamate,
      shownIn_database htoken hsource hdatabase]
    simp [containerTexts, hstatus, hdatabaseStatus, hhealth, Except.toOption]
  rw [hcontainers]
  obtain ⟨teslamate, database, classification⟩ := dockerState
  rcases classified_or_silent hclassification with
    ⟨hkept, _⟩ | ⟨hkept, _, hsilent⟩
  · obtain ⟨hcounts, hexamples⟩ :=
      @shownIn_categories classifier token (analysedLog config answers)
    have hexcerpts :=
      @shownIn_examples classifier token (analysedLog config answers)
    have hexamplesDict : ∀ examples : List (String × String),
        ShownIn (Json.textsMembers (examples.map
          fun entry => (entry.1, Json.str entry.2))) token ↔
        ShownIn (examples.map Prod.fst ++ examples.map Prod.snd) token :=
      fun _ => shownIn_congr fun _ => mem_textsMembers_examples.trans
        List.mem_append.symm
    dsimp only at hkept
    subst hkept
    simp [DockerState.asDict, Classification.asDict, Json.texts,
      Json.textsMembers, hkeys, shownIn_countsDict, hexamplesDict, hcounts,
      hexamples, hexcerpts]
    grind
  · dsimp only at hkept
    subst hkept
    obtain ⟨hnoExcerpt, hnoCategory⟩ :=
      @not_shown_of_silent classifier token _ hsilent
    simp [DockerState.asDict, Json.texts, Json.textsMembers, hkeys,
      hnoExcerpt, hnoCategory]

/-- What `summary.json` shows. -/
theorem shownIn_summary (htoken : TokenShaped alphanumeric token)
    {w : Watchdog} {request : CaptureRequest} (micros : Int)
    (hcaptured : request ∈
      captures (cycleTrace config classifier w answers)) :
    ShownIn (DiagnosticsWriter.body (PyTime.isoFormat micros) request).texts
        token ↔
      ShownIn (answers.check.toOption.elim [] HttpResult.texts) token ∨
        token <:+: Json.escape answers.loggerHealth.detail ∨
        ShownIn (hitCategories classifier (analysedLog config answers))
          token := by
  obtain ⟨observation, transition, dockerState, lastRestart, hgather, _,
    hmoved, hdocker, hlast, rfl⟩ :=
    request_of_captures config classifier answers hcaptured
  have hfrom := gatheredFrom config classifier answers hgather
  have hkeys := not_shown_programTexts htoken
  simp only [programTexts, List.forall_mem_cons] at hkeys
  have hstate := (not_shown_value htoken).1 transition.current
  have htime := htoken.not_shown_of_mute (mute_isoFormat micros)
  have hlastRestart := not_shown_lastRestart htoken hlast
  have hreason : token <:+: Json.escape transition.reason →
      ShownIn observation.http.texts token ∨
        token <:+: Json.escape observation.loggerDetail := by
    intro hshown
    rw [(StateMachine.transition_of_step_some hmoved).1] at hshown
    simpa using shown_of_reason htoken hshown
  have hsignals : (∃ signals ∈ observation.logSignals,
      ShownIn (signals.categoryMatches.map Prod.fst) token) ↔
      ShownIn (hitCategories classifier (analysedLog config answers))
        token := by
    obtain ⟨_, _, _, _, _, _, hclassification⟩ :=
      gatherDockerState_parts hdocker
    rcases classified_or_silent hclassification with
      ⟨_, hsignals⟩ | ⟨_, hsignals, hsilent⟩
    · rw [← Except.ok.inj (hsignals.symm.trans hfrom.signals),
        ← (shownIn_categories _).1]
      simp [LogClassifier.signals]
    · rw [← Except.ok.inj (hsignals.symm.trans hfrom.signals)]
      simpa using (not_shown_of_silent hsilent).2
  have hobservation := shownIn_observation htoken observation
  rw [hsignals, hfrom.loggerDetail] at hobservation
  rw [hfrom.loggerDetail] at hreason
  have hhttp : answers.check.toOption.elim [] HttpResult.texts =
      observation.http.texts := by
    rw [hfrom.http]
    rfl
  rw [hhttp]
  have hbody : ShownIn (DiagnosticsWriter.body (PyTime.isoFormat micros) (.of
      config answers w.restarts (some dockerState) transition observation
        lastRestart)).texts token ↔
      token <:+: Json.escape transition.reason ∨
        ShownIn observation.asDict.texts token := by
    cases lastRestart with
    | none =>
        simp [DiagnosticsWriter.body, CaptureRequest.summary,
          CaptureRequest.of, Json.texts, Json.textsMembers, hkeys, hstate,
          htime]
    | some time =>
        have hnoTime : ¬token <:+: Json.escape time := by
          simpa using hlastRestart
        simp [DiagnosticsWriter.body, CaptureRequest.summary,
          CaptureRequest.of, Json.texts, Json.textsMembers, hkeys, hstate,
          htime, hnoTime]
  rw [hbody, hobservation, or_iff_right_of_imp]
  exact fun hshown => (hreason hshown).imp_right .inl

end

end TeslamateWatchdog

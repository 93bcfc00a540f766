/-
Which token-shaped values of the logs reach an incident bundle.  The raw logs
are redacted, but the examples of the classification are written as they are.
-/
import TeslamateWatchdog.BundleTexts

namespace TeslamateWatchdog

open Foundation

/-- The raw logs that a bundle is handed. -/
def rawLogs (config : Config) (answers : CycleAnswers) : List String :=
  [RecoveryController.safeLogs config answers config.teslamateContainer,
    RecoveryController.safeLogs config answers config.databaseContainer]

/-- The log texts of a cycle. -/
def logTexts (config : Config) (answers : CycleAnswers) : List String :=
  analysedLog config answers :: rawLogs config answers

/-- A token-shaped part of a log. -/
def LogToken (alphanumeric : Char → Bool) (config : Config)
    (answers : CycleAnswers) (token : List Char) : Prop :=
  TokenShaped alphanumeric token ∧
    ∃ text ∈ logTexts config answers, token <:+: text.toList

/-- The token is in no excerpt, in no text of an answer, and in the raw logs never
directly after a word character. -/
structure Spared (alphanumeric : Char → Bool) (config : Config)
    (classifier : LogClassifier) (answers : CycleAnswers) (token : List Char) :
    Prop where
  excerpts : ¬InExcerpt classifier (analysedLog config answers) token
  answered : ¬ShownIn (answeredTexts config classifier answers) token
  apart : ∀ text ∈ rawLogs config answers, ∀ c, isWord alphanumeric c = true →
    ¬(c :: token) <:+: text.toList

section

variable {config : Config} {classifier : LogClassifier} {answers : CycleAnswers}
  {alphanumeric : Char → Bool} {token : List Char}

/-- The ways a token gets into a bundle. -/
theorem token_in_bundle_iff (htoken : TokenShaped alphanumeric token)
    (floats : Json.FloatRepr) (micros : Int) {w : Watchdog}
    {request : CaptureRequest}
    (hcaptured : request ∈
      captures (cycleTrace config classifier w answers)) :
    (∃ file ∈ DiagnosticsWriter.bundle alphanumeric floats
        (PyTime.isoFormat micros) request, token <:+: file.2.toList) ↔
      InExcerpt classifier (analysedLog config answers) token ∨
        ShownIn (answeredTexts config classifier answers) token ∨
        ∃ text ∈ rawLogs config answers,
          Overlooked alphanumeric text token := by
  have hsummary := shownIn_summary htoken micros hcaptured
  obtain ⟨_, _, dockerState, _, _, _, _, hdocker, _, rfl⟩ :=
    request_of_captures config classifier answers hcaptured
  have hdockerTexts := shownIn_dockerState htoken hdocker
  simp only [DiagnosticsWriter.bundle, List.mem_cons, List.not_mem_nil,
    or_false, exists_eq_or_imp, exists_eq_left, htoken.infix_dumps_iff,
    infix_redact_iff htoken, hsummary, rawLogs, answeredTexts, shownIn_append,
    shownIn_cons]
  rw [show DiagnosticsWriter.dockerState _ = dockerState.asDict from rfl,
    hdockerTexts]
  simp only [CaptureRequest.of]
  grind

/-- A bundle is free of the tokens of the logs when each of them is spared; none
may stand in the excerpt of the first line of a category or in an answer. -/
theorem bundle_clean_of_spared (alphanumeric : Char → Bool)
    (floats : Json.FloatRepr) (micros : Int) (config : Config)
    (classifier : LogClassifier) (w : Watchdog) (answers : CycleAnswers)
    (request : CaptureRequest)
    (hcaptured : request ∈
      captures (cycleTrace config classifier w answers)) :
    ((∀ token, LogToken alphanumeric config answers token →
        Spared alphanumeric config classifier answers token) →
      ∀ token, LogToken alphanumeric config answers token →
        ∀ file ∈ DiagnosticsWriter.bundle alphanumeric floats
          (PyTime.isoFormat micros) request, ¬token <:+: file.2.toList) ∧
    ((∀ token, LogToken alphanumeric config answers token →
        ∀ file ∈ DiagnosticsWriter.bundle alphanumeric floats
          (PyTime.isoFormat micros) request, ¬token <:+: file.2.toList) →
      ∀ token, LogToken alphanumeric config answers token →
        ¬InExcerpt classifier (analysedLog config answers) token ∧
        ¬ShownIn (answeredTexts config classifier answers) token) := by
  constructor
  · intro hspared token hlog file hfile hpart
    obtain ⟨hexcerpts, hanswered, hapart⟩ := hspared token hlog
    rcases (token_in_bundle_iff hlog.1 floats micros hcaptured).mp
      ⟨file, hfile, hpart⟩ with hexcerpt | hshown | ⟨text, htext, hoverlooked⟩
    · exact hexcerpts hexcerpt
    · exact hanswered hshown
    · obtain ⟨c, hword, hafter⟩ := hoverlooked.afterWord hlog.1
      exact hapart text htext c hword hafter
  · intro hclean token hlog
    have hnowhere : ¬∃ file ∈ DiagnosticsWriter.bundle alphanumeric floats
        (PyTime.isoFormat micros) request, token <:+: file.2.toList := by
      rintro ⟨file, hfile, hpart⟩
      exact hclean token hlog file hfile hpart
    rw [token_in_bundle_iff hlog.1 floats micros hcaptured, not_or, not_or]
      at hnowhere
    exact ⟨hnowhere.1, hnowhere.2.1⟩

end

/-- TeslaMate has stopped, and both of its logs hold the text. -/
def CycleAnswers.stoppedLogging (time : ℚ) (text : String) : CycleAnswers :=
  { stopped time with
    logs := fun _ _ => .ok text
    diagnosticLogs := fun _ _ => .ok text }

def sampleToken : String := "eyJhbGciOiJIUzI1NiJ9.PAYLOADPART.SIGPART"

/-- A line of no category, with a token in it. -/
def CycleAnswers.refreshFailureLogged : CycleAnswers :=
  .stoppedLogging 60 ("Token refresh failed " ++ sampleToken)

/-- TeslaMate says that it is signed out, in a line with a token in it. -/
def CycleAnswers.signedOutLogged : CycleAnswers :=
  .stoppedLogging 60 ("Error / not_signed_in " ++ sampleToken)

theorem bundle_clean_refreshFailure :
    ∃ request ∈ captures (cycleTrace .fromEmptyEnv .phrases
        (.build ⟨[], .missing⟩) .refreshFailureLogged),
      ∀ token, LogToken (fun _ => false) .fromEmptyEnv .refreshFailureLogged
          token →
        ∀ file ∈ DiagnosticsWriter.bundle (fun _ => false) noFloats
            (PyTime.isoFormat 0) request,
          ¬token <:+: file.2.toList := by
  have hcaptures : captures (cycleTrace .fromEmptyEnv .phrases
      (.build ⟨[], .missing⟩) .refreshFailureLogged) ≠ [] := by
    rw [← List.length_pos_iff]
    decide +kernel
  obtain ⟨request, hrequest⟩ := List.exists_mem_of_ne_nil _ hcaptures
  refine ⟨request, hrequest, (bundle_clean_of_spared _ noFloats 0 _ _ _ _
    request hrequest).1 ?_⟩
  rintro token ⟨htoken, _⟩
  have htexts : ∀ text ∈ answeredTexts .fromEmptyEnv .phrases
      .refreshFailureLogged, tokenFree (Json.escape text) = true := by
    decide +kernel
  have hlogs : ∀ text ∈ rawLogs .fromEmptyEnv .refreshFailureLogged,
      tokenFreeInWords text.toList = true := by
    decide +kernel
  refine ⟨?_, ?_, fun text htext c hword =>
    htoken.not_infix_afterWord (hlogs text htext) hword⟩
  · rintro ⟨category, line, hfirst, _⟩
    have hlines : ∀ line ∈ PyText.splitLines
        ("Token refresh failed " ++ sampleToken),
        ∀ entry ∈ LogClassifier.phrases.patterns,
          entry.2.any (· line) = false := by
      decide +kernel
    have hhit : LogClassifier.phrases.isHit category line = true :=
      List.find?_some hfirst
    obtain ⟨_, entry, hentry, _, hany⟩ := of_decide_eq_true hhit
    rw [hlines line (List.mem_of_find?_eq_some hfirst) entry hentry] at hany
    cases hany
  · rintro ⟨text, htext, hpart⟩
    exact htoken.not_infix (htexts text htext) hpart

/-- The redacted log hides the token, the docker state shows it. -/
theorem token_in_docker_state :
    ¬ ∀ request ∈ captures (cycleTrace .fromEmptyEnv .phrases
        (.build ⟨[], .missing⟩) .signedOutLogged),
      ∀ token, LogToken (fun _ => false) .fromEmptyEnv .signedOutLogged token →
        ∀ file ∈ DiagnosticsWriter.bundle (fun _ => false) noFloats
            (PyTime.isoFormat 0) request,
          ¬token <:+: file.2.toList := by
  intro hclean
  have hcaptures : captures (cycleTrace .fromEmptyEnv .phrases
      (.build ⟨[], .missing⟩) .signedOutLogged) ≠ [] := by
    rw [← List.length_pos_iff]
    decide +kernel
  obtain ⟨request, hrequest⟩ := List.exists_mem_of_ne_nil _ hcaptures
  have hlog : LogToken (fun _ => false) .fromEmptyEnv .signedOutLogged
      sampleToken.toList :=
    ⟨by decide +kernel, _, List.mem_cons_self, by decide +kernel⟩
  have hexcerpt : InExcerpt .phrases
      (analysedLog .fromEmptyEnv .signedOutLogged) sampleToken.toList := by
    refine ⟨"auth_lost", "Error / not_signed_in " ++ sampleToken, ?_, ?_⟩
    · decide +kernel
    · decide +kernel
  obtain ⟨file, hfile, htoken⟩ := (token_in_bundle_iff hlog.1 noFloats 0
    hrequest).mpr (.inl hexcerpt)
  exact hclean request hrequest _ hlog file hfile htoken

end TeslamateWatchdog

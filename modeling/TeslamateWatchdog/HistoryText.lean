/-
The history file as the characters it is made of.  A process can be killed after
any of them; what the next one reads is the history before the record or all of
the history after it, as if the file held whole documents.
-/
import TeslamateWatchdog.Foundation.JsonIntegers
import TeslamateWatchdog.Foundation.JsonRoundTrip
import TeslamateWatchdog.RestartRefinement

namespace TeslamateWatchdog

open Foundation

/-- What reading and parsing the file gives, as far as the interpreter's stack
reaches.  An integer that is too long for `int` raises a ValueError. -/
def HistoryFile.ofText (floats : Json.FloatText) :
    Option (List Char) → HistoryFile
  | none => .missing
  | some text =>
      if Json.HasLongInteger PyText.maxStrDigits text then .unreadable
      else
        match Json.loads floats text with
        | some document => .json document
        | none => .unreadable

/-- The history in memory, and the text on disk. -/
structure TextManager where
  history : List RestartRecord
  file : Option (List Char)
deriving Repr, DecidableEq

/-- The manager on documents that the one on texts stands for. -/
def TextManager.parsed (floats : Json.FloatText) (manager : TextManager) :
    RestartManager :=
  ⟨manager.history, .ofText floats manager.file⟩

/-- The characters one after the other, in a file that is there before the
first. -/
def textWriting (floats : Json.FloatText) :
    FileWriting (Option (List Char)) where
  stages document :=
    let text := (Json.dumps floats.toFloatRepr document).toList
    (List.range (text.length + 1)).map fun length => some (text.take length)
  whole document := some (Json.dumps floats.toFloatRepr document).toList
  ends document := by
    dsimp only
    rw [List.range_succ, List.map_append, List.map_singleton,
      List.getLast?_concat, List.take_length]

namespace TextManager

variable (floats : Json.FloatText)

def point (manager : TextManager) : RecordPoint (Option (List Char)) :=
  ⟨manager.history, manager.file, none⟩

/-- `RestartManager(config)` on the text the data volume holds. -/
def recreate (file : Option (List Char)) : Except PyError TextManager := do
  let history ← RestartManager.load (.ofText floats file)
  return ⟨history, file⟩

/-- The steps of a record. -/
def steps (state : State) (reason : String) (now : ℚ) (manager : TextManager) :
    List RecordStep :=
  RecordStep.ofRecord (textWriting floats) state reason now manager.history

/-- What the event makes of the manager, or raises; a killed record stops after
some of its steps on texts. -/
def play (manager : TextManager) : VolumeEvent → Except PyError TextManager
  | .record state reason now => do
      let _ ← RestartManager.payload
        (RecordStep.recordedHistory state reason now manager.history)
      let saved := RecordStep.after (textWriting floats) state reason now
        manager.point (steps floats state reason now manager).length
      return ⟨saved.history, saved.file⟩
  | .recreate => recreate floats manager.file
  | .crash state reason now reached =>
      recreate floats (RecordStep.after (textWriting floats) state reason now
        manager.point reached).file

def playAll (manager : TextManager) (events : List VolumeEvent) :
    Except PyError TextManager :=
  events.foldlM (play floats) manager

/-- The event on documents: a killed record either has renamed its file or has
not come to that. -/
def parsedEvent (manager : TextManager) : VolumeEvent → VolumeEvent
  | .crash state reason now reached =>
      .crash state reason now
        (if (steps floats state reason now manager).length ≤ reached
          then 5 else 0)
  | event => event

end TextManager

theorem distinct_payload {history : List RestartRecord} {document : Json}
    (hpayload : RestartManager.payload history = .ok document) :
    document.Distinct ∧ document.Enclosed := by
  unfold RestartManager.payload at hpayload
  obtain ⟨entries, hentries, hdocument⟩ := bind_eq_ok.mp hpayload
  obtain rfl := Except.ok.inj hdocument
  refine ⟨Json.distinct_obj.mpr ⟨by simp, ?_⟩, trivial⟩
  rw [List.forall_mem_singleton, Json.distinct_arr]
  intro item hitem
  obtain ⟨record, -, hrecord⟩ := exists_of_mem_mapM hentries hitem
  unfold RestartRecord.asDict at hrecord
  obtain ⟨iso, -, hdict⟩ := bind_eq_ok.mp hrecord
  obtain rfl := Except.ok.inj hdict
  rw [Json.distinct_obj]
  simp

/-- The only numbers in a saved history are its times, which are floats. -/
theorem integerless_payload {history : List RestartRecord} {document : Json}
    (hpayload : RestartManager.payload history = .ok document) :
    document.Integerless := by
  unfold RestartManager.payload at hpayload
  obtain ⟨entries, hentries, hdocument⟩ := bind_eq_ok.mp hpayload
  obtain rfl := Except.ok.inj hdocument
  rw [Json.Integerless, Json.IntegerlessMembers, Json.IntegerlessMembers,
    Json.Integerless, Json.integerlessItems_iff, and_true]
  intro item hitem
  obtain ⟨record, -, hrecord⟩ := exists_of_mem_mapM hentries hitem
  unfold RestartRecord.asDict at hrecord
  obtain ⟨iso, -, hdict⟩ := bind_eq_ok.mp hrecord
  obtain rfl := Except.ok.inj hdict
  simp [Json.Integerless, Json.IntegerlessMembers]

section Simulation

variable {floats : Json.FloatText} {history : List RestartRecord}
  {document : Json} {manager : TextManager}

/-- A saved file is read as the document it was written from. -/
theorem ofText_dumps
    (hpayload : RestartManager.payload history = .ok document) :
    HistoryFile.ofText floats
      (some (Json.dumps floats.toFloatRepr document).toList) =
        .json document := by
  have hshort : ¬Json.HasLongInteger PyText.maxStrDigits
      (Json.dumps floats.toFloatRepr document).toList := by
    rw [Json.dumps_eq_write]
    exact Json.not_hasLongInteger_write floats .indented
      (integerless_payload hpayload) 0
  rw [HistoryFile.ofText, if_neg hshort,
    Json.loads_dumps (distinct_payload hpayload).1]

/-- A saved file that was cut off is not read as a shorter history, but as
none. -/
theorem load_of_torn {times : List ℚ} {text more : List Char}
    (hhistory : RestartManager.Chronological history times)
    (hpayload : RestartManager.payload history = .ok document)
    (hsplit : text ++ more =
      (Json.dumps floats.toFloatRepr document).toList) :
    RestartManager.load (.ofText floats (some text)) =
      .ok (if more = [] then history else []) := by
  obtain ⟨hdistinct, henclosed⟩ := distinct_payload hpayload
  by_cases hmore : more = []
  · rw [if_pos hmore]
    rw [hmore, List.append_nil] at hsplit
    rw [hsplit, ofText_dumps hpayload]
    exact RestartManager.load_payload hhistory hpayload
  · rw [Json.dumps_eq_write] at hsplit
    rw [if_neg hmore, HistoryFile.ofText,
      Json.loads_of_front hdistinct henclosed hsplit hmore]
    split <;> rfl

def oneRestart : List RestartRecord :=
  [⟨.finite 0, "LOGGED_OUT", "sign-in page"⟩]

def oneRestartDocument : Json :=
  .obj [("restarts", .arr [.obj [("at", .float (.finite 0)),
    ("iso", .str "1970-01-01T00:00:00+00:00"), ("state", .str "LOGGED_OUT"),
    ("reason", .str "sign-in page")]])]

theorem load_of_torn_oneRestart :
    RestartManager.load (.ofText Json.wholeFloats
      (some ((Json.dumps Json.wholeFloats.toFloatRepr
        oneRestartDocument).toList.take 40))) = .ok [] := by
  have hiso : PyTime.isoFromTimestamp (.finite 0) =
      .ok "1970-01-01T00:00:00+00:00" := by
    decide +kernel
  have hpayload :
      RestartManager.payload oneRestart = .ok oneRestartDocument := by
    simp [RestartManager.payload, oneRestart, RestartRecord.asDict, hiso,
      oneRestartDocument, bind, Except.bind, pure, Except.pure]
  have hcut := @load_of_torn Json.wholeFloats oneRestart oneRestartDocument
    [0] _ _ ⟨rfl, List.pairwise_singleton _ _⟩ hpayload
    (List.take_append_drop 40 _)
  rwa [if_neg (by decide +kernel)] at hcut

theorem parsed_recreate (file : Option (List Char)) :
    (TextManager.recreate floats file).map (·.parsed floats) =
      RestartManager.recreate (.ofText floats file) := by
  unfold TextManager.recreate RestartManager.recreate
  cases RestartManager.load (.ofText floats file) <;> rfl

/-- One event on texts is one event on documents. -/
theorem parsed_play (manager : TextManager) (event : VolumeEvent) :
    (manager.play floats event).map (·.parsed floats) =
      (manager.parsed floats).play (manager.parsedEvent floats event) := by
  cases event with
  | record state reason now =>
      unfold TextManager.play TextManager.parsedEvent RestartManager.play
      dsimp only
      cases hpayload : RestartManager.payload
          (RecordStep.recordedHistory state reason now manager.history) with
      | error error =>
          have hsame := @RestartManager.record_of_unprintable
            (manager.parsed floats) state reason now error hpayload
          rw [hsame]
          rfl
      | ok document =>
          have hsame := @RestartManager.record_of_payload
            (manager.parsed floats) document state reason now hpayload
          have hread := @ofText_dumps floats _ _ hpayload
          have hsaved := @RecordStep.after_saved _ (textWriting floats) state
            reason now manager.point document
            (manager.steps floats state reason now).length hpayload le_rfl
          rw [hsame, hsaved]
          simp only [bind, Except.bind, pure, Except.pure, Except.map,
            TextManager.parsed, textWriting, hread]
          rfl
  | recreate => exact parsed_recreate manager.file
  | crash state reason now reached =>
      unfold TextManager.play TextManager.parsedEvent RestartManager.play
      dsimp only
      rw [parsed_recreate]
      by_cases hreached :
          (manager.steps floats state reason now).length ≤ reached
      · rw [if_pos hreached]
        cases hpayload : RestartManager.payload
            (RecordStep.recordedHistory state reason now manager.history) with
        | error error =>
            have hshort : (RecordStep.ofRecord documentWriting state reason now
                manager.history).length ≤ 5 := by
              rw [RecordStep.ofRecord_of_unprintable hpayload]
              exact Nat.le_add_left 2 3
            rw [@RecordStep.after_unprintable _ _ _ _ _ manager.point _ _
                hpayload hreached,
              @RecordStep.after_unprintable _ _ _ _ _
                (manager.parsed floats).point _ _ hpayload hshort]
            rfl
        | ok document =>
            have hshort : (RecordStep.ofRecord documentWriting state reason now
                manager.history).length ≤ 5 := by
              rw [RecordStep.ofRecord_of_payload hpayload]
              exact le_rfl
            rw [@RecordStep.after_saved _ _ _ _ _ manager.point _ _ hpayload
                hreached,
              @RecordStep.after_saved _ _ _ _ _ (manager.parsed floats).point
                _ _ hpayload hshort]
            dsimp only [textWriting]
            rw [ofText_dumps hpayload]
            rfl
      · rw [if_neg hreached, RecordStep.file_after (Nat.not_le.mp hreached)]
        rfl

end Simulation

section Lives

variable {floats : Json.FloatText} {manager : TextManager}
  {events abstracts : List VolumeEvent}

/-- The event without how far a killed record came. -/
def VolumeEvent.erased : VolumeEvent → VolumeEvent
  | .crash state reason now _ => .crash state reason now 0
  | event => event

theorem erased_parsedEvent (manager : TextManager) (event : VolumeEvent) :
    (manager.parsedEvent floats event).erased = event.erased := by
  cases event <;> rfl

theorem times_of_erased
    (hsame : events.map VolumeEvent.erased = abstracts.map VolumeEvent.erased) :
    events.filterMap VolumeEvent.time =
      abstracts.filterMap VolumeEvent.time := by
  have htime : VolumeEvent.time ∘ VolumeEvent.erased = VolumeEvent.time := by
    funext event
    cases event <;> rfl
  have htimes := congrArg (List.filterMap VolumeEvent.time) hsame
  rwa [List.filterMap_map, List.filterMap_map, htime] at htimes

theorem erased_concat {before : List VolumeEvent} {last : VolumeEvent}
    (hsame : events.map VolumeEvent.erased =
      (before ++ [last]).map VolumeEvent.erased) :
    ∃ front event, events = front ++ [event] ∧
      front.map VolumeEvent.erased = before.map VolumeEvent.erased ∧
      event.erased = last.erased := by
  rw [List.map_append, List.map_singleton] at hsame
  obtain ⟨front, back, rfl, hfront, hback⟩ := List.map_eq_append_iff.mp hsame
  obtain ⟨event, rfl, hevent⟩ := List.map_eq_singleton_iff.mp hback
  exact ⟨front, event, rfl, hfront, hevent⟩

/-- How far a killed record came says nothing about the log. -/
theorem logged_of_erased {log : List RestartRecord}
    (hlogged : RestartManager.Logged abstracts log)
    (hsame : events.map VolumeEvent.erased = abstracts.map VolumeEvent.erased) :
    RestartManager.Logged events log := by
  induction hlogged generalizing events with
  | nil =>
      rw [List.map_eq_nil_iff.mp hsame]
      exact .nil
  | record _ state reason now ih =>
      obtain ⟨front, event, rfl, hfront, hevent⟩ := erased_concat hsame
      cases event with
      | record => cases hevent; exact (ih hfront).record _ _ _
      | _ => cases hevent
  | recreate _ ih =>
      obtain ⟨front, event, rfl, hfront, hevent⟩ := erased_concat hsame
      cases event with
      | recreate => exact (ih hfront).recreate
      | _ => cases hevent
  | present _ state reason now reached ih =>
      obtain ⟨front, event, rfl, hfront, hevent⟩ := erased_concat hsame
      cases event with
      | crash => cases hevent; exact (ih hfront).present _ _ _ _
      | _ => cases hevent
  | absent _ state reason now reached ih =>
      obtain ⟨front, event, rfl, hfront, hevent⟩ := erased_concat hsame
      cases event with
      | crash => cases hevent; exact (ih hfront).absent _ _ _ _
      | _ => cases hevent

/-- A run on texts is a run on documents. -/
theorem parsed_playAll (manager : TextManager) (events : List VolumeEvent) :
    ∃ abstracts,
      events.map VolumeEvent.erased = abstracts.map VolumeEvent.erased ∧
      (manager.playAll floats events).map (·.parsed floats) =
        (manager.parsed floats).playAll abstracts := by
  induction events generalizing manager with
  | nil => exact ⟨[], rfl, rfl⟩
  | cons event rest ih =>
      have hfirst := @parsed_play floats manager event
      have hsame := @erased_parsedEvent floats manager event
      cases hplay : manager.play floats event with
      | error error =>
          rw [hplay] at hfirst
          refine ⟨manager.parsedEvent floats event :: rest, ?_, ?_⟩
          · rw [List.map_cons, List.map_cons, hsame]
          · rw [TextManager.playAll, RestartManager.playAll, List.foldlM_cons,
              List.foldlM_cons, hplay, ← hfirst]
            rfl
      | ok next =>
          rw [hplay] at hfirst
          obtain ⟨abstracts, hrest, hrun⟩ := ih next
          refine ⟨manager.parsedEvent floats event :: abstracts, ?_, ?_⟩
          · rw [List.map_cons, List.map_cons, hsame, hrest]
          · rw [TextManager.playAll, RestartManager.playAll, List.foldlM_cons,
              List.foldlM_cons, hplay, ← hfirst]
            exact hrun

/-- Records, new processes, and records killed after any character of the file
they write: the guard answers as the log of the completed records would, of
which a killed one is wholly a part or not at all, and the text on disk is read
as the history in memory. -/
theorem text_refines_log (floats : Json.FloatText) (config : Config)
    {file : Option (List Char)}
    (hempty : RestartManager.load (.ofText floats file) = .ok [])
    (events : List VolumeEvent)
    (hordered : (events.filterMap VolumeEvent.time).Pairwise (· ≤ ·)) :
    (∃ manager, TextManager.playAll floats ⟨[], file⟩ events = .ok manager ∧
        ∃ log, RestartManager.Logged events log ∧
          RestartManager.AnswersFor config (manager.parsed floats) log ∧
          RestartManager.load (.ofText floats manager.file) =
            .ok manager.history) ∨
      ∃ state reason now, .record state reason now ∈ events ∧
        ¬PyTime.Representable (PyTime.microseconds now) := by
  obtain ⟨abstracts, hsame, hrun⟩ :=
    @parsed_playAll floats ⟨[], file⟩ events
  rw [times_of_erased hsame] at hordered
  rcases RestartManager.playAll_keeps hempty hordered with
    ⟨parsed, hplayed, log, hlogged, hkeeps⟩ |
      ⟨state, reason, now, hmem, hdate⟩
  · left
    have hboth := hrun.trans hplayed
    cases hplay : TextManager.playAll floats ⟨[], file⟩ events with
    | error error =>
        rw [hplay] at hboth
        cases hboth
    | ok manager =>
        rw [hplay] at hboth
        obtain rfl := Except.ok.inj hboth
        exact ⟨manager, rfl, log, logged_of_erased hlogged hsame,
          hkeeps.answersFor, hkeeps.saved⟩
  · right
    refine ⟨state, reason, now, ?_, hdate⟩
    have hmapped : VolumeEvent.record state reason now ∈
        events.map VolumeEvent.erased := by
      rw [hsame]
      exact List.mem_map.mpr ⟨_, hmem, rfl⟩
    obtain ⟨event, hevent, herased⟩ := List.mem_map.mp hmapped
    cases event with
    | record => cases herased; exact hevent
    | _ => cases herased

end Lives

/-- A restart, a record killed after forty characters, and another restart. -/
def killedWriting : List VolumeEvent :=
  [.record .loggedOut "sign-in page" 0,
    .crash .teslamateUnreachable "http unreachable" 600 43, .recreate,
    .record .teslamateUnreachable "http unreachable" 700000]

theorem text_refines_log_killed :
    (∃ manager, TextManager.playAll Json.wholeFloats ⟨[], none⟩
          killedWriting = .ok manager ∧
        ∃ log, RestartManager.Logged killedWriting log ∧
          RestartManager.AnswersFor .fromEmptyEnv
            (manager.parsed Json.wholeFloats) log ∧
          RestartManager.load (.ofText Json.wholeFloats manager.file) =
            .ok manager.history) ∨
      ∃ state reason now, .record state reason now ∈ killedWriting ∧
        ¬PyTime.Representable (PyTime.microseconds now) :=
  text_refines_log Json.wholeFloats .fromEmptyEnv rfl killedWriting
    (by decide +kernel)

end TeslamateWatchdog

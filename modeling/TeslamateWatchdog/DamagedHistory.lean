/-
The history file when it is not what the manager wrote.  Loading skips most of
what is wrong in it; what gets through may still fail later, when it is to be
shown or saved.
-/
import TeslamateWatchdog.Foundation.PyOrder
import TeslamateWatchdog.RestartRefinement

namespace TeslamateWatchdog

open Foundation

/-- The record an entry stands for, if it is an object with an `at` that
`float` converts. -/
def recordOf : Json → Option RestartRecord
  | .obj members =>
      (members.lookup "at").bind fun stamp =>
        stamp.toFloat.toOption.map fun time =>
          ⟨time, ((members.lookup "state").getD (.str "")).toStr,
            ((members.lookup "reason").getD (.str "")).toStr⟩
  | _ => none

/-- The `at` of an entry is a JSON number. -/
def numericAt (entry : Json) : Bool :=
  match entry.look ["at"] with
  | .int _ => true
  | .float _ => true
  | _ => false

/-- The `at` of an entry is an integer beyond the range of floats. -/
def Oversized (entry : Json) : Prop :=
  ∃ value, entry.look ["at"] = .int value ∧ floatOverflow ≤ |(value : ℚ)|

namespace HistoryFile

/-- What `restarts` holds, as far as a loop can go through it. -/
def entries : HistoryFile → List Json
  | .json (.obj members) =>
      ((members.lookup "restarts").getD (.arr [])).iterate.toOption.getD []
  | _ => []

/-- The records of the well-formed entries, in the order of the file. -/
def records (file : HistoryFile) : List RestartRecord :=
  file.entries.filterMap recordOf

/-- No document, or an object, and a loop can go through what its `restarts`
holds. -/
def Shaped : HistoryFile → Prop
  | .tooDeep => False
  | .json document => ∃ members found, document = .obj members ∧
      ((members.lookup "restarts").getD (.arr [])).iterate = .ok found
  | _ => True

end HistoryFile

/-- The time stamp can be printed as a date. -/
def RestartRecord.Printable (record : RestartRecord) : Prop :=
  (PyTime.isoFromTimestamp record.atTime).isOk = true

theorem RestartRecord.asDict_isOk_iff {record : RestartRecord} :
    record.asDict.isOk = true ↔ record.Printable := by
  unfold asDict Printable
  cases PyTime.isoFromTimestamp record.atTime <;> rfl

namespace RestartManager

theorem parse_error {text : String} {error : PyError}
    (hparse : PyFloat.parse text = .error error) : error = .valueError := by
  unfold PyFloat.parse at hparse
  dsimp only at hparse
  split at hparse
  · cases hparse
  · split at hparse
    · cases hparse
    · split at hparse
      all_goals
        split at hparse
        · exact (Except.error.inj hparse).symm
        · split at hparse
          · exact (Except.error.inj hparse).symm
          · cases hparse

theorem toFloat_int (value : Int) : (Json.int value).toFloat =
    if floatOverflow ≤ |(value : ℚ)| then .error .overflowError
    else .ok (.finite (PyFloat.nearest value)) := rfl

/-- `float` raises one of the errors the loop skips, or overflows. -/
theorem toFloat_error {stamp : Json} {error : PyError}
    (hfloat : stamp.toFloat = .error error) :
    error = .typeError ∨ error = .valueError ∨ error = .overflowError ∧
      ∃ value, stamp = .int value ∧ floatOverflow ≤ |(value : ℚ)| := by
  cases stamp with
  | bool value => cases hfloat
  | float value => cases hfloat
  | str text => exact .inr (.inl (parse_error hfloat))
  | int value =>
      rw [toFloat_int] at hfloat
      by_cases hover : floatOverflow ≤ |(value : ℚ)|
      · rw [if_pos hover] at hfloat
        exact .inr (.inr ⟨(Except.error.inj hfloat).symm, value, rfl, hover⟩)
      · rw [if_neg hover] at hfloat
        cases hfloat
  | _ => exact .inl (Except.error.inj hfloat).symm

theorem toFloat_ok {stamp : Json} {time : PyFloat}
    (hfloat : stamp.toFloat = .ok time) :
    ¬∃ value, stamp = .int value ∧ floatOverflow ≤ |(value : ℚ)| := by
  rintro ⟨value, rfl, hover⟩
  rw [toFloat_int, if_pos hover] at hfloat
  cases hfloat

/-- An entry is skipped or loaded, unless its `at` is out of range. -/
theorem loadEntry_eq (entry : Json) :
    loadEntry entry = .ok (recordOf entry) ∧ ¬Oversized entry ∨
      loadEntry entry = .error .overflowError ∧ Oversized entry := by
  cases entry with
  | obj members =>
      cases hstamp : members.lookup "at" with
      | none =>
          left
          simp [loadEntry, recordOf, Oversized, Json.index, Json.look, hstamp,
            bind, Except.bind]
      | some stamp =>
          have hlook : (Json.obj members).look ["at"] = stamp := by
            simp [Json.look, hstamp]
          rw [Oversized, hlook]
          cases hfloat : stamp.toFloat with
          | ok time =>
              refine .inl ⟨?_, toFloat_ok hfloat⟩
              simp [loadEntry, recordOf, Json.index, Json.getD, Json.get?,
                hstamp, hfloat, bind, Except.bind, pure, Except.pure,
                Except.toOption]
          | error error =>
              have hskips : error ≠ .overflowError →
                  ¬∃ value, stamp = .int value ∧
                    floatOverflow ≤ |(value : ℚ)| := by
                rintro hother ⟨value, rfl, hover⟩
                rw [toFloat_int, if_pos hover] at hfloat
                exact hother (Except.error.inj hfloat).symm
              rcases toFloat_error hfloat with rfl | rfl | ⟨rfl, hover⟩
              · refine .inl ⟨?_, hskips (by decide)⟩
                simp [loadEntry, recordOf, Json.index, hstamp, hfloat, bind,
                  Except.bind, Except.toOption]
              · refine .inl ⟨?_, hskips (by decide)⟩
                simp [loadEntry, recordOf, Json.index, hstamp, hfloat, bind,
                  Except.bind, Except.toOption]
              · refine .inr ⟨?_, hover⟩
                simp [loadEntry, Json.index, hstamp, hfloat, bind, Except.bind]
  | _ =>
      left
      simp [loadEntry, recordOf, Oversized, Json.index, Json.look, bind,
        Except.bind]

theorem loadEntry_eq_ok (entry : Json) (loaded : Option RestartRecord) :
    loadEntry entry = .ok loaded ↔
      ¬Oversized entry ∧ loaded = recordOf entry := by
  rcases loadEntry_eq entry with ⟨hentry, hfits⟩ | ⟨hentry, hover⟩
  · rw [hentry, Except.ok.injEq, eq_comm, and_iff_right hfits]
  · rw [hentry]
    exact iff_of_false (fun hloaded => by cases hloaded)
      fun hfits => hfits.1 hover

theorem mapM_loadEntry_eq_ok {items : List Json}
    {loaded : List (Option RestartRecord)} :
    items.mapM loadEntry = .ok loaded ↔
      (∀ entry ∈ items, ¬Oversized entry) ∧ loaded = items.map recordOf :=
  mapM_eq_ok loadEntry_eq_ok

theorem load_json {members : List (String × Json)} {items : List Json}
    (hitems : ((members.lookup "restarts").getD (.arr [])).iterate = .ok items)
    {history : List RestartRecord} :
    load (.json (.obj members)) = .ok history ↔
      (∀ entry ∈ items, ¬Oversized entry) ∧
        history = (items.filterMap recordOf).insertionSort NotBefore := by
  have hload : load (.json (.obj members)) = (items.mapM loadEntry).map
      fun loaded => (loaded.filterMap id).insertionSort NotBefore := by
    simp only [load, Json.getD, Json.get?, bind, Except.bind, pure, Except.pure,
      hitems]
    cases items.mapM loadEntry <;> rfl
  have hrecords : (items.map recordOf).filterMap id =
      items.filterMap recordOf := by
    rw [List.filterMap_map]
    rfl
  rw [hload, ← hrecords]
  constructor
  · intro hmap
    cases hloaded : items.mapM loadEntry with
    | error error =>
        rw [hloaded] at hmap
        cases hmap
    | ok loaded =>
        rw [hloaded] at hmap
        obtain ⟨hfit, rfl⟩ := mapM_loadEntry_eq_ok.mp hloaded
        exact ⟨hfit, (Except.ok.inj hmap).symm⟩
  · rintro ⟨hfit, rfl⟩
    rw [mapM_loadEntry_eq_ok.mpr ⟨hfit, rfl⟩]
    rfl

/-- What a file is loaded as. -/
theorem load_eq_ok {file : HistoryFile} {history : List RestartRecord} :
    load file = .ok history ↔
      file.Shaped ∧ (∀ entry ∈ file.entries, ¬Oversized entry) ∧
        history = (file.entries.filterMap recordOf).insertionSort NotBefore := by
  cases file with
  | missing =>
      simp [load, HistoryFile.Shaped, HistoryFile.entries, eq_comm]
  | unreadable =>
      simp [load, HistoryFile.Shaped, HistoryFile.entries, eq_comm]
  | tooDeep => exact iff_of_false (fun hload => by cases hload) And.left
  | json document =>
      cases document with
      | obj members =>
          cases hitems : ((members.lookup "restarts").getD (.arr [])).iterate with
          | ok items =>
              have hentries : (HistoryFile.json (.obj members)).entries =
                  items := by
                simp [HistoryFile.entries, hitems, Except.toOption]
              have hshaped : (HistoryFile.json (.obj members)).Shaped :=
                ⟨members, items, rfl, hitems⟩
              rw [load_json hitems, hentries, and_iff_right hshaped]
          | error error =>
              refine iff_of_false ?_ ?_
              · simp [load, Json.getD, Json.get?, bind, Except.bind, pure,
                  Except.pure, hitems]
              · rintro ⟨⟨_, _, hobject, hok⟩, -⟩
                obtain rfl := Json.obj.inj hobject
                rw [hitems] at hok
                cases hok
      | _ =>
          refine iff_of_false (fun hload => by cases hload) ?_
          rintro ⟨⟨_, _, hobject, -⟩, -⟩
          cases hobject

section Answers

variable {manager : RestartManager}

/-- The guard has answered. -/
def Returns (reply : Except PyError Decision) : Prop :=
  reply.isOk = true

/-- The guard answers as soon as the time since the last restart is finite. -/
theorem evaluate_isOk {config : Config} {state : State}
    {databaseHealthyStreak : Nat} {teslaAuthReachable : Option Bool} {now : ℚ}
    (hfinite : ∀ record ∈ manager.lastRestart, ∃ time,
      record.atTime = .finite time) :
    Returns (manager.evaluate config state databaseHealthyStreak
      teslaAuthReachable now) := by
  have hcooldown : ∃ seconds,
      (manager.secondsUntilCooldownExpires config now).toInt = .ok seconds := by
    unfold secondsUntilCooldownExpires
    cases hlast : manager.lastRestart with
    | none => exact ⟨_, rfl⟩
    | some record =>
        obtain ⟨time, htime⟩ := hfinite record hlast
        dsimp only
        rw [htime, PyFloat.sub_finite, PyFloat.sub_finite, PyFloat.max_finite]
        exact ⟨_, rfl⟩
  obtain ⟨seconds, hseconds⟩ := hcooldown
  unfold evaluate
  refine iteInduction (motive := Returns)
    (fun _ => rfl) (fun _ => ?_)
  refine iteInduction (motive := Returns)
    (fun _ => rfl) (fun _ => ?_)
  refine iteInduction (motive := Returns)
    (fun _ => rfl) (fun _ => ?_)
  refine iteInduction (motive := Returns)
    (fun _ => rfl) (fun _ => ?_)
  unfold evaluateBudget
  refine iteInduction (motive := Returns)
    (fun _ => rfl) (fun _ => ?_)
  refine iteInduction (motive := Returns)
    (fun _ => by rw [hseconds, Returns]; rfl) (fun _ => ?_)
  refine iteInduction (motive := Returns)
    (fun _ => rfl) (fun _ => rfl)

/-- Recording raises exactly if a record that is kept cannot be printed. -/
theorem record_isOk_iff {state : State} {reason : String} {now : ℚ}
    {written : Bool} :
    (manager.record state reason now written).1.isOk = true ↔
      ∀ record ∈ pruned now (manager.history ++
        [⟨.finite now, state.value, reason⟩]), record.Printable := by
  have hsaved : (manager.record state reason now written).1.isOk =
      (payload (pruned now (manager.history ++
        [⟨.finite now, state.value, reason⟩]))).isOk := by
    unfold record save
    dsimp only [append, prune]
    cases payload (pruned now (manager.history ++
      [⟨.finite now, state.value, reason⟩])) <;> rfl
  rw [hsaved, payload_isOk_iff]
  simp only [RestartRecord.asDict_isOk_iff]

theorem lastRestartIso_isOk_iff :
    manager.lastRestartIso.isOk = true ↔
      ∀ record ∈ manager.lastRestart, record.Printable := by
  unfold lastRestartIso RestartRecord.Printable
  cases manager.lastRestart with
  | none => simp [Except.isOk, Except.toBool]
  | some record =>
      simp only [Option.mem_some, forall_eq']
      cases PyTime.isoFromTimestamp record.atTime <;> rfl

end Answers

/-- Everything the manager is asked for in a cycle, it answers.  The clock, when
a restart is recorded, reads a time that can be printed. -/
structure Answers (manager : RestartManager) : Prop where
  shown : manager.lastRestartIso.isOk = true
  evaluated : ∀ config state databaseHealthyStreak teslaAuthReachable now,
    Returns (manager.evaluate config state databaseHealthyStreak
      teslaAuthReachable now)
  recorded : ∀ state reason now written,
    PyTime.Representable (PyTime.microseconds now) →
      (manager.record state reason now written).1.isOk = true

/-- The file is loaded as its well-formed entries in the order of time, and the
manager made of it answers. -/
def Tolerates (wellFormed : Json → Bool) (file : HistoryFile) : Prop :=
  ∃ manager, recreate file = .ok manager ∧
    manager.history.Perm
      ((file.entries.filter wellFormed).filterMap recordOf) ∧
    manager.history.Pairwise (fun earlier later =>
      earlier.atTime.le later.atTime = true) ∧
    Answers manager

/-- What a file has to be like for that. -/
structure Sound (file : HistoryFile) : Prop where
  shaped : file.Shaped
  inRange : ∀ entry ∈ file.entries, ¬Oversized entry
  ordered : ∀ record ∈ file.records, record.atTime ≠ .nan
  latest : ∀ record ∈ file.records,
    (∀ other ∈ file.records, other.atTime.le record.atTime = true) →
      record.Printable
  kept : ∀ record ∈ file.records, ∀ now,
    PyTime.Representable (PyTime.microseconds now) →
    PyFloat.le (.finite (now - historyRetentionSeconds)) record.atTime = true →
      record.Printable

theorem recreate_eq_ok {file : HistoryFile} {manager : RestartManager} :
    recreate file = .ok manager ↔
      file.Shaped ∧ (∀ entry ∈ file.entries, ¬Oversized entry) ∧
        manager = ⟨file.records.insertionSort NotBefore, file⟩ := by
  unfold recreate
  rw [bind_eq_ok]
  constructor
  · rintro ⟨history, hload, hmanager⟩
    obtain ⟨hshaped, hfit, rfl⟩ := load_eq_ok.mp hload
    exact ⟨hshaped, hfit, (Except.ok.inj hmanager).symm⟩
  · rintro ⟨hshaped, hfit, rfl⟩
    exact ⟨_, load_eq_ok.mpr ⟨hshaped, hfit, rfl⟩, rfl⟩

section Sorted

variable {manager : RestartManager}
  (hsorted : manager.history.Pairwise fun earlier later =>
    earlier.atTime.le later.atTime = true)
  (hnan : ∀ record ∈ manager.history, record.atTime ≠ .nan)

include hsorted hnan

/-- The last record is the latest. -/
theorem le_lastRestart {last : RestartRecord}
    (hlast : last ∈ manager.lastRestart) :
    ∀ record ∈ manager.history, record.atTime.le last.atTime = true := by
  obtain ⟨front, hfront⟩ := List.getLast?_eq_some_iff.mp hlast
  have hself : last.atTime.le last.atTime = true := by
    have hplace := hnan last (by rw [hfront]; simp)
    exact (PyFloat.le_iff_rank hplace hplace).mpr le_rfl
  rw [hfront] at hsorted ⊢
  intro record hrecord
  rcases List.mem_append.mp hrecord with hbefore | hend
  · exact (List.pairwise_append.mp hsorted).2.2 record hbefore last
      (List.mem_singleton_self last)
  · rw [List.mem_singleton.mp hend]
    exact hself

/-- A sorted history is answered about exactly if its latest record, and those
that are kept, can be printed. -/
theorem answers_iff :
    Answers manager ↔
      (∀ record ∈ manager.history,
        (∀ other ∈ manager.history,
          other.atTime.le record.atTime = true) → record.Printable) ∧
      ∀ record ∈ manager.history, ∀ now,
        PyTime.Representable (PyTime.microseconds now) →
        PyFloat.le (.finite (now - historyRetentionSeconds)) record.atTime =
          true → record.Printable := by
  have hlatest : ∀ last ∈ manager.lastRestart, last ∈ manager.history :=
    fun last hlast => List.mem_of_getLast? hlast
  constructor
  · intro hanswers
    constructor
    · intro record hrecord hmax
      obtain ⟨last, hlast⟩ : ∃ last, manager.lastRestart = some last :=
        ⟨_, List.getLast?_eq_some_getLast (List.ne_nil_of_mem hrecord)⟩
      have hstamp : record.atTime = last.atTime := PyFloat.eq_of_le_of_le
        (le_lastRestart hsorted hnan hlast record hrecord)
        (hmax last (hlatest last hlast))
      rw [RestartRecord.Printable, hstamp]
      exact lastRestartIso_isOk_iff.mp hanswers.shown last hlast
    · intro record hrecord now hnow hkept
      exact record_isOk_iff.mp (hanswers.recorded .healthy "" now true hnow)
        record (List.mem_filter.mpr ⟨List.mem_append_left _ hrecord, hkept⟩)
  · rintro ⟨hmax, hkept⟩
    have hprintable : ∀ last ∈ manager.lastRestart, last.Printable :=
      fun last hlast => hmax last (hlatest last hlast)
        (le_lastRestart hsorted hnan hlast)
    refine ⟨lastRestartIso_isOk_iff.mpr hprintable, ?_, ?_⟩
    · intro config state databaseHealthyStreak teslaAuthReachable now
      apply evaluate_isOk
      intro last hlast
      obtain ⟨item, hitem⟩ :=
        isOk_iff.mp (RestartRecord.asDict_isOk_iff.mpr (hprintable last hlast))
      exact finite_of_asDict hitem
    · intro state reason now written hnow
      rw [record_isOk_iff]
      intro record hrecord
      obtain ⟨hmem, hrecent⟩ := List.mem_filter.mp hrecord
      rcases List.mem_append.mp hmem with hold | hnew
      · exact hkept record hold now hnow hrecent
      · rw [List.mem_singleton.mp hnew, RestartRecord.Printable,
          PyTime.isoFromTimestamp, if_pos hnow]
        rfl

end Sorted

/-- All entries that `float` makes a record of count as well formed. -/
theorem tolerates_all_iff (file : HistoryFile) :
    Tolerates (fun _ => true) file ↔ Sound file := by
  have hperm : (file.records.insertionSort NotBefore).Perm file.records :=
    List.perm_insertionSort NotBefore _
  constructor
  · rintro ⟨manager, hrecreate, -, hsorted, hanswers⟩
    obtain ⟨hshaped, hfit, rfl⟩ := recreate_eq_ok.mp hrecreate
    have hnan : ∀ record ∈ file.records.insertionSort NotBefore,
        record.atTime ≠ .nan := by
      intro record hrecord hstamp
      obtain ⟨front, back, hsplit⟩ := List.append_of_mem hrecord
      cases back with
      | nil =>
          have hprintable := lastRestartIso_isOk_iff.mp hanswers.shown record
            (List.getLast?_eq_some_iff.mpr ⟨front, hsplit⟩)
          rw [RestartRecord.Printable, hstamp] at hprintable
          cases hprintable
      | cons next back =>
          change (file.records.insertionSort NotBefore).Pairwise _ at hsorted
          rw [hsplit] at hsorted
          have hle := List.rel_of_pairwise_cons
            (List.pairwise_append.mp hsorted).2.1 List.mem_cons_self
          exact (PyFloat.ne_nan_of_le hle).1 hstamp
    obtain ⟨hmax, hkept⟩ := (answers_iff hsorted hnan).mp hanswers
    simp only [hperm.mem_iff] at hnan hmax hkept
    exact ⟨hshaped, hfit, hnan, hmax, hkept⟩
  · rintro ⟨hshaped, hfit, hnan, hmax, hkept⟩
    have hsorted : (file.records.insertionSort NotBefore).Pairwise
        fun earlier later => earlier.atTime.le later.atTime = true :=
      PyFloat.pairwise_insertionSort (fun _ _ => Iff.rfl) hnan
    refine ⟨⟨file.records.insertionSort NotBefore, file⟩,
      recreate_eq_ok.mpr ⟨hshaped, hfit, rfl⟩, ?_, hsorted,
      (answers_iff hsorted ?_).mpr ?_⟩
    · rw [List.filter_true]
      exact hperm
    · simp only [hperm.mem_iff]
      exact hnan
    · simp only [hperm.mem_iff]
      exact ⟨hmax, hkept⟩

/-- Nothing is lost by a filter that keeps every entry with a record. -/
theorem filterMap_filter_perm_iff {keeps : Json → Bool} {items : List Json} :
    (items.filterMap recordOf).Perm
        ((items.filter keeps).filterMap recordOf) ↔
      ∀ entry ∈ items, recordOf entry ≠ none → keeps entry = true := by
  constructor
  · intro hperm
    have hlength := hperm.length_eq
    clear hperm
    induction items with
    | nil => simp
    | cons entry rest ih =>
        have hshorter : ((rest.filter keeps).filterMap recordOf).length ≤
            (rest.filterMap recordOf).length :=
          (List.filter_sublist.filterMap recordOf).length_le
        rw [List.forall_mem_cons]
        by_cases hkeep : keeps entry = true
        · rw [List.filter_cons_of_pos hkeep] at hlength
          refine ⟨fun _ => hkeep, ih ?_⟩
          cases hrecord : recordOf entry with
          | none => simpa [hrecord] using hlength
          | some record => simpa [hrecord] using hlength
        · rw [List.filter_cons_of_neg hkeep] at hlength
          cases hrecord : recordOf entry with
          | none =>
              rw [List.filterMap_cons_none hrecord] at hlength
              exact ⟨fun hnone => absurd rfl hnone, ih hlength⟩
          | some record =>
              rw [List.filterMap_cons_some hrecord, List.length_cons] at hlength
              omega
  · intro hkept
    rw [List.filterMap_filter]
    refine List.Perm.of_eq (List.filterMap_congr fun entry hentry => ?_)
    by_cases hkeep : keeps entry = true
    · rw [if_pos hkeep]
    · rw [if_neg hkeep]
      by_contra hrecord
      exact hkeep (hkept entry hentry hrecord)

/-- A history file with one entry, which has only a time. -/
def stampedFile (stamp : Json) : HistoryFile :=
  .json (.obj [("restarts", .arr [.obj [("at", stamp)]])])

end RestartManager

end TeslamateWatchdog

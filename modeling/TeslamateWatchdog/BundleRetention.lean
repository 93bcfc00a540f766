/-
The life of the incident bundles, as long as the file system answers: a capture
adds one under a free name, a prune takes away the directories that are past
their time, and nothing else changes.
-/
import TeslamateWatchdog.DiagnosticsVolume
import TeslamateWatchdog.Foundation.Mealy

namespace TeslamateWatchdog

open Foundation

/-- A call on the writer, with its readings of the clock. -/
inductive DiagnosticsCall where
  | capture (clock : CaptureClock) (request : CaptureRequest)
  | prune (now : ℚ)

namespace DiagnosticsCall

/-- The readings of the clock, in their order; a write leaves its own on the
file. -/
def readings : DiagnosticsCall → List ℚ
  | capture clock _ =>
      [clock.stampAt, clock.mkdirAt, clock.bodyAt, clock.writeAt "summary.json",
        clock.writeAt "teslamate.log", clock.writeAt "database.log",
        clock.writeAt "docker-state.json", clock.pruneAt]
  | prune now => [now]

/-- When the call prunes. -/
def pruneAt : DiagnosticsCall → ℚ
  | capture clock _ => clock.pruneAt
  | prune now => now

theorem pruneAt_mem_readings (call : DiagnosticsCall) :
    call.pruneAt ∈ call.readings := by
  cases call <;> simp [pruneAt, readings]

end DiagnosticsCall

namespace DiagnosticsWriter

/-- A directory whose last change is more than the retention ago. -/
def Expired (writer : DiagnosticsWriter) (now : ℚ) (entry : Entry) : Prop :=
  entry.isDirectory = true ∧ 0 < writer.retentionDays ∧
    entry.modified < writer.cutoff now

instance (writer : DiagnosticsWriter) (now : ℚ) (entry : Entry) :
    Decidable (writer.Expired now entry) :=
  inferInstanceAs (Decidable (_ ∧ _ ∧ _))

/-- What is left of an entry after a prune. -/
def spare (writer : DiagnosticsWriter) (now : ℚ) (entry : Option Entry) :
    Option Entry :=
  entry.filter fun entry => !decide (writer.Expired now entry)

section

variable {writer : DiagnosticsWriter} {clock : CaptureClock} {volume : Volume}
  {now : ℚ}

theorem spare_of_not_expired {entry : Entry}
    (hkept : ¬ writer.Expired now entry) :
    writer.spare now (some entry) = some entry := by
  simp [spare, Option.filter, hkept]

theorem isDir_none (name : String) (entry : Entry) :
    isDir .none name entry = .ok entry.isDirectory := rfl

theorem expire_none (limit : ℚ) (name : String) (entry : Entry)
    (volume : Volume) :
    expire .none limit name entry volume =
      if limit ≤ entry.modified then (false, volume)
      else (true, volume.erase name) := rfl

/-- The loop takes away the old directories among the entries it goes over. -/
theorem sweep_none {limit : ℚ} {entries : List (Σ _ : String, Entry)}
    {removed : Nat} (name : String) :
    (sweep .none limit entries removed volume).1.isOk = true ∧
      (sweep .none limit entries removed volume).2.lookup name =
        if entries.any fun entry => entry.1 == name && entry.2.isDirectory &&
            decide (entry.2.modified < limit) then none
        else volume.lookup name := by
  induction entries generalizing removed volume with
  | nil => exact ⟨rfl, rfl⟩
  | cons head rest ih =>
      obtain ⟨key, entry⟩ := head
      rw [sweep, isDir_none, List.any_cons]
      cases hdirectory : entry.isDirectory with
      | false =>
          rw [Bool.and_false, Bool.false_and, Bool.false_or]
          exact ih
      | true =>
          dsimp only
          rw [expire_none, Bool.and_true]
          by_cases hyoung : limit ≤ entry.modified
          · rw [if_pos hyoung, decide_eq_false (not_lt.mpr hyoung),
              Bool.and_false, Bool.false_or]
            exact ih
          · rw [if_neg hyoung, decide_eq_true (not_le.mp hyoung),
              Bool.and_true]
            obtain ⟨hreturns, hlookup⟩ := @ih (volume.erase key) (removed + 1)
            refine ⟨hreturns, hlookup.trans ?_⟩
            by_cases hname : key = name
            · subst hname
              rw [beq_self_eq_true, Bool.true_or, if_pos rfl,
                AList.lookup_erase, ite_self]
            · rw [AList.lookup_erase_ne (Ne.symm hname),
                beq_false_of_ne hname, Bool.false_or]

theorem prune_none (writer : DiagnosticsWriter) (now : ℚ) (volume : Volume)
    (name : String) :
    (writer.prune .none now volume).1.isOk = true ∧
      (writer.prune .none now volume).2.lookup name =
        writer.spare now (volume.lookup name) := by
  unfold prune
  by_cases hoff : writer.retentionDays ≤ 0
  · rw [if_pos hoff]
    refine ⟨rfl, ?_⟩
    cases volume.lookup name with
    | none => rfl
    | some entry =>
        exact (spare_of_not_expired fun hexpired =>
          absurd hexpired.2.1 (not_lt.mpr hoff)).symm
  · rw [if_neg hoff, if_neg (show ¬ Faults.none.iterdir = true by decide)]
    obtain ⟨hreturns, hlookup⟩ := @sweep_none volume (writer.cutoff now)
      volume.entries 0 name
    refine ⟨hreturns, hlookup.trans ?_⟩
    have hentry : (volume.entries.any fun entry => entry.1 == name &&
        entry.2.isDirectory && decide (entry.2.modified < writer.cutoff now)) =
          true ↔ ∃ entry ∈ volume.lookup name, writer.Expired now entry := by
      simp only [List.any_eq_true, Bool.and_eq_true, beq_iff_eq,
        decide_eq_true_eq]
      constructor
      · rintro ⟨⟨key, entry⟩, hmem, ⟨rfl, hdirectory⟩, hold⟩
        exact ⟨entry, AList.mem_lookup_iff.mpr hmem, hdirectory,
          not_le.mp hoff, hold⟩
      · rintro ⟨entry, hfound, hexpired⟩
        exact ⟨⟨name, entry⟩, AList.mem_lookup_iff.mp hfound,
          ⟨rfl, hexpired.1⟩, hexpired.2.2⟩
    rw [if_congr hentry rfl rfl]
    cases hfound : volume.lookup name with
    | none => simp [spare]
    | some entry =>
        by_cases hexpired : writer.Expired now entry <;>
          simp [spare, Option.filter, hexpired]

theorem mkdir_none {directory : String} (hfree : directory ∉ volume) :
    mkdir .none clock directory volume =
      (true, volume.insert directory (.directory [] clock.mkdirAt)) := by
  rw [mkdir, if_neg (show ¬ Faults.none.mkdir = true by decide),
    AList.lookup_eq_none.mpr hfree]

/-- The writes fill the directory in their order, and the last of them dates
it. -/
theorem writeFiles_none {directory : String} {files : List (String × String)}
    {done : List (String × String)} {modified : ℚ}
    (hdirectory : volume.lookup directory = some (.directory done modified))
    (hnodup : ((done ++ files).map Prod.fst).Nodup) :
    ∃ after, writeFiles .none clock directory files volume = (true, after) ∧
      after.lookup directory = some (.directory (done ++ files)
        (files.foldl (fun _ file => clock.writeAt file.1) modified)) ∧
      ∀ other, other ≠ directory →
        after.lookup other = volume.lookup other := by
  induction files generalizing volume done modified with
  | nil =>
      rw [List.append_nil]
      exact ⟨volume, rfl, hdirectory, fun _ _ => rfl⟩
  | cons entry rest ih =>
      obtain ⟨file, content⟩ := entry
      have hnew : file ∉ done.map Prod.fst := by
        intro hmem
        rw [List.map_append, List.nodup_append] at hnodup
        exact hnodup.2.2 file hmem file List.mem_cons_self rfl
      have hput : volume.put directory file content (clock.writeAt file) =
          volume.insert directory (.directory (done ++ [(file, content)])
            (clock.writeAt file)) := by
        rw [Volume.put, hdirectory]
        dsimp only
        rw [if_neg hnew]
      obtain ⟨after, hwritten, hfilled, hothers⟩ := @ih
        (volume.insert directory (.directory (done ++ [(file, content)])
          (clock.writeAt file))) (done ++ [(file, content)])
        (clock.writeAt file) (AList.lookup_insert volume)
        (by rwa [List.append_cons] at hnodup)
      refine ⟨after, ?_, ?_, fun other hother => ?_⟩
      · rw [writeFiles, show Faults.none.write file = none from rfl]
        dsimp only
        rw [hput, hwritten]
      · rw [hfilled, List.append_assoc]
        rfl
      · rw [hothers other hother, AList.lookup_insert_ne hother]

/-- The directory a capture leaves behind. -/
def stored (alphanumeric : Char → Bool) (floats : Json.FloatRepr)
    (clock : CaptureClock) (request : CaptureRequest) : Entry :=
  .directory (files alphanumeric floats clock request)
    (clock.writeAt "docker-state.json")

theorem taken_none {name : String} :
    Taken .none volume name ↔ name ∈ volume :=
  and_iff_right rfl

theorem exists_fresh (volume : Volume) (baseName : String) :
    ∃ name ∉ volume, ∀ fuel, volume.keys.length < fuel →
      search .none volume baseName fuel baseName 2 = some (.ok name) := by
  obtain ⟨tried, _, hfree, htaken⟩ := exists_firstFree .none volume baseName
  have hfirst : FirstFree .none volume baseName (candidate baseName tried) :=
    ⟨tried, rfl, hfree, htaken⟩
  refine ⟨_, fun hmem => hfree (taken_none.mpr hmem), fun fuel hfuel => ?_⟩
  exact search_of_firstFree hfirst hfuel

theorem uniqueDirectory_of_search {baseName name : String}
    (hsearch : ∀ fuel, volume.keys.length < fuel →
      search .none volume baseName fuel baseName 2 = some (.ok name)) :
    uniqueDirectory .none volume baseName = .ok name :=
  Option.get_of_eq_some _ (hsearch _ (Nat.lt_succ_self _))

/-- A capture stores one complete bundle under a free name, and prunes. -/
theorem capture_none (alphanumeric : Char → Bool) (floats : Json.FloatRepr)
    (writer : DiagnosticsWriter) (clock : CaptureClock)
    (request : CaptureRequest) (volume : Volume) {name : String}
    (hfree : name ∉ volume)
    (hunique : uniqueDirectory .none volume (baseName clock request.state) =
      .ok name) :
    (writer.capture alphanumeric floats .none clock request volume).1 =
        .ok (some (writer.incident name)) ∧
      ∀ other, (writer.capture alphanumeric floats .none clock request
        volume).2.lookup other = writer.spare clock.pruneAt
          ((volume.insert name (stored alphanumeric floats clock
            request)).lookup other) := by
  obtain ⟨written, hwritten, hfilled, hothers⟩ := @writeFiles_none clock
    (volume.insert name (.directory [] clock.mkdirAt)) name
    (files alphanumeric floats clock request) [] clock.mkdirAt
    (AList.lookup_insert volume) (show fileNames.Nodup by decide)
  have hlookup : ∀ other, written.lookup other = (volume.insert name
      (stored alphanumeric floats clock request)).lookup other := by
    intro other
    by_cases hother : other = name
    · subst hother
      rw [hfilled, AList.lookup_insert]
      rfl
    · rw [hothers other hother, AList.lookup_insert_ne hother,
        AList.lookup_insert_ne hother]
  have hpruned := prune_none writer clock.pruneAt written
  unfold capture
  rw [hunique]
  dsimp only
  rw [mkdir_none hfree]
  dsimp only
  rw [hwritten]
  dsimp only
  rcases hprune : writer.prune .none clock.pruneAt written with ⟨reply, after⟩
  rw [hprune] at hpruned
  cases reply with
  | error error => exact absurd (hpruned name).1 Bool.false_ne_true
  | ok removed =>
      refine ⟨rfl, fun other => ?_⟩
      rw [← hlookup]
      exact (hpruned other).2

variable (alphanumeric : Char → Bool) (floats : Json.FloatRepr)
  (writer : DiagnosticsWriter)

/-- The writer, called on a file system that always answers.  A capture puts
out its incident. -/
def calls : Mealy Volume DiagnosticsCall Incident where
  step volume call :=
    match call with
    | .capture clock request =>
        let (reply, after) := writer.capture alphanumeric floats .none clock
          request volume
        (after, (reply.toOption.join).toList)
    | .prune now => ((writer.prune .none now volume).2, [])

/-- A prune returns, and takes away what is past its time and no more.  A
capture finds a name under which nothing stands, however long the search may
take; it returns, and leaves one complete bundle more under that name. -/
def Preserves (volume : Volume) : DiagnosticsCall → Prop
  | .prune now =>
      (writer.prune .none now volume).1.isOk = true ∧
        ∀ name, (writer.prune .none now volume).2.lookup name =
          writer.spare now (volume.lookup name)
  | .capture clock request =>
      ∃ name ∉ volume,
        (∀ fuel, volume.keys.length < fuel →
          search .none volume (baseName clock request.state) fuel
            (baseName clock request.state) 2 = some (.ok name)) ∧
        (writer.capture alphanumeric floats .none clock request volume).1 =
          .ok (some (writer.incident name)) ∧
        ∀ other, (writer.capture alphanumeric floats .none clock request
          volume).2.lookup other = writer.spare clock.pruneAt
            (if other = name then some (stored alphanumeric floats clock
              request)
            else volume.lookup other)

theorem preserves (volume : Volume) (call : DiagnosticsCall) :
    Preserves alphanumeric floats writer volume call := by
  cases call with
  | prune now =>
      exact ⟨(prune_none writer now volume "").1,
        fun name => (prune_none writer now volume name).2⟩
  | capture clock request =>
      obtain ⟨name, hfree, hsearch⟩ :=
        exists_fresh volume (baseName clock request.state)
      obtain ⟨hreply, hlookup⟩ := capture_none alphanumeric floats writer clock
        request volume hfree (uniqueDirectory_of_search hsearch)
      refine ⟨name, hfree, hsearch, hreply, fun other => ?_⟩
      rw [hlookup]
      by_cases hother : other = name
      · subst hother
        rw [if_pos rfl, AList.lookup_insert]
      · rw [if_neg hother, AList.lookup_insert_ne hother]

/-- What is not past its time outlives the next call. -/
theorem step_lookup {volume : Volume} {call : DiagnosticsCall} {name : String}
    {entry : Entry} (hentry : volume.lookup name = some entry)
    (hkept : ¬ writer.Expired call.pruneAt entry) :
    ((calls alphanumeric floats writer).step volume call).1.lookup name =
      some entry := by
  have hcall := preserves alphanumeric floats writer volume call
  cases call with
  | prune now =>
      refine (hcall.2 name).trans ?_
      rw [hentry]
      exact spare_of_not_expired hkept
  | capture clock request =>
      obtain ⟨fresh, hfree, _, _, hlookup⟩ := hcall
      have hother : name ≠ fresh := by
        rintro rfl
        exact hfree (AList.lookup_isSome.mp (by rw [hentry]; rfl))
      refine (hlookup name).trans ?_
      rw [if_neg hother, hentry]
      exact spare_of_not_expired hkept

theorem run_lookup {volume : Volume} {back : List DiagnosticsCall}
    {name : String} {entry : Entry}
    (hentry : volume.lookup name = some entry)
    (hkept : ∀ call ∈ back, ¬ writer.Expired call.pruneAt entry) :
    ((calls alphanumeric floats writer).run volume back).1.lookup name =
      some entry := by
  induction back generalizing volume with
  | nil => exact hentry
  | cons call rest ih =>
      rw [Mealy.run_cons]
      apply ih
      · exact step_lookup alphanumeric floats writer hentry
          (hkept call List.mem_cons_self)
      · exact fun later hlater => hkept later (List.mem_cons_of_mem _ hlater)

/-- No reading of a clock that never goes back is later than the last. -/
theorem le_getLast {readings : List ℚ} (hclock : readings.Pairwise (· ≤ ·))
    {reading last : ℚ} (hreading : reading ∈ readings)
    (hlast : last ∈ readings.getLast?) : reading ≤ last := by
  obtain ⟨_, rfl⟩ := List.mem_getLast?_eq_getLast hlast
  exact hclock.rel_getLast hreading

/-- A bundle has not expired while the last reading of the clock is within the
retention. -/
theorem stored_not_expired {made : List DiagnosticsCall}
    (hclock : (made.flatMap DiagnosticsCall.readings).Pairwise (· ≤ ·))
    {clock : CaptureClock} {request : CaptureRequest}
    (hwithin : 0 < writer.retentionDays →
      ∀ now ∈ (made.flatMap DiagnosticsCall.readings).getLast?,
        now ≤ clock.writeAt "docker-state.json" +
          (writer.retentionDays * 86400 : Int)) :
    ∀ call ∈ made, ¬ writer.Expired call.pruneAt
      (stored alphanumeric floats clock request) := by
  rintro call hcall ⟨_, hdays, hold⟩
  have hreading : call.pruneAt ∈ made.flatMap DiagnosticsCall.readings :=
    List.mem_flatMap.mpr ⟨call, hcall, call.pruneAt_mem_readings⟩
  obtain ⟨now, hnow⟩ : ∃ now,
      now ∈ (made.flatMap DiagnosticsCall.readings).getLast? :=
    Option.isSome_iff_exists.mp
      (List.getLast?_isSome.mpr (List.ne_nil_of_mem hreading))
  have hearlier := le_getLast hclock hreading hnow
  have hlimit := hwithin hdays now hnow
  rw [cutoff] at hold
  have hmodified : (stored alphanumeric floats clock request).modified =
      clock.writeAt "docker-state.json" := rfl
  linarith

/-- On a clock that never goes back, every call preserves the bundles, and a
captured bundle stands complete until the retention has passed since its last
file was written. -/
theorem bundles_preserved (start : Volume) (made : List DiagnosticsCall)
    (hclock : (made.flatMap DiagnosticsCall.readings).Pairwise (· ≤ ·)) :
    (calls alphanumeric floats writer).Along
        (Preserves alphanumeric floats writer) start made ∧
      ∀ front clock request back,
        made = front ++ .capture clock request :: back →
        (0 < writer.retentionDays →
          ∀ now ∈ (made.flatMap DiagnosticsCall.readings).getLast?,
            now ≤ clock.writeAt "docker-state.json" +
              (writer.retentionDays * 86400 : Int)) →
        ∀ name, uniqueDirectory .none
            ((calls alphanumeric floats writer).run start front).1
            (baseName clock request.state) = .ok name →
          ((calls alphanumeric floats writer).run start made).1.lookup name =
            some (stored alphanumeric floats clock request) := by
  refine ⟨Mealy.along_of_forall
    (fun volume call => preserves alphanumeric floats writer volume call) made,
    ?_⟩
  rintro front clock request back rfl hwithin name hname
  have hkept : ∀ call ∈ .capture clock request :: back,
      ¬ writer.Expired call.pruneAt (stored alphanumeric floats clock
        request) := fun call hcall =>
    stored_not_expired alphanumeric floats writer hclock hwithin call
      (List.mem_append_right _ hcall)
  have hrun : ∀ volume : Volume, uniqueDirectory .none volume
      (baseName clock request.state) = .ok name →
      ((calls alphanumeric floats writer).run volume
        (.capture clock request :: back)).1.lookup name =
          some (stored alphanumeric floats clock request) := by
    intro volume hunique
    rw [Mealy.run_cons]
    refine run_lookup alphanumeric floats writer ?_ fun call hcall =>
      hkept call (List.mem_cons_of_mem _ hcall)
    obtain ⟨fresh, _, hsearch, _, hlookup⟩ :=
      preserves alphanumeric floats writer volume (.capture clock request)
    obtain rfl : fresh = name := Except.ok.inj
      ((uniqueDirectory_of_search hsearch).symm.trans hunique)
    refine (hlookup fresh).trans ?_
    rw [if_pos rfl]
    exact spare_of_not_expired (hkept _ List.mem_cons_self)
  rw [Mealy.run_append]
  exact hrun _ hname

end

/-- The sign-in page was seen. -/
def signInRequest : CaptureRequest where
  state := .loggedOut
  reason := "sign-in page"
  observation := { http := { category := .loggedOut, statusCode := some 302 } }
  restartCount24h := 0
  lastRestart := none
  restartAttempted := false
  teslamateLog := ""
  databaseLog := ""
  dockerState := none

/-- Two captures in one second, and a prune when their fortnight is over. -/
def sameSecond : List DiagnosticsCall :=
  [.capture (.still 1785000000) signInRequest,
    .capture (.still 1785000000) signInRequest,
    .prune (1785000000 + 14 * 86400)]

theorem bundles_preserved_sameSecond :
    ((calls (fun _ => false) noFloats fortnight).run
        (AList.singleton "old" (.directory [] 0)) sameSecond).1.lookup
      "20260725T172000Z_logged_out" =
        some (stored (fun _ => false) noFloats (.still 1785000000)
          signInRequest) ∧
    ((calls (fun _ => false) noFloats fortnight).run
        (AList.singleton "old" (.directory [] 0)) sameSecond).1.lookup
      "20260725T172000Z_logged_out-2" =
        some (stored (fun _ => false) noFloats (.still 1785000000)
          signInRequest) := by
  have hpreserved := (bundles_preserved (fun _ => false) noFloats fortnight
    (AList.singleton "old" (.directory [] 0)) sameSecond
    (by decide +kernel)).2
  constructor
  · exact hpreserved [] _ _ _ rfl (fun _ => by decide +kernel) _
      (by decide +kernel)
  · exact hpreserved [.capture (.still 1785000000) signInRequest] _ _ _ rfl
      (fun _ => by decide +kernel) _ (by decide +kernel)

end DiagnosticsWriter

end TeslamateWatchdog

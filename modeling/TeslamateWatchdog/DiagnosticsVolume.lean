/-
The diagnostics directory, and what the writer does in it: find a name that is
not taken, write the files of a bundle, prune what is too old.  Each call to the
file system may fail.
-/
import Mathlib.Data.List.AList
import TeslamateWatchdog.Diagnostics
import TeslamateWatchdog.Foundation.PyNumber

namespace TeslamateWatchdog

open Foundation

/-- A path from the root, or from the working directory. -/
structure PurePath where
  root : String
  parts : List String
deriving Repr, DecidableEq

namespace PurePath

def child (path : PurePath) (name : String) : PurePath :=
  { path with parts := path.parts ++ [name] }

def str (path : PurePath) : String :=
  if path.root = "" ∧ path.parts = [] then "."
  else path.root ++ "/".intercalate path.parts

end PurePath

/-- What stands under a name, with the time of its last change.  A directory
holds the files below it, each with its path. -/
inductive Entry where
  | file (content : String) (modified : ℚ)
  | directory (files : List (String × String)) (modified : ℚ)
deriving Repr, DecidableEq

namespace Entry

def isDirectory : Entry → Bool
  | file .. => false
  | directory .. => true

def modified : Entry → ℚ
  | file _ modified => modified
  | directory _ modified => modified

end Entry

/-- The entries of the diagnostics directory, in the order they are listed. -/
abbrev Volume := AList fun _ : String => Entry

/-- How a look at a path fails.  `exists` and `is_dir` take the first kind for
absence, and re-raise the second. -/
inductive Fault where
  | absent
  | denied
deriving Repr, DecidableEq

/-- The calls of one `capture` that fail, and what they leave behind. -/
structure Faults where
  present : String → Option Fault
  mkdir : Bool
  write : String → Option (Option String)
  iterdir : Bool
  isDir : String → Option Fault
  stat : String → Bool
  rmtree : String → Option Entry

def Faults.none : Faults where
  present _ := Option.none
  mkdir := false
  write _ := Option.none
  iterdir := false
  isDir _ := Option.none
  stat _ := false
  rmtree _ := Option.none

/-- The clock in the course of one `capture`. -/
structure CaptureClock where
  stampAt : ℚ
  mkdirAt : ℚ
  bodyAt : ℚ
  writeAt : String → ℚ
  pruneAt : ℚ

/-- A writer that has pruned once: at startup a retention beyond the floats
raises. -/
structure DiagnosticsWriter where
  base : PurePath
  retentionDays : Int
  convertible : ((retentionDays * 86400 : Int) : ℚ) < floatOverflow

/-- `strftime("%Y%m%dT%H%M%SZ")` of a UTC time. -/
def compactStamp (time : ℚ) : String :=
  let seconds := (PyTime.microseconds time).fdiv 1000000
  let date := PyTime.civilFromDays (seconds.fdiv 86400)
  let second := (seconds - seconds.fdiv 86400 * 86400).toNat
  let pad := PyText.zeroPadded
  pad 4 date.year.toNat ++ pad 2 date.month ++ pad 2 date.day ++ "T" ++
    pad 2 (second / 3600) ++ pad 2 (second / 60 % 60) ++ pad 2 (second % 60) ++
    "Z"

/-- `open(path, "w")` and a write.  A new file changes its directory. -/
def Volume.put (volume : Volume) (directory file content : String) (time : ℚ) :
    Volume :=
  match volume.lookup directory with
  | some (.directory files modified) =>
      volume.insert directory
        (if file ∈ files.map Prod.fst then
          .directory (files.map fun entry =>
            if entry.1 = file then (file, content) else entry) modified
        else .directory (files ++ [(file, content)]) time)
  | _ => volume

namespace DiagnosticsWriter

/-- `candidate.exists()`. -/
def pathExists (faults : Faults) (volume : Volume) (candidate : String) :
    Except PyError Bool :=
  match faults.present candidate with
  | some .absent => .ok false
  | some .denied => .error .osError
  | none => .ok (decide (candidate ∈ volume))

/-- The loop of `_unique_directory`, as long as the fuel lasts. -/
def search (faults : Faults) (volume : Volume) (baseName : String) :
    Nat → String → Nat → Option (Except PyError String)
  | 0, _, _ => none
  | fuel + 1, candidate, suffix =>
      match pathExists faults volume candidate with
      | .error error => some (.error error)
      | .ok false => some (.ok candidate)
      | .ok true =>
          search faults volume baseName fuel
            (baseName ++ "-" ++ toString suffix) (suffix + 1)

/-- The names the loop tries. -/
def candidate (baseName : String) : Nat → String
  | 0 => baseName
  | tried + 1 => baseName ++ "-" ++ toString (tried + 2)

/-- The name is seen to be taken. -/
def Taken (faults : Faults) (volume : Volume) (name : String) : Prop :=
  faults.present name = none ∧ name ∈ volume

instance (faults : Faults) (volume : Volume) (name : String) :
    Decidable (Taken faults volume name) :=
  inferInstanceAs (Decidable (_ ∧ _))

/-- The first name the loop tries that is not seen to be taken. -/
def FirstFree (faults : Faults) (volume : Volume) (baseName name : String) :
    Prop :=
  ∃ tried, name = candidate baseName tried ∧ ¬ Taken faults volume name ∧
    ∀ other < tried, Taken faults volume (candidate baseName other)

theorem candidate_injective (baseName : String) :
    Function.Injective (candidate baseName) := by
  have hlonger : ∀ tried, (candidate baseName (tried + 1)).length ≠
      baseName.length := by
    intro tried
    rw [candidate, String.length_append, String.length_append]
    have hdash : "-".length = 1 := rfl
    omega
  intro first second hsame
  have hlength := congrArg String.length hsame
  cases first with
  | zero =>
      cases second with
      | zero => rfl
      | succ second => exact absurd hlength.symm (hlonger second)
  | succ first =>
      cases second with
      | zero => exact absurd hlength (hlonger first)
      | succ second =>
          have hnumbers := (String.append_right_inj _).mp hsame
          have hvalues := congrArg (fun digits : String =>
            Nat.ofDigitChars 10 digits.toList 0) hnumbers
          simpa [Nat.toString_eq_ofList_toDigits] using hvalues

/-- Some name is free among any `n + 1` when `n` entries stand there. -/
theorem exists_free (faults : Faults) (volume : Volume) (baseName : String) :
    ∃ tried ≤ volume.keys.length,
      ¬ Taken faults volume (candidate baseName tried) := by
  by_contra! hall
  have hsubset : (List.range (volume.keys.length + 1)).map
      (candidate baseName) ⊆ volume.keys := by
    intro name hname
    obtain ⟨tried, htried, rfl⟩ := List.mem_map.mp hname
    exact AList.mem_keys.mp
      (hall tried (Nat.le_of_lt_succ (List.mem_range.mp htried))).2
  have hnodup : ((List.range (volume.keys.length + 1)).map
      (candidate baseName)).Nodup :=
    List.nodup_range.map (candidate_injective baseName)
  have hlength := (List.subperm_of_subset hnodup hsubset).length_le
  rw [List.length_map, List.length_range] at hlength
  exact absurd hlength (Nat.not_succ_le_self _)

theorem exists_firstFree (faults : Faults) (volume : Volume)
    (baseName : String) :
    ∃ tried ≤ volume.keys.length,
      ¬ Taken faults volume (candidate baseName tried) ∧
        ∀ other < tried, Taken faults volume (candidate baseName other) := by
  have hfree : ∃ tried, ¬ Taken faults volume (candidate baseName tried) := by
    obtain ⟨tried, _, hfree⟩ := exists_free faults volume baseName
    exact ⟨tried, hfree⟩
  refine ⟨Nat.find hfree, ?_, Nat.find_spec hfree, fun other hother => ?_⟩
  · obtain ⟨tried, hbound, htried⟩ := exists_free faults volume baseName
    exact (Nat.find_min' hfree htried).trans hbound
  · exact not_not.mp (Nat.find_min hfree hother)

/-- What the loop makes of the first name not seen to be taken. -/
def settle (faults : Faults) (name : String) : Except PyError String :=
  if faults.present name = some .denied then .error .osError else .ok name

theorem pathExists_taken {faults : Faults} {volume : Volume} {name : String}
    (htaken : Taken faults volume name) :
    pathExists faults volume name = .ok true := by
  rw [pathExists, htaken.1]
  simp [htaken.2]

/-- The loop walks over the names that are taken to the first that is not. -/
theorem search_eq {faults : Faults} {volume : Volume} {baseName : String}
    {start steps fuel : Nat}
    (htaken : ∀ other < steps,
      Taken faults volume (candidate baseName (start + other)))
    (hfree : ¬ Taken faults volume (candidate baseName (start + steps)))
    (hfuel : steps < fuel) :
    search faults volume baseName fuel (candidate baseName start)
        (start + 2) =
      some (settle faults (candidate baseName (start + steps))) := by
  induction fuel generalizing start steps with
  | zero => exact absurd hfuel (Nat.not_lt_zero _)
  | succ fuel ih =>
      cases steps with
      | zero =>
          rw [search, settle]
          cases hpresent : faults.present (candidate baseName start) with
          | none =>
              have habsent : candidate baseName start ∉ volume :=
                fun hmem => hfree ⟨hpresent, hmem⟩
              simp [pathExists, hpresent, habsent]
          | some fault =>
              cases fault <;> simp [pathExists, hpresent]
      | succ steps =>
          have hnext := @ih (start + 1) steps
            (fun other hother => by
              have hlater := htaken (other + 1) (by omega)
              rwa [show start + (other + 1) = start + 1 + other by omega]
                at hlater)
            (by rwa [show start + 1 + steps = start + (steps + 1) by omega])
            (by omega)
          have htakenNow : Taken faults volume (candidate baseName start) :=
            htaken 0 (Nat.succ_pos _)
          rw [search, pathExists_taken htakenNow,
            show start + (steps + 1) = start + 1 + steps by omega]
          exact hnext

theorem search_of_firstFree {faults : Faults} {volume : Volume}
    {baseName name : String} {fuel : Nat}
    (hfirst : FirstFree faults volume baseName name)
    (hfuel : volume.keys.length < fuel) :
    search faults volume baseName fuel baseName 2 =
      some (settle faults name) := by
  obtain ⟨tried, rfl, hfree, htaken⟩ := hfirst
  obtain ⟨first, hbound, hfirstFree, hearlier⟩ :=
    exists_firstFree faults volume baseName
  have hsteps : tried ≤ first := by
    by_contra! hlater
    exact hfirstFree (htaken first hlater)
  have hwalk := @search_eq faults volume baseName 0 tried fuel
    (fun other hother => by
      rw [Nat.zero_add]
      exact htaken other hother)
    (by rwa [Nat.zero_add]) (by omega)
  rw [Nat.zero_add, Nat.zero_add] at hwalk
  exact hwalk

theorem search_isSome (faults : Faults) (volume : Volume) (baseName : String) :
    (search faults volume baseName (volume.keys.length + 1) baseName
      2).isSome := by
  obtain ⟨tried, _, hfree, htaken⟩ :=
    exists_firstFree faults volume baseName
  rw [search_of_firstFree ⟨tried, rfl, hfree, htaken⟩ (Nat.lt_succ_self _)]
  rfl

/-- `_unique_directory`: the loop ends within one step more than there are
entries. -/
def uniqueDirectory (faults : Faults) (volume : Volume) (baseName : String) :
    Except PyError String :=
  (search faults volume baseName (volume.keys.length + 1) baseName 2).get
    (search_isSome faults volume baseName)

theorem uniqueDirectory_eq {faults : Faults} {volume : Volume}
    {baseName name : String}
    (hfirst : FirstFree faults volume baseName name) :
    uniqueDirectory faults volume baseName = settle faults name := by
  rw [uniqueDirectory, Option.get_of_eq_some _
    (search_of_firstFree hfirst (Nat.lt_succ_self _))]

/-- `directory.mkdir(parents=True, exist_ok=True)`, and whether it succeeds. -/
def mkdir (faults : Faults) (clock : CaptureClock) (directory : String)
    (volume : Volume) : Bool × Volume :=
  if faults.mkdir then (false, volume)
  else
    match volume.lookup directory with
    | some (.directory ..) => (true, volume)
    | some (.file ..) => (false, volume)
    | none =>
        (true, volume.insert directory (.directory [] clock.mkdirAt))

/-- The writes of a bundle, and whether all succeed. -/
def writeFiles (faults : Faults) (clock : CaptureClock) (directory : String) :
    List (String × String) → Volume → Bool × Volume
  | [], volume => (true, volume)
  | (file, content) :: rest, volume =>
      match faults.write file with
      | none =>
          writeFiles faults clock directory rest
            (volume.put directory file content (clock.writeAt file))
      | some none => (false, volume)
      | some (some reached) =>
          (false, volume.put directory file reached (clock.writeAt file))

/-- `entry.is_dir()`. -/
def isDir (faults : Faults) (name : String) (entry : Entry) :
    Except PyError Bool :=
  match faults.isDir name with
  | some .absent => .ok false
  | some .denied => .error .osError
  | none => .ok entry.isDirectory

/-- The `try` block of `prune`, and whether it removes the entry. -/
def expire (faults : Faults) (cutoff : ℚ) (name : String) (entry : Entry)
    (volume : Volume) : Bool × Volume :=
  if faults.stat name then (false, volume)
  else if cutoff ≤ entry.modified then (false, volume)
  else
    match faults.rmtree name with
    | none => (true, volume.erase name)
    | some left => (false, volume.replace name left)

/-- The loop of `prune`. -/
def sweep (faults : Faults) (cutoff : ℚ) :
    List (Σ _ : String, Entry) → Nat → Volume → Except PyError Nat × Volume
  | [], removed, volume => (.ok removed, volume)
  | ⟨name, entry⟩ :: rest, removed, volume =>
      match isDir faults name entry with
      | .error error => (.error error, volume)
      | .ok false => sweep faults cutoff rest removed volume
      | .ok true =>
          match expire faults cutoff name entry volume with
          | (true, after) => sweep faults cutoff rest (removed + 1) after
          | (false, after) => sweep faults cutoff rest removed after

/-- `time.time() - self._retention_days * 86400`. -/
def cutoff (writer : DiagnosticsWriter) (now : ℚ) : ℚ :=
  now - (writer.retentionDays * 86400 : Int)

def prune (writer : DiagnosticsWriter) (faults : Faults) (now : ℚ)
    (volume : Volume) : Except PyError Nat × Volume :=
  if writer.retentionDays ≤ 0 then (.ok 0, volume)
  else if faults.iterdir then (.ok 0, volume)
  else sweep faults (writer.cutoff now) volume.entries 0 volume

/-- `f"{stamp}_{state.lower()}"`. -/
def baseName (clock : CaptureClock) (state : State) : String :=
  compactStamp clock.stampAt ++ "_" ++ state.value.toLower

def incident (writer : DiagnosticsWriter) (directory : String) : Incident where
  directory := (writer.base.child directory).str
  summary := ((writer.base.child directory).child "summary.json").str

/-- The files of the bundle of a request. -/
def files (alphanumeric : Char → Bool) (floats : Json.FloatRepr)
    (clock : CaptureClock) (request : CaptureRequest) :
    List (String × String) :=
  bundle alphanumeric floats
    (PyTime.isoFormat (PyTime.microseconds clock.bodyAt)) request

/-- The names of the files of a bundle. -/
def fileNames : List String :=
  ["summary.json", "teslamate.log", "database.log", "docker-state.json"]

theorem map_fst_files (alphanumeric : Char → Bool) (floats : Json.FloatRepr)
    (clock : CaptureClock) (request : CaptureRequest) :
    (files alphanumeric floats clock request).map Prod.fst = fileNames := rfl

def capture (alphanumeric : Char → Bool) (floats : Json.FloatRepr)
    (writer : DiagnosticsWriter) (faults : Faults) (clock : CaptureClock)
    (request : CaptureRequest) (volume : Volume) :
    Except PyError (Option Incident) × Volume :=
  match uniqueDirectory faults volume (baseName clock request.state) with
  | .error error => (.error error, volume)
  | .ok directory =>
      match mkdir faults clock directory volume with
      | (false, after) => (.ok none, after)
      | (true, made) =>
          match writeFiles faults clock directory
              (files alphanumeric floats clock request) made with
          | (false, after) => (.ok none, after)
          | (true, written) =>
              match writer.prune faults clock.pruneAt written with
              | (.error error, after) => (.error error, after)
              | (.ok _, after) =>
                  (.ok (some (writer.incident directory)), after)

/-- Bundles of the last fortnight, in the image's directory. -/
def fortnight : DiagnosticsWriter where
  base := ⟨"/", ["data", "diagnostics"]⟩
  retentionDays := 14
  convertible := by decide +kernel

end DiagnosticsWriter

/-- A clock that stands still during a capture. -/
def CaptureClock.still (time : ℚ) : CaptureClock :=
  ⟨time, time, time, fun _ => time, time⟩

end TeslamateWatchdog

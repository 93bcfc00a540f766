/-
Parsing the durations of the configuration: the accepting expression and the
table of units, and the texts on which the two do not agree.
-/
import TeslamateWatchdog.Foundation.PyNumber
import TeslamateWatchdog.Redaction

namespace TeslamateWatchdog

open Foundation PyText

/-- What a setting that cannot be read raises: the `ConfigError` that `main`
reports, or an exception of Python's own, which it does not. -/
inductive ConfigRaise where
  | configError (message : String)
  | raised (error : PyError)
deriving Repr, DecidableEq

/-- `[smhd]`, with case ignored. -/
def isUnit (c : Char) : Bool :=
  ['s', 'm', 'h', 'd'].any (sameLetter · c)

/-- `(\d+)([smhd]?)`, with case ignored; the group is the second one. -/
def durationPattern : Regex :=
  .seq (.many 1 isDecimal) (.group (.optional (.set isUnit)))

/-- What follows a match of `$`. -/
def isEnd (rest : List Char) : Bool :=
  rest == [] || rest == ['\n']

/-- `_DURATION_RE.match(text).groups()`; the second group is what stands before
the end of the match, the first what stands before the second. -/
def matchDuration (text : List Char) : Option (List Char × List Char) :=
  ((durationPattern.run Char.isAlphanum ⟨false, text, []⟩).find? fun finish =>
      isEnd finish.rest).map fun finish =>
    (text.take (text.length - (finish.captured.length + finish.rest.length)),
      finish.captured)

def durationUnits : List (String × Nat) :=
  [("", 1), ("s", 1), ("m", 60), ("h", 3600), ("d", 86400)]

def durationMessage (raw field : String) : String :=
  field ++ " must look like '90s', '5m', '2h' or '7d', got " ++ PyText.repr raw

/-- Parse `30s`, `5m`, `2h`, `7d` or a bare integer into seconds. -/
def parseDuration (raw field : String) : Except ConfigRaise Int :=
  match matchDuration (strip raw).toList with
  | none => .error (.configError (durationMessage raw field))
  | some (amount, unit) =>
      match toInt (String.ofList amount) with
      | .error error => .error (.raised error)
      | .ok value =>
          match durationUnits.lookup (lower (String.ofList unit)) with
          | none => .error (.raised .keyError)
          | some seconds => .ok (value * seconds)

/-- The letters of the units in either case, and the long s. -/
def unitLetters : List Char :=
  ['s', 'S', 'm', 'M', 'h', 'H', 'd', 'D', '\u017F']

theorem mem_unitLetters {c : Char} (hunit : isUnit c = true) :
    c ∈ unitLetters := by
  have hunits : (['s', 'm', 'h', 'd'].all fun letter =>
      unitLetters.contains letter && letter != 'k' &&
        unitLetters.contains (Char.ofNat (letter.toNat - 32))) = true := by
    decide
  obtain ⟨letter, hmem, hsame⟩ := List.any_eq_true.mp hunit
  have hletter := List.all_eq_true.mp hunits letter hmem
  simp only [Bool.and_eq_true, List.contains_iff_mem, bne_iff_ne] at hletter
  obtain ⟨⟨hlower, hk⟩, hupper⟩ := hletter
  rcases eq_of_sameLetter hsame with
    rfl | ⟨-, hcode⟩ | ⟨rfl, -⟩ | ⟨-, hkelvin⟩
  · exact hlower
  · rwa [← hcode, Nat.add_sub_cancel, Char.ofNat_toNat] at hupper
  · simp [unitLetters]
  · exact absurd hkelvin hk

theorem not_isDecimal_of_isUnit {c : Char} (hunit : isUnit c = true) :
    isDecimal c = false := by
  have hletters : (unitLetters.all fun c => !isDecimal c) = true := by
    decide +kernel
  simpa using List.all_eq_true.mp hletters c (mem_unitLetters hunit)

/-- How the expression divides a text. -/
structure DurationParts (text amount unit tail : List Char) : Prop where
  divides : text = amount ++ unit ++ tail
  nonempty : amount ≠ []
  decimals : ∀ c ∈ amount, isDecimal c = true
  unit_cases : unit = [] ∨ ∃ c, isUnit c = true ∧ unit = [c]
  ends : isEnd tail = true

namespace DurationParts

variable {text amount unit tail : List Char}

theorem tail_cases (parts : DurationParts text amount unit tail) :
    tail = [] ∨ tail = ['\n'] := by
  simpa [isEnd] using parts.ends

theorem takeWhile_eq (parts : DurationParts text amount unit tail) :
    text.takeWhile isDecimal = amount := by
  have hline : isDecimal '\n' = false := by decide +kernel
  have hrest : (unit ++ tail).takeWhile isDecimal = [] := by
    rcases parts.unit_cases with rfl | ⟨c, hunit, rfl⟩
    · rcases parts.tail_cases with rfl | rfl
      · rfl
      · simp [hline]
    · simp [not_isDecimal_of_isUnit hunit]
  rw [parts.divides, List.append_assoc,
    List.takeWhile_append_of_pos parts.decimals, hrest, List.append_nil]

/-- A text is divided in one way. -/
theorem unique {other others rest : List Char}
    (parts : DurationParts text amount unit tail)
    (again : DurationParts text other others rest) :
    amount = other ∧ unit = others := by
  have hamount : amount = other :=
    parts.takeWhile_eq.symm.trans again.takeWhile_eq
  subst hamount
  have hrest : unit ++ tail = others ++ rest := by
    have hsame := parts.divides.symm.trans again.divides
    rwa [List.append_assoc, List.append_assoc, List.append_cancel_left_eq]
      at hsame
  have hline : isUnit '\n' = false := by decide +kernel
  refine ⟨rfl, ?_⟩
  rcases parts.unit_cases with rfl | ⟨c, hunit, rfl⟩
  · rcases again.unit_cases with rfl | ⟨d, hother, rfl⟩
    · rfl
    · rcases parts.tail_cases with rfl | rfl
      · cases hrest
      · obtain ⟨rfl, -⟩ := List.cons.inj hrest
        rw [hline] at hother
        cases hother
  · rcases again.unit_cases with rfl | ⟨d, hother, rfl⟩
    · rcases again.tail_cases with rfl | rfl
      · cases hrest
      · obtain ⟨rfl, -⟩ := List.cons.inj hrest
        rw [hline] at hunit
        cases hunit
    · rw [(List.cons.inj hrest).1]

end DurationParts

theorem parts_of_matchDuration {text amount unit : List Char}
    (hmatch : matchDuration text = some (amount, unit)) :
    ∃ tail, DurationParts text amount unit tail := by
  obtain ⟨finish, hfind, hgroups⟩ := Option.map_eq_some_iff.mp hmatch
  have hend := List.find?_some hfind
  obtain ⟨middle, hmiddle, hfinish⟩ :=
    List.mem_flatMap.mp (List.mem_of_find?_eq_some hfind)
  obtain ⟨taken, htaken, hlength, hdecimals⟩ := Regex.run_derives hmiddle
  obtain ⟨hunit, hrest⟩ := Regex.captured_group hfinish
  have htext : text = taken ++ finish.captured ++ finish.rest := by
    rw [List.append_assoc, ← hrest]
    exact htaken
  have hcut : text.take (text.length -
      (finish.captured.length + finish.rest.length)) = taken := by
    rw [htext, ← List.length_append, List.append_assoc, List.length_append,
      Nat.add_sub_cancel_right, List.take_left]
  obtain ⟨rfl, rfl⟩ := Prod.mk.inj hgroups
  rw [hcut]
  refine ⟨finish.rest, htext, List.ne_nil_of_length_pos hlength, hdecimals,
    ?_, hend⟩
  rcases hunit with hletter | hempty
  · exact .inr hletter
  · exact .inl hempty

theorem matchDuration_of_parts {text amount unit tail : List Char}
    (parts : DurationParts text amount unit tail) :
    matchDuration text = some (amount, unit) := by
  have hderives : durationPattern.Derives (amount ++ unit) := by
    refine ⟨amount, unit, rfl, ⟨List.length_pos_of_ne_nil parts.nonempty,
      parts.decimals⟩, ?_⟩
    rcases parts.unit_cases with hempty | hletter
    · exact .inr hempty
    · exact .inl hletter
  obtain ⟨finish, hfinish, hrest, -⟩ :=
    @Regex.run_of_derives Char.isAlphanum _ (by decide) _ hderives false tail []
  rw [← parts.divides] at hfinish
  have hfound : (matchDuration text).isSome = true := by
    rw [matchDuration, Option.isSome_map, List.find?_isSome]
    exact ⟨finish, hfinish, by rw [hrest]; exact parts.ends⟩
  obtain ⟨⟨other, others⟩, hmatch⟩ := Option.isSome_iff_exists.mp hfound
  obtain ⟨rest, again⟩ := parts_of_matchDuration hmatch
  obtain ⟨rfl, rfl⟩ := parts.unique again
  exact hmatch

/-- The seconds of a unit, written in either case; none is a second. -/
def unitSeconds : List Char → Option Nat
  | [] => some 1
  | ['s'] => some 1
  | ['S'] => some 1
  | ['m'] => some 60
  | ['M'] => some 60
  | ['h'] => some 3600
  | ['H'] => some 3600
  | ['d'] => some 86400
  | ['D'] => some 86400
  | _ => none

/-- One or more digits, and then at most one unit. -/
def IsDuration (text : List Char) (seconds : Nat) : Prop :=
  ∃ digits unit multiplier, text = digits ++ unit ∧ digits ≠ [] ∧
    (∀ c ∈ digits, isDecimal c = true) ∧ unitSeconds unit = some multiplier ∧
    seconds = decimalValue digits * multiplier

/-- A duration is read as its seconds, and every other text is a
`ConfigError`. -/
def FollowsGrammar (raw field : String) : Prop :=
  (∀ seconds, IsDuration (strip raw).toList seconds →
    parseDuration raw field = .ok seconds) ∧
  ((∀ seconds, ¬IsDuration (strip raw).toList seconds) →
    ∃ message, parseDuration raw field = .error (.configError message))

/-- The table of units agrees with the grammar on what the expression
accepts. -/
theorem lookup_lower_unit {unit : List Char}
    (hunit : unit = [] ∨ ∃ c, isUnit c = true ∧ unit = [c]) :
    durationUnits.lookup (lower (String.ofList unit)) = unitSeconds unit := by
  have hletters : (unitLetters.all fun c =>
      durationUnits.lookup (lower (String.ofList [c])) == unitSeconds [c]) =
        true := by decide +kernel
  rcases hunit with rfl | ⟨c, hc, rfl⟩
  · decide +kernel
  · exact eq_of_beq (List.all_eq_true.mp hletters c (mem_unitLetters hc))

/-- All that the expression accepts beyond the grammar is the long s. -/
theorem unitSeconds_eq_none {c : Char} (hunit : isUnit c = true)
    (hnone : unitSeconds [c] = none) : c = '\u017F' := by
  have hletters : (unitLetters.all fun c =>
      (unitSeconds [c]).isSome || c == '\u017F') = true := by decide
  have hletter := List.all_eq_true.mp hletters c (mem_unitLetters hunit)
  simpa [hnone] using hletter

theorem unit_of_unitSeconds {unit : List Char} {multiplier : Nat}
    (hunit : unitSeconds unit = some multiplier) :
    unit = [] ∨ ∃ c, isUnit c = true ∧ unit = [c] := by
  unfold unitSeconds at hunit
  split at hunit
  · exact .inl rfl
  all_goals first
    | exact .inr ⟨_, by decide, rfl⟩
    | cases hunit

theorem parseDuration_of_parts {raw field : String}
    {amount unit tail : List Char}
    (parts : DurationParts (strip raw).toList amount unit tail)
    (hlimit : amount.length ≤ maxStrDigits) :
    parseDuration raw field =
      match unitSeconds unit with
      | none => .error (.raised .keyError)
      | some seconds => .ok (decimalValue amount * seconds) := by
  unfold parseDuration
  rw [matchDuration_of_parts parts]
  dsimp only
  rw [toInt_of_decimals parts.nonempty parts.decimals hlimit]
  dsimp only
  rw [lookup_lower_unit parts.unit_cases]

/-- After stripping, nothing follows the unit. -/
theorem tail_eq_nil {raw : String} {amount unit tail : List Char}
    (parts : DurationParts (strip raw).toList amount unit tail) : tail = [] := by
  rcases parts.tail_cases with rfl | rfl
  · rfl
  · exfalso
    have htext := parts.divides
    rw [strip, String.toList_ofList] at htext
    have hlast := List.rdropWhile_last_not isSpace
      (raw.toList.dropWhile isSpace) (by simp [htext])
    apply hlast
    simp only [htext, List.getLast_append_singleton]
    decide

/-- The texts on which the expression and the table of units do not agree. -/
def LongSecond (text : List Char) : Prop :=
  ∃ digits, digits ≠ [] ∧ (∀ c ∈ digits, isDecimal c = true) ∧
    text = digits ++ ['\u017F']

theorem LongSecond.parts {text : List Char} (hlong : LongSecond text) :
    ∃ digits, DurationParts text digits ['\u017F'] [] := by
  obtain ⟨digits, hnonempty, hdecimals, htext⟩ := hlong
  exact ⟨digits, by rw [htext, List.append_nil], hnonempty, hdecimals,
    .inr ⟨_, by decide, rfl⟩, rfl⟩

theorem LongSecond.not_isDuration {text : List Char} (hlong : LongSecond text)
    (seconds : Nat) : ¬IsDuration text seconds := by
  rintro ⟨others, unit, multiplier, hsplit, hne, hall, hunit, -⟩
  obtain ⟨digits, parts⟩ := hlong.parts
  have again : DurationParts text others unit [] :=
    ⟨by rw [hsplit, List.append_nil], hne, hall, unit_of_unitSeconds hunit, rfl⟩
  rw [← (parts.unique again).2] at hunit
  cases hunit

/-- The grammar is followed but for a long s in the place of the unit. -/
theorem followsGrammar_iff {raw : String}
    (hlimit : ((strip raw).toList.takeWhile isDecimal).length ≤ maxStrDigits)
    (field : String) :
    FollowsGrammar raw field ↔ ¬LongSecond (strip raw).toList := by
  constructor
  · rintro ⟨-, hother⟩ hlong
    obtain ⟨digits, parts⟩ := hlong.parts
    rw [parts.takeWhile_eq] at hlimit
    obtain ⟨message, hraises⟩ := hother hlong.not_isDuration
    rw [parseDuration_of_parts parts hlimit] at hraises
    cases hraises
  · intro hshort
    constructor
    · rintro seconds
        ⟨digits, unit, multiplier, htext, hne, hall, hunit, rfl⟩
      have parts : DurationParts (strip raw).toList digits unit [] :=
        ⟨by rw [htext, List.append_nil], hne, hall,
          unit_of_unitSeconds hunit, rfl⟩
      rw [parts.takeWhile_eq] at hlimit
      rw [parseDuration_of_parts parts hlimit, hunit]
      simp
    · intro hnone
      cases hmatch : matchDuration (strip raw).toList with
      | none => exact ⟨durationMessage raw field, by rw [parseDuration, hmatch]⟩
      | some groups =>
          exfalso
          obtain ⟨amount, unit⟩ := groups
          obtain ⟨tail, parts⟩ := parts_of_matchDuration hmatch
          obtain rfl := tail_eq_nil parts
          have htext := parts.divides
          rw [List.append_nil] at htext
          cases hunit : unitSeconds unit with
          | some multiplier =>
              exact hnone _ ⟨amount, unit, multiplier, htext, parts.nonempty,
                parts.decimals, hunit, rfl⟩
          | none =>
              rcases parts.unit_cases with rfl | ⟨c, hc, rfl⟩
              · cases hunit
              · obtain rfl := unitSeconds_eq_none hc hunit
                exact hshort ⟨amount, parts.nonempty, parts.decimals, htext⟩

example : parseDuration "\u0663m" "X" = .ok 180 := by decide +kernel

/-- Two hours, with the unit in upper case. -/
theorem upperHours_followsGrammar :
    FollowsGrammar " 2H " "X" ∧ parseDuration " 2H " "X" = .ok 7200 := by
  have hlast : (strip " 2H ").toList.getLast? = some 'H' := by decide +kernel
  have hfollows : FollowsGrammar " 2H " "X" := by
    refine (followsGrammar_iff (by decide +kernel) "X").mpr ?_
    rintro ⟨digits, -, -, htext⟩
    rw [htext, List.getLast?_concat] at hlast
    exact absurd hlast (by decide)
  exact ⟨hfollows, by decide +kernel⟩

/-- Five long seconds: what is raised is a `KeyError`. -/
theorem longSecond_raises :
    parseDuration "5\u017F" "X" = .error (.raised .keyError) ∧
      ¬FollowsGrammar "5\u017F" "X" := by
  have hraises : parseDuration "5\u017F" "X" = .error (.raised .keyError) := by
    decide +kernel
  have hlong : LongSecond (strip "5\u017F").toList :=
    ⟨['5'], by decide, by simp only [List.forall_mem_singleton]; decide +kernel,
      by decide +kernel⟩
  refine ⟨hraises, fun hfollows => ?_⟩
  obtain ⟨message, hreported⟩ := hfollows.2 hlong.not_isDuration
  rw [hraises] at hreported
  cases hreported

end TeslamateWatchdog

/-
Classifying recent TeslaMate log lines into failure categories.  A compiled
regular expression enters only through the lines it is found in.
-/
import TeslamateWatchdog.StateMachine

namespace TeslamateWatchdog

open Foundation

/-- `pattern.search(line)` of one compiled expression, as a truth value. -/
abbrev Pattern := String → Bool

/-- Matched lines are recorded only as evidence, never as data. -/
def maxExcerptChars : Nat := 120

def defaultThresholds : List (String × Int) :=
  [("auth_lost", 1), ("refresh_failure", 3), ("database_failure", 3),
    ("token_decryption", 1), ("network_failure", 5), ("refresh_success", 1)]

structure Classification where
  counts : List (String × Nat) := []
  examples : List (String × String) := []
  linesScanned : Nat := 0
deriving Repr, DecidableEq

/-- `counts.get(category, 0)`. -/
def Classification.count (classification : Classification)
    (category : String) : Nat :=
  (classification.counts.lookup category).getD 0

def truncate (line : String) : String :=
  let collapsed := " ".intercalate (PyText.splitWords line)
  if collapsed.length ≤ maxExcerptChars then collapsed
  else PyText.front collapsed maxExcerptChars ++ "…"

/-- `counts[category] = counts.get(category, 0) + 1` on a dictionary. -/
def bump (category : String) : List (String × Nat) → List (String × Nat)
  | [] => [(category, 1)]
  | (key, value) :: rest =>
      if key = category then (key, value + 1) :: rest
      else (key, value) :: bump category rest

/-- `examples.setdefault(category, excerpt)` on a dictionary. -/
def setDefault (category excerpt : String)
    (examples : List (String × String)) : List (String × String) :=
  if (examples.lookup category).isSome then examples
  else examples ++ [(category, excerpt)]

/-- The compiled patterns by category, and the thresholds of the patterns file
laid over the default ones. -/
structure LogClassifier where
  patterns : List (String × List Pattern)
  customThresholds : List (String × Int)
  /-- The categories are the keys of a dictionary. -/
  patterns_nodup : (patterns.map Prod.fst).Nodup

namespace LogClassifier

def isEmpty (classifier : LogClassifier) : Bool :=
  !classifier.patterns.any fun entry => !entry.2.isEmpty

/-- `thresholds.get(category, 1)` on the merged thresholds. -/
def threshold (classifier : LogClassifier) (category : String) : Int :=
  match classifier.customThresholds.lookup category with
  | some value => value
  | none => (defaultThresholds.lookup category).getD 1

/-- One category's turn for one line. -/
def classifyCategory (line : String) (found : Classification)
    (entry : String × List Pattern) : Classification :=
  if entry.2.any (· line) then
    { found with
      counts := bump entry.1 found.counts
      examples := setDefault entry.1 (truncate line) found.examples }
  else found

/-- One line's turn; blank lines are passed over. -/
def classifyLine (classifier : LogClassifier) (found : Classification)
    (line : String) : Classification :=
  if PyText.strip line = "" then found
  else classifier.patterns.foldl (classifyCategory line) found

def classify (classifier : LogClassifier) (text : String) : Classification :=
  let lines := PyText.splitLines text
  { lines.foldl classifier.classifyLine {} with linesScanned := lines.length }

/-- `classification.confirmed(category, thresholds)`. -/
def confirmed (classifier : LogClassifier) (classification : Classification)
    (category : String) : Bool :=
  classifier.threshold category ≤ classification.count category

/-- Turn counts into the booleans the state machine consumes. -/
def signals (classifier : LogClassifier) (classification : Classification) :
    LogSignals where
  authLost := classifier.confirmed classification "auth_lost"
  authRefreshFailing := classifier.confirmed classification "refresh_failure"
  databaseFailure := classifier.confirmed classification "database_failure"
  tokenDecryptionFailure :=
    classifier.confirmed classification "token_decryption"
  refreshSuccess := classifier.confirmed classification "refresh_success"
  categoryMatches := classification.counts

/-- Some expression of the category is found in the line. -/
def Hits (classifier : LogClassifier) (category line : String) : Prop :=
  ∃ entry ∈ classifier.patterns, entry.1 = category ∧
    entry.2.any (· line) = true

end LogClassifier

/-- The categories that `evaluate` holds against TeslaMate. -/
def failureCategories : List String :=
  ["auth_lost", "refresh_failure", "token_decryption"]

theorem lookup_bump_of_ne {category other : String} (hne : other ≠ category)
    (counts : List (String × Nat)) :
    (bump category counts).lookup other = counts.lookup other := by
  induction counts with
  | nil => simp [bump, hne]
  | cons head rest ih =>
      obtain ⟨key, value⟩ := head
      by_cases hkey : key = category
      · subst hkey
        have hbeq : (other == key) = false := beq_eq_false_iff_ne.mpr hne
        simp [bump, List.lookup_cons, hbeq]
      · simp only [bump, hkey, if_false, List.lookup_cons]
        rw [ih]

theorem keys_bump (category : String) (counts : List (String × Nat)) :
    (bump category counts).map Prod.fst =
      if category ∈ counts.map Prod.fst then counts.map Prod.fst
      else counts.map Prod.fst ++ [category] := by
  induction counts with
  | nil => rfl
  | cons entry rest ih =>
      obtain ⟨key, value⟩ := entry
      rw [bump]
      by_cases hkey : key = category
      · simp [hkey]
      · rw [if_neg hkey, List.map_cons, ih]
        by_cases hrest : category ∈ rest.map Prod.fst
        · simp [hrest]
        · simp [hrest, Ne.symm hkey]

theorem keys_setDefault (category excerpt : String)
    (examples : List (String × String)) :
    (setDefault category excerpt examples).map Prod.fst =
      if category ∈ examples.map Prod.fst then examples.map Prod.fst
      else examples.map Prod.fst ++ [category] := by
  have hkey : (examples.lookup category).isSome = true ↔
      category ∈ examples.map Prod.fst := by
    rw [List.lookup_isSome_iff, List.mem_map]
    simp only [beq_iff_eq, @eq_comm _ category]
  unfold setDefault
  by_cases hmem : category ∈ examples.map Prod.fst
  · rw [if_pos hmem, if_pos (hkey.mpr hmem)]
  · rw [if_neg hmem, if_neg (mt hkey.mp hmem), List.map_append]
    rfl

namespace LogClassifier

instance (classifier : LogClassifier) (category line : String) :
    Decidable (classifier.Hits category line) :=
  inferInstanceAs (Decidable (∃ entry ∈ classifier.patterns, _))

/-- The non-blank lines of a text that some expression of the category is found
in. -/
def matchingLines (classifier : LogClassifier) (category text : String) : Nat :=
  (PyText.splitLines text).countP fun line =>
    decide (PyText.strip line ≠ "" ∧ classifier.Hits category line)

end LogClassifier

theorem count_bump (category : String) (counts : List (String × Nat)) :
    ((bump category counts).lookup category).getD 0 =
      (counts.lookup category).getD 0 + 1 := by
  induction counts with
  | nil => simp [bump]
  | cons head rest ih =>
      obtain ⟨key, value⟩ := head
      by_cases hkey : key = category
      · subst hkey
        simp [bump]
      · have hbeq : (category == key) = false :=
          beq_eq_false_iff_ne.mpr (Ne.symm hkey)
        simp only [bump, hkey, if_false, List.lookup_cons, hbeq]
        exact ih

namespace LogClassifier

variable {classifier : LogClassifier} {category line : String}

theorem hits_iff : classifier.Hits category line ↔
    (classifier.patterns.any fun entry =>
      decide (entry.1 = category) && entry.2.any (· line)) = true := by
  simp [Hits]

/-- Every category is a key of its own, so the line counts once for it. -/
theorem count_foldl_classifyCategory (entries : List (String × List Pattern))
    (hnodup : (entries.map Prod.fst).Nodup) (found : Classification) :
    (entries.foldl (classifyCategory line) found).count category =
      found.count category +
        if (entries.any fun entry =>
          decide (entry.1 = category) && entry.2.any (· line)) = true then 1
        else 0 := by
  induction entries generalizing found with
  | nil => simp
  | cons entry rest ih =>
      rw [List.map_cons, List.nodup_cons] at hnodup
      rw [List.foldl_cons, ih hnodup.2, List.any_cons]
      by_cases hany : entry.2.any (· line) = true
      · by_cases hkey : entry.1 = category
        · have hrest : (rest.any fun other => decide (other.1 = category) &&
              other.2.any (· line)) = false := by
            rw [List.any_eq_false]
            intro other hother hmatches
            rw [Bool.and_eq_true, decide_eq_true_eq] at hmatches
            apply hnodup.1
            rw [hkey, ← hmatches.1]
            exact List.mem_map_of_mem hother
          have hcount : (classifyCategory line found entry).count category =
              found.count category + 1 := by
            rw [classifyCategory, if_pos hany, Classification.count, hkey]
            exact count_bump category found.counts
          rw [hcount, hrest, hany, decide_eq_true hkey]
          rfl
        · have hcount : (classifyCategory line found entry).count category =
              found.count category := by
            rw [classifyCategory, if_pos hany]
            simp only [Classification.count]
            rw [lookup_bump_of_ne (Ne.symm hkey)]
          rw [hcount, decide_eq_false hkey, Bool.false_and, Bool.false_or]
      · rw [classifyCategory, if_neg hany]
        rw [Bool.not_eq_true] at hany
        rw [hany, Bool.and_false, Bool.false_or]

theorem count_classifyLine (found : Classification) :
    (classifier.classifyLine found line).count category =
      found.count category +
        if PyText.strip line ≠ "" ∧ classifier.Hits category line then 1
        else 0 := by
  by_cases hblank : PyText.strip line = ""
  · simp [classifyLine, hblank]
  · rw [classifyLine, if_neg hblank,
      count_foldl_classifyCategory _ classifier.patterns_nodup]
    simp only [← hits_iff, ne_eq, hblank, not_false_eq_true, true_and]

/-- What `classify` counts are the matching lines. -/
theorem count_classify (text : String) :
    (classifier.classify text).count category =
      classifier.matchingLines category text := by
  have hfold : ∀ (lines : List String) (found : Classification),
      (lines.foldl classifier.classifyLine found).count category =
        found.count category + lines.countP fun line =>
          decide (PyText.strip line ≠ "" ∧ classifier.Hits category line) := by
    intro lines
    induction lines with
    | nil => intro found; rfl
    | cons line rest ih =>
        intro found
        rw [List.foldl_cons, ih, count_classifyLine, List.countP_cons]
        simp only [decide_eq_true_eq]
        omega
  rw [classify, matchingLines, ← Nat.zero_add (List.countP _ _)]
  exact hfold (PyText.splitLines text) {}

/-- A category no line hits is counted zero times. -/
theorem count_classify_eq_zero {text : String}
    (hmiss : ∀ line ∈ PyText.splitLines text,
      ¬classifier.Hits category line) :
    (classifier.classify text).count category = 0 := by
  rw [count_classify, matchingLines, List.countP_eq_zero]
  intro line hline
  simp [hmiss line hline]

/-- With a positive threshold, a category no line hits is not confirmed. -/
theorem confirmed_classify_eq_false {text : String}
    (hthreshold : 1 ≤ classifier.threshold category)
    (hmiss : ∀ line ∈ PyText.splitLines text,
      ¬classifier.Hits category line) :
    classifier.confirmed (classifier.classify text) category = false := by
  rw [confirmed, count_classify_eq_zero hmiss]
  simp only [decide_eq_false_iff_not]
  omega

/-- The line is not blank, and some expression of the category is found in
it. -/
def isHit (classifier : LogClassifier) (category line : String) : Bool :=
  decide (PyText.strip line ≠ "" ∧ classifier.Hits category line)

/-- The first line of a text that counts for the category. -/
def firstHit (classifier : LogClassifier) (category text : String) :
    Option String :=
  (PyText.splitLines text).find? (classifier.isHit category)

theorem mem_setDefault {key excerpt : String} {entry : String × String}
    {examples : List (String × String)} :
    entry ∈ setDefault key excerpt examples ↔ entry ∈ examples ∨
      (∀ other, (key, other) ∉ examples) ∧ entry = (key, excerpt) := by
  have hmissing : examples.lookup key = none ↔
      ∀ other, (key, other) ∉ examples := by
    rw [List.lookup_eq_none_iff]
    constructor
    · intro hnone other hmem
      exact absurd (hnone _ hmem) (by simp)
    · intro hmissing entry hentry
      rw [bne_iff_ne]
      rintro rfl
      exact hmissing entry.2 hentry
  rw [setDefault, ← hmissing]
  by_cases hsome : (examples.lookup key).isSome = true
  · have hnone : examples.lookup key ≠ none := Option.isSome_iff_ne_none.mp hsome
    rw [if_pos hsome]
    simp [hnone]
  · have hnone : examples.lookup key = none := Option.not_isSome_iff_eq_none.mp hsome
    rw [if_neg hsome]
    simp [hnone]

theorem mem_examples_foldl_classifyCategory
    (entries : List (String × List Pattern)) (found : Classification)
    (excerpt : String) :
    (category, excerpt) ∈
        (entries.foldl (classifyCategory line) found).examples ↔
      (category, excerpt) ∈ found.examples ∨
        (∀ other, (category, other) ∉ found.examples) ∧
          (∃ entry ∈ entries, entry.1 = category ∧
            entry.2.any (· line) = true) ∧ excerpt = truncate line := by
  induction entries generalizing found with
  | nil => simp
  | cons entry rest ih =>
      rw [List.foldl_cons, ih]
      by_cases hany : entry.2.any (· line) = true
      · have hexamples : (classifyCategory line found entry).examples =
            setDefault entry.1 (truncate line) found.examples := by
          rw [classifyCategory, if_pos hany]
        rw [hexamples]
        simp only [mem_setDefault, Prod.mk.injEq, List.mem_cons]
        by_cases hkey : entry.1 = category
        · subst hkey
          by_cases hmissing : ∀ other, (entry.1, other) ∉ found.examples
          · simp [hmissing, hany, -List.any_eq_true]
          · simp [hmissing]
        · have hne : category ≠ entry.1 := Ne.symm hkey
          simp [hne, hkey]
      · rw [classifyCategory, if_neg hany]
        simp [hany, -List.any_eq_true]

theorem mem_examples_classifyLine (found : Classification) (excerpt : String) :
    (category, excerpt) ∈ (classifier.classifyLine found line).examples ↔
      (category, excerpt) ∈ found.examples ∨
        (∀ other, (category, other) ∉ found.examples) ∧
          classifier.isHit category line = true ∧ excerpt = truncate line := by
  by_cases hblank : PyText.strip line = ""
  · simp [classifyLine, isHit, hblank]
  · have hhit : classifier.isHit category line = true ↔
        classifier.Hits category line := by
      rw [isHit, decide_eq_true_eq, and_iff_right hblank]
    rw [classifyLine, if_neg hblank, mem_examples_foldl_classifyCategory, hhit,
      Hits]

/-- The example of a category is the excerpt of its first line. -/
theorem mem_examples_classify (text excerpt : String) :
    (category, excerpt) ∈ (classifier.classify text).examples ↔
      ∃ line, classifier.firstHit category text = some line ∧
        excerpt = truncate line := by
  have hfold : ∀ (lines : List String) (found : Classification),
      (category, excerpt) ∈ (lines.foldl classifier.classifyLine found).examples
        ↔ (category, excerpt) ∈ found.examples ∨
          (∀ other, (category, other) ∉ found.examples) ∧
            ∃ line, lines.find? (classifier.isHit category) = some line ∧
              excerpt = truncate line := by
    intro lines
    induction lines with
    | nil => simp
    | cons line rest ih =>
        intro found
        rw [List.foldl_cons, ih]
        simp only [mem_examples_classifyLine]
        cases hhit : classifier.isHit category line with
        | true =>
            rw [List.find?_cons_of_pos hhit]
            by_cases hmissing : ∀ other, (category, other) ∉ found.examples
            · simp [hmissing]
            · simp [hmissing]
        | false =>
            rw [List.find?_cons_of_neg (ne_true_of_eq_false hhit)]
            simp
  rw [classify, firstHit]
  exact (hfold (PyText.splitLines text) {}).trans (by simp)

/-- What a hit of a category keeps holds of what is classified. -/
theorem classify_invariant
    {invariant : List (String × Nat) → List (String × String) → Prop}
    (hstart : invariant [] [])
    (hhit : ∀ category excerpt counts examples, invariant counts examples →
      invariant (bump category counts) (setDefault category excerpt examples))
    (text : String) :
    invariant (classifier.classify text).counts
      (classifier.classify text).examples := by
  have hline : ∀ (line : String) (entries : List (String × List Pattern))
      (found : Classification), invariant found.counts found.examples →
      invariant (entries.foldl (classifyCategory line) found).counts
        (entries.foldl (classifyCategory line) found).examples := by
    intro line entries
    induction entries with
    | nil => exact fun _ hfound => hfound
    | cons entry rest ih =>
        intro found hfound
        apply ih
        unfold classifyCategory
        split
        · exact hhit _ _ _ _ hfound
        · exact hfound
  have hlines : ∀ (lines : List String) (found : Classification),
      invariant found.counts found.examples →
      invariant (lines.foldl classifier.classifyLine found).counts
        (lines.foldl classifier.classifyLine found).examples := by
    intro lines
    induction lines with
    | nil => exact fun _ hfound => hfound
    | cons line rest ih =>
        intro found hfound
        apply ih
        unfold classifyLine
        split
        · exact hfound
        · exact hline line classifier.patterns found hfound
  exact hlines (PyText.splitLines text) {} hstart

/-- The categories that are counted are those with an example. -/
theorem keys_classify (text : String) :
    (classifier.classify text).counts.map Prod.fst =
      (classifier.classify text).examples.map Prod.fst := by
  apply @classify_invariant classifier (fun counts examples =>
    counts.map Prod.fst = examples.map Prod.fst) rfl
  intro category excerpt counts examples hkeys
  rw [keys_bump, keys_setDefault, hkeys]

end LogClassifier

end TeslamateWatchdog

/-
Loading the patterns file: what is kept of a document whatever it holds, what
the classifier made from it does with a log, and which documents it takes.  The
expression compiler enters through what comes of each call.
-/
import Mathlib.Data.List.Infix
import TeslamateWatchdog.Foundation.YamlValue
import TeslamateWatchdog.LogClassifier

namespace TeslamateWatchdog

open Foundation

/-- What comes of compiling one expression: the compiled expression, a
`re.error`, or another exception, such as the `OverflowError` of a repeat
count that is too large. -/
inductive Compilation (α : Type) where
  | compiled (expression : α)
  | invalid
  | raised (error : PyError)

/-- `re.compile(source, re.IGNORECASE)` on the two types of string. -/
structure Re where
  compileStr : String → Compilation Pattern
  compileBytes : List UInt8 → Compilation Unit

/-- A compiled expression, with the source it was compiled from. -/
inductive Compiled where
  | text (source : String) (pattern : Pattern)
  | bytes (source : List UInt8)

/-- `pattern.search(line)`, as a truth value: an expression over bytes cannot
be searched for in a text. -/
def Compiled.search : Compiled → String → Except PyError Bool
  | .text _ pattern, line => .ok (pattern line)
  | .bytes _, _ => .error .typeError

def Compilation.map {α β : Type} (change : α → β) :
    Compilation α → Compilation β
  | .compiled expression => .compiled (change expression)
  | .invalid => .invalid
  | .raised error => .raised error

/-- `re.compile(expression, re.IGNORECASE)` on a value of any type. -/
def Re.compile (re : Re) : Yaml → Compilation Compiled
  | .scalar (.str source) => (re.compileStr source).map (.text source)
  | .scalar (.bytes source) =>
      (re.compileBytes source).map fun _ => .bytes source
  | _ => .raised .typeError

/-- What comes of reading and parsing the file: the document, one of the two
kinds of exception that `from_file` handles, or another. -/
inductive PatternsRead where
  | parsed (document : Yaml)
  | unusable
  | raised (error : PyError)

/-- `LogClassifier` as it is made from a file: the keys and the thresholds are
whatever the document holds. -/
structure LoadedClassifier where
  patterns : List (YamlScalar × List Compiled)
  customThresholds : List (YamlScalar × Yaml)

structure LoadedClassification where
  counts : List (YamlScalar × Nat) := []
  examples : List (YamlScalar × String) := []
  linesScanned : Nat := 0
deriving Repr, DecidableEq

/-- `LogSignals` with the counts of a loaded classifier. -/
structure LoadedSignals where
  authLost : Bool
  authRefreshFailing : Bool
  databaseFailure : Bool
  tokenDecryptionFailure : Bool
  refreshSuccess : Bool
  categoryMatches : List (YamlScalar × Nat)
deriving Repr, DecidableEq

/-- `counts.get(category, 0)`. -/
def LoadedClassification.count (classification : LoadedClassification)
    (category : String) : Nat :=
  (classification.counts.lookup (.str category)).getD 0

/-- `counts[category] = counts.get(category, 0) + 1` for a key of any type. -/
def tally (category : YamlScalar) :
    List (YamlScalar × Nat) → List (YamlScalar × Nat)
  | [] => [(category, 1)]
  | (key, value) :: rest =>
      if key = category then (key, value + 1) :: rest
      else (key, value) :: tally category rest

/-- `examples.setdefault(category, excerpt)` for a key of any type. -/
def noteExample (category : YamlScalar) (excerpt : String)
    (examples : List (YamlScalar × String)) : List (YamlScalar × String) :=
  if (examples.lookup category).isSome then examples
  else examples ++ [(category, excerpt)]

namespace LoadedClassifier

/-- `LogClassifier.__init__`: the thresholds are laid over the default ones. -/
def init (patterns : List (YamlScalar × List Compiled)) (thresholds : Yaml) :
    Except PyError LoadedClassifier := do
  let custom ← (thresholds.orElse (.map [])).unpack
  return ⟨patterns, custom⟩

/-- One expression's turn: what compiles is kept, and a `re.error` is logged and
passed over. -/
def compileExpression (re : Re) (patterns : List Compiled)
    (expression : Yaml) : Except PyError (List Compiled) :=
  match re.compile expression with
  | .compiled pattern => .ok (patterns ++ [pattern])
  | .invalid => .ok patterns
  | .raised error => .error error

/-- One category's turn. -/
def compileCategory (re : Re) (entry : YamlScalar × Yaml) :
    Except PyError (YamlScalar × List Compiled) := do
  let expressions ← (entry.2.orElse (.seq [])).iterate
  let patterns ← expressions.foldlM (compileExpression re) []
  return (entry.1, patterns)

/-- `LogClassifier.from_file`.  The categories are the keys of a dictionary, so
each is assigned once. -/
def fromFile (re : Re) : PatternsRead → Except PyError LoadedClassifier
  | .unusable => init [] (.map [])
  | .raised error => .error error
  | .parsed document => do
      let raw := document.orElse (.map [])
      let categories ← raw.getD "categories" .null
      let entries ← (categories.orElse (.map [])).items
      let compiled ← entries.mapM (compileCategory re)
      let thresholds ← raw.getD "thresholds" .null
      init compiled (thresholds.orElse (.map []))

/-- `thresholds.get(category, 1)` on the merged thresholds. -/
def threshold (classifier : LoadedClassifier) (category : String) : Yaml :=
  match classifier.customThresholds.lookup (.str category) with
  | some value => value
  | none => .scalar (.int ((defaultThresholds.lookup category).getD 1))

/-- `any(pattern.search(line) for pattern in patterns)`, which ends at the first
that is found. -/
def searchAny (line : String) : List Compiled → Except PyError Bool
  | [] => .ok false
  | pattern :: rest => do
      if ← pattern.search line then return true
      searchAny line rest

/-- One category's turn for one line. -/
def classifyCategory (line : String) (found : LoadedClassification)
    (entry : YamlScalar × List Compiled) : Except PyError LoadedClassification := do
  if ← searchAny line entry.2 then
    return { found with
      counts := tally entry.1 found.counts
      examples := noteExample entry.1 (truncate line) found.examples }
  return found

/-- One line's turn; blank lines are passed over. -/
def classifyLine (classifier : LoadedClassifier) (found : LoadedClassification)
    (line : String) : Except PyError LoadedClassification :=
  if PyText.strip line = "" then .ok found
  else classifier.patterns.foldlM (classifyCategory line) found

def classify (classifier : LoadedClassifier) (text : String) :
    Except PyError LoadedClassification := do
  let lines := PyText.splitLines text
  let found ← lines.foldlM classifier.classifyLine {}
  return { found with linesScanned := lines.length }

/-- `classification.confirmed(category, thresholds)`. -/
def confirmed (classifier : LoadedClassifier)
    (classification : LoadedClassification) (category : String) :
    Except PyError Bool :=
  (classifier.threshold category).reachedBy (classification.count category)

/-- Turn counts into the booleans the state machine consumes. -/
def signals (classifier : LoadedClassifier)
    (classification : LoadedClassification) : Except PyError LoadedSignals := do
  let authLost ← classifier.confirmed classification "auth_lost"
  let authRefreshFailing ←
    classifier.confirmed classification "refresh_failure"
  let databaseFailure ← classifier.confirmed classification "database_failure"
  let tokenDecryptionFailure ←
    classifier.confirmed classification "token_decryption"
  let refreshSuccess ← classifier.confirmed classification "refresh_success"
  return ⟨authLost, authRefreshFailing, databaseFailure,
    tokenDecryptionFailure, refreshSuccess, classification.counts⟩

end LoadedClassifier

namespace PatternsFile

/-- The categories a document gives. -/
def categories (document : Yaml) : List (YamlScalar × Yaml) :=
  (document.look "categories").members

/-- What the loop over a category goes through. -/
def reached (value : Yaml) : List Yaml :=
  (value.orElse (.seq [])).iterate.toOption.getD []

/-- The expressions of an expression list; nothing but a list holds any. -/
def listed : Yaml → List Yaml
  | .seq items => items
  | _ => []

/-- What is kept of one expression. -/
def kept (re : Re) (expression : Yaml) : Option Compiled :=
  match re.compile expression with
  | .compiled pattern => some pattern
  | _ => none

/-- An expression ends the loading unless it compiles or is a `re.error`. -/
def Taken (re : Re) (expression : Yaml) : Prop :=
  ∀ error, re.compile expression ≠ .raised error

/-- A category is gone through to its end. -/
def CategoryTaken (re : Re) (entry : YamlScalar × Yaml) : Prop :=
  (entry.2.orElse (.seq [])).Iterable ∧
    ∀ expression ∈ reached entry.2, Taken re expression

/-- What the loading of a document comes to when nothing is raised. -/
def loadedOf (re : Re) (document : Yaml) : LoadedClassifier where
  patterns := (categories document).map fun entry =>
    (entry.1, (reached entry.2).filterMap (kept re))
  customThresholds := (document.look "thresholds").members

/-- Everything on the way to the expressions has the type the loader takes for
granted. -/
def Loads (re : Re) (document : Yaml) : Prop :=
  document.Maps ∧ (document.look "categories").Maps ∧
    (∀ entry ∈ categories document, CategoryTaken re entry) ∧
      (document.look "thresholds").Maps

section Loading

variable {re : Re} {document : Yaml} {classifier : LoadedClassifier}

theorem compileExpression_eq_ok (patterns : List Compiled) (expression : Yaml)
    (after : List Compiled) :
    LoadedClassifier.compileExpression re patterns expression = .ok after ↔
      Taken re expression ∧
        after = patterns ++ (kept re expression).toList := by
  unfold LoadedClassifier.compileExpression Taken kept
  cases re.compile expression <;> simp [eq_comm]

theorem compileExpressions_eq_ok {expressions : List Yaml}
    {patterns : List Compiled} :
    expressions.foldlM (LoadedClassifier.compileExpression re) [] =
        .ok patterns ↔
      (∀ expression ∈ expressions, Taken re expression) ∧
        patterns = expressions.filterMap (kept re) := by
  have hfold : ∀ before : List Compiled,
      expressions.foldl (fun patterns expression =>
          patterns ++ (kept re expression).toList) before =
        before ++ expressions.filterMap (kept re) := by
    induction expressions with
    | nil => simp
    | cons expression rest ih =>
        intro before
        rw [List.foldl_cons, ih, List.append_assoc]
        congr 1
        cases hkept : kept re expression <;> simp [hkept]
  rw [foldlM_eq_ok compileExpression_eq_ok, hfold, List.nil_append]

theorem compileCategory_eq_ok (entry : YamlScalar × Yaml)
    (result : YamlScalar × List Compiled) :
    LoadedClassifier.compileCategory re entry = .ok result ↔
      CategoryTaken re entry ∧
        result = (entry.1, (reached entry.2).filterMap (kept re)) := by
  unfold LoadedClassifier.compileCategory CategoryTaken reached Yaml.Iterable
  cases (entry.2.orElse (.seq [])).iterate with
  | error error => simp [bind, Except.bind, Except.isOk, Except.toBool]
  | ok expressions =>
      constructor
      · intro hresult
        obtain ⟨_, hexpressions, hresult⟩ := bind_eq_ok.mp hresult
        obtain rfl := Except.ok.inj hexpressions
        obtain ⟨patterns, hpatterns, hjoined⟩ := bind_eq_ok.mp hresult
        obtain ⟨htaken, rfl⟩ := compileExpressions_eq_ok.mp hpatterns
        exact ⟨⟨rfl, htaken⟩, (Except.ok.inj hjoined).symm⟩
      · rintro ⟨⟨-, htaken⟩, rfl⟩
        exact bind_eq_ok.mpr ⟨expressions, rfl, bind_eq_ok.mpr
          ⟨_, compileExpressions_eq_ok.mpr ⟨htaken, rfl⟩, rfl⟩⟩

theorem fromFile_eq_ok :
    LoadedClassifier.fromFile re (.parsed document) = .ok classifier ↔
      Loads re document ∧ classifier = loadedOf re document := by
  unfold LoadedClassifier.fromFile LoadedClassifier.init Loads
  simp only [Yaml.orElse_idem]
  constructor
  · intro hloaded
    obtain ⟨found, hfound, hloaded⟩ := bind_eq_ok.mp hloaded
    obtain ⟨hdocument, rfl⟩ := Yaml.orElse_getD_eq_ok.mp hfound
    obtain ⟨entries, hentries, hloaded⟩ := bind_eq_ok.mp hloaded
    obtain ⟨hcategories, rfl⟩ := Yaml.orElse_items_eq_ok.mp hentries
    obtain ⟨compiled, hcompiled, hloaded⟩ := bind_eq_ok.mp hloaded
    obtain ⟨htaken, rfl⟩ :=
      (mapM_eq_ok compileCategory_eq_ok).mp hcompiled
    obtain ⟨thresholds, hthresholds, hloaded⟩ := bind_eq_ok.mp hloaded
    obtain ⟨-, rfl⟩ := Yaml.orElse_getD_eq_ok.mp hthresholds
    obtain ⟨custom, hcustom, hloaded⟩ := bind_eq_ok.mp hloaded
    obtain ⟨hmaps, rfl⟩ := Yaml.orElse_unpack_eq_ok.mp hcustom
    exact ⟨⟨hdocument, hcategories, htaken, hmaps⟩,
      (Except.ok.inj hloaded).symm⟩
  · rintro ⟨⟨hdocument, hcategories, htaken, hmaps⟩, rfl⟩
    exact bind_eq_ok.mpr ⟨_, Yaml.orElse_getD_eq_ok.mpr ⟨hdocument, rfl⟩,
      bind_eq_ok.mpr ⟨_, Yaml.orElse_items_eq_ok.mpr ⟨hcategories, rfl⟩,
      bind_eq_ok.mpr ⟨_, (mapM_eq_ok compileCategory_eq_ok).mpr ⟨htaken, rfl⟩,
      bind_eq_ok.mpr ⟨_, Yaml.orElse_getD_eq_ok.mpr ⟨hdocument, rfl⟩,
      bind_eq_ok.mpr ⟨_, Yaml.orElse_unpack_eq_ok.mpr ⟨hmaps, rfl⟩, rfl⟩⟩⟩⟩⟩

end Loading

end PatternsFile

/-- The categories whose threshold is compared with their count. -/
def signalCategories : List String :=
  ["auth_lost", "refresh_failure", "database_failure", "token_decryption",
    "refresh_success"]

section Classifying

variable {classifier : LoadedClassifier}

/-- An expression over a text, which can be searched for in a text. -/
def Compiled.isText : Compiled → Bool
  | .text _ _ => true
  | .bytes _ => false

theorem searchAny_text (line source : String) (pattern : Pattern)
    (rest : List Compiled) :
    LoadedClassifier.searchAny line (.text source pattern :: rest) =
      if pattern line then .ok true
      else LoadedClassifier.searchAny line rest := by
  rw [LoadedClassifier.searchAny, Compiled.search]
  cases pattern line <;> rfl

theorem searchAny_returns (line : String) {patterns : List Compiled}
    (htexts : ∀ pattern ∈ patterns, pattern.isText = true) :
    ∃ hit, LoadedClassifier.searchAny line patterns = .ok hit := by
  induction patterns with
  | nil => exact ⟨false, rfl⟩
  | cons pattern rest ih =>
      rw [List.forall_mem_cons] at htexts
      obtain ⟨hit, hrest⟩ := ih htexts.2
      cases pattern with
      | bytes source => cases htexts.1
      | text source search =>
          rw [searchAny_text]
          by_cases hsearch : search line = true
          · exact ⟨true, if_pos hsearch⟩
          · exact ⟨hit, (if_neg hsearch).trans hrest⟩

/-- Without an expression over bytes every log is classified. -/
theorem classify_returns
    (htexts : ∀ entry ∈ classifier.patterns, ∀ pattern ∈ entry.2,
      pattern.isText = true) (text : String) :
    ∃ classification, classifier.classify text = .ok classification := by
  have hcategory : ∀ (line : String) (found : LoadedClassification),
      ∀ entry ∈ classifier.patterns, ∃ after,
        LoadedClassifier.classifyCategory line found entry = .ok after := by
    intro line found entry hentry
    obtain ⟨hit, hhit⟩ := searchAny_returns line (htexts entry hentry)
    cases hit <;>
      exact ⟨_, bind_eq_ok.mpr ⟨_, hhit, rfl⟩⟩
  have hline : ∀ (found : LoadedClassification),
      ∀ line ∈ PyText.splitLines text, ∃ after,
        classifier.classifyLine found line = .ok after := by
    intro found line _
    by_cases hblank : PyText.strip line = ""
    · exact ⟨found, if_pos hblank⟩
    · rw [LoadedClassifier.classifyLine, if_neg hblank]
      exact foldlM_returns (hcategory line) found
  obtain ⟨found, hfound⟩ := foldlM_returns hline {}
  exact ⟨_, bind_eq_ok.mpr ⟨found, hfound, rfl⟩⟩

theorem confirmed_isOk (classification : LoadedClassification)
    (category : String) :
    (classifier.confirmed classification category).isOk =
      (classifier.threshold category).isNumber :=
  Yaml.reachedBy_isOk _ _

/-- A threshold that is not a number raises in every cycle, whatever the log. -/
theorem signals_returns_iff {classification : LoadedClassification} :
    (∃ signals, classifier.signals classification = .ok signals) ↔
      ∀ category ∈ signalCategories,
        (classifier.threshold category).isNumber = true := by
  simp only [← confirmed_isOk classification, isOk_iff, signalCategories,
    List.forall_mem_cons]
  constructor
  · rintro ⟨signals, hsignals⟩
    obtain ⟨authLost, hauthLost, hsignals⟩ := bind_eq_ok.mp hsignals
    obtain ⟨refresh, hrefresh, hsignals⟩ := bind_eq_ok.mp hsignals
    obtain ⟨database, hdatabase, hsignals⟩ := bind_eq_ok.mp hsignals
    obtain ⟨token, htoken, hsignals⟩ := bind_eq_ok.mp hsignals
    obtain ⟨success, hsuccess, hsignals⟩ := bind_eq_ok.mp hsignals
    exact ⟨⟨authLost, hauthLost⟩, ⟨refresh, hrefresh⟩, ⟨database, hdatabase⟩,
      ⟨token, htoken⟩, ⟨success, hsuccess⟩, List.forall_mem_nil _⟩
  · rintro ⟨⟨authLost, hauthLost⟩, ⟨refresh, hrefresh⟩, ⟨database, hdatabase⟩,
      ⟨token, htoken⟩, ⟨success, hsuccess⟩, -⟩
    exact ⟨_, bind_eq_ok.mpr ⟨authLost, hauthLost,
      bind_eq_ok.mpr ⟨refresh, hrefresh,
      bind_eq_ok.mpr ⟨database, hdatabase,
      bind_eq_ok.mpr ⟨token, htoken,
      bind_eq_ok.mpr ⟨success, hsuccess, rfl⟩⟩⟩⟩⟩⟩

end Classifying

def Classification.loaded (classification : Classification) :
    LoadedClassification where
  counts := classification.counts.map fun entry => (.str entry.1, entry.2)
  examples := classification.examples.map fun entry => (.str entry.1, entry.2)
  linesScanned := classification.linesScanned

def LogSignals.loaded (signals : LogSignals) : LoadedSignals where
  authLost := signals.authLost
  authRefreshFailing := signals.authRefreshFailing
  databaseFailure := signals.databaseFailure
  tokenDecryptionFailure := signals.tokenDecryptionFailure
  refreshSuccess := signals.refreshSuccess
  categoryMatches := signals.categoryMatches.map fun entry =>
    (.str entry.1, entry.2)

/-- A compiled expression is found in the same lines as the pattern. -/
def Compiled.Finds (compiled : Compiled) (pattern : Pattern) : Prop :=
  ∃ source, compiled = .text source pattern

/-- A category of a file is a category of the classifier. -/
def SameCategory (entry : YamlScalar × List Compiled)
    (known : String × List Pattern) : Prop :=
  entry.1 = .str known.1 ∧ List.Forall₂ Compiled.Finds entry.2 known.2

/-- The file's keys are strings, its expressions are over texts and its
thresholds are whole numbers: those of the classifier. -/
structure LoadedClassifier.Represents (loaded : LoadedClassifier)
    (classifier : LogClassifier) : Prop where
  patterns : List.Forall₂ SameCategory loaded.patterns classifier.patterns
  thresholds : ∀ category, loaded.threshold category =
    .scalar (.int (classifier.threshold category))

section Represents

variable {loaded : LoadedClassifier} {classifier : LogClassifier}

theorem lookup_map_str {α : Type} (category : String)
    (entries : List (String × α)) :
    (entries.map fun entry => (YamlScalar.str entry.1, entry.2)).lookup
        (.str category) = entries.lookup category := by
  induction entries with
  | nil => rfl
  | cons entry rest ih =>
      have hkey : (YamlScalar.str category == .str entry.1) =
          (category == entry.1) := by
        by_cases hsame : category = entry.1
        · simp [hsame]
        · simp [hsame]
      rw [List.map_cons, List.lookup_cons, List.lookup_cons, hkey, ih]

theorem tally_map_str (category : String) (counts : List (String × Nat)) :
    tally (.str category)
        (counts.map fun entry => (YamlScalar.str entry.1, entry.2)) =
      (bump category counts).map fun entry => (.str entry.1, entry.2) := by
  induction counts with
  | nil => rfl
  | cons entry rest ih =>
      by_cases hkey : entry.1 = category
      · simp [tally, bump, hkey]
      · simp [tally, bump, hkey, ih]

theorem noteExample_map_str (category excerpt : String)
    (examples : List (String × String)) :
    noteExample (.str category) excerpt
        (examples.map fun entry => (YamlScalar.str entry.1, entry.2)) =
      (setDefault category excerpt examples).map fun entry =>
        (.str entry.1, entry.2) := by
  rw [noteExample, setDefault, lookup_map_str]
  by_cases hsome : (examples.lookup category).isSome = true
  · rw [if_pos hsome, if_pos hsome]
  · rw [if_neg hsome, if_neg hsome, List.map_append]
    rfl

theorem searchAny_eq (line : String) {compiled : List Compiled}
    {patterns : List Pattern}
    (hfinds : List.Forall₂ Compiled.Finds compiled patterns) :
    LoadedClassifier.searchAny line compiled =
      .ok (patterns.any (· line)) := by
  induction hfinds with
  | nil => rfl
  | @cons _ pattern _ _ hfirst _ ih =>
      obtain ⟨source, rfl⟩ := hfirst
      rw [searchAny_text, ih, List.any_cons]
      cases pattern line <;> rfl

theorem classifyCategory_eq (line : String) (found : Classification)
    {entry : YamlScalar × List Compiled} {known : String × List Pattern}
    (hsame : SameCategory entry known) :
    LoadedClassifier.classifyCategory line found.loaded entry =
      .ok (LogClassifier.classifyCategory line found known).loaded := by
  obtain ⟨hkey, hfinds⟩ := hsame
  rw [LoadedClassifier.classifyCategory, searchAny_eq line hfinds,
    LogClassifier.classifyCategory, hkey]
  cases known.2.any (· line) with
  | false => rfl
  | true =>
      simp only [bind, Except.bind, pure, Except.pure, if_true,
        Classification.loaded, tally_map_str, noteExample_map_str]

theorem foldlM_classifyCategory (line : String)
    {entries : List (YamlScalar × List Compiled)}
    {known : List (String × List Pattern)}
    (hsame : List.Forall₂ SameCategory entries known) (found : Classification) :
    entries.foldlM (LoadedClassifier.classifyCategory line) found.loaded =
      .ok (known.foldl (LogClassifier.classifyCategory line) found).loaded := by
  induction hsame generalizing found with
  | nil => rfl
  | cons hfirst _ ih =>
      rw [List.foldlM_cons, classifyCategory_eq line found hfirst,
        List.foldl_cons]
      exact ih _

/-- On such a file the loaded classifier counts what the classifier counts. -/
theorem classify_of_represents (hrepresents : loaded.Represents classifier)
    (text : String) :
    loaded.classify text = .ok (classifier.classify text).loaded := by
  have hline : ∀ (found : Classification) (line : String),
      loaded.classifyLine found.loaded line =
        .ok (classifier.classifyLine found line).loaded := by
    intro found line
    rw [LoadedClassifier.classifyLine, LogClassifier.classifyLine]
    by_cases hblank : PyText.strip line = ""
    · rw [if_pos hblank, if_pos hblank]
    · rw [if_neg hblank, if_neg hblank,
        foldlM_classifyCategory line hrepresents.patterns]
  have hlines : ∀ (lines : List String) (found : Classification),
      lines.foldlM loaded.classifyLine found.loaded =
        .ok (lines.foldl classifier.classifyLine found).loaded := by
    intro lines
    induction lines with
    | nil => intro found; rfl
    | cons line rest ih =>
        intro found
        rw [List.foldlM_cons, hline, List.foldl_cons]
        exact ih _
  exact bind_eq_ok.mpr ⟨_, hlines (PyText.splitLines text) {}, rfl⟩

/-- And it tells the state machine the same. -/
theorem signals_of_represents (hrepresents : loaded.Represents classifier)
    (classification : Classification) :
    loaded.signals classification.loaded =
      .ok (classifier.signals classification).loaded := by
  have hconfirmed : ∀ category,
      loaded.confirmed classification.loaded category =
        .ok (classifier.confirmed classification category) := by
    intro category
    have hcount : classification.loaded.count category =
        classification.count category := by
      rw [LoadedClassification.count, Classification.loaded, lookup_map_str,
        Classification.count]
    rw [LoadedClassifier.confirmed, hrepresents.thresholds, hcount]
    rfl
  simp only [LoadedClassifier.signals, hconfirmed]
  rfl

end Represents

namespace PatternsFile

/-- The string expressions that compile. -/
def compiling (re : Re) (expressions : List Yaml) : List Compiled :=
  expressions.filterMap fun expression =>
    match expression with
    | .scalar (.str source) =>
        match re.compileStr source with
        | .compiled pattern => some (.text source pattern)
        | _ => none
    | _ => none

/-- The document makes a classifier without an exception, the classifier has
exactly the string expressions that compile, and no log raises in it. -/
def Tolerated (re : Re) (expressionsOf : Yaml → List Yaml)
    (document : Yaml) : Prop :=
  ∃ classifier, LoadedClassifier.fromFile re (.parsed document) =
      .ok classifier ∧
    classifier.patterns = (categories document).map (fun entry =>
      (entry.1, compiling re (expressionsOf entry.2))) ∧
    ∀ text, ∃ classification signals,
      classifier.classify text = .ok classification ∧
        classifier.signals classification = .ok signals

/-- Compiling the expression does nothing but make a pattern of a string or
raise a `re.error`. -/
def Harmless (re : Re) : Yaml → Prop
  | .scalar (.str source) => ∀ error, re.compileStr source ≠ .raised error
  | .scalar (.bytes source) => re.compileBytes source = .invalid
  | _ => False

/-- The document has the shape that the loader and the comparisons with the
thresholds take for granted. -/
structure PatternsShaped (re : Re) (document : Yaml) : Prop where
  document_maps : document.Maps
  categories_maps : (document.look "categories").Maps
  category_iterable : ∀ entry ∈ categories document,
    (entry.2.orElse (.seq [])).Iterable
  expression_harmless : ∀ entry ∈ categories document,
    ∀ expression ∈ reached entry.2, Harmless re expression
  thresholds_maps : (document.look "thresholds").Maps
  threshold_isNumber : ∀ category ∈ signalCategories, ∀ value,
    (document.look "thresholds").members.lookup (.str category) = some value →
      value.isNumber = true

section Tolerance

variable {re : Re} {document : Yaml}

theorem threshold_isNumber_iff {category : String} :
    ((loadedOf re document).threshold category).isNumber = true ↔
      ∀ value, (document.look "thresholds").members.lookup (.str category) =
        some value → value.isNumber = true := by
  have hcustom : (loadedOf re document).customThresholds =
      (document.look "thresholds").members := rfl
  rw [LoadedClassifier.threshold, hcustom]
  cases (document.look "thresholds").members.lookup (.str category) with
  | none => simp [Yaml.isNumber, YamlScalar.isNumber]
  | some value => simp

theorem harmless_iff (expression : Yaml) :
    Harmless re expression ↔ Taken re expression ∧
      ∀ pattern, kept re expression = some pattern →
        pattern.isText = true := by
  have hother : re.compile expression = .raised .typeError →
      ¬Taken re expression := fun hraised htaken => htaken _ hraised
  cases expression with
  | scalar value =>
      cases value with
      | str source =>
          cases hcompile : re.compileStr source <;>
            simp [Harmless, Taken, kept, Re.compile, hcompile, Compilation.map,
              Compiled.isText]
      | bytes source =>
          cases hcompile : re.compileBytes source <;>
            simp [Harmless, Taken, kept, Re.compile, hcompile, Compilation.map,
              Compiled.isText]
      | _ => simp [Harmless, hother rfl]
  | _ => simp [Harmless, hother rfl]

/-- The string expressions that compile are what is kept but for the
expressions over bytes. -/
theorem compiling_eq (expressions : List Yaml) :
    compiling re expressions =
      (expressions.filterMap (kept re)).filter Compiled.isText := by
  rw [List.filter_filterMap, compiling]
  congr 1
  funext expression
  cases expression with
  | scalar value =>
      cases value with
      | str source =>
          cases hcompile : re.compileStr source <;>
            simp [kept, Re.compile, hcompile, Compilation.map, Option.filter,
              Compiled.isText]
      | bytes source =>
          cases hcompile : re.compileBytes source <;>
            simp [kept, Re.compile, hcompile, Compilation.map, Option.filter,
              Compiled.isText]
      | _ => rfl
  | _ => rfl

/-- Everything but the shape of the thresholds, for any way to read off the
expressions of a category. -/
theorem tolerated_iff_keeps {expressionsOf : Yaml → List Yaml} :
    Tolerated re expressionsOf document ↔ Loads re document ∧
      (∀ entry ∈ categories document,
        (reached entry.2).filterMap (kept re) =
          compiling re (expressionsOf entry.2)) ∧
      ∀ category ∈ signalCategories,
        ((loadedOf re document).threshold category).isNumber = true := by
  have hpatterns : (loadedOf re document).patterns =
        (categories document).map (fun entry =>
          (entry.1, compiling re (expressionsOf entry.2))) ↔
      ∀ entry ∈ categories document, (reached entry.2).filterMap (kept re) =
        compiling re (expressionsOf entry.2) := by
    simp only [loadedOf, List.map_inj_left, Prod.mk.injEq, true_and]
  rw [← hpatterns]
  constructor
  · rintro ⟨classifier, hloaded, hkept, hruns⟩
    obtain ⟨hloads, rfl⟩ := fromFile_eq_ok.mp hloaded
    obtain ⟨classification, signals, -, hsignals⟩ := hruns ""
    exact ⟨hloads, hkept, signals_returns_iff.mp ⟨signals, hsignals⟩⟩
  · rintro ⟨hloads, hkept, hnumbers⟩
    refine ⟨loadedOf re document, fromFile_eq_ok.mpr ⟨hloads, rfl⟩, hkept,
      fun text => ?_⟩
    have htexts : ∀ entry ∈ (loadedOf re document).patterns,
        ∀ pattern ∈ entry.2, pattern.isText = true := by
      rw [hkept, List.forall_mem_map]
      intro entry _ pattern hpattern
      rw [compiling_eq] at hpattern
      exact (List.mem_filter.mp hpattern).2
    obtain ⟨classification, hclassify⟩ := classify_returns htexts text
    obtain ⟨signals, hsignals⟩ : ∃ signals,
        (loadedOf re document).signals classification = .ok signals :=
      signals_returns_iff.mpr hnumbers
    exact ⟨classification, signals, hclassify, hsignals⟩

theorem patternsShaped_iff : PatternsShaped re document ↔ Loads re document ∧
    (∀ entry ∈ categories document,
      (reached entry.2).filterMap (kept re) = compiling re (reached entry.2)) ∧
    ∀ category ∈ signalCategories,
      ((loadedOf re document).threshold category).isNumber = true := by
  have hexpressions : ∀ entry : YamlScalar × Yaml,
      (∀ expression ∈ reached entry.2, Harmless re expression) ↔
        (∀ expression ∈ reached entry.2, Taken re expression) ∧
          (reached entry.2).filterMap (kept re) =
            compiling re (reached entry.2) := by
    intro entry
    rw [compiling_eq, eq_comm, List.filter_eq_self]
    simp only [harmless_iff, List.mem_filterMap]
    constructor
    · intro hharmless
      refine ⟨fun expression hmem => (hharmless expression hmem).1, ?_⟩
      rintro pattern ⟨expression, hmem, hkept⟩
      exact (hharmless expression hmem).2 pattern hkept
    · rintro ⟨htaken, htexts⟩ expression hmem
      exact ⟨htaken expression hmem,
        fun pattern hkept => htexts pattern ⟨expression, hmem, hkept⟩⟩
  constructor
  · intro hshaped
    refine ⟨⟨hshaped.document_maps, hshaped.categories_maps,
      fun entry hentry => ⟨hshaped.category_iterable entry hentry, ?_⟩,
      hshaped.thresholds_maps⟩, fun entry hentry => ?_, fun category hmem => ?_⟩
    · exact ((hexpressions entry).mp
        (hshaped.expression_harmless entry hentry)).1
    · exact ((hexpressions entry).mp
        (hshaped.expression_harmless entry hentry)).2
    · exact threshold_isNumber_iff.mpr (hshaped.threshold_isNumber category hmem)
  · rintro ⟨⟨hdocument, hcategories, htaken, hthresholds⟩, hkept, hnumbers⟩
    exact
      { document_maps := hdocument
        categories_maps := hcategories
        category_iterable := fun entry hentry => (htaken entry hentry).1
        expression_harmless := fun entry hentry => (hexpressions entry).mpr
          ⟨(htaken entry hentry).2, hkept entry hentry⟩
        thresholds_maps := hthresholds
        threshold_isNumber := fun category hmem =>
          threshold_isNumber_iff.mp (hnumbers category hmem) }

/-- Which documents the classifier takes.  Where only a list is an expression
list, nothing may come of what is gone through in the place of one. -/
theorem tolerated_iff (re : Re) (document : Yaml) :
    (Tolerated re reached document ↔ PatternsShaped re document) ∧
      (Tolerated re listed document ↔ PatternsShaped re document ∧
        ∀ entry ∈ categories document, (∀ items, entry.2 ≠ .seq items) →
          compiling re (reached entry.2) = []) := by
  have hreached : ∀ value items, value = Yaml.seq items →
      reached value = listed value := by
    rintro _ items rfl
    cases items <;> rfl
  have hlisted : ∀ value, (∀ items, value ≠ Yaml.seq items) →
      compiling re (listed value) = [] := by
    intro value hother
    cases value with
    | seq items => exact absurd rfl (hother items)
    | _ => rfl
  refine ⟨by rw [tolerated_iff_keeps, patternsShaped_iff], ?_⟩
  rw [tolerated_iff_keeps, patternsShaped_iff]
  constructor
  · rintro ⟨hloads, hkept, hnumbers⟩
    have hsame : ∀ entry ∈ categories document,
        compiling re (reached entry.2) = compiling re (listed entry.2) := by
      intro entry hentry
      rw [compiling_eq, hkept entry hentry, compiling_eq, List.filter_filter]
      simp only [Bool.and_self]
    refine ⟨⟨hloads, fun entry hentry => ?_, hnumbers⟩,
      fun entry hentry hother => ?_⟩
    · rw [hkept entry hentry, hsame entry hentry]
    · rw [hsame entry hentry, hlisted entry.2 hother]
  · rintro ⟨⟨hloads, hkept, hnumbers⟩, hnothing⟩
    refine ⟨hloads, fun entry hentry => ?_, hnumbers⟩
    rw [hkept entry hentry]
    by_cases hlist : ∃ items, entry.2 = .seq items
    · obtain ⟨items, hitems⟩ := hlist
      rw [hreached entry.2 items hitems]
    · have hother : ∀ items, entry.2 ≠ .seq items := not_exists.mp hlist
      rw [hnothing entry hentry hother, hlisted entry.2 hother]

end Tolerance

/-- Expressions without special characters, each found where it stands. -/
def plainRe : Re where
  compileStr source := .compiled fun line =>
    decide ((PyText.lower source).toList <:+: (PyText.lower line).toList)
  compileBytes _ := .compiled ()

/-- The file of one category, whose only expression is an unquoted status
code. -/
def statusPatterns : Yaml :=
  .map [(.str "categories",
    .map [(.str "refresh_failure", .seq [.scalar (.int 401)])])]

/-- The unquoted status code ends the loading. -/
theorem statusPatterns_raises :
    LoadedClassifier.fromFile plainRe (.parsed statusPatterns) =
        .error .typeError ∧
      ¬Tolerated plainRe reached statusPatterns ∧
      ¬Tolerated plainRe listed statusPatterns := by
  have hraises : LoadedClassifier.fromFile plainRe (.parsed statusPatterns) =
      .error .typeError := rfl
  refine ⟨hraises, ?_, ?_⟩ <;>
  · rintro ⟨classifier, hloaded, -⟩
    rw [hraises] at hloaded
    cases hloaded

end PatternsFile

end TeslamateWatchdog

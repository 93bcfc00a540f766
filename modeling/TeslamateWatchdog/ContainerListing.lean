/-
What resolution makes of a container listing.  It reads the entries up to the
first one that carries the name; of the entry it settles on it keeps the first
name and the label, and `matches` later sees no more than these.
-/
import TeslamateWatchdog.RestartTarget

namespace TeslamateWatchdog

open Foundation

namespace DockerClient

/-- An entry that resolution gets through without raising. -/
structure Usable (entry : Json) : Prop where
  isObject : ∃ members, entry = .obj members
  names : ∃ (names : Json) (texts : List String),
    entry.getD "Names" (.arr []) = .ok names ∧
      names.iterate = .ok (texts.map Json.str)
  labels : (entry.look ["Labels"]).Maps

/-- The names of an entry, as far as they can be read. -/
def carried (entry : Json) : List String :=
  (entryNames entry).toOption.getD []

/-- The compose-service label of an entry. -/
def service (entry : Json) : Json :=
  entry.look ["Labels", "com.docker.compose.service"]

/-- The reference the client keeps of an entry. -/
def reference (entry : Json) : ContainerRef :=
  ⟨(entryId entry).toOption.getD .null, (carried entry).headD "", service entry⟩

/-- The entries resolution looks at: up to the first that carries the name. -/
def examined (configured : String) : List Json → List Json
  | [] => []
  | entry :: rest =>
      if named configured entry then [entry]
      else entry :: examined configured rest

theorem stripped_eq_ok {items : List Json} {names : List String} :
    items.mapM (m := Except PyError) (fun name =>
        match name with
        | .str text => .ok (PyText.lstrip text '/')
        | _ => .error .attributeError) = .ok names ↔
      ∃ texts : List String, items = texts.map Json.str ∧
        names = texts.map (PyText.lstrip · '/') := by
  induction items generalizing names with
  | nil =>
      constructor
      · intro hnames
        exact ⟨[], rfl, (Except.ok.inj hnames).symm⟩
      · rintro ⟨texts, htexts, rfl⟩
        rw [List.map_eq_nil_iff.mp htexts.symm]
        rfl
  | cons item rest ih =>
      rw [List.mapM_cons]
      constructor
      · intro hnames
        obtain ⟨first, hfirst, hrest⟩ := bind_eq_ok.mp hnames
        obtain ⟨others, hothers, hjoined⟩ := bind_eq_ok.mp hrest
        obtain ⟨texts, rfl, rfl⟩ := ih.mp hothers
        cases item with
        | str text =>
            refine ⟨text :: texts, rfl, ?_⟩
            rw [← Except.ok.inj hjoined, ← Except.ok.inj hfirst]
            rfl
        | _ => cases hfirst
      · rintro ⟨texts, htexts, rfl⟩
        cases texts with
        | nil => cases htexts
        | cons text texts =>
            obtain ⟨rfl, rfl⟩ := List.cons.inj htexts
            rw [ih.mpr ⟨texts, rfl, rfl⟩]
            rfl

theorem entryNames_eq_ok {entry : Json} {names : List String} :
    entryNames entry = .ok names ↔
      ∃ (found : Json) (texts : List String),
        entry.getD "Names" (.arr []) = .ok found ∧
          found.iterate = .ok (texts.map Json.str) ∧
          names = texts.map (PyText.lstrip · '/') := by
  unfold entryNames
  constructor
  · intro hnames
    obtain ⟨found, hfound, hnames⟩ := bind_eq_ok.mp hnames
    obtain ⟨items, hitems, hnames⟩ := bind_eq_ok.mp hnames
    obtain ⟨texts, rfl, rfl⟩ := stripped_eq_ok.mp hnames
    exact ⟨found, texts, hfound, hitems, rfl⟩
  · rintro ⟨found, texts, hfound, hitems, rfl⟩
    exact bind_eq_ok.mpr ⟨found, hfound, bind_eq_ok.mpr
      ⟨_, hitems, stripped_eq_ok.mpr ⟨texts, rfl, rfl⟩⟩⟩

theorem entryService_eq_ok {entry found : Json} :
    entryService entry = .ok found ↔
      (∃ members, entry = .obj members) ∧ (entry.look ["Labels"]).Maps ∧
        found = service entry := by
  unfold entryService service
  rw [entry.look_cons "Labels" ["com.docker.compose.service"]]
  constructor
  · intro hservice
    obtain ⟨labels, hlabels, hservice⟩ := bind_eq_ok.mp hservice
    obtain ⟨hobject, rfl⟩ := Json.getD_eq_ok.mp hlabels
    exact ⟨hobject, Json.orElse_getD_eq_ok.mp hservice⟩
  · rintro ⟨hobject, hmaps, rfl⟩
    exact bind_eq_ok.mpr ⟨_, Json.getD_eq_ok.mpr ⟨hobject, rfl⟩,
      Json.orElse_getD_eq_ok.mpr ⟨hmaps, rfl⟩⟩

namespace Usable

variable {entry : Json}

theorem entryNames_eq (husable : Usable entry) :
    entryNames entry = .ok (carried entry) := by
  obtain ⟨found, texts, hfound, hitems⟩ := husable.names
  have hnames := entryNames_eq_ok.mpr ⟨found, texts, hfound, hitems, rfl⟩
  rw [carried, hnames]
  rfl

theorem entryService_eq (husable : Usable entry) :
    entryService entry = .ok (service entry) :=
  entryService_eq_ok.mpr ⟨husable.isObject, husable.labels, rfl⟩

theorem entryId_eq (husable : Usable entry) :
    entryId entry = .ok (reference entry).id := by
  obtain ⟨members, rfl⟩ := husable.isObject
  rfl

theorem reduces (husable : Usable entry) : Reduces entry (reference entry) :=
  ⟨husable.entryId_eq, husable.entryService_eq, carried entry,
    husable.entryNames_eq, rfl⟩

theorem named_eq_true (husable : Usable entry) {configured : String} :
    named configured entry = true ↔ configured ∈ carried entry := by
  simp [named, husable.entryNames_eq]

theorem labelled_eq (husable : Usable entry) (configured : String) :
    labelled configured entry = (service entry).isStr configured := by
  simp [labelled, husable.entryService_eq]

theorem of_reduces {ref : ContainerRef} (hreduces : Reduces entry ref) :
    Usable entry := by
  obtain ⟨names, hnames, _⟩ := hreduces.names
  obtain ⟨found, texts, hfound, hitems, _⟩ := entryNames_eq_ok.mp hnames
  obtain ⟨hobject, hmaps, _⟩ := entryService_eq_ok.mp hreduces.service
  exact ⟨hobject, ⟨found, texts, hfound, hitems⟩, hmaps⟩

end Usable

section Scan

variable (configured : String) (byLabel : Option ContainerRef)

theorem scan_cons_of_usable {entry : Json} (husable : Usable entry)
    (rest : List Json) :
    scan configured byLabel (entry :: rest) =
      if named configured entry then .ok (some (reference entry))
      else scan configured (byLabel.or
        (if labelled configured entry then some (reference entry) else none))
        rest := by
  conv_lhs => unfold scan
  rw [husable.entryNames_eq, husable.entryService_eq]
  change (entryId entry >>= _) = _
  rw [husable.entryId_eq]
  by_cases hnamed : named configured entry = true
  · have hmem := husable.named_eq_true.mp hnamed
    simp only [bind, Except.bind, hmem, hnamed, if_true]
    rfl
  · have hmem : configured ∉ carried entry := by
      rwa [← husable.named_eq_true]
    rw [if_neg hnamed, husable.labelled_eq]
    simp only [bind, Except.bind, if_neg hmem]
    cases byLabel with
    | none =>
        by_cases hlabel : (service entry).isStr configured = true
        · simp [hlabel, reference]
        · simp [hlabel]
    | some kept => simp

theorem scan_cons_of_not_usable {entry : Json} (hunusable : ¬Usable entry)
    (rest : List Json) (found : Option ContainerRef) :
    scan configured byLabel (entry :: rest) ≠ .ok found := by
  intro hscan
  unfold scan at hscan
  obtain ⟨names, hnames, hscan⟩ := bind_eq_ok.mp hscan
  obtain ⟨label, hlabel, hscan⟩ := bind_eq_ok.mp hscan
  obtain ⟨id, hid, _⟩ := bind_eq_ok.mp hscan
  have hreduces : Reduces entry ⟨id, names.headD "", label⟩ :=
    ⟨hid, hlabel, names, hnames, rfl⟩
  exact hunusable (Usable.of_reduces hreduces)

/-- The loop of `resolve` on entries it can read: the first named entry, else
the label kept from before, else the first labelled entry. -/
theorem scan_of_usable {entries : List Json}
    (husable : ∀ entry ∈ examined configured entries, Usable entry) :
    scan configured byLabel entries =
      .ok (((entries.find? (named configured)).map reference).or
        (byLabel.or ((entries.find? (labelled configured)).map reference))) := by
  induction entries generalizing byLabel with
  | nil => simp [scan]
  | cons entry rest ih =>
      by_cases hnamed : named configured entry = true
      · rw [examined, if_pos hnamed] at husable
        have hentry := husable entry (List.mem_singleton_self entry)
        rw [scan_cons_of_usable configured byLabel hentry, if_pos hnamed,
          List.find?_cons_of_pos hnamed]
        rfl
      · have hexamined : examined configured (entry :: rest) =
            entry :: examined configured rest := by
          rw [examined, if_neg hnamed]
        rw [hexamined] at husable
        rw [scan_cons_of_usable configured byLabel
            (husable entry List.mem_cons_self), if_neg hnamed, ih _ fun other hother =>
            husable other (List.mem_cons_of_mem entry hother),
          List.find?_cons_of_neg hnamed]
        by_cases hlabelled : labelled configured entry = true
        · rw [List.find?_cons_of_pos hlabelled, if_pos hlabelled]
          cases byLabel <;> rfl
        · rw [List.find?_cons_of_neg hlabelled, if_neg hlabelled, Option.or_none]

theorem usable_of_scan {entries : List Json} {found : Option ContainerRef}
    (hscan : scan configured byLabel entries = .ok found) :
    ∀ entry ∈ examined configured entries, Usable entry := by
  induction entries generalizing byLabel with
  | nil => simp [examined]
  | cons entry rest ih =>
      have hentry : Usable entry := by
        by_contra hunusable
        exact scan_cons_of_not_usable configured byLabel hunusable rest found
          hscan
      rw [scan_cons_of_usable configured byLabel hentry] at hscan
      by_cases hnamed : named configured entry = true
      · rw [examined, if_pos hnamed]
        simpa using hentry
      · rw [if_neg hnamed] at hscan
        rw [examined, if_neg hnamed]
        exact List.forall_mem_cons.mpr ⟨hentry, ih _ hscan⟩

theorem mem_of_examined {entries : List Json} {entry : Json}
    (hentry : entry ∈ examined configured entries) : entry ∈ entries := by
  induction entries with
  | nil => exact hentry
  | cons first rest ih =>
      by_cases hnamed : named configured first = true
      · rw [examined, if_pos hnamed] at hentry
        exact List.mem_cons.mpr (.inl (List.mem_singleton.mp hentry))
      · rw [examined, if_neg hnamed] at hentry
        rcases List.mem_cons.mp hentry with rfl | hrest
        · exact List.mem_cons_self
        · exact List.mem_cons_of_mem first (ih hrest)

end Scan

/-- Resolution of a listing whose entries it can read. -/
theorem resolve_of_usable {configured : String} {entries : List Json}
    (husable : ∀ entry ∈ examined configured entries, Usable entry) :
    resolve (.body (.arr entries)) configured =
      .ok ((selected configured entries).map reference) := by
  change scan configured none entries = _
  rw [scan_of_usable configured none husable, selected, Option.none_or,
    Option.map_or]

/-- What `restart` returns for a reference that its re-validation rejects. -/
def mismatch (ref : ContainerRef) (expected : String) : RestartCall :=
  ⟨none, .ok (false, "resolved container " ++ PyText.repr ref.name ++
    " (service " ++ ref.composeService.repr ++ ") does not match " ++
    PyText.repr expected)⟩

/-- Resolution settles on the entry it documents, and what it returns passes
the re-validation. -/
structure ResolutionAgrees (configured : String) (entries : List Json) :
    Prop where
  resolved : resolve (.body (.arr entries)) configured =
    .ok ((selected configured entries).map reference)
  revalidated : ∀ ref, resolve (.body (.arr entries)) configured =
    .ok (some ref) → ref.Matches configured = true
  accepted : ∀ config post ref, config.teslamateContainer = configured →
    resolve (.body (.arr entries)) configured = .ok (some ref) →
    restart config (.body (.arr entries)) post configured ≠
      mismatch ref configured

theorem reference_matches_iff {configured : String} {entry : Json} :
    (reference entry).Matches configured = true ↔
      (carried entry).headD "" = configured ∨
        (service entry).isStr configured = true := by
  rw [ContainerRef.Matches, Bool.or_eq_true, beq_iff_eq]
  rfl

/-- A reference that passes the re-validation is not reported as a mismatch. -/
theorem restartRef_ne_mismatch {config : Config} {post : PostOutcome}
    {ref : ContainerRef}
    (hmatches : ref.Matches config.teslamateContainer = true) :
    restartRef config post ref ≠ mismatch ref config.teslamateContainer := by
  unfold restartRef
  dsimp only
  rw [hmatches, Bool.not_true, if_neg Bool.false_ne_true]
  refine iteInduction (motive := (· ≠ mismatch ref config.teslamateContainer))
    (fun _ hsame => ?_) (fun _ hsame => ?_)
  · have hthird := congrArg (fun call => call.result.toOption.map
      fun reply => reply.2.toList.getD 2 ' ') hsame
    simp [mismatch, Except.toOption] at hthird
  · cases congrArg RestartCall.posted hsame

/-- Where the first entry with the name can be re-validated, whatever entry is
selected can. -/
theorem selected_matches {configured : String} {entries : List Json}
    (husable : ∀ entry ∈ entries, Usable entry)
    (hfirst : ∀ entry, entries.find? (named configured) = some entry →
      (carried entry).head? = some configured ∨
        (service entry).isStr configured = true) {entry : Json}
    (hselected : selected configured entries = some entry) :
    (reference entry).Matches configured = true := by
  rw [reference_matches_iff]
  cases hfind : entries.find? (named configured) with
  | some first =>
      rw [selected, hfind] at hselected
      obtain rfl := Option.some.inj hselected
      rcases hfirst first hfind with hname | hlabel
      · left
        rw [List.headD_eq_head?_getD, hname]
        rfl
      · exact .inr hlabel
  | none =>
      rw [selected, hfind, Option.none_or] at hselected
      rw [← (husable entry
        (List.mem_of_find?_eq_some hselected)).labelled_eq]
      exact .inr (List.find?_some hselected)

/-- Among entries that can be read, resolution and re-validation agree exactly
when the first entry with the name has it first, or as its label. -/
theorem resolution_agrees_iff (configured : String) (entries : List Json)
    (husable : ∀ entry ∈ entries, Usable entry) :
    ResolutionAgrees configured entries ↔
      ∀ entry, entries.find? (named configured) = some entry →
        (carried entry).head? = some configured ∨
          (service entry).isStr configured = true := by
  have hresolve : resolve (.body (.arr entries)) configured =
      .ok ((selected configured entries).map reference) :=
    resolve_of_usable fun entry hentry =>
      husable entry (mem_of_examined configured hentry)
  constructor
  · intro hagrees entry hfirst
    have hnamed : configured ∈ carried entry :=
      (husable entry (List.mem_of_find?_eq_some hfirst)).named_eq_true.mp
        (List.find?_some hfirst)
    have hselected : resolve (.body (.arr entries)) configured =
        .ok (some (reference entry)) := by
      rw [hresolve, selected, hfirst]
      rfl
    rcases reference_matches_iff.mp (hagrees.revalidated _ hselected) with
      hname | hlabel
    · left
      cases hcarried : carried entry with
      | nil => simp [hcarried] at hnamed
      | cons name names =>
          rw [hcarried] at hname
          rw [← hname]
          rfl
    · exact .inr hlabel
  · intro hfirst
    have hmatches : ∀ ref, resolve (.body (.arr entries)) configured =
        .ok (some ref) → ref.Matches configured = true := by
      intro ref hsome
      rw [hresolve] at hsome
      obtain ⟨entry, hselected, rfl⟩ :=
        Option.map_eq_some_iff.mp (Except.ok.inj hsome)
      exact selected_matches husable hfirst hselected
    refine ⟨hresolve, hmatches, ?_⟩
    rintro config post ref rfl hsome
    unfold restart
    rw [if_neg (not_not_intro rfl), hsome]
    exact restartRef_ne_mismatch (hmatches ref hsome)

/-- An entry of the engine's list, as the engine documents it. -/
def listedContainer (id : String) (names : List String)
    (labels : List (String × Json)) : Json :=
  .obj [("Id", .str id), ("Names", .arr (names.map Json.str)),
    ("Labels", .obj labels)]

theorem usable_listedContainer (id : String) (names : List String)
    (labels : List (String × Json)) :
    Usable (listedContainer id names labels) :=
  ⟨⟨_, rfl⟩, ⟨.arr (names.map Json.str), names, rfl, rfl⟩,
    fun _ => ⟨labels, rfl⟩⟩

theorem resolution_agrees_iff_labelled :
    ResolutionAgrees "teslamate"
        [listedContainer "4f66ad9a0b2e" ["/web/tm", "/teslamate"]
          [("com.docker.compose.service", .str "teslamate")]] ↔
      ∀ entry, [listedContainer "4f66ad9a0b2e" ["/web/tm", "/teslamate"]
          [("com.docker.compose.service", .str "teslamate")]].find?
            (named "teslamate") = some entry →
        (carried entry).head? = some "teslamate" ∨
          (service entry).isStr "teslamate" = true :=
  resolution_agrees_iff "teslamate" _
    (List.forall_mem_singleton.mpr (usable_listedContainer _ _ _))

/-- A link alias listed before the container's own name: resolved by name, but
not restarted. -/
theorem resolution_disagrees_on_alias :
    ¬∀ (configured : String) (entries : List Json),
      (∀ entry ∈ entries, Usable entry) →
        ResolutionAgrees configured entries := by
  intro hagrees
  have hmatches := (hagrees "teslamate"
    [listedContainer "4f66ad9a0b2e" ["/web/tm", "/teslamate"] []]
    (List.forall_mem_singleton.mpr
      (usable_listedContainer _ _ _))).revalidated _ rfl
  exact absurd hmatches (by decide)

end DockerClient

end TeslamateWatchdog

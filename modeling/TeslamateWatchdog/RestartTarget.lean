/-
Which container a restart goes to.  Resolution looks at every name of an entry;
the re-validation before the POST sees only its first name and its label.
-/
import Mathlib.Data.List.Nodup
import TeslamateWatchdog.DockerClient
import TeslamateWatchdog.Foundation.Raising

namespace TeslamateWatchdog

open Foundation

namespace DockerClient

/-- The entries of a container listing, as far as there are any. -/
def listed : JsonAnswer → List Json
  | .body document => document.iterate.toOption.getD []
  | _ => []

/-- The entry carries the name. -/
def named (configured : String) (entry : Json) : Bool :=
  match entryNames entry with
  | .ok names => configured ∈ names
  | .error _ => false

/-- The entry carries the name as its compose-service label. -/
def labelled (configured : String) (entry : Json) : Bool :=
  match entryService entry with
  | .ok service => service.isStr configured
  | .error _ => false

/-- The entry resolution settles on: the first with the name, else the first
with the label. -/
def selected (configured : String) (entries : List Json) : Option Json :=
  (entries.find? (named configured)).or (entries.find? (labelled configured))

/-- The id of an entry. -/
def entryId (entry : Json) : Except PyError Json :=
  entry.getD "Id" (.str "")

/-- The reduced reference the client keeps of an entry. -/
structure Reduces (entry : Json) (ref : ContainerRef) : Prop where
  id : entryId entry = .ok ref.id
  service : entryService entry = .ok ref.composeService
  names : ∃ names, entryNames entry = .ok names ∧ ref.name = names.headD ""

variable {configured : String} {entries : List Json} {ref : ContainerRef}

/-- The loop of `resolve`: a named entry ends it, else the label kept from
before, else the first labelled entry. -/
theorem scan_some {byLabel : Option ContainerRef}
    (hscan : scan configured byLabel entries = .ok (some ref)) :
    (∃ entry, entries.find? (named configured) = some entry ∧
      Reduces entry ref) ∨
    entries.find? (named configured) = none ∧
      (byLabel = some ref ∨ byLabel = none ∧
        ∃ entry, entries.find? (labelled configured) = some entry ∧
          Reduces entry ref) := by
  induction entries generalizing byLabel with
  | nil =>
      exact .inr ⟨rfl, .inl (Except.ok.inj hscan)⟩
  | cons entry rest ih =>
      unfold scan at hscan
      obtain ⟨names, hnames, hscan⟩ := bind_eq_ok.mp hscan
      obtain ⟨service, hservice, hscan⟩ := bind_eq_ok.mp hscan
      obtain ⟨id, hid, hscan⟩ := bind_eq_ok.mp hscan
      have hreduces : Reduces entry ⟨id, names.headD "", service⟩ :=
        ⟨hid, hservice, names, hnames, rfl⟩
      by_cases hnamed : configured ∈ names
      · rw [if_pos hnamed] at hscan
        obtain rfl := Option.some.inj (Except.ok.inj hscan)
        refine .inl ⟨entry, ?_, hreduces⟩
        rw [List.find?_cons_of_pos]
        simpa [named, hnames] using hnamed
      · have hunnamed : named configured entry = false := by
          simpa [named, hnames] using hnamed
        rw [if_neg hnamed] at hscan
        rw [List.find?_cons_of_neg (by rw [hunnamed]; exact Bool.false_ne_true)]
        cases hlabel : service.isStr configured with
        | false =>
            have hunlabelled : labelled configured entry = false := by
              simp [labelled, hservice, hlabel]
            rw [List.find?_cons_of_neg
              (by rw [hunlabelled]; exact Bool.false_ne_true)]
            apply ih
            simpa [hlabel] using hscan
        | true =>
            have hlabelled : labelled configured entry = true := by
              simp [labelled, hservice, hlabel]
            rw [List.find?_cons_of_pos hlabelled]
            cases byLabel with
            | some kept =>
                have hrest : scan configured (some kept) rest =
                    .ok (some ref) := by simpa using hscan
                rcases ih hrest with hfound | ⟨hnone, hkept | ⟨habsurd, _⟩⟩
                · exact .inl hfound
                · exact .inr ⟨hnone, .inl hkept⟩
                · cases habsurd
            | none =>
                have hrest : scan configured
                    (some ⟨id, names.headD "", service⟩) rest =
                      .ok (some ref) := by simpa [hlabel] using hscan
                rcases ih hrest with hfound | ⟨hnone, hkept | ⟨habsurd, _⟩⟩
                · exact .inl hfound
                · refine .inr ⟨hnone, .inr ⟨rfl, entry, rfl, ?_⟩⟩
                  rwa [← Option.some.inj hkept]
                · cases habsurd

/-- What resolution returns is the reduced selected entry. -/
theorem resolve_some {listing : JsonAnswer}
    (hresolve : resolve listing configured = .ok (some ref)) :
    ∃ entry, selected configured (listed listing) = some entry ∧
      Reduces entry ref := by
  unfold resolve at hresolve
  cases listing with
  | unavailable error => cases hresolve
  | notJson error => cases hresolve
  | tooDeep => cases hresolve
  | body document =>
      obtain ⟨entries, hentries, hscan⟩ := bind_eq_ok.mp hresolve
      have hlisted : listed (.body document) = entries := by
        simp [listed, hentries, Except.toOption]
      rw [hlisted, selected]
      rcases scan_some hscan with ⟨entry, hfind, hreduces⟩ |
        ⟨hnone, habsurd | ⟨_, entry, hfind, hreduces⟩⟩
      · exact ⟨entry, by rw [hfind]; rfl, hreduces⟩
      · cases habsurd
      · exact ⟨entry, by rw [hnone, hfind]; rfl, hreduces⟩

/-- `restart` either sends nothing and reports no success, or has resolved and
re-validated a reference, posts to its id and reports what came of that. -/
theorem restart_cases (config : Config) (listing : JsonAnswer)
    (post : PostOutcome) (configured : String) :
    (restart config listing post configured).posted = none ∧
        (∀ detail, (restart config listing post configured).result ≠
          .ok (true, detail)) ∨
      ∃ ref : ContainerRef,
        resolve listing config.teslamateContainer = .ok (some ref) ∧
        ref.Matches config.teslamateContainer = true ∧
        ref.name ≠ config.databaseContainer ∧
        ref.composeService.isStr config.databaseContainer = false ∧
        restart config listing post configured =
          ⟨some ref.id, postResult ref post⟩ := by
  unfold restart
  dsimp only
  by_cases hconfigured : configured = config.teslamateContainer
  · rw [if_neg (not_not_intro hconfigured), hconfigured]
    cases hresolve : resolve listing config.teslamateContainer with
    | error error => exact .inl ⟨rfl, by simp⟩
    | ok found =>
        cases found with
        | none => exact .inl ⟨rfl, by simp⟩
        | some ref =>
            dsimp only
            unfold restartRef
            dsimp only
            split
            · exact .inl ⟨rfl, by simp⟩
            · rename_i hmatches
              split
              · exact .inl ⟨rfl, by simp⟩
              · rename_i hdatabase
                simp only [Bool.not_eq_true', Bool.not_eq_false] at hmatches
                simp only [Bool.or_eq_true, beq_iff_eq, not_or,
                  Bool.not_eq_true] at hdatabase
                exact .inr ⟨ref, rfl, hmatches, hdatabase.1, hdatabase.2, rfl⟩
  · rw [if_pos hconfigured]
    exact .inl ⟨rfl, by simp⟩

/-- The entry carries the TeslaMate name, and the database name nowhere. -/
def CarriesOnlyTeslamate (config : Config) (entry : Json) : Prop :=
  ∃ names service, entryNames entry = .ok names ∧
    entryService entry = .ok service ∧
    (config.teslamateContainer ∈ names ∨
      service.isStr config.teslamateContainer = true) ∧
    config.databaseContainer ∉ names ∧
    service.isStr config.databaseContainer = false

/-- The ids the engine lists are those of different containers. -/
def DistinctIds (entries : List Json) : Prop :=
  (entries.map entryId).Nodup

theorem selected_spec {entry : Json}
    (hselected : selected configured entries = some entry) :
    entry ∈ entries ∧
      (named configured entry = true ∨ labelled configured entry = true) := by
  unfold selected at hselected
  cases hfind : entries.find? (named configured) with
  | some first =>
      rw [hfind] at hselected
      obtain rfl := Option.some.inj hselected
      exact ⟨List.mem_of_find?_eq_some hfind, .inl (List.find?_some hfind)⟩
  | none =>
      rw [hfind] at hselected
      exact ⟨List.mem_of_find?_eq_some hselected,
        .inr (List.find?_some hselected)⟩

/-- The selected entry carries the TeslaMate name; its label and first name are
not the database's once it is posted to. -/
theorem carriesOnlyTeslamate_of_selected {config : Config} {entry : Json}
    {names : List String}
    (hselected : selected config.teslamateContainer entries = some entry)
    (hreduces : Reduces entry ref) (hnames : entryNames entry = .ok names)
    (hservice : ref.composeService.isStr config.databaseContainer = false)
    (hdatabase : config.databaseContainer ∉ names) :
    CarriesOnlyTeslamate config entry := by
  refine ⟨names, ref.composeService, hnames, hreduces.service, ?_, hdatabase,
    hservice⟩
  rcases (selected_spec hselected).2 with hnamed | hlabelled
  · left
    simpa [named, hnames] using hnamed
  · right
    simpa [labelled, hreduces.service] using hlabelled

/-- A POST goes to an entry that carries the TeslaMate name and not the database
name exactly when the selected entry has no other name that is the
database's. -/
theorem restart_target_iff (config : Config) (listing : JsonAnswer)
    (post : PostOutcome) (configured : String) {id : Json}
    (hposted : (restart config listing post configured).posted = some id)
    (hids : DistinctIds (listed listing)) :
    (∃ entry ∈ listed listing, entryId entry = .ok id ∧
      CarriesOnlyTeslamate config entry) ↔
    ∀ entry names,
      selected config.teslamateContainer (listed listing) = some entry →
      entryNames entry = .ok names → config.databaseContainer ∉ names := by
  rcases restart_cases config listing post configured with
    ⟨hnone, _⟩ | ⟨ref, hresolve, _, _, hservice, hrestart⟩
  · rw [hnone] at hposted
    cases hposted
  · rw [hrestart] at hposted
    obtain rfl : ref.id = id := Option.some.inj hposted
    obtain ⟨target, htarget, hreduces⟩ := resolve_some hresolve
    obtain ⟨targetNames, htargetNames, _⟩ := hreduces.names
    constructor
    · rintro ⟨entry, hentry, hid, names, _, hnames, _, _, hclean, _⟩
        other otherNames hother hotherNames
      obtain rfl : target = other := Option.some.inj (htarget.symm.trans hother)
      obtain rfl : entry = target := List.inj_on_of_nodup_map hids hentry
        (selected_spec htarget).1 (hid.trans hreduces.id.symm)
      obtain rfl : names = otherNames :=
        Except.ok.inj (hnames.symm.trans hotherNames)
      exact hclean
    · intro hclean
      exact ⟨target, (selected_spec htarget).1, hreduces.id,
        carriesOnlyTeslamate_of_selected htarget hreduces htargetNames hservice
          (hclean target targetNames htarget htargetNames)⟩

/-- The listing of one container under two names. -/
def sharedListing (names : List String) : JsonAnswer :=
  .body (.arr [.obj [("Id", .str "4f66ad9a0b2e"),
    ("Names", .arr (names.map Json.str))]])

theorem restart_target_iff_alias :
    (∃ entry ∈ listed (sharedListing ["/teslamate", "/tm"]),
      entryId entry = .ok (.str "4f66ad9a0b2e") ∧
        CarriesOnlyTeslamate .fromEmptyEnv entry) ↔
    ∀ entry names,
      selected "teslamate" (listed (sharedListing ["/teslamate", "/tm"])) =
        some entry →
      entryNames entry = .ok names → "database" ∉ names :=
  restart_target_iff .fromEmptyEnv (sharedListing ["/teslamate", "/tm"])
    (.response 204 "") "teslamate" rfl (List.nodup_singleton _)

/-- A container whose second name is the database's is restarted. -/
theorem restart_reaches_database :
    ¬∀ (config : Config) (listing : JsonAnswer) (post : PostOutcome)
      (configured : String) (id : Json),
      (restart config listing post configured).posted = some id →
      ∃ entry ∈ listed listing, entryId entry = .ok id ∧
        CarriesOnlyTeslamate config entry := by
  intro hsafe
  obtain ⟨entry, hentry, _, names, _, hnames, _, _, hclean, _⟩ :=
    hsafe .fromEmptyEnv (sharedListing ["/teslamate", "/database"])
      (.response 204 "") "teslamate" (.str "4f66ad9a0b2e") rfl
  rw [List.mem_singleton.mp hentry] at hnames
  have hshared : names = ["teslamate", "database"] :=
    (Except.ok.inj hnames).symm
  rw [hshared] at hclean
  exact hclean (by decide)

end DockerClient

end TeslamateWatchdog

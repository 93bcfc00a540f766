/-
Computations on a state that may raise, read from outside: what came of the
call, and the state it left behind.
-/
import Mathlib.Init

namespace Foundation

variable {ε σ α β γ : Type}

/-- What a call returned or raised, and the state after it. -/
def outcome (call : EStateM ε σ α) (before : σ) : Except ε α × σ :=
  match call.run before with
  | .ok value after => (.ok value, after)
  | .error error after => (.error error, after)

section Equations

variable (before : σ)

@[simp]
theorem outcome_get :
    outcome (get : EStateM ε σ σ) before = (.ok before, before) := rfl

@[simp]
theorem outcome_set (after : σ) :
    outcome (set after : EStateM ε σ PUnit) before = (.ok ⟨⟩, after) := rfl

theorem outcome_bind (call : EStateM ε σ α) (next : α → EStateM ε σ β) :
    outcome (call >>= next) before =
      match outcome call before with
      | (.ok value, after) => outcome (next value) after
      | (.error error, after) => (.error error, after) := by
  unfold outcome
  rw [EStateM.run_bind]
  cases call.run before <;> rfl

/-- A call that is known to return is followed by the rest of the block. -/
theorem outcome_bind_of_ok {call : EStateM ε σ α} {before after : σ} {value : α}
    (hcall : outcome call before = (.ok value, after))
    (next : α → EStateM ε σ β) :
    outcome (call >>= next) before = outcome (next value) after := by
  rw [outcome_bind, hcall]

/-- A call that raises ends the block. -/
theorem outcome_bind_of_error {call : EStateM ε σ α} {before after : σ}
    {error : ε} (hcall : outcome call before = (.error error, after))
    (next : α → EStateM ε σ β) :
    outcome (call >>= next) before = (.error error, after) := by
  rw [outcome_bind, hcall]

end Equations

/-- What a chain of replies returns, it returned step by step. -/
theorem bind_eq_ok {reply : Except ε α} {next : α → Except ε β} {value : β} :
    (reply >>= next) = .ok value ↔
      ∃ first, reply = .ok first ∧ next first = .ok value := by
  constructor
  · intro hbind
    cases reply with
    | error error => cases hbind
    | ok first => exact ⟨first, rfl, hbind⟩
  · rintro ⟨first, rfl, hnext⟩
    exact hnext

theorem isOk_iff {reply : Except ε α} :
    reply.isOk = true ↔ ∃ value, reply = .ok value := by
  cases reply with
  | error error => simp [Except.isOk, Except.toBool]
  | ok value => simp [Except.isOk, Except.toBool]

/-- A step that returns only on entries that fit, and then what is known of the
entry, goes through a list when every entry of it fits. -/
theorem mapM_eq_ok {step : α → Except ε β} {Fits : α → Prop} {value : α → β}
    (hstep : ∀ entry result,
      step entry = .ok result ↔ Fits entry ∧ result = value entry)
    {entries : List α} {results : List β} :
    entries.mapM step = .ok results ↔
      (∀ entry ∈ entries, Fits entry) ∧ results = entries.map value := by
  induction entries generalizing results with
  | nil => simp [pure, Except.pure, eq_comm]
  | cons entry rest ih =>
      rw [List.mapM_cons, List.forall_mem_cons, List.map_cons]
      constructor
      · intro hresults
        obtain ⟨first, hfirst, htail⟩ := bind_eq_ok.mp hresults
        obtain ⟨others, hothers, hjoined⟩ := bind_eq_ok.mp htail
        obtain ⟨hfits, rfl⟩ := (hstep entry first).mp hfirst
        obtain ⟨hrest, rfl⟩ := ih.mp hothers
        exact ⟨⟨hfits, hrest⟩, (Except.ok.inj hjoined).symm⟩
      · rintro ⟨⟨hfits, hrest⟩, rfl⟩
        exact bind_eq_ok.mpr ⟨_, (hstep entry _).mpr ⟨hfits, rfl⟩,
          bind_eq_ok.mpr ⟨_, ih.mpr ⟨hrest, rfl⟩, rfl⟩⟩

/-- The same of a list gone through with an accumulator. -/
theorem foldlM_eq_ok {step : σ → α → Except ε σ} {Fits : α → Prop}
    {next : σ → α → σ}
    (hstep : ∀ before entry after,
      step before entry = .ok after ↔ Fits entry ∧ after = next before entry)
    {entries : List α} {before after : σ} :
    entries.foldlM step before = .ok after ↔
      (∀ entry ∈ entries, Fits entry) ∧ after = entries.foldl next before := by
  induction entries generalizing before with
  | nil => simp [pure, Except.pure, eq_comm]
  | cons entry rest ih =>
      rw [List.foldlM_cons, List.forall_mem_cons, List.foldl_cons]
      constructor
      · intro hafter
        obtain ⟨middle, hmiddle, htail⟩ := bind_eq_ok.mp hafter
        obtain ⟨hfits, rfl⟩ := (hstep before entry middle).mp hmiddle
        obtain ⟨hrest, rfl⟩ := ih.mp htail
        exact ⟨⟨hfits, hrest⟩, rfl⟩
      · rintro ⟨⟨hfits, hrest⟩, rfl⟩
        exact bind_eq_ok.mpr ⟨_, (hstep before entry _).mpr ⟨hfits, rfl⟩,
          ih.mpr ⟨hrest, rfl⟩⟩

/-- A list is mapped to its end when every step returns. -/
theorem mapM_returns_iff {step : α → Except ε β} {entries : List α} :
    (∃ results, entries.mapM step = .ok results) ↔
      ∀ entry ∈ entries, ∃ result, step entry = .ok result := by
  induction entries with
  | nil => simp [pure, Except.pure]
  | cons entry rest ih =>
      rw [List.mapM_cons, List.forall_mem_cons, ← ih]
      constructor
      · rintro ⟨results, hresults⟩
        obtain ⟨first, hfirst, htail⟩ := bind_eq_ok.mp hresults
        obtain ⟨others, hothers, _⟩ := bind_eq_ok.mp htail
        exact ⟨⟨first, hfirst⟩, others, hothers⟩
      · rintro ⟨⟨first, hfirst⟩, others, hothers⟩
        exact ⟨first :: others, bind_eq_ok.mpr ⟨first, hfirst,
          bind_eq_ok.mpr ⟨others, hothers, rfl⟩⟩⟩

/-- Every result of a list is that of one of its entries. -/
theorem exists_of_mem_mapM {step : α → Except ε β} {entries : List α}
    {results : List β} (hresults : entries.mapM step = .ok results)
    {result : β} (hresult : result ∈ results) :
    ∃ entry ∈ entries, step entry = .ok result := by
  induction entries generalizing results with
  | nil =>
      obtain rfl := Except.ok.inj hresults
      cases hresult
  | cons entry rest ih =>
      rw [List.mapM_cons] at hresults
      obtain ⟨first, hfirst, htail⟩ := bind_eq_ok.mp hresults
      obtain ⟨others, hothers, hjoined⟩ := bind_eq_ok.mp htail
      obtain rfl := Except.ok.inj hjoined
      rcases List.mem_cons.mp hresult with rfl | hresult
      · exact ⟨entry, List.mem_cons_self, hfirst⟩
      · obtain ⟨other, hother, hstep⟩ := ih hothers hresult
        exact ⟨other, .tail entry hother, hstep⟩

/-- A list is gone through to its end when every step returns. -/
theorem foldlM_returns {step : σ → α → Except ε σ} {entries : List α}
    (hstep : ∀ before, ∀ entry ∈ entries, ∃ after, step before entry = .ok after)
    (before : σ) : ∃ after, entries.foldlM step before = .ok after := by
  induction entries generalizing before with
  | nil => exact ⟨before, rfl⟩
  | cons entry rest ih =>
      obtain ⟨middle, hmiddle⟩ := hstep before entry List.mem_cons_self
      obtain ⟨after, hafter⟩ := ih
        (fun before other hother => hstep before other (.tail entry hother)) middle
      exact ⟨after, bind_eq_ok.mpr ⟨middle, hmiddle, hafter⟩⟩

/-- What every step of a list leaves as it is, the whole list does. -/
theorem foldl_keeps {step : σ → α → σ} (view : σ → γ) {entries : List α}
    (hstep : ∀ entry ∈ entries, ∀ before,
      view (step before entry) = view before) (before : σ) :
    view (entries.foldl step before) = view before := by
  induction entries generalizing before with
  | nil => rfl
  | cons entry rest ih =>
      rw [List.forall_mem_cons] at hstep
      rw [List.foldl_cons, ih hstep.2, hstep.1]

/-- Whatever comes of the call, the view of the state stays the same. -/
def Keeps (view : σ → γ) (call : EStateM ε σ α) : Prop :=
  ∀ before, view (outcome call before).2 = view before

namespace Keeps

variable {view : σ → γ}

theorem of_pure (value : α) : Keeps view (pure value : EStateM ε σ α) :=
  fun _ => rfl

theorem of_get : Keeps view (get : EStateM ε σ σ) :=
  fun _ => rfl

theorem of_modify {change : σ → σ} (hchange : ∀ s, view (change s) = view s) :
    Keeps view (modify change : EStateM ε σ PUnit) :=
  hchange

theorem bind {call : EStateM ε σ α} {next : α → EStateM ε σ β}
    (hcall : Keeps view call) (hnext : ∀ value, Keeps view (next value)) :
    Keeps view (call >>= next) := by
  intro before
  have hfirst := hcall before
  rw [outcome_bind]
  rcases hresult : outcome call before with ⟨result, middle⟩
  rw [hresult] at hfirst
  cases result with
  | ok value => exact (hnext value middle).trans hfirst
  | error error => exact hfirst

/-- What a call leaves in view is still there when the rest keeps it. -/
theorem view_bind (view : σ → γ) {call : EStateM ε σ α}
    {next : α → EStateM ε σ β} (hnext : ∀ value, Keeps view (next value)) (before : σ) :
    view (outcome (call >>= next) before).2 =
      view (outcome call before).2 := by
  rw [outcome_bind]
  rcases outcome call before with ⟨result, middle⟩
  cases result with
  | ok value => exact hnext value middle
  | error error => rfl

end Keeps

end Foundation

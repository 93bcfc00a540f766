/-
Pre- and postconditions of calls that may raise.  A triple says what holds of
the value and the state after a return, and of the state after a raise.
-/
import TeslamateWatchdog.Foundation.Raising

namespace Foundation

variable {ε σ α β : Type}

/-- From every state with the precondition, a return meets the postcondition
and a raise leaves a state that meets `raised`. -/
def Triple (pre : σ → Prop) (call : EStateM ε σ α) (post : α → σ → Prop)
    (raised : σ → Prop) : Prop :=
  ∀ before, pre before →
    (∀ value after, outcome call before = (.ok value, after) →
      post value after) ∧
    ∀ error after, outcome call before = (.error error, after) → raised after

namespace Triple

variable {pre : σ → Prop} {post : α → σ → Prop} {last : β → σ → Prop}
  {raised : σ → Prop} {call : EStateM ε σ α} {next : α → EStateM ε σ β}

theorem of_outcome (hcall : ∀ before, pre before →
      ∃ value after, outcome call before = (.ok value, after) ∧
        post value after) :
    Triple pre call post raised := by
  intro before hpre
  obtain ⟨value, after, houtcome, hpost⟩ := hcall before hpre
  constructor
  · intro other left hother
    rw [houtcome] at hother
    cases hother
    exact hpost
  · intro error left hother
    rw [houtcome] at hother
    cases hother

theorem of_pure {value : α} (hpost : ∀ s, pre s → post value s) :
    Triple pre (pure value : EStateM ε σ α) post raised :=
  of_outcome fun before hpre => ⟨value, before, rfl, hpost before hpre⟩

theorem of_throw {error : ε} (hraised : ∀ s, pre s → raised s) :
    Triple pre (throw error : EStateM ε σ α) post raised := by
  intro before hpre
  constructor
  · intro value after houtcome
    cases houtcome
  · intro other after houtcome
    cases houtcome
    exact hraised before hpre

theorem of_get {post : σ → σ → Prop} (hpost : ∀ s, pre s → post s s) :
    Triple pre (get : EStateM ε σ σ) post raised :=
  of_outcome fun before hpre => ⟨before, before, rfl, hpost before hpre⟩

theorem of_set {after : σ} {post : PUnit → σ → Prop}
    (hpost : ∀ s, pre s → post ⟨⟩ after) :
    Triple pre (set after : EStateM ε σ PUnit) post raised :=
  of_outcome fun before hpre => ⟨⟨⟩, after, rfl, hpost before hpre⟩

theorem of_modify {change : σ → σ} {post : PUnit → σ → Prop}
    (hpost : ∀ s, pre s → post ⟨⟩ (change s)) :
    Triple pre (modify change : EStateM ε σ PUnit) post raised :=
  of_outcome fun before hpre => ⟨⟨⟩, change before, rfl, hpost before hpre⟩

theorem bind (hcall : Triple pre call post raised)
    (hnext : ∀ value, Triple (post value) (next value) last raised) :
    Triple pre (call >>= next) last raised := by
  intro before hpre
  obtain ⟨hreturn, hraise⟩ := hcall before hpre
  rw [outcome_bind]
  rcases hfirst : outcome call before with ⟨result, middle⟩
  cases result with
  | ok value => exact hnext value middle (hreturn value middle hfirst)
  | error error =>
      constructor
      · intro value after houtcome
        cases houtcome
      · intro other after houtcome
        cases houtcome
        exact hraise error middle hfirst

/-- With what holds in between given. -/
theorem seq (post : α → σ → Prop) (hcall : Triple pre call post raised)
    (hnext : ∀ value, Triple (post value) (next value) last raised) :
    Triple pre (call >>= next) last raised :=
  bind hcall hnext

/-- Nothing needs to be known of a call for nothing to be claimed of it. -/
theorem of_true (call : EStateM ε σ α) :
    Triple pre call (fun _ _ => True) (fun _ => True) :=
  fun _ _ => ⟨fun _ _ _ => trivial, fun _ _ _ => trivial⟩

/-- What is known whatever the state can be taken out of a precondition. -/
theorem of_fact {fact : Prop} (hcall : fact → Triple pre call post raised) :
    Triple (fun s => fact ∧ pre s) call post raised :=
  fun before hbefore => hcall hbefore.1 before hbefore.2

end Triple

/-- What holds before the call holds after it, however it ends. -/
abbrev Maintains (invariant : σ → Prop) (call : EStateM ε σ α) : Prop :=
  Triple invariant call (fun _ => invariant) invariant

namespace Maintains

variable {invariant : σ → Prop} {call : EStateM ε σ α}
  {next : α → EStateM ε σ β}

theorem bind (hcall : Maintains invariant call)
    (hnext : ∀ value, Maintains invariant (next value)) :
    Maintains invariant (call >>= next) :=
  Triple.bind hcall hnext

theorem of_pure (value : α) :
    Maintains invariant (pure value : EStateM ε σ α) :=
  Triple.of_pure fun _ h => h

theorem of_get : Maintains invariant (get : EStateM ε σ σ) :=
  Triple.of_get fun _ h => h

theorem of_modify {change : σ → σ}
    (hchange : ∀ s, invariant s → invariant (change s)) :
    Maintains invariant (modify change : EStateM ε σ PUnit) :=
  Triple.of_modify hchange

theorem state (hcall : Maintains invariant call) {before : σ}
    (hbefore : invariant before) : invariant (outcome call before).2 := by
  obtain ⟨hreturn, hraise⟩ := hcall before hbefore
  rcases houtcome : outcome call before with ⟨result, after⟩
  cases result with
  | ok value => exact hreturn value after houtcome
  | error error => exact hraise error after houtcome

end Maintains

end Foundation

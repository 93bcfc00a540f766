/-
Two computations side by side.  Started from states that look the same through
a view, they both return or both raise, return related values, and leave states
that look the same again; the rules follow the shape of the computation.
-/
import TeslamateWatchdog.Foundation.Raising

namespace Foundation

variable {ε σ α β α' β' γ : Type}

/-- Both calls returned, related values, or both raised. -/
inductive Replies (values : α → β → Prop) : Except ε α → Except ε β → Prop
  | returned {first : α} {second : β} (hvalues : values first second) :
      Replies values (.ok first) (.ok second)
  | raised (first second : ε) :
      Replies values (.error first) (.error second)

namespace Replies

theorem refl (reply : Except ε α) : Replies (· = ·) reply reply := by
  cases reply with
  | ok value => exact .returned rfl
  | error error => exact .raised error error

/-- What does not look at the values only needs to know how the calls ended. -/
theorem of_isOk {first : Except ε α} {second : Except ε β}
    (hends : first.isOk = second.isOk) :
    Replies (fun _ _ => True) first second := by
  cases first with
  | ok value =>
      cases second with
      | ok other => exact .returned trivial
      | error error => cases hends
  | error error =>
      cases second with
      | ok other => cases hends
      | error other => exact .raised error other

end Replies

def Lockstep (view : σ → γ) (values : α → β → Prop)
    (first : EStateM ε σ α) (second : EStateM ε σ β) : Prop :=
  ∀ s t, view s = view t →
    Replies values (outcome first s).1 (outcome second t).1 ∧
      view (outcome first s).2 = view (outcome second t).2

namespace Lockstep

variable {view : σ → γ} {values : α → β → Prop}

theorem of_pure {first : α} {second : β} (hvalues : values first second) :
    Lockstep view values (pure first : EStateM ε σ α) (pure second) :=
  fun _ _ hview => ⟨.returned hvalues, hview⟩

theorem of_get :
    Lockstep view (fun s t => view s = view t) (get : EStateM ε σ σ) get :=
  fun _ _ hview => ⟨.returned hview, hview⟩

theorem of_set {s t : σ} (hview : view s = view t) :
    Lockstep view (fun _ _ => True) (set s : EStateM ε σ PUnit) (set t) :=
  fun _ _ _ => ⟨.returned trivial, hview⟩

/-- Changes that look like one and the same change. -/
theorem of_modify {change other : σ → σ} (seen : γ → γ)
    (hchange : ∀ s, view (change s) = seen (view s))
    (hother : ∀ s, view (other s) = seen (view s)) :
    Lockstep view (fun _ _ => True) (modify change : EStateM ε σ PUnit)
      (modify other) := by
  intro s t hview
  refine ⟨.returned trivial, ?_⟩
  exact (hchange s).trans ((congrArg seen hview).trans (hother t).symm)

/-- Calls that leave no visible mark only have to end alike. -/
theorem of_keeps {first : EStateM ε σ α} {second : EStateM ε σ β}
    (hfirst : Keeps view first) (hsecond : Keeps view second)
    (hreplies : ∀ s t, view s = view t →
      Replies values (outcome first s).1 (outcome second t).1) :
    Lockstep view values first second :=
  fun s t hview => ⟨hreplies s t hview,
    (hfirst s).trans (hview.trans (hsecond t).symm)⟩

theorem bind {later : α' → β' → Prop} {first : EStateM ε σ α}
    {second : EStateM ε σ β} {next : α → EStateM ε σ α'}
    {other : β → EStateM ε σ β'} (hcall : Lockstep view values first second)
    (hnext : ∀ value result, values value result →
      Lockstep view later (next value) (other result)) :
    Lockstep view later (first >>= next) (second >>= other) := by
  intro s t hview
  obtain ⟨hreplies, hmiddle⟩ := hcall s t hview
  rw [outcome_bind, outcome_bind]
  rcases hfirst : outcome first s with ⟨reply, s'⟩
  rcases hsecond : outcome second t with ⟨answer, t'⟩
  rw [hfirst, hsecond] at hreplies hmiddle
  cases hreplies with
  | returned hvalues => exact hnext _ _ hvalues s' t' hmiddle
  | raised error other => exact ⟨.raised error other, hmiddle⟩

end Lockstep

end Foundation

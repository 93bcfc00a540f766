/-
Machines that answer every input with some output.  A run threads the state and
collects the output; what one step preserves, a run preserves.
-/
import Mathlib.Data.List.Induction

namespace Foundation

universe u v w

/-- A deterministic machine with output. -/
structure Mealy (S : Type u) (I : Type v) (E : Type w) where
  step : S → I → S × List E

namespace Mealy

variable {S : Type u} {I : Type v} {E : Type w} (machine : Mealy S I E)

/-- One input on a run: the state moves and the output grows. -/
def feed (run : S × List E) (input : I) : S × List E :=
  ((machine.step run.1 input).1, run.2 ++ (machine.step run.1 input).2)

/-- The state after the inputs, and everything put out on the way. -/
def run (start : S) (inputs : List I) : S × List E :=
  inputs.foldl machine.feed (start, [])

theorem run_concat (start : S) (inputs : List I) (input : I) :
    machine.run start (inputs ++ [input]) =
      machine.feed (machine.run start inputs) input := by
  simp [run]

/-- The first input, taken off the front of a run. -/
theorem run_cons (start : S) (input : I) (rest : List I) :
    machine.run start (input :: rest) =
      ((machine.run (machine.step start input).1 rest).1,
        (machine.step start input).2 ++
          (machine.run (machine.step start input).1 rest).2) := by
  induction rest using List.reverseRecOn with
  | nil => simp [run, feed]
  | append_singleton rest last ih =>
      rw [← List.cons_append, run_concat, run_concat, ih]
      simp [feed]

theorem run_append (start : S) (front back : List I) :
    (machine.run start (front ++ back)).1 =
      (machine.run (machine.run start front).1 back).1 := by
  induction back using List.reverseRecOn with
  | nil => rw [List.append_nil]; rfl
  | append_singleton rest last ih =>
      rw [← List.append_assoc, run_concat, run_concat, feed, feed, ih]

/-- What is put out after the first inputs. -/
theorem run_append_output (start : S) (front back : List I) :
    (machine.run start (front ++ back)).2 = (machine.run start front).2 ++
      (machine.run (machine.run start front).1 back).2 := by
  induction back using List.reverseRecOn with
  | nil => rw [List.append_nil]; exact (List.append_nil _).symm
  | append_singleton rest last ih =>
      rw [← List.append_assoc, run_concat, run_concat, feed, feed, ih,
        run_append, List.append_assoc]

/-- Every input of a run meets the condition in the state it arrives in. -/
def Along (condition : S → I → Prop) (start : S) (inputs : List I) : Prop :=
  ∀ (front : List I) (input : I), front ++ [input] <+: inputs →
    condition (machine.run start front).1 input

variable {machine} {condition : S → I → Prop} {start : S} {inputs : List I}
  {input : I}

theorem Along.init (halong : machine.Along condition start (inputs ++ [input])) :
    machine.Along condition start inputs :=
  fun front other hfront =>
    halong front other (hfront.trans (List.prefix_append inputs [input]))

theorem Along.last (halong : machine.Along condition start (inputs ++ [input])) :
    condition (machine.run start inputs).1 input :=
  halong inputs input List.prefix_rfl

theorem along_of_forall (hcondition : ∀ s input, condition s input)
    (inputs : List I) : machine.Along condition start inputs :=
  fun _ _ _ => hcondition _ _

/-- Conditions on the inputs alone. -/
theorem along_of_mem (hinputs : ∀ input ∈ inputs, ∀ s, condition s input) :
    machine.Along condition start inputs :=
  fun front input hfront => hinputs input
    (hfront.subset (List.mem_append_right front List.mem_cons_self)) _

/-- Two conditions that agree in every state a run reaches. -/
theorem along_congr {other : S → I → Prop}
    (hsame : ∀ front input, condition (machine.run start front).1 input ↔
      other (machine.run start front).1 input) :
    machine.Along condition start inputs ↔
      machine.Along other start inputs := by
  constructor
  · intro halong front input hfront
    exact (hsame front input).mp (halong front input hfront)
  · intro halong front input hfront
    exact (hsame front input).mpr (halong front input hfront)

theorem along_nil : machine.Along condition start [] := by
  intro front input hfront
  simp at hfront

theorem along_cons {rest : List I} :
    machine.Along condition start (input :: rest) ↔
      condition start input ∧
        machine.Along condition (machine.step start input).1 rest := by
  constructor
  · intro halong
    refine ⟨halong [] input (List.prefix_append [input] rest), ?_⟩
    intro front other hfront
    have hother := halong (input :: front) other
      ((List.prefix_cons_inj input).mpr hfront)
    rwa [run_cons] at hother
  · rintro ⟨hfirst, hrest⟩ front other hfront
    cases front with
    | nil =>
        obtain ⟨rfl, _⟩ := List.cons_prefix_cons.mp hfront
        exact hfirst
    | cons first front =>
        obtain ⟨rfl, hrestfront⟩ := List.cons_prefix_cons.mp hfront
        rw [run_cons]
        exact hrest front other hrestfront

instance alongDecidable [∀ s input, Decidable (condition s input)] :
    ∀ (start : S) (inputs : List I),
      Decidable (machine.Along condition start inputs)
  | _, [] => .isTrue along_nil
  | start, input :: rest =>
      have := alongDecidable (machine.step start input).1 rest
      decidable_of_iff _ along_cons.symm

/-- The induction over runs: a property of the inputs so far, the state and the
output holds at the start and is preserved by every step that meets the
condition. -/
theorem run_induction {property : List I → S → List E → Prop}
    (hstart : property [] start [])
    (hstep : ∀ inputs input,
      property inputs (machine.run start inputs).1 (machine.run start inputs).2 →
      condition (machine.run start inputs).1 input →
      property (inputs ++ [input])
        (machine.step (machine.run start inputs).1 input).1
        ((machine.run start inputs).2 ++
          (machine.step (machine.run start inputs).1 input).2))
    (inputs : List I) (halong : machine.Along condition start inputs) :
    property inputs (machine.run start inputs).1
      (machine.run start inputs).2 := by
  induction inputs using List.reverseRecOn with
  | nil => exact hstart
  | append_singleton inputs input ih =>
      rw [run_concat]
      exact hstep inputs input (ih halong.init) halong.last

/-- What every step preserves that meets the condition holds after a run. -/
theorem run_invariant (invariant : S → Prop) (hstart : invariant start)
    (hstep : ∀ s input, invariant s → condition s input →
      invariant (machine.step s input).1)
    (inputs : List I) (halong : machine.Along condition start inputs) :
    invariant (machine.run start inputs).1 :=
  @run_induction _ _ _ machine condition start (fun _ s _ => invariant s) hstart
    (fun _ input hbefore hcondition => hstep _ input hbefore hcondition)
    inputs halong

/-- Two machines on the same inputs: a relation of their runs that every input
preserves. -/
theorem run_related {T : Type u} {F : Type w} {other : Mealy T I F} {origin : T}
    (relation : S × List E → T × List F → Prop)
    (hstart : relation (start, []) (origin, []))
    (hfeed : ∀ run track, relation run track → ∀ input,
      relation (machine.feed run input) (other.feed track input))
    (inputs : List I) :
    relation (machine.run start inputs) (other.run origin inputs) := by
  induction inputs using List.reverseRecOn with
  | nil => exact hstart
  | append_singleton inputs input ih =>
      rw [run_concat, run_concat]
      exact hfeed _ _ ih input

/-- A run puts out what each of its steps does. -/
theorem subset_run_output (front back : List I) :
    (machine.step (machine.run start front).1 input).2 ⊆
      (machine.run start (front ++ input :: back)).2 := by
  rw [run_append_output, run_cons]
  exact fun _ hmem => List.mem_append_right _ (List.mem_append_left _ hmem)

/-- A level that every step raises, below a bound, unless the step responds: as
many steps as the bound respond at some point. -/
theorem exists_response {invariant : S → Prop} {response : S → I → Prop}
    {level : S → Nat} {bound : Nat}
    (hrises : ∀ s input, invariant s → condition s input →
      response s input ∨
        invariant (machine.step s input).1 ∧
          level s < level (machine.step s input).1 ∧
          level (machine.step s input).1 < bound)
    (hstart : invariant start) (halong : machine.Along condition start inputs)
    (hne : inputs ≠ []) (hlength : bound ≤ inputs.length) :
    ∃ front input back, inputs = front ++ input :: back ∧
      response (machine.run start front).1 input := by
  have hlevel : bound ≤ level start + inputs.length := by omega
  clear hlength
  induction inputs generalizing start with
  | nil => exact absurd rfl hne
  | cons input rest ih =>
      rw [along_cons] at halong
      rcases hrises start input hstart halong.1 with
        hresponds | ⟨hnext, hhigher, hbelow⟩
      · exact ⟨[], input, rest, rfl, hresponds⟩
      · rw [List.length_cons] at hlevel
        have hrest : rest ≠ [] := by
          rintro rfl
          rw [List.length_nil] at hlevel
          omega
        obtain ⟨front, other, back, hsplit, hresponds⟩ :=
          ih hnext halong.2 hrest (by omega)
        refine ⟨input :: front, other, back, by rw [hsplit]; rfl, ?_⟩
        rwa [run_cons]

end Mealy

end Foundation

import Mathlib.Data.List.Basic

/-! # Labelled transition systems with restricted runs

  A small framework for systems that are given by an initial condition and a
  labelled step relation. Two things are not in every such framework:

  * `System.restrict` narrows a system to the steps that meet a condition.
    A property of "every run whose steps all meet `P`" is a property of the
    runs of the restricted system, so the rules below serve it unchanged.
  * `Refines` relates two systems by a map on states. A concrete step is
    matched by an abstract step or by no step at all (stuttering), and the
    match may rely on an invariant of the concrete system.
-/

namespace LTS

universe u v w x

variable {State : Type u} {Label : Type v}

/-! ### Systems and runs -/

/-- A labelled transition system. -/
structure System (State : Type u) (Label : Type v) where
  /-- The states a run may start in. -/
  init : State → Prop
  /-- One step of the system under a label. -/
  step : State → Label → State → Prop

/-- The system that only takes the steps meeting `P`. -/
def System.restrict (sys : System State Label) (P : State → Label → State → Prop) :
    System State Label where
  init := sys.init
  step := fun s l s' => sys.step s l s' ∧ P s l s'

/-- A finite run, with the labels of its steps in order. -/
inductive Run (sys : System State Label) : State → List Label → State → Prop where
  | nil  : ∀ s, Run sys s [] s
  | cons : ∀ {s s' s''} (l : Label) (ls : List Label),
             sys.step s l s' → Run sys s' ls s'' → Run sys s (l :: ls) s''

/-- A state some run from an initial state ends in. -/
inductive Reachable (sys : System State Label) : State → Prop where
  | init : ∀ {s}, sys.init s → Reachable sys s
  | step : ∀ {s s'} (l : Label), Reachable sys s → sys.step s l s' → Reachable sys s'

/-- A run from a reachable state ends in a reachable state. -/
theorem Run.reachable {sys : System State Label} {s s' : State} {ls : List Label}
    (h : Run sys s ls s') (hs : Reachable sys s) : Reachable sys s' := by
  induction h with
  | nil s => exact hs
  | cons l ls hstep _ ih => exact ih (.step l hs hstep)

/-- A run whose labels all meet the condition is a run of the restricted
    system. -/
theorem Run.restrict {sys : System State Label} {P : State → Label → State → Prop}
    {s s' : State} {ls : List Label} (h : Run sys s ls s')
    (hP : ∀ l ∈ ls, ∀ t t', P t l t') : Run (sys.restrict P) s ls s' := by
  induction h with
  | nil s => exact .nil s
  | cons l ls hstep _ ih =>
    exact .cons l ls ⟨hstep, hP l (by simp) _ _⟩ (ih fun l' hl' => hP l' (by simp [hl']))

/-! ### Invariant rules -/

/-- What every step preserves, every run preserves. -/
theorem Run.preserves {sys : System State Label} {Inv : State → Prop}
    (hstep : ∀ s l s', Inv s → sys.step s l s' → Inv s')
    {s s' : State} {ls : List Label} (h : Run sys s ls s') (hs : Inv s) : Inv s' := by
  induction h with
  | nil s => exact hs
  | cons l ls hl _ ih => exact ih (hstep _ l _ hs hl)

/-- **Invariant rule**: what holds initially and is preserved by every step
    holds in every reachable state. -/
theorem Reachable.invariant {sys : System State Label} {Inv : State → Prop}
    (hinit : ∀ s, sys.init s → Inv s)
    (hstep : ∀ s l s', Inv s → sys.step s l s' → Inv s')
    {s : State} (h : Reachable sys s) : Inv s := by
  induction h with
  | init h => exact hinit _ h
  | step l _ hl ih => exact hstep _ l _ ih hl

/-! ### Refinement -/

/-- `abstract` simulates `concrete` along `f`: initial states map to initial
    states, and a step from a state meeting `Inv` maps to an abstract step or
    leaves the abstract state alone. -/
structure Refines {Abs : Type w} {AbsLabel : Type x} (concrete : System State Label)
    (abstract : System Abs AbsLabel) (f : State → Abs) (Inv : State → Prop) : Prop where
  init : ∀ s, concrete.init s → abstract.init (f s)
  step : ∀ s l s', Inv s → concrete.step s l s' →
    (∃ l', abstract.step (f s) l' (f s')) ∨ f s' = f s

/-- **Refinement rule**: under a refinement every reachable concrete state
    maps to a reachable abstract state. -/
theorem Refines.reachable {Abs : Type w} {AbsLabel : Type x} {concrete : System State Label}
    {abstract : System Abs AbsLabel} {f : State → Abs} {Inv : State → Prop}
    (href : Refines concrete abstract f Inv)
    (hinv : ∀ s, Reachable concrete s → Inv s)
    {s : State} (h : Reachable concrete s) : Reachable abstract (f s) := by
  induction h with
  | init h => exact .init (href.init _ h)
  | @step s s' l hs hl ih =>
    rcases href.step _ l _ (hinv _ hs) hl with ⟨l', hl'⟩ | heq
    · exact .step l' ih hl'
    · rw [heq]; exact ih

end LTS

import Mathlib.Data.List.Basic

set_option autoImplicit false

/-! Labelled machines with a partial executable step. A label that is not
enabled has no successor, so one definition serves to replay a concrete run and
to prove what every run preserves. `ReachableWhen` restricts the steps taken by
a condition on the state before each of them; `Reachable` takes them all. -/

structure Machine (State Label : Type) where
  initial : State → Prop
  step : State → Label → Option State

namespace Machine

variable {State Label : Type} (machine : Machine State Label)

/-- States reached by runs whose every step is taken where `allowed` holds. -/
inductive ReachableWhen (allowed : State → Label → Prop) : State → Prop
  | initial {state : State} (starts : machine.initial state) : ReachableWhen allowed state
  | step {state next : State} {label : Label} (before : ReachableWhen allowed state)
      (permitted : allowed state label) (taken : machine.step state label = some next) :
      ReachableWhen allowed next

def Reachable : State → Prop :=
  machine.ReachableWhen fun _ _ => True

/-- The labels of a run, replayed in order. -/
def run : State → List Label → Option State
  | state, [] => some state
  | state, label :: rest => (machine.step state label).bind fun next => run next rest

/-- The replay of a run that stops where a step is not allowed. -/
def runWhen (allowed : State → Label → Prop)
    [∀ state label, Decidable (allowed state label)] : State → List Label → Option State
  | state, [] => some state
  | state, label :: rest =>
      if allowed state label then
        (machine.step state label).bind fun next => runWhen allowed next rest
      else none

variable {machine}

/-! ### The invariant rule -/

theorem ReachableWhen.invariant {allowed : State → Label → Prop} (good : State → Prop)
    (start : ∀ state, machine.initial state → good state)
    (keep : ∀ state label next, machine.ReachableWhen allowed state → good state →
      allowed state label → machine.step state label = some next → good next)
    {state : State} (reached : machine.ReachableWhen allowed state) : good state := by
  induction reached with
  | initial starts => exact start _ starts
  | step before permitted taken ih => exact keep _ _ _ before ih permitted taken

/-- The invariant rule where every step is allowed. -/
theorem Reachable.invariant (good : State → Prop)
    (start : ∀ state, machine.initial state → good state)
    (keep : ∀ state label next, machine.Reachable state → good state →
      machine.step state label = some next → good next)
    {state : State} (reached : machine.Reachable state) : good state :=
  ReachableWhen.invariant good start
    (fun state label next before holds _ taken => keep state label next before holds taken)
    reached

theorem ReachableWhen.mono {allowed wider : State → Label → Prop}
    (widen : ∀ state label, allowed state label → wider state label)
    {state : State} (reached : machine.ReachableWhen allowed state) :
    machine.ReachableWhen wider state := by
  induction reached with
  | initial starts => exact .initial starts
  | step _ permitted taken ih => exact .step ih (widen _ _ permitted) taken

theorem ReachableWhen.reachable {allowed : State → Label → Prop} {state : State}
    (reached : machine.ReachableWhen allowed state) : machine.Reachable state :=
  reached.mono fun _ _ _ => trivial

theorem Reachable.step {state next : State} {label : Label} (before : machine.Reachable state)
    (taken : machine.step state label = some next) : machine.Reachable next :=
  ReachableWhen.step before trivial taken

/-! ### Replayed runs -/

theorem ReachableWhen.runWhen {allowed : State → Label → Prop}
    [∀ state label, Decidable (allowed state label)] {state final : State}
    (labels : List Label) (before : machine.ReachableWhen allowed state)
    (replayed : machine.runWhen allowed state labels = some final) :
    machine.ReachableWhen allowed final := by
  induction labels generalizing state with
  | nil =>
      cases replayed
      exact before
  | cons label rest ih =>
      simp only [Machine.runWhen, Option.ite_none_right_eq_some] at replayed
      obtain ⟨permitted, replayed⟩ := replayed
      obtain ⟨next, taken, replayed⟩ := Option.bind_eq_some_iff.mp replayed
      exact ih (.step before permitted taken) replayed

theorem Reachable.run {state final : State} (labels : List Label)
    (before : machine.Reachable state) (replayed : machine.run state labels = some final) :
    machine.Reachable final := by
  induction labels generalizing state with
  | nil =>
      cases replayed
      exact before
  | cons label rest ih =>
      obtain ⟨next, taken, replayed⟩ := Option.bind_eq_some_iff.mp replayed
      exact ih (before.step taken) replayed

/-- A replay whose final state passes a check reaches a state that passes it. -/
theorem exists_reachable_of_run {state : State} (labels : List Label) (check : State → Bool)
    (starts : machine.initial state)
    (passes : (machine.run state labels).any check = true) :
    ∃ final, machine.Reachable final ∧ check final = true := by
  obtain ⟨final, replayed, passed⟩ := (Option.any_eq_true check _).mp passes
  exact ⟨final, Reachable.run labels (.initial starts) replayed, passed⟩

theorem run_append (state : State) (before rest : List Label) :
    machine.run state (before ++ rest) =
      (machine.run state before).bind fun mid => machine.run mid rest := by
  induction before generalizing state with
  | nil => rfl
  | cons label before ih =>
      simp only [List.cons_append, run]
      cases machine.step state label with
      | none => rfl
      | some next => exact ih next

/-- A run can be replayed to its end exactly when each of its steps is enabled in the
state that the steps before it leave. -/
theorem run_isSome_iff (state : State) (labels : List Label) :
    (machine.run state labels).isSome = true ↔
      ∀ before label rest, labels = before ++ label :: rest →
        ∀ mid, machine.run state before = some mid → (machine.step mid label).isSome = true := by
  constructor
  · intro replayed before label rest split mid reached
    rw [split, run_append, reached, Option.bind_some, run] at replayed
    cases taken : machine.step mid label with
    | none =>
        rw [taken] at replayed
        cases replayed
    | some next => rfl
  · intro enabled
    induction labels generalizing state with
    | nil => rfl
    | cons label rest ih =>
        have first := enabled [] label rest rfl state rfl
        obtain ⟨next, taken⟩ := Option.isSome_iff_exists.mp first
        rw [run, taken, Option.bind_some]
        apply ih next
        intro before other after split mid reached
        apply enabled (label :: before) other after (by rw [split]; rfl) mid
        rw [run, taken]
        exact reached

/-! ### The states and the steps of a run -/

variable (machine) in
/-- Every state of a run is good; a run stops at a label that is not enabled. -/
def Always (good : State → Prop) : State → List Label → Prop
  | state, [] => good state
  | state, label :: rest =>
      good state ∧ ∀ next, machine.step state label = some next → Always good next rest

variable (machine) in
/-- Every step of a run is taken where it is allowed. -/
def Permits (allowed : State → Label → Prop) : State → List Label → Prop
  | _, [] => True
  | state, label :: rest =>
      ∀ next, machine.step state label = some next →
        allowed state label ∧ Permits allowed next rest

/-- Where an allowed step keeps an invariant that makes a state good, and another one leaves
a state that is not good, the states of a run are good exactly when its steps are allowed. -/
theorem always_iff_permits {good : State → Prop} {allowed : State → Label → Prop}
    (invariant : State → Prop) (sound : ∀ state, invariant state → good state)
    (keep : ∀ state label next, invariant state → machine.step state label = some next →
      allowed state label → invariant next)
    (sharp : ∀ state label next, invariant state → machine.step state label = some next →
      good next → allowed state label)
    (labels : List Label) (state : State) (holds : invariant state) :
    machine.Always good state labels ↔ machine.Permits allowed state labels := by
  induction labels generalizing state with
  | nil => exact iff_of_true (sound state holds) trivial
  | cons label rest ih =>
      constructor
      · intro always next taken
        have later := always.2 next taken
        have goodNext : good next := by
          cases rest with
          | nil => exact later
          | cons => exact later.1
        have permitted := sharp state label next holds taken goodNext
        exact ⟨permitted, (ih next (keep state label next holds taken permitted)).mp later⟩
      · intro permits
        refine ⟨sound state holds, ?_⟩
        intro next taken
        have permitted := permits next taken
        exact (ih next (keep state label next holds taken permitted.1)).mpr permitted.2

/-! ### Simulation -/

/-- Every step of the concrete machine is matched by at most one step of the abstract one. -/
structure Simulation {Abstract Action : Type} (concrete : Machine State Label)
    (abstract : Machine Abstract Action) (related : State → Abstract → Prop) : Prop where
  start : ∀ state, concrete.initial state → ∃ image, abstract.initial image ∧ related state image
  step : ∀ state label next image, concrete.Reachable state → related state image →
    concrete.step state label = some next →
    ∃ after, related next after ∧
      (after = image ∨ ∃ action, abstract.step image action = some after)

theorem Simulation.reachable {Abstract Action : Type} {concrete : Machine State Label}
    {abstract : Machine Abstract Action} {related : State → Abstract → Prop}
    (simulation : Simulation concrete abstract related) {state : State}
    (reached : concrete.Reachable state) :
    ∃ image, abstract.Reachable image ∧ related state image := by
  refine Reachable.invariant (fun state => ∃ image, abstract.Reachable image ∧ related state image)
    ?_ ?_ reached
  · intro state starts
    obtain ⟨image, imageStarts, agrees⟩ := simulation.start state starts
    exact ⟨image, .initial imageStarts, agrees⟩
  · intro state label next before ⟨image, imageReached, agrees⟩ taken
    obtain ⟨after, afterAgrees, same | ⟨action, moved⟩⟩ :=
      simulation.step state label next image before agrees taken
    · exact ⟨after, same ▸ imageReached, afterAgrees⟩
    · exact ⟨after, imageReached.step moved, afterAgrees⟩

end Machine

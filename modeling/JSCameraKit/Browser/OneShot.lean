import Mathlib.Logic.Function.Basic
import JSCameraKit.Library.Machine
import JSCameraKit.Browser.EventEmitter

set_option autoImplicit false

/-! The calls of `once`, whose promises are settled by an event or by a timeout. An emission is
walked listener by listener: the functions of the page are given their turns by it and make
calls of their own, emissions among them, before they return or throw. -/

namespace JSCameraKit
namespace Browser
namespace OneShot

open Events (EventEmitter Listener Registration)

inductive Promise
  | pending
  | resolved
  | rejected
  deriving DecidableEq

/-- The registrations that were made, in order, and the numbers of those taken back, whatever
the emitter itself keeps. -/
structure Ledger (Event Code : Type) where
  made : List (Event × Registration Code)
  removed : List Nat

/-- A `forEach`; while it is `running`, a function of the page has its turn. -/
structure Walk (Event : Type) where
  event : Event
  left : Nat
  index : Nat
  running : Bool

/-- Calls of `once` and their timers go by the number of the registration; the innermost walk
comes first. `threw` tells of a listener of `once` that could not take itself off. -/
structure Emissions (Event Code : Type) where
  emitter : EventEmitter Event Code
  promises : Nat → Option Promise
  timers : List Nat
  walks : List (Walk Event)
  ledger : Ledger Event Code
  threw : Bool

inductive Call (Event Code : Type)
  | on (event : Event) (code : Code)
  | onOff (event : Event) (code : Code)
  | once (event : Event) (timeout : Int)
  | off (event : Event) (code : Code)
  | emit (event : Event)

inductive Label (Event Code : Type)
  | call (call : Call Event Code)
  | turn
  | returns
  | throws
  | timeout (number : Nat)

variable {Event Code : Type} [DecidableEq Event] [DecidableEq Code]

namespace Ledger

omit [DecidableEq Code] in
def kept (ledger : Ledger Event Code) (event : Event) : List (Registration Code) :=
  (ledger.made.filter fun entry => entry.1 = event ∧ entry.2.number ∉ ledger.removed).map Prod.snd

def on (ledger : Ledger Event Code) (event : Event) (registration : Registration Code) :
    Ledger Event Code :=
  { ledger with made := ledger.made ++ [(event, registration)] }

/-- Of several registrations of a listener the oldest is taken back. -/
def off (ledger : Ledger Event Code) (event : Event) (listener : Listener Code) :
    Ledger Event Code :=
  match (ledger.kept event).find? fun registration => registration.listener = listener with
  | none => ledger
  | some registration => { ledger with removed := ledger.removed ++ [registration.number] }

end Ledger

/-- A promise is settled once. -/
def settle (promises : Nat → Option Promise) (number : Nat) (outcome : Promise) :
    Nat → Option Promise :=
  if promises number = some .pending then Function.update promises number (some outcome)
  else promises

def Walk.next (walk : Walk Event) (running : Bool) : Walk Event :=
  { walk with left := walk.left - 1, index := walk.index + 1, running := running }

namespace Emissions

def init : Emissions Event Code :=
  { emitter := .new
    promises := fun _ => none
    timers := []
    walks := []
    ledger := { made := [], removed := [] }
    threw := false }

def on (state : Emissions Event Code) (event : Event) (listener : Listener Code) :
    Emissions Event Code :=
  { state with
    emitter := state.emitter.on event listener
    ledger := state.ledger.on event ⟨state.emitter.registered, listener⟩ }

def once (state : Emissions Event Code) (event : Event) (timeout : Int) : Emissions Event Code :=
  { state with
    emitter := state.emitter.once event
    promises := Function.update state.promises state.emitter.registered (some .pending)
    timers :=
      if timeout = -1 then state.timers else state.timers ++ [state.emitter.registered]
    ledger := state.ledger.on event
      ⟨state.emitter.registered, .once state.emitter.registered⟩ }

/-- An unknown listener is an exception. -/
def off (state : Emissions Event Code) (event : Event) (listener : Listener Code) :
    Option (Emissions Event Code) :=
  match state.emitter.off event listener with
  | none => none
  | some emitter =>
      some { state with emitter := emitter, ledger := state.ledger.off event listener }

def emit (state : Emissions Event Code) (event : Event) : Emissions Event Code :=
  match state.emitter.listeners event with
  | none => state
  | some listeners =>
      { state with
        walks :=
          { event := event, left := listeners.length, index := 0, running := false } ::
            state.walks }

/-- An exception leaves the caller with the state in which `off` was called. -/
def perform (state : Emissions Event Code) : Call Event Code → Emissions Event Code
  | .on event code | .onOff event code => state.on event (.function code)
  | .once event timeout => state.once event timeout
  | .off event code => (state.off event (.function code)).getD state
  | .emit event => state.emit event

/-- The function that `once` makes; an exception of it ends the walk. -/
def fn (state : Emissions Event Code) (event : Event) (number : Nat) : Emissions Event Code :=
  match state.off event (.once number) with
  | none => { state with walks := state.walks.tail, threw := true }
  | some next =>
      { next with
        timers := next.timers.filter (· ≠ number)
        promises := settle next.promises number .resolved }

/-- The `forEach` of the innermost walk goes on by one index, or is done. -/
def turn (state : Emissions Event Code) (walk : Walk Event) (outer : List (Walk Event)) :
    Emissions Event Code :=
  if walk.left = 0 then { state with walks := outer }
  else
    match (state.emitter.registrations walk.event)[walk.index]? with
    | none => { state with walks := walk.next false :: outer }
    | some registration =>
        match registration.listener with
        | .function _ => { state with walks := walk.next true :: outer }
        | .once number => fn { state with walks := walk.next false :: outer } walk.event number

/-- The function given to `setTimeout`. -/
def onTimeout (state : Emissions Event Code) (number : Nat) : Emissions Event Code :=
  { state with
    timers := state.timers.filter (· ≠ number)
    promises := settle state.promises number .rejected }

/-- A call is made by a function that has its turn, or outside all walks; there alone does the
browser run its timers. -/
def step (state : Emissions Event Code) : Label Event Code → Option (Emissions Event Code)
  | .call call =>
      match state.walks with
      | [] => some (state.perform call)
      | walk :: _ => if walk.running then some (state.perform call) else none
  | .turn =>
      match state.walks with
      | [] => none
      | walk :: outer => if walk.running then none else some (state.turn walk outer)
  | .returns =>
      match state.walks with
      | [] => none
      | walk :: outer =>
          if walk.running then some { state with walks := { walk with running := false } :: outer }
          else none
  | .throws =>
      match state.walks with
      | [] => none
      | walk :: outer => if walk.running then some { state with walks := outer } else none
  | .timeout number =>
      match state.walks with
      | [] => if number ∈ state.timers then some (state.onTimeout number) else none
      | _ :: _ => none

def machine : Machine (Emissions Event Code) (Label Event Code) :=
  { initial := fun state => state = init
    step := step }

/-! ### What is left behind -/

/-- A settled promise has neither a listener nor a timer, the arrays are those of the ledger,
and the listeners that `once` made have all been able to take themselves off. -/
structure Clean (state : Emissions Event Code) : Prop where
  settled : ∀ number outcome, state.promises number = some outcome → outcome ≠ .pending →
    (∀ event, ∀ registration ∈ state.emitter.registrations event,
      registration.listener ≠ .once number) ∧ number ∉ state.timers
  lists : ∀ event, state.emitter.registrations event = state.ledger.kept event
  quiet : state.threw = false

/-- No timer of a call of `once` runs out. -/
def InTime (_ : Emissions Event Code) (label : Label Event Code) : Prop :=
  ∀ number, label ≠ .timeout number

end Emissions

/-! ### The ledger -/

section

omit [DecidableEq Code]

variable {emitter : EventEmitter Event Code} {ledger : Ledger Event Code}
  {promises : Nat → Option Promise} {timers : List Nat}

theorem Ledger.mem_kept {event : Event} {registration : Registration Code} :
    registration ∈ ledger.kept event ↔
      (event, registration) ∈ ledger.made ∧ registration.number ∉ ledger.removed := by
  simp [kept]

theorem Ledger.kept_on (ledger : Ledger Event Code) (event : Event)
    {registration : Registration Code} (new : registration.number ∉ ledger.removed)
    (other : Event) :
    (ledger.on event registration).kept other =
      if other = event then ledger.kept other ++ [registration] else ledger.kept other := by
  unfold kept on
  rw [List.filter_append, List.map_append]
  by_cases same : other = event
  · simp [same, new]
  · simp [same, Ne.symm same]

theorem Ledger.kept_remove (ledger : Ledger Event Code) (number : Nat) (event : Event) :
    Ledger.kept { ledger with removed := ledger.removed ++ [number] } event =
      (ledger.kept event).filter fun registration => registration.number ≠ number := by
  unfold kept
  rw [List.filter_map, List.filter_filter]
  congr 1
  apply List.filter_congr
  intro entry _
  simp only [List.mem_append, List.mem_singleton, not_or, Function.comp, ← Bool.decide_and]
  exact decide_eq_decide.mpr (by tauto)

/-- The arrays are those of the ledger, which no two registrations share a number in. -/
structure Agrees (emitter : EventEmitter Event Code) (ledger : Ledger Event Code) : Prop where
  lists : ∀ event, emitter.registrations event = ledger.kept event
  below : ∀ entry ∈ ledger.made, entry.2.number < emitter.registered
  gone : ∀ number ∈ ledger.removed, number < emitter.registered
  own : ∀ entry ∈ ledger.made, ∀ other ∈ ledger.made,
    entry.2.number = other.2.number → entry = other

theorem Agrees.eq_of_number (agrees : Agrees emitter ledger) {event other : Event}
    {registration found : Registration Code} (member : registration ∈ emitter.registrations event)
    (present : found ∈ emitter.registrations other)
    (same : registration.number = found.number) : event = other ∧ registration = found := by
  rw [agrees.lists, Ledger.mem_kept] at member present
  exact Prod.mk.inj (agrees.own _ member.1 _ present.1 same)

/-- The function that a call of `once` made is registered. -/
def Listens (emitter : EventEmitter Event Code) (number : Nat) : Prop :=
  ∃ event, ∃ registration ∈ emitter.registrations event, registration.listener = .once number

/-- It is registered once, under the number of the call. -/
def OwnNumber (emitter : EventEmitter Event Code) : Prop :=
  ∀ event, ∀ registration ∈ emitter.registrations event, ∀ number,
    registration.listener = .once number → registration.number = number

/-- As long as no timer has run out, the promises that are pending are those whose listeners
are registered, and only they have timers. -/
structure Waits (emitter : EventEmitter Event Code) (promises : Nat → Option Promise)
    (timers : List Nat) : Prop where
  waiting : ∀ number, promises number = some .pending ↔ Listens emitter number
  armed : ∀ number ∈ timers, Listens emitter number
  fresh : ∀ number, emitter.registered ≤ number → promises number = none

omit [DecidableEq Event] in
theorem Waits.of_listens {next : EventEmitter Event Code} (waits : Waits emitter promises timers)
    (same : ∀ number, Listens next number ↔ Listens emitter number)
    (grows : emitter.registered ≤ next.registered) : Waits next promises timers := by
  refine ⟨?_, ?_, ?_⟩
  · intro number
    rw [same, waits.waiting]
  · intro number member
    exact (same number).mpr (waits.armed number member)
  · intro number above
    exact waits.fresh number (Nat.le_trans grows above)

/-! ### Registrations -/

theorem Agrees.on (agrees : Agrees emitter ledger) (event : Event) (listener : Listener Code) :
    Agrees (emitter.on event listener) (ledger.on event ⟨emitter.registered, listener⟩) := by
  have new : emitter.registered ∉ ledger.removed := fun member =>
    Nat.lt_irrefl _ (agrees.gone _ member)
  have older : ∀ entry ∈ ledger.made, entry.2.number ≠ emitter.registered := fun entry member =>
    Nat.ne_of_lt (agrees.below entry member)
  refine ⟨?_, ?_, ?_, ?_⟩
  · intro other
    rw [EventEmitter.registrations_on, ledger.kept_on event new, agrees.lists]
  · intro entry member
    rcases List.mem_append.mp member with old | last
    · exact Nat.lt_succ_of_lt (agrees.below entry old)
    · rw [List.mem_singleton.mp last]
      exact Nat.lt_succ_self _
  · intro number member
    exact Nat.lt_succ_of_lt (agrees.gone number member)
  · intro entry member other present same
    rcases List.mem_append.mp member with old | last
    · rcases List.mem_append.mp present with older' | last
      · exact agrees.own entry old other older' same
      · rw [List.mem_singleton.mp last] at same
        exact absurd same (older entry old)
    · rcases List.mem_append.mp present with old | also
      · rw [List.mem_singleton.mp last] at same
        exact absurd same.symm (older other old)
      · rw [List.mem_singleton.mp last, List.mem_singleton.mp also]

private theorem listens_on (emitter : EventEmitter Event Code) (event : Event)
    (listener : Listener Code)
    (number : Nat) :
    Listens (emitter.on event listener) number ↔
      Listens emitter number ∨ listener = .once number := by
  constructor
  · rintro ⟨other, registration, member, same⟩
    rw [EventEmitter.registrations_on] at member
    split at member
    · rcases List.mem_append.mp member with old | last
      · exact .inl ⟨other, registration, old, same⟩
      · rw [List.mem_singleton.mp last] at same
        exact .inr same
    · exact .inl ⟨other, registration, member, same⟩
  · rintro (⟨other, registration, member, same⟩ | same)
    · refine ⟨other, registration, ?_, same⟩
      rw [EventEmitter.registrations_on]
      split
      · exact List.mem_append_left _ member
      · exact member
    · refine ⟨event, ⟨emitter.registered, listener⟩, ?_, same⟩
      rw [EventEmitter.registrations_on, if_pos rfl]
      exact List.mem_append_right _ List.mem_cons_self

theorem OwnNumber.on (own : OwnNumber emitter) (event : Event) {listener : Listener Code}
    (named : ∀ number, listener = .once number → emitter.registered = number) :
    OwnNumber (emitter.on event listener) := by
  intro other registration member number same
  rw [EventEmitter.registrations_on] at member
  split at member
  · rcases List.mem_append.mp member with old | last
    · exact own other registration old number same
    · rw [List.mem_singleton.mp last] at same ⊢
      exact named number same
  · exact own other registration member number same

theorem Waits.on (waits : Waits emitter promises timers) (event : Event) (code : Code) :
    Waits (emitter.on event (.function code)) promises timers := by
  apply waits.of_listens
  · intro number
    rw [listens_on]
    exact or_iff_left fun impossible => by cases impossible
  · exact Nat.le_succ _

theorem Waits.once (waits : Waits emitter promises timers) (event : Event) (timeout : Int) :
    Waits (emitter.once event) (Function.update promises emitter.registered (some .pending))
      (if timeout = -1 then timers else timers ++ [emitter.registered]) := by
  have listens : ∀ number, Listens (emitter.once event) number ↔
      Listens emitter number ∨ number = emitter.registered := by
    intro number
    rw [EventEmitter.once, listens_on, Listener.once.injEq, eq_comm]
  refine ⟨?_, ?_, ?_⟩
  · intro number
    rw [listens, ← waits.waiting]
    by_cases this : number = emitter.registered
    · rw [this, Function.update_self]
      exact iff_of_true rfl (.inr rfl)
    · rw [Function.update_of_ne this]
      exact (or_iff_left this).symm
  · intro number member
    rw [listens]
    split at member
    · exact .inl (waits.armed number member)
    · rcases List.mem_append.mp member with old | last
      · exact .inl (waits.armed number old)
      · exact .inr (List.mem_singleton.mp last)
  · intro number above
    have later : number ≠ emitter.registered := Nat.ne_of_gt above
    rw [Function.update_of_ne later]
    exact waits.fresh number (Nat.le_of_succ_le above)

end

/-! ### Removals -/

variable {emitter next : EventEmitter Event Code} {ledger : Ledger Event Code}
  {promises : Nat → Option Promise} {timers : List Nat}

theorem Agrees.off (agrees : Agrees emitter ledger) {event : Event} {listener : Listener Code}
    (known : emitter.off event listener = some next) :
    Agrees next (ledger.off event listener) := by
  obtain ⟨registration, found, registered, lists⟩ := EventEmitter.off_spec known
  have member := List.mem_of_find?_eq_some found
  have struck : ledger.off event listener =
      { ledger with removed := ledger.removed ++ [registration.number] } := by
    rw [Ledger.off, ← agrees.lists, found]
  rw [struck]
  refine ⟨?_, ?_, ?_, agrees.own⟩
  · intro other
    rw [Ledger.kept_remove, ← agrees.lists, lists]
    split
    next same =>
      rw [same]
      apply List.filter_congr
      intro kept present
      have byNumber : kept.number = registration.number ↔ kept = registration :=
        ⟨fun same => (agrees.eq_of_number present member same).2, congrArg _⟩
      simp only [ne_eq, byNumber]
    next different =>
      symm
      apply List.filter_eq_self.mpr
      intro kept present
      have elsewhere : kept.number ≠ registration.number := fun same =>
        different (agrees.eq_of_number present member same).1
      simpa using elsewhere
  · intro entry made
    rw [registered]
    exact agrees.below entry made
  · intro number member'
    rw [registered]
    rcases List.mem_append.mp member' with old | last
    · exact agrees.gone number old
    · rw [List.mem_singleton.mp last]
      exact emitter.below event registration member

theorem OwnNumber.off (own : OwnNumber emitter)
    {event : Event} {listener : Listener Code} (known : emitter.off event listener = some next) :
    OwnNumber next := by
  intro other registration member
  exact own other registration ((EventEmitter.off_sublist known other).subset member)

private theorem listens_off (agrees : Agrees emitter ledger) (own : OwnNumber emitter)
    {event : Event}
    {listener : Listener Code} (known : emitter.off event listener = some next) (number : Nat) :
    Listens next number ↔ Listens emitter number ∧ listener ≠ .once number := by
  obtain ⟨removed, found, _, lists⟩ := EventEmitter.off_spec known
  have present := List.mem_of_find?_eq_some found
  have isListener : removed.listener = listener := by simpa using List.find?_some found
  constructor
  · rintro ⟨other, registration, member, same⟩
    have before := (EventEmitter.off_sublist known other).subset member
    refine ⟨⟨other, registration, before, same⟩, ?_⟩
    intro this
    have numbers : registration.number = removed.number := by
      rw [own other registration before number same,
        own event removed present number (isListener.trans this)]
    obtain ⟨here, equal⟩ := agrees.eq_of_number before present numbers
    rw [lists, if_pos here, equal] at member
    simpa using (List.mem_filter.mp member).2
  · rintro ⟨⟨other, registration, member, same⟩, different⟩
    refine ⟨other, registration, ?_, same⟩
    rw [lists]
    split
    next here =>
      rw [here] at member
      refine List.mem_filter.mpr ⟨member, decide_eq_true ?_⟩
      intro equal
      exact different (by rw [← isListener, ← equal, same])
    next => exact member

theorem Waits.off (waits : Waits emitter promises timers) (agrees : Agrees emitter ledger)
    (own : OwnNumber emitter) {event : Event} {code : Code}
    (known : emitter.off event (.function code) = some next) : Waits next promises timers := by
  obtain ⟨_, _, registered, _⟩ := EventEmitter.off_spec known
  apply waits.of_listens
  · intro number
    rw [listens_off agrees own known]
    exact and_iff_left fun impossible => by cases impossible
  · exact Nat.le_of_eq registered.symm

/-- A call of the function that `once` makes settles the promise and takes back what it left. -/
theorem Waits.fn (waits : Waits emitter promises timers) (agrees : Agrees emitter ledger)
    (own : OwnNumber emitter) {event : Event} {number : Nat}
    (known : emitter.off event (.once number) = some next) :
    Waits next (settle promises number .resolved) (timers.filter (· ≠ number)) := by
  have listens : ∀ other, Listens next other ↔ Listens emitter other ∧ other ≠ number := by
    intro other
    rw [listens_off agrees own known, Ne, Ne, Listener.once.injEq, eq_comm]
  obtain ⟨registration, found, registered, _⟩ := EventEmitter.off_spec known
  have isOnce : registration.listener = .once number := by simpa using List.find?_some found
  have pending : promises number = some .pending :=
    (waits.waiting number).mpr ⟨event, registration, List.mem_of_find?_eq_some found, isOnce⟩
  rw [settle, if_pos pending]
  refine ⟨?_, ?_, ?_⟩
  · intro other
    rw [listens, ← waits.waiting]
    by_cases this : other = number
    · rw [this, Function.update_self]
      exact iff_of_false (by simp) fun both => both.2 rfl
    · rw [Function.update_of_ne this]
      exact (and_iff_left this).symm
  · intro other member
    rw [listens]
    obtain ⟨old, different⟩ := List.mem_filter.mp member
    exact ⟨waits.armed other old, of_decide_eq_true different⟩
  · intro other above
    rw [registered] at above
    have empty := waits.fresh other above
    have different : other ≠ number := by
      intro same
      rw [same, pending] at empty
      cases empty
    rw [Function.update_of_ne different]
    exact empty

/-! ### Every run -/

namespace Emissions

/-- What every run keeps, whatever timers run out in it. -/
structure Balanced (state : Emissions Event Code) : Prop where
  agrees : Agrees state.emitter state.ledger
  own : OwnNumber state.emitter
  quiet : state.threw = false

def InWaits (state : Emissions Event Code) : Prop :=
  Waits state.emitter state.promises state.timers

omit [DecidableEq Code] in
private theorem init_balanced : (init : Emissions Event Code).Balanced := by
  refine ⟨⟨fun _ => rfl, ?_, ?_, ?_⟩, ?_, rfl⟩
  · exact List.forall_mem_nil _
  · exact List.forall_mem_nil _
  · exact List.forall_mem_nil _
  · exact fun _ => List.forall_mem_nil _

omit [DecidableEq Event] [DecidableEq Code] in
theorem init_waits : (init : Emissions Event Code).InWaits := by
  refine ⟨?_, List.forall_mem_nil _, fun _ _ => rfl⟩
  intro number
  refine iff_of_false (fun impossible => by cases impossible) ?_
  rintro ⟨event, registration, member, _⟩
  cases member

private theorem perform_balanced {state : Emissions Event Code} (balanced : state.Balanced)
    (call : Call Event Code) : (state.perform call).Balanced := by
  have on : ∀ event code, (state.on event (.function code)).Balanced := by
    intro event code
    refine ⟨balanced.agrees.on event _, balanced.own.on event ?_, balanced.quiet⟩
    intro number impossible
    cases impossible
  cases call with
  | on event code => exact on event code
  | onOff event code => exact on event code
  | once event timeout =>
      refine ⟨balanced.agrees.on event _, balanced.own.on event ?_, balanced.quiet⟩
      intro number same
      cases same
      rfl
  | off event code =>
      dsimp only [perform, off]
      split
      next => exact balanced
      next emitter known =>
        exact ⟨balanced.agrees.off known, balanced.own.off known, balanced.quiet⟩
  | emit event =>
      dsimp only [perform, emit]
      split
      next => exact balanced
      next => exact ⟨balanced.agrees, balanced.own, balanced.quiet⟩

private theorem perform_waits {state : Emissions Event Code} (balanced : state.Balanced)
    (waits : state.InWaits) (call : Call Event Code) : (state.perform call).InWaits := by
  cases call with
  | on event code => exact Waits.on waits event code
  | onOff event code => exact Waits.on waits event code
  | once event timeout => exact Waits.once waits event timeout
  | off event code =>
      dsimp only [perform, off]
      split
      next => exact waits
      next emitter known => exact Waits.off waits balanced.agrees balanced.own known
  | emit event =>
      dsimp only [perform, emit]
      split
      next => exact waits
      next => exact waits

/-- A turn changes the walks alone, unless a listener that `once` made has it: that one is
registered, and takes itself off. -/
theorem turn_cases (state : Emissions Event Code) (walk : Walk Event) (outer : List (Walk Event)) :
    ∃ walks, state.turn walk outer = { state with walks := walks } ∨
      ∃ number emitter, state.emitter.off walk.event (.once number) = some emitter ∧
        state.turn walk outer =
          { state with
            emitter := emitter
            promises := settle state.promises number .resolved
            timers := state.timers.filter (· ≠ number)
            walks := walks
            ledger := state.ledger.off walk.event (.once number) } := by
  unfold turn
  split
  · exact ⟨outer, .inl rfl⟩
  · split
    next => exact ⟨_, .inl rfl⟩
    next registration found =>
      split
      next => exact ⟨_, .inl rfl⟩
      next number same =>
        have known := (state.emitter.off_isSome_iff walk.event (.once number)).mpr
          ⟨registration, List.mem_of_getElem? found, same⟩
        obtain ⟨emitter, known⟩ := Option.isSome_iff_exists.mp known
        refine ⟨walk.next false :: outer, .inr ⟨number, emitter, known, ?_⟩⟩
        simp only [fn, off, known]

/-- A function of the page that is given its turn can be taken off first thing in it. -/
theorem off_isSome_of_turn {state : Emissions Event Code} {walk : Walk Event}
    (outer : List (Walk Event)) {registration : Registration Code} {code : Code}
    (left : walk.left ≠ 0)
    (found : (state.emitter.registrations walk.event)[walk.index]? = some registration)
    (isFunction : registration.listener = .function code) :
    ((state.turn walk outer).off walk.event (.function code)).isSome = true := by
  have known := (state.emitter.off_isSome_iff walk.event (.function code)).mpr
    ⟨registration, List.mem_of_getElem? found, isFunction⟩
  obtain ⟨emitter, known⟩ := Option.isSome_iff_exists.mp known
  have turned : state.turn walk outer = { state with walks := walk.next true :: outer } := by
    simp only [turn, if_neg left, found, isFunction]
  rw [turned]
  simp only [off, known, Option.isSome_some]

theorem step_cases {state next : Emissions Event Code} {label : Label Event Code}
    (taken : step state label = some next) :
    (∃ call, next = state.perform call) ∨
      (∃ walks, next = { state with walks := walks }) ∨
      (∃ walk outer, next = state.turn walk outer) ∨
      ∃ number, label = .timeout number ∧ number ∈ state.timers ∧
        next = state.onTimeout number := by
  cases label with
  | call call =>
      dsimp only [step] at taken
      split at taken
      · exact .inl ⟨call, (Option.some.inj taken).symm⟩
      · exact .inl ⟨call, (Option.some.inj (Option.ite_none_right_eq_some.mp taken).2).symm⟩
  | turn =>
      dsimp only [step] at taken
      split at taken
      · cases taken
      · exact .inr (.inr (.inl ⟨_, _,
          (Option.some.inj (Option.ite_none_left_eq_some.mp taken).2).symm⟩))
  | returns =>
      dsimp only [step] at taken
      split at taken
      · cases taken
      · exact .inr (.inl ⟨_, (Option.some.inj (Option.ite_none_right_eq_some.mp taken).2).symm⟩)
  | throws =>
      dsimp only [step] at taken
      split at taken
      · cases taken
      · exact .inr (.inl ⟨_, (Option.some.inj (Option.ite_none_right_eq_some.mp taken).2).symm⟩)
  | timeout number =>
      dsimp only [step] at taken
      split at taken
      · obtain ⟨armed, same⟩ := Option.ite_none_right_eq_some.mp taken
        exact .inr (.inr (.inr ⟨number, rfl, armed, (Option.some.inj same).symm⟩))
      · cases taken

private theorem step_balanced {state next : Emissions Event Code} {label : Label Event Code}
    (balanced : state.Balanced) (taken : step state label = some next) : next.Balanced := by
  rcases step_cases taken with ⟨call, rfl⟩ | ⟨walks, rfl⟩ | ⟨walk, outer, rfl⟩ | ⟨number, _, _, rfl⟩
  · exact perform_balanced balanced call
  · exact ⟨balanced.agrees, balanced.own, balanced.quiet⟩
  · obtain ⟨walks, same | ⟨number, emitter, known, same⟩⟩ := turn_cases state walk outer
    · rw [same]
      exact ⟨balanced.agrees, balanced.own, balanced.quiet⟩
    · rw [same]
      exact ⟨balanced.agrees.off known, balanced.own.off known, balanced.quiet⟩
  · exact ⟨balanced.agrees, balanced.own, balanced.quiet⟩

/-- Timeouts or not, the arrays are those of the ledger, and no listener that `once` made
throws. -/
theorem balanced_of_reachable {state : Emissions Event Code} (reached : machine.Reachable state) :
    state.Balanced := by
  refine Machine.Reachable.invariant Balanced ?_ ?_ reached
  · rintro state rfl
    exact init_balanced
  · intro state label next _ balanced taken
    exact step_balanced balanced taken

theorem step_waits {state next : Emissions Event Code} {label : Label Event Code}
    (balanced : state.Balanced) (waits : state.InWaits) (taken : step state label = some next)
    (inTime : InTime state label) : next.InWaits := by
  rcases step_cases taken with ⟨call, rfl⟩ | ⟨walks, rfl⟩ | ⟨walk, outer, rfl⟩ | ⟨number, late, _⟩
  · exact perform_waits balanced waits call
  · exact waits
  · obtain ⟨walks, same | ⟨number, emitter, known, same⟩⟩ := turn_cases state walk outer
    · rw [same]
      exact waits
    · rw [same]
      exact Waits.fn waits balanced.agrees balanced.own known
  · exact absurd late (inTime number)

omit [DecidableEq Code] in
private theorem clean_of_waits {state : Emissions Event Code} (balanced : state.Balanced)
    (waits : state.InWaits) : state.Clean := by
  refine ⟨?_, balanced.agrees.lists, balanced.quiet⟩
  intro number outcome settled notPending
  have gone : ¬Listens state.emitter number := by
    intro listens
    rw [(waits.waiting number).mpr listens] at settled
    exact notPending (Option.some.inj settled).symm
  refine ⟨?_, fun armed => gone (waits.armed number armed)⟩
  intro event registration member same
  exact gone ⟨event, registration, member, same⟩

private theorem inTime_of_clean {state next : Emissions Event Code} {label : Label Event Code}
    (waits : state.InWaits) (taken : step state label = some next) (clean : next.Clean) :
    InTime state label := by
  rintro number rfl
  dsimp only [step] at taken
  split at taken
  · obtain ⟨armed, same⟩ := Option.ite_none_right_eq_some.mp taken
    cases same
    have listens := waits.armed number armed
    have rejected : (state.onTimeout number).promises number = some .rejected := by
      dsimp only [onTimeout]
      rw [settle, if_pos ((waits.waiting number).mpr listens), Function.update_self]
    obtain ⟨event, registration, member, same⟩ := listens
    exact (clean.settled number .rejected rejected (by decide)).1 event registration member same
  · cases taken

/-- In every run the calls of `once` leave nothing behind, at each moment, exactly when none
of their timers runs out. -/
theorem clean_iff_inTime (labels : List (Label Event Code)) :
    machine.Always Clean init labels ↔ machine.Permits InTime init labels :=
  Machine.always_iff_permits (fun state => state.Balanced ∧ state.InWaits)
    (fun _ invariant => clean_of_waits invariant.1 invariant.2)
    (fun _ _ _ invariant taken inTime =>
      ⟨step_balanced invariant.1 taken, step_waits invariant.1 invariant.2 taken inTime⟩)
    (fun _ _ _ invariant taken clean => inTime_of_clean invariant.2 taken clean)
    labels init ⟨init_balanced, init_waits⟩

/-- A call of `waitForSocket` times out: its listener stays. -/
theorem not_clean_of_timeout :
    ¬machine.Always Clean (init : Emissions Unit Unit)
      [.call (.once () 5000), .timeout 0] := by
  intro always
  have clean := (always.2 _ rfl).2 _ rfl
  have gone := (clean.settled 0 .rejected rfl (by decide)).1 ()
  exact gone ⟨0, .once 0⟩ List.mem_cons_self rfl

end Emissions
end OneShot
end Browser
end JSCameraKit

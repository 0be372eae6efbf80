import Mathlib.Data.List.Nodup
import JSCameraKit.Library.LiveWalk

set_option autoImplicit false

/-! The client's `EventEmitter`: the listeners of each event in an array that `emit` walks with
`forEach` while its listeners call `on`, `onOff`, `once` and `off`. Registrations are numbered,
so that a function that is registered twice can be told from itself; no function of the
emitter reads the number. -/

namespace JSCameraKit
namespace Browser
namespace Events

open LiveWalk (Turn Edited Edits turns ReachesEach reachesEach_iff_undisturbed)

/-- A function of the page, or the one that a call of `once` makes, which nobody else holds. -/
inductive Listener (Code : Type)
  | function (code : Code)
  | once (number : Nat)
  deriving DecidableEq

structure Registration (Code : Type) where
  number : Nat
  listener : Listener Code
  deriving DecidableEq

structure EventEmitter (Event Code : Type) where
  listeners : Event → Option (List (Registration Code))
  registered : Nat
  ordered : ∀ event, ((listeners event).getD []).Pairwise fun earlier later =>
    earlier.number < later.number
  below : ∀ event, ∀ registration ∈ (listeners event).getD [], registration.number < registered

variable {Event Code World : Type}

namespace EventEmitter

def registrations (emitter : EventEmitter Event Code) (event : Event) :
    List (Registration Code) :=
  (emitter.listeners event).getD []

def new : EventEmitter Event Code where
  listeners _ := none
  registered := 0
  ordered _ := .nil
  below _ := List.forall_mem_nil _

private theorem registrations_nodup (emitter : EventEmitter Event Code) (event : Event) :
    (emitter.registrations event).Nodup := by
  apply (emitter.ordered event).imp
  intro earlier later less same
  rw [same] at less
  exact Nat.lt_irrefl _ less

variable [DecidableEq Event]

def on (emitter : EventEmitter Event Code) (event : Event) (listener : Listener Code) :
    EventEmitter Event Code where
  listeners other :=
    if other = event then
      some ((emitter.listeners event).getD [] ++ [⟨emitter.registered, listener⟩])
    else emitter.listeners other
  registered := emitter.registered + 1
  ordered other := by
    split
    · rw [Option.getD_some, List.pairwise_append]
      exact ⟨emitter.ordered event, List.pairwise_singleton _ _, fun earlier member last same => by
        rw [List.mem_singleton.mp same]
        exact emitter.below event earlier member⟩
    · exact emitter.ordered other
  below other := by
    split
    · intro registration member
      rw [Option.getD_some, List.mem_append, List.mem_singleton] at member
      rcases member with earlier | rfl
      · exact Nat.lt_succ_of_lt (emitter.below event registration earlier)
      · exact Nat.lt_succ_self _
    · intro registration member
      exact Nat.lt_succ_of_lt (emitter.below other registration member)

theorem registrations_on (emitter : EventEmitter Event Code) (event : Event)
    (listener : Listener Code) (other : Event) :
    (emitter.on event listener).registrations other =
      if other = event then emitter.registrations other ++ [⟨emitter.registered, listener⟩]
      else emitter.registrations other := by
  unfold registrations on
  dsimp only
  by_cases same : other = event
  · rw [if_pos same, if_pos same, Option.getD_some, same]
  · rw [if_neg same, if_neg same]

/-- What is given back calls `off` of the event and the listener. -/
def onOff (emitter : EventEmitter Event Code) (event : Event) (listener : Listener Code) :
    EventEmitter Event Code :=
  emitter.on event listener

def once (emitter : EventEmitter Event Code) (event : Event) : EventEmitter Event Code :=
  emitter.on event (.once emitter.registered)

def splice (emitter : EventEmitter Event Code) (event : Event) (idx : Nat) :
    EventEmitter Event Code where
  listeners other :=
    if other = event then (emitter.listeners event).map (·.eraseIdx idx)
    else emitter.listeners other
  registered := emitter.registered
  ordered other := by
    split
    · have ordered := emitter.ordered event
      cases found : emitter.listeners event with
      | none => exact .nil
      | some list =>
          rw [found] at ordered
          exact ordered.sublist (List.eraseIdx_sublist list idx)
    · exact emitter.ordered other
  below other := by
    split
    · have below := emitter.below event
      cases found : emitter.listeners event with
      | none => exact List.forall_mem_nil _
      | some list =>
          rw [found] at below
          exact fun registration member => below registration (List.mem_of_mem_eraseIdx member)
    · exact emitter.below other

variable [DecidableEq Code]

/-- An unknown listener is an exception. -/
def off (emitter : EventEmitter Event Code) (event : Event) (listener : Listener Code) :
    Option (EventEmitter Event Code) := do
  let listeners ← emitter.listeners event
  let idx ← listeners.findIdx? fun registration => registration.listener = listener
  some (emitter.splice event idx)

theorem off_spec {emitter next : EventEmitter Event Code} {event : Event}
    {listener : Listener Code} (known : emitter.off event listener = some next) :
    ∃ registration,
      (emitter.registrations event).find? (fun registration => registration.listener = listener) =
        some registration ∧
      next.registered = emitter.registered ∧
      ∀ other, next.registrations other =
        if other = event then (emitter.registrations event).filter (· ≠ registration)
        else emitter.registrations other := by
  unfold off at known
  obtain ⟨listeners, held, searched⟩ := Option.bind_eq_some_iff.mp known
  obtain ⟨idx, found, spliced⟩ := Option.bind_eq_some_iff.mp searched
  cases spliced
  have same : emitter.registrations event = listeners := by rw [registrations, held]; rfl
  obtain ⟨inside, first⟩ := List.findIdx?_eq_some_iff_getElem.mp found
  refine ⟨listeners[idx], ?_, rfl, ?_⟩
  · rw [same, List.find?_eq_some_iff_getElem]
    refine ⟨first.1, idx, inside, rfl, ?_⟩
    intro earlier before
    simpa using first.2 earlier before
  · intro other
    unfold registrations splice
    dsimp only
    by_cases here : other = event
    · have distinct := registrations_nodup emitter event
      rw [same] at distinct
      rw [if_pos here, if_pos here, held, Option.map_some, Option.getD_some, Option.getD_some,
        ← List.Nodup.erase_getElem distinct idx inside, List.Nodup.erase_eq_filter distinct]
      apply List.filter_congr
      intro registration _
      rw [decide_not, ← Bool.beq_eq_decide_eq]
      rfl
    · rw [if_neg here, if_neg here]

theorem off_sublist {emitter next : EventEmitter Event Code} {other : Event}
    {listener : Listener Code} (known : emitter.off other listener = some next) (event : Event) :
    (next.registrations event).Sublist (emitter.registrations event) := by
  obtain ⟨registration, _, _, lists⟩ := off_spec known
  rw [lists]
  split
  next same => exact same ▸ List.filter_sublist
  next => exact List.Sublist.refl _

theorem off_isSome_iff (emitter : EventEmitter Event Code) (event : Event)
    (listener : Listener Code) :
    (emitter.off event listener).isSome = true ↔
      ∃ registration ∈ emitter.registrations event, registration.listener = listener := by
  unfold off registrations
  cases emitter.listeners event with
  | none => simp
  | some listeners =>
      have searched : (listeners.findIdx? fun registration =>
          registration.listener = listener).isSome = true ↔
            ∃ registration ∈ listeners, registration.listener = listener := by
        rw [List.findIdx?_isSome, List.any_eq_true]
        simp only [decide_eq_true_eq]
      rw [Option.getD_some, ← searched, Option.bind_eq_bind, Option.bind_some]
      cases listeners.findIdx? fun registration => registration.listener = listener with
      | none => rfl
      | some idx => exact iff_of_true rfl rfl

end EventEmitter

variable [DecidableEq Event] [DecidableEq Code]

/-! ### What a listener does -/

inductive Call (Event Code : Type)
  | on (event : Event) (code : Code)
  | onOff (event : Event) (code : Code)
  | once (event : Event)
  | off (event : Event) (code : Code)

def Call.perform (emitter : EventEmitter Event Code) :
    Call Event Code → Option (EventEmitter Event Code)
  | .on event code => some (emitter.on event (.function code))
  | .onOff event code => some (emitter.onOff event (.function code))
  | .once event => some (emitter.once event)
  | .off event code => emitter.off event (.function code)

/-- The calls up to an exception, and whether there was none. -/
def performAll : List (Call Event Code) → EventEmitter Event Code → EventEmitter Event Code × Bool
  | [], emitter => (emitter, true)
  | call :: calls, emitter =>
      match call.perform emitter with
      | none => (emitter, false)
      | some next => performAll calls next

/-- The emitter and all else that the functions of the page read and change. -/
structure Page (Event Code World : Type) where
  emitter : EventEmitter Event Code
  world : World

/-- The calls that a function makes in the state in which it is called. -/
abbrev Run (Event Code World : Type) : Type :=
  Code → Page Event Code World → List (Call Event Code) × World

namespace Page

def registrations (event : Event) (page : Page Event Code World) : List (Registration Code) :=
  page.emitter.registrations event

/-- The function that `once` makes takes itself off, and then resolves its promise. -/
def call (run : Run Event Code World) (event : Event) (registration : Registration Code)
    (page : Page Event Code World) : Page Event Code World × Bool :=
  match registration.listener with
  | .function code =>
      ({ emitter := (performAll (run code page).1 page.emitter).1, world := (run code page).2 },
        (performAll (run code page).1 page.emitter).2)
  | .once number =>
      match page.emitter.off event (.once number) with
      | none => (page, false)
      | some emitter => ({ page with emitter := emitter }, true)

/-- The turns of the listeners, each with the page before and after it. -/
def emit (run : Run Event Code World) (event : Event) (page : Page Event Code World) :
    List (Turn (Page Event Code World) (Registration Code)) :=
  match page.emitter.listeners event with
  | none => []
  | some listeners => turns (registrations event) (call run event) listeners.length 0 page

end Page

/-! ### What the calls do to the array -/

namespace EventEmitter

structure Becomes (event : Event) (emitter next : EventEmitter Event Code) : Prop where
  grows : emitter.registered ≤ next.registered
  edited : Edited Registration.number emitter.registered (emitter.registrations event)
    (next.registrations event)

variable {event : Event} {emitter mid next : EventEmitter Event Code}

omit [DecidableEq Event] in
theorem Becomes.refl (event : Event) (emitter : EventEmitter Event Code) :
    Becomes event emitter emitter :=
  ⟨Nat.le_refl _, Edited.refl _ _⟩

omit [DecidableEq Event] in
theorem Becomes.trans (front : Becomes event emitter mid) (back : Becomes event mid next) :
    Becomes event emitter next := by
  have below : ∀ registration ∈ emitter.registrations event,
      registration.number < mid.registered := by
    intro registration member
    exact Nat.lt_of_lt_of_le (emitter.below event registration member) front.grows
  exact ⟨Nat.le_trans front.grows back.grows, front.edited.trans front.grows below back.edited⟩

private theorem becomes_on (emitter : EventEmitter Event Code) (event other : Event)
    (listener : Listener Code) : Becomes event emitter (emitter.on other listener) := by
  refine ⟨Nat.le_succ _, ?_⟩
  rw [registrations_on]
  by_cases same : event = other
  · rw [if_pos same]
    exact Edited.concat _ (Nat.le_refl _)
  · rw [if_neg same]
    exact Edited.refl _ _

private theorem becomes_off {other : Event} {listener : Listener Code}
    (known : emitter.off other listener = some next) (event : Event) :
    Becomes event emitter next := by
  obtain ⟨registration, _, registered, _⟩ := off_spec known
  exact ⟨Nat.le_of_eq registered.symm,
    .of_sublist _ (registrations_nodup _ _) (off_sublist known event)⟩

end EventEmitter

open EventEmitter (Becomes becomes_on becomes_off)

theorem Call.becomes {emitter next : EventEmitter Event Code} {call : Call Event Code}
    (performed : call.perform emitter = some next) (event : Event) :
    Becomes event emitter next := by
  cases call with
  | on other code =>
      cases performed
      exact becomes_on emitter event other _
  | onOff other code =>
      cases performed
      exact becomes_on emitter event other _
  | once other =>
      cases performed
      exact becomes_on emitter event other _
  | off other code => exact becomes_off performed event

private theorem performAll_becomes (calls : List (Call Event Code))
    (emitter : EventEmitter Event Code)
    (event : Event) : Becomes event emitter (performAll calls emitter).1 := by
  induction calls generalizing emitter with
  | nil => exact .refl event emitter
  | cons call calls ih =>
      unfold performAll
      split
      next => exact .refl event emitter
      next next performed => exact (Call.becomes performed event).trans (ih next)

namespace Page

private theorem call_becomes (run : Run Event Code World) (event : Event)
    (registration : Registration Code) (page : Page Event Code World) :
    Becomes event page.emitter (call run event registration page).1.emitter := by
  unfold call
  split
  next code => exact performAll_becomes _ _ _
  next number =>
    split
    next => exact .refl _ _
    next emitter known => exact becomes_off known event

private theorem call_edits (run : Run Event Code World) (event : Event) :
    Edits (registrations event) (call run event) Registration.number
      (fun page => page.emitter.registered) where
  below page := page.emitter.below event
  grows registration page := (call_becomes run event registration page).grows
  edited registration page := (call_becomes run event registration page).edited

theorem emit_eq (run : Run Event Code World) (event : Event) (page : Page Event Code World) :
    emit run event page =
      turns (registrations event) (call run event) (registrations event page).length 0 page := by
  unfold emit registrations EventEmitter.registrations
  cases page.emitter.listeners event with
  | none => rfl
  | some listeners => rfl

/-! ### Who is called -/

/-- Each listener that is registered when the emission starts is called once, in the order of
registration, unless a listener before it took it off, and no other is called. -/
def CallsEach (run : Run Event Code World) (event : Event) (page : Page Event Code World) :
    Prop :=
  ReachesEach (registrations event) Registration.number (registrations event page)
    (emit run event page)

/-- While a listener waits for its turn, the one that has its turn neither takes itself or an
earlier one off nor throws; once none waits, no new one stands where the walk goes on. -/
def Undisturbed (run : Run Event Code World) (event : Event) (page : Page Event Code World) :
    Prop :=
  LiveWalk.Undisturbed (registrations event) (call run event) Registration.number
    (registrations event page) (registrations event page).length 0 page

theorem callsEach_iff_undisturbed (run : Run Event Code World) (event : Event)
    (page : Page Event Code World) : CallsEach run event page ↔ Undisturbed run event page := by
  rw [CallsEach, emit_eq]
  exact reachesEach_iff_undisturbed (call_edits run event) (page.emitter.ordered event)

/-- Of two promises for one event, the second is not resolved. -/
theorem not_callsEach_of_twoOnce :
    ¬CallsEach (fun (_ : Unit) _ => ([], ())) ()
      { emitter := (EventEmitter.new.once ()).once (), world := () } := by
  unfold CallsEach
  decide

end Page

end Events
end Browser
end JSCameraKit

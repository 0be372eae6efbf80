import Mathlib.Data.List.Nodup
import JSCameraKit.Browser.Reconnection

set_option autoImplicit false

/-! The calls of `send`, from the wait for a socket to the microtask that passes the
message on. A call waits with a listener and a timer, goes on through the microtasks, or
has passed its message on; what it never does is to be in two of these places. -/

namespace JSCameraKit
namespace Browser
namespace WebSocketController

variable {Data : Type}

/-! ### The listeners that `open` calls -/

/-- The waits that the emission of `open` calls; every second one is missed. -/
def called (controller : WebSocketController Data) : List (Send Data) :=
  (ForEach.walk (fun _ => true) controller.openListeners).2

def missed (controller : WebSocketController Data) : List (Send Data) :=
  (ForEach.walk (fun _ => true) controller.openListeners).1

/-- The microtasks that the waits called go on in, unless they have expired. -/
def resumed (controller : WebSocketController Data) : List (Job Data) :=
  (controller.called.filter fun send => send.number ∈ controller.waitTimers).map fun send =>
    { send := send, ticks := 2 }

private theorem onceListener_removing :
    ForEach.SelfRemoving (openListeners : WebSocketController Data → List (Send Data))
      onceListener (fun _ => true) Send.number := by
  constructor
  · intro send controller _
    rfl
  · intro send controller kept
    cases kept

private theorem foldl_onceListener (sends : List (Send Data))
    (controller : WebSocketController Data)
    (distinct : (sends.map Send.number).Nodup) :
    ∃ listeners, sends.foldl (fun controller send => onceListener send controller) controller =
      { controller with
        openListeners := listeners
        waitTimers := controller.waitTimers.diff (sends.map Send.number)
        microtasks := controller.microtasks ++
          (sends.filter fun send => send.number ∈ controller.waitTimers).map fun send =>
            { send := send, ticks := 2 } } := by
  induction sends generalizing controller with
  | nil => exact ⟨controller.openListeners, by simp⟩
  | cons send rest ih =>
      rw [List.map_cons, List.nodup_cons] at distinct
      have others : (rest.filter fun other =>
          other.number ∈ controller.waitTimers.erase send.number) =
            rest.filter fun other => other.number ∈ controller.waitTimers := by
        apply List.filter_congr
        intro other member
        have away : other.number ≠ send.number := by
          intro same
          exact distinct.1 (same ▸ List.mem_map_of_mem member)
        simp only [List.mem_erase_of_ne away]
      have timers : (onceListener send controller).waitTimers =
          controller.waitTimers.erase send.number := rfl
      obtain ⟨listeners, folded⟩ := ih (onceListener send controller) distinct.2
      refine ⟨listeners, ?_⟩
      rw [timers, others] at folded
      rw [List.foldl_cons, folded]
      by_cases armed : send.number ∈ controller.waitTimers
      · rw [List.filter_cons_of_pos (by simp [armed])]
        simp [onceListener, armed]
      · rw [List.filter_cons_of_neg (by simp [armed])]
        simp [onceListener, armed]

theorem emitOpen_eq {controller : WebSocketController Data}
    (distinct : (controller.openListeners.map Send.number).Nodup) :
    controller.emitOpen =
      { controller with
        openListeners := controller.missed
        waitTimers := controller.waitTimers.diff (controller.called.map Send.number)
        microtasks := controller.microtasks ++ controller.resumed
        queued := [] } := by
  have walked := ForEach.forEach_eq_walk onceListener_removing
    { controller with queued := [] } distinct
  have fewer : (controller.called.map Send.number).Nodup :=
    distinct.sublist ((ForEach.walk_taken_sublist _ _).map Send.number)
  obtain ⟨listeners, folded⟩ :=
    foldl_onceListener controller.called { controller with queued := [] } fewer
  have all : controller.emitOpen = _ := walked.1.trans folded
  have left : controller.emitOpen.openListeners = controller.missed := walked.2
  rw [all] at left ⊢
  rw [← left]
  rfl

theorem onMessage_eq (controller : WebSocketController Data) (incoming : Incoming) :
    ∃ listeners : List RequestListener, listeners.Sublist controller.jsonListeners ∧
      controller.onMessage incoming = { controller with jsonListeners := listeners } := by
  cases incoming with
  | binary => exact ⟨controller.jsonListeners, .refl _, rfl⟩
  | text => exact ⟨controller.jsonListeners, .refl _, rfl⟩
  | json id =>
      apply ForEach.forEach_preserves (fun state : WebSocketController Data =>
        ∃ listeners : List RequestListener, listeners.Sublist controller.jsonListeners ∧
          state = { controller with jsonListeners := listeners })
      · intro listener state holds
        obtain ⟨listeners, fewer, rfl⟩ := holds
        unfold requestListener
        split
        · exact ⟨_, List.eraseP_sublist.trans fewer, rfl⟩
        · exact ⟨listeners, fewer, rfl⟩
      · exact ⟨controller.jsonListeners, .refl _, rfl⟩

/-! ### Where a call is -/

/-- The first job passes its message on before the second one does, though it may be behind it. -/
def Earlier (first second : Job Data) : Prop :=
  (first.send.number < second.send.number ∧ first.ticks ≤ second.ticks) ∨
    (second.send.number < first.send.number ∧ second.ticks < first.ticks)

structure Waits (controller : WebSocketController Data) : Prop where
  sorted : (controller.openListeners.map Send.number).Pairwise (· < ·)
  listening : ∀ send ∈ controller.openListeners, send.number < controller.sends
  queued : controller.queued.IsSuffix controller.openListeners
  armed : controller.waitTimers.Nodup
  timed : ∀ number ∈ controller.waitTimers, number ∈ controller.openListeners.map Send.number
  ordered : controller.microtasks.Pairwise Earlier
  ticks : ∀ job ∈ controller.microtasks, 1 ≤ job.ticks ∧ job.ticks ≤ 3
  resumed : ∀ job ∈ controller.microtasks,
    job.send.number < controller.sends ∧ job.send.number ∉ controller.waitTimers
  opened : controller.microtasks ≠ [] → controller.connection.isOpen = true
  passed : ∀ sent ∈ controller.sent,
    sent.send.number < controller.sends ∧ sent.send.number ∉ controller.waitTimers

theorem Waits.distinct {controller : WebSocketController Data} (waits : controller.Waits) :
    (controller.openListeners.map Send.number).Nodup :=
  waits.sorted.imp fun less => Nat.ne_of_lt less

theorem Waits.idle {controller : WebSocketController Data} (waits : controller.Waits)
    (nothing : controller.microtasks = []) (connection : Connection)
    (listeners : List RequestListener) :
    Waits { controller with connection := connection, jsonListeners := listeners } := by
  refine { waits with opened := ?_ }
  intro something
  exact absurd nothing something

theorem Waits.send {controller : WebSocketController Data} (waits : controller.Waits)
    (data : Outgoing Data) : (controller.send data).Waits := by
  unfold WebSocketController.send
  split
  · rename_i isOpen
    refine { waits with listening := ?_, ordered := ?_, ticks := ?_, resumed := ?_, opened := ?_,
                        passed := ?_ }
    · intro send member
      exact Nat.lt_succ_of_lt (waits.listening send member)
    · refine List.pairwise_append.mpr ⟨waits.ordered, List.pairwise_singleton _ _, ?_⟩
      intro job member other new
      rw [List.mem_singleton.mp new]
      exact .inl ⟨(waits.resumed job member).1, (waits.ticks job member).2⟩
    · intro job member
      rcases List.mem_append.mp member with old | new
      · exact waits.ticks job old
      · rw [List.mem_singleton.mp new]
        exact ⟨Nat.le_add_left 1 2, Nat.le_refl 3⟩
    · intro job member
      rcases List.mem_append.mp member with old | new
      · exact ⟨Nat.lt_succ_of_lt (waits.resumed job old).1, (waits.resumed job old).2⟩
      · rw [List.mem_singleton.mp new]
        refine ⟨Nat.lt_succ_self _, ?_⟩
        intro timer
        obtain ⟨send, listens, same⟩ := List.mem_map.mp (waits.timed _ timer)
        exact absurd same (Nat.ne_of_lt (waits.listening send listens))
    · intro _
      exact isOpen
    · intro sent member
      exact ⟨Nat.lt_succ_of_lt (waits.passed sent member).1, (waits.passed sent member).2⟩
  · have fresh : controller.sends ∉ controller.waitTimers := by
      intro timer
      obtain ⟨send, listens, same⟩ := List.mem_map.mp (waits.timed _ timer)
      exact absurd same (Nat.ne_of_lt (waits.listening send listens))
    have others : ∀ number, number < controller.sends ∧ number ∉ controller.waitTimers →
        number < controller.sends + 1 ∧ number ∉ controller.waitTimers ++ [controller.sends] := by
      intro number before
      refine ⟨Nat.lt_succ_of_lt before.1, ?_⟩
      intro member
      rcases List.mem_append.mp member with old | new
      · exact before.2 old
      · exact absurd (List.mem_singleton.mp new) (Nat.ne_of_lt before.1)
    constructor
    · rw [List.map_append]
      refine List.pairwise_append.mpr ⟨waits.sorted, List.pairwise_singleton _ _, ?_⟩
      intro number member other new
      obtain ⟨send, listens, rfl⟩ := List.mem_map.mp member
      rw [List.mem_singleton.mp new]
      exact waits.listening send listens
    · intro send member
      rcases List.mem_append.mp member with old | new
      · exact Nat.lt_succ_of_lt (waits.listening send old)
      · rw [List.mem_singleton.mp new]
        exact Nat.lt_succ_self _
    · exact List.suffix_append_self_iff.mpr waits.queued
    · refine List.nodup_append.mpr ⟨waits.armed, List.pairwise_singleton _ _, ?_⟩
      intro number member other new same
      rw [List.mem_singleton.mp new] at same
      exact fresh (same ▸ member)
    · intro number member
      rw [List.map_append]
      rcases List.mem_append.mp member with old | new
      · exact List.mem_append_left _ (waits.timed number old)
      · rw [List.mem_singleton.mp new]
        exact List.mem_append_right _ List.mem_cons_self
    · exact waits.ordered
    · exact waits.ticks
    · intro job member
      exact others _ (waits.resumed job member)
    · exact waits.opened
    · intro sent member
      exact others _ (waits.passed sent member)

theorem Waits.continuation {controller : WebSocketController Data} (waits : controller.Waits)
    {send : Send Data}
    (free : send.number < controller.sends ∧ send.number ∉ controller.waitTimers) :
    (controller.continuation send).Waits := by
  unfold WebSocketController.continuation
  split
  · exact waits
  · refine { waits with passed := ?_ }
    intro sent member
    rcases List.mem_append.mp member with old | new
    · exact waits.passed sent old
    · rw [List.mem_singleton.mp new]
      exact free

theorem Waits.microtask {controller next : WebSocketController Data} (waits : controller.Waits)
    (taken : controller.microtask = some next) : next.Waits := by
  unfold WebSocketController.microtask at taken
  split at taken
  · cases taken
  · rename_i job rest queue
    have ordered := waits.ordered
    have ticks := waits.ticks
    have resumed := waits.resumed
    have isOpen := waits.opened (by rw [queue]; exact List.cons_ne_nil job rest)
    rw [queue] at ordered ticks resumed
    rw [List.pairwise_cons] at ordered
    split at taken
    · cases taken
      apply Waits.continuation
      · refine { waits with ordered := ordered.2, ticks := ?_, resumed := ?_, opened := ?_ }
        · intro other member
          exact ticks other (List.mem_cons_of_mem job member)
        · intro other member
          exact resumed other (List.mem_cons_of_mem job member)
        · intro _
          exact isOpen
      · exact resumed job List.mem_cons_self
    · rename_i later
      cases taken
      refine { waits with ordered := ?_, ticks := ?_, resumed := ?_, opened := ?_ }
      · refine List.pairwise_append.mpr ⟨ordered.2, List.pairwise_singleton _ _, ?_⟩
        intro other member moved new
        rw [List.mem_singleton.mp new]
        rcases ordered.1 other member with ⟨less, atMost⟩ | ⟨more, fewer⟩
        · refine .inr ⟨less, ?_⟩
          dsimp only
          omega
        · refine .inl ⟨more, ?_⟩
          dsimp only
          omega
      · intro other member
        rcases List.mem_append.mp member with old | new
        · exact ticks other (List.mem_cons_of_mem job old)
        · rw [List.mem_singleton.mp new]
          have bounds := ticks job List.mem_cons_self
          dsimp only
          omega
      · intro other member
        rcases List.mem_append.mp member with old | new
        · exact resumed other (List.mem_cons_of_mem job old)
        · rw [List.mem_singleton.mp new]
          exact resumed job List.mem_cons_self
      · intro _
        exact isOpen

theorem Waits.emitOpen {controller : WebSocketController Data} (waits : controller.Waits)
    (nothing : controller.microtasks = []) (isOpen : controller.connection.isOpen = true) :
    controller.emitOpen.Waits := by
  rw [emitOpen_eq waits.distinct]
  have missedSublist : controller.missed.Sublist controller.openListeners :=
    ForEach.walk_left_sublist _ _
  have calledSublist : controller.called.Sublist controller.openListeners :=
    ForEach.walk_taken_sublist _ _
  have jobs : ∀ job ∈ controller.microtasks ++ controller.resumed,
      job.ticks = 2 ∧ job.send ∈ controller.called := by
    intro job member
    rw [nothing, List.nil_append] at member
    obtain ⟨send, kept, rfl⟩ := List.mem_map.mp member
    exact ⟨rfl, (List.mem_filter.mp kept).1⟩
  constructor
  · exact waits.sorted.sublist (missedSublist.map Send.number)
  · intro send member
    exact waits.listening send (missedSublist.subset member)
  · exact List.nil_suffix
  · exact List.Nodup.diff waits.armed
  · intro number member
    have kept := (List.Nodup.mem_sdiff_iff waits.armed).mp member
    obtain ⟨send, listens, rfl⟩ := List.mem_map.mp (waits.timed number kept.1)
    have place : send ∈ controller.missed ∨ send ∈ controller.called := ForEach.mem_walk listens
    rcases place with left | taken
    · exact List.mem_map_of_mem left
    · exact absurd (List.mem_map_of_mem taken) kept.2
  · dsimp only
    rw [nothing, List.nil_append, WebSocketController.resumed, List.pairwise_map]
    have sorted := waits.sorted.sublist (calledSublist.map Send.number)
    rw [List.pairwise_map] at sorted
    refine (sorted.sublist List.filter_sublist).imp ?_
    intro first second less
    exact .inl ⟨less, Nat.le_refl 2⟩
  · intro job member
    have two := (jobs job member).1
    omega
  · intro job member
    have taken := (jobs job member).2
    refine ⟨waits.listening job.send (calledSublist.subset taken), ?_⟩
    intro timer
    exact ((List.Nodup.mem_sdiff_iff waits.armed).mp timer).2 (List.mem_map_of_mem taken)
  · intro _
    exact isOpen
  · intro sent member
    refine ⟨(waits.passed sent member).1, ?_⟩
    intro timer
    exact (waits.passed sent member).2 ((List.Nodup.mem_sdiff_iff waits.armed).mp timer).1

theorem Waits.waitTimeout {controller : WebSocketController Data} (waits : controller.Waits)
    (number : Nat) :
    Waits { controller with waitTimers := controller.waitTimers.erase number } := by
  refine { waits with armed := waits.armed.erase number, timed := ?_, resumed := ?_, passed := ?_ }
  · intro other member
    exact waits.timed other (List.mem_of_mem_erase member)
  · intro job member
    refine ⟨(waits.resumed job member).1, ?_⟩
    intro timer
    exact (waits.resumed job member).2 (List.mem_of_mem_erase timer)
  · intro sent member
    refine ⟨(waits.passed sent member).1, ?_⟩
    intro timer
    exact (waits.passed sent member).2 (List.mem_of_mem_erase timer)

/-! ### Every run -/

theorem handled_current {controller : WebSocketController Data}
    (coherent : controller.connection.Coherent) {socket : Nat} {handler : WebSocket → Bool}
    (has : ∀ socket, handler socket = true → socket.HasHandler)
    (handled : controller.connection.handles handler socket = true) :
    controller.connection.webSocket = some socket := by
  obtain ⟨found, atSocket, handler⟩ := Connection.handles_hasHandler has handled
  exact coherent.guarded socket found atSocket handler

theorem emit_webSocket (connection : Connection) (event : Event) (handler : WebSocket → Bool)
    (number : Nat) : (connection.emit event handler number).webSocket = connection.webSocket := by
  unfold Connection.emit
  split
  · rfl
  · rfl

theorem emit_isOpen (connection : Connection) (event : Event) (handler : WebSocket → Bool)
    (number : Nat) : (connection.emit event handler number).isOpen = connection.isOpen := by
  unfold Connection.emit
  split
  · rfl
  · rfl

theorem linked_opened_isOpen {controller : WebSocketController Data}
    (coherent : controller.connection.Coherent) {socket : Nat}
    (current : controller.connection.webSocket = some socket) :
    (linked controller.connection (.opened socket : Label Data)).isOpen = true := by
  obtain ⟨found, atSocket, _⟩ := coherent.attached socket current
  rw [linked, emit_isOpen]
  simp only [Connection.isOpen, Connection.setReadyState, current, List.getElem?_modify_eq, atSocket]
  rfl

theorem step_waits {controller next : WebSocketController Data} {label : Label Data}
    (coherent : controller.connection.Coherent) (waits : controller.Waits)
    (taken : step controller label = some next) : next.Waits := by
  cases label with
  | send data =>
      cases taken
      exact waits.send (.data data)
  | request request data =>
      cases taken
      have listening : Waits
          { controller with
            requestID := controller.requestID + 1
            jsonListeners := controller.jsonListeners ++
              [{ id := controller.requestID, send := controller.sends }] } := { waits with }
      exact listening.send _
  | microtask => exact waits.microtask taken
  | opened socket =>
      simp only [step, Option.ite_none_right_eq_some, Option.some.injEq, List.isEmpty_iff] at taken
      rw [← taken.2]
      have idle := waits.idle taken.1
        (linked controller.connection (.opened socket : Label Data)) controller.jsonListeners
      split
      · rename_i handled
        apply idle.emitOpen taken.1
        apply linked_opened_isOpen coherent
        apply handled_current coherent _ handled
        intro socket set
        exact .inr (.inl set)
      · exact idle
  | message socket incoming =>
      simp only [step, Option.ite_none_right_eq_some, Option.some.injEq, List.isEmpty_iff] at taken
      rw [← taken.2]
      split
      · obtain ⟨listeners, _, same⟩ := onMessage_eq
          { controller with
            connection := linked controller.connection (.message socket incoming : Label Data) }
          incoming
        rw [same]
        exact waits.idle taken.1 _ listeners
      · exact waits
  | error socket | closing socket | close socket =>
      simp only [step, Option.ite_none_right_eq_some, Option.some.injEq, List.isEmpty_iff] at taken
      rw [← taken.2]
      exact waits.idle taken.1 _ controller.jsonListeners
  | connectTimeout handle =>
      simp only [step, Option.ite_none_right_eq_some, Option.some.injEq, List.isEmpty_iff] at taken
      rw [← taken.2]
      exact waits.idle taken.1.1 _ controller.jsonListeners
  | waitTimeout send =>
      simp only [step, Option.ite_none_right_eq_some, Option.some.injEq] at taken
      rw [← taken.2]
      exact waits.waitTimeout send

theorem init_waits : (init : WebSocketController Data).Waits := by
  constructor
  · exact .nil
  · intro send member
    cases member
  · exact List.suffix_refl []
  · exact .nil
  · intro number member
    cases member
  · exact .nil
  · intro job member
    cases member
  · intro job member
    cases member
  · intro something
    exact absurd rfl something
  · intro sent member
    cases member

theorem reachable_waits {controller : WebSocketController Data}
    (reached : machine.Reachable controller) : controller.Waits := by
  refine reached.invariant Waits ?_ ?_
  · intro controller starts
    rw [starts]
    exact init_waits
  · intro controller label next before waits taken
    exact step_waits (reachable_coherent before) waits taken

end WebSocketController
end Browser
end JSCameraKit

import JSCameraKit.Browser.Waits
import Mathlib.Algebra.GroupWithZero.Nat

set_option autoImplicit false

/-! The messages that wait for a socket, from the next `open` on. Each call of `send` that
waits has a listener that unregisters itself when it is called, so that the listener
behind it is missed, and its continuation comes two microtasks later. -/

namespace JSCameraKit
namespace Browser
namespace WebSocketController
namespace WaitingSends

variable {Data : Type}

/-- The messages passed to `webSocket.send` between two states of a run. -/
def passedSince (before controller : WebSocketController Data) : List (Send Data) :=
  (controller.sent.drop before.sent.length).map Sent.send

/-- A step that leaves a socket open. -/
def StaysOpen (socket : Nat) : Label Data → Prop
  | .opened number | .closing number | .close number => number ≠ socket
  | _ => True

instance (socket : Nat) : (label : Label Data) → Decidable (StaysOpen socket label)
  | .opened _ | .closing _ | .close _ => inferInstanceAs (Decidable (_ ≠ _))
  | .send _ | .request _ _ | .microtask | .message _ _ | .error _ | .connectTimeout _
  | .waitTimeout _ => inferInstanceAs (Decidable True)

/-- Each message queued before `open` has been passed on exactly once, before those of the
later calls of `send`, be they queued too or made after `open`. -/
structure Delivered (before final : WebSocketController Data) : Prop where
  once : ∀ send ∈ before.queued,
    (passedSince before final).filter (fun other => other.number = send.number) = [send]
  inOrder : ∀ (first second : Nat) (earlier later : Send Data),
    (passedSince before final)[first]? = some earlier →
      (passedSince before final)[second]? = some later → earlier ∈ before.queued →
        later ∈ before.queued ∨ before.sends ≤ later.number → earlier.number < later.number →
          first < second

/-- At most one message is queued, behind an even number of listeners left over from
earlier emissions of `open`. -/
def InReach (before : WebSocketController Data) : Prop :=
  before.queued.length = 0 ∨ before.queued.length = 1 ∧ before.openListeners.length % 2 = 1

instance (before : WebSocketController Data) : Decidable (InReach before) :=
  inferInstanceAs (Decidable (_ = _ ∨ _ = _ ∧ _ = _))

/-! ### Who is called -/

/-- A listener is called exactly if its index is even. -/
theorem mem_called {controller : WebSocketController Data} (waits : controller.Waits)
    {index : Nat} {send : Send Data} (found : controller.openListeners[index]? = some send) :
    send ∈ controller.called ↔ index % 2 = 0 := by
  constructor
  · intro taken
    obtain ⟨half, atHalf⟩ := List.mem_iff_getElem?.mp taken
    rw [called, ForEach.walk_all_taken] at atHalf
    have here : (controller.openListeners.map Send.number)[index]? = some send.number := by
      rw [List.getElem?_map, found]
      rfl
    have there : (controller.openListeners.map Send.number)[2 * half]? = some send.number := by
      rw [List.getElem?_map, atHalf]
      rfl
    obtain ⟨inRange, _⟩ := List.getElem?_eq_some_iff.mp here
    have same := (List.getElem?_inj inRange waits.distinct).mp (here.trans there.symm)
    omega
  · intro even
    apply List.mem_of_getElem? (i := index / 2)
    rw [called, ForEach.walk_all_taken, show 2 * (index / 2) = index by omega]
    exact found

private theorem queued_called_iff {controller : WebSocketController Data}
    (waits : controller.Waits) :
    (∀ send ∈ controller.queued, send ∈ controller.called) ↔ InReach controller := by
  obtain ⟨left, all⟩ := waits.queued
  have at_queued : ∀ index send, controller.queued[index]? = some send →
      controller.openListeners[left.length + index]? = some send := by
    intro index send found
    rw [← all, List.getElem?_append_right (Nat.le_add_right _ _), Nat.add_sub_cancel_left]
    exact found
  have total : controller.openListeners.length = left.length + controller.queued.length := by
    rw [← all, List.length_append]
  constructor
  · intro calls
    match queue : controller.queued with
    | [] => exact .inl (by rw [queue]; rfl)
    | [send] =>
        rw [queue] at at_queued calls total
        have even := (mem_called waits (at_queued 0 send rfl)).mp (calls send List.mem_cons_self)
        refine .inr ⟨by rw [queue]; rfl, ?_⟩
        rw [List.length_singleton] at total
        omega
    | first :: second :: rest =>
        rw [queue] at at_queued calls
        have even := (mem_called waits (at_queued 0 first rfl)).mp (calls first List.mem_cons_self)
        have odd := (mem_called waits (at_queued 1 second rfl)).mp
          (calls second (List.mem_cons_of_mem first List.mem_cons_self))
        omega
  · intro reach send member
    rcases reach with none | ⟨one, odd⟩
    · rw [List.length_eq_zero_iff.mp none] at member
      cases member
    · obtain ⟨index, found⟩ := List.mem_iff_getElem?.mp member
      obtain ⟨inRange, _⟩ := List.getElem?_eq_some_iff.mp found
      apply (mem_called waits (at_queued index send found)).mpr
      omega

/-! ### The microtasks -/

/-- What is left to do, a microtask for each tick and more. -/
def work (controller : WebSocketController Data) : Nat :=
  (controller.microtasks.map fun job => job.ticks + 1).sum

private theorem microtask_work {controller : WebSocketController Data} {job : Job Data}
    {rest : List (Job Data)} (queue : controller.microtasks = job :: rest) :
    ∃ next, controller.microtask = some next ∧ work next < work controller := by
  unfold work microtask
  rw [queue, List.map_cons, List.sum_cons]
  dsimp only
  split
  · refine ⟨_, rfl, ?_⟩
    unfold continuation
    split
    · dsimp only
      omega
    · dsimp only
      omega
  · refine ⟨_, rfl, ?_⟩
    dsimp only
    rw [List.map_append, List.sum_append, List.map_singleton, List.sum_singleton]
    dsimp only
    omega

theorem exists_drained (bound : Nat) (controller : WebSocketController Data)
    (enough : work controller ≤ bound) :
    ∃ count final, machine.run controller (List.replicate count .microtask) = some final ∧
      final.microtasks = [] := by
  induction bound generalizing controller with
  | zero =>
      cases queue : controller.microtasks with
      | nil => exact ⟨0, controller, rfl, queue⟩
      | cons job rest =>
          obtain ⟨next, _, less⟩ := microtask_work queue
          omega
  | succ bound ih =>
      cases queue : controller.microtasks with
      | nil => exact ⟨0, controller, rfl, queue⟩
      | cons job rest =>
          obtain ⟨next, taken, less⟩ := microtask_work queue
          obtain ⟨count, final, replayed, drained⟩ := ih next (by omega)
          refine ⟨count + 1, final, ?_, drained⟩
          have moved : machine.step controller .microtask = some next := taken
          rw [List.replicate_succ, Machine.run, moved]
          exact replayed

/-! ### From `open` on -/

/-- The run since the emission of `open` in a state. What has been passed on comes before
what the microtasks go on with. -/
structure Draining (before : WebSocketController Data) (socket : Nat)
    (controller : WebSocketController Data) : Prop where
  current : controller.connection.webSocket = some socket
  isOpen : controller.connection.isOpen = true
  since : before.sends ≤ controller.sends
  grown : before.sent.length ≤ controller.sent.length
  ordered : ((passedSince before controller).map Send.number).Pairwise (· < ·)
  behind : ∀ send ∈ passedSince before controller, ∀ job ∈ controller.microtasks,
    send.number < job.send.number
  fresh : ∀ send ∈ passedSince before controller, send.number < controller.sends
  known : ∀ send, send ∈ passedSince before controller ∨
      (∃ job ∈ controller.microtasks, job.send = send) →
    send ∈ before.called ∨ before.sends ≤ send.number
  goesOn : ∀ send ∈ before.called, send.number ∈ before.waitTimers →
    send ∈ passedSince before controller ∨ ∃ job ∈ controller.microtasks, job.send = send

private theorem passedSince_append {before controller : WebSocketController Data}
    (grown : before.sent.length ≤ controller.sent.length) (sent : Sent Data) :
    ((controller.sent ++ [sent]).drop before.sent.length).map Sent.send =
      passedSince before controller ++ [sent.send] := by
  rw [List.drop_append_of_le_length grown, List.map_append]
  rfl

private theorem passedSince_same {before controller : WebSocketController Data}
    (same : controller.sent = before.sent) : passedSince before controller = [] := by
  rw [passedSince, same, List.drop_length]
  rfl

theorem Draining.link {before controller : WebSocketController Data} {socket : Nat}
    (draining : Draining before socket controller) {connection : Connection}
    (current : connection.webSocket = some socket) (isOpen : connection.isOpen = true)
    (listeners : List RequestListener) :
    Draining before socket
      { controller with connection := connection, jsonListeners := listeners } :=
  { draining with current := current, isOpen := isOpen }

theorem Draining.send {before controller : WebSocketController Data} {socket : Nat}
    (draining : Draining before socket controller) (data : Outgoing Data) :
    Draining before socket (controller.send data) := by
  rw [WebSocketController.send, if_pos draining.isOpen]
  refine { draining with since := ?_, behind := ?_, fresh := ?_, known := ?_, goesOn := ?_ }
  · exact Nat.le_succ_of_le draining.since
  · intro send member job within
    rcases List.mem_append.mp within with old | new
    · exact draining.behind send member job old
    · rw [List.mem_singleton.mp new]
      exact draining.fresh send member
  · intro send member
    exact Nat.lt_succ_of_lt (draining.fresh send member)
  · intro send place
    rcases place with passed | ⟨job, within, same⟩
    · exact draining.known send (.inl passed)
    · rcases List.mem_append.mp within with old | new
      · exact draining.known send (.inr ⟨job, old, same⟩)
      · rw [List.mem_singleton.mp new] at same
        rw [← same]
        exact .inr draining.since
  · intro send taken armed
    rcases draining.goesOn send taken armed with passed | ⟨job, within, same⟩
    · exact .inl passed
    · exact .inr ⟨job, List.mem_append_left _ within, same⟩

theorem Draining.continuation {before controller : WebSocketController Data} {socket : Nat}
    {job : Job Data} {rest : List (Job Data)} (draining : Draining before socket controller)
    (waits : controller.Waits) (queue : controller.microtasks = job :: rest)
    (next : ∀ other ∈ rest, job.send.number < other.send.number) :
    Draining before socket
      { controller with
        microtasks := rest
        sent := controller.sent ++ [{ send := job.send, socket := socket }] } := by
  have inQueue : job ∈ controller.microtasks := by
    rw [queue]
    exact List.mem_cons_self
  have grown : passedSince before
      { controller with
        microtasks := rest
        sent := controller.sent ++ [{ send := job.send, socket := socket }] } =
          passedSince before controller ++ [job.send] := passedSince_append draining.grown _
  refine { draining with grown := ?_, ordered := ?_, behind := ?_, fresh := ?_, known := ?_,
                         goesOn := ?_ }
  · rw [List.length_append]
    exact Nat.le_add_right_of_le draining.grown
  · rw [grown, List.map_append]
    refine List.pairwise_append.mpr ⟨draining.ordered, List.pairwise_singleton _ _, ?_⟩
    intro number member other new
    obtain ⟨send, passed, rfl⟩ := List.mem_map.mp member
    rw [List.mem_singleton.mp new]
    exact draining.behind send passed job inQueue
  · intro send member other within
    rw [grown] at member
    rcases List.mem_append.mp member with old | new
    · apply draining.behind send old other
      rw [queue]
      exact List.mem_cons_of_mem job within
    · rw [List.mem_singleton.mp new]
      exact next other within
  · intro send member
    rw [grown] at member
    rcases List.mem_append.mp member with old | new
    · exact draining.fresh send old
    · rw [List.mem_singleton.mp new]
      exact (waits.resumed job inQueue).1
  · intro send place
    rw [grown] at place
    apply draining.known
    rcases place with passed | ⟨other, within, same⟩
    · rcases List.mem_append.mp passed with old | new
      · exact .inl old
      · exact .inr ⟨job, inQueue, (List.mem_singleton.mp new).symm⟩
    · refine .inr ⟨other, ?_, same⟩
      rw [queue]
      exact List.mem_cons_of_mem job within
  · intro send taken armed
    rw [grown]
    rcases draining.goesOn send taken armed with passed | ⟨other, within, same⟩
    · exact .inl (List.mem_append_left _ passed)
    · rw [queue] at within
      rcases List.mem_cons.mp within with rfl | later
      · exact .inl (List.mem_append_right _ (List.mem_singleton.mpr same.symm))
      · exact .inr ⟨other, later, same⟩

theorem Draining.microtask {before controller next : WebSocketController Data} {socket : Nat}
    (draining : Draining before socket controller) (waits : controller.Waits)
    (taken : controller.microtask = some next) : Draining before socket next := by
  unfold WebSocketController.microtask at taken
  split at taken
  · cases taken
  · rename_i job rest queue
    have ordered := waits.ordered
    have ticks := waits.ticks
    rw [queue] at ordered ticks
    rw [List.pairwise_cons] at ordered
    split at taken
    · rename_i now
      cases taken
      unfold WebSocketController.continuation
      dsimp only
      rw [draining.current]
      apply draining.continuation waits queue
      intro other member
      rcases ordered.1 other member with ⟨less, _⟩ | ⟨_, fewer⟩
      · exact less
      · have atLeast := (ticks other (List.mem_cons_of_mem job member)).1
        omega
    · cases taken
      have moved : ∀ send : Send Data,
          (∃ other ∈ rest ++ [{ send := job.send, ticks := job.ticks - 1 }], other.send = send) ↔
            ∃ other ∈ controller.microtasks, other.send = send := by
        intro send
        rw [queue]
        simp only [List.mem_append, List.mem_cons, List.not_mem_nil, or_false]
        constructor
        · intro place
          obtain ⟨other, old | rfl, same⟩ := place
          · exact ⟨other, .inr old, same⟩
          · exact ⟨job, .inl rfl, same⟩
        · intro place
          obtain ⟨other, rfl | old, same⟩ := place
          · exact ⟨_, .inr rfl, same⟩
          · exact ⟨other, .inl old, same⟩
      refine { draining with behind := ?_, known := ?_, goesOn := ?_ }
      · intro send member other within
        obtain ⟨old, inQueue, same⟩ := (moved other.send).mp ⟨other, within, rfl⟩
        rw [← same]
        exact draining.behind send member old inQueue
      · intro send place
        exact draining.known send (place.imp_right (moved send).mp)
      · intro send isCalled armed
        exact (draining.goesOn send isCalled armed).imp_right (moved send).mpr

private theorem setReadyState_isOpen {connection : Connection} {socket number : Nat}
    (current : connection.webSocket = some socket) (other : number ≠ socket)
    (readyState : ReadyState) :
    (connection.setReadyState number readyState).isOpen = connection.isOpen := by
  simp only [Connection.isOpen, Connection.setReadyState, current]
  rw [List.getElem?_modify_ne _ _ other]

private theorem not_handles_of_ne {connection : Connection} (coherent : connection.Coherent)
    {socket number : Nat} (current : connection.webSocket = some socket) (other : number ≠ socket)
    {handler : WebSocket → Bool} (has : ∀ socket, handler socket = true → socket.HasHandler) :
    ¬connection.handles handler number = true := by
  intro handled
  obtain ⟨found, atNumber, handler⟩ := Connection.handles_hasHandler has handled
  have same := coherent.guarded number found atNumber handler
  rw [current] at same
  exact other (Option.some.inj same).symm

private theorem step_draining {before controller next : WebSocketController Data} {socket : Nat}
    {label : Label Data} (coherent : controller.connection.Coherent) (waits : controller.Waits)
    (draining : Draining before socket controller) (stays : StaysOpen socket label)
    (taken : step controller label = some next) : Draining before socket next := by
  cases label with
  | send data =>
      cases taken
      exact draining.send (.data data)
  | request request data =>
      cases taken
      have listening : Draining before socket
          { controller with
            requestID := controller.requestID + 1
            jsonListeners := controller.jsonListeners ++
              [{ id := controller.requestID, send := controller.sends }] } := { draining with }
      exact listening.send _
  | microtask => exact draining.microtask waits taken
  | opened number =>
      simp only [step, Option.ite_none_right_eq_some, Option.some.injEq] at taken
      rw [← taken.2, if_neg (not_handles_of_ne coherent draining.current stays
        fun _ set => .inr (.inl set))]
      apply draining.link _ _ controller.jsonListeners
      · exact (emit_webSocket _ _ _ _).trans draining.current
      · rw [linked, emit_isOpen, setReadyState_isOpen draining.current stays]
        exact draining.isOpen
  | message number incoming =>
      simp only [step, Option.ite_none_right_eq_some, Option.some.injEq] at taken
      rw [← taken.2]
      split
      · obtain ⟨listeners, _, same⟩ := onMessage_eq
          { controller with
            connection := linked controller.connection (.message number incoming : Label Data) }
          incoming
        rw [same]
        apply draining.link _ _ listeners
        · exact (emit_webSocket _ _ _ _).trans draining.current
        · rw [linked, emit_isOpen]
          exact draining.isOpen
      · exact draining
  | error number =>
      simp only [step, Option.ite_none_right_eq_some, Option.some.injEq] at taken
      rw [← taken.2]
      apply draining.link _ _ controller.jsonListeners
      · exact (emit_webSocket _ _ _ _).trans draining.current
      · rw [linked, emit_isOpen]
        exact draining.isOpen
  | closing number =>
      simp only [step, Option.ite_none_right_eq_some, Option.some.injEq] at taken
      rw [← taken.2]
      have current : (linked controller.connection
          (.closing number : Label Data)).webSocket = some socket := draining.current
      refine draining.link current ?_ controller.jsonListeners
      rw [linked, setReadyState_isOpen draining.current stays]
      exact draining.isOpen
  | close number =>
      simp only [step, Option.ite_none_right_eq_some, Option.some.injEq] at taken
      rw [← taken.2, linked,
        if_neg (not_handles_of_ne coherent draining.current stays fun _ set => .inl set)]
      have current : (controller.connection.setReadyState number .CLOSED).webSocket =
          some socket := draining.current
      refine draining.link current ?_ controller.jsonListeners
      rw [setReadyState_isOpen draining.current stays]
      exact draining.isOpen
  | connectTimeout handle =>
      have armed := connectTimeout_armed taken
      have idle := coherent.connected
        (by rw [draining.current]; exact Option.some_ne_none socket)
      rw [idle.2] at armed
      cases armed
  | waitTimeout number =>
      simp only [step, Option.ite_none_right_eq_some, Option.some.injEq] at taken
      rw [← taken.2]
      exact { draining with }

private theorem run_draining {before controller final : WebSocketController Data} {socket : Nat}
    {labels : List (Label Data)} (reached : machine.Reachable controller)
    (draining : Draining before socket controller)
    (stays : ∀ label ∈ labels, StaysOpen socket label)
    (replayed : machine.run controller labels = some final) : Draining before socket final := by
  induction labels generalizing controller with
  | nil =>
      cases replayed
      exact draining
  | cons label rest ih =>
      obtain ⟨next, taken, replayed⟩ := Option.bind_eq_some_iff.mp replayed
      have moved := step_draining (reachable_coherent reached) (reachable_waits reached) draining
        (stays label List.mem_cons_self) taken
      apply ih (reached.step taken) moved _ replayed
      intro other member
      exact stays other (List.mem_cons_of_mem label member)

private theorem opened_draining {before opened : WebSocketController Data} {socket : Nat}
    (coherent : before.connection.Coherent) (waits : before.Waits)
    (current : before.connection.webSocket = some socket)
    (taken : step before (.opened socket) = some opened) : Draining before socket opened := by
  obtain ⟨found, atSocket, attached⟩ := coherent.attached socket current
  have handled : before.connection.handles WebSocket.onopen socket = true := by
    rw [Connection.handles, atSocket]
    exact attached.2.1
  simp only [step, Option.ite_none_right_eq_some, Option.some.injEq, List.isEmpty_iff] at taken
  have idle := waits.idle taken.1
    (linked before.connection (.opened socket : Label Data)) before.jsonListeners
  have all := taken.2
  rw [if_pos handled, emitOpen_eq idle.distinct] at all
  have connection : opened.connection = linked before.connection (.opened socket : Label Data) := by
    rw [← all]
  have nothing : passedSince before opened = [] := passedSince_same (by rw [← all])
  have sends : opened.sends = before.sends := by rw [← all]
  have microtasks : opened.microtasks = before.resumed := by
    rw [← all]
    dsimp only
    rw [taken.1]
    rfl
  constructor
  · rw [connection]
    exact (emit_webSocket _ _ _ _).trans current
  · rw [connection]
    exact linked_opened_isOpen coherent current
  · exact Nat.le_of_eq sends.symm
  · exact Nat.le_of_eq (by rw [← all])
  · rw [nothing]
    exact .nil
  · intro send member
    rw [nothing] at member
    cases member
  · intro send member
    rw [nothing] at member
    cases member
  · intro send place
    rw [nothing, microtasks] at place
    rcases place with passed | ⟨job, within, same⟩
    · cases passed
    · obtain ⟨other, kept, rfl⟩ := List.mem_map.mp within
      rw [← same]
      exact .inl (List.mem_filter.mp kept).1
  · intro send isCalled armed
    rw [microtasks]
    refine .inr ⟨{ send := send, ticks := 2 }, ?_, rfl⟩
    exact List.mem_map_of_mem (List.mem_filter.mpr ⟨isCalled, decide_eq_true armed⟩)

/-! ### What has been delivered -/

private theorem filter_number {sends : List (Send Data)} {send : Send Data}
    (sorted : (sends.map Send.number).Pairwise (· < ·)) (member : send ∈ sends) :
    sends.filter (fun other => other.number = send.number) = [send] := by
  induction sends with
  | nil => cases member
  | cons head rest ih =>
      rw [List.map_cons, List.pairwise_cons] at sorted
      rcases List.mem_cons.mp member with rfl | later
      · have none : rest.filter (fun other => other.number = send.number) = [] := by
          rw [List.filter_eq_nil_iff]
          intro other within same
          have less := sorted.1 other.number (List.mem_map_of_mem within)
          exact absurd (of_decide_eq_true same).symm (Nat.ne_of_lt less)
        rw [List.filter_cons_of_pos (by simp), none]
      · have less := sorted.1 send.number (List.mem_map_of_mem later)
        rw [List.filter_cons_of_neg (by simp [Nat.ne_of_lt less])]
        exact ih sorted.2 later

theorem Draining.sends_iff {before final : WebSocketController Data} {socket : Nat}
    (draining : Draining before socket final) (waits : before.Waits)
    (unexpired : ∀ send ∈ before.queued, send.number ∈ before.waitTimers)
    (drained : final.microtasks = []) :
    Delivered before final ↔ ∀ send ∈ before.queued, send ∈ before.called := by
  constructor
  · intro delivered send member
    have isPassed : send ∈ passedSince before final := by
      have only := delivered.once send member
      exact (List.mem_filter.mp (by rw [only]; exact List.mem_cons_self)).1
    rcases draining.known send (.inl isPassed) with isCalled | later
    · exact isCalled
    · have less := waits.listening send (waits.queued.subset member)
      omega
  · intro calls
    constructor
    · intro send member
      apply filter_number draining.ordered
      rcases draining.goesOn send (calls send member) (unexpired send member) with
        isPassed | ⟨job, within, _⟩
      · exact isPassed
      · rw [drained] at within
        cases within
    · intro first second earlier later atFirst atSecond _ _ less
      have ordered := draining.ordered
      rw [List.pairwise_map, List.pairwise_iff_getElem] at ordered
      obtain ⟨firstInRange, isEarlier⟩ := List.getElem?_eq_some_iff.mp atFirst
      obtain ⟨secondInRange, isLater⟩ := List.getElem?_eq_some_iff.mp atSecond
      rcases Nat.lt_trichotomy first second with before | same | after
      · exact before
      · subst same
        rw [isEarlier] at isLater
        rw [isLater] at less
        omega
      · have more := ordered second first secondInRange firstInRange after
        rw [isEarlier, isLater] at more
        omega

/-- Once the microtasks have run, on a socket that stays open, the messages queued before
its `open` have been delivered if at most one of them waits and is not missed, and only
then. -/
theorem delivered_iff {before opened final : WebSocketController Data} {socket : Nat}
    {labels : List (Label Data)} (reached : machine.Reachable before)
    (current : before.connection.webSocket = some socket)
    (unexpired : ∀ send ∈ before.queued, send.number ∈ before.waitTimers)
    (taken : machine.step before (.opened socket) = some opened)
    (stays : ∀ label ∈ labels, StaysOpen socket label)
    (replayed : machine.run opened labels = some final) (drained : final.microtasks = []) :
    Delivered before final ↔ InReach before := by
  have waits := reachable_waits reached
  have begun := opened_draining (reachable_coherent reached) waits current taken
  have draining := run_draining (reached.step taken) begun stays replayed
  rw [draining.sends_iff waits unexpired drained]
  exact queued_called_iff waits

/-- One message is queued; another one is sent once the socket is open. -/
def oneQueued : List (Label Nat) :=
  [.send 7, .microtask, .microtask, .microtask, .microtask, .microtask]

theorem delivered_of_oneQueued :
    ∃ before opened final : WebSocketController Nat,
      machine.run init [.send 6] = some before ∧ before.queued.length = 1 ∧
        machine.step before (.opened 0) = some opened ∧
        machine.run opened oneQueued = some final ∧ Delivered before final := by
  obtain ⟨before, begun, passed⟩ := (Option.any_eq_true _ _).mp
    (show (machine.run init [.send 6]).any (fun before : WebSocketController Nat =>
        decide (before.queued.length = 1 ∧ InReach before ∧
          before.connection.webSocket = some 0 ∧
          ∀ send ∈ before.queued, send.number ∈ before.waitTimers) &&
        (machine.step before (.opened 0)).any fun opened =>
          (machine.run opened oneQueued).any fun final => final.microtasks.isEmpty) = true by
      decide)
  simp only [Bool.and_eq_true, decide_eq_true_eq, Option.any_eq_true, List.isEmpty_iff] at passed
  obtain ⟨⟨one, reach, current, unexpired⟩, opened, taken, final, replayed, drained⟩ := passed
  have stays : ∀ label ∈ oneQueued, StaysOpen 0 label := by decide
  exact ⟨before, opened, final, begun, one, taken, replayed,
    (delivered_iff (.run [.send 6] (.initial rfl) begun) current unexpired taken stays replayed
      drained).mpr reach⟩

/-- Of two messages queued the second one is missed. -/
theorem not_delivered_of_twoQueued :
    ¬∀ (before opened final : WebSocketController Nat) (socket : Nat) (labels : List (Label Nat)),
      machine.Reachable before → before.connection.webSocket = some socket →
        (∀ send ∈ before.queued, send.number ∈ before.waitTimers) →
        machine.step before (.opened socket) = some opened →
        (∀ label ∈ labels, StaysOpen socket label) → machine.run opened labels = some final →
        final.microtasks = [] → Delivered before final := by
  intro always
  obtain ⟨before, begun, passed⟩ := (Option.any_eq_true _ _).mp
    (show (machine.run init [.send 6, .send 7]).any (fun before : WebSocketController Nat =>
        decide (before.connection.webSocket = some 0 ∧
          ∀ send ∈ before.queued, send.number ∈ before.waitTimers) &&
        (machine.step before (.opened 0)).any fun opened =>
          (machine.run opened [.microtask, .microtask]).any fun final =>
            final.microtasks.isEmpty && before.queued.any fun send =>
              ((passedSince before final).filter fun other =>
                other.number = send.number).isEmpty) = true by
      decide)
  simp only [Bool.and_eq_true, decide_eq_true_eq, Option.any_eq_true, List.isEmpty_iff,
    List.any_eq_true] at passed
  obtain ⟨⟨current, unexpired⟩, opened, taken, final, replayed, drained, send, member, missed⟩ :=
    passed
  have delivered := always before opened final 0 [.microtask, .microtask]
    (.run [.send 6, .send 7] (.initial rfl) begun) current unexpired taken (by decide) replayed
    drained
  have only := delivered.once send member
  rw [missed] at only
  cases only

end WaitingSends
end WebSocketController
end Browser
end JSCameraKit

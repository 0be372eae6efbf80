import JSCameraKit.WebSocketServer.Orphans

set_option autoImplicit false

/-! The stream of messages on its way to the browser at the end of a connection:
those written that the browser has not handled, and behind them the entries
pending for the pointer, as long as the connection is open. -/

namespace JSCameraKit
namespace WebSocketServer
namespace Broadcast

open KeyedQueue (ofKey others oldest withoutOldest)

/-- The end of a connection in a browser that has handled `consumed` of its messages.
The pointer is the server's; the browser does not know it. -/
structure Socket (Wsi : Type) where
  wsi : Wsi
  connection : Nat
  consumed : Nat

section Messages

variable {Wsi Payload : Type}

/-- The messages written to a connection, in order. -/
def delivered (state : State Wsi Payload) (connection : Nat) : List Payload :=
  (state.sent.filter fun delivery => delivery.2 = some connection).map
    fun delivery => delivery.1.payload

def pending [DecidableEq Wsi] (state : State Wsi Payload) (wsi : Wsi) : List Payload :=
  (ofKey wsi state.queue.entries).map fun entry => entry.1.payload

def onItsWay [DecidableEq Wsi] (state : State Wsi Payload) (socket : Socket Wsi) : List Payload :=
  (delivered state socket.connection).drop socket.consumed ++
    if state.connections socket.wsi = some socket.connection then pending state socket.wsi else []

/-- The entry that the next statement of a call enqueues. -/
def enqueued (state : State Wsi Payload) : Label Wsi Payload → Option (Wsi × Payload)
  | .advance number =>
      (state.calls[number]?).bind fun call => call.holding.map fun wsi => (wsi, call.payload)
  | _ => none

/-- The message that a label hands to a write call. -/
def Label.payload : Label Wsi Payload → Option Payload
  | .writeString payload _ | .writeData payload _ | .writeDatas payload _ => some payload
  | _ => none

/-- A message held by a call, an entry or the log of what was written. -/
def Carries (state : State Wsi Payload) (payload : Payload) : Prop :=
  payload ∈ state.calls.map Call.payload ∨
    payload ∈ state.queue.entries.map (fun entry => entry.1.payload) ∨
    payload ∈ state.sent.map fun delivery => delivery.1.payload

/-- Connections are numbered in the order in which they are established. -/
structure Numbered (state : State Wsi Payload) : Prop where
  open_lt : ∀ wsi connection, state.connections wsi = some connection →
    connection < state.established
  sent_lt : ∀ delivery ∈ state.sent, ∀ connection, delivery.2 = some connection →
    connection < state.established

/-- What the server knows of the socket of a browser. -/
structure Tracks (state : State Wsi Payload) (socket : Socket Wsi) : Prop where
  known : socket.connection < state.established
  only : ∀ wsi, state.connections wsi = some socket.connection → wsi = socket.wsi
  consumed : socket.consumed ≤ (delivered state socket.connection).length

theorem Carries.of_delivered {state : State Wsi Payload} {connection : Nat} {payload : Payload}
    (member : payload ∈ delivered state connection) : Carries state payload := by
  obtain ⟨delivery, inSent, same⟩ := List.mem_map.mp member
  exact .inr (.inr (List.mem_map.mpr ⟨delivery, (List.mem_filter.mp inSent).1, same⟩))

end Messages

/-! ### What a step does to the streams -/

section Payloads

variable {Wsi Payload : Type}

private theorem settleAll_payload (calls : List (Call Wsi Payload))
    (invoked : List (Invocation Wsi (Entry Payload))) :
    (settleAll calls invoked).map Call.payload = calls.map Call.payload := by
  apply settleAll_map
  intro call wsi
  unfold Call.settle
  split <;> rfl

private theorem runBlock_payload (calls : List (Call Wsi Payload)) (number : Nat) :
    (runBlock calls number).map Call.payload = calls.map Call.payload := by
  unfold runBlock
  dsimp only
  split
  · rw [modify_map, modify_map] <;> exact fun _ => rfl
  · rw [modify_map]
    exact fun _ => rfl

end Payloads

variable {Wsi Payload : Type} [DecidableEq Wsi]

/-- What a step changes of the entries, of the connections and of what was written. -/
inductive Serves (state next : State Wsi Payload) : Label Wsi Payload → Prop
  | established (wsi : Wsi) (absent : state.connections wsi = none)
      (entries : next.queue.entries = state.queue.entries)
      (connections : next.connections = fun other =>
        if other = wsi then some state.established else state.connections other)
      (established : next.established = state.established + 1)
      (sent : next.sent = state.sent) :
      Serves state next (.established wsi)
  | closed (wsi : Wsi) (entries : next.queue.entries = others wsi state.queue.entries)
      (connections : next.connections = fun other =>
        if other = wsi then none else state.connections other)
      (established : next.established = state.established)
      (sent : next.sent = state.sent) :
      Serves state next (.closed wsi)
  | writable (wsi : Wsi) (connection : Nat) (isOpen : state.connections wsi = some connection)
      (entries : next.queue.entries = withoutOldest wsi state.queue.entries)
      (connections : next.connections = state.connections)
      (established : next.established = state.established)
      (sent : next.sent = state.sent ++
        ((oldest wsi state.queue.entries).map fun entry => (entry.1, some connection)).toList) :
      Serves state next (.writable wsi)
  | cancelAllWrites (entries : next.queue.entries = [])
      (connections : next.connections = state.connections)
      (established : next.established = state.established)
      (sent : next.sent = state.sent) :
      Serves state next .cancelAllWrites
  | enqueues (number : Nat) (wsi : Wsi) (entry : Entry Payload)
      (noted : enqueued state (.advance number) = some (wsi, entry.payload))
      (entries : next.queue.entries = state.queue.entries ++ [(entry, wsi)])
      (connections : next.connections = state.connections)
      (established : next.established = state.established)
      (sent : next.sent = state.sent) :
      Serves state next (.advance number)
  | still (label : Label Wsi Payload) (entries : next.queue.entries = state.queue.entries)
      (connections : next.connections = state.connections)
      (established : next.established = state.established)
      (sent : next.sent = state.sent) :
      Serves state next label

private theorem advances_serves {state next : State Wsi Payload} {number : Nat}
    {call : Call Wsi Payload} (registered : Registered state)
    (found : state.calls[number]? = some call) (taken : Advances state number call next) :
    Serves state next (.advance number) := by
  cases taken with
  | enqueues wsi connection rest mutations stage enqueues =>
      refine .enqueues number wsi
        { call := number, payload := call.payload, connection := connection } ?_ ?_ rfl rfl rfl
      · simp [enqueued, found, Call.holding, stage, enqueues]
      · simp only [registered.paired.waitForWriteable, WriteQueue.entries_ofEntries]
  | _ => exact .still _ rfl rfl rfl rfl

theorem step_serves {state next : State Wsi Payload} {label : Label Wsi Payload}
    (registered : Registered state) (taken : step state label = some next) :
    Serves state next label := by
  cases label with
  | established wsi =>
      simp only [step, Option.ite_none_right_eq_some, Option.some.injEq] at taken
      obtain ⟨absent, rfl⟩ := taken
      refine .established wsi absent ?_ rfl rfl rfl
      simp only [registered.paired.onClientAdded, WriteQueue.entries_ofEntries]
  | closed wsi =>
      simp only [step, Option.ite_none_left_eq_some] at taken
      obtain ⟨present, taken⟩ := taken
      rw [registered.onConnectionClose present] at taken
      cases taken
      refine .closed wsi ?_ rfl rfl rfl
      simp only [afterOutcome, WriteQueue.entries_ofEntries]
  | writable wsi =>
      simp only [step, Option.ite_none_left_eq_some] at taken
      obtain ⟨present, taken⟩ := taken
      obtain ⟨connection, isOpen⟩ := Option.ne_none_iff_exists'.mp present
      rw [registered.paired.onClientWritable] at taken
      cases taken
      refine .writable wsi connection isOpen ?_ rfl rfl ?_
      · simp only [afterOutcome, WriteQueue.entries_ofEntries]
      · cases oldest wsi state.queue.entries <;> simp [isOpen]
  | cancelAllWrites =>
      simp only [step, registered.paired.cancelAllWrites] at taken
      cases taken
      refine .cancelAllWrites ?_ rfl rfl rfl
      simp only [afterOutcome, WriteQueue.entries_ofEntries]
  | writeString payload hasBlock | writeData payload hasBlock | writeDatas payload hasBlock =>
      cases taken
      exact .still _ rfl rfl rfl rfl
  | advance number =>
      obtain ⟨call, found, taken⟩ := Option.bind_eq_some_iff.mp taken
      exact advances_serves registered found (advance_cases taken)

omit [DecidableEq Wsi] in
theorem numbered_initial : Numbered (initial : State Wsi Payload) := by
  constructor
  · intro wsi connection isOpen
    cases isOpen
  · intro delivery member
    cases member

theorem Numbered.serves {state next : State Wsi Payload} {label : Label Wsi Payload}
    (numbered : Numbered state) (serves : Serves state next label) : Numbered next := by
  cases serves with
  | established wsi _ _ connections established sent =>
      constructor
      · intro other connection isOpen
        rw [connections] at isOpen
        rw [established]
        dsimp only at isOpen
        split at isOpen
        · cases isOpen
          omega
        · have earlier := numbered.open_lt other connection isOpen
          omega
      · intro delivery member connection same
        rw [sent] at member
        have earlier := numbered.sent_lt delivery member connection same
        omega
  | closed wsi _ connections established sent =>
      constructor
      · intro other connection isOpen
        rw [connections] at isOpen
        dsimp only at isOpen
        split at isOpen
        · cases isOpen
        · have earlier := numbered.open_lt other connection isOpen
          omega
      · rw [sent, established]
        exact numbered.sent_lt
  | writable wsi connection isOpen _ connections established sent =>
      constructor
      · rw [connections, established]
        exact numbered.open_lt
      · intro delivery member other same
        rw [established]
        rw [sent] at member
        rcases List.mem_append.mp member with earlier | written
        · exact numbered.sent_lt delivery earlier other same
        · obtain ⟨entry, _, rfl⟩ := Option.map_eq_some_iff.mp (Option.mem_toList.mp written)
          cases same
          exact numbered.open_lt wsi connection isOpen
  | cancelAllWrites _ connections established sent
  | enqueues _ _ _ _ _ connections established sent
  | still _ _ connections established sent =>
      constructor
      · rw [connections, established]
        exact numbered.open_lt
      · rw [sent, established]
        exact numbered.sent_lt

/-! ### What a step does to one socket -/

omit [DecidableEq Wsi] in
private theorem delivered_congr {state next : State Wsi Payload} (sent : next.sent = state.sent)
    (connection : Nat) : delivered next connection = delivered state connection := by
  rw [delivered, sent]
  rfl

omit [DecidableEq Wsi] in
/-- Writing to a connection adds what is written to its messages, and to no other's. -/
theorem delivered_written {state next : State Wsi Payload} {entry : Option (Entry Payload × Wsi)}
    {connection : Nat}
    (sent : next.sent = state.sent ++ (entry.map fun entry => (entry.1, some connection)).toList)
    (other : Nat) :
    delivered next other = delivered state other ++
      if connection = other then (entry.map fun entry => entry.1.payload).toList else [] := by
  rw [delivered, sent]
  cases entry with
  | none => simp [delivered]
  | some entry =>
      by_cases same : connection = other
      · simp [delivered, same]
      · simp [delivered, same]

private theorem pending_congr {state next : State Wsi Payload}
    (entries : next.queue.entries = state.queue.entries) (wsi : Wsi) :
    pending next wsi = pending state wsi := by
  rw [pending, entries]
  rfl

private theorem onItsWay_congr {state next : State Wsi Payload} {socket : Socket Wsi}
    (entries : next.queue.entries = state.queue.entries)
    (connections : next.connections = state.connections) (sent : next.sent = state.sent) :
    onItsWay next socket = onItsWay state socket := by
  rw [onItsWay, delivered_congr sent, pending_congr entries, connections]
  rfl

theorem Tracks.serves {state next : State Wsi Payload} {label : Label Wsi Payload}
    {socket : Socket Wsi} (tracks : Tracks state socket) (serves : Serves state next label) :
    Tracks next socket := by
  obtain ⟨known, only, consumed⟩ := tracks
  cases serves with
  | established wsi _ _ connections established sent =>
      constructor
      · omega
      · intro other isOpen
        rw [connections] at isOpen
        dsimp only at isOpen
        split at isOpen
        · have same := Option.some.inj isOpen
          omega
        · exact only other isOpen
      · rwa [delivered_congr sent]
  | closed wsi _ connections established sent =>
      constructor
      · omega
      · intro other isOpen
        rw [connections] at isOpen
        dsimp only at isOpen
        split at isOpen
        · cases isOpen
        · exact only other isOpen
      · rwa [delivered_congr sent]
  | writable wsi connection isOpen _ connections established sent =>
      constructor
      · omega
      · rwa [connections]
      · rw [delivered_written sent, List.length_append]
        omega
  | cancelAllWrites _ connections established sent
  | enqueues _ _ _ _ _ connections established sent
  | still _ _ connections established sent =>
      constructor
      · omega
      · rwa [connections]
      · rwa [delivered_congr sent]

/-- A message that becomes writable moves from the entries to what was written; all the
rest of the stream stays in place. -/
theorem onItsWay_writable {state next : State Wsi Payload} {socket : Socket Wsi} {wsi : Wsi}
    {connection : Nat} (tracks : Tracks state socket)
    (isOpen : state.connections wsi = some connection)
    (entries : next.queue.entries = withoutOldest wsi state.queue.entries)
    (connections : next.connections = state.connections)
    (sent : next.sent = state.sent ++
      ((oldest wsi state.queue.entries).map fun entry => (entry.1, some connection)).toList) :
    onItsWay next socket = onItsWay state socket := by
  unfold onItsWay
  rw [delivered_written sent, connections, List.drop_append_of_le_length tracks.consumed]
  by_cases same : connection = socket.connection
  · subst same
    have here := tracks.only wsi isOpen
    subst here
    rw [if_pos rfl, if_pos isOpen, if_pos isOpen, List.append_assoc]
    congr 1
    rw [pending, pending, entries]
    cases found : oldest socket.wsi state.queue.entries with
    | none =>
        rw [KeyedQueue.withoutOldest_of_none found]
        rfl
    | some entry =>
        rw [KeyedQueue.ofKey_withoutOldest_same found]
        rfl
  · rw [if_neg same, List.append_nil]
    split
    · rename_i there
      have different : socket.wsi ≠ wsi := by
        rintro rfl
        rw [isOpen] at there
        exact same (Option.some.inj there)
      rw [pending, entries, KeyedQueue.ofKey_withoutOldest_other different]
      rfl
    · rfl

private theorem onItsWay_closed {state next : State Wsi Payload} {socket : Socket Wsi} {wsi : Wsi}
    (entries : next.queue.entries = others wsi state.queue.entries)
    (connections : next.connections = fun other =>
      if other = wsi then none else state.connections other)
    (sent : next.sent = state.sent) : onItsWay next socket <+: onItsWay state socket := by
  unfold onItsWay
  rw [delivered_congr sent, connections]
  dsimp only
  by_cases here : socket.wsi = wsi
  · simp only [if_pos here, reduceCtorEq, if_false, List.append_nil]
    exact List.prefix_append _ _
  · simp only [if_neg here]
    rw [pending, entries, KeyedQueue.ofKey_others_other here]
    exact List.prefix_rfl

private theorem onItsWay_established {state next : State Wsi Payload} {socket : Socket Wsi}
    {wsi : Wsi}
    (tracks : Tracks state socket) (absent : state.connections wsi = none)
    (entries : next.queue.entries = state.queue.entries)
    (connections : next.connections = fun other =>
      if other = wsi then some state.established else state.connections other)
    (sent : next.sent = state.sent) : onItsWay next socket = onItsWay state socket := by
  unfold onItsWay
  rw [delivered_congr sent, pending_congr entries, connections]
  dsimp only
  by_cases here : socket.wsi = wsi
  · have later : state.established ≠ socket.connection := by
      have known := tracks.known
      omega
    simp only [here, if_true, absent, Option.some.injEq, later, reduceCtorEq, if_false]
  · simp only [if_neg here]

/-- A step shortens the stream from its end, leaves it as it is, or appends the entry
that it enqueues for the client of an open connection. -/
theorem onItsWay_serves {state next : State Wsi Payload} {label : Label Wsi Payload}
    {socket : Socket Wsi} (tracks : Tracks state socket) (serves : Serves state next label) :
    onItsWay next socket <+: onItsWay state socket ∨
      ∃ payload, enqueued state label = some (socket.wsi, payload) ∧
        state.connections socket.wsi = some socket.connection ∧
        onItsWay next socket = onItsWay state socket ++ [payload] := by
  cases serves with
  | established wsi absent entries connections established sent =>
      rw [onItsWay_established tracks absent entries connections sent]
      exact .inl List.prefix_rfl
  | closed wsi entries connections established sent =>
      exact .inl (onItsWay_closed entries connections sent)
  | writable wsi connection isOpen entries connections established sent =>
      rw [onItsWay_writable tracks isOpen entries connections sent]
      exact .inl List.prefix_rfl
  | cancelAllWrites entries connections established sent =>
      left
      unfold onItsWay
      rw [delivered_congr sent, pending, entries]
      simp
  | enqueues number wsi entry noted entries connections established sent =>
      by_cases here : socket.wsi = wsi ∧ state.connections socket.wsi = some socket.connection
      · obtain ⟨rfl, isOpen⟩ := here
        refine .inr ⟨entry.payload, noted, isOpen, ?_⟩
        unfold onItsWay
        rw [delivered_congr sent, connections, if_pos isOpen, if_pos isOpen, pending, entries,
          KeyedQueue.ofKey_append, KeyedQueue.ofKey_cons_same]
        simp [pending]
      · left
        unfold onItsWay
        rw [delivered_congr sent, connections]
        split
        · rename_i isOpen
          have away : wsi ≠ socket.wsi := fun same => here ⟨same.symm, isOpen⟩
          rw [pending, entries, KeyedQueue.ofKey_append, KeyedQueue.ofKey_cons_other away,
            KeyedQueue.ofKey_nil, List.append_nil]
          exact List.prefix_rfl
        · exact List.prefix_rfl
  | still _ entries connections established sent =>
      rw [onItsWay_congr entries connections sent]
      exact .inl List.prefix_rfl

/-- The socket of a connection that has just been established; entries left over for
its pointer are the first messages on their way to it. -/
theorem socket_established {state next : State Wsi Payload} {wsi : Wsi}
    (registered : Registered state) (numbered : Numbered state)
    (taken : step state (.established wsi) = some next) :
    Tracks next { wsi := wsi, connection := state.established, consumed := 0 } ∧
      onItsWay next { wsi := wsi, connection := state.established, consumed := 0 } =
        pending state wsi := by
  simp only [step, Option.ite_none_right_eq_some, Option.some.injEq] at taken
  obtain ⟨absent, rfl⟩ := taken
  constructor
  · constructor
    · exact Nat.lt_succ_self _
    · intro other isOpen
      dsimp only at isOpen
      split at isOpen
      · assumption
      · have earlier := numbered.open_lt other _ isOpen
        omega
    · exact Nat.zero_le _
  · have nothing : delivered state state.established = [] := by
      rw [delivered, List.map_eq_nil_iff, List.filter_eq_nil_iff]
      intro delivery member same
      have earlier := numbered.sent_lt delivery member state.established (of_decide_eq_true same)
      omega
    simp only [delivered] at nothing
    simp [onItsWay, delivered, nothing, pending, registered.paired.onClientAdded]

/-! ### Where messages come from -/

omit [DecidableEq Wsi] in
private theorem enqueued_payload {state : State Wsi Payload} {label : Label Wsi Payload} {wsi : Wsi}
    {payload : Payload} (noted : enqueued state label = some (wsi, payload)) :
    payload ∈ state.calls.map Call.payload := by
  cases label with
  | advance number =>
      obtain ⟨call, found, noted⟩ := Option.bind_eq_some_iff.mp noted
      obtain ⟨held, _, same⟩ := Option.map_eq_some_iff.mp noted
      cases same
      exact List.mem_map_of_mem (List.mem_of_getElem? found)
  | _ => cases noted

omit [DecidableEq Wsi] in
private theorem advances_payloads {state next : State Wsi Payload} {number : Nat}
    {call : Call Wsi Payload}
    (found : state.calls[number]? = some call) (taken : Advances state number call next) :
    ∀ payload ∈ next.calls.map Call.payload, payload ∈ state.calls.map Call.payload := by
  have moved : ∀ stage, (setStage state.calls number stage).map Call.payload =
      state.calls.map Call.payload := fun stage => modify_map state.calls number fun _ => rfl
  intro payload member
  cases taken with
  | returnsAtOnce _ _ | completes _ _ => rwa [runBlock_payload] at member
  | nests wsi connection rest mutations _ _ =>
      rw [List.map_append, moved] at member
      rcases List.mem_append.mp member with earlier | nested
      · exact earlier
      · cases List.mem_singleton.mp nested
        exact List.mem_map.mpr ⟨call, List.mem_of_getElem? found, rfl⟩
  | yields wsi rest _ =>
      rw [modify_map] at member
      · exact member
      · exact fun _ => rfl
  | _ => rwa [moved] at member

private theorem step_payloads {state next : State Wsi Payload} {label : Label Wsi Payload}
    (taken : step state label = some next) :
    ∀ payload ∈ next.calls.map Call.payload,
      payload ∈ state.calls.map Call.payload ∨ label.payload = some payload := by
  intro payload member
  cases label with
  | established wsi =>
      simp only [step, Option.ite_none_right_eq_some, Option.some.injEq] at taken
      obtain ⟨_, rfl⟩ := taken
      exact .inl member
  | closed wsi =>
      simp only [step, Option.ite_none_left_eq_some] at taken
      obtain ⟨present, taken⟩ := taken
      obtain ⟨outcome, _, rfl⟩ := Option.map_eq_some_iff.mp taken
      rw [afterOutcome, settleAll_payload] at member
      exact .inl member
  | writable wsi =>
      simp only [step, Option.ite_none_left_eq_some] at taken
      obtain ⟨present, taken⟩ := taken
      obtain ⟨outcome, _, rfl⟩ := Option.map_eq_some_iff.mp taken
      rw [afterOutcome, settleAll_payload] at member
      exact .inl member
  | cancelAllWrites =>
      obtain ⟨outcome, _, rfl⟩ := Option.map_eq_some_iff.mp taken
      rw [afterOutcome, settleAll_payload] at member
      exact .inl member
  | writeString new hasBlock | writeData new hasBlock | writeDatas new hasBlock =>
      cases taken
      rw [List.map_append] at member
      rcases List.mem_append.mp member with earlier | added
      · exact .inl earlier
      · cases List.mem_singleton.mp added
        exact .inr rfl
  | advance number =>
      obtain ⟨call, found, taken⟩ := Option.bind_eq_some_iff.mp taken
      exact .inl (advances_payloads found (advance_cases taken) payload member)

theorem step_carries {state next : State Wsi Payload} {label : Label Wsi Payload}
    (registered : Registered state) (taken : step state label = some next) {payload : Payload}
    (carries : Carries next payload) : Carries state payload ∨ label.payload = some payload := by
  have serves := step_serves registered taken
  have fromEntries : ∀ entries : List (Entry Payload × Wsi), entries ⊆ state.queue.entries →
      payload ∈ entries.map (fun entry => entry.1.payload) → Carries state payload :=
    fun entries subset member => .inr (.inl (List.map_subset _ subset member))
  rcases carries with inCalls | inEntries | inSent
  · exact (step_payloads taken payload inCalls).imp .inl id
  · left
    cases serves with
    | closed wsi entries _ _ _ =>
        rw [entries] at inEntries
        exact fromEntries _ (fun _ member => (KeyedQueue.mem_others.mp member).1) inEntries
    | writable wsi connection _ entries _ _ _ =>
        rw [entries] at inEntries
        exact fromEntries _ (KeyedQueue.withoutOldest_subset _ _) inEntries
    | cancelAllWrites entries _ _ _ =>
        rw [entries] at inEntries
        cases inEntries
    | enqueues number wsi entry noted entries _ _ _ =>
        rw [entries, List.map_append] at inEntries
        rcases List.mem_append.mp inEntries with earlier | added
        · exact .inr (.inl earlier)
        · cases List.mem_singleton.mp added
          exact .inl (enqueued_payload noted)
    | established _ _ entries _ _ _ | still _ entries _ _ _ =>
        rw [entries] at inEntries
        exact .inr (.inl inEntries)
  · left
    cases serves with
    | writable wsi connection _ _ _ _ sent =>
        rw [sent, List.map_append] at inSent
        rcases List.mem_append.mp inSent with earlier | written
        · exact .inr (.inr earlier)
        · obtain ⟨delivery, inWritten, same⟩ := List.mem_map.mp written
          obtain ⟨entry, found, rfl⟩ := Option.map_eq_some_iff.mp (Option.mem_toList.mp inWritten)
          exact .inr (.inl (List.mem_map.mpr ⟨entry, List.mem_of_find?_eq_some found, same⟩))
    | established _ _ _ _ _ sent | closed _ _ _ _ sent | cancelAllWrites _ _ _ sent
    | enqueues _ _ _ _ _ _ _ sent | still _ _ _ _ sent =>
        rw [sent] at inSent
        exact .inr (.inr inSent)

omit [DecidableEq Wsi] in
theorem not_carries_initial (payload : Payload) :
    ¬Carries (initial : State Wsi Payload) payload := by
  simp [Carries, initial, WriteQueue.init, WriteQueue.entries]

end Broadcast
end WebSocketServer
end JSCameraKit

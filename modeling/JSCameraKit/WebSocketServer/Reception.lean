import JSCameraKit.Library.Machine
import JSCameraKit.Libwebsockets.Messages

set_option autoImplicit false

/-! From the sockets to `onMessageStringBlock` and `onMessageDataBlock`. Packets of the
clients arrive in any order and cut their streams anywhere; `callback_websockets` passes each
`LWS_CALLBACK_RECEIVE` on as if it were a message. -/

namespace JSCameraKit
namespace WebSocketServer
namespace Reception

open Chunks (cut)
open Libwebsockets

/-- A call of one of the two blocks. -/
inductive Call
  | onMessageStringBlock (string : Option String)
  | onMessageDataBlock (data : List UInt8)
  deriving DecidableEq

/-- Which of the two blocks are set. -/
structure Blocks where
  onMessageStringBlock : Bool
  onMessageDataBlock : Bool

/-- `initWithData:encoding:` for UTF-8, which is nil for data that is none. -/
def initWithData (data : List UInt8) : Option String :=
  String.fromUTF8? ⟨data.toArray⟩

/-- `onSocket:data:`. -/
def onSocketData (blocks : Blocks) (frameIsBinary : Bool) (data : List UInt8) : List Call :=
  if frameIsBinary then
    if blocks.onMessageDataBlock then [.onMessageDataBlock data] else []
  else if blocks.onMessageStringBlock then [.onMessageStringBlock (initWithData data)]
  else []

/-- `callback_websockets`, for the reasons that come with data. -/
def callbackWebsockets (blocks : Blocks) (callback : Callback) : List Call :=
  match callback.reason with
  | .receive => onSocketData blocks callback.frameIsBinary callback.data
  | .receivePong | .wsPeerInitiatedClose => []

/-- The `rx_buffer_size` of the protocol. -/
def rxBufferSize : Nat :=
  1024 * 1024

/-- A connection of the server; one that is made later is another one. -/
inductive Connection
  | absent
  | established (wsi : Wsi)
  | closed

structure State (Client : Type) where
  connections : Client → Connection
  /-- The bytes that have arrived of each client. -/
  arrived : Client → List UInt8
  /-- The calls so far: the client, how many of its bytes were taken, and the call. -/
  calls : List (Client × Nat × Call)

inductive Label (Client : Type)
  | established (client : Client)
  | packet (client : Client) (buffer : List UInt8)
  /-- The transmitting half works on the connection; it may send a pending pong. -/
  | transmit (client : Client) (truncLen : Nat) (pongSent : Bool)
  | closed (client : Client)

variable {Client : Type} [DecidableEq Client]

/-- The calls that a packet leads to. -/
def callsAt (blocks : Blocks) (callbacks : List (Nat × Callback)) : List (Nat × Call) :=
  callbacks.flatMap fun entry => (callbackWebsockets blocks entry.2).map (Prod.mk entry.1)

def afterPacket : Option Wsi → Connection
  | some wsi => .established wsi
  | none => .closed

/-- A packet of a connection is read from its socket. -/
def receive (blocks : Blocks) (state : State Client) (client : Client) (wsi : Wsi)
    (buffer : List UInt8) : State Client :=
  { connections :=
      Function.update state.connections client
        (afterPacket
          (lwsInterpretIncomingPacket rxBufferSize (state.arrived client).length wsi buffer).2)
    arrived := Function.update state.arrived client (state.arrived client ++ buffer)
    calls :=
      state.calls ++
        (callsAt blocks
          (lwsInterpretIncomingPacket rxBufferSize (state.arrived client).length wsi
            buffer).1).map (Prod.mk client) }

def step (blocks : Blocks) (state : State Client) : Label Client → Option (State Client)
  | .established client =>
      match state.connections client with
      | .absent =>
          some
            { state with
              connections := Function.update state.connections client (.established .fresh) }
      | _ => none
  | .packet client buffer =>
      match state.connections client with
      | .established wsi => some (receive blocks state client wsi buffer)
      | _ => none
  | .transmit client truncLen pongSent =>
      match state.connections client with
      | .established wsi =>
          some
            { state with
              connections :=
                Function.update state.connections client
                  (.established
                    (wsi.transmitted truncLen wsi.payloadIsClose
                      (wsi.pingPendingFlag && !pongSent) wsi.pingPayload)) }
      | _ => none
  | .closed client =>
      match state.connections client with
      | .established _ =>
          some { state with connections := Function.update state.connections client .closed }
      | _ => none

def init : State Client :=
  { connections := fun _ => .absent
    arrived := fun _ => []
    calls := [] }

def machine (Client : Type) [DecidableEq Client] (blocks : Blocks) :
    Machine (State Client) (Label Client) :=
  { initial := fun state => state = init
    step := step blocks }

def State.callsOf (state : State Client) (client : Client) : List (Nat × Call) :=
  state.calls.filterMap fun entry => if entry.1 = client then some entry.2 else none

/-- The calls made while the server took the bytes of a client from one position to another. -/
def State.callsDuring (state : State Client) (client : Client) (first last : Nat) : List Call :=
  ((state.callsOf client).filter fun entry => first < entry.1 ∧ entry.1 ≤ last).map Prod.snd

variable {blocks : Blocks} {state : State Client}

/-! ### One connection among the others -/

private theorem callsOf_receive (client other : Client) (wsi : Wsi) (buffer : List UInt8) :
    (receive blocks state client wsi buffer).callsOf other =
      state.callsOf other ++
        if client = other then
          callsAt blocks
            (lwsInterpretIncomingPacket rxBufferSize (state.arrived client).length wsi buffer).1
        else [] := by
  rw [State.callsOf, receive, List.filterMap_append, List.filterMap_map]
  congr 1
  by_cases same : client = other
  · rw [if_pos same]
    simp [same]
  · rw [if_neg same]
    simp [same]

private theorem callsAt_append (callbacks others : List (Nat × Callback)) :
    callsAt blocks (callbacks ++ others) = callsAt blocks callbacks ++ callsAt blocks others :=
  List.flatMap_append

private theorem map_snd_callsAt (callbacks : List (Nat × Callback)) :
    (callsAt blocks callbacks).map Prod.snd =
      (callbacks.map Prod.snd).flatMap (callbackWebsockets blocks) := by
  induction callbacks with
  | nil => rfl
  | cons entry callbacks ih =>
      rw [List.map_cons, List.flatMap_cons, ← ih]
      simp [callsAt, Function.comp_def]

private theorem callsAt_positions {callbacks : List (Nat × Callback)} (good : Nat → Prop)
    (all : ∀ entry ∈ callbacks, good entry.1) :
    ∀ entry ∈ callsAt blocks callbacks, good entry.1 := by
  intro entry listed
  obtain ⟨callback, member, made⟩ := List.mem_flatMap.mp listed
  obtain ⟨call, _, stamped⟩ := List.mem_map.mp made
  rw [← stamped]
  exact all callback member

/-- A log in two parts: the calls for bytes that were read to their end, and those for the
bytes behind them. -/
structure Logged (blocks : Blocks) (log : List (Nat × Call)) (length : Nat)
    (callbacks : List Callback) (now later : List (Nat × Call)) : Prop where
  parts : log = now ++ later
  early : ∀ entry ∈ now, entry.1 ≤ length
  late : ∀ entry ∈ later, length < entry.1
  made : now.map Prod.snd = callbacks.flatMap (callbackWebsockets blocks)

/-- The state of a client and its calls are those of its own bytes. -/
structure Follows (blocks : Blocks) (state : State Client) (client : Client) : Prop where
  absent : state.connections client = .absent →
    state.arrived client = [] ∧ state.callsOf client = []
  logged : ∀ before after callbacks mid, state.arrived client = before ++ after →
    Reads rxBufferSize .fresh before callbacks mid →
      ∃ now later, Logged blocks (state.callsOf client) before.length callbacks now later ∧
        (after = [] → later = [])
  like : ∀ wsi callbacks mid, state.connections client = .established wsi →
    Reads rxBufferSize .fresh (state.arrived client) callbacks mid → wsi.Like mid

private theorem follows_init (client : Client) : Follows blocks (init : State Client) client where
  absent := fun _ => ⟨rfl, rfl⟩
  logged := by
    intro before after callbacks mid arrived reads
    have empty := List.append_eq_nil_iff.mp arrived.symm
    rw [empty.1] at reads
    cases reads
    exact ⟨[], [],
      { parts := rfl
        early := fun _ listed => absurd listed List.not_mem_nil
        late := fun _ listed => absurd listed List.not_mem_nil
        made := rfl }, fun _ => rfl⟩
  like := fun _ _ _ connected => Connection.noConfusion connected

/-- A step that leaves the bytes and the calls of a client may change its connection. -/
theorem Follows.of_same {next : State Client} {client : Client}
    (follows : Follows blocks state client)
    (arrived : next.arrived client = state.arrived client)
    (calls : next.callsOf client = state.callsOf client)
    (absent : next.connections client = .absent → state.connections client = .absent)
    (like : ∀ wsi callbacks mid, next.connections client = .established wsi →
      Reads rxBufferSize .fresh (state.arrived client) callbacks mid → wsi.Like mid) :
    Follows blocks next client where
  absent := by
    intro gone
    rw [arrived, calls]
    exact follows.absent (absent gone)
  logged := by
    rw [arrived, calls]
    exact follows.logged
  like := by
    rw [arrived]
    exact like

/-- The part of a packet that the parser reads to its end, behind all bytes before it. -/
theorem Follows.packet {client : Client} {wsi mid : Wsi} {callbacks : List Callback}
    (follows : Follows blocks state client)
    (connected : state.connections client = .established wsi) (bytes rest : List UInt8)
    (reads : Reads rxBufferSize .fresh (state.arrived client ++ bytes) callbacks mid) :
    ∃ entries next, next.Like mid ∧
      lwsRxSmEach rxBufferSize (state.arrived client).length wsi (bytes ++ rest) =
        (entries ++
            (lwsRxSmEach rxBufferSize ((state.arrived client).length + bytes.length) next
              rest).1,
          (lwsRxSmEach rxBufferSize ((state.arrived client).length + bytes.length) next
            rest).2) ∧
      (∀ entry ∈ state.callsOf client ++ callsAt blocks entries,
        entry.1 ≤ (state.arrived client).length + bytes.length) ∧
      (state.callsOf client ++ callsAt blocks entries).map Prod.snd =
        callbacks.flatMap (callbackWebsockets blocks) := by
  obtain ⟨before, early, late, readsEarly, readsLate, told⟩ := reads.split
  obtain ⟨now, later, logged, complete⟩ :=
    follows.logged _ [] early before (List.append_nil _).symm readsEarly
  have all : state.callsOf client = now := by
    rw [logged.parts, complete rfl, List.append_nil]
  obtain ⟨next, readsAgain, like⟩ :=
    readsLate.agrees (follows.like wsi early before connected readsEarly)
  obtain ⟨entries, callbacksLate, positions, parsed⟩ :=
    readsAgain.lwsRxSmEach (state.arrived client).length rest
  refine ⟨entries, next, like, parsed, ?_, ?_⟩
  · intro entry listed
    cases List.mem_append.mp listed with
    | inl old =>
        have bound := logged.early entry (all ▸ old)
        omega
    | inr new =>
        exact callsAt_positions (fun position => position ≤ _)
          (fun entry member => (positions entry member).2) entry new
  · rw [List.map_append, map_snd_callsAt, callbacksLate, all, logged.made, told,
      List.flatMap_append]

private theorem arrived_receive (client : Client) (wsi : Wsi) (buffer : List UInt8) :
    (receive blocks state client wsi buffer).arrived client =
      state.arrived client ++ buffer := by
  rw [receive]
  exact Function.update_self client _ _

private theorem connections_receive (client : Client) (wsi : Wsi) (buffer : List UInt8) :
    (receive blocks state client wsi buffer).connections client =
      afterPacket
        (lwsRxSmEach rxBufferSize (state.arrived client).length wsi buffer).2 := by
  rw [receive, lwsInterpretIncomingPacket_eq]
  exact Function.update_self client _ _

theorem Follows.receive {client : Client} {wsi : Wsi} (follows : Follows blocks state client)
    (connected : state.connections client = .established wsi) (buffer : List UInt8) :
    Follows blocks (receive blocks state client wsi buffer) client where
  absent := by
    rw [connections_receive]
    cases (lwsRxSmEach rxBufferSize (state.arrived client).length wsi buffer).2 with
    | none => exact Connection.noConfusion
    | some _ => exact Connection.noConfusion
  logged := by
    intro before after callbacks mid arrived reads
    rw [arrived_receive] at arrived
    rw [callsOf_receive, if_pos rfl, lwsInterpretIncomingPacket_eq]
    cases List.append_eq_append_iff.mp arrived with
    | inl within =>
        -- the packet brings the last of the bytes that were read
        obtain ⟨bytes, whole, parts⟩ := within
        rw [whole] at reads
        obtain ⟨entries, next, _, parsed, positions, made⟩ :=
          follows.packet connected bytes after reads
        rw [parts, parsed, callsAt_append, ← List.append_assoc, whole, List.length_append]
        refine ⟨_, _,
          { parts := rfl
            early := positions
            late := callsAt_positions (fun position => _ < position) fun entry listed =>
              (lwsRxSmEach_positions _ next after entry listed).1
            made := made }, ?_⟩
        intro last
        rw [last]
        rfl
    | inr behind =>
        -- the packet is behind the bytes that were read
        obtain ⟨bytes, whole, parts⟩ := behind
        obtain ⟨now, later, logged, complete⟩ :=
          follows.logged before bytes callbacks mid whole reads
        refine ⟨now, later ++ callsAt blocks
            (lwsRxSmEach rxBufferSize (state.arrived client).length wsi buffer).1,
          { parts := by rw [logged.parts, List.append_assoc]
            early := logged.early
            late := ?_
            made := logged.made }, ?_⟩
        · intro entry listed
          cases List.mem_append.mp listed with
          | inl old => exact logged.late entry old
          | inr new =>
              have bound := callsAt_positions (fun position => _ < position) (fun entry member =>
                (lwsRxSmEach_positions _ wsi buffer entry member).1) entry new
              rw [whole, List.length_append] at bound
              omega
        · intro last
          have none := List.append_eq_nil_iff.mp (parts ▸ last)
          rw [complete none.1, none.2]
          rfl
  like := by
    intro after callbacks mid established reads
    rw [arrived_receive] at reads
    obtain ⟨entries, next, like, parsed, _, _⟩ := follows.packet connected buffer [] reads
    rw [connections_receive] at established
    rw [List.append_nil] at parsed
    rw [parsed, lwsRxSmEach] at established
    cases established
    exact like

theorem Follows.receive_other {client other : Client} (wsi : Wsi)
    (follows : Follows blocks state other) (apart : other ≠ client) (buffer : List UInt8) :
    Follows blocks (Reception.receive blocks state client wsi buffer) other := by
  have connections : (Reception.receive blocks state client wsi buffer).connections other =
      state.connections other := Function.update_of_ne apart _ _
  have arrived : (Reception.receive blocks state client wsi buffer).arrived other =
      state.arrived other := Function.update_of_ne apart _ _
  have calls : (Reception.receive blocks state client wsi buffer).callsOf other =
      state.callsOf other := by
    rw [callsOf_receive, if_neg fun same => apart same.symm, List.append_nil]
  apply follows.of_same arrived calls
  · intro gone
    rw [← connections]
    exact gone
  · intro after callbacks mid established
    rw [connections] at established
    exact follows.like after callbacks mid established

theorem Follows.connect {client : Client} (connection : Connection)
    (present : connection ≠ .absent) (all : ∀ other, Follows blocks state other)
    (like : ∀ wsi callbacks mid, connection = .established wsi →
      Reads rxBufferSize .fresh (state.arrived client) callbacks mid → wsi.Like mid) :
    ∀ other, Follows blocks
      { state with connections := Function.update state.connections client connection }
        other := by
  intro other
  by_cases same : other = client
  · have changed : Function.update state.connections client connection other = connection := by
      rw [same]
      exact Function.update_self client connection state.connections
    refine (all other).of_same rfl rfl ?_ ?_
    · intro gone
      exact absurd (changed.symm.trans gone) present
    · intro wsi callbacks mid established
      rw [same]
      exact like wsi callbacks mid (changed.symm.trans established)
  · have kept := Function.update_of_ne same connection state.connections
    refine (all other).of_same rfl rfl ?_ ?_
    · intro gone
      exact kept.symm.trans gone
    · intro wsi callbacks mid established
      exact (all other).like wsi callbacks mid (kept.symm.trans established)

private theorem follows_step {label : Label Client} {next : State Client}
    (all : ∀ client, Follows blocks state client) (taken : step blocks state label = some next) :
    ∀ client, Follows blocks next client := by
  cases label with
  | established client =>
      cases connection : state.connections client <;> rw [step, connection] at taken <;> cases taken
      apply Follows.connect _ Connection.noConfusion all
      intro wsi callbacks mid established reads
      rw [((all client).absent connection).1] at reads
      cases established
      cases reads
      rfl
  | packet client buffer =>
      cases connection : state.connections client <;> rw [step, connection] at taken <;> cases taken
      intro other
      by_cases same : other = client
      · rw [same]
        exact (all client).receive connection buffer
      · exact (all other).receive_other _ same buffer
  | transmit client truncLen pongSent =>
      cases connection : state.connections client <;> rw [step, connection] at taken <;> cases taken
      apply Follows.connect _ Connection.noConfusion all
      intro after callbacks mid established reads
      have like := (all client).like _ callbacks mid connection reads
      cases established
      exact like
  | closed client =>
      cases connection : state.connections client <;> rw [step, connection] at taken <;> cases taken
      apply Follows.connect _ Connection.noConfusion all
      intro after callbacks mid established
      cases established

theorem follows_of_reachable (reached : (machine Client blocks).Reachable state) :
    ∀ client, Follows blocks state client := by
  refine Machine.Reachable.invariant (fun state => ∀ client, Follows blocks state client) ?_ ?_
    reached
  · intro state starts
    cases starts
    exact follows_init
  · intro state label next _ all taken
    exact follows_step all taken

end Reception
end WebSocketServer
end JSCameraKit

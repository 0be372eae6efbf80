import JSCameraKit.Library.Machine
import JSCameraKit.WebSocketServer.WriteQueue

set_option autoImplicit false

/-! The write calls of `WebSocketServer` as threads. A call tests the number of
clients, walks over `_clients` outside the mutex and enqueues one entry for each
client under it; libwebsockets opens and closes connections meanwhile, and may
reuse the pointer of a closed one. A step that raises an exception has no successor. -/

namespace JSCameraKit
namespace WebSocketServer
namespace Broadcast

open KeyedQueue (ofKey others oldest withoutOldest)

/-- The variant of a call, and whether its caller passed a completion block.
`writeData:toSocket:` of a call of `writeData:` is a broadcast of its own. -/
inductive Kind
  | string (hasBlock : Bool)
  | data (hasBlock : Bool)
  | datas (hasBlock : Bool)
  | toSocket (parent : Nat)
  deriving DecidableEq

/-- The next statement of a call. -/
inductive Stage (Wsi : Type)
  | created
  | starting
  /-- `eachClient` with the clients it has not looked at yet, and the mutations of
  `_clients` when it began. -/
  | enumerating (rest : List Wsi) (mutations : Nat)
  /-- A client is yielded; its connection is noted, the code does not know it. -/
  | yielded (wsi : Wsi) (connection : Option Nat) (rest : List Wsi) (mutations : Nat)
  | inside (nested : Nat) (rest : List Wsi) (mutations : Nat)
  | waiting
  | finished

/-- `entered` and `left` count the uses of the dispatch group, `ran` the runs of the
completion block and `cancelled` the entries settled with nil. -/
structure Call (Wsi Payload : Type) where
  kind : Kind
  payload : Payload
  stage : Stage Wsi
  entered : Nat
  left : Nat
  ran : Nat
  cancelled : Nat

/-- A block enqueued by a call, and the connection that the client it is for had. -/
structure Entry (Payload : Type) where
  call : Nat
  payload : Payload
  connection : Option Nat

structure State (Wsi Payload : Type) where
  queue : WriteQueue Wsi (Entry Payload)
  /-- The mutations of `_clients`, which a walk over it checks. -/
  mutations : Nat
  connections : Wsi → Option Nat
  established : Nat
  calls : List (Call Wsi Payload)
  /-- The entries written, in order, with the connection each was written to. -/
  sent : List (Entry Payload × Option Nat)

inductive Label (Wsi Payload : Type)
  | established (wsi : Wsi)
  | closed (wsi : Wsi)
  | writable (wsi : Wsi)
  | cancelAllWrites
  | writeString (payload : Payload) (hasBlock : Bool)
  | writeData (payload : Payload) (hasBlock : Bool)
  | writeDatas (payload : Payload) (hasBlock : Bool)
  | advance (call : Nat)

variable {Wsi Payload : Type}

def newCall (kind : Kind) (payload : Payload) : Call Wsi Payload :=
  { kind := kind
    payload := payload
    stage := .created
    entered := 0
    left := 0
    ran := 0
    cancelled := 0 }

/-- The block that a call enqueues for a client, called with a socket or with nil. -/
def Call.settle (call : Call Wsi Payload) (wsi : Option Wsi) : Call Wsi Payload :=
  match call.kind, wsi with
  | .string _, some _ => { call with left := call.left + 1 }
  | .string _, none => { call with ran := call.ran + 1, cancelled := call.cancelled + 1 }
  | _, some _ => { call with left := call.left + 1 }
  | _, none => { call with left := call.left + 1, cancelled := call.cancelled + 1 }

def settleAll (calls : List (Call Wsi Payload))
    (invoked : List (Invocation Wsi (Entry Payload))) : List (Call Wsi Payload) :=
  invoked.foldl
    (fun calls invocation => calls.modify invocation.1.call fun call => call.settle invocation.2)
    calls

section Fields

variable {Field : Type} {field : Call Wsi Payload → Field}

theorem modify_map (calls : List (Call Wsi Payload)) (number : Nat)
    {change : Call Wsi Payload → Call Wsi Payload}
    (same : ∀ call, field (change call) = field call) :
    (calls.modify number change).map field = calls.map field := by
  apply List.ext_getElem?
  intro index
  simp only [List.getElem?_map, List.getElem?_modify]
  cases calls[index]? with
  | none => rfl
  | some call =>
      simp only [Option.map_eq_map, Option.map_some]
      split
      · rw [same]
      · rfl

theorem settleAll_map (same : ∀ call wsi, field (Call.settle call wsi) = field call)
    (calls : List (Call Wsi Payload)) (invoked : List (Invocation Wsi (Entry Payload))) :
    (settleAll calls invoked).map field = calls.map field := by
  induction invoked generalizing calls with
  | nil => rfl
  | cons invocation rest ih =>
      rw [settleAll, List.foldl_cons]
      exact (ih _).trans (modify_map calls _ fun call => same call _)

end Fields

/-- The completion block of a call; that of a nested one leaves the group of its parent. -/
def runBlock (calls : List (Call Wsi Payload)) (number : Nat) : List (Call Wsi Payload) :=
  let ran := calls.modify number fun call => { call with ran := call.ran + 1, stage := .finished }
  match (calls[number]?).map Call.kind with
  | some (.toSocket parent) => ran.modify parent fun call => { call with left := call.left + 1 }
  | _ => ran

def setStage (calls : List (Call Wsi Payload)) (number : Nat) (stage : Stage Wsi) :
    List (Call Wsi Payload) :=
  calls.modify number fun call => { call with stage := stage }

/-- A walk goes on once the nested call has returned from its own. -/
def Stage.returned : Stage Wsi → Bool
  | .waiting | .finished => true
  | _ => false

/-- One statement of a call. -/
def advance (state : State Wsi Payload) (number : Nat) (call : Call Wsi Payload) :
    Option (State Wsi Payload) :=
  match call.stage with
  | .created =>
      if state.queue.clients.length = 0 then
        some { state with calls := runBlock state.calls number }
      else some { state with calls := setStage state.calls number .starting }
  | .starting =>
      some
        { state with
          calls := setStage state.calls number (.enumerating state.queue.clients state.mutations) }
  | .enumerating [] _ => some { state with calls := setStage state.calls number .waiting }
  -- a walk over a collection that was mutated raises an exception
  | .enumerating (wsi :: rest) mutations =>
      if mutations = state.mutations then
        some
          { state with
            calls := state.calls.modify number fun call =>
              { call with
                entered := call.entered + 1
                stage := .yielded wsi (state.connections wsi) rest mutations } }
      else none
  | .yielded wsi connection rest mutations =>
      match call.kind with
      | .data _ =>
          some
            { state with
              calls := setStage state.calls number (.inside state.calls.length rest mutations) ++
                [newCall (.toSocket number) call.payload] }
      | _ =>
          some
            { state with
              queue := state.queue.waitForWriteable
                { call := number, payload := call.payload, connection := connection } wsi
              calls := setStage state.calls number (.enumerating rest mutations) }
  | .inside nested rest mutations =>
      if ((state.calls[nested]?).map fun call => call.stage.returned) = some true then
        some { state with calls := setStage state.calls number (.enumerating rest mutations) }
      else none
  | .waiting =>
      if call.left = call.entered then some { state with calls := runBlock state.calls number }
      else none
  | .finished => none

/-- `writeData:` enqueues nothing itself. -/
def Kind.enqueues : Kind → Bool
  | .data _ => false
  | _ => true

/-- What one statement of a call can do. -/
inductive Advances (state : State Wsi Payload) (number : Nat) (call : Call Wsi Payload) :
    State Wsi Payload → Prop
  | returnsAtOnce (stage : call.stage = .created) (noClient : state.queue.clients = []) :
      Advances state number call { state with calls := runBlock state.calls number }
  | starts (stage : call.stage = .created) :
      Advances state number call { state with calls := setStage state.calls number .starting }
  | begins (stage : call.stage = .starting) :
      Advances state number call
        { state with
          calls :=
            setStage state.calls number (.enumerating state.queue.clients state.mutations) }
  | ends (mutations : Nat) (stage : call.stage = .enumerating [] mutations) :
      Advances state number call { state with calls := setStage state.calls number .waiting }
  | yields (wsi : Wsi) (rest : List Wsi)
      (stage : call.stage = .enumerating (wsi :: rest) state.mutations) :
      Advances state number call
        { state with
          calls := state.calls.modify number fun call =>
            { call with
              entered := call.entered + 1
              stage := .yielded wsi (state.connections wsi) rest state.mutations } }
  | enqueues (wsi : Wsi) (connection : Option Nat) (rest : List Wsi) (mutations : Nat)
      (stage : call.stage = .yielded wsi connection rest mutations)
      (enqueues : call.kind.enqueues = true) :
      Advances state number call
        { state with
          queue := state.queue.waitForWriteable
            { call := number, payload := call.payload, connection := connection } wsi
          calls := setStage state.calls number (.enumerating rest mutations) }
  | nests (wsi : Wsi) (connection : Option Nat) (rest : List Wsi) (mutations : Nat)
      (stage : call.stage = .yielded wsi connection rest mutations)
      (nests : call.kind.enqueues = false) :
      Advances state number call
        { state with
          calls := setStage state.calls number (.inside state.calls.length rest mutations) ++
            [newCall (.toSocket number) call.payload] }
  | resumes (nested : Nat) (rest : List Wsi) (mutations : Nat) (inner : Call Wsi Payload)
      (stage : call.stage = .inside nested rest mutations)
      (found : state.calls[nested]? = some inner) (returned : inner.stage.returned = true) :
      Advances state number call
        { state with calls := setStage state.calls number (.enumerating rest mutations) }
  | completes (stage : call.stage = .waiting) (balanced : call.left = call.entered) :
      Advances state number call { state with calls := runBlock state.calls number }

theorem advance_cases {state next : State Wsi Payload} {number : Nat} {call : Call Wsi Payload}
    (taken : advance state number call = some next) : Advances state number call next := by
  unfold advance at taken
  split at taken
  · rename_i stage
    split at taken
    · rename_i noClient
      cases taken
      exact .returnsAtOnce stage (List.length_eq_zero_iff.mp noClient)
    · cases taken
      exact .starts stage
  · rename_i stage
    cases taken
    exact .begins stage
  · rename_i mutations stage
    cases taken
    exact .ends mutations stage
  · rename_i wsi rest mutations stage
    split at taken
    · rename_i unchanged
      subst unchanged
      cases taken
      exact .yields wsi rest stage
    · cases taken
  · rename_i wsi connection rest mutations stage
    split at taken
    · rename_i hasBlock kind
      cases taken
      exact .nests wsi connection rest mutations stage (by simp [Kind.enqueues, kind])
    · rename_i other
      cases taken
      apply Advances.enqueues wsi connection rest mutations stage
      unfold Kind.enqueues
      split
      · rename_i hasBlock kind
        exact absurd kind (other hasBlock)
      · rfl
  · rename_i nested rest mutations stage
    split at taken
    · rename_i returned
      obtain ⟨inner, found, returned⟩ := Option.map_eq_some_iff.mp returned
      cases taken
      exact .resumes nested rest mutations inner stage found returned
    · cases taken
  · rename_i stage
    split at taken
    · rename_i balanced
      cases taken
      exact .completes stage balanced
    · cases taken
  · cases taken

/-- The state once an operation on the queue has called some blocks. -/
def afterOutcome (state : State Wsi Payload) (outcome : Outcome Wsi (Entry Payload)) :
    State Wsi Payload :=
  { state with queue := outcome.1, calls := settleAll state.calls outcome.2 }

variable [DecidableEq Wsi]

/-- ESTABLISHED and CLOSED come once for each connection, WRITEABLE in between. -/
def step (state : State Wsi Payload) : Label Wsi Payload → Option (State Wsi Payload)
  | .established wsi =>
      if state.connections wsi = none then
        some
          { state with
            queue := state.queue.onClientAdded wsi
            mutations := state.mutations + 1
            connections := fun other =>
              if other = wsi then some state.established else state.connections other
            established := state.established + 1 }
      else none
  | .closed wsi =>
      if state.connections wsi = none then none
      else
        (state.queue.onConnectionClose wsi).map fun outcome =>
          { afterOutcome state outcome with
            mutations := state.mutations + 1
            connections := fun other => if other = wsi then none else state.connections other }
  | .writable wsi =>
      if state.connections wsi = none then none
      else
        (state.queue.onClientWritable wsi).map fun outcome =>
          { afterOutcome state outcome with
            sent := state.sent ++
              outcome.2.map fun invocation => (invocation.1, state.connections wsi) }
  | .cancelAllWrites => state.queue.cancelAllWrites.map (afterOutcome state)
  | .writeString payload hasBlock =>
      some { state with calls := state.calls ++ [newCall (.string hasBlock) payload] }
  | .writeData payload hasBlock =>
      some { state with calls := state.calls ++ [newCall (.data hasBlock) payload] }
  | .writeDatas payload hasBlock =>
      some { state with calls := state.calls ++ [newCall (.datas hasBlock) payload] }
  | .advance number => (state.calls[number]?).bind (advance state number)

def initial : State Wsi Payload :=
  { queue := WriteQueue.init
    mutations := 0
    connections := fun _ => none
    established := 0
    calls := []
    sent := [] }

variable (Wsi Payload) in
def machine : Machine (State Wsi Payload) (Label Wsi Payload) :=
  { initial := fun state => state = initial
    step := step }

end Broadcast
end WebSocketServer
end JSCameraKit

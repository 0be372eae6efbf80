import JSCameraKit.Libwebsockets.Frames

set_option autoImplicit false

/-! Messages as a peer may send them: in any number of frames, each with a key or without,
with pings and pongs before each of them. Nothing in the parser joins them: the user callback
receives the payload of each frame, cut at the size of the buffer. -/

namespace JSCameraKit
namespace Libwebsockets

open Chunks (cut)

structure Control where
  pong : Bool
  key : Option (Fin 4 → UInt8)
  payload : List UInt8
  short : payload.length < 126

/-- One frame of a message, behind the control frames that are sent before it. -/
structure Fragment where
  controls : List Control
  key : Option (Fin 4 → UInt8)
  payload : List UInt8
  bounded : payload.length < 2 ^ 63

inductive Content
  | text (string : String)
  | binary (data : List UInt8)

def Content.payload : Content → List UInt8
  | .text string => string.toByteArray.data.toList
  | .binary data => data

def Content.isBinary : Content → Bool
  | .text _ => false
  | .binary _ => true

/-- A message and how its payload is split. -/
structure PeerMessage where
  content : Content
  first : Fragment
  rest : List Fragment
  split : first.payload ++ rest.flatMap Fragment.payload = content.payload

def PeerMessage.payloads (message : PeerMessage) : List (List UInt8) :=
  message.first.payload :: message.rest.map Fragment.payload

theorem PeerMessage.flatten_payloads (message : PeerMessage) :
    message.payloads.flatten = message.content.payload := by
  rw [← message.split, PeerMessage.payloads, List.flatten_cons, List.flatMap_def]

/-! ### On the wire -/

def Control.opcode (control : Control) : Opcode :=
  if control.pong then .pong else .ping

def Control.encode (control : Control) : List UInt8 :=
  encodeFrame control.opcode true control.key control.payload

def Fragment.encode (fragment : Fragment) (opcode : Opcode) (final : Bool) : List UInt8 :=
  fragment.controls.flatMap Control.encode ++
    encodeFrame opcode final fragment.key fragment.payload

def encodeContinuations : List Fragment → List UInt8
  | [] => []
  | fragment :: rest => fragment.encode .continuation rest.isEmpty ++ encodeContinuations rest

def Content.opcode : Content → Opcode
  | .text _ => .textFrame
  | .binary _ => .binaryFrame

def PeerMessage.encode (message : PeerMessage) : List UInt8 :=
  message.first.encode message.content.opcode message.rest.isEmpty ++
    encodeContinuations message.rest

/-! ### What the user callback receives -/

/-- The data that comes with `LWS_CALLBACK_RECEIVE`, and whether its frame is binary. -/
def received (callbacks : List Callback) : List (Bool × List UInt8) :=
  callbacks.filterMap fun callback =>
    if callback.reason = .receive then some (callback.frameIsBinary, callback.data) else none

theorem received_append (callbacks others : List Callback) :
    received (callbacks ++ others) = received callbacks ++ received others := by
  rw [received, List.filterMap_append]
  rfl

private theorem received_flatMap (spill : List UInt8 → List Callback) (chunks : List (List UInt8)) :
    received (chunks.flatMap spill) = chunks.flatMap fun chunk => received (spill chunk) := by
  induction chunks with
  | nil => rfl
  | cons chunk chunks ih =>
      rw [List.flatMap_cons, received_append, ih, List.flatMap_cons]

def Opcode.isData : Opcode → Bool
  | .textFrame | .binaryFrame | .continuation => true
  | _ => false

theorem Opcode.isControl_eq (opcode : Opcode) : opcode.isControl = !opcode.isData := by
  cases opcode <;> rfl

private theorem received_spilled_data {opcode : Opcode} (data : opcode.isData = true)
    (binary : Bool)
    (chunk : List UInt8) :
    received (spilled opcode binary chunk) = if chunk = [] then [] else [(binary, chunk)] := by
  have told : spilled opcode binary chunk =
      if chunk = [] then []
      else [{ reason := .receive, frameIsBinary := binary, data := chunk }] := by
    cases opcode with
    | textFrame => rfl
    | binaryFrame => rfl
    | continuation => rfl
    | close => cases data
    | ping => cases data
    | pong => cases data
  rw [told]
  split
  · rfl
  · rfl

private theorem received_spilled_control {opcode : Opcode} (control : opcode.isData = false)
    (binary : Bool) (chunk : List UInt8) : received (spilled opcode binary chunk) = [] := by
  cases opcode with
  | close => rfl
  | ping => rfl
  | pong => rfl
  | textFrame => cases control
  | binaryFrame => cases control
  | continuation => cases control

private theorem received_frame_control (rxBufferSize : Nat) {opcode : Opcode}
    (control : opcode.isData = false) (binary : Bool) (payload : List UInt8) :
    received (frameCallbacks rxBufferSize opcode binary payload) = [] := by
  rw [frameCallbacks]
  split
  · exact received_spilled_control control binary []
  · rw [received_flatMap, List.flatMap_eq_nil_iff]
    intro chunk _
    exact received_spilled_control control binary chunk

private theorem received_frame_data (rxBufferSize : Nat) {opcode : Opcode}
    (data : opcode.isData = true) (binary : Bool) (payload : List UInt8) :
    received (frameCallbacks rxBufferSize opcode binary payload) =
      (cut rxBufferSize [] payload).map (Prod.mk binary) := by
  rw [frameCallbacks]
  split
  · rename_i empty
    rw [received_spilled_data data, if_pos rfl, empty]
    rfl
  · rw [received_flatMap, List.map_eq_flatMap]
    apply List.flatMap_congr
    intro chunk listed
    rw [received_spilled_data data, if_neg (Chunks.ne_nil_of_mem_cut listed)]

/-! ### Messages read to their end -/

variable {rxBufferSize : Nat} {wsi : Wsi} {binary : Bool}

theorem Control.reads (control : Control) (positive : 0 < rxBufferSize) (idle : wsi.Idle binary) :
    ∃ callbacks next, Reads rxBufferSize wsi control.encode callbacks next ∧
      next.Idle binary ∧ received callbacks = [] := by
  have ignored : control.opcode.isData = false := by
    rw [Control.opcode]
    split <;> rfl
  have stays : control.opcode ≠ .close := by
    rw [Control.opcode]
    split <;> exact Opcode.noConfusion
  have kept : control.opcode.binaryAfter binary = binary := by
    rw [Control.opcode]
    split <;> rfl
  obtain ⟨next, reads, idleNext⟩ := reads_frame positive idle control.opcode true control.key
    control.payload stays (fun _ => control.short) (by have := control.short; omega)
  rw [kept] at reads idleNext
  exact ⟨_, next, reads, idleNext, received_frame_control rxBufferSize ignored binary _⟩

private theorem reads_controls (controls : List Control) (positive : 0 < rxBufferSize)
    (idle : wsi.Idle binary) :
    ∃ callbacks next, Reads rxBufferSize wsi (controls.flatMap Control.encode) callbacks next ∧
      next.Idle binary ∧ received callbacks = [] := by
  induction controls generalizing wsi with
  | nil => exact ⟨[], wsi, .nil wsi, idle, rfl⟩
  | cons control controls ih =>
      obtain ⟨callbacks, mid, reads, idleMid, silent⟩ := control.reads positive idle
      obtain ⟨others, next, readsRest, idleNext, silentRest⟩ := ih idleMid
      refine ⟨callbacks ++ others, next, reads.append readsRest, idleNext, ?_⟩
      rw [received_append, silent, silentRest]
      rfl

theorem Fragment.reads (fragment : Fragment) (opcode : Opcode) (data : opcode.isData = true)
    (final : Bool) (positive : 0 < rxBufferSize) (idle : wsi.Idle binary) :
    ∃ callbacks next, Reads rxBufferSize wsi (fragment.encode opcode final) callbacks next ∧
      next.Idle (opcode.binaryAfter binary) ∧
      received callbacks =
        (cut rxBufferSize [] fragment.payload).map (Prod.mk (opcode.binaryAfter binary)) := by
  have stays : opcode ≠ .close := by
    intro close
    rw [close] at data
    cases data
  have allowed : opcode.isControl = true → fragment.payload.length < 126 := by
    intro control
    rw [opcode.isControl_eq, data] at control
    cases control
  obtain ⟨controls, mid, first, idleMid, silent⟩ :=
    reads_controls fragment.controls positive idle
  obtain ⟨next, second, idleNext⟩ := reads_frame positive idleMid opcode final fragment.key
    fragment.payload stays allowed fragment.bounded
  refine ⟨_, next, first.append second, idleNext, ?_⟩
  rw [received_append, silent, received_frame_data rxBufferSize data]
  rfl

private theorem reads_continuations (fragments : List Fragment) (positive : 0 < rxBufferSize)
    (idle : wsi.Idle binary) :
    ∃ callbacks next, Reads rxBufferSize wsi (encodeContinuations fragments) callbacks next ∧
      next.Idle binary ∧
      received callbacks =
        ((fragments.map Fragment.payload).flatMap (cut rxBufferSize [])).map (Prod.mk binary) := by
  induction fragments generalizing wsi with
  | nil => exact ⟨[], wsi, .nil wsi, idle, rfl⟩
  | cons fragment fragments ih =>
      obtain ⟨callbacks, mid, first, idleMid, told⟩ :=
        fragment.reads .continuation rfl fragments.isEmpty positive idle
      obtain ⟨others, next, second, idleNext, toldRest⟩ := ih idleMid
      refine ⟨callbacks ++ others, next, first.append second, idleNext, ?_⟩
      rw [received_append, told, toldRest, List.map_cons, List.flatMap_cons, List.map_append]
      rfl

/-- The parser takes a whole message, and the user callback receives its frames one by one,
cut at the size of the buffer. -/
theorem PeerMessage.reads (message : PeerMessage) (positive : 0 < rxBufferSize)
    (idle : wsi.Idle binary) :
    ∃ callbacks next, Reads rxBufferSize wsi message.encode callbacks next ∧
      next.Idle message.content.isBinary ∧
      received callbacks =
        (message.payloads.flatMap (cut rxBufferSize [])).map
          (Prod.mk message.content.isBinary) := by
  have data : message.content.opcode.isData = true := by
    cases message.content <;> rfl
  have kind : message.content.opcode.binaryAfter binary = message.content.isBinary := by
    cases message.content <;> rfl
  obtain ⟨callbacks, mid, first, idleMid, told⟩ :=
    message.first.reads message.content.opcode data message.rest.isEmpty positive idle
  rw [kind] at idleMid told
  obtain ⟨others, next, second, idleNext, toldRest⟩ :=
    reads_continuations message.rest positive idleMid
  refine ⟨callbacks ++ others, next, first.append second, idleNext, ?_⟩
  rw [received_append, told, toldRest, PeerMessage.payloads, List.flatMap_cons, List.map_append]

theorem reads_messages (messages : List PeerMessage) (positive : 0 < rxBufferSize)
    (idle : wsi.Idle binary) :
    ∃ callbacks next binaryNext,
      Reads rxBufferSize wsi (messages.flatMap PeerMessage.encode) callbacks next ∧
        next.Idle binaryNext := by
  induction messages generalizing wsi binary with
  | nil => exact ⟨[], wsi, binary, .nil wsi, idle⟩
  | cons message messages ih =>
      obtain ⟨callbacks, mid, first, idleMid, _⟩ := message.reads positive idle
      obtain ⟨others, next, binaryNext, second, idleNext⟩ := ih idleMid
      exact ⟨callbacks ++ others, next, binaryNext, first.append second, idleNext⟩

end Libwebsockets
end JSCameraKit

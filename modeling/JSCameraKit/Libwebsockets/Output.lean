import JSCameraKit.Library.Machine
import JSCameraKit.Libwebsockets.Write

set_option autoImplicit false

/-! The sending half of a connection. The socket may take any part of what it is offered, and
what it leaves is stored in a block of the connection until it is writable again. A connection
is closed once its block is empty. No extension is negotiated and the connection is not an
HTTP/2 one; a change of the polled events succeeds. -/

namespace JSCameraKit
namespace Libwebsockets
namespace Output

/-- The values of `state` behind the handshake. -/
inductive State
  | established
  | awaitingCloseAck
  | returnedCloseAlready
  | flushingStoredSendBeforeClose
  | shutdown
  | deadSocket
  deriving DecidableEq

structure Frame where
  opcode : Opcode
  final : Bool
  payload : List UInt8
  deriving DecidableEq

def Frame.encode (frame : Frame) : List UInt8 :=
  encodeFrame frame.opcode frame.final none frame.payload

/-- Why a call of `lws_issue_raw` does not return a count. -/
inductive Failure
  /-- The call has other bytes than those stored: an assertion fails, then -1. -/
  | pendingTruncated
  /-- The copy does not fit the block. -/
  | outOfBlock
  | malloc
  | socket
  /-- The last stored bytes are sent: the caller is told to close now. -/
  | flushed
  deriving DecidableEq

structure Wsi where
  state : State
  socketIsPermanentlyUnusable : Bool
  truncAlloc : Option (List UInt8)
  truncAllocLen : Nat
  truncOffset : Nat
  truncLen : Nat
  insideFrame : Bool
  /-- `ping_payload_buf` behind its padding. -/
  pingPayloadBuf : List UInt8
  pingPayloadLen : Nat
  pingPendingFlag : Bool
  payloadIsClose : Bool
  closeInPingBufferLen : Nat
  sendCheckPing : Bool
  /-- `LWS_POLLOUT` among the polled events. -/
  pollout : Bool
  /-- The socket is shut down for sending. -/
  shutWr : Bool
  /-- The bytes that the socket has taken. -/
  sent : List UInt8
  /-- The frames that `lws_write` has accepted. -/
  frames : List Frame
  /-- What the calls of `lws_issue_raw` have come to. -/
  answers : List (Except Failure Nat)

def Wsi.fresh : Wsi :=
  { state := .established
    socketIsPermanentlyUnusable := false
    truncAlloc := none
    truncAllocLen := 0
    truncOffset := 0
    truncLen := 0
    insideFrame := false
    pingPayloadBuf := List.replicate 125 0
    pingPayloadLen := 0
    pingPendingFlag := false
    payloadIsClose := false
    closeInPingBufferLen := 0
    sendCheckPing := false
    pollout := false
    shutWr := false
    sent := []
    frames := []
    answers := [] }

/-- What `lws_ssl_capable_write` comes to while the socket is not shut down. -/
inductive Capable
  | took (count : Nat)
  | moreService
  | error
  deriving DecidableEq

/-- The socket and the allocator during one event. -/
structure Platform where
  write : Capable
  mallocs : Bool
  deriving DecidableEq

/-- The bytes given to `lws_issue_raw`: of the block from an index on, or of the caller. -/
inductive Buffer
  | stored (index length : Nat)
  | foreign (bytes : List UInt8)

def Buffer.bytes (wsi : Wsi) : Buffer → List UInt8
  | .stored index length => ((wsi.truncAlloc.getD []).drop index).take length
  | .foreign bytes => bytes

/-- The pointer is not into the block. -/
def Buffer.outside (wsi : Wsi) : Buffer → Bool
  | .stored index _ => wsi.truncLen + wsi.truncOffset < index
  | .foreign _ => true

/-- The stored bytes that are still to be sent. -/
def Wsi.pending (wsi : Wsi) : List UInt8 :=
  ((wsi.truncAlloc.getD []).drop wsi.truncOffset).take wsi.truncLen

def lwsCallbackOnWritable (wsi : Wsi) : Wsi :=
  if wsi.state = .shutdown then wsi
  else if wsi.socketIsPermanentlyUnusable then wsi
  else { wsi with pollout := true }

/-! ### `lws_issue_raw` -/

/-- The remainder is copied to the start of the block. -/
def copyRemainder (wsi : Wsi) (rest : List UInt8) : Option Wsi :=
  (wsi.truncAlloc.bind fun block => memcpy block 0 rest).map fun block =>
    { wsi with truncAlloc := some block, truncOffset := 0, truncLen := rest.length }

/-- The block as it is for a newly truncated send: kept where it is large enough. -/
def Wsi.withBlock (wsi : Wsi) (mallocs : Bool) (length : Nat) : Wsi :=
  if wsi.truncAlloc.isNone ∨ wsi.truncAllocLen < length then
    { wsi with
      truncAlloc := if mallocs then malloc length else none
      truncAllocLen := length }
  else wsi

/-- So many of the stored bytes are sent. -/
def Wsi.partialAdvance (wsi : Wsi) (count : Nat) : Wsi :=
  { wsi with truncOffset := wsi.truncOffset + count, truncLen := wsi.truncLen - count }

/-- What follows on the socket having taken so many of the bytes. -/
def handleTruncatedSend (wsi : Wsi) (mallocs : Bool) (bytes : List UInt8) (count : Nat) :
    Wsi × Except Failure Nat :=
  if wsi.truncLen ≠ 0 then
    if (wsi.partialAdvance count).truncLen = 0 then
      if wsi.state = .flushingStoredSendBeforeClose then
        (wsi.partialAdvance count, .error .flushed)
      else (lwsCallbackOnWritable (wsi.partialAdvance count), .ok bytes.length)
    else (lwsCallbackOnWritable (wsi.partialAdvance count), .ok count)
  else if count = bytes.length then (wsi, .ok count)
  else
    let wsi := wsi.withBlock mallocs (bytes.length - count)
    if wsi.truncAlloc.isNone then (wsi, .error .malloc)
    else
      match copyRemainder wsi (bytes.drop count) with
      | none => (wsi, .error .outOfBlock)
      | some wsi => (lwsCallbackOnWritable wsi, .ok bytes.length)

/-- The socket has taken so many of the bytes. -/
def Wsi.took (wsi : Wsi) (bytes : List UInt8) (count : Nat) : Wsi :=
  { wsi with sent := wsi.sent ++ bytes.take count }

/-- The connection on an error of its socket. -/
def Wsi.failed (wsi : Wsi) : Wsi :=
  { wsi with socketIsPermanentlyUnusable := true }

def issueRaw (limit : Nat) (wsi : Wsi) (buffer : Buffer) (platform : Platform) :
    Wsi × Except Failure Nat :=
  if (buffer.bytes wsi).length = 0 then (wsi, .ok 0)
  else if wsi.state = .flushingStoredSendBeforeClose ∧ wsi.truncLen = 0 then
    -- sends behind the stored ones are ignored
    (wsi, .ok (buffer.bytes wsi).length)
  else if wsi.truncLen ≠ 0 ∧ buffer.outside wsi then (wsi, .error .pendingTruncated)
  else
    match (if wsi.shutWr then .error else platform.write) with
    | .error => (wsi.failed, .error .socket)
    | .moreService => handleTruncatedSend wsi platform.mallocs (buffer.bytes wsi) 0
    | .took count =>
        -- no more than it is offered
        let count := min count (min limit (buffer.bytes wsi).length)
        handleTruncatedSend (wsi.took (buffer.bytes wsi) count) platform.mallocs
          (buffer.bytes wsi) count

def lwsIssueRaw (limit : Nat) (wsi : Wsi) (buffer : Buffer) (platform : Platform) :
    Wsi × Except Failure Nat :=
  ({ (issueRaw limit wsi buffer platform).1 with
      answers := wsi.answers ++ [(issueRaw limit wsi buffer platform).2] },
    (issueRaw limit wsi buffer platform).2)

/-! ### `lws_write` of a server -/

/-- Whether the connection is in a state to send the frame. -/
def Wsi.sends (wsi : Wsi) (frame : Frame) : Bool :=
  match wsi.state with
  | .established => true
  | .returnedCloseAlready | .awaitingCloseAck => frame.opcode = .close ∧ frame.final
  | _ => false

/-- A write that goes on inside a frame has no header. -/
def Wsi.frameBytes (wsi : Wsi) (frame : Frame) : List UInt8 :=
  if wsi.insideFrame then frame.payload else frame.encode

/-- The frame is counted among those accepted where the call has not failed. -/
def Wsi.accepting (wsi : Wsi) (frame : Frame) : Except Failure Nat → Wsi
  | .ok _ => { wsi with frames := wsi.frames ++ [frame] }
  | .error _ => wsi

/-- What `lws_write` makes of what the call came to: a control frame is left at that. -/
def Wsi.wrote (wsi : Wsi) (frame : Frame) (issued : Wsi × Except Failure Nat) :
    Wsi × Except Failure Nat :=
  let next := issued.1.accepting frame issued.2
  if frame.opcode.isControl ∧ frame.final then (next, issued.2)
  else
    match issued.2 with
    | .error failure => ({ next with insideFrame := true }, .error failure)
    | .ok count =>
        if count = 0 then ({ next with insideFrame := true }, .ok 0)
        else if count = (wsi.frameBytes frame).length then
          ({ next with insideFrame := false }, .ok frame.payload.length)
        else
          ({ next with insideFrame := true },
            .ok (count - ((wsi.frameBytes frame).length - frame.payload.length)))

def lwsWrite (limit : Nat) (wsi : Wsi) (frame : Frame) (platform : Platform) :
    Wsi × Except Failure Nat :=
  if wsi.sends frame then
    wsi.wrote frame (lwsIssueRaw limit wsi (.foreign (wsi.frameBytes frame)) platform)
  else (wsi, .ok 0)

/-! ### Closing -/

inductive Reason
  | nostatus
  | contextDestroy
  | status (code : Nat)
  deriving DecidableEq

/-- Bytes are put at the start of `ping_payload_buf`. -/
def Wsi.stash (wsi : Wsi) (bytes : List UInt8) : List UInt8 :=
  bytes ++ wsi.pingPayloadBuf.drop bytes.length

/-- From the label `just_kill_connection` on: the first time the socket is shut down for
sending and the peer is waited for, then its entry is removed from the polled ones. -/
def justKillConnection (wsi : Wsi) (reason : Reason) : Wsi :=
  if wsi.state ≠ .shutdown ∧ reason ≠ .contextDestroy ∧
      wsi.socketIsPermanentlyUnusable = false then
    { wsi with pollout := false, shutWr := true, state := .shutdown }
  else
    { wsi with
      state := .deadSocket
      pollout := false
      truncAlloc := none
      pingPayloadLen := 0
      pingPendingFlag := false
      socketIsPermanentlyUnusable := true }

/-- The status is put in where the user has left none. -/
def Wsi.withCloseReason (wsi : Wsi) : Reason → Wsi
  | .status code =>
      if wsi.closeInPingBufferLen = 0 then
        { wsi with
          closeInPingBufferLen := 2
          pingPayloadBuf := wsi.stash [UInt8.ofNat (code / 2 ^ 16), UInt8.ofNat code] }
      else wsi
  | _ => wsi

/-- The polite way, with a Close frame of this side where there is a reason to give. -/
def closePolitely (limit : Nat) (wsi : Wsi) (reason : Reason) (platform : Platform) : Wsi :=
  if wsi.state = .established ∧
      (wsi.closeInPingBufferLen ≠ 0 ∨ reason ≠ .nostatus ∧ reason ≠ .contextDestroy) then
    let wsi := wsi.withCloseReason reason
    match lwsWrite limit wsi
        { opcode := .close
          final := true
          payload := wsi.pingPayloadBuf.take wsi.closeInPingBufferLen } platform with
    | (next, .ok _) => { next with state := .awaitingCloseAck }
    | (next, .error _) => justKillConnection next reason
  else justKillConnection wsi reason

/-- `lws_close_free_wsi` of a served websocket. -/
def lwsCloseFreeWsi (limit : Nat) (wsi : Wsi) (reason : Reason) (platform : Platform) : Wsi :=
  if wsi.socketIsPermanentlyUnusable ∨ reason = .contextDestroy ∨ wsi.state = .shutdown then
    justKillConnection wsi reason
  else
    match wsi.state with
    | .deadSocket => wsi
    | .awaitingCloseAck => justKillConnection wsi reason
    | .flushingStoredSendBeforeClose =>
        if wsi.truncLen ≠ 0 then lwsCallbackOnWritable wsi else justKillConnection wsi reason
    | _ =>
        if wsi.truncLen ≠ 0 then { wsi with state := .flushingStoredSendBeforeClose }
        else closePolitely limit wsi reason platform

/-! ### Events -/

/-- `process_as_ping`, with what the frame held. -/
def processAsPing (wsi : Wsi) (payload : List UInt8) : Wsi :=
  if 128 - 3 < payload.length then wsi
  else
    lwsCallbackOnWritable
      { wsi with
        pingPayloadBuf := wsi.stash payload
        pingPayloadLen := payload.length
        pingPendingFlag := true }

def receivePing (wsi : Wsi) (payload : List UInt8) : Wsi :=
  if wsi.pingPendingFlag then wsi else processAsPing wsi payload

/-- A Close frame is received; nothing stands for -1. -/
def receiveClose (wsi : Wsi) (payload : List UInt8) : Wsi × Bool :=
  match wsi.state with
  | .awaitingCloseAck | .returnedCloseAlready => (wsi, false)
  | _ =>
      if wsi.truncLen ≠ 0 then (wsi.failed, false)
      else
        (processAsPing { wsi with state := .returnedCloseAlready, payloadIsClose := true } payload,
          true)

/-- `lws_close_reason`: the length is that of what fits. -/
def lwsCloseReason (wsi : Wsi) (status : Nat) (payload : List UInt8) : Wsi :=
  let bytes := (UInt8.ofNat (status / 2 ^ 8) :: UInt8.ofNat status :: payload).take (128 - 3)
  { wsi with pingPayloadBuf := wsi.stash bytes, closeInPingBufferLen := bytes.length }

/-- The pong or the reply to a Close frame, with the payload received. -/
def Wsi.controlFrame (wsi : Wsi) : Frame :=
  { opcode := if wsi.payloadIsClose then .close else .pong
    final := true
    payload := wsi.pingPayloadBuf.take wsi.pingPayloadLen }

def checkPingFrame : Frame :=
  { opcode := .ping, final := true, payload := [] }

def writeControl (wsi : Wsi) (written : Wsi × Except Failure Nat) : Wsi × Bool :=
  if written.2.isOk then ({ written.1 with pingPendingFlag := false }, wsi.payloadIsClose)
  else (written.1, true)

/-- The user callback makes at most one write and does not look at what it returns. -/
def userCallback (limit : Nat) (wsi : Wsi) (platform : Platform) : Option Frame → Wsi
  | none => wsi
  | some frame => (lwsWrite limit wsi frame platform).1

/-- `lws_handle_POLLOUT_event`, and whether it asks for a close. -/
def lwsHandlePolloutEvent (limit : Nat) (wsi : Wsi) (user : Option Frame) (platform : Platform) :
    Wsi × Bool :=
  if wsi.truncLen ≠ 0 then
    ((lwsIssueRaw limit wsi (.stored wsi.truncOffset wsi.truncLen) platform).1,
      !(lwsIssueRaw limit wsi (.stored wsi.truncOffset wsi.truncLen) platform).2.isOk)
  else if wsi.state = .flushingStoredSendBeforeClose then (wsi, true)
  else if wsi.state = .established ∧ wsi.pingPendingFlag ∨
      wsi.state = .returnedCloseAlready ∧ wsi.payloadIsClose then
    writeControl wsi (lwsWrite limit wsi wsi.controlFrame platform)
  else if wsi.state = .established ∧ wsi.socketIsPermanentlyUnusable = false ∧
      wsi.sendCheckPing then
    ((lwsWrite limit { wsi with sendCheckPing := false } checkPingFrame platform).1,
      !(lwsWrite limit { wsi with sendCheckPing := false } checkPingFrame platform).2.isOk)
  else (userCallback limit { wsi with pollout := false } platform user, false)

/-- Behind the reply to a Close frame what is stored of it is flushed. -/
def Wsi.replied (wsi : Wsi) : Wsi :=
  if wsi.state = .returnedCloseAlready then { wsi with state := .flushingStoredSendBeforeClose }
  else wsi

/-- What `lws_service_fd_tsi` does with `LWS_POLLOUT`. -/
def servicePollout (limit : Nat) (wsi : Wsi) (user : Option Frame)
    (platform closing : Platform) : Wsi :=
  match wsi.state with
  | .established | .returnedCloseAlready | .flushingStoredSendBeforeClose =>
      let handled := lwsHandlePolloutEvent limit wsi user platform
      if handled.2 then lwsCloseFreeWsi limit handled.1.replied .nostatus closing
      else handled.1
  | _ => wsi

inductive Event
  | pollout (user : Option Frame) (platform closing : Platform)
  /-- `lws_callback_on_writable` of the server's code. -/
  | callbackOnWritable
  | receivePing (payload : List UInt8)
  | receiveClose (payload : List UInt8) (platform : Platform)
  /-- The ping-pong check wants a ping to be sent. -/
  | checkPing
  | closeReason (status : Nat) (payload : List UInt8)
  | close (reason : Reason) (platform : Platform)
  /-- A limit has passed, among others that for flushing what is stored. -/
  | timeout (platform : Platform)

/-- The user writes no Close frame, which is `lws_close_reason`'s, and nothing that an `int`
does not count. What is read while stored bytes are flushed is dropped. -/
def serve (limit : Nat) (wsi : Wsi) : Event → Option Wsi
  | .pollout user platform closing =>
      if wsi.pollout ∧ (user.all fun frame => frame.opcode ≠ .close) ∧
          (user.all fun frame => frame.encode.length < 2 ^ 31) then
        some (servicePollout limit wsi user platform closing)
      else none
  | .callbackOnWritable => some (lwsCallbackOnWritable wsi)
  | .receivePing payload =>
      if wsi.socketIsPermanentlyUnusable ∨ wsi.state = .flushingStoredSendBeforeClose then none
      else some (receivePing wsi payload)
  | .receiveClose payload platform =>
      if wsi.socketIsPermanentlyUnusable ∨ wsi.state = .flushingStoredSendBeforeClose then none
      else
        some
          (if (receiveClose wsi payload).2 then (receiveClose wsi payload).1
          else lwsCloseFreeWsi limit (receiveClose wsi payload).1 .nostatus platform)
  | .checkPing =>
      if wsi.state = .established ∧ wsi.socketIsPermanentlyUnusable = false ∧
          wsi.sendCheckPing = false then
        some (lwsCallbackOnWritable { wsi with sendCheckPing := true })
      else none
  | .closeReason status payload => some (lwsCloseReason wsi status payload)
  | .close reason platform => some (lwsCloseFreeWsi limit wsi reason platform)
  -- `lws_service_timeout_check`
  | .timeout platform => some (lwsCloseFreeWsi limit wsi.failed .nostatus platform)

/-- A connection that is freed has no events. -/
def step (limit : Nat) (wsi : Wsi) (event : Event) : Option Wsi :=
  if wsi.state = .deadSocket then none else serve limit wsi event

def machine (limit : Nat) : Machine Wsi Event where
  initial wsi := wsi = .fresh
  step := step limit

/-! ### What a call of `lws_issue_raw` does -/

variable {limit : Nat} {wsi : Wsi}

/-- POLLOUT is polled for, or never again. -/
def Wsi.Polls (wsi : Wsi) : Prop :=
  wsi.state = .shutdown ∨ wsi.socketIsPermanentlyUnusable = true ∨ wsi.pollout = true

theorem lwsCallbackOnWritable_eq (wsi : Wsi) :
    lwsCallbackOnWritable wsi =
      { wsi with pollout := (lwsCallbackOnWritable wsi).pollout } := by
  unfold lwsCallbackOnWritable
  split
  · rfl
  · split
    · rfl
    · rfl

theorem lwsCallbackOnWritable_polls (wsi : Wsi) : (lwsCallbackOnWritable wsi).Polls := by
  unfold lwsCallbackOnWritable
  split
  · rename_i shut
    exact .inl shut
  · split
    · rename_i unusable
      exact .inr (.inl unusable)
    · exact .inr (.inr rfl)

/-- The stored bytes lie in the block. -/
structure Stored (truncAlloc : Option (List UInt8)) (truncAllocLen truncOffset truncLen : Nat) :
    Prop where
  size : ∀ block, truncAlloc = some block → block.length = truncAllocLen
  inside : truncLen ≠ 0 →
    ∃ block, truncAlloc = some block ∧ truncOffset + truncLen ≤ block.length

def Wsi.Block (wsi : Wsi) : Prop :=
  Stored wsi.truncAlloc wsi.truncAllocLen wsi.truncOffset wsi.truncLen

theorem Wsi.pending_nil (empty : wsi.truncLen = 0) : wsi.pending = [] := by
  rw [Wsi.pending, empty, List.take_zero]

theorem Wsi.Block.pending_length (block : wsi.Block) : wsi.pending.length = wsi.truncLen := by
  by_cases empty : wsi.truncLen = 0
  · rw [Wsi.pending_nil empty, empty]
    rfl
  · obtain ⟨bytes, held, room⟩ := block.inside empty
    rw [Wsi.pending, held, Option.getD_some, List.length_take, List.length_drop]
    omega

/-- The connection with the fields of another one that `lws_issue_raw` writes to. -/
def Wsi.moved (wsi next : Wsi) : Wsi :=
  { wsi with
    truncAlloc := next.truncAlloc
    truncAllocLen := next.truncAllocLen
    truncOffset := next.truncOffset
    truncLen := next.truncLen
    pollout := next.pollout
    sent := next.sent }

/-- Bytes are sent or stored behind those sent and stored before. -/
structure Wsi.Takes (wsi next : Wsi) (bytes : List UInt8) : Prop where
  same : next = wsi.moved next
  block : next.Block
  conserved : next.sent ++ next.pending = wsi.sent ++ wsi.pending ++ bytes
  grows : wsi.sent <+: next.sent
  polls : next.truncLen ≠ 0 → next.Polls

theorem Wsi.Takes.callbackOnWritable {next : Wsi} {bytes : List UInt8}
    (same : next = wsi.moved next) (block : next.Block)
    (conserved : next.sent ++ next.pending = wsi.sent ++ wsi.pending ++ bytes)
    (grows : wsi.sent <+: next.sent) : wsi.Takes (lwsCallbackOnWritable next) bytes := by
  have polls := lwsCallbackOnWritable_polls next
  rw [lwsCallbackOnWritable_eq] at polls ⊢
  exact
    { same := by
        rw [same]
        rfl
      block := block
      conserved := conserved
      grows := grows
      polls := fun _ => polls }

theorem Wsi.withBlock_spec (block : wsi.Block) (length : Nat) :
    ∃ bytes, (wsi.withBlock true length).truncAlloc = some bytes ∧
      bytes.length = (wsi.withBlock true length).truncAllocLen ∧ length ≤ bytes.length ∧
      (wsi.withBlock true length) =
        { wsi with
          truncAlloc := (wsi.withBlock true length).truncAlloc
          truncAllocLen := (wsi.withBlock true length).truncAllocLen } := by
  unfold Wsi.withBlock
  split
  · refine ⟨List.replicate length 0, ?_, List.length_replicate, ?_, rfl⟩
    · simp [malloc]
    · rw [List.length_replicate]
  · rename_i large
    rw [not_or, Nat.not_lt, Option.isNone_iff_eq_none] at large
    obtain ⟨bytes, held⟩ := Option.ne_none_iff_exists'.mp large.1
    refine ⟨bytes, held, block.size bytes held, ?_, rfl⟩
    rw [block.size bytes held]
    exact large.2

private theorem copyRemainder_spec {bytes : List UInt8} (rest : List UInt8)
    (held : wsi.truncAlloc = some bytes) (size : bytes.length = wsi.truncAllocLen)
    (room : rest.length ≤ bytes.length) :
    ∃ next, copyRemainder wsi rest = some next ∧ next = wsi.moved next ∧ next.Block ∧
      next.sent = wsi.sent ∧ next.pending = rest := by
  have copied : memcpy bytes 0 rest = some (rest ++ bytes.drop rest.length) := by
    have start := memcpy_eq bytes 0 rest
    rw [if_pos (by omega)] at start
    rw [Nat.cast_zero] at start
    rw [start, List.take_zero, List.nil_append, Nat.zero_add]
  have length : (rest ++ bytes.drop rest.length).length = bytes.length := by
    rw [List.length_append, List.length_drop]
    omega
  have copies : copyRemainder wsi rest =
      some
        { wsi with
          truncAlloc := some (rest ++ bytes.drop rest.length)
          truncOffset := 0
          truncLen := rest.length } := by
    rw [copyRemainder, held, Option.bind_some, copied]
    rfl
  refine ⟨_, copies, rfl, ?_, rfl, ?_⟩
  · constructor
    · intro block same
      cases same
      exact length.trans size
    · intro _
      refine ⟨_, rfl, ?_⟩
      dsimp only
      rw [length, Nat.zero_add]
      exact room
  · rw [Wsi.pending, Option.getD_some, List.drop_zero, List.take_left]

theorem Wsi.took_zero (wsi : Wsi) (bytes : List UInt8) : wsi.took bytes 0 = wsi := by
  rw [Wsi.took, List.take_zero, List.append_nil]

private theorem handleTruncatedSend_new (block : wsi.Block) (empty : wsi.truncLen = 0)
    (bytes : List UInt8) (count : Nat) :
    ∃ next, handleTruncatedSend (wsi.took bytes count) true bytes count =
        (next, .ok bytes.length) ∧
      wsi.Takes next bytes := by
  have taken : (wsi.took bytes count).Block := block
  have emptied : (wsi.took bytes count).truncLen = 0 := empty
  unfold handleTruncatedSend
  rw [if_neg (not_not.mpr emptied)]
  by_cases whole : count = bytes.length
  · rw [if_pos whole, whole]
    refine ⟨_, rfl, rfl, block, ?_, ?_, ?_⟩
    · have drained : (wsi.took bytes bytes.length).pending = [] := Wsi.pending_nil empty
      rw [Wsi.pending_nil empty, drained, Wsi.took, List.take_length]
      simp
    · exact List.prefix_append _ _
    · intro more
      exact absurd empty more
  · rw [if_neg whole]
    obtain ⟨held, holds, size, room, kept⟩ :=
      (wsi.took bytes count).withBlock_spec taken (bytes.length - count)
    dsimp only
    generalize (wsi.took bytes count).withBlock true (bytes.length - count) = ready
      at holds size kept
    obtain ⟨next, copies, moved, blockNext, sentNext, pendingNext⟩ :=
      copyRemainder_spec (bytes.drop count) holds size (by rw [List.length_drop]; exact room)
    rw [if_neg (by rw [holds]; exact Bool.false_ne_true), copies]
    refine ⟨_, rfl, .callbackOnWritable ?_ blockNext ?_ ?_⟩
    · rw [moved, kept]
      rfl
    · rw [sentNext, pendingNext, kept, Wsi.pending_nil empty, List.append_nil, Wsi.took,
        List.append_assoc, List.take_append_drop]
    · rw [sentNext, kept]
      exact List.prefix_append _ _

/-- The connection with so many stored bytes less. -/
def Wsi.advanced (wsi : Wsi) (count : Nat) : Wsi :=
  (wsi.took wsi.pending count).partialAdvance count

theorem Wsi.advanced_pending (wsi : Wsi) (count : Nat) :
    (wsi.advanced count).pending = wsi.pending.drop count := by
  rw [Wsi.pending, Wsi.pending, List.drop_take, List.drop_drop]
  rfl

theorem Wsi.advanced_block (block : wsi.Block) (count : Nat) (offered : count ≤ wsi.truncLen) :
    (wsi.advanced count).Block := by
  constructor
  · exact block.size
  · intro more
    have some : wsi.truncLen ≠ 0 := by
      intro none
      exact more (Nat.sub_eq_zero_of_le (by rw [Wsi.took, none]; exact Nat.zero_le count))
    obtain ⟨bytes, held, room⟩ := block.inside some
    refine ⟨bytes, held, ?_⟩
    show wsi.truncOffset + count + (wsi.truncLen - count) ≤ bytes.length
    omega

private theorem handleTruncatedSend_stored (block : wsi.Block) (more : wsi.truncLen ≠ 0)
    (mallocs : Bool) {count : Nat} (offered : count ≤ wsi.truncLen) :
    ∃ next, wsi.Takes next [] ∧ next.truncLen = wsi.truncLen - count ∧
      handleTruncatedSend (wsi.took wsi.pending count) mallocs wsi.pending count =
        (next,
          if wsi.truncLen = count then
            if wsi.state = .flushingStoredSendBeforeClose then .error .flushed
            else .ok wsi.truncLen
          else .ok count) := by
  have moved : wsi.advanced count = wsi.moved (wsi.advanced count) := rfl
  have blockNext := wsi.advanced_block block count offered
  have conserved : (wsi.advanced count).sent ++ (wsi.advanced count).pending =
      wsi.sent ++ wsi.pending ++ [] := by
    rw [Wsi.advanced_pending, Wsi.advanced, Wsi.partialAdvance, Wsi.took, List.append_nil,
      List.append_assoc, List.take_append_drop]
  have grows : wsi.sent <+: (wsi.advanced count).sent := List.prefix_append _ _
  have length := block.pending_length
  have handled : handleTruncatedSend (wsi.took wsi.pending count) mallocs wsi.pending count =
      if (wsi.advanced count).truncLen = 0 then
        if wsi.state = .flushingStoredSendBeforeClose then (wsi.advanced count, .error .flushed)
        else (lwsCallbackOnWritable (wsi.advanced count), .ok wsi.pending.length)
      else (lwsCallbackOnWritable (wsi.advanced count), .ok count) := by
    exact if_pos more
  have left : (wsi.advanced count).truncLen = wsi.truncLen - count := rfl
  have calls := Wsi.Takes.callbackOnWritable moved blockNext conserved grows
  have leftCalled : (lwsCallbackOnWritable (wsi.advanced count)).truncLen =
      wsi.truncLen - count := by
    rw [lwsCallbackOnWritable_eq]
    exact left
  rw [handled, length]
  by_cases finished : wsi.truncLen = count
  · rw [if_pos (by omega), if_pos finished]
    split
    · refine ⟨_, ⟨moved, blockNext, conserved, grows, ?_⟩, left, rfl⟩
      intro again
      exact absurd (by omega) again
    · exact ⟨_, calls, leftCalled, rfl⟩
  · rw [if_neg (by omega), if_neg finished]
    exact ⟨_, calls, leftCalled, rfl⟩

/-! ### The calls of the code -/

def Wsi.answered (wsi : Wsi) (answer : Except Failure Nat) : Wsi :=
  { wsi with answers := wsi.answers ++ [answer] }

private theorem lwsIssueRaw_eq {buffer : Buffer} {platform : Platform} {next : Wsi}
    {answer : Except Failure Nat} (issued : issueRaw limit wsi buffer platform = (next, answer))
    (same : next.answers = wsi.answers) :
    lwsIssueRaw limit wsi buffer platform = (next.answered answer, answer) := by
  rw [lwsIssueRaw, issued, Wsi.answered, same]

theorem Wsi.Takes.answers {next : Wsi} {bytes : List UInt8} (takes : wsi.Takes next bytes) :
    next.answers = wsi.answers := by
  rw [takes.same]
  rfl

/-- A caller's bytes are taken whole, or the socket fails, where nothing is stored before. -/
theorem lwsIssueRaw_foreign (block : wsi.Block) (empty : wsi.truncLen = 0) {bytes : List UInt8}
    (nonempty : bytes ≠ []) (open_ : wsi.state ≠ .flushingStoredSendBeforeClose)
    {platform : Platform} (mallocs : platform.mallocs = true) :
    lwsIssueRaw limit wsi (.foreign bytes) platform =
        (wsi.failed.answered (.error .socket), .error .socket) ∨
      wsi.shutWr = false ∧ ∃ next, wsi.Takes next bytes ∧
        lwsIssueRaw limit wsi (.foreign bytes) platform =
          (next.answered (.ok bytes.length), .ok bytes.length) := by
  have some : bytes.length ≠ 0 := fun none => nonempty (List.eq_nil_of_length_eq_zero none)
  have issued : issueRaw limit wsi (.foreign bytes) platform =
      match (if wsi.shutWr then .error else platform.write) with
      | .error => (wsi.failed, .error .socket)
      | .moreService => handleTruncatedSend wsi platform.mallocs bytes 0
      | .took count =>
          handleTruncatedSend (wsi.took bytes (min count (min limit bytes.length)))
            platform.mallocs bytes (min count (min limit bytes.length)) := by
    rw [issueRaw, Buffer.bytes, if_neg some, if_neg (fun closing => open_ closing.1),
      if_neg (fun stored => stored.1 empty)]
  rw [mallocs] at issued
  cases shut : wsi.shutWr with
  | true =>
      rw [shut] at issued
      exact .inl (lwsIssueRaw_eq issued rfl)
  | false =>
      rw [shut] at issued
      cases answer : platform.write with
      | error =>
          rw [answer] at issued
          exact .inl (lwsIssueRaw_eq issued rfl)
      | moreService =>
          rw [answer] at issued
          obtain ⟨next, handled, takes⟩ := handleTruncatedSend_new block empty bytes 0
          rw [Wsi.took_zero] at handled
          exact .inr ⟨rfl, next, takes, lwsIssueRaw_eq (issued.trans handled) takes.answers⟩
      | took count =>
          rw [answer] at issued
          obtain ⟨next, handled, takes⟩ :=
            handleTruncatedSend_new block empty bytes (min count (min limit bytes.length))
          exact .inr ⟨rfl, next, takes, lwsIssueRaw_eq (issued.trans handled) takes.answers⟩

/-- How many of the bytes that it is offered the socket takes. -/
def Capable.count (offered : Nat) : Capable → Nat
  | .took count => min count offered
  | _ => 0

theorem lwsIssueRaw_stored (block : wsi.Block) (more : wsi.truncLen ≠ 0)
    (open_ : wsi.shutWr = false) (platform : Platform) :
    lwsIssueRaw limit wsi (.stored wsi.truncOffset wsi.truncLen) platform =
        (wsi.failed.answered (.error .socket), .error .socket) ∧ platform.write = .error ∨
      ∃ next, wsi.Takes next [] ∧
        next.truncLen = wsi.truncLen - platform.write.count (min limit wsi.truncLen) ∧
        ∃ answer, lwsIssueRaw limit wsi (.stored wsi.truncOffset wsi.truncLen) platform =
            (next.answered answer, answer) ∧
          (answer = .error .flushed ∧ next.truncLen = 0 ∧
              wsi.state = .flushingStoredSendBeforeClose ∨
            (∃ returned, answer = .ok returned) ∧
              (wsi.state = .flushingStoredSendBeforeClose → next.truncLen ≠ 0)) := by
  have length := block.pending_length
  have issued : issueRaw limit wsi (.stored wsi.truncOffset wsi.truncLen) platform =
      match platform.write with
      | .error => (wsi.failed, .error .socket)
      | .moreService => handleTruncatedSend wsi platform.mallocs wsi.pending 0
      | .took count =>
          handleTruncatedSend (wsi.took wsi.pending (min count (min limit wsi.pending.length)))
            platform.mallocs wsi.pending (min count (min limit wsi.pending.length)) := by
    have bytes : (Buffer.stored wsi.truncOffset wsi.truncLen).bytes wsi = wsi.pending := rfl
    have inside : (Buffer.stored wsi.truncOffset wsi.truncLen).outside wsi = false := by
      rw [Buffer.outside, decide_eq_false_iff_not]
      omega
    rw [issueRaw, bytes, if_neg (by rw [length]; exact more), if_neg (fun none => more none.2),
      inside, if_neg (fun out => Bool.false_ne_true out.2), open_]
    rfl
  have sends (count : Nat) (offered : count ≤ wsi.truncLen)
      (handles : issueRaw limit wsi (.stored wsi.truncOffset wsi.truncLen) platform =
        handleTruncatedSend (wsi.took wsi.pending count) platform.mallocs wsi.pending count) :
      ∃ next, wsi.Takes next [] ∧ next.truncLen = wsi.truncLen - count ∧
        ∃ answer, lwsIssueRaw limit wsi (.stored wsi.truncOffset wsi.truncLen) platform =
            (next.answered answer, answer) ∧
          (answer = .error .flushed ∧ next.truncLen = 0 ∧
              wsi.state = .flushingStoredSendBeforeClose ∨
            (∃ returned, answer = .ok returned) ∧
              (wsi.state = .flushingStoredSendBeforeClose → next.truncLen ≠ 0)) := by
    obtain ⟨next, takes, left, handled⟩ :=
      handleTruncatedSend_stored block more platform.mallocs offered
    refine ⟨next, takes, left, _, lwsIssueRaw_eq (handles.trans handled) takes.answers, ?_⟩
    by_cases finished : wsi.truncLen = count
    · rw [if_pos finished]
      by_cases flushing : wsi.state = .flushingStoredSendBeforeClose
      · rw [if_pos flushing]
        exact .inl ⟨rfl, by omega, flushing⟩
      · rw [if_neg flushing]
        exact .inr ⟨⟨_, rfl⟩, fun again => absurd again flushing⟩
    · rw [if_neg finished]
      exact .inr ⟨⟨_, rfl⟩, fun _ => by omega⟩
  cases answer : platform.write with
  | error =>
      rw [answer] at issued
      exact .inl ⟨lwsIssueRaw_eq issued rfl, rfl⟩
  | moreService =>
      rw [answer] at issued
      exact .inr (sends 0 (Nat.zero_le _) (by rw [Wsi.took_zero]; exact issued))
  | took count =>
      rw [answer] at issued
      have offered : min count (min limit wsi.pending.length) ≤ wsi.truncLen := by omega
      have taken := sends _ offered issued
      rw [length] at taken
      exact .inr taken

/-- The connection behind a frame that a call has taken. -/
def Wsi.accepted (wsi : Wsi) (frame : Frame) : Wsi :=
  { wsi.answered (.ok frame.encode.length) with frames := wsi.frames ++ [frame] }

/-- The connection behind a frame that the socket has failed on. -/
def Wsi.refused (wsi : Wsi) (insideFrame : Bool) : Wsi :=
  { wsi.failed.answered (.error .socket) with insideFrame := insideFrame }

theorem Frame.encode_ne_nil (frame : Frame) : frame.encode ≠ [] :=
  List.cons_ne_nil _ _

theorem lwsWrite_spec (block : wsi.Block) (empty : wsi.truncLen = 0)
    (outside : wsi.insideFrame = false) (frame : Frame) {platform : Platform}
    (mallocs : platform.mallocs = true) :
    wsi.sends frame = false ∧ lwsWrite limit wsi frame platform = (wsi, .ok 0) ∨
      wsi.sends frame = true ∧
        ((∃ inside, lwsWrite limit wsi frame platform = (wsi.refused inside, .error .socket)) ∨
          wsi.shutWr = false ∧ ∃ next returned, wsi.Takes next frame.encode ∧
            lwsWrite limit wsi frame platform = (next.accepted frame, .ok returned)) := by
  cases sends : wsi.sends frame with
  | false =>
      left
      rw [lwsWrite, sends]
      exact ⟨rfl, rfl⟩
  | true =>
      right
      refine ⟨rfl, ?_⟩
      have open_ : wsi.state ≠ .flushingStoredSendBeforeClose := by
        intro flushing
        rw [Wsi.sends, flushing] at sends
        cases sends
      have bytes : wsi.frameBytes frame = frame.encode := by
        rw [Wsi.frameBytes, outside]
        rfl
      have length : frame.encode.length ≠ 0 := fun none =>
        frame.encode_ne_nil (List.eq_nil_of_length_eq_zero none)
      rw [lwsWrite, if_pos sends, bytes]
      obtain failed | ⟨shut, next, takes, issued⟩ :=
        lwsIssueRaw_foreign block empty frame.encode_ne_nil open_ mallocs
      · rw [failed, Wsi.wrote]
        left
        split
        · exact ⟨wsi.insideFrame, rfl⟩
        · exact ⟨true, rfl⟩
      · rw [issued, Wsi.wrote, bytes]
        have kept : next.insideFrame = false := by
          rw [takes.same]
          exact outside
        have same : ({ (next.answered (.ok frame.encode.length)).accepting frame
            (.ok frame.encode.length) with insideFrame := false } : Wsi) =
              next.accepted frame := by
          rw [← kept]
          rfl
        refine .inr ⟨shut, next, ?_⟩
        by_cases control : frame.opcode.isControl ∧ frame.final
        · rw [if_pos control]
          exact ⟨_, takes, rfl⟩
        · rw [if_neg control]
          dsimp only
          rw [if_neg length, if_pos rfl, same]
          exact ⟨_, takes, rfl⟩

end Output
end Libwebsockets
end JSCameraKit

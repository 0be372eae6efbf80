import Mathlib.Data.Fin.Basic
import Mathlib.Logic.Function.Basic

set_option autoImplicit false

/-! The receiving half of a connection that speaks version 13 of the protocol: `lws_rx_sm`,
which takes one byte, and `lws_interpret_incoming_packet`, which gives it those of a packet
and copies the payload bytes that need no decision in bulk. No extension is negotiated, the
input is never throttled, and the user callback answers 0.

`size_t` has 64 bits. `mask_idx` is only read through `& 3`, so its two low bits are kept. -/

namespace JSCameraKit
namespace Libwebsockets

inductive Opcode
  | continuation
  | textFrame
  | binaryFrame
  | close
  | ping
  | pong
  deriving DecidableEq

inductive LwsRxps
  | new
  | mask1
  | mask2
  | mask3
  | frameHdr1
  | frameHdrLen
  | frameHdrLen16_2
  | frameHdrLen16_1
  | frameHdrLen64_8
  | frameHdrLen64_7
  | frameHdrLen64_6
  | frameHdrLen64_5
  | frameHdrLen64_4
  | frameHdrLen64_3
  | frameHdrLen64_2
  | frameHdrLen64_1
  | collectFrameKey1
  | collectFrameKey2
  | collectFrameKey3
  | collectFrameKey4
  | payloadUntilLengthExhausted
  deriving DecidableEq

/-- The values of `state` after the handshake. -/
inductive Lwss
  | established
  | awaitingCloseAck
  | returnedCloseAlready
  deriving DecidableEq

structure Wsi where
  lwsRxParseState : LwsRxps
  state : Lwss
  socketIsPermanentlyUnusable : Bool
  /-- The bytes of a partial write that are still to be sent. -/
  truncLen : Nat
  opcode : Opcode
  rsv : UInt8
  rsvFirstMsg : UInt8
  final : Bool
  frameIsBinary : Bool
  thisFrameMasked : Bool
  rxPacketLength : UInt64
  mask : Fin 4 → UInt8
  maskIdx : Fin 4
  allZeroNonce : Bool
  /-- The bytes of `rx_ubuf` behind its padding, up to `rx_ubuf_head`. -/
  rxUbuf : List UInt8
  payloadIsClose : Bool
  pingPendingFlag : Bool
  pingPayload : List UInt8

/-- A connection right after the handshake, which clears the union and allocates the buffer. -/
def Wsi.fresh : Wsi :=
  { lwsRxParseState := .new
    state := .established
    socketIsPermanentlyUnusable := false
    truncLen := 0
    opcode := .continuation
    rsv := 0
    rsvFirstMsg := 0
    final := false
    frameIsBinary := false
    thisFrameMasked := false
    rxPacketLength := 0
    mask := fun _ => 0
    maskIdx := 0
    allZeroNonce := false
    rxUbuf := []
    payloadIsClose := false
    pingPendingFlag := false
    pingPayload := [] }

inductive Reason
  | receive
  | receivePong
  | wsPeerInitiatedClose
  deriving DecidableEq

/-- A call of the user callback, with what `lws_frame_is_binary` answers during it. -/
structure Callback where
  reason : Reason
  frameIsBinary : Bool
  data : List UInt8
  deriving DecidableEq

/-! ### One byte -/

/-- The opcode of a header byte; the others are illegal. -/
def Opcode.ofHeader (c : UInt8) : Option Opcode :=
  match (c &&& 0xf).toNat with
  | 0 => some .continuation
  | 1 => some .textFrame
  | 2 => some .binaryFrame
  | 8 => some .close
  | 9 => some .ping
  | 10 => some .pong
  | _ => none

def Opcode.isControl : Opcode → Bool
  | .close | .ping | .pong => true
  | _ => false

def handleFirst (wsi : Wsi) (c : UInt8) : Option (Wsi × List Callback) :=
  match Opcode.ofHeader c with
  | none => none
  | some opcode =>
      some
        ({ wsi with
            opcode := opcode
            rsv := c &&& 0x70
            final := (c >>> 7) &&& 1 != 0
            rsvFirstMsg :=
              match opcode with
              | .textFrame | .binaryFrame => c &&& 0x70
              | _ => wsi.rsvFirstMsg
            frameIsBinary :=
              match opcode with
              | .textFrame => false
              | .binaryFrame => true
              | _ => wsi.frameIsBinary
            lwsRxParseState := .frameHdrLen }, [])

/-- `process_as_ping`: a payload that fits is kept for the pong. -/
def processAsPing (wsi : Wsi) : Wsi :=
  if 128 - 3 < wsi.rxUbuf.length then { wsi with rxUbuf := [] }
  else { wsi with pingPayload := wsi.rxUbuf, pingPendingFlag := true, rxUbuf := [] }

/-- What the user callback is told of a buffer that is no ping and no close. -/
def passUp (reason : Reason) (wsi : Wsi) : List Callback :=
  match wsi.state with
  | .returnedCloseAlready | .awaitingCloseAck => []
  | .established =>
      if wsi.rxUbuf ≠ [] ∨ reason = .receivePong then
        [{ reason := reason, frameIsBinary := wsi.frameIsBinary, data := wsi.rxUbuf }]
      else []

def spill (wsi : Wsi) : Option (Wsi × List Callback) :=
  match wsi.opcode with
  | .close =>
      match wsi.state with
      | .awaitingCloseAck | .returnedCloseAlready => none
      | .established =>
          -- in the middle of a partial write there is no answer to a close
          if wsi.truncLen ≠ 0 then none
          else
            some
              (processAsPing { wsi with state := .returnedCloseAlready, payloadIsClose := true },
                [{ reason := .wsPeerInitiatedClose
                   frameIsBinary := wsi.frameIsBinary
                   data := wsi.rxUbuf }])
  | .ping =>
      if wsi.pingPendingFlag then some ({ wsi with rxUbuf := [] }, [])
      else some (processAsPing wsi, [])
  | .pong => some ({ wsi with rxUbuf := [] }, passUp .receivePong wsi)
  | .textFrame | .binaryFrame | .continuation =>
      some ({ wsi with rxUbuf := [] }, passUp .receive wsi)

def Wsi.keyByte (wsi : Wsi) (position : Fin 4) (c : UInt8) (next : LwsRxps) : Wsi :=
  { wsi with
    mask := Function.update wsi.mask position c
    allZeroNonce := wsi.allZeroNonce && c == 0
    lwsRxParseState := next }

/-- The first byte of a payload is masked with the first byte of the key. -/
def Wsi.restartMask (wsi : Wsi) : Wsi :=
  { wsi with maskIdx := 0 }

def Wsi.lengthByte (wsi : Wsi) (c : UInt8) (shift : UInt64) (next : LwsRxps) : Wsi :=
  { wsi with
    rxPacketLength := wsi.rxPacketLength ||| c.toUInt64 <<< shift
    lwsRxParseState := next }

/-- Where the parser goes on behind the last byte of an extended length. -/
def Wsi.afterLength (wsi : Wsi) : LwsRxps :=
  if wsi.thisFrameMasked then .collectFrameKey1 else .payloadUntilLengthExhausted

/-- A payload byte is unmasked, stored and counted. -/
def Wsi.store (wsi : Wsi) (c : UInt8) : Wsi :=
  { wsi with
    rxUbuf := wsi.rxUbuf ++ [if wsi.allZeroNonce then c else c ^^^ wsi.mask wsi.maskIdx]
    maskIdx := if wsi.allZeroNonce then wsi.maskIdx else wsi.maskIdx + 1
    rxPacketLength := wsi.rxPacketLength - 1 }

/-- The 7-bit length of a frame, or the choice of an extended one. -/
def frameHdrLen (wsi : Wsi) (c : UInt8) : Option (Wsi × List Callback) :=
  if c &&& 0x7f = 126 then
    if wsi.opcode.isControl then none
    else some ({ wsi with lwsRxParseState := .frameHdrLen16_2 }, [])
  else if c &&& 0x7f = 127 then
    if wsi.opcode.isControl then none
    else some ({ wsi with lwsRxParseState := .frameHdrLen64_8 }, [])
  else if wsi.thisFrameMasked then
    some
      ({ wsi with
          rxPacketLength := (c &&& 0x7f).toUInt64
          lwsRxParseState := .collectFrameKey1 }, [])
  else if c &&& 0x7f ≠ 0 then
    some
      ({ wsi with
          rxPacketLength := (c &&& 0x7f).toUInt64
          lwsRxParseState := .payloadUntilLengthExhausted }, [])
  else spill { wsi with rxPacketLength := 0, lwsRxParseState := .new }

/-- After the last byte of the key, with which an empty frame ends. -/
def collectFrameKey4 (wsi : Wsi) : Option (Wsi × List Callback) :=
  if wsi.rxPacketLength = 0 then spill { wsi with lwsRxParseState := .new } else some (wsi, [])

/-- After a payload byte: the frame has ended, or the buffer is full, or neither. -/
def payloadStored (rxBufferSize : Nat) (wsi : Wsi) : Option (Wsi × List Callback) :=
  if wsi.rxPacketLength = 0 then spill { wsi with lwsRxParseState := .new }
  else if wsi.rxUbuf.length ≠ rxBufferSize then some (wsi, [])
  else spill wsi

/-- `lws_rx_sm`, where nothing stands for -1: the connection is closed. -/
def lwsRxSm (rxBufferSize : Nat) (wsi : Wsi) (c : UInt8) : Option (Wsi × List Callback) :=
  if wsi.socketIsPermanentlyUnusable then none
  else
    match wsi.lwsRxParseState with
    | .new => handleFirst { wsi with allZeroNonce := true } c
    | .mask1 => some (wsi.keyByte 1 c .mask2, [])
    | .mask2 => some (wsi.keyByte 2 c .mask3, [])
    | .mask3 => some ((wsi.keyByte 3 c .frameHdr1).restartMask, [])
    | .frameHdr1 => handleFirst wsi c
    | .frameHdrLen => frameHdrLen { wsi with thisFrameMasked := c &&& 0x80 != 0 } c
    | .frameHdrLen16_2 =>
        some
          ({ wsi with
              rxPacketLength := c.toUInt64 <<< 8
              lwsRxParseState := .frameHdrLen16_1 }, [])
    | .frameHdrLen16_1 => some (wsi.lengthByte c 0 wsi.afterLength, [])
    | .frameHdrLen64_8 =>
        if c &&& 0x80 ≠ 0 then none
        else
          some
            ({ wsi with
                rxPacketLength := c.toUInt64 <<< 56
                lwsRxParseState := .frameHdrLen64_7 }, [])
    | .frameHdrLen64_7 => some (wsi.lengthByte c 48 .frameHdrLen64_6, [])
    | .frameHdrLen64_6 => some (wsi.lengthByte c 40 .frameHdrLen64_5, [])
    | .frameHdrLen64_5 => some (wsi.lengthByte c 32 .frameHdrLen64_4, [])
    | .frameHdrLen64_4 => some (wsi.lengthByte c 24 .frameHdrLen64_3, [])
    | .frameHdrLen64_3 => some (wsi.lengthByte c 16 .frameHdrLen64_2, [])
    | .frameHdrLen64_2 => some (wsi.lengthByte c 8 .frameHdrLen64_1, [])
    | .frameHdrLen64_1 => some (wsi.lengthByte c 0 wsi.afterLength, [])
    | .collectFrameKey1 => some (wsi.keyByte 0 c .collectFrameKey2, [])
    | .collectFrameKey2 => some (wsi.keyByte 1 c .collectFrameKey3, [])
    | .collectFrameKey3 => some (wsi.keyByte 2 c .collectFrameKey4, [])
    | .collectFrameKey4 =>
        collectFrameKey4 (wsi.keyByte 3 c .payloadUntilLengthExhausted).restartMask
    | .payloadUntilLengthExhausted =>
        if rxBufferSize ≤ wsi.rxUbuf.length then none
        else payloadStored rxBufferSize (wsi.store c)

/-! ### A packet -/

/-- The loops that unmask a run of bytes, four at a time and then those that are left. -/
def xorFours (mask : Fin 4 → UInt8) : List UInt8 → List UInt8
  | a :: b :: c :: d :: rest =>
      (a ^^^ mask 0) :: (b ^^^ mask 1) :: (c ^^^ mask 2) :: (d ^^^ mask 3) :: xorFours mask rest
  | [a, b, c] => [a ^^^ mask 0, b ^^^ mask 1, c ^^^ mask 2]
  | [a, b] => [a ^^^ mask 0, b ^^^ mask 1]
  | [a] => [a ^^^ mask 0]
  | [] => []

/-- What is stored of a run of bytes, and the key moved by as many. -/
def Wsi.storeAll (wsi : Wsi) (bytes : List UInt8) : Wsi :=
  { wsi with
    rxUbuf :=
      wsi.rxUbuf ++
        if wsi.allZeroNonce then bytes else xorFours (fun n => wsi.mask (wsi.maskIdx + n)) bytes
    maskIdx :=
      if wsi.allZeroNonce then wsi.maskIdx else wsi.maskIdx + Fin.ofNat 4 bytes.length
    rxPacketLength := wsi.rxPacketLength - UInt64.ofNat bytes.length }

/-- How many bytes `lws_payload_until_length_exhausted` may take: all that fit but one,
which is left to the parser. -/
def bulk (rxBufferSize : Nat) (wsi : Wsi) (buffer : List UInt8) : Nat :=
  min (min (rxBufferSize - wsi.rxUbuf.length) wsi.rxPacketLength.toNat) buffer.length - 1

def lwsPayloadUntilLengthExhausted (rxBufferSize : Nat) (wsi : Wsi) (buffer : List UInt8) :
    Wsi × List UInt8 :=
  (wsi.storeAll (buffer.take (bulk rxBufferSize wsi buffer)),
    buffer.drop (bulk rxBufferSize wsi buffer))

/-- The copy in bulk that goes before the next byte, where the parser is in a payload. -/
def consume (rxBufferSize : Nat) (wsi : Wsi) (buffer : List UInt8) : Wsi × List UInt8 :=
  match wsi.lwsRxParseState with
  | .payloadUntilLengthExhausted => lwsPayloadUntilLengthExhausted rxBufferSize wsi buffer
  | _ => (wsi, buffer)

/-- The callbacks of one byte, each with the number of bytes that the connection has taken
by then, before those of the bytes that follow. The code does not count them. -/
def atPosition (position : Nat) (callbacks : List Callback)
    (others : List (Nat × Callback) × Option Wsi) : List (Nat × Callback) × Option Wsi :=
  (callbacks.map (Prod.mk position) ++ others.1, others.2)

/-- The loop of `lws_interpret_incoming_packet`, which goes round at most once for each byte:
the callbacks made, and the connection where it is not closed. -/
def interpretLoop (rxBufferSize : Nat) :
    Nat → Nat → Wsi → List UInt8 → List (Nat × Callback) × Option Wsi
  | 0, _, wsi, _ => ([], some wsi)
  | rounds + 1, taken, wsi, buffer =>
      match consume rxBufferSize wsi buffer with
      | (wsi, []) => ([], some wsi)
      | (wsi, c :: rest) =>
          match lwsRxSm rxBufferSize wsi c with
          | none => ([], none)
          | some (next, callbacks) =>
              atPosition (taken + (buffer.length - rest.length)) callbacks
                (interpretLoop rxBufferSize rounds (taken + (buffer.length - rest.length)) next
                  rest)

/-- A connection that has taken so many bytes gets a packet. -/
def lwsInterpretIncomingPacket (rxBufferSize taken : Nat) (wsi : Wsi) (buffer : List UInt8) :
    List (Nat × Callback) × Option Wsi :=
  interpretLoop rxBufferSize buffer.length taken wsi buffer

/-- The same packet with every byte given to `lws_rx_sm`. -/
def lwsRxSmEach (rxBufferSize : Nat) :
    Nat → Wsi → List UInt8 → List (Nat × Callback) × Option Wsi
  | _, wsi, [] => ([], some wsi)
  | taken, wsi, c :: rest =>
      match lwsRxSm rxBufferSize wsi c with
      | none => ([], none)
      | some (next, callbacks) =>
          atPosition (taken + 1) callbacks (lwsRxSmEach rxBufferSize (taken + 1) next rest)

/-! ### Keys -/

def bytesOfKey (key : Fin 4 → UInt8) : List UInt8 :=
  [key 0, key 1, key 2, key 3]

/-- A payload masked with a key from one of its bytes on. -/
def maskFrom (key : Fin 4 → UInt8) : Fin 4 → List UInt8 → List UInt8
  | _, [] => []
  | position, byte :: rest => (byte ^^^ key position) :: maskFrom key (position + 1) rest

def maskWith (key : Fin 4 → UInt8) (payload : List UInt8) : List UInt8 :=
  maskFrom key 0 payload

/-- The connection with the first three bytes of a key. -/
def Wsi.keyedThree (wsi : Wsi) (key : Fin 4 → UInt8) : Wsi :=
  ((wsi.keyByte 0 (key 0) .collectFrameKey2).keyByte 1 (key 1) .collectFrameKey3).keyByte 2
    (key 2) .collectFrameKey4

/-- The connection with the whole key. -/
def Wsi.keyed (wsi : Wsi) (key : Fin 4 → UInt8) : Wsi :=
  ((wsi.keyedThree key).keyByte 3 (key 3) .payloadUntilLengthExhausted).restartMask

/-! ### The copy in bulk changes nothing -/

private theorem xorFours_cons (mask : Fin 4 → UInt8) (c : UInt8) :
    ∀ bytes : List UInt8,
      xorFours mask (c :: bytes) = (c ^^^ mask 0) :: xorFours (fun n => mask (n + 1)) bytes
  | [] => rfl
  | [_] => rfl
  | [_, _] => rfl
  | [_, _, _] => rfl
  | _ :: _ :: _ :: d :: rest => by
      -- the key has come round with the fourth byte
      have later := xorFours_cons mask d rest
      rw [xorFours, later, xorFours]
      rfl

theorem Wsi.storeAll_nil (wsi : Wsi) : wsi.storeAll [] = wsi := by
  simp [Wsi.storeAll, xorFours]

theorem Wsi.storeAll_cons (wsi : Wsi) (c : UInt8) (bytes : List UInt8) :
    wsi.storeAll (c :: bytes) = (wsi.store c).storeAll bytes := by
  have counted : wsi.rxPacketLength - UInt64.ofNat (bytes.length + 1) =
      wsi.rxPacketLength - 1 - UInt64.ofNat bytes.length := by
    rw [UInt64.ofNat_add, UInt64.add_comm, UInt64.sub_eq_add_neg, UInt64.neg_add,
      UInt64.sub_eq_add_neg, ← UInt64.add_assoc, ← UInt64.sub_eq_add_neg, ← UInt64.sub_eq_add_neg]
    rfl
  have moved : wsi.maskIdx + Fin.ofNat 4 (bytes.length + 1) =
      wsi.maskIdx + 1 + Fin.ofNat 4 bytes.length := by
    apply Fin.ext
    simp only [Fin.ofNat, Fin.val_add]
    omega
  have turned (n : Fin 4) : wsi.maskIdx + (n + 1) = wsi.maskIdx + 1 + n := by
    apply Fin.ext
    simp only [Fin.val_add]
    omega
  have first : wsi.maskIdx + 0 = wsi.maskIdx := Fin.add_zero wsi.maskIdx
  cases nonce : wsi.allZeroNonce with
  | true =>
      simp only [Wsi.storeAll, Wsi.store, nonce, if_true, List.length_cons, counted,
        List.append_assoc, List.singleton_append]
  | false =>
      simp only [Wsi.storeAll, Wsi.store, nonce, Bool.false_eq_true, if_false, List.length_cons,
        counted, moved, xorFours_cons, turned, first, List.append_assoc, List.singleton_append]

/-- Bytes that neither end the frame nor fill the buffer are stored and nothing else. -/
theorem lwsRxSmEach_stored (rxBufferSize taken : Nat) (wsi : Wsi) (bytes rest : List UInt8)
    (usable : wsi.socketIsPermanentlyUnusable = false)
    (inside : wsi.lwsRxParseState = .payloadUntilLengthExhausted)
    (room : wsi.rxUbuf.length + bytes.length < rxBufferSize)
    (unfinished : bytes.length < wsi.rxPacketLength.toNat) :
    lwsRxSmEach rxBufferSize taken wsi (bytes ++ rest) =
      lwsRxSmEach rxBufferSize (taken + bytes.length) (wsi.storeAll bytes) rest := by
  induction bytes generalizing wsi taken with
  | nil => rw [Wsi.storeAll_nil, List.nil_append, List.length_nil, Nat.add_zero]
  | cons c bytes ih =>
      rw [List.length_cons] at room unfinished
      have left : (wsi.store c).rxPacketLength.toNat = wsi.rxPacketLength.toNat - 1 := by
        apply UInt64.toNat_sub_of_le
        rw [UInt64.le_iff_toNat_le]
        exact Nat.one_le_of_lt unfinished
      have longer : (wsi.store c).rxUbuf.length = wsi.rxUbuf.length + 1 := by simp [Wsi.store]
      have more : (wsi.store c).rxPacketLength ≠ 0 := by
        intro zero
        rw [zero] at left
        simp only [UInt64.toNat_zero] at left
        omega
      have one : lwsRxSm rxBufferSize wsi c = some (wsi.store c, []) := by
        rw [lwsRxSm, usable, inside]
        simp only [Bool.false_eq_true, if_false]
        rw [if_neg (by omega), payloadStored, if_neg more, if_pos (by omega)]
      have counted : taken + (c :: bytes).length = taken + 1 + bytes.length := by
        rw [List.length_cons]
        omega
      rw [List.cons_append, lwsRxSmEach, one, Wsi.storeAll_cons, counted,
        ← ih (taken + 1) (wsi.store c) usable inside (by omega) (by omega)]
      rfl

private theorem lwsRxSmEach_unusable (rxBufferSize taken : Nat) (wsi : Wsi) (c : UInt8)
    (rest : List UInt8) (unusable : wsi.socketIsPermanentlyUnusable = true) :
    lwsRxSmEach rxBufferSize taken wsi (c :: rest) = ([], none) := by
  rw [lwsRxSmEach, lwsRxSm, unusable]
  rfl

/-- What a round copies ends before the last byte of the packet, and the bytes copied may as
well be given to the parser. -/
theorem consume_spec (rxBufferSize : Nat) (wsi : Wsi) (buffer : List UInt8)
    (more : buffer ≠ []) :
    ∃ copied c rest mid, buffer = copied ++ c :: rest ∧
      consume rxBufferSize wsi buffer = (mid, c :: rest) ∧
      ∀ taken, lwsRxSmEach rxBufferSize taken wsi buffer =
        lwsRxSmEach rxBufferSize (taken + copied.length) mid (c :: rest) := by
  by_cases inside : wsi.lwsRxParseState = .payloadUntilLengthExhausted
  · have copies : consume rxBufferSize wsi buffer =
        (wsi.storeAll (buffer.take (bulk rxBufferSize wsi buffer)),
          buffer.drop (bulk rxBufferSize wsi buffer)) := by
      rw [consume, inside]
      rfl
    have short : bulk rxBufferSize wsi buffer < buffer.length := by
      have length := List.length_pos_iff.mpr more
      rw [bulk]
      omega
    obtain ⟨c, rest, remains⟩ := List.exists_cons_of_ne_nil
      (List.ne_nil_of_length_pos (by rw [List.length_drop]; omega) :
        buffer.drop (bulk rxBufferSize wsi buffer) ≠ [])
    have parts : buffer =
        buffer.take (bulk rxBufferSize wsi buffer) ++ c :: rest := by
      rw [← remains, List.take_append_drop]
    have length : (buffer.take (bulk rxBufferSize wsi buffer)).length =
        bulk rxBufferSize wsi buffer := List.length_take_of_le (Nat.le_of_lt short)
    refine ⟨_, c, rest, _, parts, remains ▸ copies, fun taken => ?_⟩
    cases usable : wsi.socketIsPermanentlyUnusable with
    | true =>
        obtain ⟨first, others, shape⟩ := List.exists_cons_of_ne_nil more
        rw [lwsRxSmEach_unusable _ _ (wsi.storeAll _) c rest usable, shape]
        exact lwsRxSmEach_unusable _ _ wsi first others usable
    | false =>
        by_cases nothing : bulk rxBufferSize wsi buffer = 0
        · rw [nothing, List.drop_zero] at remains
          rw [nothing, List.take_zero, Wsi.storeAll_nil, remains]
          rfl
        · have stored := lwsRxSmEach_stored rxBufferSize taken wsi
            (buffer.take (bulk rxBufferSize wsi buffer)) (c :: rest) usable inside
            (by rw [length]; rw [bulk] at nothing ⊢; omega)
            (by rw [length]; rw [bulk] at nothing ⊢; omega)
          rw [← parts] at stored
          exact stored
  · obtain ⟨c, rest, shape⟩ := List.exists_cons_of_ne_nil more
    refine ⟨[], c, rest, wsi, shape, ?_, fun taken => by rw [shape]; rfl⟩
    rw [← shape, consume]
    split
    · contradiction
    · rfl

private theorem interpretLoop_eq (rxBufferSize : Nat) (rounds taken : Nat) (wsi : Wsi)
    (buffer : List UInt8) (enough : buffer.length ≤ rounds) :
    interpretLoop rxBufferSize rounds taken wsi buffer =
      lwsRxSmEach rxBufferSize taken wsi buffer := by
  induction rounds generalizing taken wsi buffer with
  | zero =>
      rw [List.eq_nil_of_length_eq_zero (Nat.le_zero.mp enough)]
      rfl
  | succ rounds ih =>
      by_cases more : buffer = []
      · have copies : consume rxBufferSize wsi [] = (wsi, []) := by
          rw [consume]
          split
          · rw [lwsPayloadUntilLengthExhausted, List.take_nil, Wsi.storeAll_nil, List.drop_nil]
          · rfl
        rw [more, interpretLoop, copies]
        rfl
      · obtain ⟨copied, c, rest, mid, parts, copies, same⟩ :=
          consume_spec rxBufferSize wsi buffer more
        have length : buffer.length = copied.length + (rest.length + 1) := by
          rw [parts, List.length_append, List.length_cons]
        have position : taken + (buffer.length - rest.length) = taken + copied.length + 1 := by
          omega
        rw [same, interpretLoop, copies, lwsRxSmEach]
        dsimp only
        cases lwsRxSm rxBufferSize mid c with
        | none => rfl
        | some answer =>
            obtain ⟨next, callbacks⟩ := answer
            dsimp only
            rw [position, ih (taken + copied.length + 1) next rest (by omega)]

/-- However a packet is copied, the callbacks and the connection left are those of its bytes
given to `lws_rx_sm` one after the other. -/
theorem lwsInterpretIncomingPacket_eq (rxBufferSize taken : Nat) (wsi : Wsi)
    (buffer : List UInt8) :
    lwsInterpretIncomingPacket rxBufferSize taken wsi buffer =
      lwsRxSmEach rxBufferSize taken wsi buffer :=
  interpretLoop_eq rxBufferSize buffer.length taken wsi buffer Nat.le.refl

end Libwebsockets
end JSCameraKit

import JSCameraKit.Library.Chunks
import JSCameraKit.Libwebsockets.Reads
import Mathlib.Tactic.Ring

set_option autoImplicit false

/-! The frames that a peer sends, and what the parser makes of each: the payload cut at the
size of the buffer where it is part of a message, and of a control frame nothing that looks
like one. A message may come in any number of frames, with control frames between them. -/

namespace JSCameraKit
namespace Libwebsockets

open Chunks (cut)

/-! ### Frames as they are sent -/

def Opcode.code : Opcode → UInt8
  | .continuation => 0
  | .textFrame => 1
  | .binaryFrame => 2
  | .close => 8
  | .ping => 9
  | .pong => 10

def headerByte (opcode : Opcode) (final : Bool) : UInt8 :=
  (if final then 0x80 else 0) ||| opcode.code

/-- The payload length in as few bytes as possible, with the bit that announces a key. -/
def lengthBytes (masked : Bool) (length : Nat) : List UInt8 :=
  if length < 126 then [(if masked then 0x80 else 0) ||| UInt8.ofNat length]
  else if length < 2 ^ 16 then
    [(if masked then 0x80 else 0) ||| 126, UInt8.ofNat (length / 2 ^ 8), UInt8.ofNat length]
  else
    [(if masked then 0x80 else 0) ||| 127, UInt8.ofNat (length / 2 ^ 56),
      UInt8.ofNat (length / 2 ^ 48), UInt8.ofNat (length / 2 ^ 40), UInt8.ofNat (length / 2 ^ 32),
      UInt8.ofNat (length / 2 ^ 24), UInt8.ofNat (length / 2 ^ 16), UInt8.ofNat (length / 2 ^ 8),
      UInt8.ofNat length]

def keyBytes : Option (Fin 4 → UInt8) → List UInt8
  | none => []
  | some key => bytesOfKey key

def maskPayload (key : Option (Fin 4 → UInt8)) (payload : List UInt8) : List UInt8 :=
  match key with
  | none => payload
  | some key => maskWith key payload

def encodeFrame (opcode : Opcode) (final : Bool) (key : Option (Fin 4 → UInt8))
    (payload : List UInt8) : List UInt8 :=
  headerByte opcode final ::
    (lengthBytes key.isSome payload.length ++ (keyBytes key ++ maskPayload key payload))

/-! ### The parser between two frames and inside one -/

/-- The parser inside the frame of an opcode that is no close, with what it holds of the
payload. -/
structure Wsi.Inside (wsi : Wsi) (parse : LwsRxps) (opcode : Opcode) (binary : Bool)
    (held : List UInt8) : Prop where
  parse : wsi.lwsRxParseState = parse
  established : wsi.state = .established
  usable : wsi.socketIsPermanentlyUnusable = false
  opcode : wsi.opcode = opcode
  binary : wsi.frameIsBinary = binary
  held : wsi.rxUbuf = held

/-- The parser before the first byte of a frame. -/
structure Wsi.Idle (wsi : Wsi) (binary : Bool) : Prop where
  parse : wsi.lwsRxParseState = .new
  established : wsi.state = .established
  usable : wsi.socketIsPermanentlyUnusable = false
  binary : wsi.frameIsBinary = binary
  held : wsi.rxUbuf = []

theorem Wsi.fresh_idle : Wsi.fresh.Idle false :=
  { parse := rfl
    established := rfl
    usable := rfl
    binary := rfl
    held := rfl }

variable {rxBufferSize : Nat} {wsi : Wsi} {opcode : Opcode} {binary : Bool}

/-- What the user callback is told when a buffer is spilled. -/
def spilled (opcode : Opcode) (binary : Bool) (data : List UInt8) : List Callback :=
  match opcode with
  | .close | .ping => []
  | .pong => [{ reason := .receivePong, frameIsBinary := binary, data := data }]
  | .textFrame | .binaryFrame | .continuation =>
      if data = [] then [] else [{ reason := .receive, frameIsBinary := binary, data := data }]

private theorem passUp_receive {parse : LwsRxps} {held : List UInt8}
    (inside : wsi.Inside parse opcode binary held) :
    passUp .receive wsi =
      if held = [] then []
      else [{ reason := .receive, frameIsBinary := binary, data := held }] := by
  rw [passUp, inside.established, inside.binary, inside.held]
  by_cases empty : held = []
  · simp [empty]
  · simp [empty]

theorem Wsi.Inside.spill {parse : LwsRxps} {held : List UInt8}
    (inside : wsi.Inside parse opcode binary held) (open_ : opcode ≠ .close) :
    ∃ next, Libwebsockets.spill wsi = some (next, spilled opcode binary held) ∧
      next.Like { wsi with rxUbuf := [] } := by
  have of := inside.opcode
  cases opcode with
  | close => exact absurd rfl open_
  | ping => exact spill_ping wsi of
  | pong =>
      have told : passUp .receivePong wsi = spilled .pong binary held := by
        rw [passUp, inside.established, inside.binary, inside.held]
        simp [spilled]
      rw [Libwebsockets.spill, of]
      exact ⟨_, congrArg (fun told => some (_, told)) told, rfl⟩
  | textFrame =>
      rw [Libwebsockets.spill, of]
      exact ⟨_, congrArg (fun told => some (_, told)) (passUp_receive inside), rfl⟩
  | binaryFrame =>
      rw [Libwebsockets.spill, of]
      exact ⟨_, congrArg (fun told => some (_, told)) (passUp_receive inside), rfl⟩
  | continuation =>
      rw [Libwebsockets.spill, of]
      exact ⟨_, congrArg (fun told => some (_, told)) (passUp_receive inside), rfl⟩

theorem Wsi.Inside.emptied {parse : LwsRxps} {held : List UInt8} {next : Wsi}
    (inside : wsi.Inside parse opcode binary held) (like : next.Like { wsi with rxUbuf := [] }) :
    next.Inside parse opcode binary [] := by
  rw [like.eq_transmitted]
  exact { inside with held := rfl }

theorem Wsi.Inside.idle (inside : wsi.Inside .new opcode binary []) : wsi.Idle binary :=
  { inside with }

/-! ### The header -/

/-- What `lws_frame_is_binary` answers behind a header. -/
def Opcode.binaryAfter (before : Bool) : Opcode → Bool
  | .textFrame => false
  | .binaryFrame => true
  | _ => before

theorem Opcode.ofHeader_headerByte (opcode : Opcode) (final : Bool) :
    Opcode.ofHeader (headerByte opcode final) = some opcode := by
  cases opcode <;> cases final <;> rfl

private theorem reads_headerByte (idle : wsi.Idle binary) (opcode : Opcode) (final : Bool) :
    ∃ next, Reads rxBufferSize wsi [headerByte opcode final] [] next ∧
      next.Inside .frameHdrLen opcode (opcode.binaryAfter binary) [] ∧
      next.allZeroNonce = true := by
  have answer : lwsRxSm rxBufferSize wsi (headerByte opcode final) =
      handleFirst { wsi with allZeroNonce := true } (headerByte opcode final) := by
    rw [lwsRxSm, idle.usable, idle.parse]
    rfl
  rw [handleFirst, Opcode.ofHeader_headerByte] at answer
  refine ⟨_, .one answer idle.established, ?_, rfl⟩
  exact
    { parse := rfl
      established := idle.established
      usable := idle.usable
      opcode := rfl
      binary := by
        rw [← idle.binary]
        cases opcode <;> rfl
      held := idle.held }

/-- The parser behind a byte of the length, with what it has of it. -/
structure Wsi.Counted (wsi : Wsi) (parse : LwsRxps) (opcode : Opcode) (binary masked : Bool)
    (length : Nat) : Prop extends wsi.Inside parse opcode binary [] where
  masked : wsi.thisFrameMasked = masked
  remaining : wsi.rxPacketLength.toNat = length
  nonce : wsi.allZeroNonce = true

private theorem lengthByte_and (masked : Bool) (low : UInt8) (small : low.toNat < 128) :
    ((if masked then 0x80 else 0) ||| low) &&& 0x7f = low ∧
      (((if masked then 0x80 else 0) ||| low) &&& 0x80 != 0) = masked := by
  have all : ∀ (low : Fin 128) (masked : Bool),
      ((if masked then 0x80 else 0) ||| UInt8.ofNat low) &&& 0x7f = UInt8.ofNat low ∧
        (((if masked then 0x80 else 0) ||| UInt8.ofNat low) &&& 0x80 != 0) = masked := by
    decide
  have found := all ⟨low.toNat, small⟩ masked
  rw [UInt8.ofNat_toNat] at found
  exact found

private theorem toNat_lengthByte {length shift : Nat} (narrow : shift + 8 ≤ 64) (before : UInt64)
    (value : before.toNat = length / 2 ^ (shift + 8) * 2 ^ (shift + 8)) :
    (before ||| (UInt8.ofNat (length / 2 ^ shift)).toUInt64 <<< UInt64.ofNat shift).toNat =
      length / 2 ^ shift * 2 ^ shift := by
  have low : length / 2 ^ shift % 2 ^ 8 < 2 ^ 8 := Nat.mod_lt _ (by decide)
  have small : length / 2 ^ shift % 2 ^ 8 * 2 ^ shift < 2 ^ (shift + 8) := by
    rw [Nat.pow_add, Nat.mul_comm]
    exact Nat.mul_lt_mul_of_pos_left low (Nat.two_pow_pos shift)
  have fits : length / 2 ^ shift % 2 ^ 8 * 2 ^ shift < 2 ^ 64 :=
    Nat.lt_of_lt_of_le small (Nat.pow_le_pow_right (by decide) narrow)
  have shifted : ((UInt8.ofNat (length / 2 ^ shift)).toUInt64 <<< UInt64.ofNat shift).toNat =
      length / 2 ^ shift % 2 ^ 8 * 2 ^ shift := by
    rw [UInt64.toNat_shiftLeft, UInt8.toNat_toUInt64, UInt8.toNat_ofNat', UInt64.toNat_ofNat',
      Nat.shiftLeft_eq, Nat.mod_eq_of_lt (by omega : shift < 2 ^ 64),
      Nat.mod_eq_of_lt (by omega : shift < 64), Nat.mod_eq_of_lt fits]
  have upper : length / 2 ^ (shift + 8) = length / 2 ^ shift / 2 ^ 8 := by
    rw [Nat.pow_add, Nat.div_div_eq_div_mul]
  rw [UInt64.toNat_or, shifted, value, Nat.mul_comm, ← Nat.two_pow_add_eq_or_of_lt small, upper,
    Nat.pow_add]
  calc 2 ^ shift * 2 ^ 8 * (length / 2 ^ shift / 2 ^ 8) + length / 2 ^ shift % 2 ^ 8 * 2 ^ shift
      = (2 ^ 8 * (length / 2 ^ shift / 2 ^ 8) + length / 2 ^ shift % 2 ^ 8) * 2 ^ shift := by ring
    _ = length / 2 ^ shift * 2 ^ shift := by rw [Nat.div_add_mod]

def behindLength (masked : Bool) : LwsRxps :=
  if masked then .collectFrameKey1 else .payloadUntilLengthExhausted

private theorem lwsRxSm_frameHdrLen (rxBufferSize : Nat) {held : List UInt8} {masked : Bool}
    (c : UInt8)
    (inside : wsi.Inside .frameHdrLen opcode binary held) (bit : (c &&& 0x80 != 0) = masked) :
    lwsRxSm rxBufferSize wsi c = frameHdrLen { wsi with thisFrameMasked := masked } c := by
  subst bit
  rw [lwsRxSm, inside.usable, inside.parse]
  rfl

private theorem toNat_firstLengthByte {length shift : Nat} (narrow : shift + 8 ≤ 64)
    (small : length < 2 ^ (shift + 8)) :
    ((UInt8.ofNat (length / 2 ^ shift)).toUInt64 <<< UInt64.ofNat shift).toNat =
      length / 2 ^ shift * 2 ^ shift := by
  have start : (0 : UInt64).toNat = length / 2 ^ (shift + 8) * 2 ^ (shift + 8) := by
    rw [Nat.div_eq_of_lt small, Nat.zero_mul]
    rfl
  have value := toNat_lengthByte narrow 0 start
  rw [UInt64.zero_or] at value
  exact value

private theorem reads_lengthBytes_short (rxBufferSize : Nat) {length : Nat}
    (inside : wsi.Inside .frameHdrLen opcode binary []) (nonce : wsi.allZeroNonce = true)
    (masked : Bool) (short : length < 126) (kept : masked = true ∨ length ≠ 0) :
    ∃ next, Reads rxBufferSize wsi (lengthBytes masked length) [] next ∧
      next.Counted (behindLength masked) opcode binary masked length := by
  have small : (UInt8.ofNat length).toNat = length := by
    rw [UInt8.toNat_ofNat']
    omega
  obtain ⟨low, bit⟩ := lengthByte_and masked (UInt8.ofNat length) (by omega)
  have notLong : UInt8.ofNat length ≠ 126 := by
    intro same
    rw [same] at small
    simp only [UInt8.reduceToNat] at small
    omega
  have notLonger : UInt8.ofNat length ≠ 127 := by
    intro same
    rw [same] at small
    simp only [UInt8.reduceToNat] at small
    omega
  have value : (UInt8.ofNat length).toUInt64.toNat = length := by
    rw [UInt8.toNat_toUInt64]
    exact small
  have answer := lwsRxSm_frameHdrLen rxBufferSize _ inside bit
  rw [frameHdrLen, low, if_neg notLong, if_neg notLonger] at answer
  rw [lengthBytes, if_pos short]
  cases masked with
  | true =>
      refine ⟨_, .one answer inside.established, ?_⟩
      exact { inside with parse := rfl, masked := rfl, remaining := value, nonce := nonce }
  | false =>
      have positive : UInt8.ofNat length ≠ 0 := by
        intro zero
        rw [zero] at small
        exact absurd small.symm (kept.resolve_left Bool.false_ne_true)
      simp only [Bool.false_eq_true, if_false, if_pos positive] at answer
      refine ⟨_, .one answer inside.established, ?_⟩
      exact { inside with parse := rfl, masked := rfl, remaining := value, nonce := nonce }

private theorem reads_extended (rxBufferSize : Nat) {low : UInt8} {parse : LwsRxps}
    (inside : wsi.Inside .frameHdrLen opcode binary []) (nonce : wsi.allZeroNonce = true)
    (masked : Bool) (data : wsi.opcode.isControl = false)
    (extended : low = 126 ∧ parse = .frameHdrLen16_2 ∨ low = 127 ∧ parse = .frameHdrLen64_8) :
    ∃ next, Reads rxBufferSize wsi [(if masked then 0x80 else 0) ||| low] [] next ∧
      next.Inside parse opcode binary [] ∧ next.thisFrameMasked = masked ∧
      next.allZeroNonce = true := by
  cases extended with
  | inl two =>
      rw [two.1, two.2]
      obtain ⟨kept, bit⟩ := lengthByte_and masked 126 (by decide)
      have chosen := lwsRxSm_frameHdrLen rxBufferSize _ inside bit
      rw [frameHdrLen, kept, if_pos rfl, data, if_neg Bool.false_ne_true] at chosen
      exact ⟨_, .one chosen inside.established, { inside with parse := rfl }, rfl, nonce⟩
  | inr eight =>
      rw [eight.1, eight.2]
      obtain ⟨kept, bit⟩ := lengthByte_and masked 127 (by decide)
      have chosen := lwsRxSm_frameHdrLen rxBufferSize _ inside bit
      have other : ¬(127 : UInt8) = 126 := by decide
      rw [frameHdrLen, kept, if_neg other, if_pos rfl, data, if_neg Bool.false_ne_true] at chosen
      exact ⟨_, .one chosen inside.established, { inside with parse := rfl }, rfl, nonce⟩

theorem Wsi.Inside.reads_firstLengthByte {parse : LwsRxps} {masked : Bool}
    (inside : wsi.Inside parse opcode binary []) (rxBufferSize length shift : Nat)
    (next : LwsRxps) (flagged : wsi.thisFrameMasked = masked)
    (nonce : wsi.allZeroNonce = true) (narrow : shift + 8 ≤ 64) (small : length < 2 ^ (shift + 8))
    (answer : lwsRxSm rxBufferSize wsi (UInt8.ofNat (length / 2 ^ shift)) =
      some
        ({ wsi with
            rxPacketLength :=
              (UInt8.ofNat (length / 2 ^ shift)).toUInt64 <<< UInt64.ofNat shift
            lwsRxParseState := next }, [])) :
    ∃ after, Reads rxBufferSize wsi [UInt8.ofNat (length / 2 ^ shift)] [] after ∧
      after.Counted next opcode binary masked (length / 2 ^ shift * 2 ^ shift) := by
  refine ⟨_, .one answer inside.established, ?_⟩
  exact
    { inside with
      parse := rfl
      masked := flagged
      remaining := toNat_firstLengthByte narrow small
      nonce := nonce }

theorem Wsi.Counted.reads_lengthByte {parse : LwsRxps} {masked : Bool} {length : Nat}
    (rxBufferSize shift : Nat) (next : LwsRxps)
    (counted : wsi.Counted parse opcode binary masked
      (length / 2 ^ (shift + 8) * 2 ^ (shift + 8)))
    (narrow : shift + 8 ≤ 64)
    (answer : ∀ c, lwsRxSm rxBufferSize wsi c =
      some (wsi.lengthByte c (UInt64.ofNat shift) next, [])) :
    ∃ after, Reads rxBufferSize wsi [UInt8.ofNat (length / 2 ^ shift)] [] after ∧
      after.Counted next opcode binary masked (length / 2 ^ shift * 2 ^ shift) := by
  refine ⟨_, .one (answer _) counted.established, ?_⟩
  exact
    { counted with
      parse := rfl
      remaining := toNat_lengthByte narrow _ counted.remaining }

theorem Wsi.Counted.reads_lastLengthByte {parse : LwsRxps} {masked : Bool} {length : Nat}
    (counted : wsi.Counted parse opcode binary masked (length / 2 ^ 8 * 2 ^ 8))
    (rxBufferSize : Nat)
    (answer : ∀ c, lwsRxSm rxBufferSize wsi c = some (wsi.lengthByte c 0 wsi.afterLength, [])) :
    ∃ after, Reads rxBufferSize wsi [UInt8.ofNat length] [] after ∧
      after.Counted (behindLength masked) opcode binary masked length := by
  have behind : wsi.afterLength = behindLength masked := by
    rw [Wsi.afterLength, counted.masked]
    rfl
  rw [behind] at answer
  obtain ⟨after, reads, value⟩ := counted.reads_lengthByte rxBufferSize 0 _ (by omega) answer
  rw [Nat.pow_zero, Nat.div_one, Nat.mul_one] at value
  rw [Nat.pow_zero, Nat.div_one] at reads
  exact ⟨after, reads, value⟩

private theorem reads_lengthBytes_16 (rxBufferSize : Nat) {length : Nat}
    (inside : wsi.Inside .frameHdrLen opcode binary []) (nonce : wsi.allZeroNonce = true)
    (masked : Bool) (data : wsi.opcode.isControl = false) (long : ¬length < 126)
    (short : length < 2 ^ 16) :
    ∃ next, Reads rxBufferSize wsi (lengthBytes masked length) [] next ∧
      next.Counted (behindLength masked) opcode binary masked length := by
  obtain ⟨chosen, first, insideChosen, flagged, nonceChosen⟩ :=
    reads_extended rxBufferSize inside nonce masked data (.inl ⟨rfl, rfl⟩)
  obtain ⟨upper, second, countedUpper⟩ :=
    insideChosen.reads_firstLengthByte rxBufferSize length 8 .frameHdrLen16_1 flagged nonceChosen
      (by omega) short (by
        rw [lwsRxSm, insideChosen.usable, insideChosen.parse]
        rfl)
  obtain ⟨next, last, counted⟩ := countedUpper.reads_lastLengthByte rxBufferSize fun c => by
    rw [lwsRxSm, countedUpper.usable, countedUpper.parse]
    rfl
  rw [lengthBytes, if_neg long, if_pos short]
  exact ⟨next, first.append (second.append last), counted⟩

private theorem reads_lengthBytes_64 (rxBufferSize : Nat) {length : Nat}
    (inside : wsi.Inside .frameHdrLen opcode binary []) (nonce : wsi.allZeroNonce = true)
    (masked : Bool) (data : wsi.opcode.isControl = false) (long : ¬length < 126)
    (longer : ¬length < 2 ^ 16) (bounded : length < 2 ^ 63) :
    ∃ next, Reads rxBufferSize wsi (lengthBytes masked length) [] next ∧
      next.Counted (behindLength masked) opcode binary masked length := by
  obtain ⟨chosen, first, insideChosen, flagged, nonceChosen⟩ :=
    reads_extended rxBufferSize inside nonce masked data (.inr ⟨rfl, rfl⟩)
  have positive : UInt8.ofNat (length / 2 ^ 56) &&& 0x80 = 0 := by
    have all : ∀ upper : Fin 128, UInt8.ofNat upper &&& 0x80 = 0 := by decide
    exact all ⟨length / 2 ^ 56, by omega⟩
  obtain ⟨w7, read8, counted8⟩ :=
    insideChosen.reads_firstLengthByte rxBufferSize length 56 .frameHdrLen64_7 flagged nonceChosen
      (by omega) (by omega) (by
        rw [lwsRxSm, insideChosen.usable, insideChosen.parse]
        simp only [positive]
        rfl)
  obtain ⟨w6, read7, counted7⟩ :=
    counted8.reads_lengthByte rxBufferSize 48 .frameHdrLen64_6 (by omega) fun c => by
      rw [lwsRxSm, counted8.usable, counted8.parse]
      rfl
  obtain ⟨w5, read6, counted6⟩ :=
    counted7.reads_lengthByte rxBufferSize 40 .frameHdrLen64_5 (by omega) fun c => by
      rw [lwsRxSm, counted7.usable, counted7.parse]
      rfl
  obtain ⟨w4, read5, counted5⟩ :=
    counted6.reads_lengthByte rxBufferSize 32 .frameHdrLen64_4 (by omega) fun c => by
      rw [lwsRxSm, counted6.usable, counted6.parse]
      rfl
  obtain ⟨w3, read4, counted4⟩ :=
    counted5.reads_lengthByte rxBufferSize 24 .frameHdrLen64_3 (by omega) fun c => by
      rw [lwsRxSm, counted5.usable, counted5.parse]
      rfl
  obtain ⟨w2, read3, counted3⟩ :=
    counted4.reads_lengthByte rxBufferSize 16 .frameHdrLen64_2 (by omega) fun c => by
      rw [lwsRxSm, counted4.usable, counted4.parse]
      rfl
  obtain ⟨w1, read2, counted2⟩ :=
    counted3.reads_lengthByte rxBufferSize 8 .frameHdrLen64_1 (by omega) fun c => by
      rw [lwsRxSm, counted3.usable, counted3.parse]
      rfl
  obtain ⟨next, read1, counted⟩ := counted2.reads_lastLengthByte rxBufferSize fun c => by
    rw [lwsRxSm, counted2.usable, counted2.parse]
    rfl
  rw [lengthBytes, if_neg long, if_neg longer]
  exact ⟨next, first.append (read8.append (read7.append (read6.append (read5.append
    (read4.append (read3.append (read2.append read1))))))), counted⟩

private theorem reads_lengthBytes (rxBufferSize : Nat) {length : Nat}
    (inside : wsi.Inside .frameHdrLen opcode binary []) (nonce : wsi.allZeroNonce = true)
    (masked : Bool) (allowed : opcode.isControl = true → length < 126)
    (bounded : length < 2 ^ 63) (kept : masked = true ∨ length ≠ 0) :
    ∃ next, Reads rxBufferSize wsi (lengthBytes masked length) [] next ∧
      next.Counted (behindLength masked) opcode binary masked length := by
  by_cases short : length < 126
  · exact reads_lengthBytes_short rxBufferSize inside nonce masked short kept
  · have data : wsi.opcode.isControl = false := by
      rw [inside.opcode]
      exact Bool.eq_false_iff.mpr fun control => short (allowed control)
    by_cases two : length < 2 ^ 16
    · exact reads_lengthBytes_16 rxBufferSize inside nonce masked data short two
    · exact reads_lengthBytes_64 rxBufferSize inside nonce masked data short two bounded

private theorem reads_lengthBytes_empty (rxBufferSize : Nat)
    (inside : wsi.Inside .frameHdrLen opcode binary []) (stays : opcode ≠ .close) :
    ∃ next, Reads rxBufferSize wsi (lengthBytes false 0) (spilled opcode binary []) next ∧
      next.Idle binary := by
  obtain ⟨low, bit⟩ := lengthByte_and false 0 (by decide)
  have answer := lwsRxSm_frameHdrLen rxBufferSize _ inside bit
  have ended : ({ wsi with
      thisFrameMasked := false, rxPacketLength := 0, lwsRxParseState := .new } :
        Wsi).Inside .new opcode binary [] := { inside with parse := rfl }
  obtain ⟨next, spills, like⟩ := ended.spill stays
  rw [frameHdrLen, low] at answer
  have empty := (ended.emptied like).idle
  exact ⟨next, .one (answer.trans spills) empty.established, empty⟩

/-! ### The key -/

/-- The payload bytes that follow are unmasked with the key from a position on. -/
def Wsi.Unmasks (wsi : Wsi) (key : Fin 4 → UInt8) (position : Fin 4) : Prop :=
  if wsi.allZeroNonce then key = fun _ => 0 else wsi.mask = key ∧ wsi.maskIdx = position

theorem Wsi.keyed_unmasks (wsi : Wsi) (key : Fin 4 → UInt8) (nonce : wsi.allZeroNonce = true) :
    (wsi.keyed key).Unmasks key 0 := by
  rw [Wsi.Unmasks]
  split
  · rename_i zero
    simp only [Wsi.keyed, Wsi.keyedThree, Wsi.keyByte, Wsi.restartMask, nonce, Bool.true_and,
      Bool.and_eq_true, beq_iff_eq] at zero
    funext position
    match position with
    | 0 => exact zero.1.1.1
    | 1 => exact zero.1.1.2
    | 2 => exact zero.1.2
    | 3 => exact zero.2
  · refine ⟨?_, rfl⟩
    funext position
    match position with
    | 0 => rfl
    | 1 => rfl
    | 2 => rfl
    | 3 => rfl

private theorem reads_keyBytes {masked : Bool} {length : Nat} {callbacks : List Callback}
    {next : Wsi}
    (rxBufferSize : Nat) (key : Fin 4 → UInt8)
    (counted : wsi.Counted .collectFrameKey1 opcode binary masked length)
    (answer : collectFrameKey4 (wsi.keyed key) = some (next, callbacks))
    (established : next.state = .established) :
    Reads rxBufferSize wsi (keyBytes (some key)) callbacks next := by
  have one : lwsRxSm rxBufferSize wsi (key 0) =
      some (wsi.keyByte 0 (key 0) .collectFrameKey2, []) := by
    rw [lwsRxSm, counted.usable, counted.parse]
    rfl
  have usable : (wsi.keyByte 0 (key 0) .collectFrameKey2).socketIsPermanentlyUnusable = false :=
    counted.usable
  have two : lwsRxSm rxBufferSize (wsi.keyByte 0 (key 0) .collectFrameKey2) (key 1) =
      some ((wsi.keyByte 0 (key 0) .collectFrameKey2).keyByte 1 (key 1) .collectFrameKey3,
        []) := by
    rw [lwsRxSm, usable]
    rfl
  have usableTwo : ((wsi.keyByte 0 (key 0) .collectFrameKey2).keyByte 1 (key 1)
      .collectFrameKey3).socketIsPermanentlyUnusable = false := usable
  have three : lwsRxSm rxBufferSize
      ((wsi.keyByte 0 (key 0) .collectFrameKey2).keyByte 1 (key 1) .collectFrameKey3) (key 2) =
        some (wsi.keyedThree key, []) := by
    rw [lwsRxSm, usableTwo]
    rfl
  have usableThree : (wsi.keyedThree key).socketIsPermanentlyUnusable = false := usableTwo
  have four : lwsRxSm rxBufferSize (wsi.keyedThree key) (key 3) = some (next, callbacks) := by
    rw [lwsRxSm, usableThree]
    exact answer
  exact (Reads.one one counted.established).append ((Reads.one two counted.established).append
    ((Reads.one three counted.established).append (.one four established)))

/-! ### The payload -/

private theorem xor_xor_cancel (byte mask : UInt8) : byte ^^^ mask ^^^ mask = byte := by
  rw [UInt8.xor_assoc, UInt8.xor_self, UInt8.xor_zero]

theorem Wsi.Unmasks.store {key : Fin 4 → UInt8} {position : Fin 4}
    (unmasks : wsi.Unmasks key position) (byte : UInt8) :
    (wsi.store (byte ^^^ key position)).rxUbuf = wsi.rxUbuf ++ [byte] ∧
      (wsi.store (byte ^^^ key position)).Unmasks key (position + 1) := by
  rw [Wsi.Unmasks] at unmasks
  split at unmasks
  · rename_i nonce
    constructor
    · simp [Wsi.store, nonce, unmasks]
    · simp [Wsi.Unmasks, Wsi.store, nonce, unmasks]
  · rename_i nonce
    constructor
    · simp only [Wsi.store, nonce, Bool.false_eq_true, if_false, unmasks.1, unmasks.2,
        xor_xor_cancel]
    · simp [Wsi.Unmasks, Wsi.store, nonce, unmasks.1, unmasks.2]

theorem Wsi.Inside.store {key : Fin 4 → UInt8} {position : Fin 4} {held : List UInt8}
    (inside : wsi.Inside .payloadUntilLengthExhausted opcode binary held)
    (unmasks : wsi.Unmasks key position) (byte : UInt8) :
    (wsi.store (byte ^^^ key position)).Inside .payloadUntilLengthExhausted opcode binary
      (held ++ [byte]) :=
  { inside with
    held := by
      rw [← inside.held]
      exact (unmasks.store byte).1 }

theorem Wsi.Inside.lwsRxSm_store {held : List UInt8} {rxBufferSize : Nat}
    (inside : wsi.Inside .payloadUntilLengthExhausted opcode binary held)
    (room : held.length < rxBufferSize) (c : UInt8) :
    lwsRxSm rxBufferSize wsi c = payloadStored rxBufferSize (wsi.store c) := by
  have fits : ¬rxBufferSize ≤ wsi.rxUbuf.length := by
    rw [inside.held]
    omega
  rw [lwsRxSm, inside.usable, inside.parse]
  exact if_neg fits

private theorem store_remaining {length : Nat} (c : UInt8)
    (remaining : wsi.rxPacketLength.toNat = length + 1) :
    (wsi.store c).rxPacketLength.toNat = length := by
  have counted : (1 : UInt64) ≤ wsi.rxPacketLength := by
    rw [UInt64.le_iff_toNat_le, remaining]
    exact Nat.le_add_left 1 length
  have less := UInt64.toNat_sub_of_le wsi.rxPacketLength 1 counted
  rw [remaining] at less
  exact less

/-- The payload of a frame is spilled in pieces of the size of the buffer, the first of them
with what the buffer holds already. -/
theorem reads_payload {rxBufferSize : Nat} (key : Fin 4 → UInt8) (position : Fin 4)
    (held payload : List UInt8) (nonempty : payload ≠ []) (room : held.length < rxBufferSize)
    (inside : wsi.Inside .payloadUntilLengthExhausted opcode binary held)
    (remaining : wsi.rxPacketLength.toNat = payload.length)
    (unmasks : wsi.Unmasks key position) (stays : opcode ≠ .close) :
    ∃ next, Reads rxBufferSize wsi (maskFrom key position payload)
        ((cut rxBufferSize held payload).flatMap (spilled opcode binary)) next ∧
      next.Idle binary := by
  induction payload generalizing wsi held position with
  | nil => exact absurd rfl nonempty
  | cons byte rest ih =>
      rw [List.length_cons] at remaining
      have stored := inside.store unmasks byte
      have unmasksNext := (unmasks.store byte).2
      have left := store_remaining (byte ^^^ key position) remaining
      have answer := inside.lwsRxSm_store room (byte ^^^ key position)
      generalize wsi.store (byte ^^^ key position) = mid at stored unmasksNext left answer
      rw [Chunks.cut_cons, maskFrom]
      cases rest with
      | nil =>
          -- the frame has ended
          have finished : mid.rxPacketLength = 0 := UInt64.toNat_inj.mp left
          have ended : ({ mid with lwsRxParseState := .new } : Wsi).Inside .new opcode binary
              (held ++ [byte]) := { stored with parse := rfl }
          obtain ⟨next, spills, like⟩ := ended.spill stays
          rw [payloadStored, if_pos finished, spills] at answer
          have idle := (ended.emptied like).idle
          have whole : (if (held ++ [byte]).length = rxBufferSize then
              (held ++ [byte]) :: cut rxBufferSize [] []
              else cut rxBufferSize (held ++ [byte]) []) = [held ++ [byte]] := by
            rw [Chunks.cut_nil, Chunks.cut_nil]
            simp
          rw [whole, List.flatMap_singleton]
          exact ⟨next, .one answer idle.established, idle⟩
      | cons other rest =>
          have more : ¬mid.rxPacketLength = 0 := by
            intro zero
            rw [zero] at left
            cases left
          rw [payloadStored, if_neg more, stored.held] at answer
          by_cases full : (held ++ [byte]).length = rxBufferSize
          · -- the buffer is full
            obtain ⟨after, spills, like⟩ := stored.spill stays
            rw [if_neg (not_not.mpr full), spills] at answer
            have emptied := stored.emptied like
            obtain ⟨next, reads, idle⟩ := ih (position + 1) [] (List.cons_ne_nil _ _)
              (by simp only [List.length_nil]; omega) emptied
              (by rw [like.eq_transmitted]; exact left)
              (by rw [like.eq_transmitted]; exact unmasksNext)
            rw [if_pos full, List.flatMap_cons]
            exact ⟨next, .cons answer emptied.established reads, idle⟩
          · obtain ⟨next, reads, idle⟩ := ih (position + 1) (held ++ [byte])
              (List.cons_ne_nil _ _)
              (by rw [List.length_append, List.length_singleton] at full ⊢; omega) stored left
              unmasksNext
            rw [if_pos full] at answer
            rw [if_neg full]
            exact ⟨next, .cons answer stored.established reads, idle⟩

/-! ### A frame -/

/-- What the user callback is told of a frame; an empty one is spilled as well. -/
def frameCallbacks (rxBufferSize : Nat) (opcode : Opcode) (binary : Bool)
    (payload : List UInt8) : List Callback :=
  if payload = [] then spilled opcode binary []
  else (cut rxBufferSize [] payload).flatMap (spilled opcode binary)

private theorem maskFrom_zero (position : Fin 4) (payload : List UInt8) :
    maskFrom (fun _ => 0) position payload = payload := by
  induction payload generalizing position with
  | nil => rfl
  | cons byte rest ih => rw [maskFrom, ih, UInt8.xor_zero]

theorem Wsi.Counted.reads_unmasked {masked : Bool} {payload : List UInt8} {rxBufferSize : Nat}
    (counted : wsi.Counted .payloadUntilLengthExhausted opcode binary masked payload.length)
    (positive : 0 < rxBufferSize) (nonempty : payload ≠ []) (stays : opcode ≠ .close) :
    ∃ next, Reads rxBufferSize wsi payload
        ((cut rxBufferSize [] payload).flatMap (spilled opcode binary)) next ∧
      next.Idle binary := by
  have unmasks : wsi.Unmasks (fun _ => 0) 0 := by
    rw [Wsi.Unmasks, if_pos counted.nonce]
  have reads := reads_payload _ 0 [] payload nonempty positive counted.toInside counted.remaining
    unmasks stays
  rw [maskFrom_zero] at reads
  exact reads

theorem Wsi.Inside.collectFrameKey4_empty {parse : LwsRxps}
    (inside : wsi.Inside parse opcode binary []) (empty : wsi.rxPacketLength = 0)
    (stays : opcode ≠ .close) :
    ∃ next, collectFrameKey4 wsi = some (next, spilled opcode binary []) ∧ next.Idle binary := by
  have ended : ({ wsi with lwsRxParseState := .new } : Wsi).Inside .new opcode binary [] :=
    { inside with parse := rfl }
  obtain ⟨next, spills, like⟩ := ended.spill stays
  rw [collectFrameKey4, if_pos empty, spills]
  exact ⟨next, rfl, (ended.emptied like).idle⟩

theorem Wsi.Counted.reads_masked {masked : Bool} {payload : List UInt8} {rxBufferSize : Nat}
    (key : Fin 4 → UInt8)
    (counted : wsi.Counted .collectFrameKey1 opcode binary masked payload.length)
    (positive : 0 < rxBufferSize) (stays : opcode ≠ .close) :
    ∃ next, Reads rxBufferSize wsi (keyBytes (some key) ++ maskFrom key 0 payload)
        (frameCallbacks rxBufferSize opcode binary payload) next ∧
      next.Idle binary := by
  have keyed : (wsi.keyed key).Inside .payloadUntilLengthExhausted opcode binary [] :=
    { counted.toInside with parse := rfl }
  have remaining : (wsi.keyed key).rxPacketLength.toNat = payload.length := counted.remaining
  by_cases empty : payload = []
  · rw [empty] at remaining
    have finished : (wsi.keyed key).rxPacketLength = 0 := UInt64.toNat_inj.mp remaining
    obtain ⟨next, answer, idle⟩ := keyed.collectFrameKey4_empty finished stays
    have reads := reads_keyBytes rxBufferSize key counted answer idle.established
    rw [frameCallbacks, if_pos empty, empty, maskFrom, List.append_nil]
    exact ⟨next, reads, idle⟩
  · have more : ¬(wsi.keyed key).rxPacketLength = 0 := by
      intro zero
      rw [zero] at remaining
      exact empty (List.eq_nil_of_length_eq_zero remaining.symm)
    have answer : collectFrameKey4 (wsi.keyed key) = some (wsi.keyed key, []) := by
      rw [collectFrameKey4, if_neg more]
    obtain ⟨next, reads, idle⟩ := reads_payload key 0 [] payload empty positive keyed remaining
      (wsi.keyed_unmasks key counted.nonce) stays
    rw [frameCallbacks, if_neg empty]
    exact ⟨next, (reads_keyBytes rxBufferSize key counted answer keyed.established).append reads,
      idle⟩

theorem reads_frame {rxBufferSize : Nat} (positive : 0 < rxBufferSize) (idle : wsi.Idle binary)
    (opcode : Opcode) (final : Bool) (key : Option (Fin 4 → UInt8)) (payload : List UInt8)
    (stays : opcode ≠ .close) (allowed : opcode.isControl = true → payload.length < 126)
    (bounded : payload.length < 2 ^ 63) :
    ∃ next, Reads rxBufferSize wsi (encodeFrame opcode final key payload)
        (frameCallbacks rxBufferSize opcode (opcode.binaryAfter binary) payload) next ∧
      next.Idle (opcode.binaryAfter binary) := by
  obtain ⟨begun, first, inside, nonce⟩ := reads_headerByte idle opcode final
  cases key with
  | some key =>
      obtain ⟨behind, second, counted⟩ :=
        reads_lengthBytes rxBufferSize inside nonce true allowed bounded (.inl rfl)
      obtain ⟨next, third, idleNext⟩ := counted.reads_masked key positive stays
      exact ⟨next, first.append (second.append third), idleNext⟩
  | none =>
      by_cases empty : payload = []
      · obtain ⟨next, second, idleNext⟩ := reads_lengthBytes_empty rxBufferSize inside stays
        rw [frameCallbacks, if_pos empty, empty]
        exact ⟨next, first.append second, idleNext⟩
      · obtain ⟨behind, second, counted⟩ :=
          reads_lengthBytes rxBufferSize inside nonce false allowed bounded
            (.inr fun none => empty (List.eq_nil_of_length_eq_zero none))
        obtain ⟨next, third, idleNext⟩ := counted.reads_unmasked positive empty stays
        rw [frameCallbacks, if_neg empty]
        exact ⟨next, first.append (second.append third), idleNext⟩

end Libwebsockets
end JSCameraKit

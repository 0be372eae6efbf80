import JSCameraKit.Libwebsockets.RxParser

set_option autoImplicit false

/-! What the parser makes of bytes that it reads to their end, however they are cut into
packets and whatever the transmitting half of the connection does between two packets. -/

namespace JSCameraKit
namespace Libwebsockets

/-! ### Bytes that the parser reads to their end -/

/-- The parser takes the bytes, with no close on either side. -/
inductive Reads (rxBufferSize : Nat) : Wsi → List UInt8 → List Callback → Wsi → Prop
  | nil (wsi : Wsi) : Reads rxBufferSize wsi [] [] wsi
  | cons {wsi mid next : Wsi} {c : UInt8} {rest : List UInt8} {callbacks others : List Callback}
      (first : lwsRxSm rxBufferSize wsi c = some (mid, callbacks))
      (established : mid.state = .established) (later : Reads rxBufferSize mid rest others next) :
      Reads rxBufferSize wsi (c :: rest) (callbacks ++ others) next

variable {rxBufferSize : Nat}

theorem Reads.one {wsi next : Wsi} {c : UInt8} {callbacks : List Callback}
    (first : lwsRxSm rxBufferSize wsi c = some (next, callbacks))
    (established : next.state = .established) : Reads rxBufferSize wsi [c] callbacks next := by
  have reads := Reads.cons first established (.nil next)
  rw [List.append_nil] at reads
  exact reads

theorem Reads.append {wsi mid next : Wsi} {before after : List UInt8}
    {callbacks others : List Callback} (first : Reads rxBufferSize wsi before callbacks mid)
    (later : Reads rxBufferSize mid after others next) :
    Reads rxBufferSize wsi (before ++ after) (callbacks ++ others) next := by
  induction first with
  | nil => exact later
  | cons byte established _ ih =>
      rw [List.append_assoc]
      exact .cons byte established (ih later)

theorem Reads.split {wsi next : Wsi} {callbacks : List Callback} (before after : List UInt8)
    (reads : Reads rxBufferSize wsi (before ++ after) callbacks next) :
    ∃ mid early late, Reads rxBufferSize wsi before early mid ∧
      Reads rxBufferSize mid after late next ∧ callbacks = early ++ late := by
  induction before generalizing wsi callbacks with
  | nil => exact ⟨wsi, [], callbacks, .nil wsi, reads, rfl⟩
  | cons c before ih =>
      cases reads with
      | cons first established later =>
          obtain ⟨mid, early, late, reads, readsLate, parts⟩ := ih later
          refine ⟨mid, _, late, .cons first established reads, readsLate, ?_⟩
          rw [parts, List.append_assoc]

theorem lwsRxSmEach_positions (taken : Nat) (wsi : Wsi) (bytes : List UInt8) :
    ∀ entry ∈ (lwsRxSmEach rxBufferSize taken wsi bytes).1,
      taken < entry.1 ∧ entry.1 ≤ taken + bytes.length := by
  induction bytes generalizing taken wsi with
  | nil =>
      intro entry listed
      cases listed
  | cons c bytes ih =>
      intro entry listed
      rw [lwsRxSmEach] at listed
      rw [List.length_cons]
      split at listed
      · cases listed
      · rename_i next callbacks _
        cases List.mem_append.mp listed with
        | inl now =>
            obtain ⟨callback, _, stamped⟩ := List.mem_map.mp now
            rw [← stamped]
            dsimp only
            omega
        | inr later =>
            have bounds := ih (taken + 1) next entry later
            omega

/-- Bytes that are read to their end make their callbacks while they are taken, whatever
follows them. -/
theorem Reads.lwsRxSmEach {wsi next : Wsi} {bytes : List UInt8} {callbacks : List Callback}
    (reads : Reads rxBufferSize wsi bytes callbacks next) (taken : Nat) (rest : List UInt8) :
    ∃ entries, entries.map Prod.snd = callbacks ∧
      (∀ entry ∈ entries, taken < entry.1 ∧ entry.1 ≤ taken + bytes.length) ∧
      lwsRxSmEach rxBufferSize taken wsi (bytes ++ rest) =
        (entries ++ (lwsRxSmEach rxBufferSize (taken + bytes.length) next rest).1,
          (lwsRxSmEach rxBufferSize (taken + bytes.length) next rest).2) := by
  induction reads generalizing taken with
  | nil wsi => exact ⟨[], rfl, fun _ listed => absurd listed List.not_mem_nil, rfl⟩
  | @cons wsi mid next c bytes callbacks others first _ _ ih =>
      obtain ⟨entries, told, bounds, parsed⟩ := ih (taken + 1)
      have counted : taken + (c :: bytes).length = taken + 1 + bytes.length := by
        rw [List.length_cons]
        omega
      refine ⟨callbacks.map (Prod.mk (taken + 1)) ++ entries, ?_, ?_, ?_⟩
      · rw [List.map_append, told, List.map_map]
        exact congrArg (· ++ others) (List.map_id callbacks)
      · intro entry listed
        rw [counted]
        cases List.mem_append.mp listed with
        | inl now =>
            obtain ⟨callback, _, stamped⟩ := List.mem_map.mp now
            rw [← stamped]
            dsimp only
            omega
        | inr later =>
            have inside := bounds entry later
            omega
      · rw [counted, List.cons_append, Libwebsockets.lwsRxSmEach, first]
        dsimp only
        rw [parsed, atPosition, List.append_assoc]

/-! ### The transmitting half -/

/-- The connection after the transmitting half has worked on it: a partial write left
behind or finished, a pong sent. -/
def Wsi.transmitted (wsi : Wsi) (truncLen : Nat) (payloadIsClose pingPendingFlag : Bool)
    (pingPayload : List UInt8) : Wsi :=
  { wsi with
    truncLen := truncLen
    payloadIsClose := payloadIsClose
    pingPendingFlag := pingPendingFlag
    pingPayload := pingPayload }

/-- The same connection but for its transmitting half. -/
def Wsi.Like (other wsi : Wsi) : Prop :=
  other.transmitted 0 false false [] = wsi.transmitted 0 false false []

theorem Wsi.Like.eq_transmitted {other wsi : Wsi} (like : other.Like wsi) :
    other =
      wsi.transmitted other.truncLen other.payloadIsClose other.pingPendingFlag
        other.pingPayload := by
  cases other
  cases wsi
  simpa [Wsi.Like, Wsi.transmitted] using like

private theorem processAsPing_like (wsi : Wsi) : (processAsPing wsi).Like
    { wsi with rxUbuf := [] } := by
  rw [processAsPing]
  split
  · rfl
  · rfl

theorem spill_ping (wsi : Wsi) (ping : wsi.opcode = .ping) :
    ∃ next, spill wsi = some (next, []) ∧ next.Like { wsi with rxUbuf := [] } := by
  have answer : spill wsi =
      if wsi.pingPendingFlag then some ({ wsi with rxUbuf := [] }, [])
      else some (processAsPing wsi, []) := by
    rw [spill, ping]
  rw [answer]
  split
  · exact ⟨_, rfl, rfl⟩
  · exact ⟨_, rfl, processAsPing_like wsi⟩

private theorem spill_close (wsi next : Wsi) (callbacks : List Callback)
    (close : wsi.opcode = .close)
    (spilled : spill wsi = some (next, callbacks)) : next.state = .returnedCloseAlready := by
  rw [spill, close] at spilled
  dsimp only at spilled
  split at spilled
  · cases spilled
  · cases spilled
  · split at spilled
    · cases spilled
    · cases spilled
      rw [processAsPing]
      split
      · rfl
      · rfl

/-- An answer that leaves the connection established is given again, but for the
transmitting half. -/
def Agrees (answer again : Option (Wsi × List Callback)) : Prop :=
  ∀ next callbacks, answer = some (next, callbacks) → next.state = .established →
    ∃ after, again = some (after, callbacks) ∧ after.Like next

theorem Agrees.none (again : Option (Wsi × List Callback)) : Agrees none again := by
  intro next callbacks answer
  cases answer

theorem Agrees.some {next after : Wsi} (callbacks : List Callback) (like : after.Like next) :
    Agrees (some (next, callbacks)) (some (after, callbacks)) := by
  intro _ _ answer _
  cases answer
  exact ⟨after, rfl, like⟩

theorem Agrees.ite {condition : Prop} [Decidable condition]
    {answer again answerElse againElse : Option (Wsi × List Callback)}
    (holds : Agrees answer again) (fails : Agrees answerElse againElse) :
    Agrees (if condition then answer else answerElse) (if condition then again else againElse) := by
  split
  · exact holds
  · exact fails

private theorem spill_agrees {other wsi : Wsi} (like : other.Like wsi) :
    Agrees (spill wsi) (spill other) := by
  rw [like.eq_transmitted]
  generalize other.truncLen = truncLen, other.payloadIsClose = payloadIsClose,
    other.pingPendingFlag = pingPendingFlag, other.pingPayload = pingPayload
  cases opcode : wsi.opcode with
  | close =>
      intro next callbacks spilled established
      rw [spill_close wsi next callbacks opcode spilled] at established
      cases established
  | ping =>
      obtain ⟨next, spilled, likeNext⟩ := spill_ping wsi opcode
      obtain ⟨after, spilledAgain, likeAfter⟩ :=
        spill_ping (wsi.transmitted truncLen payloadIsClose pingPendingFlag pingPayload) opcode
      rw [spilled, spilledAgain]
      exact .some [] (likeAfter.trans likeNext.symm)
  | pong =>
      simp only [spill, Wsi.transmitted, opcode]
      exact .some _ rfl
  | textFrame =>
      simp only [spill, Wsi.transmitted, opcode]
      exact .some _ rfl
  | binaryFrame =>
      simp only [spill, Wsi.transmitted, opcode]
      exact .some _ rfl
  | continuation =>
      simp only [spill, Wsi.transmitted, opcode]
      exact .some _ rfl

private theorem handleFirst_agrees {other wsi : Wsi} (c : UInt8) (like : other.Like wsi) :
    Agrees (handleFirst wsi c) (handleFirst other c) := by
  rw [like.eq_transmitted, handleFirst, handleFirst]
  cases Opcode.ofHeader c with
  | none => exact .none _
  | some opcode => exact .some [] rfl

private theorem frameHdrLen_agrees {other wsi : Wsi} (c : UInt8) (like : other.Like wsi) :
    Agrees (frameHdrLen wsi c) (frameHdrLen other c) := by
  rw [like.eq_transmitted, frameHdrLen, frameHdrLen]
  apply Agrees.ite
  · exact .ite (.none _) (.some [] rfl)
  · apply Agrees.ite
    · exact .ite (.none _) (.some [] rfl)
    · refine .ite (.some [] rfl) ?_
      exact .ite (.some [] rfl) (spill_agrees rfl)

private theorem payloadStored_agrees {other wsi : Wsi} (like : other.Like wsi) :
    Agrees (payloadStored rxBufferSize wsi) (payloadStored rxBufferSize other) := by
  rw [like.eq_transmitted, payloadStored, payloadStored]
  refine .ite (spill_agrees rfl) ?_
  exact .ite (.some [] rfl) (spill_agrees rfl)

private theorem collectFrameKey4_agrees {other wsi : Wsi} (like : other.Like wsi) :
    Agrees (collectFrameKey4 wsi) (collectFrameKey4 other) := by
  rw [like.eq_transmitted, collectFrameKey4, collectFrameKey4]
  exact .ite (spill_agrees rfl) (.some [] rfl)

private theorem lwsRxSm_agrees {other wsi : Wsi} (c : UInt8) (like : other.Like wsi) :
    Agrees (lwsRxSm rxBufferSize wsi c) (lwsRxSm rxBufferSize other c) := by
  rw [like.eq_transmitted, lwsRxSm, lwsRxSm]
  refine .ite (.none _) ?_
  dsimp only [Wsi.transmitted]
  cases parse : wsi.lwsRxParseState with
  | new => exact handleFirst_agrees c rfl
  | frameHdr1 => exact handleFirst_agrees c (parse ▸ rfl)
  | frameHdrLen => exact frameHdrLen_agrees c rfl
  | frameHdrLen64_8 => exact .ite (.none _) (.some [] rfl)
  | collectFrameKey4 => exact collectFrameKey4_agrees rfl
  | payloadUntilLengthExhausted => exact .ite (.none _) (payloadStored_agrees (parse ▸ rfl))
  | _ => exact .some [] rfl

theorem Reads.agrees {wsi next other : Wsi} {bytes : List UInt8} {callbacks : List Callback}
    (reads : Reads rxBufferSize wsi bytes callbacks next) (like : other.Like wsi) :
    ∃ after, Reads rxBufferSize other bytes callbacks after ∧ after.Like next := by
  induction reads generalizing other with
  | nil wsi => exact ⟨other, .nil other, like⟩
  | cons first established _ ih =>
      obtain ⟨mid, again, likeMid⟩ := lwsRxSm_agrees _ like _ _ first established
      obtain ⟨after, reads, likeAfter⟩ := ih likeMid
      have establishedAgain : mid.state = .established := by
        rw [likeMid.eq_transmitted]
        exact established
      exact ⟨after, .cons again establishedAgain reads, likeAfter⟩

end Libwebsockets
end JSCameraKit

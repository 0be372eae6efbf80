import JSCameraKit.Libwebsockets.Output

set_option autoImplicit false

/-! What a connection keeps of its promises to send. The bytes that the socket has taken and
those stored are the frames accepted, in order, whatever the socket takes of each of them. A
Close frame is the last one, and what a connection leaves unsent when its socket is shut down
is at most a part of that frame. -/

namespace JSCameraKit
namespace Libwebsockets
namespace Output

variable {limit : Nat} {wsi : Wsi}

/-- The bytes of the frames accepted. -/
def Wsi.due (wsi : Wsi) : List UInt8 :=
  wsi.frames.flatMap Frame.encode

/-- All is sent, but for a part of a Close frame. -/
def Wsi.Left (wsi : Wsi) : Prop :=
  wsi.sent = wsi.due ∨
    ∃ front close, wsi.frames = front ++ [close] ∧ close.opcode = .close ∧
      front.flatMap Frame.encode <+: wsi.sent

/-- What holds of a connection even behind its end. -/
structure Wsi.Past (wsi : Wsi) : Prop where
  grows : wsi.sent <+: wsi.due
  lawful : ∀ answer ∈ wsi.answers,
    answer ≠ .error .pendingTruncated ∧ answer ≠ .error .outOfBlock
  last : ∀ frame ∈ wsi.frames.dropLast, frame.opcode ≠ .close

def Wsi.Phase (wsi : Wsi) : Prop :=
  match wsi.state with
  | .established =>
      wsi.shutWr = false ∧ wsi.payloadIsClose = false ∧
        ∀ frame ∈ wsi.frames, frame.opcode ≠ .close
  | .returnedCloseAlready =>
      wsi.truncLen = 0 ∧ wsi.payloadIsClose = true ∧
        (wsi.shutWr = false → ∀ frame ∈ wsi.frames, frame.opcode ≠ .close)
  | .awaitingCloseAck => wsi.shutWr = false ∧ wsi.Left
  | .flushingStoredSendBeforeClose => wsi.shutWr = false
  | .shutdown => wsi.shutWr = true
  | .deadSocket => True

structure Wsi.Live (wsi : Wsi) : Prop where
  block : wsi.Block
  conserved : wsi.sent ++ wsi.pending = wsi.due
  inside : wsi.insideFrame = true → wsi.socketIsPermanentlyUnusable = true
  polls : wsi.truncLen ≠ 0 → wsi.Polls
  silent : wsi.socketIsPermanentlyUnusable = true → wsi.pollout = false
  shut : wsi.shutWr = true → wsi.Left
  phase : wsi.Phase

structure Wsi.Sound (wsi : Wsi) : Prop extends wsi.Past where
  live : wsi.state ≠ .deadSocket → wsi.Live

theorem Wsi.fresh_sound : Wsi.fresh.Sound :=
  { grows := List.prefix_refl _
    lawful := fun _ listed => absurd listed List.not_mem_nil
    last := fun _ listed => absurd listed List.not_mem_nil
    live := fun _ =>
      { block :=
          { size := fun _ held => by cases held
            inside := fun more => absurd rfl more }
        conserved := rfl
        inside := fun inside => by cases inside
        polls := fun more => absurd rfl more
        silent := fun _ => rfl
        shut := fun shut => by cases shut
        phase := ⟨rfl, rfl, fun _ listed => absurd listed List.not_mem_nil⟩ } }

/-! ### Bytes and frames -/

theorem Wsi.Live.whole (live : wsi.Live) (empty : wsi.truncLen = 0) : wsi.sent = wsi.due := by
  rw [← live.conserved, Wsi.pending_nil empty, List.append_nil]

theorem Wsi.Live.outside (live : wsi.Live) (usable : wsi.socketIsPermanentlyUnusable = false) :
    wsi.insideFrame = false := by
  cases inside : wsi.insideFrame with
  | false => rfl
  | true =>
      rw [live.inside inside] at usable
      cases usable

private theorem lawful_append {answers : List (Except Failure Nat)} {answer : Except Failure Nat}
    (lawful : ∀ answer ∈ answers,
      answer ≠ .error .pendingTruncated ∧ answer ≠ .error .outOfBlock)
    (added : answer ≠ .error .pendingTruncated ∧ answer ≠ .error .outOfBlock) :
    ∀ listed ∈ answers ++ [answer],
      listed ≠ .error .pendingTruncated ∧ listed ≠ .error .outOfBlock := by
  intro listed member
  cases List.mem_append.mp member with
  | inl before => exact lawful listed before
  | inr now =>
      rw [List.mem_singleton.mp now]
      exact added

theorem Wsi.due_accepted (next : Wsi) (frame : Frame) :
    (next.accepted frame).due = next.due ++ frame.encode := by
  show (next.frames ++ [frame]).flatMap Frame.encode = _
  rw [List.flatMap_append, List.flatMap_singleton]
  rfl

theorem Wsi.Takes.due {next : Wsi} {bytes : List UInt8} (takes : wsi.Takes next bytes) :
    next.due = wsi.due := by
  rw [takes.same]
  rfl

theorem Wsi.Takes.conserved_accepted {next : Wsi} {frame : Frame}
    (takes : wsi.Takes next frame.encode) (conserved : wsi.sent ++ wsi.pending = wsi.due) :
    (next.accepted frame).sent ++ (next.accepted frame).pending = (next.accepted frame).due := by
  rw [Wsi.due_accepted, takes.due, ← conserved, ← takes.conserved]
  rfl

theorem Wsi.Past.accepted {next : Wsi} {frame : Frame} (past : wsi.Past)
    (conserved : wsi.sent ++ wsi.pending = wsi.due)
    (noClose : ∀ frame ∈ wsi.frames, frame.opcode ≠ .close)
    (takes : wsi.Takes next frame.encode) : (next.accepted frame).Past where
  grows := by
    rw [← takes.conserved_accepted conserved]
    exact List.prefix_append _ _
  lawful := by
    apply lawful_append
    · rw [takes.answers]
      exact past.lawful
    · exact ⟨by simp, by simp⟩
  last := by
    have frames : (next.accepted frame).frames = wsi.frames ++ [frame] := by
      rw [takes.same]
      rfl
    rw [frames, List.dropLast_concat]
    exact noClose

theorem Wsi.Past.refused (past : wsi.Past) (inside : Bool) : (wsi.refused inside).Past where
  grows := past.grows
  lawful := lawful_append past.lawful ⟨by simp, by simp⟩
  last := past.last

theorem Wsi.Takes.left {next : Wsi} {frame : Frame} (takes : wsi.Takes next frame.encode)
    (whole : wsi.sent = wsi.due) (close : frame.opcode = .close) : (next.accepted frame).Left := by
  refine .inr ⟨wsi.frames, frame, ?_, close, ?_⟩
  · rw [takes.same]
    rfl
  · have grows := takes.grows
    rw [whole] at grows
    exact grows

theorem Wsi.Live.accepted {next : Wsi} {frame : Frame} (live : wsi.Live)
    (usable : wsi.socketIsPermanentlyUnusable = false) (serving : wsi.state ≠ .shutdown)
    (open_ : wsi.shutWr = false) (takes : wsi.Takes next frame.encode) (state : State)
    (phase : Wsi.Phase { next.accepted frame with state := state }) :
    Wsi.Live { next.accepted frame with state := state } := by
  have usableNext : next.socketIsPermanentlyUnusable = false := by
    rw [takes.same]
    exact usable
  have shutNext : next.shutWr = false := by
    rw [takes.same]
    exact open_
  have stateNext : next.state ≠ .shutdown := by
    rw [takes.same]
    exact serving
  have outsideNext : next.insideFrame = false := by
    rw [takes.same]
    exact live.outside usable
  constructor
  · exact takes.block
  · exact takes.conserved_accepted live.conserved
  · intro inside
    exact absurd (outsideNext.symm.trans inside) Bool.false_ne_true
  · intro more
    obtain shut | unusable | polled := takes.polls more
    · exact absurd shut stateNext
    · exact absurd (usableNext.symm.trans unusable) Bool.false_ne_true
    · exact .inr (.inr polled)
  · intro unusable
    exact absurd (usableNext.symm.trans unusable) Bool.false_ne_true
  · intro shut
    exact absurd (shutNext.symm.trans shut) Bool.false_ne_true
  · exact phase

/-! ### The transitions -/

private theorem justKillConnection_dead (past : wsi.Past) (reason : Reason)
    (dead : wsi.socketIsPermanentlyUnusable = true ∨ reason = .contextDestroy ∨
      wsi.state = .shutdown) : (justKillConnection wsi reason).Sound := by
  have again : ¬(wsi.state ≠ .shutdown ∧ reason ≠ .contextDestroy ∧
      wsi.socketIsPermanentlyUnusable = false) := by
    intro first
    obtain unusable | destroyed | shut := dead
    · rw [unusable] at first
      cases first.2.2
    · exact first.2.1 destroyed
    · exact first.1 shut
  rw [justKillConnection, if_neg again]
  exact
    { grows := past.grows
      lawful := past.lawful
      last := past.last
      live := fun alive => absurd rfl alive }

private theorem justKillConnection_sound (sound : wsi.Sound) (alive : wsi.state ≠ .deadSocket)
    (left : wsi.Left) (reason : Reason) : (justKillConnection wsi reason).Sound := by
  by_cases first : wsi.state ≠ .shutdown ∧ reason ≠ .contextDestroy ∧
      wsi.socketIsPermanentlyUnusable = false
  · have live := sound.live alive
    rw [justKillConnection, if_pos first]
    exact
      { grows := sound.grows
        lawful := sound.lawful
        last := sound.last
        live := fun _ =>
          { block := live.block
            conserved := live.conserved
            inside := live.inside
            polls := fun _ => .inl rfl
            silent := fun _ => rfl
            shut := fun _ => left
            phase := rfl } }
  · apply justKillConnection_dead sound.toPast
    by_cases shut : wsi.state = .shutdown
    · exact .inr (.inr shut)
    · by_cases destroyed : reason = .contextDestroy
      · exact .inr (.inl destroyed)
      · left
        rw [← Bool.not_eq_false]
        exact fun usable => first ⟨shut, destroyed, usable⟩

theorem lwsCloseFreeWsi_unusable (past : wsi.Past)
    (unusable : wsi.socketIsPermanentlyUnusable = true) (reason : Reason)
    (platform : Platform) : (lwsCloseFreeWsi limit wsi reason platform).Sound := by
  rw [lwsCloseFreeWsi, if_pos (.inl unusable)]
  exact justKillConnection_dead past reason (.inl unusable)

/-- The connection with the fields of another one that no byte depends on. -/
def Wsi.noted (wsi next : Wsi) : Wsi :=
  { wsi with
    pingPayloadBuf := next.pingPayloadBuf
    pingPayloadLen := next.pingPayloadLen
    pingPendingFlag := next.pingPendingFlag
    closeInPingBufferLen := next.closeInPingBufferLen
    sendCheckPing := next.sendCheckPing
    pollout := next.pollout }

theorem Wsi.Sound.noted {next : Wsi} (sound : wsi.Sound) (same : next = wsi.noted next)
    (polls : wsi.Polls → next.Polls)
    (silent : wsi.socketIsPermanentlyUnusable = true → wsi.pollout = false →
      next.pollout = false) : next.Sound := by
  rw [same] at polls ⊢
  exact
    { grows := sound.grows
      lawful := sound.lawful
      last := sound.last
      live := fun alive =>
        { block := (sound.live alive).block
          conserved := (sound.live alive).conserved
          inside := (sound.live alive).inside
          polls := fun more => polls ((sound.live alive).polls more)
          silent := fun unusable => silent unusable ((sound.live alive).silent unusable)
          shut := (sound.live alive).shut
          phase := (sound.live alive).phase } }

theorem Wsi.Sound.callbackOnWritable (sound : wsi.Sound) : (lwsCallbackOnWritable wsi).Sound := by
  apply sound.noted
  · rw [lwsCallbackOnWritable_eq]
    rfl
  · intro _
    exact lwsCallbackOnWritable_polls wsi
  · intro unusable quiet
    rw [lwsCallbackOnWritable, if_pos unusable, ite_self]
    exact quiet

private theorem closePolitely_sound (sound : wsi.Sound) (empty : wsi.truncLen = 0)
    (usable : wsi.socketIsPermanentlyUnusable = false)
    (phase : wsi.state = .established ∨ wsi.state = .returnedCloseAlready) (reason : Reason)
    {platform : Platform} (mallocs : platform.mallocs = true) :
    (closePolitely limit wsi reason platform).Sound := by
  have alive : wsi.state ≠ .deadSocket := by
    intro dead
    rw [dead] at phase
    cases phase with
    | inl other => cases other
    | inr other => cases other
  rw [closePolitely]
  split
  · rename_i polite
    have noted : wsi.withCloseReason reason = wsi.noted (wsi.withCloseReason reason) := by
      unfold Wsi.withCloseReason
      split
      · split
        · rfl
        · rfl
      · rfl
    have polled : (wsi.withCloseReason reason).pollout = wsi.pollout := by
      unfold Wsi.withCloseReason
      split
      · split
        · rfl
        · rfl
      · rfl
    have prepared : (wsi.withCloseReason reason).Sound := by
      apply sound.noted noted
      · intro polls
        rw [noted]
        exact polls.imp id fun rest => rest.imp id fun on => polled.trans on
      · intro _ quiet
        exact polled.trans quiet
    have established : (wsi.withCloseReason reason).state = .established := by
      rw [noted]
      exact polite.1
    have emptied : (wsi.withCloseReason reason).truncLen = 0 := by
      rw [noted]
      exact empty
    have usableToo : (wsi.withCloseReason reason).socketIsPermanentlyUnusable = false := by
      rw [noted]
      exact usable
    generalize wsi.withCloseReason reason = ready at prepared established emptied usableToo
    have live := prepared.live (by rw [established]; exact State.noConfusion)
    obtain ⟨open_, _, noClose⟩ : ready.shutWr = false ∧ ready.payloadIsClose = false ∧
        ∀ frame ∈ ready.frames, frame.opcode ≠ .close := by
      have phase := live.phase
      rw [Wsi.Phase, established] at phase
      exact phase
    dsimp only
    generalize closing :
      ({ opcode := .close
         final := true
         payload := ready.pingPayloadBuf.take ready.closeInPingBufferLen } : Frame) = frame
    have close : frame.opcode = .close := by rw [← closing]
    obtain ⟨refuses, written⟩ | ⟨sends, ⟨inside, written⟩ | ⟨_, next, returned, takes, written⟩⟩ :=
      lwsWrite_spec live.block emptied (live.outside usableToo) frame mallocs
    · rw [Wsi.sends, established] at refuses
      cases refuses
    · rw [written]
      exact justKillConnection_dead (prepared.refused inside) reason (.inl rfl)
    · rw [written]
      have past := prepared.toPast.accepted live.conserved noClose takes
      have left := takes.left (live.whole emptied) close
      have shut : (next.accepted frame).shutWr = false := by
        rw [takes.same]
        exact open_
      exact
        { grows := past.grows
          lawful := past.lawful
          last := past.last
          live := fun _ =>
            live.accepted usableToo (by rw [established]; exact State.noConfusion) open_ takes
              .awaitingCloseAck ⟨shut, left⟩ }
  · exact justKillConnection_sound sound alive (.inl ((sound.live alive).whole empty)) reason

theorem Wsi.Live.polled (live : wsi.Live) (more : wsi.truncLen ≠ 0)
    (usable : wsi.socketIsPermanentlyUnusable = false) (open_ : wsi.shutWr = false) :
    wsi.pollout = true := by
  obtain shut | unusable | polled := live.polls more
  · have phase := live.phase
    rw [Wsi.Phase, shut] at phase
    exact absurd (phase.symm.trans open_) Bool.noConfusion
  · exact absurd (unusable.symm.trans usable) Bool.noConfusion
  · exact polled

theorem Wsi.Sound.flushing (sound : wsi.Sound) (alive : wsi.state ≠ .deadSocket)
    (open_ : wsi.shutWr = false) :
    Wsi.Sound { wsi with state := .flushingStoredSendBeforeClose } where
  grows := sound.grows
  lawful := sound.lawful
  last := sound.last
  live := fun _ =>
    { block := (sound.live alive).block
      conserved := (sound.live alive).conserved
      inside := (sound.live alive).inside
      polls := fun more => by
        cases usable : wsi.socketIsPermanentlyUnusable with
        | true => exact .inr (.inl rfl)
        | false => exact .inr (.inr ((sound.live alive).polled more usable open_))
      silent := (sound.live alive).silent
      shut := (sound.live alive).shut
      phase := open_ }

private theorem lwsCloseFreeWsi_sound (sound : wsi.Sound) (alive : wsi.state ≠ .deadSocket)
    (reason : Reason) {platform : Platform} (mallocs : platform.mallocs = true) :
    (lwsCloseFreeWsi limit wsi reason platform).Sound := by
  have live := sound.live alive
  have phase := live.phase
  by_cases kill : wsi.socketIsPermanentlyUnusable = true ∨ reason = .contextDestroy ∨
      wsi.state = .shutdown
  · rw [lwsCloseFreeWsi, if_pos kill]
    exact justKillConnection_dead sound.toPast reason kill
  · have usable : wsi.socketIsPermanentlyUnusable = false := by
      rw [← Bool.not_eq_true]
      exact fun unusable => kill (.inl unusable)
    rw [lwsCloseFreeWsi, if_neg kill]
    rw [Wsi.Phase] at phase
    cases state : wsi.state with
    | established =>
        rw [state] at phase
        dsimp only
        by_cases empty : wsi.truncLen = 0
        · rw [if_neg (not_not.mpr empty)]
          exact closePolitely_sound sound empty usable (.inl state) reason mallocs
        · rw [if_pos empty]
          exact sound.flushing alive phase.1
    | returnedCloseAlready =>
        rw [state] at phase
        dsimp only
        rw [if_neg (not_not.mpr phase.1)]
        exact closePolitely_sound sound phase.1 usable (.inr state) reason mallocs
    | awaitingCloseAck =>
        rw [state] at phase
        exact justKillConnection_sound sound alive phase.2 reason
    | flushingStoredSendBeforeClose =>
        dsimp only
        by_cases empty : wsi.truncLen = 0
        · rw [if_neg (not_not.mpr empty)]
          exact justKillConnection_sound sound alive (.inl (live.whole empty)) reason
        · rw [if_pos empty]
          exact sound.callbackOnWritable
    | shutdown => exact absurd (.inr (.inr state)) kill
    | deadSocket => exact absurd state alive

/-! ### Events -/

/-- A connection whose close is asked for: its socket has failed, or it can go on. -/
def Wsi.Closes (wsi : Wsi) : Prop :=
  wsi.Past ∧ wsi.socketIsPermanentlyUnusable = true ∨
    wsi.replied.state ≠ .deadSocket ∧ wsi.replied.Sound

theorem Wsi.Closes.sound (closes : wsi.Closes) {closing : Platform}
    (mallocs : closing.mallocs = true) :
    (lwsCloseFreeWsi limit wsi.replied .nostatus closing).Sound := by
  obtain ⟨past, unusable⟩ | ⟨alive, sound⟩ := closes
  · have same : wsi.replied.Past ∧ wsi.replied.socketIsPermanentlyUnusable = true := by
      rw [Wsi.replied]
      split
      · exact ⟨{ grows := past.grows, lawful := past.lawful, last := past.last }, unusable⟩
      · exact ⟨past, unusable⟩
    exact lwsCloseFreeWsi_unusable same.1 same.2 _ _
  · exact lwsCloseFreeWsi_sound sound alive _ mallocs

theorem Wsi.Past.failed (past : wsi.Past) :
    (wsi.failed.answered (.error .socket)).Past where
  grows := past.grows
  lawful := lawful_append past.lawful ⟨by simp, by simp⟩
  last := past.last

theorem Wsi.Sound.answered {next : Wsi} (sound : wsi.Sound) (alive : wsi.state ≠ .deadSocket)
    (usable : wsi.socketIsPermanentlyUnusable = false) (open_ : wsi.shutWr = false)
    (serving : wsi.state = .established ∨ wsi.state = .flushingStoredSendBeforeClose)
    (takes : wsi.Takes next []) {answer : Except Failure Nat}
    (added : answer ≠ .error .pendingTruncated ∧ answer ≠ .error .outOfBlock) :
    (next.answered answer).Sound := by
  have live := sound.live alive
  have conserved : next.sent ++ next.pending = next.due := by
    rw [takes.conserved, List.append_nil, takes.due]
    exact live.conserved
  have usableNext : next.socketIsPermanentlyUnusable = false := by
    rw [takes.same]
    exact usable
  have openNext : next.shutWr = false := by
    rw [takes.same]
    exact open_
  constructor
  · constructor
    · have due : next.due = (next.answered answer).due := rfl
      rw [← due, ← conserved]
      exact List.prefix_append _ _
    · rw [Wsi.answered, takes.answers]
      exact lawful_append sound.lawful added
    · rw [takes.same]
      exact sound.last
  · intro _
    constructor
    · exact takes.block
    · exact conserved
    · rw [takes.same]
      exact live.inside
    · exact takes.polls
    · intro unusable
      exact absurd (usableNext.symm.trans unusable) Bool.false_ne_true
    · intro shut
      exact absurd (openNext.symm.trans shut) Bool.false_ne_true
    · have phase := live.phase
      rw [takes.same]
      cases serving with
      | inl established =>
          rw [Wsi.Phase, established] at phase
          show Wsi.Phase ((wsi.moved next).answered answer)
          rw [Wsi.Phase]
          have state : ((wsi.moved next).answered answer).state = .established := established
          rw [state]
          exact phase
      | inr flushing =>
          have state : ((wsi.moved next).answered answer).state =
              .flushingStoredSendBeforeClose := flushing
          rw [Wsi.Phase, state]
          exact open_

theorem Wsi.Sound.accepted {next : Wsi} {frame : Frame} (sound : wsi.Sound)
    (usable : wsi.socketIsPermanentlyUnusable = false) (established : wsi.state = .established)
    (takes : wsi.Takes next frame.encode) (noClose : frame.opcode ≠ .close) :
    (next.accepted frame).Sound := by
  have live := sound.live (by rw [established]; exact State.noConfusion)
  have phase := live.phase
  rw [Wsi.Phase, established] at phase
  have past := sound.toPast.accepted live.conserved phase.2.2 takes
  have frames : next.frames = wsi.frames := by
    rw [takes.same]
    rfl
  have state : next.state = .established := by
    rw [takes.same]
    exact established
  have goes := live.accepted usable (by rw [established]; exact State.noConfusion) phase.1 takes
    .established
  have same : ({ next.accepted frame with state := .established } : Wsi) =
      next.accepted frame := by
    rw [← state]
    rfl
  rw [same] at goes
  refine { grows := past.grows, lawful := past.lawful, last := past.last, live := fun _ => goes ?_ }
  have stateNext : (next.accepted frame).state = .established := state
  rw [Wsi.Phase, stateNext]
  refine ⟨?_, ?_, ?_⟩
  · rw [takes.same]
    exact phase.1
  · rw [takes.same]
    exact phase.2.1
  · intro listed member
    rw [Wsi.accepted, frames] at member
    cases List.mem_append.mp member with
    | inl before => exact phase.2.2 listed before
    | inr now =>
        rw [List.mem_singleton.mp now]
        exact noClose

private theorem lwsWrite_established (sound : wsi.Sound) (empty : wsi.truncLen = 0)
    (usable : wsi.socketIsPermanentlyUnusable = false) (established : wsi.state = .established)
    {frame : Frame} (noClose : frame.opcode ≠ .close) {platform : Platform}
    (mallocs : platform.mallocs = true) :
    (∃ inside, lwsWrite limit wsi frame platform = (wsi.refused inside, .error .socket)) ∨
      ∃ next returned, lwsWrite limit wsi frame platform = (next, .ok returned) ∧
        next.Sound ∧ next.state = .established := by
  have live := sound.live (by rw [established]; exact State.noConfusion)
  obtain ⟨refuses, _⟩ | ⟨_, refused | ⟨_, next, returned, takes, written⟩⟩ :=
    lwsWrite_spec live.block empty (live.outside usable) frame mallocs
  · rw [Wsi.sends, established] at refuses
    cases refuses
  · exact .inl refused
  · refine .inr ⟨_, returned, written, sound.accepted usable established takes noClose, ?_⟩
    rw [takes.same]
    exact established

theorem Wsi.Sound.unpolled (sound : wsi.Sound) (empty : wsi.truncLen = 0) :
    Wsi.Sound { wsi with pollout := false } where
  grows := sound.grows
  lawful := sound.lawful
  last := sound.last
  live := fun alive =>
    { block := (sound.live alive).block
      conserved := (sound.live alive).conserved
      inside := (sound.live alive).inside
      polls := fun more => absurd empty more
      silent := fun _ => rfl
      shut := (sound.live alive).shut
      phase := (sound.live alive).phase }

theorem Wsi.Sound.refused (sound : wsi.Sound) (empty : wsi.truncLen = 0)
    (quiet : wsi.pollout = false) (inside : Bool) : (wsi.refused inside).Sound where
  toPast := sound.toPast.refused inside
  live := fun alive =>
    { block := (sound.live alive).block
      conserved := (sound.live alive).conserved
      inside := fun _ => rfl
      polls := fun more => absurd empty more
      silent := fun _ => quiet
      shut := (sound.live alive).shut
      phase := (sound.live alive).phase }

private theorem lwsHandlePolloutEvent_stored (sound : wsi.Sound)
    (usable : wsi.socketIsPermanentlyUnusable = false) (more : wsi.truncLen ≠ 0)
    (serving : wsi.state = .established ∨ wsi.state = .flushingStoredSendBeforeClose)
    (user : Option Frame) (platform : Platform) :
    if (lwsHandlePolloutEvent limit wsi user platform).2 then
      (lwsHandlePolloutEvent limit wsi user platform).1.Closes
    else (lwsHandlePolloutEvent limit wsi user platform).1.Sound := by
  have alive : wsi.state ≠ .deadSocket := by
    intro dead
    rw [dead] at serving
    cases serving with
    | inl other => cases other
    | inr other => cases other
  have live := sound.live alive
  have open_ : wsi.shutWr = false := by
    have phase := live.phase
    rw [Wsi.Phase] at phase
    cases serving with
    | inl established =>
        rw [established] at phase
        exact phase.1
    | inr flushing =>
        rw [flushing] at phase
        exact phase
  have handled : lwsHandlePolloutEvent limit wsi user platform =
      ((lwsIssueRaw limit wsi (.stored wsi.truncOffset wsi.truncLen) platform).1,
        !(lwsIssueRaw limit wsi (.stored wsi.truncOffset wsi.truncLen) platform).2.isOk) := by
    rw [lwsHandlePolloutEvent, if_pos more]
  rw [handled]
  obtain ⟨failed, _⟩ | ⟨next, takes, _, answer, issued, outcome⟩ :=
    lwsIssueRaw_stored live.block more open_ platform
  · rw [failed]
    exact .inl ⟨sound.toPast.failed, rfl⟩
  · rw [issued]
    obtain ⟨flushed, _, flushing⟩ | ⟨⟨returned, ok⟩, _⟩ := outcome
    · rw [flushed]
      have state : (next.answered (.error .flushed)).state = .flushingStoredSendBeforeClose := by
        rw [takes.same]
        exact flushing
      have same : (next.answered (.error .flushed)).replied = next.answered (.error .flushed) := by
        rw [Wsi.replied, state]
        rfl
      refine .inr ?_
      rw [same, state]
      refine ⟨State.noConfusion, ?_⟩
      exact sound.answered alive usable open_ serving takes ⟨by simp, by simp⟩
    · rw [ok]
      exact sound.answered alive usable open_ serving takes ⟨by simp, by simp⟩

private theorem lwsHandlePolloutEvent_reply (sound : wsi.Sound)
    (usable : wsi.socketIsPermanentlyUnusable = false)
    (returned : wsi.state = .returnedCloseAlready) (user : Option Frame) {platform : Platform}
    (mallocs : platform.mallocs = true) :
    (lwsHandlePolloutEvent limit wsi user platform).2 = true ∧
      (lwsHandlePolloutEvent limit wsi user platform).1.Closes := by
  have live := sound.live (by rw [returned]; exact State.noConfusion)
  have phase := live.phase
  rw [Wsi.Phase, returned] at phase
  obtain ⟨empty, payloadIsClose, noClose⟩ := phase
  have handled : lwsHandlePolloutEvent limit wsi user platform =
      writeControl wsi (lwsWrite limit wsi wsi.controlFrame platform) := by
    rw [lwsHandlePolloutEvent, if_neg (not_not.mpr empty),
      if_neg (by rw [returned]; exact State.noConfusion),
      if_pos (.inr ⟨returned, payloadIsClose⟩)]
  have close : wsi.controlFrame.opcode = .close := by
    rw [Wsi.controlFrame, payloadIsClose]
    rfl
  have allowed : wsi.sends wsi.controlFrame = true := by
    rw [Wsi.sends, returned]
    exact decide_eq_true ⟨close, rfl⟩
  rw [handled]
  obtain ⟨refuses, _⟩ | ⟨_, ⟨inside, written⟩ | ⟨open_, next, count, takes, written⟩⟩ :=
    lwsWrite_spec live.block empty (live.outside usable) wsi.controlFrame mallocs
  · exact absurd (refuses.symm.trans allowed) Bool.false_ne_true
  · rw [written]
    exact ⟨rfl, .inl ⟨sound.toPast.refused inside, rfl⟩⟩
  · have state : next.state = .returnedCloseAlready := by
      rw [takes.same]
      exact returned
    have past := sound.toPast.accepted live.conserved (noClose open_) takes
    have goes := live.accepted usable (by rw [returned]; exact State.noConfusion) open_ takes
      .flushingStoredSendBeforeClose (by rw [takes.same]; exact open_)
    have flushed : ({ next.accepted wsi.controlFrame with
        state := .flushingStoredSendBeforeClose } : Wsi).Sound :=
      { grows := past.grows, lawful := past.lawful, last := past.last, live := fun _ => goes }
    have answer : writeControl wsi (next.accepted wsi.controlFrame, .ok count) =
        ({ next.accepted wsi.controlFrame with pingPendingFlag := false }, true) := by
      rw [writeControl, payloadIsClose]
      rfl
    have same : ({ next.accepted wsi.controlFrame with pingPendingFlag := false } :
        Wsi).replied =
          { next.accepted wsi.controlFrame with
            pingPendingFlag := false, state := .flushingStoredSendBeforeClose } := by
      have kept : ({ next.accepted wsi.controlFrame with pingPendingFlag := false } :
          Wsi).state = .returnedCloseAlready := state
      rw [Wsi.replied, if_pos kept]
    rw [written, answer]
    refine ⟨rfl, .inr ?_⟩
    rw [same]
    exact ⟨State.noConfusion, flushed.noted rfl id fun _ quiet => quiet⟩

/-- A control frame or what the user writes goes out of an established connection. -/
theorem lwsHandlePolloutEvent_established (sound : wsi.Sound) (empty : wsi.truncLen = 0)
    (usable : wsi.socketIsPermanentlyUnusable = false) (established : wsi.state = .established)
    {user : Option Frame} (noClose : user.all (fun frame => frame.opcode ≠ .close) = true)
    {platform : Platform} (mallocs : platform.mallocs = true) :
    if (lwsHandlePolloutEvent limit wsi user platform).2 then
      (lwsHandlePolloutEvent limit wsi user platform).1.Closes
    else (lwsHandlePolloutEvent limit wsi user platform).1.Sound := by
  have live := sound.live (by rw [established]; exact State.noConfusion)
  have phase := live.phase
  rw [Wsi.Phase, established] at phase
  obtain ⟨_, payloadIsClose, _⟩ := phase
  have open_ : ¬wsi.state = .flushingStoredSendBeforeClose := by
    rw [established]
    exact State.noConfusion
  by_cases ping : wsi.pingPendingFlag = true
  · have pong : wsi.controlFrame.opcode ≠ .close := by
      rw [Wsi.controlFrame, payloadIsClose]
      exact Opcode.noConfusion
    have handled : lwsHandlePolloutEvent limit wsi user platform =
        writeControl wsi (lwsWrite limit wsi wsi.controlFrame platform) := by
      rw [lwsHandlePolloutEvent, if_neg (not_not.mpr empty), if_neg open_,
        if_pos (.inl ⟨established, ping⟩)]
    rw [handled]
    obtain ⟨inside, written⟩ | ⟨next, count, written, goes, _⟩ :=
      lwsWrite_established sound empty usable established pong mallocs
    · rw [written]
      exact .inl ⟨sound.toPast.refused inside, rfl⟩
    · rw [written, writeControl, payloadIsClose]
      exact goes.noted rfl id fun _ quiet => quiet
  · have reply : ¬(wsi.state = .established ∧ wsi.pingPendingFlag = true ∨
        wsi.state = .returnedCloseAlready ∧ wsi.payloadIsClose = true) := by
      rw [payloadIsClose]
      simp [ping]
    by_cases check : wsi.state = .established ∧ wsi.socketIsPermanentlyUnusable = false ∧
        wsi.sendCheckPing = true
    · have unchecked : ({ wsi with sendCheckPing := false } : Wsi).Sound :=
        sound.noted rfl id fun _ quiet => quiet
      have handled : lwsHandlePolloutEvent limit wsi user platform =
          ((lwsWrite limit { wsi with sendCheckPing := false } checkPingFrame platform).1,
            !(lwsWrite limit { wsi with sendCheckPing := false } checkPingFrame
              platform).2.isOk) := by
        rw [lwsHandlePolloutEvent, if_neg (not_not.mpr empty), if_neg open_, if_neg reply,
          if_pos check]
      rw [handled]
      obtain ⟨inside, written⟩ | ⟨next, count, written, goes, _⟩ :=
        lwsWrite_established unchecked empty usable established
          (Opcode.noConfusion : checkPingFrame.opcode ≠ .close) mallocs
      · rw [written]
        exact .inl ⟨unchecked.toPast.refused inside, rfl⟩
      · rw [written]
        exact goes
    · have handled : lwsHandlePolloutEvent limit wsi user platform =
          (userCallback limit { wsi with pollout := false } platform user, false) := by
        rw [lwsHandlePolloutEvent, if_neg (not_not.mpr empty), if_neg open_, if_neg reply,
          if_neg check]
      have unpolled := sound.unpolled empty
      rw [handled]
      cases user with
      | none => exact unpolled
      | some frame =>
          obtain ⟨inside, written⟩ | ⟨next, count, written, goes, _⟩ :=
            lwsWrite_established unpolled empty usable established
              (of_decide_eq_true noClose) mallocs
          · rw [userCallback, written]
            exact unpolled.refused empty rfl inside
          · rw [userCallback, written]
            exact goes

private theorem lwsHandlePolloutEvent_sound (sound : wsi.Sound)
    (usable : wsi.socketIsPermanentlyUnusable = false)
    (served : wsi.state = .established ∨ wsi.state = .returnedCloseAlready ∨
      wsi.state = .flushingStoredSendBeforeClose)
    {user : Option Frame} (noClose : user.all (fun frame => frame.opcode ≠ .close) = true)
    {platform : Platform} (mallocs : platform.mallocs = true) :
    if (lwsHandlePolloutEvent limit wsi user platform).2 then
      (lwsHandlePolloutEvent limit wsi user platform).1.Closes
    else (lwsHandlePolloutEvent limit wsi user platform).1.Sound := by
  obtain established | returned | flushing := served
  · by_cases empty : wsi.truncLen = 0
    · exact lwsHandlePolloutEvent_established sound empty usable established noClose mallocs
    · exact lwsHandlePolloutEvent_stored sound usable empty (.inl established) user platform
  · obtain ⟨asks, closes⟩ :=
      lwsHandlePolloutEvent_reply sound usable returned user mallocs
    rw [if_pos asks]
    exact closes
  · by_cases empty : wsi.truncLen = 0
    · have handled : lwsHandlePolloutEvent limit wsi user platform = (wsi, true) := by
        rw [lwsHandlePolloutEvent, if_neg (not_not.mpr empty), if_pos flushing]
      rw [handled]
      have same : wsi.replied = wsi := by
        rw [Wsi.replied, flushing]
        rfl
      refine .inr ?_
      rw [same]
      exact ⟨by rw [flushing]; exact State.noConfusion, sound⟩
    · exact lwsHandlePolloutEvent_stored sound usable empty (.inr flushing) user platform

private theorem servicePollout_served (user : Option Frame) (platform closing : Platform)
    (served : wsi.state = .established ∨ wsi.state = .returnedCloseAlready ∨
      wsi.state = .flushingStoredSendBeforeClose) :
    servicePollout limit wsi user platform closing =
      if (lwsHandlePolloutEvent limit wsi user platform).2 then
        lwsCloseFreeWsi limit (lwsHandlePolloutEvent limit wsi user platform).1.replied .nostatus
          closing
      else (lwsHandlePolloutEvent limit wsi user platform).1 := by
  obtain established | returned | flushing := served
  · rw [servicePollout, established]
  · rw [servicePollout, returned]
  · rw [servicePollout, flushing]

private theorem servicePollout_sound (sound : wsi.Sound)
    (usable : wsi.socketIsPermanentlyUnusable = false) {user : Option Frame}
    (noClose : user.all (fun frame => frame.opcode ≠ .close) = true)
    {platform closing : Platform} (mallocs : platform.mallocs = true)
    (mallocsClosing : closing.mallocs = true) :
    (servicePollout limit wsi user platform closing).Sound := by
  by_cases served : wsi.state = .established ∨ wsi.state = .returnedCloseAlready ∨
      wsi.state = .flushingStoredSendBeforeClose
  · have handled : if (lwsHandlePolloutEvent limit wsi user platform).2 then
        (lwsHandlePolloutEvent limit wsi user platform).1.Closes
      else (lwsHandlePolloutEvent limit wsi user platform).1.Sound :=
      lwsHandlePolloutEvent_sound sound usable served noClose mallocs
    rw [servicePollout_served user platform closing served]
    split at handled
    · rename_i asks
      rw [if_pos asks]
      exact handled.sound mallocsClosing
    · rename_i stays
      rw [if_neg stays]
      exact handled
  · rw [servicePollout]
    split
    · rename_i state
      exact absurd (.inl state) served
    · rename_i state
      exact absurd (.inr (.inl state)) served
    · rename_i state
      exact absurd (.inr (.inr state)) served
    · exact sound

private theorem processAsPing_sound (sound : wsi.Sound) (payload : List UInt8) :
    (processAsPing wsi payload).Sound := by
  rw [processAsPing]
  split
  · exact sound
  · exact Wsi.Sound.callbackOnWritable (sound.noted rfl id fun _ quiet => quiet)

theorem Wsi.Sound.returned (sound : wsi.Sound) (alive : wsi.state ≠ .deadSocket)
    (open_ : wsi.state = .established ∨ wsi.state = .shutdown) (empty : wsi.truncLen = 0) :
    Wsi.Sound { wsi with state := .returnedCloseAlready, payloadIsClose := true } where
  grows := sound.grows
  lawful := sound.lawful
  last := sound.last
  live := fun _ =>
    { block := (sound.live alive).block
      conserved := (sound.live alive).conserved
      inside := (sound.live alive).inside
      polls := fun more => absurd empty more
      silent := (sound.live alive).silent
      shut := (sound.live alive).shut
      phase := by
        refine ⟨empty, rfl, ?_⟩
        intro notShut
        have phase := (sound.live alive).phase
        rw [Wsi.Phase] at phase
        cases open_ with
        | inl established =>
            rw [established] at phase
            exact phase.2.2
        | inr shutdown =>
            rw [shutdown] at phase
            exact absurd (notShut.symm.trans phase) Bool.false_ne_true }

/-- The events of a run in which the allocator does not fail. -/
def Event.mallocs : Event → Prop
  | .pollout _ platform closing => platform.mallocs = true ∧ closing.mallocs = true
  | .receiveClose _ platform | .close _ platform | .timeout platform => platform.mallocs = true
  | _ => True

instance : DecidablePred Event.mallocs
  | .pollout _ platform closing =>
      inferInstanceAs (Decidable (platform.mallocs = true ∧ closing.mallocs = true))
  | .receiveClose _ platform | .close _ platform | .timeout platform =>
      inferInstanceAs (Decidable (platform.mallocs = true))
  | .callbackOnWritable | .receivePing _ | .checkPing | .closeReason _ _ =>
      inferInstanceAs (Decidable True)

private theorem receiveClose_sound (sound : wsi.Sound) (alive : wsi.state ≠ .deadSocket)
    (open_ : wsi.state ≠ .flushingStoredSendBeforeClose) (payload : List UInt8)
    {platform : Platform} (mallocs : platform.mallocs = true) :
    (if (receiveClose wsi payload).2 then (receiveClose wsi payload).1
      else lwsCloseFreeWsi limit (receiveClose wsi payload).1 .nostatus platform).Sound := by
  have takesUp (serving : wsi.state = .established ∨ wsi.state = .shutdown) :
      (if (receiveClose wsi payload).2 then (receiveClose wsi payload).1
        else lwsCloseFreeWsi limit (receiveClose wsi payload).1 .nostatus platform).Sound := by
    have received : receiveClose wsi payload =
        if wsi.truncLen ≠ 0 then (wsi.failed, false)
        else
          (processAsPing { wsi with state := .returnedCloseAlready, payloadIsClose := true }
            payload, true) := by
      cases serving with
      | inl established =>
          rw [receiveClose, established]
      | inr shutdown =>
          rw [receiveClose, shutdown]
    rw [received]
    by_cases empty : wsi.truncLen = 0
    · rw [if_neg (not_not.mpr empty)]
      exact processAsPing_sound (sound.returned alive serving empty) payload
    · have past : wsi.failed.Past :=
        { grows := sound.grows, lawful := sound.lawful, last := sound.last }
      rw [if_pos empty]
      show (lwsCloseFreeWsi limit wsi.failed .nostatus platform).Sound
      exact lwsCloseFreeWsi_unusable past rfl _ _
  cases state : wsi.state with
  | established => exact takesUp (.inl state)
  | shutdown => exact takesUp (.inr state)
  | flushingStoredSendBeforeClose => exact absurd state open_
  | deadSocket => exact absurd state alive
  | awaitingCloseAck =>
      have received : receiveClose wsi payload = (wsi, false) := by
        rw [receiveClose, state]
      rw [received]
      exact lwsCloseFreeWsi_sound sound alive _ mallocs
  | returnedCloseAlready =>
      have received : receiveClose wsi payload = (wsi, false) := by
        rw [receiveClose, state]
      rw [received]
      exact lwsCloseFreeWsi_sound sound alive _ mallocs

theorem step_sound {event : Event} {next : Wsi} (sound : wsi.Sound) (mallocs : event.mallocs)
    (taken : step limit wsi event = some next) : next.Sound := by
  by_cases dead : wsi.state = .deadSocket
  · rw [step, if_pos dead] at taken
    cases taken
  rw [step, if_neg dead] at taken
  cases event with
  | pollout user platform closing =>
      dsimp only [serve] at taken
      split at taken
      · rename_i enabled
        cases taken
        have usable : wsi.socketIsPermanentlyUnusable = false := by
          rw [← Bool.not_eq_true]
          intro unusable
          have quiet := (sound.live dead).silent unusable
          exact absurd (quiet.symm.trans enabled.1) Bool.false_ne_true
        exact servicePollout_sound sound usable enabled.2.1 mallocs.1 mallocs.2
      · cases taken
  | callbackOnWritable =>
      cases taken
      exact sound.callbackOnWritable
  | receivePing payload =>
      dsimp only [serve] at taken
      split at taken
      · cases taken
      · cases taken
        rw [receivePing]
        split
        · exact sound
        · exact processAsPing_sound sound payload
  | receiveClose payload platform =>
      dsimp only [serve] at taken
      split at taken
      · cases taken
      · rename_i read
        cases taken
        exact receiveClose_sound sound dead (fun flushing => read (.inr flushing)) payload mallocs
  | checkPing =>
      dsimp only [serve] at taken
      split at taken
      · cases taken
        exact Wsi.Sound.callbackOnWritable (sound.noted rfl id fun _ quiet => quiet)
      · cases taken
  | closeReason status payload =>
      cases taken
      exact sound.noted rfl id fun _ quiet => quiet
  | close reason platform =>
      cases taken
      exact lwsCloseFreeWsi_sound sound dead reason mallocs
  | timeout platform =>
      cases taken
      have past : wsi.failed.Past :=
        { grows := sound.grows, lawful := sound.lawful, last := sound.last }
      exact lwsCloseFreeWsi_unusable past rfl _ _

/-- The states of runs in which the allocator does not fail. -/
def Reached (limit : Nat) : Wsi → Prop :=
  (machine limit).ReachableWhen fun _ event => event.mallocs

theorem Reached.sound (reached : Reached limit wsi) : wsi.Sound := by
  apply Machine.ReachableWhen.invariant Wsi.Sound ?_ ?_ reached
  · intro state starts
    rw [starts]
    exact Wsi.fresh_sound
  · intro state event next _ sound mallocs taken
    exact step_sound sound mallocs taken

/-- The socket takes so many bytes of what it is offered. -/
def takes (count : Nat) : Platform :=
  { write := .took count, mallocs := true }

/-- A text of which the socket takes one byte. -/
def halfSentRun : List Event :=
  [.callbackOnWritable,
    .pollout (some { opcode := .textFrame, final := true, payload := [72, 105] }) (takes 1)
      (takes 1)]

def Wsi.halfSent : Wsi :=
  ((machine 20).run .fresh halfSentRun).getD .fresh

theorem Wsi.halfSent_reached : Reached 20 .halfSent :=
  Machine.ReachableWhen.runWhen halfSentRun (.initial rfl) rfl

/-- The same connection, which is to be closed. -/
def Wsi.halfClosed : Wsi :=
  ((machine 20).run .halfSent [.close .nostatus (takes 1)]).getD .fresh

theorem Wsi.halfClosed_reached : Reached 20 .halfClosed :=
  Machine.ReachableWhen.runWhen [.close .nostatus (takes 1)] halfSent_reached rfl

/-! ### The results -/

/-- The bytes on the wire and those stored are the frames accepted, in order, and no call has
found bytes of another one stored or written outside of the block. -/
theorem reached_conserves (reached : Reached limit wsi) :
    wsi.sent <+: wsi.frames.flatMap Frame.encode ∧
      (wsi.state ≠ .deadSocket →
        wsi.sent ++ wsi.pending = wsi.frames.flatMap Frame.encode ∧
          (wsi.truncLen ≠ 0 →
            ∃ block, wsi.truncAlloc = some block ∧
              wsi.truncOffset + wsi.truncLen ≤ block.length)) ∧
      ∀ answer ∈ wsi.answers,
        answer ≠ .error .pendingTruncated ∧ answer ≠ .error .outOfBlock := by
  have sound := reached.sound
  refine ⟨sound.grows, ?_, sound.lawful⟩
  intro alive
  exact ⟨(sound.live alive).conserved, (sound.live alive).block.inside⟩

theorem reached_conserves_halfSent :
    Wsi.halfSent.sent = [0x81] ∧ Wsi.halfSent.pending = [2, 72, 105] ∧
      Wsi.halfSent.sent ++ Wsi.halfSent.pending = Wsi.halfSent.frames.flatMap Frame.encode :=
  ⟨rfl, rfl, ((reached_conserves Wsi.halfSent_reached).2.1 (by decide)).1⟩

/-- Nothing follows a Close frame, and a socket that is shut down for sending has been given
every frame but for the end of a Close one. -/
theorem reached_closes (reached : Reached limit wsi) :
    (∀ frame ∈ wsi.frames.dropLast, frame.opcode ≠ .close) ∧
      (wsi.state = .shutdown →
        wsi.sent = wsi.frames.flatMap Frame.encode ∨
          ∃ front close, wsi.frames = front ++ [close] ∧ close.opcode = .close ∧
            front.flatMap Frame.encode <+: wsi.sent) := by
  have sound := reached.sound
  refine ⟨sound.last, ?_⟩
  intro shut
  have live := sound.live (by rw [shut]; exact State.noConfusion)
  have phase := live.phase
  rw [Wsi.Phase, shut] at phase
  exact live.shut phase

theorem reached_closes_halfClosed :
    Wsi.halfClosed.truncLen ≠ 0 ∧
      ∀ frame ∈ Wsi.halfClosed.frames.dropLast, frame.opcode ≠ .close :=
  ⟨by decide, (reached_closes Wsi.halfClosed_reached).1⟩

/-! ### Flushing -/

/-- One turn of a connection that is to be closed: what is stored gets less, and with the
last of it the socket is shut down. -/
theorem flush_step (sound : wsi.Sound) (flushing : wsi.state = .flushingStoredSendBeforeClose)
    (usable : wsi.socketIsPermanentlyUnusable = false) (more : wsi.truncLen ≠ 0)
    (positive : 0 < limit) {count : Nat} (some_ : 0 < count) :
    ∃ next, step limit wsi (.pollout none (takes count) (takes count)) = some next ∧
      next.Sound ∧ next.frames = wsi.frames ∧
      (next.state = .shutdown ∧ next.sent = next.due ∨
        next.state = .flushingStoredSendBeforeClose ∧
          next.socketIsPermanentlyUnusable = false ∧ next.truncLen ≠ 0 ∧
          next.truncLen < wsi.truncLen) := by
  have alive : wsi.state ≠ .deadSocket := by
    rw [flushing]
    exact State.noConfusion
  have live := sound.live alive
  have open_ : wsi.shutWr = false := by
    have phase := live.phase
    rw [Wsi.Phase, flushing] at phase
    exact phase
  have polled := live.polled more usable open_
  have taken : step limit wsi (.pollout none (takes count) (takes count)) =
      some (servicePollout limit wsi none (takes count) (takes count)) := by
    rw [step, if_neg alive, serve, if_pos ⟨polled, rfl, rfl⟩]
  have handled : lwsHandlePolloutEvent limit wsi none (takes count) =
      ((lwsIssueRaw limit wsi (.stored wsi.truncOffset wsi.truncLen) (takes count)).1,
        !(lwsIssueRaw limit wsi (.stored wsi.truncOffset wsi.truncLen) (takes count)).2.isOk) := by
    rw [lwsHandlePolloutEvent, if_pos more]
  rw [taken, servicePollout_served none (takes count) (takes count) (.inr (.inr flushing)),
    handled]
  obtain ⟨_, failed⟩ | ⟨next, moves, left, answer, issued, outcome⟩ :=
    lwsIssueRaw_stored live.block more open_ (takes count)
  · cases failed
  rw [issued]
  have less : next.truncLen < wsi.truncLen := by
    rw [left, takes, Capable.count]
    omega
  have state : next.state = .flushingStoredSendBeforeClose := by
    rw [moves.same]
    exact flushing
  have usableNext : next.socketIsPermanentlyUnusable = false := by
    rw [moves.same]
    exact usable
  have frames : next.frames = wsi.frames := by
    rw [moves.same]
    rfl
  obtain ⟨flushed, empty, _⟩ | ⟨⟨returned, ok⟩, stays⟩ := outcome
  · have goes : (next.answered (.error .flushed)).Sound :=
      sound.answered alive usable open_ (.inr flushing) moves ⟨by simp, by simp⟩
    rw [flushed]
    generalize shape : next.answered (.error .flushed) = after at goes
    have stateAfter : after.state = .flushingStoredSendBeforeClose := by
      rw [← shape]
      exact state
    have usableAfter : after.socketIsPermanentlyUnusable = false := by
      rw [← shape]
      exact usableNext
    have emptyAfter : after.truncLen = 0 := by
      rw [← shape]
      exact empty
    have aliveAfter : after.state ≠ .deadSocket := by
      rw [stateAfter]
      exact State.noConfusion
    have whole := (goes.live aliveAfter).whole emptyAfter
    have replied : after.replied = after := by
      rw [Wsi.replied, stateAfter]
      rfl
    have first : after.state ≠ .shutdown ∧ Reason.nostatus ≠ .contextDestroy ∧
        after.socketIsPermanentlyUnusable = false := by
      rw [stateAfter]
      exact ⟨State.noConfusion, Reason.noConfusion, usableAfter⟩
    have shut : justKillConnection after .nostatus =
        { after with pollout := false, shutWr := true, state := .shutdown } := by
      rw [justKillConnection, if_pos first]
    have killed : lwsCloseFreeWsi limit after .nostatus (takes count) =
        justKillConnection after .nostatus := by
      have kept : ¬(after.socketIsPermanentlyUnusable = true ∨
          Reason.nostatus = .contextDestroy ∨ after.state = .shutdown) := by
        rw [stateAfter, usableAfter]
        simp
      rw [lwsCloseFreeWsi, if_neg kept, stateAfter]
      dsimp only
      rw [if_neg (not_not.mpr emptyAfter)]
    have closed := justKillConnection_sound goes aliveAfter (.inl whole) .nostatus
    refine ⟨justKillConnection after .nostatus, congrArg some ?_, closed, ?_, ?_⟩
    · show lwsCloseFreeWsi limit after.replied .nostatus (takes count) = _
      rw [replied]
      exact killed
    · rw [shut, ← shape]
      exact frames
    · rw [shut]
      exact .inl ⟨rfl, whole⟩
  · rw [ok]
    refine ⟨_, rfl, ?_, frames, .inr ⟨state, usableNext, stays flushing, less⟩⟩
    exact sound.answered alive usable open_ (.inr flushing) moves ⟨by simp, by simp⟩

/-- A connection that is told to close while bytes are stored sends them all, in as many turns
as there are bytes at most, and only then shuts its socket down. -/
theorem reached_flushes (reached : Reached limit wsi)
    (flushing : wsi.state = .flushingStoredSendBeforeClose)
    (usable : wsi.socketIsPermanentlyUnusable = false) (more : wsi.truncLen ≠ 0)
    (positive : 0 < limit) (counts : List Nat) (progress : ∀ count ∈ counts, 0 < count)
    (enough : wsi.truncLen ≤ counts.length) :
    ∃ front final, front <+: counts ∧
      (machine limit).run wsi
        (front.map fun count => .pollout none (takes count) (takes count)) = some final ∧
      final.state = .shutdown ∧ final.sent = wsi.frames.flatMap Frame.encode := by
  have sound := reached.sound
  clear reached
  induction counts generalizing wsi with
  | nil => exact absurd (Nat.le_zero.mp enough) more
  | cons count counts ih =>
      obtain ⟨next, taken, soundNext, frames, ⟨shut, whole⟩ | ⟨stays, usableNext, left, less⟩⟩ :=
        flush_step sound flushing usable more positive (progress count List.mem_cons_self)
      · refine ⟨[count], next, ⟨counts, rfl⟩, ?_, shut, ?_⟩
        · show (step limit wsi _).bind _ = _
          rw [taken]
          rfl
        · rw [whole, Wsi.due, frames]
      · rw [List.length_cons] at enough
        obtain ⟨front, final, part, ran, shut, whole⟩ :=
          ih stays usableNext left (fun other listed =>
            progress other (List.mem_cons_of_mem _ listed)) (by omega) soundNext
        refine ⟨count :: front, final, ?_, ?_, shut, ?_⟩
        · obtain ⟨back, parts⟩ := part
          exact ⟨back, by rw [List.cons_append, parts]⟩
        · show (step limit wsi _).bind _ = _
          rw [taken]
          exact ran
        · rw [whole, frames]

theorem reached_flushes_halfClosed :
    ∃ front final, front <+: [2, 5, 1] ∧
      (machine 20).run .halfClosed
        (front.map fun count => .pollout none (takes count) (takes count)) = some final ∧
      final.state = .shutdown ∧ final.sent = Wsi.halfClosed.frames.flatMap Frame.encode :=
  reached_flushes Wsi.halfClosed_reached rfl rfl (by decide) (by decide) [2, 5, 1] (by decide)
    (by decide)

/-! ### What the peer reads -/

/-- What a parser tells of frames that come one after the other. -/
def framesCallbacks (rxBufferSize : Nat) : Bool → List Frame → List Callback
  | _, [] => []
  | binary, frame :: rest =>
      frameCallbacks rxBufferSize frame.opcode (frame.opcode.binaryAfter binary) frame.payload ++
        framesCallbacks rxBufferSize (frame.opcode.binaryAfter binary) rest

private theorem reads_frames {rxBufferSize : Nat} (positive : 0 < rxBufferSize)
    (frames : List Frame)
    (noClose : ∀ frame ∈ frames, frame.opcode ≠ .close)
    (allowed : ∀ frame ∈ frames, frame.payload.length < 2 ^ 63 ∧
      (frame.opcode.isControl = true → frame.payload.length < 126))
    {peer : Libwebsockets.Wsi} {binary : Bool} (idle : peer.Idle binary) :
    ∃ next, Reads rxBufferSize peer (frames.flatMap Frame.encode)
      (framesCallbacks rxBufferSize binary frames) next := by
  induction frames generalizing peer binary with
  | nil => exact ⟨peer, .nil peer⟩
  | cons frame frames ih =>
      obtain ⟨bounded, control⟩ := allowed frame List.mem_cons_self
      obtain ⟨mid, first, idleMid⟩ := reads_frame positive idle frame.opcode frame.final none
        frame.payload (noClose frame List.mem_cons_self) control bounded
      obtain ⟨next, later⟩ := ih
        (fun other listed => noClose other (List.mem_cons_of_mem _ listed))
        (fun other listed => allowed other (List.mem_cons_of_mem _ listed)) idleMid
      rw [List.flatMap_cons]
      exact ⟨next, first.append later⟩

/-- Whatever the socket has taken by now, a parser that reads it tells of the frames from the
first one on, and of all of them where nothing is stored. -/
theorem reached_reads {rxBufferSize : Nat} (reached : Reached limit wsi)
    (established : wsi.state = .established) (positive : 0 < rxBufferSize)
    (allowed : ∀ frame ∈ wsi.frames, frame.payload.length < 2 ^ 63 ∧
      (frame.opcode.isControl = true → frame.payload.length < 126))
    {peer : Libwebsockets.Wsi} {binary : Bool} (idle : peer.Idle binary) :
    ∃ next callbacks, Reads rxBufferSize peer wsi.sent callbacks next ∧
      callbacks <+: framesCallbacks rxBufferSize binary wsi.frames ∧
      (wsi.truncLen = 0 → callbacks = framesCallbacks rxBufferSize binary wsi.frames) := by
  have live := reached.sound.live (by rw [established]; exact State.noConfusion)
  have phase := live.phase
  rw [Wsi.Phase, established] at phase
  obtain ⟨next, reads⟩ := reads_frames positive wsi.frames phase.2.2 allowed idle
  have due : wsi.frames.flatMap Frame.encode = wsi.sent ++ wsi.pending := live.conserved.symm
  by_cases empty : wsi.truncLen = 0
  · rw [due, Wsi.pending_nil empty, List.append_nil] at reads
    exact ⟨next, _, reads, List.prefix_refl _, fun _ => rfl⟩
  · rw [due] at reads
    obtain ⟨mid, early, late, first, _, parts⟩ := reads.split wsi.sent wsi.pending
    exact ⟨mid, early, first, ⟨late, parts.symm⟩, fun none => absurd none empty⟩

theorem reached_reads_halfSent :
    ∃ next callbacks, Reads 4 .fresh Wsi.halfSent.sent callbacks next ∧
      callbacks <+: framesCallbacks 4 false Wsi.halfSent.frames ∧
      (Wsi.halfSent.truncLen = 0 → callbacks = framesCallbacks 4 false Wsi.halfSent.frames) :=
  reached_reads Wsi.halfSent_reached rfl (by decide) (by decide) Libwebsockets.Wsi.fresh_idle

end Output
end Libwebsockets
end JSCameraKit

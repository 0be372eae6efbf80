import Mathlib.Tactic.Linarith
import JSCameraKit.Library.Machine
import JSCameraKit.WebSocketCamera.Handlers

set_option autoImplicit false

/-! The send lock of `writeFrame`. Every frame started enters `sendGroup` twice and
queues a task on a serial queue, which waits for the group and then clears the
frame. The lock is given up after one second, so frames and tasks can pile up. -/

namespace JSCameraKit
namespace WebSocketCamera
namespace SendLock

inductive Plane
  | y
  | uv

/-- A frame started by `writeFrame` and which of its two writes are completed. -/
structure Frame where
  started : ℚ
  yDone : Bool
  uvDone : Bool

def Frame.InFlight (frame : Frame) : Prop :=
  frame.yDone = false ∨ frame.uvDone = false

def Frame.unfinished (frame : Frame) : Nat :=
  (!frame.yDone).toNat + (!frame.uvDone).toNat

structure State (Device Data : Type) where
  camera : WebSocketCamera Device Data
  now : ℚ
  /-- The frames started, by number. -/
  frames : List Frame
  /-- The tasks on the serial queue, each by the number of the frame that queued it. -/
  tasks : List Nat
  /-- The `sendGroup.wait` of the first task has returned. -/
  waited : Bool

inductive Label (Data : Type)
  | tick (elapsed : ℚ)
  | onBuffer (yData uvData : Data)
  | needFrame
  | writeFrame
  | complete (number : Nat) (plane : Plane)
  | waitReturns
  | clearFrameData
  | clear
  | configure (resolution position : String)
  | changePosition (position : String)
  | changeResolution (resolution : String)
  | activityTimeout

variable {Device Data : Type}

/-- The camera after a step that may have called `writeFrame`; a frame written is
numbered and queues its task. -/
def afterWrite (state : State Device Data)
    (outcome : WebSocketCamera Device Data × Option (Data × Data)) : State Device Data :=
  match outcome.2 with
  | none => { state with camera := outcome.1 }
  | some _ =>
      { state with
        camera := outcome.1
        frames := state.frames ++ [{ started := state.now, yDone := false, uvDone := false }]
        tasks := state.tasks ++ [state.frames.length] }

/-- The frame once a write is completed; each completion block runs once. -/
def Frame.complete (frame : Frame) : Plane → Option Frame
  | .y => if frame.yDone then none else some { frame with yDone := true }
  | .uv => if frame.uvDone then none else some { frame with uvDone := true }

def step (platform : Platform Device) (state : State Device Data) :
    Label Data → Option (State Device Data)
  | .tick elapsed => if 0 ≤ elapsed then some { state with now := state.now + elapsed } else none
  | .onBuffer yData uvData =>
      some (afterWrite state (state.camera.onBuffer state.now yData uvData))
  | .needFrame => (state.camera.onNeedFrame platform state.now).map (afterWrite state)
  | .writeFrame => some (afterWrite state (state.camera.writeFrame state.now))
  | .complete number plane => do
      let frame ← state.frames[number]?
      let finished ← frame.complete plane
      some
        { state with
          camera := state.camera.leaveSendGroup
          frames := state.frames.set number finished }
  | .waitReturns =>
      if state.tasks ≠ [] ∧ state.waited = false ∧ state.camera.sendGroup = 0 then
        some { state with waited := true }
      else none
  | .clearFrameData =>
      if state.waited then
        some
          { state with
            camera := state.camera.clearFrameData
            tasks := state.tasks.tail
            waited := false }
      else none
  | .clear => some { state with camera := state.camera.clear }
  | .configure resolution position =>
      (state.camera.start platform resolution position).map fun camera =>
        { state with camera := camera }
  | .changePosition position =>
      (state.camera.clear.changePosition platform position).map fun camera =>
        { state with camera := camera }
  | .changeResolution resolution =>
      (state.camera.clear.changeResolution platform resolution).map fun camera =>
        { state with camera := camera }
  | .activityTimeout => some { state with camera := state.camera.stop }

def initial (now : ℚ) : State Device Data :=
  { camera := WebSocketCamera.init now, now := now, frames := [], tasks := [], waited := false }

def machine (platform : Platform Device) : Machine (State Device Data) (Label Data) :=
  { initial := fun state => ∃ now, state = initial now
    step := step platform }

/-! ### The condition -/

/-- The camera on which a step calls `writeFrame`, if it does. -/
def writer (camera : WebSocketCamera Device Data) :
    Label Data → Option (WebSocketCamera Device Data)
  | .writeFrame => some camera
  | .onBuffer yData uvData =>
      if camera.needFrame then some (camera.setBuffers yData uvData) else none
  | .needFrame => if ¬camera.Restarts ∧ camera.HoldsFrame then some camera else none
  | _ => none

def StartsFrame (state : State Device Data) (label : Label Data) : Prop :=
  ∃ caller ∈ writer state.camera label, caller.Ready state.now

instance (state : State Device Data) (label : Label Data) : Decidable (StartsFrame state label) :=
  inferInstanceAs (Decidable (∃ caller ∈ writer state.camera label, caller.Ready state.now))

/-- No frame is started while a task is between its wait and its clear. -/
def Undisturbed (state : State Device Data) (label : Label Data) : Prop :=
  state.waited = true → ¬StartsFrame state label

instance (state : State Device Data) (label : Label Data) :
    Decidable (Undisturbed state label) :=
  inferInstanceAs (Decidable (_ → _))

/-! ### The invariant -/

structure Locked (state : State Device Data) : Prop where
  group : state.camera.sendGroup = (state.frames.map Frame.unfinished).sum
  last : ∀ frame ∈ state.frames, frame.started ≤ state.camera.lastFrame
  clock : state.camera.lastFrame ≤ state.now
  held : ∀ frame ∈ state.frames, frame.InFlight → state.now - frame.started < 1 →
    state.camera.sending = true
  drained : state.waited = true → ∀ frame ∈ state.frames, ¬frame.InFlight

private theorem unfinished_eq_zero {frame : Frame} (finished : frame.unfinished = 0) :
    ¬frame.InFlight := by
  rintro (atY | atUv)
  · simp [Frame.unfinished, atY] at finished
  · simp [Frame.unfinished, atUv] at finished

private theorem complete_unfinished {frame finished : Frame} {plane : Plane}
    (taken : frame.complete plane = some finished) :
    finished.unfinished + 1 = frame.unfinished ∧ finished.started = frame.started ∧
      (finished.InFlight → frame.InFlight) := by
  obtain ⟨started, yDone, uvDone⟩ := frame
  cases plane <;> cases yDone <;> cases uvDone <;>
    simp_all [Frame.complete, Frame.unfinished, Frame.InFlight] <;> subst taken <;> simp

/-- What the invariant reads of the camera. -/
def SameLock (camera next : WebSocketCamera Device Data) : Prop :=
  next.sendGroup = camera.sendGroup ∧ next.lastFrame = camera.lastFrame ∧
    next.sending = camera.sending

theorem SameLock.locked {state : State Device Data} {camera : WebSocketCamera Device Data}
    (same : SameLock state.camera camera) (locked : Locked state) :
    Locked { state with camera := camera } := by
  obtain ⟨group, last, sending⟩ := same
  exact
    { group := group.trans locked.group
      last := fun frame member => (locked.last frame member).trans_eq last.symm
      clock := last.trans_le locked.clock
      held := fun frame member flying recent =>
        sending.trans (locked.held frame member flying recent)
      drained := locked.drained }

theorem Locked.not_recent {state : State Device Data} (locked : Locked state)
    (expired : 1 ≤ state.now - state.camera.lastFrame) {frame : Frame}
    (member : frame ∈ state.frames) : ¬state.now - frame.started < 1 := by
  have last := locked.last frame member
  intro recent
  linarith

theorem Locked.release {state : State Device Data} (locked : Locked state)
    (expired : 1 ≤ state.now - state.camera.lastFrame) :
    Locked { state with camera := { state.camera with sending := false } } :=
  { group := locked.group
    last := locked.last
    clock := locked.clock
    held := fun _ member _ recent => absurd recent (locked.not_recent expired member)
    drained := locked.drained }

/-- A call of `writeFrame` keeps the invariant if it starts no frame under a task that
has waited. -/
theorem Locked.write {state : State Device Data} (locked : Locked state)
    (undisturbed : state.waited = true → ¬state.camera.Ready state.now) :
    Locked (afterWrite state (state.camera.writeFrame state.now)) := by
  rcases state.camera.writeFrame_cases state.now with
    ⟨ready, y, uv, _, _, outcome⟩ | ⟨_, outcome | ⟨expired, outcome⟩⟩
  · have notWaited : ¬state.waited = true := fun waited => undisturbed waited ready
    rw [outcome]
    constructor
    · simp only [afterWrite, List.map_append, List.sum_append, locked.group]
      rfl
    · intro frame member
      simp only [afterWrite, List.mem_append, List.mem_singleton] at member ⊢
      rcases member with earlier | rfl
      · exact (locked.last frame earlier).trans locked.clock
      · exact le_refl _
    · exact le_refl _
    · intro frame _ _ _
      rfl
    · intro waited
      exact absurd waited notWaited
  · rw [outcome]
    exact locked
  · rw [outcome]
    exact locked.release expired

theorem Locked.complete {state : State Device Data} (locked : Locked state) {number : Nat}
    {plane : Plane} {frame finished : Frame} (found : state.frames[number]? = some frame)
    (taken : frame.complete plane = some finished) :
    Locked
      { state with
        camera := state.camera.leaveSendGroup
        frames := state.frames.set number finished } := by
  obtain ⟨less, sameStart, stillFlying⟩ := complete_unfinished taken
  have inFrames : frame ∈ state.frames := List.mem_of_getElem? found
  obtain ⟨inRange, here⟩ := List.getElem?_eq_some_iff.mp found
  constructor
  · have before : (state.frames.map Frame.unfinished).sum =
        ((state.frames.take number).map Frame.unfinished).sum +
          (frame.unfinished + ((state.frames.drop (number + 1)).map Frame.unfinished).sum) := by
      conv_lhs => rw [← List.take_append_drop number state.frames,
        List.drop_eq_getElem_cons inRange, here]
      simp
    have group := locked.group
    simp only [leaveSendGroup, List.set_eq_take_append_cons_drop, if_pos inRange, List.map_append,
      List.map_cons, List.sum_append, List.sum_cons]
    omega
  · intro other member
    rcases List.mem_or_eq_of_mem_set member with before | rfl
    · exact locked.last other before
    · exact sameStart.trans_le (locked.last frame inFrames)
  · exact locked.clock
  · intro other member flying recent
    rcases List.mem_or_eq_of_mem_set member with before | rfl
    · exact locked.held other before flying recent
    · exact locked.held frame inFrames (stillFlying flying) (by rwa [sameStart] at recent)
  · intro waited other member
    rcases List.mem_or_eq_of_mem_set member with before | rfl
    · exact locked.drained waited other before
    · exact fun flying => locked.drained waited frame inFrames (stillFlying flying)

theorem Locked.wait {state : State Device Data} (locked : Locked state)
    (empty : state.camera.sendGroup = 0) : Locked { state with waited := true } :=
  { locked with
    drained := by
      intro _ frame member
      have total := locked.group.symm.trans empty
      have finished := List.sum_eq_zero_iff_forall_eq_nat.mp total frame.unfinished
        (List.mem_map_of_mem member)
      exact unfinished_eq_zero finished }

theorem Locked.clearFrameData {state : State Device Data} (locked : Locked state)
    (waited : state.waited = true) :
    Locked
      { state with
        camera := state.camera.clearFrameData
        tasks := state.tasks.tail
        waited := false } :=
  { group := locked.group
    last := locked.last
    clock := locked.clock
    held := fun frame member flying _ => absurd flying (locked.drained waited frame member)
    drained := nofun }

theorem Locked.tick {state : State Device Data} (locked : Locked state) {elapsed : ℚ}
    (forward : 0 ≤ elapsed) : Locked { state with now := state.now + elapsed } :=
  { group := locked.group
    last := locked.last
    clock := by
      have clock := locked.clock
      dsimp only
      linarith
    held := by
      intro frame member flying recent
      apply locked.held frame member flying
      dsimp only at recent
      linarith
    drained := locked.drained }

theorem SameLock.start {platform : Platform Device} {camera next : WebSocketCamera Device Data}
    {resolution position : String}
    (taken : camera.start platform resolution position = some next) : SameLock camera next := by
  rcases start_spec taken with ⟨_, rfl⟩ | ⟨_, capture, _, rfl⟩
  · exact ⟨rfl, rfl, rfl⟩
  · exact ⟨rfl, rfl, rfl⟩

/-! ### One step -/

private theorem writer_sameLock {camera caller : WebSocketCamera Device Data} {label : Label Data}
    (writes : writer camera label = some caller) : SameLock camera caller := by
  cases label with
  | writeFrame =>
      cases writes
      exact ⟨rfl, rfl, rfl⟩
  | onBuffer yData uvData =>
      obtain ⟨_, rfl⟩ : _ ∧ _ = caller := by simpa [writer] using writes
      exact ⟨rfl, rfl, rfl⟩
  | needFrame =>
      obtain ⟨_, rfl⟩ : _ ∧ camera = caller := by simpa [writer] using writes
      exact ⟨rfl, rfl, rfl⟩
  | _ => cases writes

theorem step_writer {platform : Platform Device} {state next : State Device Data}
    {label : Label Data} {caller : WebSocketCamera Device Data}
    (writes : writer state.camera label = some caller)
    (taken : step platform state label = some next) :
    next = afterWrite state (caller.writeFrame state.now) := by
  cases label with
  | writeFrame =>
      cases writes
      cases taken
      rfl
  | onBuffer yData uvData =>
      obtain ⟨asked, rfl⟩ : state.camera.needFrame = true ∧ _ = caller := by
        simpa [writer] using writes
      cases taken
      simp [onBuffer, asked]
  | needFrame =>
      obtain ⟨⟨running, holds⟩, rfl⟩ :
          (¬state.camera.Restarts ∧ state.camera.HoldsFrame) ∧ state.camera = caller := by
        simpa [writer] using writes
      simp only [step] at taken
      obtain ⟨⟨camera, written⟩, handled, rfl⟩ := Option.map_eq_some_iff.mp taken
      rcases onNeedFrame_cases handled with
        ⟨resolution, position, stopped, atResolution, atPosition, _, _⟩ | ⟨_, _, wrote⟩ | empty
      · exact absurd ⟨stopped, by simp [atResolution], by simp [atPosition]⟩ running
      · rw [wrote]
      · exact absurd holds empty.2.1
  | _ => cases writes

/-- Every other step starts no frame, and keeps the invariant. -/
theorem step_quiet {platform : Platform Device} {state next : State Device Data}
    {label : Label Data} (quiet : writer state.camera label = none)
    (taken : step platform state label = some next) :
    next.frames.length = state.frames.length ∧ (Locked state → Locked next) := by
  cases label with
  | tick elapsed =>
      simp only [step, Option.ite_none_right_eq_some, Option.some.injEq] at taken
      obtain ⟨forward, rfl⟩ := taken
      exact ⟨rfl, fun locked => locked.tick forward⟩
  | onBuffer yData uvData =>
      have idle : state.camera.needFrame = false := by simpa [writer] using quiet
      cases taken
      simp only [onBuffer, idle, Bool.false_eq_true, if_false]
      exact ⟨rfl, SameLock.locked ⟨rfl, rfl, rfl⟩⟩
  | needFrame =>
      simp only [step] at taken
      obtain ⟨⟨camera, written⟩, handled, rfl⟩ := Option.map_eq_some_iff.mp taken
      rcases onNeedFrame_cases handled with
        ⟨resolution, position, _, _, _, started, rfl⟩ | wrote | ⟨_, _, rfl, rfl⟩
      · exact ⟨rfl, (SameLock.start started).locked⟩
      · simp [writer, wrote.1, wrote.2.1] at quiet
      · exact ⟨rfl, SameLock.locked ⟨rfl, rfl, rfl⟩⟩
  | writeFrame => cases quiet
  | complete number plane =>
      simp only [step] at taken
      obtain ⟨frame, found, taken⟩ := Option.bind_eq_some_iff.mp taken
      obtain ⟨finished, completed, taken⟩ := Option.bind_eq_some_iff.mp taken
      cases taken
      exact ⟨List.length_set, fun locked => locked.complete found completed⟩
  | waitReturns =>
      simp only [step, Option.ite_none_right_eq_some, Option.some.injEq] at taken
      obtain ⟨returns, rfl⟩ := taken
      exact ⟨rfl, fun locked => locked.wait returns.2.2⟩
  | clearFrameData =>
      simp only [step, Option.ite_none_right_eq_some, Option.some.injEq] at taken
      obtain ⟨waited, rfl⟩ := taken
      exact ⟨rfl, fun locked => locked.clearFrameData waited⟩
  | clear =>
      cases taken
      exact ⟨rfl, SameLock.locked ⟨rfl, rfl, rfl⟩⟩
  | configure resolution position =>
      obtain ⟨camera, started, rfl⟩ := Option.map_eq_some_iff.mp taken
      exact ⟨rfl, (SameLock.start started).locked⟩
  | changePosition position =>
      obtain ⟨camera, changed, rfl⟩ := Option.map_eq_some_iff.mp taken
      obtain ⟨capture, _, same⟩ := Option.bind_eq_some_iff.mp changed
      cases same
      exact ⟨rfl, SameLock.locked ⟨rfl, rfl, rfl⟩⟩
  | changeResolution resolution =>
      obtain ⟨camera, changed, rfl⟩ := Option.map_eq_some_iff.mp taken
      obtain ⟨capture, _, same⟩ := Option.bind_eq_some_iff.mp changed
      cases same
      exact ⟨rfl, SameLock.locked ⟨rfl, rfl, rfl⟩⟩
  | activityTimeout =>
      cases taken
      exact ⟨rfl, SameLock.locked ⟨rfl, rfl, rfl⟩⟩

private theorem step_locked {platform : Platform Device} {state next : State Device Data}
    {label : Label Data} (locked : Locked state) (undisturbed : Undisturbed state label)
    (taken : step platform state label = some next) : Locked next := by
  cases writes : writer state.camera label with
  | none => exact (step_quiet writes taken).2 locked
  | some caller =>
      rw [step_writer writes taken]
      have callerLocked := (writer_sameLock writes).locked locked
      apply callerLocked.write
      intro waited ready
      exact undisturbed waited ⟨caller, writes, ready⟩

private theorem reachable_locked {platform : Platform Device} {state : State Device Data}
    (reached : (machine platform).ReachableWhen Undisturbed state) : Locked state := by
  refine reached.invariant Locked ?_ ?_
  · rintro state ⟨now, rfl⟩
    exact
      { group := rfl
        last := nofun
        clock := le_refl _
        held := nofun
        drained := nofun }
  · intro state label next _ locked undisturbed taken
    exact step_locked locked undisturbed taken

private theorem writeFrame_not_ready {camera : WebSocketCamera Device Data} {now : ℚ}
    (notReady : ¬camera.Ready now) : (camera.writeFrame now).2 = none := by
  rcases camera.writeFrame_cases now with ⟨ready, _⟩ | ⟨_, outcome | ⟨_, outcome⟩⟩
  · exact absurd ready notReady
  · rw [outcome]
  · rw [outcome]

private theorem step_frames_length {platform : Platform Device} {state next : State Device Data}
    {label : Label Data} (idle : ¬StartsFrame state label)
    (taken : step platform state label = some next) :
    next.frames.length = state.frames.length := by
  cases writes : writer state.camera label with
  | none => exact (step_quiet writes taken).1
  | some caller =>
      have notReady : ¬caller.Ready state.now := fun ready => idle ⟨caller, writes, ready⟩
      rw [step_writer writes taken, afterWrite, writeFrame_not_ready notReady]

/-! ### The property -/

/-- The lock is held while a recent frame is in flight, so that no second frame can
start, and a task of an earlier frame leaves the lock and the buffers of a later
frame in flight alone. -/
structure Protected (platform : Platform Device) (state : State Device Data) : Prop where
  held : ∀ frame ∈ state.frames, frame.InFlight → state.now - frame.started < 1 →
    state.camera.sending = true
  noSecond : ∀ frame ∈ state.frames, frame.InFlight → state.now - frame.started < 1 →
    ∀ label next, step platform state label = some next →
      next.frames.length = state.frames.length
  ownClear : ∀ number rest, state.tasks = number :: rest →
    ∀ next, step platform state .clearFrameData = some next →
      (∃ later frame, number < later ∧ state.frames[later]? = some frame ∧ frame.InFlight) →
        next.camera.sending = state.camera.sending ∧
          next.camera.yBuffer = state.camera.yBuffer ∧
          next.camera.uvBuffer = state.camera.uvBuffer

theorem Locked.protected {platform : Platform Device} {state : State Device Data}
    (locked : Locked state) : Protected platform state := by
  constructor
  · exact locked.held
  · intro frame member flying recent label next taken
    apply step_frames_length _ taken
    rintro ⟨caller, writes, ready⟩
    obtain ⟨_, last, sending⟩ := writer_sameLock writes
    rcases ready.2.1 with free | expired
    · have taken := sending.trans (locked.held frame member flying recent)
      rw [free] at taken
      cases taken
    · rw [last] at expired
      exact locked.not_recent expired member recent
  · intro number rest tasks next taken ⟨later, frame, _, found, flying⟩
    simp only [step, Option.ite_none_right_eq_some] at taken
    exact absurd flying (locked.drained taken.1 frame (List.mem_of_getElem? found))

/-- In every run in which no frame is started between the wait and the clear of a
task, the lock protects the frames in flight. -/
theorem protected_of_undisturbed {platform : Platform Device} {state : State Device Data}
    (reached : (machine platform).ReachableWhen Undisturbed state) : Protected platform state :=
  (reachable_locked reached).protected

/-- The condition is needed at each step: a frame started under a task that has
waited loses its lock to the clear of that task. -/
theorem clear_after_disturbed_start {platform : Platform Device}
    {state started : State Device Data} {label : Label Data} (waited : state.waited = true)
    (starts : StartsFrame state label) (taken : step platform state label = some started) :
    ∃ cleared, step platform started .clearFrameData = some cleared ∧
      ¬Protected platform cleared := by
  obtain ⟨caller, writes, ready⟩ := starts
  have outcome := step_writer writes taken
  rcases caller.writeFrame_cases state.now with ⟨_, y, uv, _, _, wrote⟩ | ⟨notReady, _⟩
  · rw [wrote] at outcome
    subst outcome
    refine ⟨_, by simp only [step, afterWrite, waited, if_true]; rfl, ?_⟩
    intro safe
    have held := safe.held { started := state.now, yDone := false, uvDone := false }
      (List.mem_append_right _ List.mem_cons_self) (.inl rfl) (by simp)
    cases held
  · exact absurd ready notReady

/-- A second frame starts when the first has held the lock for a second; both are
then written, and the first task waits and clears. -/
def overlappingFrames : List (Label Nat) :=
  [.configure "640x480" "back", .onBuffer 0 0, .writeFrame, .tick 1, .writeFrame,
    .complete 0 .y, .complete 0 .uv, .complete 1 .y, .complete 1 .uv,
    .waitReturns, .clearFrameData]

theorem protected_of_overlappingFrames :
    ∃ state, (machine Platform.twoSided).runWhen Undisturbed (initial 0) overlappingFrames =
        some state ∧ state.frames.length = 2 ∧ Protected Platform.twoSided state := by
  obtain ⟨state, replayed, twoFrames⟩ := (Option.any_eq_true _ _).mp
    (show ((machine Platform.twoSided).runWhen Undisturbed (initial 0)
        overlappingFrames).any (fun state => decide (state.frames.length = 2)) = true by
      decide +kernel)
  exact ⟨state, replayed, of_decide_eq_true twoFrames,
    protected_of_undisturbed (.runWhen overlappingFrames (.initial ⟨0, rfl⟩) replayed)⟩

/-- The wait of the second task returns as well, but before it clears, a third frame
is captured and started. -/
def staleClear : List (Label Nat) :=
  overlappingFrames ++ [.waitReturns, .onBuffer 2 2, .writeFrame, .clearFrameData]

theorem not_protected_of_staleClear :
    ¬∀ state : State AVCaptureDevicePosition Nat,
      (machine Platform.twoSided).Reachable state → Protected Platform.twoSided state := by
  intro always
  have started : (machine Platform.twoSided).initial
      (initial 0 : State AVCaptureDevicePosition Nat) := ⟨0, rfl⟩
  obtain ⟨state, reached, unlocked⟩ := Machine.exists_reachable_of_run staleClear
    (fun state : State AVCaptureDevicePosition Nat =>
      !state.camera.sending &&
        state.frames.any fun frame => !frame.yDone && decide (state.now - frame.started < 1))
    started (by decide +kernel)
  simp only [Bool.and_eq_true, Bool.not_eq_true', List.any_eq_true, decide_eq_true_eq] at unlocked
  obtain ⟨free, frame, member, flying, recent⟩ := unlocked
  have held := (always state reached).held frame member (.inl flying) recent
  rw [free] at held
  cases held

end SendLock
end WebSocketCamera
end JSCameraKit

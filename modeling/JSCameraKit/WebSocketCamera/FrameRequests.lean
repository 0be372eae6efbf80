import JSCameraKit.WebSocketCamera.SendLock

set_option autoImplicit false

/-! What becomes of a `need-frame` request. It restarts a stopped camera, or writes the
frame that is held if the send lock is free, or sets `needFrame` for the next capture.
`clear` takes the flag back, and so does the `clearFrameData` of an earlier frame. The runs
are those of the send lock, with the history of the requests; the first capture comes
behind the first start. -/

namespace JSCameraKit
namespace WebSocketCamera
namespace FrameRequests

open SendLock (Label writer step_writer step_quiet)

variable {Device Data : Type}

inductive Event
  /-- A request that finds no whole frame, or one that the send lock lets it write. -/
  | asked
  /-- A request that finds a frame while another one is sent. -/
  | locked
  | restarted
  /-- `writeFrame` has started sending. -/
  | started
  | cleared
  | frameDataCleared
  deriving DecidableEq

/-- The most recent event comes first. -/
structure State (Device Data : Type) where
  lock : SendLock.State Device Data
  history : List Event

/-- The send lock is held and has not expired. -/
def LockTaken (lock : SendLock.State Device Data) : Prop :=
  lock.camera.sending = true ∧ lock.now - lock.camera.lastFrame < 1

instance (lock : SendLock.State Device Data) : Decidable (LockTaken lock) :=
  inferInstanceAs (Decidable (_ ∧ _))

def request (lock : SendLock.State Device Data) : Event :=
  if lock.camera.Restarts then .restarted
  else if lock.camera.HoldsFrame ∧ LockTaken lock then .locked
  else .asked

/-- The event of a label itself, before those of the call of `writeFrame` that it makes. -/
def event (lock : SendLock.State Device Data) : Label Data → List Event
  | .needFrame => [request lock]
  | .clear | .changePosition _ | .changeResolution _ => [.cleared]
  | .clearFrameData => [.frameDataCleared]
  | _ => []

/-- The camera has been started, if only once. -/
def Configured (camera : WebSocketCamera Device Data) : Prop :=
  camera.resolution.isSome = true ∧ camera.position.isSome = true

instance (camera : WebSocketCamera Device Data) : Decidable (Configured camera) :=
  inferInstanceAs (Decidable (_ ∧ _))

/-- A camera that was never started captures nothing. -/
def Enabled (camera : WebSocketCamera Device Data) : Label Data → Prop
  | .onBuffer _ _ => Configured camera
  | _ => True

instance (camera : WebSocketCamera Device Data) :
    ∀ label : Label Data, Decidable (Enabled camera label)
  | .onBuffer _ _ => inferInstanceAs (Decidable (Configured camera))
  | .tick _ | .needFrame | .writeFrame | .complete _ _ | .waitReturns | .clearFrameData | .clear
  | .configure _ _ | .changePosition _ | .changeResolution _ | .activityTimeout =>
      inferInstanceAs (Decidable True)

def starts (before after : SendLock.State Device Data) : List Event :=
  if before.frames.length < after.frames.length then [.started] else []

def step (platform : Platform Device) (state : State Device Data) (label : Label Data) :
    Option (State Device Data) :=
  if Enabled state.lock.camera label then
    (SendLock.step platform state.lock label).map fun next =>
      { lock := next
        history := starts state.lock next ++ event state.lock label ++ state.history }
  else none

def initial (now : ℚ) : State Device Data :=
  { lock := SendLock.initial now, history := [] }

def machine (platform : Platform Device) : Machine (State Device Data) (Label Data) :=
  { initial := fun state => ∃ now, state = initial now
    step := step platform }

/-- A request was handled since the last `writeFrame` that started sending. -/
def Requested : List Event → Prop
  | [] => False
  | .asked :: _ | .locked :: _ | .restarted :: _ => True
  | .started :: _ => False
  | .cleared :: rest | .frameDataCleared :: rest => Requested rest

/-- Such a request did not find the send lock taken and restarted no camera, and nothing
has taken `needFrame` back since. -/
def Outstanding : List Event → Prop
  | [] => False
  | .asked :: _ => True
  | .locked :: rest | .restarted :: rest => Outstanding rest
  | .started :: _ | .cleared :: _ | .frameDataCleared :: _ => False

/-! ### One step -/

private theorem writer_needFrame {camera caller : WebSocketCamera Device Data} {label : Label Data}
    (writes : writer camera label = some caller) : caller.needFrame = camera.needFrame := by
  cases label with
  | writeFrame =>
      cases writes
      rfl
  | onBuffer yData uvData =>
      obtain ⟨_, rfl⟩ : _ ∧ _ = caller := by simpa [writer] using writes
      rfl
  | needFrame =>
      obtain ⟨_, rfl⟩ : _ ∧ camera = caller := by simpa [writer] using writes
      rfl
  | _ => cases writes

/-- A call of `writeFrame` starts a frame and takes the flag back, or leaves it. -/
theorem afterWrite_needFrame (state : SendLock.State Device Data)
    (caller : WebSocketCamera Device Data) :
    (caller.Ready state.now ∧
        starts state (SendLock.afterWrite state (caller.writeFrame state.now)) = [.started] ∧
        (SendLock.afterWrite state (caller.writeFrame state.now)).camera.needFrame = false) ∨
      (¬caller.Ready state.now ∧
        starts state (SendLock.afterWrite state (caller.writeFrame state.now)) = [] ∧
        (SendLock.afterWrite state (caller.writeFrame state.now)).camera.needFrame =
          caller.needFrame) := by
  rcases caller.writeFrame_cases state.now with
    ⟨ready, y, uv, _, _, outcome⟩ | ⟨notReady, outcome | ⟨_, outcome⟩⟩
  · left
    rw [outcome]
    simp [ready, starts, SendLock.afterWrite]
  · right
    rw [outcome]
    simp [notReady, starts, SendLock.afterWrite]
  · right
    rw [outcome]
    simp [notReady, starts, SendLock.afterWrite]

private theorem start_needFrame {platform : Platform Device}
    {camera next : WebSocketCamera Device Data}
    {resolution position : String}
    (taken : camera.start platform resolution position = some next) :
    next.needFrame = camera.needFrame := by
  rcases start_spec taken with ⟨_, rfl⟩ | ⟨_, capture, _, rfl⟩
  · rfl
  · rfl

/-- A frame is held by a camera that was started. -/
def HeldByConfigured (camera : WebSocketCamera Device Data) : Prop :=
  camera.HoldsFrame → Configured camera

theorem HeldByConfigured.writeFrame {camera : WebSocketCamera Device Data}
    (held : HeldByConfigured camera) (now : ℚ) : HeldByConfigured (camera.writeFrame now).1 := by
  rcases camera.writeFrame_cases now with ⟨_, y, uv, _, _, outcome⟩ | ⟨_, outcome | ⟨_, outcome⟩⟩
  · rw [outcome]
    exact held
  · rw [outcome]
    exact held
  · rw [outcome]
    exact held

theorem HeldByConfigured.start {platform : Platform Device}
    {camera next : WebSocketCamera Device Data} {resolution position : String}
    (held : HeldByConfigured camera)
    (taken : camera.start platform resolution position = some next) : HeldByConfigured next := by
  rcases start_spec taken with ⟨_, rfl⟩ | ⟨_, capture, _, rfl⟩
  · exact held
  · exact fun _ => ⟨rfl, rfl⟩

private theorem afterWrite_camera (state : SendLock.State Device Data)
    (outcome : WebSocketCamera Device Data × Option (Data × Data)) :
    (SendLock.afterWrite state outcome).camera = outcome.1 := by
  obtain ⟨camera, written⟩ := outcome
  cases written <;> rfl

private theorem step_held {platform : Platform Device} {state next : SendLock.State Device Data}
    {label : Label Data} (held : HeldByConfigured state.camera)
    (enabled : Enabled state.camera label)
    (taken : SendLock.step platform state label = some next) : HeldByConfigured next.camera := by
  cases label with
  | tick elapsed =>
      simp only [SendLock.step, Option.ite_none_right_eq_some, Option.some.injEq] at taken
      obtain ⟨_, rfl⟩ := taken
      exact held
  | onBuffer yData uvData =>
      have configured : HeldByConfigured (state.camera.setBuffers yData uvData) :=
        fun _ => enabled
      cases taken
      rw [afterWrite_camera, onBuffer]
      split
      · exact configured.writeFrame state.now
      · exact configured
  | needFrame =>
      obtain ⟨⟨camera, written⟩, handled, rfl⟩ := Option.map_eq_some_iff.mp taken
      rw [afterWrite_camera]
      rcases onNeedFrame_cases handled with
        ⟨resolution, position, _, _, _, started, _⟩ | ⟨_, _, wrote⟩ | ⟨_, _, rfl, _⟩
      · exact held.start started
      · have kept := held.writeFrame state.now
        rwa [← wrote] at kept
      · exact held
  | writeFrame =>
      cases taken
      rw [afterWrite_camera]
      exact held.writeFrame state.now
  | complete number plane =>
      obtain ⟨frame, found, taken⟩ := Option.bind_eq_some_iff.mp taken
      obtain ⟨finished, completed, taken⟩ := Option.bind_eq_some_iff.mp taken
      cases taken
      exact held
  | waitReturns =>
      simp only [SendLock.step, Option.ite_none_right_eq_some, Option.some.injEq] at taken
      obtain ⟨_, rfl⟩ := taken
      exact held
  | clearFrameData =>
      simp only [SendLock.step, Option.ite_none_right_eq_some, Option.some.injEq] at taken
      obtain ⟨_, rfl⟩ := taken
      intro holds
      cases holds.1
  | clear =>
      cases taken
      intro holds
      cases holds.1
  | configure resolution position =>
      obtain ⟨camera, started, rfl⟩ := Option.map_eq_some_iff.mp taken
      exact held.start started
  | changePosition position =>
      obtain ⟨camera, changed, rfl⟩ := Option.map_eq_some_iff.mp taken
      obtain ⟨capture, _, same⟩ := Option.bind_eq_some_iff.mp changed
      cases same
      intro holds
      cases holds.1
  | changeResolution resolution =>
      obtain ⟨camera, changed, rfl⟩ := Option.map_eq_some_iff.mp taken
      obtain ⟨capture, _, same⟩ := Option.bind_eq_some_iff.mp changed
      cases same
      intro holds
      cases holds.1
  | activityTimeout =>
      cases taken
      exact held

private theorem request_locked {lock : SendLock.State Device Data}
    (held : HeldByConfigured lock.camera) (running : ¬lock.camera.Restarts)
    (holds : lock.camera.HoldsFrame) (notReady : ¬lock.camera.Ready lock.now) :
    request lock = .locked := by
  have started : lock.camera.initied = true := by
    by_contra stopped
    exact running ⟨Bool.eq_false_iff.mpr stopped, held holds⟩
  have taken : LockTaken lock := by
    refine ⟨?_, ?_⟩
    · by_contra free
      exact notReady ⟨started, .inl (Bool.eq_false_iff.mpr free), holds⟩
    · by_contra expired
      exact notReady ⟨started, .inr (not_lt.mp expired), holds⟩
  rw [request, if_neg running, if_pos ⟨holds, taken⟩]

/-- A step that calls `writeFrame` in vain adds no request that is owed a frame. -/
theorem outstanding_event_writer {lock : SendLock.State Device Data}
    {caller : WebSocketCamera Device Data} {label : Label Data}
    (held : HeldByConfigured lock.camera) (writes : writer lock.camera label = some caller)
    (notReady : ¬caller.Ready lock.now) (history : List Event) :
    Outstanding (event lock label ++ history) ↔ Outstanding history := by
  cases label with
  | writeFrame => exact Iff.rfl
  | onBuffer yData uvData => exact Iff.rfl
  | needFrame =>
      obtain ⟨⟨running, holds⟩, rfl⟩ :
          (¬lock.camera.Restarts ∧ lock.camera.HoldsFrame) ∧ lock.camera = caller := by
        simpa [writer] using writes
      rw [event, request_locked held running holds notReady]
      exact Iff.rfl
  | _ => cases writes

/-- Every other step sets the flag for a request for a capture, and takes it back where
it clears the camera. -/
theorem quiet_needFrame {platform : Platform Device} {state next : SendLock.State Device Data}
    {label : Label Data} {history : List Event} (quiet : writer state.camera label = none)
    (flag : state.camera.needFrame = true ↔ Outstanding history)
    (taken : SendLock.step platform state label = some next) :
    next.camera.needFrame = true ↔ Outstanding (event state label ++ history) := by
  cases label with
  | tick elapsed =>
      simp only [SendLock.step, Option.ite_none_right_eq_some, Option.some.injEq] at taken
      obtain ⟨_, rfl⟩ := taken
      exact flag
  | onBuffer yData uvData =>
      have idle : state.camera.needFrame = false := by simpa [writer] using quiet
      cases taken
      simp only [onBuffer, idle, Bool.false_eq_true, if_false]
      exact flag
  | needFrame =>
      obtain ⟨⟨camera, written⟩, handled, rfl⟩ := Option.map_eq_some_iff.mp taken
      rcases onNeedFrame_cases handled with
        ⟨resolution, position, stopped, atResolution, atPosition, started, rfl⟩ |
          wrote | ⟨running, empty, rfl, rfl⟩
      · have restarts : state.camera.Restarts :=
          ⟨stopped, by simp [atResolution], by simp [atPosition]⟩
        rw [event, request, if_pos restarts]
        simp only [SendLock.afterWrite]
        rw [start_needFrame started]
        exact flag
      · simp [writer, wrote.1, wrote.2.1] at quiet
      · rw [event, request, if_neg running, if_neg fun found => empty found.1]
        simp only [SendLock.afterWrite]
        exact ⟨fun _ => trivial, fun _ => trivial⟩
  | writeFrame => cases quiet
  | complete number plane =>
      obtain ⟨frame, found, taken⟩ := Option.bind_eq_some_iff.mp taken
      obtain ⟨finished, completed, taken⟩ := Option.bind_eq_some_iff.mp taken
      cases taken
      exact flag
  | waitReturns =>
      simp only [SendLock.step, Option.ite_none_right_eq_some, Option.some.injEq] at taken
      obtain ⟨_, rfl⟩ := taken
      exact flag
  | clearFrameData =>
      simp only [SendLock.step, Option.ite_none_right_eq_some, Option.some.injEq] at taken
      obtain ⟨_, rfl⟩ := taken
      simp [clearFrameData, event, Outstanding]
  | clear =>
      cases taken
      simp [WebSocketCamera.clear, event, Outstanding]
  | configure resolution position =>
      obtain ⟨camera, started, rfl⟩ := Option.map_eq_some_iff.mp taken
      simp only [start_needFrame started]
      exact flag
  | changePosition position =>
      obtain ⟨camera, changed, rfl⟩ := Option.map_eq_some_iff.mp taken
      obtain ⟨capture, _, same⟩ := Option.bind_eq_some_iff.mp changed
      cases same
      simp [WebSocketCamera.clear, event, Outstanding]
  | changeResolution resolution =>
      obtain ⟨camera, changed, rfl⟩ := Option.map_eq_some_iff.mp taken
      obtain ⟨capture, _, same⟩ := Option.bind_eq_some_iff.mp changed
      cases same
      simp [WebSocketCamera.clear, event, Outstanding]
  | activityTimeout =>
      cases taken
      exact flag

structure Flagged (state : State Device Data) : Prop where
  held : HeldByConfigured state.lock.camera
  flag : state.lock.camera.needFrame = true ↔ Outstanding state.history

private theorem step_flagged {platform : Platform Device} {state next : State Device Data}
    {label : Label Data} (flagged : Flagged state)
    (taken : step platform state label = some next) : Flagged next := by
  obtain ⟨enabled, taken⟩ := Option.ite_none_right_eq_some.mp taken
  obtain ⟨after, moved, rfl⟩ := Option.map_eq_some_iff.mp taken
  refine ⟨step_held flagged.held enabled moved, ?_⟩
  cases writes : writer state.lock.camera label with
  | none =>
      have same := (step_quiet writes moved).1
      have noStart : starts state.lock after = [] := by simp [starts, same]
      rw [noStart]
      exact quiet_needFrame writes flagged.flag moved
  | some caller =>
      have outcome := step_writer writes moved
      rcases afterWrite_needFrame state.lock caller with
        ⟨_, started, dropped⟩ | ⟨notReady, idle, kept⟩
      · rw [← outcome] at started dropped
        rw [started]
        simp only [dropped]
        exact ⟨nofun, nofun⟩
      · rw [← outcome] at idle kept
        rw [idle]
        simp only [kept, writer_needFrame writes]
        exact flagged.flag.trans
          (outstanding_event_writer flagged.held writes notReady state.history).symm

private theorem reachable_flagged {platform : Platform Device} {state : State Device Data}
    (reached : (machine platform).Reachable state) : Flagged state := by
  refine reached.invariant Flagged ?_ ?_
  · intro state starts
    obtain ⟨now, rfl⟩ := starts
    exact ⟨nofun, nofun, nofun⟩
  · intro state label next _ flagged taken
    exact step_flagged flagged taken

private theorem onBuffer_starts {platform : Platform Device} {state next : State Device Data}
    {yData uvData : Data} (started : state.lock.camera.initied = true)
    (asked : state.lock.camera.needFrame = true)
    (free : state.lock.camera.sending = false ∨
      1 ≤ state.lock.now - state.lock.camera.lastFrame)
    (taken : step platform state (.onBuffer yData uvData) = some next) :
    next.history = .started :: state.history := by
  obtain ⟨_, taken⟩ := Option.ite_none_right_eq_some.mp taken
  obtain ⟨after, moved, rfl⟩ := Option.map_eq_some_iff.mp taken
  have writes : writer state.lock.camera (.onBuffer yData uvData) =
      some (state.lock.camera.setBuffers yData uvData) := by simp [writer, asked]
  have ready : (state.lock.camera.setBuffers yData uvData).Ready state.lock.now :=
    ⟨started, free, rfl, rfl⟩
  have outcome := step_writer writes moved
  rcases (state.lock.camera.setBuffers yData uvData).writeFrame_cases state.lock.now with
    ⟨_, y, uv, _, _, wrote⟩ | ⟨notReady, _⟩
  · rw [wrote] at outcome
    subst outcome
    simp [starts, SendLock.afterWrite, event]
  · exact absurd ready notReady

/-- In every state of a running camera, a request that is outstanding has set `needFrame`,
and the next capture that finds the lock free sends its frame. -/
theorem needFrame_of_outstanding {platform : Platform Device} {state : State Device Data}
    (reached : (machine platform).Reachable state)
    (started : state.lock.camera.initied = true) (outstanding : Outstanding state.history) :
    state.lock.camera.needFrame = true ∧
      ∀ yData uvData next,
        (state.lock.camera.sending = false ∨
          1 ≤ state.lock.now - state.lock.camera.lastFrame) →
        step platform state (.onBuffer yData uvData) = some next →
          next.history = .started :: state.history := by
  have asked := (reachable_flagged reached).flag.mpr outstanding
  refine ⟨asked, ?_⟩
  intro yData uvData next free taken
  exact onBuffer_starts started asked free taken

/-- A request that finds a frame sends it, and one that comes when it is sent finds none. -/
def askedAgain : List (Label Nat) :=
  [.configure "640x480" "back", .onBuffer 0 0, .needFrame, .complete 0 .y, .complete 0 .uv,
    .waitReturns, .clearFrameData, .needFrame]

theorem needFrame_of_askedAgain :
    ∃ state : State AVCaptureDevicePosition Nat,
      (machine Platform.twoSided).run (initial 0) askedAgain = some state ∧
        state.history = [.asked, .frameDataCleared, .started, .asked] ∧
        state.lock.camera.needFrame = true ∧
        ∀ yData uvData next,
          (state.lock.camera.sending = false ∨
            1 ≤ state.lock.now - state.lock.camera.lastFrame) →
          step Platform.twoSided state (.onBuffer yData uvData) = some next →
            next.history = .started :: state.history := by
  obtain ⟨state, replayed, passed⟩ := (Option.any_eq_true _ _).mp
    (show ((machine Platform.twoSided).run (initial 0) askedAgain).any (fun state =>
        state.lock.camera.initied &&
          decide (state.history = [.asked, .frameDataCleared, .started, .asked])) = true by
      decide +kernel)
  simp only [Bool.and_eq_true, decide_eq_true_eq] at passed
  have outstanding : Outstanding state.history := by
    rw [passed.2]
    trivial
  exact ⟨state, replayed, passed.2,
    needFrame_of_outstanding (.run askedAgain (.initial ⟨0, rfl⟩) replayed) passed.1 outstanding⟩

/-- A request that comes while the frame is sent finds the lock taken. -/
theorem not_needFrame_of_lockedRequest :
    ¬∀ state : State AVCaptureDevicePosition Nat,
      (machine Platform.twoSided).Reachable state → state.lock.camera.initied = true →
        Requested state.history → state.lock.camera.needFrame = true := by
  intro always
  have started : (machine Platform.twoSided).initial
      (initial 0 : State AVCaptureDevicePosition Nat) := ⟨0, rfl⟩
  obtain ⟨state, reached, passed⟩ := Machine.exists_reachable_of_run
    [.configure "640x480" "back", .needFrame, .onBuffer 0 0, .needFrame]
    (fun state : State AVCaptureDevicePosition Nat =>
      state.lock.camera.initied && !state.lock.camera.needFrame &&
        decide (state.history = [.locked, .started, .asked])) started (by decide +kernel)
  simp only [Bool.and_eq_true, Bool.not_eq_true', decide_eq_true_eq] at passed
  have flag := always state reached passed.1.1 (by rw [passed.2]; trivial)
  rw [passed.1.2] at flag
  cases flag

end FrameRequests
end WebSocketCamera
end JSCameraKit

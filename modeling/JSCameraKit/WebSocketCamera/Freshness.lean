import Mathlib.Tactic.Linarith
import JSCameraKit.Library.Machine
import JSCameraKit.WebSocketCamera.Handlers

set_option autoImplicit false

/-! How old the frames are that `writeFrame` passes to the web socket. Frames are
numbered as they are captured; the callback of a capture comes later, and so do the two
writes of a frame that `writeFrame` has taken. `clear` and a start of the session set the
mark from which on frames are fresh. -/

namespace JSCameraKit
namespace WebSocketCamera
namespace Freshness

structure State (Device : Type) where
  camera : WebSocketCamera Device Nat
  now : ℚ
  /-- How many frames the session has captured. -/
  frames : Nat
  /-- The frames captured that `onBuffer` has not been called with. -/
  captured : List Nat
  /-- How many frames were captured before the last `clear` or start. -/
  since : Nat
  /-- For each frame started, the planes not yet passed to `write`, by their frame. -/
  writing : List (List Nat)
  /-- The planes passed to `write`, each with the mark at that time. -/
  passed : List (Nat × Nat)

inductive Label
  | tick (elapsed : ℚ)
  | capture
  | onBuffer (index : Nat)
  | needFrame
  | write (call : Nat)
  | clear
  | changePosition (position : String)
  | changeResolution (resolution : String)
  | configure (resolution position : String)
  | activityTimeout
  | clearFrameData

variable {Device : Type}

/-- The state after a step that may have called `writeFrame`, with its two writes left. -/
def afterWrite (state : State Device) (outcome : WebSocketCamera Device Nat × Option (Nat × Nat)) :
    State Device :=
  match outcome.2 with
  | none => { state with camera := outcome.1 }
  | some (y, uv) => { state with camera := outcome.1, writing := state.writing ++ [[y, uv]] }

/-- A start of the session sets the mark. -/
def mark (state : State Device) (starts : Prop) [Decidable starts] : State Device :=
  if starts then { state with since := state.frames } else state

def write (state : State Device) (call : Nat) : List Nat → Option (State Device)
  | [] => none
  | frame :: rest =>
      some
        { state with
          writing := state.writing.set call rest
          passed := state.passed ++ [(frame, state.since)] }

def step (platform : Platform Device) (state : State Device) : Label → Option (State Device)
  | .tick elapsed => if 0 ≤ elapsed then some { state with now := state.now + elapsed } else none
  | .capture =>
      if state.camera.capture.captureSession.running ∧
          state.camera.capture.captureSession.inputs ≠ [] then
        some
          { state with
            frames := state.frames + 1
            captured := state.captured ++ [state.frames] }
      else none
  | .onBuffer index =>
      (state.captured[index]?).map fun frame =>
        afterWrite { state with captured := state.captured.eraseIdx index }
          (state.camera.onBuffer state.now frame frame)
  | .needFrame =>
      (state.camera.onNeedFrame platform state.now).map
        (afterWrite (mark state state.camera.Restarts))
  | .write call => (state.writing[call]?).bind (write state call)
  | .clear => some { state with camera := state.camera.clear, since := state.frames }
  | .changePosition position =>
      (state.camera.changePosition platform position).map fun camera =>
        { state with camera := camera }
  | .changeResolution resolution =>
      (state.camera.changeResolution platform resolution).map fun camera =>
        { state with camera := camera }
  | .configure resolution position =>
      (state.camera.start platform resolution position).map fun camera =>
        { mark state (state.camera.initied = false) with camera := camera }
  | .activityTimeout => some { state with camera := state.camera.stop }
  | .clearFrameData => some { state with camera := state.camera.clearFrameData }

def initial (now : ℚ) : State Device :=
  { camera := WebSocketCamera.init now
    now := now
    frames := 0
    captured := []
    since := 0
    writing := []
    passed := [] }

def machine (platform : Platform Device) : Machine (State Device) Label :=
  { initial := fun state => ∃ now, state = initial now
    step := step platform }

/-! ### The condition -/

/-- No call of `writeFrame` is between taking its frame and its last write. -/
def Written (state : State Device) : Prop :=
  ∀ planes ∈ state.writing, planes = []

instance (state : State Device) : Decidable (Written state) :=
  inferInstanceAs (Decidable (∀ planes ∈ state.writing, planes = []))

def HoldsNothing (camera : WebSocketCamera Device Nat) : Prop :=
  camera.yBuffer = none ∧ camera.uvBuffer = none

instance (camera : WebSocketCamera Device Nat) : Decidable (HoldsNothing camera) :=
  inferInstanceAs (Decidable (_ ∧ _))

/-- The callback of a capture does not come late, over a `clear` or a start; a start finds
no plane in the camera; and neither comes between the steps of `writeFrame`. -/
def Timely (state : State Device) : Label → Prop
  | .onBuffer index => ∀ frame ∈ state.captured[index]?, state.since ≤ frame
  | .clear => Written state
  | .needFrame => state.camera.Restarts → HoldsNothing state.camera ∧ Written state
  | .configure _ _ => state.camera.initied = false → HoldsNothing state.camera ∧ Written state
  | _ => True

instance (state : State Device) : (label : Label) → Decidable (Timely state label)
  | .onBuffer index => inferInstanceAs (Decidable (∀ frame ∈ state.captured[index]?, _))
  | .clear => inferInstanceAs (Decidable (Written state))
  | .needFrame => inferInstanceAs (Decidable (_ → _ ∧ _))
  | .configure _ _ => inferInstanceAs (Decidable (_ → _ ∧ _))
  | .tick _ | .capture | .write _ | .changePosition _ | .changeResolution _
  | .activityTimeout | .clearFrameData => inferInstanceAs (Decidable True)

/-! ### The invariant -/

/-- Every frame passed to `write` was captured since the last `clear` and the last start. -/
def AllFresh (state : State Device) : Prop :=
  ∀ written ∈ state.passed, written.2 ≤ written.1

structure Fresh (state : State Device) : Prop where
  y : ∀ frame, state.camera.yBuffer = some frame → state.since ≤ frame
  uv : ∀ frame, state.camera.uvBuffer = some frame → state.since ≤ frame
  writing : ∀ planes ∈ state.writing, ∀ frame ∈ planes, state.since ≤ frame
  passed : AllFresh state

/-- What the invariant reads of the camera. -/
def SameFrame (camera next : WebSocketCamera Device Nat) : Prop :=
  next.yBuffer = camera.yBuffer ∧ next.uvBuffer = camera.uvBuffer

theorem Fresh.of_same {state : State Device} (fresh : Fresh state)
    {camera : WebSocketCamera Device Nat} (same : SameFrame state.camera camera) :
    Fresh { state with camera := camera } :=
  { y := fun frame held => fresh.y frame (same.1.symm.trans held)
    uv := fun frame held => fresh.uv frame (same.2.symm.trans held)
    writing := fresh.writing
    passed := fresh.passed }

theorem Fresh.empty {state : State Device} (fresh : Fresh state)
    {camera : WebSocketCamera Device Nat} (nothing : HoldsNothing camera) :
    Fresh { state with camera := camera } := by
  constructor
  · intro frame held
    rw [nothing.1] at held
    cases held
  · intro frame held
    rw [nothing.2] at held
    cases held
  · exact fresh.writing
  · exact fresh.passed

theorem Fresh.remark {state : State Device} (fresh : Fresh state)
    (nothing : HoldsNothing state.camera) (written : Written state) (since : Nat) :
    Fresh { state with since := since } := by
  constructor
  · intro frame held
    dsimp only at held
    rw [nothing.1] at held
    cases held
  · intro frame held
    dsimp only at held
    rw [nothing.2] at held
    cases held
  · intro planes member frame inPlanes
    rw [written planes member] at inPlanes
    cases inPlanes
  · exact fresh.passed

theorem Fresh.writeFrame {state : State Device} (fresh : Fresh state) (now : ℚ) :
    Fresh (afterWrite state (state.camera.writeFrame now)) := by
  rcases state.camera.writeFrame_cases now with
    ⟨_, y, uv, atY, atUv, outcome⟩ | ⟨_, outcome | ⟨_, outcome⟩⟩
  · rw [outcome]
    constructor
    · exact fresh.y
    · exact fresh.uv
    · intro planes member frame inPlanes
      rcases List.mem_append.mp member with earlier | added
      · exact fresh.writing planes earlier frame inPlanes
      · cases List.mem_singleton.mp added
        simp only [List.mem_cons, List.not_mem_nil, or_false] at inPlanes
        rcases inPlanes with rfl | rfl
        · exact fresh.y _ atY
        · exact fresh.uv _ atUv
    · exact fresh.passed
  · rw [outcome]
    exact fresh
  · rw [outcome]
    exact fresh.of_same ⟨rfl, rfl⟩

private theorem start_sameFrame {platform : Platform Device}
    {camera next : WebSocketCamera Device Nat}
    {resolution position : String}
    (taken : camera.start platform resolution position = some next) :
    SameFrame camera next := by
  rcases start_spec taken with ⟨_, rfl⟩ | ⟨_, capture, _, rfl⟩
  · exact ⟨rfl, rfl⟩
  · exact ⟨rfl, rfl⟩

theorem Fresh.write {state next : State Device} (fresh : Fresh state) {call : Nat}
    {planes : List Nat} (found : state.writing[call]? = some planes)
    (taken : write state call planes = some next) : Fresh next := by
  have member := List.mem_of_getElem? found
  cases planes with
  | nil => cases taken
  | cons frame rest =>
      cases taken
      constructor
      · exact fresh.y
      · exact fresh.uv
      · intro others inWriting other inOthers
        rcases List.mem_or_eq_of_mem_set inWriting with before | rfl
        · exact fresh.writing others before other inOthers
        · exact fresh.writing _ member other (List.mem_cons_of_mem frame inOthers)
      · intro written inPassed
        rcases List.mem_append.mp inPassed with earlier | added
        · exact fresh.passed written earlier
        · cases List.mem_singleton.mp added
          exact fresh.writing _ member frame List.mem_cons_self

private theorem step_fresh {platform : Platform Device} {state next : State Device} {label : Label}
    (fresh : Fresh state) (timely : Timely state label)
    (taken : step platform state label = some next) : Fresh next := by
  cases label with
  | tick elapsed =>
      simp only [step, Option.ite_none_right_eq_some, Option.some.injEq] at taken
      obtain ⟨_, rfl⟩ := taken
      exact { fresh with }
  | capture =>
      simp only [step, Option.ite_none_right_eq_some, Option.some.injEq] at taken
      obtain ⟨_, rfl⟩ := taken
      exact { fresh with }
  | onBuffer index =>
      obtain ⟨frame, found, rfl⟩ := Option.map_eq_some_iff.mp taken
      have recent : state.since ≤ frame := timely frame found
      have held : Fresh
          { state with
            captured := state.captured.eraseIdx index
            camera := state.camera.setBuffers frame frame } := by
        constructor
        · intro other same
          cases same
          exact recent
        · intro other same
          cases same
          exact recent
        · exact fresh.writing
        · exact fresh.passed
      unfold WebSocketCamera.onBuffer
      split
      · exact held.writeFrame state.now
      · exact held
  | needFrame =>
      obtain ⟨⟨camera, written⟩, handled, rfl⟩ := Option.map_eq_some_iff.mp taken
      rcases onNeedFrame_cases handled with
        ⟨resolution, position, stopped, atResolution, atPosition, started, rfl⟩ |
          ⟨running, _, wrote⟩ | ⟨running, _, rfl, rfl⟩
      · have restarts : state.camera.Restarts :=
          ⟨stopped, by simp [atResolution], by simp [atPosition]⟩
        obtain ⟨nothing, allWritten⟩ := timely restarts
        simp only [mark, if_pos restarts]
        exact (fresh.remark nothing allWritten state.frames).of_same (start_sameFrame started)
      · simp only [mark, if_neg running, wrote]
        exact fresh.writeFrame state.now
      · simp only [mark, if_neg running]
        exact fresh.of_same ⟨rfl, rfl⟩
  | write call =>
      obtain ⟨planes, found, taken⟩ := Option.bind_eq_some_iff.mp taken
      exact fresh.write found taken
  | clear =>
      cases taken
      have cleared : Fresh { state with camera := state.camera.clear } :=
        fresh.empty ⟨rfl, rfl⟩
      exact cleared.remark ⟨rfl, rfl⟩ timely state.frames
  | changePosition position =>
      obtain ⟨camera, changed, rfl⟩ := Option.map_eq_some_iff.mp taken
      obtain ⟨capture, _, same⟩ := Option.bind_eq_some_iff.mp changed
      cases same
      exact fresh.of_same ⟨rfl, rfl⟩
  | changeResolution resolution =>
      obtain ⟨camera, changed, rfl⟩ := Option.map_eq_some_iff.mp taken
      obtain ⟨capture, _, same⟩ := Option.bind_eq_some_iff.mp changed
      cases same
      exact fresh.of_same ⟨rfl, rfl⟩
  | configure resolution position =>
      obtain ⟨camera, started, rfl⟩ := Option.map_eq_some_iff.mp taken
      by_cases stopped : state.camera.initied = false
      · obtain ⟨nothing, allWritten⟩ := timely stopped
        simp only [mark, if_pos stopped]
        exact (fresh.remark nothing allWritten state.frames).of_same (start_sameFrame started)
      · simp only [mark, if_neg stopped]
        exact fresh.of_same (start_sameFrame started)
  | activityTimeout =>
      cases taken
      exact fresh.of_same ⟨rfl, rfl⟩
  | clearFrameData =>
      cases taken
      exact fresh.empty ⟨rfl, rfl⟩

private theorem reachable_fresh {platform : Platform Device} {state : State Device}
    (reached : (machine platform).ReachableWhen Timely state) : Fresh state := by
  refine reached.invariant Fresh ?_ ?_
  · intro state starts
    obtain ⟨now, rfl⟩ := starts
    constructor
    · intro frame held
      cases held
    · intro frame held
      cases held
    · intro planes member
      cases member
    · intro written member
      cases member
  · intro state label next _ fresh timely taken
    exact step_fresh fresh timely taken

/-- In every run whose steps are timely, only fresh frames are passed to `write`. -/
theorem allFresh_of_timely {platform : Platform Device} {state : State Device}
    (reached : (machine platform).ReachableWhen Timely state) : AllFresh state :=
  (reachable_fresh reached).passed

/-! ### The condition is needed -/

/-- The time after which the lock of the last frame has expired. -/
def expiry (state : State Device) : ℚ :=
  1 + max 0 (state.camera.lastFrame - state.now)

/-- A running camera that holds an old plane passes it on at the next request, once the
lock is free. -/
theorem not_allFresh_of_held (platform : Platform Device) {state : State Device} {y uv : Nat}
    (running : state.camera.initied = true) (atY : state.camera.yBuffer = some y)
    (atUv : state.camera.uvBuffer = some uv) (old : y < state.since) :
    ∃ final, (machine platform).run state
        [.tick (expiry state), .needFrame, .write state.writing.length] = some final ∧
      ¬AllFresh final := by
  have positive : 0 ≤ max 0 (state.camera.lastFrame - state.now) := le_max_left _ _
  have covers : state.camera.lastFrame - state.now ≤
      max 0 (state.camera.lastFrame - state.now) := le_max_right _ _
  have forward : 0 ≤ expiry state := by
    unfold expiry
    linarith
  have expired : 1 ≤ state.now + expiry state - state.camera.lastFrame := by
    unfold expiry
    linarith
  have holds : state.camera.HoldsFrame := ⟨by rw [atY]; rfl, by rw [atUv]; rfl⟩
  have ready : state.camera.Ready (state.now + expiry state) :=
    ⟨running, .inr expired, holds⟩
  have notRestarts : ¬state.camera.Restarts := by
    intro restarts
    have stopped := restarts.1
    rw [running] at stopped
    cases stopped
  have handled : state.camera.onNeedFrame platform (state.now + expiry state) =
      some (state.camera.writeFrame (state.now + expiry state)) := by
    unfold onNeedFrame
    split
    · rename_i stopped _ _
      rw [running] at stopped
      cases stopped
    · rw [if_pos ⟨holds.1, holds.2⟩]
  rcases state.camera.writeFrame_cases (state.now + expiry state) with
    ⟨_, first, second, heldY, heldUv, outcome⟩ | ⟨notReady, _⟩
  · rw [atY] at heldY
    rw [atUv] at heldUv
    cases heldY
    cases heldUv
    refine ⟨{ state with
        now := state.now + expiry state
        camera := (state.camera.writeFrame (state.now + expiry state)).1
        writing := (state.writing ++ [[y, uv]]).set state.writing.length [uv]
        passed := state.passed ++ [(y, state.since)] }, ?_, ?_⟩
    · simp only [Machine.run, machine, step, if_pos forward, handled, outcome, Option.bind_some,
        Option.map_some, mark, if_neg notRestarts, afterWrite,
        List.getElem?_concat_length, write]
    · intro fresh
      have least := fresh (y, state.since)
        (List.mem_append_right state.passed List.mem_cons_self)
      exact absurd least (Nat.not_le_of_lt old)
  · exact absurd ready notReady

/-- A frame whose first write is left when the camera is cleared is passed on after it. -/
theorem not_allFresh_of_interrupted (platform : Platform Device) {state : State Device}
    {call frame : Nat} {rest : List Nat} (found : state.writing[call]? = some (frame :: rest))
    (old : frame < state.frames) :
    ∃ final, (machine platform).run state [.clear, .write call] = some final ∧
      ¬AllFresh final := by
  refine ⟨{ state with
      camera := state.camera.clear
      since := state.frames
      writing := state.writing.set call rest
      passed := state.passed ++ [(frame, state.frames)] }, ?_, ?_⟩
  · simp only [Machine.run, machine, step, found, Option.bind_some, write]
  · intro fresh
    have least := fresh (frame, state.frames)
      (List.mem_append_right state.passed List.mem_cons_self)
    exact absurd least (Nat.not_le_of_lt old)

/-! ### Two runs -/

/-- A frame is asked for, captured and written before the resolution changes. -/
def writtenThenCleared : List Label :=
  [.configure "640x480" "back", .needFrame, .capture, .onBuffer 0, .write 0, .write 0,
    .clear, .changeResolution "1280x720", .clearFrameData, .needFrame, .capture, .onBuffer 0]

theorem allFresh_of_writtenThenCleared :
    ∃ state, (machine Platform.twoSided).runWhen Timely (initial 0) writtenThenCleared =
        some state ∧ state.passed.length = 2 ∧ AllFresh state := by
  obtain ⟨state, replayed, twoPassed⟩ := (Option.any_eq_true _ _).mp
    (show ((machine Platform.twoSided).runWhen Timely (initial 0) writtenThenCleared).any
        (fun state => decide (state.passed.length = 2)) = true by decide +kernel)
  exact ⟨state, replayed, of_decide_eq_true twoPassed,
    allFresh_of_timely (.runWhen writtenThenCleared (.initial ⟨0, rfl⟩) replayed)⟩

/-- A frame captured and not asked for is kept when the camera stops, and sent after it
has been restarted. -/
def keptOverStop : List Label :=
  [.configure "640x480" "back", .needFrame, .capture, .onBuffer 0, .write 0, .write 0,
    .clearFrameData, .capture, .onBuffer 0, .tick 5, .activityTimeout, .needFrame, .needFrame,
    .write 1]

theorem not_allFresh_of_keptOverStop :
    ¬∀ state : State AVCaptureDevicePosition,
      (machine Platform.twoSided).Reachable state → AllFresh state := by
  intro always
  have started : (machine Platform.twoSided).initial
      (initial 0 : State AVCaptureDevicePosition) := ⟨0, rfl⟩
  obtain ⟨state, reached, stale⟩ := Machine.exists_reachable_of_run keptOverStop
    (fun state : State AVCaptureDevicePosition =>
      state.passed.any fun written => decide (written.1 < written.2)) started (by decide +kernel)
  obtain ⟨written, member, late⟩ := List.any_eq_true.mp stale
  exact absurd (always state reached written member) (Nat.not_le_of_lt (of_decide_eq_true late))

end Freshness
end WebSocketCamera
end JSCameraKit

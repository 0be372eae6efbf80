import Mathlib.Tactic.Linarith
import JSCameraKit.Library.ListEdit
import JSCameraKit.Library.Machine
import JSCameraKit.WebSocketCamera.Handlers

set_option autoImplicit false

/-! The activity timer. `writeFrame` queues a task for each frame it starts; the task
invalidates the timer that `activityTimer` refers to, then schedules another one and
stores it there. The queue of the tasks is concurrent, so that the two steps of several
tasks can come between each other. A timer that expires stops the camera. -/

namespace JSCameraKit
namespace WebSocketCamera
namespace ActivityTimer

structure Timer where
  due : ℚ
  valid : Bool

inductive Stage
  | queued
  | invalidated
  | done
  deriving DecidableEq

/-- A task of `setActivityTimer`, with the time of the frame write that queued it. -/
structure Task where
  written : ℚ
  stage : Stage

structure State (Device Data : Type) where
  camera : WebSocketCamera Device Data
  now : ℚ
  /-- The timers scheduled, by number. -/
  timers : List Timer
  activityTimer : Option Nat
  tasks : List Task
  /-- A frame was written since the camera was started, or a timer or a task was left
  when it was. -/
  armed : Bool

inductive Label (Data : Type)
  | tick (elapsed : ℚ)
  | onBuffer (yData uvData : Data)
  | needFrame
  | writeFrame
  | configure (resolution position : String)
  | changePosition (position : String)
  | changeResolution (resolution : String)
  | clear
  | clearFrameData
  /-- The first step of a task. -/
  | invalidate (task : Nat)
  /-- Its second step. -/
  | schedule (task : Nat)
  | expire (timer : Nat)

variable {Device Data : Type}

/-- A timer is valid, or a task will schedule one. -/
def Pending (state : State Device Data) : Prop :=
  (∃ timer ∈ state.timers, timer.valid = true) ∨ ∃ task ∈ state.tasks, task.stage ≠ .done

instance (state : State Device Data) : Decidable (Pending state) :=
  inferInstanceAs (Decidable ((∃ timer ∈ state.timers, _) ∨ ∃ task ∈ state.tasks, _))

/-- The state after a step that may have called `writeFrame`; a frame started queues its task. -/
def afterWrite (state : State Device Data)
    (outcome : WebSocketCamera Device Data × Option (Data × Data)) : State Device Data :=
  match outcome.2 with
  | none => { state with camera := outcome.1 }
  | some _ =>
      { state with
        camera := outcome.1
        tasks := state.tasks ++ [{ written := state.now, stage := .queued }]
        armed := true }

/-- A camera that is started finds what is left of earlier timers and tasks. -/
def rearm (state : State Device Data) (starts : Prop) [Decidable starts] : State Device Data :=
  if starts then { state with armed := decide (Pending state) } else state

def Timer.invalidate (timer : Timer) : Timer :=
  { timer with valid := false }

/-- `activityTimer?.invalidate()`. -/
def invalidated (state : State Device Data) : List Timer :=
  match state.activityTimer with
  | none => state.timers
  | some number => state.timers.modify number Timer.invalidate

def setStage (state : State Device Data) (number : Nat) (stage : Stage) : List Task :=
  state.tasks.modify number fun task => { task with stage := stage }

def step (platform : Platform Device) (state : State Device Data) :
    Label Data → Option (State Device Data)
  | .tick elapsed => if 0 ≤ elapsed then some { state with now := state.now + elapsed } else none
  | .onBuffer yData uvData =>
      some (afterWrite state (state.camera.onBuffer state.now yData uvData))
  | .needFrame =>
      (state.camera.onNeedFrame platform state.now).map
        (afterWrite (rearm state state.camera.Restarts))
  | .writeFrame => some (afterWrite state (state.camera.writeFrame state.now))
  | .configure resolution position =>
      (state.camera.start platform resolution position).map fun camera =>
        { rearm state (state.camera.initied = false) with camera := camera }
  | .changePosition position =>
      (state.camera.clear.changePosition platform position).map fun camera =>
        { state with camera := camera }
  | .changeResolution resolution =>
      (state.camera.clear.changeResolution platform resolution).map fun camera =>
        { state with camera := camera }
  | .clear => some { state with camera := state.camera.clear }
  | .clearFrameData => some { state with camera := state.camera.clearFrameData }
  | .invalidate number =>
      (state.tasks[number]?).bind fun task =>
        if task.stage = .queued then
          some
            { state with
              timers := invalidated state
              tasks := setStage state number .invalidated }
        else none
  | .schedule number =>
      (state.tasks[number]?).bind fun task =>
        if task.stage = .invalidated then
          some
            { state with
              timers := state.timers ++ [{ due := state.now + 5, valid := true }]
              activityTimer := some state.timers.length
              tasks := setStage state number .done }
        else none
  | .expire number =>
      (state.timers[number]?).bind fun timer =>
        if timer.valid = true ∧ timer.due ≤ state.now then
          some
            { state with
              camera := state.camera.stop
              timers := state.timers.modify number Timer.invalidate }
        else none

def initial (now : ℚ) : State Device Data :=
  { camera := WebSocketCamera.init now
    now := now
    timers := []
    activityTimer := none
    tasks := []
    armed := false }

def machine (platform : Platform Device) : Machine (State Device Data) (Label Data) :=
  { initial := fun state => ∃ now, state = initial now
    step := step platform }

/-! ### What a step can do -/

/-- The steps as they concern the timers: the camera keeps running or not, is started,
writes a frame, or stops. -/
inductive Steps (state : State Device Data) : Label Data → State Device Data → Prop
  | tick (elapsed : ℚ) (forward : 0 ≤ elapsed) :
      Steps state (.tick elapsed) { state with now := state.now + elapsed }
  | keeps {label : Label Data} (camera : WebSocketCamera Device Data)
      (same : camera.initied = state.camera.initied) :
      Steps state label { state with camera := camera }
  | starts {label : Label Data} (camera : WebSocketCamera Device Data)
      (stopped : state.camera.initied = false) :
      Steps state label { state with camera := camera, armed := decide (Pending state) }
  | writes {label : Label Data} (camera : WebSocketCamera Device Data)
      (same : camera.initied = state.camera.initied) :
      Steps state label
        { state with
          camera := camera
          tasks := state.tasks ++ [{ written := state.now, stage := .queued }]
          armed := true }
  | invalidates (number : Nat) (task : Task) (found : state.tasks[number]? = some task)
      (queued : task.stage = .queued) :
      Steps state (.invalidate number)
        { state with timers := invalidated state, tasks := setStage state number .invalidated }
  | schedules (number : Nat) (task : Task) (found : state.tasks[number]? = some task)
      (begun : task.stage = .invalidated) :
      Steps state (.schedule number)
        { state with
          timers := state.timers ++ [{ due := state.now + 5, valid := true }]
          activityTimer := some state.timers.length
          tasks := setStage state number .done }
  | expires (number : Nat) (timer : Timer) (found : state.timers[number]? = some timer)
      (valid : timer.valid = true) (due : timer.due ≤ state.now) :
      Steps state (.expire number)
        { state with
          camera := state.camera.stop
          timers := state.timers.modify number Timer.invalidate }

private theorem writeFrame_steps (state : State Device Data) {label : Label Data}
    {caller : WebSocketCamera Device Data} (same : caller.initied = state.camera.initied) :
    Steps state label (afterWrite state (caller.writeFrame state.now)) := by
  rcases caller.writeFrame_cases state.now with
    ⟨_, y, uv, _, _, outcome⟩ | ⟨_, outcome | ⟨_, outcome⟩⟩
  · rw [outcome]
    exact .writes _ same
  · rw [outcome]
    exact .keeps _ same
  · rw [outcome]
    exact .keeps _ same

private theorem start_steps {platform : Platform Device} {state : State Device Data}
    {label : Label Data} {camera : WebSocketCamera Device Data} {resolution position : String}
    (taken : state.camera.start platform resolution position = some camera) :
    Steps state label { rearm state (state.camera.initied = false) with camera := camera } := by
  rcases start_spec taken with ⟨running, rfl⟩ | ⟨stopped, capture, _, rfl⟩
  · rw [rearm, if_neg (by simp [running])]
    exact .keeps _ rfl
  · rw [rearm, if_pos stopped]
    exact .starts _ stopped

theorem step_cases {platform : Platform Device} {state next : State Device Data}
    {label : Label Data} (taken : step platform state label = some next) :
    Steps state label next := by
  cases label with
  | tick elapsed =>
      simp only [step, Option.ite_none_right_eq_some, Option.some.injEq] at taken
      obtain ⟨forward, rfl⟩ := taken
      exact .tick elapsed forward
  | onBuffer yData uvData =>
      cases taken
      unfold WebSocketCamera.onBuffer
      split
      · exact writeFrame_steps state rfl
      · exact .keeps _ rfl
  | needFrame =>
      obtain ⟨⟨camera, written⟩, handled, rfl⟩ := Option.map_eq_some_iff.mp taken
      rcases onNeedFrame_cases handled with
        ⟨resolution, position, stopped, atResolution, atPosition, started, rfl⟩ |
          ⟨running, _, wrote⟩ | ⟨running, _, rfl, rfl⟩
      · have restarts : state.camera.Restarts :=
          ⟨stopped, by simp [atResolution], by simp [atPosition]⟩
        have begun : Steps state (.needFrame : Label Data) _ := start_steps started
        simp only [rearm, if_pos stopped] at begun
        simp only [rearm, if_pos restarts]
        exact begun
      · simp only [rearm, if_neg running, wrote]
        exact writeFrame_steps state rfl
      · simp only [rearm, if_neg running]
        exact .keeps _ rfl
  | writeFrame =>
      cases taken
      exact writeFrame_steps state rfl
  | configure resolution position =>
      obtain ⟨camera, started, rfl⟩ := Option.map_eq_some_iff.mp taken
      exact start_steps started
  | changePosition position =>
      obtain ⟨camera, changed, rfl⟩ := Option.map_eq_some_iff.mp taken
      obtain ⟨capture, _, same⟩ := Option.bind_eq_some_iff.mp changed
      cases same
      exact .keeps _ rfl
  | changeResolution resolution =>
      obtain ⟨camera, changed, rfl⟩ := Option.map_eq_some_iff.mp taken
      obtain ⟨capture, _, same⟩ := Option.bind_eq_some_iff.mp changed
      cases same
      exact .keeps _ rfl
  | clear =>
      cases taken
      exact .keeps _ rfl
  | clearFrameData =>
      cases taken
      exact .keeps _ rfl
  | invalidate number =>
      obtain ⟨task, found, taken⟩ := Option.bind_eq_some_iff.mp taken
      simp only [Option.ite_none_right_eq_some, Option.some.injEq] at taken
      obtain ⟨queued, rfl⟩ := taken
      exact .invalidates number task found queued
  | schedule number =>
      obtain ⟨task, found, taken⟩ := Option.bind_eq_some_iff.mp taken
      simp only [Option.ite_none_right_eq_some, Option.some.injEq] at taken
      obtain ⟨begun, rfl⟩ := taken
      exact .schedules number task found begun
  | expire number =>
      obtain ⟨timer, found, taken⟩ := Option.bind_eq_some_iff.mp taken
      simp only [Option.ite_none_right_eq_some, Option.some.injEq] at taken
      obtain ⟨⟨valid, due⟩, rfl⟩ := taken
      exact .expires number timer found valid due

/-! ### The condition -/

/-- No task takes its first step while another one is between its two. -/
def Apart (state : State Device Data) : Label Data → Prop
  | .invalidate _ => ∀ task ∈ state.tasks, task.stage ≠ .invalidated
  | _ => True

instance (state : State Device Data) : (label : Label Data) → Decidable (Apart state label)
  | .invalidate _ => inferInstanceAs (Decidable (∀ task ∈ state.tasks, _))
  | .tick _ | .onBuffer _ _ | .needFrame | .writeFrame | .configure _ _ | .changePosition _
  | .changeResolution _ | .clear | .clearFrameData | .schedule _ | .expire _ =>
      inferInstanceAs (Decidable True)

/-! ### A running camera -/

/-- While the camera runs, a timer is valid or a task will schedule one. -/
def Watched (state : State Device Data) : Prop :=
  state.camera.initied = true → Pending state

structure Arming (state : State Device Data) : Prop where
  running : state.camera.initied = true → state.armed = true → Pending state
  idle : state.armed = false → ¬Pending state

private theorem pending_of_task {state : State Device Data} {number : Nat} {task : Task}
    (found : state.tasks[number]? = some task) (unfinished : task.stage ≠ .done) :
    Pending state :=
  .inr ⟨task, List.mem_of_getElem? found, unfinished⟩

private theorem steps_arming {state next : State Device Data} {label : Label Data}
    (arming : Arming state) (steps : Steps state label next) : Arming next := by
  cases steps with
  | tick elapsed forward => exact { running := arming.running, idle := arming.idle }
  | keeps camera same =>
      constructor
      · intro running
        exact arming.running (same.symm.trans running)
      · exact arming.idle
  | starts camera stopped =>
      constructor
      · intro _ armed
        exact of_decide_eq_true armed
      · intro idle
        exact of_decide_eq_false idle
  | writes camera same =>
      constructor
      · intro _ _
        exact .inr ⟨_, List.mem_append_right state.tasks List.mem_cons_self, by simp⟩
      · intro idle
        cases idle
  | invalidates number task found queued =>
      constructor
      · intro _ _
        refine .inr ⟨{ task with stage := .invalidated }, ?_, by simp⟩
        exact ListEdit.mem_modify_self found fun task => { task with stage := .invalidated }
      · intro idle
        exact absurd (pending_of_task found (by simp [queued])) (arming.idle idle)
  | schedules number task found begun =>
      constructor
      · intro _ _
        exact .inl ⟨_, List.mem_append_right state.timers List.mem_cons_self, rfl⟩
      · intro idle
        exact absurd (pending_of_task found (by simp [begun])) (arming.idle idle)
  | expires number timer found valid due =>
      constructor
      · intro running
        cases running
      · intro idle
        exact absurd (.inl ⟨timer, List.mem_of_getElem? found, valid⟩) (arming.idle idle)

private theorem reachable_arming {platform : Platform Device} {state : State Device Data}
    (reached : (machine platform).Reachable state) : Arming state := by
  refine reached.invariant Arming ?_ ?_
  · intro state starts
    obtain ⟨now, rfl⟩ := starts
    constructor
    · intro running
      cases running
    · intro _ pending
      rcases pending with ⟨timer, member, _⟩ | ⟨task, member, _⟩
      · cases member
      · cases member
  · intro state label next _ arming taken
    exact steps_arming arming (step_cases taken)

/-- A running camera is watched exactly when it has written a frame since it was started,
or was started while something was left. -/
theorem watched_iff_armed {platform : Platform Device} {state : State Device Data}
    (reached : (machine platform).Reachable state) :
    Watched state ↔ (state.camera.initied = true → state.armed = true) := by
  have arming := reachable_arming reached
  constructor
  · intro watched running
    cases armed : state.armed with
    | true => rfl
    | false => exact absurd (watched running) (arming.idle armed)
  · intro armed running
    exact arming.running running (armed running)

/-! ### One timer at a time -/

structure Single (state : State Device Data) : Prop where
  current : ∀ (number : Nat) (timer : Timer), state.timers[number]? = some timer →
    timer.valid = true → state.activityTimer = some number
  between : ∀ task ∈ state.tasks, task.stage = .invalidated →
    ∀ timer ∈ state.timers, timer.valid = false
  alone : ∀ (first second : Nat) (task other : Task), state.tasks[first]? = some task →
    state.tasks[second]? = some other → task.stage = .invalidated →
      other.stage = .invalidated → first = second
  written : ∀ task ∈ state.tasks, task.written ≤ state.now
  due : ∀ timer ∈ state.timers, timer.valid = true →
    ∀ task ∈ state.tasks, task.stage = .done → task.written + 5 ≤ timer.due

theorem Single.invalidated {state : State Device Data} (single : Single state) :
    ∀ timer ∈ invalidated state, timer.valid = false := by
  intro timer member
  cases valid : timer.valid with
  | false => rfl
  | true =>
      obtain ⟨index, found⟩ := List.mem_iff_getElem?.mp member
      unfold ActivityTimer.invalidated at found
      split at found
      · rename_i nothing
        have current := single.current index timer found valid
        rw [nothing] at current
        cases current
      · rename_i number atNumber
        rcases ListEdit.modify_cases found with ⟨_, before, _, rfl⟩ | ⟨different, kept⟩
        · cases valid
        · have current := single.current index timer kept valid
          rw [atNumber] at current
          exact absurd (Option.some.inj current).symm different

theorem Single.setStage {state : State Device Data} (single : Single state) {number : Nat}
    {stage : Stage} : ∀ task ∈ ActivityTimer.setStage state number stage, task.written ≤ state.now := by
  intro task member
  rcases ListEdit.mem_modify member with kept | ⟨before, found, rfl⟩
  · exact single.written task kept
  · exact single.written before (List.mem_of_getElem? found)

theorem Single.apart {state : State Device Data} (single : Single state) {number index : Nat}
    {task other : Task} (found : state.tasks[number]? = some task)
    (begun : task.stage = .invalidated)
    (atIndex : (ActivityTimer.setStage state number .done)[index]? = some other) :
    other.stage ≠ .invalidated := by
  intro between
  rcases ListEdit.modify_cases atIndex with ⟨_, before, _, rfl⟩ | ⟨different, kept⟩
  · cases between
  · exact different (single.alone index number other task kept found between begun)

private theorem steps_single {state next : State Device Data} {label : Label Data}
    (single : Single state) (apart : Apart state label) (steps : Steps state label next) :
    Single next := by
  cases steps with
  | tick elapsed forward =>
      refine { single with written := ?_ }
      intro task member
      have before := single.written task member
      exact le_add_of_le_of_nonneg before forward
  | keeps camera same => exact { single with }
  | starts camera stopped => exact { single with }
  | writes camera same =>
      constructor
      · exact single.current
      · intro task member between
        rcases List.mem_append.mp member with old | new
        · exact single.between task old between
        · rw [List.mem_singleton.mp new] at between
          cases between
      · intro first second task other atFirst atSecond begun between
        rcases ListEdit.concat_cases atFirst with oldFirst | ⟨_, rfl⟩
        · rcases ListEdit.concat_cases atSecond with oldSecond | ⟨_, rfl⟩
          · exact single.alone first second task other oldFirst oldSecond begun between
          · cases between
        · cases begun
      · intro task member
        rcases List.mem_append.mp member with old | new
        · exact single.written task old
        · rw [List.mem_singleton.mp new]
      · intro timer member valid task within finished
        rcases List.mem_append.mp within with old | new
        · exact single.due timer member valid task old finished
        · rw [List.mem_singleton.mp new] at finished
          cases finished
  | invalidates number task found queued =>
      have silent := single.invalidated
      constructor
      · intro index timer atIndex valid
        rw [silent timer (List.mem_of_getElem? atIndex)] at valid
        cases valid
      · intro other member between
        exact silent
      · intro first second one other atFirst atSecond begun between
        rcases ListEdit.modify_cases atFirst with ⟨sameFirst, _⟩ | ⟨_, keptFirst⟩
        · rcases ListEdit.modify_cases atSecond with ⟨sameSecond, _⟩ | ⟨_, keptSecond⟩
          · rw [sameFirst, sameSecond]
          · exact absurd between (apart other (List.mem_of_getElem? keptSecond))
        · exact absurd begun (apart one (List.mem_of_getElem? keptFirst))
      · exact single.setStage
      · intro timer member valid
        rw [silent timer member] at valid
        cases valid
  | schedules number task found begun =>
      have silent := single.between task (List.mem_of_getElem? found) begun
      constructor
      · intro index timer atIndex valid
        rcases ListEdit.concat_cases atIndex with old | ⟨rfl, _⟩
        · rw [silent timer (List.mem_of_getElem? old)] at valid
          cases valid
        · rfl
      · intro other member between
        obtain ⟨index, atIndex⟩ := List.mem_iff_getElem?.mp member
        exact absurd between (single.apart found begun atIndex)
      · intro first second one other atFirst _ between _
        exact absurd between (single.apart found begun atFirst)
      · exact single.setStage
      · intro timer member valid other within _
        have before := single.setStage other within
        rcases List.mem_append.mp member with old | new
        · rw [silent timer old] at valid
          cases valid
        · rw [List.mem_singleton.mp new]
          exact add_le_add_left before 5
  | expires number timer found valid due =>
      constructor
      · intro index other atIndex stays
        rcases ListEdit.modify_cases atIndex with ⟨_, before, _, rfl⟩ | ⟨_, kept⟩
        · cases stays
        · exact single.current index other kept stays
      · intro task member between other within
        rcases ListEdit.mem_modify within with old | ⟨before, _, rfl⟩
        · exact single.between task member between other old
        · rfl
      · exact single.alone
      · exact single.written
      · intro other member stays
        rcases ListEdit.mem_modify member with old | ⟨before, _, rfl⟩
        · exact single.due other old stays
        · cases stays

private theorem reachable_single {platform : Platform Device} {state : State Device Data}
    (reached : (machine platform).ReachableWhen Apart state) : Single state := by
  refine reached.invariant Single ?_ ?_
  · intro state starts
    obtain ⟨now, rfl⟩ := starts
    constructor
    · intro number timer found
      cases found
    · intro task member
      cases member
    · intro first second task other found
      cases found
    · intro task member
      cases member
    · intro timer member
      cases member
  · intro state label next _ single apart taken
    exact steps_single single apart (step_cases taken)

/-! ### The property -/

def AtMostOne (state : State Device Data) : Prop :=
  ∀ (first second : Nat) (timer other : Timer), state.timers[first]? = some timer →
    state.timers[second]? = some other → timer.valid = true → other.valid = true →
      first = second

/-- A timer that expires now does so at least 5 seconds after each write whose task has finished. -/
def NoEarlyStop (platform : Platform Device) (state : State Device Data) : Prop :=
  ∀ number next, step platform state (.expire number) = some next →
    ∀ task ∈ state.tasks, task.stage = .done → 5 ≤ state.now - task.written

theorem Single.atMostOne {state : State Device Data} (single : Single state) :
    AtMostOne state := by
  intro first second timer other atFirst atSecond valid otherValid
  have current := single.current first timer atFirst valid
  rw [single.current second other atSecond otherValid] at current
  exact (Option.some.inj current).symm

theorem Single.noEarlyStop {state : State Device Data} (single : Single state)
    (platform : Platform Device) : NoEarlyStop platform state := by
  intro number next taken task member finished
  obtain ⟨timer, found, taken⟩ := Option.bind_eq_some_iff.mp taken
  simp only [Option.ite_none_right_eq_some] at taken
  have late := single.due timer (List.mem_of_getElem? found) taken.1.1 task member finished
  have due := taken.1.2
  linarith

/-- Where the tasks run one after another, the timer is as it should be exactly while a
running camera has written a frame since it was started, or was started while a timer or
a task was left. -/
theorem watched_iff_of_apart {platform : Platform Device} {state : State Device Data}
    (reached : (machine platform).ReachableWhen Apart state) :
    (Watched state ∧ AtMostOne state ∧ NoEarlyStop platform state) ↔
      (state.camera.initied = true → state.armed = true) := by
  have single := reachable_single reached
  have watched := watched_iff_armed reached.reachable
  constructor
  · intro asked
    exact watched.mp asked.1
  · intro armed
    exact ⟨watched.mpr armed, single.atMostOne, single.noEarlyStop platform⟩

/-- A camera armed and timed: its frame was written, its task has run, and a second frame's
task has run after it. -/
def writtenTwice : List (Label Nat) :=
  [.configure "640x480" "back", .needFrame, .onBuffer 0 0, .invalidate 0, .schedule 0, .tick 2,
    .needFrame, .invalidate 1, .schedule 1, .tick 4]

theorem watched_of_writtenTwice :
    ∃ state, (machine Platform.twoSided).runWhen Apart (initial 0) writtenTwice = some state ∧
      state.camera.initied = true ∧ state.timers.length = 2 ∧
      Watched state ∧ AtMostOne state ∧ NoEarlyStop Platform.twoSided state := by
  obtain ⟨state, replayed, passed⟩ := (Option.any_eq_true _ _).mp
    (show ((machine Platform.twoSided).runWhen Apart (initial 0) writtenTwice).any
        (fun state => decide (state.camera.initied = true ∧ state.timers.length = 2 ∧
          state.armed = true)) = true by decide +kernel)
  obtain ⟨running, twoTimers, armed⟩ := of_decide_eq_true passed
  have reached : (machine Platform.twoSided).ReachableWhen Apart state :=
    .runWhen writtenTwice (.initial ⟨0, rfl⟩) replayed
  exact ⟨state, replayed, running, twoTimers,
    (watched_iff_of_apart reached).mpr fun _ => armed⟩

/-- A camera that was configured runs without a timer until its first frame is written. -/
theorem not_watched_of_configured :
    ¬∀ state : State AVCaptureDevicePosition Nat,
      (machine Platform.twoSided).Reachable state →
        Watched state ∧ AtMostOne state ∧ NoEarlyStop Platform.twoSided state := by
  intro always
  have started : (machine Platform.twoSided).initial
      (initial 0 : State AVCaptureDevicePosition Nat) := ⟨0, rfl⟩
  obtain ⟨state, reached, bare⟩ := Machine.exists_reachable_of_run
    [.configure "640x480" "back"]
    (fun state : State AVCaptureDevicePosition Nat =>
      decide (state.camera.initied = true ∧ ¬Pending state)) started (by decide +kernel)
  obtain ⟨running, nothing⟩ := of_decide_eq_true bare
  exact nothing ((always state reached).1 running)

/-! ### Tasks that overlap -/

theorem not_atMostOne_of_overlap (platform : Platform Device) {state : State Device Data}
    {first second : Nat} {task other : Task} (atFirst : state.tasks[first]? = some task)
    (atSecond : state.tasks[second]? = some other) (different : first ≠ second)
    (begun : task.stage = .invalidated) (between : other.stage = .invalidated) :
    ∃ final, (machine platform).run state [.schedule first, .schedule second] = some final ∧
      ¬AtMostOne final := by
  have kept : (setStage state first .done)[second]? = some other := by
    unfold setStage
    rw [List.getElem?_modify_ne _ _ different]
    exact atSecond
  refine ⟨{ state with
      timers := (state.timers ++ [{ due := state.now + 5, valid := true }]) ++
        [{ due := state.now + 5, valid := true }]
      activityTimer := some (state.timers.length + 1)
      tasks := (setStage state first .done).modify second fun task =>
        { task with stage := .done } }, ?_, ?_⟩
  · simp only [Machine.run, machine, step, atFirst, begun, kept, between, Option.bind_some,
      if_true, List.length_append, List.length_singleton]
    rfl
  · intro single
    have same := single state.timers.length (state.timers.length + 1)
      { due := state.now + 5, valid := true } { due := state.now + 5, valid := true }
      (by simp) (by simp) rfl rfl
    omega

end ActivityTimer
end WebSocketCamera
end JSCameraKit

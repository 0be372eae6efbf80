import JSCameraKit.Library.Machine
import JSCameraKit.Browser.Camera

set_option autoImplicit false

/-! The animation loop of `Camera`, once `setCanvas` has built the program of the scene.
`start` goes on when the response to its configure request arrives, `stop` acts at once.
The browser numbers the callbacks of `requestAnimationFrame` and uses no handle again. -/

namespace JSCameraKit
namespace Browser

inductive Call
  | start (resolution position : String)
  | stop
  deriving DecidableEq

def Call.isStart : Call → Bool
  | .start _ _ => true
  | .stop => false

/-- What the listeners for `fps` do: the calls they make, and whether one throws after them. -/
structure FpsListeners where
  calls : List Call
  throws : Bool
  deriving DecidableEq

/-- `asked` holds, for each need-frame request, the handle of the callback that made it. -/
structure Frames where
  animationFrame : Option Nat
  callbacks : List Nat
  handles : Nat
  asked : List Nat
  deriving DecidableEq

/-- `starts` numbers the configure requests whose responses calls of `start` await. -/
structure AnimationLoop where
  camera : Camera
  frames : Frames
  starts : List Nat
  running : Bool
  shouldDraw : Bool
  lastCall : Option Call

namespace Frames

def init : Frames :=
  { animationFrame := none, callbacks := [], handles := 0, asked := [] }

def cancelAnimationFrame (frames : Frames) (handle : Nat) : Frames :=
  { frames with callbacks := frames.callbacks.erase handle }

/-- The function of the browser, whose handle is assigned to `animationFrame`. -/
def schedule (frames : Frames) : Frames :=
  { frames with
    animationFrame := some frames.handles
    callbacks := frames.callbacks ++ [frames.handles]
    handles := frames.handles + 1 }

def requestAnimationFrame (frames : Frames) : Frames :=
  match frames.animationFrame with
  | some handle => (frames.cancelAnimationFrame handle).schedule
  | none => frames.schedule

end Frames

namespace AnimationLoop

/-- `start` is called with the scene's program built: `initGL` raises an exception before. -/
def init : AnimationLoop :=
  { camera := Camera.init.setCanvas true true
    frames := .init
    starts := []
    running := false
    shouldDraw := false
    lastCall := none }

def call (loop : AnimationLoop) : Call → AnimationLoop
  | .start resolution position =>
      { loop with
        camera := loop.camera.request (.configure (some resolution) (some position))
        starts := loop.starts ++ [loop.camera.requestID]
        lastCall := some (.start resolution position) }
  | .stop =>
      { loop with
        camera := loop.camera.request .stop
        running := false
        lastCall := some .stop }

/-- The statements of `start` behind the `await`. -/
def resume (loop : AnimationLoop) : AnimationLoop :=
  { loop with running := true, frames := loop.frames.requestAnimationFrame }

def onJsonMessage (loop : AnimationLoop) (id : Nat) (data : Reply) : AnimationLoop :=
  if id ∈ loop.starts ∧ id ∈ (emit id loop.camera.listeners).2.map Listener.id then
    resume
      { loop with
        camera := loop.camera.onJsonMessage id data
        starts := loop.starts.filter fun start => start ≠ id }
  else { loop with camera := loop.camera.onJsonMessage id data }

/-- An upload is what `shouldDraw` is set by. -/
def onBinaryMessage (loop : AnimationLoop) (head : Nat) (plane : Plane) : AnimationLoop :=
  { loop with
    camera := loop.camera.onBinaryMessage head plane
    shouldDraw := loop.shouldDraw ||
      decide (loop.camera.uploads.length <
        (loop.camera.onBinaryMessage head plane).uploads.length) }

def requestCameraFrame (loop : AnimationLoop) (handle : Nat) : AnimationLoop :=
  { loop with
    camera := loop.camera.request .needFrame
    frames := { loop.frames with asked := loop.frames.asked ++ [handle] } }

/-- The callback up to the emission of `fps`. -/
def draw (loop : AnimationLoop) (listeners : FpsListeners) : AnimationLoop :=
  if loop.shouldDraw then listeners.calls.foldl call { loop with shouldDraw := false } else loop

/-- The callback behind the emission. -/
def rearm (loop : AnimationLoop) (handle : Nat) : AnimationLoop :=
  let idle : AnimationLoop := { loop with frames := { loop.frames with animationFrame := none } }
  if idle.running then
    requestCameraFrame { idle with frames := idle.frames.requestAnimationFrame } handle
  else idle

/-- The browser takes the callback from its list and runs it; an exception ends it. -/
def onAnimationFrame (loop : AnimationLoop) (handle : Nat) (listeners : FpsListeners) :
    AnimationLoop :=
  let called : AnimationLoop := { loop with frames := loop.frames.cancelAnimationFrame handle }
  if loop.shouldDraw && listeners.throws then called.draw listeners
  else (called.draw listeners).rearm handle

inductive Label
  | call (call : Call)
  | request (request : Request)
  | jsonMessage (id : Nat) (data : Reply)
  | binaryMessage (head : Nat) (plane : Plane)
  | animationFrame (handle : Nat) (listeners : FpsListeners)
  deriving DecidableEq

/-- A label `request` is any other request than those of `start`, `stop` and the callback. -/
def step (loop : AnimationLoop) : Label → Option AnimationLoop
  | .call made => some (loop.call made)
  | .request request => some { loop with camera := loop.camera.request request }
  | .jsonMessage id data => some (loop.onJsonMessage id data)
  | .binaryMessage head plane => some (loop.onBinaryMessage head plane)
  | .animationFrame handle listeners =>
      if handle ∈ loop.frames.callbacks then some (loop.onAnimationFrame handle listeners)
      else none

def machine : Machine AnimationLoop Label :=
  { initial := fun loop => loop = init
    step := step }

/-! ### What the loop is for -/

/-- At most one callback is outstanding, `animationFrame` is its handle and null where there
is none, and no callback has asked for two frames. -/
structure OneCallback (frames : Frames) : Prop where
  single : frames.callbacks.length ≤ 1
  held : ∀ handle, frames.animationFrame = some handle ↔ handle ∈ frames.callbacks
  once : frames.asked.Nodup

/-- Once no `start` awaits its response, the last call tells whether the loop runs. -/
def FollowsLastCall (loop : AnimationLoop) : Prop :=
  loop.starts = [] → (loop.running = true ↔ loop.lastCall.any Call.isStart = true)

def Behaves (loop : AnimationLoop) : Prop :=
  OneCallback loop.frames ∧ loop.FollowsLastCall

/-- The last response that calls of `start` await does not come behind a `stop`, and no
listener for `fps` throws. -/
def Undisturbed (loop : AnimationLoop) : Label → Prop
  | .jsonMessage id _ => loop.starts = [id] → loop.lastCall.any Call.isStart = true
  | .animationFrame _ listeners => loop.shouldDraw = true → listeners.throws = false
  | _ => True

end AnimationLoop

/-! ### The handles -/

/-- The browser's list is the handle that `animationFrame` holds, and handles are used once. -/
structure Frames.Armed (frames : Frames) : Prop where
  callbacks : frames.callbacks = frames.animationFrame.toList
  fresh : ∀ handle ∈ frames.callbacks, handle < frames.handles
  old : ∀ handle ∈ frames.asked, handle < frames.handles
  ran : ∀ handle ∈ frames.asked, handle ∉ frames.callbacks
  once : frames.asked.Nodup

theorem Frames.Armed.oneCallback {frames : Frames} (armed : frames.Armed) :
    AnimationLoop.OneCallback frames := by
  refine ⟨?_, ?_, armed.once⟩
  · rw [armed.callbacks]
    cases frames.animationFrame with
    | none => exact Nat.zero_le 1
    | some handle => exact Nat.le_refl 1
  · intro handle
    rw [armed.callbacks, Option.mem_toList]

theorem Frames.cancelAnimationFrame_armed {frames : Frames} (armed : frames.Armed)
    {handle : Nat} (held : frames.animationFrame = some handle) :
    (frames.cancelAnimationFrame handle).callbacks = [] := by
  rw [cancelAnimationFrame, armed.callbacks, held, Option.toList_some, List.erase_cons_head]

theorem Frames.requestAnimationFrame_eq {frames : Frames} (armed : frames.Armed) :
    frames.requestAnimationFrame =
      { frames with
        animationFrame := some frames.handles
        callbacks := [frames.handles]
        handles := frames.handles + 1 } := by
  unfold requestAnimationFrame
  split
  · rename_i handle held
    rw [schedule, cancelAnimationFrame_armed armed held]
    rfl
  · rename_i idle
    rw [schedule, armed.callbacks, idle]
    rfl

theorem Frames.Armed.requestAnimationFrame {frames : Frames} (armed : frames.Armed) :
    frames.requestAnimationFrame.Armed := by
  rw [requestAnimationFrame_eq armed]
  constructor
  · rfl
  · intro handle member
    rw [List.mem_singleton.mp member]
    exact Nat.lt_succ_self _
  · intro handle member
    exact Nat.lt_succ_of_lt (armed.old handle member)
  · intro handle member again
    have before := armed.old handle member
    rw [List.mem_singleton.mp again] at before
    exact Nat.lt_irrefl _ before
  · exact armed.once

/-- A callback that has run gives up its handle before the next one is requested. -/
theorem Frames.Armed.taken {frames : Frames} (armed : frames.Armed) {handle : Nat}
    (outstanding : handle ∈ frames.callbacks) :
    Armed { frames.cancelAnimationFrame handle with animationFrame := none } := by
  have held : frames.animationFrame = some handle := (armed.oneCallback.held handle).mpr outstanding
  have empty := cancelAnimationFrame_armed armed held
  constructor
  · exact empty
  · intro other member
    rw [show _ = [] from empty] at member
    cases member
  · exact armed.old
  · intro other _ member
    rw [show _ = [] from empty] at member
    cases member
  · exact armed.once

theorem Frames.Armed.ask {frames : Frames} (armed : frames.Armed) {handle : Nat}
    (used : handle < frames.handles) (new : handle ∉ frames.asked)
    (gone : handle ∉ frames.callbacks) :
    Armed { frames with asked := frames.asked ++ [handle] } := by
  constructor
  · exact armed.callbacks
  · exact armed.fresh
  · intro other member
    rcases List.mem_append.mp member with before | last
    · exact armed.old other before
    · rw [List.mem_singleton.mp last]
      exact used
  · intro other member
    rcases List.mem_append.mp member with before | last
    · exact armed.ran other before
    · rw [List.mem_singleton.mp last]
      exact gone
  · exact List.nodup_append.mpr ⟨armed.once, List.nodup_singleton handle, by
      intro other member last both
      rw [List.mem_singleton.mp both]
      intro same
      exact new (same ▸ member)⟩

namespace AnimationLoop

private theorem rearm_armed {loop : AnimationLoop} {frames : Frames} {handle : Nat}
    (armed : frames.Armed) (outstanding : handle ∈ frames.callbacks)
    (called : loop.frames = frames.cancelAnimationFrame handle) :
    (loop.rearm handle).frames.Armed := by
  have taken := armed.taken outstanding
  unfold rearm
  dsimp only
  split
  · rw [requestCameraFrame, called]
    dsimp only
    apply taken.requestAnimationFrame.ask
    · rw [Frames.requestAnimationFrame_eq taken]
      exact Nat.lt_succ_of_lt (armed.fresh handle outstanding)
    · rw [Frames.requestAnimationFrame_eq taken]
      intro before
      exact armed.ran handle before outstanding
    · rw [Frames.requestAnimationFrame_eq taken]
      intro again
      have before := armed.fresh handle outstanding
      rw [List.mem_singleton.mp again] at before
      exact Nat.lt_irrefl _ before
  · dsimp only
    rw [called]
    exact taken

/-! ### The calls -/

/-- The listeners have numbers of their own, and each `start` that awaits has one. -/
structure Awaits (loop : AnimationLoop) : Prop where
  own : OwnNumbers loop.camera
  waiting : ∀ start ∈ loop.starts, start ∈ loop.camera.listeners.map Listener.id
  once : loop.starts.Nodup

private theorem call_frames (loop : AnimationLoop) (made : Call) :
    (loop.call made).frames = loop.frames := by
  cases made with
  | start => rfl
  | stop => rfl

private theorem call_followsLastCall (loop : AnimationLoop) (made : Call) :
    (loop.call made).FollowsLastCall := by
  intro noStart
  cases made with
  | start => exact absurd noStart (List.append_ne_nil_of_right_ne_nil _ (List.cons_ne_nil _ _))
  | stop => exact iff_of_false Bool.false_ne_true Bool.false_ne_true

theorem Awaits.request {loop : AnimationLoop} (awaits : loop.Awaits) (request : Request) :
    Awaits { loop with camera := loop.camera.request request } := by
  refine ⟨awaits.own.request request, ?_, awaits.once⟩
  intro start member
  simp only [Camera.request, List.map_append]
  exact List.mem_append_left _ (awaits.waiting start member)

theorem Awaits.start_lt {loop : AnimationLoop} (awaits : loop.Awaits) {start : Nat}
    (member : start ∈ loop.starts) : start < loop.camera.requestID := by
  obtain ⟨listener, listed, rfl⟩ := List.mem_map.mp (awaits.waiting start member)
  exact awaits.own.issued listener listed

theorem Awaits.call {loop : AnimationLoop} (awaits : loop.Awaits) (made : Call) :
    (loop.call made).Awaits := by
  cases made with
  | start resolution position =>
      have requested := awaits.request (.configure (some resolution) (some position))
      refine ⟨requested.own, ?_, ?_⟩
      · intro start member
        rcases List.mem_append.mp member with before | last
        · exact requested.waiting start before
        · rw [List.mem_singleton.mp last]
          simp [AnimationLoop.call, Camera.request]
      · refine List.nodup_append.mpr ⟨awaits.once, List.nodup_singleton _, ?_⟩
        intro start member new last same
        have before := awaits.start_lt member
        rw [List.mem_singleton.mp last] at same
        omega
  | stop =>
      have requested := awaits.request .stop
      exact ⟨requested.own, requested.waiting, requested.once⟩

theorem Awaits.called {loop : AnimationLoop} (awaits : loop.Awaits) {id : Nat}
    (member : id ∈ loop.starts) : id ∈ (emit id loop.camera.listeners).2.map Listener.id := by
  obtain ⟨listener, listed, same⟩ := List.mem_map.mp (awaits.waiting id member)
  rw [emit_nodup awaits.own.distinct]
  refine List.mem_map.mpr ⟨listener, ?_, same⟩
  exact List.mem_filter.mpr ⟨listed, decide_eq_true same⟩

theorem Awaits.heard {loop : AnimationLoop} (awaits : loop.Awaits) (id : Nat) (data : Reply)
    (starts : List Nat) (fewer : ∀ start ∈ starts, start ∈ loop.starts ∧ start ≠ id)
    (once : starts.Nodup) :
    Awaits { loop with camera := loop.camera.onJsonMessage id data, starts := starts } := by
  refine ⟨awaits.own.onJsonMessage id data, ?_, once⟩
  intro start member
  obtain ⟨listener, listed, same⟩ :=
    List.mem_map.mp (awaits.waiting start (fewer start member).1)
  dsimp only
  rw [onJsonMessage_spec awaits.own.distinct]
  refine List.mem_map.mpr ⟨listener, List.mem_filter.mpr ⟨listed, ?_⟩, same⟩
  exact decide_eq_true (same ▸ (fewer start member).2)

private theorem onJsonMessage_eq {loop : AnimationLoop} (awaits : loop.Awaits) (id : Nat)
    (data : Reply) :
    loop.onJsonMessage id data =
      if id ∈ loop.starts then
        resume
          { loop with
            camera := loop.camera.onJsonMessage id data
            starts := loop.starts.filter fun start => start ≠ id }
      else { loop with camera := loop.camera.onJsonMessage id data } := by
  unfold onJsonMessage
  by_cases member : id ∈ loop.starts
  · rw [if_pos ⟨member, awaits.called member⟩, if_pos member]
  · rw [if_neg (fun both => member both.1), if_neg member]

private theorem draw_preserves (good : AnimationLoop → Prop)
    (clears : ∀ loop, good loop → good { loop with shouldDraw := false })
    (calls : ∀ loop made, good loop → good (loop.call made)) {loop : AnimationLoop}
    (holds : good loop) (listeners : FpsListeners) : good (loop.draw listeners) := by
  unfold draw
  split
  · have cleared := clears loop holds
    generalize { loop with shouldDraw := false } = start at cleared
    induction listeners.calls generalizing start with
    | nil => exact cleared
    | cons made rest ih => exact ih (start.call made) (calls start made cleared)
  · exact holds

private theorem draw_frames (loop : AnimationLoop) (listeners : FpsListeners) :
    (loop.draw listeners).frames = loop.frames := by
  apply draw_preserves (fun next => next.frames = loop.frames) (fun _ same => same) ?_ rfl
  intro next made same
  rw [call_frames, same]

theorem Awaits.draw {loop : AnimationLoop} (awaits : loop.Awaits) (listeners : FpsListeners) :
    (loop.draw listeners).Awaits := by
  apply draw_preserves Awaits ?_ (fun _ made held => held.call made) awaits
  intro next held
  exact ⟨held.own, held.waiting, held.once⟩

private theorem draw_followsLastCall {loop : AnimationLoop} (follows : loop.FollowsLastCall)
    (listeners : FpsListeners) : (loop.draw listeners).FollowsLastCall :=
  draw_preserves FollowsLastCall (fun _ held => held)
    (fun next made _ => call_followsLastCall next made) follows listeners

private theorem rearm_followsLastCall {loop : AnimationLoop} (follows : loop.FollowsLastCall)
    (handle : Nat) : (loop.rearm handle).FollowsLastCall := by
  unfold rearm
  dsimp only
  split
  · exact follows
  · exact follows

theorem Awaits.rearm {loop : AnimationLoop} (awaits : loop.Awaits) (handle : Nat) :
    (loop.rearm handle).Awaits := by
  unfold AnimationLoop.rearm
  dsimp only
  split
  · have requested := awaits.request .needFrame
    exact ⟨requested.own, requested.waiting, requested.once⟩
  · exact ⟨awaits.own, awaits.waiting, awaits.once⟩

/-! ### Every run -/

structure Invariant (loop : AnimationLoop) : Prop where
  armed : loop.frames.Armed
  awaits : loop.Awaits
  follows : loop.FollowsLastCall

theorem Invariant.behaves {loop : AnimationLoop} (invariant : loop.Invariant) : loop.Behaves :=
  ⟨invariant.armed.oneCallback, invariant.follows⟩

theorem init_invariant : init.Invariant := by
  refine ⟨⟨rfl, ?_, ?_, ?_, List.nodup_nil⟩,
    ⟨⟨List.nodup_nil, ?_⟩, ?_, List.nodup_nil⟩, fun _ => by decide⟩
  all_goals
    intro number member
    cases member

/-- The last of the awaited responses is the one that the list of them consists of. -/
theorem starts_eq_of_filter {starts : List Nat} {id : Nat} (once : starts.Nodup)
    (member : id ∈ starts) (last : (starts.filter fun start => start ≠ id) = []) :
    starts = [id] := by
  have all : ∀ start ∈ starts, start = id := by
    intro start listed
    simpa using List.filter_eq_nil_iff.mp last start listed
  cases starts with
  | nil => cases member
  | cons first rest =>
      have same := all first List.mem_cons_self
      cases rest with
      | nil => rw [same]
      | cons second rest =>
          have again := all second (List.mem_cons_of_mem first List.mem_cons_self)
          rw [same, again] at once
          exact absurd List.mem_cons_self (List.nodup_cons.mp once).1

theorem Invariant.onJsonMessage {loop : AnimationLoop} (invariant : loop.Invariant) {id : Nat}
    (data : Reply)
    (undisturbed : loop.starts = [id] → loop.lastCall.any Call.isStart = true) :
    (loop.onJsonMessage id data).Invariant := by
  rw [onJsonMessage_eq invariant.awaits]
  split
  · rename_i member
    refine ⟨invariant.armed.requestAnimationFrame, ?_, ?_⟩
    · have heard := invariant.awaits.heard id data
        (loop.starts.filter fun start => start ≠ id)
        (by
          intro start kept
          simpa using List.mem_filter.mp kept)
        (invariant.awaits.once.filter _)
      exact ⟨heard.own, heard.waiting, heard.once⟩
    · intro last
      have only := starts_eq_of_filter invariant.awaits.once member last
      exact iff_of_true rfl (undisturbed only)
  · rename_i other
    have heard := invariant.awaits.heard id data loop.starts
      (fun start listed => ⟨listed, fun same => other (same ▸ listed)⟩) invariant.awaits.once
    exact ⟨invariant.armed, heard, invariant.follows⟩

theorem Invariant.onAnimationFrame {loop : AnimationLoop} (invariant : loop.Invariant)
    {handle : Nat} (outstanding : handle ∈ loop.frames.callbacks) {listeners : FpsListeners}
    (undisturbed : loop.shouldDraw = true → listeners.throws = false) :
    (loop.onAnimationFrame handle listeners).Invariant := by
  have quiet : ¬(loop.shouldDraw && listeners.throws) = true := by
    intro both
    rw [Bool.and_eq_true] at both
    rw [undisturbed both.1] at both
    exact Bool.false_ne_true both.2
  unfold AnimationLoop.onAnimationFrame
  dsimp only
  rw [if_neg quiet]
  have called : Awaits { loop with frames := loop.frames.cancelAnimationFrame handle } :=
    ⟨invariant.awaits.own, invariant.awaits.waiting, invariant.awaits.once⟩
  constructor
  · exact rearm_armed invariant.armed outstanding (draw_frames _ listeners)
  · exact (called.draw listeners).rearm handle
  · apply rearm_followsLastCall
    apply draw_followsLastCall
    exact invariant.follows

private theorem step_invariant {loop next : AnimationLoop} {label : Label}
    (invariant : loop.Invariant)
    (taken : step loop label = some next) (undisturbed : Undisturbed loop label) :
    next.Invariant := by
  cases label with
  | call made =>
      cases taken
      refine ⟨?_, invariant.awaits.call made, call_followsLastCall loop made⟩
      rw [call_frames]
      exact invariant.armed
  | request request =>
      cases taken
      exact ⟨invariant.armed, invariant.awaits.request request, invariant.follows⟩
  | jsonMessage id data =>
      cases taken
      exact invariant.onJsonMessage data undisturbed
  | binaryMessage head plane =>
      cases taken
      refine ⟨invariant.armed, ?_, invariant.follows⟩
      obtain ⟨listeners, _, requestID⟩ := onBinaryMessage_listeners loop.camera head plane
      refine ⟨⟨?_, ?_⟩, ?_, invariant.awaits.once⟩
      · dsimp only [AnimationLoop.onBinaryMessage]
        rw [listeners]
        exact invariant.awaits.own.distinct
      · dsimp only [AnimationLoop.onBinaryMessage]
        rw [listeners, requestID]
        exact invariant.awaits.own.issued
      · dsimp only [AnimationLoop.onBinaryMessage]
        rw [listeners]
        exact invariant.awaits.waiting
  | animationFrame handle listeners =>
      obtain ⟨outstanding, same⟩ := Option.ite_none_right_eq_some.mp taken
      cases same
      exact invariant.onAnimationFrame outstanding undisturbed

private theorem onAnimationFrame_throws {loop : AnimationLoop} {handle : Nat}
    {listeners : FpsListeners}
    (draws : loop.shouldDraw = true) (throws : listeners.throws = true) :
    (loop.onAnimationFrame handle listeners).frames =
      loop.frames.cancelAnimationFrame handle := by
  have both : (loop.shouldDraw && listeners.throws) = true := by rw [draws, throws]; rfl
  unfold onAnimationFrame
  dsimp only
  rw [if_pos both]
  exact draw_frames _ listeners

private theorem undisturbed_of_behaves {loop next : AnimationLoop} {label : Label}
    (invariant : loop.Invariant) (taken : step loop label = some next)
    (behaves : next.Behaves) : Undisturbed loop label := by
  cases label with
  | jsonMessage id data =>
      intro only
      cases taken
      have member : id ∈ loop.starts := by
        rw [only]
        exact List.mem_singleton_self id
      have follows := behaves.2
      rw [onJsonMessage_eq invariant.awaits, if_pos member] at follows
      apply (follows ?_).mp rfl
      simp [resume, only]
  | animationFrame handle listeners =>
      intro draws
      obtain ⟨outstanding, same⟩ := Option.ite_none_right_eq_some.mp taken
      cases same
      cases throws : listeners.throws with
      | false => rfl
      | true =>
          have held := (invariant.armed.oneCallback.held handle).mpr outstanding
          have none := Frames.cancelAnimationFrame_armed invariant.armed held
          have kept := behaves.1.held handle
          rw [onAnimationFrame_throws draws throws, none] at kept
          exact absurd (kept.mp held) List.not_mem_nil
  | call made => trivial
  | request request => trivial
  | binaryMessage head plane => trivial

/-- In every run the loop has one callback and follows the last call at each moment, exactly
when no step of the run disturbs it. -/
theorem behaves_iff_undisturbed (labels : List Label) :
    machine.Always Behaves init labels ↔ machine.Permits Undisturbed init labels :=
  Machine.always_iff_permits Invariant (fun _ invariant => invariant.behaves)
    (fun _ _ _ invariant taken undisturbed => step_invariant invariant taken undisturbed)
    (fun _ _ _ invariant taken behaves => undisturbed_of_behaves invariant taken behaves)
    labels init init_invariant

/-- The configure response to a `start` comes behind a `stop`: the loop runs. -/
theorem not_behaves_of_stopWhileStarting :
    ¬machine.Always Behaves init
      [.call (.start "1280x720" "back"), .call .stop,
        .jsonMessage 0
          (.infos { width := 1280, height := 720, rotated := true, mirrored := false })] := by
  intro always
  have stopped := (((always.2 _ rfl).2 _ rfl).2 _ rfl).2
  exact Bool.false_ne_true ((stopped rfl).mp rfl)

end AnimationLoop
end Browser
end JSCameraKit

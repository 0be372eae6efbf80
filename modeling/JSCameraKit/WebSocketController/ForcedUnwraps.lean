import JSCameraKit.Library.Machine
import JSCameraKit.AVRecorder.Unwraps
import JSCameraKit.WebSocketController.Dispatch

set_option autoImplicit false

/-! The forced unwrappings on the way of a request: `presetsMap[resolution]!`,
`ConstraintsManager.presets[sessionPreset]!`, `captureDevice!` and `resolution!`. A
step without a successor is one that unwraps nil. -/

namespace JSCameraKit

/-! ### What each request unwraps -/

namespace WebSockerController
namespace ForcedUnwraps

open AVRecorder (Fits Configurable getDevicePosition)

variable {Device Data : Type}

/-- What a request needs of the camera and of the device. -/
def SafeRequest (platform : Platform Device) (camera : WebSocketCamera Device Data) :
    Request → Prop
  | .configure (some resolution) (some position) =>
      camera.initied = false → Configurable platform (getDevicePosition position) resolution
  | .needFrame =>
      camera.initied = false → ∀ resolution ∈ camera.resolution, ∀ position ∈ camera.position,
        Configurable platform (getDevicePosition position) resolution
  | .changePosition (some position) =>
      ∃ resolution ∈ camera.capture.resolution,
        Configurable platform (getDevicePosition position) resolution
  | .changeResolution (some resolution) =>
      ∃ device ∈ camera.capture.captureDevice, Fits platform device resolution
  | _ => True

instance (platform : Platform Device) (camera : WebSocketCamera Device Data) :
    (request : Request) → Decidable (SafeRequest platform camera request)
  | .configure (some _) (some _) => inferInstanceAs (Decidable (_ → _))
  | .needFrame => inferInstanceAs (Decidable (_ → ∀ _ ∈ camera.resolution, ∀ _ ∈ camera.position, _))
  | .changePosition (some _) => inferInstanceAs (Decidable (∃ _ ∈ camera.capture.resolution, _))
  | .changeResolution (some _) =>
      inferInstanceAs (Decidable (∃ _ ∈ camera.capture.captureDevice, _))
  | .configure none _ | .configure (some _) none | .changePosition none | .changeResolution none
  | .ping | .stop | .getConfiguration | .capturePhoto => inferInstanceAs (Decidable True)

theorem start_isSome_iff (platform : Platform Device) (camera : WebSocketCamera Device Data)
    (resolution position : String) :
    (camera.start platform resolution position).isSome = true ↔
      (camera.initied = false →
        Configurable platform (getDevicePosition position) resolution) := by
  have begun := AVRecorder.start_isSome_iff platform camera.capture resolution position
  cases started : camera.initied with
  | true => simp [WebSocketCamera.start, started]
  | false =>
      simp only [WebSocketCamera.start, started, Bool.false_eq_true, if_false, forall_const]
      rw [← begun]
      cases camera.capture.start platform resolution position <;> rfl

private theorem onNeedFrame_isSome_iff (platform : Platform Device) (now : ℚ)
    (camera : WebSocketCamera Device Data) :
    (camera.onNeedFrame platform now).isSome = true ↔
      SafeRequest platform camera .needFrame := by
  simp only [SafeRequest]
  unfold WebSocketCamera.onNeedFrame
  split
  · rename_i resolution position stopped atResolution atPosition
    have begun := start_isSome_iff platform camera resolution position
    rw [Option.isSome_map, begun, atResolution, atPosition]
    simp
  · rename_i running
    constructor
    · intro _ stopped resolution atResolution position atPosition
      exact absurd atPosition (running resolution position stopped atResolution)
    · intro _
      split <;> rfl

theorem serve_isSome_iff (platform : Platform Device) (now : ℚ)
    (camera : WebSocketCamera Device Data) (request : Request) :
    (serve platform now camera request).isSome = true ↔ SafeRequest platform camera request := by
  cases request with
  | ping => simp [serve, SafeRequest]
  | stop => simp [serve, SafeRequest]
  | getConfiguration => simp [serve, SafeRequest]
  | capturePhoto => simp [serve, SafeRequest]
  | needFrame =>
      rw [serve, Option.isSome_map]
      exact onNeedFrame_isSome_iff platform now camera
  | configure resolution position =>
      cases resolution with
      | none => simp [serve, SafeRequest]
      | some resolution =>
          cases position with
          | none => simp [serve, SafeRequest]
          | some position =>
              rw [serve, Option.isSome_map]
              exact start_isSome_iff platform camera resolution position
  | changePosition position =>
      cases position with
      | none => simp [serve, SafeRequest]
      | some position =>
          have changed := AVRecorder.changePosition_isSome_iff platform camera.capture position
          rw [serve, Option.isSome_map, WebSocketCamera.changePosition]
          simp only [SafeRequest]
          rw [← changed, WebSocketCamera.clear]
          cases camera.capture.changePosition platform position <;> rfl
  | changeResolution resolution =>
      cases resolution with
      | none => simp [serve, SafeRequest]
      | some resolution =>
          have changed := AVRecorder.setResolution_isSome_iff platform camera.capture resolution
          rw [serve, Option.isSome_map, WebSocketCamera.changeResolution]
          simp only [SafeRequest]
          rw [← changed, WebSocketCamera.clear]
          cases camera.capture.setResolution platform resolution <;> rfl

/-! ### Every run -/

inductive Label (Data : Type)
  | message (now : ℚ) (message : String) (data : Option Json)
  | onBuffer (now : ℚ) (yData uvData : Data)
  | clearFrameData
  | activityTimeout

/-- Messages come in any order, with any name and any data. -/
def step (platform : Platform Device) (camera : WebSocketCamera Device Data) :
    Label Data → Option (WebSocketCamera Device Data)
  | .message now message data =>
      (processMessage (registered platform now) camera message data).map fun processed =>
        processed.camera camera
  | .onBuffer now yData uvData => some (camera.onBuffer now yData uvData).1
  | .clearFrameData => some camera.clearFrameData
  | .activityTimeout => some camera.stop

def machine (platform : Platform Device) :
    Machine (WebSocketCamera Device Data) (Label Data) :=
  { initial := fun camera => ∃ now, camera = .init now
    step := step platform }

def Safe (platform : Platform Device) (camera : WebSocketCamera Device Data) :
    Label Data → Prop
  | .message _ message data =>
      ∀ request ∈ readRequest message data, SafeRequest platform camera request
  | _ => True

private theorem step_isSome_iff (platform : Platform Device) (camera : WebSocketCamera Device Data)
    (label : Label Data) :
    (step platform camera label).isSome = true ↔ Safe platform camera label := by
  cases label with
  | message now message data =>
      rw [step, Option.isSome_map, processMessage_registered, Safe]
      cases readRequest message data with
      | none => simp
      | some request =>
          simp only [Option.mem_def, Option.some.injEq, forall_eq']
          exact serve_isSome_iff platform now camera request
  | onBuffer now yData uvData => simp [step, Safe]
  | clearFrameData => simp [step, Safe]
  | activityTimeout => simp [step, Safe]

/-- The run comes to its end: no step unwraps nil. -/
def Untrapped (platform : Platform Device) (now : ℚ) (labels : List (Label Data)) : Prop :=
  ((machine platform).run (.init now) labels).isSome = true

/-- A run traps at the first request that the camera or the device is not fit for,
and not without one. -/
theorem untrapped_iff_safe (platform : Platform Device) (now : ℚ) (labels : List (Label Data)) :
    Untrapped platform now labels ↔
      ∀ before label rest, labels = before ++ label :: rest →
        ∀ camera, (machine platform).run (.init now) before = some camera →
          Safe platform camera label := by
  rw [Untrapped, Machine.run_isSome_iff]
  constructor
  · intro enabled before label rest split camera reached
    exact (step_isSome_iff platform camera label).mp (enabled before label rest split camera reached)
  · intro safe before label rest split camera reached
    exact (step_isSome_iff platform camera label).mpr (safe before label rest split camera reached)

/-- Without a camera in use, a change of resolution unwraps `captureDevice`. -/
theorem not_untrapped_of_earlyChange :
    ¬∀ labels : List (Label Nat), Untrapped Platform.twoSided 0 labels := by
  intro always
  have ended : ((machine Platform.twoSided).run (.init 0)
      [.message 0 "change-resolution" (some (.string "1280x720"))]).isSome = true :=
    always ([.message 0 "change-resolution" (some (.string "1280x720"))] : List (Label Nat))
  revert ended
  decide

end ForcedUnwraps
end WebSockerController

end JSCameraKit

import Mathlib.Data.Rat.Defs
import Mathlib.Algebra.Order.Ring.Rat
import JSCameraKit.AVRecorder.Recorder

set_option autoImplicit false

/-! `WebSocketCamera`: the frame it holds, the send lock and the handlers of its
requests. Each function returns the camera and what it hands to the web socket;
`cancelAllWrites` of `clear` is left to the caller. -/

namespace JSCameraKit

/-- The times are those of `CACurrentMediaTime`, in seconds. -/
structure WebSocketCamera (Device Data : Type) where
  capture : AVRecorder Device
  /-- The enters of `sendGroup` not yet left. -/
  sendGroup : Nat
  yBuffer : Option Data
  uvBuffer : Option Data
  initied : Bool
  needFrame : Bool
  sending : Bool
  lastFrame : ℚ
  resolution : Option String
  position : Option String

structure CaptureInfos where
  width : Nat
  height : Nat
  mirrored : Bool
  rotated : Bool
  deriving DecidableEq

namespace WebSocketCamera

variable {Device Data : Type}

def init (now : ℚ) : WebSocketCamera Device Data :=
  { capture := AVRecorder.init
    sendGroup := 0
    yBuffer := none
    uvBuffer := none
    initied := false
    needFrame := false
    sending := false
    lastFrame := now
    resolution := none
    position := none }

def getCaptureInfos (platform : Platform Device) (camera : WebSocketCamera Device Data) :
    CaptureInfos :=
  { width := camera.capture.width
    height := camera.capture.height
    mirrored := camera.capture.isMirrored platform
    rotated := camera.capture.isRotated }

/-- The buffers that `clear` drops once it has canceled the writes. -/
def clear (camera : WebSocketCamera Device Data) : WebSocketCamera Device Data :=
  { camera with needFrame := false, yBuffer := none, uvBuffer := none }

def stop (camera : WebSocketCamera Device Data) : WebSocketCamera Device Data :=
  { camera with initied := false, capture := camera.capture.stop }

def start (platform : Platform Device) (camera : WebSocketCamera Device Data)
    (resolution position : String) : Option (WebSocketCamera Device Data) :=
  if camera.initied then some camera
  else do
    let capture ← camera.capture.start platform resolution position
    some
      { camera with
        resolution := some resolution
        position := some position
        initied := true
        capture := capture }

/-- The send lock is given up one second after the frame that took it. -/
def invalidateSending (camera : WebSocketCamera Device Data) (now : ℚ) :
    WebSocketCamera Device Data :=
  if camera.sending = true ∧ 1 ≤ now - camera.lastFrame then { camera with sending := false }
  else camera

/-- The planes of the frame to broadcast, if one is started. -/
def writeFrame (camera : WebSocketCamera Device Data) (now : ℚ) :
    WebSocketCamera Device Data × Option (Data × Data) :=
  let camera := camera.invalidateSending now
  if camera.initied = true ∧ camera.sending = false then
    match camera.yBuffer, camera.uvBuffer with
    | some y, some uv =>
        ({ camera with
            sending := true
            lastFrame := now
            needFrame := false
            sendGroup := camera.sendGroup + 2 }, some (y, uv))
    | _, _ => (camera, none)
  else (camera, none)

def clearFrameData (camera : WebSocketCamera Device Data) : WebSocketCamera Device Data :=
  { camera with yBuffer := none, uvBuffer := none, needFrame := false, sending := false }

/-- The completion block of each of the two writes of a frame. -/
def leaveSendGroup (camera : WebSocketCamera Device Data) : WebSocketCamera Device Data :=
  { camera with sendGroup := camera.sendGroup - 1 }

/-- The planes that `onBuffer` copies before it reads `needFrame`. -/
def setBuffers (camera : WebSocketCamera Device Data) (yData uvData : Data) :
    WebSocketCamera Device Data :=
  { camera with yBuffer := some yData, uvBuffer := some uvData }

def onBuffer (camera : WebSocketCamera Device Data) (now : ℚ) (yData uvData : Data) :
    WebSocketCamera Device Data × Option (Data × Data) :=
  if camera.needFrame = true then (camera.setBuffers yData uvData).writeFrame now
  else (camera.setBuffers yData uvData, none)

/-- The handler of `need-frame`, up to its response. -/
def onNeedFrame (platform : Platform Device) (camera : WebSocketCamera Device Data) (now : ℚ) :
    Option (WebSocketCamera Device Data × Option (Data × Data)) :=
  match camera.initied, camera.resolution, camera.position with
  | false, some resolution, some position =>
      (camera.start platform resolution position).map fun camera => (camera, none)
  | _, _, _ =>
      if camera.yBuffer.isSome = true ∧ camera.uvBuffer.isSome = true then
        some (camera.writeFrame now)
      else some ({ camera with needFrame := true }, none)

/-- The handler of `change-position` after its `clear`. -/
def changePosition (platform : Platform Device) (camera : WebSocketCamera Device Data)
    (position : String) : Option (WebSocketCamera Device Data) := do
  let capture ← camera.capture.changePosition platform position
  some { camera with capture := capture }

/-- The handler of `change-resolution` after its `clear`. -/
def changeResolution (platform : Platform Device) (camera : WebSocketCamera Device Data)
    (resolution : String) : Option (WebSocketCamera Device Data) := do
  let capture ← camera.capture.setResolution platform resolution
  some { camera with capture := capture }

/-! ### What each function does -/

theorem invalidateSending_cases (camera : WebSocketCamera Device Data) (now : ℚ) :
    camera.invalidateSending now = camera ∨
      (1 ≤ now - camera.lastFrame ∧
        camera.invalidateSending now = { camera with sending := false }) := by
  unfold invalidateSending
  split
  · rename_i expired
    exact .inr ⟨expired.2, rfl⟩
  · exact .inl rfl

def HoldsFrame (camera : WebSocketCamera Device Data) : Prop :=
  camera.yBuffer.isSome = true ∧ camera.uvBuffer.isSome = true

instance (camera : WebSocketCamera Device Data) : Decidable camera.HoldsFrame :=
  inferInstanceAs (Decidable (_ ∧ _))

/-- The guards of `writeFrame` let it start a frame. -/
def Ready (camera : WebSocketCamera Device Data) (now : ℚ) : Prop :=
  camera.initied = true ∧ (camera.sending = false ∨ 1 ≤ now - camera.lastFrame) ∧
    camera.HoldsFrame

instance (camera : WebSocketCamera Device Data) (now : ℚ) : Decidable (camera.Ready now) :=
  inferInstanceAs (Decidable (_ ∧ (_ ∨ _) ∧ _))

theorem invalidateSending_free (camera : WebSocketCamera Device Data) (now : ℚ) :
    (camera.invalidateSending now).sending = false ↔
      camera.sending = false ∨ 1 ≤ now - camera.lastFrame := by
  unfold invalidateSending
  split
  · rename_i expired
    simp [expired.2]
  · rename_i kept
    constructor
    · exact .inl
    · rintro (free | expired)
      · exact free
      · simpa [expired] using kept

/-- `writeFrame` starts a frame with the planes it holds, taking the lock, or writes
nothing and at most gives the lock up. -/
theorem writeFrame_cases (camera : WebSocketCamera Device Data) (now : ℚ) :
    (camera.Ready now ∧ ∃ y uv, camera.yBuffer = some y ∧ camera.uvBuffer = some uv ∧
        camera.writeFrame now =
          ({ camera with
              sending := true
              lastFrame := now
              needFrame := false
              sendGroup := camera.sendGroup + 2 }, some (y, uv))) ∨
      (¬camera.Ready now ∧
        (camera.writeFrame now = (camera, none) ∨
          (1 ≤ now - camera.lastFrame ∧
            camera.writeFrame now = ({ camera with sending := false }, none)))) := by
  have free := camera.invalidateSending_free now
  have same := camera.invalidateSending_cases now
  by_cases ready : camera.Ready now
  · obtain ⟨started, opened, hasY, hasUv⟩ := ready
    obtain ⟨y, atY⟩ := Option.isSome_iff_exists.mp hasY
    obtain ⟨uv, atUv⟩ := Option.isSome_iff_exists.mp hasUv
    refine .inl ⟨⟨started, opened, hasY, hasUv⟩, y, uv, atY, atUv, ?_⟩
    have unlocked := free.mpr opened
    rcases same with same | ⟨_, same⟩ <;> rw [same] at unlocked
    · simp only [writeFrame, same, started, unlocked, atY, atUv, and_self, if_true]
    · simp only [writeFrame, same, started, atY, atUv, and_self, if_true]
  · refine .inr ⟨ready, ?_⟩
    have nothing : camera.writeFrame now = (camera.invalidateSending now, none) := by
      unfold writeFrame
      dsimp only
      split
      · rename_i guards
        split
        · rename_i y uv atY atUv
          refine absurd ⟨?_, free.mp guards.2, ?_, ?_⟩ ready
          · rcases same with same | ⟨_, same⟩ <;> simpa [same] using guards.1
          · rcases same with same | ⟨_, same⟩ <;> simp_all
          · rcases same with same | ⟨_, same⟩ <;> simp_all
        · rfl
      · rfl
    rw [nothing]
    rcases same with same | ⟨expired, same⟩
    · exact .inl (by rw [same])
    · exact .inr ⟨expired, by rw [same]⟩

theorem writeFrame_capture (camera : WebSocketCamera Device Data) (now : ℚ) :
    (camera.writeFrame now).1.capture = camera.capture ∧
      (camera.writeFrame now).1.resolution = camera.resolution ∧
      (camera.writeFrame now).1.position = camera.position := by
  rcases camera.writeFrame_cases now with
    ⟨_, y, uv, _, _, outcome⟩ | ⟨_, outcome | ⟨_, outcome⟩⟩ <;> simp [outcome]

theorem start_spec {platform : Platform Device} {camera next : WebSocketCamera Device Data}
    {resolution position : String}
    (taken : camera.start platform resolution position = some next) :
    (camera.initied = true ∧ next = camera) ∨
      (camera.initied = false ∧ ∃ capture,
        camera.capture.start platform resolution position = some capture ∧
        next =
          { camera with
            resolution := some resolution
            position := some position
            initied := true
            capture := capture }) := by
  unfold start at taken
  split at taken
  · rename_i started
    cases taken
    exact .inl ⟨started, rfl⟩
  · rename_i stopped
    obtain ⟨capture, begun, taken⟩ := Option.bind_eq_some_iff.mp taken
    cases taken
    exact .inr ⟨by simpa using stopped, capture, begun, rfl⟩

/-- `need-frame` restarts a camera that stopped after it was configured. -/
def Restarts (camera : WebSocketCamera Device Data) : Prop :=
  camera.initied = false ∧ camera.resolution.isSome = true ∧ camera.position.isSome = true

instance (camera : WebSocketCamera Device Data) : Decidable camera.Restarts :=
  inferInstanceAs (Decidable (_ ∧ _ ∧ _))

/-- `need-frame` restarts a stopped camera, writes the frame it holds, or asks for one. -/
theorem onNeedFrame_cases {platform : Platform Device} {camera next : WebSocketCamera Device Data}
    {now : ℚ} {written : Option (Data × Data)}
    (taken : camera.onNeedFrame platform now = some (next, written)) :
    (∃ resolution position, camera.initied = false ∧ camera.resolution = some resolution ∧
        camera.position = some position ∧
        camera.start platform resolution position = some next ∧ written = none) ∨
      (¬camera.Restarts ∧ camera.HoldsFrame ∧ (next, written) = camera.writeFrame now) ∨
      (¬camera.Restarts ∧ ¬camera.HoldsFrame ∧ next = { camera with needFrame := true } ∧
        written = none) := by
  unfold onNeedFrame at taken
  split at taken
  · rename_i resolution position stopped atResolution atPosition
    obtain ⟨started, begun, same⟩ := Option.map_eq_some_iff.mp taken
    cases same
    exact .inl ⟨resolution, position, stopped, atResolution, atPosition, begun, rfl⟩
  · rename_i running
    have notRestarts : ¬camera.Restarts := by
      rintro ⟨stopped, hasResolution, hasPosition⟩
      obtain ⟨resolution, atResolution⟩ := Option.isSome_iff_exists.mp hasResolution
      obtain ⟨position, atPosition⟩ := Option.isSome_iff_exists.mp hasPosition
      exact running resolution position stopped atResolution atPosition
    split at taken
    · rename_i holds
      exact .inr (.inl ⟨notRestarts, holds, (Option.some.inj taken).symm⟩)
    · rename_i empty
      cases taken
      exact .inr (.inr ⟨notRestarts, empty, rfl, rfl⟩)

end WebSocketCamera

end JSCameraKit

import JSCameraKit.Browser.Camera
import JSCameraKit.WebSocketServer.SendBuffer

set_option autoImplicit false

/-! The planes of a frame on their way as bytes: each behind a head of one byte in a message
of the server, and taken from it by the listener for `binary-message`. -/

namespace JSCameraKit
namespace Browser

/-- The planes that `Camera` keeps, as bytes, and the calls of `uploadTextures`, which find a
rendering context. -/
structure PlaneBuffers where
  yBuffer : Option (List UInt8)
  uvBuffer : Option (List UInt8)
  uploads : List (List UInt8 × List UInt8)
  deriving DecidableEq

namespace PlaneBuffers

def uploadTextures (buffers : PlaneBuffers) : PlaneBuffers :=
  match buffers.yBuffer, buffers.uvBuffer with
  | some y, some uv =>
      { yBuffer := none, uvBuffer := none, uploads := buffers.uploads ++ [(y, uv)] }
  | _, _ => buffers

/-- A message of another type, or an empty one, is an exception. -/
def onBinaryMessage (buffers : PlaneBuffers) (data : List UInt8) : Option PlaneBuffers :=
  match data[0]? with
  | none => none
  | some type =>
      if type = 0 then some (uploadTextures { buffers with yBuffer := some (data.drop 1) })
      else if type = 1 then some (uploadTextures { buffers with uvBuffer := some (data.drop 1) })
      else none

/-- What a camera holds, where each plane has its bytes. -/
def ofCamera (bytes : Plane → List UInt8) (camera : Camera) : PlaneBuffers :=
  { yBuffer := camera.yBuffer.map bytes
    uvBuffer := camera.uvBuffer.map bytes
    uploads := camera.uploads.map fun upload => (bytes upload.y, bytes upload.uv) }

private theorem ofCamera_uploadTextures (bytes : Plane → List UInt8) (camera : Camera)
    (draws : camera.gl = true) :
    ofCamera bytes camera.uploadTextures = (ofCamera bytes camera).uploadTextures := by
  obtain ⟨requestID, listeners, yBuffer, uvBuffer, gl, prog, scene, uploads, resolved⟩ := camera
  change gl = true at draws
  subst draws
  cases yBuffer with
  | none => rfl
  | some y =>
      cases uvBuffer with
      | none => rfl
      | some uv =>
          simp [ofCamera, uploadTextures, Camera.uploadTextures]

theorem onBinaryMessage_ofCamera (bytes : Plane → List UInt8) {camera : Camera}
    (draws : camera.gl = true) (plane : Plane) {head : UInt8} (known : head = 0 ∨ head = 1) :
    (ofCamera bytes camera).onBinaryMessage (head :: bytes plane) =
      some (ofCamera bytes (camera.onBinaryMessage head.toNat plane)) := by
  rcases known with rfl | rfl
  · rw [show UInt8.toNat 0 = 0 from rfl, Camera.onBinaryMessage, if_pos rfl,
      ofCamera_uploadTextures bytes { camera with yBuffer := some plane } draws]
    rfl
  · rw [show UInt8.toNat 1 = 1 from rfl, Camera.onBinaryMessage, if_neg (by decide), if_pos rfl,
      ofCamera_uploadTextures bytes { camera with uvBuffer := some plane } draws]
    rfl

theorem onBinaryMessage_planes {buffers : PlaneBuffers} (noY : buffers.yBuffer = none)
    (noUv : buffers.uvBuffer = none) (y uv : List UInt8) :
    ((buffers.onBinaryMessage (0 :: y)).bind fun held => held.onBinaryMessage (1 :: uv)) =
      some { buffers with uploads := buffers.uploads ++ [(y, uv)] } := by
  obtain ⟨yBuffer, uvBuffer, uploads⟩ := buffers
  subst noY
  subst noUv
  rfl

end PlaneBuffers
end Browser

namespace Session

open Browser (PlaneBuffers)
open Libwebsockets (encodeFrame)
open WebSocketServer.SendBuffer (State machine init writeDatas WritesAll Fits writesAll_iff_fits
  fits_of_writeDatas reachable_allocated)

/-- `writeFrame` writes the planes in two messages, the second after any other writes, and
a client that holds no plane uploads the two planes once it has both messages. -/
def RecoversPlanes (first second : State) (y uv : List UInt8) : Prop :=
  ∃ afterY afterUv, writeDatas first [[0], y] = some afterY ∧
    writeDatas second [[1], uv] = some afterUv ∧
    ∃ yMessage uvMessage,
      afterY.written = first.written ++ [encodeFrame .binaryFrame true none yMessage] ∧
      afterUv.written = second.written ++ [encodeFrame .binaryFrame true none uvMessage] ∧
      ∀ buffers : PlaneBuffers, buffers.yBuffer = none → buffers.uvBuffer = none →
        ((buffers.onBinaryMessage yMessage).bind fun held => held.onBinaryMessage uvMessage) =
          some { buffers with uploads := buffers.uploads ++ [(y, uv)] }

private theorem recoversPlanes_iff_fits {first second : State} (reached : machine.Reachable first)
    (reachedAgain : machine.Reachable second) (y uv : List UInt8) :
    RecoversPlanes first second y uv ↔ Fits [[0], y] ∧ Fits [[1], uv] := by
  constructor
  · intro ⟨_, _, yTaken, uvTaken, _⟩
    exact ⟨fits_of_writeDatas (reachable_allocated reached) yTaken,
      fits_of_writeDatas (reachable_allocated reachedAgain) uvTaken⟩
  · intro ⟨yFits, uvFits⟩
    obtain ⟨afterY, yTaken, _, yWritten⟩ := (writesAll_iff_fits reached _).mpr yFits
    obtain ⟨afterUv, uvTaken, _, uvWritten⟩ := (writesAll_iff_fits reachedAgain _).mpr uvFits
    refine ⟨afterY, afterUv, yTaken, uvTaken, _, _, yWritten, uvWritten, ?_⟩
    intro buffers noY noUv
    simp only [List.flatten_cons, List.flatten_nil, List.append_nil, List.singleton_append]
    exact PlaneBuffers.onBinaryMessage_planes noY noUv y uv

/-- After any history of writes: a list is sent whole, from inside the block, and the planes
of a frame are recovered, exactly as long as the sizes are those of an `int`. -/
theorem binaryPayloads_iff_fits {first second : State} (reached : machine.Reachable first)
    (reachedAgain : machine.Reachable second) :
    (∀ datas, WritesAll first datas ↔ Fits datas) ∧
      ∀ y uv, RecoversPlanes first second y uv ↔ Fits [[0], y] ∧ Fits [[1], uv] :=
  ⟨writesAll_iff_fits reached, recoversPlanes_iff_fits reached reachedAgain⟩

/-- The planes find a block of an earlier message: the first has it allocated again, and the
second has room in it. -/
theorem binaryPayloads_of_smallPlanes :
    ∃ first second, machine.run init [[[0], [16]]] = some first ∧
      machine.run init [[[0], [16]], [[0], [16, 17, 18, 19]]] = some second ∧
      first.sendBufferLength < second.sendBufferLength ∧
      WritesAll first [[0], [16, 17, 18, 19]] ∧
      RecoversPlanes first second [16, 17, 18, 19] [128, 128] := by
  have exact := binaryPayloads_iff_fits (.run [[[0], [16]]] (.initial rfl) rfl)
    (.run [[[0], [16]], [[0], [16, 17, 18, 19]]] (.initial rfl) rfl)
  exact ⟨_, _, rfl, rfl, by decide, (exact.1 _).mpr (by decide),
    (exact.2 _ _).mpr ⟨by decide, by decide⟩⟩

private theorem not_writesAll_of_large {length : Nat}
    (large : 2 ^ 31 ≤ Libwebsockets.lwsPre + length) :
    ¬WritesAll init [List.replicate length 0] := by
  intro ⟨next, taken, _⟩
  have fits := fits_of_writeDatas (reachable_allocated (.initial rfl)) taken
  rw [Fits, List.flatten_cons, List.flatten_nil, List.append_nil, List.length_replicate] at fits
  exact Nat.lt_irrefl _ (Nat.lt_of_le_of_lt large fits)

/-- With the padding, 2147483632 bytes are one more than an `int` counts. -/
theorem not_writesAll_of_overflow : ¬WritesAll init [List.replicate 2147483632 0] :=
  not_writesAll_of_large (by decide)

end Session
end JSCameraKit

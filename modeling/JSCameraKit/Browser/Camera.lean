import Mathlib.Data.List.Nodup
import JSCameraKit.Library.ForEach
import JSCameraKit.WebSocketController.Handlers

set_option autoImplicit false

/-! The browser: the promises of its `WebSocketController`, the planes its `Camera`
keeps and the size of its `WebGLYUVScene`. The calls of `uploadTextures` and the
values of resolved promises are logged. The socket opens with the camera, so responses and
planes can come before `setCanvas`. -/

namespace JSCameraKit
namespace Browser

/-- The listener for the response to a request, and whether `configureGL` is called
with what it brings. -/
structure Listener where
  id : Nat
  configures : Bool
  deriving DecidableEq

structure WebGLYUVScene where
  rotated : Bool
  width : Nat
  height : Nat
  deriving DecidableEq

structure Upload where
  scene : Option WebGLYUVScene
  y : Plane
  uv : Plane
  deriving DecidableEq

structure Resolved where
  id : Nat
  data : Reply
  deriving DecidableEq

/-- A scene whose size was never set, or set from a response without a size, is `none`. -/
structure Camera where
  requestID : Nat
  listeners : List Listener
  yBuffer : Option Plane
  uvBuffer : Option Plane
  /-- The scene has the rendering context of a canvas. -/
  gl : Bool
  /-- The program of the scene is built. -/
  prog : Bool
  scene : Option WebGLYUVScene
  uploads : List Upload
  resolved : List Resolved

def Camera.init : Camera :=
  { requestID := 0
    listeners := []
    yBuffer := none
    uvBuffer := none
    gl := false
    prog := false
    scene := none
    uploads := []
    resolved := [] }

/-- `configure`, `changePosition` and `changeResolution` await the response for it. -/
def configures : Request → Bool
  | .configure _ _ | .changePosition _ | .changeResolution _ => true
  | _ => false

/-! ### The controller -/

/-- `emit` of a response: the listeners left and those that it resolves. A listener
that resolves removes itself, so the walk misses the one behind it. -/
def emit (id : Nat) : List Listener → List Listener × List Listener
  | [] => ([], [])
  | [listener] => if id = listener.id then ([], [listener]) else ([listener], [])
  | listener :: next :: rest =>
      if id = listener.id then
        let later := emit id rest
        (next :: later.1, listener :: later.2)
      else
        let later := emit id (next :: rest)
        (listener :: later.1, later.2)

/-- `request` numbers the request and waits for the response. -/
def Camera.request (camera : Camera) (request : Request) : Camera :=
  { camera with
    requestID := camera.requestID + 1
    listeners := camera.listeners ++
      [{ id := camera.requestID, configures := configures request }] }

/-! ### The scene -/

def WebGLYUVScene.setSize (width height : Nat) (rotated : Bool) : WebGLYUVScene :=
  if rotated then { rotated := rotated, width := height, height := width }
  else { rotated := rotated, width := width, height := height }

/-- The size `uploadTextures` gives the Y texture; that of the UV texture is half of it. -/
def WebGLYUVScene.textureSize (scene : WebGLYUVScene) : Nat × Nat :=
  if scene.rotated then (scene.height, scene.width) else (scene.width, scene.height)

/-- Turning the scene and turning its textures back cancel out. -/
@[simp] theorem textureSize_setSize (width height : Nat) (rotated : Bool) :
    (WebGLYUVScene.setSize width height rotated).textureSize = (width, height) := by
  cases rotated <;> rfl

@[simp] theorem setSize_textureSize (scene : WebGLYUVScene) :
    .setSize scene.textureSize.1 scene.textureSize.2 scene.rotated = scene := by
  obtain ⟨rotated, width, height⟩ := scene
  cases rotated <;> rfl

/-- `setCanvas`, with whether `getContext` gives a context and `GLProgram` builds with it. A
program that is built is kept. -/
def Camera.setCanvas (camera : Camera) (gl builds : Bool) : Camera :=
  { camera with gl := gl, prog := camera.prog || (gl && builds) }

/-- A response without `width` and `height` leaves the scene without a size. -/
def configureGL : Reply → Option WebGLYUVScene
  | .infos infos => some (.setSize infos.width infos.height infos.rotated)
  | .string _ => none

/-! ### The messages -/

/-- A promise resolves; a request that configures goes on with `configureGL`, where `setSize`
raises an exception before it does anything if there is no program. -/
def Camera.resolve (data : Reply) (camera : Camera) (listener : Listener) : Camera :=
  { camera with
    resolved := camera.resolved ++ [{ id := listener.id, data := data }]
    scene := if listener.configures && camera.prog then configureGL data else camera.scene }

def Camera.onJsonMessage (camera : Camera) (id : Nat) (data : Reply) : Camera :=
  let emitted := emit id camera.listeners
  emitted.2.foldl (Camera.resolve data) { camera with listeners := emitted.1 }

/-- `uploadTextures` is called as soon as both planes are there. They are dropped behind it,
but without a rendering context it raises an exception. -/
def Camera.uploadTextures (camera : Camera) : Camera :=
  match camera.yBuffer, camera.uvBuffer with
  | some y, some uv =>
      { camera with
        uploads := camera.uploads ++ [{ scene := camera.scene, y := y, uv := uv }]
        yBuffer := if camera.gl then none else some y
        uvBuffer := if camera.gl then none else some uv }
  | _, _ => camera

/-- Any other head raises an exception, before the planes are looked at. -/
def Camera.onBinaryMessage (camera : Camera) (head : Nat) (plane : Plane) : Camera :=
  if head = 0 then { camera with yBuffer := some plane }.uploadTextures
  else if head = 1 then { camera with uvBuffer := some plane }.uploadTextures
  else camera

def Camera.onMessage {Client : Type} (camera : Camera) : Message Client → Camera
  | .json origin data => camera.onJsonMessage origin.id data
  | .binary head plane => camera.onBinaryMessage head plane

/-- The message does not complete a pair of planes, or finds the context to upload them. -/
def Camera.CanUpload {Client : Type} (camera : Camera) : Message Client → Prop
  | .json _ _ => True
  | .binary head _ =>
      (head = 0 ∧ camera.uvBuffer.isSome = true ∨ head = 1 ∧ camera.yBuffer.isSome = true) →
        camera.gl = true

instance {Client : Type} (camera : Camera) :
    ∀ message : Message Client, Decidable (camera.CanUpload message)
  | .json _ _ => inferInstanceAs (Decidable True)
  | .binary _ _ => inferInstanceAs (Decidable (_ → _))

/-- The message is no response that sizes the scene, or finds the program to size it with. -/
def Camera.CanSize {Client : Type} (camera : Camera) : Message Client → Prop
  | .json origin _ => { id := origin.id, configures := true } ∈ camera.listeners →
      camera.prog = true
  | .binary _ _ => True

instance {Client : Type} (camera : Camera) :
    ∀ message : Message Client, Decidable (camera.CanSize message)
  | .json _ _ => inferInstanceAs (Decidable (_ → _))
  | .binary _ _ => inferInstanceAs (Decidable True)

/-! ### What each message does -/

private theorem emit_eq_walk (id : Nat) (listeners : List Listener) :
    emit id listeners = ForEach.walk (fun listener => id = listener.id) listeners := by
  induction listeners using emit.induct id with
  | case1 => rfl
  | case2 listener same => simp [emit, ForEach.walk, same]
  | case3 listener different => simp [emit, ForEach.walk, different]
  | case4 listener next rest same ih =>
      subst same
      simp [emit, ForEach.walk, ih]
  | case5 listener next rest different ih => simp [emit, ForEach.walk, different, ih]

/-- The numbers awaited are distinct, so the walk misses no listener that it should call. -/
theorem emit_nodup {id : Nat} {listeners : List Listener}
    (distinct : (listeners.map Listener.id).Nodup) :
    emit id listeners =
      (listeners.filter (fun listener => listener.id ≠ id),
        listeners.filter fun listener => listener.id = id) := by
  have turned : (fun listener : Listener => decide (id = listener.id)) =
      fun listener => decide (listener.id = id) := by
    funext listener
    exact decide_eq_decide.mpr eq_comm
  have atMostOne : (listeners.filter fun listener => listener.id = id).length ≤ 1 := by
    have count := List.nodup_iff_count_le_one.mp distinct id
    rw [List.count_eq_length_filter, List.filter_map, List.length_map] at count
    exact count
  rw [emit_eq_walk, turned, ForEach.walk_eq_filter _ _ atMostOne]
  simp only [decide_not, ne_eq]

theorem foldl_resolve (data : Reply) (camera : Camera) (called : List Listener) :
    called.foldl (Camera.resolve data) camera =
      { camera with
        resolved := camera.resolved ++ called.map fun listener => { id := listener.id, data := data }
        scene :=
          if called.any Listener.configures && camera.prog then configureGL data
          else camera.scene } := by
  induction called generalizing camera with
  | nil => simp
  | cons listener rest ih =>
      rw [List.foldl_cons, ih]
      cases configured : listener.configures <;> cases built : camera.prog <;>
        simp [Camera.resolve, configured, built]

/-- A response resolves the promises that wait for its number, and leaves the planes. -/
theorem onJsonMessage_spec {camera : Camera} (distinct : (camera.listeners.map Listener.id).Nodup)
    (id : Nat) (data : Reply) :
    camera.onJsonMessage id data =
      { camera with
        listeners := camera.listeners.filter fun listener => listener.id ≠ id
        resolved := camera.resolved ++
          (camera.listeners.filter fun listener => listener.id = id).map
            fun listener => { id := listener.id, data := data }
        scene :=
          if (camera.listeners.filter fun listener => listener.id = id).any Listener.configures &&
              camera.prog
          then configureGL data else camera.scene } := by
  rw [Camera.onJsonMessage, foldl_resolve, emit_nodup distinct]

/-- A plane waits for the other one, or is uploaded with it, and both are kept where that
fails. -/
theorem onBinaryMessage_cases (camera : Camera) (head : Nat) (plane : Plane) :
    (head = 0 ∧ camera.uvBuffer = none ∧
        camera.onBinaryMessage head plane = { camera with yBuffer := some plane }) ∨
      (head = 1 ∧ camera.yBuffer = none ∧
        camera.onBinaryMessage head plane = { camera with uvBuffer := some plane }) ∨
      (∃ y uv, (head = 0 ∧ y = plane ∧ camera.uvBuffer = some uv ∨
          head = 1 ∧ uv = plane ∧ camera.yBuffer = some y) ∧
        camera.onBinaryMessage head plane =
          { camera with
            uploads := camera.uploads ++ [{ scene := camera.scene, y := y, uv := uv }]
            yBuffer := if camera.gl then none else some y
            uvBuffer := if camera.gl then none else some uv }) ∨
      (2 ≤ head ∧ camera.onBinaryMessage head plane = camera) := by
  match head with
  | 0 =>
      cases held : camera.uvBuffer with
      | none => exact .inl ⟨rfl, rfl, by simp [Camera.onBinaryMessage, Camera.uploadTextures, held]⟩
      | some uv =>
          exact .inr (.inr (.inl ⟨plane, uv, .inl ⟨rfl, rfl, rfl⟩, by
            simp [Camera.onBinaryMessage, Camera.uploadTextures, held]⟩))
  | 1 =>
      cases held : camera.yBuffer with
      | none =>
          exact .inr (.inl ⟨rfl, rfl, by
            simp [Camera.onBinaryMessage, Camera.uploadTextures, held]⟩)
      | some y =>
          exact .inr (.inr (.inl ⟨y, plane, .inr ⟨rfl, rfl, rfl⟩, by
            simp [Camera.onBinaryMessage, Camera.uploadTextures, held]⟩))
  | _ + 2 => exact .inr (.inr (.inr ⟨by omega, rfl⟩))

/-! ### The numbers of the requests -/

/-- The numbers that a browser waits for are its own and distinct. -/
structure OwnNumbers (camera : Camera) : Prop where
  distinct : (camera.listeners.map Listener.id).Nodup
  issued : ∀ listener ∈ camera.listeners, listener.id < camera.requestID

theorem OwnNumbers.request {camera : Camera} (own : OwnNumbers camera)
    (request : Request) : OwnNumbers (camera.request request) := by
  constructor
  · simp only [Camera.request, List.map_append, List.map_cons, List.map_nil]
    refine List.nodup_append.mpr ⟨own.distinct, List.nodup_singleton _, ?_⟩
    intro id member other here
    obtain ⟨listener, inListeners, rfl⟩ := List.mem_map.mp member
    cases List.mem_singleton.mp here
    exact Nat.ne_of_lt (own.issued listener inListeners)
  · intro listener member
    rcases List.mem_append.mp member with earlier | added
    · exact Nat.lt_succ_of_lt (own.issued listener earlier)
    · cases List.mem_singleton.mp added
      exact Nat.lt_succ_self _

theorem OwnNumbers.onJsonMessage {camera : Camera} (own : OwnNumbers camera) (id : Nat)
    (data : Reply) : OwnNumbers (camera.onJsonMessage id data) := by
  rw [onJsonMessage_spec own.distinct]
  exact ⟨(List.filter_sublist.map _).nodup own.distinct,
    fun listener member => own.issued listener (List.mem_filter.mp member).1⟩

theorem OwnNumbers.setCanvas {camera : Camera} (own : OwnNumbers camera) (gl builds : Bool) :
    OwnNumbers (camera.setCanvas gl builds) :=
  ⟨own.distinct, own.issued⟩

theorem onBinaryMessage_listeners (camera : Camera) (head : Nat) (plane : Plane) :
    (camera.onBinaryMessage head plane).listeners = camera.listeners ∧
      (camera.onBinaryMessage head plane).resolved = camera.resolved ∧
      (camera.onBinaryMessage head plane).requestID = camera.requestID := by
  rcases onBinaryMessage_cases camera head plane with
    ⟨_, _, outcome⟩ | ⟨_, _, outcome⟩ | ⟨y, uv, _, outcome⟩ | ⟨_, outcome⟩ <;>
    rw [outcome] <;> exact ⟨rfl, rfl, rfl⟩

end Browser
end JSCameraKit

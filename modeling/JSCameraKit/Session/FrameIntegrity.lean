import JSCameraKit.Session.Messages

set_option autoImplicit false

/-! The two planes that a browser uploads together. The two writes of a frame walk
over the clients one after the other, so a client that connects between them gets the
second plane only, keeps it, and uploads it with the first plane of the next frame; and
a browser whose scene has no canvas keeps both planes that it fails to upload. -/

namespace JSCameraKit
namespace Session

section Planes

variable {Client : Type}

/-- The calls of `writeFrame` whose Y plane is followed by another plane: a UV plane has
to follow the Y plane of its own call. -/
def pairing : Reader (Option Nat) (Message Client) :=
  { read := fun held message =>
      match message with
      | .json _ _ => held
      | .binary 0 plane => some plane.call
      | .binary 1 _ => none
      | .binary _ _ => held
    Fits := fun held message =>
      match message with
      | .binary 1 plane => held = some plane.call
      | _ => True }

instance (held : Option Nat) : ∀ message : Message Client, Decidable (pairing.Fits held message)
  | .json _ _ => inferInstanceAs (Decidable True)
  | .binary 0 _ => inferInstanceAs (Decidable True)
  | .binary 1 plane => inferInstanceAs (Decidable (held = some plane.call))
  | .binary (_ + 2) _ => inferInstanceAs (Decidable True)

/-- The call whose Y plane the browser holds. -/
def holding (_client : Client) (camera : Browser.Camera) : Option Nat :=
  camera.yBuffer.map Plane.call

/-- A browser that reads only fitting messages holds no UV plane and uploads pairs. -/
theorem onMessage_paired {client : Client} {camera : Browser.Camera}
    (alone : camera.uvBuffer = none) {message : Message Client}
    (uploads : camera.CanUpload message)
    (fits : pairing.Fits (holding client camera) message) :
    (camera.onMessage message).uvBuffer = none ∧
      holding client (camera.onMessage message) = pairing.read (holding client camera) message ∧
      ∀ upload ∈ (camera.onMessage message).uploads,
        upload ∈ camera.uploads ∨ upload.y.call = upload.uv.call := by
  cases message with
  | json origin data =>
      rw [Browser.Camera.onMessage, Browser.Camera.onJsonMessage, Browser.foldl_resolve]
      exact ⟨alone, rfl, fun upload member => .inl member⟩
  | binary head plane =>
      rw [Browser.Camera.onMessage]
      rcases Browser.onBinaryMessage_cases camera head plane with
        ⟨rfl, _, outcome⟩ | ⟨rfl, missing, _⟩ | ⟨y, uv, held, outcome⟩ | ⟨other, outcome⟩
      · rw [outcome]
        exact ⟨alone, rfl, fun upload member => .inl member⟩
      · simp [holding, missing, pairing] at fits
      · rcases held with ⟨_, _, held⟩ | ⟨rfl, rfl, held⟩
        · rw [alone] at held
          cases held
        · have same : y.call = uv.call := by simpa [holding, held, pairing] using fits
          have draws : camera.gl = true := uploads (.inr ⟨rfl, by rw [held]; rfl⟩)
          rw [outcome, draws]
          refine ⟨rfl, rfl, ?_⟩
          intro upload member
          rcases List.mem_append.mp member with earlier | added
          · exact .inl earlier
          · cases List.mem_singleton.mp added
            exact .inr same
      · rw [outcome]
        refine ⟨alone, ?_, fun upload member => .inl member⟩
        obtain ⟨larger, rfl⟩ : ∃ larger, head = larger + 2 := ⟨head - 2, by omega⟩
        rfl

end Planes

variable {Client Wsi Device : Type} [DecidableEq Wsi] [DecidableEq Client]

/-- Every upload is of the two planes that one call of `writeFrame` wrote of one frame. -/
def Intact (state : State Client Wsi Device) : Prop :=
  ∀ client, ∀ upload ∈ (state.cameras client).uploads,
    ∃ (call : Nat) (frame : Frame), state.written[call]? = some frame ∧
      upload.y = frame.yPlane call ∧ upload.uv = frame.uvPlane call

/-- A UV plane is put on the way to a client only where it follows its own Y plane, and a
plane that completes a pair is read with a canvas. -/
abbrev Follows (state : State Client Wsi Device) (label : Label Client Wsi) : Prop :=
  Admits pairing holding state label ∧ Handles Browser.Camera.CanUpload state label

/-- What every run under the condition keeps. -/
structure Pairs (state : State Client Wsi Device) : Prop where
  tracked : Tracked state
  sourced : Sourced state
  deliverable : Deliverable pairing holding state
  alone : ∀ client, (state.cameras client).uvBuffer = none
  sameCall : ∀ client, ∀ upload ∈ (state.cameras client).uploads,
    upload.y.call = upload.uv.call

omit [DecidableEq Client] in
private theorem pairs_initial (now : ℚ) : Pairs (initial now : State Client Wsi Device) :=
  { tracked := tracked_initial now
    sourced := sourced_initial now
    deliverable := deliverable_initial now
    alone := fun _ => rfl
    sameCall := nofun }

private theorem step_pairs {platform : Platform Device} {state next : State Client Wsi Device}
    {label : Label Client Wsi} (pairs : Pairs state) (follows : Follows state label)
    (taken : step platform state label = some next) : Pairs next := by
  obtain ⟨tracked, sourced, deliverable, alone, sameCall⟩ := pairs
  obtain ⟨admits, uploads⟩ := follows
  -- what a delivery brings fits and can be uploaded
  have paired : ∀ client, label = .deliver client → ∀ socket message,
      state.sockets client = some socket →
      (WebSocketServer.Broadcast.delivered state.server
        socket.connection)[socket.consumed]? = some message →
      _ := fun client delivers socket message present arrived =>
    onMessage_paired (alone client)
      (by
        rw [delivers] at uploads
        exact uploads message (by rw [arriving, present]; exact arrived))
      (deliverable.fits present arrived)
  constructor
  · exact step_tracked tracked taken
  · exact step_sourced sourced tracked taken
  · refine deliverable.step tracked admits (fun _ _ _ => rfl) ?_ taken
    intro client delivers message arrives fits
    rw [delivers] at uploads
    exact (onMessage_paired (alone client) (uploads message arrives) fits).2.1
  · refine step_cameras (fun _ camera => camera.uvBuffer = none) alone ?_ ?_ ?_ taken
    · exact fun client _ => alone client
    · exact fun client _ _ => alone client
    · intro client delivers socket message present arrived
      exact (paired client delivers socket message present arrived).1
  · refine step_cameras (fun _ camera => ∀ upload ∈ camera.uploads,
      upload.y.call = upload.uv.call) sameCall ?_ ?_ ?_ taken
    · exact fun client _ => sameCall client
    · exact fun client _ _ => sameCall client
    · intro client delivers socket message present arrived upload member
      have pair := paired client delivers socket message present arrived
      rcases pair.2.2 upload member with earlier | same
      · exact sameCall client upload earlier
      · exact same

omit [DecidableEq Wsi] [DecidableEq Client] in
private theorem intact_of_sameCall {state : State Client Wsi Device} (sourced : Sourced state)
    (sameCall : ∀ client, ∀ upload ∈ (state.cameras client).uploads,
      upload.y.call = upload.uv.call) : Intact state := by
  intro client upload member
  obtain ⟨yGenuine, uvGenuine⟩ := (sourced.planes client).uploads upload member
  obtain ⟨frame, found, _, yPlane⟩ := yGenuine
  obtain ⟨other, otherFound, _, uvPlane⟩ := uvGenuine
  have same := sameCall client upload member
  rw [← same, found] at otherFound
  cases otherFound
  refine ⟨upload.y.call, frame, found, ?_, ?_⟩
  · simpa using yPlane
  · rw [same]
    simpa using uvPlane

theorem intact_of_follows {platform : Platform Device} {state : State Client Wsi Device}
    (reached : (machine Client Wsi platform).ReachableWhen Follows state) : Intact state := by
  have pairs : Pairs state := by
    refine reached.invariant Pairs ?_ ?_
    · rintro _ ⟨now, rfl⟩
      exact pairs_initial now
    · intro before label next _ pairs follows taken
      exact step_pairs pairs follows taken
  exact intact_of_sameCall pairs.sourced pairs.sameCall

omit [DecidableEq Client] in
/-- The condition is needed for each plane: a UV plane that does not follow its own Y
plane is uploaded with another one, at once or when the next Y plane arrives. -/
theorem mixed_of_not_follows {client : Client} {camera : Browser.Camera} {plane next : Plane}
    (later : next.call ≠ plane.call)
    (unfit : ¬pairing.Fits (holding client camera) (.binary 1 plane : Message Client)) :
    ∃ upload ∈ ((camera.onMessage (.binary 1 plane : Message Client)).onMessage
        (.binary 0 next : Message Client)).uploads,
      upload.y.call ≠ upload.uv.call := by
  cases held : camera.yBuffer with
  | none =>
      refine ⟨{ scene := camera.scene, y := next, uv := plane }, ?_, later⟩
      simp [Browser.Camera.onMessage, Browser.Camera.onBinaryMessage,
        Browser.Camera.uploadTextures, held]
  | some y =>
      refine ⟨{ scene := camera.scene, y := y, uv := plane }, ?_, ?_⟩
      · cases draws : camera.gl <;>
          simp [Browser.Camera.onMessage, Browser.Camera.onBinaryMessage,
            Browser.Camera.uploadTextures, held, draws]
      · simpa [pairing, holding, held] using unfit

omit [DecidableEq Client] in
/-- Without a canvas the planes of a pair are kept, and the next Y plane is uploaded with
the UV plane of the one before. -/
theorem mixed_of_not_canUpload {client : Client} {camera : Browser.Camera} {plane next : Plane}
    (later : next.call ≠ plane.call)
    (fits : pairing.Fits (holding client camera) (.binary 1 plane : Message Client))
    (fails : ¬camera.CanUpload (.binary 1 plane : Message Client)) :
    ∃ upload ∈ ((camera.onMessage (.binary 1 plane : Message Client)).onMessage
        (.binary 0 next : Message Client)).uploads,
      upload.y.call ≠ upload.uv.call := by
  have noCanvas : camera.gl = false := by
    by_contra draws
    exact fails fun _ => Bool.not_eq_false _ ▸ draws
  obtain ⟨y, held, _⟩ := Option.map_eq_some_iff.mp fits
  refine ⟨{ scene := camera.scene, y := next, uv := plane }, ?_, later⟩
  simp [Browser.Camera.onMessage, Browser.Camera.onBinaryMessage,
    Browser.Camera.uploadTextures, held, noCanvas]

/-! ### Runs -/

/-- A client connects and configures the camera, a frame is captured, and the client
asks for one. -/
def askedForFrame : List (Label Bool Bool) :=
  [.connect false false, .setCanvas false true true,
    .request false (.configure (some "640x480") (some "back")), .receive 0, .run 0] ++
    walk 0 5 ++ [.capture, .request false .needFrame, .receive 0, .run 1] ++ walk 1 5

def readFrame : List (Label Bool Bool) :=
  askedForFrame ++ [.onBuffer 0, .run 2] ++ walk 2 5 ++ [.run 2] ++ walk 3 5 ++
    List.replicate 4 (.writable false) ++ List.replicate 4 (.deliver false)

theorem intact_of_readFrame :
    ∃ state, (machine Bool Bool Platform.twoSided).runWhen Follows (initial 0) readFrame =
        some state ∧
      (state.cameras false).uploads.length = 1 ∧ Intact state := by
  obtain ⟨state, replayed, uploads⟩ := (Option.any_eq_true _ _).mp
    (show ((machine Bool Bool Platform.twoSided).runWhen Follows (initial 0) readFrame).any
        (fun state => decide ((state.cameras false).uploads.length = 1)) = true by
      decide +kernel)
  exact ⟨state, replayed, of_decide_eq_true uploads,
    intact_of_follows (.runWhen readFrame (.initial ⟨0, rfl⟩) replayed)⟩

/-- A second client connects between the two writes of a frame. The next frame is
captured and written to both. -/
def connectedBetween : List (Label Bool Bool) :=
  askedForFrame ++ [.onBuffer 0, .run 2] ++ walk 2 5 ++
    [.connect true true, .setCanvas true true true, .run 2] ++
    walk 3 7 ++ [.capture, .onBuffer 0, .tick 1, .request true .needFrame, .receive 0, .run 4] ++
    walk 4 7 ++ [.run 4] ++ walk 5 7 ++ [.run 4, .run 4] ++ walk 6 7 ++
    [.writable true, .writable true, .deliver true, .deliver true]

theorem not_intact_of_connectedBetween :
    ¬∀ state, (machine Bool Bool Platform.twoSided).Reachable state → Intact state := by
  intro always
  have started : (machine Bool Bool Platform.twoSided).initial (initial 0) := ⟨0, rfl⟩
  obtain ⟨state, reached, mixed⟩ := Machine.exists_reachable_of_run connectedBetween
    (fun state : State Bool Bool AVCaptureDevicePosition =>
      (state.cameras true).uploads.any fun upload =>
        decide (upload.y.call ≠ upload.uv.call)) started (by decide +kernel)
  obtain ⟨upload, member, different⟩ := List.any_eq_true.mp mixed
  obtain ⟨call, frame, _, y, uv⟩ := always state reached true upload member
  apply of_decide_eq_true different
  rw [y, uv]
  rfl

end Session
end JSCameraKit

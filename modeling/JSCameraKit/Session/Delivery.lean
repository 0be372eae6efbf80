import Mathlib.Data.Fintype.Basic
import JSCameraKit.Library.Stream
import JSCameraKit.Session.System

set_option autoImplicit false

/-! What reaches the browsers. A property of the messages that a browser handles is a
reader of its stream: it holds at every delivery if no step puts a message on the way
to a browser where it will not fit. -/

namespace JSCameraKit
namespace Session

open WebSocketServer.Broadcast
  (Socket delivered pending onItsWay Tracks Registered Numbered registered_initial
    numbered_initial step_registered step_serves onItsWay_serves socket_established)

variable {Client Wsi Device : Type} [DecidableEq Wsi] [DecidableEq Client]

/-! ### The sockets -/

/-- What every run keeps of the server and of the sockets of the browsers. -/
structure Tracked (state : State Client Wsi Device) : Prop where
  registered : Registered state.server
  numbered : Numbered state.server
  tracks : ∀ client, ∀ socket ∈ state.sockets client, Tracks state.server socket

omit [DecidableEq Wsi] [DecidableEq Client] in
theorem tracked_initial (now : ℚ) : Tracked (initial now : State Client Wsi Device) :=
  { registered := registered_initial
    numbered := numbered_initial
    tracks := nofun }

omit [DecidableEq Client] in
private theorem onItsWay_arrived {server : WebSocketServer.Broadcast.State Wsi (Message Client)}
    {socket : Socket Wsi} {message : Message Client}
    (arrived : (delivered server socket.connection)[socket.consumed]? = some message) :
    onItsWay server socket =
      message :: onItsWay server { socket with consumed := socket.consumed + 1 } := by
  obtain ⟨inRange, here⟩ := List.getElem?_eq_some_iff.mp arrived
  unfold onItsWay
  rw [List.drop_eq_getElem_cons inRange, here]
  rfl

theorem step_tracked {platform : Platform Device} {state next : State Client Wsi Device}
    {label : Label Client Wsi} (tracked : Tracked state)
    (taken : step platform state label = some next) : Tracked next := by
  obtain ⟨registered, numbered, tracks⟩ := tracked
  cases step_moves taken with
  | server _ serverLabel moved _ _ sockets =>
      have serves := step_serves registered moved
      constructor
      · exact step_registered registered moved
      · exact numbered.serves serves
      · intro client socket present
        rw [sockets] at present
        exact (tracks client socket present).serves serves
  | connect client wsi moved _ sockets =>
      have serves := step_serves registered moved
      constructor
      · exact step_registered registered moved
      · exact numbered.serves serves
      · intro other socket present
        rw [sockets, Function.update_apply] at present
        split at present
        · cases present
          exact (socket_established registered numbered moved).1
        · exact (tracks other socket present).serves serves
  | disconnect client server _ sockets =>
      rw [← server] at registered numbered tracks
      refine ⟨registered, numbered, ?_⟩
      intro other socket present
      rw [sockets, Function.update_apply] at present
      split at present
      · cases present
      · exact tracks other socket present
  | request client request server _ sockets =>
      rw [← server] at registered numbered tracks
      exact ⟨registered, numbered, sockets ▸ tracks⟩
  | setCanvas client gl builds server _ sockets =>
      rw [← server] at registered numbered tracks
      exact ⟨registered, numbered, sockets ▸ tracks⟩
  | deliver client socket message present arrived server _ sockets =>
      rw [← server] at registered numbered tracks arrived
      refine ⟨registered, numbered, ?_⟩
      intro other otherSocket otherPresent
      rw [sockets, Function.update_apply] at otherPresent
      split at otherPresent
      · cases otherPresent
        obtain ⟨known, only, consumed⟩ := tracks client socket present
        obtain ⟨inRange, _⟩ := List.getElem?_eq_some_iff.mp arrived
        exact ⟨known, only, inRange⟩
      · exact tracks other otherSocket otherPresent
  | still _ server _ sockets =>
      rw [← server] at registered numbered tracks
      exact ⟨registered, numbered, sockets ▸ tracks⟩

/-- What holds of every browser and is kept by its requests, by its canvas and by what it
reads. -/
theorem step_cameras {platform : Platform Device} {state next : State Client Wsi Device}
    {label : Label Client Wsi} (good : Client → Browser.Camera → Prop)
    (holds : ∀ client, good client (state.cameras client))
    (asks : ∀ client request, good client ((state.cameras client).request request))
    (draws : ∀ client gl builds, good client ((state.cameras client).setCanvas gl builds))
    (reads : ∀ client, label = .deliver client → ∀ socket message, state.sockets client = some socket →
      (delivered state.server socket.connection)[socket.consumed]? = some message →
      good client ((state.cameras client).onMessage message))
    (taken : step platform state label = some next) :
    ∀ client, good client (next.cameras client) := by
  intro client
  cases step_moves taken with
  | server _ _ _ _ cameras _ | connect _ _ _ cameras _ | disconnect _ _ cameras _
  | still _ _ cameras _ =>
      rw [cameras]
      exact holds client
  | request asking request _ cameras _ =>
      rw [cameras, Function.update_apply]
      split
      · rename_i same
        subst same
        exact asks client request
      · exact holds client
  | setCanvas drawing gl builds _ cameras _ =>
      rw [cameras, Function.update_apply]
      split
      · rename_i same
        subst same
        exact draws client gl builds
      · exact holds client
  | deliver reading socket message present arrived _ cameras _ =>
      rw [cameras, Function.update_apply]
      split
      · rename_i same
        subst same
        exact reads client rfl socket message present arrived
      · exact holds client

/-! ### Readers of the streams -/

section Readers

variable {View : Type} (reader : Reader View (Message Client))
  (view : Client → Browser.Camera → View)

/-- All that is on its way to a client fits when it arrives. -/
def Deliverable (state : State Client Wsi Device) : Prop :=
  ∀ client, ∀ socket ∈ state.sockets client,
    reader.Safe (view client (state.cameras client)) (onItsWay state.server socket)

/-- An entry that a step enqueues fits behind all that is on its way to the client that
reads the connection. -/
def EnqueuesFitting (state : State Client Wsi Device) (label : Label Client Wsi) : Prop :=
  ∀ entry ∈ enqueued state label, ∀ client, ∀ socket ∈ state.sockets client,
    socket.wsi = entry.1 → state.server.connections socket.wsi = some socket.connection →
      reader.Fits
        (reader.after (view client (state.cameras client)) (onItsWay state.server socket)) entry.2

/-- What a client is about to read still fits once it is connected, or has made a request. -/
def StillFitting (state : State Client Wsi Device) : Label Client Wsi → Prop
  | .connect client wsi =>
      reader.Safe (view client (state.cameras client)) (pending state.server wsi)
  | .request client request => ∀ socket ∈ state.sockets client,
      reader.Safe (view client ((state.cameras client).request request))
        (onItsWay state.server socket)
  | _ => True

/-- No step puts a message on the way to a client where it will not fit. -/
def Admits (state : State Client Wsi Device) (label : Label Client Wsi) : Prop :=
  EnqueuesFitting reader view state label ∧ StillFitting reader view state label

instance [Fintype Client] [∀ state message, Decidable (reader.Fits state message)]
    (state : State Client Wsi Device) (label : Label Client Wsi) :
    Decidable (Admits reader view state label) :=
  have : Decidable (EnqueuesFitting reader view state label) :=
    inferInstanceAs (Decidable (∀ entry ∈ enqueued state label, ∀ client,
      ∀ socket ∈ state.sockets client, _ → _ → _))
  have : Decidable (StillFitting reader view state label) :=
    match label with
    | .connect _ _ => inferInstanceAs (Decidable (reader.Safe _ _))
    | .request client _ =>
        inferInstanceAs (Decidable (∀ socket ∈ state.sockets client, reader.Safe _ _))
    | .tick _ | .disconnect _ | .closed _ | .writable _ | .advance _ | .setCanvas _ _ _
    | .receive _ | .run _ | .capture | .onBuffer _ | .photoTaken _ | .activityTimeout
    | .leaveSendGroup _ | .waitReturns | .clearFrameData | .deliver _ =>
      inferInstanceAs (Decidable True)
  inferInstanceAs (Decidable (_ ∧ _))

/-- The browser that a message is delivered to can handle it. -/
def Handles (can : Browser.Camera → Message Client → Prop) (state : State Client Wsi Device) :
    Label Client Wsi → Prop
  | .deliver client => ∀ message ∈ arriving state client, can (state.cameras client) message
  | _ => True

instance (can : Browser.Camera → Message Client → Prop)
    [∀ camera message, Decidable (can camera message)] (state : State Client Wsi Device) :
    ∀ label : Label Client Wsi, Decidable (Handles can state label)
  | .deliver client => inferInstanceAs (Decidable (∀ message ∈ arriving state client, _))
  | .tick _ | .connect _ _ | .disconnect _ | .closed _ | .writable _ | .advance _ | .request _ _
  | .setCanvas _ _ _ | .receive _ | .run _ | .capture | .onBuffer _ | .photoTaken _
  | .activityTimeout | .leaveSendGroup _ | .waitReturns | .clearFrameData =>
      inferInstanceAs (Decidable True)

variable {reader view}

omit [DecidableEq Client] in
theorem deliverable_initial (now : ℚ) :
    Deliverable reader view (initial now : State Client Wsi Device) := nofun

omit [DecidableEq Client] in
theorem Deliverable.fits {state : State Client Wsi Device}
    (deliverable : Deliverable reader view state) {client : Client} {socket : Socket Wsi}
    {message : Message Client} (present : state.sockets client = some socket)
    (arrived : (delivered state.server socket.connection)[socket.consumed]? = some message) :
    reader.Fits (view client (state.cameras client)) message := by
  have safe := deliverable client socket present
  rw [onItsWay_arrived arrived] at safe
  exact safe.1

/-- Every step that puts nothing unfit on the way keeps all that is on its way fitting,
as long as the browser does with a message what the reader does. -/
theorem Deliverable.step {platform : Platform Device} {state next : State Client Wsi Device}
    {label : Label Client Wsi} (deliverable : Deliverable reader view state)
    (tracked : Tracked state) (admits : Admits reader view state label)
    (draws : ∀ client gl builds, view client ((state.cameras client).setCanvas gl builds) =
      view client (state.cameras client))
    (reads : ∀ client, label = .deliver client → ∀ message ∈ arriving state client,
      reader.Fits (view client (state.cameras client)) message →
      view client ((state.cameras client).onMessage message) =
        reader.read (view client (state.cameras client)) message)
    (taken : step platform state label = some next) : Deliverable reader view next := by
  obtain ⟨registered, numbered, tracks⟩ := tracked
  obtain ⟨fitting, still⟩ := admits
  -- a step of the server shortens a stream or appends an entry that fits
  have served : ∀ {serverLabel server},
      WebSocketServer.Broadcast.step state.server serverLabel = some server →
      (WebSocketServer.Broadcast.enqueued state.server serverLabel = enqueued state label ∨
        WebSocketServer.Broadcast.enqueued state.server serverLabel = none) →
      ∀ client, ∀ socket ∈ state.sockets client,
        reader.Safe (view client (state.cameras client)) (onItsWay server socket) := by
    intro serverLabel server moved enqueues client socket present
    have safe := deliverable client socket present
    rcases onItsWay_serves (tracks client socket present) (step_serves registered moved) with
      shorter | ⟨message, noted, isOpen, appended⟩
    · exact safe.of_prefix shorter
    · rw [appended]
      rcases enqueues with same | nothing
      · exact safe.append_one
          (fitting (socket.wsi, message) (same ▸ noted) client socket present rfl isOpen)
      · rw [nothing] at noted
        cases noted
  intro client socket present
  cases step_moves taken with
  | server _ serverLabel moved enqueues cameras sockets =>
      rw [sockets] at present
      rw [cameras]
      exact served moved (.inl enqueues) client socket present
  | connect opened wsi moved cameras sockets =>
      rw [cameras]
      rw [sockets, Function.update_apply] at present
      split at present
      · rename_i same
        subst same
        cases present
        rw [(socket_established registered numbered moved).2]
        exact still
      · exact served moved (.inr rfl) client socket present
  | disconnect left server cameras sockets =>
      rw [sockets, Function.update_apply] at present
      split at present
      · cases present
      · rw [server, cameras]
        exact deliverable client socket present
  | request asking request server cameras sockets =>
      rw [sockets] at present
      rw [server, cameras, Function.update_apply]
      split
      · rename_i same
        subst same
        exact still socket present
      · exact deliverable client socket present
  | setCanvas drawing gl builds server cameras sockets =>
      rw [sockets] at present
      rw [server, cameras, Function.update_apply]
      split
      · rename_i same
        subst same
        rw [draws]
        exact deliverable client socket present
      · exact deliverable client socket present
  | deliver reading readSocket message readPresent arrived server cameras sockets =>
      rw [server, cameras, Function.update_apply]
      rw [sockets, Function.update_apply] at present
      split at present
      · rename_i same
        subst same
        cases present
        have safe := deliverable client readSocket readPresent
        rw [onItsWay_arrived arrived] at safe
        have brought : arriving state client = some message := by
          rw [arriving, readPresent]
          exact arrived
        rw [if_pos rfl, reads client rfl message brought safe.1]
        exact safe.2
      · rename_i different
        rw [if_neg different]
        exact deliverable client socket present
  | still _ server cameras sockets =>
      rw [sockets] at present
      rw [server, cameras]
      exact deliverable client socket present

end Readers

end Session
end JSCameraKit

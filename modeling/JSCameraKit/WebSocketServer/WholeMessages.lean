import JSCameraKit.WebSocketServer.Reception

set_option autoImplicit false

/-! When a message reaches the application whole. The parser ignores FIN and nothing behind it
joins what belongs together, so that is a matter of how the peer has split the message: all of
it has to be in one frame, and that frame has to fit the receive buffer. -/

namespace JSCameraKit
namespace WebSocketServer
namespace Reception

open Chunks (cut)
open Libwebsockets

variable {Client : Type} [DecidableEq Client] {blocks : Blocks} {state : State Client}

/-- The block for messages of its kind is set. -/
def Blocks.takes (blocks : Blocks) : Content → Prop
  | .text _ => blocks.onMessageStringBlock = true
  | .binary _ => blocks.onMessageDataBlock = true

instance (blocks : Blocks) : DecidablePred blocks.takes
  | .text _ => inferInstanceAs (Decidable (_ = true))
  | .binary _ => inferInstanceAs (Decidable (_ = true))

/-- The call that hands a message over as a whole. -/
def wholeCall : Content → Call
  | .text string => .onMessageStringBlock (some string)
  | .binary data => .onMessageDataBlock data

/-- While the server takes the bytes of the message it makes one call, with all of it. -/
def Delivered (state : State Client) (client : Client) (before : List PeerMessage)
    (message : PeerMessage) : Prop :=
  state.callsDuring client (before.flatMap PeerMessage.encode).length
    ((before.flatMap PeerMessage.encode).length + message.encode.length) =
      [wholeCall message.content]

/-! ### The calls of a message -/

private theorem flatMap_callbackWebsockets (callbacks : List Callback) :
    callbacks.flatMap (callbackWebsockets blocks) =
      (received callbacks).flatMap fun told => onSocketData blocks told.1 told.2 := by
  induction callbacks with
  | nil => rfl
  | cons callback callbacks ih =>
      have split : received (callback :: callbacks) =
          received [callback] ++ received callbacks := received_append [callback] callbacks
      rw [List.flatMap_cons, ih, split, List.flatMap_append]
      congr 1
      obtain ⟨reason, frameIsBinary, data⟩ := callback
      cases reason <;> simp [callbackWebsockets, received]

theorem Logged.filter_le {log now later : List (Nat × Call)} {length : Nat}
    {callbacks : List Callback} (logged : Logged blocks log length callbacks now later) :
    log.filter (fun entry => entry.1 ≤ length) = now := by
  rw [logged.parts, List.filter_append, List.filter_eq_self.mpr, List.filter_eq_nil_iff.mpr,
    List.append_nil]
  · intro entry listed
    have bound := logged.late entry listed
    simp only [decide_eq_true_eq]
    omega
  · intro entry listed
    exact decide_eq_true (logged.early entry listed)

private theorem calls_between {log now later nowMore laterMore : List (Nat × Call)}
    {first last : Nat}
    {callbacks others : List Callback} (ordered : first ≤ last)
    (early : Logged blocks log first callbacks now later)
    (all : Logged blocks log last (callbacks ++ others) nowMore laterMore) :
    (log.filter fun entry => first < entry.1 ∧ entry.1 ≤ last).map Prod.snd =
      others.flatMap (callbackWebsockets blocks) := by
  have upTo : nowMore = now ++ later.filter fun entry => entry.1 ≤ last := by
    rw [← all.filter_le, early.parts, List.filter_append, List.filter_eq_self.mpr]
    intro entry listed
    have bound := early.early entry listed
    simp only [decide_eq_true_eq]
    omega
  have between : (log.filter fun entry => first < entry.1 ∧ entry.1 ≤ last) =
      later.filter fun entry => entry.1 ≤ last := by
    rw [early.parts, List.filter_append, List.filter_eq_nil_iff.mpr, List.nil_append]
    · apply List.filter_congr
      intro entry listed
      have bound := early.late entry listed
      simp [bound]
    · intro entry listed
      have bound := early.early entry listed
      simp only [decide_eq_true_eq]
      omega
  have made := all.made
  rw [upTo, List.map_append, early.made, List.flatMap_append] at made
  rw [between]
  exact List.append_cancel_left made

/-- The calls of a message are those of its frames, cut at the size of the buffer. -/
theorem callsDuring_message (reached : (machine Client blocks).Reachable state) (client : Client)
    (before : List PeerMessage) (message : PeerMessage) (after : List UInt8)
    (arrived : state.arrived client =
      before.flatMap PeerMessage.encode ++ message.encode ++ after) :
    state.callsDuring client (before.flatMap PeerMessage.encode).length
        ((before.flatMap PeerMessage.encode).length + message.encode.length) =
      (message.payloads.flatMap (cut rxBufferSize [])).flatMap
        (onSocketData blocks message.content.isBinary) := by
  have positive : 0 < rxBufferSize := by decide
  obtain ⟨callbacks, mid, binary, reads, idle⟩ :=
    reads_messages before positive Wsi.fresh_idle
  obtain ⟨others, next, readsMessage, _, told⟩ := message.reads positive idle
  have follows := follows_of_reachable reached client
  obtain ⟨now, later, early, _⟩ := follows.logged (before.flatMap PeerMessage.encode)
    (message.encode ++ after) callbacks mid (arrived.trans (List.append_assoc _ _ _)) reads
  obtain ⟨nowMore, laterMore, all, _⟩ := follows.logged
    (before.flatMap PeerMessage.encode ++ message.encode) after (callbacks ++ others) next arrived
    (reads.append readsMessage)
  rw [List.length_append] at all
  rw [State.callsDuring, calls_between (Nat.le_add_right _ _) early all,
    flatMap_callbackWebsockets, told, List.flatMap_map]

/-! ### Whole messages -/

def chunkCall (content : Content) (chunk : List UInt8) : Call :=
  match content with
  | .text _ => .onMessageStringBlock (initWithData chunk)
  | .binary _ => .onMessageDataBlock chunk

private theorem onSocketData_chunk (content : Content) (chunk : List UInt8) :
    onSocketData blocks content.isBinary chunk =
      if blocks.takes content then [chunkCall content chunk] else [] := by
  cases content with
  | text string => rfl
  | binary data => rfl

private theorem chunkCall_payload (content : Content) :
    chunkCall content content.payload = wholeCall content := by
  cases content with
  | text string =>
      have bytes : (⟨string.toByteArray.data.toList.toArray⟩ : ByteArray) =
          string.toByteArray := by
        rw [Array.toArray_toList]
      rw [chunkCall, initWithData, Content.payload, bytes, String.fromUTF8?,
        dif_pos string.isValidUTF8]
      rfl
  | binary data => rfl

/-- The chunks of a message lead to the one call exactly when its block is set and there is
one chunk. -/
theorem flatMap_onSocketData_iff (content : Content) (chunks : List (List UInt8))
    (whole : chunks.flatten = content.payload) :
    chunks.flatMap (onSocketData blocks content.isBinary) = [wholeCall content] ↔
      blocks.takes content ∧ chunks = [content.payload] := by
  have calls : chunks.flatMap (onSocketData blocks content.isBinary) =
      if blocks.takes content then chunks.map (chunkCall content) else [] := by
    rw [List.flatMap_congr fun chunk _ => onSocketData_chunk content chunk]
    split
    · exact List.map_eq_flatMap.symm
    · exact List.flatMap_eq_nil_iff.mpr fun _ _ => rfl
  rw [calls]
  constructor
  · intro one
    split at one
    · rename_i takes
      obtain ⟨chunk, single, _⟩ := List.map_eq_singleton_iff.mp one
      rw [single, List.flatten_singleton] at whole
      exact ⟨takes, single.trans (congrArg (fun chunk => [chunk]) whole)⟩
    · cases one
  · intro ⟨takes, single⟩
    rw [if_pos takes, single, List.map_singleton, chunkCall_payload]

/-- A message reaches the application whole exactly when its block is set, all of it comes in
one of its frames and that frame fits the receive buffer. -/
theorem deliveredWhole_iff (reached : (machine Client blocks).Reachable state) (client : Client)
    (before : List PeerMessage) (message : PeerMessage) (after : List UInt8)
    (arrived : state.arrived client =
      before.flatMap PeerMessage.encode ++ message.encode ++ after) :
    Delivered state client before message ↔
      blocks.takes message.content ∧ Chunks.Whole rxBufferSize message.payloads := by
  have positive : 0 < rxBufferSize := by decide
  rw [Delivered, callsDuring_message reached client before message after arrived,
    flatMap_onSocketData_iff, ← Chunks.flatMap_cut_eq_singleton_iff positive,
    message.flatten_payloads]
  rw [Chunks.flatten_flatMap_cut, message.flatten_payloads]

/-- A text message in one frame. -/
def inOneFrame : PeerMessage :=
  { content := .text "hi"
    first :=
      { controls := []
        key := some fun _ => 7
        payload := [104, 105]
        bounded := by decide }
    rest := []
    split := rfl }

/-- A text message in two frames, cut inside its only character. -/
def inTwoFrames : PeerMessage :=
  { content := .text "é"
    first :=
      { controls := []
        key := some fun _ => 7
        payload := [195]
        bounded := by decide }
    rest :=
      [{ controls := []
         key := some fun _ => 7
         payload := [169]
         bounded := by decide }]
    split := rfl }

def bothSet : Blocks :=
  { onMessageStringBlock := true
    onMessageDataBlock := true }

/-- Two clients send their messages in turns, each in two packets. -/
def inTurns : List (Label Nat) :=
  [.established 0, .established 1, .packet 0 (inOneFrame.encode.take 3),
    .packet 1 (inTwoFrames.encode.take 8), .packet 0 (inOneFrame.encode.drop 3),
    .packet 1 (inTwoFrames.encode.drop 8)]

private theorem exists_inTurns :
    ∃ state, (machine Nat bothSet).Reachable state ∧
      decide (state.arrived 0 = inOneFrame.encode ∧ state.arrived 1 = inTwoFrames.encode) =
        true :=
  Machine.exists_reachable_of_run inTurns _ rfl (by decide +kernel)

theorem delivered_of_oneFrame :
    ∃ state, (machine Nat bothSet).Reachable state ∧ state.arrived 0 = inOneFrame.encode ∧
      Delivered state 0 [] inOneFrame := by
  obtain ⟨state, reached, arrived⟩ := exists_inTurns
  have bytes := (of_decide_eq_true arrived).1
  have delivered := (deliveredWhole_iff reached 0 [] inOneFrame []
    (bytes.trans (List.append_nil _).symm)).mpr ⟨rfl, by decide⟩
  exact ⟨state, reached, bytes, delivered⟩

/-- The two halves of a character arrive as two messages that are nil. -/
theorem not_delivered_of_twoFrames :
    ¬∀ state, (machine Nat bothSet).Reachable state →
      ∀ client before message after, state.arrived client =
          before.flatMap PeerMessage.encode ++ message.encode ++ after →
        Delivered state client before message := by
  intro all
  obtain ⟨state, reached, arrived⟩ := exists_inTurns
  have bytes := ((of_decide_eq_true arrived).2).trans (List.append_nil _).symm
  have delivered := all state reached 1 [] inTwoFrames [] bytes
  rw [Delivered, callsDuring_message reached 1 [] inTwoFrames [] bytes] at delivered
  have two := congrArg List.length delivered
  exact absurd two (by decide)

end Reception
end WebSocketServer
end JSCameraKit

import JSCameraKit.Library.ListEdit
import JSCameraKit.WebSocketController.ForcedUnwraps

set_option autoImplicit false

/-! The responses to the requests. A completion block is called by its handler at
once, or goes with `capture-photo` through the still image output and the list
`captureCallbacks` until the photo is saved. The message that a block belongs to is
numbered here; the code knows its `id` only. -/

namespace JSCameraKit
namespace WebSockerController
namespace Answers

open ForcedUnwraps (SafeRequest serve_isSome_iff)
open ListEdit (perm_cons_eraseIdx perm_moved)

/-- What the frameworks make of a text and of a still image. An `Image` is what
`==` of `UIImage` tells apart. -/
structure Frameworks (Buffer Image : Type) where
  jsonObject : String → Option Json
  jpegStillImageNSDataRepresentation : Buffer → Option (List UInt8)
  dataProvider : List UInt8 → Option (List UInt8)
  cgImage : List UInt8 → Option Image

/-- What the still image output calls its completion handler with. -/
structure StillImage (Buffer : Type) where
  buf : Option Buffer
  err : Option String

/-- The block that `onMessageStringBlock` passes on, with the `id` it captures. -/
structure Block where
  number : Nat
  id : Json

/-- A dictionary handed to `writeJSON` by a block. -/
structure Response where
  block : Block
  data : Reply

structure State (Device Data Buffer Image : Type) where
  camera : WebSocketCamera Device Data
  /-- A forced unwrapping has failed and ended the program. -/
  trapped : Bool
  /-- The messages accepted, each with the camera that it found. -/
  messages : List (Accepted × WebSocketCamera Device Data)
  /-- The blocks of the still images asked for. -/
  stills : List Block
  stillImages : List (Block × StillImage Buffer)
  captureCallbacks : List (Image × Block)
  /-- The images handed to `UIImageWriteToSavedPhotosAlbum`. -/
  saving : List Image
  responses : List Response

inductive Label (Data Buffer : Type)
  | message (now : ℚ) (text : Option String)
  | stillImage (index : Nat) (still : StillImage Buffer)
  | saved (index : Nat)
  | onBuffer (now : ℚ) (yData uvData : Data)
  | clearFrameData
  | activityTimeout

variable {Device Data Buffer Image : Type}

/-- The completion block replaces nil by an empty string. -/
def Block.respond (block : Block) (data : Option Reply) : Response :=
  { block := block, data := data.getD (.string "") }

/-- The image of a photo, unless one of the guards of `takePhoto` returns. -/
def decode (frameworks : Frameworks Buffer Image) (still : StillImage Buffer) : Option Image :=
  match still.err, still.buf with
  | none, some buffer => do
      let data ← frameworks.jpegStillImageNSDataRepresentation buffer
      let provider ← frameworks.dataProvider data
      frameworks.cgImage provider
  | _, _ => none

def receive (platform : Platform Device) (now : ℚ) (state : State Device Data Buffer Image)
    (accepted : Accepted) (block : Block) : State Device Data Buffer Image :=
  match processMessage (registered platform now) state.camera accepted.request accepted.data with
  | none =>
      { state with
        trapped := true
        messages := state.messages ++ [(accepted, state.camera)] }
  | some (.completed camera data) =>
      { state with
        camera := camera
        messages := state.messages ++ [(accepted, state.camera)]
        responses := state.responses ++ [block.respond data] }
  | some .takePhoto =>
      { state with
        messages := state.messages ++ [(accepted, state.camera)]
        stills := state.stills ++ [block] }
  | some .ignored => { state with messages := state.messages ++ [(accepted, state.camera)] }

def onStillImage (frameworks : Frameworks Buffer Image) (state : State Device Data Buffer Image)
    (index : Nat) (block : Block) (still : StillImage Buffer) : State Device Data Buffer Image :=
  match decode frameworks still with
  | none =>
      { state with
        stills := state.stills.eraseIdx index
        stillImages := state.stillImages ++ [(block, still)] }
  | some image =>
      { state with
        stills := state.stills.eraseIdx index
        stillImages := state.stillImages ++ [(block, still)]
        captureCallbacks := state.captureCallbacks ++ [(image, block)]
        saving := state.saving ++ [image] }

variable [DecidableEq Image]

/-- The loop over `captureCallbacks`: the first block of an equal image, and the rest. -/
def takeCallback (image : Image) :
    List (Image × Block) → Option (Block × List (Image × Block))
  | [] => none
  | (img, block) :: rest =>
      if img = image then some (block, rest)
      else (takeCallback image rest).map fun found => (found.1, (img, block) :: found.2)

/-- The callback of a photo that was saved, or could not be. -/
def onSaved (state : State Device Data Buffer Image) (index : Nat) (image : Image) :
    State Device Data Buffer Image :=
  match takeCallback image state.captureCallbacks with
  | none => { state with saving := state.saving.eraseIdx index }
  | some (block, rest) =>
      { state with
        saving := state.saving.eraseIdx index
        captureCallbacks := rest
        responses := state.responses ++ [block.respond none] }

def step (platform : Platform Device) (frameworks : Frameworks Buffer Image)
    (state : State Device Data Buffer Image) :
    Label Data Buffer → Option (State Device Data Buffer Image)
  | .message now text =>
      if state.trapped then none
      else
        match (text.bind frameworks.jsonObject).bind accept with
        | none => some state
        | some accepted =>
            some (receive platform now state accepted
              { number := state.messages.length, id := accepted.id })
  | .stillImage index still =>
      if state.trapped then none
      else (state.stills[index]?).map fun block => onStillImage frameworks state index block still
  | .saved index =>
      if state.trapped then none else (state.saving[index]?).map (onSaved state index)
  | .onBuffer now yData uvData =>
      if state.trapped then none
      else some { state with camera := (state.camera.onBuffer now yData uvData).1 }
  | .clearFrameData =>
      if state.trapped then none else some { state with camera := state.camera.clearFrameData }
  | .activityTimeout =>
      if state.trapped then none else some { state with camera := state.camera.stop }

def initial (now : ℚ) : State Device Data Buffer Image :=
  { camera := .init now
    trapped := false
    messages := []
    stills := []
    stillImages := []
    captureCallbacks := []
    saving := []
    responses := [] }

def machine (platform : Platform Device) (frameworks : Frameworks Buffer Image) :
    Machine (State Device Data Buffer Image) (Label Data Buffer) :=
  { initial := fun state => ∃ now, state = initial now
    step := step platform frameworks }

/-! ### Where the blocks are -/

/-- The message has a handler, which unwraps nothing that is nil. -/
def Taken (platform : Platform Device)
    (message : Accepted × WebSocketCamera Device Data) : Prop :=
  ∃ request ∈ readRequest message.1.request message.1.data,
    SafeRequest platform message.2 request

instance (platform : Platform Device) (message : Accepted × WebSocketCamera Device Data) :
    Decidable (Taken platform message) :=
  inferInstanceAs (Decidable (∃ _ ∈ readRequest message.1.request message.1.data, _))

/-- The blocks of the messages taken, which are numbered from `start` on. -/
def issuedFrom (platform : Platform Device) (start : Nat) :
    List (Accepted × WebSocketCamera Device Data) → List Block
  | [] => []
  | message :: rest =>
      if Taken platform message then
        { number := start, id := message.1.id } :: issuedFrom platform (start + 1) rest
      else issuedFrom platform (start + 1) rest

omit [DecidableEq Image] in
/-- The blocks whose photo is lost to one of the guards. -/
def lost (frameworks : Frameworks Buffer Image) (state : State Device Data Buffer Image) :
    List Block :=
  (state.stillImages.filter fun still => (decode frameworks still.2).isNone).map Prod.fst

omit [DecidableEq Image] in
def blocks (frameworks : Frameworks Buffer Image) (state : State Device Data Buffer Image) :
    List Block :=
  state.stills ++ state.captureCallbacks.map Prod.snd ++ state.responses.map Response.block ++
    lost frameworks state

omit [DecidableEq Image] in
private theorem issuedFrom_append (platform : Platform Device) (start : Nat)
    (before : List (Accepted × WebSocketCamera Device Data))
    (message : Accepted × WebSocketCamera Device Data) :
    issuedFrom platform start (before ++ [message]) =
      issuedFrom platform start before ++
        if Taken platform message then
          [{ number := start + before.length, id := message.1.id }]
        else [] := by
  induction before generalizing start with
  | nil =>
      simp only [List.nil_append, issuedFrom, List.length_nil, Nat.add_zero]
  | cons first rest ih =>
      have shifted : start + 1 + rest.length = start + (first :: rest).length := by
        rw [List.length_cons]
        omega
      simp only [List.cons_append, issuedFrom, ih, shifted]
      split <;> rfl

private theorem le_of_mem_issuedFrom (platform : Platform Device) {start : Nat}
    {messages : List (Accepted × WebSocketCamera Device Data)} {block : Block}
    (member : block ∈ issuedFrom platform start messages) : start ≤ block.number := by
  induction messages generalizing start with
  | nil => cases member
  | cons first rest ih =>
      rw [issuedFrom] at member
      split at member
      · rcases List.mem_cons.mp member with rfl | later
        · exact Nat.le_refl _
        · have less := ih later
          omega
      · have less := ih member
        omega

/-- A message taken has one block, and no other message has one with its number. -/
theorem filter_issuedFrom (platform : Platform Device) (start index : Nat)
    {messages : List (Accepted × WebSocketCamera Device Data)}
    {message : Accepted × WebSocketCamera Device Data}
    (found : messages[index]? = some message) :
    (issuedFrom platform start messages).filter (fun block => block.number = start + index) =
      if Taken platform message then [{ number := start + index, id := message.1.id }]
      else [] := by
  induction messages generalizing start index with
  | nil => cases found
  | cons first rest ih =>
      cases index with
      | zero =>
          cases found
          have others : (issuedFrom platform (start + 1) rest).filter
              (fun block => block.number = start) = [] := by
            rw [List.filter_eq_nil_iff]
            intro block member
            have later := le_of_mem_issuedFrom platform member
            simp only [decide_eq_true_eq]
            omega
          rw [issuedFrom]
          split
          · simp [others]
          · exact others
      | succ index =>
          have shifted : start + (index + 1) = start + 1 + index := by omega
          have rest := ih (start + 1) index found
          rw [issuedFrom, shifted]
          split
          · rw [List.filter_cons_of_neg (by simp only [decide_eq_true_eq]; omega)]
            exact rest
          · exact rest

/-! ### One step -/

private theorem readRequest_ne_stop (message : String) (data : Option Json) :
    readRequest message data ≠ some .stop := by
  unfold readRequest
  split <;> nofun

private theorem serve_ne_ignored (platform : Platform Device) (now : ℚ)
    (camera : WebSocketCamera Device Data) {request : Request} (notStop : request ≠ .stop) :
    serve platform now camera request ≠ some .ignored := by
  cases request with
  | stop => exact absurd rfl notStop
  | ping => simp [serve]
  | getConfiguration => simp [serve]
  | capturePhoto => simp [serve]
  | needFrame => simp [serve]
  | configure resolution position => cases resolution <;> cases position <;> simp [serve]
  | changePosition position => cases position <;> simp [serve]
  | changeResolution resolution => cases resolution <;> simp [serve]

/-- The block of a message is called or kept exactly when the message is taken. -/
theorem taken_iff (platform : Platform Device) (now : ℚ) (camera : WebSocketCamera Device Data)
    (accepted : Accepted) :
    Taken platform (accepted, camera) ↔
      ∃ processed,
        processMessage (registered platform now) camera accepted.request accepted.data =
          some processed ∧ processed ≠ .ignored := by
  rw [processMessage_registered, Taken]
  cases read : readRequest accepted.request accepted.data with
  | none => simp
  | some request =>
      have notStop : request ≠ .stop := by
        intro same
        rw [same] at read
        exact readRequest_ne_stop _ _ read
      have answers := serve_ne_ignored platform now camera notStop
      simp only [Option.mem_def, Option.some.injEq, exists_eq_left']
      rw [← serve_isSome_iff platform now]
      cases served : serve platform now camera request with
      | none => simp
      | some processed =>
          rw [served] at answers
          simpa using answers

private theorem takeCallback_perm {image : Image} {callbacks rest : List (Image × Block)}
    {block : Block}
    (found : takeCallback image callbacks = some (block, rest)) :
    callbacks.Perm ((image, block) :: rest) := by
  induction callbacks generalizing rest with
  | nil => cases found
  | cons first later ih =>
      obtain ⟨img, other⟩ := first
      rw [takeCallback] at found
      split at found
      · rename_i same
        cases found
        rw [same]
      · obtain ⟨⟨taken, kept⟩, there, same⟩ := Option.map_eq_some_iff.mp found
        cases same
        exact ((ih there).cons _).trans (List.Perm.swap _ _ _)

private theorem takeCallback_of_mem {image : Image} {callbacks : List (Image × Block)}
    (member : image ∈ callbacks.map Prod.fst) : (takeCallback image callbacks).isSome = true := by
  induction callbacks with
  | nil => cases member
  | cons first later ih =>
      obtain ⟨img, other⟩ := first
      rw [takeCallback]
      split
      · rfl
      · rename_i different
        rw [Option.isSome_map]
        apply ih
        rcases List.mem_cons.mp member with same | there
        · exact absurd same.symm different
        · exact there

/-- Each block issued is waiting, called or lost, once; and a photo that is being saved
has its image in the list. -/
structure Accounted (platform : Platform Device) (frameworks : Frameworks Buffer Image)
    (state : State Device Data Buffer Image) : Prop where
  blocks : (blocks frameworks state).Perm (issuedFrom platform 0 state.messages)
  saving : (state.captureCallbacks.map Prod.fst).Perm state.saving

omit [DecidableEq Image] in
private theorem receive_blocks {platform : Platform Device} {frameworks : Frameworks Buffer Image}
    (now : ℚ) (state : State Device Data Buffer Image) (accepted : Accepted) (block : Block) :
    (blocks frameworks (receive platform now state accepted block)).Perm
      (blocks frameworks state ++
        if Taken platform (accepted, state.camera) then [block] else []) := by
  have taken := taken_iff platform now state.camera accepted
  unfold receive
  split
  · rename_i outcome
    have notTaken : ¬Taken platform (accepted, state.camera) := by
      intro holds
      obtain ⟨processed, found, _⟩ := taken.mp holds
      rw [outcome] at found
      cases found
    rw [if_neg notTaken, List.append_nil]
    exact List.Perm.refl _
  · rename_i camera data outcome
    rw [if_pos (taken.mpr ⟨_, outcome, by simp⟩)]
    simp only [blocks, lost, Block.respond, List.map_append, List.map_cons, List.map_nil,
      List.append_assoc]
    apply List.Perm.append_left
    apply List.Perm.append_left
    apply List.Perm.append_left
    exact List.perm_append_comm
  · rename_i outcome
    rw [if_pos (taken.mpr ⟨_, outcome, by simp⟩)]
    simp only [blocks, lost, List.append_assoc]
    apply List.Perm.append_left
    exact List.perm_append_comm.trans (by simp only [List.append_assoc]; exact List.Perm.refl _)
  · rename_i outcome
    have notTaken : ¬Taken platform (accepted, state.camera) := by
      intro holds
      obtain ⟨processed, found, answers⟩ := taken.mp holds
      rw [outcome] at found
      cases found
      exact answers rfl
    rw [if_neg notTaken, List.append_nil]
    exact List.Perm.refl _

omit [DecidableEq Image] in
private theorem receive_same (platform : Platform Device) (now : ℚ)
    (state : State Device Data Buffer Image) (accepted : Accepted) (block : Block) :
    (receive platform now state accepted block).messages =
        state.messages ++ [(accepted, state.camera)] ∧
      (receive platform now state accepted block).captureCallbacks = state.captureCallbacks ∧
      (receive platform now state accepted block).saving = state.saving := by
  unfold receive
  split <;> exact ⟨rfl, rfl, rfl⟩

omit [DecidableEq Image] in
theorem Accounted.receive {platform : Platform Device} {frameworks : Frameworks Buffer Image}
    {state : State Device Data Buffer Image} (accounted : Accounted platform frameworks state)
    (now : ℚ) (accepted : Accepted) :
    Accounted platform frameworks
      (receive platform now state accepted
        { number := state.messages.length, id := accepted.id }) := by
  obtain ⟨messages, callbacks, saving⟩ := receive_same platform now state accepted
    { number := state.messages.length, id := accepted.id }
  constructor
  · rw [messages, issuedFrom_append, Nat.zero_add]
    exact (receive_blocks now state accepted _).trans (accounted.blocks.append_right _)
  · rw [callbacks, saving]
    exact accounted.saving

omit [DecidableEq Image] in
theorem Accounted.onStillImage {platform : Platform Device}
    {frameworks : Frameworks Buffer Image} {state : State Device Data Buffer Image}
    (accounted : Accounted platform frameworks state) {index : Nat} {block : Block}
    (found : state.stills[index]? = some block) (still : StillImage Buffer) :
    Accounted platform frameworks (onStillImage frameworks state index block still) := by
  have taken := perm_cons_eraseIdx found
  unfold Answers.onStillImage
  split
  · rename_i undecoded
    constructor
    · have moved := perm_moved taken
        (state.captureCallbacks.map Prod.snd ++ state.responses.map Response.block ++
          lost frameworks state)
      refine List.Perm.trans (List.Perm.of_eq ?_) (moved.trans ?_)
      · simp [Answers.blocks, lost, undecoded]
      · refine List.Perm.trans (List.Perm.of_eq ?_) accounted.blocks
        simp [Answers.blocks]
    · exact accounted.saving
  · rename_i image decoded
    constructor
    · have moved := (perm_moved taken (state.captureCallbacks.map Prod.snd)).append_right
        (state.responses.map Response.block ++ lost frameworks state)
      refine List.Perm.trans (List.Perm.of_eq ?_) (moved.trans ?_)
      · simp [Answers.blocks, lost, decoded]
      · refine List.Perm.trans (List.Perm.of_eq ?_) accounted.blocks
        simp [Answers.blocks]
    · simp only [List.map_append, List.map_cons, List.map_nil]
      exact accounted.saving.append_right _

theorem Accounted.onSaved {platform : Platform Device}
    {frameworks : Frameworks Buffer Image} {state : State Device Data Buffer Image}
    (accounted : Accounted platform frameworks state) {index : Nat} {image : Image}
    (found : state.saving[index]? = some image) :
    Accounted platform frameworks (onSaved state index image) := by
  have listed : image ∈ state.captureCallbacks.map Prod.fst :=
    accounted.saving.mem_iff.mpr (List.mem_of_getElem? found)
  obtain ⟨⟨block, rest⟩, there⟩ := Option.isSome_iff_exists.mp (takeCallback_of_mem listed)
  have taken := takeCallback_perm there
  simp only [Answers.onSaved, there]
  constructor
  · have moved :=
      ((perm_moved (taken.map Prod.snd) (state.responses.map Response.block)).append_left
        state.stills).append_right (lost frameworks state)
    refine List.Perm.trans (List.Perm.of_eq ?_) (moved.trans ?_)
    · simp [Answers.blocks, lost, Block.respond]
    · refine List.Perm.trans (List.Perm.of_eq ?_) accounted.blocks
      simp [Answers.blocks]
  · have images := (taken.map Prod.fst).symm.trans
      (accounted.saving.trans (perm_cons_eraseIdx found))
    exact List.Perm.cons_inv images

private theorem step_accounted {platform : Platform Device} {frameworks : Frameworks Buffer Image}
    {state next : State Device Data Buffer Image} {label : Label Data Buffer}
    (accounted : Accounted platform frameworks state)
    (taken : step platform frameworks state label = some next) :
    Accounted platform frameworks next := by
  cases label with
  | message now text =>
      simp only [step, Option.ite_none_left_eq_some] at taken
      obtain ⟨_, taken⟩ := taken
      split at taken
      · cases taken
        exact accounted
      · rename_i accepted _
        cases taken
        exact accounted.receive now accepted
  | stillImage index still =>
      simp only [step, Option.ite_none_left_eq_some] at taken
      obtain ⟨_, taken⟩ := taken
      obtain ⟨block, found, rfl⟩ := Option.map_eq_some_iff.mp taken
      exact accounted.onStillImage found still
  | saved index =>
      simp only [step, Option.ite_none_left_eq_some] at taken
      obtain ⟨_, taken⟩ := taken
      obtain ⟨image, found, rfl⟩ := Option.map_eq_some_iff.mp taken
      exact accounted.onSaved found
  | onBuffer now yData uvData =>
      simp only [step, Option.ite_none_left_eq_some, Option.some.injEq] at taken
      obtain ⟨_, rfl⟩ := taken
      exact { accounted with }
  | clearFrameData =>
      simp only [step, Option.ite_none_left_eq_some, Option.some.injEq] at taken
      obtain ⟨_, rfl⟩ := taken
      exact { accounted with }
  | activityTimeout =>
      simp only [step, Option.ite_none_left_eq_some, Option.some.injEq] at taken
      obtain ⟨_, rfl⟩ := taken
      exact { accounted with }

private theorem reachable_accounted {platform : Platform Device}
    {frameworks : Frameworks Buffer Image}
    {state : State Device Data Buffer Image}
    (reached : (machine platform frameworks).Reachable state) :
    Accounted platform frameworks state := by
  refine reached.invariant (Accounted platform frameworks) ?_ ?_
  · intro state starts
    obtain ⟨now, rfl⟩ := starts
    exact { blocks := List.Perm.refl _, saving := List.Perm.refl _ }
  · intro state label next _ accounted taken
    exact step_accounted accounted taken

/-! ### The property -/

/-- Exactly one response was handed to `writeJSON` for the message, and it carries its id. -/
def AnsweredOnce (state : State Device Data Buffer Image) (number : Nat) (id : Json) : Prop :=
  ∃ data, (state.responses.filter fun response => response.block.number = number) =
    [{ block := { number := number, id := id }, data := data }]

/-- No still image is awaited and no photo is being saved. -/
def Settled (state : State Device Data Buffer Image) : Prop :=
  state.stills = [] ∧ state.saving = []

/-- No still image taken for the message is lost. -/
def Photographed (frameworks : Frameworks Buffer Image) (state : State Device Data Buffer Image)
    (number : Nat) : Prop :=
  ∀ still ∈ state.stillImages, still.1.number = number →
    (decode frameworks still.2).isSome = true

omit [DecidableEq Image] in
private theorem filter_lost (frameworks : Frameworks Buffer Image)
    (state : State Device Data Buffer Image) (number : Nat) :
    (lost frameworks state).filter (fun block => block.number = number) = [] ↔
      Photographed frameworks state number := by
  rw [List.filter_eq_nil_iff]
  constructor
  · intro none still member same
    cases decoded : decode frameworks still.2 with
    | some image => rfl
    | none =>
        have isLost : still.1 ∈ lost frameworks state :=
          List.mem_map_of_mem (List.mem_filter.mpr ⟨member, by rw [decoded]; rfl⟩)
        exact absurd (decide_eq_true same) (none still.1 isLost)
  · intro photographed block member same
    obtain ⟨still, kept, rfl⟩ := List.mem_map.mp member
    obtain ⟨taken, undecoded⟩ := List.mem_filter.mp kept
    have decoded := photographed still taken (of_decide_eq_true same)
    rw [Option.isNone_iff_eq_none] at undecoded
    rw [undecoded] at decoded
    cases decoded

omit [DecidableEq Image] in
theorem Accounted.filter_settled {platform : Platform Device}
    {frameworks : Frameworks Buffer Image} {state : State Device Data Buffer Image}
    (accounted : Accounted platform frameworks state) (settled : Settled state) {number : Nat}
    {message : Accepted × WebSocketCamera Device Data}
    (found : state.messages[number]? = some message) :
    ((state.responses.filter fun response => response.block.number = number).map Response.block ++
        (lost frameworks state).filter fun block => block.number = number) =
      if Taken platform message then [{ number := number, id := message.1.id }] else [] := by
  have noCallback : state.captureCallbacks = [] := by
    have images := accounted.saving
    rw [settled.2, List.perm_nil, List.map_eq_nil_iff] at images
    exact images
  have placed := accounted.blocks.filter fun block => block.number = number
  have issued := filter_issuedFrom platform 0 number found
  rw [Nat.zero_add] at issued
  rw [issued] at placed
  simp only [Answers.blocks, settled.1, noCallback, List.map_nil, List.nil_append,
    List.filter_append, List.filter_map] at placed
  split at placed
  · rename_i taken
    rw [if_pos taken]
    exact List.perm_singleton.mp placed
  · rename_i notTaken
    rw [if_neg notTaken]
    exact List.perm_nil.mp placed

/-- Once the photos are settled, a message has been answered exactly once if it has a
handler, the handler unwraps nothing that is nil, and no still image taken for it is
lost; and only then. -/
theorem answeredOnce_iff {platform : Platform Device} {frameworks : Frameworks Buffer Image}
    {state : State Device Data Buffer Image}
    (reached : (machine platform frameworks).Reachable state) (settled : Settled state)
    {number : Nat} {message : Accepted} {camera : WebSocketCamera Device Data}
    (found : state.messages[number]? = some (message, camera)) :
    AnsweredOnce state number message.id ↔
      (∃ request ∈ readRequest message.request message.data,
        SafeRequest platform camera request) ∧ Photographed frameworks state number := by
  have placed := (reachable_accounted reached).filter_settled settled found
  rw [← filter_lost]
  constructor
  · intro answered
    obtain ⟨data, only⟩ := answered
    rw [only] at placed
    by_cases taken : Taken platform (message, camera)
    · rw [if_pos taken] at placed
      exact ⟨taken, (List.cons.inj placed).2⟩
    · rw [if_neg taken] at placed
      cases placed
  · intro condition
    have taken : Taken platform (message, camera) := condition.1
    rw [if_pos taken, condition.2, List.append_nil, List.map_eq_singleton_iff] at placed
    obtain ⟨⟨block, data⟩, only, same⟩ := placed
    cases same
    exact ⟨data, only⟩

/-! ### Two runs -/

/-- Frameworks that read the texts of the runs below; a buffer is its image. -/
def plainFrameworks : Frameworks Nat Nat :=
  { jsonObject := fun text =>
      if text = "\x7b\"request\":\"stop\",\"id\":0\x7d" then
        some (.object [("request", .string "stop"), ("id", .number 0)])
      else if text = "\x7b\"request\":\"capture-photo\",\"id\":0\x7d" then
        some (.object [("request", .string "capture-photo"), ("id", .number 0)])
      else none
    jpegStillImageNSDataRepresentation := fun buffer => some [UInt8.ofNat buffer]
    dataProvider := some
    cgImage := fun data => data.head?.map UInt8.toNat }

/-- Two photos of equal images are saved, the second one first. -/
def twoPhotos : List (Label Nat Nat) :=
  [.message 0 (some "\x7b\"request\":\"capture-photo\",\"id\":0\x7d"),
    .message 0 (some "\x7b\"request\":\"capture-photo\",\"id\":0\x7d"),
    .stillImage 0 { buf := some 5, err := none }, .stillImage 0 { buf := some 5, err := none },
    .saved 1, .saved 0]

theorem answeredOnce_of_twoPhotos :
    ∃ (state : State AVCaptureDevicePosition Nat Nat Nat) (message : Accepted)
      (camera : WebSocketCamera AVCaptureDevicePosition Nat),
      (machine Platform.twoSided plainFrameworks).run (initial 0) twoPhotos = some state ∧
        state.messages[0]? = some (message, camera) ∧ AnsweredOnce state 0 message.id := by
  obtain ⟨state, replayed, passed⟩ := (Option.any_eq_true _ _).mp
    (show ((machine Platform.twoSided plainFrameworks).run
        (initial 0 : State AVCaptureDevicePosition Nat Nat Nat) twoPhotos).any (fun state =>
          state.stills.isEmpty && state.saving.isEmpty &&
            (state.messages[0]?).any (fun message => decide (Taken Platform.twoSided message)) &&
            state.stillImages.all fun still => (decode plainFrameworks still.2).isSome) = true by
      decide +kernel)
  simp only [Bool.and_eq_true, List.isEmpty_iff, Option.any_eq_true, decide_eq_true_eq,
    List.all_eq_true] at passed
  obtain ⟨⟨⟨noStill, noSave⟩, ⟨message, camera⟩, found, taken⟩, decoded⟩ := passed
  refine ⟨state, message, camera, replayed, found, ?_⟩
  apply (answeredOnce_iff (.run twoPhotos (.initial ⟨0, rfl⟩) replayed) ⟨noStill, noSave⟩ found).mpr
  constructor
  · exact taken
  · intro still member _
    exact decoded still member

/-- The client sends `stop` and awaits a response, but no handler has that name. -/
theorem not_answeredOnce_of_stop :
    ¬∀ state : State AVCaptureDevicePosition Nat Nat Nat,
      (machine Platform.twoSided plainFrameworks).Reachable state → Settled state →
        ∀ number message camera, state.messages[number]? = some (message, camera) →
          AnsweredOnce state number message.id := by
  intro always
  have started : (machine Platform.twoSided plainFrameworks).initial
      (initial 0 : State AVCaptureDevicePosition Nat Nat Nat) := ⟨0, rfl⟩
  obtain ⟨state, reached, passed⟩ := Machine.exists_reachable_of_run
    [.message 0 (some "\x7b\"request\":\"stop\",\"id\":0\x7d")]
    (fun state : State AVCaptureDevicePosition Nat Nat Nat =>
      state.stills.isEmpty && state.saving.isEmpty && state.responses.isEmpty &&
        (state.messages[0]?).isSome) started (by decide +kernel)
  simp only [Bool.and_eq_true, List.isEmpty_iff, Option.isSome_iff_exists] at passed
  obtain ⟨⟨⟨noStill, noSave⟩, noResponse⟩, ⟨message, camera⟩, found⟩ := passed
  obtain ⟨data, only⟩ := always state reached ⟨noStill, noSave⟩ 0 message camera found
  rw [noResponse] at only
  cases only

end Answers
end WebSockerController
end JSCameraKit

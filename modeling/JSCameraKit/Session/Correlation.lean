import Mathlib.Data.List.Nodup
import JSCameraKit.Session.Messages

set_option autoImplicit false

/-! Which response resolves which promise. Every client numbers its requests from zero
and every response goes to all clients, so a client that waits for a number takes
the response to the request of that number of any client. -/

namespace JSCameraKit
namespace Session

open WebSocketController (processMessage writeStatements)
open Browser (OwnNumbers onBinaryMessage_listeners)

section Awaiting

variable {Client : Type} [DecidableEq Client]

/-- A client with the numbers it waits for: a response to one of these numbers has to
be to its own request. -/
def correlating : Reader (Client × List Nat) (Message Client) :=
  { read := fun awaiting message =>
      match message with
      | .json origin _ => (awaiting.1, awaiting.2.filter fun id => id ≠ origin.id)
      | .binary _ _ => awaiting
    Fits := fun awaiting message =>
      match message with
      | .json origin _ => origin.id ∈ awaiting.2 → origin.client = awaiting.1
      | .binary _ _ => True }

instance (awaiting : Client × List Nat) :
    ∀ message : Message Client, Decidable (correlating.Fits awaiting message)
  | .json origin _ =>
      inferInstanceAs (Decidable (origin.id ∈ awaiting.2 → origin.client = awaiting.1))
  | .binary _ _ => inferInstanceAs (Decidable True)

def awaits (client : Client) (camera : Browser.Camera) : Client × List Nat :=
  (client, camera.listeners.map Browser.Listener.id)

omit [DecidableEq Client] in
/-- A message leaves the numbers awaited as the reader does, and the promises it resolves
are those that wait for the number it answers. -/
theorem onMessage_awaits (client : Client) {camera : Browser.Camera} (own : OwnNumbers camera)
    (message : Message Client) :
    OwnNumbers (camera.onMessage message) ∧
      awaits client (camera.onMessage message) =
        correlating.read (awaits client camera) message ∧
      ∀ answer ∈ (camera.onMessage message).resolved, answer ∈ camera.resolved ∨
        ∃ origin, message = .json origin answer.data ∧ answer.id = origin.id ∧
          origin.id ∈ (awaits client camera).2 := by
  cases message with
  | json origin data =>
      rw [Browser.Camera.onMessage, Browser.onJsonMessage_spec own.distinct]
      refine ⟨?_, ?_, ?_⟩
      · rw [← Browser.onJsonMessage_spec own.distinct]
        exact own.onJsonMessage origin.id data
      · simp [awaits, correlating, List.filter_map, Function.comp_def]
      · intro answer member
        rcases List.mem_append.mp member with earlier | resolved
        · exact .inl earlier
        · obtain ⟨listener, called, rfl⟩ := List.mem_map.mp resolved
          obtain ⟨inListeners, same⟩ := List.mem_filter.mp called
          have sameId := of_decide_eq_true same
          exact .inr ⟨origin, rfl, sameId,
            List.mem_map.mpr ⟨listener, inListeners, sameId⟩⟩
  | binary head plane =>
      obtain ⟨listeners, resolved, requestID⟩ := onBinaryMessage_listeners camera head plane
      rw [Browser.Camera.onMessage]
      refine ⟨⟨?_, ?_⟩, ?_, ?_⟩
      · rw [listeners]
        exact own.distinct
      · rw [listeners, requestID]
        exact own.issued
      · rw [awaits, listeners]
        rfl
      · rw [resolved]
        exact fun answer member => .inl member

end Awaiting

variable {Client Wsi Device : Type}

/-! ### A request is answered once -/

def responds : Statement Client → Option (Origin Client)
  | .respond origin _ => some origin
  | _ => none

def Thread.owes (thread : Thread Client) : List (Origin Client) :=
  thread.statements.filterMap responds

/-- The requests that can still be answered, and those that were. -/
def answerable (state : State Client Wsi Device) : List (Origin Client) :=
  state.requests.map Prod.fst ++ state.photos ++ state.threads.flatMap Thread.owes ++
    state.produced.map Prod.fst

/-- The request that a step makes. -/
def made (state : State Client Wsi Device) : Label Client Wsi → List (Origin Client)
  | .request client _ => [{ client := client, id := (state.cameras client).requestID }]
  | _ => []

private theorem owes_writeStatements (call : Nat) (started : Option (Frame × Frame)) :
    (writeStatements call started : List (Statement Client)).filterMap responds = [] := by
  cases started with
  | none => rfl
  | some planes => rfl

private theorem owes_spawn (state : State Client Wsi Device) (camera : WebSocketCamera Device Frame)
    (started : Option (Frame × Frame)) (rest : List (Statement Client)) :
    (state.spawn camera started rest).threads.flatMap Thread.owes =
      state.threads.flatMap Thread.owes ++ rest.filterMap responds := by
  simp [State.spawn, Thread.owes, owes_writeStatements]

variable [DecidableEq Client]

private theorem count_eraseIdx {Item : Type} [DecidableEq Item] {items : List Item} {index : Nat}
    {item : Item} (found : items[index]? = some item) (other : Item) :
    items.count other = [item].count other + (items.eraseIdx index).count other := by
  obtain ⟨inRange, rfl⟩ := List.getElem?_eq_some_iff.mp found
  rw [← List.count_append]
  exact (List.getElem_cons_eraseIdx_perm inRange).symm.count_eq other

private theorem processMessage_answers {platform : Platform Device} {now : ℚ}
    {camera : WebSocketCamera Device Frame} {origin : Origin Client} {request : Request}
    {handled : WebSocketController.Handled Client Device}
    (taken : processMessage platform now camera origin request = some handled)
    (other : Origin Client) :
    (handled.rest.filterMap responds).count other +
        (if handled.takesPhoto then [origin] else []).count other ≤ [origin].count other := by
  cases request with
  | needFrame | configure resolution position =>
      obtain ⟨outcome, _, rfl⟩ := Option.map_eq_some_iff.mp taken
      exact Nat.le_refl _
  | changePosition value | changeResolution value =>
      cases taken
      cases value <;> exact Nat.le_refl _
  | ping | getConfiguration =>
      cases taken
      exact Nat.le_refl _
  | stop =>
      cases taken
      exact Nat.zero_le _
  | capturePhoto =>
      cases taken
      simp

variable [DecidableEq Wsi]

omit [DecidableEq Client] in
theorem Executes.answers {platform : Platform Device} {state next : State Client Wsi Device}
    {statement : Statement Client} (executes : Executes platform state statement next) :
    next.requests = state.requests ∧ next.photos = state.photos ∧
      next.produced.map Prod.fst = state.produced.map Prod.fst ++ (responds statement).toList := by
  cases executes with
  | respond origin answer server _ => exact ⟨rfl, rfl, by simp [responds]⟩
  | _ => exact ⟨rfl, rfl, (List.append_nil _).symm⟩

omit [DecidableEq Client] in
theorem Executes.produced {platform : Platform Device} {state next : State Client Wsi Device}
    {statement : Statement Client} (executes : Executes platform state statement next) :
    state.produced ⊆ next.produced := by
  cases executes with
  | respond origin answer server _ => exact List.subset_append_left _ _
  | _ => exact List.Subset.refl _

private theorem run_answers {platform : Platform Device} {state after : State Client Wsi Device}
    {number : Nat} {thread : Thread Client} {statement : Statement Client}
    {rest : List (Statement Client)} (found : state.threads[number]? = some thread)
    (statements : thread.statements = statement :: rest)
    (executed : Executes platform state statement after) (call : Option Nat)
    (other : Origin Client) :
    (answerable
        { after with
          threads := state.threads.set number { statements := rest, call := call } }).count other =
      (answerable state).count other := by
  have ⟨inRange, here⟩ := List.getElem?_eq_some_iff.mp found
  have ⟨requests, photos, produced⟩ := executed.answers
  have before : state.threads.flatMap Thread.owes =
      (state.threads.take number).flatMap Thread.owes ++ (thread.owes ++
        (state.threads.drop (number + 1)).flatMap Thread.owes) := by
    conv_lhs => rw [← List.take_append_drop number state.threads,
      List.drop_eq_getElem_cons inRange, here]
    simp
  have owed : thread.statements.filterMap responds =
      (responds statement).toList ++ rest.filterMap responds := by
    rw [statements, List.filterMap_cons]
    cases responds statement <;> rfl
  simp only [answerable, requests, photos, produced, before, List.set_eq_take_append_cons_drop,
    if_pos inRange, List.flatMap_append, List.flatMap_cons, Thread.owes, owed, List.count_append]
  omega

private theorem step_answerable {platform : Platform Device} {state next : State Client Wsi Device}
    {label : Label Client Wsi} (taken : step platform state label = some next)
    (other : Origin Client) :
    (answerable next).count other ≤ (answerable state).count other +
      (made state label).count other := by
  cases step_cases taken with
  | request client request =>
      simp only [answerable, made, List.map_append, List.map_cons, List.map_nil,
        List.count_append]
      omega
  | receive index received handled _ found processed =>
      have answers := processMessage_answers processed other
      have erased := count_eraseIdx
        (show (state.requests.map Prod.fst)[index]? = some received.1 by
          rw [List.getElem?_map, found]; rfl) other
      have spawned := owes_spawn state handled.camera handled.started handled.rest
      have photos : (if handled.takesPhoto then state.photos ++ [received.1] else state.photos) =
          state.photos ++ if handled.takesPhoto then [received.1] else [] := by
        split <;> simp
      rw [List.eraseIdx_map] at erased
      simp only [answerable, photos, spawned, spawn_produced, List.count_append]
      omega
  | run number thread statement rest after found statements _ executed =>
      exact Nat.le_of_eq (run_answers found statements executed _ other)
  | onBuffer index frame _ =>
      have spawned := owes_spawn state (state.camera.onBuffer state.now frame frame).1
        (state.camera.onBuffer state.now frame frame).2 []
      simp only [answerable, spawned, spawn_requests, spawn_photos, spawn_produced,
        List.filterMap_nil, List.append_nil]
      exact Nat.le_refl _
  | photoTaken index origin found =>
      have erased := count_eraseIdx found other
      have owed : ([{ statements := [.respond origin .nil], call := none }] :
          List (Thread Client)).flatMap Thread.owes = [origin] := rfl
      simp only [answerable, List.flatMap_append, owed, List.count_append]
      omega
  | _ => exact Nat.le_refl _

omit [DecidableEq Client] in
private theorem onMessage_requestID (camera : Browser.Camera) (message : Message Client) :
    (camera.onMessage message).requestID = camera.requestID := by
  cases message with
  | json origin data =>
      rw [Browser.Camera.onMessage, Browser.Camera.onJsonMessage, Browser.foldl_resolve]
  | binary head plane => exact (onBinaryMessage_listeners camera head plane).2.2

/-- What can be answered are distinct requests that were made. -/
structure Once (state : State Client Wsi Device) : Prop where
  distinct : (answerable state).Nodup
  issued : ∀ origin ∈ answerable state, origin.id < (state.cameras origin.client).requestID

private theorem step_requestID {platform : Platform Device} {state next : State Client Wsi Device}
    {label : Label Client Wsi} (taken : step platform state label = some next)
    (client : Client) :
    (state.cameras client).requestID ≤ (next.cameras client).requestID := by
  refine step_cameras
    (fun client camera => (state.cameras client).requestID ≤ camera.requestID) ?_ ?_ ?_ ?_ taken
    client
  · exact fun _ => Nat.le_refl _
  · exact fun _ _ => Nat.le_succ _
  · exact fun _ _ _ => Nat.le_refl _
  · intro client _ socket message _ _
    rw [onMessage_requestID]

private theorem issued_made {platform : Platform Device} {state next : State Client Wsi Device}
    {label : Label Client Wsi} (taken : step platform state label = some next)
    {origin : Origin Client} (member : origin ∈ made state label) :
    origin.id = (state.cameras origin.client).requestID ∧
      origin.id < (next.cameras origin.client).requestID := by
  cases label with
  | request client request =>
      cases List.mem_singleton.mp member
      cases taken
      exact ⟨rfl, by simp [Browser.Camera.request]⟩
  | _ => cases member

private theorem step_once {platform : Platform Device} {state next : State Client Wsi Device}
    {label : Label Client Wsi} (once : Once state)
    (taken : step platform state label = some next) : Once next := by
  constructor
  · rw [List.nodup_iff_count_le_one]
    intro origin
    have grows := step_answerable taken origin
    by_cases new : origin ∈ made state label
    · have fresh : (answerable state).count origin = 0 := by
        rw [List.count_eq_zero]
        intro member
        have earlier := once.issued origin member
        have now := (issued_made taken new).1
        omega
      have one : (made state label).count origin ≤ 1 := by
        cases label with
        | request client request => exact List.count_le_length
        | _ => exact Nat.zero_le 1
      omega
    · have none := List.count_eq_zero_of_not_mem new
      have before := List.nodup_iff_count_le_one.mp once.distinct origin
      omega
  · intro origin member
    have grows := step_answerable taken origin
    have present := List.count_pos_iff.mpr member
    by_cases new : origin ∈ made state label
    · exact (issued_made taken new).2
    · have none := List.count_eq_zero_of_not_mem new
      have before : origin ∈ answerable state := List.count_pos_iff.mp (by omega)
      exact Nat.lt_of_lt_of_le (once.issued origin before) (step_requestID taken origin.client)

private theorem step_produced {platform : Platform Device} {state next : State Client Wsi Device}
    {label : Label Client Wsi} (taken : step platform state label = some next) :
    state.produced ⊆ next.produced := by
  cases step_cases taken with
  | run number thread statement rest after _ _ _ executed =>
      have kept := executed.produced
      exact kept
  | _ => exact List.Subset.refl _

/-! ### Every run -/

/-- A promise resolves with the response produced for the request that made it. -/
def Correlated (state : State Client Wsi Device) : Prop :=
  ∀ client, ∀ answer ∈ (state.cameras client).resolved,
    ({ client := client, id := answer.id }, answer.data) ∈ state.produced ∧
      ∀ data, ({ client := client, id := answer.id }, data) ∈ state.produced →
        data = answer.data

/-- No response is put on the way to a client that will wait for its number then, unless
it answers the client's own request, and no request takes a number for which a response
to another client is on its way. -/
abbrev Separate (state : State Client Wsi Device) (label : Label Client Wsi) : Prop :=
  Admits correlating awaits state label

structure Correlates (state : State Client Wsi Device) : Prop where
  tracked : Tracked state
  sourced : Sourced state
  deliverable : Deliverable correlating awaits state
  own : ∀ client, OwnNumbers (state.cameras client)
  once : Once state
  resolved : ∀ client, ∀ answer ∈ (state.cameras client).resolved,
    ({ client := client, id := answer.id }, answer.data) ∈ state.produced

omit [DecidableEq Client] in
private theorem correlates_initial (now : ℚ) : Correlates (initial now : State Client Wsi Device) :=
  { tracked := tracked_initial now
    sourced := sourced_initial now
    deliverable := deliverable_initial now
    own := fun _ => ⟨List.nodup_nil, nofun⟩
    once := ⟨List.nodup_nil, nofun⟩
    resolved := nofun }

private theorem step_correlates {platform : Platform Device} {state next : State Client Wsi Device}
    {label : Label Client Wsi} (correlates : Correlates state) (separate : Separate state label)
    (taken : step platform state label = some next) : Correlates next := by
  obtain ⟨tracked, sourced, deliverable, own, once, resolved⟩ := correlates
  constructor
  · exact step_tracked tracked taken
  · exact step_sourced sourced tracked taken
  · exact deliverable.step tracked separate (fun _ _ _ => rfl)
      (fun client _ message _ _ => (onMessage_awaits client (own client) message).2.1) taken
  · refine step_cameras (fun _ camera => OwnNumbers camera) own ?_ ?_ ?_ taken
    · exact fun client request => (own client).request request
    · exact fun client gl builds => (own client).setCanvas gl builds
    · exact fun client _ _ message _ _ => (onMessage_awaits client (own client) message).1
  · exact step_once once taken
  · have kept := step_produced taken
    refine step_cameras (fun client camera => ∀ answer ∈ camera.resolved,
      ({ client := client, id := answer.id }, answer.data) ∈ next.produced) ?_ ?_ ?_ ?_ taken
    · exact fun client answer member => kept (resolved client answer member)
    · exact fun client _ answer member => kept (resolved client answer member)
    · exact fun client _ _ answer member => kept (resolved client answer member)
    · intro client _ socket message present arrived answer member
      rcases (onMessage_awaits client (own client) message).2.2 answer member with
        earlier | ⟨origin, rfl, sameId, awaited⟩
      · exact kept (resolved client answer earlier)
      · have sameClient : origin.client = client := deliverable.fits present arrived awaited
        have genuine : (origin, answer.data) ∈ state.produced :=
          sourced.carried _ (.of_delivered (List.mem_of_getElem? arrived))
        rw [sameId, ← sameClient]
        exact kept genuine

omit [DecidableEq Client] in
theorem Correlates.correlated {state : State Client Wsi Device} (correlates : Correlates state) :
    Correlated state := by
  intro client answer member
  have produced := correlates.resolved client answer member
  refine ⟨produced, ?_⟩
  intro data other
  have distinct : (state.produced.map Prod.fst).Nodup :=
    correlates.once.distinct.sublist (List.sublist_append_right _ _)
  exact congrArg Prod.snd (List.inj_on_of_nodup_map distinct other produced rfl)

theorem correlated_of_separate {platform : Platform Device} {state : State Client Wsi Device}
    (reached : (machine Client Wsi platform).ReachableWhen Separate state) :
    Correlated state := by
  have correlates : Correlates state := by
    refine reached.invariant Correlates ?_ ?_
    · rintro _ ⟨now, rfl⟩
      exact correlates_initial now
    · intro before label next _ correlates separate taken
      exact step_correlates correlates separate taken
  exact correlates.correlated

omit [DecidableEq Client] in
/-- The condition is needed for each response: one that does not fit resolves a promise
of a client that made another request. -/
theorem resolved_of_not_fits {client : Client} {camera : Browser.Camera} (own : OwnNumbers camera)
    {origin : Origin Client} {data : Reply}
    (unfit : ¬correlating.Fits (awaits client camera) (.json origin data)) :
    origin.client ≠ client ∧
      { id := origin.id, data := data } ∈ (camera.onMessage (.json origin data)).resolved := by
  obtain ⟨awaited, foreign⟩ := Classical.not_imp.mp unfit
  obtain ⟨listener, member, same⟩ := List.mem_map.mp awaited
  refine ⟨foreign, ?_⟩
  rw [Browser.Camera.onMessage, Browser.onJsonMessage_spec own.distinct]
  refine List.mem_append_right _ (List.mem_map.mpr ⟨listener, ?_, by rw [same]⟩)
  exact List.mem_filter.mpr ⟨member, decide_eq_true same⟩

/-! ### Runs -/

/-- A client waits for the response to its only request, and then a second one connects
and makes its first. -/
def oneAfterTheOther : List (Label Bool Bool) :=
  [.connect false false, .request false .ping, .receive 0, .run 0] ++
    walk 0 5 ++
    [.writable false, .deliver false, .connect true true, .request true .getConfiguration,
      .receive 0, .run 1] ++ walk 1 7 ++
    [.writable true, .writable false, .deliver true, .deliver false]

theorem correlated_of_oneAfterTheOther :
    ∃ state, (machine Bool Bool Platform.twoSided).runWhen Separate (initial 0)
        oneAfterTheOther = some state ∧
      ((state.cameras false).resolved.length = 1 ∧ (state.cameras true).resolved.length = 1) ∧
      Correlated state := by
  obtain ⟨state, replayed, resolved⟩ := (Option.any_eq_true _ _).mp
    (show ((machine Bool Bool Platform.twoSided).runWhen Separate (initial 0)
        oneAfterTheOther).any (fun state =>
          decide ((state.cameras false).resolved.length = 1 ∧
            (state.cameras true).resolved.length = 1)) = true by
      decide +kernel)
  exact ⟨state, replayed, of_decide_eq_true resolved,
    correlated_of_separate (.runWhen oneAfterTheOther (.initial ⟨0, rfl⟩) replayed)⟩

/-- Two clients make their first requests; the response to one of them is read by both. -/
def sameNumber : List (Label Bool Bool) :=
  [.connect false false, .connect true true, .request false .ping,
    .request true .getConfiguration, .receive 0, .run 0] ++ walk 0 7 ++
    [.writable true, .deliver true]

theorem not_correlated_of_sameNumber :
    ¬∀ state, (machine Bool Bool Platform.twoSided).Reachable state → Correlated state := by
  intro always
  have started : (machine Bool Bool Platform.twoSided).initial (initial 0) := ⟨0, rfl⟩
  obtain ⟨state, reached, crossed⟩ := Machine.exists_reachable_of_run sameNumber
    (fun state : State Bool Bool AVCaptureDevicePosition =>
      (state.cameras true).resolved.any fun answer =>
        decide (({ client := true, id := answer.id }, answer.data) ∉ state.produced))
    started (by decide +kernel)
  obtain ⟨answer, member, missing⟩ := List.any_eq_true.mp crossed
  exact of_decide_eq_true missing (always state reached true answer member).1

end Session
end JSCameraKit

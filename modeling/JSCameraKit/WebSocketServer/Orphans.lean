import JSCameraKit.Library.ListEdit
import JSCameraKit.WebSocketServer.Broadcast

set_option autoImplicit false

/-! Whose entries the queue holds. `eachClient` hands a client to the block outside
the mutex; if the client closes before the block has enqueued its entry, nothing
settles the entry any more, and a connection that reuses the pointer receives it. -/

namespace JSCameraKit
namespace WebSocketServer
namespace Broadcast

open KeyedQueue (ofKey others oldest withoutOldest)
open ListEdit (mem_modify)

section Walks

variable {Wsi Payload : Type}

/-- The client that a call is going to enqueue an entry for. -/
def Call.holding (call : Call Wsi Payload) : Option Wsi :=
  match call.stage with
  | .yielded wsi _ _ _ => if call.kind.enqueues then some wsi else none
  | _ => none

/-- While `_clients` is as it was, a walk has only registered clients before it. -/
def WalksClients (state : State Wsi Payload) (rest : List Wsi) (mutations : Nat) : Prop :=
  mutations ≤ state.mutations ∧
    (mutations = state.mutations → ∀ wsi ∈ rest, wsi ∈ state.queue.clients)

def WalkOk (state : State Wsi Payload) (walk : Kind × Stage Wsi) : Prop :=
  match walk.2 with
  | .enumerating rest mutations | .inside _ rest mutations => WalksClients state rest mutations
  | .yielded wsi connection rest mutations =>
      WalksClients state rest mutations ∧
        (walk.1.enqueues = true →
          connection.isSome = true ∧ state.connections wsi = connection)
  | _ => True

/-! ### What the blocks leave of a call -/

def Call.walk (call : Call Wsi Payload) : Kind × Stage Wsi :=
  (call.kind, call.stage)

theorem settle_walk (call : Call Wsi Payload) (wsi : Option Wsi) :
    (call.settle wsi).walk = call.walk := by
  unfold Call.settle
  split <;> rfl

theorem settleAll_walk (calls : List (Call Wsi Payload))
    (invoked : List (Invocation Wsi (Entry Payload))) :
    (settleAll calls invoked).map Call.walk = calls.map Call.walk :=
  settleAll_map settle_walk calls invoked

private theorem forall_walk {calls after : List (Call Wsi Payload)} {good : Kind × Stage Wsi → Prop}
    (same : after.map Call.walk = calls.map Call.walk)
    (all : ∀ call ∈ calls, good call.walk) : ∀ call ∈ after, good call.walk := by
  intro call member
  have inWalks : call.walk ∈ calls.map Call.walk := same ▸ List.mem_map_of_mem member
  obtain ⟨before, inCalls, same⟩ := List.mem_map.mp inWalks
  exact same ▸ all before inCalls

theorem mem_runBlock {calls : List (Call Wsi Payload)} {number : Nat} {call : Call Wsi Payload}
    (member : call ∈ runBlock calls number) :
    call.stage = .finished ∨ call.walk ∈ calls.map Call.walk := by
  have ran : ∀ other ∈ calls.modify number fun call =>
      { call with ran := call.ran + 1, stage := .finished },
      other.stage = .finished ∨ other.walk ∈ calls.map Call.walk := by
    intro other inRan
    rcases mem_modify inRan with inCalls | ⟨before, _, rfl⟩
    · exact .inr (List.mem_map_of_mem inCalls)
    · exact .inl rfl
  unfold runBlock at member
  dsimp only at member
  split at member
  · rcases mem_modify member with inRan | ⟨before, found, rfl⟩
    · exact ran call inRan
    · exact ran before (List.mem_of_getElem? found)
  · exact ran call member

end Walks

variable {Wsi Payload : Type} [DecidableEq Wsi]

/-! ### The registered clients -/

/-- `_clients` holds each open connection once. -/
structure Registered (state : State Wsi Payload) : Prop where
  paired : state.queue.Paired
  nodup : state.queue.clients.Nodup
  isOpen : ∀ wsi, wsi ∈ state.queue.clients ↔ (state.connections wsi).isSome = true

omit [DecidableEq Wsi] in
theorem Registered.congr {state next : State Wsi Payload} (registered : Registered state)
    (paired : next.queue.Paired) (clients : next.queue.clients = state.queue.clients)
    (connections : next.connections = state.connections) : Registered next := by
  constructor
  · exact paired
  · rw [clients]
    exact registered.nodup
  · rw [clients, connections]
    exact registered.isOpen

omit [DecidableEq Wsi] in
theorem Registered.advance {state next : State Wsi Payload} {number : Nat}
    {call : Call Wsi Payload} (registered : Registered state)
    (taken : Advances state number call next) : Registered next := by
  cases taken with
  | enqueues wsi connection rest mutations _ _ =>
      refine registered.congr ?_ rfl rfl
      rw [registered.paired.waitForWriteable]
      exact WriteQueue.paired_ofEntries _ _
  | _ => exact registered.congr registered.paired rfl rfl

theorem Registered.onConnectionClose {state : State Wsi Payload} (registered : Registered state)
    {wsi : Wsi} (present : state.connections wsi ≠ none) :
    state.queue.onConnectionClose wsi =
      some (WriteQueue.ofEntries (state.queue.clients.erase wsi) (others wsi state.queue.entries),
        (ofKey wsi state.queue.entries).map fun entry => (entry.1, none)) := by
  have known := (registered.isOpen wsi).mpr (Option.isSome_iff_ne_none.mpr present)
  exact registered.paired.onConnectionClose registered.nodup known

theorem step_registered {state next : State Wsi Payload} {label : Label Wsi Payload}
    (registered : Registered state) (taken : step state label = some next) :
    Registered next := by
  cases label with
  | established wsi =>
      simp only [step, Option.ite_none_right_eq_some, Option.some.injEq] at taken
      obtain ⟨absent, rfl⟩ := taken
      have unknown : wsi ∉ state.queue.clients := by
        intro member
        have known := (registered.isOpen wsi).mp member
        rw [absent] at known
        cases known
      constructor
      · rw [registered.paired.onClientAdded]
        exact WriteQueue.paired_ofEntries _ _
      · exact List.nodup_append.mpr ⟨registered.nodup, List.nodup_singleton wsi, by
          rintro other member _ same rfl
          exact unknown (List.mem_singleton.mp same ▸ member)⟩
      · intro other
        by_cases same : other = wsi
        · simp [WriteQueue.onClientAdded, same]
        · simp [WriteQueue.onClientAdded, same, registered.isOpen other]
  | closed wsi =>
      simp only [step, Option.ite_none_left_eq_some] at taken
      obtain ⟨present, taken⟩ := taken
      rw [registered.onConnectionClose present] at taken
      cases taken
      constructor
      · exact WriteQueue.paired_ofEntries _ _
      · exact registered.nodup.erase wsi
      · intro other
        by_cases same : other = wsi
        · simp [afterOutcome, same, registered.nodup.not_mem_erase]
        · simp [afterOutcome, same, List.mem_erase_of_ne same, registered.isOpen other]
  | writable wsi =>
      simp only [step, Option.ite_none_left_eq_some] at taken
      obtain ⟨_, taken⟩ := taken
      rw [registered.paired.onClientWritable] at taken
      cases taken
      exact registered.congr (WriteQueue.paired_ofEntries _ _) rfl rfl
  | cancelAllWrites =>
      simp only [step, registered.paired.cancelAllWrites] at taken
      cases taken
      exact registered.congr (WriteQueue.paired_ofEntries _ _) rfl rfl
  | writeString payload hasBlock | writeData payload hasBlock | writeDatas payload hasBlock =>
      cases taken
      exact registered.congr registered.paired rfl rfl
  | advance number =>
      obtain ⟨call, found, taken⟩ := Option.bind_eq_some_iff.mp taken
      exact registered.advance (advance_cases taken)

omit [DecidableEq Wsi] in
theorem registered_initial : Registered (initial : State Wsi Payload) :=
  { paired := rfl
    nodup := List.nodup_nil
    isOpen := by simp [initial, WriteQueue.init] }

theorem reachable_registered {state : State Wsi Payload}
    (reached : (machine Wsi Payload).Reachable state) : Registered state := by
  refine reached.invariant Registered ?_ ?_
  · rintro state rfl
    exact registered_initial
  · intro before label next _ registered taken
    exact step_registered registered taken

/-! ### The condition -/

/-- No connection closes while a call holds its client. -/
def Unheld (state : State Wsi Payload) : Label Wsi Payload → Prop
  | .closed wsi => ∀ call ∈ state.calls, call.holding ≠ some wsi
  | _ => True

instance (state : State Wsi Payload) :
    ∀ label : Label Wsi Payload, Decidable (Unheld state label)
  | .closed wsi => inferInstanceAs (Decidable (∀ call ∈ state.calls, call.holding ≠ some wsi))
  | .established _ | .writable _ | .cancelAllWrites | .writeString _ _ | .writeData _ _
  | .writeDatas _ _ | .advance _ => inferInstanceAs (Decidable True)

/-! ### The entries of open connections -/

/-- An entry is pending for the connection that its client had when it was yielded. -/
def Own (connections : Wsi → Option Nat) (entry : Entry Payload × Wsi) : Prop :=
  entry.1.connection.isSome = true ∧ connections entry.2 = entry.1.connection

structure Attached (state : State Wsi Payload) : Prop where
  walks : ∀ call ∈ state.calls, WalkOk state call.walk
  entries : ∀ entry ∈ state.queue.entries, Own state.connections entry
  sent : ∀ delivery ∈ state.sent, delivery.2 = delivery.1.connection

omit [DecidableEq Wsi] in
theorem Attached.walks_setStage {state : State Wsi Payload} (attached : Attached state)
    {number : Nat} {change : Call Wsi Payload → Call Wsi Payload}
    (ok : ∀ call, state.calls[number]? = some call → WalkOk state (change call).walk) :
    ∀ call ∈ state.calls.modify number change, WalkOk state call.walk := by
  intro call member
  rcases mem_modify member with inCalls | ⟨before, found, rfl⟩
  · exact attached.walks call inCalls
  · exact ok before found

omit [DecidableEq Wsi] in
theorem Attached.walks_runBlock {state : State Wsi Payload} (attached : Attached state)
    (number : Nat) : ∀ call ∈ runBlock state.calls number, WalkOk state call.walk := by
  intro call member
  rcases mem_runBlock member with finished | inWalks
  · simp [WalkOk, Call.walk, finished]
  · obtain ⟨before, inCalls, same⟩ := List.mem_map.mp inWalks
    exact same ▸ attached.walks before inCalls

omit [DecidableEq Wsi] in
/-- Every statement of a call keeps the entries those of open connections: the client
that is yielded is registered, and is still so when its entry is enqueued. -/
theorem Attached.advance {state next : State Wsi Payload} {number : Nat}
    {call : Call Wsi Payload} (attached : Attached state) (registered : Registered state)
    (found : state.calls[number]? = some call) (taken : Advances state number call next) :
    Attached next := by
  have ok := attached.walks call (List.mem_of_getElem? found)
  cases taken with
  | returnsAtOnce _ _ | completes _ _ =>
      exact { attached with walks := attached.walks_runBlock number }
  | starts _ | ends _ _ =>
      exact { attached with walks := attached.walks_setStage fun _ _ => trivial }
  | begins _ =>
      exact
        { attached with
          walks := attached.walks_setStage fun _ _ => ⟨Nat.le_refl _, fun _ _ member => member⟩ }
  | yields wsi rest stage =>
      have clients : ∀ other ∈ wsi :: rest, other ∈ state.queue.clients := by
        simp only [WalkOk, Call.walk, stage] at ok
        exact ok.2 rfl
      have known := (registered.isOpen wsi).mp (clients wsi List.mem_cons_self)
      refine { attached with walks := attached.walks_setStage fun _ _ => ?_ }
      constructor
      · exact ⟨Nat.le_refl _, fun _ other member => clients other (List.mem_cons_of_mem _ member)⟩
      · exact fun _ => ⟨known, rfl⟩
  | enqueues wsi connection rest mutations stage enqueues =>
      simp only [WalkOk, Call.walk, stage] at ok
      obtain ⟨walks, owned⟩ := ok
      constructor
      · exact attached.walks_setStage fun _ _ => walks
      · simp only [registered.paired.waitForWriteable, WriteQueue.entries_ofEntries]
        intro entry member
        rcases List.mem_append.mp member with earlier | added
        · exact attached.entries entry earlier
        · cases List.mem_singleton.mp added
          exact owned enqueues
      · exact attached.sent
  | nests wsi connection rest mutations stage _ =>
      simp only [WalkOk, Call.walk, stage] at ok
      have kept : ∀ other ∈ setStage state.calls number (.inside state.calls.length rest mutations),
          WalkOk state other.walk := attached.walks_setStage fun _ _ => ok.1
      refine { attached with walks := ?_ }
      intro other member
      rcases List.mem_append.mp member with earlier | added
      · exact kept other earlier
      · cases List.mem_singleton.mp added
        trivial
  | resumes nested rest mutations inner stage _ _ =>
      simp only [WalkOk, Call.walk, stage] at ok
      exact { attached with walks := attached.walks_setStage fun _ _ => ok }

omit [DecidableEq Wsi] in
theorem Attached.walks_settleAll {state : State Wsi Payload} (attached : Attached state)
    (invoked : List (Invocation Wsi (Entry Payload))) :
    ∀ call ∈ settleAll state.calls invoked, WalkOk state call.walk :=
  forall_walk (settleAll_walk state.calls invoked) attached.walks

omit [DecidableEq Wsi] in
theorem Attached.call {state : State Wsi Payload} (attached : Attached state) (kind : Kind)
    (payload : Payload) : Attached { state with calls := state.calls ++ [newCall kind payload] } := by
  refine { attached with walks := ?_ }
  intro call member
  rcases List.mem_append.mp member with earlier | added
  · exact attached.walks call earlier
  · cases List.mem_singleton.mp added
    trivial

omit [DecidableEq Wsi] in
theorem WalksClients.mutated {state next : State Wsi Payload} {rest : List Wsi}
    {mutations : Nat} (later : next.mutations = state.mutations + 1)
    (walks : WalksClients state rest mutations) : WalksClients next rest mutations := by
  unfold WalksClients at walks ⊢
  constructor
  · omega
  · intro same
    omega

omit [DecidableEq Wsi] in
/-- Where `_clients` changes, a walk keeps the connection of the client that it holds. -/
theorem Attached.walks_mutated {state next : State Wsi Payload} (attached : Attached state)
    (later : next.mutations = state.mutations + 1)
    (kept : ∀ call ∈ state.calls, ∀ held connection, call.holding = some held →
      connection.isSome = true → state.connections held = connection →
      next.connections held = connection) :
    ∀ call ∈ state.calls, WalkOk next call.walk := by
  intro call member
  have ok := attached.walks call member
  simp only [WalkOk, Call.walk] at ok ⊢
  cases stage : call.stage with
  | enumerating rest mutations | inside nested rest mutations =>
      rw [stage] at ok
      exact ok.mutated later
  | yielded held connection rest mutations =>
      rw [stage] at ok
      refine ⟨ok.1.mutated later, fun enqueues => ?_⟩
      obtain ⟨present, same⟩ := ok.2 enqueues
      have holds : call.holding = some held := by
        rw [Call.holding, stage]
        exact if_pos enqueues
      exact ⟨present, kept call member held connection holds present same⟩
  | _ => trivial

theorem Attached.established {state : State Wsi Payload} (attached : Attached state)
    (registered : Registered state) {wsi : Wsi} (absent : state.connections wsi = none) :
    Attached
      { state with
        queue := state.queue.onClientAdded wsi
        mutations := state.mutations + 1
        connections := fun other =>
          if other = wsi then some state.established else state.connections other
        established := state.established + 1 } := by
  have kept : ∀ (other : Wsi) (connection : Option Nat), connection.isSome = true →
      state.connections other = connection →
      (if other = wsi then some state.established else state.connections other) = connection := by
    intro other connection present same
    have different : other ≠ wsi := by
      rintro rfl
      rw [← same, absent] at present
      cases present
    rwa [if_neg different]
  constructor
  · exact attached.walks_mutated rfl fun _ _ held connection _ => kept held connection
  · rw [registered.paired.onClientAdded]
    simp only [WriteQueue.entries_ofEntries]
    intro entry member
    obtain ⟨present, same⟩ := attached.entries entry member
    exact ⟨present, kept _ _ present same⟩
  · exact attached.sent

theorem Attached.closed {state : State Wsi Payload} (attached : Attached state) {wsi : Wsi}
    {clients : List Wsi} {invoked : List (Invocation Wsi (Entry Payload))}
    (unheld : Unheld state (.closed wsi : Label Wsi Payload)) :
    Attached
      { state with
        queue := WriteQueue.ofEntries clients (others wsi state.queue.entries)
        calls := settleAll state.calls invoked
        mutations := state.mutations + 1
        connections := fun other => if other = wsi then none else state.connections other } := by
  have walks : ∀ call ∈ state.calls, WalkOk
      { state with
        queue := WriteQueue.ofEntries clients (others wsi state.queue.entries)
        calls := settleAll state.calls invoked
        mutations := state.mutations + 1
        connections := fun other => if other = wsi then none else state.connections other }
      call.walk := by
    apply attached.walks_mutated rfl
    intro call member held connection holds _ same
    have different : held ≠ wsi := by
      rintro rfl
      exact unheld call member holds
    simpa only [if_neg different] using same
  constructor
  · exact forall_walk (settleAll_walk state.calls invoked) walks
  · simp only [WriteQueue.entries_ofEntries]
    intro entry member
    obtain ⟨inEntries, different⟩ := KeyedQueue.mem_others.mp member
    obtain ⟨present, same⟩ := attached.entries entry inEntries
    refine ⟨present, ?_⟩
    simpa only [if_neg different] using same
  · exact attached.sent

theorem Attached.writable {state : State Wsi Payload} (attached : Attached state) (wsi : Wsi) :
    ∀ delivery ∈ state.sent ++
      (((oldest wsi state.queue.entries).map fun entry => (entry.1, some wsi)).toList).map
        (fun invocation => (invocation.1, state.connections wsi)),
      delivery.2 = delivery.1.connection := by
  intro delivery member
  rcases List.mem_append.mp member with earlier | delivered
  · exact attached.sent delivery earlier
  · cases found : oldest wsi state.queue.entries with
    | none => simp [found] at delivered
    | some entry =>
        obtain rfl : delivery = (entry.1, state.connections wsi) := by simpa [found] using delivered
        have owned := attached.entries entry (List.mem_of_find?_eq_some found)
        rw [← KeyedQueue.oldest_key found]
        exact owned.2

private theorem step_attached {state next : State Wsi Payload} {label : Label Wsi Payload}
    (attached : Attached state) (registered : Registered state) (unheld : Unheld state label)
    (taken : step state label = some next) : Attached next := by
  cases label with
  | established wsi =>
      simp only [step, Option.ite_none_right_eq_some, Option.some.injEq] at taken
      obtain ⟨absent, rfl⟩ := taken
      exact attached.established registered absent
  | closed wsi =>
      simp only [step, Option.ite_none_left_eq_some] at taken
      obtain ⟨present, taken⟩ := taken
      rw [registered.onConnectionClose present] at taken
      cases taken
      exact attached.closed unheld
  | writable wsi =>
      simp only [step, Option.ite_none_left_eq_some] at taken
      obtain ⟨_, taken⟩ := taken
      rw [registered.paired.onClientWritable] at taken
      cases taken
      constructor
      · exact attached.walks_settleAll _
      · simp only [afterOutcome, WriteQueue.entries_ofEntries]
        intro entry member
        exact attached.entries entry (KeyedQueue.withoutOldest_subset wsi _ member)
      · exact attached.writable wsi
  | cancelAllWrites =>
      simp only [step, registered.paired.cancelAllWrites] at taken
      cases taken
      constructor
      · exact attached.walks_settleAll _
      · simp [afterOutcome]
      · exact attached.sent
  | writeString payload hasBlock | writeData payload hasBlock | writeDatas payload hasBlock =>
      cases taken
      exact attached.call _ payload
  | advance number =>
      obtain ⟨call, found, taken⟩ := Option.bind_eq_some_iff.mp taken
      exact attached.advance registered found (advance_cases taken)

/-! ### No orphans -/

/-- `_clients` is the set of open connections, and every entry waits for, and went to,
the connection it was enqueued for. -/
structure NoOrphans (state : State Wsi Payload) : Prop where
  distinct : state.queue.clients.Nodup
  isOpen : ∀ wsi, wsi ∈ state.queue.clients ↔ state.connections wsi ≠ none
  pointers : ∀ ptr ∈ state.queue.clientWriteablePtrs, ptr ∈ state.queue.clients
  pending : ∀ entry ptr, (entry, ptr) ∈ state.queue.entries →
    state.connections ptr = entry.connection
  delivered : ∀ entry connection, (entry, connection) ∈ state.sent →
    connection = entry.connection

omit [DecidableEq Wsi] in
theorem Attached.noOrphans {state : State Wsi Payload} (attached : Attached state)
    (registered : Registered state) : NoOrphans state := by
  constructor
  · exact registered.nodup
  · intro wsi
    rw [registered.isOpen, Option.isSome_iff_ne_none]
  · intro ptr member
    have ptrs : state.queue.entries.map Prod.snd = state.queue.clientWriteablePtrs :=
      List.map_snd_zip (Nat.le_of_eq registered.paired.symm)
    rw [← ptrs] at member
    obtain ⟨entry, inEntries, rfl⟩ := List.mem_map.mp member
    obtain ⟨present, same⟩ := attached.entries entry inEntries
    exact (registered.isOpen entry.2).mpr (same ▸ present)
  · exact fun entry ptr member => (attached.entries (entry, ptr) member).2
  · exact fun entry connection member => attached.sent (entry, connection) member

/-- In every run in which no connection closes between the yield of its client and the
enqueue of its entry, no entry is orphaned. -/
theorem noOrphans_of_unheld {state : State Wsi Payload}
    (reached : (machine Wsi Payload).ReachableWhen Unheld state) : NoOrphans state := by
  have holds : Registered state ∧ Attached state := by
    refine reached.invariant (fun state => Registered state ∧ Attached state) ?_ ?_
    · rintro state rfl
      exact ⟨registered_initial, ⟨nofun, nofun, nofun⟩⟩
    · intro before label next _ ⟨registered, attached⟩ unheld taken
      exact ⟨step_registered registered taken, step_attached attached registered unheld taken⟩
  exact holds.2.noOrphans holds.1

/-- The condition is needed at each step: an entry enqueued for a client that closed
meanwhile is an orphan. -/
theorem orphan_of_held_close {state closed : State Wsi Payload} (registered : Registered state)
    {wsi : Wsi} {number : Nat} {call : Call Wsi Payload}
    (found : state.calls[number]? = some call) (holds : call.holding = some wsi)
    (taken : step state (.closed wsi) = some closed) :
    ∃ orphaned, step closed (.advance number) = some orphaned ∧
      wsi ∈ orphaned.queue.clientWriteablePtrs ∧ wsi ∉ orphaned.queue.clients := by
  simp only [step, Option.ite_none_left_eq_some] at taken
  obtain ⟨present, taken⟩ := taken
  rw [registered.onConnectionClose present] at taken
  cases taken
  have walk := congrArg (fun walks => walks[number]?) (settleAll_walk state.calls
    ((ofKey wsi state.queue.entries).map fun entry => (entry.1, none)))
  simp only [List.getElem?_map, found, Option.map_some, Option.map_eq_some_iff] at walk
  obtain ⟨after, foundAfter, same⟩ := walk
  obtain ⟨kind, stage⟩ := Prod.mk.inj same
  unfold Call.holding at holds
  split at holds
  · rename_i held connection rest mutations atStage
    rw [Option.ite_none_right_eq_some, Option.some.injEq] at holds
    obtain ⟨enqueues, rfl⟩ := holds
    rw [atStage] at stage
    rw [← kind] at enqueues
    simp only [step, afterOutcome, foundAfter, Option.bind_some]
    unfold advance
    rw [stage]
    dsimp only
    split
    · rename_i hasBlock data
      rw [data] at enqueues
      cases enqueues
    · refine ⟨_, rfl, ?_, ?_⟩
      · exact List.mem_append_right _ List.mem_cons_self
      · exact registered.nodup.not_mem_erase
  · cases holds

def writtenThenClosed : List (Label Nat Unit) :=
  [.established 7, .writeDatas () true, .advance 0, .advance 0, .advance 0, .advance 0,
    .advance 0, .writable 7, .advance 0, .closed 7]

theorem noOrphans_of_writtenThenClosed :
    ∃ state, (machine Nat Unit).runWhen Unheld initial writtenThenClosed = some state ∧
      state.sent.length = 1 ∧ NoOrphans state := by
  obtain ⟨state, replayed, sent⟩ := (Option.any_eq_true _ _).mp
    (show ((machine Nat Unit).runWhen Unheld initial writtenThenClosed).any
        (fun state => decide (state.sent.length = 1)) = true by decide)
  exact ⟨state, replayed, of_decide_eq_true sent,
    noOrphans_of_unheld (.runWhen writtenThenClosed (.initial rfl) replayed)⟩

/-- The client closes while `eachClient` holds it, and a later connection reuses its
pointer. -/
def reusedPointer : List (Label Nat Unit) :=
  [.established 7, .writeDatas () true, .advance 0, .advance 0, .advance 0, .closed 7,
    .advance 0, .established 7, .writable 7]

theorem not_noOrphans_of_reusedPointer :
    ¬∀ state, (machine Nat Unit).Reachable state → NoOrphans state := by
  intro always
  have started : (machine Nat Unit).initial initial := rfl
  obtain ⟨state, reached, misdelivered⟩ := Machine.exists_reachable_of_run reusedPointer
    (fun state : State Nat Unit => state.sent.any fun delivery =>
      decide (delivery.2 ≠ delivery.1.connection)) started (by decide)
  obtain ⟨delivery, member, different⟩ := List.any_eq_true.mp misdelivered
  exact of_decide_eq_true different ((always state reached).delivered _ _ member)

end Broadcast
end WebSocketServer
end JSCameraKit

import JSCameraKit.Library.KeyedQueue

set_option autoImplicit false

/-! The arrays of `WebSocketServer` and the four operations that edit them under
`clientWriteableMutex`. The two arrays of the queue are kept apart and edited by
index, as the source does; an index out of range is the `NSRangeException` that
`objectAtIndex:` and `removeObjectAtIndex:` raise, here `none`. -/

namespace JSCameraKit
namespace WebSocketServer

open KeyedQueue (ofKey others oldest withoutOldest)

structure WriteQueue (Wsi Callback : Type) where
  clients : List Wsi
  clientWriteableCallbacks : List Callback
  clientWriteablePtrs : List Wsi

/-- A call of a pending block with a socket, or with `nil`. -/
abbrev Invocation (Wsi Callback : Type) := Callback × Option Wsi

/-- What an operation leaves in the arrays and which blocks it calls, in order. -/
abbrev Outcome (Wsi Callback : Type) :=
  WriteQueue Wsi Callback × List (Invocation Wsi Callback)

def removeObjectAtIndex {Object : Type} (objects : List Object) (index : Nat) :
    Option (List Object) :=
  if index < objects.length then some (objects.eraseIdx index) else none

namespace WriteQueue

section Operations

variable {Wsi Callback : Type}

def init : WriteQueue Wsi Callback :=
  { clients := [], clientWriteableCallbacks := [], clientWriteablePtrs := [] }

def onClientAdded (queue : WriteQueue Wsi Callback) (wsi : Wsi) : WriteQueue Wsi Callback :=
  { queue with clients := queue.clients ++ [wsi] }

/-- The array updates of `waitForWriteable:onClient:`. -/
def waitForWriteable (queue : WriteQueue Wsi Callback) (block : Callback) (wsi : Wsi) :
    WriteQueue Wsi Callback :=
  { queue with
    clientWriteableCallbacks := queue.clientWriteableCallbacks ++ [block]
    clientWriteablePtrs := queue.clientWriteablePtrs ++ [wsi] }

/-- The `while` loop of `cancelAllWrites`; each round takes index 0 of both arrays. -/
def cancelAllWritesLoop : List Callback → List Wsi →
    Option (List Wsi × List (Invocation Wsi Callback))
  | [], ptrs => some (ptrs, [])
  | cb :: callbacks, ptrs => do
      let ptrs ← removeObjectAtIndex ptrs 0
      let (ptrs, invoked) ← cancelAllWritesLoop callbacks ptrs
      some (ptrs, (cb, none) :: invoked)

def cancelAllWrites (queue : WriteQueue Wsi Callback) : Option (Outcome Wsi Callback) := do
  let (ptrs, invoked) ←
    cancelAllWritesLoop queue.clientWriteableCallbacks queue.clientWriteablePtrs
  some ({ queue with clientWriteableCallbacks := [], clientWriteablePtrs := ptrs }, invoked)

variable [DecidableEq Wsi]

/-- The loop of `onClientWritable:` at index `i`; the list holds the pointers
from index `i` on. The first match is called, removed and ends the loop. -/
def onClientWritableFrom (queue : WriteQueue Wsi Callback) (wsi : Wsi) (i : Nat) :
    List Wsi → Option (Outcome Wsi Callback)
  | [] => some (queue, [])
  | ptr :: rest =>
      if wsi = ptr then do
        let cb ← queue.clientWriteableCallbacks[i]?
        let callbacks ← removeObjectAtIndex queue.clientWriteableCallbacks i
        let ptrs ← removeObjectAtIndex queue.clientWriteablePtrs i
        some ({ queue with clientWriteableCallbacks := callbacks, clientWriteablePtrs := ptrs },
          [(cb, some ptr)])
      else onClientWritableFrom queue wsi (i + 1) rest

def onClientWritable (queue : WriteQueue Wsi Callback) (wsi : Wsi) :
    Option (Outcome Wsi Callback) :=
  queue.onClientWritableFrom wsi 0 queue.clientWriteablePtrs

/-- The inner loop of `onConnectionClose:` at its own index `i`. A removal is
followed by `i--`, so the next round looks at the same index. -/
def purgeFrom (wsi : Wsi) (i : Nat) (queue : WriteQueue Wsi Callback) :
    List Wsi → Option (Outcome Wsi Callback)
  | [] => some (queue, [])
  | ptr :: rest =>
      if ptr = wsi then do
        let cb ← queue.clientWriteableCallbacks[i]?
        let ptrs ← removeObjectAtIndex queue.clientWriteablePtrs i
        let callbacks ← removeObjectAtIndex queue.clientWriteableCallbacks i
        let (queue, invoked) ← purgeFrom wsi i
          { queue with clientWriteableCallbacks := callbacks, clientWriteablePtrs := ptrs } rest
        some (queue, (cb, none) :: invoked)
      else purgeFrom wsi (i + 1) queue rest

/-- The outer loop of `onConnectionClose:` at index `i` of `_clients`. The index
still advances after a removal, so the client that moved into place is skipped.
Every round advances it, so the initial count bounds the rounds. -/
def onConnectionCloseLoop (wsi : Wsi) :
    (rounds i : Nat) → WriteQueue Wsi Callback → Option (Outcome Wsi Callback)
  | 0, _, queue => some (queue, [])
  | rounds + 1, i, queue =>
      match queue.clients[i]? with
      | none => some (queue, [])
      | some value =>
          if wsi = value then do
            let clients ← removeObjectAtIndex queue.clients i
            let (queue, invoked) ←
              purgeFrom wsi 0 { queue with clients := clients } queue.clientWriteablePtrs
            let (queue, later) ← onConnectionCloseLoop wsi rounds (i + 1) queue
            some (queue, invoked ++ later)
          else onConnectionCloseLoop wsi rounds (i + 1) queue

def onConnectionClose (queue : WriteQueue Wsi Callback) (wsi : Wsi) :
    Option (Outcome Wsi Callback) :=
  onConnectionCloseLoop wsi queue.clients.length 0 queue

end Operations

/-! ### The arrays as one queue of entries -/

variable {Wsi Callback : Type}

/-- Arrays that hold the callback and the pointer of each entry at one index. -/
def ofEntries (clients : List Wsi) (entries : List (Callback × Wsi)) : WriteQueue Wsi Callback :=
  { clients := clients
    clientWriteableCallbacks := entries.map Prod.fst
    clientWriteablePtrs := entries.map Prod.snd }

def entries (queue : WriteQueue Wsi Callback) : List (Callback × Wsi) :=
  queue.clientWriteableCallbacks.zip queue.clientWriteablePtrs

def Paired (queue : WriteQueue Wsi Callback) : Prop :=
  queue.clientWriteableCallbacks.length = queue.clientWriteablePtrs.length

@[simp] theorem entries_ofEntries (clients : List Wsi) (entries : List (Callback × Wsi)) :
    (ofEntries clients entries).entries = entries := by
  have zipped := List.zip_unzip entries
  rwa [List.unzip_eq_map] at zipped

@[simp] theorem clients_ofEntries (clients : List Wsi) (entries : List (Callback × Wsi)) :
    (ofEntries clients entries).clients = clients := rfl

theorem paired_ofEntries (clients : List Wsi) (entries : List (Callback × Wsi)) :
    (ofEntries clients entries).Paired := by
  simp [Paired, ofEntries]

theorem Paired.eq_ofEntries {queue : WriteQueue Wsi Callback} (paired : queue.Paired) :
    queue = ofEntries queue.clients queue.entries := by
  rcases queue with ⟨clients, callbacks, ptrs⟩
  have same : callbacks.length = ptrs.length := paired
  simp [ofEntries, entries, List.map_fst_zip (Nat.le_of_eq same),
    List.map_snd_zip (Nat.le_of_eq same.symm)]

/-! ### What each operation does to the entries -/

theorem waitForWriteable_ofEntries (clients : List Wsi) (entries : List (Callback × Wsi))
    (block : Callback) (wsi : Wsi) :
    (ofEntries clients entries).waitForWriteable block wsi =
      ofEntries clients (entries ++ [(block, wsi)]) := by
  simp [ofEntries, waitForWriteable]

private theorem onClientAdded_ofEntries (clients : List Wsi) (entries : List (Callback × Wsi))
    (wsi : Wsi) :
    (ofEntries clients entries).onClientAdded wsi = ofEntries (clients ++ [wsi]) entries := rfl

private theorem cancelAllWritesLoop_entries (entries : List (Callback × Wsi)) :
    cancelAllWritesLoop (entries.map Prod.fst) (entries.map Prod.snd) =
      some ([], entries.map fun entry => (entry.1, none)) := by
  induction entries with
  | nil => rfl
  | cons entry rest ih =>
      simp [cancelAllWritesLoop, removeObjectAtIndex, ih]

private theorem cancelAllWrites_ofEntries (clients : List Wsi) (entries : List (Callback × Wsi)) :
    (ofEntries clients entries).cancelAllWrites =
      some (ofEntries clients [], entries.map fun entry => (entry.1, none)) := by
  have loop := cancelAllWritesLoop_entries entries
  simp only [cancelAllWrites, ofEntries, loop]
  rfl

private theorem removeObjectAtIndex_middle {Object : Type} (before after : List Object)
    (object : Object) :
    removeObjectAtIndex (before ++ object :: after) before.length = some (before ++ after) := by
  have inRange : before.length < (before ++ object :: after).length := by simp
  rw [removeObjectAtIndex, if_pos inRange, List.eraseIdx_append_of_length_le (Nat.le_refl _)]
  simp

private theorem removeObjectAtIndex_map {Object Image : Type} (f : Object → Image)
    (before after : List Object) (object : Object) :
    removeObjectAtIndex ((before ++ object :: after).map f) before.length =
      some ((before ++ after).map f) := by
  simpa using removeObjectAtIndex_middle (before.map f) (after.map f) (f object)

private theorem callback_middle (clients : List Wsi) (before after : List (Callback × Wsi))
    (entry : Callback × Wsi) :
    (ofEntries clients (before ++ entry :: after)).clientWriteableCallbacks[before.length]? =
      some entry.1 := by
  simp [ofEntries]

variable [DecidableEq Wsi]

/-- The loop finds the oldest entry of the client. The induction is on the
entries not yet looked at, none of those before being the client's. -/
theorem onClientWritableFrom_ofEntries (clients : List Wsi) (wsi : Wsi)
    (before after : List (Callback × Wsi)) (skipped : ofKey wsi before = []) :
    (ofEntries clients (before ++ after)).onClientWritableFrom wsi before.length
        (after.map Prod.snd) =
      some (ofEntries clients (withoutOldest wsi (before ++ after)),
        ((oldest wsi (before ++ after)).map fun entry => (entry.1, some wsi)).toList) := by
  induction after generalizing before with
  | nil =>
      have missing : oldest wsi (before ++ []) = none := by
        rw [List.append_nil]
        exact KeyedQueue.oldest_eq_none.mpr skipped
      rw [missing, KeyedQueue.withoutOldest_of_none missing]
      rfl
  | cons entry rest ih =>
      rw [List.map_cons, onClientWritableFrom]
      by_cases same : wsi = entry.2
      · subst same
        rw [if_pos rfl, callback_middle]
        have passed : ∀ other ∈ before, other.2 ≠ entry.2 := by
          intro other member atKey
          have inKey := KeyedQueue.mem_ofKey.mpr ⟨member, atKey⟩
          rw [skipped] at inKey
          cases inKey
        have found : oldest entry.2 (before ++ entry :: rest) = some entry := by
          refine List.find?_eq_some_iff_append.mpr ⟨by simp, before, rest, rfl, ?_⟩
          intro other member
          simpa using passed other member
        have taken : withoutOldest entry.2 (before ++ entry :: rest) = before ++ rest := by
          rw [withoutOldest, List.eraseP_append_right]
          · simp
          · intro other member
            simpa using passed other member
        rw [found, taken]
        simp only [ofEntries, removeObjectAtIndex_map, Option.bind_eq_bind, Option.bind_some]
        rfl
      · rw [if_neg same]
        have next := ih (before ++ [entry]) (by
          rw [KeyedQueue.ofKey_append, skipped,
            KeyedQueue.ofKey_cons_other (fun atKey => same atKey.symm)]
          rfl)
        simpa using next

theorem onClientWritable_ofEntries (clients : List Wsi) (entries : List (Callback × Wsi))
    (wsi : Wsi) :
    (ofEntries clients entries).onClientWritable wsi =
      some (ofEntries clients (withoutOldest wsi entries),
        ((oldest wsi entries).map fun entry => (entry.1, some wsi)).toList) :=
  onClientWritableFrom_ofEntries clients wsi [] entries rfl

/-- The inner loop keeps the entries of the others and calls those of the client. -/
theorem purgeFrom_ofEntries (clients : List Wsi) (wsi : Wsi)
    (before after : List (Callback × Wsi)) :
    purgeFrom wsi before.length (ofEntries clients (before ++ after)) (after.map Prod.snd) =
      some (ofEntries clients (before ++ others wsi after),
        (ofKey wsi after).map fun entry => (entry.1, none)) := by
  induction after generalizing before with
  | nil => rfl
  | cons entry rest ih =>
      rw [List.map_cons, purgeFrom]
      by_cases same : entry.2 = wsi
      · have here := ih before
        subst same
        rw [if_pos rfl, callback_middle]
        simp only [ofEntries, removeObjectAtIndex_map, Option.bind_eq_bind,
          Option.bind_some] at here ⊢
        rw [here]
        simp [ofKey, others]
      · rw [if_neg same]
        have next := ih (before ++ [entry])
        simpa [ofKey, others, same] using next

private theorem purge_ofEntries (clients : List Wsi) (wsi : Wsi) (entries : List (Callback × Wsi)) :
    purgeFrom wsi 0 (ofEntries clients entries) (entries.map Prod.snd) =
      some (ofEntries clients (others wsi entries),
        (ofKey wsi entries).map fun entry => (entry.1, none)) :=
  purgeFrom_ofEntries clients wsi [] entries

/-- What the outer loop leaves of `_clients`: it drops each match it looks at and
skips the client behind it. -/
def closedClients (wsi : Wsi) : List Wsi → List Wsi
  | [] => []
  | [value] => if wsi = value then [] else [value]
  | value :: next :: rest =>
      if wsi = value then next :: closedClients wsi rest
      else value :: closedClients wsi (next :: rest)

private theorem closedClients_absent {wsi : Wsi} {clients : List Wsi} (absent : wsi ∉ clients) :
    closedClients wsi clients = clients := by
  induction clients using closedClients.induct wsi with
  | case1 => rfl
  | case2 => simp at absent
  | case3 value different => simp [closedClients, different]
  | case4 next rest => simp at absent
  | case5 value next rest different ih =>
      rw [List.mem_cons, not_or] at absent
      rw [closedClients, if_neg different, ih absent.2]

private theorem closedClients_nodup {wsi : Wsi} {clients : List Wsi} (distinct : clients.Nodup) :
    closedClients wsi clients = clients.erase wsi := by
  induction clients using closedClients.induct wsi with
  | case1 => rfl
  | case2 => simp [closedClients]
  | case3 value different =>
      have away : value ≠ wsi := fun same => different same.symm
      simp [closedClients, different, List.erase_cons_tail, away]
  | case4 next rest ih =>
      obtain ⟨fresh, _⟩ := List.nodup_cons.mp distinct
      have absent : wsi ∉ rest := fun member => fresh (List.mem_cons_of_mem _ member)
      rw [closedClients, if_pos rfl, List.erase_cons_head, closedClients_absent absent]
  | case5 value next rest different ih =>
      obtain ⟨_, restDistinct⟩ := List.nodup_cons.mp distinct
      have away : ¬(value == wsi) = true := by simpa using fun same => different same.symm
      rw [closedClients, if_neg different, ih restDistinct, List.erase_cons_tail away]

private theorem onConnectionCloseLoop_end (wsi : Wsi) (rounds i : Nat) (clients : List Wsi)
    (entries : List (Callback × Wsi)) (past : clients.length ≤ i) :
    onConnectionCloseLoop wsi rounds i (ofEntries clients entries) =
      some (ofEntries clients entries, []) := by
  cases rounds with
  | zero => rfl
  | succ rounds =>
      rw [onConnectionCloseLoop, clients_ofEntries, List.getElem?_eq_none past]

private theorem onConnectionCloseLoop_other {wsi value : Wsi} (different : wsi ≠ value)
    (rounds : Nat)
    (before after : List Wsi) (entries : List (Callback × Wsi)) :
    onConnectionCloseLoop wsi (rounds + 1) before.length
        (ofEntries (before ++ value :: after) entries) =
      onConnectionCloseLoop wsi rounds (before.length + 1)
        (ofEntries (before ++ value :: after) entries) := by
  have here : (before ++ value :: after)[before.length]? = some value := by simp
  simp only [onConnectionCloseLoop, clients_ofEntries, here, if_neg different]

private theorem onConnectionCloseLoop_match (wsi : Wsi) (rounds : Nat) (before after : List Wsi)
    (entries : List (Callback × Wsi)) :
    onConnectionCloseLoop wsi (rounds + 1) before.length
        (ofEntries (before ++ wsi :: after) entries) =
      (onConnectionCloseLoop wsi rounds (before.length + 1)
        (ofEntries (before ++ after) (others wsi entries))).map fun outcome =>
          (outcome.1, (ofKey wsi entries).map (fun entry => (entry.1, none)) ++ outcome.2) := by
  have here : (before ++ wsi :: after)[before.length]? = some wsi := by simp
  have purged : purgeFrom wsi 0
      { ofEntries (before ++ wsi :: after) entries with clients := before ++ after }
      (ofEntries (before ++ wsi :: after) entries).clientWriteablePtrs = _ :=
    purge_ofEntries (before ++ after) wsi entries
  simp only [onConnectionCloseLoop, clients_ofEntries, here, if_pos,
    removeObjectAtIndex_middle, Option.bind_eq_bind, Option.bind_some, purged]
  cases onConnectionCloseLoop wsi rounds (before.length + 1)
    (ofEntries (before ++ after) (others wsi entries)) <;> rfl

/-- The loop from the end of `before`. The induction follows the clients not yet
looked at; a second match of the same pointer finds no entry of it left. -/
theorem onConnectionCloseLoop_ofEntries (wsi : Wsi) (before after : List Wsi)
    (entries : List (Callback × Wsi)) (rounds : Nat) (enough : after.length ≤ rounds) :
    onConnectionCloseLoop wsi rounds before.length (ofEntries (before ++ after) entries) =
      some (ofEntries (before ++ closedClients wsi after)
          (if wsi ∈ after then others wsi entries else entries),
        if wsi ∈ after then (ofKey wsi entries).map fun entry => (entry.1, none) else []) := by
  induction after using closedClients.induct wsi generalizing before entries rounds with
  | case1 =>
      rw [onConnectionCloseLoop_end _ _ _ _ _ (by simp)]
      simp [closedClients]
  | case2 =>
      obtain ⟨rounds, rfl⟩ := Nat.exists_eq_add_one.mpr enough
      rw [onConnectionCloseLoop_match, onConnectionCloseLoop_end _ _ _ _ _ (by simp)]
      simp [closedClients]
  | case3 value different =>
      obtain ⟨rounds, rfl⟩ := Nat.exists_eq_add_one.mpr enough
      rw [onConnectionCloseLoop_other different, onConnectionCloseLoop_end _ _ _ _ _ (by simp)]
      simp [closedClients, different]
  | case4 next rest ih =>
      obtain ⟨rounds, rfl⟩ := Nat.exists_eq_add_one.mpr (Nat.lt_of_lt_of_le (by simp) enough)
      have later := ih (before ++ [next]) (others wsi entries) rounds
        (by simp only [List.length_cons] at enough; omega)
      rw [onConnectionCloseLoop_match]
      simp only [List.length_append, List.length_singleton, List.append_assoc,
        List.singleton_append] at later
      rw [later]
      by_cases again : wsi ∈ rest
      · simp [closedClients, again, others, ofKey, List.filter_filter]
      · simp [closedClients, again]
  | case5 value next rest different ih =>
      obtain ⟨rounds, rfl⟩ := Nat.exists_eq_add_one.mpr (Nat.lt_of_lt_of_le (by simp) enough)
      have later := ih (before ++ [value]) entries rounds
        (by simp only [List.length_cons] at enough ⊢; omega)
      rw [onConnectionCloseLoop_other different]
      simp only [List.length_append, List.length_singleton, List.append_assoc,
        List.singleton_append] at later
      rw [later, closedClients, if_neg different]
      simp [different]

theorem onConnectionClose_ofEntries (clients : List Wsi) (entries : List (Callback × Wsi))
    (wsi : Wsi) :
    (ofEntries clients entries).onConnectionClose wsi =
      some (ofEntries (closedClients wsi clients)
          (if wsi ∈ clients then others wsi entries else entries),
        if wsi ∈ clients then (ofKey wsi entries).map fun entry => (entry.1, none) else []) :=
  onConnectionCloseLoop_ofEntries wsi [] clients entries clients.length (Nat.le_refl _)

/-! ### The operations on paired arrays -/

omit [DecidableEq Wsi] in
theorem Paired.waitForWriteable {queue : WriteQueue Wsi Callback} (paired : queue.Paired)
    (block : Callback) (wsi : Wsi) :
    queue.waitForWriteable block wsi = ofEntries queue.clients (queue.entries ++ [(block, wsi)]) := by
  conv_lhs => rw [paired.eq_ofEntries]
  exact waitForWriteable_ofEntries _ _ block wsi

omit [DecidableEq Wsi] in
theorem Paired.onClientAdded {queue : WriteQueue Wsi Callback} (paired : queue.Paired)
    (wsi : Wsi) :
    queue.onClientAdded wsi = ofEntries (queue.clients ++ [wsi]) queue.entries := by
  conv_lhs => rw [paired.eq_ofEntries]
  exact onClientAdded_ofEntries _ _ wsi

omit [DecidableEq Wsi] in
theorem Paired.cancelAllWrites {queue : WriteQueue Wsi Callback} (paired : queue.Paired) :
    queue.cancelAllWrites =
      some (ofEntries queue.clients [], queue.entries.map fun entry => (entry.1, none)) := by
  conv_lhs => rw [paired.eq_ofEntries]
  exact cancelAllWrites_ofEntries _ _

theorem Paired.onClientWritable {queue : WriteQueue Wsi Callback} (paired : queue.Paired)
    (wsi : Wsi) :
    queue.onClientWritable wsi =
      some (ofEntries queue.clients (withoutOldest wsi queue.entries),
        ((oldest wsi queue.entries).map fun entry => (entry.1, some wsi)).toList) := by
  conv_lhs => rw [paired.eq_ofEntries]
  exact onClientWritable_ofEntries _ _ wsi

theorem Paired.onConnectionClose {queue : WriteQueue Wsi Callback} (paired : queue.Paired)
    (distinct : queue.clients.Nodup) {wsi : Wsi} (known : wsi ∈ queue.clients) :
    queue.onConnectionClose wsi =
      some (ofEntries (queue.clients.erase wsi) (others wsi queue.entries),
        (ofKey wsi queue.entries).map fun entry => (entry.1, none)) := by
  conv_lhs => rw [paired.eq_ofEntries]
  rw [onConnectionClose_ofEntries, if_pos known, if_pos known, closedClients_nodup distinct]

end WriteQueue

end WebSocketServer
end JSCameraKit

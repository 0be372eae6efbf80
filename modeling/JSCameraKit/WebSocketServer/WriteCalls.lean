import JSCameraKit.WebSocketServer.Broadcast

set_option autoImplicit false

/-! One call of `writeString:`, `writeData:` or `writeDatas:` on the arrays, while no
connection opens or closes, and the WRITEABLE events that follow it. -/

namespace JSCameraKit
namespace WebSocketServer
namespace WriteCalls

open KeyedQueue (ofKey oldest withoutOldest)

/-- What a block writes when it is called with a socket. -/
inductive Block (Text Data : Type)
  | string (text : Text)
  | datas (datas : List Data)
  deriving DecidableEq

inductive Write (Text Data : Type)
  | string (text : Text)
  | data (payload : Data)
  | datas (datas : List Data)

variable {Wsi Text Data : Type}

def eachClient (queue : WriteQueue Wsi (Block Text Data))
    (block : WriteQueue Wsi (Block Text Data) → Wsi → WriteQueue Wsi (Block Text Data)) :
    WriteQueue Wsi (Block Text Data) :=
  queue.clients.foldl block queue

def writeString (queue : WriteQueue Wsi (Block Text Data)) (string : Text) :
    WriteQueue Wsi (Block Text Data) :=
  if queue.clients.length = 0 then queue
  else eachClient queue fun queue wsi => queue.waitForWriteable (.string string) wsi

def writeDatasToSocket (queue : WriteQueue Wsi (Block Text Data)) (datas : List Data)
    (wsi : Wsi) : WriteQueue Wsi (Block Text Data) :=
  queue.waitForWriteable (.datas datas) wsi

def writeDatas (queue : WriteQueue Wsi (Block Text Data)) (datas : List Data) :
    WriteQueue Wsi (Block Text Data) :=
  if queue.clients.length = 0 then queue
  else eachClient queue fun queue client => writeDatasToSocket queue datas client

/-- The socket is not passed on: this is `writeDatas:withCompletionBlock:`. -/
def writeDataToSocket (queue : WriteQueue Wsi (Block Text Data)) (data : Data) (_wsi : Wsi) :
    WriteQueue Wsi (Block Text Data) :=
  writeDatas queue [data]

def writeData (queue : WriteQueue Wsi (Block Text Data)) (data : Data) :
    WriteQueue Wsi (Block Text Data) :=
  if queue.clients.length = 0 then queue
  else eachClient queue fun queue client => writeDataToSocket queue data client

def Write.perform (queue : WriteQueue Wsi (Block Text Data)) :
    Write Text Data → WriteQueue Wsi (Block Text Data)
  | .string text => writeString queue text
  | .data payload => writeData queue payload
  | .datas payloads => writeDatas queue payloads

/-- The message that each client is to be sent. -/
def Write.block : Write Text Data → Block Text Data
  | .string text => .string text
  | .data payload => .datas [payload]
  | .datas payloads => .datas payloads

/-! ### The entries that a call adds -/

private theorem foldl_waitForWriteable (block : Block Text Data) (clients walked : List Wsi)
    (entries : List (Block Text Data × Wsi)) :
    walked.foldl (fun queue wsi => queue.waitForWriteable block wsi)
        (WriteQueue.ofEntries clients entries) =
      WriteQueue.ofEntries clients (entries ++ walked.map fun wsi => (block, wsi)) := by
  induction walked generalizing entries with
  | nil => rw [List.foldl_nil, List.map_nil, List.append_nil]
  | cons wsi rest ih =>
      rw [List.foldl_cons, WriteQueue.waitForWriteable_ofEntries, ih, List.map_cons,
        List.append_assoc, List.singleton_append]

private theorem eachClient_waitForWriteable (block : Block Text Data) (clients : List Wsi)
    (entries : List (Block Text Data × Wsi)) :
    (if clients.length = 0 then WriteQueue.ofEntries clients entries
      else eachClient (WriteQueue.ofEntries clients entries) fun queue wsi =>
        queue.waitForWriteable block wsi) =
      WriteQueue.ofEntries clients (entries ++ clients.map fun wsi => (block, wsi)) := by
  split
  · rename_i noClient
    rw [List.length_eq_zero_iff.mp noClient, List.map_nil, List.append_nil]
  · exact foldl_waitForWriteable block clients clients entries

private theorem writeString_ofEntries (string : Text) (clients : List Wsi)
    (entries : List (Block Text Data × Wsi)) :
    writeString (.ofEntries clients entries) string =
      WriteQueue.ofEntries clients (entries ++ clients.map fun wsi => (.string string, wsi)) :=
  eachClient_waitForWriteable (.string string) clients entries

private theorem writeDatas_ofEntries (datas : List Data) (clients : List Wsi)
    (entries : List (Block Text Data × Wsi)) :
    writeDatas (.ofEntries clients entries) datas =
      WriteQueue.ofEntries clients (entries ++ clients.map fun wsi => (.datas datas, wsi)) :=
  eachClient_waitForWriteable (.datas datas) clients entries

private theorem foldl_writeDataToSocket (data : Data) (clients walked : List Wsi)
    (entries : List (Block Text Data × Wsi)) :
    walked.foldl (fun queue client => writeDataToSocket queue data client)
        (WriteQueue.ofEntries clients entries) =
      WriteQueue.ofEntries clients
        (entries ++ walked.flatMap fun _ => clients.map fun wsi => (.datas [data], wsi)) := by
  induction walked generalizing entries with
  | nil => rw [List.foldl_nil, List.flatMap_nil, List.append_nil]
  | cons wsi rest ih =>
      rw [List.foldl_cons, writeDataToSocket, writeDatas_ofEntries, ih, List.flatMap_cons,
        List.append_assoc]

private theorem writeData_ofEntries (data : Data) (clients : List Wsi)
    (entries : List (Block Text Data × Wsi)) :
    writeData (.ofEntries clients entries) data =
      WriteQueue.ofEntries clients
        (entries ++ clients.flatMap fun _ => clients.map fun wsi => (.datas [data], wsi)) := by
  unfold writeData
  split
  · rename_i noClient
    have empty : clients = [] := List.length_eq_zero_iff.mp noClient
    rw [empty, List.flatMap_nil, List.append_nil]
  · exact foldl_writeDataToSocket data clients clients entries

variable [DecidableEq Wsi]

private theorem ofKey_map (block : Block Text Data) (wsi : Wsi) {clients : List Wsi}
    (distinct : clients.Nodup) :
    ofKey wsi (clients.map fun client => (block, client)) =
      if wsi ∈ clients then [(block, wsi)] else [] := by
  induction clients with
  | nil => rfl
  | cons client rest ih =>
      obtain ⟨fresh, distinct⟩ := List.nodup_cons.mp distinct
      rw [List.map_cons]
      by_cases same : client = wsi
      · subst same
        rw [KeyedQueue.ofKey_cons_same, ih distinct, if_neg fresh, if_pos List.mem_cons_self]
      · have away : wsi ≠ client := fun equal => same equal.symm
        rw [KeyedQueue.ofKey_cons_other same, ih distinct]
        simp [away]

private theorem ofKey_flatMap (block : Block Text Data) (wsi : Wsi) {clients : List Wsi}
    (distinct : clients.Nodup) (walked : List Wsi) :
    ofKey wsi (walked.flatMap fun _ => clients.map fun client => (block, client)) =
      if wsi ∈ clients then List.replicate walked.length (block, wsi) else [] := by
  induction walked with
  | nil => simp
  | cons client rest ih =>
      rw [List.flatMap_cons, KeyedQueue.ofKey_append, ofKey_map block wsi distinct, ih]
      split
      · rfl
      · rfl

/-! ### The WRITEABLE events -/

/-- A run of WRITEABLE events and the blocks they call. -/
def onClientsWritable (queue : WriteQueue Wsi (Block Text Data)) :
    List Wsi → Option (Outcome Wsi (Block Text Data))
  | [] => some (queue, [])
  | wsi :: rest =>
      (queue.onClientWritable wsi).bind fun outcome =>
        (onClientsWritable outcome.1 rest).map fun later => (later.1, outcome.2 ++ later.2)

/-- The messages that a client is sent. -/
def sentTo (wsi : Wsi) (invoked : List (Invocation Wsi (Block Text Data))) :
    List (Block Text Data) :=
  (invoked.filter fun invocation => invocation.2 = some wsi).map Prod.fst

private theorem sentTo_append (wsi : Wsi) (first rest : List (Invocation Wsi (Block Text Data))) :
    sentTo wsi (first ++ rest) = sentTo wsi first ++ sentTo wsi rest := by
  rw [sentTo, List.filter_append, List.map_append]
  rfl

private theorem sentTo_oldest (wsi other : Wsi) (entries : List (Block Text Data × Wsi)) :
    sentTo other ((oldest wsi entries).map fun entry => (entry.1, some wsi)).toList ++
        (ofKey other (withoutOldest wsi entries)).map Prod.fst =
      (ofKey other entries).map Prod.fst := by
  cases found : oldest wsi entries with
  | none =>
      rw [KeyedQueue.withoutOldest_of_none found]
      rfl
  | some entry =>
      by_cases same : other = wsi
      · subst same
        rw [KeyedQueue.ofKey_withoutOldest_same found]
        simp [sentTo]
      · have away : wsi ≠ other := fun equal => same equal.symm
        rw [KeyedQueue.ofKey_withoutOldest_other same]
        simp [sentTo, away]

/-- What a client has been sent and what is left for it are what was pending for it, and
each of its events takes one. -/
theorem onClientsWritable_ofEntries (clients : List Wsi) (events : List Wsi)
    (entries : List (Block Text Data × Wsi)) :
    ∃ left invoked,
      onClientsWritable (.ofEntries clients entries) events =
          some (.ofEntries clients left, invoked) ∧
        ∀ wsi, sentTo wsi invoked ++ (ofKey wsi left).map Prod.fst =
            (ofKey wsi entries).map Prod.fst ∧
          (ofKey wsi left).length = (ofKey wsi entries).length - events.count wsi := by
  induction events generalizing entries with
  | nil => exact ⟨entries, [], rfl, fun wsi => ⟨rfl, rfl⟩⟩
  | cons event rest ih =>
      obtain ⟨left, invoked, later, each⟩ := ih (withoutOldest event entries)
      refine ⟨left, ((oldest event entries).map fun entry => (entry.1, some event)).toList ++ invoked,
        ?_, ?_⟩
      · rw [onClientsWritable, WriteQueue.onClientWritable_ofEntries, Option.bind_some, later]
        rfl
      · intro wsi
        constructor
        · rw [sentTo_append, List.append_assoc, (each wsi).1]
          exact sentTo_oldest event wsi entries
        · rw [(each wsi).2]
          by_cases same : event = wsi
          · subst same
            rw [List.count_cons_self, KeyedQueue.ofKey_withoutOldest_length]
            omega
          · rw [List.count_cons_of_ne same, KeyedQueue.ofKey_withoutOldest_other (Ne.symm same)]

/-- The call adds one entry for each connected client and none for another, and once each
client has been writable often enough, the message is the last that it was sent, once. -/
structure SentOnce (queue after : WriteQueue Wsi (Block Text Data)) (block : Block Text Data) :
    Prop where
  added : ∀ wsi, ofKey wsi after.entries =
    ofKey wsi queue.entries ++ if wsi ∈ queue.clients then [(block, wsi)] else []
  sent : ∀ events, (∀ wsi ∈ queue.clients, (ofKey wsi after.entries).length ≤ events.count wsi) →
    ∃ left invoked, onClientsWritable after events = some (left, invoked) ∧
      ∀ wsi ∈ queue.clients,
        sentTo wsi invoked = (ofKey wsi queue.entries).map Prod.fst ++ [block]

/-- Where a client's entries are those before the call and then the message, it is sent it. -/
theorem sent_of_added {queue after : WriteQueue Wsi (Block Text Data)}
    {block : Block Text Data} (paired : after.Paired)
    (added : ∀ wsi, ofKey wsi after.entries =
      ofKey wsi queue.entries ++ if wsi ∈ queue.clients then [(block, wsi)] else []) :
    SentOnce queue after block := by
  refine ⟨added, ?_⟩
  intro events enough
  obtain ⟨left, invoked, ran, each⟩ :=
    onClientsWritable_ofEntries after.clients events after.entries
  rw [← paired.eq_ofEntries] at ran
  refine ⟨_, invoked, ran, ?_⟩
  intro wsi member
  obtain ⟨split, counted⟩ := each wsi
  have none : (ofKey wsi left).length = 0 := by
    have bound := enough wsi member
    omega
  rw [List.length_eq_zero_iff.mp none, List.map_nil, List.append_nil, added wsi,
    if_pos member, List.map_append] at split
  exact split

/-- A walk that adds an entry for the client of each turn sends the message once. -/
theorem sentOnce_of_map {block : Block Text Data} {clients : List Wsi} (distinct : clients.Nodup)
    (entries : List (Block Text Data × Wsi)) :
    SentOnce (.ofEntries clients entries)
      (.ofEntries clients (entries ++ clients.map fun wsi => (block, wsi))) block := by
  apply sent_of_added (WriteQueue.paired_ofEntries _ _)
  intro wsi
  rw [WriteQueue.entries_ofEntries, WriteQueue.entries_ofEntries, KeyedQueue.ofKey_append,
    ofKey_map block wsi distinct, WriteQueue.clients_ofEntries]

/-- A walk that adds an entry for every client in each turn does so for one client. -/
theorem sentOnce_flatMap_iff {block : Block Text Data} {clients : List Wsi}
    (distinct : clients.Nodup) (entries : List (Block Text Data × Wsi)) :
    SentOnce (.ofEntries clients entries)
        (.ofEntries clients
          (entries ++ clients.flatMap fun _ => clients.map fun wsi => (block, wsi))) block ↔
      clients.length ≤ 1 := by
  constructor
  · intro once
    cases clients with
    | nil => exact Nat.zero_le 1
    | cons client rest =>
        have added := once.added client
        rw [WriteQueue.entries_ofEntries, WriteQueue.entries_ofEntries, KeyedQueue.ofKey_append,
          ofKey_flatMap block client distinct, WriteQueue.clients_ofEntries,
          if_pos List.mem_cons_self, if_pos List.mem_cons_self] at added
        have lengths := congrArg List.length added
        rw [List.length_append, List.length_append, List.length_replicate,
          List.length_singleton] at lengths
        omega
  · intro atMostOne
    match clients with
    | [] => exact sentOnce_of_map distinct entries
    | [client] =>
        rw [List.flatMap_cons, List.flatMap_nil, List.append_nil]
        exact sentOnce_of_map distinct entries

/-- Each of the three calls sends its message once, but `writeData:` does so only where it
finds at most one client: it adds an entry for each pair of clients. -/
theorem sentOnce_iff {queue : WriteQueue Wsi (Block Text Data)} (paired : queue.Paired)
    (distinct : queue.clients.Nodup) (write : Write Text Data) :
    SentOnce queue (write.perform queue) write.block ↔
      ((∃ payload, write = .data payload) → queue.clients.length ≤ 1) := by
  rw [paired.eq_ofEntries, WriteQueue.clients_ofEntries]
  cases write with
  | string text =>
      rw [Write.perform, writeString_ofEntries]
      apply iff_of_true (sentOnce_of_map distinct queue.entries)
      intro ⟨payload, other⟩
      cases other
  | datas payloads =>
      rw [Write.perform, writeDatas_ofEntries]
      apply iff_of_true (sentOnce_of_map distinct queue.entries)
      intro ⟨payload, other⟩
      cases other
  | data payload =>
      rw [Write.perform, writeData_ofEntries]
      apply (sentOnce_flatMap_iff distinct queue.entries).trans
      constructor
      · intro atMostOne _
        exact atMostOne
      · intro atMostOne
        exact atMostOne ⟨payload, rfl⟩

/-- Two clients, and the one-element list of a call of `writeData:` for each pair of them. -/
theorem sentOnce_of_writeDatas :
    SentOnce (.ofEntries [7, 9] [])
      (Write.perform (.ofEntries [7, 9] []) (.datas ["y", "uv"] : Write Unit String))
      (.datas ["y", "uv"]) :=
  (sentOnce_iff (WriteQueue.paired_ofEntries [7, 9] []) (by decide) (.datas ["y", "uv"])).mpr
    (by
      intro ⟨payload, other⟩
      cases other)

theorem not_sentOnce_of_writeData :
    ¬SentOnce (.ofEntries [7, 9] [])
      (Write.perform (.ofEntries [7, 9] []) (.data "y" : Write Unit String)) (.datas ["y"]) := by
  intro once
  exact absurd (once.added 7) (by decide)

end WriteCalls
end WebSocketServer
end JSCameraKit

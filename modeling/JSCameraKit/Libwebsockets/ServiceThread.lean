import JSCameraKit.Library.Machine
import JSCameraKit.Libwebsockets.Timeouts
import JSCameraKit.Libwebsockets.PollFds
import JSCameraKit.Libwebsockets.HeaderTable
import Mathlib.Data.List.Perm.Subperm

set_option autoImplicit false

/-! A service thread and its connections, from the accepted socket to the freed memory: the
timeouts, the polled sockets, the lists of the protocols and the header tables, as
`lws_server_socket_service`, `lws_handshake_server`, `lws_close_free_wsi` and the sweep of
`lws_service_fd_tsi` change them. A connection is the address of its memory, which may be that
of one freed before. What a read, a write, a callback or the peer comes to is part of the
event. -/

namespace JSCameraKit.Libwebsockets

/-- The values of `wsi->state`. -/
inductive LwsState
  | http
  | established
  | returnedCloseAlready
  | flushingStoredSendBeforeClose
  | awaitingCloseAck
  | shutdown
  | deadSocket
  deriving DecidableEq

structure ThreadConfig where
  limits : FdLimits
  maxHttpHeaderPool : Nat
  timeoutSecs : Nat
  keepaliveTimeout : Nat
  countProtocols : Nat

/-- Kept beside the source's: the sockets that were accepted for nothing, the connections that
were freed, and whether an assertion has failed. -/
structure ServiceThread (Wsi : Type) where
  live : List Wsi
  timeouts : Timeouts Wsi
  table : PollFds Wsi
  headers : HeaderPool Wsi
  state : Wsi → LwsState
  upgraded : Wsi → Bool
  unusable : Wsi → Bool
  lastTimeoutCheck : Nat
  turnedAway : List Nat
  freed : List Wsi
  aborted : Bool

/-- How a close goes on: whether `reason` is that of the context's end, bytes are stored, and a
close frame that is due is written. -/
structure Closing where
  destroy : Bool
  stored : Bool
  frameWritten : Bool

/-- What a connection reads its headers with. -/
structure Parsed where
  used : Nat
  nfrag : Nat
  pos : Nat

namespace ServiceThread

variable {Wsi : Type} [DecidableEq Wsi]

def setTimeout (thread : ServiceThread Wsi) (wsi : Wsi) (reason : PendingTimeout) (now : Nat)
    (secs : Int) : ServiceThread Wsi :=
  { thread with timeouts := thread.timeouts.lwsSetTimeout wsi reason now secs }

def withState (thread : ServiceThread Wsi) (wsi : Wsi) (state : LwsState) :
    ServiceThread Wsi :=
  { thread with state := Function.update thread.state wsi state }

omit [DecidableEq Wsi] in
def changePollfd (thread : ServiceThread Wsi) (wsi : Wsi) (clear set : PollEvents) :
    Option (ServiceThread Wsi) :=
  (thread.table.changePollfd wsi clear set).map fun table => { thread with table := table }

omit [DecidableEq Wsi] in
/-- Whether `lws_callback_on_writable` asks for anything. -/
def able (thread : ServiceThread Wsi) (wsi : Wsi) : Bool :=
  thread.state wsi != .shutdown && !thread.unusable wsi

omit [DecidableEq Wsi] in
def callbackOnWritable (thread : ServiceThread Wsi) (wsi : Wsi) : Option (ServiceThread Wsi) :=
  (thread.table.lwsCallbackOnWritable thread.able wsi).map fun table =>
    { thread with table := table }

/-- A connection that gets a table may read, and one that has to wait may not. -/
def headerTableAttach (thread : ServiceThread Wsi) (wsi : Wsi) : Option (ServiceThread Wsi) :=
  (thread.headers.lwsHeaderTableAttach wsi).bind fun (headers, outcome) =>
    let attached := { thread with headers := headers }
    match outcome with
    | .kept => some attached
    | .taken => attached.changePollfd wsi .none .onlyIn
    | .waitsOn => some attached
    | .waits => attached.changePollfd wsi .onlyIn .none

def headerTableDetach (thread : ServiceThread Wsi) (wsi : Wsi) : Option (ServiceThread Wsi) :=
  (thread.headers.lwsHeaderTableDetach wsi).bind fun (headers, served) =>
    let detached := { thread with headers := headers }
    match served with
    | none => some detached
    | some next =>
        if thread.table.position next ≠ -1 then detached.changePollfd next .none .onlyIn
        else some detached

/-- The end of `lws_close_free_wsi`, `lws_close_free_wsi_final` and `lws_free_wsi`. -/
def reallyKill (limits : FdLimits) (thread : ServiceThread Wsi) (wsi : Wsi) :
    Option (ServiceThread Wsi) := do
  let table ← thread.table.removeWsiSocketFromFds limits wsi
  let removed :=
    { thread with
      timeouts := thread.timeouts.lwsRemoveFromTimeoutList wsi
      table := table
      state := Function.update thread.state wsi .deadSocket
      unusable := Function.update thread.unusable wsi true }
  let detached ← removed.headerTableDetach wsi
  return { detached with
    live := detached.live.erase wsi
    freed := detached.freed ++ [wsi] }

/-- The label `just_kill_connection` of `lws_close_free_wsi`. -/
def justKillConnection (config : ThreadConfig) (thread : ServiceThread Wsi) (wsi : Wsi)
    (now : Nat) (destroy : Bool) : Option (ServiceThread Wsi) :=
  if thread.state wsi ≠ .shutdown ∧ destroy = false ∧ thread.unusable wsi = false then
    (thread.changePollfd wsi .onlyOut .onlyIn).map fun waiting =>
      (waiting.withState wsi .shutdown).setTimeout wsi .shutdownFlush now config.timeoutSecs
  else thread.reallyKill config.limits wsi

def lwsCloseFreeWsi (config : ThreadConfig) (thread : ServiceThread Wsi) (wsi : Wsi)
    (now : Nat) (closing : Closing) : Option (ServiceThread Wsi) :=
  let thread := { thread with headers := thread.headers.skipRx wsi }
  if thread.unusable wsi = true ∨ closing.destroy = true ∨ thread.state wsi = .shutdown then
    thread.justKillConnection config wsi now closing.destroy
  else
    match thread.state wsi with
    | .deadSocket => some thread
    | .awaitingCloseAck => thread.justKillConnection config wsi now closing.destroy
    | .flushingStoredSendBeforeClose =>
        if closing.stored then thread.callbackOnWritable wsi
        else thread.justKillConnection config wsi now closing.destroy
    | state =>
        if closing.stored then
          some ((thread.withState wsi .flushingStoredSendBeforeClose).setTimeout wsi
            .flushStoredSendBeforeClose now 5)
        else if state = .established ∧ closing.frameWritten = true then
          some ((thread.withState wsi .awaitingCloseAck).setTimeout wsi .closeAck now 1)
        else thread.justKillConnection config wsi now closing.destroy

/-- The state after a call, or that a failed assertion has ended it all. -/
def checked (thread : ServiceThread Wsi) (result : Option (ServiceThread Wsi)) :
    ServiceThread Wsi :=
  result.getD { thread with aborted := true }

def lwsServiceTimeoutCheck (config : ThreadConfig) (now : Nat) (wsi : Wsi)
    (thread : ServiceThread Wsi) : ServiceThread Wsi :=
  if thread.timeouts.expired now wsi then
    let dead := { thread with unusable := Function.update thread.unusable wsi true }
    thread.checked (dead.lwsCloseFreeWsi config wsi now
      { destroy := false, stored := false, frameWritten := false })
  else thread

/-- The check that `lws_service_fd_tsi` makes once a second. The list has no more connections
than there are. -/
def serviceTimeouts (config : ThreadConfig) (thread : ServiceThread Wsi) (now : Nat) :
    ServiceThread Wsi :=
  if thread.lastTimeoutCheck = now then thread
  else
    let checking := { thread with lastTimeoutCheck := now }
    Links.sweep (fun thread : ServiceThread Wsi => thread.timeouts.list)
      (lwsServiceTimeoutCheck config now) thread.live.length (thread.timeouts.list.head ())
      checking

/-- The connection of `lws_create_new_server_wsi` with its socket. -/
def created (config : ThreadConfig) (thread : ServiceThread Wsi) (wsi : Wsi) (sock now : Nat) :
    ServiceThread Wsi :=
  { thread with
    live := wsi :: thread.live
    timeouts := (thread.timeouts.zalloc wsi).lwsSetTimeout wsi .establishWithServer now
      config.timeoutSecs
    table := thread.table.zalloc wsi sock
    state := Function.update thread.state wsi .http
    upgraded := Function.update thread.upgraded wsi false
    unusable := Function.update thread.unusable wsi false }

/-- `lws_adopt_socket_vhost`. The user may refuse the connection that is made. -/
def lwsAdoptSocketVhost (config : ThreadConfig) (thread : ServiceThread Wsi) (wsi : Wsi)
    (sock now : Nat) (refused : Bool) : Option (ServiceThread Wsi) :=
  -- `lws_get_idlest_tsi` finds no thread.
  if thread.table.fds.length = config.limits.fdLimitPerThread - 1 then
    some { thread with turnedAway := thread.turnedAway ++ [sock] }
  else
    let new := thread.created config wsi sock now
    if refused then
      let off := new.setTimeout wsi .noPendingTimeout now 0
      some { off with
        live := off.live.erase wsi
        freed := off.freed ++ [wsi] }
    else do
      let (table, result) ← PollFds.insertWsiSocketIntoFds config.limits new.table wsi
      let placed := { new with table := table }
      if result ≠ 0 then
        placed.lwsCloseFreeWsi config wsi now
          { destroy := false, stored := false, frameWritten := false }
      else placed.headerTableAttach wsi

/-- Bytes come for a connection that needs a header table for them. -/
def readHeaders (thread : ServiceThread Wsi) (wsi : Wsi) (len : Nat) :
    Option (ServiceThread Wsi) := do
  let attached ←
    if thread.headers.ah wsi = none then thread.headerTableAttach wsi else some thread
  match attached.headers.ah wsi with
  | none => return attached
  | some n =>
      return { attached with
        headers := attached.headers.withHeaders n fun headers =>
          if headers.rxpos = headers.rxlen then { headers with rxpos := 0, rxlen := len }
          else headers }

omit [DecidableEq Wsi] in
def parseHeaders (thread : ServiceThread Wsi) (wsi : Wsi) (parsed : Parsed) :
    ServiceThread Wsi :=
  match thread.headers.ah wsi with
  | none => thread
  | some n =>
      { thread with
        headers := thread.headers.withHeaders n fun headers =>
          { headers with
            rxpos := min (headers.rxpos + parsed.used) headers.rxlen
            nfrag := parsed.nfrag
            pos := parsed.pos } }

/-- The end of `lws_handshake_server` for a websocket. Where the client names no protocol it is
the first. -/
def upgrade (thread : ServiceThread Wsi) (wsi : Wsi) (n now : Nat) (moreRxWaiting : Bool) :
    Option (ServiceThread Wsi) :=
  let ready := thread.setTimeout wsi .noPendingTimeout now 0
  let spoken :=
    { ready with
      table := ready.table.stitchProtocol wsi n
      state := Function.update ready.state wsi .established
      upgraded := Function.update ready.upgraded wsi true }
  if moreRxWaiting then some spoken
  else { spoken with headers := spoken.headers.skipRx wsi }.headerTableDetach wsi

/-- The label `bail_nuke_ah` of `lws_handshake_server`, and the close in `lws_read`. -/
def bailNukeAh (config : ThreadConfig) (thread : ServiceThread Wsi) (wsi : Wsi) (now : Nat)
    (closing : Closing) : Option (ServiceThread Wsi) := do
  let detached ←
    { thread with headers := thread.headers.skipRx wsi }.headerTableDetach wsi
  detached.lwsCloseFreeWsi config wsi now closing

/-- `lws_http_transaction_completed` for a connection that is kept alive. -/
def httpTransactionCompleted (config : ThreadConfig) (thread : ServiceThread Wsi) (wsi : Wsi)
    (now : Nat) (moreRxWaiting : Bool) : Option (ServiceThread Wsi) :=
  let reason : PendingTimeout :=
    if config.keepaliveTimeout = 0 then .noPendingTimeout else .httpKeepaliveIdle
  let idle := (thread.withState wsi .http).setTimeout wsi reason now config.keepaliveTimeout
  if idle.headers.ah wsi = none then some idle
  else if moreRxWaiting then
    (idle.headers.lwsHeaderTableReset wsi).map fun headers => { idle with headers := headers }
  else { idle with headers := idle.headers.skipRx wsi }.headerTableDetach wsi

/-- What came with the upgrade is read, and the table given back. -/
def readInherited (thread : ServiceThread Wsi) (wsi : Wsi) : Option (ServiceThread Wsi) :=
  if thread.headers.ah wsi = none then some thread
  else { thread with headers := thread.headers.skipRx wsi }.headerTableDetach wsi

inductive Event (Wsi : Type)
  | accept (wsi : Wsi) (sock now : Nat) (refused : Bool)
  | readHeaders (wsi : Wsi) (len : Nat)
  | parseHeaders (wsi : Wsi) (parsed : Parsed)
  | upgrade (wsi : Wsi) (n now : Nat) (moreRxWaiting : Bool)
  | bailNukeAh (wsi : Wsi) (now : Nat) (closing : Closing)
  | transactionCompleted (wsi : Wsi) (now : Nat) (moreRxWaiting : Bool)
  | readInherited (wsi : Wsi)
  | receiveClose (wsi : Wsi)
  | hangUp (wsi : Wsi) (now : Nat)
  | close (wsi : Wsi) (now : Nat) (closing : Closing)
  | setTimeout (wsi : Wsi) (reason : PendingTimeout) (now : Nat) (secs : Int)
  | callbackOnWritable (wsi : Wsi)
  | callbackOnWritableAllProtocol (n : Nat)
  | pollout (wsi : Wsi)
  | serviceTimeouts (now : Nat)
  | contextDestroy

omit [DecidableEq Wsi] in
def polledForInput (thread : ServiceThread Wsi) (wsi : Wsi) : Bool :=
  (thread.table.eventsOf wsi).any PollEvents.pollin

omit [DecidableEq Wsi] in
/-- The kernel gives a socket that is not open, the allocator memory that is free, and only a
listening socket that is polled for input accepts. -/
def mayAccept (config : ThreadConfig) (thread : ServiceThread Wsi) (wsi : Wsi) (sock : Nat) :
    Prop :=
  wsi ∉ thread.live ∧ wsi ≠ thread.table.listening ∧ sock < config.limits.maxFds ∧
    (∀ pfd ∈ thread.table.fds, pfd.fd ≠ sock) ∧
    thread.polledForInput thread.table.listening = true

/-- Events are those of connections there are, in the mode that they are of. The reason of the
context's end is given behind `being_destroyed` only. -/
def enabled (config : ThreadConfig) (thread : ServiceThread Wsi) : Event Wsi → Prop
  | .accept wsi sock _ _ => thread.mayAccept config wsi sock
  | .readHeaders wsi _ =>
      wsi ∈ thread.live ∧ thread.upgraded wsi = false ∧ thread.state wsi = .http ∧
        thread.polledForInput wsi = true
  | .parseHeaders wsi _ => wsi ∈ thread.live
  | .upgrade wsi n _ _ =>
      wsi ∈ thread.live ∧ thread.upgraded wsi = false ∧ thread.state wsi = .http ∧
        n < config.countProtocols
  | .bailNukeAh wsi _ closing =>
      wsi ∈ thread.live ∧ (closing.destroy = true → thread.table.beingDestroyed = true)
  | .transactionCompleted wsi _ _ =>
      wsi ∈ thread.live ∧ thread.upgraded wsi = false ∧ thread.state wsi = .http
  | .readInherited wsi => wsi ∈ thread.live ∧ thread.upgraded wsi = true
  | .receiveClose wsi => wsi ∈ thread.live ∧ thread.state wsi = .established
  | .hangUp wsi _ => wsi ∈ thread.live
  | .close wsi _ closing =>
      wsi ∈ thread.live ∧ (closing.destroy = true → thread.table.beingDestroyed = true)
  | .setTimeout wsi _ _ _ => wsi ∈ thread.live
  | .callbackOnWritable wsi => wsi ∈ thread.live
  | .callbackOnWritableAllProtocol n => n < config.countProtocols
  | .pollout wsi => wsi ∈ thread.live
  | .serviceTimeouts _ => True
  | .contextDestroy => True

instance (config : ThreadConfig) (thread : ServiceThread Wsi) (event : Event Wsi) :
    Decidable (thread.enabled config event) := by
  cases event <;> unfold enabled <;> (try unfold mayAccept) <;> infer_instance

def serve (config : ThreadConfig) (thread : ServiceThread Wsi) :
    Event Wsi → Option (ServiceThread Wsi)
  | .accept wsi sock now refused => thread.lwsAdoptSocketVhost config wsi sock now refused
  | .readHeaders wsi len => thread.readHeaders wsi len
  | .parseHeaders wsi parsed => some (thread.parseHeaders wsi parsed)
  | .upgrade wsi n now more => thread.upgrade wsi n now more
  | .bailNukeAh wsi now closing => thread.bailNukeAh config wsi now closing
  | .transactionCompleted wsi now more => thread.httpTransactionCompleted config wsi now more
  | .readInherited wsi => thread.readInherited wsi
  | .receiveClose wsi => some (thread.withState wsi .returnedCloseAlready)
  | .hangUp wsi now =>
      { thread with unusable := Function.update thread.unusable wsi true }.lwsCloseFreeWsi
        config wsi now { destroy := false, stored := false, frameWritten := false }
  | .close wsi now closing => thread.lwsCloseFreeWsi config wsi now closing
  | .setTimeout wsi reason now secs => some (thread.setTimeout wsi reason now secs)
  | .callbackOnWritable wsi => thread.callbackOnWritable wsi
  | .callbackOnWritableAllProtocol n =>
      (thread.table.lwsCallbackOnWritableAllProtocolVhost thread.able thread.live.length n).map
        fun table => { thread with table := table }
  | .pollout wsi => thread.changePollfd wsi .onlyOut .none
  | .serviceTimeouts now => some (thread.serviceTimeouts config now)
  -- the flag that `lws_context_destroy` sets before it closes anything
  | .contextDestroy => some { thread with table := { thread.table with beingDestroyed := true } }

/-- The thread when its listening socket is in the table. -/
def initial (config : ThreadConfig) (table : PollFds Wsi) : ServiceThread Wsi :=
  { live := []
    timeouts := Timeouts.initial
    table := table
    headers := HeaderPool.initial config.maxHttpHeaderPool
    state := fun _ => .http
    upgraded := fun _ => false
    unusable := fun _ => false
    lastTimeoutCheck := 0
    turnedAway := []
    freed := []
    aborted := false }

def machine (config : ThreadConfig) : Machine (ServiceThread Wsi) (Event Wsi) :=
  { initial := fun thread => ∃ pipe sock listening table,
      pipe ≠ sock ∧ sock < config.limits.maxFds ∧
      PollFds.insertWsiSocketIntoFds config.limits (PollFds.initial pipe listening sock) listening =
        some (table, 0) ∧ thread = initial config table
    step := fun thread event =>
      if thread.aborted = false ∧ thread.enabled config event then
        some (thread.checked (thread.serve config event))
      else none }

/-! ### What holds of every thread -/

def inUse (thread : ServiceThread Wsi) (wsi : Wsi) : Prop :=
  wsi ∈ thread.live ∨ wsi = thread.table.listening

/-- Each part of a thread is sound for the connections that there are. -/
structure Base (config : ThreadConfig) (thread : ServiceThread Wsi) (pipe : Nat)
    (queue : List Wsi) (lists : Nat → List Wsi) : Prop where
  timeouts : thread.timeouts.Sound queue fun wsi => wsi ∈ thread.live
  table : thread.table.Sound config.limits pipe lists thread.inUse
  headers : thread.headers.Sound fun wsi => wsi ∈ thread.live
  nodup : thread.live.Nodup
  apart : thread.table.listening ∉ thread.live
  websocket : ∀ n wsi, wsi ∈ lists n ↔
    wsi ∈ thread.live ∧ thread.upgraded wsi = true ∧ thread.table.protocol wsi = n
  welcome : thread.turnedAway = []
  going : thread.aborted = false

/-- A connection that waits for a header table is not polled for input, unless it is shut
down. -/
def Stopped (thread : ServiceThread Wsi) : Prop :=
  ∀ wsi ∈ thread.headers.ahWaitList, thread.state wsi ≠ .shutdown →
    ∀ events, thread.table.eventsOf wsi = some events → events.pollin = false

structure Sound (config : ThreadConfig) (thread : ServiceThread Wsi) (pipe : Nat)
    (queue : List Wsi) (lists : Nat → List Wsi) : Prop where
  base : thread.Base config pipe queue lists
  stopped : thread.Stopped

/-- A call that no assertion stops, and that leaves a sound thread. -/
def Goes (config : ThreadConfig) (pipe : Nat) (result : Option (ServiceThread Wsi)) : Prop :=
  ∃ after queue lists, result = some after ∧ after.Sound config pipe queue lists

variable {config : ThreadConfig} {thread after : ServiceThread Wsi} {pipe now : Nat}
  {queue : List Wsi} {lists : Nat → List Wsi} {wsi other : Wsi}

omit [DecidableEq Wsi] in
theorem Base.ne_listening (base : thread.Base config pipe queue lists)
    (member : wsi ∈ thread.live) : wsi ≠ thread.table.listening :=
  fun same => base.apart (same ▸ member)

def withTable (thread : ServiceThread Wsi) (table : PollFds Wsi) : ServiceThread Wsi :=
  { thread with table := table }

def withHeaders (thread : ServiceThread Wsi) (headers : HeaderPool Wsi) : ServiceThread Wsi :=
  { thread with headers := headers }

omit [DecidableEq Wsi] in
theorem Base.withHeaders (base : thread.Base config pipe queue lists) {headers : HeaderPool Wsi}
    (sound : headers.Sound fun wsi => wsi ∈ thread.live) :
    (thread.withHeaders headers).Base config pipe queue lists :=
  { timeouts := base.timeouts, table := base.table, headers := sound, nodup := base.nodup
    apart := base.apart, websocket := base.websocket, welcome := base.welcome
    going := base.going }

omit [DecidableEq Wsi] in
theorem Stopped.withHeaders (stopped : thread.Stopped) {headers : HeaderPool Wsi}
    (fewer : ∀ wsi ∈ headers.ahWaitList, wsi ∈ thread.headers.ahWaitList) :
    (thread.withHeaders headers).Stopped :=
  fun wsi member => stopped wsi (fewer wsi member)

theorem Base.changePollfd (base : thread.Base config pipe queue lists)
    (member : wsi ∈ thread.live) (clear set : PollEvents) :
    thread.changePollfd wsi clear set =
        some (thread.withTable (thread.table.changed wsi clear set)) ∧
      (thread.withTable (thread.table.changed wsi clear set)).Base config pipe queue lists := by
  obtain ⟨place, entry, seat⟩ := base.table.seated.seat wsi (.inl member)
  constructor
  · rw [ServiceThread.changePollfd, seat.changePollfd]
    rfl
  · exact { timeouts := base.timeouts
            table := base.table.changed (.inl member) (base.ne_listening member) clear set
            headers := base.headers, nodup := base.nodup, apart := base.apart
            websocket := base.websocket, welcome := base.welcome, going := base.going }

theorem Base.stopped_changed (base : thread.Base config pipe queue lists)
    (member : wsi ∈ thread.live) (clear set : PollEvents)
    (others : ∀ other ∈ thread.headers.ahWaitList, other ≠ wsi →
      thread.state other ≠ .shutdown → ∀ events, thread.table.eventsOf other = some events →
        events.pollin = false)
    (mine : wsi ∈ thread.headers.ahWaitList → thread.state wsi ≠ .shutdown →
      ∀ events, thread.table.eventsOf wsi = some events →
        (events.change clear set).pollin = false) :
    (thread.withTable (thread.table.changed wsi clear set)).Stopped := by
  intro other waiting open_ events found
  have otherLive := (base.headers.waiters other waiting).1
  have changed : (thread.table.changed wsi clear set).eventsOf other = some events := found
  rw [base.table.seated.eventsOf_changed (.inl member) (.inl otherLive)] at changed
  by_cases same : other = wsi
  · rw [if_pos same] at changed
    obtain ⟨before, there, isChanged⟩ := Option.map_eq_some_iff.mp changed
    rw [← isChanged]
    rw [same] at waiting open_
    exact mine waiting open_ before there
  · rw [if_neg same] at changed
    exact others other waiting same open_ events changed

theorem Sound.changePollout (sound : thread.Sound config pipe queue lists)
    (member : wsi ∈ thread.live) (clear set : PollEvents) (keeps : set.pollin = false) :
    (thread.withTable (thread.table.changed wsi clear set)).Sound config pipe queue lists := by
  refine { base := (sound.base.changePollfd member clear set).2, stopped := ?_ }
  apply sound.base.stopped_changed member
  · exact fun other waiting _ => sound.stopped other waiting
  · intro waiting open_ events found
    have off := sound.stopped wsi waiting open_ events found
    simp [PollEvents.change, off, keeps]

theorem Base.setTimeout (base : thread.Base config pipe queue lists)
    (member : wsi ∈ thread.live) (reason : PendingTimeout) (now : Nat) (secs : Int) :
    (thread.setTimeout wsi reason now secs).Base config pipe
      (Timeouts.queueSet queue wsi reason) lists :=
  { timeouts := base.timeouts.lwsSetTimeout member reason now secs
    table := base.table, headers := base.headers, nodup := base.nodup, apart := base.apart
    websocket := base.websocket, welcome := base.welcome, going := base.going }

theorem Sound.setTimeout (sound : thread.Sound config pipe queue lists)
    (member : wsi ∈ thread.live) (reason : PendingTimeout) (now : Nat) (secs : Int) :
    (thread.setTimeout wsi reason now secs).Sound config pipe
      (Timeouts.queueSet queue wsi reason) lists :=
  { base := sound.base.setTimeout member reason now secs, stopped := sound.stopped }

theorem Base.withState (base : thread.Base config pipe queue lists) (wsi : Wsi)
    (state : LwsState) : (thread.withState wsi state).Base config pipe queue lists :=
  { timeouts := base.timeouts, table := base.table, headers := base.headers
    nodup := base.nodup, apart := base.apart, websocket := base.websocket
    welcome := base.welcome, going := base.going }

theorem Sound.withState (sound : thread.Sound config pipe queue lists)
    (open_ : thread.state wsi ≠ .shutdown) (state : LwsState) :
    (thread.withState wsi state).Sound config pipe queue lists := by
  refine { base := sound.base.withState wsi state, stopped := ?_ }
  intro other waiting otherOpen
  apply sound.stopped other waiting
  by_cases same : other = wsi
  · rw [same]
    exact open_
  · have kept : (thread.withState wsi state).state other = thread.state other :=
      Function.update_of_ne same _ _
    rw [← kept]
    exact otherOpen

omit [DecidableEq Wsi] in
theorem Sound.skipRx (sound : thread.Sound config pipe queue lists) (wsi : Wsi) :
    (thread.withHeaders (thread.headers.skipRx wsi)).Sound config pipe queue lists := by
  have waiting : (thread.headers.skipRx wsi).ahWaitList = thread.headers.ahWaitList := by
    rw [HeaderPool.skipRx]
    split <;> rfl
  refine { base := sound.base.withHeaders (sound.base.headers.skipRx wsi), stopped := ?_ }
  apply sound.stopped.withHeaders
  rw [waiting]
  exact fun _ member => member

/-! ### Header tables of a thread -/

theorem Sound.headerTableAttach (sound : thread.Sound config pipe queue lists)
    (member : wsi ∈ thread.live) :
    ∃ after, thread.headerTableAttach wsi = some after ∧
      after.Sound config pipe queue lists ∧ after.live = thread.live := by
  obtain ⟨headers, outcome, attaches, headersSound, result⟩ :=
    sound.base.headers.lwsHeaderTableAttach member
  have base := sound.base.withHeaders headersSound
  have absent : headers.ah wsi ≠ none → wsi ∉ headers.ahWaitList :=
    fun bound waiting => bound (headersSound.waiters wsi waiting).2
  rw [ServiceThread.headerTableAttach, attaches]
  simp only [Option.bind_some]
  cases outcome with
  | kept =>
      refine ⟨_, rfl, { base := base, stopped := ?_ }, rfl⟩
      apply sound.stopped.withHeaders
      rw [result.kept rfl]
      exact fun _ waiting => waiting
  | waitsOn =>
      refine ⟨_, rfl, { base := base, stopped := ?_ }, rfl⟩
      apply sound.stopped.withHeaders
      rw [(result.waitsOn rfl).1]
      exact fun _ waiting => waiting
  | taken =>
      obtain ⟨changes, changed⟩ := base.changePollfd member .none .onlyIn
      refine ⟨_, changes, { base := changed, stopped := ?_ }, rfl⟩
      apply base.stopped_changed member
      · intro other waiting _
        rw [show (thread.withHeaders headers).headers.ahWaitList = _ from result.taken rfl]
          at waiting
        exact sound.stopped other waiting
      · intro waiting
        exact absurd waiting (absent (result.bound.mpr (.inr rfl)))
  | waits =>
      obtain ⟨changes, changed⟩ := base.changePollfd member .onlyIn .none
      refine ⟨_, changes, { base := changed, stopped := ?_ }, rfl⟩
      apply base.stopped_changed member
      · intro other waiting distinct
        rw [show (thread.withHeaders headers).headers.ahWaitList = _ from result.waits rfl]
          at waiting
        exact sound.stopped other ((List.mem_cons.mp waiting).resolve_left distinct)
      · intro _ _ events _
        simp [PollEvents.change, PollEvents.onlyIn, PollEvents.none]

/-- The thread that `lws_header_table_detach` leaves. -/
def detached (thread : ServiceThread Wsi) (headers : HeaderPool Wsi) (served : Option Wsi) :
    ServiceThread Wsi :=
  match served with
  | none => thread.withHeaders headers
  | some next =>
      (thread.withHeaders headers).withTable (thread.table.changed next .none .onlyIn)

private theorem headerTableDetach_eq {headers : HeaderPool Wsi} {served : Option Wsi}
    (detaches : thread.headers.lwsHeaderTableDetach wsi = some (headers, served))
    (seated : ∀ next, served = some next → ∃ place entry, thread.table.Seat next place entry) :
    thread.headerTableDetach wsi = some (thread.detached headers served) := by
  rw [ServiceThread.headerTableDetach, detaches]
  simp only [Option.bind_some]
  cases served with
  | none => rfl
  | some next =>
      obtain ⟨place, entry, seat⟩ := seated next rfl
      have position := seat.position
      have found : thread.table.position next ≠ -1 := by omega
      simp only [if_pos found]
      rw [ServiceThread.changePollfd]
      show (thread.table.changePollfd next _ _).map _ = _
      rw [seat.changePollfd]
      rfl

omit [DecidableEq Wsi] in
private theorem skipRx_done (sound : thread.Sound config pipe queue lists) (wsi : Wsi) :
    ∀ n headers, (thread.headers.skipRx wsi).ah wsi = some n →
      (thread.headers.skipRx wsi).ahPool[n]? = some headers → headers.rxpos = headers.rxlen := by
  intro n headers bound found
  have same : (thread.headers.skipRx wsi).ah = thread.headers.ah := by
    rw [HeaderPool.skipRx]
    split <;> rfl
  rw [same] at bound
  obtain ⟨before, there, _, _⟩ := sound.base.headers.exists_headers bound
  rw [HeaderPool.skipRx, bound] at found
  have changed := ListEdit.getElem?_modify_found there
    (fun headers => { headers with rxpos := headers.rxlen }) n
  rw [if_pos rfl] at changed
  have same : some headers = some { before with rxpos := before.rxlen } :=
    found.symm.trans changed
  cases same
  rfl

theorem Sound.headerTableDetach (sound : thread.Sound config pipe queue lists)
    (done : ∀ n headers, thread.headers.ah wsi = some n → thread.headers.ahPool[n]? = some headers →
      headers.rxpos = headers.rxlen) :
    ∃ after, thread.headerTableDetach wsi = some after ∧
      after.Sound config pipe queue lists ∧ after.live = thread.live ∧
        after.state = thread.state := by
  obtain ⟨headers, served, detaches, headersSound, result⟩ :=
    sound.base.headers.lwsHeaderTableDetach done
  have base := sound.base.withHeaders headersSound
  have stopped := sound.stopped.withHeaders result.fewer
  have servedLive : ∀ next, served = some next → next ∈ thread.live := by
    intro next isNext
    obtain ⟨last, _, _⟩ := result.oldest next isNext
    exact (sound.base.headers.waiters next (List.mem_of_getLast? last)).1
  refine ⟨thread.detached headers served, ?_, ?_, ?_, ?_⟩
  · apply headerTableDetach_eq detaches
    intro next isNext
    exact sound.base.table.seated.seat next (.inl (servedLive next isNext))
  · cases served with
    | none => exact { base := base, stopped := stopped }
    | some next =>
        have live := servedLive next rfl
        refine { base := (base.changePollfd live .none .onlyIn).2, stopped := ?_ }
        apply base.stopped_changed live
        · exact fun other waiting _ => stopped other waiting
        · intro waiting
          exact absurd waiting (result.oldest next rfl).2.1
  · cases served <;> rfl
  · cases served <;> rfl

/-! ### The end of a connection -/

/-- What is different when a connection is freed. -/
structure Killed (thread after : ServiceThread Wsi) (wsi : Wsi) : Prop where
  live : after.live = thread.live.erase wsi
  freed : after.freed = thread.freed ++ [wsi]
  pendingTimeout : after.timeouts.pendingTimeout = thread.timeouts.pendingTimeout
  pendingTimeoutLimit : after.timeouts.pendingTimeoutLimit = thread.timeouts.pendingTimeoutLimit
  lastTimeoutCheck : after.lastTimeoutCheck = thread.lastTimeoutCheck

/-- The thread without a connection, before its header table is given back. -/
def unplugged (thread : ServiceThread Wsi) (wsi : Wsi) (table : PollFds Wsi) :
    ServiceThread Wsi :=
  { thread with
    timeouts := thread.timeouts.lwsRemoveFromTimeoutList wsi
    table := table
    state := Function.update thread.state wsi .deadSocket
    unusable := Function.update thread.unusable wsi true }

def forgotten (thread : ServiceThread Wsi) (wsi : Wsi) : ServiceThread Wsi :=
  { thread with
    live := thread.live.erase wsi
    freed := thread.freed ++ [wsi] }

theorem Base.inUse_forgotten (base : thread.Base config pipe queue lists) {table : PollFds Wsi}
    (listening : table.listening = thread.table.listening) (member : wsi ∈ thread.live)
    (other : Wsi) :
    thread.inUse other ∧ other ≠ wsi ↔
      other ∈ thread.live.erase wsi ∨ other = table.listening := by
  have apart := base.ne_listening member
  rw [listening, base.nodup.mem_erase_iff, inUse]
  constructor
  · intro both
    cases both.1 with
    | inl live => exact .inl ⟨both.2, live⟩
    | inr isListening => exact .inr isListening
  · intro either
    cases either with
    | inl both => exact ⟨.inl both.2, both.1⟩
    | inr isListening =>
        rw [isListening]
        exact ⟨.inr rfl, apart.symm⟩

theorem Sound.reallyKill (sound : thread.Sound config pipe queue lists)
    (member : wsi ∈ thread.live)
    (done : ∀ n headers, thread.headers.ah wsi = some n → thread.headers.ahPool[n]? = some headers →
      headers.rxpos = headers.rxlen) :
    ∃ after, thread.reallyKill config.limits wsi = some after ∧
      after.Sound config pipe (queue.erase wsi) (fun n => (lists n).erase wsi) ∧
        thread.Killed after wsi := by
  obtain ⟨table, removes, tableSound, keeps⟩ :=
    sound.base.table.removeWsiSocketFromFds (.inl member) (sound.base.ne_listening member)
  obtain ⟨headers, served, detaches, headersSound, result⟩ :=
    sound.base.headers.lwsHeaderTableDetach done
  have stays : (fun other => other ∈ thread.live ∧ other ≠ wsi) =
      fun other => other ∈ thread.live.erase wsi := by
    funext other
    rw [sound.base.nodup.mem_erase_iff, and_comm]
  have used : (fun other => thread.inUse other ∧ other ≠ wsi) =
      fun other => other ∈ thread.live.erase wsi ∨ other = table.listening := by
    funext other
    exact propext (sound.base.inUse_forgotten keeps.listening member other)
  have servedStays : ∀ next, served = some next → next ∈ thread.live.erase wsi := by
    intro next isNext
    obtain ⟨last, _, n, _, _, bound, _⟩ := result.oldest next isNext
    have live := (sound.base.headers.waiters next (List.mem_of_getLast? last)).1
    refine sound.base.nodup.mem_erase_iff.mpr ⟨?_, live⟩
    intro same
    rw [same, result.unbound] at bound
    cases bound
  have timeouts := sound.base.timeouts.lwsRemoveFromTimeoutList member
  have forgets := headersSound.forget result.unbound result.absent
  rw [stays] at timeouts forgets
  rw [used] at tableSound
  have kills : thread.reallyKill config.limits wsi =
      some (((thread.unplugged wsi table).detached headers served).forgotten wsi) := by
    have gives : (thread.unplugged wsi table).headerTableDetach wsi =
        some ((thread.unplugged wsi table).detached headers served) := by
      have same : (thread.unplugged wsi table).headers.lwsHeaderTableDetach wsi =
          some (headers, served) := detaches
      apply headerTableDetach_eq same
      intro next isNext
      exact tableSound.seated.seat next (.inl (servedStays next isNext))
    rw [ServiceThread.reallyKill, removes]
    show (do
      let detached ← (thread.unplugged wsi table).headerTableDetach wsi
      return detached.forgotten wsi) = _
    rw [gives]
    rfl
  have apart : table.listening ∉ thread.live.erase wsi := by
    rw [keeps.listening]
    exact fun listed => sound.base.apart (List.mem_of_mem_erase listed)
  have websocket : ∀ n other, other ∈ (lists n).erase wsi ↔
      other ∈ thread.live.erase wsi ∧ thread.upgraded other = true ∧ table.protocol other = n := by
    intro n other
    rw [(sound.base.table.listed.holds.nodup n).mem_erase_iff, sound.base.nodup.mem_erase_iff,
      sound.base.websocket]
    constructor
    · rintro ⟨distinct, live, upgraded, spoken⟩
      exact ⟨⟨distinct, live⟩, upgraded,
        (keeps.protocol other ⟨.inl live, distinct⟩).trans spoken⟩
    · rintro ⟨⟨distinct, live⟩, upgraded, spoken⟩
      exact ⟨distinct, live, upgraded,
        (keeps.protocol other ⟨.inl live, distinct⟩).symm.trans spoken⟩
  -- The state of those who wait and what they are polled for is as it was.
  have stopped : ∀ other ∈ headers.ahWaitList,
      Function.update thread.state wsi .deadSocket other ≠ .shutdown →
        ∀ events, table.eventsOf other = some events → events.pollin = false := by
    intro other waiting open_ events found
    have distinct : other ≠ wsi := fun same => result.absent (same ▸ waiting)
    have live := (sound.base.headers.waiters other (result.fewer other waiting)).1
    rw [Function.update_of_ne distinct] at open_
    rw [keeps.events other ⟨.inl live, distinct⟩ (sound.base.ne_listening live)] at found
    exact sound.stopped other (result.fewer other waiting) open_ events found
  refine ⟨_, kills, ?_, ?_⟩
  · cases served with
    | none =>
        refine { base := ?_, stopped := stopped }
        exact { timeouts := timeouts, table := tableSound, headers := forgets
                nodup := sound.base.nodup.erase wsi, apart := apart, websocket := websocket
                welcome := sound.base.welcome, going := sound.base.going }
    | some next =>
        have live := servedStays next rfl
        have distinct : next ≠ table.listening := fun same => apart (same ▸ live)
        refine { base := ?_, stopped := ?_ }
        · exact { timeouts := timeouts
                  table := tableSound.changed (.inl live) distinct .none .onlyIn
                  headers := forgets
                  nodup := sound.base.nodup.erase wsi, apart := apart, websocket := websocket
                  welcome := sound.base.welcome, going := sound.base.going }
        · intro other waiting open_ events found
          have notNext : other ≠ next := fun same => (result.oldest next rfl).2.1 (same ▸ waiting)
          have otherStays := (forgets.waiters other waiting).1
          have changed : (table.changed next .none .onlyIn).eventsOf other = some events := found
          rw [tableSound.seated.eventsOf_changed (.inl live) (.inl otherStays),
            if_neg notNext] at changed
          exact stopped other waiting open_ events changed
  · cases served <;>
      exact { live := rfl, freed := rfl, pendingTimeout := rfl, pendingTimeoutLimit := rfl
              lastTimeoutCheck := rfl }

theorem Sound.justKillConnection (sound : thread.Sound config pipe queue lists)
    (member : wsi ∈ thread.live)
    (done : ∀ n headers, thread.headers.ah wsi = some n → thread.headers.ahPool[n]? = some headers →
      headers.rxpos = headers.rxlen) (now : Nat) (destroy : Bool) :
    Goes config pipe (thread.justKillConnection config wsi now destroy) := by
  rw [ServiceThread.justKillConnection]
  split
  next staged =>
    obtain ⟨changes, changed⟩ := sound.base.changePollfd member .onlyOut .onlyIn
    rw [changes]
    have base := (changed.withState wsi .shutdown).setTimeout member .shutdownFlush now
      config.timeoutSecs
    refine ⟨_, _, _, rfl, { base := base, stopped := ?_ }⟩
    intro other waiting open_ events found
    by_cases same : other = wsi
    · rw [same] at open_
      exact absurd (Function.update_self ..) open_
    · have stateKept : Function.update thread.state wsi .shutdown other = thread.state other :=
        Function.update_of_ne same _ _
      have otherOpen : thread.state other ≠ .shutdown := by
        rw [← stateKept]
        exact open_
      have live := (sound.base.headers.waiters other waiting).1
      have kept : (thread.table.changed wsi .onlyOut .onlyIn).eventsOf other = some events := found
      rw [sound.base.table.seated.eventsOf_changed (.inl member) (.inl live), if_neg same] at kept
      exact sound.stopped other waiting otherOpen events kept
  next =>
    obtain ⟨after, kills, afterSound, _⟩ := sound.reallyKill member done
    exact ⟨after, _, _, kills, afterSound⟩

theorem Sound.callbackOnWritable (sound : thread.Sound config pipe queue lists)
    (member : wsi ∈ thread.live) : Goes config pipe (thread.callbackOnWritable wsi) := by
  have asked := sound.base.table.seated.lwsCallbackOnWritable (.inl member) thread.able
  rw [ServiceThread.callbackOnWritable, asked]
  refine ⟨_, queue, lists, rfl, ?_⟩
  split
  next => exact sound.changePollout member .none .onlyOut rfl
  next => exact sound

theorem Sound.lwsCloseFreeWsi (sound : thread.Sound config pipe queue lists)
    (member : wsi ∈ thread.live) (now : Nat) (closing : Closing) :
    Goes config pipe (thread.lwsCloseFreeWsi config wsi now closing) := by
  have skipped := sound.skipRx wsi
  have kills := skipped.justKillConnection member (skipRx_done sound wsi) now closing.destroy
  have polite : ∀ state reason secs, thread.state wsi ≠ .shutdown →
      Goes config pipe (some (((thread.withHeaders (thread.headers.skipRx wsi)).withState wsi
        state).setTimeout wsi reason now secs)) := by
    intro state reason secs open_
    have moved := (skipped.withState open_ state).setTimeout member reason now secs
    exact ⟨_, _, lists, rfl, moved⟩
  rw [ServiceThread.lwsCloseFreeWsi]
  show Goes config pipe (if thread.unusable wsi = true ∨ closing.destroy = true ∨
    thread.state wsi = .shutdown then _ else _)
  split
  next => exact kills
  next goesOn =>
    have open_ : thread.state wsi ≠ .shutdown := fun same => goesOn (.inr (.inr same))
    show Goes config pipe (match thread.state wsi with
      | .deadSocket => _
      | .awaitingCloseAck => _
      | .flushingStoredSendBeforeClose => _
      | _ => _)
    split
    next => exact ⟨_, queue, lists, rfl, skipped⟩
    next => exact kills
    next =>
      split
      next => exact skipped.callbackOnWritable member
      next => exact kills
    next =>
      split
      next => exact polite _ _ _ open_
      next =>
        split
        next => exact polite _ _ _ open_
        next => exact kills

theorem Sound.lwsCloseFreeWsi_unusable (sound : thread.Sound config pipe queue lists)
    (member : wsi ∈ thread.live) (dead : thread.unusable wsi = true) (now : Nat)
    (closing : Closing) :
    ∃ after, thread.lwsCloseFreeWsi config wsi now closing = some after ∧
      after.Sound config pipe (queue.erase wsi) (fun n => (lists n).erase wsi) ∧
        thread.Killed after wsi := by
  obtain ⟨after, kills, afterSound, killed⟩ :=
    (sound.skipRx wsi).reallyKill member (skipRx_done sound wsi)
  refine ⟨after, ?_, afterSound, ?_⟩
  · rw [ServiceThread.lwsCloseFreeWsi]
    show (if thread.unusable wsi = true ∨ _ then _ else _) = _
    rw [if_pos (.inl dead), ServiceThread.justKillConnection]
    have notStaged : ¬ ((thread.withHeaders (thread.headers.skipRx wsi)).state wsi ≠ .shutdown ∧
        closing.destroy = false ∧
          (thread.withHeaders (thread.headers.skipRx wsi)).unusable wsi = false) := by
      intro staged
      have usable : thread.unusable wsi = false := staged.2.2
      rw [dead] at usable
      cases usable
    exact (if_neg notStaged).trans kills
  · exact { live := killed.live, freed := killed.freed, pendingTimeout := killed.pendingTimeout
            pendingTimeoutLimit := killed.pendingTimeoutLimit
            lastTimeoutCheck := killed.lastTimeoutCheck }

omit [DecidableEq Wsi] in
theorem Sound.withUnusable (sound : thread.Sound config pipe queue lists)
    (unusable : Wsi → Bool) :
    ({ thread with unusable := unusable } : ServiceThread Wsi).Sound config pipe queue lists :=
  { base :=
      { timeouts := sound.base.timeouts, table := sound.base.table
        headers := sound.base.headers, nodup := sound.base.nodup, apart := sound.base.apart
        websocket := sound.base.websocket, welcome := sound.base.welcome
        going := sound.base.going }
    stopped := sound.stopped }

/-! ### The check for timeouts -/

theorem Sound.lwsServiceTimeoutCheck (sound : thread.Sound config pipe queue lists)
    (member : wsi ∈ thread.live) (late : thread.timeouts.expired now wsi = true) :
    (lwsServiceTimeoutCheck config now wsi thread).Sound config pipe (queue.erase wsi)
        (fun n => (lists n).erase wsi) ∧
      thread.Killed (lwsServiceTimeoutCheck config now wsi thread) wsi := by
  have dead : Function.update thread.unusable wsi true wsi = true := Function.update_self ..
  obtain ⟨after, closes, afterSound, killed⟩ :=
    (sound.withUnusable (Function.update thread.unusable wsi true)).lwsCloseFreeWsi_unusable
      member dead now { destroy := false, stored := false, frameWritten := false }
  rw [ServiceThread.lwsServiceTimeoutCheck, if_pos late]
  simp only [closes, checked, Option.getD_some]
  refine ⟨afterSound, ?_⟩
  exact { live := killed.live, freed := killed.freed, pendingTimeout := killed.pendingTimeout
          pendingTimeoutLimit := killed.pendingTimeoutLimit
          lastTimeoutCheck := killed.lastTimeoutCheck }

/-- What a check of some connections leaves. -/
structure Swept (thread after : ServiceThread Wsi) (now : Nat) (back : List Wsi) : Prop where
  freed : after.freed = thread.freed ++ back.filter (thread.timeouts.expired now)
  live : ∀ wsi, wsi ∈ after.live ↔
    wsi ∈ thread.live ∧ ¬ (wsi ∈ back ∧ thread.timeouts.expired now wsi = true)
  pendingTimeout : after.timeouts.pendingTimeout = thread.timeouts.pendingTimeout
  pendingTimeoutLimit : after.timeouts.pendingTimeoutLimit = thread.timeouts.pendingTimeoutLimit
  lastTimeoutCheck : after.lastTimeoutCheck = thread.lastTimeoutCheck

omit [DecidableEq Wsi] in
private theorem expired_congr (now : Nat) {timeouts other : Timeouts Wsi}
    (pendingTimeout : other.pendingTimeout = timeouts.pendingTimeout)
    (pendingTimeoutLimit : other.pendingTimeoutLimit = timeouts.pendingTimeoutLimit) :
    other.expired now = timeouts.expired now := by
  funext wsi
  rw [Timeouts.expired, Timeouts.expired, pendingTimeout, pendingTimeoutLimit]

def checkAll (config : ThreadConfig) (thread : ServiceThread Wsi) (now : Nat)
    (back : List Wsi) : ServiceThread Wsi :=
  back.foldl (fun thread wsi => lwsServiceTimeoutCheck config now wsi thread) thread

theorem Sound.swept {front back : List Wsi}
    (sound : thread.Sound config pipe (front ++ back) lists) (now : Nat) :
    ∃ lists', (thread.checkAll config now back).Sound config pipe
        (front ++ back.filter fun wsi => !thread.timeouts.expired now wsi) lists' ∧
      thread.Swept (thread.checkAll config now back) now back := by
  induction back generalizing front thread lists with
  | nil =>
      exact ⟨lists, sound, { freed := (List.append_nil _).symm
                             live := fun wsi => by simp [checkAll]
                             pendingTimeout := rfl, pendingTimeoutLimit := rfl
                             lastTimeoutCheck := rfl }⟩
  | cons wsi rest ih =>
      have listed : wsi ∈ front ++ wsi :: rest := by simp
      have member := sound.base.timeouts.within wsi listed
      have nodup := List.nodup_append.mp (sound.base.timeouts.holds.nodup ())
      have notInFront : wsi ∉ front := fun inFront => nodup.2.2 wsi inFront wsi (by simp) rfl
      have notInRest := (List.nodup_cons.mp nodup.2.1).1
      have unfolds : thread.checkAll config now (wsi :: rest) =
          (ServiceThread.lwsServiceTimeoutCheck config now wsi thread).checkAll config now rest :=
        rfl
      rw [unfolds]
      by_cases late : thread.timeouts.expired now wsi = true
      · obtain ⟨checkedSound, killed⟩ := sound.lwsServiceTimeoutCheck member late
        have erased : (front ++ wsi :: rest).erase wsi = front ++ rest := by
          rw [List.erase_append_right _ notInFront, List.erase_cons_head]
        rw [erased] at checkedSound
        obtain ⟨lists', result, swept⟩ := ih checkedSound
        have same := expired_congr now killed.pendingTimeout killed.pendingTimeoutLimit
        have freed := swept.freed
        have live := swept.live
        rw [same] at result freed live
        refine ⟨lists', ?_, ?_⟩
        · rw [List.filter_cons_of_neg (by simp [late])]
          exact result
        · refine { freed := ?_, live := ?_
                   pendingTimeout := swept.pendingTimeout.trans killed.pendingTimeout
                   pendingTimeoutLimit :=
                     swept.pendingTimeoutLimit.trans killed.pendingTimeoutLimit
                   lastTimeoutCheck := swept.lastTimeoutCheck.trans killed.lastTimeoutCheck }
          · rw [List.filter_cons_of_pos late, freed, killed.freed, List.append_assoc]
            rfl
          · intro other
            rw [live, killed.live, sound.base.nodup.mem_erase_iff, List.mem_cons]
            by_cases isWsi : other = wsi
            · simp [isWsi, late]
            · simp [isWsi]
      · have skips : ServiceThread.lwsServiceTimeoutCheck config now wsi thread = thread := by
          rw [ServiceThread.lwsServiceTimeoutCheck, if_neg late]
        have later : (front ++ wsi :: rest) = (front ++ [wsi]) ++ rest := by simp
        rw [later] at sound
        rw [skips]
        obtain ⟨lists', result, swept⟩ := ih sound
        refine ⟨lists', ?_, ?_⟩
        · rw [List.filter_cons_of_pos (by simp [late])]
          rw [List.append_assoc] at result
          exact result
        · refine { freed := ?_, live := ?_, pendingTimeout := swept.pendingTimeout
                   pendingTimeoutLimit := swept.pendingTimeoutLimit
                   lastTimeoutCheck := swept.lastTimeoutCheck }
          · rw [List.filter_cons_of_neg late]
            exact swept.freed
          · intro other
            rw [swept.live, List.mem_cons]
            by_cases isWsi : other = wsi
            · simp [isWsi, late, notInRest]
            · simp [isWsi]

/-- The walk that reads the next connection before each check checks every one on the list. -/
theorem Sound.sweep (sound : thread.Sound config pipe queue lists) (now fuel : Nat)
    (enough : queue.length ≤ fuel) :
    Links.sweep (fun thread : ServiceThread Wsi => thread.timeouts.list)
      (ServiceThread.lwsServiceTimeoutCheck config now) fuel queue.head? thread =
        thread.checkAll config now queue := by
  have holds : ∀ (state : ServiceThread Wsi) nodes,
      (∃ lists, state.Sound config pipe nodes lists) →
        state.timeouts.list.Chain (.head ()) nodes := by
    rintro state nodes ⟨lists, good⟩
    exact good.base.timeouts.holds.chain ()
  have visits : ∀ (state : ServiceThread Wsi) front wsi back,
      (∃ lists, state.Sound config pipe (front ++ wsi :: back) lists) →
        ∃ front', ∃ lists, (ServiceThread.lwsServiceTimeoutCheck config now wsi state).Sound
          config pipe (front' ++ back) lists := by
    rintro state front wsi back ⟨lists, good⟩
    have split : front ++ wsi :: back = (front ++ [wsi]) ++ back := by simp
    by_cases late : state.timeouts.expired now wsi = true
    · have nodup := List.nodup_append.mp (good.base.timeouts.holds.nodup ())
      have notInFront : wsi ∉ front := fun inFront => nodup.2.2 wsi inFront wsi (by simp) rfl
      have member := good.base.timeouts.within wsi (by simp)
      obtain ⟨checkedSound, _⟩ := good.lwsServiceTimeoutCheck member late
      rw [List.erase_append_right _ notInFront, List.erase_cons_head] at checkedSound
      exact ⟨front, _, checkedSound⟩
    · have skips : ServiceThread.lwsServiceTimeoutCheck config now wsi state = state := by
        rw [ServiceThread.lwsServiceTimeoutCheck, if_neg late]
      rw [skips]
      rw [split] at good
      exact ⟨front ++ [wsi], lists, good⟩
  have good : ∃ lists, thread.Sound config pipe ([] ++ queue) lists := ⟨lists, sound⟩
  exact Links.sweep_eq_foldl holds visits good enough

/-- Those whose time is over are freed, in the order of the list, and the others stay on it. -/
theorem Sound.serviceTimeouts (sound : thread.Sound config pipe queue lists)
    (due : thread.lastTimeoutCheck ≠ now) :
    ∃ lists', (thread.serviceTimeouts config now).Sound config pipe
        (queue.filter fun wsi => !thread.timeouts.expired now wsi) lists' ∧
      ({ thread with lastTimeoutCheck := now } : ServiceThread Wsi).Swept
        (thread.serviceTimeouts config now) now queue := by
  have checking : ({ thread with lastTimeoutCheck := now } : ServiceThread Wsi).Sound config pipe
      queue lists :=
    { base :=
        { timeouts := sound.base.timeouts, table := sound.base.table
          headers := sound.base.headers, nodup := sound.base.nodup, apart := sound.base.apart
          websocket := sound.base.websocket, welcome := sound.base.welcome
          going := sound.base.going }
      stopped := sound.stopped }
  have first : thread.timeouts.list.head () = queue.head? :=
    (sound.base.timeouts.holds.chain ()).read_eq
  have within : queue ⊆ thread.live := fun wsi listed => sound.base.timeouts.within wsi listed
  have enough := (List.Nodup.subperm (sound.base.timeouts.holds.nodup ()) within).length_le
  have runs : thread.serviceTimeouts config now =
      ({ thread with lastTimeoutCheck := now } : ServiceThread Wsi).checkAll config now queue := by
    rw [ServiceThread.serviceTimeouts, if_neg due, first]
    exact checking.sweep now thread.live.length enough
  rw [runs]
  have front : queue = [] ++ queue := rfl
  rw [front] at checking
  exact checking.swept now

/-! ### The other events -/

omit [DecidableEq Wsi] in
private theorem polledForInput_iff (base : thread.Base config pipe queue lists)
    (inUse : thread.inUse wsi) :
    thread.polledForInput wsi = true ↔
      ∀ events, thread.table.eventsOf wsi = some events → events.pollin = true := by
  obtain ⟨place, entry, seat⟩ := base.table.seated.seat wsi inUse
  rw [polledForInput, seat.eventsOf]
  simp

omit [DecidableEq Wsi] in
/-- A listening socket that is polled for input has room for one more connection. -/
theorem Base.room (base : thread.Base config pipe queue lists)
    (polled : thread.polledForInput thread.table.listening = true) :
    thread.table.fds.length < config.limits.fdLimitPerThread - 1 := by
  obtain ⟨place, entry, seat⟩ := base.table.seated.seat _ (.inr rfl)
  have pollin := (polledForInput_iff base (.inr rfl)).mp polled entry.events seat.eventsOf
  exact (base.table.accepts entry.events seat.eventsOf).1 pollin

omit [DecidableEq Wsi] in
private theorem mayAccept_unused {sock : Nat} (may : thread.mayAccept config wsi sock) :
    ¬ thread.inUse wsi := by
  intro used
  cases used with
  | inl live => exact may.1 live
  | inr isListening => exact may.2.1 isListening

theorem Sound.timeouts_created (sound : thread.Sound config pipe queue lists)
    (free : wsi ∉ thread.live) (sock now : Nat) :
    (thread.created config wsi sock now).timeouts.Sound (wsi :: queue)
      fun other => other ∈ wsi :: thread.live := by
  have absent : wsi ∉ queue := fun listed => free (sound.base.timeouts.within wsi listed)
  have known : (fun other => other ∈ thread.live ∨ other = wsi) =
      fun other => other ∈ wsi :: thread.live := by
    funext other
    rw [List.mem_cons, or_comm]
  have zeroed := sound.base.timeouts.zalloc free
  rw [known] at zeroed
  have set := zeroed.lwsSetTimeout List.mem_cons_self .establishWithServer now
    config.timeoutSecs
  have queued : Timeouts.queueSet queue wsi .establishWithServer = wsi :: queue := by
    rw [Timeouts.queueSet, if_neg (by simp), if_neg absent]
  rw [queued] at set
  exact set

/-- The new connection is not among those that wait, and is none that was there. -/
theorem Sound.stopped_created (sound : thread.Sound config pipe queue lists)
    (free : wsi ∉ thread.live) {table : PollFds Wsi}
    (keeps : ∀ other ∈ thread.live, table.eventsOf other = thread.table.eventsOf other) :
    ∀ other ∈ thread.headers.ahWaitList,
      Function.update thread.state wsi .http other ≠ .shutdown →
        ∀ events, table.eventsOf other = some events → events.pollin = false := by
  intro other waiting open_ events found
  have live := (sound.base.headers.waiters other waiting).1
  have distinct : other ≠ wsi := fun same => free (same ▸ live)
  rw [Function.update_of_ne distinct] at open_
  rw [keeps other live] at found
  exact sound.stopped other waiting open_ events found

theorem Sound.websocket_created (sound : thread.Sound config pipe queue lists)
    (free : wsi ∉ thread.live) {table : PollFds Wsi}
    (keeps : ∀ other ∈ thread.live, table.protocol other = thread.table.protocol other)
    (n : Nat) (other : Wsi) :
    other ∈ lists n ↔ (other = wsi ∨ other ∈ thread.live) ∧
      Function.update thread.upgraded wsi false other = true ∧ table.protocol other = n := by
  rw [sound.base.websocket]
  by_cases same : other = wsi
  · rw [same, Function.update_self]
    exact iff_of_false (fun both => free both.1) fun both => absurd both.2.1 (by simp)
  · rw [Function.update_of_ne same]
    constructor
    · rintro ⟨live, upgraded, spoken⟩
      exact ⟨.inr live, upgraded, (keeps other live).trans spoken⟩
    · rintro ⟨either, upgraded, spoken⟩
      have live := either.resolve_left same
      exact ⟨live, upgraded, (keeps other live).symm.trans spoken⟩

theorem Sound.created (sound : thread.Sound config pipe queue lists) {sock : Nat}
    (may : thread.mayAccept config wsi sock) (now : Nat) :
    ∃ table, PollFds.insertWsiSocketIntoFds config.limits
        (thread.created config wsi sock now).table wsi = some (table, 0) ∧
      ((thread.created config wsi sock now).withTable table).Sound config pipe
        (wsi :: queue) lists := by
  have unused := mayAccept_unused may
  obtain ⟨free, notListening, small, fresh, polled⟩ := may
  obtain ⟨table, inserts, tableSound, keeps, _⟩ :=
    sound.base.table.insertWsiSocketIntoFds unused fresh small (sound.base.room polled)
  have used : (fun other => thread.inUse other ∨ other = wsi) =
      fun other => other ∈ wsi :: thread.live ∨ other = table.listening := by
    funext other
    rw [keeps.listening, inUse, List.mem_cons]
    exact propext ⟨fun either => by tauto, fun either => by tauto⟩
  rw [used] at tableSound
  refine ⟨table, inserts, { base := ?_, stopped := ?_ }⟩
  · refine { timeouts := sound.timeouts_created free sock now, table := tableSound
             headers := sound.base.headers.mono fun other live => List.mem_cons_of_mem _ live
             nodup := List.nodup_cons.mpr ⟨free, sound.base.nodup⟩
             apart := ?_, websocket := ?_
             welcome := sound.base.welcome, going := sound.base.going }
    · show table.listening ∉ wsi :: thread.live
      rw [keeps.listening, List.mem_cons, not_or]
      exact ⟨Ne.symm notListening, sound.base.apart⟩
    · intro n other
      show _ ↔ other ∈ wsi :: thread.live ∧ _
      rw [List.mem_cons]
      apply sound.websocket_created free
      exact fun other live => keeps.protocol other (.inl live)
  · apply sound.stopped_created free
    intro other live
    exact keeps.events other (.inl live) (sound.base.ne_listening live)

/-- The thread when the user has refused a connection. -/
def refusing (config : ThreadConfig) (thread : ServiceThread Wsi) (wsi : Wsi) (sock now : Nat) :
    ServiceThread Wsi :=
  ((thread.created config wsi sock now).setTimeout wsi .noPendingTimeout now 0).forgotten wsi

theorem Sound.refusing (sound : thread.Sound config pipe queue lists) {sock : Nat}
    (may : thread.mayAccept config wsi sock) (now : Nat) :
    (thread.refusing config wsi sock now).Sound config pipe queue lists := by
  have unused := mayAccept_unused may
  have free := may.1
  have timeouts := (sound.timeouts_created free sock now).lwsSetTimeout List.mem_cons_self
    .noPendingTimeout now 0
  have dequeued : Timeouts.queueSet (wsi :: queue) wsi .noPendingTimeout = queue := by
    rw [Timeouts.queueSet, if_pos rfl, List.erase_cons_head]
  have live : (thread.refusing config wsi sock now).live = thread.live :=
    List.erase_cons_head ..
  rw [dequeued] at timeouts
  have apart : ∀ other ∈ thread.live, other ≠ wsi := fun other inside same => free (same ▸ inside)
  refine { base := ?_, stopped := ?_ }
  · refine { timeouts := ?_, table := ?_, headers := ?_, nodup := ?_, apart := ?_
             websocket := ?_, welcome := sound.base.welcome, going := sound.base.going }
    · rw [live]
      apply timeouts.restrict
      · exact fun other inside => List.mem_cons_of_mem _ inside
      · exact sound.base.timeouts.within
    · have used : (thread.refusing config wsi sock now).inUse = thread.inUse := by
        funext other
        rw [inUse, live]
        rfl
      rw [used]
      exact sound.base.table.zalloc unused sock
    · rw [live]
      exact sound.base.headers
    · rw [live]
      exact sound.base.nodup
    · rw [live]
      exact sound.base.apart
    · intro n other
      have protocol : ∀ other ∈ thread.live,
          (thread.table.zalloc wsi sock).protocol other = thread.table.protocol other :=
        fun other inside => Function.update_of_ne (apart other inside) _ _
      rw [live, sound.websocket_created free protocol]
      by_cases same : other = wsi
      · rw [same]
        refine iff_of_false ?_ fun both => free both.1
        exact fun both => absurd both.2.1 (by simp)
      · rw [or_iff_right same]
        rfl
  · apply sound.stopped_created free
    intro other inside
    exact PollFds.Seated.eventsOf_zalloc thread.table (apart other inside) sock

theorem Sound.lwsAdoptSocketVhost (sound : thread.Sound config pipe queue lists) {sock : Nat}
    (may : thread.mayAccept config wsi sock) (now : Nat) (refused : Bool) :
    Goes config pipe (thread.lwsAdoptSocketVhost config wsi sock now refused) := by
  have room := sound.base.room may.2.2.2.2
  rw [ServiceThread.lwsAdoptSocketVhost, if_neg (by omega)]
  obtain ⟨table, inserts, placed⟩ := sound.created may now
  cases refused with
  | true => exact ⟨_, queue, lists, rfl, sound.refusing may now⟩
  | false =>
      obtain ⟨after, attaches, afterSound, _⟩ :=
        placed.headerTableAttach List.mem_cons_self
      refine ⟨after, _, _, ?_, afterSound⟩
      simp only [Bool.false_eq_true, if_false, inserts, Option.bind_eq_bind, Option.bind_some,
        ne_eq, not_true_eq_false]
      exact attaches

omit [DecidableEq Wsi] in
theorem Sound.withTable_used (sound : thread.Sound config pipe queue lists) {n : Nat}
    (bound : thread.headers.ah wsi = some n)
    {change : AllocatedHeaders Wsi → AllocatedHeaders Wsi}
    (owner : ∀ headers, (change headers).wsi = headers.wsi)
    (inUse : ∀ headers, (change headers).inUse = headers.inUse) :
    (thread.withHeaders (thread.headers.withHeaders n change)).Sound config pipe queue lists := by
  obtain ⟨headers, found, _, _⟩ := sound.base.headers.exists_headers bound
  have kept := sound.base.headers.withHeaders found (owner headers) (inUse headers)
  exact { base := sound.base.withHeaders kept
          stopped := sound.stopped.withHeaders fun _ waiting => waiting }

theorem Sound.readHeaders (sound : thread.Sound config pipe queue lists)
    (member : wsi ∈ thread.live) (len : Nat) :
    Goes config pipe (thread.readHeaders wsi len) := by
  have reads : ∀ attached : ServiceThread Wsi, attached.Sound config pipe queue lists →
      Goes config pipe (match attached.headers.ah wsi with
        | none => some attached
        | some n => some (attached.withHeaders (attached.headers.withHeaders n fun headers =>
            if headers.rxpos = headers.rxlen then { headers with rxpos := 0, rxlen := len }
            else headers))) := by
    intro attached attachedSound
    cases bound : attached.headers.ah wsi with
    | none => exact ⟨attached, queue, lists, rfl, attachedSound⟩
    | some n =>
        refine ⟨_, queue, lists, rfl, attachedSound.withTable_used bound ?_ ?_⟩
        · intro headers
          split <;> rfl
        · intro headers
          split <;> rfl
  rw [ServiceThread.readHeaders]
  by_cases unbound : thread.headers.ah wsi = none
  · obtain ⟨attached, attaches, attachedSound, _⟩ := sound.headerTableAttach member
    rw [if_pos unbound, attaches]
    exact reads attached attachedSound
  · rw [if_neg unbound]
    exact reads thread sound

omit [DecidableEq Wsi] in
theorem Sound.parseHeaders (sound : thread.Sound config pipe queue lists) (wsi : Wsi)
    (parsed : Parsed) : (thread.parseHeaders wsi parsed).Sound config pipe queue lists := by
  rw [ServiceThread.parseHeaders]
  cases bound : thread.headers.ah wsi with
  | none => exact sound
  | some n => exact sound.withTable_used bound (fun _ => rfl) fun _ => rfl

theorem Sound.skipAndDetach (sound : thread.Sound config pipe queue lists) (wsi : Wsi) :
    ∃ after, (thread.withHeaders (thread.headers.skipRx wsi)).headerTableDetach wsi = some after ∧
      after.Sound config pipe queue lists ∧ after.live = thread.live ∧
        after.state = thread.state :=
  (sound.skipRx wsi).headerTableDetach (skipRx_done sound wsi)

theorem Sound.upgrade (sound : thread.Sound config pipe queue lists)
    (member : wsi ∈ thread.live) (http : thread.upgraded wsi = false)
    (open_ : thread.state wsi = .http) (n now : Nat) (more : Bool) :
    Goes config pipe (thread.upgrade wsi n now more) := by
  have ready := sound.setTimeout member .noPendingTimeout now 0
  have absent : ∀ key, wsi ∉ lists key := by
    intro key listed
    have upgraded := ((sound.base.websocket key wsi).mp listed).2.1
    rw [http] at upgraded
    cases upgraded
  have stitched := sound.base.table.stitchProtocol (.inl member) (sound.base.ne_listening member)
    absent n
  have notShut : (thread.setTimeout wsi .noPendingTimeout now 0).state wsi ≠ .shutdown := by
    show thread.state wsi ≠ .shutdown
    simp [open_]
  have moved := ready.withState notShut .established
  have spoken : ({ (thread.setTimeout wsi .noPendingTimeout now 0) with
      table := thread.table.stitchProtocol wsi n
      state := Function.update thread.state wsi .established
      upgraded := Function.update thread.upgraded wsi true } : ServiceThread Wsi).Sound config
        pipe (Timeouts.queueSet queue wsi .noPendingTimeout)
          (Function.update lists n (wsi :: lists n)) := by
    refine { base := ?_, stopped := moved.stopped }
    refine { timeouts := ready.base.timeouts, table := stitched, headers := ready.base.headers
             nodup := ready.base.nodup, apart := ready.base.apart, websocket := ?_
             welcome := ready.base.welcome, going := ready.base.going }
    intro key other
    show other ∈ Function.update lists n (wsi :: lists n) key ↔ other ∈ thread.live ∧
      Function.update thread.upgraded wsi true other = true ∧
        Function.update thread.table.protocol wsi n other = key
    by_cases same : other = wsi
    · rw [same, Function.update_self, Function.update_self]
      by_cases here : key = n
      · rw [here, Function.update_self]
        exact iff_of_true List.mem_cons_self ⟨member, rfl, rfl⟩
      · rw [Function.update_of_ne here]
        exact iff_of_false (absent key) fun both => here both.2.2.symm
    · rw [Function.update_of_ne same, Function.update_of_ne same, ← sound.base.websocket]
      by_cases here : key = n
      · rw [here, Function.update_self, List.mem_cons, or_iff_right same]
      · rw [Function.update_of_ne here]
  cases more with
  | true => exact ⟨_, _, _, rfl, spoken⟩
  | false =>
      obtain ⟨after, detaches, afterSound, _⟩ := spoken.skipAndDetach wsi
      exact ⟨after, _, _, detaches, afterSound⟩

theorem Sound.bailNukeAh (sound : thread.Sound config pipe queue lists)
    (member : wsi ∈ thread.live) (now : Nat) (closing : Closing) :
    Goes config pipe (thread.bailNukeAh config wsi now closing) := by
  obtain ⟨detached, detaches, detachedSound, live, _⟩ := sound.skipAndDetach wsi
  have still : wsi ∈ detached.live := by
    rw [live]
    exact member
  have closes := detachedSound.lwsCloseFreeWsi still now closing
  show Goes config pipe ((thread.withHeaders (thread.headers.skipRx wsi)).headerTableDetach wsi >>=
    fun detached => detached.lwsCloseFreeWsi config wsi now closing)
  rw [detaches]
  exact closes

theorem Sound.httpTransactionCompleted (sound : thread.Sound config pipe queue lists)
    (member : wsi ∈ thread.live) (open_ : thread.state wsi = .http) (now : Nat) (more : Bool) :
    Goes config pipe (thread.httpTransactionCompleted config wsi now more) := by
  have notShut : thread.state wsi ≠ .shutdown := by simp [open_]
  rw [ServiceThread.httpTransactionCompleted]
  generalize (if config.keepaliveTimeout = 0 then PendingTimeout.noPendingTimeout
    else .httpKeepaliveIdle) = reason
  have idle := (sound.withState notShut .http).setTimeout member reason now
    config.keepaliveTimeout
  split
  next => exact ⟨_, _, _, rfl, idle⟩
  next bound =>
    split
    next =>
      obtain ⟨n, mine⟩ := Option.ne_none_iff_exists'.mp bound
      rw [idle.base.headers.lwsHeaderTableReset mine]
      exact ⟨_, _, _, rfl, idle.withTable_used mine (fun _ => rfl) fun _ => rfl⟩
    next =>
      obtain ⟨after, detaches, afterSound, _⟩ := idle.skipAndDetach wsi
      exact ⟨after, _, _, detaches, afterSound⟩

theorem Sound.readInherited (sound : thread.Sound config pipe queue lists) (wsi : Wsi) :
    Goes config pipe (thread.readInherited wsi) := by
  rw [ServiceThread.readInherited]
  split
  next => exact ⟨thread, queue, lists, rfl, sound⟩
  next =>
    obtain ⟨after, detaches, afterSound, _⟩ := sound.skipAndDetach wsi
    exact ⟨after, _, _, detaches, afterSound⟩

theorem Sound.callbackOnWritableAllProtocol (sound : thread.Sound config pipe queue lists)
    (n : Nat) :
    ∃ table, thread.table.lwsCallbackOnWritableAllProtocolVhost thread.able thread.live.length n =
        some table ∧
      PollFds.Asked thread.able (lists n) pipe thread.inUse thread.table table ∧
        (thread.withTable table).Sound config pipe queue lists := by
  have within : lists n ⊆ thread.live := by
    intro wsi listed
    have inUse := (sound.base.table.listed.within n wsi listed).1
    exact inUse.resolve_right fun same => sound.base.table.apart n (same ▸ listed)
  have enough :=
    (List.Nodup.subperm (sound.base.table.listed.holds.nodup n) within).length_le
  obtain ⟨table, walks, asked⟩ :=
    sound.base.table.seated.lwsCallbackOnWritableAllProtocolVhost thread.able
      sound.base.table.listed enough
  refine ⟨table, walks, asked, { base := ?_, stopped := ?_ }⟩
  · have used : (thread.withTable table).inUse = thread.inUse := by
      funext other
      show (other ∈ thread.live ∨ other = table.listening) = _
      rw [asked.listening]
      rfl
    refine { timeouts := sound.base.timeouts, table := ?_, headers := sound.base.headers
             nodup := sound.base.nodup, apart := ?_, websocket := ?_
             welcome := sound.base.welcome, going := sound.base.going }
    · rw [used]
      exact sound.base.table.asked asked
    · show table.listening ∉ thread.live
      rw [asked.listening]
      exact sound.base.apart
    · intro key wsi
      show _ ↔ wsi ∈ thread.live ∧ thread.upgraded wsi = true ∧ table.protocol wsi = key
      rw [asked.protocol]
      exact sound.base.websocket key wsi
  · intro wsi waiting open_ events found
    have live := (sound.base.headers.waiters wsi waiting).1
    have same : table.eventsOf wsi = some events := found
    rw [asked.events wsi (.inl live)] at same
    split at same
    next =>
      obtain ⟨before, there, isChanged⟩ := Option.map_eq_some_iff.mp same
      have off := sound.stopped wsi waiting open_ before there
      rw [← isChanged]
      simp [PollEvents.change, PollEvents.onlyOut, off]
    next => exact sound.stopped wsi waiting open_ events same

omit [DecidableEq Wsi] in
theorem Sound.contextDestroy (sound : thread.Sound config pipe queue lists) :
    (thread.withTable { thread.table with beingDestroyed := true }).Sound config pipe queue
      lists := by
  have table := sound.base.table
  refine { base := ?_, stopped := sound.stopped }
  refine { timeouts := sound.base.timeouts, table := ?_, headers := sound.base.headers
           nodup := sound.base.nodup, apart := sound.base.apart, websocket := sound.base.websocket
           welcome := sound.base.welcome, going := sound.base.going }
  refine { seated := ?_, listed := ?_, small := table.small, listener := table.listener
           apart := table.apart, room := table.room, accepts := ?_ }
  · refine { first := table.seated.first, seat := ?_, taken := table.seated.taken
             lookup := table.seated.lookup }
    intro wsi inUse
    obtain ⟨place, entry, seat⟩ := table.seated.seat wsi inUse
    exact ⟨place, entry, seat.position, seat.afterPipe, seat.found, seat.sock⟩
  · exact { holds := table.listed.holds, settled := table.listed.settled
            within := table.listed.within }
  · exact fun events found => ⟨(table.accepts events found).1, nofun⟩

theorem Sound.serve (sound : thread.Sound config pipe queue lists) (event : Event Wsi)
    (enabled : thread.enabled config event) :
    Goes config pipe (thread.serve config event) := by
  cases event with
  | accept wsi sock now refused => exact sound.lwsAdoptSocketVhost enabled now refused
  | readHeaders wsi len => exact sound.readHeaders enabled.1 len
  | parseHeaders wsi parsed => exact ⟨_, queue, lists, rfl, sound.parseHeaders wsi parsed⟩
  | upgrade wsi n now more => exact sound.upgrade enabled.1 enabled.2.1 enabled.2.2.1 n now more
  | bailNukeAh wsi now closing => exact sound.bailNukeAh enabled.1 now closing
  | transactionCompleted wsi now more =>
      exact sound.httpTransactionCompleted enabled.1 enabled.2.2 now more
  | readInherited wsi => exact sound.readInherited wsi
  | receiveClose wsi =>
      have open_ : thread.state wsi ≠ .shutdown := by simp [enabled.2]
      exact ⟨_, queue, lists, rfl, sound.withState open_ .returnedCloseAlready⟩
  | hangUp wsi now =>
      exact (sound.withUnusable (Function.update thread.unusable wsi true)).lwsCloseFreeWsi
        enabled now { destroy := false, stored := false, frameWritten := false }
  | close wsi now closing => exact sound.lwsCloseFreeWsi enabled.1 now closing
  | setTimeout wsi reason now secs =>
      exact ⟨_, _, lists, rfl, sound.setTimeout enabled reason now secs⟩
  | callbackOnWritable wsi => exact sound.callbackOnWritable enabled
  | callbackOnWritableAllProtocol n =>
      obtain ⟨table, walks, _, afterSound⟩ := sound.callbackOnWritableAllProtocol n
      refine ⟨_, queue, lists, ?_, afterSound⟩
      show (PollFds.lwsCallbackOnWritableAllProtocolVhost _ _ _ _).map _ = _
      rw [walks]
      rfl
  | pollout wsi =>
      refine ⟨_, queue, lists, (sound.base.changePollfd enabled _ _).1, ?_⟩
      exact sound.changePollout enabled .onlyOut .none rfl
  | serviceTimeouts now =>
      by_cases due : thread.lastTimeoutCheck = now
      · refine ⟨thread, queue, lists, ?_, sound⟩
        show some (thread.serviceTimeouts config now) = _
        rw [ServiceThread.serviceTimeouts, if_pos due]
      · obtain ⟨lists', afterSound, _⟩ := sound.serviceTimeouts due
        exact ⟨_, _, lists', rfl, afterSound⟩
  | contextDestroy => exact ⟨_, queue, lists, rfl, sound.contextDestroy⟩

end ServiceThread

end JSCameraKit.Libwebsockets

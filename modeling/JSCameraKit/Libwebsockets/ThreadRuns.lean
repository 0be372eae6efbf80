import JSCameraKit.Libwebsockets.ServiceThread

set_option autoImplicit false

/-! What holds of a service thread in every run: no assertion fails and nothing leads to freed
memory, the check for timeouts frees the late connections and no others, the table of polled
sockets and the pool of header tables fit the connections there are, and all connections of a
protocol can be reached. -/

namespace JSCameraKit.Libwebsockets.ServiceThread

variable {Wsi : Type} [DecidableEq Wsi] {config : ThreadConfig} {thread : ServiceThread Wsi}

def Reached (config : ThreadConfig) (thread : ServiceThread Wsi) : Prop :=
  (machine config).Reachable thread

theorem initial_sound {pipe sock : Nat} {listening : Wsi} {table : PollFds Wsi}
    (apart : pipe ≠ sock) (small : sock < config.limits.maxFds)
    (inserts : PollFds.insertWsiSocketIntoFds config.limits
      (PollFds.initial pipe listening sock) listening = some (table, 0)) :
    (initial config table).Sound config pipe [] fun _ => [] := by
  obtain ⟨after, inserted, tableSound, listens⟩ :=
    PollFds.initial_sound config.limits pipe listening apart small
  rw [inserts] at inserted
  cases inserted
  have used : (initial config table).inUse = fun wsi => wsi = listening := by
    funext wsi
    show (wsi ∈ [] ∨ wsi = table.listening) = _
    rw [listens]
    simp
  refine { base := ?_, stopped := fun _ waiting => absurd waiting List.not_mem_nil }
  refine { timeouts := Timeouts.initial_sound _, table := ?_
           headers := HeaderPool.initial_sound config.maxHttpHeaderPool _
           nodup := List.nodup_nil, apart := List.not_mem_nil, websocket := ?_
           welcome := rfl, going := rfl }
  · rw [used]
    exact tableSound
  · intro n wsi
    exact iff_of_false List.not_mem_nil fun both => absurd both.1 List.not_mem_nil

/-! ### A small thread

A listening socket, a pipe, and room for two connections that share one header table. -/

def smallConfig : ThreadConfig :=
  { limits := { fdLimitPerThread := 5, maxFds := 64, roomy := by decide }
    maxHttpHeaderPool := 1
    timeoutSecs := 20
    keepaliveTimeout := 5
    countProtocols := 1 }

def smallStart : ServiceThread Nat :=
  initial smallConfig <|
    ((PollFds.insertWsiSocketIntoFds smallConfig.limits (PollFds.initial 3 100 4) 100).map
      Prod.fst).getD (PollFds.initial 3 100 4)

/-- One connection is upgraded, and one waits for a header table. -/
def smallRun : Option (ServiceThread Nat) :=
  (machine smallConfig).run smallStart
    [.accept 1 7 50 false, .accept 2 8 51 false, .readHeaders 1 90, .upgrade 1 0 52 true]

private theorem smallRun_isSome : smallRun.isSome = true := by decide

def small : ServiceThread Nat := smallRun.get smallRun_isSome

private theorem small_reached : Reached smallConfig small := by
  have starts : (machine smallConfig).initial smallStart :=
    ⟨3, 4, 100, _, by decide, by decide, rfl, rfl⟩
  exact Machine.Reachable.run _ (.initial starts) (Option.some_get smallRun_isSome).symm

private theorem reached_sound (reached : Reached config thread) :
    ∃ pipe queue lists, thread.Sound config pipe queue lists := by
  refine Machine.Reachable.invariant
    (fun thread => ∃ pipe queue lists, thread.Sound config pipe queue lists) ?_ ?_ reached
  · rintro state ⟨pipe, sock, listening, table, apart, small, inserts, same⟩
    rw [same]
    exact ⟨pipe, [], _, initial_sound apart small inserts⟩
  · rintro state event next _ ⟨pipe, queue, lists, sound⟩ taken
    change (if _ then some _ else none) = some next at taken
    rw [Option.ite_none_right_eq_some] at taken
    obtain ⟨⟨_, enabled⟩, steps⟩ := taken
    obtain ⟨after, queue', lists', serves, afterSound⟩ := sound.serve event enabled
    cases steps
    rw [serves]
    exact ⟨pipe, queue', lists', afterSound⟩

/-! ### Pointers -/

/-- A pointer to a connection that the thread, or a connection there is, can follow. -/
inductive Refers (thread : ServiceThread Wsi) : Wsi → Prop
  | socket {fd : Nat} {wsi : Wsi} (found : thread.table.lwsLookup fd = some wsi) :
      Refers thread wsi
  | owner {headers : AllocatedHeaders Wsi} {wsi : Wsi} (pooled : headers ∈ thread.headers.ahPool)
      (owned : headers.wsi = some wsi) : Refers thread wsi
  | waiter {wsi : Wsi} (waits : wsi ∈ thread.headers.ahWaitList) : Refers thread wsi
  | firstTimeout {wsi : Wsi} (first : thread.timeouts.list.head () = some wsi) : Refers thread wsi
  | firstOfProtocol {n : Nat} {wsi : Wsi} (first : thread.table.sameVhProtocol.head n = some wsi) :
      Refers thread wsi
  | nextTimeout {before wsi : Wsi} (live : before ∈ thread.live)
      (follows : thread.timeouts.list.next before = some wsi) : Refers thread wsi
  | nextOfProtocol {before wsi : Wsi} (live : before ∈ thread.live)
      (follows : thread.table.sameVhProtocol.next before = some wsi) : Refers thread wsi
  | prevTimeout {after wsi : Wsi} (live : after ∈ thread.live)
      (leads : thread.timeouts.list.prev after = some (.next wsi)) : Refers thread wsi
  | prevOfProtocol {after wsi : Wsi} (live : after ∈ thread.live)
      (leads : thread.table.sameVhProtocol.prev after = some (.next wsi)) : Refers thread wsi

omit [DecidableEq Wsi] in
theorem Sound.refers {pipe : Nat} {queue : List Wsi} {lists : Nat → List Wsi}
    (sound : thread.Sound config pipe queue lists) {wsi : Wsi} (refers : thread.Refers wsi) :
    thread.inUse wsi := by
  have timeouts := sound.base.timeouts
  have listed := sound.base.table.listed
  have inQueue : (∃ _ : Unit, wsi ∈ queue) → thread.inUse wsi := by
    rintro ⟨_, member⟩
    exact .inl (timeouts.within wsi member)
  have onList : (∃ n, wsi ∈ lists n) → thread.inUse wsi := by
    rintro ⟨n, member⟩
    exact (listed.within n wsi member).1
  cases refers with
  | socket found => exact ((sound.base.table.seated.lookup _ wsi).mp found).1
  | owner pooled owned =>
      obtain ⟨n, there⟩ := List.mem_iff_getElem?.mp pooled
      have bound := (sound.base.headers.owner wsi n).mpr ⟨_, there, owned⟩
      refine .inl (sound.base.headers.owners wsi ?_)
      rw [bound]
      exact Option.some_ne_none n
  | waiter waits => exact .inl (sound.base.headers.waiters wsi waits).1
  | firstTimeout first => exact inQueue ⟨(), timeouts.holds.head_listed first⟩
  | firstOfProtocol first => exact onList ⟨_, listed.holds.head_listed first⟩
  | nextTimeout live follows =>
      exact inQueue (timeouts.settled.next_listed timeouts.holds live follows)
  | nextOfProtocol live follows =>
      exact onList (listed.settled.next_listed listed.holds (.inl live) follows)
  | prevTimeout live leads =>
      exact inQueue (timeouts.settled.prev_listed timeouts.holds live leads)
  | prevOfProtocol live leads =>
      exact onList (listed.settled.prev_listed listed.holds (.inl live) leads)

/-- In every run no assertion fails, no socket is accepted that there is no place for, and no
pointer leads to a connection that has been freed. -/
theorem reached_pointers (reached : Reached config thread) :
    thread.aborted = false ∧ thread.turnedAway = [] ∧
      ∀ wsi, thread.Refers wsi → wsi ∈ thread.live ∨ wsi = thread.table.listening := by
  obtain ⟨pipe, queue, lists, sound⟩ := reached_sound reached
  exact ⟨sound.base.going, sound.base.welcome, fun wsi refers => sound.refers refers⟩

theorem reached_pointers_small : small.live = [2, 1] ∧ small.aborted = false ∧
    ∀ wsi, small.Refers wsi → wsi ∈ small.live ∨ wsi = small.table.listening := by
  obtain ⟨going, _, refers⟩ := reached_pointers small_reached
  exact ⟨by decide, going, refers⟩

/-! ### Timeouts -/

/-- In every run the list of timeouts has each connection with a pending timeout once, and a
check frees those whose time is over, in the order of the list, and leaves the others on it with
the timeouts they have. -/
theorem reached_timeouts (reached : Reached config thread) :
    ∃ queue, thread.timeouts.list.Chain (.head ()) queue ∧ queue.Nodup ∧
      (∀ wsi, wsi ∈ queue ↔
        wsi ∈ thread.live ∧ thread.timeouts.pendingTimeout wsi ≠ .noPendingTimeout) ∧
      ∀ now, thread.lastTimeoutCheck ≠ now →
        ∃ after, thread.serve config (.serviceTimeouts now) = some after ∧
          after.freed = thread.freed ++ queue.filter (thread.timeouts.expired now) ∧
          (∀ wsi, wsi ∈ after.live ↔
            wsi ∈ thread.live ∧ thread.timeouts.expired now wsi = false) ∧
          after.timeouts.list.Chain (.head ())
            (queue.filter fun wsi => !thread.timeouts.expired now wsi) ∧
          after.timeouts.pendingTimeout = thread.timeouts.pendingTimeout ∧
          after.timeouts.pendingTimeoutLimit = thread.timeouts.pendingTimeoutLimit := by
  obtain ⟨pipe, queue, lists, sound⟩ := reached_sound reached
  have timeouts := sound.base.timeouts
  have listed : ∀ wsi, wsi ∈ queue ↔
      wsi ∈ thread.live ∧ thread.timeouts.pendingTimeout wsi ≠ .noPendingTimeout := by
    intro wsi
    constructor
    · intro member
      have live := timeouts.within wsi member
      exact ⟨live, (timeouts.pending wsi live).mp member⟩
    · intro both
      exact (timeouts.pending wsi both.1).mpr both.2
  refine ⟨queue, timeouts.holds.chain (), timeouts.holds.nodup (), listed, ?_⟩
  intro now due
  obtain ⟨lists', afterSound, swept⟩ := sound.serviceTimeouts due
  refine ⟨_, rfl, swept.freed, ?_, afterSound.base.timeouts.holds.chain (),
    swept.pendingTimeout, swept.pendingTimeoutLimit⟩
  intro wsi
  rw [swept.live]
  apply and_congr_right
  intro live
  show ¬ (wsi ∈ queue ∧ thread.timeouts.expired now wsi = true) ↔ _
  constructor
  · intro onTime
    by_contra late
    rw [Bool.not_eq_false] at late
    have pending : thread.timeouts.pendingTimeout wsi ≠ .noPendingTimeout := by
      rw [Timeouts.expired, Bool.and_eq_true] at late
      simpa using late.1
    exact onTime ⟨(listed wsi).mpr ⟨live, pending⟩, late⟩
  · rintro onTime ⟨_, late⟩
    rw [onTime] at late
    cases late

theorem reached_timeouts_small :
    ∃ queue, small.timeouts.list.Chain (.head ()) queue ∧ 2 ∈ queue ∧ 1 ∉ queue := by
  obtain ⟨queue, chain, _, listed, _⟩ := reached_timeouts small_reached
  refine ⟨queue, chain, (listed 2).mpr (by decide), ?_⟩
  rw [listed]
  decide

/-! ### Polled sockets -/

/-- In every run each place after that of the pipe is the one of a connection there is, the
places and the map of the sockets agree, there is room for one socket more, and the listening
socket is polled for input only while one more connection leaves a place, and always then
unless the context is being destroyed. -/
theorem reached_pollFds (reached : Reached config thread) :
    (∀ wsi, thread.inUse wsi → ∃ place entry, thread.table.Seat wsi place entry ∧
      thread.table.lwsLookup entry.fd = some wsi) ∧
    (∀ (place : Nat) entry, 0 < place → thread.table.fds[place]? = some entry →
      ∃ wsi, thread.inUse wsi ∧ thread.table.Seat wsi place entry ∧
        ∀ other, thread.inUse other → thread.table.position other = place → other = wsi) ∧
    (∀ fd wsi, thread.table.lwsLookup fd = some wsi →
      thread.inUse wsi ∧ thread.table.sock wsi = some fd) ∧
    thread.table.fds.length < config.limits.fdLimitPerThread ∧
    (thread.polledForInput thread.table.listening = true →
      thread.table.fds.length < config.limits.fdLimitPerThread - 1) ∧
    (thread.table.beingDestroyed = false →
      (thread.polledForInput thread.table.listening = true ↔
        thread.table.fds.length < config.limits.fdLimitPerThread - 1)) := by
  obtain ⟨pipe, queue, lists, sound⟩ := reached_sound reached
  have seated := sound.base.table.seated
  obtain ⟨listenPlace, listenEntry, listenSeat⟩ := seated.seat _ (.inr rfl)
  have accepts := sound.base.table.accepts listenEntry.events listenSeat.eventsOf
  have polled : thread.polledForInput thread.table.listening = listenEntry.events.pollin := by
    rw [polledForInput, listenSeat.eventsOf]
    rfl
  rw [polled]
  refine ⟨?_, ?_, ?_, sound.base.table.room, accepts.1, ?_⟩
  · intro wsi inUse
    obtain ⟨place, entry, seat⟩ := seated.seat wsi inUse
    exact ⟨place, entry, seat, (seated.lookup entry.fd wsi).mpr ⟨inUse, seat.sock⟩⟩
  · intro place entry afterPipe found
    obtain ⟨wsi, inUse, position⟩ := seated.taken place entry afterPipe found
    obtain ⟨itsPlace, itsEntry, seat⟩ := seated.seat wsi inUse
    have same : itsPlace = place := by
      have itsPosition := seat.position
      omega
    rw [same] at seat
    cases seat.found.symm.trans found
    refine ⟨wsi, inUse, seat, ?_⟩
    intro other otherInUse otherPosition
    exact seated.unique otherInUse inUse (otherPosition.trans position.symm)
  · exact fun fd wsi found => (seated.lookup fd wsi).mp found
  · exact fun going => ⟨accepts.1, accepts.2 going⟩

theorem reached_pollFds_small :
    (∃ place entry, small.table.Seat 2 place entry ∧ small.table.lwsLookup entry.fd = some 2) ∧
      small.polledForInput small.table.listening = false := by
  obtain ⟨seats, _, _, _, _, polled⟩ := reached_pollFds small_reached
  refine ⟨seats 2 (.inl (by decide)), ?_⟩
  rw [Bool.eq_false_iff, ne_eq, polled (by decide)]
  decide

/-! ### Header tables -/

/-- In every run a header table in use is that of the one connection that has it, no table is
free while a connection waits, the connections that wait are not polled for input unless they
are shut down, and those that were given a table were given it in the order they began to wait
in. -/
theorem reached_headers (reached : Reached config thread) :
    (∀ wsi n, thread.headers.ah wsi = some n ↔
      ∃ headers, thread.headers.ahPool[n]? = some headers ∧ headers.wsi = some wsi) ∧
    (thread.headers.ahCountInUse =
      thread.headers.ahPool.countP fun headers => headers.wsi.isSome) ∧
    (thread.headers.ahWaitList ≠ [] → ∀ headers ∈ thread.headers.ahPool, headers.wsi ≠ none) ∧
    (∀ wsi ∈ thread.headers.ahWaitList, thread.headers.ah wsi = none ∧
      (thread.state wsi ≠ .shutdown → thread.polledForInput wsi = false)) ∧
    thread.headers.ahWaitListLength = thread.headers.ahWaitList.length ∧
    (thread.headers.served ++ thread.headers.ahWaitList.reverse).Sublist
      thread.headers.joined := by
  obtain ⟨pipe, queue, lists, sound⟩ := reached_sound reached
  have headers := sound.base.headers
  refine ⟨headers.owner, ?_, ?_, ?_, headers.length, headers.inOrder⟩
  · rw [headers.count]
    apply List.countP_congr
    intro table pooled
    rw [headers.inUse table pooled]
  · intro waits table pooled
    have full := headers.busy waits
    rw [headers.count, List.countP_eq_length] at full
    have owned := headers.inUse table pooled
    rw [full table pooled] at owned
    exact Option.isSome_iff_ne_none.mp owned.symm
  · intro wsi waits
    refine ⟨(headers.waiters wsi waits).2, ?_⟩
    intro open_
    obtain ⟨place, entry, seat⟩ :=
      sound.base.table.seated.seat wsi (.inl (headers.waiters wsi waits).1)
    rw [polledForInput, seat.eventsOf]
    exact sound.stopped wsi waits open_ entry.events seat.eventsOf

theorem reached_headers_small : small.headers.ahWaitList = [2] ∧
    (∀ headers ∈ small.headers.ahPool, headers.wsi ≠ none) ∧
      small.polledForInput 2 = false := by
  obtain ⟨_, _, busy, waiters, _⟩ := reached_headers small_reached
  have waits : small.headers.ahWaitList = [2] := by decide
  refine ⟨waits, busy (by simp [waits]), ?_⟩
  exact (waiters 2 (by simp [waits])).2 (by decide)

/-! ### Asking a protocol's connections to write -/

/-- In every run `lws_callback_on_writable_all_protocol_vhost` asks for output for exactly the
connections that speak the protocol, are not shut down and have a socket that is of use. -/
theorem reached_broadcast (reached : Reached config thread) {n : Nat}
    (known : n < config.countProtocols) :
    ∃ after, (machine config).step thread (.callbackOnWritableAllProtocol n) = some after ∧
      ∀ wsi, thread.inUse wsi → ∃ events, thread.table.eventsOf wsi = some events ∧
        after.table.eventsOf wsi =
          some (if wsi ∈ thread.live ∧ thread.upgraded wsi = true ∧
              thread.table.protocol wsi = n ∧ thread.able wsi = true then
            { events with pollout := true }
          else events) := by
  obtain ⟨pipe, queue, lists, sound⟩ := reached_sound reached
  obtain ⟨table, walks, asked, _⟩ := sound.callbackOnWritableAllProtocol n
  have enabled : thread.enabled config (.callbackOnWritableAllProtocol n) := known
  refine ⟨thread.withTable table, ?_, ?_⟩
  · change (if _ then some _ else none) = _
    rw [if_pos ⟨sound.base.going, enabled⟩, serve, walks]
    rfl
  · intro wsi inUse
    obtain ⟨place, entry, seat⟩ := sound.base.table.seated.seat wsi inUse
    refine ⟨entry.events, seat.eventsOf, ?_⟩
    show table.eventsOf wsi = _
    have speaks := sound.base.websocket n wsi
    rw [asked.events wsi inUse, seat.eventsOf]
    by_cases asks : wsi ∈ lists n ∧ thread.able wsi = true
    · obtain ⟨live, upgraded, spoken⟩ := speaks.mp asks.1
      rw [if_pos asks, if_pos ⟨live, upgraded, spoken, asks.2⟩]
      simp [PollEvents.change, PollEvents.none, PollEvents.onlyOut]
    · rw [if_neg asks, if_neg]
      rintro ⟨live, upgraded, spoken, able⟩
      exact asks ⟨speaks.mpr ⟨live, upgraded, spoken⟩, able⟩

theorem reached_broadcast_small : ∃ after,
    (machine smallConfig).step small (.callbackOnWritableAllProtocol 0) = some after ∧
      after.table.eventsOf 1 = some { pollin := true, pollout := true } := by
  obtain ⟨after, steps, asked⟩ :=
    reached_broadcast small_reached (show 0 < smallConfig.countProtocols by decide)
  obtain ⟨events, before, result⟩ := asked 1 (.inl (by decide))
  have known : small.table.eventsOf 1 = some .onlyIn := by decide
  cases known.symm.trans before
  refine ⟨after, steps, result.trans ?_⟩
  rw [if_pos (by decide)]
  rfl

end JSCameraKit.Libwebsockets.ServiceThread

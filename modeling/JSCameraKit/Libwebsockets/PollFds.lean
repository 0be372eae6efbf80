import JSCameraKit.Library.Links
import Mathlib.Tactic.Common

set_option autoImplicit false

/-! The sockets that a service thread polls (pollfd.c): the table `pt->fds`, whose first entry is
the end of a pipe and whose last entry moves into the place of one that is taken out, the map
`lws_lookup` from sockets to connections, and the lists of the connections of each protocol.
Where an assertion of the source fails or a place outside the table is used, there is no
state after. -/

namespace JSCameraKit.Libwebsockets

structure PollEvents where
  pollin : Bool
  pollout : Bool
  deriving DecidableEq

namespace PollEvents

def none : PollEvents :=
  { pollin := false
    pollout := false }

def onlyIn : PollEvents :=
  { pollin := true
    pollout := false }

def onlyOut : PollEvents :=
  { pollin := false
    pollout := true }

/-- `(events & ~_and) | _or` -/
def change (events clear set : PollEvents) : PollEvents :=
  { pollin := events.pollin && !clear.pollin || set.pollin
    pollout := events.pollout && !clear.pollout || set.pollout }

end PollEvents

structure PollFd where
  fd : Nat
  events : PollEvents
  deriving DecidableEq

/-- The limits of a thread. The table holds the pipe and the listening socket from the start. -/
structure FdLimits where
  fdLimitPerThread : Nat
  maxFds : Nat
  roomy : 3 ≤ fdLimitPerThread

/-- A position below zero stands for none, and a connection that is new is at zero. The flag
`being_destroyed` of the context is read here only. -/
structure PollFds (Wsi : Type) where
  fds : List PollFd
  lwsLookup : Nat → Option Wsi
  sock : Wsi → Option Nat
  position : Wsi → Int
  sameVhProtocol : Links Nat Wsi
  protocol : Wsi → Nat
  listening : Wsi
  beingDestroyed : Bool

namespace PollFds

variable {Wsi : Type} [DecidableEq Wsi]

/-- `lws_plat_init` -/
def initial (pipe : Nat) (listening : Wsi) (sock : Nat) : PollFds Wsi :=
  { fds := [{ fd := pipe, events := .onlyIn }]
    lwsLookup := fun _ => none
    sock := fun _ => some sock
    position := fun _ => 0
    sameVhProtocol := Links.empty
    protocol := fun _ => 0
    listening := listening
    beingDestroyed := false }

/-- What `lws_zalloc` leaves of a connection here, and its socket. -/
def zalloc (table : PollFds Wsi) (wsi : Wsi) (sock : Nat) : PollFds Wsi :=
  { table with
    sock := Function.update table.sock wsi (some sock)
    position := Function.update table.position wsi 0
    sameVhProtocol := table.sameVhProtocol.clear wsi
    protocol := Function.update table.protocol wsi 0 }

omit [DecidableEq Wsi] in
def changePollfd (table : PollFds Wsi) (wsi : Wsi) (clear set : PollEvents) :
    Option (PollFds Wsi) :=
  if table.position wsi < 0 then some table
  else if (table.position wsi).toNat < table.fds.length then
    some { table with
      fds := table.fds.modify (table.position wsi).toNat fun pfd =>
        { pfd with events := pfd.events.change clear set } }
  else none

/-- The result is not zero where the socket is refused. -/
def insertWsiSocketIntoFds (limits : FdLimits) (table : PollFds Wsi) (wsi : Wsi) :
    Option (PollFds Wsi × Int) :=
  match table.sock wsi with
  | none => none
  | some sock =>
      if limits.fdLimitPerThread ≤ table.fds.length then some (table, 1)
      else if limits.maxFds ≤ sock then some (table, 1)
      else if table.lwsLookup sock ≠ none then none
      else
        let placed :=
          { table with
            lwsLookup := Function.update table.lwsLookup sock (some wsi)
            position := Function.update table.position wsi table.fds.length
            fds := table.fds ++ [{ fd := sock, events := .onlyIn }] }
        if placed.fds.length = limits.fdLimitPerThread - 1 then
          (placed.changePollfd placed.listening .onlyIn .none).map fun table => (table, 0)
        else some (placed, 0)

/-- The lists of a connection's protocol without it. -/
def leaveProtocol (table : PollFds Wsi) (wsi : Wsi) : Option (PollFds Wsi) :=
  let left := { table with sameVhProtocol := table.sameVhProtocol.bypass wsi }
  match table.sameVhProtocol.prev wsi with
  | some cell => if table.sameVhProtocol.read cell = some wsi then some left else none
  | none => some left

/-- The last entry takes the vacant place. -/
def vacate (table : PollFds Wsi) (wsi : Wsi) (sock : Nat) : Option (PollFds Wsi) :=
  if table.position wsi < 0 ∨ (table.fds.length : Int) ≤ table.position wsi then none
  else do
    let last ← table.fds.getLast?
    let endWsi ← table.lwsLookup last.fd
    return { table with
      fds := (table.fds.set (table.position wsi).toNat last).dropLast
      lwsLookup := Function.update table.lwsLookup sock none
      position := Function.update
        (Function.update table.position endWsi (table.position wsi)) wsi (-1) }

def removeWsiSocketFromFds (limits : FdLimits) (table : PollFds Wsi) (wsi : Wsi) :
    Option (PollFds Wsi) :=
  match table.sock wsi with
  | none => some table
  | some sock =>
      if limits.maxFds < sock then some table
      else do
        let apart ← table.leaveProtocol wsi
        let removed ← apart.vacate wsi sock
        if removed.beingDestroyed then some removed
        else if removed.fds.length < limits.fdLimitPerThread - 1 then
          removed.changePollfd removed.listening .none .onlyIn
        else some removed

/-- The end of `lws_handshake_server`: the connection is put first on the list of its
protocol. -/
def stitchProtocol (table : PollFds Wsi) (wsi : Wsi) (n : Nat) : PollFds Wsi :=
  let links := table.sameVhProtocol
  let first := links.head n
  { table with
    protocol := Function.update table.protocol wsi n
    sameVhProtocol :=
      (((links.setPrev (some wsi) (some (.head n))).write (.next wsi) first).write
        (.head n) (some wsi)).setPrev first (some (.next wsi)) }

/-- Whether a connection is `able` says that its socket is of use and not shut down. -/
def lwsCallbackOnWritable (able : Wsi → Bool) (table : PollFds Wsi) (wsi : Wsi) :
    Option (PollFds Wsi) :=
  if able wsi then table.changePollfd wsi .none .onlyOut else some table

/-- The assertions that are made of each connection on the list of a protocol. -/
def wellLinked (table : PollFds Wsi) (n : Nat) (wsi : Wsi) : Bool :=
  let links := table.sameVhProtocol
  table.protocol wsi = n &&
    (links.prev wsi).any (fun cell => links.read cell = some wsi) &&
    (links.next wsi).all fun next => links.prev next = some (.next wsi)

/-- The loop of `lws_callback_on_writable_all_protocol_vhost`. -/
def requestFrom (able : Wsi → Bool) (n : Nat) :
    Nat → Option Wsi → PollFds Wsi → Option (PollFds Wsi)
  | _, none, table => some table
  | 0, some _, _ => none
  | fuel + 1, some wsi, table =>
      if table.wellLinked n wsi then do
        let asked ← table.lwsCallbackOnWritable able wsi
        requestFrom able n fuel (asked.sameVhProtocol.next wsi) asked
      else none

def lwsCallbackOnWritableAllProtocolVhost (able : Wsi → Bool) (fuel : Nat) (table : PollFds Wsi)
    (n : Nat) : Option (PollFds Wsi) :=
  requestFrom able n fuel (table.sameVhProtocol.head n) table

/-- What the table has of a connection: a place, and the socket there. -/
structure Seat (table : PollFds Wsi) (wsi : Wsi) (place : Nat) (entry : PollFd) : Prop where
  position : table.position wsi = place
  afterPipe : 0 < place
  found : table.fds[place]? = some entry
  sock : table.sock wsi = some entry.fd

/-- The places after the pipe are those of the connections in use, one each. -/
structure Seated (table : PollFds Wsi) (pipe : Nat) (used : Wsi → Prop) : Prop where
  first : table.fds[0]? = some { fd := pipe, events := .onlyIn }
  seat : ∀ wsi, used wsi → ∃ place entry, table.Seat wsi place entry
  taken : ∀ (place : Nat) (entry : PollFd), 0 < place → table.fds[place]? = some entry →
    ∃ wsi, used wsi ∧ table.position wsi = place
  lookup : ∀ fd wsi, table.lwsLookup fd = some wsi ↔ used wsi ∧ table.sock wsi = some fd

def eventsOf (table : PollFds Wsi) (wsi : Wsi) : Option PollEvents :=
  table.fds[(table.position wsi).toNat]?.map PollFd.events

variable {table : PollFds Wsi} {pipe : Nat} {used : Wsi → Prop} {wsi other : Wsi}
  {place : Nat} {entry : PollFd}

omit [DecidableEq Wsi] in
theorem Seat.toNat (seat : table.Seat wsi place entry) : (table.position wsi).toNat = place := by
  rw [seat.position]
  rfl

omit [DecidableEq Wsi] in
theorem Seat.lt (seat : table.Seat wsi place entry) : place < table.fds.length :=
  (List.getElem?_eq_some_iff.mp seat.found).1

omit [DecidableEq Wsi] in
theorem Seat.eventsOf (seat : table.Seat wsi place entry) :
    table.eventsOf wsi = some entry.events := by
  rw [PollFds.eventsOf, seat.toNat, seat.found]
  rfl

omit [DecidableEq Wsi] in
theorem Seated.unique (seated : table.Seated pipe used) (wsiUsed : used wsi)
    (otherUsed : used other) (same : table.position wsi = table.position other) :
    wsi = other := by
  obtain ⟨place, entry, mine⟩ := seated.seat wsi wsiUsed
  obtain ⟨otherPlace, otherEntry, theirs⟩ := seated.seat other otherUsed
  have placeSame : place = otherPlace := by
    rw [← mine.toNat, same, theirs.toNat]
  have entrySame : some entry = some otherEntry := by
    rw [← mine.found, placeSame, theirs.found]
  cases entrySame
  have mineFound := (seated.lookup entry.fd wsi).mpr ⟨wsiUsed, mine.sock⟩
  have theirsFound := (seated.lookup entry.fd other).mpr ⟨otherUsed, theirs.sock⟩
  exact Option.some.inj (mineFound.symm.trans theirsFound)

/-! ### Other events for an entry -/

def changed (table : PollFds Wsi) (wsi : Wsi) (clear set : PollEvents) : PollFds Wsi :=
  { table with
    fds := table.fds.modify (table.position wsi).toNat fun pfd =>
      { pfd with events := pfd.events.change clear set } }

omit [DecidableEq Wsi] in
theorem Seat.changePollfd (seat : table.Seat wsi place entry) (clear set : PollEvents) :
    table.changePollfd wsi clear set = some (table.changed wsi clear set) := by
  have within := seat.lt
  have position := seat.position
  rw [PollFds.changePollfd, if_neg (by omega), seat.toNat, if_pos within, changed, seat.toNat]

omit [DecidableEq Wsi] in
private theorem length_changed (table : PollFds Wsi) (wsi : Wsi) (clear set : PollEvents) :
    (table.changed wsi clear set).fds.length = table.fds.length :=
  List.length_modify ..

omit [DecidableEq Wsi] in
theorem Seat.getElem?_changed (seat : table.Seat wsi place entry) (clear set : PollEvents)
    (index : Nat) :
    (table.changed wsi clear set).fds[index]? =
      if place = index then some { entry with events := entry.events.change clear set }
      else table.fds[index]? := by
  rw [changed, seat.toNat, List.getElem?_modify]
  by_cases same : place = index
  · rw [← same, seat.found]
    simp
  · cases table.fds[index]? <;> simp [same]

omit [DecidableEq Wsi] in
theorem Seat.changed (seat : table.Seat wsi place entry) (clear set : PollEvents)
    {otherPlace : Nat} {otherEntry : PollFd} (theirs : table.Seat other otherPlace otherEntry) :
    (table.changed wsi clear set).Seat other otherPlace
      (if place = otherPlace then { entry with events := entry.events.change clear set }
        else otherEntry) := by
  refine { position := theirs.position, afterPipe := theirs.afterPipe, found := ?_, sock := ?_ }
  · rw [seat.getElem?_changed]
    split
    next => rfl
    next => exact theirs.found
  · split
    next same =>
      have entrySame : some entry = some otherEntry := by
        rw [← seat.found, same, theirs.found]
      cases entrySame
      exact theirs.sock
    next => exact theirs.sock

omit [DecidableEq Wsi] in
theorem Seated.changed (seated : table.Seated pipe used) (wsiUsed : used wsi)
    (clear set : PollEvents) : (table.changed wsi clear set).Seated pipe used := by
  obtain ⟨place, entry, seat⟩ := seated.seat wsi wsiUsed
  refine { first := ?_, seat := ?_, taken := ?_, lookup := seated.lookup }
  · rw [seat.getElem?_changed, if_neg (Nat.ne_of_gt seat.afterPipe)]
    exact seated.first
  · intro other otherUsed
    obtain ⟨otherPlace, otherEntry, theirs⟩ := seated.seat other otherUsed
    exact ⟨otherPlace, _, seat.changed clear set theirs⟩
  · intro index found afterPipe there
    rw [seat.getElem?_changed] at there
    split at there
    next same =>
      rw [← same]
      exact ⟨wsi, wsiUsed, seat.position⟩
    next => exact seated.taken index found afterPipe there

theorem Seated.eventsOf_changed (seated : table.Seated pipe used) (wsiUsed : used wsi)
    (otherUsed : used other) (clear set : PollEvents) :
    (table.changed wsi clear set).eventsOf other =
      if other = wsi then (table.eventsOf wsi).map fun events => events.change clear set
      else table.eventsOf other := by
  obtain ⟨place, entry, seat⟩ := seated.seat wsi wsiUsed
  obtain ⟨otherPlace, otherEntry, theirs⟩ := seated.seat other otherUsed
  rw [(seat.changed clear set theirs).eventsOf, seat.eventsOf, theirs.eventsOf]
  by_cases same : other = wsi
  · have placeSame : place = otherPlace := by
      rw [← seat.toNat, ← theirs.toNat, same]
    rw [if_pos same, if_pos placeSame]
    rfl
  · have placeDiffers : place ≠ otherPlace := by
      intro placeSame
      apply same
      apply seated.unique otherUsed wsiUsed
      rw [seat.position, theirs.position, placeSame]
    rw [if_neg same, if_neg placeDiffers]

/-! ### A new entry -/

def placed (table : PollFds Wsi) (wsi : Wsi) (sock : Nat) : PollFds Wsi :=
  { table with
    lwsLookup := Function.update table.lwsLookup sock (some wsi)
    position := Function.update table.position wsi table.fds.length
    fds := table.fds ++ [{ fd := sock, events := .onlyIn }] }

omit [DecidableEq Wsi] in
theorem Seated.lookup_eq_none (seated : table.Seated pipe used) {sock : Nat}
    (fresh : ∀ pfd ∈ table.fds, pfd.fd ≠ sock) : table.lwsLookup sock = none := by
  cases found : table.lwsLookup sock with
  | none => rfl
  | some holder =>
      obtain ⟨holderUsed, holderSock⟩ := (seated.lookup sock holder).mp found
      obtain ⟨place, entry, seat⟩ := seated.seat holder holderUsed
      have same : some entry.fd = some sock := seat.sock.symm.trans holderSock
      exact absurd (Option.some.inj same) (fresh entry (List.mem_of_getElem? seat.found))

omit [DecidableEq Wsi] in
theorem Seated.length_pos (seated : table.Seated pipe used) : 0 < table.fds.length :=
  (List.getElem?_eq_some_iff.mp seated.first).1

theorem Seated.seat_placed (seated : table.Seated pipe used) {sock : Nat}
    (socket : table.sock wsi = some sock) :
    (table.placed wsi sock).Seat wsi table.fds.length { fd := sock, events := .onlyIn } :=
  { position := Function.update_self ..
    afterPipe := seated.length_pos
    found := List.getElem?_concat_length
    sock := socket }

theorem Seat.placed (seat : table.Seat other place entry) (distinct : other ≠ wsi) (sock : Nat) :
    (table.placed wsi sock).Seat other place entry :=
  { position := (Function.update_of_ne distinct _ _).trans seat.position
    afterPipe := seat.afterPipe
    found := (List.getElem?_append_left seat.lt).trans seat.found
    sock := seat.sock }

theorem Seated.placed (seated : table.Seated pipe used) (unused : ¬ used wsi) {sock : Nat}
    (socket : table.sock wsi = some sock) (fresh : ∀ pfd ∈ table.fds, pfd.fd ≠ sock) :
    (table.placed wsi sock).Seated pipe fun other => used other ∨ other = wsi := by
  have apart : ∀ other, used other → other ≠ wsi := fun other inUse same => unused (same ▸ inUse)
  refine { first := ?_, seat := ?_, taken := ?_, lookup := ?_ }
  · exact (List.getElem?_append_left seated.length_pos).trans seated.first
  · intro other inUse
    cases inUse with
    | inl old =>
        obtain ⟨place, entry, seat⟩ := seated.seat other old
        exact ⟨place, entry, seat.placed (apart other old) sock⟩
    | inr new =>
        rw [new]
        exact ⟨_, _, seated.seat_placed socket⟩
  · intro index found afterPipe there
    by_cases within : index < table.fds.length
    · have old : table.fds[index]? = some found :=
        (List.getElem?_append_left within).symm.trans there
      obtain ⟨holder, holderUsed, position⟩ := seated.taken index found afterPipe old
      refine ⟨holder, .inl holderUsed, ?_⟩
      exact (Function.update_of_ne (apart holder holderUsed) _ _).trans position
    · have bound := (List.getElem?_eq_some_iff.mp there).1
      have last : index = table.fds.length := by
        rw [PollFds.placed, List.length_append, List.length_singleton] at bound
        omega
      refine ⟨wsi, .inr rfl, ?_⟩
      rw [last]
      exact Function.update_self ..
  · intro fd holder
    have unknown := seated.lookup_eq_none fresh
    show Function.update table.lwsLookup sock (some wsi) fd = some holder ↔ _
    rw [Function.update_apply]
    by_cases same : fd = sock
    · rw [if_pos same, same]
      constructor
      · intro found
        cases found
        exact ⟨.inr rfl, socket⟩
      · intro both
        cases both.1 with
        | inl old =>
            have known := (seated.lookup sock holder).mpr ⟨old, both.2⟩
            rw [unknown] at known
            cases known
        | inr new => rw [new]
    · rw [if_neg same, seated.lookup]
      constructor
      · intro both
        exact ⟨.inl both.1, both.2⟩
      · intro both
        refine ⟨both.1.resolve_right ?_, both.2⟩
        intro new
        have sockSame : some sock = some fd := by
          rw [← socket, ← new]
          exact both.2
        exact same (Option.some.inj sockSame).symm

/-! ### The last entry in a vacant place -/

def vacated (table : PollFds Wsi) (wsi endWsi : Wsi) (last : PollFd) (sock : Nat) :
    PollFds Wsi :=
  { table with
    fds := (table.fds.set (table.position wsi).toNat last).dropLast
    lwsLookup := Function.update table.lwsLookup sock none
    position := Function.update
      (Function.update table.position endWsi (table.position wsi)) wsi (-1) }

omit [DecidableEq Wsi] in
theorem Seated.exists_end (seated : table.Seated pipe used) (wsiUsed : used wsi) :
    ∃ endWsi last, used endWsi ∧ table.Seat endWsi (table.fds.length - 1) last := by
  obtain ⟨place, entry, seat⟩ := seated.seat wsi wsiUsed
  have within := seat.lt
  have afterPipe := seat.afterPipe
  have exists_last : ∃ last, table.fds[table.fds.length - 1]? = some last := by
    refine ⟨table.fds[table.fds.length - 1], ?_⟩
    exact List.getElem?_eq_getElem (by omega)
  obtain ⟨last, atEnd⟩ := exists_last
  obtain ⟨endWsi, endUsed, endPosition⟩ := seated.taken _ last (by omega) atEnd
  obtain ⟨endPlace, endEntry, endSeat⟩ := seated.seat endWsi endUsed
  have placeSame : endPlace = table.fds.length - 1 := by
    have position := endSeat.position
    omega
  rw [placeSame] at endSeat
  exact ⟨endWsi, endEntry, endUsed, endSeat⟩

theorem Seated.vacate (seated : table.Seated pipe used) (wsiUsed : used wsi) {endWsi : Wsi}
    {last : PollFd} (endUsed : used endWsi)
    (endSeat : table.Seat endWsi (table.fds.length - 1) last) (sock : Nat) :
    table.vacate wsi sock = some (table.vacated wsi endWsi last sock) := by
  obtain ⟨place, entry, seat⟩ := seated.seat wsi wsiUsed
  have within := seat.lt
  have position := seat.position
  have atEnd : table.fds.getLast? = some last := by
    rw [List.getLast?_eq_getElem?]
    exact endSeat.found
  have known : table.lwsLookup last.fd = some endWsi :=
    (seated.lookup last.fd endWsi).mpr ⟨endUsed, endSeat.sock⟩
  rw [PollFds.vacate, if_neg (by omega), atEnd]
  simp only [Option.bind_eq_bind, Option.bind_some, known]
  rfl

theorem Seat.getElem?_vacated (seat : table.Seat wsi place entry) (endWsi : Wsi) (last : PollFd)
    (sock index : Nat) :
    (table.vacated wsi endWsi last sock).fds[index]? =
      if index < table.fds.length - 1 then
        if place = index then some last else table.fds[index]?
      else none := by
  have within := seat.lt
  rw [vacated, seat.toNat, List.getElem?_dropLast, List.getElem?_set, List.length_set,
    if_pos within]

private theorem length_vacated (table : PollFds Wsi) (wsi endWsi : Wsi) (last : PollFd)
    (sock : Nat) :
    (table.vacated wsi endWsi last sock).fds.length = table.fds.length - 1 := by
  rw [vacated, List.length_dropLast, List.length_set]

theorem Seat.vacated {endPlace : Nat} {endWsi : Wsi} {last : PollFd}
    (seat : table.Seat wsi place entry) (endSeat : table.Seat endWsi endPlace last)
    (isEnd : endPlace = table.fds.length - 1) (sock : Nat) {otherPlace : Nat}
    {otherEntry : PollFd} (theirs : table.Seat other otherPlace otherEntry)
    (distinct : other ≠ wsi) (endOnly : otherPlace = endPlace → other = endWsi)
    (placeOnly : otherPlace ≠ place) :
    (table.vacated wsi endWsi last sock).Seat other
      (if other = endWsi then place else otherPlace) otherEntry := by
  by_cases atEnd : other = endWsi
  · have placeSame : otherPlace = endPlace := by
      rw [← theirs.toNat, ← endSeat.toNat, atEnd]
    have entrySame : some otherEntry = some last := by
      rw [← theirs.found, ← endSeat.found, placeSame]
    cases entrySame
    have before : place < table.fds.length - 1 := by
      have within := seat.lt
      omega
    rw [if_pos atEnd]
    refine { position := ?_, afterPipe := seat.afterPipe, found := ?_, sock := theirs.sock }
    · show Function.update _ wsi (-1) other = _
      rw [Function.update_of_ne distinct, atEnd, Function.update_self]
      exact seat.position
    · rw [seat.getElem?_vacated, if_pos before, if_pos rfl]
  · have before : otherPlace < table.fds.length - 1 := by
      have within := theirs.lt
      have elsewhere : otherPlace ≠ endPlace := fun same => atEnd (endOnly same)
      omega
    rw [if_neg atEnd]
    refine { position := ?_, afterPipe := theirs.afterPipe, found := ?_, sock := theirs.sock }
    · show Function.update _ wsi (-1) other = _
      rw [Function.update_of_ne distinct, Function.update_of_ne atEnd]
      exact theirs.position
    · rw [seat.getElem?_vacated, if_pos before, if_neg (Ne.symm placeOnly)]
      exact theirs.found

theorem Seated.seat_vacated (seated : table.Seated pipe used) (wsiUsed : used wsi)
    {endWsi : Wsi} {last : PollFd} (endUsed : used endWsi)
    (endSeat : table.Seat endWsi (table.fds.length - 1) last) (sock : Nat)
    (otherUsed : used other) (distinct : other ≠ wsi) {otherPlace : Nat} {otherEntry : PollFd}
    (theirs : table.Seat other otherPlace otherEntry) :
    ∃ newPlace, (table.vacated wsi endWsi last sock).Seat other newPlace otherEntry := by
  obtain ⟨place, entry, seat⟩ := seated.seat wsi wsiUsed
  have endOnly : otherPlace = table.fds.length - 1 → other = endWsi := by
    intro same
    apply seated.unique otherUsed endUsed
    rw [theirs.position, endSeat.position, same]
  have placeOnly : otherPlace ≠ place := by
    intro same
    apply distinct
    apply seated.unique otherUsed wsiUsed
    rw [theirs.position, seat.position, same]
  exact ⟨_, seat.vacated endSeat rfl sock theirs distinct endOnly placeOnly⟩

theorem Seated.vacated (seated : table.Seated pipe used) (wsiUsed : used wsi) {sock : Nat}
    (socket : table.sock wsi = some sock) {endWsi : Wsi} {last : PollFd} (endUsed : used endWsi)
    (endSeat : table.Seat endWsi (table.fds.length - 1) last) :
    (table.vacated wsi endWsi last sock).Seated pipe fun other => used other ∧ other ≠ wsi := by
  obtain ⟨place, entry, seat⟩ := seated.seat wsi wsiUsed
  have within := seat.lt
  have afterPipe := seat.afterPipe
  refine { first := ?_, seat := ?_, taken := ?_, lookup := ?_ }
  · rw [seat.getElem?_vacated, if_pos (by omega), if_neg (by omega)]
    exact seated.first
  · intro other both
    obtain ⟨otherPlace, otherEntry, theirs⟩ := seated.seat other both.1
    obtain ⟨newPlace, moved⟩ :=
      seated.seat_vacated wsiUsed endUsed endSeat sock both.1 both.2 theirs
    exact ⟨newPlace, otherEntry, moved⟩
  · intro index found positive there
    rw [seat.getElem?_vacated] at there
    split at there
    next before =>
      split at there
      next same =>
        -- The place that was vacant is that of the last connection.
        have distinct : endWsi ≠ wsi := by
          intro isEnd
          have placeSame : place = table.fds.length - 1 := by
            rw [← seat.toNat, ← endSeat.toNat, isEnd]
          omega
        refine ⟨endWsi, ⟨endUsed, distinct⟩, ?_⟩
        show Function.update _ wsi (-1) endWsi = _
        rw [Function.update_of_ne distinct, Function.update_self, ← same]
        exact seat.position
      next differs =>
        obtain ⟨holder, holderUsed, position⟩ := seated.taken index found positive there
        have notWsi : holder ≠ wsi := by
          intro isWsi
          have isPlace := seat.position
          rw [← isWsi] at isPlace
          omega
        have notEnd : holder ≠ endWsi := by
          intro isEnd
          have isPlace := endSeat.position
          rw [← isEnd] at isPlace
          omega
        refine ⟨holder, ⟨holderUsed, notWsi⟩, ?_⟩
        show Function.update _ wsi (-1) holder = _
        rw [Function.update_of_ne notWsi, Function.update_of_ne notEnd]
        exact position
    next => cases there
  · intro fd holder
    show Function.update table.lwsLookup sock none fd = some holder ↔ _
    rw [Function.update_apply]
    by_cases same : fd = sock
    · rw [if_pos same, same]
      refine iff_of_false (by simp) ?_
      intro both
      have known := (seated.lookup sock holder).mpr ⟨both.1.1, both.2⟩
      have mine := (seated.lookup sock wsi).mpr ⟨wsiUsed, socket⟩
      exact both.1.2 (Option.some.inj (known.symm.trans mine))
    · rw [if_neg same, seated.lookup]
      constructor
      · intro both
        refine ⟨⟨both.1, ?_⟩, both.2⟩
        intro isWsi
        have sockSame : some sock = some fd := by
          rw [← socket, ← isWsi]
          exact both.2
        exact same (Option.some.inj sockSame).symm
      · intro both
        exact ⟨both.1.1, both.2⟩

/-! ### The lists of the protocols -/

/-- The list of a protocol runs through connections in use that speak it. -/
structure Listed (table : PollFds Wsi) (lists : Nat → List Wsi) (used : Wsi → Prop) : Prop where
  holds : table.sameVhProtocol.Holds lists
  settled : table.sameVhProtocol.Settled lists used
  within : ∀ n, ∀ wsi ∈ lists n, used wsi ∧ table.protocol wsi = n

variable {lists : Nat → List Wsi}

theorem Listed.zalloc (listed : table.Listed lists used) (unused : ¬ used wsi) (sock : Nat) :
    (table.zalloc wsi sock).Listed lists fun other => used other ∨ other = wsi := by
  have fresh : ∀ n, wsi ∉ lists n := fun n member => unused (listed.within n wsi member).1
  refine { holds := listed.holds.clear fresh, settled := ?_, within := ?_ }
  · apply Links.Settled.clear
    apply listed.settled.mono
    intro other inUse
    exact inUse.1.resolve_right inUse.2
  · intro n other member
    have distinct : other ≠ wsi := fun same => fresh n (same ▸ member)
    have protocol : (table.zalloc wsi sock).protocol other = table.protocol other :=
      Function.update_of_ne distinct _ _
    obtain ⟨inUse, spoken⟩ := listed.within n other member
    exact ⟨.inl inUse, protocol.trans spoken⟩

theorem Listed.leaveProtocol (listed : table.Listed lists used) (wsiUsed : used wsi) :
    ∃ left, table.leaveProtocol wsi = some { table with sameVhProtocol := left } ∧
      ({ table with sameVhProtocol := left } : PollFds Wsi).Listed
        (fun n => (lists n).erase wsi) fun other => used other ∧ other ≠ wsi := by
  have within : ∀ n, ∀ other ∈ (lists n).erase wsi,
      (used other ∧ other ≠ wsi) ∧ table.protocol other = n := by
    intro n other member
    obtain ⟨distinct, old⟩ := (listed.holds.nodup n).mem_erase_iff.mp member
    obtain ⟨inUse, spoken⟩ := listed.within n other old
    exact ⟨⟨inUse, distinct⟩, spoken⟩
  refine ⟨table.sameVhProtocol.bypass wsi, ?_, ?_⟩
  · rw [PollFds.leaveProtocol]
    cases back : table.sameVhProtocol.prev wsi with
    | none => rfl
    | some cell =>
        have onList : ∃ n, wsi ∈ lists n := by
          by_contra absent
          rw [(listed.settled wsi wsiUsed fun n member => absent ⟨n, member⟩).1] at back
          cases back
        obtain ⟨n, member⟩ := onList
        have leads := (listed.holds.chain n).read_prev member back
        simp only [leads, if_true]
  · by_cases onList : ∃ n, wsi ∈ lists n
    · obtain ⟨n, member⟩ := onList
      exact { holds := listed.holds.bypass n member
              settled := listed.settled.bypass listed.holds n member
              within := within }
    · -- Neither pointer of a connection that is on no list leads anywhere.
      have absent : ∀ n, wsi ∉ lists n := fun n member => onList ⟨n, member⟩
      have same : (fun n => (lists n).erase wsi) = lists := by
        funext n
        exact List.erase_of_not_mem (absent n)
      have bypassed := Links.bypass_of_clear (listed.settled wsi wsiUsed absent)
      refine { holds := ?_, settled := ?_, within := within }
      · rw [bypassed, same]
        exact listed.holds
      · rw [bypassed, same]
        exact listed.settled.mono fun _ both => both.1

private theorem stitchProtocol_links {n : Nat} (other : table.sameVhProtocol.head n ≠ some wsi) :
    (table.stitchProtocol wsi n).sameVhProtocol = table.sameVhProtocol.insertFirst n wsi := by
  cases first : table.sameVhProtocol.head n with
  | none => simp [stitchProtocol, Links.insertFirst, Links.setPrev, Links.write, first]
  | some old =>
      have distinct : old ≠ wsi := by
        intro same
        rw [first, same] at other
        exact other rfl
      simp [stitchProtocol, Links.insertFirst, Links.setPrev, Links.write, first,
        Function.update_comm distinct]

theorem Listed.stitchProtocol (listed : table.Listed lists used) (wsiUsed : used wsi)
    (absent : ∀ n, wsi ∉ lists n) (n : Nat) :
    (table.stitchProtocol wsi n).Listed (Function.update lists n (wsi :: lists n)) used := by
  have other : table.sameVhProtocol.head n ≠ some wsi := by
    intro first
    have begins : (lists n).head? = some wsi := (listed.holds.chain n).read_eq.symm.trans first
    exact absent n (List.mem_of_mem_head? begins)
  refine { holds := ?_, settled := ?_, within := ?_ }
  · rw [stitchProtocol_links other]
    exact listed.holds.insertFirst n absent
  · rw [stitchProtocol_links other]
    exact listed.settled.insertFirst listed.holds n
  · intro key later member
    have protocol : (table.stitchProtocol wsi n).protocol later =
        if later = wsi then n else table.protocol later :=
      Function.update_apply ..
    have old : later ∈ lists key → used later ∧
        (table.stitchProtocol wsi n).protocol later = key := by
      intro inOld
      have distinct : later ≠ wsi := fun same => absent key (same ▸ inOld)
      rw [protocol, if_neg distinct]
      exact listed.within key later inOld
    by_cases same : key = n
    · rw [same, Function.update_self] at member
      cases List.mem_cons.mp member with
      | inl new =>
          rw [protocol, if_pos new, new, same]
          exact ⟨wsiUsed, rfl⟩
      | inr inside => exact old (same ▸ inside)
    · rw [Function.update_of_ne same] at member
      exact old member

/-! ### Asking all connections of a protocol to write -/

omit [DecidableEq Wsi] in
theorem Seated.lwsCallbackOnWritable (seated : table.Seated pipe used) (wsiUsed : used wsi)
    (able : Wsi → Bool) :
    table.lwsCallbackOnWritable able wsi =
      some (if able wsi then table.changed wsi .none .onlyOut else table) := by
  obtain ⟨place, entry, seat⟩ := seated.seat wsi wsiUsed
  rw [PollFds.lwsCallbackOnWritable]
  split
  next => exact seat.changePollfd _ _
  next => rfl

theorem Listed.wellLinked (listed : table.Listed lists used) {n : Nat} (member : wsi ∈ lists n) :
    table.wellLinked n wsi = true := by
  have chain := listed.holds.chain n
  obtain ⟨cell, back⟩ := listed.holds.prev_eq_some n member
  have leads := chain.read_prev member back
  have follows : ∀ next, table.sameVhProtocol.next wsi = some next →
      table.sameVhProtocol.prev next = some (.next wsi) :=
    fun next found => chain.prev_next member found
  have spoken := (listed.within n wsi member).2
  rw [PollFds.wellLinked, back]
  cases found : table.sameVhProtocol.next wsi with
  | none => simp [spoken, leads]
  | some next => simp [spoken, leads, follows next found]

/-- What a walk over the connections of a list asks for. -/
structure Asked (able : Wsi → Bool) (back : List Wsi) (pipe : Nat) (used : Wsi → Prop)
    (table after : PollFds Wsi) : Prop where
  seated : after.Seated pipe used
  links : after.sameVhProtocol = table.sameVhProtocol
  protocol : after.protocol = table.protocol
  sock : after.sock = table.sock
  listening : after.listening = table.listening
  beingDestroyed : after.beingDestroyed = table.beingDestroyed
  length : after.fds.length = table.fds.length
  events : ∀ wsi, used wsi → after.eventsOf wsi =
    if wsi ∈ back ∧ able wsi = true then
      (table.eventsOf wsi).map fun events => events.change .none .onlyOut
    else table.eventsOf wsi

theorem PollEvents.change_onlyOut_twice (events : PollEvents) :
    (events.change .none .onlyOut).change .none .onlyOut = events.change .none .onlyOut := by
  simp [PollEvents.change, PollEvents.none, PollEvents.onlyOut]

theorem Seated.requestFrom (able : Wsi → Bool) {n fuel : Nat} {front back : List Wsi}
    (seated : table.Seated pipe used) (listed : table.Listed lists used)
    (left : lists n = front ++ back) (enough : back.length ≤ fuel) :
    ∃ after, requestFrom able n fuel back.head? table = some after ∧
      Asked able back pipe used table after := by
  induction back generalizing front fuel table with
  | nil =>
      refine ⟨table, ?_, ?_⟩
      · cases fuel <;> rfl
      · exact { seated := seated, links := rfl, protocol := rfl, sock := rfl, listening := rfl
                beingDestroyed := rfl, length := rfl, events := fun _ _ => by simp }
  | cons wsi rest ih =>
      cases fuel with
      | zero => simp at enough
      | succ fuel =>
          have member : wsi ∈ lists n := by
            rw [left]
            simp
          have wsiUsed := (listed.within n wsi member).1
          have follows : table.sameVhProtocol.next wsi = rest.head? := by
            have chain := listed.holds.chain n
            rw [left] at chain
            exact chain.next_eq
          have asked := seated.lwsCallbackOnWritable wsiUsed able
          have shorter : rest.length ≤ fuel := by
            rw [List.length_cons] at enough
            omega
          have later : lists n = (front ++ [wsi]) ++ rest := by
            rw [left, List.append_assoc]
            rfl
          rw [List.head?_cons, PollFds.requestFrom, if_pos (listed.wellLinked member), asked]
          by_cases can : able wsi = true
          · have changedListed : (table.changed wsi .none .onlyOut).Listed lists used :=
              { holds := listed.holds, settled := listed.settled, within := listed.within }
            obtain ⟨after, walked, result⟩ :=
              ih (seated.changed wsiUsed .none .onlyOut) changedListed later shorter
            refine ⟨after, ?_, ?_⟩
            · simp only [if_pos can, Option.bind_eq_bind, Option.bind_some]
              have next : (table.changed wsi .none .onlyOut).sameVhProtocol.next wsi =
                  rest.head? := follows
              rw [next]
              exact walked
            · refine { seated := result.seated, links := result.links
                       protocol := result.protocol, sock := result.sock
                       listening := result.listening
                       beingDestroyed := result.beingDestroyed
                       length := result.length.trans (length_changed ..), events := ?_ }
              intro other otherUsed
              rw [result.events other otherUsed,
                seated.eventsOf_changed wsiUsed otherUsed .none .onlyOut]
              by_cases same : other = wsi
              · rw [same]
                simp only [if_true, List.mem_cons, true_or, can, and_self]
                split
                next =>
                  rw [Option.map_map]
                  congr 1
                  funext events
                  exact PollEvents.change_onlyOut_twice events
                next => rfl
              · simp [same]
          · obtain ⟨after, walked, result⟩ := ih seated listed later shorter
            refine ⟨after, ?_, ?_⟩
            · simp only [if_neg can, Option.bind_eq_bind, Option.bind_some]
              rw [follows]
              exact walked
            · refine { result with events := ?_ }
              intro other otherUsed
              rw [result.events other otherUsed]
              by_cases same : other = wsi
              · simp [same, can]
              · simp [same]

/-- Every connection of the protocol that can write is asked to, and no assertion fails. -/
theorem Seated.lwsCallbackOnWritableAllProtocolVhost (able : Wsi → Bool) {n fuel : Nat}
    (seated : table.Seated pipe used) (listed : table.Listed lists used)
    (enough : (lists n).length ≤ fuel) :
    ∃ after, table.lwsCallbackOnWritableAllProtocolVhost able fuel n = some after ∧
      Asked able (lists n) pipe used table after := by
  have first : table.sameVhProtocol.head n = (lists n).head? := (listed.holds.chain n).read_eq
  rw [PollFds.lwsCallbackOnWritableAllProtocolVhost, first]
  exact seated.requestFrom able listed (List.nil_append _).symm enough

/-! ### The whole table -/

/-- Accepting is switched off exactly where one more connection would not leave a place, and
is not switched on again while the context is destroyed. -/
structure Sound (limits : FdLimits) (table : PollFds Wsi) (pipe : Nat)
    (lists : Nat → List Wsi) (used : Wsi → Prop) : Prop where
  seated : table.Seated pipe used
  listed : table.Listed lists used
  small : ∀ wsi, used wsi → ∀ sock, table.sock wsi = some sock → sock < limits.maxFds
  listener : used table.listening
  apart : ∀ n, table.listening ∉ lists n
  room : table.fds.length < limits.fdLimitPerThread
  accepts : ∀ events, table.eventsOf table.listening = some events →
    (events.pollin = true → table.fds.length < limits.fdLimitPerThread - 1) ∧
      (table.beingDestroyed = false → table.fds.length < limits.fdLimitPerThread - 1 →
        events.pollin = true)

/-- The connections in use other than the listening one keep their events and protocols. -/
structure Keeps (table after : PollFds Wsi) (used : Wsi → Prop) : Prop where
  listening : after.listening = table.listening
  sock : ∀ wsi, used wsi → after.sock wsi = table.sock wsi
  protocol : ∀ wsi, used wsi → after.protocol wsi = table.protocol wsi
  events : ∀ wsi, used wsi → wsi ≠ table.listening → after.eventsOf wsi = table.eventsOf wsi

variable {limits : FdLimits}

theorem Seat.zalloc (seat : table.Seat other place entry) (distinct : other ≠ wsi) (sock : Nat) :
    (table.zalloc wsi sock).Seat other place entry :=
  { position := (Function.update_of_ne distinct _ _).trans seat.position
    afterPipe := seat.afterPipe
    found := seat.found
    sock := (Function.update_of_ne distinct _ _).trans seat.sock }

theorem Seated.zalloc (seated : table.Seated pipe used) (unused : ¬ used wsi) (sock : Nat) :
    (table.zalloc wsi sock).Seated pipe used := by
  have apart : ∀ other, used other → other ≠ wsi := fun other inUse same => unused (same ▸ inUse)
  refine { first := seated.first, seat := ?_, taken := ?_, lookup := ?_ }
  · intro other inUse
    obtain ⟨place, entry, seat⟩ := seated.seat other inUse
    exact ⟨place, entry, seat.zalloc (apart other inUse) sock⟩
  · intro index found positive there
    obtain ⟨holder, inUse, position⟩ := seated.taken index found positive there
    exact ⟨holder, inUse, (Function.update_of_ne (apart holder inUse) _ _).trans position⟩
  · intro fd holder
    rw [show (table.zalloc wsi sock).lwsLookup = table.lwsLookup from rfl, seated.lookup]
    apply and_congr_right
    intro inUse
    rw [show (table.zalloc wsi sock).sock holder = table.sock holder from
      Function.update_of_ne (apart holder inUse) _ _]

theorem Seated.eventsOf_zalloc (table : PollFds Wsi) (distinct : other ≠ wsi) (sock : Nat) :
    (table.zalloc wsi sock).eventsOf other = table.eventsOf other := by
  have position : (table.zalloc wsi sock).position other = table.position other :=
    Function.update_of_ne distinct _ _
  rw [eventsOf, eventsOf, position]
  rfl

theorem Seated.eventsOf_placed (seated : table.Seated pipe used) (inUse : used other)
    (distinct : other ≠ wsi) (sock : Nat) :
    (table.placed wsi sock).eventsOf other = table.eventsOf other := by
  obtain ⟨place, entry, seat⟩ := seated.seat other inUse
  rw [(seat.placed distinct sock).eventsOf, seat.eventsOf]

private theorem insertWsiSocketIntoFds_of_room {sock : Nat} (socket : table.sock wsi = some sock)
    (room : table.fds.length < limits.fdLimitPerThread - 1) (small : sock < limits.maxFds)
    (unknown : table.lwsLookup sock = none) :
    insertWsiSocketIntoFds limits table wsi =
      if table.fds.length + 1 = limits.fdLimitPerThread - 1 then
        ((table.placed wsi sock).changePollfd table.listening .onlyIn .none).map
          fun table => (table, 0)
      else some (table.placed wsi sock, 0) := by
  have length : (table.placed wsi sock).fds.length = table.fds.length + 1 :=
    List.length_append ..
  rw [insertWsiSocketIntoFds, socket]
  dsimp only
  rw [if_neg (by omega), if_neg (by omega), if_neg (fun known => known unknown), ← length]
  rfl

theorem Sound.insertWsiSocketIntoFds (sound : table.Sound limits pipe lists used)
    (unused : ¬ used wsi) {sock : Nat} (fresh : ∀ pfd ∈ table.fds, pfd.fd ≠ sock)
    (small : sock < limits.maxFds) (room : table.fds.length < limits.fdLimitPerThread - 1) :
    ∃ after, insertWsiSocketIntoFds limits (table.zalloc wsi sock) wsi = some (after, 0) ∧
      after.Sound limits pipe lists (fun other => used other ∨ other = wsi) ∧
      table.Keeps after used ∧ after.eventsOf wsi = some .onlyIn := by
  have apart : ∀ other, used other → other ≠ wsi := fun other inUse same => unused (same ▸ inUse)
  have listening := apart table.listening sound.listener
  have clean := sound.seated.zalloc unused sock
  have socket : (table.zalloc wsi sock).sock wsi = some sock := Function.update_self ..
  have unknown := clean.lookup_eq_none fresh
  have seated := clean.placed unused socket fresh
  have listed := sound.listed.zalloc unused sock
  have length : ((table.zalloc wsi sock).placed wsi sock).fds.length = table.fds.length + 1 :=
    List.length_append ..
  have sameSock : ∀ other, used other →
      ((table.zalloc wsi sock).placed wsi sock).sock other = table.sock other :=
    fun other inUse => Function.update_of_ne (apart other inUse) _ _
  have sameProtocol : ∀ other, used other →
      ((table.zalloc wsi sock).placed wsi sock).protocol other = table.protocol other :=
    fun other inUse => Function.update_of_ne (apart other inUse) _ _
  have sameEvents : ∀ other, used other →
      ((table.zalloc wsi sock).placed wsi sock).eventsOf other = table.eventsOf other := by
    intro other inUse
    rw [clean.eventsOf_placed inUse (apart other inUse),
      Seated.eventsOf_zalloc table (apart other inUse)]
  have allSmall : ∀ other, (used other ∨ other = wsi) → ∀ number,
      ((table.zalloc wsi sock).placed wsi sock).sock other = some number →
        number < limits.maxFds := by
    intro other inUse number found
    cases inUse with
    | inl old => exact sound.small other old number ((sameSock other old).symm.trans found)
    | inr new =>
        rw [new] at found
        cases socket.symm.trans found
        exact small
  have newEvents := (clean.seat_placed socket).eventsOf
  obtain ⟨listenPlace, listenEntry, listenSeat⟩ := sound.seated.seat _ sound.listener
  have placedSeat := (listenSeat.zalloc listening sock).placed listening sock
  have before := sound.accepts listenEntry.events listenSeat.eventsOf
  rw [insertWsiSocketIntoFds_of_room socket room small unknown]
  by_cases full : table.fds.length + 1 = limits.fdLimitPerThread - 1
  · refine ⟨((table.zalloc wsi sock).placed wsi sock).changed table.listening .onlyIn .none,
      ?_, ?_, ?_, ?_⟩
    · have isFull : (table.zalloc wsi sock).fds.length + 1 = limits.fdLimitPerThread - 1 := full
      rw [if_pos isFull]
      show (PollFds.changePollfd _ table.listening _ _).map _ = _
      rw [placedSeat.changePollfd]
      rfl
    · refine { seated := seated.changed (.inl sound.listener) _ _
               listed := { holds := listed.holds, settled := listed.settled
                           within := listed.within }
               small := allSmall, listener := .inl sound.listener, apart := sound.apart
               room := ?_, accepts := ?_ }
      · rw [length_changed, length]
        omega
      · intro events found
        have off : (((table.zalloc wsi sock).placed wsi sock).changed table.listening .onlyIn
            .none).eventsOf table.listening = some events := found
        rw [seated.eventsOf_changed (.inl sound.listener) (.inl sound.listener), if_pos rfl,
          placedSeat.eventsOf] at off
        cases off
        rw [length_changed, length, full]
        simp [PollEvents.change, PollEvents.onlyIn, PollEvents.none]
    · refine { listening := rfl, sock := sameSock, protocol := sameProtocol, events := ?_ }
      intro other inUse distinct
      rw [seated.eventsOf_changed (.inl sound.listener) (.inl inUse), if_neg distinct]
      exact sameEvents other inUse
    · rw [seated.eventsOf_changed (.inl sound.listener) (.inr rfl), if_neg (Ne.symm listening)]
      exact newEvents
  · refine ⟨(table.zalloc wsi sock).placed wsi sock, if_neg full, ?_, ?_, newEvents⟩
    · refine { seated := seated
               listed := { holds := listed.holds, settled := listed.settled
                           within := listed.within }
               small := allSmall, listener := .inl sound.listener, apart := sound.apart
               room := ?_, accepts := ?_ }
      · rw [length]
        omega
      · intro events found
        have same : some listenEntry.events = some events := placedSeat.eventsOf.symm.trans found
        cases same
        rw [length]
        constructor
        · intro pollin
          have enough := before.1 pollin
          omega
        · exact fun going _ => before.2 going room
    · exact { listening := rfl, sock := sameSock, protocol := sameProtocol
              events := fun other inUse _ => sameEvents other inUse }

theorem Seated.eventsOf_vacated (seated : table.Seated pipe used) (wsiUsed : used wsi)
    {endWsi : Wsi} {last : PollFd} (endUsed : used endWsi)
    (endSeat : table.Seat endWsi (table.fds.length - 1) last) (sock : Nat)
    (otherUsed : used other) (distinct : other ≠ wsi) :
    (table.vacated wsi endWsi last sock).eventsOf other = table.eventsOf other := by
  obtain ⟨place, entry, seat⟩ := seated.seat other otherUsed
  obtain ⟨newPlace, moved⟩ :=
    seated.seat_vacated wsiUsed endUsed endSeat sock otherUsed distinct seat
  rw [moved.eventsOf, seat.eventsOf]

/-- The table with other pointers between its connections. -/
def relinked (table : PollFds Wsi) (links : Links Nat Wsi) : PollFds Wsi :=
  { table with sameVhProtocol := links }

omit [DecidableEq Wsi] in
theorem Seat.relinked (seat : table.Seat wsi place entry) (links : Links Nat Wsi) :
    (table.relinked links).Seat wsi place entry :=
  { position := seat.position, afterPipe := seat.afterPipe, found := seat.found
    sock := seat.sock }

omit [DecidableEq Wsi] in
theorem Seated.relinked (seated : table.Seated pipe used) (links : Links Nat Wsi) :
    (table.relinked links).Seated pipe used := by
  refine { first := seated.first, seat := ?_, taken := seated.taken, lookup := seated.lookup }
  intro wsi inUse
  obtain ⟨place, entry, seat⟩ := seated.seat wsi inUse
  exact ⟨place, entry, seat.relinked links⟩

theorem Sound.removeWsiSocketFromFds (sound : table.Sound limits pipe lists used)
    (wsiUsed : used wsi) (distinct : wsi ≠ table.listening) :
    ∃ after, removeWsiSocketFromFds limits table wsi = some after ∧
      after.Sound limits pipe (fun n => (lists n).erase wsi)
        (fun other => used other ∧ other ≠ wsi) ∧
      table.Keeps after (fun other => used other ∧ other ≠ wsi) := by
  obtain ⟨place, entry, seat⟩ := sound.seated.seat wsi wsiUsed
  have small := sound.small wsi wsiUsed entry.fd seat.sock
  obtain ⟨left, leaves, listed⟩ := sound.listed.leaveProtocol wsiUsed
  obtain ⟨endWsi, last, endUsed, endSeat⟩ := sound.seated.exists_end wsiUsed
  have apart := sound.seated.relinked left
  have endApart := endSeat.relinked left
  have vacates := apart.vacate wsiUsed endUsed endApart entry.fd
  have seated := apart.vacated wsiUsed (seat.relinked left).sock endUsed endApart
  have stays : used table.listening ∧ table.listening ≠ wsi := ⟨sound.listener, distinct.symm⟩
  have positive := sound.seated.length_pos
  have length : ((table.relinked left).vacated wsi endWsi last entry.fd).fds.length =
      table.fds.length - 1 := length_vacated ..
  have sameEvents : ∀ other, used other ∧ other ≠ wsi →
      ((table.relinked left).vacated wsi endWsi last entry.fd).eventsOf other =
        table.eventsOf other := by
    intro other both
    exact apart.eventsOf_vacated wsiUsed endUsed endApart entry.fd both.1 both.2
  have unlisted : ∀ n, table.listening ∉ (lists n).erase wsi :=
    fun n member => sound.apart n (List.mem_of_mem_erase member)
  have allSmall : ∀ other, used other ∧ other ≠ wsi → ∀ sock,
      table.sock other = some sock → sock < limits.maxFds :=
    fun other both => sound.small other both.1
  obtain ⟨listenPlace, listenEntry, listenSeat⟩ := seated.seat _ stays
  have room := sound.room
  have removes : PollFds.removeWsiSocketFromFds limits table wsi =
      if table.beingDestroyed then
        some ((table.relinked left).vacated wsi endWsi last entry.fd)
      else if table.fds.length - 1 < limits.fdLimitPerThread - 1 then
        some (((table.relinked left).vacated wsi endWsi last entry.fd).changed table.listening
          .none .onlyIn)
      else some ((table.relinked left).vacated wsi endWsi last entry.fd) := by
    have changes := listenSeat.changePollfd .none .onlyIn
    rw [PollFds.removeWsiSocketFromFds, seat.sock]
    dsimp only
    rw [if_neg (by omega), leaves]
    show (do
      let removed ← (table.relinked left).vacate wsi entry.fd
      if removed.beingDestroyed then some removed
      else if removed.fds.length < limits.fdLimitPerThread - 1 then
        removed.changePollfd removed.listening .none .onlyIn
      else some removed) = _
    rw [vacates]
    simp only [Option.bind_eq_bind, Option.bind_some, length]
    have flag : ((table.relinked left).vacated wsi endWsi last entry.fd).beingDestroyed =
        table.beingDestroyed := rfl
    rw [flag]
    split
    next => rfl
    next =>
      split
      next => exact changes
      next => rfl
  rw [removes]
  by_cases destroyed : table.beingDestroyed = true
  · rw [if_pos destroyed]
    refine ⟨_, rfl, ?_, ?_⟩
    · refine { seated := seated
               listed := { holds := listed.holds, settled := listed.settled
                           within := listed.within }
               small := allSmall, listener := stays, apart := unlisted, room := ?_, accepts := ?_ }
      · rw [length]
        omega
      · intro events found
        have kept := (sameEvents table.listening stays).symm.trans found
        rw [length]
        constructor
        · intro pollin
          have enough := (sound.accepts events kept).1 pollin
          omega
        · exact fun going => absurd (destroyed.symm.trans going) (by simp)
    · exact { listening := rfl, sock := fun _ _ => rfl, protocol := fun _ _ => rfl
              events := fun other both _ => sameEvents other both }
  rw [if_neg destroyed, if_pos (by omega)]
  refine ⟨_, rfl, ?_, ?_⟩
  · refine { seated := seated.changed stays _ _
             listed := { holds := listed.holds, settled := listed.settled
                         within := listed.within }
             small := allSmall, listener := stays, apart := unlisted, room := ?_, accepts := ?_ }
    · rw [length_changed, length]
      omega
    · intro events found
      have on : (((table.relinked left).vacated wsi endWsi last entry.fd).changed
          table.listening .none .onlyIn).eventsOf table.listening = some events := found
      rw [seated.eventsOf_changed stays stays, if_pos rfl, listenSeat.eventsOf] at on
      cases on
      rw [length_changed, length]
      simp only [PollEvents.change, PollEvents.onlyIn, PollEvents.none, Bool.or_true]
      exact ⟨fun _ => by omega, fun _ _ => trivial⟩
  · refine { listening := rfl, sock := fun _ _ => rfl, protocol := fun _ _ => rfl, events := ?_ }
    intro other both notListening
    rw [seated.eventsOf_changed stays both, if_neg notListening]
    exact sameEvents other both

theorem Sound.changed (sound : table.Sound limits pipe lists used) (wsiUsed : used wsi)
    (distinct : wsi ≠ table.listening) (clear set : PollEvents) :
    (table.changed wsi clear set).Sound limits pipe lists used := by
  refine { seated := sound.seated.changed wsiUsed clear set
           listed := { holds := sound.listed.holds, settled := sound.listed.settled
                       within := sound.listed.within }
           small := sound.small, listener := sound.listener, apart := sound.apart
           room := ?_, accepts := ?_ }
  · rw [length_changed]
    exact sound.room
  · intro events found
    have same : (table.changed wsi clear set).eventsOf table.listening = some events := found
    rw [sound.seated.eventsOf_changed wsiUsed sound.listener, if_neg distinct.symm] at same
    rw [length_changed]
    exact sound.accepts events same

theorem Sound.stitchProtocol (sound : table.Sound limits pipe lists used) (wsiUsed : used wsi)
    (distinct : wsi ≠ table.listening) (absent : ∀ n, wsi ∉ lists n) (n : Nat) :
    (table.stitchProtocol wsi n).Sound limits pipe (Function.update lists n (wsi :: lists n))
      used := by
  refine { seated := { first := sound.seated.first, seat := ?_, taken := sound.seated.taken
                       lookup := sound.seated.lookup }
           listed := sound.listed.stitchProtocol wsiUsed absent n
           small := sound.small, listener := sound.listener, apart := ?_
           room := sound.room, accepts := sound.accepts }
  · intro other inUse
    obtain ⟨place, entry, seat⟩ := sound.seated.seat other inUse
    exact ⟨place, entry, seat.position, seat.afterPipe, seat.found, seat.sock⟩
  · intro key member
    by_cases same : key = n
    · rw [same, Function.update_self] at member
      cases List.mem_cons.mp member with
      | inl new => exact distinct new.symm
      | inr inside => exact sound.apart n inside
    · rw [Function.update_of_ne same] at member
      exact sound.apart key member

theorem Sound.asked (sound : table.Sound limits pipe lists used) {able : Wsi → Bool} {n : Nat}
    {after : PollFds Wsi} (asked : Asked able (lists n) pipe used table after) :
    after.Sound limits pipe lists used := by
  refine { seated := asked.seated, listed := ?_, small := ?_, listener := ?_, apart := ?_
           room := ?_, accepts := ?_ }
  · refine { holds := ?_, settled := ?_, within := ?_ }
    · rw [asked.links]
      exact sound.listed.holds
    · rw [asked.links]
      exact sound.listed.settled
    · rw [asked.protocol]
      exact sound.listed.within
  · rw [asked.sock]
    exact sound.small
  · rw [asked.listening]
    exact sound.listener
  · rw [asked.listening]
    exact sound.apart
  · rw [asked.length]
    exact sound.room
  · intro events found
    rw [asked.listening, asked.events _ sound.listener,
      if_neg (fun both => sound.apart n both.1)] at found
    rw [asked.length, asked.beingDestroyed]
    exact sound.accepts events found

theorem Sound.zalloc (sound : table.Sound limits pipe lists used) (unused : ¬ used wsi)
    (sock : Nat) : (table.zalloc wsi sock).Sound limits pipe lists used := by
  have apart : ∀ other, used other → other ≠ wsi := fun other inUse same => unused (same ▸ inUse)
  have listed := sound.listed.zalloc unused sock
  refine { seated := sound.seated.zalloc unused sock
           listed := { holds := listed.holds, settled := ?_, within := ?_ }
           small := ?_, listener := sound.listener, apart := sound.apart, room := sound.room
           accepts := ?_ }
  · exact listed.settled.mono fun _ inUse => .inl inUse
  · intro n other member
    have inUse := (sound.listed.within n other member).1
    exact ⟨inUse, (listed.within n other member).2⟩
  · intro other inUse number found
    have same : (table.zalloc wsi sock).sock other = table.sock other :=
      Function.update_of_ne (apart other inUse) _ _
    exact sound.small other inUse number (same.symm.trans found)
  · intro events found
    have same := Seated.eventsOf_zalloc table (apart _ sound.listener) sock
    exact sound.accepts events (same.symm.trans found)

theorem initial_sound (limits : FdLimits) (pipe : Nat) (listening : Wsi) {sock : Nat}
    (apart : pipe ≠ sock) (small : sock < limits.maxFds) :
    ∃ after, insertWsiSocketIntoFds limits (initial pipe listening sock) listening =
        some (after, 0) ∧
      after.Sound limits pipe (fun _ => []) (fun wsi => wsi = listening) ∧
      after.listening = listening := by
  have roomy := limits.roomy
  have seated : (initial pipe listening sock : PollFds Wsi).Seated pipe fun _ => False := by
    refine { first := rfl, seat := fun _ none => none.elim, taken := ?_, lookup := ?_ }
    · intro index found positive there
      have bound := (List.getElem?_eq_some_iff.mp there).1
      have length : (initial pipe listening sock : PollFds Wsi).fds.length = 1 := rfl
      omega
    · exact fun _ _ => iff_of_false (by simp [initial]) fun none => none.1
  have fresh : ∀ pfd ∈ (initial pipe listening sock : PollFds Wsi).fds, pfd.fd ≠ sock := by
    intro pfd member
    rw [List.mem_singleton.mp member]
    exact apart
  have socket : (initial pipe listening sock : PollFds Wsi).sock listening = some sock := rfl
  have placed : ((initial pipe listening sock).placed listening sock).Seated pipe
      fun wsi => False ∨ wsi = listening :=
    seated.placed id socket fresh
  have only : (fun wsi : Wsi => False ∨ wsi = listening) = fun wsi => wsi = listening := by
    funext wsi
    simp
  rw [only] at placed
  have listed : ((initial pipe listening sock).placed listening sock).Listed (fun _ => [])
      fun wsi => wsi = listening :=
    { holds := Links.holds_empty
      settled := fun _ _ _ => ⟨rfl, rfl⟩
      within := fun _ _ member => absurd member List.not_mem_nil }
  have allSmall : ∀ wsi : Wsi, wsi = listening → ∀ number,
      some sock = some number → number < limits.maxFds := by
    intro _ _ number found
    cases found
    exact small
  have seat := seated.seat_placed socket
  have length : ((initial pipe listening sock).placed listening sock).fds.length = 2 := rfl
  have room : (initial pipe listening sock).fds.length < limits.fdLimitPerThread - 1 := by
    show 1 < _
    omega
  rw [insertWsiSocketIntoFds_of_room socket room small (seated.lookup_eq_none fresh)]
  by_cases full : 2 = limits.fdLimitPerThread - 1
  · refine ⟨((initial pipe listening sock).placed listening sock).changed listening .onlyIn
      .none, ?_, ?_, rfl⟩
    · have isFull : (initial pipe listening sock).fds.length + 1 =
          limits.fdLimitPerThread - 1 := full
      rw [if_pos isFull]
      show (PollFds.changePollfd _ listening _ _).map _ = _
      rw [seat.changePollfd]
      rfl
    · refine { seated := placed.changed rfl _ _
               listed := { holds := listed.holds, settled := listed.settled
                           within := listed.within }
               small := allSmall, listener := rfl, apart := fun _ => List.not_mem_nil
               room := ?_, accepts := ?_ }
      · rw [length_changed, length]
        omega
      · intro events found
        have off : (((initial pipe listening sock).placed listening sock).changed listening
            .onlyIn .none).eventsOf listening = some events := found
        rw [placed.eventsOf_changed rfl rfl, if_pos rfl, seat.eventsOf] at off
        cases off
        rw [length_changed, length, ← full]
        simp [PollEvents.change, PollEvents.onlyIn, PollEvents.none]
  · have notFull : ¬ (initial pipe listening sock).fds.length + 1 =
        limits.fdLimitPerThread - 1 := full
    refine ⟨(initial pipe listening sock).placed listening sock, if_neg notFull, ?_, rfl⟩
    refine { seated := placed, listed := listed, small := allSmall, listener := rfl
             apart := fun _ => List.not_mem_nil, room := ?_, accepts := ?_ }
    · rw [length]
      omega
    · intro events found
      have same : some PollEvents.onlyIn = some events := seat.eventsOf.symm.trans found
      cases same
      rw [length]
      constructor
      · intro _
        omega
      · exact fun _ _ => rfl

end PollFds

end JSCameraKit.Libwebsockets

import JSCameraKit.Library.Links
import Mathlib.Algebra.Group.Nat.Defs
import Mathlib.Tactic.Common

set_option autoImplicit false

/-! The connections of a service thread that have to do something in time: the list that runs
through `timeout_list` and `timeout_list_prev`, kept by `lws_set_timeout` and
`lws_remove_from_timeout_list` (libwebsockets.c). A connection is on it exactly while it has a
pending timeout. -/

namespace JSCameraKit.Libwebsockets

/-- `enum pending_timeout` -/
inductive PendingTimeout
  | noPendingTimeout
  | awaitingProxyResponse
  | awaitingConnectResponse
  | establishWithServer
  | awaitingServerResponse
  | awaitingPing
  | closeAck
  | awaitingExtensionConnectResponse
  | sentClientHandshake
  | sslAccept
  | httpContent
  | awaitingClientHsSend
  | flushStoredSendBeforeClose
  | shutdownFlush
  | cgi
  | httpKeepaliveIdle
  | wsPongCheckSendPing
  | wsPongCheckGetPong
  | clientIssuePayload
  deriving DecidableEq

structure Timeouts (Wsi : Type) where
  list : Links Unit Wsi
  pendingTimeout : Wsi → PendingTimeout
  pendingTimeoutLimit : Wsi → Int

namespace Timeouts

variable {Wsi : Type} [DecidableEq Wsi]

omit [DecidableEq Wsi] in
def initial : Timeouts Wsi :=
  { list := Links.empty
    pendingTimeout := fun _ => .noPendingTimeout
    pendingTimeoutLimit := fun _ => 0 }

/-- What `lws_zalloc` leaves of a connection here. -/
def zalloc (timeouts : Timeouts Wsi) (wsi : Wsi) : Timeouts Wsi :=
  { list := timeouts.list.clear wsi
    pendingTimeout := Function.update timeouts.pendingTimeout wsi .noPendingTimeout
    pendingTimeoutLimit := Function.update timeouts.pendingTimeoutLimit wsi 0 }

def lwsRemoveFromTimeoutList (timeouts : Timeouts Wsi) (wsi : Wsi) : Timeouts Wsi :=
  { timeouts with list := timeouts.list.unlink wsi }

/-- A connection that has a timeout already keeps its place. -/
def lwsSetTimeout (timeouts : Timeouts Wsi) (wsi : Wsi) (reason : PendingTimeout) (now : Nat)
    (secs : Int) : Timeouts Wsi :=
  let listed :=
    if reason ≠ .noPendingTimeout ∧ timeouts.list.prev wsi = none then
      timeouts.list.insertFirst () wsi
    else timeouts.list
  let set : Timeouts Wsi :=
    { list := listed
      pendingTimeout := Function.update timeouts.pendingTimeout wsi reason
      pendingTimeoutLimit := Function.update timeouts.pendingTimeoutLimit wsi (now + secs) }
  if reason = .noPendingTimeout then set.lwsRemoveFromTimeoutList wsi else set

/-- The test of `lws_service_timeout_check`. The clock is passed on as an `unsigned int`. -/
def expired (timeouts : Timeouts Wsi) (now : Nat) (wsi : Wsi) : Bool :=
  timeouts.pendingTimeout wsi ≠ .noPendingTimeout &&
    decide (timeouts.pendingTimeoutLimit wsi < ((now % 2 ^ 32 : Nat) : Int))

/-- The list runs through the connections in use that have a pending timeout. -/
structure Sound (timeouts : Timeouts Wsi) (queue : List Wsi) (used : Wsi → Prop) : Prop where
  holds : timeouts.list.Holds fun _ => queue
  settled : timeouts.list.Settled (fun _ => queue) used
  within : ∀ wsi ∈ queue, used wsi
  pending : ∀ wsi, used wsi → (wsi ∈ queue ↔ timeouts.pendingTimeout wsi ≠ .noPendingTimeout)

variable {timeouts : Timeouts Wsi} {queue : List Wsi} {used : Wsi → Prop} {wsi : Wsi}

omit [DecidableEq Wsi] in
theorem initial_sound (used : Wsi → Prop) : (initial : Timeouts Wsi).Sound [] used :=
  { holds := Links.holds_empty
    settled := fun _ _ _ => ⟨rfl, rfl⟩
    within := fun _ member => absurd member List.not_mem_nil
    pending := fun _ _ => by simp [initial] }

theorem Sound.zalloc (sound : timeouts.Sound queue used) (free : ¬ used wsi) :
    (timeouts.zalloc wsi).Sound queue fun other => used other ∨ other = wsi := by
  have fresh : wsi ∉ queue := fun listed => free (sound.within wsi listed)
  refine { holds := ?_, settled := ?_, within := ?_, pending := ?_ }
  · exact sound.holds.clear fun _ => fresh
  · apply Links.Settled.clear
    apply sound.settled.mono
    intro other inUse
    exact inUse.1.resolve_right inUse.2
  · intro other listed
    exact .inl (sound.within other listed)
  · intro other inUse
    by_cases same : other = wsi
    · rw [same]
      simp [Timeouts.zalloc, fresh]
    · have kept : (timeouts.zalloc wsi).pendingTimeout other = timeouts.pendingTimeout other :=
        Function.update_of_ne same _ _
      rw [kept]
      exact sound.pending other (inUse.resolve_right same)

omit [DecidableEq Wsi] in
theorem Sound.prev_eq_none (sound : timeouts.Sound queue used) (inUse : used wsi)
    (absent : wsi ∉ queue) : timeouts.list.prev wsi = none :=
  (sound.settled wsi inUse fun _ => absent).1

private theorem unlink_of_absent (sound : timeouts.Sound queue used) (inUse : used wsi)
    (absent : wsi ∉ queue) : timeouts.list.unlink wsi = timeouts.list := by
  rw [Links.unlink, sound.prev_eq_none inUse absent]

/-- A connection that is taken off the list is freed, or has no pending timeout. -/
theorem Sound.lwsRemoveFromTimeoutList (sound : timeouts.Sound queue used) (inUse : used wsi) :
    (timeouts.lwsRemoveFromTimeoutList wsi).Sound (queue.erase wsi)
      fun other => used other ∧ other ≠ wsi := by
  have nodup := sound.holds.nodup ()
  have pending : ∀ other, (used other ∧ other ≠ wsi) →
      (other ∈ queue.erase wsi ↔ timeouts.pendingTimeout other ≠ .noPendingTimeout) := by
    intro other both
    rw [List.mem_erase_of_ne both.2]
    exact sound.pending other both.1
  have within : ∀ other ∈ queue.erase wsi, used other ∧ other ≠ wsi := by
    intro other listed
    obtain ⟨distinct, member⟩ := nodup.mem_erase_iff.mp listed
    exact ⟨sound.within other member, distinct⟩
  by_cases listed : wsi ∈ queue
  · refine { holds := ?_, settled := ?_, within := within, pending := pending }
    · exact sound.holds.unlink () listed
    · exact (sound.settled.unlink sound.holds () listed).mono fun _ both => both.1
  · have same : (timeouts.lwsRemoveFromTimeoutList wsi).list = timeouts.list :=
      unlink_of_absent sound inUse listed
    refine { holds := ?_, settled := ?_, within := within, pending := pending }
    · rw [same, List.erase_of_not_mem listed]
      exact sound.holds
    · rw [same, List.erase_of_not_mem listed]
      exact sound.settled.mono fun _ both => both.1

private theorem lwsSetTimeout_pendingTimeout (timeouts : Timeouts Wsi) (wsi : Wsi)
    (reason : PendingTimeout) (now : Nat) (secs : Int) :
    (timeouts.lwsSetTimeout wsi reason now secs).pendingTimeout =
      Function.update timeouts.pendingTimeout wsi reason := by
  rw [lwsSetTimeout]
  split <;> rfl

theorem lwsSetTimeout_pendingTimeoutLimit (timeouts : Timeouts Wsi) (wsi : Wsi)
    (reason : PendingTimeout) (now : Nat) (secs : Int) :
    (timeouts.lwsSetTimeout wsi reason now secs).pendingTimeoutLimit =
      Function.update timeouts.pendingTimeoutLimit wsi (now + secs) := by
  rw [lwsSetTimeout]
  split <;> rfl

/-- The list after `lws_set_timeout`. -/
def queueSet (queue : List Wsi) (wsi : Wsi) (reason : PendingTimeout) : List Wsi :=
  if reason = .noPendingTimeout then queue.erase wsi
  else if wsi ∈ queue then queue
  else wsi :: queue

private theorem mem_queueSet (nodup : queue.Nodup) (reason : PendingTimeout) (other : Wsi) :
    other ∈ queueSet queue wsi reason ↔
      if other = wsi then reason ≠ .noPendingTimeout else other ∈ queue := by
  rw [queueSet]
  by_cases none : reason = .noPendingTimeout
  · rw [if_pos none, nodup.mem_erase_iff]
    by_cases same : other = wsi
    · simp [same, none]
    · simp [same]
  · rw [if_neg none]
    by_cases listed : wsi ∈ queue
    · rw [if_pos listed]
      by_cases same : other = wsi
      · simp [same, none, listed]
      · simp [same]
    · rw [if_neg listed, List.mem_cons]
      by_cases same : other = wsi
      · simp [same, none]
      · simp [same]

theorem Sound.lwsSetTimeout (sound : timeouts.Sound queue used) (inUse : used wsi)
    (reason : PendingTimeout) (now : Nat) (secs : Int) :
    (timeouts.lwsSetTimeout wsi reason now secs).Sound (queueSet queue wsi reason) used := by
  have nodup := sound.holds.nodup ()
  have within : ∀ other ∈ queueSet queue wsi reason, used other := by
    intro other listed
    rw [mem_queueSet nodup] at listed
    split at listed
    next same =>
      rw [same]
      exact inUse
    next => exact sound.within other listed
  have pending : ∀ other, used other → (other ∈ queueSet queue wsi reason ↔
      (timeouts.lwsSetTimeout wsi reason now secs).pendingTimeout other ≠ .noPendingTimeout) := by
    intro other otherUsed
    rw [mem_queueSet nodup, lwsSetTimeout_pendingTimeout, Function.update_apply]
    split
    next => exact Iff.rfl
    next => exact sound.pending other otherUsed
  by_cases none : reason = .noPendingTimeout
  · -- The list is what taking the connection off it leaves.
    have list : (timeouts.lwsSetTimeout wsi reason now secs).list = timeouts.list.unlink wsi := by
      rw [Timeouts.lwsSetTimeout, if_pos none, if_neg (fun both => both.1 none)]
      rfl
    have erased : queueSet queue wsi reason = queue.erase wsi := if_pos none
    refine { holds := ?_, settled := ?_, within := within, pending := pending }
    · rw [list, erased]
      by_cases listed : wsi ∈ queue
      · exact sound.holds.unlink () listed
      · rw [unlink_of_absent sound inUse listed, List.erase_of_not_mem listed]
        exact sound.holds
    · rw [list, erased]
      by_cases listed : wsi ∈ queue
      · exact sound.settled.unlink sound.holds () listed
      · rw [unlink_of_absent sound inUse listed, List.erase_of_not_mem listed]
        exact sound.settled
  · by_cases listed : wsi ∈ queue
    · have list : (timeouts.lwsSetTimeout wsi reason now secs).list = timeouts.list := by
        obtain ⟨leads, placed⟩ := sound.holds.prev_eq_some () listed
        rw [Timeouts.lwsSetTimeout, if_neg none, if_neg]
        rw [placed]
        exact fun both => absurd both.2 (Option.some_ne_none leads)
      have kept : queueSet queue wsi reason = queue := by
        rw [queueSet, if_neg none, if_pos listed]
      rw [kept] at within pending ⊢
      refine { holds := ?_, settled := ?_, within := within, pending := pending }
      · rw [list]
        exact sound.holds
      · rw [list]
        exact sound.settled
    · have list : (timeouts.lwsSetTimeout wsi reason now secs).list =
          timeouts.list.insertFirst () wsi := by
        have off := sound.prev_eq_none inUse listed
        rw [Timeouts.lwsSetTimeout, if_neg none, if_pos ⟨none, off⟩]
      have first : (fun _ : Unit => queueSet queue wsi reason) =
          Function.update (fun _ => queue) () (wsi :: queue) := by
        funext _
        rw [queueSet, if_neg none, if_neg listed]
        rfl
      refine { holds := ?_, settled := ?_, within := within, pending := pending }
      · rw [list, first]
        exact sound.holds.insertFirst () fun _ => listed
      · rw [list, first]
        exact sound.settled.insertFirst sound.holds ()

omit [DecidableEq Wsi] in
theorem Sound.restrict (sound : timeouts.Sound queue used) {fewer : Wsi → Prop}
    (less : ∀ wsi, fewer wsi → used wsi) (within : ∀ wsi ∈ queue, fewer wsi) :
    timeouts.Sound queue fewer :=
  { holds := sound.holds
    settled := sound.settled.mono less
    within := within
    pending := fun wsi inUse => sound.pending wsi (less wsi inUse) }

end Timeouts

end JSCameraKit.Libwebsockets

import Mathlib.Data.List.Basic
import JSCameraKit.Library.Machine

set_option autoImplicit false

/-! `start` and `pause`. A start posts a block to a concurrent queue, where it
recreates the context if there is none, clears `stop` and loops; a pause runs to its
end before the next call. They share `stop` and `context` without synchronisation, also
with the writes, which hold the mutex of the clients. -/

namespace JSCameraKit
namespace WebSocketServer
namespace Lifecycle

inductive LwsCall
  | service
  | cancelService
  | callbackOnWritable
  | contextDestroy
  deriving DecidableEq

/-- What the blocks share. Contexts are numbered as they are created. -/
structure Server where
  context : Option Nat
  created : Nat
  destroyed : List Nat
  stop : Bool
  canCancel : Bool
  clientWriteableCallbacks : Nat
  /-- The unread bytes in the cancel pipe of each context. -/
  pipe : Nat → Nat
  /-- The calls made on a nil or destroyed context. -/
  badCalls : List LwsCall

/-- The next statement of a block posted by `start`. -/
inductive Stage
  | posted
  | creating
  | clearingStop
  | cancelingWrites
  | testing
  | calling
  | polling (context : Nat)
  | counting
  | arming
  | allowing
  | destroying
  | forgetting
  | done
  deriving DecidableEq

/-- The next statement of `pause`. -/
inductive PauseStage
  | cancelingWrites
  | settingStop
  | cancelingService
  deriving DecidableEq

/-- The next statement of `waitForWriteable` behind the two of the queue. -/
inductive WriteStage
  | callingBack
  | testing
  | cancelingService
  deriving DecidableEq

inductive Call
  | start
  | pause
  deriving DecidableEq

/-- The one that writes has the mutex. -/
structure State where
  server : Server
  blocks : List Stage
  pausing : Option PauseStage
  writing : Option WriteStage
  lastCall : Option Call

inductive Label
  | start
  | pause
  | advancePause
  | advance (block : Nat)
  /-- The call of `lws_create_context` that a block is at returns nil. -/
  | failToCreate (block : Nat)
  | waitForWriteable
  | advanceWrite
  | onClientWritable

def Server.Live (server : Server) : Prop :=
  ∃ id ∈ server.context, id ∉ server.destroyed

instance (server : Server) : Decidable server.Live :=
  inferInstanceAs (Decidable (∃ id ∈ server.context, id ∉ server.destroyed))

def Server.call (server : Server) (made : LwsCall) : Server :=
  if server.Live then server else { server with badCalls := server.badCalls ++ [made] }

def Server.cancelAllWrites (server : Server) : Server :=
  { server with clientWriteableCallbacks := 0 }

def Server.lws_create_context (server : Server) : Server :=
  { server with context := some server.created, created := server.created + 1 }

def Server.lws_cancel_service (server : Server) : Server :=
  let called := server.call .cancelService
  match called.context with
  | none => called
  | some id =>
      { called with
        pipe := fun other => if other = id then called.pipe id + 1 else called.pipe other }

def Server.lws_context_destroy (server : Server) : Server :=
  let called := server.call .contextDestroy
  { called with destroyed := called.context.toList ++ called.destroyed }

/-- A return of `poll` reads at most one byte. -/
def Server.readPipe (server : Server) (id : Nat) : Server :=
  { server with
    pipe := fun other => if other = id then server.pipe id - 1 else server.pipe other }

/-- One statement of a block. The `poll` inside `lws_service` may return at any time,
for a byte in the pipe or for what happens on a connection. -/
def blockStep (server : Server) : Stage → Option (Server × Stage)
  | .posted => some (server, if server.context = none then .creating else .clearingStop)
  | .creating => some (server.lws_create_context, .clearingStop)
  | .clearingStop => some ({ server with stop := false }, .cancelingWrites)
  | .cancelingWrites => some (server.cancelAllWrites, .testing)
  | .testing => some (server, if server.stop then .destroying else .calling)
  | .calling =>
      some (server.call .service, (server.context.map Stage.polling).getD .counting)
  | .polling id => some (server.readPipe id, .counting)
  | .counting =>
      some (server, if server.context.isSome ∧ 0 < server.clientWriteableCallbacks then .arming
        else .allowing)
  | .arming => some (server.call .callbackOnWritable, .allowing)
  | .allowing => some ({ server with canCancel := true }, .testing)
  | .destroying => some (server.lws_context_destroy, .forgetting)
  | .forgetting => some ({ server with context := none }, .done)
  | .done => none

def pauseStep (server : Server) : PauseStage → Server × Option PauseStage
  | .cancelingWrites => (server.cancelAllWrites, some .settingStop)
  | .settingStop => ({ server with stop := true }, some .cancelingService)
  | .cancelingService => (server.lws_cancel_service, none)

def writeStep (server : Server) : WriteStage → Server × Option WriteStage
  | .callingBack => (server.call .callbackOnWritable, some .testing)
  | .testing =>
      if server.canCancel then ({ server with canCancel := false }, some .cancelingService)
      else (server, none)
  | .cancelingService => (server.lws_cancel_service, none)

/-- The calls come one after another; a pause returns before the next one. `cancelAllWrites`
waits for the mutex. -/
def step (state : State) : Label → Option State
  | .start =>
      if state.pausing = none then
        some { state with blocks := state.blocks ++ [.posted], lastCall := some .start }
      else none
  | .pause =>
      if state.pausing = none then
        some { state with pausing := some .cancelingWrites, lastCall := some .pause }
      else none
  | .advancePause => do
      let stage ← state.pausing
      if stage = .cancelingWrites ∧ state.writing ≠ none then none
      else
        some
          { state with
            server := (pauseStep state.server stage).1
            pausing := (pauseStep state.server stage).2 }
  | .advance block => do
      let stage ← state.blocks[block]?
      if stage = .cancelingWrites ∧ state.writing ≠ none then none
      else
        let (server, next) ← blockStep state.server stage
        some { state with server := server, blocks := state.blocks.set block next }
  | .failToCreate block =>
      if state.blocks[block]? = some .creating then
        some { state with blocks := state.blocks.set block .clearingStop }
      else none
  | .waitForWriteable =>
      if state.writing = none then
        some
          { state with
            server :=
              { state.server with
                clientWriteableCallbacks := state.server.clientWriteableCallbacks + 1 }
            writing := some .callingBack }
      else none
  | .advanceWrite =>
      state.writing.map fun stage =>
        { state with
          server := (writeStep state.server stage).1
          writing := (writeStep state.server stage).2 }
  | .onClientWritable =>
      if state.writing = none then
        some
          { state with
            server :=
              { state.server with
                clientWriteableCallbacks := state.server.clientWriteableCallbacks - 1 } }
      else none

def initial : State :=
  { server :=
      { context := none
        created := 0
        destroyed := []
        stop := false
        canCancel := false
        clientWriteableCallbacks := 0
        pipe := fun _ => 0
        badCalls := [] }
    blocks := []
    pausing := none
    writing := none
    lastCall := none }

def machine : Machine State Label :=
  { initial := fun state => state = initial
    step := step }

/-! ### The property -/

def Stage.looping : Stage → Bool
  | .testing | .calling | .polling _ | .counting | .arming | .allowing => true
  | _ => false

/-- Each block has ended, or sleeps in `poll` with nothing to read; no call is going on. -/
def Settled (state : State) : Prop :=
  state.pausing = none ∧ ∀ stage ∈ state.blocks,
    stage = .done ∨ ∃ id, stage = .polling id ∧ state.server.pipe id = 0

structure Correct (state : State) : Prop where
  oneLoop : ∀ (i j : Nat) (first second : Stage), state.blocks[i]? = some first →
    state.blocks[j]? = some second → first.looping = true → second.looping = true → i = j
  noBadCall : state.server.badCalls = []
  settledLoop : Settled state →
    ((∃ stage ∈ state.blocks, stage.looping = true) ↔ state.lastCall = some .start)

/-! ### The condition -/

/-- The block has begun and not ended. -/
def Stage.active : Stage → Bool
  | .posted | .done => false
  | _ => true

def Stage.willClearStop : Stage → Bool
  | .posted | .creating | .clearingStop => true
  | _ => false

/-- The block has tested or created the context and not destroyed it. -/
def Stage.holdsContext : Stage → Bool
  | .posted | .creating | .forgetting | .done => false
  | _ => true

def WriteStage.Calls (server : Server) : WriteStage → Prop
  | .callingBack | .cancelingService => True
  | .testing => server.canCancel = true

instance (server : Server) : ∀ write : WriteStage, Decidable (write.Calls server)
  | .callingBack | .cancelingService => inferInstanceAs (Decidable True)
  | .testing => inferInstanceAs (Decidable (_ = _))

/-- A block begins when every block begun before it has ended, and is given a context. A
pause sets `stop` when every block has cleared it, and one of them has a context that it
has not destroyed; and until the pause has called `lws_cancel_service`, it does not. A
write begins with a context that is not destroyed before its calls are made. -/
def Orderly (state : State) : Label → Prop
  | .advance block =>
      (state.blocks[block]? = some .posted →
        ∀ stage ∈ state.blocks, stage.active = false) ∧
      (state.blocks[block]? = some .destroying → state.pausing ≠ some .cancelingService ∧
        ∀ write ∈ state.writing, ¬write.Calls state.server)
  | .advancePause =>
      state.pausing = some .settingStop →
        (∀ stage ∈ state.blocks, stage.willClearStop = false) ∧
          ∃ stage ∈ state.blocks, stage.holdsContext = true
  | .failToCreate _ => False
  | .waitForWriteable => state.server.Live
  | _ => True

instance : ∀ (state : State) (label : Label), Decidable (Orderly state label)
  | _, .advance _ => inferInstanceAs (Decidable (_ ∧ _))
  | _, .advancePause => inferInstanceAs (Decidable (_ → _))
  | _, .failToCreate _ => inferInstanceAs (Decidable False)
  | state, .waitForWriteable => inferInstanceAs (Decidable state.server.Live)
  | _, .start | _, .pause | _, .advanceWrite | _, .onClientWritable =>
      inferInstanceAs (Decidable True)

/-! ### The invariant -/

def ContextOf (server : Server) : Stage → Prop
  | .posted | .done => True
  | .forgetting => ¬server.Live
  | .creating => server.context = none
  | .polling id => server.context = some id ∧ server.Live
  | _ => server.Live

def Numbered (server : Server) : Prop :=
  (∀ id ∈ server.destroyed, id < server.created) ∧
    ∀ id, server.context = some id → id < server.created

/-- A block about to poll, or polling, finds a byte. -/
def Woken (server : Server) : Stage → Prop
  | .calling => ∀ id, server.context = some id → 0 < server.pipe id
  | .polling id => 0 < server.pipe id
  | _ => True

/-- A block that will loop, or loops with nothing to stop it. -/
def Continues (server : Server) (stage : Stage) : Prop :=
  (stage.willClearStop = true ∨ server.stop = false) ∧ stage ≠ .destroying ∧
    stage ≠ .forgetting ∧ stage ≠ .done

/-- The last pause has set `stop`. -/
def Stopping (state : State) : Prop :=
  state.pausing = some .cancelingService ∨
    (state.pausing = none ∧ state.lastCall = some .pause)

structure Sound (state : State) : Prop where
  single : ∀ (i j : Nat) (first second : Stage), state.blocks[i]? = some first →
    state.blocks[j]? = some second → first.active = true → second.active = true → i = j
  idle : (∀ stage ∈ state.blocks, stage.active = false) → state.server.context = none
  context : ∀ stage ∈ state.blocks, ContextOf state.server stage
  numbered : Numbered state.server
  noBadCall : state.server.badCalls = []
  stopped : Stopping state → state.server.stop = true ∧
    ∀ stage ∈ state.blocks, stage.willClearStop = false
  writing : ∀ write ∈ state.writing, write.Calls state.server → state.server.Live
  held : state.pausing = some .cancelingService →
    ∃ stage ∈ state.blocks, stage.holdsContext = true
  woken : state.pausing = none → state.lastCall = some .pause →
    ∀ stage ∈ state.blocks, Woken state.server stage
  started : state.lastCall = some .start → state.pausing = none ∧
    ∃ stage, state.blocks.getLast? = some stage ∧ Continues state.server stage
  uncalled : state.lastCall = none → state.pausing = none ∧ state.blocks = []

theorem Sound.correct {state : State} (sound : Sound state) : Correct state := by
  have active : ∀ stage : Stage, stage.looping = true → stage.active = true := by
    intro stage looping
    cases stage <;> trivial
  constructor
  · intro i j first second atFirst atSecond firstLoops secondLoops
    exact sound.single i j first second atFirst atSecond (active first firstLoops)
      (active second secondLoops)
  · exact sound.noBadCall
  · rintro ⟨noPause, settled⟩
    constructor
    · rintro ⟨stage, member, looping⟩
      rcases settled stage member with rfl | ⟨id, rfl, empty⟩
      · cases looping
      · cases called : state.lastCall with
        | none =>
            rw [(sound.uncalled called).2] at member
            cases member
        | some call =>
            cases call with
            | start => rfl
            | pause =>
                have byte := sound.woken noPause called _ member
                unfold Woken at byte
                omega
    · intro called
      obtain ⟨_, stage, last, _, _, _, unfinished⟩ := sound.started called
      have member := List.mem_of_getLast? last
      rcases settled stage member with rfl | ⟨id, rfl, _⟩
      · exact absurd rfl unfinished
      · exact ⟨_, member, rfl⟩

/-! ### One statement of a block -/

section BlockStep

variable {server after : Server} {stage next : Stage}

private theorem call_live (live : server.Live) (made : LwsCall) : server.call made = server :=
  if_pos live

private theorem blockStep_numbered (numbered : Numbered server) (fits : ContextOf server stage)
    (taken : blockStep server stage = some (after, next)) : Numbered after := by
  cases stage with
  | creating =>
      cases taken
      constructor
      · intro id member
        exact Nat.lt_succ_of_lt (numbered.1 id member)
      · intro id same
        cases same
        exact Nat.lt_succ_self _
  | calling | arming =>
      cases taken
      rwa [call_live fits]
  | destroying =>
      cases taken
      simp only [Server.lws_context_destroy, call_live fits]
      constructor
      · intro id member
        rcases List.mem_append.mp member with current | earlier
        · exact numbered.2 id (Option.mem_toList.mp current)
        · exact numbered.1 id earlier
      · exact numbered.2
  | forgetting =>
      cases taken
      exact ⟨numbered.1, nofun⟩
  | done => cases taken
  | _ =>
      cases taken
      exact numbered

private theorem blockStep_badCalls (fits : ContextOf server stage)
    (taken : blockStep server stage = some (after, next)) :
    after.badCalls = server.badCalls := by
  cases stage with
  | calling | arming =>
      cases taken
      rw [call_live fits]
  | destroying =>
      cases taken
      simp only [Server.lws_context_destroy, call_live fits]
  | done => cases taken
  | _ =>
      cases taken
      rfl

private theorem blockStep_context (numbered : Numbered server) (fits : ContextOf server stage)
    (begins : stage = .posted → server.context = none)
    (taken : blockStep server stage = some (after, next)) : ContextOf after next := by
  cases stage with
  | posted =>
      cases taken
      rw [if_pos (begins rfl)]
      exact begins rfl
  | creating =>
      cases taken
      refine ⟨server.created, rfl, ?_⟩
      intro member
      exact Nat.lt_irrefl _ (numbered.1 _ member)
  | testing =>
      cases taken
      split <;> exact fits
  | calling =>
      cases taken
      rw [call_live fits]
      obtain ⟨id, member, fresh⟩ := fits
      have atContext : server.context = some id := member
      simp only [atContext, Option.map_some, Option.getD_some]
      exact ⟨atContext, id, member, fresh⟩
  | counting =>
      cases taken
      split <;> exact fits
  | polling id =>
      cases taken
      exact fits.2
  | arming =>
      cases taken
      rwa [call_live fits]
  | clearingStop | cancelingWrites | allowing =>
      cases taken
      exact fits
  | destroying =>
      cases taken
      simp only [Server.lws_context_destroy, call_live fits]
      rintro ⟨id, member, fresh⟩
      exact fresh (List.mem_append_left _ (Option.mem_toList.mpr member))
  | forgetting =>
      cases taken
      trivial
  | done => cases taken

theorem WriteStage.Calls.congr (same : after.canCancel = server.canCancel) {write : WriteStage}
    (calls : write.Calls after) : write.Calls server := by
  cases write with
  | testing => exact same.symm.trans calls
  | _ => trivial

private theorem blockStep_writing (numbered : Numbered server) (fits : ContextOf server stage)
    {write : WriteStage} (waits : write.Calls server → server.Live)
    (keeps : stage = .destroying → ¬write.Calls server)
    (taken : blockStep server stage = some (after, next)) (calls : write.Calls after) :
    after.Live := by
  cases stage with
  | creating =>
      cases taken
      have moved : blockStep server .creating = some (server.lws_create_context, .clearingStop) :=
        rfl
      exact blockStep_context numbered fits nofun moved
  | calling | arming =>
      cases taken
      rwa [call_live fits]
  | allowing =>
      cases taken
      exact fits
  | destroying =>
      have same : after.canCancel = server.canCancel := by
        cases taken
        simp only [Server.lws_context_destroy, call_live fits]
      exact absurd (calls.congr same) (keeps rfl)
  | forgetting =>
      cases taken
      exact absurd (waits (calls.congr rfl)) fits
  | done => cases taken
  | _ =>
      cases taken
      exact waits (calls.congr rfl)

private theorem blockStep_active (taken : blockStep server stage = some (after, next)) :
    next.active = true ∨ after.context = none := by
  cases stage with
  | forgetting =>
      cases taken
      exact .inr rfl
  | posted | testing | counting =>
      cases taken
      left
      split <;> rfl
  | calling =>
      cases taken
      left
      cases server.context <;> rfl
  | done => cases taken
  | _ =>
      cases taken
      exact .inl rfl

private theorem blockStep_stop (cleared : stage.willClearStop = false)
    (taken : blockStep server stage = some (after, next)) :
    after.stop = server.stop ∧ next.willClearStop = false := by
  cases stage with
  | posted | creating | clearingStop => cases cleared
  | testing | counting =>
      cases taken
      constructor
      · rfl
      · split <;> rfl
  | calling =>
      cases taken
      constructor
      · unfold Server.call
        split <;> rfl
      · cases server.context <;> rfl
  | arming =>
      cases taken
      constructor
      · unfold Server.call
        split <;> rfl
      · rfl
  | destroying =>
      cases taken
      constructor
      · simp only [Server.lws_context_destroy, Server.call]
        split <;> rfl
      · rfl
  | done => cases taken
  | _ =>
      cases taken
      exact ⟨rfl, rfl⟩

private theorem blockStep_holds (holds : stage.holdsContext = true) (keeps : stage ≠ .destroying)
    (taken : blockStep server stage = some (after, next)) : next.holdsContext = true := by
  cases stage with
  | posted | creating | forgetting | done => cases holds
  | destroying => exact absurd rfl keeps
  | testing | counting =>
      cases taken
      split <;> rfl
  | calling =>
      cases taken
      cases server.context <;> rfl
  | _ =>
      cases taken
      rfl

/-- A byte that waits for the next `poll` is read by that `poll` only; a block that
sees `stop` set polls no more. -/
theorem blockStep_woken (fits : ContextOf server stage) (stopped : server.stop = true)
    (cleared : stage.willClearStop = false) (woken : Woken server stage)
    (taken : blockStep server stage = some (after, next)) : Woken after next := by
  cases stage with
  | posted | creating | clearingStop => cases cleared
  | testing =>
      cases taken
      rw [if_pos stopped]
      trivial
  | calling =>
      cases taken
      rw [call_live fits]
      cases atContext : server.context with
      | none => trivial
      | some id => exact woken id atContext
  | counting =>
      cases taken
      split <;> trivial
  | done => cases taken
  | _ =>
      cases taken
      trivial

private theorem blockStep_continues (continues : Continues server stage)
    (taken : blockStep server stage = some (after, next)) : Continues after next := by
  obtain ⟨clear, notDestroying, notForgetting, notDone⟩ := continues
  cases stage with
  | posted =>
      cases taken
      split <;> exact ⟨.inl rfl, nofun, nofun, nofun⟩
  | creating =>
      cases taken
      exact ⟨.inl rfl, nofun, nofun, nofun⟩
  | clearingStop =>
      cases taken
      exact ⟨.inr rfl, nofun, nofun, nofun⟩
  | testing =>
      have running : server.stop = false := clear.resolve_left nofun
      cases taken
      rw [running]
      exact ⟨.inr running, nofun, nofun, nofun⟩
  | calling =>
      have running : server.stop = false := clear.resolve_left nofun
      have same := (blockStep_stop rfl taken).1
      cases taken
      cases server.context <;> exact ⟨.inr (same.trans running), nofun, nofun, nofun⟩
  | counting =>
      have running : server.stop = false := clear.resolve_left nofun
      cases taken
      split <;> exact ⟨.inr running, nofun, nofun, nofun⟩
  | destroying => exact absurd rfl notDestroying
  | forgetting => exact absurd rfl notForgetting
  | done => exact absurd rfl notDone
  | _ =>
      have running : server.stop = false := clear.resolve_left nofun
      have same := (blockStep_stop rfl taken).1
      cases taken
      exact ⟨.inr (same.trans running), nofun, nofun, nofun⟩

private theorem inactive_fits (inactive : stage.active = false) :
    ContextOf server stage ∧ Woken server stage := by
  cases stage with
  | posted | done => exact ⟨trivial, trivial⟩
  | _ => cases inactive

end BlockStep

/-! ### One step -/

private theorem mem_set_cases {blocks : List Stage} {block : Nat} {stage next : Stage}
    (member : stage ∈ blocks.set block next) :
    stage = next ∨ ∃ other, other ≠ block ∧ blocks[other]? = some stage := by
  obtain ⟨index, atIndex⟩ := List.mem_iff_getElem?.mp member
  rw [List.getElem?_set] at atIndex
  split at atIndex
  · split at atIndex
    · exact .inl (Option.some.inj atIndex).symm
    · cases atIndex
  · rename_i different
    exact .inr ⟨index, fun same => different same.symm, atIndex⟩

theorem Sound.others {state : State} (sound : Sound state) {block : Nat} {stage : Stage}
    (found : state.blocks[block]? = some stage) (unfinished : stage ≠ .done)
    (orderly : Orderly state (.advance block)) {other : Nat} {stage' : Stage}
    (different : other ≠ block) (atOther : state.blocks[other]? = some stage') :
    stage'.active = false := by
  by_cases active : stage.active = true
  · by_contra running
    have running : stage'.active = true := by simpa using running
    exact different (sound.single other block stage' stage atOther found running active)
  · have begins : stage = .posted := by
      cases stage <;> first | rfl | exact absurd rfl unfinished | exact absurd rfl active
    subst begins
    exact orderly.1 found stage' (List.mem_of_getElem? atOther)

theorem Sound.advance {state : State} (sound : Sound state) {block : Nat} {stage next : Stage}
    {after : Server} (found : state.blocks[block]? = some stage)
    (orderly : Orderly state (.advance block))
    (taken : blockStep state.server stage = some (after, next)) :
    Sound { state with server := after, blocks := state.blocks.set block next } := by
  have member : stage ∈ state.blocks := List.mem_of_getElem? found
  have unfinished : stage ≠ .done := by
    rintro rfl
    cases taken
  have others := @Sound.others state sound block stage found unfinished orderly
  have fits := sound.context stage member
  have inRange : block < state.blocks.length := (List.getElem?_eq_some_iff.mp found).1
  have nextMember : next ∈ state.blocks.set block next := List.mem_set inRange next
  constructor
  · intro i j first second atFirst atSecond firstActive secondActive
    simp only [List.getElem?_set] at atFirst atSecond
    have here : ∀ (index : Nat) (found' : Stage), found'.active = true →
        (if block = index then if block < state.blocks.length then some next else none
          else state.blocks[index]?) = some found' → index = block := by
      intro index found' active atIndex
      by_contra different
      rw [if_neg fun same => different same.symm] at atIndex
      rw [others different atIndex] at active
      cases active
    exact (here i first firstActive atFirst).trans (here j second secondActive atSecond).symm
  · intro idle
    rcases blockStep_active taken with active | none_left
    · rw [idle next nextMember] at active
      cases active
    · exact none_left
  · intro other otherMember
    rcases mem_set_cases otherMember with rfl | ⟨index, different, atIndex⟩
    · apply blockStep_context sound.numbered fits _ taken
      rintro rfl
      exact sound.idle (orderly.1 found)
    · exact (inactive_fits (others different atIndex)).1
  · exact blockStep_numbered sound.numbered fits taken
  · exact (blockStep_badCalls fits taken).trans sound.noBadCall
  · intro stopping
    obtain ⟨stopped, cleared⟩ := sound.stopped stopping
    obtain ⟨kept, stillCleared⟩ := blockStep_stop (cleared stage member) taken
    refine ⟨kept.trans stopped, ?_⟩
    intro other otherMember
    rcases mem_set_cases otherMember with rfl | ⟨index, _, atIndex⟩
    · exact stillCleared
    · exact cleared other (List.mem_of_getElem? atIndex)
  · intro write pending
    refine blockStep_writing sound.numbered fits (sound.writing write pending) ?_ taken
    rintro rfl
    exact (orderly.2 found).2 write pending
  · intro canceling
    obtain ⟨holder, holderMember, holds⟩ := sound.held canceling
    obtain ⟨index, atIndex⟩ := List.mem_iff_getElem?.mp holderMember
    by_cases same : index = block
    · subst same
      cases found.symm.trans atIndex
      refine ⟨next, nextMember, blockStep_holds holds ?_ taken⟩
      rintro rfl
      exact (orderly.2 found).1 canceling
    · refine ⟨holder, List.mem_iff_getElem?.mpr ⟨index, ?_⟩, holds⟩
      rwa [List.getElem?_set_ne fun equal => same equal.symm]
  · intro noPause paused other otherMember
    obtain ⟨stopped, cleared⟩ := sound.stopped (.inr ⟨noPause, paused⟩)
    rcases mem_set_cases otherMember with rfl | ⟨index, different, atIndex⟩
    · exact blockStep_woken fits stopped (cleared stage member)
        (sound.woken noPause paused stage member) taken
    · exact (inactive_fits (others different atIndex)).2
  · intro startedLast
    obtain ⟨noPause, last, atLast, continues⟩ := sound.started startedLast
    refine ⟨noPause, ?_⟩
    rw [List.getLast?_eq_getElem?] at atLast
    simp only [List.getLast?_eq_getElem?, List.length_set, List.getElem?_set]
    by_cases same : block = state.blocks.length - 1
    · rw [← same] at atLast
      cases found.symm.trans atLast
      rw [if_pos same, if_pos inRange]
      exact ⟨next, rfl, blockStep_continues continues taken⟩
    · rw [if_neg same]
      have waiting := others (fun equal => same equal.symm) atLast
      refine ⟨last, atLast, ?_⟩
      obtain ⟨_, _, _, notDone⟩ := continues
      cases last with
      | posted => exact ⟨.inl rfl, nofun, nofun, nofun⟩
      | done => exact absurd rfl notDone
      | _ => cases waiting
  · intro uncalled
    rw [(sound.uncalled uncalled).2] at member
    cases member

theorem ContextOf.congr {server after : Server} (context : after.context = server.context)
    (destroyed : after.destroyed = server.destroyed) {stage : Stage}
    (fits : ContextOf server stage) : ContextOf after stage := by
  have live : after.Live ↔ server.Live := by
    unfold Server.Live
    rw [context, destroyed]
  cases stage with
  | posted | done => trivial
  | forgetting => exact fun lives => fits (live.mp lives)
  | creating => exact context.trans fits
  | polling id => exact ⟨context.trans fits.1, live.mpr fits.2⟩
  | _ => exact live.mpr fits

theorem ContextOf.live {server : Server} {stage : Stage} (fits : ContextOf server stage)
    (holds : stage.holdsContext = true) : server.Live := by
  cases stage with
  | posted | creating | forgetting | done => cases holds
  | polling id => exact fits.2
  | _ => exact fits

theorem Sound.start {state : State} (sound : Sound state) (noPause : state.pausing = none) :
    Sound { state with blocks := state.blocks ++ [.posted], lastCall := some .start } := by
  have among : ∀ stage ∈ state.blocks ++ [Stage.posted], stage ∈ state.blocks ∨ stage = .posted := by
    intro stage member
    simpa using member
  constructor
  · intro i j first second atFirst atSecond firstActive secondActive
    have before : ∀ (index : Nat) (stage : Stage), stage.active = true →
        (state.blocks ++ [Stage.posted])[index]? = some stage →
          state.blocks[index]? = some stage := by
      intro index stage active atIndex
      by_cases inRange : index < state.blocks.length
      · rwa [List.getElem?_append_left inRange] at atIndex
      · rw [List.getElem?_append_right (Nat.le_of_not_lt inRange)] at atIndex
        cases List.mem_singleton.mp (List.mem_of_getElem? atIndex)
        cases active
    exact sound.single i j first second (before i first firstActive atFirst)
      (before j second secondActive atSecond) firstActive secondActive
  · intro idle
    exact sound.idle fun stage member => idle stage (List.mem_append_left _ member)
  · intro stage member
    rcases among stage member with earlier | rfl
    · exact sound.context stage earlier
    · trivial
  · exact sound.numbered
  · exact sound.noBadCall
  · rintro (canceling | ⟨_, paused⟩)
    · rw [noPause] at canceling
      cases canceling
    · cases paused
  · exact sound.writing
  · intro canceling
    rw [noPause] at canceling
    cases canceling
  · intro _ paused
    cases paused
  · intro _
    exact ⟨noPause, .posted, by simp, .inl rfl, nofun, nofun, nofun⟩
  · intro uncalled
    cases uncalled

theorem Woken.mono {server after : Server} (context : after.context = server.context)
    (pipe : ∀ id, server.pipe id ≤ after.pipe id) {stage : Stage} (woken : Woken server stage) :
    Woken after stage := by
  cases stage with
  | calling => exact fun id same => Nat.lt_of_lt_of_le (woken id (context.symm.trans same)) (pipe id)
  | polling id => exact Nat.lt_of_lt_of_le woken (pipe id)
  | _ => trivial

theorem Continues.congr {server after : Server} (stop : after.stop = server.stop) {stage : Stage}
    (continues : Continues server stage) : Continues after stage := by
  rw [Continues, stop]
  exact continues

theorem Sound.touch {state : State} (sound : Sound state) {after : Server}
    {writing : Option WriteStage} (context : after.context = state.server.context)
    (created : after.created = state.server.created)
    (destroyed : after.destroyed = state.server.destroyed) (stop : after.stop = state.server.stop)
    (badCalls : after.badCalls = state.server.badCalls)
    (pipe : ∀ id, state.server.pipe id ≤ after.pipe id)
    (writes : ∀ write ∈ writing, write.Calls after → after.Live) :
    Sound { state with server := after, writing := writing } :=
  { single := sound.single
    idle := fun idle => context.trans (sound.idle idle)
    context := fun stage member => (sound.context stage member).congr context destroyed
    numbered := by
      rw [Numbered, context, created, destroyed]
      exact sound.numbered
    noBadCall := badCalls.trans sound.noBadCall
    stopped := by
      intro stopping
      obtain ⟨stopped, cleared⟩ := sound.stopped stopping
      exact ⟨stop.trans stopped, cleared⟩
    writing := writes
    held := sound.held
    woken := fun noPause paused stage member =>
      (sound.woken noPause paused stage member).mono context pipe
    started := by
      intro called
      obtain ⟨noPause, stage, last, continues⟩ := sound.started called
      exact ⟨noPause, stage, last, continues.congr stop⟩
    uncalled := sound.uncalled }

theorem Sound.cancelAllWrites {state : State} (sound : Sound state) (pending : Nat) :
    Sound
      { state with
        server := { state.server with clientWriteableCallbacks := pending } } :=
  sound.touch rfl rfl rfl rfl rfl (fun _ => Nat.le_refl _)
    fun write waits calls => sound.writing write waits (calls.congr rfl)

private theorem canceled_of_live {server : Server} (live : server.Live) :
    server.lws_cancel_service.context = server.context ∧
      server.lws_cancel_service.created = server.created ∧
      server.lws_cancel_service.destroyed = server.destroyed ∧
      server.lws_cancel_service.stop = server.stop ∧
      server.lws_cancel_service.badCalls = server.badCalls ∧
      (∀ id, server.pipe id ≤ server.lws_cancel_service.pipe id) ∧
      ∀ id, server.context = some id → 0 < server.lws_cancel_service.pipe id := by
  have ⟨id, atContext, _⟩ := live
  have canceled : server.lws_cancel_service =
      { server with
        pipe := fun other => if other = id then server.pipe id + 1 else server.pipe other } := by
    simp only [Server.lws_cancel_service, call_live live, Option.mem_def.mp atContext]
  rw [canceled]
  refine ⟨rfl, rfl, rfl, rfl, rfl, ?_, ?_⟩
  · intro other
    dsimp only
    split
    · rename_i same
      rw [same]
      exact Nat.le_succ _
    · exact Nat.le_refl _
  · intro other same
    cases (Option.mem_def.mp atContext).symm.trans same
    simp

theorem Sound.pause {state : State} (sound : Sound state) :
    Sound { state with pausing := some .cancelingWrites, lastCall := some .pause } :=
  { sound with
    stopped := by
      rintro (canceling | ⟨absent, _⟩)
      · cases canceling
      · cases absent
    held := nofun
    woken := nofun
    started := nofun
    uncalled := nofun }

theorem Sound.pausing_call {state : State} (sound : Sound state) {stage : PauseStage}
    (pausing : state.pausing = some stage) : state.lastCall = some .pause := by
  cases called : state.lastCall with
  | none =>
      rw [(sound.uncalled called).1] at pausing
      cases pausing
  | some call =>
      cases call with
      | pause => rfl
      | start =>
          rw [(sound.started called).1] at pausing
          cases pausing

theorem Sound.advancePause {state : State} (sound : Sound state)
    (orderly : Orderly state .advancePause) {stage : PauseStage}
    (pausing : state.pausing = some stage) :
    Sound
      { state with
        server := (pauseStep state.server stage).1
        pausing := (pauseStep state.server stage).2 } := by
  have paused := sound.pausing_call pausing
  have notStarted : ¬state.lastCall = some .start := by simp [paused]
  have called : ¬state.lastCall = none := by simp [paused]
  cases stage with
  | cancelingWrites =>
      exact
        { sound.cancelAllWrites 0 with
          stopped := by
            rintro (canceling | ⟨absent, _⟩)
            · cases canceling
            · cases absent
          held := nofun
          woken := nofun
          started := fun started => absurd started notStarted
          uncalled := fun uncalled => absurd uncalled called }
  | settingStop =>
      obtain ⟨cleared, holder⟩ := orderly pausing
      exact
        { sound with
          context := fun stage member => (sound.context stage member).congr rfl rfl
          writing := fun write waits calls => sound.writing write waits (calls.congr rfl)
          stopped := fun _ => ⟨rfl, cleared⟩
          held := fun _ => holder
          woken := nofun
          started := fun started => absurd started notStarted
          uncalled := fun uncalled => absurd uncalled called }
  | cancelingService =>
      obtain ⟨stopped, cleared⟩ := sound.stopped (.inl pausing)
      obtain ⟨holder, member, holds⟩ := sound.held pausing
      have live := (sound.context holder member).live holds
      obtain ⟨context, created, destroyed, stop, badCalls, pipe, byte⟩ :=
        canceled_of_live live
      have stays : state.server.lws_cancel_service.Live := by
        rw [Server.Live, context, destroyed]
        exact live
      have waits : ∀ write ∈ state.writing, write.Calls state.server.lws_cancel_service →
          state.server.lws_cancel_service.Live := fun _ _ _ => stays
      have touched := sound.touch context created destroyed stop badCalls pipe waits
      exact
        { touched with
          stopped := fun _ => ⟨stop.trans stopped, cleared⟩
          held := nofun
          woken := by
            intro _ _ stage member
            cases stage with
            | calling => exact fun id same => byte id (context.symm.trans same)
            | polling id => exact byte id (sound.context _ member).1
            | _ => trivial
          started := fun started => absurd started notStarted
          uncalled := fun uncalled => absurd uncalled called }

theorem Sound.advanceWrite {state : State} (sound : Sound state) {write : WriteStage}
    (writing : state.writing = some write) :
    Sound
      { state with
        server := (writeStep state.server write).1
        writing := (writeStep state.server write).2 } := by
  have waits := sound.writing write writing
  cases write with
  | callingBack =>
      have live := waits trivial
      simp only [writeStep, call_live live]
      exact sound.touch rfl rfl rfl rfl rfl (fun _ => Nat.le_refl _) fun _ _ _ => live
  | testing =>
      rw [writeStep]
      split
      · rename_i canCancel
        have live := waits canCancel
        exact sound.touch rfl rfl rfl rfl rfl (fun _ => Nat.le_refl _) fun _ _ _ => live
      · exact sound.touch rfl rfl rfl rfl rfl (fun _ => Nat.le_refl _) nofun
  | cancelingService =>
      obtain ⟨context, created, destroyed, stop, badCalls, pipe, _⟩ :=
        canceled_of_live (waits trivial)
      exact sound.touch context created destroyed stop badCalls pipe nofun

theorem step_sound {state next : State} {label : Label} (sound : Sound state)
    (orderly : Orderly state label) (taken : step state label = some next) : Sound next := by
  cases label with
  | start =>
      simp only [step, Option.ite_none_right_eq_some, Option.some.injEq] at taken
      obtain ⟨noPause, rfl⟩ := taken
      exact sound.start noPause
  | pause =>
      simp only [step, Option.ite_none_right_eq_some, Option.some.injEq] at taken
      obtain ⟨_, rfl⟩ := taken
      exact sound.pause
  | advancePause =>
      obtain ⟨stage, pausing, taken⟩ := Option.bind_eq_some_iff.mp taken
      simp only [Option.ite_none_left_eq_some, Option.some.injEq] at taken
      obtain ⟨_, rfl⟩ := taken
      exact sound.advancePause orderly pausing
  | advance block =>
      obtain ⟨stage, found, taken⟩ := Option.bind_eq_some_iff.mp taken
      obtain ⟨_, taken⟩ := Option.ite_none_left_eq_some.mp taken
      obtain ⟨⟨after, next⟩, stepped, taken⟩ := Option.bind_eq_some_iff.mp taken
      cases taken
      exact sound.advance found orderly stepped
  | failToCreate block => exact orderly.elim
  | waitForWriteable =>
      simp only [step, Option.ite_none_right_eq_some, Option.some.injEq] at taken
      obtain ⟨_, rfl⟩ := taken
      have live : state.server.Live := orderly
      exact sound.touch rfl rfl rfl rfl rfl (fun _ => Nat.le_refl _) fun _ _ _ => live
  | advanceWrite =>
      obtain ⟨write, writing, rfl⟩ := Option.map_eq_some_iff.mp taken
      exact sound.advanceWrite writing
  | onClientWritable =>
      simp only [step, Option.ite_none_right_eq_some, Option.some.injEq] at taken
      obtain ⟨_, rfl⟩ := taken
      exact sound.cancelAllWrites _

theorem initial_sound : Sound initial :=
  { single := nofun
    idle := fun _ => rfl
    context := nofun
    numbered := ⟨nofun, nofun⟩
    noBadCall := rfl
    stopped := by
      rintro (canceling | ⟨_, paused⟩)
      · cases canceling
      · cases paused
    writing := nofun
    held := nofun
    woken := nofun
    started := nofun
    uncalled := fun _ => ⟨rfl, rfl⟩ }

/-- In every run whose steps are orderly there is at most one loop, every call finds a
live context, and a settled server loops exactly when it was last told to. -/
theorem correct_of_orderly {state : State} (reached : machine.ReachableWhen Orderly state) :
    Correct state := by
  apply Sound.correct
  refine reached.invariant Sound ?_ ?_
  · rintro state rfl
    exact initial_sound
  · intro before label next _ sound orderly taken
    exact step_sound sound orderly taken

/-- Two writes are made while the loop waits, then the application goes to the background
and comes back. -/
def backgroundAndBack : List Label :=
  [.start, .advance 0, .advance 0, .advance 0, .advance 0, .advance 0, .advance 0,
    .waitForWriteable, .advanceWrite, .advanceWrite,
    .advance 0, .advance 0, .advance 0, .advance 0, .advance 0, .advance 0, .onClientWritable,
    .waitForWriteable, .advanceWrite, .advanceWrite, .advanceWrite,
    .pause, .advancePause, .advancePause, .advancePause, .start,
    .advance 0, .advance 0, .advance 0, .advance 0, .advance 0, .advance 0,
    .advance 1, .advance 1, .advance 1, .advance 1, .advance 1, .advance 1]

theorem correct_of_backgroundAndBack :
    ∃ state, machine.runWhen Orderly initial backgroundAndBack = some state ∧
      state.blocks = [.done, .polling 1] ∧ Correct state := by
  obtain ⟨state, replayed, blocks⟩ := (Option.any_eq_true _ _).mp
    (show (machine.runWhen Orderly initial backgroundAndBack).any
        (fun state => decide (state.blocks = [.done, .polling 1])) = true by decide)
  exact ⟨state, replayed, of_decide_eq_true blocks,
    correct_of_orderly (.runWhen backgroundAndBack (.initial rfl) replayed)⟩

theorem badCall_of_waitForWriteable {state next last : State} (dead : ¬state.server.Live)
    (began : step state .waitForWriteable = some next)
    (called : step next .advanceWrite = some last) :
    .callbackOnWritable ∈ last.server.badCalls := by
  simp only [step, Option.ite_none_right_eq_some, Option.some.injEq] at began
  obtain ⟨_, rfl⟩ := began
  cases called
  have none : ¬Server.Live
      { state.server with
        clientWriteableCallbacks := state.server.clientWriteableCallbacks + 1 } := dead
  simp only [writeStep, Server.call, if_neg none]
  exact List.mem_append_right _ List.mem_cons_self

/-- The application goes to the background before the block of `start` begins. -/
def earlyPause : List Label :=
  [.start, .pause, .advancePause, .advancePause, .advancePause]

theorem not_correct_of_earlyPause : ¬∀ state, machine.Reachable state → Correct state := by
  intro always
  have started : machine.initial initial := rfl
  obtain ⟨state, reached, called⟩ := Machine.exists_reachable_of_run earlyPause
    (fun state : State => decide (state.server.badCalls = [.cancelService])) started (by decide)
  have none_called := (always state reached).noBadCall
  rw [of_decide_eq_true called] at none_called
  cases none_called

end Lifecycle
end WebSocketServer
end JSCameraKit

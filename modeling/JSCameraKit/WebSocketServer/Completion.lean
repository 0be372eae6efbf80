import JSCameraKit.WebSocketServer.Orphans

set_option autoImplicit false

/-! The completion of a write call. The block of each entry leaves the dispatch group
of its call when it is settled, and the last leave lets the completion block run;
except that the block of `writeString:` answers nil by running the completion block
itself, and leaves nothing. -/

namespace JSCameraKit
namespace WebSocketServer
namespace Broadcast

open KeyedQueue (ofKey others oldest withoutOldest)

section Counting

variable {Wsi Payload : Type}

/-! ### What a call waits for -/

def Stage.isFinished : Stage Wsi → Bool
  | .finished => true
  | _ => false

def Stage.isYielded : Stage Wsi → Bool
  | .yielded _ _ _ _ => true
  | _ => false

def pendingOf (entries : List (Entry Payload × Wsi)) (number : Nat) : Nat :=
  entries.countP fun entry => entry.1.call = number

/-- The call is nested in the given one, and its block has not run. -/
def isOpenNested (number : Nat) (call : Call Wsi Payload) : Bool :=
  decide (call.kind = .toSocket number) && !call.stage.isFinished

def openNested (calls : List (Call Wsi Payload)) (number : Nat) : Nat :=
  calls.countP (isOpenNested number)

/-- The entries that a call of `writeString:` answered without leaving its group. -/
def Call.unanswered (call : Call Wsi Payload) : Nat :=
  match call.kind with
  | .string _ => call.cancelled
  | _ => 0

/-- The leaves that the group of a call still waits for, those never made included. -/
def outstanding (pending nested : Nat) (call : Call Wsi Payload) : Nat :=
  if call.kind.enqueues then pending + call.unanswered else nested

/-- A call with so many entries pending and so many nested calls not finished. -/
structure Counted (pending nested : Nat) (call : Call Wsi Payload) : Prop where
  balance : call.entered =
    call.left + outstanding pending nested call + call.stage.isYielded.toNat
  ran : call.ran = call.stage.isFinished.toNat + call.unanswered
  early : call.stage = .created ∨ call.stage = .starting → call.entered = 0
  finished : call.stage = .finished → call.left = call.entered

structure Counts (state : State Wsi Payload) : Prop where
  /-- Every entry was enqueued by a call that enqueues. -/
  entries : ∀ entry ∈ state.queue.entries, ∃ kind : Kind,
    (state.calls.map Call.kind)[entry.1.call]? = some kind ∧ kind.enqueues = true
  parents : ∀ parent, .toSocket parent ∈ state.calls.map Call.kind →
    ∃ hasBlock, (state.calls.map Call.kind)[parent]? = some (.data hasBlock)
  counted : ∀ number call, state.calls[number]? = some call →
    Counted (pendingOf state.queue.entries number) (openNested state.calls number) call

/-! ### Settling entries -/

/-- The effect of settling a number of entries of one call. -/
def Call.settleTimes (call : Call Wsi Payload) (wsi : Option Wsi) : Nat → Call Wsi Payload
  | 0 => call
  | times + 1 => (call.settle wsi).settleTimes wsi times

private theorem settleAll_getElem? (calls : List (Call Wsi Payload))
    (removed : List (Entry Payload × Wsi)) (wsi : Option Wsi) (number : Nat) :
    (settleAll calls (removed.map fun entry => (entry.1, wsi)))[number]? =
      calls[number]?.map fun call => call.settleTimes wsi (pendingOf removed number) := by
  induction removed generalizing calls with
  | nil => simp [settleAll, pendingOf, Call.settleTimes]
  | cons entry rest ih =>
      have unfolded := ih (calls.modify entry.1.call fun call => call.settle wsi)
      rw [settleAll] at unfolded ⊢
      rw [List.map_cons, List.foldl_cons, unfolded, List.getElem?_modify]
      cases calls[number]? with
      | none => rfl
      | some call =>
          by_cases same : entry.1.call = number
          · simp [same, pendingOf, Call.settleTimes]
          · simp [same, pendingOf]

private theorem settleTimes_walk (call : Call Wsi Payload) (wsi : Option Wsi) (times : Nat) :
    (call.settleTimes wsi times).walk = call.walk := by
  induction times generalizing call with
  | zero => rfl
  | succ times ih => rw [Call.settleTimes, ih, settle_walk]

/-- An entry settled is a leave made or one owed for good; in the second case the
completion block has run. -/
structure Settles (call after : Call Wsi Payload) (times : Nat) : Prop where
  entered : after.entered = call.entered
  left : call.left ≤ after.left
  accounted : after.left + after.unanswered = call.left + call.unanswered + times
  ran : after.ran + call.unanswered = call.ran + after.unanswered

private theorem settle_settles (call : Call Wsi Payload) (wsi : Option Wsi) :
    Settles call (call.settle wsi) 1 := by
  obtain ⟨kind, payload, stage, entered, left, ran, cancelled⟩ := call
  cases kind <;> cases wsi <;> constructor <;> simp [Call.settle, Call.unanswered] <;> omega

private theorem settleTimes_settles (call : Call Wsi Payload) (wsi : Option Wsi) (times : Nat) :
    Settles call (call.settleTimes wsi times) times := by
  induction times generalizing call with
  | zero => exact ⟨rfl, Nat.le_refl _, rfl, rfl⟩
  | succ times ih =>
      obtain ⟨entered, left, accounted, ran⟩ := settle_settles call wsi
      obtain ⟨laterEntered, laterLeft, laterAccounted, laterRan⟩ := ih (call.settle wsi)
      rw [Call.settleTimes]
      constructor
      · exact laterEntered.trans entered
      · exact Nat.le_trans left laterLeft
      · omega
      · omega

theorem Counted.settle {times kept nested : Nat} {call : Call Wsi Payload}
    (counted : Counted (times + kept) nested call) (wsi : Option Wsi)
    (enqueues : 0 < times → call.kind.enqueues = true) :
    Counted kept nested (call.settleTimes wsi times) := by
  obtain ⟨balance, ran, early, finished⟩ := counted
  obtain ⟨entered, left, accounted, answered⟩ := settleTimes_settles call wsi times
  obtain ⟨kind, stage⟩ := Prod.mk.inj (settleTimes_walk call wsi times)
  have total : (call.settleTimes wsi times).entered = (call.settleTimes wsi times).left +
      outstanding kept nested (call.settleTimes wsi times) + call.stage.isYielded.toNat := by
    unfold outstanding at balance ⊢
    rw [kind, entered]
    by_cases own : call.kind.enqueues = true
    · rw [if_pos own] at balance ⊢
      omega
    · have untouched : times = 0 := Nat.eq_zero_of_not_pos fun some => own (enqueues some)
      subst untouched
      rwa [if_neg own] at balance ⊢
  constructor
  · rw [stage]
    exact total
  · rw [stage]
    omega
  · rw [stage, entered]
    exact early
  · rw [stage]
    intro done
    have ended := finished done
    omega

private theorem kind_getElem? {calls : List (Call Wsi Payload)} {number : Nat}
    {call : Call Wsi Payload}
    (found : calls[number]? = some call) : (calls.map Call.kind)[number]? = some call.kind := by
  rw [List.getElem?_map, found]
  rfl

private theorem pendingOf_eq_zero {entries : List (Entry Payload × Wsi)} {number : Nat} :
    pendingOf entries number = 0 ↔ ∀ entry ∈ entries, entry.1.call ≠ number := by
  simp [pendingOf, List.countP_eq_zero]

private theorem pendingOf_pos {entries : List (Entry Payload × Wsi)} {number : Nat}
    (some_pending : 0 < pendingOf entries number) : ∃ entry ∈ entries, entry.1.call = number := by
  simpa [pendingOf, List.countP_pos_iff] using some_pending

private theorem kinds_of_walks {calls after : List (Call Wsi Payload)}
    (same : after.map Call.walk = calls.map Call.walk) :
    after.map Call.kind = calls.map Call.kind := by
  have kinds := congrArg (List.map Prod.fst) same
  simpa [List.map_map, Function.comp_def, Call.walk] using kinds

private theorem openNested_of_walks {calls after : List (Call Wsi Payload)}
    (same : after.map Call.walk = calls.map Call.walk) (number : Nat) :
    openNested after number = openNested calls number := by
  have byWalk : ∀ calls : List (Call Wsi Payload), openNested calls number =
      (calls.map Call.walk).countP fun walk =>
        decide (walk.1 = .toSocket number) && !walk.2.isFinished := by
    intro calls
    rw [List.countP_map]
    rfl
  rw [byWalk, byWalk, same]

/-- An operation that settles some entries and keeps the others keeps the counts. -/
theorem Counts.settle {state next : State Wsi Payload} (counts : Counts state)
    {removed : List (Entry Payload × Wsi)} (wsi : Option Wsi)
    (split : (removed ++ next.queue.entries).Perm state.queue.entries)
    (calls : next.calls = settleAll state.calls (removed.map fun entry => (entry.1, wsi))) :
    Counts next := by
  have walks : next.calls.map Call.walk = state.calls.map Call.walk := by
    rw [calls]
    exact settleAll_walk state.calls _
  have kinds := kinds_of_walks walks
  constructor
  · intro entry member
    rw [kinds]
    exact counts.entries entry (split.subset (List.mem_append_right _ member))
  · rw [kinds]
    exact counts.parents
  · intro number call found
    rw [calls, settleAll_getElem?] at found
    obtain ⟨before, foundBefore, rfl⟩ := Option.map_eq_some_iff.mp found
    have counted := counts.counted number before foundBefore
    rw [pendingOf, ← split.countP_eq, List.countP_append] at counted
    rw [openNested_of_walks walks]
    apply counted.settle wsi
    intro some_settled
    obtain ⟨entry, member, same⟩ := pendingOf_pos some_settled
    obtain ⟨kind, foundKind, enqueues⟩ :=
      counts.entries entry (split.subset (List.mem_append_left _ member))
    rw [same, kind_getElem? foundBefore] at foundKind
    cases foundKind
    exact enqueues

/-! ### Changing one call -/

private theorem openNested_modify {calls : List (Call Wsi Payload)} {number : Nat}
    {call : Call Wsi Payload} (found : calls[number]? = some call)
    (change : Call Wsi Payload → Call Wsi Payload) (outer : Nat) :
    openNested (calls.modify number change) outer + (isOpenNested outer call).toNat =
      openNested calls outer + (isOpenNested outer (change call)).toNat := by
  unfold openNested
  induction calls generalizing number with
  | nil => cases found
  | cons head rest ih =>
      cases number with
      | zero =>
          cases found
          simp only [List.modify_zero_cons, List.countP_cons]
          cases isOpenNested outer call <;> cases isOpenNested outer (change call) <;> simp
      | succ number =>
          have later := ih found
          simp only [List.modify_succ_cons, List.countP_cons]
          omega

/-- A statement that finishes no nested call and leaves the entries of others alone. -/
theorem Counts.change {state next : State Wsi Payload} (counts : Counts state) {number : Nat}
    {call : Call Wsi Payload} (found : state.calls[number]? = some call)
    {change : Call Wsi Payload → Call Wsi Payload}
    (calls : next.calls = state.calls.modify number change)
    (kind : ∀ call, (change call).kind = call.kind)
    (nested : ∀ outer, isOpenNested outer (change call) = isOpenNested outer call)
    (entries : ∀ entry ∈ next.queue.entries,
      entry ∈ state.queue.entries ∨ (entry.1.call = number ∧ call.kind.enqueues = true))
    (others : ∀ other, other ≠ number →
      pendingOf next.queue.entries other = pendingOf state.queue.entries other)
    (counted : Counted (pendingOf state.queue.entries number) (openNested state.calls number)
        call →
      Counted (pendingOf next.queue.entries number) (openNested state.calls number)
        (change call)) :
    Counts next := by
  have kinds : next.calls.map Call.kind = state.calls.map Call.kind := by
    rw [calls]
    exact modify_map state.calls number kind
  have nested : ∀ outer, openNested next.calls outer = openNested state.calls outer := by
    intro outer
    have modified := openNested_modify found change outer
    rw [nested] at modified
    rw [calls]
    omega
  constructor
  · intro entry member
    rw [kinds]
    rcases entries entry member with earlier | ⟨own, enqueues⟩
    · exact counts.entries entry earlier
    · exact ⟨call.kind, own ▸ kind_getElem? found, enqueues⟩
  · rw [kinds]
    exact counts.parents
  · intro index after foundAfter
    rw [calls, List.getElem?_modify] at foundAfter
    obtain ⟨before, foundBefore, changed⟩ := Option.map_eq_some_iff.mp foundAfter
    rw [nested]
    by_cases same : number = index
    · subst same
      cases found.symm.trans foundBefore
      rw [if_pos rfl] at changed
      rw [← changed]
      exact counted (counts.counted number call found)
    · rw [if_neg same] at changed
      rw [← changed, others index fun equal => same equal.symm]
      exact counts.counted index before foundBefore

private theorem openNested_concat (calls : List (Call Wsi Payload)) (kind : Kind)
    (payload : Payload)
    (outer : Nat) :
    openNested (calls ++ [newCall kind payload]) outer =
      openNested calls outer + (decide (kind = .toSocket outer)).toNat := by
  unfold openNested
  rw [List.countP_append]
  by_cases nested : kind = .toSocket outer <;>
    simp [isOpenNested, newCall, Stage.isFinished, nested]

/-- A call that begins waits for nothing, and is one more to wait for by its parent. -/
theorem Counts.extend {state next : State Wsi Payload} (counts : Counts state)
    {calls : List (Call Wsi Payload)} {kind : Kind} {payload : Payload}
    (queue : next.queue = state.queue) (nextCalls : next.calls = calls ++ [newCall kind payload])
    (kinds : calls.map Call.kind = state.calls.map Call.kind)
    (parent : ∀ outer, kind = .toSocket outer →
      ∃ hasBlock, (state.calls.map Call.kind)[outer]? = some (.data hasBlock))
    (counted : ∀ number call, calls[number]? = some call →
      Counted (pendingOf state.queue.entries number)
        (openNested calls number + (decide (kind = .toSocket number)).toNat) call) :
    Counts next := by
  have length : (state.calls.map Call.kind).length = calls.length := by
    rw [← kinds, List.length_map]
  have nextKinds : next.calls.map Call.kind = state.calls.map Call.kind ++ [kind] := by
    rw [nextCalls, List.map_append, kinds]
    rfl
  have kept : ∀ (index : Nat) (other : Kind), (state.calls.map Call.kind)[index]? = some other →
      (next.calls.map Call.kind)[index]? = some other := by
    intro index other found
    rw [nextKinds, List.getElem?_append_left (List.getElem?_eq_some_iff.mp found).1]
    exact found
  constructor
  · rw [queue]
    intro entry member
    obtain ⟨other, found, enqueues⟩ := counts.entries entry member
    exact ⟨other, kept _ other found, enqueues⟩
  · intro outer member
    rw [nextKinds, List.mem_append, List.mem_singleton] at member
    rcases member with earlier | rfl
    · obtain ⟨hasBlock, found⟩ := counts.parents outer earlier
      exact ⟨hasBlock, kept _ _ found⟩
    · obtain ⟨hasBlock, found⟩ := parent outer rfl
      exact ⟨hasBlock, kept _ _ found⟩
  · intro number call found
    rw [queue, nextCalls, openNested_concat]
    rw [nextCalls] at found
    by_cases inRange : number < calls.length
    · rw [List.getElem?_append_left inRange] at found
      exact counted number call found
    · rw [List.getElem?_append_right (Nat.le_of_not_lt inRange)] at found
      cases List.mem_singleton.mp (List.mem_of_getElem? found)
      have noEntry : pendingOf state.queue.entries number = 0 := by
        rw [pendingOf_eq_zero]
        rintro entry member rfl
        obtain ⟨other, foundKind, _⟩ := counts.entries entry member
        have bound := (List.getElem?_eq_some_iff.mp foundKind).1
        omega
      have noNested : ∀ other ∈ calls, other.kind ≠ .toSocket number := by
        intro other member nested
        have listed : .toSocket number ∈ state.calls.map Call.kind := by
          rw [← kinds, ← nested]
          exact List.mem_map_of_mem member
        obtain ⟨hasBlock, foundKind⟩ := counts.parents number listed
        have bound := (List.getElem?_eq_some_iff.mp foundKind).1
        omega
      have notItself : kind ≠ .toSocket number := by
        intro nested
        obtain ⟨hasBlock, foundKind⟩ := parent number nested
        have bound := (List.getElem?_eq_some_iff.mp foundKind).1
        omega
      have noOpen : openNested calls number = 0 := by
        rw [openNested, List.countP_eq_zero]
        intro other member
        simp [isOpenNested, noNested other member]
      rw [noEntry, noOpen]
      constructor
      · cases kind <;> simp_all [newCall, outstanding, Call.unanswered, Stage.isYielded]
      · cases kind <;> rfl
      · exact fun _ => rfl
      · exact fun _ => rfl

theorem Counts.call {state : State Wsi Payload} (counts : Counts state) {kind : Kind}
    (payload : Payload) (outermost : ∀ outer, kind ≠ .toSocket outer) :
    Counts { state with calls := state.calls ++ [newCall kind payload] } := by
  refine counts.extend rfl rfl rfl ?_ ?_
  · intro outer nested
    exact absurd nested (outermost outer)
  · intro number call found
    have counted := counts.counted number call found
    simpa [outermost number] using counted

/-! ### The completion block -/

def Call.finish (call : Call Wsi Payload) : Call Wsi Payload :=
  { call with ran := call.ran + 1, stage := .finished }

def Call.leave (call : Call Wsi Payload) : Call Wsi Payload :=
  { call with left := call.left + 1 }

theorem Counted.finish {pending nested : Nat} {call : Call Wsi Payload}
    (counted : Counted pending nested call)
    (idle : call.stage.isYielded = false ∧ call.stage.isFinished = false)
    (balanced : call.left = call.entered) : Counted pending nested call.finish := by
  obtain ⟨balance, ran, _, _⟩ := counted
  constructor
  · rw [idle.1] at balance
    exact balance
  · rw [idle.2] at ran
    have once : call.ran = call.unanswered := by simpa using ran
    have kept : call.finish.unanswered = call.unanswered := rfl
    simp only [Call.finish, Stage.isFinished, Bool.toNat_true]
    unfold Call.finish at kept
    omega
  · rintro (stage | stage) <;> cases stage
  · exact fun _ => balanced

theorem Counted.leave {pending nested : Nat} {call : Call Wsi Payload}
    (counted : Counted pending (nested + 1) call) (outer : call.kind.enqueues = false) :
    Counted pending nested call.leave := by
  obtain ⟨balance, ran, early, finished⟩ := counted
  simp only [outstanding, outer, Bool.false_eq_true, if_false] at balance
  constructor
  · simp only [outstanding, Call.leave, outer, Bool.false_eq_true, if_false]
    omega
  · exact ran
  · exact early
  · intro done
    have ended := finished done
    omega

private theorem isOpenNested_finish (outer : Nat) (call : Call Wsi Payload) :
    isOpenNested outer call.finish = false := by
  simp [isOpenNested, Call.finish, Stage.isFinished]

private theorem runBlock_nested {calls : List (Call Wsi Payload)} {number parent : Nat}
    {call : Call Wsi Payload} (found : calls[number]? = some call)
    (nested : call.kind = .toSocket parent) :
    runBlock calls number = (calls.modify number Call.finish).modify parent Call.leave := by
  unfold runBlock
  rw [found, Option.map_some, nested]
  rfl

private theorem runBlock_outermost {calls : List (Call Wsi Payload)} {number : Nat}
    {call : Call Wsi Payload} (found : calls[number]? = some call)
    (outermost : ∀ parent, call.kind ≠ .toSocket parent) :
    runBlock calls number = calls.modify number Call.finish := by
  unfold runBlock
  rw [found, Option.map_some]
  dsimp only
  split
  · rename_i parent nested
    exact absurd (Option.some.inj nested) (outermost parent)
  · rfl

theorem Counts.finishNested {state : State Wsi Payload} (counts : Counts state)
    {number parent : Nat} {call : Call Wsi Payload} (found : state.calls[number]? = some call)
    (nested : call.kind = .toSocket parent)
    (idle : call.stage.isYielded = false ∧ call.stage.isFinished = false)
    (balanced : call.left = call.entered) :
    Counts { state with calls := runBlock state.calls number } := by
  rw [runBlock_nested found nested]
  have finishKind : ∀ call : Call Wsi Payload, call.finish.kind = call.kind := fun _ => rfl
  have leaveKind : ∀ call : Call Wsi Payload, call.leave.kind = call.kind := fun _ => rfl
  have kinds : ((state.calls.modify number Call.finish).modify parent Call.leave).map Call.kind =
      state.calls.map Call.kind :=
    (modify_map _ parent leaveKind).trans (modify_map _ number finishKind)
  have listed : .toSocket parent ∈ state.calls.map Call.kind := by
    rw [← nested]
    exact List.mem_map_of_mem (List.mem_of_getElem? found)
  obtain ⟨hasBlock, foundParent⟩ := counts.parents parent listed
  have apart : parent ≠ number := by
    rintro rfl
    rw [kind_getElem? found, nested] at foundParent
    cases foundParent
  obtain ⟨outer, foundOuter, outerKind⟩ :=
    Option.map_eq_some_iff.mp ((List.getElem?_map ..).symm.trans foundParent)
  have atParent : (state.calls.modify number Call.finish)[parent]? = some outer := by
    simp [foundOuter, apart.symm]
  have open_calls : ∀ index,
      openNested ((state.calls.modify number Call.finish).modify parent Call.leave) index +
        (decide (index = parent)).toNat = openNested state.calls index := by
    intro index
    have finished := openNested_modify found Call.finish index
    have left := openNested_modify atParent Call.leave index
    have kept : isOpenNested index outer.leave = isOpenNested index outer := rfl
    have own : isOpenNested index call = decide (index = parent) := by
      simp only [isOpenNested, nested, idle.2, Bool.not_false, Bool.and_true, Kind.toSocket.injEq]
      exact decide_eq_decide.mpr eq_comm
    rw [isOpenNested_finish, own] at finished
    rw [kept] at left
    simp only [Bool.toNat_false] at finished
    omega
  constructor
  · rw [kinds]
    exact counts.entries
  · rw [kinds]
    exact counts.parents
  · intro index after foundAfter
    have total := open_calls index
    rw [List.getElem?_modify, List.getElem?_modify] at foundAfter
    simp only [Option.map_eq_map, Option.map_map] at foundAfter
    obtain ⟨before, foundBefore, changed⟩ := Option.map_eq_some_iff.mp foundAfter
    have counted := counts.counted index before foundBefore
    by_cases atIndex : parent = index
    · subst atIndex
      cases foundOuter.symm.trans foundBefore
      simp only [Function.comp_apply, if_neg apart.symm, if_true] at changed
      rw [← changed]
      simp only [decide_true, Bool.toNat_true] at total
      rw [← total] at counted
      exact counted.leave (by rw [outerKind]; rfl)
    · have same : openNested ((state.calls.modify number Call.finish).modify parent Call.leave)
          index = openNested state.calls index := by
        have different : index ≠ parent := fun equal => atIndex equal.symm
        simpa [different] using total
      simp only [Function.comp_apply, if_neg atIndex] at changed
      dsimp only
      rw [same]
      by_cases here : number = index
      · subst here
        cases found.symm.trans foundBefore
        simp only [if_true] at changed
        rw [← changed]
        exact counted.finish idle balanced
      · simp only [if_neg here] at changed
        rw [← changed]
        exact counted

theorem Counts.finish {state : State Wsi Payload} (counts : Counts state) {number : Nat}
    {call : Call Wsi Payload} (found : state.calls[number]? = some call)
    (idle : call.stage.isYielded = false ∧ call.stage.isFinished = false)
    (balanced : call.left = call.entered) :
    Counts { state with calls := runBlock state.calls number } := by
  by_cases nested : ∃ parent, call.kind = .toSocket parent
  · obtain ⟨parent, nested⟩ := nested
    exact counts.finishNested found nested idle balanced
  · have outermost : ∀ parent, call.kind ≠ .toSocket parent :=
      fun parent same => nested ⟨parent, same⟩
    refine counts.change found (runBlock_outermost found outermost) (fun _ => rfl) ?_
      (fun _ member => .inl member) (fun _ _ => rfl) ?_
    · intro outer
      rw [isOpenNested_finish]
      simp [isOpenNested, outermost outer]
    · intro counted
      exact counted.finish idle balanced

/-! ### One step -/

private theorem setStage_open {call : Call Wsi Payload} {stage : Stage Wsi}
    (same : stage.isFinished = call.stage.isFinished) (outer : Nat) :
    isOpenNested outer { call with stage := stage } = isOpenNested outer call := by
  simp only [isOpenNested, same]

theorem Counted.move {pending nested : Nat} {call : Call Wsi Payload}
    (counted : Counted pending nested call) {stage : Stage Wsi}
    (yielded : stage.isYielded = call.stage.isYielded)
    (finished : stage.isFinished = false ∧ call.stage.isFinished = false)
    (early : stage = .starting → call.entered = 0) (notCreated : stage ≠ .created) :
    Counted pending nested { call with stage := stage } := by
  obtain ⟨balance, ran, _, _⟩ := counted
  constructor
  · simp only [yielded]
    exact balance
  · simp only [finished.1]
    rwa [finished.2] at ran
  · rintro (created | starting)
    · exact absurd created notCreated
    · exact early starting
  · intro done
    dsimp only at done
    rw [done] at finished
    cases finished.1

theorem Counts.yields {state : State Wsi Payload} (counts : Counts state) {number : Nat}
    {call : Call Wsi Payload} (found : state.calls[number]? = some call) {wsi : Wsi}
    {rest : List Wsi} (stage : call.stage = .enumerating (wsi :: rest) state.mutations) :
    Counts
      { state with
        calls := state.calls.modify number fun call =>
          { call with
            entered := call.entered + 1
            stage := .yielded wsi (state.connections wsi) rest state.mutations } } := by
  refine counts.change found rfl (fun _ => rfl) ?_ (fun _ member => .inl member)
    (fun _ _ => rfl) ?_
  · intro outer
    simp [isOpenNested, stage, Stage.isFinished]
  · rintro ⟨balance, ran, _, _⟩
    rw [stage] at balance ran
    constructor
    · simp only [Stage.isYielded, Bool.toNat_false, Bool.toNat_true] at balance ⊢
      exact congrArg (· + 1) balance
    · exact ran
    · rintro (created | starting)
      · cases created
      · cases starting
    · intro done
      cases done

theorem Counts.enqueues {state : State Wsi Payload} (counts : Counts state)
    (paired : state.queue.Paired) {number : Nat} {call : Call Wsi Payload}
    (found : state.calls[number]? = some call) {wsi : Wsi} {connection : Option Nat}
    {rest : List Wsi} {mutations : Nat}
    (stage : call.stage = .yielded wsi connection rest mutations)
    (enqueues : call.kind.enqueues = true) :
    Counts
      { state with
        queue := state.queue.waitForWriteable
          { call := number, payload := call.payload, connection := connection } wsi
        calls := setStage state.calls number (.enumerating rest mutations) } := by
  have entries : (state.queue.waitForWriteable
      { call := number, payload := call.payload, connection := connection } wsi).entries =
      state.queue.entries ++
        [({ call := number, payload := call.payload, connection := connection }, wsi)] := by
    rw [paired.waitForWriteable, WriteQueue.entries_ofEntries]
  refine counts.change found rfl (fun _ => rfl) ?_ ?_ ?_ ?_
  · intro outer
    simp [isOpenNested, stage, Stage.isFinished]
  · intro entry member
    rw [entries] at member
    rcases List.mem_append.mp member with earlier | added
    · exact .inl earlier
    · cases List.mem_singleton.mp added
      exact .inr ⟨rfl, enqueues⟩
  · intro other different
    dsimp only
    rw [entries, pendingOf, pendingOf, List.countP_append]
    have apart : number ≠ other := fun same => different same.symm
    simp [apart]
  · rintro ⟨balance, ran, _, _⟩
    have more : pendingOf (state.queue.entries ++
        [({ call := number, payload := call.payload, connection := connection }, wsi)])
        number = pendingOf state.queue.entries number + 1 := by
      simp [pendingOf, List.countP_append]
    dsimp only
    rw [entries, more]
    rw [stage] at balance ran
    constructor
    · simp only [outstanding, enqueues, if_true, Stage.isYielded, Bool.toNat_true,
        Bool.toNat_false, Call.unanswered] at balance ⊢
      omega
    · exact ran
    · rintro (created | starting)
      · cases created
      · cases starting
    · intro done
      cases done

theorem Counts.nests {state : State Wsi Payload} (counts : Counts state) {number : Nat}
    {call : Call Wsi Payload} (found : state.calls[number]? = some call) {wsi : Wsi}
    {connection : Option Nat} {rest : List Wsi} {mutations : Nat}
    (stage : call.stage = .yielded wsi connection rest mutations)
    (nests : call.kind.enqueues = false) :
    Counts
      { state with
        calls := setStage state.calls number (.inside state.calls.length rest mutations) ++
          [newCall (.toSocket number) call.payload] } := by
  have counted := counts.counted number call found
  have outerKind : ∃ hasBlock, call.kind = .data hasBlock := by
    cases kind : call.kind with
    | data hasBlock => exact ⟨hasBlock, rfl⟩
    | _ =>
        rw [kind] at nests
        cases nests
  refine counts.extend rfl rfl (modify_map _ number fun _ => rfl) ?_ ?_
  · intro outer same
    cases same
    obtain ⟨hasBlock, kind⟩ := outerKind
    exact ⟨hasBlock, kind ▸ kind_getElem? found⟩
  · intro index after foundAfter
    have modified := openNested_modify found
      (fun call => { call with stage := .inside state.calls.length rest mutations }) index
    have same : isOpenNested index
        { call with stage := .inside state.calls.length rest mutations } =
        isOpenNested index call := setStage_open (by rw [stage]; rfl) index
    rw [same] at modified
    have open_calls := Nat.add_right_cancel modified
    rw [setStage] at foundAfter ⊢
    rw [open_calls]
    rw [List.getElem?_modify] at foundAfter
    obtain ⟨before, foundBefore, changed⟩ := Option.map_eq_some_iff.mp foundAfter
    by_cases here : number = index
    · subst here
      cases found.symm.trans foundBefore
      rw [if_pos rfl] at changed
      rw [← changed]
      obtain ⟨balance, ran, _, _⟩ := counted
      rw [stage] at balance ran
      constructor
      · simp only [outstanding, nests, Bool.false_eq_true, if_false, Stage.isYielded,
          Bool.toNat_true, Bool.toNat_false, decide_true] at balance ⊢
        omega
      · exact ran
      · rintro (created | starting)
        · cases created
        · cases starting
      · intro done
        cases done
    · rw [if_neg here] at changed
      rw [← changed]
      simpa [here] using counts.counted index before foundBefore

theorem Counts.advance {state next : State Wsi Payload} (counts : Counts state)
    (paired : state.queue.Paired) {number : Nat} {call : Call Wsi Payload}
    (found : state.calls[number]? = some call) (taken : Advances state number call next) :
    Counts next := by
  have counted := counts.counted number call found
  have move : ∀ stage : Stage Wsi, stage.isYielded = call.stage.isYielded →
      stage.isFinished = false ∧ call.stage.isFinished = false →
      (stage = .starting → call.entered = 0) → stage ≠ .created →
      Counts { state with calls := setStage state.calls number stage } := by
    intro stage yielded finished early notCreated
    refine counts.change found rfl (fun _ => rfl) (setStage_open ?_)
      (fun _ member => .inl member) (fun _ _ => rfl) ?_
    · rw [finished.1, finished.2]
    · intro counted
      exact counted.move yielded finished early notCreated
  cases taken with
  | returnsAtOnce stage _ =>
      have none_entered := counted.early (.inl stage)
      have balance := counted.balance
      exact counts.finish found (by rw [stage]; exact ⟨rfl, rfl⟩) (by omega)
  | starts stage =>
      apply move .starting <;> simp [stage, Stage.isYielded, Stage.isFinished]
      exact counted.early (.inl stage)
  | begins stage =>
      apply move (.enumerating state.queue.clients state.mutations) <;>
        simp [stage, Stage.isYielded, Stage.isFinished]
  | ends mutations stage =>
      apply move .waiting <;> simp [stage, Stage.isYielded, Stage.isFinished]
  | resumes nested rest mutations inner stage _ _ =>
      apply move (.enumerating rest mutations) <;> simp [stage, Stage.isYielded, Stage.isFinished]
  | completes stage balanced =>
      exact counts.finish found (by rw [stage]; exact ⟨rfl, rfl⟩) balanced
  | yields wsi rest stage => exact counts.yields found stage
  | enqueues wsi connection rest mutations stage enqueues =>
      exact counts.enqueues paired found stage enqueues
  | nests wsi connection rest mutations stage nests => exact counts.nests found stage nests

end Counting

section Runs

variable {Wsi Payload : Type} [DecidableEq Wsi]

private theorem step_counts {state next : State Wsi Payload} {label : Label Wsi Payload}
    (counts : Counts state) (registered : Registered state)
    (taken : step state label = some next) : Counts next := by
  cases label with
  | established wsi =>
      simp only [step, Option.ite_none_right_eq_some, Option.some.injEq] at taken
      obtain ⟨_, rfl⟩ := taken
      exact ⟨counts.entries, counts.parents, counts.counted⟩
  | closed wsi =>
      simp only [step, Option.ite_none_left_eq_some] at taken
      obtain ⟨present, taken⟩ := taken
      rw [registered.onConnectionClose present] at taken
      cases taken
      apply counts.settle none _ rfl
      simpa [afterOutcome] using KeyedQueue.ofKey_others_perm wsi state.queue.entries
  | writable wsi =>
      simp only [step, Option.ite_none_left_eq_some] at taken
      obtain ⟨_, taken⟩ := taken
      rw [registered.paired.onClientWritable, Option.map_some, Option.some.injEq] at taken
      subst taken
      have calls : ((oldest wsi state.queue.entries).map fun entry => (entry.1, some wsi)).toList =
          (oldest wsi state.queue.entries).toList.map fun entry => (entry.1, some wsi) := by
        cases oldest wsi state.queue.entries <;> rfl
      refine counts.settle (some wsi) ?_ (congrArg (settleAll state.calls) calls)
      simp only [afterOutcome, WriteQueue.entries_ofEntries]
      cases found : oldest wsi state.queue.entries with
      | none => simp [KeyedQueue.withoutOldest_of_none found]
      | some entry => exact KeyedQueue.withoutOldest_perm found
  | cancelAllWrites =>
      simp only [step, registered.paired.cancelAllWrites] at taken
      cases taken
      apply counts.settle none _ rfl
      simp [afterOutcome]
  | writeString payload hasBlock | writeData payload hasBlock | writeDatas payload hasBlock =>
      cases taken
      apply counts.call payload
      intro outer same
      cases same
  | advance number =>
      obtain ⟨call, found, taken⟩ := Option.bind_eq_some_iff.mp taken
      exact counts.advance registered.paired found (advance_cases taken)

private theorem reachable_counts {state : State Wsi Payload}
    (reached : (machine Wsi Payload).Reachable state) : Counts state := by
  refine reached.invariant Counts ?_ ?_
  · rintro state rfl
    exact ⟨nofun, nofun, nofun⟩
  · intro before label next reached counts taken
    exact step_counts counts (reachable_registered reached) taken

end Runs

/-! ### The protocol -/

section Protocol

variable {Wsi Payload : Type}

def Call.hasBlock (call : Call Wsi Payload) : Bool :=
  match call.kind with
  | .string hasBlock | .data hasBlock | .datas hasBlock => hasBlock
  | .toSocket _ => true

/-- No entry is left of the call, nor of a call nested in it. -/
def Settled (state : State Wsi Payload) (number : Nat) : Prop :=
  ∀ entry ∈ state.queue.entries, entry.1.call ≠ number ∧
    ∀ nested, state.calls[entry.1.call]? = some nested → nested.kind ≠ .toSocket number

/-- The walk has ended, every entry is settled, and the blocks of nested calls have run
where their groups let them. -/
structure Quiet (state : State Wsi Payload) (number : Nat) (call : Call Wsi Payload) : Prop where
  walked : call.stage.returned = true
  settled : Settled state number
  nested : ∀ inner ∈ state.calls, inner.kind = .toSocket number →
    inner.stage.returned = true ∧ (inner.left = inner.entered → inner.stage = .finished)

/-- The next statement of the walk raises an exception: a connection was opened or closed
while it had clients left. -/
def Stage.Raises (mutations : Nat) : Stage Wsi → Prop
  | .enumerating rest begun => rest ≠ [] ∧ begun ≠ mutations
  | _ => False

/-- A connection was opened or closed since the walk began, and it has clients left. -/
def Stage.Disturbed (mutations : Nat) : Stage Wsi → Prop
  | .enumerating rest begun => rest ≠ [] ∧ begun ≠ mutations
  | .yielded _ _ rest begun => rest ≠ [] ∧ begun ≠ mutations
  | .inside _ rest begun => rest ≠ [] ∧ begun ≠ mutations
  | _ => False

/-- The exception is raised in the call or in one nested in it; it never returns. -/
def CutOff (state : State Wsi Payload) (number : Nat) (call : Call Wsi Payload) : Prop :=
  call.stage.Raises state.mutations ∨
    ∃ inner ∈ state.calls, inner.kind = .toSocket number ∧ inner.stage.Raises state.mutations

/-- A walk of the call, its own or one of a nested call, was disturbed. -/
def Disturbed (state : State Wsi Payload) (number : Nat) (call : Call Wsi Payload) : Prop :=
  call.stage.Disturbed state.mutations ∨
    ∃ inner ∈ state.calls,
      inner.kind = .toSocket number ∧ inner.stage.Disturbed state.mutations

/-- The block of the call has run too, where its group lets it; or the call was cut off. -/
def Over (state : State Wsi Payload) (number : Nat) (call : Call Wsi Payload) : Prop :=
  Quiet state number call ∧ (call.left = call.entered → call.stage = .finished) ∨
    CutOff state number call

structure Protocol (state : State Wsi Payload) (number : Nat) (call : Call Wsi Payload) :
    Prop where
  atMostOnce : call.ran ≤ 1
  settledFirst : 0 < call.ran → call.stage.returned = true ∧ Settled state number
  balanced : Quiet state number call → call.left = call.entered
  once : call.hasBlock = true → Over state number call → call.ran = 1
  /-- A run of the block of a call that has none is a call of nil. -/
  noNil : call.hasBlock = false → call.ran = 0

/-- None of its entries was cancelled if the call is one of `writeString:`, and it was made
with a block exactly if no walk of it was disturbed: a call without one does no harm only if
the exception comes before its group is waited for. -/
structure Answered (state : State Wsi Payload) (number : Nat) (call : Call Wsi Payload) :
    Prop where
  uncancelled : ∀ hasBlock, call.kind = .string hasBlock → call.cancelled = 0
  hasBlock : call.hasBlock = true ↔ ¬Disturbed state number call

theorem Answered.unanswered {state : State Wsi Payload} {number : Nat}
    {call : Call Wsi Payload} (answered : Answered state number call) :
    call.unanswered = 0 := by
  unfold Call.unanswered
  split
  · rename_i hasBlock kind
    exact answered.uncancelled hasBlock kind
  · rfl

theorem Stage.Raises.disturbed {stage : Stage Wsi} {mutations : Nat}
    (raises : stage.Raises mutations) : stage.Disturbed mutations := by
  cases stage with
  | enumerating rest begun => exact raises
  | _ => exact raises.elim

theorem Stage.Disturbed.unreturned {stage : Stage Wsi} {mutations : Nat}
    (disturbed : stage.Disturbed mutations) : stage.returned = false := by
  cases stage with
  | enumerating | yielded | inside => rfl
  | _ => exact disturbed.elim

theorem advance_of_raises {state : State Wsi Payload} {number : Nat} {call : Call Wsi Payload}
    (raises : call.stage.Raises state.mutations) : advance state number call = none := by
  obtain ⟨kind, payload, stage, entered, left, ran, cancelled⟩ := call
  cases stage with
  | enumerating rest begun =>
      obtain ⟨clients, mutated⟩ := raises
      cases rest with
      | nil => exact absurd rfl clients
      | cons wsi rest => exact if_neg mutated
  | _ => exact raises.elim

theorem CutOff.disturbed {state : State Wsi Payload} {number : Nat} {call : Call Wsi Payload}
    (cut : CutOff state number call) : Disturbed state number call := by
  obtain raises | ⟨inner, member, nested, raises⟩ := cut
  · exact .inl raises.disturbed
  · exact .inr ⟨inner, member, nested, raises.disturbed⟩

theorem Quiet.undisturbed {state : State Wsi Payload} {number : Nat} {call : Call Wsi Payload}
    (quiet : Quiet state number call) : ¬Disturbed state number call := by
  rintro (disturbed | ⟨inner, member, nested, disturbed⟩)
  · exact Bool.false_ne_true (disturbed.unreturned.symm.trans quiet.walked)
  · have returned := (quiet.nested inner member nested).1
    exact Bool.false_ne_true (disturbed.unreturned.symm.trans returned)

private theorem isYielded_of_returned {stage : Stage Wsi} (returned : stage.returned = true) :
    stage.isYielded = false := by
  cases stage with
  | waiting | finished => rfl
  | _ => cases returned

private theorem returned_of_finished {stage : Stage Wsi} (finished : stage = .finished) :
    stage.returned = true := by
  rw [finished]
  rfl

section Counts

variable {state : State Wsi Payload} {number : Nat} {call : Call Wsi Payload}

theorem Counts.pendingOf_data (counts : Counts state) (found : state.calls[number]? = some call)
    (data : call.kind.enqueues = false) : pendingOf state.queue.entries number = 0 := by
  rw [pendingOf_eq_zero]
  rintro entry member rfl
  obtain ⟨kind, foundKind, enqueues⟩ := counts.entries entry member
  rw [kind_getElem? found] at foundKind
  cases foundKind
  rw [data] at enqueues
  cases enqueues

theorem Counts.nested_kind (counts : Counts state) (found : state.calls[number]? = some call)
    {inner : Call Wsi Payload} (member : inner ∈ state.calls)
    (nested : inner.kind = .toSocket number) : ∃ hasBlock, call.kind = .data hasBlock := by
  obtain ⟨hasBlock, foundKind⟩ := counts.parents number (nested ▸ List.mem_map_of_mem member)
  rw [kind_getElem? found] at foundKind
  exact ⟨hasBlock, Option.some.inj foundKind⟩

theorem Counts.nested_data (counts : Counts state) (found : state.calls[number]? = some call)
    {inner : Call Wsi Payload} (member : inner ∈ state.calls)
    (nested : inner.kind = .toSocket number) : call.kind.enqueues = false := by
  obtain ⟨hasBlock, data⟩ := counts.nested_kind found member nested
  rw [data]
  rfl

theorem Counts.pendingOf_finished (counts : Counts state)
    (found : state.calls[number]? = some call) (finished : call.stage = .finished) :
    pendingOf state.queue.entries number = 0 := by
  cases own : call.kind.enqueues with
  | false => exact counts.pendingOf_data found own
  | true =>
      obtain ⟨balance, _, _, ended⟩ := counts.counted number call found
      have done := ended finished
      simp only [outstanding, own, if_true] at balance
      omega

theorem Counts.settled_of_finished (counts : Counts state)
    (found : state.calls[number]? = some call) (finished : call.stage = .finished) :
    Settled state number := by
  intro entry member
  constructor
  · exact pendingOf_eq_zero.mp (counts.pendingOf_finished found finished) entry member
  · intro inner foundInner nested
    have inCalls : inner ∈ state.calls := List.mem_of_getElem? foundInner
    obtain ⟨balance, _, _, ended⟩ := counts.counted number call found
    have data := counts.nested_data found inCalls nested
    have done := ended finished
    have none_open : openNested state.calls number = 0 := by
      simp only [outstanding, data, Bool.false_eq_true, if_false] at balance
      omega
    have closed := List.countP_eq_zero.mp none_open inner inCalls
    have innerFinished : inner.stage = .finished := by
      cases stage : inner.stage with
      | finished => rfl
      | _ => simp [isOpenNested, nested, stage, Stage.isFinished] at closed
    exact pendingOf_eq_zero.mp (counts.pendingOf_finished foundInner innerFinished) entry member rfl

/-- With nothing left pending, the group of a call that answered every entry is left. -/
theorem Counted.balanced {nested : Nat} (counted : Counted 0 nested call)
    (own : call.kind.enqueues = true) (answered : call.unanswered = 0)
    (returned : call.stage.returned = true) : call.left = call.entered := by
  have balance := counted.balance
  rw [isYielded_of_returned returned, outstanding, if_pos own, answered] at balance
  simpa using balance.symm

theorem Counts.balanced (counts : Counts state) (found : state.calls[number]? = some call)
    (quiet : Quiet state number call) (answered : Answered state number call) :
    call.left = call.entered := by
  have counted := counts.counted number call found
  have noEntry : pendingOf state.queue.entries number = 0 :=
    pendingOf_eq_zero.mpr fun entry member => (quiet.settled entry member).1
  cases own : call.kind.enqueues with
  | true =>
      rw [noEntry] at counted
      exact counted.balanced own answered.unanswered quiet.walked
  | false =>
      have none_open : openNested state.calls number = 0 := by
        rw [openNested, List.countP_eq_zero]
        intro inner member opened
        simp only [isOpenNested, Bool.and_eq_true, decide_eq_true_eq, Bool.not_eq_true'] at opened
        obtain ⟨nested, unfinished⟩ := opened
        obtain ⟨returned, finishes⟩ := quiet.nested inner member nested
        obtain ⟨index, foundInner⟩ := List.mem_iff_getElem?.mp member
        have innerCounted := counts.counted index inner foundInner
        have noInnerEntry : pendingOf state.queue.entries index = 0 := by
          rw [pendingOf_eq_zero]
          rintro entry inEntries rfl
          exact (quiet.settled entry inEntries).2 inner foundInner nested
        rw [noInnerEntry] at innerCounted
        have done := innerCounted.balanced (by rw [nested]; rfl)
          (by rw [Call.unanswered, nested]) returned
        rw [finishes done] at unfinished
        cases unfinished
      have balance := counted.balance
      rw [isYielded_of_returned quiet.walked] at balance
      simp only [outstanding, own, Bool.false_eq_true, if_false, none_open] at balance
      simpa using balance.symm

theorem Counts.unfinished_of_disturbed (counts : Counts state)
    (found : state.calls[number]? = some call) (disturbed : Disturbed state number call) :
    call.stage.isFinished = false := by
  cases stage : call.stage with
  | finished =>
      exfalso
      obtain disturbed | ⟨inner, member, nested, disturbed⟩ := disturbed
      · rw [stage] at disturbed
        exact disturbed
      · obtain ⟨balance, _, _, ended⟩ := counts.counted number call found
        have done := ended stage
        have data := counts.nested_data found member nested
        simp only [outstanding, data, Bool.false_eq_true, if_false] at balance
        have none_open : openNested state.calls number = 0 := by omega
        have closed := List.countP_eq_zero.mp none_open inner member
        have unreturned := disturbed.unreturned
        cases innerStage : inner.stage with
        | finished =>
            rw [innerStage] at unreturned
            cases unreturned
        | _ => simp [isOpenNested, nested, innerStage, Stage.isFinished] at closed
  | _ => rfl

theorem Counted.ran_finished {pending nested : Nat} (counted : Counted pending nested call)
    (finished : call.stage = .finished) : call.ran = 1 + call.unanswered := by
  have ran := counted.ran
  rwa [finished] at ran

theorem Counts.ran_of_disturbed (counts : Counts state)
    (found : state.calls[number]? = some call) (disturbed : Disturbed state number call) :
    call.ran = call.unanswered := by
  have ran := (counts.counted number call found).ran
  rw [counts.unfinished_of_disturbed found disturbed] at ran
  simpa using ran

theorem Counts.protocol (counts : Counts state) (found : state.calls[number]? = some call)
    (answered : Answered state number call) : Protocol state number call := by
  have counted := counts.counted number call found
  have ran := counted.ran
  rw [answered.unanswered] at ran
  constructor
  · have atMost := call.stage.isFinished.toNat_le
    omega
  · intro some_ran
    have finished : call.stage = .finished := by
      cases stage : call.stage with
      | finished => rfl
      | _ =>
          simp only [stage, Stage.isFinished, Bool.toNat_false] at ran
          omega
    exact ⟨returned_of_finished finished, counts.settled_of_finished found finished⟩
  · exact fun quiet => counts.balanced found quiet answered
  · intro hasBlock ended
    obtain ⟨quiet, finishes⟩ | cut := ended
    · have finished := finishes (counts.balanced found quiet answered)
      rw [counted.ran_finished finished, answered.unanswered]
    · exact absurd cut.disturbed (answered.hasBlock.mp hasBlock)
  · intro noBlock
    have disturbed : Disturbed state number call := by
      by_contra undisturbed
      rw [answered.hasBlock.mpr undisturbed] at noBlock
      cases noBlock
    rw [counts.ran_of_disturbed found disturbed, answered.unanswered]

theorem Counted.uncancelled {pending nested : Nat} (counted : Counted pending nested call)
    (balanced : call.left = call.entered) {hasBlock : Bool}
    (string : call.kind = .string hasBlock) : call.cancelled = 0 := by
  have balance := counted.balance
  rw [outstanding, if_pos (by rw [string]; rfl), Call.unanswered, string] at balance
  dsimp only at balance
  omega

theorem Counts.answered (counts : Counts state) (found : state.calls[number]? = some call)
    (ended : Over state number call) (protocol : Protocol state number call) :
    Answered state number call := by
  have counted := counts.counted number call found
  obtain ⟨quiet, finishes⟩ | cut := ended
  · have balanced := protocol.balanced quiet
    constructor
    · exact fun _ string => counted.uncancelled balanced string
    · refine iff_of_true ?_ quiet.undisturbed
      by_contra noBlock
      have ran := counted.ran_finished (finishes balanced)
      have none_ran := protocol.noNil (by simpa using noBlock)
      omega
  · have ran := counts.ran_of_disturbed found cut.disturbed
    have none_ran : call.ran = 0 := by
      obtain raises | ⟨inner, member, nested, raises⟩ := cut
      -- a block that ran here ran for a cancelled entry, with the walk still to end
      · by_contra some_ran
        have returned := (protocol.settledFirst (Nat.pos_of_ne_zero some_ran)).1
        exact Bool.false_ne_true (raises.disturbed.unreturned.symm.trans returned)
      · obtain ⟨hasBlock, data⟩ := counts.nested_kind found member nested
        rw [ran, Call.unanswered, data]
    constructor
    · intro hasBlock string
      rw [none_ran, Call.unanswered, string] at ran
      exact ran.symm
    · refine iff_of_false ?_ (not_not_intro cut.disturbed)
      intro hasBlock
      have once := protocol.once hasBlock (.inr cut)
      omega

end Counts

end Protocol

/-! ### A disturbed walk -/

section Disturbance

variable {Wsi Payload : Type}

/-- A walk began after none of the mutations that are still to come. -/
def Stage.BegunBy (mutations : Nat) : Stage Wsi → Prop
  | .enumerating _ begun => begun ≤ mutations
  | .yielded _ _ _ begun => begun ≤ mutations
  | .inside _ _ begun => begun ≤ mutations
  | _ => True

theorem Stage.BegunBy.mono {stage : Stage Wsi} {mutations later : Nat}
    (begunBy : stage.BegunBy mutations) (grows : mutations ≤ later) : stage.BegunBy later := by
  cases stage with
  | enumerating | yielded | inside => exact Nat.le_trans begunBy grows
  | _ => trivial

theorem Stage.Disturbed.mono {stage : Stage Wsi} {mutations later : Nat}
    (disturbed : stage.Disturbed mutations) (begunBy : stage.BegunBy mutations)
    (grows : mutations ≤ later) : stage.Disturbed later := by
  cases stage with
  | enumerating rest begun | yielded wsi connection rest begun | inside nested rest begun =>
      obtain ⟨clients, mutated⟩ := disturbed
      have before : begun ≤ mutations := begunBy
      exact ⟨clients, by omega⟩
  | _ => exact disturbed.elim

private theorem getElem?_modify_stage {calls : List (Call Wsi Payload)} (number : Nat)
    (change : Call Wsi Payload → Call Wsi Payload) {index : Nat} {call : Call Wsi Payload}
    (found : calls[index]? = some call)
    (same : number = index → (change call).stage = call.stage) :
    ∃ after, (calls.modify number change)[index]? = some after ∧ after.stage = call.stage := by
  by_cases here : number = index
  · refine ⟨change call, ?_, same here⟩
    rw [List.getElem?_modify, found, here]
    simp
  · refine ⟨call, ?_, rfl⟩
    rw [List.getElem?_modify, found]
    simp [here]

private theorem getElem?_runBlock_stage {calls : List (Call Wsi Payload)} {number index : Nat}
    {call : Call Wsi Payload} (found : calls[index]? = some call) (apart : number ≠ index) :
    ∃ after, (runBlock calls number)[index]? = some after ∧ after.stage = call.stage := by
  obtain ⟨ran, foundRan, kept⟩ :=
    getElem?_modify_stage number Call.finish found fun here => absurd here apart
  unfold runBlock
  dsimp only
  split
  · obtain ⟨after, foundAfter, same⟩ :=
      getElem?_modify_stage _ Call.leave foundRan fun _ => rfl
    exact ⟨after, foundAfter, same.trans kept⟩
  · exact ⟨ran, foundRan, kept⟩

private theorem getElem?_append_of_some {calls : List (Call Wsi Payload)} {index : Nat}
    {call : Call Wsi Payload} (found : calls[index]? = some call)
    (added : List (Call Wsi Payload)) : (calls ++ added)[index]? = some call := by
  rw [List.getElem?_append_left (List.getElem?_eq_some_iff.mp found).1]
  exact found

theorem Advances.stage_of_ne {state next : State Wsi Payload} {number index : Nat}
    {call other : Call Wsi Payload} (taken : Advances state number call next)
    (found : state.calls[index]? = some other) (apart : number ≠ index) :
    ∃ after, next.calls[index]? = some after ∧ after.stage = other.stage := by
  cases taken with
  | returnsAtOnce _ _ | completes _ _ => exact getElem?_runBlock_stage found apart
  | starts _ | begins _ | ends _ _ | yields _ _ _ | enqueues _ _ _ _ _ _ | resumes _ _ _ _ _ _ _ =>
      exact getElem?_modify_stage number _ found fun here => absurd here apart
  | nests _ _ rest mutations _ _ =>
      obtain ⟨after, foundAfter, same⟩ := getElem?_modify_stage number
        (fun call => { call with stage := .inside state.calls.length rest mutations }) found
        fun here => absurd here apart
      exact ⟨after, getElem?_append_of_some foundAfter _, same⟩

theorem Advances.mutations_eq {state next : State Wsi Payload} {number : Nat}
    {call : Call Wsi Payload} (taken : Advances state number call next) :
    next.mutations = state.mutations := by
  cases taken <;> rfl

theorem Advances.disturbed {state next : State Wsi Payload} {number : Nat}
    {call : Call Wsi Payload} (taken : Advances state number call next)
    (found : state.calls[number]? = some call)
    (disturbed : call.stage.Disturbed state.mutations) :
    ∃ after, next.calls[number]? = some after ∧ after.stage.Disturbed next.mutations := by
  have moves (stage : Stage Wsi) (still : stage.Disturbed state.mutations) :
      ∃ after, (setStage state.calls number stage)[number]? = some after ∧
        after.stage.Disturbed state.mutations := by
    refine ⟨{ call with stage := stage }, ?_, still⟩
    rw [setStage, List.getElem?_modify, found]
    simp
  cases taken with
  | returnsAtOnce stage _ | starts stage | begins stage | completes stage _ =>
      rw [stage] at disturbed
      exact disturbed.elim
  | ends mutations stage =>
      rw [stage] at disturbed
      exact absurd rfl disturbed.1
  | yields wsi rest stage =>
      rw [stage] at disturbed
      exact absurd rfl disturbed.2
  | enqueues wsi connection rest mutations stage _ =>
      rw [stage] at disturbed
      exact moves (.enumerating rest mutations) disturbed
  | nests wsi connection rest mutations stage _ =>
      rw [stage] at disturbed
      obtain ⟨after, foundAfter, still⟩ :=
        moves (.inside state.calls.length rest mutations) disturbed
      exact ⟨after, getElem?_append_of_some foundAfter _, still⟩
  | resumes nested rest mutations inner stage _ _ =>
      rw [stage] at disturbed
      exact moves (.enumerating rest mutations) disturbed

theorem Advances.begunBy {state next : State Wsi Payload} {number : Nat}
    {call : Call Wsi Payload} (taken : Advances state number call next)
    (found : state.calls[number]? = some call)
    (begun : ∀ call ∈ state.calls, call.stage.BegunBy state.mutations) :
    ∀ call ∈ next.calls, call.stage.BegunBy next.mutations := by
  have own := begun call (List.mem_of_getElem? found)
  have moves {change : Call Wsi Payload → Call Wsi Payload}
      (fine : ∀ call, (change call).stage.BegunBy state.mutations) :
      ∀ call ∈ state.calls.modify number change, call.stage.BegunBy state.mutations := by
    intro other member
    rcases ListEdit.mem_modify member with inCalls | ⟨before, _, rfl⟩
    · exact begun other inCalls
    · exact fine before
  cases taken with
  | returnsAtOnce _ _ | completes _ _ =>
      intro other member
      rcases mem_runBlock member with finished | inWalks
      · rw [finished]
        trivial
      · obtain ⟨before, inCalls, same⟩ := List.mem_map.mp inWalks
        rw [← (Prod.mk.inj same).2]
        exact begun before inCalls
  | starts _ | ends _ _ => exact moves fun _ => trivial
  | begins _ | yields _ _ _ => exact moves fun _ => Nat.le_refl state.mutations
  | enqueues wsi connection rest mutations stage _
  | resumes nested rest mutations inner stage _ _ =>
      rw [stage] at own
      exact moves fun _ => own
  | nests wsi connection rest mutations stage _ =>
      rw [stage] at own
      intro other member
      rcases List.mem_append.mp member with earlier | added
      · exact moves (fun _ => own) other earlier
      · cases List.mem_singleton.mp added
        trivial

end Disturbance

section Disturbance

variable {Wsi Payload : Type} [DecidableEq Wsi]

/-- A step that advances no call lets all of them be, and adds no mutation back. -/
theorem step_stages {state next : State Wsi Payload} {label : Label Wsi Payload}
    (taken : step state label = some next) :
    (∃ number call, state.calls[number]? = some call ∧ Advances state number call next) ∨
      state.mutations ≤ next.mutations ∧ ∃ added : List (Call Wsi Payload),
        (∀ call ∈ added, call.stage = .created) ∧
        next.calls.map Call.walk = state.calls.map Call.walk ++ added.map Call.walk := by
  have settled (invoked : List (Invocation Wsi (Entry Payload))) :
      ∃ added : List (Call Wsi Payload), (∀ call ∈ added, call.stage = .created) ∧
        (settleAll state.calls invoked).map Call.walk =
          state.calls.map Call.walk ++ added.map Call.walk :=
    ⟨[], fun _ none => absurd none List.not_mem_nil, by
      rw [settleAll_walk]
      exact (List.append_nil _).symm⟩
  cases label with
  | established wsi =>
      simp only [step, Option.ite_none_right_eq_some, Option.some.injEq] at taken
      obtain ⟨_, rfl⟩ := taken
      exact .inr ⟨Nat.le_succ _, [], fun _ none => absurd none List.not_mem_nil,
        (List.append_nil _).symm⟩
  | closed wsi =>
      simp only [step, Option.ite_none_left_eq_some] at taken
      obtain ⟨outcome, _, rfl⟩ := Option.map_eq_some_iff.mp taken.2
      exact .inr ⟨Nat.le_succ _, settled outcome.2⟩
  | writable wsi =>
      simp only [step, Option.ite_none_left_eq_some] at taken
      obtain ⟨outcome, _, rfl⟩ := Option.map_eq_some_iff.mp taken.2
      exact .inr ⟨Nat.le_refl _, settled outcome.2⟩
  | cancelAllWrites =>
      obtain ⟨outcome, _, rfl⟩ := Option.map_eq_some_iff.mp taken
      exact .inr ⟨Nat.le_refl _, settled outcome.2⟩
  | writeString payload hasBlock | writeData payload hasBlock | writeDatas payload hasBlock =>
      cases taken
      refine .inr ⟨Nat.le_refl _, [newCall _ payload], ?_, List.map_append⟩
      intro call added
      rw [List.mem_singleton.mp added]
      rfl
  | advance number =>
      obtain ⟨call, found, taken⟩ := Option.bind_eq_some_iff.mp taken
      exact .inl ⟨number, call, found, advance_cases taken⟩

private theorem reachable_begunBy {state : State Wsi Payload}
    (reached : (machine Wsi Payload).Reachable state) :
    ∀ call ∈ state.calls, call.stage.BegunBy state.mutations := by
  refine reached.invariant
    (fun state => ∀ call ∈ state.calls, call.stage.BegunBy state.mutations) ?_ ?_
  · rintro state rfl
    exact fun _ none => absurd none List.not_mem_nil
  · intro before label next _ begun taken
    rcases step_stages taken with ⟨number, call, found, advances⟩ | ⟨grows, added, new, walks⟩
    · exact advances.begunBy found begun
    · intro call member
      have walk : call.walk ∈ before.calls.map Call.walk ++ added.map Call.walk :=
        walks ▸ List.mem_map_of_mem member
      rcases List.mem_append.mp walk with earlier | later
      · obtain ⟨old, inCalls, same⟩ := List.mem_map.mp earlier
        rw [← (Prod.mk.inj same).2]
        exact (begun old inCalls).mono grows
      · obtain ⟨fresh, isNew, same⟩ := List.mem_map.mp later
        rw [← (Prod.mk.inj same).2, new fresh isNew]
        trivial

/-- A walk that was disturbed stays so in every later state: it is cut off or stuck, and its
call never returns. -/
theorem step_disturbed {state next : State Wsi Payload} {label : Label Wsi Payload}
    (reached : (machine Wsi Payload).Reachable state)
    (taken : step state label = some next) {number : Nat} {call : Call Wsi Payload}
    (found : state.calls[number]? = some call)
    (disturbed : call.stage.Disturbed state.mutations) :
    ∃ after, next.calls[number]? = some after ∧ after.stage.Disturbed next.mutations := by
  have begun := reachable_begunBy reached call (List.mem_of_getElem? found)
  rcases step_stages taken with ⟨index, mover, foundMover, advances⟩ | ⟨grows, added, _, walks⟩
  · by_cases here : index = number
    · subst here
      cases foundMover.symm.trans found
      exact advances.disturbed found disturbed
    · obtain ⟨after, foundAfter, same⟩ := advances.stage_of_ne found here
      refine ⟨after, foundAfter, ?_⟩
      rw [same]
      exact disturbed.mono begun (Nat.le_of_eq advances.mutations_eq.symm)
  · have walk : (next.calls.map Call.walk)[number]? = some call.walk := by
      rw [walks, List.getElem?_append_left]
      · rw [List.getElem?_map, found]
        rfl
      · rw [List.length_map]
        exact (List.getElem?_eq_some_iff.mp found).1
    rw [List.getElem?_map] at walk
    obtain ⟨after, foundAfter, same⟩ := Option.map_eq_some_iff.mp walk
    refine ⟨after, foundAfter, ?_⟩
    rw [(Prod.mk.inj same).2]
    exact disturbed.mono begun grows

end Disturbance

/-! ### Every run -/

variable {Wsi Payload : Type} [DecidableEq Wsi]

/-- In every run an answered call keeps the protocol, and once a call is over, cut off or
not, it has kept it in no other case. -/
theorem protocol_iff_answered {state : State Wsi Payload}
    (reached : (machine Wsi Payload).Reachable state) {number : Nat} {call : Call Wsi Payload}
    (found : state.calls[number]? = some call) :
    (Answered state number call → Protocol state number call) ∧
      (Over state number call → (Protocol state number call ↔ Answered state number call)) := by
  have counts := reachable_counts reached
  constructor
  · exact counts.protocol found
  · intro ended
    exact ⟨counts.answered found ended, counts.protocol found⟩

/-- A frame is written to two clients, one of which closes first. -/
def writtenToOne : List (Label Nat Unit) :=
  [.established 7, .established 8, .writeDatas () true, .advance 0, .advance 0, .advance 0,
    .advance 0, .advance 0, .advance 0, .advance 0, .closed 8, .writable 7, .advance 0]

theorem protocol_of_writtenToOne :
    ∃ state call, (machine Nat Unit).run initial writtenToOne = some state ∧
      state.calls[0]? = some call ∧ call.ran = 1 ∧
      (Answered state 0 call → Protocol state 0 call) ∧
      (Over state 0 call → (Protocol state 0 call ↔ Answered state 0 call)) := by
  obtain ⟨state, replayed, called⟩ := (Option.any_eq_true _ _).mp
    (show ((machine Nat Unit).run initial writtenToOne).any
        (fun state => (state.calls[0]?).any fun call => decide (call.ran = 1)) = true by decide)
  obtain ⟨call, found, once⟩ := (Option.any_eq_true _ _).mp called
  exact ⟨state, call, replayed, found, of_decide_eq_true once,
    protocol_iff_answered (Machine.Reachable.run writtenToOne (.initial rfl) replayed) found⟩

/-- The writes are cancelled while a response waits for two clients. -/
def cancelledResponse : List (Label Nat Unit) :=
  [.established 7, .established 8, .writeString () true, .advance 0, .advance 0, .advance 0,
    .advance 0, .advance 0, .advance 0, .advance 0, .cancelAllWrites]

theorem not_protocol_of_cancelledResponse :
    ¬∀ state, (machine Nat Unit).Reachable state →
      ∀ number call, state.calls[number]? = some call → Protocol state number call := by
  intro always
  have started : (machine Nat Unit).initial initial := rfl
  obtain ⟨state, reached, twice⟩ := Machine.exists_reachable_of_run cancelledResponse
    (fun state : State Nat Unit =>
      (state.calls[0]?).any fun call : Call Nat Unit => decide (1 < call.ran)) started (by decide)
  obtain ⟨call, found, twice⟩ := (Option.any_eq_true _ _).mp twice
  exact Nat.not_le_of_lt (of_decide_eq_true twice) (always state reached 0 call found).atMostOnce

end Broadcast
end WebSocketServer
end JSCameraKit

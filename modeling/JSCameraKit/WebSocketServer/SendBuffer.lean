import JSCameraKit.Library.Machine
import JSCameraKit.Libwebsockets.Write

set_option autoImplicit false

/-! The block that `writeDatas:toSocket:` calls `lws_write` from: one buffer for all messages
and clients, allocated again when a message does not fit. The bytes of an `NSData` are a list;
sizes are assigned to numbers of type `int`. A step without a successor leaves the block. -/

namespace JSCameraKit
namespace WebSocketServer
namespace SendBuffer

open Libwebsockets (int malloc memcpy lwsPre lwsWrite encodeFrame)

structure State where
  sendBuffer : Option (List UInt8)
  sendBufferLength : Int
  /-- The frames that `lws_write` has made. -/
  written : List (List UInt8)
  deriving DecidableEq

def init : State :=
  { sendBuffer := none, sendBufferLength := 0, written := [] }

/-- The first loop, from a size on. -/
def sizeFrom (size : Int) : List (List UInt8) → Int
  | [] => size
  | data :: rest => sizeFrom (int (size + data.length)) rest

def reserve (state : State) (fullSize : Int) : State :=
  if state.sendBuffer = none ∨ state.sendBufferLength < fullSize then
    { state with sendBuffer := malloc fullSize, sendBufferLength := fullSize }
  else state

/-- The second loop, from an offset behind the padding on. -/
def copyFrom (block : List UInt8) (pad : Int) : List (List UInt8) → Option (List UInt8)
  | [] => some block
  | data :: rest =>
      (memcpy block (lwsPre + pad) data).bind fun block =>
        copyFrom block (int (pad + data.length)) rest

def writeDatas (state : State) (datas : List (List UInt8)) : Option State := do
  let size := sizeFrom 0 datas
  let reserved := reserve state (int (lwsPre + size + 0))
  let block ← reserved.sendBuffer
  let copied ← copyFrom block 0 datas
  let (block, frame) ← lwsWrite .binaryFrame copied lwsPre size
  some
    { sendBuffer := some block
      sendBufferLength := reserved.sendBufferLength
      written := reserved.written ++ [frame] }

def machine : Machine State (List (List UInt8)) :=
  { initial := fun state => state = init
    step := writeDatas }

/-! ### What a write is for -/

/-- `_sendBufferLength` is the size of the block, and 0 without one. -/
def Measured (state : State) : Prop :=
  state.sendBufferLength = (state.sendBuffer.map List.length).getD 0

/-- All bytes are copied inside the block and sent as one message of the list's bytes. -/
def WritesAll (state : State) (datas : List (List UInt8)) : Prop :=
  ∃ next, writeDatas state datas = some next ∧ Measured next ∧
    next.written = state.written ++ [encodeFrame .binaryFrame true none datas.flatten]

/-- The bytes and the padding can be counted in an `int`. -/
def Fits (datas : List (List UInt8)) : Prop :=
  lwsPre + datas.flatten.length < 2 ^ 31

instance (datas : List (List UInt8)) : Decidable (Fits datas) :=
  inferInstanceAs (Decidable (_ < _))

/-! ### The loops -/

private theorem sizeFrom_eq (datas : List (List UInt8)) (size : Nat)
    (small : size + datas.flatten.length < 2 ^ 31) :
    sizeFrom size datas = ((size + datas.flatten.length : Nat) : Int) := by
  induction datas generalizing size with
  | nil => rfl
  | cons data rest ih =>
      rw [List.flatten_cons, List.length_append, ← Nat.add_assoc] at small ⊢
      have exact : int ((size : Int) + data.length) = ((size + data.length : Nat) : Int) := by
        rw [Libwebsockets.int_of_small]
        · rfl
        · omega
        · omega
      rw [sizeFrom, exact]
      exact ih (size + data.length) small

/-- Copied behind each other the lists fill the block from the offset on, if they fit in it;
one that does not is copied past its end. The induction is on the lists not yet copied. -/
theorem copyFrom_eq (datas : List (List UInt8)) (block : List UInt8) (pad : Nat)
    (inside : lwsPre + pad ≤ block.length) (small : block.length < 2 ^ 31) :
    copyFrom block pad datas =
      if lwsPre + pad + datas.flatten.length ≤ block.length then
        some (block.take (lwsPre + pad) ++ datas.flatten ++
          block.drop (lwsPre + pad + datas.flatten.length))
      else none := by
  induction datas generalizing block pad with
  | nil =>
      rw [copyFrom, List.flatten_nil, List.length_nil, Nat.add_zero, if_pos inside,
        List.append_nil, List.take_append_drop]
  | cons data rest ih =>
      have index : (lwsPre : Int) + (pad : Int) = ((lwsPre + pad : Nat) : Int) := rfl
      rw [copyFrom, index, Libwebsockets.memcpy_eq, List.flatten_cons, List.length_append,
        ← Nat.add_assoc]
      by_cases fits : lwsPre + pad + data.length ≤ block.length
      · rw [if_pos fits, Option.bind_some]
        have exact : int ((pad : Int) + data.length) = ((pad + data.length : Nat) : Int) := by
          rw [Libwebsockets.int_of_small]
          · rfl
          · omega
          · omega
        have start : (block.take (lwsPre + pad) ++ data).length = lwsPre + (pad + data.length) := by
          rw [List.length_append, List.length_take]
          omega
        have kept : (block.take (lwsPre + pad) ++ data ++
            block.drop (lwsPre + pad + data.length)).length = block.length := by
          rw [List.length_append, start, List.length_drop]
          omega
        rw [exact, ih _ (pad + data.length) (by omega) (by omega), kept, ← start,
          List.take_left, ← List.drop_drop, List.drop_left, List.drop_drop, start]
        simp only [Nat.add_assoc, List.append_assoc]
      · rw [if_neg fits, Option.bind_none, if_neg (by omega)]

/-! ### Every history of writes -/

/-- A block has room for the padding and its size is an `int`. -/
structure Allocated (state : State) : Prop where
  measured : Measured state
  room : ∀ block ∈ state.sendBuffer, lwsPre ≤ block.length
  small : ∀ block ∈ state.sendBuffer, block.length < 2 ^ 31

private theorem reserve_spec {state : State} (allocated : Allocated state) {size : Nat}
    (fits : lwsPre + size < 2 ^ 31) :
    ∃ block, reserve state ((lwsPre + size : Nat) : Int) =
        { state with sendBuffer := some block, sendBufferLength := block.length } ∧
      lwsPre + size ≤ block.length ∧ block.length < 2 ^ 31 := by
  unfold reserve
  split
  · refine ⟨List.replicate (lwsPre + size) 0, ?_, ?_, ?_⟩
    · rw [malloc, if_pos (Int.natCast_nonneg _), Int.toNat_natCast, List.length_replicate]
    · rw [List.length_replicate]
    · rw [List.length_replicate]
      exact fits
  · rename_i kept
    rw [not_or] at kept
    obtain ⟨block, held⟩ := Option.ne_none_iff_exists'.mp kept.1
    have measured := allocated.measured
    rw [Measured, held, Option.map_some, Option.getD_some] at measured
    refine ⟨block, ?_, ?_, allocated.small block held⟩
    · rw [← held, ← measured]
    · have long := kept.2
      omega

/-- Whatever its size, a block that is reserved for an `int` has a size in the `int`s. -/
theorem reserve_small {state : State} (allocated : Allocated state) (size : Int)
    {block : List UInt8} (reserved : (reserve state (int size)).sendBuffer = some block) :
    block.length < 2 ^ 31 := by
  unfold reserve at reserved
  split at reserved
  · obtain ⟨positive, same⟩ := Option.ite_none_right_eq_some.mp reserved
    cases same
    have bound := Libwebsockets.int_lt size
    rw [List.length_replicate]
    omega
  · exact allocated.small block reserved

private theorem writeDatas_fits {state : State} (allocated : Allocated state)
    {datas : List (List UInt8)}
    (fits : Fits datas) :
    ∃ next, writeDatas state datas = some next ∧ Allocated next ∧
      next.written = state.written ++ [encodeFrame .binaryFrame true none datas.flatten] := by
  have fits : lwsPre + datas.flatten.length < 2 ^ 31 := fits
  have size : sizeFrom 0 datas = ((0 + datas.flatten.length : Nat) : Int) :=
    sizeFrom_eq datas 0 (by omega)
  rw [Nat.zero_add] at size
  have full : int ((lwsPre : Int) + (datas.flatten.length : Int) + 0) =
      ((lwsPre + datas.flatten.length : Nat) : Int) := by
    rw [Int.add_zero, Libwebsockets.int_of_small]
    · rfl
    · omega
    · omega
  obtain ⟨block, reserved, long, small⟩ := reserve_spec allocated fits
  have copied : copyFrom block 0 datas = _ := copyFrom_eq datas block 0 (by omega) small
  rw [Nat.add_zero, if_pos long] at copied
  have padded : (block.take lwsPre).length = lwsPre := by
    rw [List.length_take]
    omega
  obtain ⟨sent, wrote, kept⟩ := Libwebsockets.lwsWrite_eq .binaryFrame padded datas.flatten
    (block.drop (lwsPre + datas.flatten.length))
  have same : sent.length = block.length := by
    rw [kept, List.length_append, List.length_append, padded, List.length_drop]
    omega
  refine ⟨{ sendBuffer := some sent
            sendBufferLength := block.length
            written := state.written ++ [encodeFrame .binaryFrame true none datas.flatten] },
    ?_, ⟨?_, ?_, ?_⟩, rfl⟩
  · rw [writeDatas, size, full, reserved]
    dsimp only [Option.bind_eq_bind, Option.bind_some]
    rw [copied, Option.bind_some, wrote, Option.bind_some]
  · exact congrArg Int.ofNat same.symm
  · intro other held
    cases held
    omega
  · intro other held
    cases held
    omega

/-- A copy that stays inside the block is a copy of no more than the block has room for. -/
theorem fits_of_copyFrom {block copied : List UInt8} {datas : List (List UInt8)}
    (small : block.length < 2 ^ 31) (taken : copyFrom block 0 datas = some copied) :
    Fits datas := by
  by_cases room : lwsPre ≤ block.length
  · have inside := copyFrom_eq datas block 0 room small
    rw [Nat.cast_zero] at inside
    rw [inside] at taken
    have long := (Option.ite_none_right_eq_some.mp taken).1
    exact Nat.lt_of_le_of_lt long small
  · cases datas with
    | nil => exact (by decide : lwsPre + 0 < 2 ^ 31)
    | cons data rest =>
        rw [copyFrom, show (lwsPre : Int) + 0 = ((lwsPre : Nat) : Int) from rfl,
          Libwebsockets.memcpy_eq, if_neg (by omega)] at taken
        cases taken

theorem fits_of_writeDatas {state next : State} (allocated : Allocated state)
    {datas : List (List UInt8)} (taken : writeDatas state datas = some next) : Fits datas := by
  obtain ⟨block, reserved, taken⟩ := Option.bind_eq_some_iff.mp taken
  obtain ⟨copied, inside, _⟩ := Option.bind_eq_some_iff.mp taken
  exact fits_of_copyFrom (reserve_small allocated _ reserved) inside

theorem reachable_allocated {state : State} (reached : machine.Reachable state) :
    Allocated state := by
  apply reached.invariant Allocated
  · intro start starts
    cases starts
    refine ⟨rfl, ?_, ?_⟩
    · intro block none
      cases none
    · intro block none
      cases none
  · intro before datas next _ allocated taken
    obtain ⟨after, wrote, again, _⟩ :=
      writeDatas_fits allocated (fits_of_writeDatas allocated taken)
    have same : next = after := Option.some.inj (taken.symm.trans wrote)
    rw [same]
    exact again

/-- After any history of writes, a list is written whole and inside the block exactly when
it can be counted in an `int`. -/
theorem writesAll_iff_fits {state : State} (reached : machine.Reachable state)
    (datas : List (List UInt8)) : WritesAll state datas ↔ Fits datas := by
  have allocated := reachable_allocated reached
  constructor
  · intro ⟨next, taken, _⟩
    exact fits_of_writeDatas allocated taken
  · intro fits
    obtain ⟨next, taken, again, written⟩ := writeDatas_fits allocated fits
    exact ⟨next, taken, again.measured, written⟩

end SendBuffer
end WebSocketServer
end JSCameraKit

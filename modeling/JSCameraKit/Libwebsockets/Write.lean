import JSCameraKit.Libwebsockets.Frames

set_option autoImplicit false

/-! Blocks of memory and `lws_write` of a server. A block is the bytes that it holds; what is
read or written outside of it is `none`. `lws_write` puts the header of the frame before the
payload, into the bytes that its caller leaves for it. -/

namespace JSCameraKit
namespace Libwebsockets

/-- A number assigned to an `int` of 32 bits. -/
def int (number : Int) : Int :=
  number.bmod (2 ^ 32)

/-- A negative size is a `size_t` that no block has. New bytes are not read before they
are written. -/
def malloc (size : Int) : Option (List UInt8) :=
  if 0 ≤ size then some (List.replicate size.toNat 0) else none

def memcpy (block : List UInt8) (index : Int) (bytes : List UInt8) : Option (List UInt8) :=
  if 0 ≤ index ∧ index + bytes.length ≤ block.length then
    some (block.take index.toNat ++ bytes ++ block.drop (index.toNat + bytes.length))
  else none

/-- `LWS_SEND_BUFFER_PRE_PADDING`: ten bytes of header and four of a mask, padded to words. -/
def lwsPre : Nat := 16

def frameHeader (opcode : Opcode) (length : Nat) : List UInt8 :=
  headerByte opcode true :: lengthBytes false length

/-- A write of the bytes behind `index` leaves the block with the header in place and sends
the frame. -/
def lwsWrite (opcode : Opcode) (block : List UInt8) (index : Nat) (length : Int) :
    Option (List UInt8 × List UInt8) :=
  let header := frameHeader opcode length.toNat
  if 0 ≤ length ∧ index + length ≤ block.length then
    (memcpy block ((index : Int) - header.length) header).map fun block =>
      (block, (block.drop (index - header.length)).take (header.length + length.toNat))
  else none

theorem int_of_small {number : Int} (positive : 0 ≤ number) (small : number < 2 ^ 31) :
    int number = number := by
  apply Int.bmod_eq_of_le
  · omega
  · omega

theorem int_lt (number : Int) : int number < 2 ^ 31 := by
  have bound := Int.bmod_lt (x := number) (m := 2 ^ 32) (by decide)
  unfold int
  omega

theorem memcpy_eq (block : List UInt8) (index : Nat) (bytes : List UInt8) :
    memcpy block index bytes =
      if index + bytes.length ≤ block.length then
        some (block.take index ++ bytes ++ block.drop (index + bytes.length))
      else none := by
  unfold memcpy
  rw [Int.toNat_natCast]
  apply if_congr _ rfl rfl
  omega

private theorem frameHeader_length_le (opcode : Opcode) (length : Nat) :
    (frameHeader opcode length).length ≤ lwsPre := by
  unfold frameHeader lengthBytes lwsPre
  split
  · exact (by decide : 2 ≤ 16)
  · split
    · exact (by decide : 4 ≤ 16)
    · exact (by decide : 10 ≤ 16)

private theorem encodeFrame_eq (opcode : Opcode) (payload : List UInt8) :
    encodeFrame opcode true none payload = frameHeader opcode payload.length ++ payload :=
  rfl

private theorem lengthBytes_length (masked : Bool) (length : Nat) :
    (lengthBytes masked length).length =
      if length < 126 then 1 else if length < 2 ^ 16 then 3 else 9 := by
  unfold lengthBytes
  split
  · rfl
  · split <;> rfl

/-- A longer payload has no shorter header, so a frame tells the length of what it holds. -/
theorem encodeFrame_injective {opcode : Opcode} {payload other : List UInt8}
    (same : encodeFrame opcode true none payload = encodeFrame opcode true none other) :
    payload = other := by
  rw [encodeFrame_eq, encodeFrame_eq, frameHeader, frameHeader] at same
  have bytes : lengthBytes false payload.length ++ payload =
      lengthBytes false other.length ++ other := (List.cons.inj same).2
  have lengths := congrArg List.length bytes
  rw [List.length_append, List.length_append, lengthBytes_length, lengthBytes_length] at lengths
  have length : payload.length = other.length := by
    split_ifs at lengths <;> omega
  rw [length] at bytes
  exact List.append_cancel_left bytes

/-- Behind the padding the payload is sent as one frame, and the block keeps its size. -/
theorem lwsWrite_eq (opcode : Opcode) {padding : List UInt8} (padded : padding.length = lwsPre)
    (payload rest : List UInt8) :
    ∃ block, lwsWrite opcode (padding ++ payload ++ rest) lwsPre payload.length =
        some (block, encodeFrame opcode true none payload) ∧
      block.length = (padding ++ payload ++ rest).length := by
  have room := frameHeader_length_le opcode payload.length
  rw [encodeFrame_eq]
  unfold lwsWrite
  rw [Int.toNat_natCast]
  generalize frameHeader opcode payload.length = header at room ⊢
  dsimp only
  have inside : 0 ≤ (payload.length : Int) ∧
      (lwsPre : Int) + payload.length ≤ (padding ++ payload ++ rest).length := by
    rw [List.length_append, List.length_append, padded]
    omega
  have before : (lwsPre : Int) - header.length = ((lwsPre - header.length : Nat) : Int) := by
    omega
  have behind : lwsPre - header.length + header.length = padding.length := by omega
  have fits : lwsPre - header.length + header.length ≤ (padding ++ payload ++ rest).length := by
    rw [behind, List.append_assoc, List.length_append]
    exact Nat.le_add_right _ _
  have front : ((padding ++ payload ++ rest).take (lwsPre - header.length)).length =
      lwsPre - header.length := by
    rw [List.length_take]
    omega
  rw [if_pos inside, before, memcpy_eq, if_pos fits, behind, Option.map_some]
  generalize (padding ++ payload ++ rest).take (lwsPre - header.length) = start at front
  rw [List.append_assoc padding, List.drop_left]
  refine ⟨_, congrArg some (Prod.ext rfl ?_), ?_⟩
  · dsimp only
    rw [← front, List.append_assoc, List.drop_left, ← List.append_assoc, ← List.length_append]
    exact List.take_left
  · simp only [List.length_append]
    omega

end Libwebsockets
end JSCameraKit

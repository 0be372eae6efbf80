import JSCameraKit.Library.Chunks

set_option autoImplicit false

/-! Input that is taken in blocks of one size. What does not fill a block is held until more
comes, so it is no matter how the input is divided among the calls. -/

namespace Blocks

variable {Chain Item : Type}

def push (size : Nat) (compress : Chain → List Item → Chain) (state : Chain × List Item)
    (item : Item) : Chain × List Item :=
  if (state.2 ++ [item]).length = size then (compress state.1 (state.2 ++ [item]), [])
  else (state.1, state.2 ++ [item])

def absorb (size : Nat) (compress : Chain → List Item → Chain) (state : Chain × List Item)
    (input : List Item) : Chain × List Item :=
  input.foldl (push size compress) state

variable {size : Nat} {compress : Chain → List Item → Chain} {chain : Chain}
  {held : List Item}

theorem absorb_append (state : Chain × List Item) (first second : List Item) :
    absorb size compress state (first ++ second) =
      absorb size compress (absorb size compress state first) second :=
  List.foldl_append ..

theorem absorb_cons (state : Chain × List Item) (item : Item) (rest : List Item) :
    absorb size compress state (item :: rest) =
      absorb size compress (push size compress state item) rest :=
  rfl

theorem push_of_short (short : held.length + 1 < size) (item : Item) :
    push size compress (chain, held) item = (chain, held ++ [item]) := by
  have notFull : (held ++ [item]).length ≠ size := by
    rw [List.length_append, List.length_singleton]
    omega
  exact if_neg notFull

theorem push_of_last (last : held.length + 1 = size) (item : Item) :
    push size compress (chain, held) item = (compress chain (held ++ [item]), []) := by
  have full : (held ++ [item]).length = size := by
    rw [List.length_append, List.length_singleton]
    omega
  exact if_pos full

/-- What does not fill the block is held. -/
theorem absorb_of_short (input : List Item) (short : held.length + input.length < size) :
    absorb size compress (chain, held) input = (chain, held ++ input) := by
  induction input generalizing held with
  | nil => rw [List.append_nil, absorb, List.foldl_nil]
  | cons item rest ih =>
      rw [List.length_cons] at short
      have longer : (held ++ [item]).length = held.length + 1 := by simp
      rw [absorb_cons, push_of_short (by omega), ih (by omega), List.append_assoc]
      rfl

/-- What fills the block is taken with all that was held. -/
theorem absorb_of_full (input : List Item) (room : held.length < size)
    (full : held.length + input.length = size) :
    absorb size compress (chain, held) input = (compress chain (held ++ input), []) := by
  induction input generalizing held with
  | nil =>
      rw [List.length_nil] at full
      omega
  | cons item rest ih =>
      rw [List.length_cons] at full
      have longer : (held ++ [item]).length = held.length + 1 := by simp
      by_cases last : rest = []
      · rw [last] at full ⊢
        rw [absorb_cons, push_of_last full]
        rfl
      · have more := List.length_pos_iff_ne_nil.mpr last
        rw [absorb_cons, push_of_short (by omega), ih (by omega) (by omega),
          List.append_assoc]
        rfl

theorem length_absorb (input : List Item) (chain : Chain) (room : held.length < size) :
    (absorb size compress (chain, held) input).2.length =
      (held.length + input.length) % size := by
  induction input generalizing held chain with
  | nil => exact (Nat.mod_eq_of_lt room).symm
  | cons item rest ih =>
      have longer : (held ++ [item]).length = held.length + 1 := by simp
      rw [absorb_cons, List.length_cons]
      by_cases last : held.length + 1 = size
      · have total : held.length + (rest.length + 1) = size + rest.length := by omega
        rw [push_of_last last, ih _ (by simp; omega), total, Nat.add_mod_left, List.length_nil,
          Nat.zero_add]
      · rw [push_of_short (by omega), ih _ (by omega), longer]
        congr 1
        omega

/-- Input that ends with a block is taken block by block. -/
theorem absorb_eq_cut (input : List Item) (chain : Chain) (room : held.length < size)
    (whole : (held.length + input.length) % size = 0) :
    absorb size compress (chain, held) input =
      ((Chunks.cut size held input).foldl compress chain, []) := by
  induction input generalizing held chain with
  | nil =>
      rw [List.length_nil, Nat.add_zero, Nat.mod_eq_of_lt room] at whole
      rw [List.eq_nil_of_length_eq_zero whole]
      rfl
  | cons item rest ih =>
      rw [List.length_cons] at whole
      rw [absorb_cons, Chunks.cut_cons]
      by_cases last : held.length + 1 = size
      · have full : (held ++ [item]).length = size := by simpa using last
        have wholeRest : (([] : List Item).length + rest.length) % size = 0 := by
          rw [List.length_nil, Nat.zero_add, ← Nat.add_mod_left size, ← last]
          rw [← whole]
          congr 1
          omega
        rw [push_of_last last, if_pos full, List.foldl_cons, ih _ (by simp; omega) wholeRest]
      · have notFull : (held ++ [item]).length ≠ size := by simpa using last
        have longer : (held ++ [item]).length = held.length + 1 := by simp
        rw [push_of_short (by omega), if_neg notFull, ih _ (by omega)]
        rw [longer, ← whole]
        congr 1
        omega

end Blocks

import Mathlib.Logic.Function.Basic
import Mathlib.Tactic.Common
import Mathlib.Tactic.IntervalCases

set_option autoImplicit false

/-! Base64 as base64-decode.c writes and reads it. The encoder takes three bytes a turn and the
decoder four characters, which it looks for among characters that it skips. Its buffer of four
values is never cleared: `quad` is what the stack had. `done` and `out_size` are taken as ints
that do not overflow, which holds of buffers of fewer than 2^31 - 4 bytes. -/

namespace JSCameraKit.Libwebsockets.Base64

def encodeTable : List Char :=
  ['A', 'B', 'C', 'D', 'E', 'F', 'G', 'H', 'I', 'J', 'K', 'L', 'M', 'N', 'O', 'P', 'Q', 'R', 'S',
    'T', 'U', 'V', 'W', 'X', 'Y', 'Z', 'a', 'b', 'c', 'd', 'e', 'f', 'g', 'h', 'i', 'j', 'k',
    'l', 'm', 'n', 'o', 'p', 'q', 'r', 's', 't', 'u', 'v', 'w', 'x', 'y', 'z', '0', '1', '2',
    '3', '4', '5', '6', '7', '8', '9', '+', '/']

def encode (index : UInt8) : UInt8 := (encodeTable.getD index.toNat 'A').toUInt8

/-- `'='` -/
def pad : UInt8 := 61

/-- The codes of the characters of `decode`, which are those of `'+'` to `'z'`. -/
def decodeTable : List UInt8 :=
  [124, 36, 36, 36, 125] ++ [114, 115, 116, 117, 118, 119, 120, 121, 122, 123] ++
    [36, 36, 36, 36, 36, 36, 36] ++
    [62, 63, 64, 65, 66, 67, 68, 69, 70, 71, 72, 73, 74, 75, 76, 77, 78, 79, 80, 81, 82, 83, 84,
      85, 86, 87] ++
    [36, 36, 36, 36, 36, 36] ++
    [88, 89, 90, 91, 92, 93, 94, 95, 96, 97, 98, 99, 100, 101, 102, 103, 104, 105, 106, 107, 108,
      109, 110, 111, 112, 113]

/-- The four characters of a triple of which `len` bytes are of the input. -/
def quadOf (first second third : UInt8) (len : Nat) : List UInt8 :=
  [encode (first >>> 2),
    encode (((first &&& 0x03) <<< 4) ||| ((second &&& 0xf0) >>> 4)),
    if 1 < len then encode (((second &&& 0x0f) <<< 2) ||| ((third &&& 0xc0) >>> 6)) else pad,
    if 2 < len then encode (third &&& 0x3f) else pad]

/-- The end of `lws_b64_encode_string`: what it returns, and all that it has written. -/
def finish (outSize done : Int) (out : List UInt8) : Int × List UInt8 :=
  if outSize ≤ done + 1 then (-1, out) else (done, out ++ [0])

def encodeFrom (outSize : Int) : List UInt8 → Int → List UInt8 → Int × List UInt8
  | [], done, out => finish outSize done out
  | [first], done, out =>
      if outSize ≤ done + 4 then (-1, out)
      else finish outSize (done + 4) (out ++ quadOf first 0 0 1)
  | [first, second], done, out =>
      if outSize ≤ done + 4 then (-1, out)
      else finish outSize (done + 4) (out ++ quadOf first second 0 2)
  | first :: second :: third :: rest, done, out =>
      if outSize ≤ done + 4 then (-1, out)
      else encodeFrom outSize rest (done + 4) (out ++ quadOf first second third 3)

def lwsB64EncodeString (input : List UInt8) (outSize : Int) : Int × List UInt8 :=
  encodeFrom outSize input 0 []

/-- `v` for a character: its value plus one, or zero for one that is skipped. -/
def value (c : UInt8) : UInt8 :=
  let v := if c < 43 ∨ 122 < c then 0 else decodeTable.getD (c.toNat - 43) 0
  if v = 0 then 0 else if v = 36 then 0 else v - 61

/-- The loop to the next character of the alphabet: `c`, `v` and what is left. -/
def scan : UInt8 → List UInt8 → UInt8 × UInt8 × List UInt8
  | c, [] => (c, 0, [])
  | _, char :: rest =>
      if value char = 0 then scan char rest else (char, value char, rest)

structure Quad where
  input : List UInt8
  len : Nat
  c : UInt8
  quad : Nat → UInt8

/-- One turn of the loop over `i`, which ends with the input. -/
def readOne (state : Quad) (i : Nat) : Quad :=
  if state.input = [] then state
  else
    let (c, v, rest) := scan 0 state.input
    if c = 0 then
      { state with
        input := rest
        c := c
        quad := Function.update state.quad i 0 }
    else
      { input := rest
        len := state.len + 1
        c := c
        quad := if v = 0 then state.quad else Function.update state.quad i (v - 1) }

def readQuad (input : List UInt8) (quad : Nat → UInt8) : Quad :=
  [0, 1, 2, 3].foldl readOne
    { input := input
      len := 0
      c := 0
      quad := quad }

/-- The bytes of a group of `len` characters. -/
def bytesOf (quad : Nat → UInt8) (len : Nat) : List UInt8 :=
  (if 2 ≤ len then [(quad 0 <<< 2) ||| (quad 1 >>> 4)] else []) ++
    (if 3 ≤ len then [(quad 1 <<< 4) ||| (quad 2 >>> 2)] else []) ++
    (if 4 ≤ len then [((quad 2 <<< 6) &&& 0xc0) ||| quad 3] else [])

/-- Each turn takes a character or more, so there are no more turns than characters. -/
def decodeFrom (outSize : Int) :
    Nat → List UInt8 → (Nat → UInt8) → Int → List UInt8 → Int × List UInt8
  | 0, _, _, done, out => finish outSize done out
  | _ + 1, [], _, done, out => finish outSize done out
  | fuel + 1, input, quad, done, out =>
      let read := readQuad input quad
      if outSize < done + read.len - 1 then (-1, out)
      else
        let len := if read.input = [] ∧ read.c = pad then read.len - 1 else read.len
        decodeFrom outSize fuel read.input read.quad (done + len - 1)
          (out ++ bytesOf read.quad len)

/-- `in` is a string: it has no zero before its end. -/
def lwsB64DecodeString (input : List UInt8) (outSize : Int) (stale : Nat → UInt8) :
    Int × List UInt8 :=
  decodeFrom outSize input.length input stale 0 []

/-- The string at a place in memory. -/
def cString (bytes : List UInt8) : List UInt8 := bytes.takeWhile fun byte => byte ≠ 0

/-! ### The bits of a group -/

private theorem eq_of_bits {x y : UInt8}
    (bits : ∀ i, i < 8 → x.toBitVec.getLsbD i = y.toBitVec.getLsbD i) : x = y := by
  apply UInt8.toBitVec_inj.mp
  apply BitVec.eq_of_getLsbD_eq
  exact bits

private theorem first_eq (first second : UInt8) :
    ((first >>> 2) <<< 2) |||
      ((((first &&& 0x03) <<< 4) ||| ((second &&& 0xf0) >>> 4)) >>> 4) = first := by
  apply eq_of_bits
  intro i inside
  interval_cases i <;> simp

private theorem second_eq (first second third : UInt8) :
    ((((first &&& 0x03) <<< 4) ||| ((second &&& 0xf0) >>> 4)) <<< 4) |||
      ((((second &&& 0x0f) <<< 2) ||| ((third &&& 0xc0) >>> 6)) >>> 2) = second := by
  apply eq_of_bits
  intro i inside
  interval_cases i <;> simp

private theorem third_eq (second third : UInt8) :
    (((((second &&& 0x0f) <<< 2) ||| ((third &&& 0xc0) >>> 6)) <<< 6) &&& 0xc0) |||
      (third &&& 0x3f) = third := by
  apply eq_of_bits
  intro i inside
  interval_cases i <;> simp

private theorem lt_of_masked {x : UInt8} (masked : x &&& 0x3f = x) : x < 64 := by
  rw [← masked, UInt8.lt_iff_toNat_lt, UInt8.toNat_and]
  exact Nat.lt_succ_of_le Nat.and_le_right

private theorem index_lt (first second third : UInt8) :
    first >>> 2 < 64 ∧ ((first &&& 0x03) <<< 4) ||| ((second &&& 0xf0) >>> 4) < 64 ∧
      ((second &&& 0x0f) <<< 2) ||| ((third &&& 0xc0) >>> 6) < 64 ∧ third &&& 0x3f < 64 := by
  refine ⟨?_, ?_, ?_, ?_⟩ <;> apply lt_of_masked <;> apply eq_of_bits <;> intro i inside <;>
    interval_cases i <;> simp

/-! ### The characters of the alphabet -/

private theorem value_encode (index : UInt8) (small : index < 64) :
    value (encode index) = index + 1 ∧ index + 1 ≠ 0 ∧ encode index ≠ 0 ∧
      encode index ≠ pad := by
  have all : ∀ n, n < 64 → value (encode (UInt8.ofNat n)) = UInt8.ofNat n + 1 ∧
      UInt8.ofNat n + 1 ≠ 0 ∧ encode (UInt8.ofNat n) ≠ 0 ∧ encode (UInt8.ofNat n) ≠ pad := by
    decide
  have this := all index.toNat (UInt8.lt_iff_toNat_lt.mp small)
  rwa [UInt8.ofNat_toNat] at this

private theorem scan_encode (index : UInt8) (small : index < 64) (c : UInt8) (rest : List UInt8) :
    scan c (encode index :: rest) = (encode index, index + 1, rest) := by
  have known := value_encode index small
  rw [scan, known.1, if_neg known.2.1]

/-! ### A group that was written -/

private theorem readOne_encode (index : UInt8) (small : index < 64) (rest : List UInt8) (len : Nat)
    (c : UInt8) (quad : Nat → UInt8) (i : Nat) :
    readOne { input := encode index :: rest, len := len, c := c, quad := quad } i =
      { input := rest
        len := len + 1
        c := encode index
        quad := Function.update quad i index } := by
  have known := value_encode index small
  have less : index + 1 - 1 = index := UInt8.add_sub_cancel ..
  rw [readOne, if_neg (List.cons_ne_nil _ _), scan_encode index small]
  simp only [if_neg known.2.1, if_neg known.2.2.1, less]

private theorem readOne_pads {pads : List UInt8} (spelled : pads = [pad] ∨ pads = [pad, pad])
    (len : Nat) (c : UInt8) (quad : Nat → UInt8) (i : Nat) :
    readOne { input := pads, len := len, c := c, quad := quad } i =
      { input := [], len := len + 1, c := pad, quad := quad } := by
  rcases spelled with one | two
  · rw [one]
    rfl
  · rw [two]
    rfl

private theorem readOne_nil (len : Nat) (c : UInt8) (quad : Nat → UInt8) (i : Nat) :
    readOne { input := [], len := len, c := c, quad := quad } i =
      { input := [], len := len, c := c, quad := quad } :=
  rfl

variable (first second third : UInt8) (quad : Nat → UInt8)

private theorem readQuad_three (rest : List UInt8) :
    (readQuad (quadOf first second third 3 ++ rest) quad).input = rest ∧
      (readQuad (quadOf first second third 3 ++ rest) quad).len = 4 ∧
      (readQuad (quadOf first second third 3 ++ rest) quad).c ≠ pad ∧
      bytesOf (readQuad (quadOf first second third 3 ++ rest) quad).quad 4 =
        [first, second, third] := by
  obtain ⟨small₀, small₁, small₂, small₃⟩ := index_lt first second third
  have last := (value_encode _ small₃).2.2.2
  rw [readQuad, quadOf, if_pos (by decide), if_pos (by decide)]
  simp only [List.foldl_cons, List.foldl_nil, List.cons_append, List.nil_append]
  rw [readOne_encode _ small₀, readOne_encode _ small₁, readOne_encode _ small₂,
    readOne_encode _ small₃]
  refine ⟨rfl, rfl, last, ?_⟩
  simp [bytesOf, first_eq, second_eq, third_eq]

private theorem readQuad_two :
    (readQuad (quadOf first second 0 2) quad).input = [] ∧
      (readQuad (quadOf first second 0 2) quad).len = 4 ∧
      (readQuad (quadOf first second 0 2) quad).c = pad ∧
      bytesOf (readQuad (quadOf first second 0 2) quad).quad 3 = [first, second] := by
  obtain ⟨small₀, small₁, small₂, _⟩ := index_lt first second 0
  rw [readQuad, quadOf, if_pos (by decide), if_neg (by decide)]
  simp only [List.foldl_cons, List.foldl_nil]
  rw [readOne_encode _ small₀, readOne_encode _ small₁, readOne_encode _ small₂,
    readOne_pads (.inl rfl)]
  refine ⟨rfl, rfl, rfl, ?_⟩
  exact congrArg₂ (fun x y => [x, y]) (first_eq first second) (second_eq first second 0)

private theorem readQuad_one :
    (readQuad (quadOf first 0 0 1) quad).input = [] ∧
      (readQuad (quadOf first 0 0 1) quad).len = 3 ∧
      (readQuad (quadOf first 0 0 1) quad).c = pad ∧
      bytesOf (readQuad (quadOf first 0 0 1) quad).quad 2 = [first] := by
  obtain ⟨small₀, small₁, _, _⟩ := index_lt first 0 0
  rw [readQuad, quadOf, if_neg (by decide), if_neg (by decide)]
  simp only [List.foldl_cons, List.foldl_nil]
  rw [readOne_encode _ small₀, readOne_encode _ small₁, readOne_pads (.inr rfl),
    readOne_nil]
  refine ⟨rfl, rfl, rfl, ?_⟩
  exact congrArg (fun x => [x]) (first_eq first 0)

/-! ### The text of any input -/

/-- The characters that the encoder writes where it has the room. -/
def encoded : List UInt8 → List UInt8
  | [] => []
  | [first] => quadOf first 0 0 1
  | [first, second] => quadOf first second 0 2
  | first :: second :: third :: rest => quadOf first second third 3 ++ encoded rest

private theorem length_quadOf (first second third : UInt8) (len : Nat) :
    (quadOf first second third len).length = 4 :=
  rfl

theorem length_encoded (input : List UInt8) :
    (encoded input).length = 4 * ((input.length + 2) / 3) := by
  fun_induction encoded input with
  | case1 => rfl
  | case2 first => rw [length_quadOf, List.length_singleton]
  | case3 first second =>
      rw [length_quadOf, List.length_cons, List.length_singleton]
  | case4 first second third rest ih =>
      rw [List.length_append, length_quadOf, ih]
      simp only [List.length_cons]
      omega

private theorem finish_of_room {outSize done : Int} (room : done + 1 < outSize) (out : List UInt8) :
    finish outSize done out = (done, out ++ [0]) := by
  rw [finish, if_neg (by omega)]

private theorem finish_of_small {outSize done : Int} (small : outSize ≤ done + 1)
    (out : List UInt8) :
    (finish outSize done out).1 = -1 := by
  rw [finish, if_pos small]

private theorem encodeFrom_of_room {outSize : Int} (input : List UInt8) (done : Int)
    (out : List UInt8) (room : done + (encoded input).length + 1 < outSize) :
    encodeFrom outSize input done out =
      (done + (encoded input).length, out ++ encoded input ++ [0]) := by
  fun_induction encoded input generalizing done out with
  | case1 =>
      rw [List.length_nil] at room ⊢
      rw [encodeFrom, finish_of_room (by omega), List.append_nil]
      congr 1
      omega
  | case2 first =>
      rw [length_quadOf] at room ⊢
      rw [encodeFrom, if_neg (by omega), finish_of_room (by omega)]
      rfl
  | case3 first second =>
      rw [length_quadOf] at room ⊢
      rw [encodeFrom, if_neg (by omega), finish_of_room (by omega)]
      rfl
  | case4 first second third rest ih =>
      rw [List.length_append, length_quadOf] at room ⊢
      rw [encodeFrom, if_neg (by omega), ih _ _ (by omega), List.append_assoc out]
      congr 1
      omega

private theorem encodeFrom_of_small {outSize : Int} (input : List UInt8) (done : Int)
    (out : List UInt8) (small : outSize ≤ done + (encoded input).length + 1) :
    (encodeFrom outSize input done out).1 = -1 := by
  fun_induction encoded input generalizing done out with
  | case1 =>
      rw [List.length_nil] at small
      exact finish_of_small (by omega) out
  | case2 first =>
      rw [length_quadOf] at small
      rw [encodeFrom]
      split
      · rfl
      · exact finish_of_small small _
  | case3 first second =>
      rw [length_quadOf] at small
      rw [encodeFrom]
      split
      · rfl
      · exact finish_of_small small _
  | case4 first second third rest ih =>
      rw [List.length_append, length_quadOf] at small
      rw [encodeFrom]
      split
      · rfl
      · exact ih _ _ (by omega)

/-! ### What is read of it -/

private theorem decodeFrom_nil (outSize : Int) (fuel : Nat) (done : Int) (out : List UInt8) :
    decodeFrom outSize fuel [] quad done out = finish outSize done out := by
  cases fuel with
  | zero => rfl
  | succ fuel => rfl

private theorem decodeFrom_turn {outSize done : Int} {fuel count taken : Nat}
    {input rest out bytes : List UInt8} (some : input ≠ [])
    (left : (readQuad input quad).input = rest) (len : (readQuad input quad).len = taken)
    (counted : (if rest = [] ∧ (readQuad input quad).c = pad then taken - 1 else taken) =
      count + 1)
    (bytesAre : bytesOf (readQuad input quad).quad (count + 1) = bytes) :
    decodeFrom outSize (fuel + 1) input quad done out =
      if outSize < done + taken - 1 then (-1, out)
      else
        decodeFrom outSize fuel rest (readQuad input quad).quad (done + count)
          (out ++ bytes) := by
  have added : done + (count + 1 : Nat) - 1 = done + count := by omega
  rw [decodeFrom.eq_3 _ _ _ _ _ _ some]
  simp only [left, len, counted, bytesAre, added]

variable {outSize done : Int} {fuel : Nat} {out : List UInt8}

private theorem quadOf_ne_nil (len : Nat) : quadOf first second third len ≠ [] :=
  List.cons_ne_nil _ _

private theorem decodeFrom_one :
    decodeFrom outSize (fuel + 1) (quadOf first 0 0 1) quad done out =
      if outSize < done + 2 then (-1, out) else finish outSize (done + 1) (out ++ [first]) := by
  obtain ⟨spent, len, c, bytes⟩ := readQuad_one first quad
  have small : done + (3 : Nat) - 1 = done + 2 := by omega
  rw [decodeFrom_turn quad (quadOf_ne_nil first 0 0 1) spent len (if_pos ⟨rfl, c⟩) bytes, small,
    decodeFrom_nil]
  rfl

private theorem decodeFrom_two :
    decodeFrom outSize (fuel + 1) (quadOf first second 0 2) quad done out =
      if outSize < done + 3 then (-1, out)
      else finish outSize (done + 2) (out ++ [first, second]) := by
  obtain ⟨spent, len, c, bytes⟩ := readQuad_two first second quad
  have small : done + (4 : Nat) - 1 = done + 3 := by omega
  rw [decodeFrom_turn quad (quadOf_ne_nil first second 0 2) spent len (if_pos ⟨rfl, c⟩) bytes,
    small, decodeFrom_nil]
  rfl

private theorem decodeFrom_three (outSize done : Int) (fuel : Nat) (out rest : List UInt8) :
    ∃ quad', decodeFrom outSize (fuel + 1) (quadOf first second third 3 ++ rest) quad done out =
      if outSize < done + 3 then (-1, out)
      else decodeFrom outSize fuel rest quad' (done + 3) (out ++ [first, second, third]) := by
  obtain ⟨left, len, c, bytes⟩ := readQuad_three first second third quad rest
  have some := List.append_ne_nil_of_left_ne_nil (quadOf_ne_nil first second third 3) rest
  have small : done + (4 : Nat) - 1 = done + 3 := by omega
  refine ⟨(readQuad (quadOf first second third 3 ++ rest) quad).quad, ?_⟩
  rw [decodeFrom_turn quad some left len (if_neg fun ended => c ended.2) bytes, small]
  rfl

private theorem decodeFrom_of_room (input : List UInt8) (done : Int) (out : List UInt8) (fuel : Nat)
    (enough : (encoded input).length ≤ fuel) (room : done + input.length + 1 < outSize) :
    decodeFrom outSize fuel (encoded input) quad done out =
      (done + input.length, out ++ input ++ [0]) := by
  fun_induction encoded input generalizing done out fuel quad with
  | case1 =>
      rw [List.length_nil] at room ⊢
      rw [decodeFrom_nil, finish_of_room (by omega), List.append_nil]
      congr 1
      omega
  | case2 first =>
      rw [List.length_singleton] at room ⊢
      cases fuel with
      | zero => cases enough
      | succ fuel =>
          rw [decodeFrom_one, if_neg (by omega), finish_of_room (by omega)]
          rfl
  | case3 first second =>
      rw [List.length_cons, List.length_singleton] at room ⊢
      cases fuel with
      | zero => cases enough
      | succ fuel =>
          rw [decodeFrom_two, if_neg (by omega), finish_of_room (by omega)]
          rfl
  | case4 first second third rest ih =>
      rw [List.length_append, length_quadOf] at enough
      simp only [List.length_cons] at room ⊢
      cases fuel with
      | zero => omega
      | succ fuel =>
          obtain ⟨quad', turned⟩ :=
            decodeFrom_three first second third quad outSize done fuel out (encoded rest)
          rw [turned, if_neg (by omega), ih quad' _ _ fuel (by omega) (by omega),
            List.append_assoc out]
          congr 1
          omega

private theorem decodeFrom_of_small (input : List UInt8) (done : Int) (out : List UInt8)
    (fuel : Nat)
    (enough : (encoded input).length ≤ fuel) (small : outSize ≤ done + input.length + 1) :
    (decodeFrom outSize fuel (encoded input) quad done out).1 = -1 := by
  fun_induction encoded input generalizing done out fuel quad with
  | case1 =>
      rw [List.length_nil] at small
      rw [decodeFrom_nil, finish_of_small (by omega)]
  | case2 first =>
      rw [List.length_singleton] at small
      cases fuel with
      | zero => cases enough
      | succ fuel =>
          rw [decodeFrom_one]
          split
          · rfl
          · exact finish_of_small (by omega) _
  | case3 first second =>
      rw [List.length_cons, List.length_singleton] at small
      cases fuel with
      | zero => cases enough
      | succ fuel =>
          rw [decodeFrom_two]
          split
          · rfl
          · exact finish_of_small (by omega) _
  | case4 first second third rest ih =>
      rw [List.length_append, length_quadOf] at enough
      simp only [List.length_cons] at small
      cases fuel with
      | zero => omega
      | succ fuel =>
          obtain ⟨quad', turned⟩ :=
            decodeFrom_three first second third quad outSize done fuel out (encoded rest)
          rw [turned]
          split
          · rfl
          · exact ih quad' _ _ fuel (by omega) (by omega)

/-! ### Strings -/

private theorem quadOf_ne_zero (len : Nat) : ∀ char ∈ quadOf first second third len, char ≠ 0 := by
  obtain ⟨small₀, small₁, small₂, small₃⟩ := index_lt first second third
  have padChar : pad ≠ 0 := by decide
  intro char member
  simp only [quadOf, List.mem_cons, List.not_mem_nil, or_false] at member
  rcases member with rfl | rfl | rfl | rfl
  · exact (value_encode _ small₀).2.2.1
  · exact (value_encode _ small₁).2.2.1
  · split
    · exact (value_encode _ small₂).2.2.1
    · exact padChar
  · split
    · exact (value_encode _ small₃).2.2.1
    · exact padChar

private theorem encoded_ne_zero (input : List UInt8) : ∀ char ∈ encoded input, char ≠ 0 := by
  fun_induction encoded input with
  | case1 => exact fun char member => absurd member List.not_mem_nil
  | case2 first => exact quadOf_ne_zero first 0 0 1
  | case3 first second => exact quadOf_ne_zero first second 0 2
  | case4 first second third rest ih =>
      intro char member
      rcases List.mem_append.mp member with here | later
      · exact quadOf_ne_zero first second third 3 char here
      · exact ih char later

private theorem cString_of_ne_zero {text : List UInt8} (chars : ∀ char ∈ text, char ≠ 0)
    (rest : List UInt8) : cString (text ++ 0 :: rest) = text := by
  induction text with
  | nil => rfl
  | cons char text ih =>
      have here := chars char List.mem_cons_self
      rw [List.cons_append, cString, List.takeWhile_cons_of_pos (by simpa using here), ← cString,
        ih fun later member => chars later (List.mem_cons_of_mem _ member)]

theorem lwsB64EncodeString_eq {outSize : Int} (input : List UInt8)
    (room : ((encoded input).length : Int) + 1 < outSize) :
    lwsB64EncodeString input outSize =
      (((encoded input).length : Int), encoded input ++ [0]) := by
  rw [lwsB64EncodeString, encodeFrom_of_room input 0 [] (by omega), Int.zero_add,
    List.nil_append]

/-- What was encoded is decoded, and each of the two fails where its buffer has less than one
byte more than it writes. -/
theorem lwsB64DecodeString_encoded (input : List UInt8) (encodeSize decodeSize : Int)
    (stale : Nat → UInt8) :
    ((lwsB64EncodeString input encodeSize).1 = -1 ↔
        encodeSize < 4 * ((input.length + 2) / 3 : Nat) + 2) ∧
      ((lwsB64EncodeString input encodeSize).1 ≠ -1 →
        (lwsB64EncodeString input encodeSize).1 = 4 * ((input.length + 2) / 3 : Nat) ∧
          ((lwsB64DecodeString (cString (lwsB64EncodeString input encodeSize).2) decodeSize
              stale).1 = -1 ↔ decodeSize < input.length + 2) ∧
          (input.length + 2 ≤ decodeSize →
            lwsB64DecodeString (cString (lwsB64EncodeString input encodeSize).2) decodeSize
              stale = ((input.length : Int), input ++ [0]))) := by
  have length := length_encoded input
  by_cases room : ((encoded input).length : Int) + 1 < encodeSize
  · have written := lwsB64EncodeString_eq input room
    have text := cString_of_ne_zero (encoded_ne_zero input) []
    rw [written, text]
    have decoded (fits : input.length + 2 ≤ decodeSize) :
        lwsB64DecodeString (encoded input) decodeSize stale =
          ((input.length : Int), input ++ [0]) := by
      rw [lwsB64DecodeString,
        decodeFrom_of_room stale input 0 [] _ (Nat.le_refl _) (by omega), Int.zero_add,
        List.nil_append]
    refine ⟨⟨fun failed => ?_, fun few => ?_⟩, fun _ => ⟨?_, ⟨fun failed => ?_, fun few => ?_⟩,
      decoded⟩⟩
    · omega
    · omega
    · omega
    · by_contra fits
      rw [decoded (by omega)] at failed
      omega
    · exact decodeFrom_of_small stale input 0 [] _ (Nat.le_refl _) (by omega)
  · have failed : (lwsB64EncodeString input encodeSize).1 = -1 :=
      encodeFrom_of_small input 0 [] (by omega)
    exact ⟨⟨fun _ => by omega, fun _ => failed⟩, fun written => absurd failed written⟩

/-! ### The bounds of the buffers -/

private theorem length_finish {outSize done : Int} {out : List UInt8}
    (close : out.length ≤ done + 1)
    (within : (out.length : Int) ≤ max outSize 0) :
    ((finish outSize done out).2.length : Int) ≤ max outSize 0 := by
  rw [finish]
  split
  · exact within
  · rw [List.length_append, List.length_singleton]
    omega

private theorem length_encodeFrom {outSize : Int} (input : List UInt8) (done : Int)
    (out : List UInt8)
    (counted : (out.length : Int) = done) (within : (out.length : Int) ≤ max outSize 0) :
    ((encodeFrom outSize input done out).2.length : Int) ≤ max outSize 0 := by
  fun_induction encoded input generalizing done out with
  | case1 => exact length_finish (by omega) within
  | case2 first =>
      rw [encodeFrom]
      split
      · exact within
      · apply length_finish <;> rw [List.length_append, length_quadOf] <;> omega
  | case3 first second =>
      rw [encodeFrom]
      split
      · exact within
      · apply length_finish <;> rw [List.length_append, length_quadOf] <;> omega
  | case4 first second third rest ih =>
      rw [encodeFrom]
      split
      · exact within
      · apply ih <;> rw [List.length_append, length_quadOf] <;> omega

private theorem scan_suffix (c : UInt8) (input : List UInt8) : (scan c input).2.2 <:+ input := by
  induction input generalizing c with
  | nil => exact List.suffix_refl _
  | cons char rest ih =>
      rw [scan]
      split
      · exact (ih char).trans (List.suffix_cons char rest)
      · exact List.suffix_cons char rest

/-- The character that the loop stops at is one of the input, or the one it began with. -/
theorem scan_mem (c : UInt8) (input : List UInt8) : (scan c input).1 ∈ c :: input := by
  induction input generalizing c with
  | nil => exact List.mem_singleton_self c
  | cons char rest ih =>
      rw [scan]
      split
      · exact List.mem_cons_of_mem c (ih char)
      · exact List.mem_cons_of_mem c List.mem_cons_self

private theorem scan_ne_zero {input : List UInt8} (string : ∀ char ∈ input, char ≠ 0)
    (some : input ≠ []) (c : UInt8) : (scan c input).1 ≠ 0 := by
  cases input with
  | nil => exact absurd rfl some
  | cons char rest =>
      rw [scan]
      split
      · exact string _ (scan_mem char rest)
      · exact string char List.mem_cons_self

private theorem readOne_spec (state : Quad) (i : Nat) (string : ∀ char ∈ state.input, char ≠ 0) :
    (readOne state i).input <:+ state.input ∧
      (readOne state i).len = state.len + (if state.input = [] then 0 else 1) := by
  rw [readOne]
  by_cases spent : state.input = []
  · rw [if_pos spent, if_pos spent]
    exact ⟨List.suffix_refl _, rfl⟩
  · have char := scan_ne_zero string spent 0
    rw [if_neg spent, if_neg spent]
    simp only [if_neg char]
    exact ⟨scan_suffix 0 state.input, trivial⟩

private theorem readTurns_spec (is : List Nat) (state : Quad)
    (string : ∀ char ∈ state.input, char ≠ 0) :
    (is.foldl readOne state).input <:+ state.input ∧
      state.len ≤ (is.foldl readOne state).len ∧
      (is.foldl readOne state).len ≤ state.len + is.length := by
  induction is generalizing state with
  | nil => exact ⟨List.suffix_refl _, Nat.le_refl _, Nat.le_refl _⟩
  | cons i is ih =>
      have one := readOne_spec state i string
      have rest := ih (readOne state i) fun char member => string char (one.1.subset member)
      rw [List.foldl_cons, List.length_cons]
      refine ⟨rest.1.trans one.1, ?_, ?_⟩ <;> split at one <;> omega

private theorem readQuad_spec {input : List UInt8} (string : ∀ char ∈ input, char ≠ 0)
    (some : input ≠ []) (quad : Nat → UInt8) :
    (readQuad input quad).input <:+ input ∧ 1 ≤ (readQuad input quad).len ∧
      (readQuad input quad).len ≤ 4 := by
  have one := readOne_spec { input := input, len := 0, c := 0, quad := quad } 0 string
  have rest := readTurns_spec [1, 2, 3]
    (readOne { input := input, len := 0, c := 0, quad := quad } 0)
    fun char member => string char (one.1.subset member)
  rw [if_neg some] at one
  rw [one.2] at rest
  exact ⟨rest.1.trans one.1, rest.2⟩

private theorem length_bytesOf (quad : Nat → UInt8) (len : Nat) (few : len ≤ 4) :
    (bytesOf quad len).length = len - 1 := by
  have cases : len = 0 ∨ len = 1 ∨ len = 2 ∨ len = 3 ∨ len = 4 := by omega
  rcases cases with rfl | rfl | rfl | rfl | rfl <;> rfl

/-- `done` is what was written, or one less after a last character that is a lone `=`. -/
theorem length_decodeFrom {outSize : Int} (fuel : Nat) (input : List UInt8)
    (quad : Nat → UInt8) (done : Int) (out : List UInt8)
    (string : ∀ char ∈ input, char ≠ 0) (close : (out.length : Int) ≤ done + 1)
    (counted : input ≠ [] → (out.length : Int) = done)
    (within : (out.length : Int) ≤ max outSize 0) :
    ((decodeFrom outSize fuel input quad done out).2.length : Int) ≤ max outSize 0 := by
  induction fuel generalizing input quad done out with
  | zero => exact length_finish close within
  | succ fuel ih =>
      by_cases spent : input = []
      · rw [spent, decodeFrom_nil]
        exact length_finish close within
      · obtain ⟨left, least, most⟩ := readQuad_spec string spent quad
        have same := counted spent
        rw [decodeFrom.eq_3 _ _ _ _ _ _ spent]
        dsimp only
        split
        · exact within
        · have rest : ∀ char ∈ (readQuad input quad).input, char ≠ 0 :=
            fun char member => string char (left.subset member)
          by_cases last : (readQuad input quad).input = [] ∧ (readQuad input quad).c = pad
          · have bytes := length_bytesOf (readQuad input quad).quad
              ((readQuad input quad).len - 1) (by omega)
            rw [if_pos last]
            apply ih _ _ _ _ rest
            · rw [List.length_append, bytes]
              omega
            · exact fun some => absurd last.1 some
            · rw [List.length_append, bytes]
              omega
          · have bytes := length_bytesOf (readQuad input quad).quad (readQuad input quad).len most
            rw [if_neg last]
            apply ih _ _ _ _ rest
            · rw [List.length_append, bytes]
              omega
            · intro _
              rw [List.length_append, bytes]
              omega
            · rw [List.length_append, bytes]
              omega

/-- Neither function writes outside of its buffer, whatever its input. -/
theorem lwsB64_bounds (input text : List UInt8) (outSize : Int) (stale : Nat → UInt8)
    (string : ∀ char ∈ text, char ≠ 0) :
    ((lwsB64EncodeString input outSize).2.length : Int) ≤ max outSize 0 ∧
      ((lwsB64DecodeString text outSize stale).2.length : Int) ≤ max outSize 0 := by
  constructor
  · exact length_encodeFrom input 0 [] rfl (by rw [List.length_nil]; omega)
  · exact length_decodeFrom _ text stale 0 [] string (by rw [List.length_nil]; omega)
      (fun _ => rfl) (by rw [List.length_nil]; omega)

/-- The text is a lone `=`, which makes `done` one less than what was written. -/
theorem lwsB64_bounds_lone :
    ((lwsB64EncodeString [] 2).2.length : Int) ≤ max 2 0 ∧
      ((lwsB64DecodeString [pad] 2 fun _ => 0).2.length : Int) ≤ max 2 0 :=
  lwsB64_bounds [] [pad] 2 (fun _ => 0) fun char member => by
    rw [List.mem_singleton.mp member]
    decide

end JSCameraKit.Libwebsockets.Base64

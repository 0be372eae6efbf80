import JSCameraKit.Library.Blocks
import JSCameraKit.Library.SecureHash

set_option autoImplicit false

/-! SHA-1 as sha-1.c computes it on a little endian machine. The context has one block, which is
filled by `memcpy`, turned into words by swapping its bytes, and used as the queue of the
schedule. -/

namespace JSCameraKit.Libwebsockets.Sha1

open SecureHash (Words rotate)

structure Sha1Ctxt where
  h : Words
  c : UInt64
  m : List UInt8
  count : Nat

/-- `bzero` -/
def zeros (length : Nat) : List UInt8 := List.replicate length 0

/-- The bytes of each word in the other order. -/
def swapped (m : List UInt8) : List UInt8 :=
  (List.range 64).map fun i => m.getD (i / 4 * 4 + (3 - i % 4)) 0

/-- `W(n)`, least significant byte first. -/
def word (m : List UInt8) (n : Nat) : UInt32 :=
  (m.getD (4 * n) 0).toUInt32 ||| ((m.getD (4 * n + 1) 0).toUInt32 <<< 8) |||
    ((m.getD (4 * n + 2) 0).toUInt32 <<< 16) ||| ((m.getD (4 * n + 3) 0).toUInt32 <<< 24)

def f0 (b c d : UInt32) : UInt32 := (b &&& c) ||| (~~~b &&& d)

def f1 (b c d : UInt32) : UInt32 := (b ^^^ c) ^^^ d

def f2 (b c d : UInt32) : UInt32 := (b &&& c) ||| (b &&& d) ||| (c &&& d)

def f3 (b c d : UInt32) : UInt32 := (b ^^^ c) ^^^ d

def constants : List UInt32 := [0x5a827999, 0x6ed9eba1, 0x8f1bbcdc, 0xca62c1d6]

/-- The body of a loop of `sha1_step`, with the queue and the variables `a` to `e`. -/
def roundBody (f : UInt32 → UInt32 → UInt32 → UInt32) (state : List UInt32 × Words)
    (t : Nat) : List UInt32 × Words :=
  let s := t &&& 0x0f
  let w :=
    if 16 ≤ t then
      state.1.set s
        (rotate 1 (state.1.getD ((s + 13) &&& 0x0f) 0 ^^^ state.1.getD ((s + 8) &&& 0x0f) 0 ^^^
          state.1.getD ((s + 2) &&& 0x0f) 0 ^^^ state.1.getD s 0))
    else state.1
  let v := state.2
  (w,
    { a := rotate 5 v.a + f v.b v.c v.d + v.e + w.getD s 0 + constants.getD (t / 20) 0
      b := v.a
      c := rotate 30 v.b
      d := v.c
      e := v.d })

def rounds (f : UInt32 → UInt32 → UInt32 → UInt32) (first : Nat)
    (state : List UInt32 × Words) : List UInt32 × Words :=
  (List.range' first 20).foldl (roundBody f) state

def sha1Step (ctxt : Sha1Ctxt) : Sha1Ctxt :=
  let w := (List.range 16).map (word (swapped ctxt.m))
  let v := (rounds f3 60 (rounds f2 40 (rounds f1 20 (rounds f0 0 (w, ctxt.h))))).2
  { ctxt with
    h := SecureHash.add ctxt.h v
    m := zeros 64 }

/-- Bytes are put behind those that the block has. -/
def put (ctxt : Sha1Ctxt) (bytes : List UInt8) : Sha1Ctxt :=
  { ctxt with
    m := ctxt.m.take ctxt.count ++ bytes ++ ctxt.m.drop (ctxt.count + bytes.length)
    count := (ctxt.count + bytes.length) % 64 }

def stepIfFull (ctxt : Sha1Ctxt) : Sha1Ctxt :=
  if ctxt.count % 64 = 0 then sha1Step ctxt else ctxt

/-- `PUTPAD` -/
def putPad (ctxt : Sha1Ctxt) (byte : UInt8) : Sha1Ctxt := stepIfFull (put ctxt [byte])

def sha1Init : Sha1Ctxt :=
  { h := SecureHash.start
    c := 0
    m := zeros 64
    count := 0 }

/-- The byte `c.b8[n]` of the count of bits. -/
def countByte (c : UInt64) (n : Nat) : UInt8 := (c >>> (8 * n).toUInt64).toUInt8

/-- The block is finished where there is no place left in it for the count of bits. -/
def makeRoom (ctxt : Sha1Ctxt) : Sha1Ctxt :=
  let padlen := 64 - ctxt.count % 64
  if padlen < 8 then sha1Step (put ctxt (zeros padlen)) else ctxt

def sha1Pad (ctxt : Sha1Ctxt) : Sha1Ctxt :=
  let roomy := makeRoom (putPad ctxt 0x80)
  let filled := put roomy (zeros (64 - roomy.count % 64 - 8))
  [7, 6, 5, 4, 3, 2, 1, 0].foldl (fun ctxt n => putPad ctxt (countByte ctxt.c n)) filled

/-- Each turn takes some of the input, so there are no more turns than bytes. -/
def sha1LoopFrom : Nat → Sha1Ctxt → List UInt8 → Sha1Ctxt
  | 0, ctxt, _ => ctxt
  | _ + 1, ctxt, [] => ctxt
  | fuel + 1, ctxt, input =>
      let copysiz := min (64 - ctxt.count % 64) input.length
      let copied := put ctxt (input.take copysiz)
      sha1LoopFrom fuel
        (stepIfFull { copied with c := copied.c + UInt64.ofNat (copysiz * 8) })
        (input.drop copysiz)

def sha1Loop (ctxt : Sha1Ctxt) (input : List UInt8) : Sha1Ctxt :=
  sha1LoopFrom input.length ctxt input

def sha1Result (ctxt : Sha1Ctxt) : List UInt8 := SecureHash.digest (sha1Pad ctxt).h

def lwsSHA1 (d : List UInt8) : List UInt8 := sha1Result (sha1Loop sha1Init d)

/-! ### One block -/

private theorem word_swapped (m : List UInt8) {n : Nat} (within : n < 16) :
    word (swapped m) n = SecureHash.spelled m n := by
  have byte : ∀ j k, j + k = 3 → (swapped m).getD (4 * n + j) 0 = m.getD (4 * n + k) 0 := by
    intro j k few
    have inside : 4 * n + j < 64 := by omega
    have place : (4 * n + j) / 4 * 4 + (3 - (4 * n + j) % 4) = 4 * n + k := by omega
    rw [swapped, List.getD_eq_getElem?_getD, List.getElem?_map, List.getElem?_range inside,
      Option.map_some, Option.getD_some, place]
  have first := byte 0 3 rfl
  rw [Nat.add_zero] at first
  have last := byte 3 0 rfl
  rw [Nat.add_zero] at last
  rw [word, SecureHash.spelled, first, byte 1 2 rfl, byte 2 1 rfl, last]
  generalize (m.getD (4 * n) 0).toUInt32 <<< 24 = w
  generalize (m.getD (4 * n + 1) 0).toUInt32 <<< 16 = x
  generalize (m.getD (4 * n + 2) 0).toUInt32 <<< 8 = y
  rw [UInt32.or_comm _ w, UInt32.or_comm _ x, UInt32.or_comm _ y, UInt32.or_assoc,
    UInt32.or_assoc]

private theorem and_fifteen (t : Nat) : t &&& 0x0f = t % 16 := Nat.and_two_pow_sub_one_eq_mod t 4

/-- The variables and the queue as they are before round `t` on a block. -/
structure Running (block : Nat → UInt32) (h : Words) (t : Nat)
    (state : List UInt32 × Words) : Prop where
  values : state.2 = (List.range t).foldl (SecureHash.round (SecureHash.schedule block)) h
  queued : SecureHash.Queued block (fun n => state.1.getD n 0) t
  length : state.1.length = 16

/-- `f` and the constant of a loop are those of round `t`. -/
def Agrees (f : UInt32 → UInt32 → UInt32 → UInt32) (t : Nat) : Prop :=
  f = SecureHash.choose t ∧ constants.getD (t / 20) 0 = SecureHash.constant t

variable {block : Nat → UInt32} {h : Words} {f : UInt32 → UInt32 → UInt32 → UInt32}

private theorem getD_set (w : List UInt32) {s : Nat} (within : s < w.length) (value : UInt32) :
    (fun n => (w.set s value).getD n 0) = Function.update (fun n => w.getD n 0) s value := by
  funext n
  rw [List.getD_eq_getElem?_getD, List.getElem?_set]
  by_cases same : s = n
  · subst same
    rw [if_pos rfl, if_pos within, Function.update_self]
    rfl
  · rw [if_neg same, Function.update_of_ne (Ne.symm same), List.getD_eq_getElem?_getD]

theorem Running.roundBody {t : Nat} {state : List UInt32 × Words}
    (running : Running block h t state) (agrees : Agrees f t) :
    Running block h (t + 1) (Sha1.roundBody f state t) := by
  rcases running with ⟨values, queued, length⟩
  rcases agrees with ⟨function, constant⟩
  have places : ∀ k, (t % 16 + k) % 16 = (t + k) % 16 := fun k => by omega
  have place : t % 16 < state.1.length := by
    rw [length]
    exact Nat.mod_lt t (by decide)
  by_cases later : 16 ≤ t
  · obtain ⟨word, next⟩ := queued.of_later later
    have written := getD_set state.1 place (SecureHash.schedule block t)
    have here := congrFun written (t % 16)
    rw [Function.update_self] at here
    have body : Sha1.roundBody f state t =
        (state.1.set (t % 16) (SecureHash.schedule block t),
          SecureHash.round (SecureHash.schedule block) state.2 t) := by
      simp only [Sha1.roundBody, and_fifteen, places, if_pos later, word, here]
      rw [SecureHash.round, function, constant]
    rw [body]
    constructor
    · rw [List.range_succ, List.foldl_append, ← values, List.foldl_cons, List.foldl_nil]
    · rw [written]
      exact next
    · rw [List.length_set, length]
  · obtain ⟨next, word⟩ := queued.of_first (by omega)
    have body : Sha1.roundBody f state t =
        (state.1, SecureHash.round (SecureHash.schedule block) state.2 t) := by
      simp only [Sha1.roundBody, and_fifteen, if_neg later, word]
      rw [SecureHash.round, function, constant]
    rw [body]
    constructor
    · rw [List.range_succ, List.foldl_append, ← values, List.foldl_cons, List.foldl_nil]
    · exact next
    · exact length

theorem Running.foldl {state : List UInt32 × Words} (first count : Nat)
    (running : Running block h first state)
    (agrees : ∀ t, first ≤ t → t < first + count → Agrees f t) :
    Running block h (first + count)
      ((List.range' first count).foldl (Sha1.roundBody f) state) := by
  induction count generalizing first state with
  | zero => exact running
  | succ count ih =>
      have one := running.roundBody (agrees first (by omega) (by omega))
      have rest := ih (first + 1) one fun t after before => agrees t (by omega) (by omega)
      rw [Nat.add_assoc, Nat.add_comm 1] at rest
      exact rest

theorem Running.rounds {state : List UInt32 × Words} (first : Nat)
    (running : Running block h first state)
    (agrees : ∀ t, first ≤ t → t < first + 20 → Agrees f t) :
    Running block h (first + 20) (Sha1.rounds f first state) :=
  running.foldl first 20 agrees

private theorem agrees_f0 {t : Nat} (below : t < 20) : Agrees f0 t := by
  constructor
  · funext b c d
    rw [SecureHash.choose, if_pos below, f0]
  · rw [SecureHash.constant, if_pos below, Nat.div_eq_of_lt below]
    rfl

private theorem agrees_f1 {t : Nat} (above : 20 ≤ t) (below : t < 40) : Agrees f1 t := by
  constructor
  · funext b c d
    rw [SecureHash.choose, if_neg (by omega), if_pos below, f1]
  · have index : t / 20 = 1 := by omega
    rw [SecureHash.constant, if_neg (by omega), if_pos below, index]
    rfl

private theorem agrees_f2 {t : Nat} (above : 40 ≤ t) (below : t < 60) : Agrees f2 t := by
  constructor
  · funext b c d
    rw [SecureHash.choose, if_neg (by omega), if_neg (by omega), if_pos below, f2]
  · have index : t / 20 = 2 := by omega
    rw [SecureHash.constant, if_neg (by omega), if_neg (by omega), if_pos below, index]
    rfl

private theorem agrees_f3 {t : Nat} (above : 60 ≤ t) (below : t < 80) : Agrees f3 t := by
  constructor
  · funext b c d
    rw [SecureHash.choose, if_neg (by omega), if_neg (by omega), if_neg (by omega), f3]
  · have index : t / 20 = 3 := by omega
    rw [SecureHash.constant, if_neg (by omega), if_neg (by omega), if_neg (by omega), index]
    rfl

private theorem sha1Step_h (ctxt : Sha1Ctxt) :
    (sha1Step ctxt).h = SecureHash.compress ctxt.h ctxt.m := by
  have words : ∀ n, n < 16 → ((List.range 16).map (word (swapped ctxt.m))).getD n 0 =
      SecureHash.spelled ctxt.m n := by
    intro n within
    rw [List.getD_eq_getElem?_getD, List.getElem?_map, List.getElem?_range within, Option.map_some,
      Option.getD_some, word_swapped ctxt.m within]
  have running : Running (SecureHash.spelled ctxt.m) ctxt.h 0
      ((List.range 16).map (word (swapped ctxt.m)), ctxt.h) :=
    ⟨rfl, SecureHash.queued_zero words, rfl⟩
  have first := running.rounds 0 fun t _ below => agrees_f0 below
  have second := first.rounds 20 fun t above below => agrees_f1 above below
  have third := second.rounds 40 fun t above below => agrees_f2 above below
  have fourth := third.rounds 60 fun t above below => agrees_f3 above below
  rw [SecureHash.compress_eq]
  simp only [sha1Step]
  rw [fourth.values]

/-! ### The context and the bytes that it holds -/

/-- What the context has taken so far: the chain, and the bytes of the block in it. -/
structure Holding (ctxt : Sha1Ctxt) (state : Words × List UInt8) : Prop where
  chain : ctxt.h = state.1
  held : ctxt.m.take ctxt.count = state.2
  block : ctxt.m.length = 64
  room : ctxt.count < 64

theorem Holding.count {ctxt : Sha1Ctxt} {state : Words × List UInt8}
    (holding : Holding ctxt state) : state.2.length = ctxt.count := by
  rw [← holding.held, List.length_take, holding.block]
  have room := holding.room
  omega

private theorem holding_sha1Init : Holding sha1Init (SecureHash.start, []) where
  chain := rfl
  held := rfl
  block := List.length_replicate ..
  room := by decide

private theorem length_put {ctxt : Sha1Ctxt} {bytes : List UInt8} (block : ctxt.m.length = 64)
    (fits : ctxt.count + bytes.length ≤ 64) : (put ctxt bytes).m.length = 64 := by
  simp only [put, List.length_append, List.length_take, List.length_drop, block]
  omega

variable {ctxt : Sha1Ctxt} {state : Words × List UInt8} {bytes : List UInt8}

variable (bytes) in
theorem Holding.put (holding : Holding ctxt state)
    (short : ctxt.count + bytes.length < 64) :
    Holding (Sha1.put ctxt bytes) (Blocks.absorb 64 SecureHash.compress state bytes) := by
  have count := holding.count
  have counted : (Sha1.put ctxt bytes).count = ctxt.count + bytes.length :=
    Nat.mod_eq_of_lt short
  rw [Blocks.absorb_of_short bytes (by omega)]
  refine ⟨holding.chain, ?_, length_put holding.block (by omega), by omega⟩
  rw [counted, Sha1.put, holding.held, List.take_left' (by rw [List.length_append, count])]

variable (bytes) in
theorem Holding.step (holding : Holding ctxt state)
    (full : ctxt.count + bytes.length = 64) :
    Holding (sha1Step (Sha1.put ctxt bytes))
        (Blocks.absorb 64 SecureHash.compress state bytes) ∧
      (Sha1.put ctxt bytes).count = 0 := by
  have count := holding.count
  have room := holding.room
  have counted : (Sha1.put ctxt bytes).count = 0 := by
    rw [Sha1.put, full]
  have whole : (Sha1.put ctxt bytes).m = state.2 ++ bytes := by
    rw [Sha1.put, full, holding.held, List.drop_of_length_le (Nat.le_of_eq holding.block),
      List.append_nil]
  rw [Blocks.absorb_of_full bytes (by omega) (by omega)]
  refine ⟨⟨?_, ?_, List.length_replicate .., ?_⟩, counted⟩
  · rw [sha1Step_h, whole, ← holding.chain]
    rfl
  · rw [sha1Step, counted, List.take_zero]
  · rw [sha1Step, counted]
    decide

variable (bytes) in
theorem Holding.stepIfFull (holding : Holding ctxt state)
    (fits : ctxt.count + bytes.length ≤ 64) (some : 0 < bytes.length) :
    Holding (Sha1.stepIfFull (Sha1.put ctxt bytes))
      (Blocks.absorb 64 SecureHash.compress state bytes) := by
  by_cases full : ctxt.count + bytes.length = 64
  · have stepped := holding.step bytes full
    rw [Sha1.stepIfFull, stepped.2, if_pos rfl]
    exact stepped.1
  · have counted : (Sha1.put ctxt bytes).count = ctxt.count + bytes.length :=
      Nat.mod_eq_of_lt (by omega)
    rw [Sha1.stepIfFull, if_neg (by omega)]
    exact holding.put bytes (by omega)

private theorem stepIfFull_bits (ctxt : Sha1Ctxt) (c : UInt64) :
    stepIfFull { ctxt with c := c } = { stepIfFull ctxt with c := c } := by
  rw [stepIfFull, stepIfFull]
  split
  · rw [sha1Step, sha1Step]
  · rfl

private theorem c_put (ctxt : Sha1Ctxt) (bytes : List UInt8) : (put ctxt bytes).c = ctxt.c := by
  rw [put]

private theorem c_stepIfFull (ctxt : Sha1Ctxt) : (stepIfFull ctxt).c = ctxt.c := by
  rw [stepIfFull]
  split
  · rw [sha1Step]
  · rfl

/-! ### Input in parts -/

theorem Holding.sha1LoopFrom (fuel : Nat) (input : List UInt8) (enough : input.length ≤ fuel)
    (holding : Holding ctxt state) :
    Holding (Sha1.sha1LoopFrom fuel ctxt input)
        (Blocks.absorb 64 SecureHash.compress state input) ∧
      (Sha1.sha1LoopFrom fuel ctxt input).c = ctxt.c + UInt64.ofNat (8 * input.length) := by
  induction fuel generalizing ctxt state input with
  | zero =>
      rw [List.eq_nil_of_length_eq_zero (Nat.le_zero.mp enough)]
      exact ⟨holding, (UInt64.add_zero _).symm⟩
  | succ fuel ih =>
      cases input with
      | nil => exact ⟨holding, (UInt64.add_zero _).symm⟩
      | cons byte rest =>
          have room := holding.room
          have small : ctxt.count % 64 = ctxt.count := Nat.mod_eq_of_lt room
          generalize inputIs : byte :: rest = input at *
          have some : 0 < input.length := by
            rw [← inputIs]
            exact Nat.succ_pos _
          generalize copyIs : min (64 - ctxt.count % 64) input.length = copysiz
          have copied : (input.take copysiz).length = copysiz := by
            rw [List.length_take]
            omega
          have stepped := holding.stepIfFull (input.take copysiz) (by omega) (by omega)
          have left : (input.drop copysiz).length = input.length - copysiz :=
            List.length_drop ..
          have turn : Holding
              { Sha1.stepIfFull (Sha1.put ctxt (input.take copysiz)) with
                c := ctxt.c + UInt64.ofNat (copysiz * 8) }
              (Blocks.absorb 64 SecureHash.compress state (input.take copysiz)) :=
            ⟨stepped.chain, stepped.held, stepped.block, stepped.room⟩
          have rest := ih (input.drop copysiz) (by omega) turn
          have bits : ctxt.c + UInt64.ofNat (copysiz * 8) +
              UInt64.ofNat (8 * (input.length - copysiz)) =
              ctxt.c + UInt64.ofNat (8 * input.length) := by
            rw [UInt64.add_assoc, ← UInt64.ofNat_add]
            congr 2
            omega
          rw [← Blocks.absorb_append, List.take_append_drop, left, bits] at rest
          have some : input ≠ [] := List.length_pos_iff_ne_nil.mp some
          rw [Sha1.sha1LoopFrom.eq_3 _ _ _ some, stepIfFull_bits, copyIs]
          exact rest

/-- What the context is after a message, however it came. -/
structure Took (ctxt : Sha1Ctxt) (message : List UInt8) : Prop where
  holding : Holding ctxt (Blocks.absorb 64 SecureHash.compress (SecureHash.start, []) message)
  bits : ctxt.c = UInt64.ofNat (8 * message.length)

private theorem took_sha1Init : Took sha1Init [] :=
  ⟨holding_sha1Init, rfl⟩

theorem Took.sha1Loop {message : List UInt8} (took : Took ctxt message) (input : List UInt8) :
    Took (Sha1.sha1Loop ctxt input) (message ++ input) := by
  have looped := took.holding.sha1LoopFrom input.length input (Nat.le_refl _)
  constructor
  · rw [Blocks.absorb_append]
    exact looped.1
  · have counted := looped.2
    rw [took.bits, ← UInt64.ofNat_add, ← Nat.mul_add, ← List.length_append] at counted
    exact counted

theorem Took.parts {message : List UInt8} (took : Took ctxt message)
    (parts : List (List UInt8)) :
    Took (parts.foldl Sha1.sha1Loop ctxt) (message ++ parts.flatten) := by
  induction parts generalizing ctxt message with
  | nil =>
      rw [List.flatten_nil, List.append_nil]
      exact took
  | cons part parts ih =>
      rw [List.flatten_cons, ← List.append_assoc]
      exact ih (took.sha1Loop part)

theorem Holding.count_absorb {taken : List UInt8}
    (holding : Holding ctxt
      (Blocks.absorb 64 SecureHash.compress (SecureHash.start, []) taken)) :
    ctxt.count = taken.length % 64 := by
  rw [← holding.count, Blocks.length_absorb _ _ (by decide)]
  congr 1
  exact Nat.zero_add _

/-! ### The padding -/

theorem Holding.putPads (bits : UInt64) (counted : ctxt.c = bits) (ns : List Nat)
    (holding : Holding ctxt state) :
    Holding (ns.foldl (fun ctxt n => putPad ctxt (countByte ctxt.c n)) ctxt)
      (Blocks.absorb 64 SecureHash.compress state (ns.map (countByte bits))) := by
  induction ns generalizing ctxt state with
  | nil => exact holding
  | cons n ns ih =>
      have room := holding.room
      have one := holding.stepIfFull [countByte bits n] room Nat.one_pos
      have both : (n :: ns).map (countByte bits) = [countByte bits n] ++ ns.map (countByte bits) :=
        rfl
      rw [both, Blocks.absorb_append, List.foldl_cons, counted]
      refine ih ?_ one
      rw [putPad, c_stepIfFull]
      exact counted

private theorem countBytes_eq (bits : UInt64) :
    [7, 6, 5, 4, 3, 2, 1, 0].map (countByte bits) = SecureHash.lengthBytes bits := by
  have last : bits >>> 0 = bits := UInt64.shiftRight_zero
  simp only [SecureHash.lengthBytes, List.map_cons, List.map_nil, countByte]
  rw [show Nat.toUInt64 (8 * 0) = 0 from rfl, last]
  rfl

theorem Holding.makeRoom (holding : Holding ctxt state) :
    ∃ n, Holding (Sha1.makeRoom ctxt) (Blocks.absorb 64 SecureHash.compress state (zeros n)) ∧
      (Sha1.makeRoom ctxt).c = ctxt.c ∧ (Sha1.makeRoom ctxt).count ≤ 56 ∧
      n + (56 - (Sha1.makeRoom ctxt).count) = (120 - ctxt.count) % 64 := by
  have room := holding.room
  have small : ctxt.count % 64 = ctxt.count := Nat.mod_eq_of_lt room
  rw [Sha1.makeRoom, small]
  by_cases late : 64 - ctxt.count < 8
  · have zeros_length : (zeros (64 - ctxt.count)).length = 64 - ctxt.count :=
      List.length_replicate ..
    have stepped := holding.step (zeros (64 - ctxt.count)) (by omega)
    have counted : (sha1Step (Sha1.put ctxt (zeros (64 - ctxt.count)))).count = 0 := by
      rw [sha1Step, stepped.2]
    refine ⟨64 - ctxt.count, ?_⟩
    rw [if_pos late, counted]
    exact ⟨stepped.1, by rw [sha1Step, Sha1.put], by omega, by omega⟩
  · refine ⟨0, ?_⟩
    rw [if_neg late]
    exact ⟨holding, rfl, by omega, by omega⟩

/-- The zeros before the count of bits are those of the standard, in one block or in two. -/
theorem sha1Pad_h {message : List UInt8} (took : Took ctxt message) :
    (sha1Pad ctxt).h =
      (Blocks.absorb 64 SecureHash.compress (SecureHash.start, [])
        (SecureHash.pad message)).1 := by
  have count := took.holding.count_absorb
  have marked : Holding (putPad ctxt 0x80)
      (Blocks.absorb 64 SecureHash.compress (SecureHash.start, []) (message ++ [0x80])) := by
    rw [Blocks.absorb_append]
    exact took.holding.stepIfFull [0x80] took.holding.room Nat.one_pos
  have markedCount := marked.count_absorb
  rw [List.length_append, List.length_singleton] at markedCount
  obtain ⟨n, roomy, bits, early, zeroes⟩ := marked.makeRoom
  have filled := roomy.put (zeros (56 - (makeRoom (putPad ctxt 0x80)).count))
    (by rw [zeros, List.length_replicate]; omega)
  have counted : (put (makeRoom (putPad ctxt 0x80))
      (zeros (56 - (makeRoom (putPad ctxt 0x80)).count))).c = ctxt.c := by
    rw [c_put, bits, putPad, c_stepIfFull, c_put]
  have padded := filled.putPads ctxt.c counted [7, 6, 5, 4, 3, 2, 1, 0]
  have all : message ++ [0x80] ++ (zeros n ++
      (zeros (56 - (makeRoom (putPad ctxt 0x80)).count) ++
        [7, 6, 5, 4, 3, 2, 1, 0].map (countByte ctxt.c))) = SecureHash.pad message := by
    have between : n + (56 - (makeRoom (putPad ctxt 0x80)).count) =
        (119 - message.length % 64) % 64 := by omega
    rw [countBytes_eq, took.bits, ← List.append_assoc (zeros n), zeros, zeros,
      List.replicate_append_replicate, between, List.append_assoc, SecureHash.pad,
      SecureHash.padding]
    rfl
  rw [← Blocks.absorb_append, ← Blocks.absorb_append, ← Blocks.absorb_append, all] at padded
  have few : 64 - (makeRoom (putPad ctxt 0x80)).count % 64 - 8 =
      56 - (makeRoom (putPad ctxt 0x80)).count := by omega
  rw [← padded.chain, sha1Pad, few]

private theorem sha1Result_eq {message : List UInt8} (took : Took ctxt message) :
    sha1Result ctxt = SecureHash.hash message := by
  rw [sha1Result, SecureHash.hash, sha1Pad_h took,
    Blocks.absorb_eq_cut (SecureHash.pad message) _ (by decide)
      (by rw [List.length_nil, Nat.zero_add]; exact SecureHash.length_pad message)]

theorem lwsSHA1_eq (d : List UInt8) : lwsSHA1 d = SecureHash.hash d :=
  sha1Result_eq (took_sha1Init.sha1Loop d)

/-- However a message is divided among the calls, its digest is SHA-1's. -/
theorem sha1Result_streamed (parts : List (List UInt8)) :
    sha1Result (parts.foldl sha1Loop sha1Init) = SecureHash.hash parts.flatten :=
  sha1Result_eq (took_sha1Init.parts parts)

/-- The digest of "abc". -/
example : lwsSHA1 [97, 98, 99] =
    [0xa9, 0x99, 0x3e, 0x36, 0x47, 0x06, 0x81, 0x6a, 0xba, 0x3e, 0x25, 0x71, 0x78, 0x50, 0xc2,
      0x6c, 0x9c, 0xd0, 0xd8, 0x9d] := by decide +kernel

end JSCameraKit.Libwebsockets.Sha1

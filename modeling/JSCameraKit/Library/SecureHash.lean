import JSCameraKit.Library.Chunks
import Mathlib.Logic.Function.Basic
import Mathlib.Tactic.Common

set_option autoImplicit false

/-! SHA-1 as its standard defines it: the message is padded to blocks of 64 bytes, each block
has a schedule of 80 words, and each word makes one round on five. The schedule may be kept in a
queue of 16 words, which the later words take the places of the earlier ones in. -/

namespace SecureHash

structure Words where
  a : UInt32
  b : UInt32
  c : UInt32
  d : UInt32
  e : UInt32
  deriving DecidableEq

def rotate (n x : UInt32) : UInt32 := (x <<< n) ||| (x >>> (32 - n))

/-- The words of a block that its bytes spell. -/
def spelled (block : List UInt8) (n : Nat) : UInt32 :=
  ((block.getD (4 * n) 0).toUInt32 <<< 24) ||| ((block.getD (4 * n + 1) 0).toUInt32 <<< 16) |||
    ((block.getD (4 * n + 2) 0).toUInt32 <<< 8) ||| (block.getD (4 * n + 3) 0).toUInt32

/-- The word behind those of a schedule that there are, the last of which comes first. -/
def nextWord (block : Nat → UInt32) (t : Nat) (words : List UInt32) : UInt32 :=
  if t < 16 then block t
  else
    rotate 1 (words.getD 2 0 ^^^ words.getD 7 0 ^^^ words.getD 13 0 ^^^ words.getD 15 0)

/-- So many words of the schedule, the last of them first. -/
def scheduled (block : Nat → UInt32) : Nat → List UInt32
  | 0 => []
  | t + 1 => nextWord block t (scheduled block t) :: scheduled block t

def schedule (block : Nat → UInt32) (t : Nat) : UInt32 := nextWord block t (scheduled block t)

/-- The function and the constant of a round. -/
def choose (t : Nat) (b c d : UInt32) : UInt32 :=
  if t < 20 then (b &&& c) ||| (~~~b &&& d)
  else if t < 40 then b ^^^ c ^^^ d
  else if t < 60 then (b &&& c) ||| (b &&& d) ||| (c &&& d)
  else b ^^^ c ^^^ d

def constant (t : Nat) : UInt32 :=
  if t < 20 then 0x5a827999
  else if t < 40 then 0x6ed9eba1
  else if t < 60 then 0x8f1bbcdc
  else 0xca62c1d6

def round (words : Nat → UInt32) (v : Words) (t : Nat) : Words :=
  { a := rotate 5 v.a + choose t v.b v.c v.d + v.e + words t + constant t
    b := v.a
    c := rotate 30 v.b
    d := v.c
    e := v.d }

def add (v w : Words) : Words :=
  { a := v.a + w.a
    b := v.b + w.b
    c := v.c + w.c
    d := v.d + w.d
    e := v.e + w.e }

def compress (h : Words) (block : List UInt8) : Words :=
  let words := (scheduled (spelled block) 80).reverse
  add h ((List.range 80).foldl (round fun t => words.getD t 0) h)

def start : Words :=
  { a := 0x67452301
    b := 0xefcdab89
    c := 0x98badcfe
    d := 0x10325476
    e := 0xc3d2e1f0 }

/-- The length of a message in bits, most significant byte first. -/
def lengthBytes (bits : UInt64) : List UInt8 :=
  [bits >>> 56, bits >>> 48, bits >>> 40, bits >>> 32, bits >>> 24, bits >>> 16, bits >>> 8,
    bits].map UInt64.toUInt8

def padding (length : Nat) : List UInt8 :=
  0x80 :: List.replicate ((119 - length % 64) % 64) 0 ++
    lengthBytes (UInt64.ofNat (8 * length))

def pad (message : List UInt8) : List UInt8 := message ++ padding message.length

def bytesOf (word : UInt32) : List UInt8 :=
  [word >>> 24, word >>> 16, word >>> 8, word].map UInt32.toUInt8

def digest (v : Words) : List UInt8 :=
  bytesOf v.a ++ bytesOf v.b ++ bytesOf v.c ++ bytesOf v.d ++ bytesOf v.e

def hash (message : List UInt8) : List UInt8 :=
  digest ((Chunks.cut 64 [] (pad message)).foldl compress start)

theorem length_pad (message : List UInt8) : (pad message).length % 64 = 0 := by
  have length : (pad message).length =
      message.length + ((119 - message.length % 64) % 64) + 9 := by
    simp only [pad, padding, lengthBytes, List.length_append, List.length_cons,
      List.length_replicate, List.length_map, List.length_nil]
    omega
  omega

theorem length_hash (message : List UInt8) : (hash message).length = 20 := by
  simp [hash, digest, bytesOf]

/-! ### The schedule -/

theorem length_scheduled (block : Nat → UInt32) (t : Nat) : (scheduled block t).length = t := by
  induction t with
  | zero => rfl
  | succ t ih => rw [scheduled, List.length_cons, ih]

/-- The word at a place of the list, counted from its last one. -/
theorem getD_scheduled (block : Nat → UInt32) {t back : Nat} (before : back < t) :
    (scheduled block t).getD back 0 = schedule block (t - 1 - back) := by
  induction t generalizing back with
  | zero => exact absurd before (Nat.not_lt_zero back)
  | succ t ih =>
      cases back with
      | zero => rfl
      | succ back =>
          rw [scheduled, List.getD_cons_succ, ih (by omega)]
          congr 1
          omega

theorem getD_reverse_scheduled (block : Nat → UInt32) {t count : Nat} (within : t < count) :
    (scheduled block count).reverse.getD t 0 = schedule block t := by
  have length := length_scheduled block count
  rw [List.getD_eq_getElem?_getD, List.getElem?_reverse (by omega), length,
    ← List.getD_eq_getElem?_getD, getD_scheduled block (by omega)]
  congr 1
  omega

theorem schedule_of_lt (block : Nat → UInt32) {t : Nat} (first : t < 16) :
    schedule block t = block t := by
  rw [schedule, nextWord, if_pos first]

theorem schedule_of_le (block : Nat → UInt32) {t : Nat} (later : 16 ≤ t) :
    schedule block t =
      rotate 1 (schedule block (t - 3) ^^^ schedule block (t - 8) ^^^ schedule block (t - 14) ^^^
        schedule block (t - 16)) := by
  rw [schedule, nextWord, if_neg (by omega), getD_scheduled block (by omega),
    getD_scheduled block (by omega), getD_scheduled block (by omega),
    getD_scheduled block (by omega)]
  rfl

theorem foldl_round_congr {words others : Nat → UInt32} (times : List Nat)
    (same : ∀ t ∈ times, words t = others t) (v : Words) :
    times.foldl (round words) v = times.foldl (round others) v := by
  induction times generalizing v with
  | nil => rfl
  | cons t times ih =>
      have later : ∀ u ∈ times, words u = others u :=
        fun u member => same u (List.mem_cons_of_mem t member)
      rw [List.foldl_cons, List.foldl_cons, ih later, round, round, same t List.mem_cons_self]

theorem compress_eq (h : Words) (block : List UInt8) :
    compress h block = add h ((List.range 80).foldl (round (schedule (spelled block))) h) := by
  rw [compress]
  rw [foldl_round_congr (List.range 80) fun t member =>
    getD_reverse_scheduled (spelled block) (List.mem_range.mp member)]

/-! ### The schedule in a queue -/

/-- The queue has the 16 words before a round, or those of the block. -/
def Queued (block queue : Nat → UInt32) (t : Nat) : Prop :=
  ∀ u, t ≤ u + 16 → u < max t 16 → queue (u % 16) = schedule block u

variable {block queue : Nat → UInt32} {t : Nat}

theorem queued_zero (same : ∀ n, n < 16 → queue n = block n) : Queued block queue 0 := by
  intro u _ within
  have first : u < 16 := by omega
  rw [Nat.mod_eq_of_lt first, same u first, schedule_of_lt block first]

theorem Queued.of_first (queued : Queued block queue t) (first : t < 16) :
    Queued block queue (t + 1) ∧ queue (t % 16) = schedule block t := by
  constructor
  · intro u recent within
    exact queued u (by omega) (by omega)
  · exact queued t (by omega) (by omega)

/-- The next word takes the place of the one 16 rounds before. -/
theorem Queued.of_later (queued : Queued block queue t) (later : 16 ≤ t) :
    rotate 1 (queue ((t + 13) % 16) ^^^ queue ((t + 8) % 16) ^^^ queue ((t + 2) % 16) ^^^
        queue (t % 16)) = schedule block t ∧
      Queued block (Function.update queue (t % 16) (schedule block t)) (t + 1) := by
  have word : ∀ back, 0 < back → back ≤ 16 →
      queue ((t + (16 - back)) % 16) = schedule block (t - back) := by
    intro back positive few
    rw [← queued (t - back) (by omega) (by omega)]
    congr 1
    omega
  constructor
  · rw [schedule_of_le block later, ← word 3 (by omega) (by omega), ← word 8 (by omega) (by omega),
      ← word 14 (by omega) (by omega), ← word 16 (by omega) (by omega)]
    rfl
  · intro u recent within
    by_cases newest : u = t
    · rw [newest, Function.update_self]
    · have elsewhere : u % 16 ≠ t % 16 := by omega
      rw [Function.update_of_ne elsewhere]
      exact queued u (by omega) (by omega)

end SecureHash

import JSCameraKit.Libwebsockets.Write

set_option autoImplicit false

/-! The text messages of the server: the block that `writeString:` enqueues, and what the
browser makes of its frame. An `NSString` is its text; its length counts UTF-16 code units
and the bytes that are copied are UTF-8. JSON is a parameter, with what holds of its texts. -/

namespace JSCameraKit
namespace WebSocketServer

open Libwebsockets (malloc memcpy memcpy_eq lwsPre lwsWrite lwsWrite_eq encodeFrame
  encodeFrame_injective)

/-- The code units of a character, a surrogate pair where one does not hold it. -/
def utf16Units (c : Char) : List UInt16 :=
  if c.val < 0x10000 then [c.val.toUInt16]
  else
    [0xD800 + ((c.val - 0x10000) / 0x400).toUInt16, 0xDC00 + ((c.val - 0x10000) % 0x400).toUInt16]

def utf16Length (string : String) : Nat :=
  (string.toList.flatMap utf16Units).length

/-- `string.UTF8String`, without the byte that ends it. -/
def utf8String (string : String) : List UInt8 :=
  string.toList.flatMap String.utf8EncodeChar

def readBytes (string : String) (length : Nat) : Option (List UInt8) :=
  if length ≤ (utf8String string ++ [0]).length then some ((utf8String string ++ [0]).take length)
  else none

/-- The frame that the block of `writeString:` makes for one client. -/
def writeText (string : String) : Option (List UInt8) := do
  let buffer ← malloc (lwsPre + utf16Length string + 0)
  let bytes ← readBytes string (utf16Length string)
  let buffer ← memcpy buffer lwsPre bytes
  let (_, frame) ← lwsWrite .textFrame buffer lwsPre (utf16Length string)
  some frame

def SendsText (string : String) : Prop :=
  writeText string = some (encodeFrame .textFrame true none (utf8String string))

def Ascii (string : String) : Prop :=
  ∀ c ∈ string.toList, c.toNat ≤ 0x7F

instance (string : String) : Decidable (Ascii string) :=
  List.decidableBAll (fun c : Char => c.toNat ≤ 0x7F) string.toList

/-! ### The two lengths -/

private theorem utf16Units_length_of_ascii {c : Char} (ascii : c.toNat ≤ 0x7F) :
    (utf16Units c).length = (String.utf8EncodeChar c).length := by
  have narrow : c.val ≤ 127 := UInt32.le_iff_toNat_le.mpr ascii
  have small : c.val < 0x10000 := UInt32.lt_of_le_of_lt narrow (by decide)
  rw [String.length_utf8EncodeChar, Char.utf8Size_eq_one_iff.mpr narrow, utf16Units, if_pos small]
  rfl

private theorem utf16Units_length_lt {c : Char} (wide : ¬c.toNat ≤ 0x7F) :
    (utf16Units c).length < (String.utf8EncodeChar c).length := by
  have more : c.utf8Size ≠ 1 := fun one =>
    wide (UInt32.le_iff_toNat_le.mp (Char.utf8Size_eq_one_iff.mp one))
  have some := c.utf8Size_pos
  rw [String.length_utf8EncodeChar, utf16Units]
  by_cases small : c.val < 0x10000
  · rw [if_pos small, List.length_singleton]
    omega
  · have above : 0xFFFF < c.val :=
      UInt32.lt_of_lt_of_le (by decide) (UInt32.not_lt.mp small)
    rw [if_neg small, Char.utf8Size_eq_four_iff.mpr above]
    exact (by decide : 2 < 4)

private theorem utf16_length_le (chars : List Char) :
    (chars.flatMap utf16Units).length ≤ (chars.flatMap String.utf8EncodeChar).length := by
  induction chars with
  | nil => exact Nat.le_refl 0
  | cons c rest ih =>
      rw [List.flatMap_cons, List.flatMap_cons, List.length_append, List.length_append]
      by_cases ascii : c.toNat ≤ 0x7F
      · have same := utf16Units_length_of_ascii ascii
        omega
      · have fewer := utf16Units_length_lt ascii
        omega

/-- One character outside of ASCII makes a difference that no other makes up for. -/
theorem utf16_length_eq_iff (chars : List Char) :
    (chars.flatMap utf16Units).length = (chars.flatMap String.utf8EncodeChar).length ↔
      ∀ c ∈ chars, c.toNat ≤ 0x7F := by
  induction chars with
  | nil => exact ⟨fun _ => List.forall_mem_nil _, fun _ => rfl⟩
  | cons c rest ih =>
      have atMost := utf16_length_le rest
      rw [List.flatMap_cons, List.flatMap_cons, List.length_append, List.length_append,
        List.forall_mem_cons, ← ih]
      constructor
      · intro same
        by_cases ascii : c.toNat ≤ 0x7F
        · have equal := utf16Units_length_of_ascii ascii
          exact ⟨ascii, by omega⟩
        · have fewer := utf16Units_length_lt ascii
          omega
      · intro ⟨ascii, same⟩
        rw [utf16Units_length_of_ascii ascii, same]

private theorem utf16Length_le (string : String) : utf16Length string ≤
    (utf8String string).length :=
  utf16_length_le string.toList

private theorem utf16Length_eq_iff (string : String) :
    utf16Length string = (utf8String string).length ↔ Ascii string :=
  utf16_length_eq_iff string.toList

/-! ### The frame -/

private theorem writeText_eq (string : String) :
    writeText string =
      some (encodeFrame .textFrame true none ((utf8String string).take (utf16Length string))) := by
  have inside := utf16Length_le string
  have copied : ((utf8String string).take (utf16Length string)).length = utf16Length string :=
    List.length_take_of_le inside
  have read : readBytes string (utf16Length string) =
      some ((utf8String string).take (utf16Length string)) := by
    rw [readBytes, List.length_append, if_pos (Nat.le_add_right_of_le inside),
      List.take_append_of_le_length inside]
  generalize (utf8String string).take (utf16Length string) = bytes at copied read ⊢
  have block : malloc (lwsPre + utf16Length string + 0) =
      some (List.replicate (lwsPre + bytes.length) 0) := by
    rw [malloc, copied, if_pos (by omega)]
    congr 2
  have written : memcpy (List.replicate (lwsPre + bytes.length) 0) lwsPre bytes =
      some (List.replicate lwsPre 0 ++ bytes ++ []) := by
    rw [memcpy_eq, List.length_replicate, if_pos (Nat.le_refl _), List.take_replicate,
      List.drop_replicate, Nat.sub_self, Nat.min_eq_left (Nat.le_add_right _ _)]
    rfl
  obtain ⟨sent, framed, _⟩ :=
    lwsWrite_eq .textFrame (List.length_replicate (n := lwsPre) (a := 0)) bytes []
  rw [copied] at framed
  rw [writeText, block, read]
  simp only [Option.bind_eq_bind, Option.bind_some, written, framed]

private theorem sendsText_iff_ascii (string : String) : SendsText string ↔ Ascii string := by
  rw [SendsText, writeText_eq, Option.some_inj, ← utf16Length_eq_iff]
  constructor
  · intro same
    have whole := encodeFrame_injective same
    have counted := congrArg List.length whole
    rw [List.length_take_of_le (utf16Length_le string)] at counted
    exact counted
  · intro same
    rw [same, List.take_length]

/-! ### The text of a frame -/

private theorem toArray_utf8String (string : String) :
    (⟨(utf8String string).toArray⟩ : ByteArray) = string.toByteArray := by
  rw [← String.utf8Encode_toList]
  apply ByteArray.ext
  exact (List.data_toByteArray).symm

end WebSocketServer

namespace Browser

open WebSocketServer (utf8String toArray_utf8String)

/-- The string of a text message; one that is not UTF-8 closes the connection. -/
def decodeText (payload : List UInt8) : Option String :=
  String.fromUTF8? ⟨payload.toArray⟩

/-- What is relied on of JSON: the text of a value is parsed to that value, and what is left
of it without its last bytes is not JSON. -/
structure Json (Value : Type) where
  dataWithJSONObject : Value → String
  parse : String → Option Value
  parse_dataWithJSONObject : ∀ json, parse (dataWithJSONObject json) = some json
  parse_cut : ∀ json cut length, length < (utf8String (dataWithJSONObject json)).length →
    utf8String cut = (utf8String (dataWithJSONObject json)).take length → parse cut = none

/-- The value that the handler for `message` emits as `json-message`. -/
def Json.onMessage {Value : Type} (json : Json Value) (payload : List UInt8) : Option Value :=
  (decodeText payload).bind json.parse

private theorem decodeText_utf8String (string : String) :
    decodeText (utf8String string) = some string := by
  rw [decodeText, toArray_utf8String, String.fromUTF8?, dif_pos string.isValidUTF8]
  rfl

private theorem utf8String_of_decodeText {payload : List UInt8} {string : String}
    (decoded : decodeText payload = some string) : utf8String string = payload := by
  unfold decodeText String.fromUTF8? at decoded
  split at decoded
  next valid =>
    have same : string.toByteArray = ⟨payload.toArray⟩ := by
      rw [← Option.some.inj decoded]
      rfl
    rw [← toArray_utf8String] at same
    exact List.toArray_inj (congrArg ByteArray.data same)
  next => contradiction

namespace Json

variable {Value : Type} (json : Json Value)

theorem onMessage_whole (value : Value) :
    json.onMessage (utf8String (json.dataWithJSONObject value)) = some value := by
  rw [onMessage, decodeText_utf8String]
  exact json.parse_dataWithJSONObject value

theorem onMessage_cut (value : Value) {length : Nat}
    (short : length < (utf8String (json.dataWithJSONObject value)).length) :
    json.onMessage ((utf8String (json.dataWithJSONObject value)).take length) = none := by
  unfold onMessage
  cases decoded : decodeText ((utf8String (json.dataWithJSONObject value)).take length) with
  | none => rfl
  | some cut => exact json.parse_cut value cut length short (utf8String_of_decodeText decoded)

end Json
end Browser

namespace Session

open Browser (Json)
open Libwebsockets (encodeFrame encodeFrame_injective)
open WebSocketServer (writeText writeText_eq SendsText Ascii utf8String utf16Length utf16Length_le
  utf16Length_eq_iff sendsText_iff_ascii)

/-- The client parses the frame that `writeJSON:` sends back to the value. -/
def ParsesBack {Value : Type} (json : Json Value) (value : Value) : Prop :=
  ∃ payload, writeText (json.dataWithJSONObject value) =
      some (encodeFrame .textFrame true none payload) ∧ json.onMessage payload = some value

private theorem parsesBack_iff_ascii {Value : Type} (json : Json Value) (value : Value) :
    ParsesBack json value ↔ Ascii (json.dataWithJSONObject value) := by
  constructor
  · intro ⟨payload, sent, parsed⟩
    rw [writeText_eq] at sent
    have held := encodeFrame_injective (Option.some.inj sent)
    rw [← utf16Length_eq_iff]
    by_contra differ
    have cut := json.onMessage_cut value (lt_of_le_of_ne (utf16Length_le _) differ)
    rw [held, parsed] at cut
    contradiction
  · intro ascii
    exact ⟨_, (sendsText_iff_ascii _).mpr ascii, json.onMessage_whole value⟩

/-- The length that is counted is that of the bytes for no other string: a text frame holds
the whole string, and a value comes back, exactly when every character is ASCII. -/
theorem textPayloads_iff_ascii {Value : Type} (json : Json Value) :
    (∀ string, SendsText string ↔ Ascii string) ∧
      ∀ value, ParsesBack json value ↔ Ascii (json.dataWithJSONObject value) :=
  ⟨sendsText_iff_ascii, parsesBack_iff_ascii json⟩

/-- An array of one letter, with an accent or without. -/
def letterText (accented : Bool) : String :=
  if accented then "[\"é\"]" else "[\"e\"]"

private theorem letterText_cut : ∀ accented other, ∀ length <
    (utf8String (letterText accented)).length,
    utf8String (letterText other) ≠ (utf8String (letterText accented)).take length := by
  decide

def letter : Json Bool where
  dataWithJSONObject := letterText
  parse string :=
    if string = letterText true then some true
    else if string = letterText false then some false
    else none
  parse_dataWithJSONObject := by decide
  parse_cut accented cut length short bytes := by
    have other : ∀ whole, cut ≠ letterText whole := by
      intro whole same
      rw [same] at bytes
      exact letterText_cut accented whole length short bytes
    rw [if_neg (other true), if_neg (other false)]

/-- The letter without the accent comes back, the other does not. -/
theorem textPayloads_of_letter : ParsesBack letter false ∧ ¬ParsesBack letter true := by
  have exact := (textPayloads_iff_ascii letter).2
  exact ⟨(exact false).mpr (by decide), fun back => absurd ((exact true).mp back) (by decide)⟩

theorem not_sendsText_of_accent : ¬SendsText "é" := by
  rw [sendsText_iff_ascii]
  decide

end Session
end JSCameraKit

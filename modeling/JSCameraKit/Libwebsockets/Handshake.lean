import JSCameraKit.Libwebsockets.HeaderLines
import JSCameraKit.Libwebsockets.Sha1
import JSCameraKit.Libwebsockets.Base64

set_option autoImplicit false

/-! The answer to a request for a WebSocket (server-handshake.c). It is put together in the
buffer of the service thread, a text at a time, and the list of the client's extensions is copied
to the start of the same buffer though the program offers none. Where a text has no room, or a
string has no end, the outcome is the parser's fault. -/

namespace JSCameraKit.Libwebsockets.Handshake

open HeaderParser

def tokenHost : Nat := 3

def tokenExtensions : Nat := 9

def tokenProtocol : Nat := 12

def tokenKey : Nat := 32

def maxKeyLen : Nat := 128

/-- `MAX_WEBSOCKET_04_KEY_LEN + LWS_PRE` -/
def responseAt : Nat := 144

/-- `context->pt_serv_buf_size`, where the program asks for none. -/
def ptServBufSize : Nat := 4096

def guid : List UInt8 := Lextable.ascii "258EAFA5-E914-47DA-95CA-C5AB0DC85B11"

def switching : List UInt8 :=
  Lextable.ascii "HTTP/1.1 101 Switching Protocols\r\n" ++
    (Lextable.ascii "Upgrade: WebSocket\r\n" ++ (Lextable.ascii "Connection: Upgrade\r\n" ++
      Lextable.ascii "Sec-WebSocket-Accept: "))

def protocolHeader : List UInt8 := Lextable.ascii "\r\nSec-WebSocket-Protocol: "

def blankLine : List UInt8 := [cr, lf, cr, lf]

/-! ### Strings in memory -/

abbrev Memory := Nat → UInt8

/-- The bytes are written from a place on, if the buffer of that size has room for them. -/
def write (size : Nat) (memory : Memory) (place : Nat) (text : List UInt8) :
    Except Failure Memory :=
  if place + text.length ≤ size then
    .ok fun i => if place ≤ i ∧ i < place + text.length then text.getD (i - place) 0 else memory i
  else .error .fault

/-- The string at a place, if it ends within so many bytes. -/
def stringFrom (memory : Memory) : Nat → Nat → Except Failure (List UInt8)
  | 0, _ => .error .fault
  | room + 1, place =>
      if memory place = 0 then .ok []
      else (stringFrom memory room (place + 1)).map fun rest => memory place :: rest

def string (size : Nat) (memory : Memory) (place : Nat) : Except Failure (List UInt8) :=
  stringFrom memory (size - place) place

/-- The loop of `lws_hdr_copy`. -/
def copyFrom (context : Context) (ah : Headers) (size : Nat) :
    Nat → Nat → Memory → Nat → Except Failure Memory
  | 0, _, _, _ => .error .fault
  | fuel + 1, n, memory, dst =>
      (string context.maxHttpHeaderData ah.data (ah.frags n).offset).bind fun text =>
        (write size memory dst (text ++ [0])).bind fun copied =>
          if (ah.frags n).nfrag = 0 then .ok copied
          else copyFrom context ah size fuel (ah.frags n).nfrag copied (dst + (ah.frags n).len)

/-- `lws_hdr_copy`, into a buffer of that size at `dst`: none where it returns -1. -/
def lwsHdrCopy (context : Context) (ah : Headers) (size : Nat) (memory : Memory)
    (dst len token : Nat) : Except Failure (Option (Nat × Memory)) :=
  match lwsHdrTotalLength ah token with
  | none => .error .fault
  | some toklen =>
      if len ≤ toklen then .ok none
      else if ah.fragIndex token = 0 then .ok (some (0, memory))
      else
        (copyFrom context ah size fragsSize (ah.fragIndex token) memory dst).map fun copied =>
          some (toklen, copied)

/-- A header that is copied to `dst`, or the label `bail`. -/
def copyHeader (context : Context) (ah : Headers) (memory : Memory) (dst len token : Nat) :
    Except Failure (Nat × Memory) :=
  (lwsHdrCopy context ah ptServBufSize memory dst len token).bind fun copied =>
    match copied with
    | none => .error .drop
    | some (n, memory) => .ok (dst + n, memory)

/-- `LWS_CPYAPP` -/
def append (memory : Memory) (p : Nat) (text : List UInt8) : Except Failure (Nat × Memory) :=
  (write ptServBufSize memory p (text ++ [0])).map fun memory => (p + text.length, memory)

/-! ### The answer -/

/-- The key with the identifier behind it, its digest, and the base64 text of that at the start
of the buffer. -/
def acceptKey (context : Context) (ah : Headers) (memory : Memory) (key : Nat) :
    Except Failure (Nat × Memory) :=
  (string context.maxHttpHeaderData ah.data key).bind fun text =>
    (write ptServBufSize memory 0 (text ++ guid ++ [0])).bind fun memory =>
      let encoded := Base64.lwsB64EncodeString (Sha1.lwsSHA1 (text ++ guid)) ptServBufSize
      if encoded.1 < 0 then .error .drop
      else (write ptServBufSize memory 0 encoded.2).map fun memory => (encoded.1.toNat, memory)

def protocolAnswer (context : Context) (ah : Headers) (memory : Memory) (p : Nat) :
    Except Failure (Nat × Memory) :=
  match lwsHdrTotalLength ah tokenProtocol with
  | none => .error .fault
  | some n =>
      if n = 0 then .ok (p, memory)
      else
        (append memory p protocolHeader).bind fun appended =>
          copyHeader context ah appended.2 appended.1 128 tokenProtocol

/-- `lws_extension_server_handshake` where no extension is offered: nothing that the list has is
found, but the list is where the buffer starts. -/
def extensionServerHandshake (context : Context) (ah : Headers) (memory : Memory) :
    Except Failure Memory :=
  match lwsHdrTotalLength ah tokenExtensions with
  | none => .error .fault
  | some n =>
      if n = 0 then .ok memory
      else (copyHeader context ah memory 0 ptServBufSize tokenExtensions).map Prod.snd

/-- The packet of `handshake_0405` up to the list of the extensions. -/
def beginResponse (context : Context) (ah : Headers) (memory : Memory) (acceptLen : Nat) :
    Except Failure (Nat × Memory) :=
  (append memory responseAt switching).bind fun started =>
    (string ptServBufSize started.2 0).bind fun accept =>
      (write ptServBufSize started.2 started.1 (accept ++ [0])).bind fun accepted =>
        protocolAnswer context ah accepted (started.1 + acceptLen)

/-- The rest of the packet, and what `lws_write` is given. -/
def endResponse (context : Context) (ah : Headers) (memory : Memory) (p : Nat) :
    Except Failure (List UInt8) :=
  (extensionServerHandshake context ah memory).bind fun extended =>
    (append extended p blankLine).map fun ended =>
      (List.range (ended.1 - responseAt)).map fun i => ended.2 (responseAt + i)

/-- `handshake_0405` up to `lws_write`. `userSpace` is whether `lws_ensure_user_space` has the
memory of the protocol. -/
def handshake0405 (context : Context) (ah : Headers) (userSpace : Bool) (memory : Memory) :
    Except Failure (List UInt8) :=
  match lwsHdrTotalLength ah tokenHost, lwsHdrTotalLength ah tokenKey with
  | some host, some keyLen =>
      if host = 0 ∨ keyLen = 0 then .error .drop
      else if maxKeyLen ≤ keyLen then .error .drop
      else
        match lwsHdrSimplePtr ah tokenKey with
        | none => .error .fault
        | some key =>
            (acceptKey context ah memory key).bind fun accepted =>
              if userSpace then
                (beginResponse context ah accepted.2 accepted.1).bind fun begun =>
                  endResponse context ah begun.2 begun.1
              else .error .drop
  | _, _ => .error .fault

/-! ### What a write leaves -/

/-- A text lies at a place. -/
def Holds (memory : Memory) (place : Nat) (text : List UInt8) : Prop :=
  ∀ i, i < text.length → memory (place + i) = text.getD i 0

/-- The text is at the place, and nothing else is changed. -/
structure Wrote (before : Memory) (place : Nat) (text : List UInt8) (after : Memory) : Prop where
  holds : Holds after place text
  outside : ∀ i, i < place ∨ place + text.length ≤ i → after i = before i

section Strings

variable {memory after last : Memory} {place size : Nat} {text more : List UInt8}

private theorem bind_ok {α β : Type} {x : Except Failure α} {a : α} (ok : x = .ok a)
    (f : α → Except Failure β) : x.bind f = f a := by
  rw [ok]
  rfl

private theorem map_ok {α β : Type} {x : Except Failure α} {a : α} (ok : x = .ok a) (f : α → β) :
    x.map f = .ok (f a) := by
  rw [ok]
  rfl

private theorem write_wrote (size : Nat) (memory : Memory) (place : Nat) (text : List UInt8)
    (room : place + text.length ≤ size) :
    ∃ after, write size memory place text = .ok after ∧ Wrote memory place text after := by
  refine ⟨_, if_pos room, fun i within => ?_, fun i beyond => if_neg (by omega)⟩
  rw [if_pos ⟨Nat.le_add_right _ _, Nat.add_lt_add_left within _⟩, Nat.add_sub_cancel_left]

theorem Holds.left (holds : Holds memory place (text ++ more)) : Holds memory place text := by
  intro i within
  rw [holds i (by rw [List.length_append]; omega), List.getD_append _ _ _ _ within]

theorem Holds.right (holds : Holds memory place (text ++ more)) :
    Holds memory (place + text.length) more := by
  intro i within
  rw [Nat.add_assoc, holds _ (by rw [List.length_append]; omega),
    List.getD_append_right _ _ _ _ (Nat.le_add_right _ _), Nat.add_sub_cancel_left]

theorem Holds.append (holds : Holds memory place text)
    (behind : Holds memory (place + text.length) more) : Holds memory place (text ++ more) := by
  intro i within
  rw [List.length_append] at within
  by_cases inText : i < text.length
  · rw [holds i inText, List.getD_append _ _ _ _ inText]
  · have split_ : place + i = place + text.length + (i - text.length) := by omega
    rw [split_, behind _ (by omega), List.getD_append_right _ _ _ _ (by omega)]

theorem Holds.apart {other : Nat} (holds : Holds memory place text)
    (wrote : Wrote memory other more after)
    (apart : place + text.length ≤ other ∨ other + more.length ≤ place) :
    Holds after place text := by
  intro i within
  rw [wrote.outside _ (by omega)]
  exact holds i within

theorem Wrote.behind (first : Wrote memory place (text ++ [0]) after)
    (second : Wrote after (place + text.length) (more ++ [0]) last) :
    Wrote memory place (text ++ more ++ [0]) last := by
  refine ⟨?_, fun i beyond => ?_⟩
  · rw [List.append_assoc]
    exact (first.holds.left.apart second (.inl (Nat.le_refl _))).append second.holds
  · have lengths : (text ++ more ++ [0]).length = text.length + more.length + 1 := by
      rw [List.length_append, List.length_append, List.length_singleton]
    have longer : (more ++ [(0 : UInt8)]).length = more.length + 1 := by
      rw [List.length_append, List.length_singleton]
    have shorter : (text ++ [(0 : UInt8)]).length = text.length + 1 := by
      rw [List.length_append, List.length_singleton]
    rw [second.outside i (by omega), first.outside i (by omega)]

private theorem stringFrom_of_holds (text : List UInt8) (clean : 0 ∉ text) (room place : Nat)
    (holds : Holds memory place (text ++ [0])) (enough : text.length < room) :
    stringFrom memory room place = .ok text := by
  induction text generalizing room place with
  | nil =>
      obtain ⟨room, rfl⟩ := Nat.exists_eq_add_of_lt enough
      have ends : memory place = 0 := holds 0 Nat.zero_lt_one
      rw [stringFrom, if_pos ends]
  | cons c rest ih =>
      rw [List.mem_cons, not_or] at clean
      obtain ⟨left, rfl⟩ := Nat.exists_eq_add_of_lt enough
      have here := holds 0 (Nat.succ_pos _)
      rw [Nat.add_zero] at here
      have parts : Holds memory place ([c] ++ (rest ++ [0])) := holds
      have behind : Holds memory (place + 1) (rest ++ [0]) := parts.right
      have notZero : memory place ≠ 0 := by
        rw [here]
        exact fun zero => clean.1 zero.symm
      rw [stringFrom, if_neg notZero, map_ok (ih clean.2 _ _ behind ?_), here]
      · rfl
      · rw [List.length_cons]
        omega

private theorem string_of_holds (clean : 0 ∉ text) (holds : Holds memory place (text ++ [0]))
    (room : place + text.length < size) : string size memory place = .ok text :=
  stringFrom_of_holds text clean _ _ holds (by omega)

private theorem append_wrote (memory : Memory) (p : Nat) (text : List UInt8)
    (room : p + text.length < ptServBufSize) :
    ∃ after, append memory p text = .ok (p + text.length, after) ∧
      Wrote memory p (text ++ [0]) after := by
  obtain ⟨after, written, wrote⟩ := write_wrote ptServBufSize memory p (text ++ [0])
    (by rw [List.length_append, List.length_singleton]; omega)
  exact ⟨after, map_ok written _, wrote⟩

private theorem range_eq_iff : ((List.range text.length).map fun i => memory (place + i)) = text ↔
    Holds memory place text := by
  constructor
  · intro same i within
    have byte : ((List.range text.length).map fun i => memory (place + i)).getD i 0 =
        text.getD i 0 := by rw [same]
    rw [← byte, List.getD_eq_getElem _ _ (by rwa [List.length_map, List.length_range]),
      List.getElem_map, List.getElem_range]
  · intro holds
    apply List.ext_getElem
    · rw [List.length_map, List.length_range]
    · intro i _ within
      rw [List.getElem_map, List.getElem_range, holds i within, List.getD_eq_getElem _ _ within]

end Strings

/-! ### Headers that are copied -/

section Headers

variable {context : Context} {pieces : List Piece} {q : Parser}

private theorem holds_piece (contents : Contents q.ah (flat pieces)) {k token : Nat}
    {text : List UInt8}
    (got : pieces[k]? = some (token, text)) :
    Holds q.ah.data (flat (pieces.take k)).length (text ++ [0]) ∧
      (flat (pieces.take k)).length + text.length < (flat pieces).length := by
  have split_ := flat_split got
  have whole : Holds q.ah.data 0
      (flat (pieces.take k) ++ (text ++ 0 :: flat (pieces.drop (k + 1)))) := by
    intro i within
    rw [← split_] at within ⊢
    rw [Nat.zero_add]
    exact contents.data i within
  have behind := whole.right
  rw [Nat.zero_add, List.append_cons] at behind
  refine ⟨behind.left, ?_⟩
  rw [split_, List.length_append, List.length_append, List.length_cons]
  omega

private theorem mem_textsOf {k token : Nat} {text : List UInt8}
    (got : pieces[k]? = some (token, text)) :
    text ∈ textsOf token pieces := by
  refine List.mem_map.mpr ⟨(token, text), List.mem_filter.mpr ⟨List.mem_of_getElem? got, ?_⟩, rfl⟩
  exact decide_eq_true rfl

private theorem copyFrom_text (table : Table q.ah pieces) (contents : Contents q.ah (flat pieces))
    (fits : (flat pieces).length ≤ context.maxHttpHeaderData) {token : Nat}
    (clean : ∀ text ∈ textsOf token pieces, 0 ∉ text) (size fuel k : Nat)
    {text : List UInt8} (got : pieces[k]? = some (token, text))
    (enough : pieces.length ≤ k + fuel) (memory : Memory) (dst : Nat)
    (room : dst + (text :: textsOf token (pieces.drop (k + 1))).flatten.length < size) :
    ∃ after, copyFrom context q.ah size fuel (k + 1) memory dst = .ok after ∧
      Wrote memory dst ((text :: textsOf token (pieces.drop (k + 1))).flatten ++ [0]) after := by
  induction fuel generalizing k text memory dst with
  | zero =>
      have within := length_of_getElem? got
      omega
  | succ fuel ih =>
      obtain ⟨lies, within⟩ := holds_piece contents got
      have textClean : 0 ∉ text := clean text (mem_textsOf got)
      rw [List.flatten_cons, List.length_append] at room
      obtain ⟨copied, written, wrote⟩ := write_wrote size memory dst (text ++ [0])
        (by rw [List.length_append, List.length_singleton]; omega)
      rw [copyFrom, table.frag k token text got]
      dsimp only
      rw [bind_ok (string_of_holds textClean lies (by omega)), bind_ok written]
      rcases nextOf_cases token (k + 1) pieces with ⟨ends, none⟩ |
        ⟨next, more, later, goes, found, texts⟩
      · rw [if_pos ends, none, List.flatten_cons, List.flatten_nil, List.append_nil]
        exact ⟨copied, rfl, wrote⟩
      · rw [texts] at room
        obtain ⟨after, rest, wroteRest⟩ := ih next found (by omega) copied (dst + text.length)
          (by omega)
        rw [goes, if_neg (Nat.succ_ne_zero next), rest, texts, List.flatten_cons (l := text)]
        exact ⟨after, rfl, wrote.behind wroteRest⟩

private theorem simplePtr_text (parsed : HeaderParser.Parsed pieces q)
    (fits : (flat pieces).length ≤ context.maxHttpHeaderData) {token : Nat} {text : List UInt8}
    {more : List (List UInt8)} (texts : textsOf token pieces = text :: more) :
    ∃ place, lwsHdrSimplePtr q.ah token = some place ∧ Holds q.ah.data place (text ++ [0]) ∧
      place + text.length < context.maxHttpHeaderData := by
  rcases nextOf_cases token 0 pieces with ⟨_, none⟩ | ⟨k, first, _, goes, got, same⟩
  · rw [List.drop_zero, texts] at none
    cases none
  · rw [List.drop_zero, texts] at same
    rw [← List.head_eq_of_cons_eq same] at got
    obtain ⟨lies, within⟩ := holds_piece parsed.contents got
    have index := parsed.table.index token
    rw [goes] at index
    refine ⟨_, ?_, lies, by omega⟩
    rw [lwsHdrSimplePtr, if_neg (by rw [index]; exact Nat.succ_ne_zero k), index,
      parsed.table.frag k token text got]

variable (parsed : HeaderParser.Parsed pieces q) (few : pieces.length ≤ fragsSize)
  (fits : (flat pieces).length ≤ context.maxHttpHeaderData) {token : Nat}
  (clean : ∀ text ∈ textsOf token pieces, 0 ∉ text)

include parsed few

private theorem total_text (token : Nat) :
    lwsHdrTotalLength q.ah token = some (textsOf token pieces).flatten.length :=
  (parsed.header few token).length

private theorem copyHeader_drop (memory : Memory) {dst len : Nat}
    (long : len ≤ (textsOf token pieces).flatten.length) :
    copyHeader context q.ah memory dst len token = .error .drop := by
  rw [copyHeader, lwsHdrCopy, total_text parsed few]
  dsimp only
  rw [if_pos long]
  rfl

include fits clean

private theorem copyHeader_text (memory : Memory) (dst : Nat) {len : Nat}
    (some : (textsOf token pieces).flatten ≠ [])
    (short : (textsOf token pieces).flatten.length < len) (room : dst + len ≤ ptServBufSize) :
    ∃ after, copyHeader context q.ah memory dst len token =
        .ok (dst + (textsOf token pieces).flatten.length, after) ∧
      Wrote memory dst ((textsOf token pieces).flatten ++ [0]) after := by
  rcases nextOf_cases token 0 pieces with ⟨absent, none⟩ | ⟨k, text, _, goes, got, texts⟩
  · rw [List.drop_zero] at none
    rw [none] at some
    exact absurd List.flatten_nil some
  · rw [List.drop_zero] at texts
    have index := parsed.table.index token
    rw [goes] at index
    rw [texts] at short
    obtain ⟨after, copied, wrote⟩ := copyFrom_text parsed.table parsed.contents fits clean
      ptServBufSize fragsSize k got (by omega) memory dst (by omega)
    rw [← texts] at short wrote
    refine ⟨after, ?_, wrote⟩
    rw [copyHeader, lwsHdrCopy, total_text parsed few]
    dsimp only
    rw [if_neg (Nat.not_le.mpr short), if_neg (by rw [index]; exact Nat.succ_ne_zero k), index,
      map_ok copied]
    rfl

end Headers

/-! ### The answer that is due -/

def protocolText (chosen : List UInt8) : List UInt8 :=
  if chosen = [] then [] else protocolHeader ++ chosen

/-- The key is the text of its first line. -/
def acceptText (pieces : List Piece) : List UInt8 :=
  Base64.encoded (SecureHash.hash ((textsOf tokenKey pieces).headD [] ++ guid))

def answerHead (pieces : List Piece) : List UInt8 :=
  switching ++ acceptText pieces ++ protocolText (textsOf tokenProtocol pieces).flatten

/-- What the client waits for. -/
def answer (pieces : List Piece) : List UInt8 := answerHead pieces ++ blankLine

/-- A request that is answered as the standard asks. The list of the extensions has to end in
front of the packet, as the two share a buffer. -/
structure Answered (pieces : List Piece) (userSpace : Bool) : Prop where
  host : (textsOf tokenHost pieces).flatten ≠ []
  key : (textsOf tokenKey pieces).flatten ≠ []
  shortKey : (textsOf tokenKey pieces).flatten.length < maxKeyLen
  space : userSpace = true
  protocol : (textsOf tokenProtocol pieces).flatten.length < 128
  extensions : (textsOf tokenExtensions pieces).flatten.length < responseAt

private theorem encode_ne_zero (index : UInt8) : Base64.encode index ≠ 0 := by
  have all : ∀ n, n < 256 → Base64.encode (UInt8.ofNat n) ≠ 0 := by decide +kernel
  have this := all index.toNat index.toNat_lt
  rwa [UInt8.ofNat_toNat] at this

private theorem zero_notMem_quadOf (first second third : UInt8) (len : Nat) :
    0 ∉ Base64.quadOf first second third len := by
  have pad : Base64.pad ≠ 0 := by decide
  simp only [Base64.quadOf, List.mem_cons, List.not_mem_nil, or_false, not_or]
  refine ⟨(encode_ne_zero _).symm, (encode_ne_zero _).symm, ?_, ?_⟩
  · split
    · exact (encode_ne_zero _).symm
    · exact pad.symm
  · split
    · exact (encode_ne_zero _).symm
    · exact pad.symm

private theorem zero_notMem_encoded (input : List UInt8) : 0 ∉ Base64.encoded input := by
  fun_induction Base64.encoded input with
  | case1 => exact List.not_mem_nil
  | case2 first => exact zero_notMem_quadOf _ _ _ _
  | case3 first second => exact zero_notMem_quadOf _ _ _ _
  | case4 first second third rest ih =>
      rw [List.mem_append, not_or]
      exact ⟨zero_notMem_quadOf _ _ _ _, ih⟩

private theorem length_accept (text : List UInt8) :
    (Base64.encoded (SecureHash.hash text)).length = 28 := by
  rw [Base64.length_encoded, SecureHash.length_hash]

private theorem length_switching : switching.length = 97 := by decide +kernel

private theorem length_guid : guid.length = 36 := by decide +kernel

private theorem length_protocolHeader : protocolHeader.length = 26 := by decide +kernel

private theorem acceptKey_text {context : Context} {ah : Headers} {key : Nat} {text : List UInt8}
    (clean : 0 ∉ text) (holds : Holds ah.data key (text ++ [0]))
    (within : key + text.length < context.maxHttpHeaderData) (short : text.length < maxKeyLen)
    (memory : Memory) :
    ∃ after, acceptKey context ah memory key = .ok (28, after) ∧
      Holds after 0 (Base64.encoded (SecureHash.hash (text ++ guid)) ++ [0]) := by
  have accept := length_accept (text ++ guid)
  have bound : text.length < 128 := short
  obtain ⟨keyed, written, _⟩ := write_wrote ptServBufSize memory 0 (text ++ guid ++ [0])
    (by
      rw [List.length_append, List.length_append, length_guid, List.length_singleton,
        ptServBufSize]
      omega)
  have room : ((Base64.encoded (SecureHash.hash (text ++ guid))).length : Int) + 1 <
      (ptServBufSize : Int) := by
    rw [accept]
    decide
  have encoded := Base64.lwsB64EncodeString_eq (SecureHash.hash (text ++ guid)) room
  obtain ⟨after, writtenAccept, wrote⟩ := write_wrote ptServBufSize keyed 0
    (Base64.encoded (SecureHash.hash (text ++ guid)) ++ [0]) (by
      rw [List.length_append, accept, List.length_singleton, ptServBufSize]
      omega)
  refine ⟨after, ?_, wrote.holds⟩
  rw [acceptKey, bind_ok (string_of_holds clean holds within), bind_ok written]
  dsimp only
  rw [Sha1.lwsSHA1_eq, encoded, accept]
  dsimp only
  rw [if_neg (by decide), map_ok writtenAccept]
  rfl

private theorem length_acceptText (pieces : List Piece) : (acceptText pieces).length = 28 :=
  length_accept _

private theorem length_protocolText (chosen : List UInt8) :
    (protocolText chosen).length ≤ 26 + chosen.length := by
  rw [protocolText]
  split
  · rw [List.length_nil]
    omega
  · rw [List.length_append, length_protocolHeader]

private theorem length_answerHead (pieces : List Piece)
    (short : (textsOf tokenProtocol pieces).flatten.length < 128) :
    (answerHead pieces).length < 300 := by
  have chosen := length_protocolText (textsOf tokenProtocol pieces).flatten
  rw [answerHead, List.length_append, List.length_append, length_switching, length_acceptText]
  omega

private theorem getD_switching : switching.getD 32 0 = cr := by decide +kernel

private theorem zero_notMem_answerHead (pieces : List Piece)
    (clean : ∀ text ∈ textsOf tokenProtocol pieces, 0 ∉ text) : 0 ∉ answerHead pieces := by
  have fixed : 0 ∉ switching ∧ 0 ∉ protocolHeader := by decide +kernel
  rw [answerHead, List.mem_append, List.mem_append, not_or, not_or]
  refine ⟨⟨fixed.1, zero_notMem_encoded _⟩, ?_⟩
  rw [protocolText]
  split
  · exact List.not_mem_nil
  · rw [List.mem_append, not_or]
    refine ⟨fixed.2, fun found => ?_⟩
    obtain ⟨text, member, inText⟩ := List.mem_flatten.mp found
    exact clean text member inText

private theorem beginResponse_eq (context : Context) (ah : Headers) {memory : Memory}
    {pieces : List Piece} (accept : Holds memory 0 (acceptText pieces ++ [0])) :
    ∃ accepted, beginResponse context ah memory 28 =
        protocolAnswer context ah accepted (responseAt + (switching ++ acceptText pieces).length) ∧
      Wrote memory responseAt (switching ++ acceptText pieces ++ [0]) accepted := by
  have length := length_acceptText pieces
  obtain ⟨started, appended, wroteStart⟩ := append_wrote memory responseAt switching
    (by rw [length_switching]; decide)
  have kept : Holds started 0 (acceptText pieces ++ [0]) := accept.apart wroteStart (.inl (by
    rw [List.length_append, length]
    decide))
  obtain ⟨accepted, written, wroteAccept⟩ := write_wrote ptServBufSize started
    (responseAt + switching.length) (acceptText pieces ++ [0]) (by
      rw [List.length_append, length, length_switching]
      decide)
  have read : string ptServBufSize started 0 = .ok (acceptText pieces) :=
    string_of_holds (zero_notMem_encoded _) kept (by rw [length]; decide)
  refine ⟨accepted, ?_, wroteStart.behind wroteAccept⟩
  rw [beginResponse, bind_ok appended, bind_ok read, bind_ok written, List.length_append, length,
    ← Nat.add_assoc]

section Answers

variable {context : Context} {pieces : List Piece} {q : Parser}
  (parsed : HeaderParser.Parsed pieces q) (few : pieces.length ≤ fragsSize)
  (fits : (flat pieces).length ≤ context.maxHttpHeaderData)
  (clean : ∀ token, token ∈ [tokenKey, tokenProtocol, tokenExtensions] →
    ∀ text ∈ textsOf token pieces, 0 ∉ text ∧ cr ∉ text)

include parsed few

private theorem protocolAnswer_drop (memory : Memory) {p : Nat} (room : p < 1000)
    (long : 128 ≤ (textsOf tokenProtocol pieces).flatten.length) :
    protocolAnswer context q.ah memory p = .error .drop := by
  obtain ⟨after, appended, _⟩ := append_wrote memory p protocolHeader
    (by rw [length_protocolHeader, ptServBufSize]; omega)
  rw [protocolAnswer, total_text parsed few]
  dsimp only
  rw [if_neg (by omega), bind_ok appended]
  exact copyHeader_drop parsed few after long

include fits clean

private theorem protocolAnswer_text {before memory : Memory} {place : Nat} {text : List UInt8}
    (wrote : Wrote before place (text ++ [0]) memory) (room : place + text.length < 1000)
    (short : (textsOf tokenProtocol pieces).flatten.length < 128) :
    ∃ after, protocolAnswer context q.ah memory (place + text.length) =
        .ok (place + (text ++ protocolText (textsOf tokenProtocol pieces).flatten).length, after) ∧
      Wrote before place (text ++ protocolText (textsOf tokenProtocol pieces).flatten ++ [0])
        after := by
  rw [protocolAnswer, total_text parsed few, protocolText]
  dsimp only
  by_cases none : (textsOf tokenProtocol pieces).flatten = []
  · rw [none, if_pos (by rw [List.length_nil]), if_pos rfl, List.append_nil]
    exact ⟨memory, rfl, wrote⟩
  · obtain ⟨named, appended, wroteName⟩ := append_wrote memory (place + text.length) protocolHeader
      (by rw [length_protocolHeader, ptServBufSize]; omega)
    obtain ⟨after, copied, wroteChosen⟩ := copyHeader_text parsed few fits
      (fun one member => (clean tokenProtocol (by decide) one member).1) named
      (place + text.length + protocolHeader.length) none short
      (by rw [length_protocolHeader, ptServBufSize]; omega)
    rw [if_neg (fun empty => none (List.length_eq_zero_iff.mp empty)), if_neg none,
      bind_ok appended, copied]
    have both := wrote.behind wroteName
    refine ⟨after, ?_, ?_⟩
    · simp only [List.length_append, Nat.add_assoc]
    · rw [← List.append_assoc]
      refine both.behind ?_
      rw [List.length_append, ← Nat.add_assoc]
      exact wroteChosen

private theorem extensionServerHandshake_text (memory : Memory)
    (short : (textsOf tokenExtensions pieces).flatten.length < ptServBufSize) :
    ∃ after, extensionServerHandshake context q.ah memory = .ok after ∧
      ((textsOf tokenExtensions pieces).flatten = [] ∧ after = memory ∨
        Wrote memory 0 ((textsOf tokenExtensions pieces).flatten ++ [0]) after) := by
  rw [extensionServerHandshake, total_text parsed few]
  dsimp only
  by_cases none : (textsOf tokenExtensions pieces).flatten = []
  · rw [none, if_pos (by rw [List.length_nil])]
    exact ⟨memory, rfl, .inl ⟨rfl, rfl⟩⟩
  · obtain ⟨after, copied, wrote⟩ := copyHeader_text parsed few fits
      (fun one member => (clean tokenExtensions (by decide) one member).1) memory 0 none short
      (by rw [Nat.zero_add])
    rw [if_neg (fun empty => none (List.length_eq_zero_iff.mp empty)), map_ok copied]
    exact ⟨after, rfl, .inr wrote⟩

private theorem beginResponse_text {memory : Memory}
    (accept : Holds memory 0 (acceptText pieces ++ [0]))
    (short : (textsOf tokenProtocol pieces).flatten.length < 128) :
    ∃ after, beginResponse context q.ah memory 28 =
        .ok (responseAt + (answerHead pieces).length, after) ∧
      Holds after responseAt (answerHead pieces) := by
  obtain ⟨accepted, begun, wroteAccept⟩ := beginResponse_eq context q.ah accept
  obtain ⟨after, answered, wrote⟩ := protocolAnswer_text parsed few fits clean wroteAccept
    (by rw [List.length_append, length_acceptText, length_switching]; decide) short
  exact ⟨after, begun.trans answered, wrote.holds.left⟩

private theorem endResponse_text {memory : Memory}
    (head : Holds memory responseAt (answerHead pieces))
    (shortProtocol : (textsOf tokenProtocol pieces).flatten.length < 128)
    (short : (textsOf tokenExtensions pieces).flatten.length < responseAt) :
    endResponse context q.ah memory (responseAt + (answerHead pieces).length) =
      .ok (answer pieces) := by
  have headLength := length_answerHead pieces shortProtocol
  obtain ⟨extended, listed, changed⟩ := extensionServerHandshake_text parsed few fits clean memory
    (Nat.lt_trans short (by decide))
  have kept : Holds extended responseAt (answerHead pieces) := by
    rcases changed with ⟨_, rfl⟩ | wrote
    · exact head
    · refine head.apart wrote (.inr ?_)
      rw [List.length_append, List.length_singleton]
      omega
  obtain ⟨ended, appended, wrote⟩ := append_wrote extended
    (responseAt + (answerHead pieces).length) blankLine (by
      rw [responseAt, ptServBufSize]
      have four : blankLine.length = 4 := rfl
      omega)
  have whole : Holds ended responseAt (answer pieces) :=
    (kept.apart wrote (.inl (Nat.le_refl _))).append wrote.holds.left
  rw [endResponse, bind_ok listed, map_ok appended]
  dsimp only
  rw [Nat.add_assoc, Nat.add_sub_cancel_left, ← List.length_append, ← answer,
    range_eq_iff.mpr whole]

private theorem endResponse_long {memory : Memory}
    (shortProtocol : (textsOf tokenProtocol pieces).flatten.length < 128)
    (long : responseAt ≤ (textsOf tokenExtensions pieces).flatten.length) :
    endResponse context q.ah memory (responseAt + (answerHead pieces).length) ≠
      .ok (answer pieces) := by
  have headLength := length_answerHead pieces shortProtocol
  have atLeast : 97 ≤ (answerHead pieces).length := by
    rw [answerHead, List.length_append, List.length_append, length_switching]
    omega
  intro answered
  by_cases tooLong : ptServBufSize ≤ (textsOf tokenExtensions pieces).flatten.length
  · have some : (textsOf tokenExtensions pieces).flatten.length ≠ 0 := by
      rw [responseAt] at long
      omega
    rw [endResponse, extensionServerHandshake, total_text parsed few] at answered
    dsimp only at answered
    rw [if_neg some, copyHeader_drop parsed few memory tooLong] at answered
    cases answered
  obtain ⟨extended, listed, changed⟩ := extensionServerHandshake_text parsed few fits clean memory
    (Nat.not_le.mp tooLong)
  have wroteList : Wrote memory 0 ((textsOf tokenExtensions pieces).flatten ++ [0]) extended := by
    rcases changed with ⟨none, _⟩ | wrote
    · rw [none] at long
      cases long
    · exact wrote
  obtain ⟨ended, appended, wrote⟩ := append_wrote extended
    (responseAt + (answerHead pieces).length) blankLine (by
      rw [responseAt, ptServBufSize]
      have four : blankLine.length = 4 := rfl
      omega)
  rw [endResponse, bind_ok listed, map_ok appended] at answered
  dsimp only at answered
  rw [Nat.add_assoc, Nat.add_sub_cancel_left, ← List.length_append, ← answer] at answered
  have whole : Holds ended responseAt (answerHead pieces) :=
    (range_eq_iff.mp (Except.ok.inj answered)).left
  -- In front of the blank line the packet is what the list has left.
  have head : Holds extended responseAt (answerHead pieces) := by
    intro i within
    rw [← whole i within, wrote.outside _ (.inl (by omega))]
  have list := wroteList.holds
  by_cases ends : (textsOf tokenExtensions pieces).flatten.length <
      responseAt + (answerHead pieces).length
  · have zero := list.right 0 Nat.zero_lt_one
    have byte := head ((textsOf tokenExtensions pieces).flatten.length - responseAt) (by omega)
    rw [Nat.add_sub_cancel' long] at byte
    rw [Nat.zero_add, Nat.add_zero, byte, List.getD_eq_getElem _ _ (by omega)] at zero
    have inHead : [(0 : UInt8)].getD 0 0 ∈ answerHead pieces := by
      rw [← zero]
      exact List.getElem_mem _
    exact zero_notMem_answerHead pieces
      (fun text member => (clean tokenProtocol (by decide) text member).1) inHead
  · have inList : 176 < (textsOf tokenExtensions pieces).flatten.length := by
      rw [responseAt] at ends
      omega
    have byte := list.left 176 inList
    have carriage := head 32 (by omega)
    rw [answerHead, List.append_assoc, List.getD_append _ _ _ _
      (by rw [length_switching]; decide), getD_switching] at carriage
    rw [Nat.zero_add, List.getD_eq_getElem _ _ inList] at byte
    have found : cr ∈ (textsOf tokenExtensions pieces).flatten := by
      rw [← carriage]
      show extended 176 ∈ _
      rw [byte]
      exact List.getElem_mem _
    obtain ⟨text, member, inText⟩ := List.mem_flatten.mp found
    exact (clean tokenExtensions (by decide) text member).2 inText

/-- With the digest in the buffer, the packet depends on the two lists of the client. -/
theorem response_iff {memory : Memory} (accept : Holds memory 0 (acceptText pieces ++ [0])) :
    ((beginResponse context q.ah memory 28).bind fun begun =>
        endResponse context q.ah begun.2 begun.1) = .ok (answer pieces) ↔
      (textsOf tokenProtocol pieces).flatten.length < 128 ∧
        (textsOf tokenExtensions pieces).flatten.length < responseAt := by
  by_cases shortProtocol : (textsOf tokenProtocol pieces).flatten.length < 128
  · obtain ⟨begun, answered, head⟩ := beginResponse_text parsed few fits clean accept shortProtocol
    rw [bind_ok answered]
    constructor
    · intro due
      refine ⟨shortProtocol, ?_⟩
      by_contra long
      exact endResponse_long parsed few fits clean shortProtocol (Nat.not_lt.mp long) due
    · intro due
      exact endResponse_text parsed few fits clean head shortProtocol due.2
  · obtain ⟨before, begun, _⟩ := beginResponse_eq context q.ah accept
    have dropped : beginResponse context q.ah memory 28 = .error .drop :=
      begun.trans (protocolAnswer_drop parsed few before
        (by rw [List.length_append, length_acceptText, length_switching]; decide)
        (Nat.not_lt.mp shortProtocol))
    rw [dropped]
    exact ⟨fun impossible => (by cases impossible), fun due => absurd due.1 shortProtocol⟩

/-- The packet is the answer that is due exactly where it should be, but for the length of the
list of the extensions. -/
theorem handshake0405_iff (userSpace : Bool) (memory : Memory) :
    handshake0405 context q.ah userSpace memory = .ok (answer pieces) ↔
      Answered pieces userSpace := by
  rw [handshake0405, total_text parsed few, total_text parsed few]
  dsimp only
  rcases Nat.eq_zero_or_pos (textsOf tokenHost pieces).flatten.length with noHost | host
  · rw [if_pos (.inl noHost)]
    exact ⟨fun impossible => (by cases impossible),
      fun due => absurd (List.length_eq_zero_iff.mp noHost) due.host⟩
  rcases Nat.eq_zero_or_pos (textsOf tokenKey pieces).flatten.length with noKey | someKey
  · rw [if_pos (.inr noKey)]
    exact ⟨fun impossible => (by cases impossible),
      fun due => absurd (List.length_eq_zero_iff.mp noKey) due.key⟩
  rw [if_neg (by omega)]
  by_cases longKey : maxKeyLen ≤ (textsOf tokenKey pieces).flatten.length
  · rw [if_pos longKey]
    exact ⟨fun impossible => (by cases impossible),
      fun due => absurd due.shortKey (Nat.not_lt.mpr longKey)⟩
  rw [if_neg longKey]
  obtain ⟨text, more, texts⟩ : ∃ text more, textsOf tokenKey pieces = text :: more := by
    cases texts : textsOf tokenKey pieces with
    | nil =>
        rw [texts] at someKey
        cases someKey
    | cons text more => exact ⟨text, more, rfl⟩
  have shorter : text.length < maxKeyLen := by
    rw [texts, List.flatten_cons, List.length_append] at longKey
    omega
  obtain ⟨place, leads, lies, within⟩ := simplePtr_text parsed fits texts
  obtain ⟨keyed, accepted, accept⟩ := acceptKey_text
    (clean tokenKey (by decide) text (by rw [texts]; exact List.mem_cons_self)).1 lies within
    shorter memory
  have acceptIs : Holds keyed 0 (acceptText pieces ++ [0]) := by
    rw [acceptText, texts]
    exact accept
  rw [leads]
  dsimp only
  rw [bind_ok accepted]
  dsimp only
  cases userSpace with
  | false =>
      exact ⟨fun impossible => (by cases impossible), fun due => absurd due.space (by decide)⟩
  | true =>
      rw [if_pos rfl, response_iff parsed few fits clean acceptIs]
      constructor
      · intro short
        exact ⟨List.ne_nil_of_length_pos host, List.ne_nil_of_length_pos someKey,
          Nat.not_le.mp longKey, rfl, short.1, short.2⟩
      · intro due
        exact ⟨due.protocol, due.extensions⟩

end Answers

/-! ### Requests -/

private theorem notMem_lineText {c : UInt8} (apart : c ≠ space) (texts : List (List UInt8))
    {value : List UInt8} (clean : c ∉ value) : c ∉ lineText texts value := by
  match texts with
  | [] =>
      rw [lineText]
      exact fun found => clean (List.dropWhile_subset _ found)
  | [] :: _ =>
      rw [lineText, List.mem_cons, not_or]
      exact ⟨apart, fun found => clean (List.mem_of_mem_filter found)⟩
  | (_ :: _) :: _ =>
      rw [lineText, List.mem_cons, not_or]
      exact ⟨apart, clean⟩

/-- What is kept of lines has no character that none of them has, but for spaces. -/
theorem clean_foldl_addLine {c : UInt8} (apart : c ≠ space) (token : Nat) (lines : List Piece)
    (clean : ∀ line ∈ lines, c ∉ line.2) (pieces : List Piece)
    (before : ∀ text ∈ textsOf token pieces, c ∉ text) :
    ∀ text ∈ textsOf token (lines.foldl addLine pieces), c ∉ text := by
  induction lines generalizing pieces with
  | nil => exact before
  | cons line rest ih =>
      refine ih (fun one member => clean one (List.mem_cons_of_mem _ member)) _ ?_
      intro text member
      rw [addLine, textsOf, List.filter_append, List.map_append, List.mem_append] at member
      rcases member with member | member
      · exact before text member
      · obtain ⟨piece, found, rfl⟩ := List.mem_map.mp member
        rw [List.mem_singleton.mp (List.mem_of_mem_filter found)]
        exact notMem_lineText apart _ (clean line List.mem_cons_self)

private theorem lines_clean {raw : List UInt8} {lines : List Piece} (written : Lines raw lines) :
    ∀ line ∈ lines, 0 ∉ line.2 ∧ cr ∉ line.2 := by
  induction written with
  | nil => exact fun line member => absurd member List.not_mem_nil
  | known _ _ _ _ clean _ ih =>
      intro line member
      rcases List.mem_cons.mp member with rfl | behind
      · exact ⟨fun found => (clean 0 found).1 rfl, fun found => (clean cr found).2 rfl⟩
      · exact ih line behind
  | unknown _ _ ih => exact ih

/-- The pieces of a request: the path, the version and the lines. -/
def requestPieces (n : Nat) (path version : List UInt8) (lines : List Piece) : List Piece :=
  ((tokenHttp, version) :: lines).foldl addLine [(n, path)]

private theorem requestPieces_clean {n : Nat} (method : n ∈ methods) (path : List UInt8)
    {version raw : List UInt8} (clean : ∀ c ∈ version, c ≠ 0 ∧ c ≠ cr) {lines : List Piece}
    (written : Lines raw lines) (token : Nat)
    (header : token ∈ [tokenKey, tokenProtocol, tokenExtensions]) :
    ∀ text ∈ textsOf token (requestPieces n path version lines), 0 ∉ text ∧ cr ∉ text := by
  have none : textsOf token [(n, path)] = [] := by
    have apart : ∀ header ∈ [tokenKey, tokenProtocol, tokenExtensions], header ∉ methods := by
      decide
    have other : n ≠ token := fun same => apart token header (same ▸ method)
    rw [textsOf, List.filter_cons_of_neg (by simpa using other)]
    rfl
  have all : ∀ line ∈ (tokenHttp, version) :: lines, 0 ∉ line.2 ∧ cr ∉ line.2 := by
    intro line member
    rcases List.mem_cons.mp member with rfl | behind
    · exact ⟨fun found => (clean 0 found).1 rfl, fun found => (clean cr found).2 rfl⟩
    · exact lines_clean written line behind
  intro text member
  constructor
  · exact clean_foldl_addLine (by decide) token _ (fun line found => (all line found).1) _
      (by rw [none]; exact fun one impossible => absurd impossible List.not_mem_nil) text member
  · exact clean_foldl_addLine (by decide) token _ (fun line found => (all line found).2) _
      (by rw [none]; exact fun one impossible => absurd impossible List.not_mem_nil) text member

/-- A request is answered with the digest of its key and its protocols exactly where it has what
an answer needs and the list of its extensions is short. -/
theorem handshake0405_request (context : Context) (noLimits : context.tokenLimits = none)
    (p : Parser) (ups : p.ups = .idle) (ues : p.ues = .idle) {n : Nat} (method : n ∈ methods)
    (name : List UInt8) (named : name.map Lextable.lower = Lextable.ascii (Lextable.set.getD n ""))
    (spaces : Nat) {raw : List UInt8} {enc : Bool} {text : List (UInt8 × Bool)}
    (written : Written raw ((slash, enc) :: text)) (ordinary : ∀ char ∈ text, Ordinary char)
    {version : List UInt8} (clean : ∀ c ∈ version, c ≠ 0 ∧ c ≠ cr) {rawLines : List UInt8}
    {lines : List Piece} (behind : Lines rawLines lines) (few : lines.length + 2 < fragsSize)
    (room : text.length + version.length + rawLines.length + 4 ≤ context.maxHttpHeaderData) :
    ∃ q, parseAll context (beginHeaders (lwsHeaderTableReset p))
        (name ++ (List.replicate spaces space ++ (raw ++ [space])) ++
          (version ++ [cr, lf] ++ rawLines)) = .ok q ∧
      ∀ userSpace memory,
        (handshake0405 context q.ah userSpace memory = .ok (answer (requestPieces n
            (Paths.spelled marks (Paths.walk marks (text.map Prod.fst))) version lines)) ↔
          Answered (requestPieces n
            (Paths.spelled marks (Paths.walk marks (text.map Prod.fst))) version lines)
            userSpace) := by
  obtain ⟨q, parsedAll, parsed, few, fits⟩ := parseAll_parsed context noLimits p ups ues method
    name named spaces written ordinary clean behind few room
  exact ⟨q, parsedAll, fun userSpace memory => handshake0405_iff parsed few fits
    (requestPieces_clean method _ clean behind) userSpace memory⟩

private theorem lines_keyed :
    Lines (Lextable.ascii "Host:" ++ (Lextable.ascii " x" ++ [cr, lf]) ++
      (Lextable.ascii "Sec-WebSocket-Key:" ++ (Lextable.ascii " k" ++ [cr, lf]) ++ [cr, lf]))
      [(tokenHost, Lextable.ascii " x"), (tokenKey, Lextable.ascii " k")] := by
  have key : Lines (Lextable.ascii "Sec-WebSocket-Key:" ++ (Lextable.ascii " k" ++ [cr, lf]) ++
      [cr, lf]) [(tokenKey, Lextable.ascii " k")] :=
    .known (n := 32) (by decide) (by decide) (by decide) (by decide)
      (clean_of_all _ (by decide)) .nil
  exact .known (n := 3) (by decide) (by decide) (by decide) (by decide)
    (clean_of_all _ (by decide)) key

theorem handshake0405_request_small :
    ∃ q, parseAll smallContext (beginHeaders (lwsHeaderTableReset smallParser))
        (Lextable.ascii "GET /a HTTP/1.1\r\nHost: x\r\nSec-WebSocket-Key: k\r\n\r\n") = .ok q ∧
      handshake0405 smallContext q.ah true (fun _ => 0) =
        .ok (switching ++ Base64.encoded (SecureHash.hash (Lextable.ascii "k" ++ guid)) ++
          blankLine) := by
  have written : Written [slash, 97] [(slash, false), (97, false)] :=
    .plain (by decide) (by decide) (.plain (by decide) (by decide) .nil)
  have ordinary : ∀ char ∈ [((97 : UInt8), false)], Ordinary char := by
    intro char member
    rw [List.mem_singleton.mp member]
    simp only [Ordinary]
    decide
  obtain ⟨q, parsed, answered⟩ := handshake0405_request smallContext rfl smallParser rfl rfl
    (n := 0) (by decide) (Lextable.ascii "GET ") (by decide) 0 written ordinary
    (clean_of_all (Lextable.ascii "HTTP/1.1") (by decide)) lines_keyed (by decide) (by decide)
  generalize pathIs : Paths.spelled marks (Paths.walk marks ([((97 : UInt8), false)].map
    Prod.fst)) = path at answered
  have bytes :
      Lextable.ascii "GET /a HTTP/1.1\r\nHost: x\r\nSec-WebSocket-Key: k\r\n\r\n" =
        Lextable.ascii "GET " ++ (List.replicate 0 space ++ ([slash, 97] ++ [space])) ++
          (Lextable.ascii "HTTP/1.1" ++ [cr, lf] ++
            (Lextable.ascii "Host:" ++ (Lextable.ascii " x" ++ [cr, lf]) ++
              (Lextable.ascii "Sec-WebSocket-Key:" ++ (Lextable.ascii " k" ++ [cr, lf]) ++
                [cr, lf]))) := by decide +kernel
  have host : textsOf tokenHost (requestPieces 0 path (Lextable.ascii "HTTP/1.1")
      [(tokenHost, Lextable.ascii " x"), (tokenKey, Lextable.ascii " k")]) =
        [Lextable.ascii "x"] := rfl
  have key : textsOf tokenKey (requestPieces 0 path (Lextable.ascii "HTTP/1.1")
      [(tokenHost, Lextable.ascii " x"), (tokenKey, Lextable.ascii " k")]) =
        [Lextable.ascii "k"] := rfl
  have protocol : textsOf tokenProtocol (requestPieces 0 path (Lextable.ascii "HTTP/1.1")
      [(tokenHost, Lextable.ascii " x"), (tokenKey, Lextable.ascii " k")]) = [] := rfl
  have extensions : textsOf tokenExtensions (requestPieces 0 path (Lextable.ascii "HTTP/1.1")
      [(tokenHost, Lextable.ascii " x"), (tokenKey, Lextable.ascii " k")]) = [] := rfl
  rw [bytes]
  refine ⟨q, parsed, ?_⟩
  rw [(answered true _).mpr ⟨by rw [host]; decide, by rw [key]; decide, by rw [key]; decide, rfl,
      by rw [protocol]; decide, by rw [extensions]; decide⟩,
    answer, answerHead, acceptText, key, protocol, List.headD_cons, List.flatten_nil, protocolText,
    if_pos rfl, List.append_nil]

end JSCameraKit.Libwebsockets.Handshake

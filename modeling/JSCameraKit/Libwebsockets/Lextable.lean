import JSCameraKit.Library.Matcher

set_option autoImplicit false

/-! The names of the header lines and methods, and the table of parsers.c that finds them, as
lextable.h has it. An entry with its high bit set is one character. Otherwise a character is
followed by the distance of the place to go to, a byte below `FAIL_CHAR` by the other half of a
token. -/

namespace JSCameraKit.Libwebsockets.Lextable

def lextable : List (List UInt8) :=
  [[0x67, 0x40, 0x00, 0x70, 0x42, 0x00, 0x6f, 0x51, 0x00, 0x68, 0x5d, 0x00, 0x63, 0x66, 0x00, 0x75],
    [0x81, 0x00, 0x73, 0x97, 0x00, 0x0d, 0xd0, 0x00, 0x61, 0x28, 0x01, 0x69, 0x67, 0x01, 0x64, 0x10],
    [0x02, 0x72, 0x19, 0x02, 0x3a, 0x4a, 0x02, 0x65, 0xd6, 0x02, 0x66, 0xf2, 0x02, 0x6c, 0x14, 0x03],
    [0x6d, 0x37, 0x03, 0x74, 0xa6, 0x03, 0x76, 0xc1, 0x03, 0x77, 0xce, 0x03, 0x78, 0xf5, 0x03, 0x08],
    [0xe5, 0xf4, 0xa0, 0x00, 0x00, 0x6f, 0x0d, 0x00, 0x72, 0x8c, 0x01, 0x61, 0xce, 0x03, 0x75, 0xd0],
    [0x03, 0x08, 0xf3, 0xf4, 0xa0, 0x00, 0x01, 0x70, 0x07, 0x00, 0x72, 0x48, 0x00, 0x08, 0xf4, 0xe9],
    [0xef, 0xee, 0xf3, 0xa0, 0x00, 0x02, 0x6f, 0x07, 0x00, 0x74, 0xb6, 0x00, 0x08, 0xf3, 0xf4, 0xba],
    [0x00, 0x03, 0x6f, 0x07, 0x00, 0x61, 0x6c, 0x01, 0x08, 0x6e, 0x07, 0x00, 0x6f, 0x81, 0x01, 0x08],
    [0x6e, 0x07, 0x00, 0x74, 0x80, 0x01, 0x08, 0xe5, 0xe3, 0xf4, 0xe9, 0xef, 0xee, 0xba, 0x00, 0x04],
    [0x70, 0x0a, 0x00, 0x73, 0x59, 0x03, 0x72, 0x91, 0x03, 0x08, 0xe7, 0xf2, 0xe1, 0xe4, 0xe5, 0xba],
    [0x00, 0x05, 0xe9, 0xe7, 0xe9, 0xee, 0xba, 0x00, 0x06, 0x65, 0x07, 0x00, 0x74, 0x13, 0x03, 0x08],
    [0x63, 0x0a, 0x00, 0x72, 0xfc, 0x02, 0x74, 0xff, 0x02, 0x08, 0xad, 0xf7, 0xe5, 0xe2, 0xf3, 0xef],
    [0xe3, 0xeb, 0xe5, 0xf4, 0xad, 0x64, 0x19, 0x00, 0x65, 0x20, 0x00, 0x6b, 0x29, 0x00, 0x70, 0x38],
    [0x00, 0x61, 0x3f, 0x00, 0x6e, 0x44, 0x00, 0x76, 0x86, 0x01, 0x6f, 0x8c, 0x01, 0x08, 0xf2, 0xe1],
    [0xe6, 0xf4, 0xba, 0x00, 0x07, 0x8a, 0x00, 0x08, 0xf8, 0xf4, 0xe5, 0xee, 0xf3, 0xe9, 0xef, 0xee],
    [0xf3, 0xba, 0x00, 0x09, 0xe5, 0xf9, 0x31, 0x0a, 0x00, 0x32, 0x0a, 0x00, 0x3a, 0x5f, 0x01, 0x08],
    [0xba, 0x00, 0x0a, 0xba, 0x00, 0x0b, 0xf2, 0xef, 0xf4, 0xef, 0xe3, 0xef, 0xec, 0xba, 0x00, 0x0c],
    [0xe3, 0xe3, 0xe5, 0xf0, 0xf4, 0xba, 0x00, 0x0d, 0xef, 0xee, 0xe3, 0xe5, 0xba, 0x00, 0x0e, 0xf4],
    [0xf0, 0x2f, 0x07, 0x00, 0x32, 0x10, 0x00, 0x08, 0xb1, 0xae, 0x31, 0x07, 0x00, 0x30, 0x0f, 0x03],
    [0x08, 0xa0, 0x00, 0x0f, 0xad, 0xf3, 0xe5, 0xf4, 0xf4, 0xe9, 0xee, 0xe7, 0xf3, 0xba, 0x00, 0x10],
    [0x63, 0x0d, 0x00, 0x75, 0xac, 0x00, 0x67, 0x7d, 0x01, 0x6c, 0x7e, 0x01, 0x08, 0xe3, 0xe5, 0x70],
    [0x07, 0x00, 0x73, 0x0e, 0x00, 0x08, 0xf4, 0x3a, 0x07, 0x00, 0x2d, 0x59, 0x00, 0x08, 0x00, 0x11],
    [0xf3, 0xad, 0xe3, 0xef, 0xee, 0xf4, 0xf2, 0xef, 0xec, 0xad, 0x72, 0x07, 0x00, 0x61, 0x48, 0x01],
    [0x08, 0xe5, 0xf1, 0xf5, 0xe5, 0xf3, 0xf4, 0xad, 0xe8, 0xe5, 0xe1, 0xe4, 0xe5, 0xf2, 0xf3, 0xba],
    [0x00, 0x12, 0xe6, 0xad, 0x6d, 0x0d, 0x00, 0x6e, 0x20, 0x00, 0x72, 0x9e, 0x01, 0x75, 0xa2, 0x01],
    [0x08, 0x6f, 0x07, 0x00, 0x61, 0x8e, 0x01, 0x08, 0xe4, 0xe9, 0xe6, 0xe9, 0xe5, 0xe4, 0xad, 0xf3],
    [0xe9, 0xee, 0xe3, 0xe5, 0xba, 0x00, 0x13, 0xef, 0xee, 0xe5, 0xad, 0xed, 0xe1, 0xf4, 0xe3, 0xe8],
    [0xba, 0x00, 0x14, 0x65, 0x0d, 0x00, 0x6c, 0x14, 0x00, 0x63, 0xeb, 0x00, 0x72, 0xf1, 0x00, 0x08],
    [0xee, 0xe3, 0xef, 0xe4, 0xe9, 0xee, 0xe7, 0xba, 0x00, 0x15, 0xe1, 0xee, 0xe7, 0xf5, 0xe1, 0xe7],
    [0xe5, 0xba, 0x00, 0x16, 0x61, 0x07, 0x00, 0x6f, 0x9e, 0x01, 0x08, 0xe7, 0xed, 0xe1, 0xba, 0x00],
    [0x17, 0xe3, 0xe8, 0xe5, 0xad, 0xe3, 0xef, 0xee, 0xf4, 0xf2, 0xef, 0xec, 0xba, 0x00, 0x18, 0xf4],
    [0xe8, 0xef, 0xf2, 0xe9, 0xfa, 0xe1, 0xf4, 0xe9, 0xef, 0xee, 0xba, 0x00, 0x19, 0xeb, 0xe9, 0xe5],
    [0xba, 0x00, 0x1a, 0xe5, 0xee, 0xf4, 0xad, 0x6c, 0x10, 0x00, 0x74, 0x1e, 0x00, 0x64, 0xc0, 0x00],
    [0x65, 0xca, 0x00, 0x72, 0xe3, 0x00, 0x08, 0x65, 0x0a, 0x00, 0x61, 0xca, 0x00, 0x6f, 0xd0, 0x00],
    [0x08, 0xee, 0xe7, 0xf4, 0xe8, 0xba, 0x00, 0x1b, 0xf9, 0xf0, 0xe5, 0xba, 0x00, 0x1c, 0x61, 0x07],
    [0x00, 0x65, 0xf0, 0x01, 0x08, 0xf4, 0xe5, 0xba, 0x00, 0x1d, 0x61, 0x07, 0x00, 0x65, 0x0a, 0x00],
    [0x08, 0xee, 0xe7, 0xe5, 0xba, 0x00, 0x1e, 0x66, 0x07, 0x00, 0x74, 0x5a, 0x01, 0x08, 0x65, 0x07],
    [0x00, 0x72, 0x4d, 0x01, 0x08, 0xf2, 0xe5, 0xf2, 0xba, 0x00, 0x1f, 0x00, 0x20, 0xe5, 0xf2, 0xf3],
    [0xe9, 0xef, 0xee, 0xba, 0x00, 0x21, 0xf2, 0xe9, 0xe7, 0xe9, 0xee, 0xba, 0x00, 0x22, 0x61, 0x0d],
    [0x00, 0x6d, 0x14, 0x00, 0x70, 0x18, 0x00, 0x73, 0x1a, 0x00, 0x08, 0xf5, 0xf4, 0xe8, 0xef, 0xf2],
    [0xe9, 0xf4, 0xf9, 0x00, 0x23, 0xe5, 0xf4, 0xe8, 0xef, 0xe4, 0x00, 0x24, 0xe1, 0xf4, 0xe8, 0x00],
    [0x25, 0x63, 0x07, 0x00, 0x74, 0x0a, 0x00, 0x08, 0xe8, 0xe5, 0xed, 0xe5, 0x00, 0x26, 0xe1, 0xf4],
    [0xf5, 0xf3, 0x00, 0x27, 0xe8, 0xe1, 0xf2, 0xf3, 0xe5, 0xf4, 0xba, 0x00, 0x28, 0xe1, 0xee, 0xe7],
    [0xe5, 0xf3, 0xba, 0x00, 0x29, 0xec, 0xec, 0xef, 0xf7, 0xad, 0xef, 0xf2, 0xe9, 0xe7, 0xe9, 0xee],
    [0xba, 0x00, 0x2a, 0xe5, 0xba, 0x00, 0x2b, 0xec, 0xef, 0xf7, 0xba, 0x00, 0x2c, 0xe9, 0xf3, 0xf0],
    [0xef, 0xf3, 0xe9, 0xf4, 0xe9, 0xef, 0xee, 0xba, 0x00, 0x2d, 0xee, 0xe3, 0xef, 0xe4, 0xe9, 0xee],
    [0xe7, 0xba, 0x00, 0x2e, 0xee, 0xe7, 0xf5, 0xe1, 0xe7, 0xe5, 0xba, 0x00, 0x2f, 0xe3, 0xe1, 0xf4],
    [0xe9, 0xef, 0xee, 0xba, 0x00, 0x30, 0xe1, 0xee, 0xe7, 0xe5, 0xba, 0x00, 0x31, 0x74, 0x07, 0x00],
    [0x78, 0x09, 0x00, 0x08, 0xe1, 0xe7, 0xba, 0x00, 0x32, 0xf0, 0x65, 0x07, 0x00, 0x69, 0x09, 0x00],
    [0x08, 0xe3, 0xf4, 0xba, 0x00, 0x33, 0xf2, 0xe5, 0xf3, 0xba, 0x00, 0x34, 0xf2, 0xef, 0xed, 0xba],
    [0x00, 0x35, 0xf4, 0xe3, 0xe8, 0xba, 0x00, 0x36, 0xe1, 0xee, 0xe7, 0xe5, 0xba, 0x00, 0x37, 0xee],
    [0xed, 0xef, 0xe4, 0xe9, 0xe6, 0xe9, 0xe5, 0xe4, 0xad, 0xf3, 0xe9, 0xee, 0xe3, 0xe5, 0xba, 0x00],
    [0x38, 0x61, 0x0a, 0x00, 0x69, 0x15, 0x00, 0x6f, 0x17, 0x00, 0x08, 0xf3, 0xf4, 0xad, 0xed, 0xef],
    [0xe4, 0xe9, 0xe6, 0xe9, 0xe5, 0xe4, 0xba, 0x00, 0x39, 0xee, 0xeb, 0xba, 0x00, 0x3a, 0xe3, 0xe1],
    [0xf4, 0xe9, 0xef, 0xee, 0xba, 0x00, 0x3b, 0xe1, 0xf8, 0xad, 0xe6, 0xef, 0xf2, 0xf7, 0xe1, 0xf2],
    [0xe4, 0xf3, 0xba, 0x00, 0x3c, 0xf8, 0xf9, 0x2d, 0x07, 0x00, 0x20, 0xb5, 0x00, 0x08, 0xe1, 0xf5],
    [0xf4, 0xe8, 0x65, 0x07, 0x00, 0x6f, 0x0e, 0x00, 0x08, 0xee, 0xf4, 0xe9, 0xe3, 0xe1, 0xf4, 0xe5],
    [0xba, 0x00, 0x3d, 0xf2, 0xe9, 0xfa, 0xe1, 0xf4, 0xe9, 0xef, 0xee, 0xba, 0x00, 0x3e, 0xe5, 0xf3],
    [0xe8, 0xba, 0x00, 0x3f, 0xf2, 0xf9, 0xad, 0xe1, 0xe6, 0xf4, 0xe5, 0xf2, 0xba, 0x00, 0x40, 0xf6],
    [0xe5, 0xf2, 0xba, 0x00, 0x41, 0xad, 0xe3, 0xef, 0xef, 0xeb, 0xe9, 0xe5, 0xba, 0x00, 0x42, 0xf2],
    [0xe9, 0xe3, 0xf4, 0xad, 0xf4, 0xf2, 0xe1, 0xee, 0xf3, 0xf0, 0xef, 0xf2, 0xf4, 0xad, 0xf3, 0xe5],
    [0xe3, 0xf5, 0xf2, 0xe9, 0xf4, 0xf9, 0xba, 0x00, 0x43, 0xf2, 0xe1, 0xee, 0xf3, 0xe6, 0xe5, 0xf2],
    [0xad, 0xe5, 0xee, 0xe3, 0xef, 0xe4, 0xe9, 0xee, 0xe7, 0xba, 0x00, 0x44, 0xe5, 0xf2, 0xad, 0xe1],
    [0xe7, 0xe5, 0xee, 0xf4, 0xba, 0x00, 0x45, 0x61, 0x07, 0x00, 0x69, 0x09, 0x00, 0x08, 0xf2, 0xf9],
    [0xba, 0x00, 0x46, 0xe1, 0xba, 0x00, 0x47, 0xf7, 0xf7, 0xad, 0xe1, 0xf5, 0xf4, 0xe8, 0xe5, 0xee],
    [0xf4, 0xe9, 0xe3, 0xe1, 0xf4, 0xe5, 0xba, 0x00, 0x48, 0xf4, 0xe3, 0xe8, 0x00, 0x49, 0xf4, 0x00],
    [0x4a, 0xec, 0xe5, 0xf4, 0xe5, 0x00, 0x4b, 0xe9, 0xad, 0xe1, 0xf2, 0xe7, 0xf3, 0x00, 0x4c, 0x00],
    [0x4d, 0xad, 0xf2, 0xe5, 0xe1, 0xec, 0xad, 0xe9, 0xf0, 0xba, 0x00, 0x4e, 0xa0, 0x00, 0x4f]]

/-- `set` of lextable-strings.h -/
def set : List String :=
  ["get ", "post ", "options ", "host:", "connection:", "upgrade:", "origin:",
    "sec-websocket-draft:", "\r\n", "sec-websocket-extensions:", "sec-websocket-key1:",
    "sec-websocket-key2:", "sec-websocket-protocol:", "sec-websocket-accept:",
    "sec-websocket-nonce:", "http/1.1 ", "http2-settings:", "accept:",
    "access-control-request-headers:", "if-modified-since:", "if-none-match:",
    "accept-encoding:", "accept-language:", "pragma:", "cache-control:", "authorization:",
    "cookie:", "content-length:", "content-type:", "date:", "range:", "referer:",
    "sec-websocket-key:", "sec-websocket-version:", "sec-websocket-origin:", ":authority",
    ":method", ":path", ":scheme", ":status", "accept-charset:", "accept-ranges:",
    "access-control-allow-origin:", "age:", "allow:", "content-disposition:",
    "content-encoding:", "content-language:", "content-location:", "content-range:", "etag:",
    "expect:", "expires:", "from:", "if-match:", "if-range:", "if-unmodified-since:",
    "last-modified:", "link:", "location:", "max-forwards:", "proxy-authenticate:",
    "proxy-authorization:", "refresh:", "retry-after:", "server:", "set-cookie:",
    "strict-transport-security:", "transfer-encoding:", "user-agent:", "vary:", "via:",
    "www-authenticate:", "patch", "put", "delete", "uri-args", "proxy ", "x-real-ip:",
    "http/1.0 ", ""]

def failChar : UInt8 := 0x08

/-- `lextable[pos]`, with 16 bytes a row. -/
def entry (pos : Nat) : UInt8 := (lextable.getD (pos / 16) []).getD (pos % 16) 0

/-- `c += 'a' - 'A'` for a capital letter. -/
def lower (c : UInt8) : UInt8 := if 65 ≤ c ∧ c ≤ 90 then c + 32 else c

/-- The loop of `lextable_decode`, which looks at each entry of the table once. -/
def decodeFrom : Nat → Nat → UInt8 → Option Nat
  | 0, _, _ => none
  | fuel + 1, pos, c =>
      if entry pos &&& 0x80 ≠ 0 then
        if entry pos &&& 0x7f ≠ c then none
        else if entry (pos + 1) = failChar then none
        else some (pos + 1)
      else if entry pos = failChar then none
      else if entry pos < failChar then some pos
      else if entry pos = c then
        some (pos + (entry (pos + 1)).toNat + (entry (pos + 2)).toNat * 256)
      else decodeFrom fuel (pos + 3) c

def lextableDecode (pos : Nat) (c : UInt8) : Option Nat :=
  decodeFrom (16 * lextable.length) pos (lower c)

/-- The token at a place that `lws_parse` takes for terminal. -/
def terminal (pos : Nat) : Option Nat :=
  if entry pos < failChar then some ((entry pos).toNat * 256 + (entry (pos + 1)).toNat) else none

def matcher : Matcher.Steps Nat UInt8 Nat :=
  { next := lextableDecode
    token := terminal }

/-- The edges of a place, if no terminal one is among the entries that lead to others. -/
def edgesFrom : Nat → Nat → Option (List (UInt8 × Nat))
  | 0, _ => none
  | fuel + 1, pos =>
      if entry pos &&& 0x80 ≠ 0 then
        if entry (pos + 1) = failChar then some []
        else some [(entry pos &&& 0x7f, pos + 1)]
      else if entry pos = failChar then some []
      else if entry pos < failChar then none
      else
        (edgesFrom fuel (pos + 3)).map fun more =>
          (entry pos, pos + (entry (pos + 1)).toNat + (entry (pos + 2)).toNat * 256) :: more

def edges (pos : Nat) : Option (List (UInt8 × Nat)) := edgesFrom (16 * lextable.length) pos

def ascii (text : String) : List UInt8 := text.toList.map Char.toUInt8

private theorem decodeFrom_eq {fuel pos : Nat} {listed : List (UInt8 × Nat)}
    (known : edgesFrom fuel pos = some listed) (c : UInt8) :
    decodeFrom fuel pos c = (listed.find? fun edge => edge.1 = c).map Prod.snd := by
  induction fuel generalizing pos listed with
  | zero => cases known
  | succ fuel ih =>
      rw [edgesFrom] at known
      rw [decodeFrom]
      by_cases single : entry pos &&& 0x80 ≠ 0
      · rw [if_pos single] at known ⊢
        by_cases fails : entry (pos + 1) = failChar
        · rw [if_pos fails] at known ⊢
          rw [← Option.some.inj known, ite_self]
          rfl
        · rw [if_neg fails] at known ⊢
          rw [← Option.some.inj known]
          by_cases same : entry pos &&& 0x7f = c
          · rw [if_neg (not_not.mpr same), List.find?_cons_of_pos (by simpa using same)]
            rfl
          · rw [if_pos same, List.find?_cons_of_neg (by simpa using same)]
            rfl
      · rw [if_neg single] at known ⊢
        by_cases fails : entry pos = failChar
        · rw [if_pos fails] at known ⊢
          rw [← Option.some.inj known]
          rfl
        · rw [if_neg fails] at known ⊢
          by_cases ends : entry pos < failChar
          · rw [if_pos ends] at known
            cases known
          · rw [if_neg ends] at known ⊢
            obtain ⟨more, knownMore, listedIs⟩ := Option.map_eq_some_iff.mp known
            rw [← listedIs]
            by_cases same : entry pos = c
            · rw [if_pos same, List.find?_cons_of_pos (by simpa using same)]
              rfl
            · rw [if_neg same, List.find?_cons_of_neg (by simpa using same)]
              exact ih knownMore

theorem matcher_agrees : Matcher.Agrees matcher edges lower :=
  fun _ _ symbol known => decodeFrom_eq known (lower symbol)

/-! ### The whole table -/

theorem matcher_bounded : Matcher.bounded matcher edges 40 0 = true := by decide +kernel

theorem words_set :
    (∀ n ∈ List.range 80, n ∈ (Matcher.words matcher edges 40 0).map Prod.snd) ∧
      ∀ word ∈ Matcher.words matcher edges 40 0,
        word.2 < 80 ∧ word.1 = ascii (set.getD word.2 "") := by
  decide +kernel

/-- The table finds the names of the list, in capital letters or not, and nothing else. -/
theorem lextable_finds (text : List UInt8) (n : Nat) :
    Matcher.run matcher 0 text = some n ↔ n < 80 ∧ text.map lower = ascii (set.getD n "") := by
  rw [Matcher.run_eq_some_iff matcher_agrees 40 0 matcher_bounded]
  constructor
  · exact words_set.2 _
  · rintro ⟨known, same⟩
    obtain ⟨word, member, token⟩ := List.mem_map.mp (words_set.1 n (List.mem_range.mpr known))
    have spelled := (words_set.2 word member).2
    rw [token, ← same] at spelled
    rw [← spelled, ← token]
    exact member

end JSCameraKit.Libwebsockets.Lextable

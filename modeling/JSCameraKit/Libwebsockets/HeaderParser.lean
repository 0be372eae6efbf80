import JSCameraKit.Libwebsockets.Lextable
import Mathlib.Logic.Function.Basic
import Mathlib.Tactic.Common

set_option autoImplicit false

/-! The parser of the header lines (parsers.c), one character at a time. The text of all headers
is in one array, in fragments that are linked where a header comes more than once or a URI has
arguments. Where an assertion of the source fails, or an index is outside of its array, the
parser is at fault. -/

namespace JSCameraKit.Libwebsockets.HeaderParser

open Lextable

/-! ### Tokens -/

def tokenUpgrade : Nat := 5

def tokenOrigin : Nat := 6

def tokenChallenge : Nat := 8

def tokenHttp : Nat := 15

def tokenSworigin : Nat := 34

def tokenHttpUriArgs : Nat := 76

def tokenCount : Nat := 86

/-- `ARRAY_SIZE(frags)` -/
def fragsSize : Nat := 172

/-- `WSI_TOKEN_GET_URI`, `POST_URI`, `OPTIONS_URI`, `PUT_URI`, `PATCH_URI` and `DELETE_URI` -/
def methods : List Nat := [0, 1, 2, 74, 73, 75]

inductive ParserState
  | token (index : Nat)
  | namePart
  | skipping
  | skippingSawCr
  | complete
  deriving DecidableEq

inductive UriPathState
  | idle
  | seenSlash
  | seenSlashDot
  | seenSlashDotDot
  deriving DecidableEq

inductive UriEscState
  | idle
  | seenPercent
  | seenPercentH1
  deriving DecidableEq

/-- Why the parser returned -1. At `forbid` it calls `lws_return_http_status` first, which is
not modelled: what that sends, and the assertions it makes, are no matter of the headers. -/
inductive Failure
  | drop
  | forbid
  | fault
  deriving DecidableEq

/-! ### State -/

/-- `len` is an unsigned short. -/
structure Fragment where
  offset : Nat
  len : Nat
  nfrag : Nat

structure Headers where
  data : Nat → UInt8
  frags : Nat → Fragment
  fragIndex : Nat → Nat
  pos : Nat
  nfrag : Nat

/-- What the program that creates the context has to see to, since nothing checks it: there is
room for headers, 4096 bytes unless it asks for more or less, offsets fit an unsigned short, and
no limit is zero. -/
structure Context where
  maxHttpHeaderData : Nat
  tokenLimits : Option (Nat → Nat)
  serving : Bool
  positive : 0 < maxHttpHeaderData
  short : maxHttpHeaderData < 65536
  limits : ∀ limit, tokenLimits = some limit → ∀ token, 0 < limit token

/-- `lextable_pos` is none where the source has -1. -/
structure Parser where
  ah : Headers
  state : ParserState
  lextablePos : Option Nat
  ups : UriPathState
  ues : UriEscState
  escStash : UInt8
  postLiteralEqual : Bool
  currentTokenLimit : Nat
  hdrParsingCompleted : Bool

def slash : UInt8 := 47

def dot : UInt8 := 46

def space : UInt8 := 32

def cr : UInt8 := 13

def lf : UInt8 := 10

namespace Parser

def frag (p : Parser) : Fragment := p.ah.frags p.ah.nfrag

/-- `ah->frags[ah->nfrag]` is changed. -/
def withFrag (p : Parser) (change : Fragment → Fragment) : Parser :=
  { p with
    ah := { p.ah with
      frags := Function.update p.ah.frags p.ah.nfrag (change (p.ah.frags p.ah.nfrag)) } }

/-- `ah->data[ah->pos++] = c` -/
def put (p : Parser) (c : UInt8) : Parser :=
  { p with
    ah := { p.ah with
      data := Function.update p.ah.data p.ah.pos c
      pos := p.ah.pos + 1 } }

def lengthen (p : Parser) : Parser :=
  p.withFrag fun frag => { frag with len := (frag.len + 1) % 65536 }

def shorten (p : Parser) : Parser :=
  p.withFrag fun frag => { frag with len := (frag.len + 65535) % 65536 }

/-- `ah->pos--; ah->frags[ah->nfrag].len--` -/
def remove (p : Parser) : Parser :=
  { p.shorten with ah := { p.shorten.ah with pos := p.ah.pos - 1 } }

/-- `ah->nfrag++` -/
def nextFrag (p : Parser) : Parser :=
  { p with ah := { p.ah with nfrag := p.ah.nfrag + 1 } }

/-- A fragment starts at the place where the next character goes. -/
def freshFrag (p : Parser) : Parser :=
  p.withFrag fun _ => { offset := p.ah.pos, len := 0, nfrag := 0 }

def withIndex (p : Parser) (token : Nat) : Parser :=
  { p with
    ah := { p.ah with fragIndex := Function.update p.ah.fragIndex token p.ah.nfrag } }

/-- `ah->frags[n].nfrag = ah->nfrag` -/
def linkFrom (p : Parser) (n : Nat) : Parser :=
  { p with
    ah := { p.ah with
      frags := Function.update p.ah.frags n { p.ah.frags n with nfrag := p.ah.nfrag } } }

end Parser

/-! ### Characters -/

/-- `issue_char`, and whether it returned 1: the token has its limit. The second test of the
bounds is of the same place as the first. -/
def issueChar (context : Context) (c : UInt8) (p : Parser) : Except Failure (Bool × Parser) :=
  if p.ah.pos < context.maxHttpHeaderData then
    if p.frag.len < p.currentTokenLimit then
      .ok (false, if c = 0 then p.put c else (p.put c).lengthen)
    else if p.frag.len = p.currentTokenLimit then .ok (true, p.put 0)
    else .ok (true, p)
  else if p.ah.pos = context.maxHttpHeaderData then .error .drop
  else .error .fault

/-- `issue_char` where only a failure counts. -/
def issue (context : Context) (c : UInt8) (p : Parser) : Except Failure Parser :=
  (issueChar context c p).map Prod.snd

def charToHex (c : UInt8) : Option UInt8 :=
  if 48 ≤ c ∧ c ≤ 57 then some (c - 48)
  else if 97 ≤ c ∧ c ≤ 102 then some (c - 97 + 10)
  else if 65 ≤ c ∧ c ≤ 70 then some (c - 65 + 10)
  else none

/-! ### Fragments -/

/-- The last fragment of a header, if its links come to an end. -/
def lastFragment (frags : Nat → Fragment) : Nat → Nat → Option Nat
  | 0, _ => none
  | fuel + 1, n => if (frags n).nfrag = 0 then some n else lastFragment frags fuel (frags n).nfrag

/-- A fragment for a token, behind those that the token has. -/
def beginFragment (context : Context) (token : Nat) (p : Parser) : Except Failure Parser :=
  let fresh := p.freshFrag
  if fresh.ah.fragIndex token = 0 then .ok (fresh.withIndex token)
  else
    match lastFragment fresh.ah.frags fragsSize (fresh.ah.fragIndex token) with
    | some last => issue context space (fresh.linkFrom last)
    | none => .error .fault

def excessive (context : Context) (p : Parser) : Except Failure Parser :=
  if p.ah.nfrag = fragsSize then .error .drop
  else if fragsSize < p.ah.nfrag then .error .fault
  else
    match p.state with
    | .token token => beginFragment context token p
    | _ => .error .fault

def startFragment (context : Context) (p : Parser) : Except Failure Parser :=
  excessive context p.nextFrag

/-! ### URIs -/

/-- The loop that takes away what is behind the last slash, and the slash. -/
def backLoop : Nat → Parser → Parser
  | 0, p => p
  | fuel + 1, p =>
      let less := p.remove
      if 1 < less.frag.len ∧ less.ah.data less.ah.pos ≠ slash then backLoop fuel less else less

/-- One level of directories is left if there is one. -/
def backUp (p : Parser) : Parser :=
  if 2 < p.frag.len then backLoop p.frag.len p.remove else p

/-- The states of a `%xx`: the character that it stands for, if it is at its end, and whether it
was written so. -/
def unescape (c : UInt8) (p : Parser) : Except Failure (Option (UInt8 × Bool) × Parser) :=
  match p.ues with
  | .idle =>
      if c = 37 then .ok (none, { p with ues := .seenPercent }) else .ok (some (c, false), p)
  | .seenPercent =>
      match charToHex c with
      | none => .error .forbid
      | some _ => .ok (none, { p with escStash := c, ues := .seenPercentH1 })
  | .seenPercentH1 =>
      match charToHex c with
      | none => .error .forbid
      | some low =>
          .ok (some ((((charToHex p.escStash).getD 0xff) <<< 4) ||| low, true),
            { p with ues := .idle })

/-- A character that separates two arguments: the fragment ends, and the next one starts. -/
def separate (context : Context) (c : UInt8) (p : Parser) : Except Failure Parser :=
  (issue context c p).bind fun issued =>
    let next := (issued.shorten.withFrag fun frag =>
      { frag with nfrag := issued.ah.nfrag + 1 }).nextFrag
    if fragsSize ≤ next.ah.nfrag then excessive context next
    else .ok { next.freshFrag with postLiteralEqual := false }

/-- The states of the path: the character to go on with, if it is not swallowed. -/
def pathStep (context : Context) (c : UInt8) (enc : Bool) (p : Parser) :
    Except Failure (Option UInt8 × Parser) :=
  match p.ups with
  | .idle =>
      if c = 0 then .error .drop
      else if (c = 38 ∨ c = 59) ∧ enc = false then
        (separate context c p).map fun next => (none, next)
      else
        let named := if c = 61 ∧ enc = true ∧ p.ah.fragIndex tokenHttpUriArgs ≠ 0 ∧
          p.postLiteralEqual = false then 95 else c
        let spaced := if named = 43 ∧ enc = false then space else named
        .ok (some spaced, { p with
          postLiteralEqual := p.postLiteralEqual || (named = 61 ∧ enc = false)
          ups := if spaced = slash ∧ p.ah.fragIndex tokenHttpUriArgs = 0 then .seenSlash
            else .idle })
  | .seenSlash =>
      if c = slash then .ok (none, p)
      else if c = dot then .ok (none, { p with ups := .seenSlashDot })
      else .ok (some c, { p with ups := .idle })
  | .seenSlashDot =>
      if c = dot then .ok (none, { p with ups := .seenSlashDotDot })
      else if c = slash then .ok (none, { p with ups := .seenSlash })
      else (issue context dot { p with ups := .idle }).map fun issued => (some c, issued)
  | .seenSlashDotDot =>
      if c = slash ∨ c = 63 then
        let up := { backUp p with ups := .seenSlash }
        if 1 < up.frag.len then .ok (some c, up) else .ok (none, up)
      else
        (issue context dot p).bind fun first =>
          (issue context dot first).map fun second => (some c, { second with ups := .idle })

/-! ### Lines -/

def setParsingComplete (p : Parser) : Except Failure Parser :=
  if p.ues ≠ .idle then .error .forbid
  else .ok { p with state := .complete, hdrParsingCompleted := true }

def swallow (p : Parser) : Except Failure Parser :=
  if p.state = .token tokenChallenge then setParsingComplete p else .ok p

def issueAndSwallow (context : Context) (c : UInt8) (p : Parser) : Except Failure Parser :=
  (issueChar context c p).bind fun issued =>
    swallow (if issued.1 then { issued.2 with state := .skipping } else issued.2)

def checkEol (context : Context) (c : UInt8) (p : Parser) : Except Failure Parser :=
  if p.state ≠ .token tokenChallenge ∧ c = cr then
    if p.ues ≠ .idle then .error .forbid
    else issueAndSwallow context 0 { p with state := .skippingSawCr }
  else issueAndSwallow context c p

/-- A question mark that is not escaped starts the arguments. -/
def argsStep (context : Context) (c : UInt8) (enc : Bool) (p : Parser) :
    Except Failure Parser :=
  if c = 63 ∧ enc = false ∧ p.ah.fragIndex tokenHttpUriArgs = 0 then
    if p.ues ≠ .idle then .error .forbid
    else
      (issue context 0 p).bind fun sealed =>
        let next := sealed.nextFrag
        if fragsSize ≤ next.ah.nfrag then excessive context next
        else
          swallow { next.freshFrag.withIndex tokenHttpUriArgs with
            postLiteralEqual := false
            ups := .idle }
  else checkEol context c p

/-- The end of a URI. It starts with a slash, and what is before a last `..` is left. -/
def endOfUri (context : Context) (p : Parser) : Except Failure Parser :=
  (if p.frag.len = 0 then issue context slash p else .ok p).bind fun rooted =>
    (issue context 0 (if rooted.ups = .seenSlashDotDot then backUp rooted else rooted)).bind
      fun sealed => startFragment context { sealed with state := .token tokenHttp }

def uriStep (context : Context) (c : UInt8) (p : Parser) : Except Failure Parser :=
  (unescape c p).bind fun read =>
    match read.1 with
    | none => swallow read.2
    | some (char, enc) =>
        (pathStep context char enc read.2).bind fun next =>
          match next.1 with
          | none => swallow next.2
          | some issued => argsStep context issued enc next.2

def tokenStep (context : Context) (token : Nat) (c : UInt8) (p : Parser) :
    Except Failure Parser :=
  if (p.ah.frags (p.ah.fragIndex token)).len = 0 ∧ c = space then .ok p
  else if token ∉ methods then checkEol context c p
  else if c = space then endOfUri context p
  else uriStep context c p

def tokenLimit (context : Context) (token : Nat) : Nat :=
  match context.tokenLimits with
  | some limits => limits token
  | none => context.maxHttpHeaderData

/-- A name that the table knows. -/
def nameKnown (context : Context) (n : Nat) (p : Parser) : Except Failure Parser :=
  if n ∈ methods ∧ p.ah.fragIndex n ≠ 0 then .error .drop
  else
    let token := if n = tokenSworigin then tokenOrigin else n
    let named := { p with
      state := .token token
      currentTokenLimit := tokenLimit context token }
    if token = tokenChallenge then setParsingComplete named else startFragment context named

def nameStep (context : Context) (c : UInt8) (p : Parser) : Except Failure Parser :=
  match p.lextablePos with
  | none => .error .fault
  | some pos =>
      match lextableDecode pos c with
      | none =>
          if context.serving = true ∧ (methods.all fun method => p.ah.fragIndex method = 0) = true
          then .error .forbid
          else .ok { p with lextablePos := none, state := .skipping }
      | some next =>
          match terminal next with
          | some n => nameKnown context n { p with lextablePos := some next }
          | none => .ok { p with lextablePos := some next }

def lwsParse (context : Context) (p : Parser) (c : UInt8) : Except Failure Parser :=
  match p.state with
  | .token token => tokenStep context token c p
  | .namePart => nameStep context c p
  | .skipping => if c = cr then .ok { p with state := .skippingSawCr } else .ok p
  | .skippingSawCr =>
      if p.ues ≠ .idle then .error .forbid
      else if c = lf then .ok { p with state := .namePart, lextablePos := some 0 }
      else .ok { p with state := .skipping }
  | .complete => .ok p

def parseAll (context : Context) (p : Parser) (text : List UInt8) : Except Failure Parser :=
  text.foldlM (lwsParse context) p

theorem parseAll_cons_of_ok {context : Context} {p q : Parser} {c : UInt8}
    (parsed : lwsParse context p c = .ok q) (rest : List UInt8) :
    parseAll context p (c :: rest) = parseAll context q rest := by
  rw [parseAll, List.foldlM_cons, parsed]
  rfl

theorem parseAll_append_of_ok {context : Context} {p q : Parser} {first : List UInt8}
    (parsed : parseAll context p first = .ok q) (rest : List UInt8) :
    parseAll context p (first ++ rest) = parseAll context q rest := by
  rw [parseAll] at parsed ⊢
  rw [List.foldlM_append, parsed]
  rfl

theorem parseAll_singleton (context : Context) (p : Parser) (c : UInt8) :
    parseAll context p [c] = lwsParse context p c := by
  rw [parseAll, List.foldlM_cons]
  exact bind_pure _

/-- What the last request left in the arrays stays. -/
def lwsHeaderTableReset (p : Parser) : Parser :=
  { p with
    ah := { p.ah with
      fragIndex := fun _ => 0
      pos := 0
      nfrag := 0 } }

/-- `lws_read` on a connection that is about to read the headers of a request. -/
def beginHeaders (p : Parser) : Parser :=
  { p with
    state := .namePart
    lextablePos := some 0
    hdrParsingCompleted := false }

/-! ### Headers -/

/-- The sum of `lws_hdr_total_length`, if the links come to an end. -/
def totalFrom (frags : Nat → Fragment) : Nat → Nat → Option Nat
  | 0, _ => none
  | fuel + 1, n =>
      if (frags n).nfrag = 0 then some (frags n).len
      else (totalFrom frags fuel (frags n).nfrag).map fun rest => (frags n).len + rest

def lwsHdrTotalLength (ah : Headers) (token : Nat) : Option Nat :=
  if ah.fragIndex token = 0 then some 0 else totalFrom ah.frags fragsSize (ah.fragIndex token)

def lwsHdrSimplePtr (ah : Headers) (token : Nat) : Option Nat :=
  if ah.fragIndex token = 0 then none else some (ah.frags (ah.fragIndex token)).offset

end JSCameraKit.Libwebsockets.HeaderParser

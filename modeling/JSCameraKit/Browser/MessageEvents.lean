import JSCameraKit.WebSocketController.Dispatch
import JSCameraKit.Browser.EventEmitter

set_option autoImplicit false

/-! The listener that the constructor of `WebSocketController` has for `message`. One `try`
covers the parsing of a text and the emission of its value, with all that the listeners do. -/

namespace JSCameraKit
namespace Browser
namespace MessageEvents

open Events (EventEmitter Listener Page Registration)
open LiveWalk (Turn turns walk walk_finishes_iff forall_turns_of_kept turns_eq_nil_iff)

/-! ### `parseInt` -/

def isStrWhiteSpace (char : Char) : Bool :=
  (0x9 ≤ char.toNat && char.toNat ≤ 0xD) || (0x2000 ≤ char.toNat && char.toNat ≤ 0x200A) ||
    [0x20, 0xA0, 0x1680, 0x2028, 0x2029, 0x202F, 0x205F, 0x3000, 0xFEFF].contains char.toNat

/-- The digit of a character; no base has one as great as that of another character. -/
def digit (char : Char) : Nat :=
  if char.isDigit then char.toNat - '0'.toNat
  else if char.isLower then char.toNat - 'a'.toNat + 10
  else if char.isUpper then char.toNat - 'A'.toNat + 10
  else 36

/-- Without a digit in front it is not a number. -/
def numeral (base : Nat) (chars : List Char) : Option Nat :=
  match chars.takeWhile fun char => digit char < base with
  | [] => none
  | digits => some (digits.foldl (fun value char => base * value + digit char) 0)

def unsigned : List Char → Option Nat
  | '0' :: 'x' :: chars | '0' :: 'X' :: chars => numeral 16 chars
  | chars => numeral 10 chars

/-- Not rounded: the number of no request is as great as a rounded one. -/
def parseInt (text : String) : Option Int :=
  match text.toList.dropWhile isStrWhiteSpace with
  | '-' :: chars => (unsigned chars).map fun value => -value
  | '+' :: chars => (unsigned chars).map fun value => value
  | chars => (unsigned chars).map fun value => value

/-! ### What the listeners are called with -/

abbrev Json : Type :=
  JSCameraKit.Json

/-- What a socket hands to the listeners for `message`. -/
inductive Data (Buffer : Type)
  | text (msg : String)
  | buffer (msg : Buffer)

inductive Argument (Buffer : Type)
  | json (value : Json)
  | buffer (data : Buffer)

variable {Own Buffer World : Type}

/-- `json.id`: outside `none` where `null` has no properties, inside it where the id is
`undefined`. -/
def Argument.id : Argument Buffer → Option (Option Json)
  | .json .null => none
  | .json value => some (value.field "id")
  | .buffer _ => some none

def Argument.data : Argument Buffer → Option Json
  | .json value => value.field "data"
  | .buffer _ => none

/-! The text of a value; a field with the name `toString` hides the function that would give
the text of an object. -/
mutual

def textOf (numberText : ℚ → String) : Json → Option String
  | .null => some "null"
  | .bool value => some (if value then "true" else "false")
  | .number value => some (numberText value)
  | .string value => some value
  | .array elements => (textsOf numberText elements).map (String.intercalate ",")
  | .object fields =>
      if (fields.lookup "toString").isSome then none else some "[object Object]"

def textsOf (numberText : ℚ → String) : List Json → Option (List String)
  | [] => some []
  | .null :: elements => (textsOf numberText elements).map (List.cons "")
  | element :: elements => do
      let text ← textOf numberText element
      let texts ← textsOf numberText elements
      some (text :: texts)

end

/-- The listener that a request makes, or any other function of the page. -/
inductive Code (Own : Type)
  | request (id : Nat)
  | own (code : Own)
  deriving DecidableEq

/-- The requests that have been resolved, and what else the page holds. -/
structure Rest (World : Type) where
  resolved : List (Nat × Option Json)
  world : World

abbrev Client (Own World : Type) : Type :=
  Page String (Code Own) (Rest World)

/-- What the functions of the page do is unknown; `false` is for an exception. -/
structure Environment (Own Buffer World : Type) where
  parse : String → Option Json
  numberText : ℚ → String
  react : Own → Argument Buffer → Client Own World → Client Own World × Bool

namespace Environment

variable (environment : Environment Own Buffer World)

/-- `parseInt(json.id)`: outside `none` for an exception, inside it for `NaN`. -/
def requestNumber (argument : Argument Buffer) : Option (Option Int) :=
  match argument.id with
  | none => none
  | some none => some (parseInt "undefined")
  | some (some id) => (textOf environment.numberText id).map parseInt

variable [DecidableEq Own]

def onResponse (id : Nat) (argument : Argument Buffer) (client : Client Own World) :
    Client Own World × Bool :=
  match environment.requestNumber argument with
  | none => (client, false)
  | some number =>
      if number = some (id : Int) then
        match client.emitter.off "json-message" (.function (.request id)) with
        | none => (client, false)
        | some emitter =>
            ({ emitter := emitter
               world := { client.world with
                 resolved := client.world.resolved ++ [(id, argument.data)] } }, true)
      else (client, true)

def call (event : String) (argument : Argument Buffer) (registration : Registration (Code Own))
    (client : Client Own World) : Client Own World × Bool :=
  match registration.listener with
  | .function (.request id) => environment.onResponse id argument client
  | .function (.own code) => environment.react code argument client
  | .once number =>
      match client.emitter.off event (.once number) with
      | none => (client, false)
      | some emitter => ({ client with emitter := emitter }, true)

def emit (event : String) (argument : Argument Buffer) (client : Client Own World) :
    Client Own World × Bool :=
  match client.emitter.listeners event with
  | none => (client, true)
  | some listeners =>
      walk (Page.registrations event) (environment.call event argument) listeners.length 0 client

/-- The events that a call of the listener for `message` emits, and how it ends. -/
structure Handled (Own World : Type) where
  emitted : List String
  client : Client Own World
  throws : Bool

def emitFrom (emitted : List String) (event : String) (argument : Argument Buffer)
    (client : Client Own World) : Handled Own World :=
  { emitted := emitted ++ [event]
    client := (environment.emit event argument client).1
    throws := !(environment.emit event argument client).2 }

def onMessage (client : Client Own World) : Data Buffer → Handled Own World
  | .text msg =>
      match environment.parse msg with
      | none => environment.emitFrom [] "string-message" (.json (.string msg)) client
      | some json =>
          if (environment.emit "json-message" (.json json) client).2 then
            environment.emitFrom [] "json-message" (.json json) client
          else
            -- The exception of a listener is caught where that of the parser is.
            environment.emitFrom ["json-message"] "string-message" (.json (.string msg))
              (environment.emit "json-message" (.json json) client).1
  | .buffer msg => environment.emitFrom [] "binary-message" (.buffer msg) client

/-! ### What a text is classified as -/

/-- A text is told to the listeners of one event, which its parsing alone decides. -/
def ClassifiedOnce (msg : String) (handled : Handled Own World) : Prop :=
  handled.emitted = [if (environment.parse msg).isSome then "json-message" else "string-message"]

/-- A value has properties, and its id a text. -/
def Readable (json : Json) : Prop :=
  json ≠ .null ∧ ∀ id, json.field "id" = some id → (textOf environment.numberText id).isSome = true

/-- A listener does not throw when it is called with a value. -/
def Accepts (json : Json) (registration : Registration (Code Own)) (client : Client Own World) :
    Prop :=
  match registration.listener with
  | .function (.request _) => environment.Readable json
  | .function (.own code) => (environment.react code (.json json) client).2 = true
  | .once _ => True

/-- The turns of the listeners that the value of a text is told to. -/
def told (json : Json) (client : Client Own World) :
    List (Turn (Client Own World) (Registration (Code Own))) :=
  turns (Page.registrations "json-message") (environment.call "json-message" (.json json))
    (Page.registrations "json-message" client).length 0 client

theorem emit_eq (event : String) (argument : Argument Buffer) (client : Client Own World) :
    environment.emit event argument client =
      walk (Page.registrations event) (environment.call event argument)
        (Page.registrations event client).length 0 client := by
  unfold emit Page.registrations EventEmitter.registrations
  cases client.emitter.listeners event with
  | none => rfl
  | some listeners => rfl

/-! ### When the listeners throw -/

omit [DecidableEq Own] in
private theorem requestNumber_isSome_iff (json : Json) :
    (environment.requestNumber (.json json)).isSome = true ↔ environment.Readable json := by
  cases json with
  | null => exact iff_of_false Bool.false_ne_true fun readable => readable.1 rfl
  | object fields =>
      unfold requestNumber Argument.id Readable
      dsimp only
      generalize JSCameraKit.Json.field (.object fields) "id" = id
      cases id with
      | none => simp
      | some id => simp
  | _ => simp [requestNumber, Argument.id, Readable, JSCameraKit.Json.field]

private theorem call_finishes_iff (json : Json) {registration : Registration (Code Own)}
    {client : Client Own World}
    (member : registration ∈ Page.registrations "json-message" client) :
    (environment.call "json-message" (.json json) registration client).2 = true ↔
      environment.Accepts json registration client := by
  have known := (client.emitter.off_isSome_iff "json-message" registration.listener).mpr
    ⟨registration, member, rfl⟩
  unfold call Accepts
  split
  next id same =>
    rw [same] at known
    obtain ⟨emitter, known⟩ := Option.isSome_iff_exists.mp known
    rw [← requestNumber_isSome_iff]
    unfold onResponse
    cases environment.requestNumber (.json json) with
    | none => rfl
    | some number =>
        by_cases response : number = some (id : Int)
        · simp only [if_pos response, known, Option.isSome_some]
        · simp only [if_neg response, Option.isSome_some]
  next code same => rfl
  next number same =>
    rw [same] at known
    obtain ⟨emitter, known⟩ := Option.isSome_iff_exists.mp known
    rw [known]
    exact iff_of_true rfl trivial

private theorem emit_finishes_iff (json : Json) (client : Client Own World) :
    (environment.emit "json-message" (.json json) client).2 = true ↔
      ∀ turn ∈ environment.told json client, environment.Accepts json turn.item turn.before := by
  rw [emit_eq, walk_finishes_iff]
  have registered := forall_turns_of_kept (Page.registrations "json-message")
    (environment.call "json-message" (.json json)) (fun _ => True)
    (fun _ _ _ _ => trivial) (Page.registrations "json-message" client).length 0 client trivial
  constructor
  · intro finishes turn member
    exact (call_finishes_iff environment json (registered turn member).1).mp (finishes turn member)
  · intro accepts turn member
    exact (call_finishes_iff environment json (registered turn member).1).mpr (accepts turn member)

private theorem classifiedOnce_iff_finishes (msg : String) (client : Client Own World) :
    environment.ClassifiedOnce msg (environment.onMessage client (.text msg)) ↔
      ∀ json, environment.parse msg = some json →
        (environment.emit "json-message" (.json json) client).2 = true := by
  unfold ClassifiedOnce onMessage
  dsimp only
  cases parsed : environment.parse msg with
  | none =>
      refine iff_of_true rfl ?_
      intro json impossible
      cases impossible
  | some json =>
      dsimp only
      split
      next finished =>
        refine iff_of_true rfl ?_
        intro other same
        cases same
        exact finished
      next throws =>
        refine iff_of_false (by simp [emitFrom]) ?_
        intro finishes
        exact throws (finishes json rfl)

/-- A text is classified once exactly when the listeners that its value is told to do not
throw, one after the other, in the state in which each has its turn. -/
theorem classifiedOnce_iff_accepts (msg : String) (client : Client Own World) :
    environment.ClassifiedOnce msg (environment.onMessage client (.text msg)) ↔
      ∀ json, environment.parse msg = some json →
        ∀ turn ∈ environment.told json client,
          environment.Accepts json turn.item turn.before := by
  rw [classifiedOnce_iff_finishes]
  constructor
  · intro finishes json parsed
    exact (emit_finishes_iff environment json client).mp (finishes json parsed)
  · intro accepts json parsed
    exact (emit_finishes_iff environment json client).mpr (accepts json parsed)

/-! ### Pending requests -/

/-- Only requests that wait for their responses listen for values. -/
def OnlyRequests (client : Client Own World) : Prop :=
  ∀ registration ∈ Page.registrations "json-message" client,
    ∃ id, registration.listener = .function (.request id)

theorem OnlyRequests.call {client : Client Own World} (only : OnlyRequests client)
    (argument : Argument Buffer) {registration : Registration (Code Own)}
    (member : registration ∈ Page.registrations "json-message" client) :
    OnlyRequests (environment.call "json-message" argument registration client).1 := by
  obtain ⟨id, same⟩ := only registration member
  unfold Environment.call
  rw [same]
  dsimp only
  unfold onResponse
  split
  next => exact only
  next number =>
    split
    · split
      next => exact only
      next emitter known =>
        intro other kept
        exact only other ((EventEmitter.off_sublist known "json-message").subset kept)
    · exact only

/-- With nothing but requests that wait, a text has to be no JSON, or a value that each of
them can read. -/
theorem accepts_iff_readable (json : Json) {client : Client Own World}
    (only : OnlyRequests client) :
    (∀ turn ∈ environment.told json client, environment.Accepts json turn.item turn.before) ↔
      Page.registrations "json-message" client = [] ∨ environment.Readable json := by
  have requests := forall_turns_of_kept (Page.registrations "json-message")
    (environment.call "json-message" (.json json)) OnlyRequests
    (fun _ _ member only => only.call environment (.json json) member)
    (Page.registrations "json-message" client).length 0 client only
  have accepts : ∀ turn ∈ environment.told json client,
      (environment.Accepts json turn.item turn.before ↔ environment.Readable json) := by
    intro turn member
    obtain ⟨id, same⟩ := (requests turn member).2 turn.item (requests turn member).1
    rw [Accepts, same]
  cases listening : Page.registrations "json-message" client with
  | nil =>
      refine iff_of_true ?_ (.inl rfl)
      rw [told, listening]
      exact List.forall_mem_nil _
  | cons first rest =>
      constructor
      · intro all
        have turn : environment.told json client ≠ [] := by
          rw [told, Ne, turns_eq_nil_iff, listening]
          simp
        obtain ⟨turn, member⟩ := List.exists_mem_of_ne_nil _ turn
        exact .inr ((accepts turn member).mp (all turn member))
      · intro readable turn member
        rcases readable with none | readable
        · cases none
        · exact (accepts turn member).mpr readable

theorem classifiedOnce_iff_readable (msg : String) {client : Client Own World}
    (only : OnlyRequests client) :
    environment.ClassifiedOnce msg (environment.onMessage client (.text msg)) ↔
      ∀ json, environment.parse msg = some json →
        Page.registrations "json-message" client = [] ∨ environment.Readable json := by
  rw [classifiedOnce_iff_finishes]
  constructor
  · intro finishes json parsed
    exact (accepts_iff_readable environment json only).mp
      ((emit_finishes_iff environment json client).mp (finishes json parsed))
  · intro readable json parsed
    exact (emit_finishes_iff environment json client).mpr
      ((accepts_iff_readable environment json only).mpr (readable json parsed))

end Environment

/-- The parser of a page that is sent the text `null` and no other. -/
def nullParser : Environment Unit Unit Unit :=
  { parse := fun msg => if msg = "null" then some .null else none
    numberText := fun _ => ""
    react := fun _ _ client => (client, true) }

/-- The text `null` while a request waits for its response. -/
theorem not_classifiedOnce_of_null :
    ¬nullParser.ClassifiedOnce "null"
      (nullParser.onMessage
        { emitter := EventEmitter.new.onOff "json-message" (.function (.request 0))
          world := { resolved := [], world := () } } (.text "null")) := by
  unfold Environment.ClassifiedOnce
  decide

end MessageEvents
end Browser
end JSCameraKit

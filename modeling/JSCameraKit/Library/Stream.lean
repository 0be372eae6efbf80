import Mathlib.Data.List.Basic

set_option autoImplicit false

/-! A reader folds the messages of a stream. Each message has to fit what the
reader has become when the message arrives. -/

structure Reader (State Message : Type) where
  read : State → Message → State
  Fits : State → Message → Prop

namespace Reader

variable {State Message : Type} (reader : Reader State Message)

/-- What the reader has become after a stream. -/
def after (state : State) (messages : List Message) : State :=
  messages.foldl reader.read state

/-- Every message of the stream fits. -/
def Safe : State → List Message → Prop
  | _, [] => True
  | state, message :: rest => reader.Fits state message ∧ Safe (reader.read state message) rest

instance decidableSafe [∀ state message, Decidable (reader.Fits state message)] :
    ∀ (state : State) (messages : List Message), Decidable (reader.Safe state messages)
  | _, [] => inferInstanceAs (Decidable True)
  | state, message :: rest =>
      have := decidableSafe (reader.read state message) rest
      inferInstanceAs (Decidable (reader.Fits state message ∧
        reader.Safe (reader.read state message) rest))

variable {reader}

@[simp] theorem after_nil (state : State) : reader.after state [] = state := rfl

@[simp] theorem after_cons (state : State) (message : Message) (rest : List Message) :
    reader.after state (message :: rest) = reader.after (reader.read state message) rest := rfl

@[simp] theorem safe_nil (state : State) : reader.Safe state [] := trivial

theorem safe_append (state : State) (front back : List Message) :
    reader.Safe state (front ++ back) ↔
      reader.Safe state front ∧ reader.Safe (reader.after state front) back := by
  induction front generalizing state with
  | nil => simp
  | cons message rest ih => simp [Safe, ih, and_assoc]

theorem Safe.of_prefix {state : State} {front messages : List Message}
    (safe : reader.Safe state messages) (shorter : front <+: messages) :
    reader.Safe state front := by
  obtain ⟨back, rfl⟩ := shorter
  exact ((safe_append state front back).mp safe).1

/-- A stream stays safe when the message appended to it fits what comes before. -/
theorem Safe.append_one {state : State} {messages : List Message} {message : Message}
    (safe : reader.Safe state messages) (fits : reader.Fits (reader.after state messages) message) :
    reader.Safe state (messages ++ [message]) :=
  (safe_append state messages [message]).mpr ⟨safe, fits, trivial⟩

end Reader

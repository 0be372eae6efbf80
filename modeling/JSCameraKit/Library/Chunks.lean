import Mathlib.Data.List.Basic

set_option autoImplicit false

/-! A buffer of bounded size that is emptied each time it is full and once more at the end of
its input: what it hands on is the input cut at the size. Several inputs, cut one after the
other, come out as the one list that they spell together exactly when all of it is in one of
them and that one fits the buffer. -/

namespace Chunks

variable {α : Type}

/-- What a buffer that holds `held` hands on while it takes the input, and at its end. -/
def cut (size : Nat) : List α → List α → List (List α)
  | [], [] => []
  | held, [] => [held]
  | held, item :: rest =>
      if (held ++ [item]).length = size then (held ++ [item]) :: cut size [] rest
      else cut size (held ++ [item]) rest

/-- All the inputs are empty but one, and that one is no longer than the size. -/
def Whole (size : Nat) (parts : List (List α)) : Prop :=
  parts.countP (fun part => !part.isEmpty) = 1 ∧ parts.flatten.length ≤ size

instance (size : Nat) (parts : List (List α)) : Decidable (Whole size parts) :=
  inferInstanceAs (Decidable (_ ∧ _))

/-! ### One input -/

theorem cut_nil (size : Nat) (held : List α) :
    cut size held [] = if held = [] then [] else [held] := by
  cases held with
  | nil => rfl
  | cons item held => rfl

theorem cut_cons (size : Nat) (held : List α) (item : α) (rest : List α) :
    cut size held (item :: rest) =
      if (held ++ [item]).length = size then (held ++ [item]) :: cut size [] rest
      else cut size (held ++ [item]) rest := by
  cases held with
  | nil => rfl
  | cons first held => rfl

theorem cut_flatten (size : Nat) (held rest : List α) :
    (cut size held rest).flatten = held ++ rest := by
  induction rest generalizing held with
  | nil =>
      rw [cut_nil]
      split
      · simp_all
      · simp
  | cons item rest ih =>
      rw [cut_cons]
      split
      · rw [List.flatten_cons, ih, List.nil_append, List.append_assoc, List.singleton_append]
      · rw [ih, List.append_assoc, List.singleton_append]

theorem cut_length_le {size : Nat} (held rest : List α) (room : held.length < size) :
    ∀ chunk ∈ cut size held rest, chunk.length ≤ size := by
  induction rest generalizing held with
  | nil =>
      intro chunk listed
      rw [cut_nil] at listed
      split at listed
      · cases listed
      · rw [List.mem_singleton.mp listed]
        omega
  | cons item rest ih =>
      intro chunk listed
      rw [cut_cons] at listed
      split at listed
      · rename_i full
        cases List.mem_cons.mp listed with
        | inl first =>
            rw [first]
            omega
        | inr later => exact ih [] (by simpa using Nat.zero_lt_of_lt room) chunk later
      · rename_i notFull
        apply ih (held ++ [item]) _ chunk listed
        rw [List.length_append, List.length_singleton] at notFull ⊢
        omega

theorem ne_nil_of_mem_cut {size : Nat} {held rest chunk : List α}
    (listed : chunk ∈ cut size held rest) : chunk ≠ [] := by
  induction rest generalizing held with
  | nil =>
      rw [cut_nil] at listed
      split at listed
      · cases listed
      · rw [List.mem_singleton.mp listed]
        assumption
  | cons item rest ih =>
      rw [cut_cons] at listed
      split at listed
      · cases List.mem_cons.mp listed with
        | inl first =>
            rw [first]
            simp
        | inr later => exact ih later
      · exact ih listed

theorem cut_eq_singleton {size : Nat} (held rest : List α) (room : held.length < size)
    (fits : held.length + rest.length ≤ size) (nonempty : held ++ rest ≠ []) :
    cut size held rest = [held ++ rest] := by
  induction rest generalizing held with
  | nil =>
      rw [List.append_nil] at nonempty ⊢
      rw [cut_nil, if_neg nonempty]
  | cons item rest ih =>
      rw [List.length_cons] at fits
      have longer : (held ++ [item]).length = held.length + 1 := by simp
      rw [cut_cons]
      split
      · rename_i full
        have last : rest = [] := List.eq_nil_of_length_eq_zero (by omega)
        rw [last]
        rfl
      · rw [ih (held ++ [item]) (by omega) (by omega) (by simp)]
        rw [List.append_assoc, List.singleton_append]

theorem cut_eq_nil_iff (size : Nat) (rest : List α) : cut size [] rest = [] ↔ rest = [] := by
  constructor
  · intro noChunk
    have whole := cut_flatten size [] rest
    rw [noChunk] at whole
    exact whole.symm
  · intro empty
    rw [empty]
    rfl

/-! ### Several inputs -/

theorem flatMap_cut_eq_nil_iff (size : Nat) (parts : List (List α)) :
    parts.flatMap (cut size []) = [] ↔ parts.countP (fun part => !part.isEmpty) = 0 := by
  rw [List.flatMap_eq_nil_iff, List.countP_eq_zero]
  apply forall₂_congr
  intro part _
  rw [cut_eq_nil_iff]
  simp

theorem flatten_flatMap_cut (size : Nat) (parts : List (List α)) :
    (parts.flatMap (cut size [])).flatten = parts.flatten := by
  induction parts with
  | nil => rfl
  | cons part parts ih =>
      rw [List.flatMap_cons, List.flatten_append, ih, cut_flatten, List.nil_append,
        List.flatten_cons]

/-- The inputs come out as one list exactly when one of them holds all of it and fits. -/
theorem flatMap_cut_eq_singleton_iff {size : Nat} (room : 0 < size) (parts : List (List α)) :
    parts.flatMap (cut size []) = [parts.flatten] ↔ Whole size parts := by
  induction parts with
  | nil => simp [Whole]
  | cons part parts ih =>
      cases part with
      | nil => simpa [cut, Whole] using ih
      | cons first part =>
          have counted : ((first :: part) :: parts).countP (fun part => !part.isEmpty) =
              parts.countP (fun part => !part.isEmpty) + 1 := by simp
          rw [Whole, counted, Nat.add_eq_right, ← flatMap_cut_eq_nil_iff size parts,
            List.flatMap_cons]
          constructor
          · intro one
            -- the first input already gives a chunk, so the others give none
            have given : cut size [] (first :: part) ≠ [] := by
              simp [cut_eq_nil_iff]
            obtain ⟨chunk, more, shape⟩ := List.exists_cons_of_ne_nil given
            rw [shape, List.cons_append, List.cons.injEq] at one
            have noMore := List.append_eq_nil_iff.mp one.2
            refine ⟨noMore.2, ?_⟩
            rw [← one.1]
            apply cut_length_le [] (first :: part) room
            rw [shape]
            exact List.mem_cons_self
          · intro ⟨noMore, fits⟩
            have others : parts.flatten = [] := by
              rw [← flatten_flatMap_cut size parts, noMore]
              rfl
            rw [List.flatten_cons, others, List.append_nil] at fits ⊢
            rw [noMore, List.append_nil,
              cut_eq_singleton [] (first :: part) room (by simpa using fits) (by simp)]
            rfl

end Chunks

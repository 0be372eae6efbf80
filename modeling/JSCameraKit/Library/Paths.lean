import Mathlib.Tactic.Common

set_option autoImplicit false

/-! Paths in a tree of directories. A path is walked symbol by symbol, and a name is entered at
the separator behind it: nothing and one dot stay where they are, two dots go up if there is
an up, and any other name goes down. What the walk comes to has one spelling, in which no name
is empty or made of dots alone. -/

namespace Paths

variable {Symbol : Type} [DecidableEq Symbol]

structure Marks (Symbol : Type) where
  sep : Symbol
  dot : Symbol
  distinct : dot ≠ sep

variable (marks : Marks Symbol)

/-- The names of the directories that have been entered, and the name that is being read. -/
abbrev Place (Symbol : Type) := List (List Symbol) × List Symbol

def enter (dirs : List (List Symbol)) (name : List Symbol) : List (List Symbol) :=
  if name = [] ∨ name = [marks.dot] then dirs
  else if name = [marks.dot, marks.dot] then dirs.dropLast
  else dirs ++ [name]

def step (place : Place Symbol) (symbol : Symbol) : Place Symbol :=
  if symbol = marks.sep then (enter marks place.1 place.2, [])
  else (place.1, place.2 ++ [symbol])

/-- The path is read from behind its first separator. -/
def walk (text : List Symbol) : Place Symbol := text.foldl (step marks) ([], [])

omit [DecidableEq Symbol] in
def directory (dirs : List (List Symbol)) : List Symbol :=
  marks.sep :: dirs.flatMap fun name => name ++ [marks.sep]

/-- The spelling of a place. Two dots at the end leave a directory without its separator. -/
def spelled (place : Place Symbol) : List Symbol :=
  if place.2 = [marks.dot, marks.dot] then
    if place.1.dropLast = [] then [marks.sep] else (directory marks place.1.dropLast).dropLast
  else if place.2 = [marks.dot] then directory marks place.1
  else directory marks place.1 ++ place.2

def Plain (name : List Symbol) : Prop :=
  name ≠ [] ∧ name ≠ [marks.dot] ∧ name ≠ [marks.dot, marks.dot] ∧ marks.sep ∉ name

/-- Every name is plain, but for a last one that may be missing. -/
def Canonical (text : List Symbol) : Prop :=
  ∃ dirs last, text = directory marks dirs ++ last ∧ (∀ name ∈ dirs, Plain marks name) ∧
    (last = [] ∨ Plain marks last)

variable {marks}

omit [DecidableEq Symbol] in
theorem directory_append (dirs : List (List Symbol)) (name : List Symbol) :
    directory marks (dirs ++ [name]) = directory marks dirs ++ name ++ [marks.sep] := by
  simp [directory]

omit [DecidableEq Symbol] in
theorem length_directory_append (dirs : List (List Symbol)) (name : List Symbol) :
    (directory marks (dirs ++ [name])).length =
      (directory marks dirs).length + name.length + 1 := by
  rw [directory_append, List.length_append, List.length_append, List.length_singleton]

omit [DecidableEq Symbol] in
theorem length_directory_dropLast (dirs : List (List Symbol)) :
    (directory marks dirs.dropLast).length ≤ (directory marks dirs).length := by
  rcases List.eq_nil_or_concat dirs with none | ⟨before, name, parts⟩
  · rw [none]
    exact Nat.le_refl _
  · rw [parts, List.concat_eq_append, List.dropLast_concat, directory_append, List.append_assoc,
      List.length_append]
    exact Nat.le_add_right ..

/-! ### One symbol -/

theorem enter_plain {dirs : List (List Symbol)} {name : List Symbol}
    (plain : ∀ dir ∈ dirs, Plain marks dir) (flat : marks.sep ∉ name) :
    ∀ dir ∈ enter marks dirs name, Plain marks dir := by
  intro dir member
  rw [enter] at member
  split at member
  · exact plain dir member
  · next some =>
      split at member
      · exact plain dir (List.dropLast_subset dirs member)
      · next other =>
          rcases List.mem_append.mp member with before | last
          · exact plain dir before
          · rw [List.mem_singleton.mp last]
            exact ⟨fun none => some (.inl none), fun single => some (.inr single), other, flat⟩

/-- The names of a place are plain, and the one that is read has no separator in it. -/
def Sound (marks : Marks Symbol) (place : Place Symbol) : Prop :=
  (∀ dir ∈ place.1, Plain marks dir) ∧ marks.sep ∉ place.2

theorem sound_step {place : Place Symbol} (sound : Sound marks place) (symbol : Symbol) :
    Sound marks (step marks place symbol) := by
  rw [step]
  split
  · exact ⟨enter_plain sound.1 sound.2, List.not_mem_nil⟩
  · next other =>
      refine ⟨sound.1, fun member => ?_⟩
      rcases List.mem_append.mp member with before | last
      · exact sound.2 before
      · exact other (List.mem_singleton.mp last).symm

/-- A place takes no more to spell than what was read. -/
theorem length_step (place : Place Symbol) (symbol : Symbol) :
    (directory marks (step marks place symbol).1).length + (step marks place symbol).2.length ≤
      (directory marks place.1).length + place.2.length + 1 := by
  rw [step]
  split
  · dsimp only
    rw [enter, List.length_nil]
    split
    · omega
    · split
      · have shorter : (directory marks place.1.dropLast).length ≤ _ :=
          length_directory_dropLast place.1
        omega
      · have longer : (directory marks (place.1 ++ [place.2])).length = _ :=
          length_directory_append place.1 place.2
        omega
  · dsimp only
    rw [List.length_append, List.length_singleton]
    omega

theorem length_walk (text : List Symbol) :
    (directory marks (walk marks text).1).length + (walk marks text).2.length ≤
      text.length + 1 := by
  have grows (place : Place Symbol) :
      (directory marks (text.foldl (step marks) place).1).length +
          (text.foldl (step marks) place).2.length ≤
        (directory marks place.1).length + place.2.length + text.length := by
    induction text generalizing place with
    | nil => exact Nat.le_refl _
    | cons symbol rest ih =>
        have one : (directory marks (step marks place symbol).1).length +
            (step marks place symbol).2.length ≤ _ := length_step place symbol
        have more := ih (step marks place symbol)
        rw [List.foldl_cons, List.length_cons]
        omega
  have root : (directory marks ([] : List (List Symbol))).length = 1 := rfl
  have whole := grows ([], [])
  rw [root, List.length_nil] at whole
  rw [walk]
  omega

theorem length_spelled (place : Place Symbol) :
    (spelled marks place).length ≤ (directory marks place.1).length + place.2.length := by
  have shorter : (directory marks place.1.dropLast).length ≤ _ := length_directory_dropLast place.1
  have root : 0 < (directory marks place.1).length := Nat.succ_pos _
  rw [spelled]
  split
  · split
    · rw [List.length_singleton]
      omega
    · rw [List.length_dropLast]
      omega
  · split
    · omega
    · exact Nat.le_of_eq List.length_append

/-! ### The spelling -/

theorem canonical_spelled {place : Place Symbol} (sound : Sound marks place) :
    Canonical marks (spelled marks place) := by
  rw [spelled]
  split
  · split
    · exact ⟨[], [], rfl, fun _ member => absurd member List.not_mem_nil, .inl rfl⟩
    · next deep =>
        obtain ⟨dirs, name, parts⟩ :=
          (List.eq_nil_or_concat place.1.dropLast).resolve_left deep
        rw [List.concat_eq_append] at parts
        have plain : ∀ dir ∈ dirs ++ [name], Plain marks dir := by
          intro dir member
          rw [← parts] at member
          exact sound.1 dir (List.dropLast_subset place.1 member)
        rw [parts, directory_append, List.dropLast_concat]
        exact ⟨dirs, name, rfl, fun dir member => plain dir (List.mem_append_left _ member),
          .inr (plain name (List.mem_append_right _ (List.mem_singleton_self name)))⟩
  · split
    · exact ⟨place.1, [], (List.append_nil _).symm, sound.1, .inl rfl⟩
    · next up here =>
        by_cases none : place.2 = []
        · exact ⟨place.1, place.2, rfl, sound.1, .inl none⟩
        · exact ⟨place.1, place.2, rfl, sound.1, .inr ⟨none, here, up, sound.2⟩⟩

/-- A name is read as it is. -/
theorem foldl_step_flat (dirs : List (List Symbol)) (before name : List Symbol)
    (flat : marks.sep ∉ name) :
    name.foldl (step marks) (dirs, before) = (dirs, before ++ name) := by
  induction name generalizing before with
  | nil => rw [List.foldl_nil, List.append_nil]
  | cons symbol rest ih =>
      have other : symbol ≠ marks.sep := by
        intro same
        exact flat (same ▸ List.mem_cons_self)
      rw [List.foldl_cons, step, if_neg other,
        ih _ fun member => flat (List.mem_cons_of_mem symbol member), List.append_assoc]
      rfl

/-- The names of a canonical path are those of the place that it leads to. -/
theorem foldl_step_directory (entered dirs : List (List Symbol)) (last : List Symbol)
    (plain : ∀ dir ∈ dirs, Plain marks dir) (flat : marks.sep ∉ last) :
    ((dirs.flatMap fun name => name ++ [marks.sep]) ++ last).foldl (step marks) (entered, []) =
      (entered ++ dirs, last) := by
  induction dirs generalizing entered with
  | nil =>
      rw [List.flatMap_nil, List.nil_append, foldl_step_flat entered [] last flat,
        List.append_nil, List.nil_append]
  | cons name dirs ih =>
      have here := plain name List.mem_cons_self
      have up : ¬(name = [] ∨ name = [marks.dot]) := by
        rintro (none | single)
        · exact here.1 none
        · exact here.2.1 single
      have split_ : ((name :: dirs).flatMap fun name => name ++ [marks.sep]) ++ last =
          name ++ marks.sep :: ((dirs.flatMap fun name => name ++ [marks.sep]) ++ last) := by
        rw [List.flatMap_cons, List.append_assoc, List.append_assoc, List.singleton_append]
      rw [split_, List.foldl_append, foldl_step_flat entered [] name here.2.2.2, List.nil_append,
        List.foldl_cons, step, if_pos rfl, enter, if_neg up, if_neg here.2.2.1,
        ih _ fun dir member => plain dir (List.mem_cons_of_mem name member), List.append_assoc]
      rfl

/-- A canonical path is spelled as it is. -/
theorem spelled_walk {text : List Symbol} (canonical : Canonical marks text) :
    spelled marks (walk marks text.tail) = text := by
  obtain ⟨dirs, last, parts, plain, ends⟩ := canonical
  have flat : marks.sep ∉ last := by
    rcases ends with none | name
    · rw [none]
      exact List.not_mem_nil
    · exact name.2.2.2
  have up : last ≠ [marks.dot, marks.dot] := by
    rcases ends with none | name
    · rw [none]
      exact fun same => by cases same
    · exact name.2.2.1
  have here : last ≠ [marks.dot] := by
    rcases ends with none | name
    · rw [none]
      exact fun same => by cases same
    · exact name.2.1
  have tail : text.tail = (dirs.flatMap fun name => name ++ [marks.sep]) ++ last := by
    rw [parts]
    rfl
  rw [walk, tail, foldl_step_directory [] dirs last plain flat, spelled, if_neg up, if_neg here,
    List.nil_append, parts]

end Paths

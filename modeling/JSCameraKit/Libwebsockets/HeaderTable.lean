import JSCameraKit.Library.ListEdit
import Mathlib.Data.List.Nodup
import Mathlib.Logic.Function.Basic
import Mathlib.Tactic.Common

set_option autoImplicit false

/-! The header tables of a service thread (parsers.c): a pool of them, each in use by one
connection, and the connections that wait for one. A table that is given back goes to the
connection that has waited longest. Where an assertion of the source fails there is no state
after. -/

namespace JSCameraKit.Libwebsockets

structure AllocatedHeaders (Wsi : Type) where
  inUse : Bool
  wsi : Option Wsi
  rxpos : Nat
  rxlen : Nat
  nfrag : Nat
  pos : Nat

/-- The wait list starts with the connection that came last. What it was joined by, and whom
the tables given back went to, is kept beside it. -/
structure HeaderPool (Wsi : Type) where
  ahPool : List (AllocatedHeaders Wsi)
  ahCountInUse : Nat
  ahWaitList : List Wsi
  ahWaitListLength : Nat
  ah : Wsi → Option Nat
  joined : List Wsi
  served : List Wsi

/-- What `lws_header_table_attach` came to: the table the connection has is cleared, one was
free, or the connection waits, as it did before or from now on. -/
inductive Attached
  | kept
  | taken
  | waitsOn
  | waits
  deriving DecidableEq

namespace HeaderPool

variable {Wsi : Type} [DecidableEq Wsi]

omit [DecidableEq Wsi] in
def initial (maxHttpHeaderPool : Nat) : HeaderPool Wsi :=
  { ahPool := List.replicate maxHttpHeaderPool
      { inUse := false, wsi := none, rxpos := 0, rxlen := 0, nfrag := 0, pos := 0 }
    ahCountInUse := 0
    ahWaitList := []
    ahWaitListLength := 0
    ah := fun _ => none
    joined := []
    served := [] }

omit [DecidableEq Wsi] in
def withHeaders (pool : HeaderPool Wsi) (n : Nat)
    (change : AllocatedHeaders Wsi → AllocatedHeaders Wsi) : HeaderPool Wsi :=
  { pool with ahPool := pool.ahPool.modify n change }

/-- The rx state that is reset where a table changes hands, and `lws_header_table_reset`. -/
def cleared (headers : AllocatedHeaders Wsi) : AllocatedHeaders Wsi :=
  { headers with rxpos := 0, rxlen := 0, nfrag := 0, pos := 0 }

/-- The assertions of `lws_header_table_reset`, with the rx state reset before it. -/
def lwsHeaderTableReset (pool : HeaderPool Wsi) (wsi : Wsi) : Option (HeaderPool Wsi) :=
  match pool.ah wsi with
  | none => none
  | some n =>
      match pool.ahPool[n]? with
      | none => none
      | some headers =>
          if headers.wsi = some wsi then some (pool.withHeaders n cleared) else none

def leaveWaitList (pool : HeaderPool Wsi) (wsi : Wsi) : HeaderPool Wsi :=
  { pool with
    ahWaitList := pool.ahWaitList.erase wsi
    ahWaitListLength := pool.ahWaitListLength - 1 }

/-- The first table that is free. -/
def takeFree (pool : HeaderPool Wsi) (wsi : Wsi) : Option (HeaderPool Wsi) :=
  match pool.ahPool.findIdx? fun headers => !headers.inUse with
  | none => none
  | some n =>
      ({ pool with
        ahPool := pool.ahPool.modify n fun headers =>
          { headers with inUse := true, wsi := some wsi }
        ah := Function.update pool.ah wsi (some n)
        ahCountInUse := pool.ahCountInUse + 1 } : HeaderPool Wsi).lwsHeaderTableReset wsi

def lwsHeaderTableAttach (pool : HeaderPool Wsi) (wsi : Wsi) :
    Option (HeaderPool Wsi × Attached) :=
  if (pool.ah wsi).isSome then
    (pool.lwsHeaderTableReset wsi).map fun pool => (pool, .kept)
  else if wsi ∈ pool.ahWaitList ∧ pool.ahCountInUse = pool.ahPool.length then
    some (pool, .waitsOn)
  else
    let free := if wsi ∈ pool.ahWaitList then pool.leaveWaitList wsi else pool
    if free.ahCountInUse = free.ahPool.length then
      some ({ free with
        ahWaitList := wsi :: free.ahWaitList
        ahWaitListLength := free.ahWaitListLength + 1
        joined := free.joined ++ [wsi] }, .waits)
    else (free.takeFree wsi).map fun pool => (pool, .taken)

/-- A table goes from its connection to the one that has waited longest. -/
def handOver (pool : HeaderPool Wsi) (wsi next : Wsi) (n : Nat) : Option (HeaderPool Wsi) :=
  (({ pool with
    ahPool := pool.ahPool.modify n fun headers => { headers with wsi := some next }
    ah := Function.update (Function.update pool.ah wsi none) next (some n) } :
    HeaderPool Wsi).lwsHeaderTableReset next).bind fun clean =>
      let handed :=
        { clean with
          ahWaitList := clean.ahWaitList.dropLast
          ahWaitListLength := clean.ahWaitListLength - 1
          served := clean.served ++ [next] }
      if handed.ahWaitListLength ≠ 0 ↔ handed.ahWaitList ≠ [] then some handed else none

/-- The result has the connection that got the table, if any did. -/
def lwsHeaderTableDetach (pool : HeaderPool Wsi) (wsi : Wsi) :
    Option (HeaderPool Wsi × Option Wsi) :=
  match pool.ah wsi with
  | none =>
      if wsi ∈ pool.ahWaitList then some (pool.leaveWaitList wsi, none) else some (pool, none)
  | some n =>
      match pool.ahPool[n]? with
      | none => none
      | some headers =>
          if headers.rxpos ≠ headers.rxlen then none
          else if pool.ahCountInUse = 0 ∨ headers.inUse = false then none
          else
            match pool.ahWaitList.getLast? with
            | none =>
                some ({ pool with
                  ahPool := pool.ahPool.modify n fun headers =>
                    { headers with wsi := none, inUse := false }
                  ah := Function.update pool.ah wsi none
                  ahCountInUse := pool.ahCountInUse - 1 }, none)
            | some next => (pool.handOver wsi next n).map fun pool => (pool, some next)

/-- Losing what is in the rx buffer is all right where a connection closes or is done. -/
def skipRx (pool : HeaderPool Wsi) (wsi : Wsi) : HeaderPool Wsi :=
  match pool.ah wsi with
  | none => pool
  | some n => pool.withHeaders n fun headers => { headers with rxpos := headers.rxlen }

/-- Each table in use is that of the connection that has it, and none is free while a
connection waits. Tables are given to those who wait in the order they came in. -/
structure Sound (pool : HeaderPool Wsi) (used : Wsi → Prop) : Prop where
  owner : ∀ wsi n, pool.ah wsi = some n ↔
    ∃ headers, pool.ahPool[n]? = some headers ∧ headers.wsi = some wsi
  inUse : ∀ headers ∈ pool.ahPool, headers.inUse = headers.wsi.isSome
  count : pool.ahCountInUse = pool.ahPool.countP AllocatedHeaders.inUse
  owners : ∀ wsi, pool.ah wsi ≠ none → used wsi
  waiters : ∀ wsi ∈ pool.ahWaitList, used wsi ∧ pool.ah wsi = none
  nodup : pool.ahWaitList.Nodup
  length : pool.ahWaitListLength = pool.ahWaitList.length
  busy : pool.ahWaitList ≠ [] → pool.ahCountInUse = pool.ahPool.length
  inOrder : (pool.served ++ pool.ahWaitList.reverse).Sublist pool.joined

variable {pool : HeaderPool Wsi} {used : Wsi → Prop} {wsi other : Wsi} {n : Nat}
  {headers : AllocatedHeaders Wsi}

omit [DecidableEq Wsi] in
theorem initial_sound (maxHttpHeaderPool : Nat) (used : Wsi → Prop) :
    (initial maxHttpHeaderPool : HeaderPool Wsi).Sound used := by
  refine { owner := ?_, inUse := ?_, count := ?_, owners := ?_, waiters := ?_, nodup := ?_
           length := rfl, busy := ?_, inOrder := List.Sublist.refl [] }
  · intro wsi n
    refine iff_of_false (by simp [initial]) ?_
    rintro ⟨headers, found, owned⟩
    have same := List.eq_of_mem_replicate (List.mem_of_getElem? found)
    rw [same] at owned
    cases owned
  · intro headers member
    rw [List.eq_of_mem_replicate member]
    rfl
  · show 0 = List.countP _ _
    symm
    rw [List.countP_eq_zero]
    intro headers member
    rw [List.eq_of_mem_replicate member]
    simp
  · intro wsi bound
    exact absurd rfl bound
  · intro wsi member
    exact absurd member List.not_mem_nil
  · exact List.nodup_nil
  · intro waits
    exact absurd rfl waits

omit [DecidableEq Wsi] in
theorem Sound.mono (sound : pool.Sound used) {more : Wsi → Prop}
    (within : ∀ wsi, used wsi → more wsi) : pool.Sound more :=
  { sound with
    owners := fun wsi bound => within wsi (sound.owners wsi bound)
    waiters := fun wsi member =>
      ⟨within wsi (sound.waiters wsi member).1, (sound.waiters wsi member).2⟩ }

omit [DecidableEq Wsi] in
theorem Sound.owner_modify (sound : pool.Sound used) (found : pool.ahPool[n]? = some headers)
    (change : AllocatedHeaders Wsi → AllocatedHeaders Wsi) {ah : Wsi → Option Nat}
    (bound : ∀ wsi m, ah wsi = some m ↔
      if m = n then (change headers).wsi = some wsi else pool.ah wsi = some m) (wsi : Wsi)
    (m : Nat) :
    ah wsi = some m ↔ ∃ headers, (pool.ahPool.modify n change)[m]? = some headers ∧
      headers.wsi = some wsi := by
  rw [bound, ListEdit.getElem?_modify_found found]
  by_cases same : m = n
  · rw [if_pos same, if_pos same]
    simp
  · rw [if_neg same, if_neg same]
    exact sound.owner wsi m

omit [DecidableEq Wsi] in
theorem Sound.inUse_modify (sound : pool.Sound used) (found : pool.ahPool[n]? = some headers)
    {change : AllocatedHeaders Wsi → AllocatedHeaders Wsi}
    (agrees : (change headers).inUse = (change headers).wsi.isSome) :
    ∀ headers ∈ pool.ahPool.modify n change, headers.inUse = headers.wsi.isSome := by
  intro later member
  obtain ⟨m, there⟩ := List.mem_iff_getElem?.mp member
  rw [ListEdit.getElem?_modify_found found] at there
  split at there
  next =>
    cases there
    exact agrees
  next => exact sound.inUse later (List.mem_of_getElem? there)

omit [DecidableEq Wsi] in
theorem Sound.exists_headers (sound : pool.Sound used) (bound : pool.ah wsi = some n) :
    ∃ headers, pool.ahPool[n]? = some headers ∧ headers.wsi = some wsi ∧
      headers.inUse = true := by
  obtain ⟨headers, found, owned⟩ := (sound.owner wsi n).mp bound
  have agrees := sound.inUse headers (List.mem_of_getElem? found)
  rw [owned] at agrees
  exact ⟨headers, found, owned, agrees⟩

omit [DecidableEq Wsi] in
/-- What a connection reads into its table and how much of it is done with is its own. -/
theorem Sound.withHeaders (sound : pool.Sound used) (found : pool.ahPool[n]? = some headers)
    {change : AllocatedHeaders Wsi → AllocatedHeaders Wsi}
    (owner : (change headers).wsi = headers.wsi)
    (inUse : (change headers).inUse = headers.inUse) :
    (pool.withHeaders n change).Sound used := by
  have agrees := sound.inUse headers (List.mem_of_getElem? found)
  refine { sound with owner := ?_, inUse := ?_, count := ?_, busy := ?_ }
  · apply sound.owner_modify found
    intro wsi m
    split
    next same =>
      rw [owner, same]
      show pool.ah wsi = some n ↔ _
      rw [sound.owner, found]
      simp
    next => exact Iff.rfl
  · apply sound.inUse_modify found
    rw [owner, inUse]
    exact agrees
  · have counts := ListEdit.countP_modify AllocatedHeaders.inUse change found
    have before := sound.count
    rw [inUse] at counts
    show pool.ahCountInUse = (pool.ahPool.modify n change).countP _
    omega
  · intro waits
    show pool.ahCountInUse = (pool.ahPool.modify n change).length
    rw [List.length_modify]
    exact sound.busy waits

theorem Sound.lwsHeaderTableReset (sound : pool.Sound used) (bound : pool.ah wsi = some n) :
    pool.lwsHeaderTableReset wsi = some (pool.withHeaders n cleared) := by
  obtain ⟨headers, found, owned, _⟩ := sound.exists_headers bound
  rw [HeaderPool.lwsHeaderTableReset]
  simp only [bound, found, if_pos owned]

omit [DecidableEq Wsi] in
theorem Sound.cleared (sound : pool.Sound used) (bound : pool.ah wsi = some n) :
    (pool.withHeaders n cleared).Sound used := by
  obtain ⟨headers, found, _, _⟩ := sound.exists_headers bound
  exact sound.withHeaders found rfl rfl

omit [DecidableEq Wsi] in
theorem Sound.skipRx (sound : pool.Sound used) (wsi : Wsi) : (pool.skipRx wsi).Sound used := by
  rw [HeaderPool.skipRx]
  cases bound : pool.ah wsi with
  | none => exact sound
  | some n =>
      obtain ⟨headers, found, _, _⟩ := sound.exists_headers bound
      exact sound.withHeaders found rfl rfl

theorem Sound.leaveWaitList (sound : pool.Sound used) (waiting : wsi ∈ pool.ahWaitList) :
    (pool.leaveWaitList wsi).Sound used := by
  refine { sound with waiters := ?_, nodup := ?_, length := ?_, busy := ?_, inOrder := ?_ }
  · exact fun other member => sound.waiters other (List.mem_of_mem_erase member)
  · exact sound.nodup.erase wsi
  · show pool.ahWaitListLength - 1 = (pool.ahWaitList.erase wsi).length
    rw [sound.length, List.length_erase_of_mem waiting]
  · intro _
    exact sound.busy (List.ne_nil_of_mem waiting)
  · have shorter : (pool.ahWaitList.erase wsi).reverse.Sublist pool.ahWaitList.reverse :=
      (List.erase_sublist).reverse
    exact (shorter.append_left pool.served).trans sound.inOrder

omit [DecidableEq Wsi] in
/-- A connection that leaves the wait list and has no table is not known here any more. -/
theorem Sound.forget (sound : pool.Sound used) (bound : pool.ah wsi = none)
    (gone : wsi ∉ pool.ahWaitList) : pool.Sound fun other => used other ∧ other ≠ wsi := by
  refine { sound with owners := ?_, waiters := ?_ }
  · intro other has
    refine ⟨sound.owners other has, ?_⟩
    intro same
    rw [same] at has
    exact has bound
  · intro other member
    obtain ⟨inUse, none⟩ := sound.waiters other member
    refine ⟨⟨inUse, ?_⟩, none⟩
    intro same
    exact gone (same ▸ member)

/-! ### Getting a table -/

omit [DecidableEq Wsi] in
theorem Sound.exists_free (sound : pool.Sound used)
    (free : pool.ahCountInUse ≠ pool.ahPool.length) :
    ∃ n headers, pool.ahPool.findIdx? (fun headers => !headers.inUse) = some n ∧
      pool.ahPool[n]? = some headers ∧ headers.wsi = none ∧ headers.inUse = false := by
  cases found : pool.ahPool.findIdx? fun headers => !headers.inUse with
  | none =>
      have all := List.findIdx?_eq_none_iff.mp found
      have full : pool.ahPool.countP AllocatedHeaders.inUse = pool.ahPool.length := by
        rw [List.countP_eq_length]
        intro headers member
        simpa using all headers member
      exact absurd (sound.count.trans full) free
  | some n =>
      obtain ⟨within, isFree, _⟩ := List.findIdx?_eq_some_iff_getElem.mp found
      have there := List.getElem?_eq_getElem within
      have agrees := sound.inUse _ (List.mem_of_getElem? there)
      have notInUse : pool.ahPool[n].inUse = false := by simpa using isFree
      rw [notInUse] at agrees
      refine ⟨n, pool.ahPool[n], rfl, there, ?_, notInUse⟩
      exact Option.isNone_iff_eq_none.mp (by simpa using agrees.symm)

theorem Sound.taken (sound : pool.Sound used) (wsiUsed : used wsi) (unbound : pool.ah wsi = none)
    (absent : wsi ∉ pool.ahWaitList) (found : pool.ahPool[n]? = some headers)
    (isFree : headers.wsi = none) (notInUse : headers.inUse = false)
    (free : pool.ahCountInUse ≠ pool.ahPool.length) :
    ({ pool with
      ahPool := pool.ahPool.modify n fun headers =>
        { headers with inUse := true, wsi := some wsi }
      ah := Function.update pool.ah wsi (some n)
      ahCountInUse := pool.ahCountInUse + 1 } : HeaderPool Wsi).Sound used := by
  refine { sound with owner := ?_, inUse := ?_, count := ?_, owners := ?_, waiters := ?_
                      busy := ?_ }
  · apply sound.owner_modify found
    intro other m
    show Function.update pool.ah wsi (some n) other = some m ↔ _
    rw [Function.update_apply]
    by_cases same : other = wsi
    · rw [if_pos same, same, unbound]
      by_cases here : m = n
      · simp [here]
      · simp [here, Ne.symm here]
    · rw [if_neg same]
      by_cases here : m = n
      · rw [if_pos here, here]
        refine iff_of_false ?_ (by simpa using Ne.symm same)
        rw [sound.owner, found]
        simp [isFree]
      · rw [if_neg here]
  · exact sound.inUse_modify found rfl
  · have counts := ListEdit.countP_modify AllocatedHeaders.inUse
      (fun headers => { headers with inUse := true, wsi := some wsi }) found
    have before := sound.count
    rw [notInUse] at counts
    simp only [Bool.false_eq_true, if_false, if_true] at counts
    show pool.ahCountInUse + 1 = (pool.ahPool.modify n _).countP _
    omega
  · intro other bound
    by_cases same : other = wsi
    · rw [same]
      exact wsiUsed
    · apply sound.owners
      have kept : Function.update pool.ah wsi (some n) other = pool.ah other :=
        Function.update_of_ne same _ _
      rw [← kept]
      exact bound
  · intro other member
    have distinct : other ≠ wsi := fun same => absent (same ▸ member)
    have kept : Function.update pool.ah wsi (some n) other = pool.ah other :=
      Function.update_of_ne distinct _ _
    exact ⟨(sound.waiters other member).1, kept.trans (sound.waiters other member).2⟩
  · intro waits
    exact absurd (sound.busy waits) free

/-- What `lws_header_table_attach` leaves. -/
structure Attaches (pool after : HeaderPool Wsi) (wsi : Wsi) (outcome : Attached) : Prop where
  kept : outcome = .kept → after.ahWaitList = pool.ahWaitList
  taken : outcome = .taken → after.ahWaitList = pool.ahWaitList
  waitsOn : outcome = .waitsOn → after.ahWaitList = pool.ahWaitList ∧ wsi ∈ pool.ahWaitList
  waits : outcome = .waits → after.ahWaitList = wsi :: pool.ahWaitList
  bound : after.ah wsi ≠ none ↔ outcome = .kept ∨ outcome = .taken
  others : ∀ other, other ≠ wsi → after.ah other = pool.ah other

theorem Sound.lwsHeaderTableAttach (sound : pool.Sound used) (wsiUsed : used wsi) :
    ∃ after outcome, pool.lwsHeaderTableAttach wsi = some (after, outcome) ∧
      after.Sound used ∧ pool.Attaches after wsi outcome := by
  rw [HeaderPool.lwsHeaderTableAttach]
  cases bound : pool.ah wsi with
  | some n =>
      rw [if_pos (by simp), sound.lwsHeaderTableReset bound]
      refine ⟨_, .kept, rfl, sound.cleared bound, ?_⟩
      have stays : (pool.withHeaders n HeaderPool.cleared).ah wsi = some n := bound
      exact { kept := fun _ => rfl, taken := nofun, waitsOn := nofun, waits := nofun
              bound := by simp [stays], others := fun _ _ => rfl }
  | none =>
      rw [if_neg (by simp)]
      by_cases waiting : wsi ∈ pool.ahWaitList
      · rw [if_pos ⟨waiting, sound.busy (List.ne_nil_of_mem waiting)⟩]
        refine ⟨pool, .waitsOn, rfl, sound, ?_⟩
        exact { kept := nofun, taken := nofun, waitsOn := fun _ => ⟨rfl, waiting⟩
                waits := nofun, bound := by simp [bound], others := fun _ _ => rfl }
      · rw [if_neg (fun both => waiting both.1)]
        simp only [if_neg waiting]
        by_cases full : pool.ahCountInUse = pool.ahPool.length
        · rw [if_pos full]
          refine ⟨_, .waits, rfl, ?_, ?_⟩
          · refine { sound with waiters := ?_, nodup := ?_, length := ?_, busy := ?_
                                inOrder := ?_ }
            · intro other member
              cases List.mem_cons.mp member with
              | inl new =>
                  rw [new]
                  exact ⟨wsiUsed, bound⟩
              | inr old => exact sound.waiters other old
            · exact List.nodup_cons.mpr ⟨waiting, sound.nodup⟩
            · exact congrArg (· + 1) sound.length
            · exact fun _ => full
            · show (pool.served ++ (wsi :: pool.ahWaitList).reverse).Sublist
                (pool.joined ++ [wsi])
              rw [List.reverse_cons, ← List.append_assoc]
              exact sound.inOrder.append_right [wsi]
          · exact { kept := nofun, taken := nofun, waitsOn := nofun, waits := fun _ => rfl
                    bound := by simp [bound], others := fun _ _ => rfl }
        · obtain ⟨n, headers, first, found, isFree, notInUse⟩ := sound.exists_free full
          have taken := sound.taken wsiUsed bound waiting found isFree notInUse full
          have mine : Function.update pool.ah wsi (some n) wsi = some n :=
            Function.update_self ..
          rw [if_neg full, HeaderPool.takeFree, first]
          dsimp only
          rw [taken.lwsHeaderTableReset mine]
          refine ⟨_, .taken, rfl, taken.cleared mine, ?_⟩
          have stays : Function.update pool.ah wsi (some n) wsi ≠ none := by
            rw [mine]
            exact Option.some_ne_none n
          exact { kept := nofun, taken := fun _ => rfl, waitsOn := nofun, waits := nofun
                  bound := iff_of_true stays (.inr rfl)
                  others := fun other distinct => Function.update_of_ne distinct _ _ }

/-! ### Giving a table back -/

/-- What `lws_header_table_detach` leaves. The connection that waited longest has the table
then, and nothing is in it. -/
structure Detaches (pool after : HeaderPool Wsi) (wsi : Wsi) (served : Option Wsi) : Prop where
  unbound : after.ah wsi = none
  absent : wsi ∉ after.ahWaitList
  fewer : ∀ other ∈ after.ahWaitList, other ∈ pool.ahWaitList
  others : ∀ other, other ≠ wsi → served ≠ some other → after.ah other = pool.ah other
  oldest : ∀ next, served = some next →
    pool.ahWaitList.getLast? = some next ∧ next ∉ after.ahWaitList ∧
      ∃ n headers, pool.ah wsi = some n ∧ after.ah next = some n ∧
        after.ahPool[n]? = some headers ∧ headers.rxpos = 0 ∧ headers.rxlen = 0 ∧
          headers.nfrag = 0 ∧ headers.pos = 0

theorem Sound.freed (sound : pool.Sound used) (bound : pool.ah wsi = some n)
    (found : pool.ahPool[n]? = some headers) (inUse : headers.inUse = true)
    (nobody : pool.ahWaitList = []) :
    ({ pool with
      ahPool := pool.ahPool.modify n fun headers => { headers with wsi := none, inUse := false }
      ah := Function.update pool.ah wsi none
      ahCountInUse := pool.ahCountInUse - 1 } : HeaderPool Wsi).Sound used := by
  have owned : headers.wsi = some wsi := by
    obtain ⟨here, there, owned⟩ := (sound.owner wsi n).mp bound
    cases found.symm.trans there
    exact owned
  refine { sound with owner := ?_, inUse := ?_, count := ?_, owners := ?_, waiters := ?_
                      busy := ?_ }
  · apply sound.owner_modify found
    intro other m
    show Function.update pool.ah wsi none other = some m ↔ _
    rw [Function.update_apply]
    by_cases same : other = wsi
    · rw [if_pos same, same, bound]
      by_cases here : m = n
      · simp [here]
      · simp [here, Ne.symm here]
    · rw [if_neg same]
      by_cases here : m = n
      · rw [if_pos here, here]
        refine iff_of_false ?_ (by simp)
        rw [sound.owner, found]
        simp [owned, Ne.symm same]
      · rw [if_neg here]
  · exact sound.inUse_modify found rfl
  · have counts := ListEdit.countP_modify AllocatedHeaders.inUse
      (fun headers => { headers with wsi := none, inUse := false }) found
    have before := sound.count
    rw [inUse] at counts
    simp only [Bool.false_eq_true, if_false, if_true] at counts
    show pool.ahCountInUse - 1 = (pool.ahPool.modify n _).countP _
    omega
  · intro other has
    by_cases same : other = wsi
    · rw [same]
      apply sound.owners
      rw [bound]
      exact Option.some_ne_none n
    · apply sound.owners
      have kept : Function.update pool.ah wsi none other = pool.ah other :=
        Function.update_of_ne same _ _
      rw [← kept]
      exact has
  · intro other member
    rw [nobody] at member
    cases member
  · intro waits
    exact absurd nobody waits

theorem Sound.passed (sound : pool.Sound used) (bound : pool.ah wsi = some n)
    (found : pool.ahPool[n]? = some headers) {next : Wsi} {before : List Wsi}
    (waits : pool.ahWaitList = before ++ [next]) :
    ({ pool with
      ahPool := pool.ahPool.modify n fun headers => { headers with wsi := some next }
      ah := Function.update (Function.update pool.ah wsi none) next (some n)
      ahWaitList := before
      ahWaitListLength := pool.ahWaitListLength - 1
      served := pool.served ++ [next] } : HeaderPool Wsi).Sound used := by
  have member : next ∈ pool.ahWaitList := by
    rw [waits]
    simp
  obtain ⟨nextUsed, nextUnbound⟩ := sound.waiters next member
  have distinct : wsi ≠ next := by
    intro same
    rw [same, nextUnbound] at bound
    cases bound
  have owned : headers.wsi = some wsi ∧ headers.inUse = true := by
    obtain ⟨here, there, owned, inUse⟩ := sound.exists_headers bound
    cases found.symm.trans there
    exact ⟨owned, inUse⟩
  have nodup := sound.nodup
  rw [waits, List.nodup_append] at nodup
  have fresh : ∀ other ∈ before, other ≠ next :=
    fun other inside => nodup.2.2 other inside next (by simp)
  have busy := sound.busy (List.ne_nil_of_mem member)
  refine { owner := ?_, inUse := ?_, count := ?_, owners := ?_, waiters := ?_, nodup := nodup.1
           length := ?_, busy := ?_, inOrder := ?_ }
  · apply sound.owner_modify found
    intro other m
    show Function.update (Function.update pool.ah wsi none) next (some n) other = some m ↔ _
    rw [Function.update_apply, Function.update_apply]
    by_cases isNext : other = next
    · rw [if_pos isNext, isNext, nextUnbound]
      by_cases here : m = n
      · simp [here]
      · simp [here, Ne.symm here]
    · rw [if_neg isNext]
      by_cases same : other = wsi
      · rw [if_pos same, same, bound]
        by_cases here : m = n
        · simp [here, Ne.symm distinct]
        · simp [here, Ne.symm here]
      · rw [if_neg same]
        by_cases here : m = n
        · rw [if_pos here, here]
          refine iff_of_false ?_ (by simpa using Ne.symm isNext)
          rw [sound.owner, found]
          simp [owned.1, Ne.symm same]
        · rw [if_neg here]
  · exact sound.inUse_modify found owned.2
  · have counts := ListEdit.countP_modify AllocatedHeaders.inUse
      (fun headers => { headers with wsi := some next }) found
    have before := sound.count
    dsimp only at counts
    show pool.ahCountInUse = (pool.ahPool.modify n _).countP _
    omega
  · intro other has
    by_cases isNext : other = next
    · rw [isNext]
      exact nextUsed
    · apply sound.owners
      intro unbound
      apply has
      show Function.update (Function.update pool.ah wsi none) next (some n) other = none
      rw [Function.update_of_ne isNext, Function.update_apply, unbound, ite_self]
  · intro other inside
    have old : other ∈ pool.ahWaitList := by
      rw [waits]
      exact List.mem_append_left _ inside
    obtain ⟨otherUsed, unbound⟩ := sound.waiters other old
    refine ⟨otherUsed, ?_⟩
    show Function.update (Function.update pool.ah wsi none) next (some n) other = none
    rw [Function.update_of_ne (fresh other inside), Function.update_apply, unbound, ite_self]
  · have length := sound.length
    rw [waits, List.length_append, List.length_singleton] at length
    show pool.ahWaitListLength - 1 = before.length
    omega
  · intro _
    show pool.ahCountInUse = (pool.ahPool.modify n _).length
    rw [List.length_modify]
    exact busy
  · have inOrder := sound.inOrder
    rw [waits, List.reverse_append] at inOrder
    show (pool.served ++ [next] ++ before.reverse).Sublist pool.joined
    rw [List.append_assoc]
    exact inOrder

private theorem lwsHeaderTableReset_of_owner (bound : pool.ah wsi = some n)
    (found : pool.ahPool[n]? = some headers) (owned : headers.wsi = some wsi) :
    pool.lwsHeaderTableReset wsi = some (pool.withHeaders n HeaderPool.cleared) := by
  rw [HeaderPool.lwsHeaderTableReset]
  simp only [bound, found, if_pos owned]

theorem Sound.handOver (sound : pool.Sound used)
    (found : pool.ahPool[n]? = some headers) {next : Wsi} {before : List Wsi}
    (waits : pool.ahWaitList = before ++ [next]) :
    pool.handOver wsi next n = some (({ pool with
      ahPool := pool.ahPool.modify n fun headers => { headers with wsi := some next }
      ah := Function.update (Function.update pool.ah wsi none) next (some n)
      ahWaitList := before
      ahWaitListLength := pool.ahWaitListLength - 1
      served := pool.served ++ [next] } : HeaderPool Wsi).withHeaders n HeaderPool.cleared) := by
  have mine : Function.update (Function.update pool.ah wsi none) next (some n) next = some n :=
    Function.update_self ..
  have there : (pool.ahPool.modify n fun headers => { headers with wsi := some next })[n]? =
      some { headers with wsi := some next } := by
    rw [ListEdit.getElem?_modify_found found, if_pos rfl]
  have length := sound.length
  rw [waits, List.length_append, List.length_singleton] at length
  have agree : pool.ahWaitListLength - 1 ≠ 0 ↔ before ≠ [] := by
    rw [← List.length_pos_iff_ne_nil]
    omega
  rw [HeaderPool.handOver, lwsHeaderTableReset_of_owner mine there rfl]
  simp only [Option.bind_some, HeaderPool.withHeaders, waits, List.dropLast_concat, if_pos agree]

theorem Sound.lwsHeaderTableDetach (sound : pool.Sound used)
    (done : ∀ n headers, pool.ah wsi = some n → pool.ahPool[n]? = some headers →
      headers.rxpos = headers.rxlen) :
    ∃ after served, pool.lwsHeaderTableDetach wsi = some (after, served) ∧
      after.Sound used ∧ pool.Detaches after wsi served := by
  rw [HeaderPool.lwsHeaderTableDetach]
  cases bound : pool.ah wsi with
  | none =>
      dsimp only
      by_cases waiting : wsi ∈ pool.ahWaitList
      · rw [if_pos waiting]
        refine ⟨_, none, rfl, sound.leaveWaitList waiting, ?_⟩
        exact { unbound := bound
                absent := fun member => (sound.nodup.mem_erase_iff.mp member).1 rfl
                fewer := fun _ member => List.mem_of_mem_erase member
                others := fun _ _ _ => rfl
                oldest := nofun }
      · rw [if_neg waiting]
        exact ⟨pool, none, rfl, sound,
          { unbound := bound, absent := waiting, fewer := fun _ member => member
            others := fun _ _ _ => rfl, oldest := nofun }⟩
  | some n =>
      obtain ⟨headers, found, owned, inUse⟩ := sound.exists_headers bound
      have positive : pool.ahCountInUse ≠ 0 := by
        rw [sound.count]
        apply Nat.ne_of_gt
        rw [List.countP_pos_iff]
        exact ⟨headers, List.mem_of_getElem? found, inUse⟩
      have absent : wsi ∉ pool.ahWaitList := by
        intro member
        rw [(sound.waiters wsi member).2] at bound
        cases bound
      simp only [found]
      rw [if_neg (fun more => more (done n headers bound found)),
        if_neg (by simp [positive, inUse])]
      cases last : pool.ahWaitList.getLast? with
      | none =>
          have nobody := List.getLast?_eq_none_iff.mp last
          refine ⟨_, none, rfl, sound.freed bound found inUse nobody, ?_⟩
          exact { unbound := Function.update_self ..
                  absent := absent
                  fewer := fun _ member => member
                  others := fun other distinct _ => Function.update_of_ne distinct _ _
                  oldest := nofun }
      | some next =>
          obtain ⟨before, waits⟩ := List.getLast?_eq_some_iff.mp last
          have nodup := sound.nodup
          rw [waits, List.nodup_append] at nodup
          have distinct : wsi ≠ next := by
            intro same
            apply absent
            rw [waits, same]
            simp
          have mine :
              Function.update (Function.update pool.ah wsi none) next (some n) next = some n :=
            Function.update_self ..
          have passed := sound.passed bound found waits
          simp only [sound.handOver found waits, Option.map_some]
          refine ⟨_, some next, rfl, passed.cleared mine, ?_⟩
          have there : (pool.ahPool.modify n fun headers =>
              { headers with wsi := some next })[n]? = some { headers with wsi := some next } := by
            rw [ListEdit.getElem?_modify_found found, if_pos rfl]
          refine { unbound := ?_, absent := ?_, fewer := ?_, others := ?_, oldest := ?_ }
          · show Function.update (Function.update pool.ah wsi none) next (some n) wsi = none
            rw [Function.update_of_ne distinct, Function.update_self]
          · intro member
            apply absent
            rw [waits]
            exact List.mem_append_left _ member
          · intro other member
            rw [waits]
            exact List.mem_append_left _ member
          · intro other notWsi notServed
            have notNext : other ≠ next := fun same => notServed (congrArg some same.symm)
            show Function.update (Function.update pool.ah wsi none) next (some n) other = _
            rw [Function.update_of_ne notNext, Function.update_of_ne notWsi]
          · intro served isNext
            cases isNext
            refine ⟨last, ?_, n, HeaderPool.cleared { headers with wsi := some next }, bound, mine,
              ?_, rfl, rfl, rfl, rfl⟩
            · intro member
              exact nodup.2.2 next member next (by simp) rfl
            · show ((pool.ahPool.modify n _).modify n HeaderPool.cleared)[n]? = _
              rw [ListEdit.getElem?_modify_found there, if_pos rfl]

end HeaderPool

end JSCameraKit.Libwebsockets

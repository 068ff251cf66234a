/-
  Transactions that take exclusive locks one at a time and keep them to their end.

  A PROGRAM is the list of locks a transaction takes, in order.  A transaction may end at any point,
  and holds nothing afterwards; a lock that another transaction holds has to be waited for.  Some
  runs come to a cycle of transactions that each wait for the next.

  1. **The system** — `step`, `WaitsFor`, `Deadlocked`, over any type of locks.
  2. **Standoffs** — `Standoff` reads a deadlock off the programs alone: some of the transactions
     stand at prefixes that share no lock, each before a lock in the prefix of another.
     `deadlock_iff_standoff` says that it is one: the prefixes can be run one after the other.
  3. **Ranks** — where every program takes its locks in the order of a rank, a standoff comes down
     to locks of one rank (`Standoff.level`).

  A cycle in the wait-for relation is a fact about a state, and the state is reached by steps that
  interleave the transactions in some order.  The obvious induction, over the run, has nothing to go
  on: a cycle appears at its last step and has no trace before it.  What can be read off a state is
  where each transaction stands in its program (`Snapshot`), and that is all a deadlock depends on:
  `deadlock_iff_standoff` takes a cycle to a set of transactions that stand in each other's way, and
  any such set back to a run that brings them there, in any order, since prefixes that share no lock
  do not meet.

  A common order of the locks rules a standoff out because the one that waits for the highest lock
  waits for nobody (`not_standoff_of_injOn`).  Where several locks have one rank the argument stops
  at them, and what is left over is a standoff among locks of one rank (`Standoff.level`), which is
  a question about a part of each program and not about all of it.
-/
import Mathlib.Data.Finset.Max
import Mathlib.Data.Fintype.Card
import Mathlib.Data.Fintype.EquivFin
import Mathlib.Data.Fintype.Sets
import Mathlib.Logic.Relation
import MusicBrainzLoader.Lib.Interleaving
import MusicBrainzLoader.Lib.Runs

namespace Locking

open Interleaving Relation

variable {Lock : Type}

/-! ## The system -/

/-- A transaction: the locks it holds, in the order it took them, and those it still has to take. -/
structure Tx (Lock : Type) where
  held : List Lock
  rest : List Lock
deriving DecidableEq

inductive Action where
  /-- The `i`-th transaction takes its next lock. -/
  | acquire (i : Nat)
  /-- The `i`-th transaction ends, whatever it has come to. -/
  | finish (i : Nat)

section System

variable [DecidableEq Lock]

def step (txs : List (Tx Lock)) : Action → Option (List (Tx Lock))
  | .acquire i => do
    let tx ← txs[i]?
    match tx.rest with
    | [] => none
    | lock :: rest =>
      if (txs.eraseIdx i).all fun other => decide (lock ∉ other.held) then
        return txs.set i ⟨tx.held ++ [lock], rest⟩
      else none
  | .finish i => txs[i]?.map fun _ => txs.set i ⟨[], []⟩

/-- Nobody has taken anything. -/
def start (programs : List (List Lock)) : List (Tx Lock) :=
  programs.map fun program => ⟨[], program⟩

def Reachable (programs : List (List Lock)) (txs : List (Tx Lock)) : Prop :=
  ∃ actions, Runs.run step (start programs) actions = some txs

end System

/-- The `i`-th transaction's next lock is held by the `j`-th. -/
def WaitsFor (txs : List (Tx Lock)) (i j : Nat) : Prop :=
  i ≠ j ∧ ∃ (tx other : Tx Lock) (lock : Lock) (rest : List Lock), txs[i]? = some tx ∧
    txs[j]? = some other ∧ tx.rest = lock :: rest ∧ lock ∈ other.held

/-- A cycle of transactions that each wait for the next. -/
def Deadlocked (txs : List (Tx Lock)) : Prop := ∃ i, TransGen (WaitsFor txs) i i

section Snapshots

variable {programs : List (List Lock)} {txs : List (Tx Lock)}

/-! ## What every run keeps -/

/-- A transaction has come some way through its program, or it has ended; no two hold one lock. -/
structure Snapshot (programs : List (List Lock)) (txs : List (Tx Lock)) : Prop where
  program : ∀ (i : Nat) (tx : Tx Lock), txs[i]? = some tx →
    tx.rest = [] ∨ programs[i]? = some (tx.held ++ tx.rest)
  apart : ∀ (i j : Nat) (tx other : Tx Lock), i ≠ j → txs[i]? = some tx → txs[j]? = some other →
    List.Disjoint tx.held other.held

theorem Snapshot.start (programs : List (List Lock)) : Snapshot programs (start programs) := by
  have hstart (i : Nat) (tx : Tx Lock) (htx : (Locking.start programs)[i]? = some tx) :
      tx.held = [] ∧ programs[i]? = some tx.rest := by
    rw [Locking.start, List.getElem?_map] at htx
    obtain ⟨program, hprogram, rfl⟩ := Option.map_eq_some_iff.mp htx
    exact ⟨rfl, hprogram⟩
  constructor
  · intro i tx htx
    obtain ⟨hheld, hprogram⟩ := hstart i tx htx
    rw [hheld]
    exact Or.inr hprogram
  · intro i j tx other _ htx _
    rw [(hstart i tx htx).1]
    exact List.disjoint_nil_left _

/-- One transaction comes further, and shares no lock with the others. -/
theorem Snapshot.set (h : Snapshot programs txs) {i : Nat} (tx : Tx Lock)
    (hprogram : tx.rest = [] ∨ programs[i]? = some (tx.held ++ tx.rest))
    (hapart : ∀ (j : Nat) (other : Tx Lock), j ≠ i → txs[j]? = some other →
      List.Disjoint tx.held other.held) : Snapshot programs (txs.set i tx) := by
  constructor
  · intro j tx' htx'
    rcases getElem?_set_cases htx' with ⟨rfl, rfl⟩ | ⟨-, hold⟩
    · exact hprogram
    · exact h.program j tx' hold
  · refine pairs_set h.apart fun j other hj hother => ?_
    exact ⟨(hapart j other hj hother).symm, hapart j other hj hother⟩

end Snapshots

/-! ## Steps -/

section Steps

variable [DecidableEq Lock] {programs : List (List Lock)} {txs txs' : List (Tx Lock)}

/-- What a step can do. -/
theorem step_cases {a : Action} (h : step txs a = some txs') :
    (∃ (i : Nat) (tx : Tx Lock) (lock : Lock) (rest : List Lock), a = .acquire i ∧
      txs[i]? = some tx ∧ tx.rest = lock :: rest ∧
      (∀ (j : Nat) (other : Tx Lock), j ≠ i → txs[j]? = some other → lock ∉ other.held) ∧
      txs' = txs.set i ⟨tx.held ++ [lock], rest⟩) ∨
    (∃ i : Nat, a = .finish i ∧ txs' = txs.set i ⟨[], []⟩) := by
  cases a with
  | acquire i =>
    obtain ⟨tx, htx, h⟩ := Option.bind_eq_some_iff.mp h
    cases hrest : tx.rest with
    | nil =>
      rw [hrest] at h
      cases h
    | cons lock rest =>
      rw [hrest] at h
      simp only at h
      split at h
      · rename_i hfree
        refine Or.inl ⟨i, tx, lock, rest, rfl, htx, hrest, ?_, (Option.some.inj h).symm⟩
        intro j other hj hother
        -- The others are the list without its `i`-th entry.
        have hmem : other ∈ txs.eraseIdx i := List.mem_eraseIdx_iff_getElem?.mpr ⟨j, hj, hother⟩
        exact of_decide_eq_true (List.all_eq_true.mp hfree other hmem)
      · cases h
  | finish i =>
    obtain ⟨tx, -, rfl⟩ := Option.map_eq_some_iff.mp h
    exact Or.inr ⟨i, rfl, rfl⟩

/-- A lock that nobody else holds is taken. -/
theorem step_acquire {i : Nat} {held rest : List Lock} {lock : Lock}
    (htx : txs[i]? = some ⟨held, lock :: rest⟩)
    (hfree : ∀ (j : Nat) (other : Tx Lock), j ≠ i → txs[j]? = some other → lock ∉ other.held) :
    step txs (.acquire i) = some (txs.set i ⟨held ++ [lock], rest⟩) := by
  have hall : ((txs.eraseIdx i).all fun other => decide (lock ∉ other.held)) = true := by
    rw [List.all_eq_true]
    intro other hmem
    obtain ⟨j, hj, hother⟩ := List.mem_eraseIdx_iff_getElem?.mp hmem
    exact decide_eq_true (hfree j other hj hother)
  simp only [step, htx, Option.bind_eq_bind, Option.bind_some, hall, if_true]
  rfl

theorem Snapshot.step (h : Snapshot programs txs) {a : Action} (ha : step txs a = some txs') :
    Snapshot programs txs' := by
  rcases step_cases ha with ⟨i, tx, lock, rest, -, htx, hrest, hfree, rfl⟩ | ⟨i, -, rfl⟩
  · refine h.set ⟨tx.held ++ [lock], rest⟩ ?_ ?_
    · rcases h.program i tx htx with hnil | hprogram
      · rw [hrest] at hnil
        cases hnil
      · right
        rw [hprogram, hrest]
        simp
    · intro j other hj hother
      rw [List.disjoint_append_left, List.singleton_disjoint]
      exact ⟨h.apart i j tx other hj.symm htx hother, hfree j other hj hother⟩
  · exact h.set ⟨[], []⟩ (Or.inl rfl) fun j other _ _ => List.disjoint_nil_left _

/-- **Every reachable state is a snapshot.** -/
theorem Snapshot.reachable (h : Reachable programs txs) : Snapshot programs txs := by
  obtain ⟨actions, hrun⟩ := h
  exact Runs.run_invariant (fun _ _ _ hs ha => hs.step ha) (Snapshot.start programs) hrun

/-- Locks that nobody else holds are taken one after the other. -/
theorem acquire_all {i : Nat} {held locks rest : List Lock}
    (htx : txs[i]? = some ⟨held, locks ++ rest⟩)
    (hfree : ∀ (j : Nat) (other : Tx Lock), j ≠ i → txs[j]? = some other →
      List.Disjoint locks other.held) :
    ∃ actions, Runs.run step txs actions = some (txs.set i ⟨held ++ locks, rest⟩) := by
  -- On the locks still to take; what is held grows with each.
  induction locks generalizing txs held with
  | nil =>
    have hlt : i < txs.length := (List.getElem?_eq_some_iff.mp htx).1
    have hget : txs[i] = ⟨held, rest⟩ := (List.getElem?_eq_some_iff.mp htx).2
    refine ⟨[], ?_⟩
    rw [List.append_nil, ← hget, List.set_getElem_self]
    rfl
  | cons lock locks ih =>
    have hlt : i < txs.length := (List.getElem?_eq_some_iff.mp htx).1
    -- The next one is free, for the others hold none of them.
    have hstep : step txs (.acquire i) = some (txs.set i ⟨held ++ [lock], locks ++ rest⟩) :=
      step_acquire htx fun j other hj hother =>
        (List.disjoint_cons_left.mp (hfree j other hj hother)).1
    have hnext : (txs.set i ⟨held ++ [lock], locks ++ rest⟩)[i]? =
        some ⟨held ++ [lock], locks ++ rest⟩ := List.getElem?_set_self hlt
    obtain ⟨actions, hrun⟩ := ih hnext fun j other hj hother => by
      rw [List.getElem?_set_ne hj.symm] at hother
      exact (List.disjoint_cons_left.mp (hfree j other hj hother)).2
    refine ⟨.acquire i :: actions, Runs.run_cons_eq_some.mpr ⟨_, hstep, ?_⟩⟩
    rw [hrun, List.set_set, List.append_assoc]
    rfl

end Steps

/-! ## The parts of a program -/

/-- Who holds a lock that the first part of the program does not take holds all of that part. -/
theorem holds_first {held rest : List Lock} (first : List Lock) {lock : Lock}
    (h : held <+: first ++ rest) (hmem : lock ∈ held) (hnot : lock ∉ first) : first <+: held := by
  rcases List.prefix_or_prefix_of_prefix h (List.prefix_append first rest) with hheld | hfirst
  · exact absurd (hheld.subset hmem) hnot
  · exact hfirst

/-- Who stands before a lock of the second part has come through the first. -/
theorem stands_behind {held rest : List Lock} (first : List Lock) {lock : Lock}
    (h : held ++ [lock] <+: first ++ rest) (hnot : lock ∉ first) :
    ∃ later, held = first ++ later ∧ later ++ [lock] <+: rest := by
  have hfirst : first <+: held ++ [lock] :=
    holds_first first h (List.mem_append_right _ (List.mem_singleton_self lock)) hnot
  rcases List.prefix_concat_iff.mp hfirst with rfl | ⟨later, rfl⟩
  · exact absurd (List.mem_append_right _ (List.mem_singleton_self lock)) hnot
  · rw [List.append_assoc, List.prefix_append_right_inj] at h
    exact ⟨later, rfl, h⟩

/-- Who stands before a lock that the last part does not take has not come to that part. -/
theorem stands_within {held first rest : List Lock} {lock : Lock}
    (h : held ++ [lock] <+: first ++ rest) (hnot : lock ∉ rest) : held ++ [lock] <+: first := by
  rcases List.prefix_or_prefix_of_prefix h (List.prefix_append first rest) with hheld | hfirst
  · exact hheld
  rcases List.prefix_concat_iff.mp hfirst with rfl | ⟨later, rfl⟩
  · exact List.prefix_rfl
  · rw [List.append_assoc, List.prefix_append_right_inj] at h
    exact absurd (h.subset (List.mem_append_right _ (List.mem_singleton_self lock))) hnot

/-! ## Standoffs -/

/-- The transactions of `S` hold `held i`, and each needs next a lock that another of them holds. -/
structure Standoff (programs : List (List Lock)) (S : Finset Nat) (held : Nat → List Lock)
    (next : Nat → Lock) : Prop where
  nonempty : S.Nonempty
  program : ∀ i ∈ S, ∃ program, programs[i]? = some program ∧ held i ++ [next i] <+: program
  apart : ∀ i ∈ S, ∀ j ∈ S, i ≠ j → List.Disjoint (held i) (held j)
  waits : ∀ i ∈ S, ∃ j ∈ S, j ≠ i ∧ next i ∈ held j

/-- Where each element of a finite set is related to one of them, some chain comes back to its
    start. -/
theorem exists_cycle {α : Type} {r : α → α → Prop} {S : Finset α} (hne : S.Nonempty)
    (h : ∀ a ∈ S, ∃ b ∈ S, r a b) : ∃ a ∈ S, TransGen r a a := by
  by_contra hnone
  push Not at hnone
  let before (a b : {a // a ∈ S}) : Prop := TransGen r b a
  have htrans : IsTrans _ before := ⟨fun a b c hab hbc => TransGen.trans hbc hab⟩
  have hirrefl : Std.Irrefl before := ⟨fun a => hnone a a.2⟩
  have hwf : WellFounded before := Finite.wellFounded_of_trans_of_irrefl before
  obtain ⟨a₀, ha₀⟩ := hne
  obtain ⟨m, -, hmin⟩ := hwf.has_min Set.univ ⟨⟨a₀, ha₀⟩, trivial⟩
  obtain ⟨b, hb, hmb⟩ := h m m.2
  exact hmin ⟨b, hb⟩ trivial (TransGen.single hmb)

section Standoffs

variable {programs : List (List Lock)} {txs : List (Tx Lock)} {S : Finset Nat}
  {held : Nat → List Lock} {next : Nat → Lock}

/-- A deadlock is a standoff of the transactions on its cycles. -/
theorem Deadlocked.standoff (hs : Snapshot programs txs) (h : Deadlocked txs) :
    ∃ S held next, Standoff programs S held next := by
  classical
  -- The standoff is everyone on a cycle of waiting: each of them waits for another of them.
  let onCycle (i : Nat) : Prop := TransGen (WaitsFor txs) i i
  have hwaits (i : Nat) (hi : onCycle i) : ∃ j, WaitsFor txs i j ∧ onCycle j := by
    obtain ⟨j, hij, hji⟩ := TransGen.head'_iff.mp hi
    exact ⟨j, hij, TransGen.tail' hji hij⟩
  obtain ⟨i₀, hi₀⟩ := h
  -- `choose` wants something to stand for those that are on no cycle.
  obtain ⟨_, ⟨-, tx₀, _, lock₀, -, -, -, -, -⟩, -⟩ := hwaits i₀ hi₀
  have : Nonempty Lock := ⟨lock₀⟩
  have : Nonempty (Tx Lock) := ⟨tx₀⟩
  have hpick (i : Nat) : ∃ (tx : Tx Lock) (lock : Lock), onCycle i → txs[i]? = some tx ∧
      (∃ rest, tx.rest = lock :: rest) ∧
      ∃ j, onCycle j ∧ j ≠ i ∧ ∃ other : Tx Lock, txs[j]? = some other ∧ lock ∈ other.held := by
    by_cases hi : onCycle i
    · obtain ⟨j, ⟨hij, tx, other, lock, rest, htx, hother, hrest, hlock⟩, hj⟩ := hwaits i hi
      exact ⟨tx, lock, fun _ => ⟨htx, ⟨rest, hrest⟩, j, hj, hij.symm, other, hother, hlock⟩⟩
    · exact ⟨tx₀, lock₀, fun hi' => absurd hi' hi⟩
  choose tx next hpick using hpick
  have hmem (i : Nat) : i ∈ (Finset.range txs.length).filter onCycle ↔ onCycle i := by
    rw [Finset.mem_filter, Finset.mem_range, and_iff_right_iff_imp]
    exact fun hi => (List.getElem?_eq_some_iff.mp (hpick i hi).1).1
  refine ⟨(Finset.range txs.length).filter onCycle, fun i => (tx i).held, next, ?_, ?_, ?_, ?_⟩
  · exact ⟨i₀, (hmem i₀).mpr hi₀⟩
  · intro i hi
    obtain ⟨htx, ⟨rest, hrest⟩, -⟩ := hpick i ((hmem i).mp hi)
    -- One that waits has locks to come, so it stands within its program.
    rcases hs.program i (tx i) htx with hnil | hprogram
    · rw [hrest] at hnil
      cases hnil
    · rw [hrest] at hprogram
      exact ⟨_, hprogram, rest, by simp⟩
  · intro i hi j hj hij
    exact hs.apart i j _ _ hij (hpick i ((hmem i).mp hi)).1 (hpick j ((hmem j).mp hj)).1
  · intro i hi
    obtain ⟨-, -, j, hj, hji, other, hother, hlock⟩ := hpick i ((hmem i).mp hi)
    obtain rfl := Option.some.inj (hother.symm.trans (hpick j hj).1)
    exact ⟨j, (hmem j).mpr hj, hji, hlock⟩

/-- The transactions of a standoff can run to it one after the other. -/
theorem Standoff.reach [DecidableEq Lock] (h : Standoff programs S held next) (T : Finset Nat)
    (hT : T ⊆ S) : ∃ txs, Reachable programs txs ∧ ∀ i, txs[i]? = programs[i]?.map fun program =>
      if i ∈ T then ⟨held i, program.drop (held i).length⟩ else ⟨[], program⟩ := by
  -- Its transactions are run up to where they stand one after the other; those that have been are the
  -- set.
  induction T using Finset.induction_on with
  | empty =>
    refine ⟨start programs, ⟨[], rfl⟩, fun i => ?_⟩
    rw [start, List.getElem?_map]
    simp
  | insert i T hi ih =>
    obtain ⟨txs, ⟨actions, hrun⟩, htxs⟩ := ih ((Finset.subset_insert i T).trans hT)
    obtain ⟨program, hprogram, rest, hprefix⟩ := h.program i (hT (Finset.mem_insert_self i T))
    have hsplit : program = held i ++ next i :: rest := by
      rw [← hprefix]
      simp
    have htx : txs[i]? = some ⟨[], held i ++ next i :: rest⟩ := by
      rw [htxs i, hprogram, Option.map_some, if_neg hi, hsplit]
    -- Whoever has been run holds its own part, and the others hold nothing: the parts are apart.
    have hfree (j : Nat) (other : Tx Lock) (hj : j ≠ i) (hother : txs[j]? = some other) :
        List.Disjoint (held i) other.held := by
      rw [htxs j] at hother
      obtain ⟨_, -, rfl⟩ := Option.map_eq_some_iff.mp hother
      split
      · rename_i hjT
        exact h.apart i (hT (Finset.mem_insert_self i T)) j (hT (Finset.mem_insert_of_mem hjT))
          hj.symm
      · exact List.disjoint_nil_right _
    obtain ⟨more, hmore⟩ := acquire_all htx hfree
    refine ⟨_, ⟨actions ++ more, Runs.run_append_eq_some.mpr ⟨txs, hrun, hmore⟩⟩, fun j => ?_⟩
    -- The run moves this transaction and no other.
    by_cases hj : j = i
    · subst hj
      rw [List.getElem?_set_self (List.getElem?_eq_some_iff.mp htx).1, hprogram, Option.map_some,
        if_pos (Finset.mem_insert_self j T), hsplit, List.drop_left, List.nil_append]
    · rw [List.getElem?_set_ne (Ne.symm hj), htxs j]
      simp only [Finset.mem_insert, hj, false_or]

/-- … and there they wait in a cycle. -/
theorem Standoff.deadlock [DecidableEq Lock] (h : Standoff programs S held next) :
    ∃ txs, Reachable programs txs ∧ Deadlocked txs := by
  obtain ⟨txs, hreach, htxs⟩ := h.reach S subset_rfl
  have hstand (i : Nat) (hi : i ∈ S) : ∃ rest, txs[i]? = some ⟨held i, next i :: rest⟩ := by
    obtain ⟨program, hprogram, rest, hprefix⟩ := h.program i hi
    refine ⟨rest, ?_⟩
    rw [htxs i, hprogram, Option.map_some, if_pos hi, ← hprefix, List.append_assoc, List.drop_left]
    rfl
  have hwaits (i : Nat) (hi : i ∈ S) : ∃ j ∈ S, WaitsFor txs i j := by
    obtain ⟨j, hj, hji, hlock⟩ := h.waits i hi
    obtain ⟨rest, htx⟩ := hstand i hi
    obtain ⟨_, hother⟩ := hstand j hj
    exact ⟨j, hj, hji.symm, _, _, next i, rest, htx, hother, rfl, hlock⟩
  obtain ⟨i, -, hcycle⟩ := exists_cycle h.nonempty hwaits
  exact ⟨txs, hreach, i, hcycle⟩

/-- **A deadlock can be reached exactly when the programs have a standoff.** -/
theorem deadlock_iff_standoff [DecidableEq Lock] :
    (∃ txs, Reachable programs txs ∧ Deadlocked txs) ↔
      ∃ S held next, Standoff programs S held next := by
  constructor
  · rintro ⟨txs, hreach, hdead⟩
    exact hdead.standoff (Snapshot.reachable hreach)
  · rintro ⟨S, held, next, h⟩
    exact h.deadlock

/-! ## Ranks -/

/-- A program takes its locks in the order of the rank, those it takes a second time apart. -/
def Ordered {α : Type} [LE α] (rank : Lock → α) (program : List Lock) : Prop :=
  ∀ held lock, held ++ [lock] <+: program → lock ∉ held → ∀ other ∈ held, rank other ≤ rank lock

/-- A program in the order of the rank, but for a lock it has taken first of all. -/
theorem ordered_of_pairwise {α : Type} [LE α] {rank : Lock → α} (again : Lock → Prop)
    {program : List Lock} (hpairwise : program.Pairwise fun a b => rank a ≤ rank b ∨ again b)
    (hfirst : ∀ lock ∈ program, again lock → program.head? = some lock) : Ordered rank program := by
  intro held lock hprefix hnew other hother
  have hsub : (held ++ [lock]).Pairwise fun a b => rank a ≤ rank b ∨ again b :=
    hpairwise.sublist hprefix.sublist
  rcases (List.pairwise_append.mp hsub).2.2 other hother lock (List.mem_singleton_self lock)
    with hle | hagain
  · exact hle
  · exfalso
    have hmem : lock ∈ program :=
      hprefix.subset (List.mem_append_right _ (List.mem_singleton_self lock))
    have hhead := hfirst lock hmem hagain
    obtain ⟨rest, rfl⟩ := hprefix
    cases held with
    | nil => cases hother
    | cons first held =>
      obtain rfl : first = lock := Option.some.inj hhead
      exact hnew List.mem_cons_self

theorem Standoff.next_notMem (h : Standoff programs S held next) {i : Nat} (hi : i ∈ S) :
    next i ∉ held i := by
  obtain ⟨j, hj, hji, hlock⟩ := h.waits i hi
  exact fun hmem => h.apart i hi j hj hji.symm hmem hlock

section Ranks

variable {α : Type} [LinearOrder α] (rank : Lock → α)

/-- **Where the programs follow a rank**, the transactions that wait for the highest one are a
    standoff by themselves. -/
theorem Standoff.level (h : Standoff programs S held next)
    (hordered : ∀ program ∈ programs, Ordered rank program) :
    ∃ T r, Standoff programs T held next ∧ ∀ i ∈ T, rank (next i) = r := by
  obtain ⟨m, hm, hmax⟩ := Finset.exists_max_image S (fun i => rank (next i)) h.nonempty
  have hsub : S.filter (fun i => rank (next i) = rank (next m)) ⊆ S := Finset.filter_subset _ _
  refine ⟨S.filter fun i => rank (next i) = rank (next m), rank (next m), ⟨?_, ?_, ?_, ?_⟩, ?_⟩
  · exact ⟨m, Finset.mem_filter.mpr ⟨hm, rfl⟩⟩
  · exact fun i hi => h.program i (hsub hi)
  · exact fun i hi j hj => h.apart i (hsub hi) j (hsub hj)
  · intro i hi
    obtain ⟨hiS, hrank⟩ := Finset.mem_filter.mp hi
    obtain ⟨j, hj, hji, hlock⟩ := h.waits i hiS
    -- what `i` waits for ranks below what its holder waits for
    obtain ⟨program, hprogram, hprefix⟩ := h.program j hj
    have hle : rank (next i) ≤ rank (next j) := hordered program (List.mem_of_getElem? hprogram)
      (held j) (next j) hprefix (h.next_notMem hj) (next i) hlock
    have hge : rank (next j) ≤ rank (next m) := hmax j hj
    refine ⟨j, Finset.mem_filter.mpr ⟨hj, le_antisymm hge ?_⟩, hji, hlock⟩
    rw [← hrank]
    exact hle
  · exact fun i hi => (Finset.mem_filter.mp hi).2

/-- A rank that tells the locks of the programs apart leaves no standoff. -/
theorem not_standoff_of_injOn
    (hinj : Set.InjOn rank {lock | ∃ program ∈ programs, lock ∈ program})
    (hordered : ∀ program ∈ programs, Ordered rank program) : ¬ Standoff programs S held next := by
  intro h
  obtain ⟨T, r, hT, hlevel⟩ := h.level rank hordered
  have hlock (i : Nat) (hi : i ∈ T) : ∃ program ∈ programs, next i ∈ program := by
    obtain ⟨program, hprogram, hprefix⟩ := hT.program i hi
    exact ⟨program, List.mem_of_getElem? hprogram,
      hprefix.subset (List.mem_append_right _ (List.mem_singleton_self _))⟩
  obtain ⟨i, hi⟩ := hT.nonempty
  obtain ⟨j, hj, -, hheld⟩ := hT.waits i hi
  have hsame : next i = next j :=
    hinj (hlock i hi) (hlock j hj) ((hlevel i hi).trans (hlevel j hj).symm)
  rw [hsame] at hheld
  exact hT.next_notMem hj hheld

end Ranks

end Standoffs

end Locking

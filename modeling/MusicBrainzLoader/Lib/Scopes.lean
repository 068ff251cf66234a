/-
  Coroutines that hold counted resources in scopes.

  A coroutine is a piece of CODE with awaits, and a scope holds one unit of a resource from its entry to
  its exit, whichever way the exit comes about: the body ends, it raises, or the task is cancelled.  An
  await, the wait for a unit included, can be answered, can raise, and can be where a cancellation
  arrives.  Tasks join at any time and run in any order.

  1. **The system** — `Task.step` runs one task; `step` runs the tasks, and counts the free units.
  2. **Counting** — `Balanced`: the free units and the held ones are the capacity, so no resource is
     held more often than it has units (`held_le_capacity`), and a task that has ended holds none.
  3. **Nesting** — `Obeys may`: a rule, read off the code alone, on what may be entered inside what;
     every task of every run keeps to it (`disciplined_run`).
  4. **Draining** — where scopes nest in the order of a rank, the tasks that a condition picks out can
     be run, alone, until it picks out none (`drains`): a unit that one of them waits for is held by
     another, which is further on.

  The counting does not need the nesting.  That no resource is held more often than it has units
  follows from `Balanced` alone, step by step, and holds of any code whatever.  The nesting is for
  what counting cannot see: that a task waits for a unit only while it holds what the rule allows,
  so that the waits cannot close into a cycle.

  For draining, one would like to say: take any waiting task and let it go on.  It may be waiting
  for a unit that another holds, which waits in its turn; `exists_unblocked` follows that chain
  upward in the rank, where it must end, and `size_onward` makes each step count against the size of
  the code that is left.  A task that loops could go round for ever: going `onward` leaves every
  loop at its head.
-/
import Mathlib.Algebra.Order.BigOperators.Group.List
import Mathlib.Algebra.Order.Group.Nat
import MusicBrainzLoader.Lib.Interleaving
import MusicBrainzLoader.Lib.Runs

namespace Scopes

open Interleaving

/-! ## Code -/

inductive Code (R : Type) where
  | skip
  | await
  | raise
  | seq (first second : Code R)
  /-- A test of something the code's text does not settle. -/
  | choice (left right : Code R)
  | loop (body : Code R)
  /-- `try: body except Exception: handler`. -/
  | attempt (body handler : Code R)
  /-- `try: body finally: cleanup`. -/
  | ensure (body cleanup : Code R)
  /-- `async with` one unit of the resource. -/
  | scope (r : R) (body : Code R)

/-- How code ends that does not come to its end. -/
inductive Exit where
  | raised
  | cancelled
deriving DecidableEq

/-- What is left to do after the code at work. -/
inductive Frame (R : Type) where
  | next (code : Code R)
  | handler (code : Code R)
  | cleanup (code : Code R)
  /-- After a `finally`, the exit it has interrupted goes on. -/
  | resume (exit : Exit)
  | release (r : R)

inductive Control (R : Type) where
  | run (code : Code R)
  | unwind (exit : Exit)

structure Task (R : Type) where
  control : Control R
  frames : List (Frame R) := []

/-- How a task goes on where its code leaves it open. -/
inductive Move where
  /-- The await is answered; the test holds; the loop is over. -/
  | onward
  /-- The test fails; the loop goes round again. -/
  | around
  | exit (exit : Exit)
deriving DecidableEq

/-- What a step does to the units of a resource. -/
inductive Effect (R : Type) where
  | keep
  | take (r : R)
  | give (r : R)

variable {R : Type}

/-- A task from one point to the next; none when it has ended, or does not go on this way. -/
def Task.step : Task R → Move → Option (Task R × Effect R)
  | ⟨.run .skip, .next code :: frames⟩, .onward => some (⟨.run code, frames⟩, .keep)
  | ⟨.run .skip, .handler _ :: frames⟩, .onward => some (⟨.run .skip, frames⟩, .keep)
  | ⟨.run .skip, .cleanup code :: frames⟩, .onward => some (⟨.run code, frames⟩, .keep)
  | ⟨.run .skip, .resume exit :: frames⟩, .onward => some (⟨.unwind exit, frames⟩, .keep)
  | ⟨.run .skip, .release r :: frames⟩, .onward => some (⟨.run .skip, frames⟩, .give r)
  | ⟨.run .skip, .release r :: frames⟩, .exit exit => some (⟨.unwind exit, frames⟩, .give r)
  -- Where a task can be suspended, it can also be left: the await raises, or the task is cancelled.
  | ⟨.run .await, frames⟩, .onward => some (⟨.run .skip, frames⟩, .keep)
  | ⟨.run .await, frames⟩, .exit exit => some (⟨.unwind exit, frames⟩, .keep)
  | ⟨.run .raise, frames⟩, .onward => some (⟨.unwind .raised, frames⟩, .keep)
  | ⟨.run (.seq first second), frames⟩, .onward => some (⟨.run first, .next second :: frames⟩, .keep)
  | ⟨.run (.choice left _), frames⟩, .onward => some (⟨.run left, frames⟩, .keep)
  | ⟨.run (.choice _ right), frames⟩, .around => some (⟨.run right, frames⟩, .keep)
  | ⟨.run (.loop _), frames⟩, .onward => some (⟨.run .skip, frames⟩, .keep)
  | ⟨.run (.loop body), frames⟩, .around => some (⟨.run body, .next (.loop body) :: frames⟩, .keep)
  | ⟨.run (.attempt body handler), frames⟩, .onward =>
    some (⟨.run body, .handler handler :: frames⟩, .keep)
  | ⟨.run (.ensure body cleanup), frames⟩, .onward =>
    some (⟨.run body, .cleanup cleanup :: frames⟩, .keep)
  | ⟨.run (.scope r body), frames⟩, .onward => some (⟨.run body, .release r :: frames⟩, .take r)
  | ⟨.run (.scope _ _), frames⟩, .exit exit => some (⟨.unwind exit, frames⟩, .keep)
  -- An exit goes down the frames: a handler stops it if it is no cancellation, a `finally` delays it.
  | ⟨.unwind exit, .next _ :: frames⟩, .onward => some (⟨.unwind exit, frames⟩, .keep)
  | ⟨.unwind .raised, .handler code :: frames⟩, .onward => some (⟨.run code, frames⟩, .keep)
  | ⟨.unwind .cancelled, .handler _ :: frames⟩, .onward => some (⟨.unwind .cancelled, frames⟩, .keep)
  | ⟨.unwind exit, .cleanup code :: frames⟩, .onward =>
    some (⟨.run code, .resume exit :: frames⟩, .keep)
  | ⟨.unwind exit, .resume _ :: frames⟩, .onward => some (⟨.unwind exit, frames⟩, .keep)
  | ⟨.unwind exit, .release r :: frames⟩, .onward => some (⟨.unwind exit, frames⟩, .give r)
  | ⟨.unwind _, .release r :: frames⟩, .exit exit => some (⟨.unwind exit, frames⟩, .give r)
  | _, _ => none

def Frame.resource : Frame R → Option R
  | .release r => some r
  | _ => none

/-- The resources a task holds, the last one it has entered first. -/
def Task.held (task : Task R) : List R := task.frames.filterMap Frame.resource

def Task.ended : Task R → Bool
  | ⟨.run .skip, []⟩ => true
  | ⟨.unwind _, []⟩ => true
  | _ => false

/-- The task is about to enter a scope of the resource. -/
def Task.awaits : Task R → R → Prop
  | ⟨.run (.scope r _), _⟩, r' => r = r'
  | _, _ => False

/-! ## The system -/

structure System (R : Type) where
  tasks : List (Task R)
  /-- The units nobody holds. -/
  free : R → Nat

inductive Action (P : Type) where
  /-- A task joins. -/
  | spawn (p : P)
  | move (i : Nat) (m : Move)

section System

variable [DecidableEq R] {P : Type}

/-- The units after a step; none when the unit it takes is not there. -/
def Effect.apply (free : R → Nat) : Effect R → Option (R → Nat)
  | .keep => some free
  | .take r => if 0 < free r then some (Function.update free r (free r - 1)) else none
  | .give r => some (Function.update free r (free r + 1))

def step (program : P → Code R) (s : System R) : Action P → Option (System R)
  | .spawn p => some { s with tasks := s.tasks ++ [⟨.run (program p), []⟩] }
  | .move i m =>
    s.tasks[i]?.bind fun task => (task.step m).bind fun r =>
      (r.2.apply s.free).map fun free => { tasks := s.tasks.set i r.1, free }

/-- How often the tasks hold the resource. -/
def System.held (s : System R) (r : R) : Nat := (s.tasks.map fun task => task.held.count r).sum

/-- Nobody is there yet. -/
def idle (capacity : R → Nat) : System R where
  tasks := []
  free := capacity

end System

/-! ## One task -/

/-- The resources held before and after a step. -/
def Effect.Shifts (before after : List R) : Effect R → Prop
  | .keep => after = before
  | .take r => after = r :: before
  | .give r => before = r :: after

section OneTask

variable {task task' : Task R} {m : Move} {effect : Effect R}

/-- Only a task that awaits a unit takes it. -/
theorem step_take {r : R} (h : task.step m = some (task', .take r)) : task.awaits r := by
  unfold Task.step at h
  split at h <;> cases h
  rfl

theorem step_held (h : task.step m = some (task', effect)) :
    effect.Shifts task.held task'.held := by
  unfold Task.step at h
  split at h <;> cases h <;> rfl

theorem held_of_ended (h : task.ended = true) : task.held = [] := by
  unfold Task.ended at h
  split at h
  · rfl
  · rfl
  · cases h

/-- A task that has not ended can go on, if it is not kept waiting. -/
theorem onward_of_not_ended (h : task.ended = false) : ∃ r, task.step .onward = some r := by
  obtain ⟨control, frames⟩ := task
  cases control with
  | run code =>
    cases code with
    | skip =>
      cases frames with
      | nil => cases h
      | cons frame frames => cases frame <;> exact ⟨_, rfl⟩
    | _ => exact ⟨_, rfl⟩
  | unwind exit =>
    cases frames with
    | nil => cases h
    | cons frame frames =>
      cases frame with
      | handler code => cases exit <;> exact ⟨_, rfl⟩
      | _ => exact ⟨_, rfl⟩

end OneTask

/-! ## What is left to do -/

def Code.size : Code R → Nat
  | .skip => 1
  | .await => 2
  | .raise => 2
  | .seq first second => first.size + second.size + 2
  | .choice left right => left.size + right.size + 1
  | .loop body => body.size + 2
  | .attempt body handler => body.size + handler.size + 2
  | .ensure body cleanup => body.size + cleanup.size + 4
  | .scope _ body => body.size + 2

def Frame.size : Frame R → Nat
  | .next code => code.size + 1
  | .handler code => code.size + 1
  | .cleanup code => code.size + 3
  | .resume _ => 1
  | .release _ => 1

def Control.size : Control R → Nat
  | .run code => code.size
  | .unwind _ => 1

def Task.size (task : Task R) : Nat := task.control.size + (task.frames.map Frame.size).sum

/-- A task that goes on comes closer to its end. -/
theorem size_onward {task task' : Task R} {effect : Effect R}
    (h : task.step .onward = some (task', effect)) : task'.size < task.size := by
  unfold Task.step at h
  split at h <;> cases h <;> first
    | contradiction
    | simp only [Task.size, Control.size, Frame.size, Code.size, List.map_cons, List.sum_cons]
      omega

/-! ## Nesting -/

section Nesting

variable (may : List R → R → Prop)

/-- The scopes of the code keep to the rule: `may held r` is what may be entered where. -/
def Code.Obeys : List R → Code R → Prop
  | _, .skip => True
  | _, .await => True
  | _, .raise => True
  | held, .seq first second => first.Obeys held ∧ second.Obeys held
  | held, .choice left right => left.Obeys held ∧ right.Obeys held
  | held, .loop body => body.Obeys held
  | held, .attempt body handler => body.Obeys held ∧ handler.Obeys held
  | held, .ensure body cleanup => body.Obeys held ∧ cleanup.Obeys held
  | held, .scope r body => may held r ∧ body.Obeys (r :: held)

def Frame.Obeys (held : List R) : Frame R → Prop
  | .next code => code.Obeys may held
  | .handler code => code.Obeys may held
  | .cleanup code => code.Obeys may held
  | .resume _ => True
  | .release r => may held r

def FramesObey : List (Frame R) → Prop
  | [] => True
  | frame :: frames => frame.Obeys may (frames.filterMap Frame.resource) ∧ FramesObey frames

def Control.Obeys (held : List R) : Control R → Prop
  | .run code => code.Obeys may held
  | .unwind _ => True

/-- What a task has left to do keeps to the rule. -/
def Task.Obeys (task : Task R) : Prop :=
  task.control.Obeys may task.held ∧ FramesObey may task.frames

/-- Each resource was allowed on top of those below it. -/
def Stacked : List R → Prop
  | [] => True
  | r :: held => may held r ∧ Stacked held

variable {may} {task : Task R}

theorem stacked_of_framesObey {frames : List (Frame R)} (h : FramesObey may frames) :
    Stacked may (frames.filterMap Frame.resource) := by
  induction frames with
  | nil => trivial
  | cons frame frames ih =>
    cases frame with
    | release r => exact ⟨h.1, ih h.2⟩
    | _ => exact ih h.2

theorem Task.Obeys.stacked (h : task.Obeys may) : Stacked may task.held := stacked_of_framesObey h.2

/-- A task waits for nothing but what it may enter. -/
theorem Task.Obeys.awaits {r : R} (h : task.Obeys may) (hawaits : task.awaits r) :
    may task.held r := by
  obtain ⟨control, frames⟩ := task
  cases control with
  | unwind exit => exact hawaits.elim
  | run code =>
    cases code with
    | scope r' body =>
      obtain rfl : r' = r := hawaits
      exact h.1.1
    | _ => exact hawaits.elim

theorem obeys_step {task' : Task R} {m : Move} {effect : Effect R} (hobeys : task.Obeys may)
    (h : task.step m = some (task', effect)) : task'.Obeys may := by
  -- Every step takes the code or the top frame apart, and what is left is made of their parts.
  obtain ⟨hcontrol, hframes⟩ := hobeys
  unfold Task.step at h
  split at h <;> cases h
  all_goals first
    | exact ⟨trivial, hframes⟩
    | exact ⟨trivial, hframes.2⟩
    | exact ⟨hframes.1, hframes.2⟩
    | exact ⟨hcontrol.1, hcontrol.2, hframes⟩
    | exact ⟨hcontrol.1, hframes⟩
    | exact ⟨hcontrol.2, hframes⟩
    | exact ⟨hcontrol, hcontrol, hframes⟩
    | exact ⟨hcontrol.2, hcontrol.1, hframes⟩
    | exact ⟨hframes.1, trivial, hframes.2⟩

end Nesting

/-! ## Counting -/

section Counting

variable [DecidableEq R] {P : Type} {program : P → Code R} {capacity : R → Nat} {s s' : System R}

/-- The units that are free and those that are held are all there are. -/
def Balanced (capacity : R → Nat) (s : System R) : Prop := ∀ r, s.free r + s.held r = capacity r

theorem balanced_idle (capacity : R → Nat) : Balanced capacity (idle capacity) := fun _ => rfl

/-- What a move does: the task's own step, and the free units' part of it. -/
theorem step_move {i : Nat} {m : Move} (h : step program s (.move i m) = some s') :
    ∃ task task' effect free, s.tasks[i]? = some task ∧ task.step m = some (task', effect) ∧
      effect.apply s.free = some free ∧ s' = ⟨s.tasks.set i task', free⟩ := by
  obtain ⟨task, hi, h⟩ := Option.bind_eq_some_iff.mp h
  obtain ⟨⟨task', effect⟩, htask, h⟩ := Option.bind_eq_some_iff.mp h
  obtain ⟨free, hfree, rfl⟩ := Option.map_eq_some_iff.mp h
  exact ⟨task, task', effect, free, hi, htask, hfree, rfl⟩

/-- An effect moves units between the free ones and those its task holds. -/
theorem apply_balanced {effect : Effect R} {free free' : R → Nat} {before after : List R}
    (h : effect.apply free = some free') (hshifts : effect.Shifts before after) (r : R) :
    free' r + after.count r = free r + before.count r := by
  -- A unit is neither made nor lost: it is free or it is held.
  cases effect with
  | keep =>
    cases h
    rw [show after = before from hshifts]
  | take r' =>
    dsimp only [Effect.apply] at h
    split at h
    next hpos =>
      cases h
      rw [show after = r' :: before from hshifts]
      by_cases hr : r = r'
      · subst hr
        rw [Function.update_self, List.count_cons_self]
        omega
      · rw [Function.update_of_ne hr, List.count_cons_of_ne (Ne.symm hr)]
    next => cases h
  | give r' =>
    cases h
    rw [show before = r' :: after from hshifts]
    by_cases hr : r = r'
    · subst hr
      rw [Function.update_self, List.count_cons_self]
      omega
    · rw [Function.update_of_ne hr, List.count_cons_of_ne (Ne.symm hr)]

theorem balanced_step {a : Action P} (hs : Balanced capacity s)
    (h : step program s a = some s') : Balanced capacity s' := by
  intro r
  have hbefore := hs r
  cases a with
  | spawn p =>
    obtain rfl := Option.some.inj h
    have hnone : System.held { s with tasks := s.tasks ++ [⟨.run (program p), []⟩] } r = s.held r := by
      simp [System.held, Task.held]
    rw [hnone]
    exact hbefore
  | move i m =>
    obtain ⟨task, task', effect, free, hi, htask, hfree, rfl⟩ := step_move h
    -- Only one task's count changes, and the free units change by as much the other way.
    have hone := apply_balanced hfree (step_held htask) r
    have hsum := sum_set (fun task => task.held.count r) task' hi
    show free r + ((s.tasks.set i task').map fun task => task.held.count r).sum = capacity r
    unfold System.held at hbefore
    omega

theorem balanced_run {actions : List (Action P)}
    (hrun : Runs.run (step program) (idle capacity) actions = some s) : Balanced capacity s :=
  Runs.run_invariant (fun _ _ _ hs h => balanced_step hs h) (balanced_idle capacity) hrun

/-- **No resource is held more often than it has units.** -/
theorem held_le_capacity (hs : Balanced capacity s) (r : R) : s.held r ≤ capacity r := by
  have hr := hs r
  omega

/-- **Once every task has ended, every unit is free.** -/
theorem free_of_ended (hs : Balanced capacity s) (hended : ∀ task ∈ s.tasks, task.ended = true)
    (r : R) : s.free r = capacity r := by
  have hnone : s.held r = 0 := by
    apply List.sum_eq_zero
    intro n hn
    obtain ⟨task, htask, rfl⟩ := List.mem_map.mp hn
    rw [held_of_ended (hended task htask), List.count_nil]
  have hr := hs r
  omega

/-- A unit that is not free is held by some task. -/
theorem exists_holder (hs : Balanced capacity s) {r : R} (hcapacity : 0 < capacity r)
    (hfull : s.free r = 0) : ∃ task ∈ s.tasks, r ∈ task.held := by
  by_contra hnone
  have hzero : s.held r = 0 := by
    apply List.sum_eq_zero
    intro n hn
    obtain ⟨task, htask, rfl⟩ := List.mem_map.mp hn
    exact List.count_eq_zero.mpr fun hheld => hnone ⟨task, htask, hheld⟩
  have hr := hs r
  omega

end Counting

/-! ## Every task keeps to the rule -/

section Discipline

variable [DecidableEq R] {P : Type} {program : P → Code R} {capacity : R → Nat}
  {may : List R → R → Prop} {s s' : System R}

def Disciplined (may : List R → R → Prop) (s : System R) : Prop := ∀ task ∈ s.tasks, task.Obeys may

theorem disciplined_step {a : Action P} (hprogram : ∀ p, (program p).Obeys may [])
    (hs : Disciplined may s) (h : step program s a = some s') : Disciplined may s' := by
  cases a with
  | spawn p =>
    obtain rfl := Option.some.inj h
    intro task htask
    rcases List.mem_append.mp htask with hold | hnew
    · exact hs task hold
    · obtain rfl := List.mem_singleton.mp hnew
      exact ⟨hprogram p, trivial⟩
  | move i m =>
    obtain ⟨task, task', effect, free, hi, htask, -, rfl⟩ := step_move h
    intro other hother
    rcases List.mem_or_eq_of_mem_set hother with hold | rfl
    · exact hs other hold
    · exact obeys_step (hs task (List.mem_of_getElem? hi)) htask

theorem disciplined_run {actions : List (Action P)} (hprogram : ∀ p, (program p).Obeys may [])
    (hrun : Runs.run (step program) (idle capacity) actions = some s) : Disciplined may s := by
  have hidle : Disciplined may (idle capacity) := fun task htask => absurd htask List.not_mem_nil
  exact Runs.run_invariant (fun _ _ _ hs h => disciplined_step hprogram hs h) hidle hrun

end Discipline

/-! ## Draining -/

/-- The rank of what a task awaits. -/
def Task.rank (rank : R → Nat) : Task R → Nat
  | ⟨.run (.scope r _), _⟩ => rank r
  | _ => 0

theorem Task.rank_awaits {task : Task R} {r : R} (rank : R → Nat) (h : task.awaits r) :
    task.rank rank = rank r := by
  obtain ⟨control, frames⟩ := task
  cases control with
  | unwind exit => exact h.elim
  | run code =>
    cases code with
    | scope r' body =>
      obtain rfl : r' = r := h
      rfl
    | _ => exact h.elim

section Draining

variable [DecidableEq R] {P : Type} {program : P → Code R} {capacity : R → Nat}
  {may : List R → R → Prop} {s s' : System R} {Q : Task R → Prop}

def System.size (s : System R) : Nat := (s.tasks.map Task.size).sum

/-- Some task that `Q` picks out is not kept waiting. -/
theorem exists_unblocked (rank : R → Nat)
    (hrank : ∀ held r, may held r → ∀ r' ∈ held, rank r' < rank r)
    (hcapacity : ∀ r, 0 < capacity r)
    (hwaits : ∀ task other r, task.Obeys may → other.Obeys may → Q task → task.awaits r →
      r ∈ other.held → Q other)
    (hbalanced : Balanced capacity s) (hs : Disciplined may s) (hsome : ∃ task ∈ s.tasks, Q task) :
    ∃ task ∈ s.tasks, Q task ∧ ∀ r, task.awaits r → 0 < s.free r := by
  by_contra hstuck
  have hblocked : ∀ task ∈ s.tasks, Q task → ∃ r, task.awaits r ∧ s.free r = 0 := by
    intro task htask hq
    by_contra hnone
    refine hstuck ⟨task, htask, hq, ?_⟩
    intro r hawaits
    by_contra hfull
    exact hnone ⟨r, hawaits, by omega⟩
  -- Whoever holds what one of them waits for waits itself, for something of a higher rank.
  have hclimb : ∀ k, ∃ task ∈ s.tasks, Q task ∧ ∃ r, task.awaits r ∧ s.free r = 0 ∧ k ≤ rank r := by
    intro k
    induction k with
    | zero =>
      obtain ⟨task, htask, hq⟩ := hsome
      obtain ⟨r, hawaits, hfull⟩ := hblocked task htask hq
      exact ⟨task, htask, hq, r, hawaits, hfull, Nat.zero_le _⟩
    | succ k ih =>
      obtain ⟨task, htask, hq, r, hawaits, hfull, hk⟩ := ih
      obtain ⟨other, hother, hheld⟩ := exists_holder hbalanced (hcapacity r) hfull
      have hq' : Q other := hwaits task other r (hs task htask) (hs other hother) hq hawaits hheld
      obtain ⟨r', hawaits', hfull'⟩ := hblocked other hother hq'
      have hhigher := hrank _ _ ((hs other hother).awaits hawaits') r hheld
      exact ⟨other, hother, hq', r', hawaits', hfull', by omega⟩
  obtain ⟨task, htask, -, r, hawaits, -, hk⟩ := hclimb ((s.tasks.map (Task.rank rank)).sum + 1)
  have hle : task.rank rank ≤ (s.tasks.map (Task.rank rank)).sum :=
    List.single_le_sum (fun _ _ => Nat.zero_le _) _ (List.mem_map_of_mem htask)
  rw [Task.rank_awaits rank hawaits] at hle
  omega

/-- A task that is not kept waiting goes on, and the whole comes closer to its end. -/
theorem move_onward {i : Nat} {task : Task R} (hi : s.tasks[i]? = some task)
    (hended : task.ended = false) (hfree : ∀ r, task.awaits r → 0 < s.free r) :
    ∃ s', step program s (.move i .onward) = some s' ∧ s'.size < s.size := by
  obtain ⟨⟨task', effect⟩, htask⟩ := onward_of_not_ended hended
  have happly : ∃ free, effect.apply s.free = some free := by
    cases effect with
    | keep => exact ⟨_, rfl⟩
    | give r => exact ⟨_, rfl⟩
    | take r => exact ⟨_, if_pos (hfree r (step_take htask))⟩
  obtain ⟨free, hfree⟩ := happly
  refine ⟨⟨s.tasks.set i task', free⟩, ?_, ?_⟩
  · simp only [step, hi, htask, hfree, Option.bind_some, Option.map_some]
  · have hsum := sum_set Task.size task' hi
    have hsmaller := size_onward htask
    show ((s.tasks.set i task').map Task.size).sum < (s.tasks.map Task.size).sum
    omega

/-- **The tasks that `Q` picks out can be run until it picks out none.**  Where scopes nest in the order
    of a rank, that takes no step of any other task, provided that whoever holds what one of them waits
    for is itself one of them. -/
theorem drains (rank : R → Nat)
    (hrank : ∀ held r, may held r → ∀ r' ∈ held, rank r' < rank r)
    (hcapacity : ∀ r, 0 < capacity r) (hprogram : ∀ p, (program p).Obeys may [])
    (hactive : ∀ task, Q task → task.ended = false)
    (hwaits : ∀ task other r, task.Obeys may → other.Obeys may → Q task → task.awaits r →
      r ∈ other.held → Q other)
    (hbalanced : Balanced capacity s) (hs : Disciplined may s) :
    ∃ actions s', Runs.Drives (step program)
        (fun m a => ∃ i task, a = .move i .onward ∧ m.tasks[i]? = some task ∧ task.Obeys may ∧ Q task)
        s actions s' ∧
      ∀ task ∈ s'.tasks, ¬ Q task := by
  -- On the size, which every move of an unblocked task makes smaller.
  induction hsize : s.size using Nat.strongRecOn generalizing s with
  | ind size ih =>
  -- As long as the condition picks somebody out, some task of its own is not blocked.
  by_cases hsome : ∃ task ∈ s.tasks, Q task
  · obtain ⟨task, htask, hq, hfree⟩ :=
      exists_unblocked rank hrank hcapacity hwaits hbalanced hs hsome
    obtain ⟨i, hi⟩ := List.getElem?_of_mem htask
    have honward : ∃ m, step program s (.move i .onward) = some m ∧ m.size < s.size :=
      move_onward hi (hactive task hq) hfree
    obtain ⟨m, hm, hsmaller⟩ := honward
    rw [hsize] at hsmaller
    obtain ⟨actions, s', hdrives, hnone⟩ := ih m.size hsmaller (balanced_step hbalanced hm)
      (disciplined_step hprogram hs hm) rfl
    exact ⟨_, s', hdrives.cons ⟨i, task, rfl, hi, hs task htask, hq⟩ hm, hnone⟩
  · exact ⟨[], s, .nil s, fun task htask hq => hsome ⟨task, htask, hq⟩⟩

end Draining

end Scopes

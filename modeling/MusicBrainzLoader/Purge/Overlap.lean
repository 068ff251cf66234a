/-
  One `StaleChildRowPurge` under calls that overlap: a `purge` call is suspended at each of its
  awaits, and any other call, another `purge` included, may run before it goes on.

  A settled extraction must never delete again: once a boundary has been settled, a purge call that
  STARTS LATER issues no `DELETE` with it.  The object remembers one settled boundary, the last one,
  so this fails when an older boundary is collected again after a newer one was settled
  (`settled_boundary_deletes_again`), which takes a dropped collection (an unusable `started_at`, a
  reset) or a purge call that settles its own boundary while another is being collected.

  It holds in the runs whose steps avoid both (`StaysRemembered`).  The invariant that carries the
  proof is `Remembered`: a collected boundary that was ever settled is the one remembered.

  It is not enough to look at one call.  A call captures its boundary when it starts and settles it
  when it finishes, and in between any other call may settle, collect or mark.  So the invariant
  speaks of calls in flight as well (`StartedFresh`: the boundary of each had not been settled
  before its start), and the statement is about the trace: a start AFTER the settling, and a
  `DELETE` of that call after its start.  A call that started before is no violation, however late
  its `DELETE`.

  Each step is proved by what it does to the trace (`SettledStaysSettled.settle`, `.start`,
  `.delete`), and `inv_step` puts them together, one case for each action.
-/
import Mathlib.Data.List.Basic
import MusicBrainzLoader.Lib.Runs
import MusicBrainzLoader.Purge.Calls

namespace Purge.Overlap

/-! ## The machine -/

/-- What an observer of the object sees. -/
inductive Event where
  /-- `_settle` recorded this boundary. -/
  | settled (b : Instant)
  /-- A purge call started. -/
  | started (id : Nat)
  /-- A purge call issued a `DELETE` with this boundary. -/
  | deleteIssued (id : Nat) (b : Instant) (table : ChildTable)
deriving DecidableEq

structure State where
  obj : StaleChildRowPurge := {}
  /-- The suspended purge calls. -/
  calls : Table Nat PurgeCall := ∅
  nextId : Nat := 0
  /-- What has happened, newest first. -/
  trace : List Event := []
deriving DecidableEq

inductive Action where
  | recordCompletion (dataType : DataType) (message : Json)
  | recordDeadLetter (dataType : DataType)
  | reset
  | startPurge
  | resume (id : Nat) (reply : Reply)

/-- A purge call starts and runs to its first await, its veto or its exception. -/
def startPurge (cfg : PurgeConfig) (s : State) : State :=
  let started := { s with nextId := s.nextId + 1, trace := .started s.nextId :: s.trace }
  match start cfg s.obj with
  | .vetoed _ obj =>
    let settled := if s.obj.isLatched cfg then s.obj.boundary.toList.map Event.settled else []
    { started with obj, trace := settled ++ started.trace }
  | .raised => started
  | .suspended call => { started with calls := s.calls.insert s.nextId call }

/-- A suspended purge call gets its answer and runs to its next await or its end. -/
def resumeCall (cfg : PurgeConfig) (s : State) (id : Nat) (call : PurgeCall) (reply : Reply) : State :=
  match resume cfg call reply with
  | .raised => { s with calls := s.calls.erase id }
  | .finished _ =>
    { s with
      obj := s.obj.settle call.boundary
      calls := s.calls.erase id
      trace := .settled call.boundary :: s.trace }
  | .suspended call' =>
    { s with
      calls := s.calls.insert id call'
      trace := call'.awaiting.deletes.toList.map (Event.deleteIssued id call'.boundary) ++ s.trace }

def step (cfg : PurgeConfig) (s : State) : Action → Option State
  | .recordCompletion t message => some { s with obj := s.obj.recordCompletion t message }
  | .recordDeadLetter t => some { s with obj := s.obj.recordDeadLetter t }
  | .reset => some { s with obj := s.obj.reset }
  | .startPurge => some (startPurge cfg s)
  | .resume id reply => (s.calls.lookup id).map fun call => resumeCall cfg s id call reply

/-- The boundary was settled at some time of the run. -/
def State.everSettled (s : State) (b : Instant) : Prop := Event.settled b ∈ s.trace

instance (s : State) (b : Instant) : Decidable (s.everSettled b) :=
  inferInstanceAs (Decidable (_ ∈ _))

/-- **A settled extraction never deletes again**: in no order of events does a call start after a
    boundary was settled and then issue a `DELETE` with it.  (The trace is newest first.) -/
def SettledStaysSettled (trace : List Event) : Prop :=
  ∀ b id table, ¬ List.Sublist [.deleteIssued id b table, .started id, .settled b] trace

/-- The steps that keep every settled boundary out of reach: a signal starts a collection at a
    boundary settled before only if that is the remembered one, and a purge call settles its
    boundary only while no other boundary settled before is being collected. -/
def StaysRemembered (s : State) : Action → Prop
  | .recordCompletion _ message =>
    ∀ b ∈ parseStartedAt (message.get "started_at"), (∀ c ∈ s.obj.boundary, c < b) →
      s.everSettled b → s.obj.settledBoundary = some b
  | .resume id (.value _) =>
    ∀ call ∈ s.calls.lookup id, call.awaiting = .exitStack →
      ∀ b ∈ s.obj.boundary, s.everSettled b → b = call.boundary
  | _ => True

instance (s : State) (a : Action) : Decidable (StaysRemembered s a) := by
  cases a with
  | resume id reply => cases reply <;> unfold StaysRemembered <;> infer_instance
  | _ => unfold StaysRemembered; infer_instance

/-! ## What a step does to the trace -/

/-- Purge calls in flight have ids below the counter, and so have all that started. -/
structure WellNumbered (s : State) : Prop where
  calls : ∀ id call, s.calls.lookup id = some call → id < s.nextId
  started : ∀ id, .started id ∈ s.trace → id < s.nextId

/-- A collected boundary that was ever settled is the remembered one. -/
def Remembered (s : State) : Prop :=
  ∀ b, s.obj.boundary = some b → s.everSettled b → s.obj.settledBoundary = some b

/-- A suspended call's boundary had not been settled when it started. -/
def StartedFresh (s : State) : Prop :=
  ∀ id call, s.calls.lookup id = some call →
    ¬ List.Sublist [.started id, .settled call.boundary] s.trace

/-- All that the runs in question keep. -/
structure Inv (s : State) : Prop where
  numbered : WellNumbered s
  remembered : Remembered s
  fresh : StartedFresh s
  safe : SettledStaysSettled s.trace

theorem inv_init : Inv {} where
  numbered := ⟨by simp, by simp⟩
  remembered := by intro b h; cases h
  fresh := by intro id call h; simp at h
  safe := by intro b id table h; cases h

variable {cfg : PurgeConfig} {s s' : State}

/-- Settling a boundary adds no violation. -/
theorem SettledStaysSettled.settle {trace : List Event} (h : SettledStaysSettled trace)
    (b : Instant) : SettledStaysSettled (.settled b :: trace) := by
  intro b' id table hsub
  rw [List.cons_sublist_cons'] at hsub
  rcases hsub with hsub | ⟨heq, -⟩
  · exact h b' id table hsub
  · cases heq

theorem SettledStaysSettled.start {trace : List Event} (h : SettledStaysSettled trace)
    (id : Nat) : SettledStaysSettled (.started id :: trace) := by
  intro b id' table hsub
  rw [List.cons_sublist_cons'] at hsub
  rcases hsub with hsub | ⟨heq, -⟩
  · exact h b id' table hsub
  · cases heq

/-- A call's `DELETE` is no violation when its boundary was not settled before its start. -/
theorem SettledStaysSettled.delete {trace : List Event} (h : SettledStaysSettled trace)
    {id : Nat} {b : Instant} {table : ChildTable}
    (hfresh : ¬ List.Sublist [.started id, .settled b] trace) :
    SettledStaysSettled (.deleteIssued id b table :: trace) := by
  intro b' id' table' hsub
  rw [List.cons_sublist_cons'] at hsub
  rcases hsub with hsub | ⟨heq, hsub⟩
  · exact h b' id' table' hsub
  · cases heq
    exact hfresh hsub

/-- An event other than a call's start leaves it as fresh as it was. -/
theorem fresh_cons {trace : List Event} {id : Nat} {b : Instant} {e : Event}
    (h : ¬ List.Sublist [.started id, .settled b] trace) (he : e ≠ .started id) :
    ¬ List.Sublist [.started id, .settled b] (e :: trace) := by
  rw [List.cons_sublist_cons']
  rintro (hsub | ⟨heq, -⟩)
  · exact h hsub
  · exact he heq.symm

/-! ## Each step keeps the invariant -/

/-- A change of the object alone: only what is collected matters. -/
theorem Inv.setObj {obj : StaleChildRowPurge} (h : Inv s)
    (hrem : Remembered { s with obj := obj }) : Inv { s with obj := obj } where
  numbered := ⟨h.numbered.calls, h.numbered.started⟩
  remembered := hrem
  fresh := h.fresh
  safe := h.safe

theorem remembered_recordCompletion (h : Remembered s) {t : DataType} {message : Json}
    (hok : StaysRemembered s (.recordCompletion t message)) :
    Remembered { s with obj := s.obj.recordCompletion t message } := by
  intro b hb hset
  rw [StaleChildRowPurge.recordCompletion_settledBoundary]
  rcases StaleChildRowPurge.recordCompletion_cases s.obj t message with
    ⟨-, he⟩ | ⟨b', hb', ⟨c, hc, -, he⟩ | ⟨hnew, he⟩ | ⟨hc, he⟩⟩ <;>
    simp only [he] at hb
  · cases hb
  · exact h b hb hset
  · obtain rfl : b' = b := Option.some.inj hb
    exact hok b' hb' hnew hset
  · exact h b hb hset

/-- A boundary is settled while it is the one collected, or while no other old one is. -/
theorem Inv.settle {b : Instant} {calls : Table Nat PurgeCall} (h : Inv s)
    (hcalls : ∀ id call, calls.lookup id = some call → s.calls.lookup id = some call)
    (hb : ∀ c, s.obj.boundary = some c → s.everSettled c → c = b) :
    Inv { s with obj := s.obj.settle (some b), calls := calls, trace := .settled b :: s.trace } where
  numbered := by
    refine ⟨fun id call hid => h.numbered.calls id call (hcalls id call hid), fun id hid => ?_⟩
    rcases List.mem_cons.mp hid with heq | hid
    · cases heq
    · exact h.numbered.started id hid
  remembered := by
    intro c hc hset
    rcases List.mem_cons.mp hset with heq | hset
    · cases heq; rfl
    · rw [hb c hc hset]; rfl
  fresh := fun id call hid => fresh_cons (h.fresh id call (hcalls id call hid)) (by simp)
  safe := h.safe.settle b

/-- A call that started before its boundary was settled issues a `DELETE`. -/
theorem Inv.delete {id : Nat} {b : Instant} (h : Inv s) (table : ChildTable)
    (hfresh : ¬ List.Sublist [.started id, .settled b] s.trace) :
    Inv { s with trace := .deleteIssued id b table :: s.trace } where
  numbered := by
    refine ⟨h.numbered.calls, fun id' hid' => ?_⟩
    rcases List.mem_cons.mp hid' with heq | hid'
    · cases heq
    · exact h.numbered.started id' hid'
  remembered := by
    intro c hc hset
    rcases List.mem_cons.mp hset with heq | hset
    · cases heq
    · exact h.remembered c hc hset
  fresh := fun id' call hid' => fresh_cons (h.fresh id' call hid') (by simp)
  safe := h.safe.delete hfresh

/-- A purge call starts: it is fresh, because its boundary is not the remembered one. -/
theorem inv_startPurge (h : Inv s) : Inv (startPurge cfg s) := by
  have hstarted : Inv { s with nextId := s.nextId + 1, trace := .started s.nextId :: s.trace } := by
    refine ⟨⟨fun id call hid => (h.numbered.calls id call hid).trans (Nat.lt_succ_self _),
      fun id hid => ?_⟩, fun b hb hset => ?_, fun id call hid => ?_, h.safe.start _⟩
    · rcases List.mem_cons.mp hid with heq | hid
      · cases heq; exact Nat.lt_succ_self _
      · exact (h.numbered.started id hid).trans (Nat.lt_succ_self _)
    · rcases List.mem_cons.mp hset with heq | hset
      · cases heq
      · exact h.remembered b hb hset
    · refine fresh_cons (h.fresh id call hid) ?_
      intro heq
      cases heq
      exact absurd (h.numbered.calls _ call hid) (lt_irrefl _)
  unfold startPurge
  cases hs : start cfg s.obj with
  | raised => exact hstarted
  | vetoed reason obj =>
    obtain ⟨-, rfl⟩ := start_eq_vetoed.mp hs
    cases hl : s.obj.isLatched cfg with
    | false => exact hstarted
    | true =>
      obtain ⟨b, hb⟩ := Option.ne_none_iff_exists'.mp (StaleChildRowPurge.isLatched_iff.mp hl).1
      simp only [if_true, hb, Option.toList_some, List.map_cons, List.map_nil]
      exact hstarted.settle (fun _ _ hid => hid)
        (fun c hc _ => Option.some.inj (hc.symm.trans hb))
  | suspended call =>
    obtain ⟨b, hb, hv, -, rfl⟩ := start_eq_suspended.mp hs
    -- Not vetoed, so `b` is not the remembered boundary, so it was never settled.
    have hne := (StaleChildRowPurge.vetoReason_eq_none.mp hv).2.1
    have hnever : ¬ s.everSettled b := fun hset => hne ((h.remembered b hb hset).trans hb.symm)
    refine ⟨⟨fun id call hid => ?_, hstarted.numbered.started⟩, hstarted.remembered,
      fun id call hid => ?_, hstarted.safe⟩ <;> dsimp only at hid <;>
      rw [Table.lookup_insert_eq] at hid <;> split at hid
    · rename_i heq; subst heq; exact Nat.lt_succ_self _
    · exact hstarted.numbered.calls id call hid
    · rename_i heq
      subst heq
      cases hid
      intro hsub
      rw [List.cons_sublist_cons'] at hsub
      rcases hsub with hsub | ⟨-, hsub⟩
      · exact absurd (h.numbered.started _ (hsub.subset List.mem_cons_self)) (lt_irrefl _)
      · exact hnever (List.singleton_sublist.mp hsub)
    · exact hstarted.fresh id call hid

/-- A purge call goes on: its `DELETE`s name the boundary it started with. -/
theorem inv_resumeCall {id : Nat} {call : PurgeCall} {reply : Reply} (h : Inv s)
    (hid : s.calls.lookup id = some call) (hok : StaysRemembered s (.resume id reply)) :
    Inv (resumeCall cfg s id call reply) := by
  have herase : ∀ id' call', (s.calls.erase id).lookup id' = some call' →
      s.calls.lookup id' = some call' := by
    intro id' call' h'
    by_cases heq : id' = id
    · subst heq; rw [Finmap.lookup_erase] at h'; cases h'
    · rwa [Finmap.lookup_erase_ne heq] at h'
  -- What becomes of the call: it ends, settles, or goes on.
  unfold resumeCall
  cases hr : resume cfg call reply with
  | raised =>
    exact ⟨⟨fun id' call' h' => h.numbered.calls id' call' (herase id' call' h'),
      h.numbered.started⟩, h.remembered,
      fun id' call' h' => h.fresh id' call' (herase id' call' h'), h.safe⟩
  -- The settling is what the condition is about.
  | finished deleted =>
    obtain ⟨n, rfl, hexit⟩ := resume_eq_finished hr
    exact h.settle herase (fun c hc hset => hok call hid hexit c hc hset)
  | suspended call' =>
    have hbound := resume_boundary hr
    -- It has not seen its boundary settled, so if it deletes now that is safe.
    have hfresh : ¬ List.Sublist [.started id, .settled call'.boundary] s.trace := by
      rw [hbound]
      exact h.fresh id call hid
    have hsuspended : Inv { s with calls := s.calls.insert id call' } := by
      refine ⟨⟨fun id' c h' => ?_, h.numbered.started⟩, h.remembered, fun id' c h' => ?_, h.safe⟩ <;>
        dsimp only at h' <;> rw [Table.lookup_insert_eq] at h' <;> split at h'
      · rename_i heq; subst heq; exact h.numbered.calls _ call hid
      · exact h.numbered.calls id' c h'
      · rename_i heq; subst heq; cases h'; exact hfresh
      · exact h.fresh id' c h'
    -- The await it goes on to may be a delete.
    cases hdel : call'.awaiting.deletes with
    | none => simpa only [hdel, Option.toList_none, List.map_nil, List.nil_append] using hsuspended
    | some table =>
      simpa only [hdel, Option.toList_some, List.map_cons, List.map_nil, List.singleton_append] using
        hsuspended.delete table hfresh

theorem inv_step {a : Action} (h : Inv s) (hok : StaysRemembered s a)
    (hstep : step cfg s a = some s') : Inv s' := by
  cases a with
  | recordCompletion t message =>
    cases hstep
    exact h.setObj (remembered_recordCompletion h.remembered hok)
  | recordDeadLetter t =>
    cases hstep
    exact h.setObj fun b hb hset => h.remembered b hb hset
  | reset =>
    cases hstep
    exact h.setObj fun b hb hset => by cases hb
  | startPurge =>
    cases hstep
    exact inv_startPurge h
  | resume id reply =>
    obtain ⟨call, hid, rfl⟩ := Option.map_eq_some_iff.mp hstep
    exact inv_resumeCall h hid hok

/-- **A settled extraction never deletes again**, in every run whose steps keep each settled
    boundary remembered or out of reach. -/
theorem settled_stays_settled (cfg : PurgeConfig) (actions : List Action) (s : State)
    (hok : Runs.Meets (step cfg) StaysRemembered {} actions)
    (hrun : Runs.run (step cfg) {} actions = some s) : SettledStaysSettled s.trace :=
  (hok.invariant (fun _ _ _ h hok hstep => inv_step h hok hstep) inv_init hrun).safe

/-! ## Runs -/

/-- The four signals of an extraction. -/
def signals (startedAt : String) : List Action :=
  MUSICBRAINZ_DATA_TYPES.map fun t => .recordCompletion t (extractionComplete startedAt t 5)

/-- One purge call from start to end: the slot, connection and transaction, three statements for
    each of two tables, and the commit. -/
def purgeRun (id : Nat) : List Action :=
  .startPurge :: ([0, 0, 0, 0, 0, 10, 1, 1, 10, 1, 1, 0].map fun n => .resume id (.value n))

/-- A first extraction is purged, then a second; a signal without a usable `started_at` drops the
    boundary, and the first extraction's four signals are redelivered. -/
def olderBoundaryAgain : List Action :=
  signals "2024-01-01" ++ purgeRun 0 ++ signals "2024-02-01" ++ purgeRun 1 ++
    [.recordCompletion "artists" (.obj [])] ++ signals "2024-01-01" ++ purgeRun 2

theorem settled_boundary_deletes_again :
    ∃ s, Runs.run (step {}) {} olderBoundaryAgain = some s ∧ ¬ SettledStaysSettled s.trace := by
  have hrun : (Runs.run (step {}) {} olderBoundaryAgain).isSome = true := by decide +kernel
  obtain ⟨s, hs⟩ := Option.isSome_iff_exists.mp hrun
  refine ⟨s, hs, fun h => h 63839750400000000 2 .relationships ?_⟩
  have htrace : (Runs.run (step {}) {} olderBoundaryAgain).all (fun s =>
      [Event.deleteIssued 2 63839750400000000 .relationships, .started 2,
        .settled 63839750400000000].isSublist s.trace) = true := by decide +kernel
  rw [hs] at htrace
  exact List.isSublist_iff_sublist.mp htrace

/-- Two extractions purged in turn, with the first one's signals redelivered in between. -/
theorem settled_stays_settled_two_extractions :
    ∃ s, Runs.run (step {}) {} (signals "2024-01-01" ++ purgeRun 0 ++ signals "2024-01-01" ++
        [.startPurge] ++ signals "2024-02-01" ++ purgeRun 2) = some s ∧
      SettledStaysSettled s.trace := by
  have hrun : (Runs.run (step {}) {} (signals "2024-01-01" ++ purgeRun 0 ++ signals "2024-01-01" ++
      [.startPurge] ++ signals "2024-02-01" ++ purgeRun 2)).isSome = true := by decide +kernel
  obtain ⟨s, hs⟩ := Option.isSome_iff_exists.mp hrun
  exact ⟨s, hs, settled_stays_settled {} _ s (by decide +kernel) hs⟩

end Purge.Overlap

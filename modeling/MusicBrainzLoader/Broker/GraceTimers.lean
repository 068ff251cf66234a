/-
  Grace timers: whom a timer cancels, and when it still may.

  A timer outlives the message, the tag and the connection it was armed for.  What keeps it to its own
  consumer is the entry of its type in `consumer_cancel_tasks`: whoever replaces or withdraws the entry
  cancels the task first, and a cancelled task never wakes up to its RPC.

  Two things make this less than plain.  A timer that wakes up drops its own entry only at its end, so an
  entry may be of a task that is awake or cancelled, and there can be more timers than entries; the
  invariant is therefore one-sided, and about the live timers only.  And "no message has come since" is
  about the run and not about the state: two runs to one state may differ in it.

  * **`TimersCurrent`** — a timer that sleeps and is not cancelled is its type's entry; a record, an
    `extraction_complete` and the next timer cancel whatever the entry is.
  * **`Armed`** — the trace invariant: such a timer was armed by one event of the run, and none of the
    messages that would have cancelled it came after.
  * **`Carries`** — the step lemma for both: where each live timer, and each registered consumer, of the
    state after an event comes from.

  The machine is the bookkeeping's, with `cancel_all_consumers` beside it, which cancels the timers and
  then the consumers at shutdown.  Most of its code never looks at a timer (`Untimed`); what does either
  cancels, withdraws or arms one, or is a timer's own step.
-/
import MusicBrainzLoader.Broker.Coherence

namespace Broker

open Purge (DataType MUSICBRAINZ_DATA_TYPES)
open Runs

/-- The tag the broker has issued. -/
def Reply.issued : Reply → Option String
  | .tag consumerTag => some consumerTag
  | _ => none

namespace GraceTimers

/-! ## Shutdown -/

/-- Where `cancel_all_consumers` is suspended. -/
inductive ShutdownAwait where
  /-- Waiting for the timers it has cancelled. -/
  | gathering (pending : List Nat)
  /-- Cancelling one consumer, with the others still to come. -/
  | cancelling (t : DataType) (consumerTag : String) (rest : List (DataType × String))
deriving DecidableEq

structure Service where
  broker : State
  shutdown : Option ShutdownAwait := none

inductive Event where
  | broker (action : Action)
  /-- `cancel_all_consumers` begins. -/
  | shutdown
  /-- The timers have ended; the consumers left, in the order they were registered. -/
  | gathered (tags : List (DataType × String))
  | shutdownCancel (answered : Bool)

/-- The timer is its type's entry in `consumer_cancel_tasks`. -/
def isEntry (s : State) (timer : Timer) : Bool :=
  decide (s.consumerCancelTasks.lookup timer.dataType = some timer.task)

/-- The timers that are entries, cancelled. -/
def cancelPending (s : State) : State :=
  { s with timers := s.timers.map fun timer =>
      if isEntry s timer then { timer with cancelled := true } else timer }

/-- The loop over the consumers: one without a queue cannot be cancelled. -/
def cancelNext (s : State) : List (DataType × String) → State × Option ShutdownAwait
  | [] => (s, none)
  | (t, consumerTag) :: rest =>
    if t ∈ s.queues then (s, some (.cancelling t consumerTag rest))
    else cancelNext { s with consumerCancellationFailed := true } rest

/-- `list(consumer_tags.items())`. -/
def isItems (s : State) (tags : List (DataType × String)) : Bool :=
  decide ((tags.map (·.1)).Nodup ∧ (tags.map (·.1)).toFinset = s.consumerTags.keys) &&
    tags.all fun item => decide ((s.consumerTags.lookup item.1).map (·.tag) = some item.2)

/-- A confirmed cancellation drops the tag it named. -/
def dropTag (s : State) (t : DataType) (consumerTag : String) : State :=
  if (s.consumerTags.lookup t).map (·.tag) = some consumerTag then
    { s with consumerTags := s.consumerTags.erase t }
  else s

def eventStep (delay : Nat) (s : Service) : Event → Option Service
  | .broker action => (step delay s.broker action).map fun broker => { s with broker }
  | .shutdown =>
    if s.shutdown.isNone then some {
      broker := cancelPending s.broker
      shutdown := some (.gathering ((s.broker.timers.filter (isEntry s.broker)).map (·.task))) }
    else none
  | .gathered tags =>
    match s.shutdown with
    | some (.gathering pending) =>
      if (∀ timer ∈ s.broker.timers, timer.task ∉ pending) ∧ isItems s.broker tags then
        let r := cancelNext s.broker tags
        some { broker := r.1, shutdown := r.2 }
      else none
    | _ => none
  | .shutdownCancel answered =>
    match s.shutdown with
    | some (.cancelling t consumerTag rest) =>
      if answered then
        let r := cancelNext (dropTag s.broker t consumerTag) rest
        some { broker := r.1, shutdown := r.2 }
      else some { broker := { s.broker with consumerCancellationFailed := true }, shutdown := none }
    | _ => none

/-! ## What is to be shown -/

/-- `_handle_data_message` parses a record, or an `extraction_complete`, of this type. -/
def Event.parses (t : DataType) : Event → Bool
  | .broker (.deliver t' .record) => decide (t' = t)
  | .broker (.deliver t' .extractionComplete) => decide (t' = t)
  | _ => false

/-- The tag the broker issues with this event. -/
def Event.issues : Event → Option String
  | .broker (.recover reply) => reply.issued
  | _ => none

/-- With this event the timer wakes up and sends the RPC that cancels `timer.consumerTag`. -/
structure Cancels (delay : Nat) (s : Service) (e : Event) (timer : Timer) : Prop where
  wakes : ∃ i s', e = .broker (.timer i .answered) ∧ s.broker.timers[i]? = some timer ∧
    timer.awaiting = .sleep ∧ eventStep delay s e = some s' ∧
    s'.broker.timers[i]? = some { timer with awaiting := .cancelConsumer }

/-- The step from `m` to `m'` has armed the timer, for the tag its type has there. -/
structure ArmedBy (m m' : State) (timer : Timer) : Prop where
  task : timer.task = m.nextTask
  mem : timer ∈ m'.timers
  consumerTag : timer.consumerTag = (m.consumerTags.lookup timer.dataType).map (·.tag)

/-- A timer that will wake up to its RPC: asleep, and not cancelled. -/
def Live (timer : Timer) : Prop := timer.awaiting = .sleep ∧ timer.cancelled = false

/-- **The timers' invariant**: every task is one timer's, and a live timer is its type's entry. -/
structure TimersCurrent (s : State) : Prop where
  fresh : ∀ timer ∈ s.timers, timer.task < s.nextTask
  distinct : (s.timers.map (·.task)).Nodup
  entry : ∀ timer ∈ s.timers, Live timer →
    s.consumerCancelTasks.lookup timer.dataType = some timer.task

/-- The run along `events` has armed the timer, in `m`, and since then no record and no
    `extraction_complete` of its type has been parsed. -/
def Armed (delay : Nat) (s₀ : Service) (events : List Event) (timer : Timer) (m : Service) : Prop :=
  ∃ before arming after m', events = before ++ arming :: after ∧
    run (eventStep delay) s₀ before = some m ∧ eventStep delay m arming = some m' ∧
    ArmedBy m.broker m'.broker timer ∧ ∀ e ∈ after, e.parses timer.dataType = false

/-- No tag is issued twice, or while a consumer the run began with has it. -/
structure NeverReused (s₀ : Service) (events : List Event) : Prop where
  distinct : (events.filterMap Event.issues).Nodup
  fresh : ∀ t consumer, s₀.broker.consumerTags.lookup t = some consumer →
    consumer.tag ∉ events.filterMap Event.issues

/-! ## Code that leaves the timers alone

  Closes, the recovery and the loop of the shutdown. Of the consumers they say where a tag comes from:
  it was there, or the broker has just issued it. -/

/-- The timers, their entries and the next task are as they were, and every consumer that is
    registered was there before, or has the tag the broker has just issued. -/
structure Untimed (issued : Option String) (s s' : State) : Prop where
  timers : s'.timers = s.timers
  entries : s'.consumerCancelTasks = s.consumerCancelTasks
  nextTask : s'.nextTask = s.nextTask
  consumers : ∀ t consumer, s'.consumerTags.lookup t = some consumer →
    s.consumerTags.lookup t = some consumer ∨ issued = some consumer.tag

section Untimed

variable {issued : Option String} {s s' s'' : State}

/-- Nothing has changed. -/
theorem Untimed.refl (s : State) : Untimed issued s s := ⟨rfl, rfl, rfl, fun _ _ h => .inl h⟩

/-- Two stretches that leave the timers alone. -/
theorem Untimed.trans (h : Untimed issued s s') (h' : Untimed issued s' s'') :
    Untimed issued s s'' := by
  refine ⟨h'.timers.trans h.timers, h'.entries.trans h.entries, h'.nextTask.trans h.nextTask, ?_⟩
  intro t consumer hlookup
  rcases h'.consumers t consumer hlookup with hlookup | hissued
  · exact h.consumers t consumer hlookup
  · exact .inr hissued

/-- Only fields the timers do not read have changed. -/
theorem Untimed.of_same (htimers : s'.timers = s.timers)
    (hentries : s'.consumerCancelTasks = s.consumerCancelTasks)
    (hnextTask : s'.nextTask = s.nextTask) (htags : s'.consumerTags = s.consumerTags) :
    Untimed issued s s' := by
  refine ⟨htimers, hentries, hnextTask, ?_⟩
  intro t consumer hlookup
  rw [htags] at hlookup
  exact .inl hlookup

/-- What closing leaves alone is all this asks for. -/
theorem Untimed.of_closing (h : Closing s s') : Untimed issued s s' :=
  ⟨h.timers, h.entries, h.nextTask, fun t consumer hlookup => .inl (h.consumers t consumer hlookup)⟩

/-- The invariant speaks of what they leave alone. -/
theorem Untimed.current (h : Untimed issued s s') (hs : TimersCurrent s) : TimersCurrent s' := by
  refine ⟨?_, ?_, ?_⟩
  · rw [h.timers, h.nextTask]
    exact hs.fresh
  · rw [h.timers]
    exact hs.distinct
  · rw [h.timers, h.entries]
    exact hs.entry

/-- The recovery, from its first close to its last. -/
theorem untimed_afterDrop {r : State × CloseNext} (h : Untimed issued s r.1) :
    Untimed issued s (afterDrop r).1 := by
  unfold afterDrop
  split <;> exact h

theorem untimed_afterFailure {r : State × CloseNext} (h : Untimed issued s r.1) :
    Untimed issued s (afterFailure r).1 := by
  unfold afterFailure
  split
  · exact h
  · exact ⟨h.timers, h.entries, h.nextTask, h.consumers⟩
  · exact h

theorem untimed_recoveryFailed (s : State) (temp : Channel) :
    Untimed issued s (recoveryFailed s temp).1 := by
  have hactive : Untimed issued s (activate s temp) := .of_same rfl rfl rfl rfl
  exact untimed_afterFailure (hactive.trans (.of_closing (closing_startClose _)))

theorem untimed_startRecovery (s : State) : Untimed issued s (startRecovery s).1 := by
  unfold startRecovery
  split
  · exact untimed_afterDrop (.of_closing (closing_startClose s))
  · exact .refl s

theorem untimed_checkQueues (clock : Clock) (s : State) : Untimed issued s (checkQueues clock s).1 := by
  unfold checkQueues
  split
  · exact untimed_startRecovery s
  · split
    · exact untimed_startRecovery s
    · split
      · exact .refl s
      · split
        · exact .refl s
        · exact untimed_startRecovery s

theorem untimed_declareOnActive (s : State) (temp : Channel) (found : List (DataType × Nat))
    (declaration : Declaration) (t : DataType) (rest : List DataType) :
    Untimed issued s (declareOnActive s temp found declaration t rest).1 := by
  unfold declareOnActive
  split
  · exact .refl s
  · exact untimed_recoveryFailed s temp

theorem untimed_declareNext (s : State) (temp : Channel) (found : List (DataType × Nat))
    (rest : List DataType) : Untimed issued s (declareNext s temp found rest).1 := by
  cases rest with
  | nil => exact .refl s
  | cons t rest => exact untimed_declareOnActive s temp found .exchange t rest

theorem untimed_passiveNext (s : State) (temp : Channel) (found : List (DataType × Nat))
    (rest : List DataType) : Untimed issued s (passiveNext s temp found rest).1 := by
  cases rest with
  | cons t rest => exact .refl s
  | nil =>
    rw [passiveNext]
    split
    · exact .refl s
    · exact .of_same rfl rfl rfl rfl

theorem untimed_declared (s : State) (temp : Channel) (found : List (DataType × Nat))
    (declaration : Declaration) (on : Channel) (t : DataType) (rest : List DataType) :
    Untimed issued s (declared s temp found declaration on t rest).1 := by
  cases declaration with
  | deadLetterQueue => exact .refl s
  | queue => exact .refl s
  | bindQueue =>
    have hqueue : Untimed issued s { s with queues := s.queues.insert t on } :=
      .of_same rfl rfl rfl rfl
    exact hqueue.trans (untimed_declareNext _ temp found rest)
  | _ => exact untimed_declareOnActive s temp found _ t rest

/-- The one place a tag comes from: the broker's answer. -/
theorem untimed_registerConsumer (s : State) (found : List (DataType × Nat)) (t : DataType)
    (consumer : Consumer) : Untimed (some consumer.tag) s (registerConsumer s found t consumer) := by
  refine ⟨rfl, rfl, rfl, ?_⟩
  intro t' consumer' hlookup
  have hinserted : (s.consumerTags.insert t consumer).lookup t' = some consumer' := hlookup
  rw [Table.lookup_insert_eq] at hinserted
  split at hinserted
  · cases hinserted
    exact .inr rfl
  · exact .inl hinserted

/-- The recovery's code touches neither timers nor entries. -/
theorem untimed_recoveryStep {awaiting : RecoveryAwait} {reply : Reply}
    {r : State × Option RecoveryAwait} (h : recoveryStep s awaiting reply = some r) :
    Untimed reply.issued s r.1 := by
  -- Two cases for each await, it raises or it is answered, in the order of `recoveryStep`: dropping the
  -- old connection, and cleaning up after a failure, which are closes;
  unfold recoveryStep at h
  split at h
  · cases h
    exact untimed_afterDrop (.of_closing (closing_resumeClose s _ _))
  · cases h
    exact untimed_afterDrop (.of_closing (closing_resumeClose s _ _))
  · cases h
    exact untimed_afterFailure (.of_closing (closing_resumeClose s _ _))
  · cases h
    exact untimed_afterFailure (.of_closing (closing_resumeClose s _ _))
  -- connecting, opening the channel, and the passive declarations: nothing is on the state yet;
  · cases h
    exact .refl s
  · cases h
    exact .refl s
  · cases h
    exact .refl s
  · cases h
    exact untimed_passiveNext s _ _ _
  · cases h
    exact untimed_recoveryFailed s _
  · cases h
    exact untimed_passiveNext s _ _ _
  -- the prefetch, the declarations and the registrations, on the active connection;
  · cases h
    exact untimed_recoveryFailed s _
  · cases h
    have hqueues : Untimed none s { s with queues := ∅ } := .of_same rfl rfl rfl rfl
    exact hqueues.trans (untimed_declareNext _ _ _ _)
  · cases h
    exact untimed_recoveryFailed s _
  · cases h
    exact untimed_declared s _ _ _ _ _ _
  · cases h
    exact untimed_recoveryFailed s _
  · cases h
    exact untimed_registerConsumer s _ _ ⟨_, _⟩
  -- and closing the temporary channel and connection.
  · cases h
    exact untimed_recoveryFailed s _
  · cases h
    exact .refl s
  · cases h
    exact untimed_recoveryFailed s _
  · cases h
    exact .refl s
  · cases h

/-- The shutdown's loop over the consumers. -/
theorem untimed_cancelNext (s : State) (tags : List (DataType × String)) :
    Untimed issued s (cancelNext s tags).1 := by
  induction tags generalizing s with
  | nil => exact .refl s
  | cons item tags ih =>
    rw [cancelNext]
    split
    · exact .refl s
    · have hfailed : Untimed issued s { s with consumerCancellationFailed := true } :=
        .of_same rfl rfl rfl rfl
      exact hfailed.trans (ih _)

/-- It drops the tags that are cancelled. -/
theorem untimed_dropTag (s : State) (t : DataType) (consumerTag : String) :
    Untimed issued s (dropTag s t consumerTag) := by
  unfold dropTag
  split
  · exact .of_closing (closing_eraseTag s t)
  · exact .refl s

end Untimed

/-! ## Code that cancels, withdraws and arms

  To cancel is to map the timers; a map that only cancels makes no timer live. -/

section Arming

variable {s s' : State} {t : DataType} {timer : Timer}

/-- Some timers are cancelled. -/
def Cancelling (f : Timer → Timer) : Prop :=
  ∀ timer, f timer = timer ∨ f timer = { timer with cancelled := true }

/-- A cancelled timer is still the same task. -/
theorem Cancelling.task {f : Timer → Timer} (hf : Cancelling f) (timer : Timer) :
    (f timer).task = timer.task := by
  rcases hf timer with h | h <;> rw [h]

/-- Who is live after some timers were cancelled was not among them. -/
theorem live_map {f : Timer → Timer} (hf : Cancelling f) {timers : List Timer}
    (hmem : timer ∈ timers.map f) (hlive : Live timer) : timer ∈ timers ∧ f timer = timer := by
  obtain ⟨old, hold, rfl⟩ := List.mem_map.mp hmem
  rcases hf old with h | h
  · rw [h]
    exact ⟨hold, h⟩
  · rw [h] at hlive
    have : true = false := hlive.2
    cases this

/-- So cancelling timers keeps the invariant. -/
theorem TimersCurrent.map {f : Timer → Timer} (hs : TimersCurrent s) (hf : Cancelling f) :
    TimersCurrent { s with timers := s.timers.map f } := by
  refine ⟨?_, ?_, ?_⟩
  · intro timer hmem
    obtain ⟨old, hold, rfl⟩ := List.mem_map.mp hmem
    rw [hf.task]
    exact hs.fresh old hold
  · show ((s.timers.map f).map (·.task)).Nodup
    have htasks : (s.timers.map f).map (·.task) = s.timers.map (·.task) := by
      rw [List.map_map]
      exact List.map_congr_left fun timer _ => hf.task timer
    rw [htasks]
    exact hs.distinct
  · intro timer hmem hlive
    exact hs.entry timer (live_map hf hmem hlive).1 hlive

/-- `task.cancel()` cancels one timer. -/
theorem cancelling_task (task : Nat) :
    Cancelling fun timer => if timer.task = task then { timer with cancelled := true } else timer := by
  intro timer
  by_cases h : timer.task = task
  · exact .inr (if_pos h)
  · exact .inl (if_neg h)

/-- The shutdown cancels those that are entries. -/
theorem cancelling_pending (s : State) :
    Cancelling fun timer => if isEntry s timer then { timer with cancelled := true } else timer := by
  intro timer
  by_cases h : isEntry s timer
  · exact .inr (if_pos h)
  · exact .inl (if_neg h)

/-- A timer that is still live after `task.cancel()` is another task's. -/
theorem live_cancelTask {task : Nat} (hmem : timer ∈ (cancelTask s task).timers) (hlive : Live timer) :
    timer ∈ s.timers ∧ timer.task ≠ task := by
  obtain ⟨hold, hsame⟩ := live_map (cancelling_task task) hmem hlive
  refine ⟨hold, ?_⟩
  intro htask
  rw [if_pos htask] at hsame
  have hcancelled : timer.cancelled = true := by rw [← hsame]
  rw [hlive.2] at hcancelled
  cases hcancelled

/-- The entry stays until its type's timer is replaced or withdrawn. -/
theorem current_cancelTask (hs : TimersCurrent s) (task : Nat) : TimersCurrent (cancelTask s task) :=
  hs.map (cancelling_task task)

/-- Whoever is live once the type's timer is withdrawn is another type's. -/
theorem live_withdrawTimer (hs : TimersCurrent s) (hmem : timer ∈ (withdrawTimer s t).timers)
    (hlive : Live timer) : timer ∈ s.timers ∧ timer.dataType ≠ t := by
  unfold withdrawTimer at hmem
  split at hmem
  next task htask =>
    obtain ⟨hold, hother⟩ := live_cancelTask hmem hlive
    refine ⟨hold, ?_⟩
    rintro rfl
    have hentry := hs.entry timer hold hlive
    rw [htask] at hentry
    exact hother (Option.some.inj hentry).symm
  next hnone =>
    refine ⟨hmem, ?_⟩
    rintro rfl
    have hentry := hs.entry timer hmem hlive
    rw [hnone] at hentry
    cases hentry

/-- The entry goes, and with it the only timer of the type that could be live. -/
theorem current_withdrawTimer (hs : TimersCurrent s) (t : DataType) :
    TimersCurrent (withdrawTimer s t) := by
  have hlive : ∀ timer ∈ (withdrawTimer s t).timers, Live timer → timer.dataType ≠ t :=
    fun timer hmem hlive => (live_withdrawTimer hs hmem hlive).2
  unfold withdrawTimer at hlive ⊢
  split
  next task htask =>
    rw [htask] at hlive
    have hcancelled := current_cancelTask hs task
    refine ⟨hcancelled.fresh, hcancelled.distinct, ?_⟩
    intro timer hmem htimer
    show (s.consumerCancelTasks.erase t).lookup timer.dataType = some timer.task
    rw [Finmap.lookup_erase_ne (hlive timer hmem htimer)]
    exact hcancelled.entry timer hmem htimer
  next => exact hs

/-- Who is live after an arming was so before, or is the timer that was armed. -/
theorem live_armTimer (delay : Nat) (hmem : timer ∈ (armTimer delay s t).timers)
    (hlive : Live timer) : timer ∈ s.timers ∨ ArmedBy s (armTimer delay s t) timer := by
  have hscheduled : timer ∈ (scheduleConsumerCancellation s t).timers →
      timer ∈ s.timers ∨ timer.task = s.nextTask ∧
        timer.consumerTag = (s.consumerTags.lookup timer.dataType).map (·.tag) := by
    intro hmem
    rcases List.mem_append.mp hmem with hold | hnew
    · left
      split at hold
      · exact (live_cancelTask hold hlive).1
      · exact hold
    · right
      obtain rfl := List.mem_singleton.mp hnew
      split <;> exact ⟨rfl, rfl⟩
  have hmem' := hmem
  unfold armTimer at hmem
  split at hmem
  · rcases hscheduled hmem with hold | ⟨htask, hconsumerTag⟩
    · exact .inl hold
    · exact .inr ⟨htask, hmem', hconsumerTag⟩
  · exact .inl hmem

/-- The timer that is armed takes over the entry of a timer that is cancelled. -/
theorem current_schedule (hs : TimersCurrent s) (t : DataType) :
    TimersCurrent (scheduleConsumerCancellation s t) := by
  -- What is there before the new timer is added: the type's last timer is cancelled.
  have hreplaced : ∀ s' : State, TimersCurrent s' →
      (∀ timer ∈ s'.timers, Live timer → timer.dataType ≠ t) →
      ∀ consumerTag, TimersCurrent { s' with
        consumerCancelTasks := s'.consumerCancelTasks.insert t s'.nextTask
        timers := s'.timers ++ [{ task := s'.nextTask, dataType := t, consumerTag }]
        nextTask := s'.nextTask + 1 } := by
    intro s' hs' hothers consumerTag
    refine ⟨?_, ?_, ?_⟩
    · intro timer hmem
      rcases List.mem_append.mp hmem with hold | hnew
      · exact Nat.lt_succ_of_lt (hs'.fresh timer hold)
      · obtain rfl := List.mem_singleton.mp hnew
        exact Nat.lt_succ_self _
    · rw [List.map_append, List.nodup_append]
      refine ⟨hs'.distinct, List.nodup_singleton _, ?_⟩
      intro task htask new hnew
      obtain ⟨timer, hold, rfl⟩ := List.mem_map.mp htask
      have hfresh := hs'.fresh timer hold
      have hnew : new = s'.nextTask := List.mem_singleton.mp hnew
      omega
    · intro timer hmem hlive
      show (s'.consumerCancelTasks.insert t s'.nextTask).lookup timer.dataType = some timer.task
      rw [Table.lookup_insert_eq]
      rcases List.mem_append.mp hmem with hold | hnew
      · rw [if_neg (hothers timer hold hlive)]
        exact hs'.entry timer hold hlive
      · obtain rfl := List.mem_singleton.mp hnew
        rw [if_pos rfl]
  unfold scheduleConsumerCancellation
  split
  next task htask =>
    apply hreplaced _ (current_cancelTask hs task)
    intro timer hmem hlive
    obtain ⟨hold, hother⟩ := live_cancelTask hmem hlive
    rintro rfl
    have hentry := hs.entry timer hold hlive
    rw [htask] at hentry
    exact hother (Option.some.inj hentry).symm
  next hnone =>
    apply hreplaced _ hs
    intro timer hmem hlive
    rintro rfl
    have hentry := hs.entry timer hmem hlive
    rw [hnone] at hentry
    cases hentry

/-- Armed or not, for lack of a delay or of a queue. -/
theorem current_armTimer (delay : Nat) (hs : TimersCurrent s) (t : DataType) :
    TimersCurrent (armTimer delay s t) := by
  unfold armTimer
  split
  · exact current_schedule hs t
  · exact hs

end Arming

/-! ## A timer's own steps

  A timer that steps is awake from then on, or gone. -/

section Resuming

variable {s s' : State} {timer : Timer} {outcome : TimerOutcome} {i : Nat}

/-- A timer that closes is awake. -/
theorem awake_ofClose {next : CloseNext} {awaiting : TimerAwait}
    (h : TimerAwait.ofClose next = some awaiting) : awaiting ≠ .sleep := by
  rintro rfl
  cases next <;> cases h

/-- A timer that has woken up sleeps no more. -/
theorem awake_timerStep {r : State × Option TimerAwait} {awaiting : TimerAwait}
    (h : timerStep s timer outcome = some r) (hnext : r.2 = some awaiting) : awaiting ≠ .sleep := by
  unfold timerStep at h
  -- The sleep, with its three outcomes.
  split at h
  · split at h
    · cases h
    · split at h
      · cases h
        cases hnext
        intro hsleep
        cases hsleep
      · cases h
        cases hnext
  · cases h
  -- The cancellation of the consumer, with its three.
  · split at h
    · cases h
      cases hnext
    · cases h
  · dsimp only at h
    generalize (if (s.consumerTags.lookup timer.dataType).map (·.tag) = timer.consumerTag
      then { s with consumerTags := s.consumerTags.erase timer.dataType } else s) = s₁ at h
    split at h
    · cases h
      exact awake_ofClose hnext
    · cases h
      cases hnext
  -- The close.
  · cases h
    cases hnext
  · cases h
    exact awake_ofClose hnext
  · cases h
    exact awake_ofClose hnext
  · split at h
    · cases h
      cases hnext
    · cases h

/-- The timers that are live once one of them has stepped were live before. -/
theorem live_resumedTimer {next : Option TimerAwait} {other : Timer}
    (hawake : ∀ awaiting, next = some awaiting → awaiting ≠ .sleep)
    (hmem : other ∈ (resumedTimer s i timer next).timers) (hlive : Live other) :
    other ∈ s.timers := by
  cases next with
  | none => exact List.mem_of_mem_eraseIdx hmem
  | some awaiting =>
    rcases List.mem_or_eq_of_mem_set hmem with hold | rfl
    · exact hold
    · exact absurd hlive.1 (hawake awaiting rfl)

/-- The task is one timer's: another timer has another. -/
theorem TimersCurrent.task_ne {j : Nat} {other : Timer} (hs : TimersCurrent s)
    (hi : s.timers[i]? = some timer) (hj : s.timers[j]? = some other) (hne : j ≠ i) :
    other.task ≠ timer.task := by
  intro htask
  have hmapped : (s.timers.map (·.task))[j]? = (s.timers.map (·.task))[i]? := by
    rw [List.getElem?_map, List.getElem?_map, hi, hj, Option.map_some, Option.map_some, htask]
  have hlt : j < (s.timers.map (·.task)).length := by
    rw [List.length_map]
    exact (List.getElem?_eq_some_iff.mp hj).1
  exact hne ((List.getElem?_inj hlt hs.distinct).mp hmapped)

/-- It drops its own entry at its end, which no live timer has. -/
theorem current_resumedTimer (hs : TimersCurrent s) (hi : s.timers[i]? = some timer)
    {next : Option TimerAwait} (hawake : ∀ awaiting, next = some awaiting → awaiting ≠ .sleep) :
    TimersCurrent (resumedTimer s i timer next) := by
  -- A timer that is live afterwards was live before, with its entry.
  have hlive : ∀ other ∈ (resumedTimer s i timer next).timers, Live other →
      s.consumerCancelTasks.lookup other.dataType = some other.task :=
    fun other hmem hlive => hs.entry other (live_resumedTimer hawake hmem hlive) hlive
  obtain ⟨hlt, hget⟩ := List.getElem?_eq_some_iff.mp hi
  have hown : timer ∈ s.timers := List.mem_of_getElem? hi
  cases next with
  -- Suspended again: the same task in the same place.
  | some awaiting =>
    refine ⟨?_, ?_, hlive⟩
    · intro other hmem
      rcases List.mem_or_eq_of_mem_set hmem with hold | rfl
      · exact hs.fresh other hold
      · exact hs.fresh timer hown
    · show ((s.timers.set i { timer with awaiting }).map (·.task)).Nodup
      have hlt' : i < (s.timers.map (·.task)).length := by
        rw [List.length_map]
        exact hlt
      have hslot : (s.timers.map (·.task))[i] = timer.task := by
        rw [List.getElem_map, hget]
      rw [List.map_set, ← hslot, List.set_getElem_self hlt']
      exact hs.distinct
  -- Ended: the timer is gone, and its own entry with it.
  | none =>
    refine ⟨?_, ?_, ?_⟩
    · intro other hmem
      exact hs.fresh other (List.mem_of_mem_eraseIdx hmem)
    · exact hs.distinct.sublist ((List.eraseIdx_sublist _ _).map _)
    · intro other hmem hother
      have hentry := hlive other hmem hother
      obtain ⟨j, hne, hj⟩ := List.mem_eraseIdx_iff_getElem?.mp hmem
      show (if s.consumerCancelTasks.lookup timer.dataType = some timer.task then
          s.consumerCancelTasks.erase timer.dataType
        else s.consumerCancelTasks).lookup other.dataType = some other.task
      split
      -- The entry is this timer's. Another type's entry stays; and a live timer of this type would be
      -- the same task.
      next hcurrent =>
        have htype : other.dataType ≠ timer.dataType := by
          intro htype
          rw [htype, hcurrent] at hentry
          exact hs.task_ne hi hj hne (Option.some.inj hentry).symm
        rw [Finmap.lookup_erase_ne htype]
        exact hentry
      next => exact hentry

/-- **A timer's end drops its own entry at most.** -/
theorem entry_resumedTimer {next : Option TimerAwait} {t : DataType} {task : Nat}
    (hentry : s.consumerCancelTasks.lookup t = some task) (hother : task ≠ timer.task) :
    (resumedTimer s i timer next).consumerCancelTasks.lookup t = some task := by
  cases next with
  | some awaiting => exact hentry
  | none =>
    show (if s.consumerCancelTasks.lookup timer.dataType = some timer.task then
        s.consumerCancelTasks.erase timer.dataType
      else s.consumerCancelTasks).lookup t = some task
    split
    next hcurrent =>
      have htype : t ≠ timer.dataType := by
        rintro rfl
        rw [hentry] at hcurrent
        exact hother (Option.some.inj hcurrent)
      rw [Finmap.lookup_erase_ne htype]
      exact hentry
    next => exact hentry

end Resuming

/-! ## One event

  Every event by the code it runs. -/

/-- A live timer was there before and its type's messages have not been parsed, or the event has
    armed it; a consumer was there before, or has the tag the event issues. -/
structure Carries (e : Event) (s s' : State) : Prop where
  current : TimersCurrent s'
  live : ∀ timer ∈ s'.timers, Live timer →
    (timer ∈ s.timers ∧ e.parses timer.dataType = false) ∨ ArmedBy s s' timer
  consumers : ∀ t consumer, s'.consumerTags.lookup t = some consumer →
    s.consumerTags.lookup t = some consumer ∨ e.issues = some consumer.tag

section Events

variable {delay : Nat} {s s' : State} {e : Event}

/-- An event that leaves the tags alone. -/
theorem Carries.of_tags (htags : s'.consumerTags = s.consumerTags) (hcurrent : TimersCurrent s')
    (hlive : ∀ timer ∈ s'.timers, Live timer →
      (timer ∈ s.timers ∧ e.parses timer.dataType = false) ∨ ArmedBy s s' timer) :
    Carries e s s' := by
  refine ⟨hcurrent, hlive, ?_⟩
  intro t consumer hlookup
  rw [htags] at hlookup
  exact .inl hlookup

/-- Code that leaves the timers alone carries them over. -/
theorem Untimed.carries (h : Untimed e.issues s s') (hs : TimersCurrent s)
    (hquiet : ∀ t, e.parses t = false) : Carries e s s' := by
  refine ⟨h.current hs, ?_, h.consumers⟩
  intro timer hmem _
  rw [h.timers] at hmem
  exact .inl ⟨hmem, hquiet timer.dataType⟩

/-- A record and an `extraction_complete` withdraw their type's timer, a `file_complete` replaces it. -/
theorem carries_deliver (hs : TimersCurrent s) (t : DataType) (message : Message) :
    Carries (.broker (.deliver t message)) s (handleDataMessage delay s t message) := by
  -- The tags are untouched. The entries: a record and an extraction's end withdraw the type's timer; a
  -- file's end arms a new one.
  apply Carries.of_tags (untouched_handleDataMessage delay s t message).tags
  · cases message with
    | record =>
      have hs₁ : TimersCurrent { s with completedFiles := s.completedFiles.erase t } :=
        ⟨hs.fresh, hs.distinct, hs.entry⟩
      exact current_withdrawTimer hs₁ t
    | fileComplete =>
      have harmed := current_armTimer delay hs t
      exact ⟨harmed.fresh, harmed.distinct, harmed.entry⟩
    | extractionComplete =>
      have hwithdrawn := current_withdrawTimer hs t
      exact ⟨hwithdrawn.fresh, hwithdrawn.distinct, hwithdrawn.entry⟩
  -- And no live timer lasts past a withdrawal of its type.
  · intro timer hmem hlive
    cases message with
    | record =>
      have hs₁ : TimersCurrent { s with completedFiles := s.completedFiles.erase t } :=
        ⟨hs.fresh, hs.distinct, hs.entry⟩
      obtain ⟨hold, hother⟩ := live_withdrawTimer hs₁ hmem hlive
      exact .inl ⟨hold, decide_eq_false hother.symm⟩
    | fileComplete =>
      rcases live_armTimer delay hmem hlive with hold | harmed
      · exact .inl ⟨hold, rfl⟩
      · exact .inr ⟨harmed.task, hmem, harmed.consumerTag⟩
    | extractionComplete =>
      obtain ⟨hold, hother⟩ := live_withdrawTimer hs hmem hlive
      exact .inl ⟨hold, decide_eq_false hother.symm⟩

/-- The end of a reconciliation arms its type's timer. -/
theorem carries_reconciled (hs : TimersCurrent s) (i : Nat) (t : DataType) (ok : Bool) :
    Carries (.broker (.reconciled i ok)) s (reconciled delay s i t ok) := by
  have hs₁ : TimersCurrent { s with reconciling := s.reconciling.eraseIdx i } :=
    ⟨hs.fresh, hs.distinct, hs.entry⟩
  apply Carries.of_tags (untouched_reconciled delay s i t ok).tags
  · cases ok with
    | true => exact current_armTimer delay hs₁ t
    | false => exact ⟨hs.fresh, hs.distinct, hs.entry⟩
  · intro timer hmem hlive
    cases ok with
    | true =>
      rcases live_armTimer delay hmem hlive with hold | harmed
      · exact .inl ⟨hold, rfl⟩
      · exact .inr ⟨harmed.task, hmem, harmed.consumerTag⟩
    | false => exact .inl ⟨hmem, rfl⟩

/-- A timer's step, by whatever its await comes to. -/
theorem carries_timer {i : Nat} {timer : Timer} {outcome : TimerOutcome}
    {r : State × Option TimerAwait} (hs : TimersCurrent s) (hi : s.timers[i]? = some timer)
    (h : timerStep s timer outcome = some r) :
    Carries (.broker (.timer i outcome)) s (resumedTimer r.1 i timer r.2) := by
  have huntimed : Untimed none s r.1 := .of_closing (closing_timerStep h)
  have hawake : ∀ awaiting, r.2 = some awaiting → awaiting ≠ .sleep :=
    fun awaiting hnext => awake_timerStep h hnext
  have htags : (resumedTimer r.1 i timer r.2).consumerTags = r.1.consumerTags := by
    cases r.2 <;> rfl
  have hi' : r.1.timers[i]? = some timer := by
    rw [huntimed.timers]
    exact hi
  refine ⟨current_resumedTimer (huntimed.current hs) hi' hawake, ?_, ?_⟩
  · intro other hmem hlive
    have hold := live_resumedTimer hawake hmem hlive
    rw [huntimed.timers] at hold
    exact .inl ⟨hold, rfl⟩
  · intro t consumer hlookup
    rw [htags] at hlookup
    exact huntimed.consumers t consumer hlookup

/-- The bookkeeping's actions. -/
theorem carries_step {action : Action} (hs : TimersCurrent s) (h : step delay s action = some s') :
    Carries (.broker action) s s' := by
  -- Deliveries and timers have lemmas of their own; the checker and its recovery touch no timer.
  cases action with
  | deliver t message =>
    obtain rfl := Option.some.inj h
    exact carries_deliver hs t message
  | reconciled i ok =>
    obtain ⟨t, -, rfl⟩ := Option.map_eq_some_iff.mp h
    exact carries_reconciled hs i t ok
  | timer i outcome =>
    obtain ⟨timer, hi, hstep⟩ := Option.bind_eq_some_iff.mp h
    obtain ⟨r, hr, rfl⟩ := Option.map_eq_some_iff.mp hstep
    exact carries_timer hs hi hr
  | check clock =>
    dsimp only [step] at h
    split at h
    · obtain rfl := Option.some.inj h
      have huntimed : Untimed none s (checkQueues clock s).1 := untimed_checkQueues clock s
      apply Untimed.carries _ hs fun _ => rfl
      exact ⟨huntimed.timers, huntimed.entries, huntimed.nextTask, huntimed.consumers⟩
    · cases h
  | recover reply =>
    obtain ⟨awaiting, -, hstep⟩ := Option.bind_eq_some_iff.mp h
    obtain ⟨r, hr, rfl⟩ := Option.map_eq_some_iff.mp hstep
    have huntimed : Untimed reply.issued s r.1 := untimed_recoveryStep hr
    apply Untimed.carries _ hs fun _ => rfl
    exact ⟨huntimed.timers, huntimed.entries, huntimed.nextTask, huntimed.consumers⟩

/-- Shutdown's cancellation of the timers. -/
theorem carries_shutdown (hs : TimersCurrent s) : Carries .shutdown s (cancelPending s) := by
  have hcurrent : TimersCurrent (cancelPending s) := hs.map (cancelling_pending s)
  have htags : (cancelPending s).consumerTags = s.consumerTags := rfl
  apply Carries.of_tags htags hcurrent
  intro timer hmem hlive
  exact .inl ⟨(live_map (cancelling_pending s) hmem hlive).1, rfl⟩

/-- **The step lemma**, over every event. -/
theorem carries_event {s s' : Service} (hs : TimersCurrent s.broker)
    (h : eventStep delay s e = some s') : Carries e s.broker s'.broker := by
  -- Shutting down cancels consumers and no timer.
  cases e with
  | broker action =>
    obtain ⟨broker, hbroker, rfl⟩ := Option.map_eq_some_iff.mp h
    exact carries_step hs hbroker
  | shutdown =>
    dsimp only [eventStep] at h
    split at h
    · obtain rfl := Option.some.inj h
      exact carries_shutdown hs
    · cases h
  | gathered tags =>
    dsimp only [eventStep] at h
    split at h
    · split at h
      · obtain rfl := Option.some.inj h
        exact Untimed.carries (untimed_cancelNext _ tags) hs fun _ => rfl
      · cases h
    · cases h
  | shutdownCancel answered =>
    dsimp only [eventStep] at h
    split at h
    next t consumerTag rest _ =>
      split at h
      · obtain rfl := Option.some.inj h
        have hdropped : Untimed none s.broker (dropTag s.broker t consumerTag) :=
          untimed_dropTag s.broker t consumerTag
        exact Untimed.carries (hdropped.trans (untimed_cancelNext _ rest)) hs fun _ => rfl
      · obtain rfl := Option.some.inj h
        exact Untimed.carries (.of_same rfl rfl rfl rfl) hs fun _ => rfl
    · cases h

end Events

/-! ## Runs -/

section Run

variable {delay : Nat} {s₀ s m : Service} {events : List Event} {timer : Timer}

/-- **The run lemma.**  A live timer has been armed by some event of the run, and its type's messages
    have not been parsed since. -/
theorem armed_run (hs₀ : TimersCurrent s₀.broker) (hnone : s₀.broker.timers = [])
    (hrun : run (eventStep delay) s₀ events = some s) :
    TimersCurrent s.broker ∧
      ∀ timer ∈ s.broker.timers, Live timer → ∃ m, Armed delay s₀ events timer m := by
  -- The last event either has armed the timer, or has left it alone and parsed nothing of its type.
  induction events using List.reverseRecOn generalizing s with
  | nil =>
    cases hrun
    refine ⟨hs₀, ?_⟩
    intro timer hmem _
    rw [hnone] at hmem
    cases hmem
  | append_singleton events e ih =>
    obtain ⟨k, hk, hlast⟩ := run_concat.mp hrun
    obtain ⟨hcurrent, harmed⟩ := ih hk
    have hcarries := carries_event hcurrent hlast
    refine ⟨hcarries.current, ?_⟩
    intro timer hmem hlive
    rcases hcarries.live timer hmem hlive with ⟨hold, hquiet⟩ | harming
    · obtain ⟨m, before, arming, after, m', rfl, hm, hm', hby, hsince⟩ := harmed timer hold hlive
      refine ⟨m, before, arming, after ++ [e], m', ?_, hm, hm', hby, ?_⟩
      · rw [List.append_assoc, List.cons_append]
      · intro later hlater
        rcases List.mem_append.mp hlater with hlater | hlater
        · exact hsince later hlater
        · obtain rfl := List.mem_singleton.mp hlater
          exact hquiet
    · exact ⟨k, events, e, [], s, rfl, hk, hlast, harming, fun _ h => absurd h List.not_mem_nil⟩

/-- The invariant of the state, over runs. -/
theorem current_run (hs₀ : TimersCurrent s₀.broker)
    (hrun : run (eventStep delay) s₀ events = some s) : TimersCurrent s.broker :=
  run_invariant (fun _ _ _ hs h => (carries_event hs h).current) hs₀ hrun

/-- A consumer that is registered was registered before the run, or has a tag the run has issued. -/
theorem registered_run (hs₀ : TimersCurrent s₀.broker)
    (hrun : run (eventStep delay) s₀ events = some s) {t : DataType} {consumer : Consumer}
    (hlookup : s.broker.consumerTags.lookup t = some consumer) :
    s₀.broker.consumerTags.lookup t = some consumer ∨
      consumer.tag ∈ events.filterMap Event.issues := by
  induction events generalizing s₀ with
  | nil =>
    cases hrun
    exact .inl hlookup
  | cons e events ih =>
    obtain ⟨k, hfirst, hrest⟩ := run_cons_eq_some.mp hrun
    have hcarries := carries_event hs₀ hfirst
    rcases ih hcarries.current hrest with hk | hissued
    · rcases hcarries.consumers t consumer hk with hbefore | hissues
      · exact .inl hbefore
      · right
        exact List.mem_filterMap.mpr ⟨e, List.mem_cons_self, hissues⟩
    · right
      obtain ⟨later, hlater, hissues⟩ := List.mem_filterMap.mp hissued
      exact List.mem_filterMap.mpr ⟨later, List.mem_cons_of_mem e hlater, hissues⟩

/-- While tags are not reused, the tag that a type had and still has is the same consumer's. -/
theorem same_consumer {before after : List Event} {t : DataType} {old new : Consumer}
    (hs₀ : TimersCurrent s₀.broker) (hreused : NeverReused s₀ (before ++ after))
    (hm : run (eventStep delay) s₀ before = some m) (hrun : run (eventStep delay) m after = some s)
    (hold : m.broker.consumerTags.lookup t = some old)
    (hnew : s.broker.consumerTags.lookup t = some new) (htag : new.tag = old.tag) : new = old := by
  rcases registered_run (current_run hs₀ hm) hrun hnew with hsame | hissued
  · rw [hold] at hsame
    exact (Option.some.inj hsame).symm
  · exfalso
    rw [htag] at hissued
    have hdistinct := hreused.distinct
    have hfresh := hreused.fresh t old
    rw [List.filterMap_append] at hdistinct hfresh
    rcases registered_run hs₀ hm hold with hstart | hbefore
    · exact hfresh hstart (List.mem_append_right _ hissued)
    · exact List.disjoint_of_nodup_append hdistinct hbefore hissued

/-- What has to be so for a timer to send its RPC. -/
theorem cancels_live {e : Event} (hs : TimersCurrent s.broker) (h : Cancels delay s e timer) :
    timer ∈ s.broker.timers ∧ Live timer ∧ timer.consumerTag.isSome ∧
      (s.broker.consumerTags.lookup timer.dataType).map (·.tag) = timer.consumerTag := by
  obtain ⟨i, s', rfl, hi, hsleep, hstep, hsent⟩ := h.wakes
  obtain ⟨broker, hbroker, rfl⟩ := Option.map_eq_some_iff.mp hstep
  obtain ⟨timer', hi', hstep⟩ := Option.bind_eq_some_iff.mp hbroker
  obtain rfl : timer = timer' := Option.some.inj (hi.symm.trans hi')
  obtain ⟨r, hr, rfl⟩ := Option.map_eq_some_iff.mp hstep
  unfold timerStep at hr
  rw [hsleep] at hr
  dsimp only at hr
  split at hr
  · cases hr
  next hlive =>
    split at hr
    next htag =>
      exact ⟨List.mem_of_getElem? hi, ⟨hsleep, eq_false_of_ne_true hlive⟩, htag⟩
    next =>
      -- It ends instead, and no other timer is it.
      cases hr
      have hmem : { timer with awaiting := .cancelConsumer } ∈ s.broker.timers.eraseIdx i :=
        List.mem_of_getElem? hsent
      obtain ⟨j, hne, hj⟩ := List.mem_eraseIdx_iff_getElem?.mp hmem
      have htask := hs.task_ne hi hj hne
      exact absurd rfl htask

end Run

/-- **A grace timer keeps to its own consumer.**  Whenever a timer sends its RPC, the run has armed it
    for the consumer its type had then, that consumer is still its type's, and no record and no
    `extraction_complete` of the type has been parsed in between; and whatever a timer does, the
    entries of other tasks stay. -/
theorem grace_timer_keeps_to_its_consumer (delay : Nat) (s₀ s : Service) (events : List Event)
    (hnone : s₀.broker.timers = []) (hreused : NeverReused s₀ events)
    (hrun : run (eventStep delay) s₀ events = some s) :
    (∀ e timer, Cancels delay s e timer → ∃ m consumer, Armed delay s₀ events timer m ∧
      timer.consumerTag = some consumer.tag ∧
      m.broker.consumerTags.lookup timer.dataType = some consumer ∧
      s.broker.consumerTags.lookup timer.dataType = some consumer) ∧
    (∀ i timer outcome s', s.broker.timers[i]? = some timer →
      eventStep delay s (.broker (.timer i outcome)) = some s' →
      ∀ t task, s.broker.consumerCancelTasks.lookup t = some task → task ≠ timer.task →
        s'.broker.consumerCancelTasks.lookup t = some task) := by
  have hs₀ : TimersCurrent s₀.broker := by
    refine ⟨?_, ?_, ?_⟩ <;> simp [hnone]
  obtain ⟨hcurrent, harmed⟩ := armed_run hs₀ hnone hrun
  constructor
  -- The timer that cancels was armed by a file's end, when its type's consumer had the tag it carries.
  · intro e timer hcancels
    obtain ⟨hmem, hlive, hsome, htag⟩ := cancels_live hcurrent hcancels
    obtain ⟨m, before, arming, after, m', rfl, hm, hm', hby, hsince⟩ := harmed timer hmem hlive
    obtain ⟨tag, htimer⟩ := Option.isSome_iff_exists.mp hsome
    have hthen := hby.consumerTag
    rw [htimer] at htag hthen
    obtain ⟨old, hold, holdTag⟩ := Option.map_eq_some_iff.mp hthen.symm
    obtain ⟨new, hnew, hnewTag⟩ := Option.map_eq_some_iff.mp htag
    -- The part of the run from then on.
    have hrest : run (eventStep delay) m (arming :: after) = some s := by
      obtain ⟨k, hk, hrest⟩ := run_append_eq_some.mp hrun
      obtain rfl := Option.some.inj (hm.symm.trans hk)
      exact hrest
    -- Tags are not reused, so the consumer with that tag now is the one of then.
    obtain rfl := same_consumer hs₀ hreused hm hrest hold hnew (hnewTag.trans holdTag.symm)
    refine ⟨m, new, ⟨before, arming, after, m', rfl, hm, hm', hby, hsince⟩, ?_, hold, hnew⟩
    rw [htimer, hnewTag]
  -- A timer takes out its own entry at most, whatever it was doing.
  · intro i timer outcome s' hi hstep t task hentry hother
    obtain ⟨broker, hbroker, rfl⟩ := Option.map_eq_some_iff.mp hstep
    obtain ⟨timer', hi', hstep⟩ := Option.bind_eq_some_iff.mp hbroker
    obtain rfl := Option.some.inj (hi.symm.trans hi')
    obtain ⟨r, hr, rfl⟩ := Option.map_eq_some_iff.mp hstep
    have huntimed : Untimed none s.broker r.1 := .of_closing (closing_timerStep hr)
    apply entry_resumedTimer _ hother
    rw [huntimed.entries]
    exact hentry

/-- Two `file_complete`s: the second timer has replaced the first. -/
def armedTwice : List Event :=
  [.broker (.deliver "artists" .fileComplete), .broker (.deliver "artists" .fileComplete)]

def first : Timer := ⟨0, "artists", some "ctag1.artists", .sleep, true⟩

def second : Timer := ⟨1, "artists", some "ctag1.artists", .sleep, false⟩

/-- The second timer's consumer is still there for it, and the first one's end leaves it its entry. -/
theorem armedTwice_keeps_to_the_second :
    ∃ s, run (eventStep 300) ⟨started, none⟩ armedTwice = some s ∧
      Cancels 300 s (.broker (.timer 1 .answered)) second ∧
      (∃ m consumer, Armed 300 ⟨started, none⟩ armedTwice second m ∧
        second.consumerTag = some consumer.tag ∧
        m.broker.consumerTags.lookup second.dataType = some consumer ∧
        s.broker.consumerTags.lookup second.dataType = some consumer) ∧
      ∃ s', eventStep 300 s (.broker (.timer 0 .cancelled)) = some s' ∧
        s'.broker.consumerCancelTasks.lookup "artists" = some 1 := by
  -- The two timers and the entry are read off the run; the rest is the theorem's.
  have hrun : ((run (eventStep 300) ⟨started, none⟩ armedTwice).bind fun s =>
      (eventStep 300 s (.broker (.timer 1 .answered))).bind fun s₁ =>
        (eventStep 300 s (.broker (.timer 0 .cancelled))).map fun _ =>
          decide (s.broker.timers = [first, second] ∧
            s₁.broker.timers[1]? = some { second with awaiting := .cancelConsumer } ∧
            s.broker.consumerCancelTasks.lookup "artists" = some 1)) = some true := by
    decide +kernel
  obtain ⟨s, hs, hrun⟩ := Option.bind_eq_some_iff.mp hrun
  obtain ⟨s₁, hs₁, hrun⟩ := Option.bind_eq_some_iff.mp hrun
  obtain ⟨s₂, hs₂, hrun⟩ := Option.map_eq_some_iff.mp hrun
  obtain ⟨htimers, hsent, hentry⟩ := of_decide_eq_true hrun
  have hfirst : s.broker.timers[0]? = some first := by rw [htimers]; rfl
  have hsecond : s.broker.timers[1]? = some second := by rw [htimers]; rfl
  have hreused : NeverReused ⟨started, none⟩ armedTwice :=
    ⟨List.nodup_nil, fun _ _ _ => List.not_mem_nil⟩
  obtain ⟨hcancels, hentries⟩ := grace_timer_keeps_to_its_consumer 300 _ s armedTwice rfl hreused hs
  have hwakes : Cancels 300 s (.broker (.timer 1 .answered)) second :=
    ⟨1, s₁, rfl, hsecond, rfl, hs₁, hsent⟩
  refine ⟨s, hs, hwakes, hcancels _ _ hwakes, s₂, hs₂, ?_⟩
  exact hentries 0 first .cancelled s₂ hfirst hs₂ "artists" 1 hentry (by decide)

end GraceTimers

end Broker

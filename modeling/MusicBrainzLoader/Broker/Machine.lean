/-
  The broker bookkeeping (`brainztableinator.py`): which connection and channel are active, which
  consumers are registered, and the tasks that change them.

  * **Grace timers** — `cancel_after_delay`: a completed type's consumer is cancelled after a delay, and
    the last one closes the connection.
  * **Deliveries** — a record withdraws its type's completion and timer; the completion messages start
    a timer.
  * **Recovery** — `periodic_queue_checker` runs `_recover_consumers`, which closes the connection that
    is left, and opens the next.

  As in the purge's machine a step runs one task from one await to the next, and an await is answered
  or raises; a call that times out raises.  What the broker answers (a connection, a channel, a count, a
  tag) is an argument of the action, and so is what the checker reads off the clock.  Only the checker
  recovers, so at most one recovery runs.

  The close is the delicate part.  `close_rabbitmq_connection` reads the active channel, awaits its
  close, reads the active connection, awaits its close, and then writes; it is called from timers
  and from the recovery, so two of them can be under way, and what they read they may no longer find
  when they come back.  So a `CloseCall` carries what the code's local variables carry, and what the
  code reads again it reads from the state it comes back to.

  Log lines and acknowledgements are left out; nothing here depends on them.  What the bookkeeping
  does keep is written in the source's own terms: a handle is there or not, a tag is in the
  dictionary or not, and the failure flag is the one the checker looks at.
-/
import MusicBrainzLoader.Lib.Runs
import MusicBrainzLoader.Lib.Table
import MusicBrainzLoader.Purge.Object

namespace Broker

open Purge (DataType MUSICBRAINZ_DATA_TYPES)

/-! ## Handles -/

abbrev ConnectionId := Nat

/-- A channel, and the connection it was opened on. -/
structure Channel where
  connection : ConnectionId
  number : Nat
deriving DecidableEq

/-- A consumer's tag, and the connection it was registered on. -/
structure Consumer where
  tag : String
  connection : ConnectionId
deriving DecidableEq

/-! ## Tasks -/

inductive CloseAwait where
  | channel (c : Channel)
  | connection (k : ConnectionId)
deriving DecidableEq

/-- A suspended `close_rabbitmq_connection`. -/
structure CloseCall where
  /-- The connection that was active when the call began. -/
  began : Option ConnectionId
  confirmed : Bool
  /-- The connections whose closure, or whose channel's, the call has confirmed. -/
  closed : List ConnectionId
  awaiting : CloseAwait
deriving DecidableEq

inductive TimerAwait where
  | sleep
  | cancelConsumer
  | closing (call : CloseCall)
deriving DecidableEq

/-- A `cancel_after_delay` task. -/
structure Timer where
  task : Nat
  dataType : DataType
  consumerTag : Option String
  awaiting : TimerAwait := .sleep
  /-- `task.cancel()` has been called. -/
  cancelled : Bool := false
deriving DecidableEq

/-- The broker calls that set up one type's queue, in order. -/
inductive Declaration where
  | exchange
  | deadLetterExchange
  | deadLetterQueue
  | bindDeadLetterQueue
  | queue
  | bindQueue
deriving DecidableEq

/-- Where `_recover_consumers` is suspended.  `temp` is its channel, on its own connection; `found` are
    the queues with messages. -/
inductive RecoveryAwait where
  /-- Closing the connection that is left. -/
  | dropping (call : CloseCall)
  | connect
  | openChannel (connection : ConnectionId)
  | declarePassive (temp : Channel) (found : List (DataType × Nat)) (t : DataType)
      (rest : List DataType)
  | qos (temp : Channel) (found : List (DataType × Nat))
  | declare (temp : Channel) (found : List (DataType × Nat)) (declaration : Declaration)
      (on : Channel) (t : DataType) (rest : List DataType)
  | consume (temp : Channel) (found : List (DataType × Nat)) (on : Channel) (t : DataType)
      (rest : List DataType)
  | closeTempChannel (temp : Channel)
  | closeTempConnection (temp : Channel)
  /-- Closing its own connection after an exception. -/
  | closing (call : CloseCall)
deriving DecidableEq

/-! ## The service -/

structure State where
  consumerTags : Table DataType Consumer := ∅
  connectionConsumerTags : Table DataType Consumer := ∅
  activeConnection : Option ConnectionId := none
  activeChannel : Option Channel := none
  consumerCancellationFailed : Bool := false
  completedFiles : Finset DataType := ∅
  /-- Each declared queue, and the channel it was declared on. -/
  queues : Table DataType Channel := ∅
  consumerCancelTasks : Table DataType Nat := ∅
  timers : List Timer := []
  /-- The types whose `extraction_complete` is being reconciled. -/
  reconciling : List DataType := []
  recovery : Option RecoveryAwait := none
  nextTask : Nat := 0

/-- How a close goes on: to its next await, or to its result. -/
inductive CloseNext where
  | suspended (call : CloseCall)
  | returned (closed : Bool)
deriving DecidableEq

/-- The end of `close_rabbitmq_connection`. -/
def finishClose (s : State) (confirmed : Bool) : State × CloseNext :=
  if !confirmed then ({ s with consumerCancellationFailed := true }, .returned false)
  else ({ s with
      consumerTags := ∅, connectionConsumerTags := ∅,
      consumerCancellationFailed := s.activeConnection.isSome },
    .returned (!s.activeConnection.isSome))

/-- Its second half, which reads the active connection again. -/
def closeConnection (s : State) (began : Option ConnectionId) (confirmed : Bool)
    (closed : List ConnectionId) : State × CloseNext :=
  match s.activeConnection with
  | some k => (s, .suspended ⟨began, confirmed, closed, .connection k⟩)
  | none => finishClose s confirmed

/-- `close_rabbitmq_connection` up to its first await. -/
def startClose (s : State) : State × CloseNext :=
  let confirmed := s.activeConnection.isNone && s.activeChannel.isNone &&
    decide (s.consumerTags.count = 0)
  match s.activeChannel with
  | some c => (s, .suspended ⟨s.activeConnection, confirmed, [], .channel c⟩)
  | none => closeConnection s s.activeConnection confirmed []

/-- `close_rabbitmq_connection` from an await, answered or not, to the next. -/
def resumeClose (s : State) (call : CloseCall) (answered : Bool) : State × CloseNext :=
  match call.awaiting, answered with
  | .channel c, true =>
    closeConnection { s with activeChannel := none } call.began true (c.connection :: call.closed)
  | .channel _, false => closeConnection s call.began call.confirmed call.closed
  | .connection _, true => finishClose { s with activeConnection := none, activeChannel := none } true
  | .connection _, false => finishClose s call.confirmed

/-! ## Timers and deliveries -/

/-- `check_all_consumers_idle`. -/
def checkAllConsumersIdle (s : State) : Bool :=
  decide (s.consumerTags.count = 0) && decide (MUSICBRAINZ_DATA_TYPES.length = s.completedFiles.card)

/-- `task.cancel()`. -/
def cancelTask (s : State) (task : Nat) : State :=
  { s with timers := s.timers.map fun timer =>
      if timer.task = task then { timer with cancelled := true } else timer }

/-- `consumer_cancel_tasks.pop(data_type, None)`, and the task cancelled if there was one. -/
def withdrawTimer (s : State) (t : DataType) : State :=
  match s.consumerCancelTasks.lookup t with
  | some task => { cancelTask s task with consumerCancelTasks := s.consumerCancelTasks.erase t }
  | none => s

/-- `schedule_consumer_cancellation`. -/
def scheduleConsumerCancellation (s : State) (t : DataType) : State :=
  let consumerTag := (s.consumerTags.lookup t).map (·.tag)
  let s := match s.consumerCancelTasks.lookup t with
    | some task => cancelTask s task
    | none => s
  { s with
    consumerCancelTasks := s.consumerCancelTasks.insert t s.nextTask
    timers := s.timers ++ [{ task := s.nextTask, dataType := t, consumerTag }]
    nextTask := s.nextTask + 1 }

/-- A completed type's timer, when there is a delay and a queue to cancel on. -/
def armTimer (delay : Nat) (s : State) (t : DataType) : State :=
  if 0 < delay ∧ t ∈ s.queues then scheduleConsumerCancellation s t else s

inductive TimerOutcome where
  | answered
  | raised
  | cancelled
deriving DecidableEq

/-- Where a timer's code comes to from a close: on with it, or to its end. -/
def TimerAwait.ofClose : CloseNext → Option TimerAwait
  | .suspended call => some (.closing call)
  | .returned _ => none

/-- `cancel_after_delay` from one await to the next; none when it ends. -/
def timerStep (s : State) (timer : Timer) (outcome : TimerOutcome) :
    Option (State × Option TimerAwait) :=
  match timer.awaiting, outcome with
  | .sleep, .answered =>
    -- A cancelled task wakes up to the cancellation, whether or not its delay is over.
    if timer.cancelled then none
    else if timer.consumerTag.isSome ∧
        (s.consumerTags.lookup timer.dataType).map (·.tag) = timer.consumerTag then
      some (s, some .cancelConsumer)
    else some (s, none)
  | .sleep, .raised => none
  | .sleep, .cancelled => if timer.cancelled then some (s, none) else none
  | .cancelConsumer, .answered =>
    let s := if (s.consumerTags.lookup timer.dataType).map (·.tag) = timer.consumerTag then
      { s with consumerTags := s.consumerTags.erase timer.dataType } else s
    if checkAllConsumersIdle s then
      let r := startClose s
      some (r.1, TimerAwait.ofClose r.2)
    else some (s, none)
  | .cancelConsumer, .raised => some ({ s with consumerCancellationFailed := true }, none)
  | .closing call, .answered =>
    let r := resumeClose s call true
    some (r.1, TimerAwait.ofClose r.2)
  | .closing call, .raised =>
    let r := resumeClose s call false
    some (r.1, TimerAwait.ofClose r.2)
  | _, .cancelled =>
    if timer.cancelled then some ({ s with consumerCancellationFailed := true }, none) else none

/-- The timers once one of them has come to its next await, or to its end: the `finally` drops the
    reference to a task that is still the current one of its type. -/
def resumedTimer (s : State) (i : Nat) (timer : Timer) : Option TimerAwait → State
  | some awaiting => { s with timers := s.timers.set i { timer with awaiting } }
  | none => { s with
      timers := s.timers.eraseIdx i
      consumerCancelTasks :=
        if s.consumerCancelTasks.lookup timer.dataType = some timer.task then
          s.consumerCancelTasks.erase timer.dataType
        else s.consumerCancelTasks }

/-! ## Recovery -/

/-- What the checker reads off the clock and the counters. -/
structure Clock where
  /-- Some message has been handled. -/
  trafficSeen : Bool
  graceExpired : Bool
  /-- The types that have had a delivery. -/
  delivered : List DataType
  /-- `QUEUE_CHECK_INTERVAL` has passed since the last full check. -/
  checkDue : Bool

/-- `_consumer_alarm_types`. -/
def consumerAlarmTypes (clock : Clock) (s : State) : List DataType :=
  if !clock.trafficSeen && !clock.graceExpired then []
  else MUSICBRAINZ_DATA_TYPES.filter fun t =>
    decide (t ∉ s.completedFiles) && (decide (t ∉ s.consumerTags) ||
      (clock.graceExpired && decide (MUSICBRAINZ_DATA_TYPES.length - 1 ≤ s.completedFiles.card) &&
        decide (t ∉ clock.delivered)))

/-- The recovery's connection becomes the active one. -/
def activate (s : State) (temp : Channel) : State :=
  { s with activeConnection := some temp.connection, activeChannel := some temp }

/-- What a close after an exception leads to: a closed connection's queues are dropped. -/
def afterFailure : State × CloseNext → State × Option RecoveryAwait
  | (s, .suspended call) => (s, some (.closing call))
  | (s, .returned true) => ({ s with queues := ∅ }, none)
  | (s, .returned false) => (s, none)

/-- The `except` of `_recover_consumers`. -/
def recoveryFailed (s : State) (temp : Channel) : State × Option RecoveryAwait :=
  afterFailure (startClose (activate s temp))

/-- What the first close leads to. -/
def afterDrop : State × CloseNext → State × Option RecoveryAwait
  | (s, .suspended call) => (s, some (.dropping call))
  | (s, .returned true) => (s, some .connect)
  | (s, .returned false) => (s, none)

/-- `_recover_consumers` up to its first await. -/
def startRecovery (s : State) : State × Option RecoveryAwait :=
  if s.activeConnection.isSome || s.activeChannel.isSome || s.consumerCancellationFailed then
    afterDrop (startClose s)
  else (s, some .connect)

/-- The loop that starts a consumer for each type lacking one. -/
def consumeNext (s : State) (temp : Channel) (found : List (DataType × Nat)) :
    List DataType → Option RecoveryAwait
  | [] => none
  | t :: rest =>
    match s.queues.lookup t with
    | some on => if t ∈ s.consumerTags then consumeNext s temp found rest
      else some (.consume temp found on t rest)
    | none => consumeNext s temp found rest

/-- A declaration on the active channel; without one it raises. -/
def declareOnActive (s : State) (temp : Channel) (found : List (DataType × Nat))
    (declaration : Declaration) (t : DataType) (rest : List DataType) :
    State × Option RecoveryAwait :=
  match s.activeChannel with
  | some on => (s, some (.declare temp found declaration on t rest))
  | none => recoveryFailed s temp

/-- The loop that declares the queues. -/
def declareNext (s : State) (temp : Channel) (found : List (DataType × Nat)) :
    List DataType → State × Option RecoveryAwait
  | [] => (s, consumeNext s temp found MUSICBRAINZ_DATA_TYPES)
  | t :: rest => declareOnActive s temp found .exchange t rest

/-- The loop that looks for messages, and what follows it. -/
def passiveNext (s : State) (temp : Channel) (found : List (DataType × Nat)) :
    List DataType → State × Option RecoveryAwait
  | t :: rest => (s, some (.declarePassive temp found t rest))
  | [] =>
    if found = [] then (s, some (.closeTempChannel temp))
    else ({ activate s temp with connectionConsumerTags := ∅ }, some (.qos temp found))

/-- `_register_consumer`; a type with a backlog is no longer complete. -/
def registerConsumer (s : State) (found : List (DataType × Nat)) (t : DataType)
    (consumer : Consumer) : State :=
  { s with
    consumerTags := s.consumerTags.insert t consumer
    connectionConsumerTags := s.connectionConsumerTags.insert t consumer
    completedFiles := if t ∈ found.map (·.1) then s.completedFiles.erase t else s.completedFiles }

/-- What a broker call of the recovery answers. -/
inductive Reply where
  | raised
  | value (n : Nat)
  | tag (consumerTag : String)
deriving DecidableEq

/-- One declaration leads to the next. -/
def declared (s : State) (temp : Channel) (found : List (DataType × Nat))
    (declaration : Declaration) (on : Channel) (t : DataType) (rest : List DataType) :
    State × Option RecoveryAwait :=
  match declaration with
  | .exchange => declareOnActive s temp found .deadLetterExchange t rest
  | .deadLetterExchange => declareOnActive s temp found .deadLetterQueue t rest
  | .deadLetterQueue => (s, some (.declare temp found .bindDeadLetterQueue on t rest))
  | .bindDeadLetterQueue => declareOnActive s temp found .queue t rest
  | .queue => (s, some (.declare temp found .bindQueue on t rest))
  | .bindQueue => declareNext { s with queues := s.queues.insert t on } temp found rest

/-- `_recover_consumers` from one await to the next; an answer that is not the call's is refused. -/
def recoveryStep (s : State) : RecoveryAwait → Reply → Option (State × Option RecoveryAwait)
  | .dropping call, .raised => some (afterDrop (resumeClose s call false))
  | .dropping call, .value _ => some (afterDrop (resumeClose s call true))
  | .closing call, .raised => some (afterFailure (resumeClose s call false))
  | .closing call, .value _ => some (afterFailure (resumeClose s call true))
  | .connect, .raised => some (s, none)
  | .connect, .value k => some (s, some (.openChannel k))
  | .openChannel _, .raised => some (s, none)
  | .openChannel k, .value n => some (passiveNext s ⟨k, n⟩ [] MUSICBRAINZ_DATA_TYPES)
  | .declarePassive temp _ _ _, .raised => some (recoveryFailed s temp)
  | .declarePassive temp found t rest, .value n =>
    some (passiveNext s temp (if 0 < n then found ++ [(t, n)] else found) rest)
  | .qos temp _, .raised => some (recoveryFailed s temp)
  | .qos temp found, .value _ =>
    some (declareNext { s with queues := ∅ } temp found MUSICBRAINZ_DATA_TYPES)
  | .declare temp _ _ _ _ _, .raised => some (recoveryFailed s temp)
  | .declare temp found declaration on t rest, .value _ =>
    some (declared s temp found declaration on t rest)
  | .consume temp _ _ _ _, .raised => some (recoveryFailed s temp)
  | .consume temp found on t rest, .tag consumerTag =>
    let s := registerConsumer s found t ⟨consumerTag, on.connection⟩
    some (s, consumeNext s temp found rest)
  | .closeTempChannel temp, .raised => some (recoveryFailed s temp)
  | .closeTempChannel temp, .value _ => some (s, some (.closeTempConnection temp))
  | .closeTempConnection temp, .raised => some (recoveryFailed s temp)
  | .closeTempConnection _, .value _ => some (s, none)
  | _, _ => none

/-- One round of `periodic_queue_checker`. -/
def checkQueues (clock : Clock) (s : State) : State × Option RecoveryAwait :=
  if s.consumerCancellationFailed then startRecovery s
  else if consumerAlarmTypes clock s ≠ [] then startRecovery s
  else if !clock.checkDue then (s, none)
  else if s.activeConnection.isSome || decide (0 < s.consumerTags.count) then (s, none)
  else startRecovery s

/-! ## Steps -/

/-- A message, as far as the bookkeeping is concerned. -/
inductive Message where
  | record
  | fileComplete
  | extractionComplete
deriving DecidableEq

/-- `_handle_data_message` up to its first await. -/
def handleDataMessage (delay : Nat) (s : State) (t : DataType) : Message → State
  | .record => withdrawTimer { s with completedFiles := s.completedFiles.erase t } t
  | .fileComplete =>
    let s := armTimer delay s t
    { s with completedFiles := insert t s.completedFiles }
  | .extractionComplete =>
    let s := withdrawTimer s t
    { s with completedFiles := insert t s.completedFiles, reconciling := s.reconciling ++ [t] }

/-- The end of an `extraction_complete`: its timer, or its completion withdrawn. -/
def reconciled (delay : Nat) (s : State) (i : Nat) (t : DataType) (ok : Bool) : State :=
  let s := { s with reconciling := s.reconciling.eraseIdx i }
  if ok then armTimer delay s t else { s with completedFiles := s.completedFiles.erase t }

inductive Action where
  | deliver (t : DataType) (message : Message)
  /-- The `i`-th reconciliation under way comes back. -/
  | reconciled (i : Nat) (ok : Bool)
  | timer (i : Nat) (outcome : TimerOutcome)
  | check (clock : Clock)
  | recover (reply : Reply)

def step (delay : Nat) (s : State) : Action → Option State
  | .deliver t message => some (handleDataMessage delay s t message)
  | .reconciled i ok => s.reconciling[i]?.map fun t => reconciled delay s i t ok
  | .timer i outcome => s.timers[i]?.bind fun timer =>
    (timerStep s timer outcome).map fun r => resumedTimer r.1 i timer r.2
  | .check clock =>
    if s.recovery.isNone then
      let r := checkQueues clock s
      some { r.1 with recovery := r.2 }
    else none
  | .recover reply => s.recovery.bind fun awaiting =>
    (recoveryStep s awaiting reply).map fun r => { r.1 with recovery := r.2 }

/-! ## What closing leaves alone -/

/-- The timers, their entries and the completed types are as they were, and no consumer has been
    registered. -/
structure Closing (s s' : State) : Prop where
  timers : s'.timers = s.timers
  entries : s'.consumerCancelTasks = s.consumerCancelTasks
  nextTask : s'.nextTask = s.nextTask
  completedFiles : s'.completedFiles = s.completedFiles
  consumers : ∀ t consumer, s'.consumerTags.lookup t = some consumer →
    s.consumerTags.lookup t = some consumer

section Closing

variable {s s' s'' : State}

theorem Closing.refl (s : State) : Closing s s := ⟨rfl, rfl, rfl, rfl, fun _ _ h => h⟩

theorem Closing.trans (h : Closing s s') (h' : Closing s' s'') : Closing s s'' := by
  refine ⟨h'.timers.trans h.timers, h'.entries.trans h.entries, h'.nextTask.trans h.nextTask,
    h'.completedFiles.trans h.completedFiles, ?_⟩
  intro t consumer hlookup
  exact h.consumers t consumer (h'.consumers t consumer hlookup)

/-- Only the handles and the failure have changed. -/
theorem Closing.of_same (htimers : s'.timers = s.timers)
    (hentries : s'.consumerCancelTasks = s.consumerCancelTasks)
    (hnextTask : s'.nextTask = s.nextTask) (hcompleted : s'.completedFiles = s.completedFiles)
    (htags : s'.consumerTags = s.consumerTags) : Closing s s' := by
  refine ⟨htimers, hentries, hnextTask, hcompleted, ?_⟩
  intro t consumer hlookup
  rw [htags] at hlookup
  exact hlookup

theorem closing_eraseTag (s : State) (t : DataType) :
    Closing s { s with consumerTags := s.consumerTags.erase t } := by
  refine ⟨rfl, rfl, rfl, rfl, ?_⟩
  intro t' consumer hlookup
  by_cases ht : t' = t
  · subst ht
    rw [Finmap.lookup_erase] at hlookup
    cases hlookup
  · rw [Finmap.lookup_erase_ne ht] at hlookup
    exact hlookup

theorem closing_finishClose (s : State) (confirmed : Bool) :
    Closing s (finishClose s confirmed).1 := by
  unfold finishClose
  split
  · exact .of_same rfl rfl rfl rfl rfl
  · refine ⟨rfl, rfl, rfl, rfl, ?_⟩
    intro t consumer hlookup
    rw [Finmap.lookup_empty] at hlookup
    cases hlookup

theorem closing_closeConnection (s : State) (began : Option ConnectionId) (confirmed : Bool)
    (closed : List ConnectionId) : Closing s (closeConnection s began confirmed closed).1 := by
  unfold closeConnection
  split
  · exact .refl s
  · exact closing_finishClose s confirmed

theorem closing_startClose (s : State) : Closing s (startClose s).1 := by
  unfold startClose
  split
  · exact .refl s
  · exact closing_closeConnection s _ _ _

theorem closing_resumeClose (s : State) (call : CloseCall) (answered : Bool) :
    Closing s (resumeClose s call answered).1 := by
  have hclosed : Closing s { s with activeConnection := none, activeChannel := none } :=
    .of_same rfl rfl rfl rfl rfl
  have hchannel : Closing s { s with activeChannel := none } := .of_same rfl rfl rfl rfl rfl
  unfold resumeClose
  split
  · exact hchannel.trans (closing_closeConnection _ _ _ _)
  · exact closing_closeConnection s _ _ _
  · exact hclosed.trans (closing_finishClose _ _)
  · exact closing_finishClose s _

/-- A timer's own code leaves as much alone, until it ends. -/
theorem closing_timerStep {timer : Timer} {outcome : TimerOutcome} {r : State × Option TimerAwait}
    (h : timerStep s timer outcome = some r) : Closing s r.1 := by
  have hfailed : Closing s { s with consumerCancellationFailed := true } :=
    .of_same rfl rfl rfl rfl rfl
  unfold timerStep at h
  -- The sleep: answered, raised, cancelled.
  split at h
  · split at h
    · cases h
    · split at h <;> (cases h; exact .refl s)
  · cases h
  · split at h
    · cases h
      exact .refl s
    · cases h
  · -- The consumer is cancelled, and the last one closes the connection.
    have herase : Closing s (if (s.consumerTags.lookup timer.dataType).map (·.tag) = timer.consumerTag
        then { s with consumerTags := s.consumerTags.erase timer.dataType } else s) := by
      split
      · exact closing_eraseTag s _
      · exact .refl s
    dsimp only at h
    generalize (if (s.consumerTags.lookup timer.dataType).map (·.tag) = timer.consumerTag
      then { s with consumerTags := s.consumerTags.erase timer.dataType } else s) = s₁ at h herase
    split at h
    · cases h
      exact herase.trans (closing_startClose _)
    · cases h
      exact herase
  -- The consumer could not be cancelled, or nobody knows.
  · cases h
    exact hfailed
  -- The close, which comes back either way; or is cancelled.
  · cases h
    exact closing_resumeClose s _ _
  · cases h
    exact closing_resumeClose s _ _
  · split at h
    · cases h
      exact hfailed
    · cases h

end Closing

end Broker

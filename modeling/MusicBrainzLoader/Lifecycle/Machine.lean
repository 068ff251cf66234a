/-
  The service's life (`main`): the guard on what an earlier lifecycle has left, the pool and the schema's
  probes, the broker's connection and its consumers, and the teardown.

  * **Startup** — `main` up to its wait.  A start that gives up closes what it has opened
    (`_close_pool_and_health`); any other exception, and a cancellation, ends `main` where it stands.
  * **Teardown** — the `finally`: the consumers, the progress reporter, the queue checker and the timers
    are stopped in turn, then `_dispose_retained_delivery_lifecycle` closes the broker, drains the write
    admission and closes the pool.
  * **The process** — one `main` after another, with the broker's tasks running beside each.

  `main` runs from one await to the next, like the other tasks; an await is answered, raises, or is where
  `main` is cancelled.  The health server, telemetry and logging are left out: nothing here reads them.

  What is modelled of an await is what `main` does with each of its outcomes, and that is not the
  same everywhere: some awaits stand in a `try` whose handler retains and returns, some in the loop
  that tries again, some inside the connection's `async with`, and some in nothing.  So every await
  can be answered, raise or be cancelled (`Answer`), and the step says for each what is left standing
  when it comes there.

  The broker's tasks are those of `Broker.Machine`, unchanged: a step of the process is a step of
  `main`, one of theirs, or a signal.  What holds over runs is in `Lifecycle.Retained` (what is held
  and what is left) and `Lifecycle.Subscribed` (who is registered).
-/
import MusicBrainzLoader.Broker.GraceTimers
import MusicBrainzLoader.Broker.Subsiding

namespace Lifecycle

open Broker
open Purge (DataType ChildTable MUSICBRAINZ_DATA_TYPES RECONCILED_TABLES)

/-! ## What the process holds -/

abbrev PoolId := Nat

/-- A `StaleChildRowPurge`, by what it was built over. -/
structure ArmedPurge where
  pool : PoolId
  /-- The pool its write admission is the budget of. -/
  admission : PoolId
  /-- The type each child table's `updated_at` was found declared with. -/
  declared : ChildTable → Option String

-- The messages of `StartupError`.
def NOT_DRAINED : String := "previous delivery lifecycle has not drained"
def CONFIGURATION_ERROR : String := "configuration error"
def POOL_FAILED : String := "connection pool initialization failed"
def BROKER_UNREACHABLE : String := "AMQP broker unreachable"
def NO_CONNECTION : String := "no AMQP connection available"

/-- How a `main` has ended. -/
inductive Ending where
  | returned
  | startupError (message : String)
  /-- Any other exception. -/
  | raised
  | cancelled
deriving DecidableEq

/-- Where `_dispose_retained_delivery_lifecycle` is suspended. -/
inductive DisposeAwait where
  | closing (call : CloseCall)
  | draining
  | closingPool
deriving DecidableEq

/-- Where `main` is suspended. -/
inductive MainAwait where
  | startupDelay
  | initializePool
  | probeColumns
  | probeVeto (declared : ChildTable → Option String)
  | reportVetoes
  | connect (startupRetry : Nat)
  | retryDelay (startupRetry : Nat)
  /-- `_close_pool_and_health`, and then `main` ends. -/
  | closePoolAndHealth (why : Ending) (dispose : DisposeAwait)
  | enter (connection : ConnectionId)
  | openChannel (connection : ConnectionId)
  | qos (channel : Channel)
  | declare (channel : Channel) (declaration : Declaration) (t : DataType) (rest : List DataType)
  | consume (channel : Channel) (on : Channel) (t : DataType) (rest : List DataType)
  /-- The wait for the shutdown. -/
  | serving (channel : Channel)
  /-- `cancel_all_consumers`. -/
  | cancelConsumers (channel : Channel) (why : Ending)
  | stopProgress (channel : Channel) (why : Ending)
  | stopChecker (channel : Channel) (why : Ending)
  | gatherTimers (channel : Channel) (why : Ending) (pending : List Nat)
  | disposing (channel : Channel) (why : Ending) (dispose : DisposeAwait)
  /-- The end of `async with amqp_connection`. -/
  | exit (connection : ConnectionId) (why : Ending)

structure Process where
  service : GraceTimers.Service := { broker := {} }
  connectionPool : Option PoolId := none
  /-- The write admission, by the pool it is the budget of. -/
  writeAdmission : Option PoolId := none
  staleRowPurge : Option ArmedPurge := none
  refreshUpdatedAt : Bool := false
  lifecycleCleanupUncertain : Bool := false
  shutdownRequested : Bool := false
  /-- The task of `periodic_queue_checker` is there. -/
  checker : Bool := false
  /-- Where `main` is; none when it is not running. -/
  main : Option MainAwait := none
  /-- How the last `main` has ended. -/
  ended : Option Ending := none
  -- What the properties speak of and the service does not keep.
  openPools : List PoolId := []
  nextPool : PoolId := 0
  /-- A `KeyboardInterrupt` has ended the wait of this `main`. -/
  interrupted : Bool := false

/-- What an await of `main` comes to. -/
inductive Answer where
  | done
  /-- What a probe, the configuration or a drain has to say. -/
  | flag (ok : Bool)
  | columns (declared : ChildTable → Option String)
  /-- A connection's id, or a channel's number. -/
  | handle (n : Nat)
  /-- `connect` has returned None; or there is no pool, its constructor having raised. -/
  | nothing
  | tag (consumerTag : String)
  /-- The consumers that are left, in the order they were registered. -/
  | tags (items : List (DataType × String))
  | raised
  | cancelled

/-! ## Disposing -/

namespace Process

def withBroker (p : Process) (broker : State) : Process :=
  { p with service := { p.service with broker } }

def awaits (p : Process) (awaiting : MainAwait) : Process := { p with main := some awaiting }

def ends (p : Process) (why : Ending) : Process := { p with main := none, ended := some why }

/-- The pool's closure is confirmed. -/
def poolClosed (p : Process) : Process :=
  { p with openPools := p.openPools.filter (some · ≠ p.connectionPool) }

/-- The end of a disposal: nothing is held. -/
def release (p : Process) : Process := { p with
  connectionPool := none, writeAdmission := none, staleRowPurge := none
  lifecycleCleanupUncertain := false }

def retain (p : Process) : Process := { p with lifecycleCleanupUncertain := true }

end Process

/-- What a disposal leads to: its next await, its result, or an exception it lets through. -/
inductive DisposeNext where
  | suspended (awaiting : DisposeAwait)
  | returned (released : Bool)
  | left (why : Ending)

/-- Its last part, with the broker closed and the admission drained. -/
def closePool (p : Process) : Process × DisposeNext :=
  if p.connectionPool.isSome then (p, .suspended .closingPool) else (p.release, .returned true)

/-- What `close_rabbitmq_connection` leads to. -/
def afterClose (p : Process) : State × CloseNext → Process × DisposeNext
  | (broker, .suspended call) => (p.withBroker broker, .suspended (.closing call))
  | (broker, .returned true) =>
    if p.writeAdmission.isSome then (p.withBroker broker, .suspended .draining)
    else closePool (p.withBroker broker)
  | (broker, .returned false) => ((p.withBroker broker).retain, .returned false)

/-- `_dispose_retained_delivery_lifecycle` up to its first await. -/
def startDispose (p : Process) : Process × DisposeNext :=
  afterClose p (startClose p.service.broker)

/-- The disposal from one await to the next; an answer that is not the call's is refused. -/
def disposeStep (p : Process) : DisposeAwait → Answer → Option (Process × DisposeNext)
  | _, .cancelled => some (p, .left .cancelled)
  | .closing call, .done => some (afterClose p (resumeClose p.service.broker call true))
  | .closing call, .raised => some (afterClose p (resumeClose p.service.broker call false))
  | .draining, .flag true => some (closePool p)
  | .draining, .flag false => some (p.retain, .returned false)
  | .draining, .raised => some (p, .left .raised)
  | .closingPool, .done => some (p.poolClosed.release, .returned true)
  | .closingPool, .raised => some (p.retain, .returned false)
  | _, _ => none

/-- `main` while it closes what a failed start has opened. -/
def afterFailedStart (why : Ending) : Process × DisposeNext → Process
  | (p, .suspended awaiting) => p.awaits (.closePoolAndHealth why awaiting)
  | (p, .returned _) => p.ends why
  | (p, .left why') => p.ends why'

/-- `main` at the end of its `finally`. -/
def afterDisposal (channel : Channel) (why : Ending) : Process × DisposeNext → Process
  | (p, .suspended awaiting) => p.awaits (.disposing channel why awaiting)
  | (p, .returned _) => p.awaits (.exit channel.connection why)
  | (p, .left why') => p.awaits (.exit channel.connection why')

/-- `_close_pool_and_health`. -/
def closePoolAndHealth (p : Process) (why : Ending) : Process := afterFailedStart why (startDispose p)

/-! ## The schema's probes -/

/-- `RECONCILIATION_COLUMN_TYPE`. -/
def RECONCILIATION_COLUMN_TYPE : String := "timestamp with time zone"

/-- `reconciliation_columns_present`. -/
def reconciliationColumnsPresent (declared : ChildTable → Option String) : Bool :=
  let missing := RECONCILED_TABLES.filter fun table => decide ((declared table).getD "" = "")
  let wrongType := RECONCILED_TABLES.filter fun table =>
    decide ((declared table).getD "" ≠ "" ∧ declared table ≠ some RECONCILIATION_COLUMN_TYPE)
  if missing ≠ [] then false else decide (wrongType = [])

/-- The purge, built over the pool and its admission. -/
def armPurge (p : Process) (declared : ChildTable → Option String) : Option Process :=
  match p.connectionPool, p.writeAdmission with
  | some pool, some admission => some ({ p with
      refreshUpdatedAt := true
      staleRowPurge := some { pool, admission, declared } }.awaits .reportVetoes)
  | _, _ => none

/-! ## Startup -/

/-- `max_startup_retries`. -/
def MAX_STARTUP_RETRIES : Nat := 5

/-- What follows the connection loop when it has found none. -/
def notConnected (p : Process) : Process :=
  -- A signal while connecting is a requested stop, not a failed start.
  closePoolAndHealth p (if p.shutdownRequested then .returned else .startupError NO_CONNECTION)

/-- The connection loop. -/
def connectLoop (p : Process) (startupRetry : Nat) : Process :=
  if startupRetry < MAX_STARTUP_RETRIES ∧ p.shutdownRequested = false then
    p.awaits (.connect startupRetry)
  else notConnected p

/-- The guard: something of an earlier lifecycle is left. -/
def retained (p : Process) : Bool :=
  let b := p.service.broker
  p.lifecycleCleanupUncertain || p.connectionPool.isSome || b.activeConnection.isSome ||
    b.activeChannel.isSome || decide (b.consumerTags.count ≠ 0) ||
    decide (b.connectionConsumerTags.count ≠ 0) || b.consumerCancellationFailed

/-- `main` up to its first await. -/
def begin (p : Process) : Process :=
  if retained p then { p with interrupted := false }.ends (.startupError NOT_DRAINED)
  -- A budget without its pool cannot own live work.
  else { p with
    writeAdmission := none, staleRowPurge := none, ended := none
    interrupted := false }.awaits .startupDelay

/-- The next of the calls that set up one type's queue. -/
def nextDeclaration : Declaration → Option Declaration
  | .exchange => some .deadLetterExchange
  | .deadLetterExchange => some .deadLetterQueue
  | .deadLetterQueue => some .bindDeadLetterQueue
  | .bindDeadLetterQueue => some .queue
  | .queue => some .bindQueue
  | .bindQueue => none

/-! ## Teardown -/

/-- The disposal at the end of the `finally`. -/
def tearDown (p : Process) (channel : Channel) (why : Ending) : Process :=
  afterDisposal channel why (startDispose p)

/-- The timers that are left are cancelled, and waited for if there are any. -/
def cancelTimers (p : Process) (channel : Channel) (why : Ending) : Process :=
  let b := p.service.broker
  let pending : List Nat := (b.timers.filter (GraceTimers.isEntry b)).map Timer.task
  if pending = [] then
    tearDown (p.withBroker { b with consumerCancelTasks := ∅ }) channel why
  else (p.withBroker (GraceTimers.cancelPending b)).awaits (.gatherTimers channel why pending)

/-- The checker is cancelled where it stands: no handler of its own, or of the recovery, has any code
    for that. -/
def stopChecker (p : Process) (channel : Channel) (why : Ending) : Process :=
  { p.withBroker { p.service.broker with recovery := none } with checker := false }.awaits
    (.stopChecker channel why)

/-- The `finally`, up to its first await. -/
def stopServing (p : Process) (channel : Channel) (why : Ending) : Process :=
  let b := p.service.broker
  { p with service := {
      broker := GraceTimers.cancelPending b
      shutdown := some (.gathering ((b.timers.filter (GraceTimers.isEntry b)).map Timer.task)) } }.awaits
    (.cancelConsumers channel why)

/-- The loop that waits for a signal. -/
def serve (p : Process) (channel : Channel) : Process :=
  if p.shutdownRequested then stopServing p channel .returned else p.awaits (.serving channel)

/-- `cancel_all_consumers` has come to its next await, or to its end. -/
def cancelsOn (p : Process) (channel : Channel) (why : Ending) (service : GraceTimers.Service) : Process :=
  let p := { p with service }
  if service.shutdown.isSome then p.awaits (.cancelConsumers channel why)
  else p.awaits (.stopProgress channel why)

/-! ## The queues and the consumers -/

/-- The loop that registers the consumers; the last one starts the checker. -/
def consumeNext (p : Process) (channel : Channel) : List DataType → Process
  | [] => serve { p with checker := true } channel
  | t :: rest =>
    match p.service.broker.queues.lookup t with
    | some on => p.awaits (.consume channel on t rest)
    | none => p.awaits (.exit channel.connection .raised)

/-- The loop that declares the queues. -/
def declareNext (p : Process) (channel : Channel) : List DataType → Process
  | [] =>
    let p := p.withBroker { p.service.broker with connectionConsumerTags := ∅ }
    consumeNext p channel MUSICBRAINZ_DATA_TYPES
  | t :: rest => p.awaits (.declare channel .exchange t rest)

/-- One declaration leads to the next. -/
def declared (p : Process) (channel : Channel) (declaration : Declaration) (t : DataType)
    (rest : List DataType) : Process :=
  match nextDeclaration declaration with
  | some next => p.awaits (.declare channel next t rest)
  | none =>
    let b := p.service.broker
    declareNext (p.withBroker { b with queues := b.queues.insert t channel }) channel rest

/-! ## Steps -/

/-- `main` from one await to the next; an answer that is not the call's is refused. -/
def mainStep (delay : Nat) (p : Process) : MainAwait → Answer → Option Process
  | .startupDelay, .cancelled => some (p.ends .cancelled)
  -- The configuration is read at once after the delay.
  | .startupDelay, .flag false => some (p.ends (.startupError CONFIGURATION_ERROR))
  | .startupDelay, .flag true => some ({ p with
      connectionPool := some p.nextPool
      openPools := p.openPools ++ [p.nextPool]
      nextPool := p.nextPool + 1 }.awaits .initializePool)
  | .startupDelay, .nothing => some (closePoolAndHealth p (.startupError POOL_FAILED))
  -- The environment is read before the configuration is, and the host and port after it.
  | .startupDelay, .raised => some (p.ends .raised)
  | .initializePool, .done => some ({ p with writeAdmission := p.connectionPool }.awaits .probeColumns)
  | .initializePool, .raised => some (closePoolAndHealth p (.startupError POOL_FAILED))
  | .initializePool, .cancelled => some (p.ends .cancelled)
  | .probeColumns, .columns declared =>
    some (if reconciliationColumnsPresent declared then p.awaits (.probeVeto declared)
      else connectLoop p 0)
  | .probeColumns, .raised => some (connectLoop p 0)
  | .probeColumns, .cancelled => some (p.ends .cancelled)
  | .probeVeto declared, .flag true => armPurge p declared
  | .probeVeto _, .flag false => some (connectLoop p 0)
  | .probeVeto _, .raised => some (connectLoop p 0)
  | .probeVeto _, .cancelled => some (p.ends .cancelled)
  -- A failure to count is only logged.
  | .reportVetoes, .done => some (connectLoop p 0)
  | .reportVetoes, .raised => some (connectLoop p 0)
  | .reportVetoes, .cancelled => some (p.ends .cancelled)
  | .connect _, .handle k =>
    some ((p.withBroker { p.service.broker with activeConnection := some k }).awaits (.enter k))
  | .connect _, .nothing =>
    some (notConnected (p.withBroker { p.service.broker with activeConnection := none }))
  | .connect startupRetry, .raised =>
    some (if startupRetry + 1 < MAX_STARTUP_RETRIES then p.awaits (.retryDelay (startupRetry + 1))
      else closePoolAndHealth p (.startupError BROKER_UNREACHABLE))
  | .connect _, .cancelled => some (p.ends .cancelled)
  | .retryDelay startupRetry, .done => some (connectLoop p startupRetry)
  | .retryDelay _, .cancelled => some (p.ends .cancelled)
  | .closePoolAndHealth why awaiting, answer =>
    (disposeStep p awaiting answer).map (afterFailedStart why)
  | .enter k, .done => some (p.awaits (.openChannel k))
  | .enter _, .raised => some (p.ends .raised)
  | .enter _, .cancelled => some (p.ends .cancelled)
  | .openChannel k, .handle n =>
    some ((p.withBroker { p.service.broker with activeChannel := some ⟨k, n⟩ }).awaits (.qos ⟨k, n⟩))
  | .openChannel k, .raised => some (p.awaits (.exit k .raised))
  | .openChannel k, .cancelled => some (p.awaits (.exit k .cancelled))
  | .qos channel, .done =>
    some (declareNext (p.withBroker { p.service.broker with queues := ∅ }) channel
      MUSICBRAINZ_DATA_TYPES)
  | .qos channel, .raised => some (p.awaits (.exit channel.connection .raised))
  | .qos channel, .cancelled => some (p.awaits (.exit channel.connection .cancelled))
  | .declare channel declaration t rest, .done => some (declared p channel declaration t rest)
  | .declare channel _ _ _, .raised => some (p.awaits (.exit channel.connection .raised))
  | .declare channel _ _ _, .cancelled => some (p.awaits (.exit channel.connection .cancelled))
  | .consume channel on t rest, .tag consumerTag =>
    some (consumeNext
      (p.withBroker (registerConsumer p.service.broker [] t ⟨consumerTag, on.connection⟩)) channel rest)
  | .consume channel _ _ _, .raised => some (p.awaits (.exit channel.connection .raised))
  | .consume channel _ _ _, .cancelled => some (p.awaits (.exit channel.connection .cancelled))
  | .serving channel, .done => some (serve p channel)
  -- A KeyboardInterrupt is a requested stop.
  | .serving channel, .raised => some (stopServing { p with interrupted := true } channel .returned)
  | .serving channel, .cancelled => some (stopServing p channel .cancelled)
  | .cancelConsumers channel why, .tags items =>
    (GraceTimers.eventStep delay p.service (.gathered items)).map (cancelsOn p channel why)
  | .cancelConsumers channel why, .done =>
    (GraceTimers.eventStep delay p.service (.shutdownCancel true)).map (cancelsOn p channel why)
  | .cancelConsumers channel why, .raised =>
    (GraceTimers.eventStep delay p.service (.shutdownCancel false)).map (cancelsOn p channel why)
  | .cancelConsumers channel _, .cancelled =>
    some ({ p with service := { p.service with shutdown := none } }.awaits
      (.exit channel.connection .cancelled))
  -- A cancellation is suppressed here, the reporter's own or `main`'s.
  | .stopProgress channel why, .done => some (stopChecker p channel why)
  | .stopProgress channel why, .cancelled => some (stopChecker p channel why)
  | .stopProgress channel _, .raised => some (p.awaits (.exit channel.connection .raised))
  | .stopChecker channel why, .done => some (cancelTimers p channel why)
  | .stopChecker channel why, .cancelled => some (cancelTimers p channel why)
  | .gatherTimers channel why pending, .done =>
    if ∀ timer ∈ p.service.broker.timers, timer.task ∉ pending then
      some (tearDown (p.withBroker { p.service.broker with consumerCancelTasks := ∅ }) channel why)
    else none
  | .gatherTimers channel _ _, .cancelled => some (p.awaits (.exit channel.connection .cancelled))
  | .disposing channel why awaiting, answer =>
    (disposeStep p awaiting answer).map (afterDisposal channel why)
  | .exit _ why, .done => some (p.ends why)
  | .exit _ _, .raised => some (p.ends .raised)
  | .exit _ _, .cancelled => some (p.ends .cancelled)
  | _, _ => none

inductive Event where
  /-- `main` is called. -/
  | begin
  | answer (a : Answer)
  /-- A delivery, a timer, or the checker's recovery. -/
  | broker (action : Action)
  /-- A signal. -/
  | signal

/-- One `main` runs at a time. -/
def processStep (delay : Nat) (p : Process) : Event → Option Process
  | .begin => if p.main.isNone then some (begin p) else none
  | .answer a => p.main.bind fun awaiting => mainStep delay p awaiting a
  | .broker action =>
    if isChecker action && !p.checker then none
    else (step delay p.service.broker action).map p.withBroker
  | .signal => some { p with shutdownRequested := true }

end Lifecycle

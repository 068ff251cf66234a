/-
  What a lifecycle holds, and what it leaves to the next one.

  The pool, its write admission, the purge over both and the broker's handles are globals, so nothing but
  the order of `main`'s awaits keeps them together: an exception or a cancellation can end `main` at any
  of them, with the deliveries, the timers and the checker running beside it.

  That they are kept together is not a fact about any one of the globals.  A consumer without a pool, say,
  is excluded only because consumers come after the pool and the pool goes after the consumers, and the
  second holds only because nothing registers one while the disposal waits: the checker was stopped
  before, and with it the recovery.  So the invariant has to know where `main` is.

  * **`Kept`** — the invariant, with what is known at each await of `main` (`MainAwait.Holds`): from the
    moment the admission is there until the pool is closed the process is equipped, and it is still
    (no checker, no recovery) before the checker starts and after it is stopped.  An equipped process may
    come to any state of the broker; in one that is not, the broker's tasks only let go (`Subsides`).
  * **The results** — the process holds one pool at most, and every other resource belongs to it; a `main`
    that is asked to stop, or gives up, leaves nothing that is not marked; and the guard of the next one
    lets it pass exactly when nothing is left.

  The order is that of the code: the disposal (`Disposes`), which a failed start and the teardown share,
  then `main` from its startup to its teardown, one lemma for each stretch between two awaits, and then
  the other tasks, which step at any of `main`'s awaits (`Beside`).
-/
import MusicBrainzLoader.Lifecycle.Machine

namespace Lifecycle

open Broker
open Purge (DataType ChildTable MUSICBRAINZ_DATA_TYPES RECONCILED_TABLES)
open Runs

/-! ## What is to be shown -/

/-- The await is the pool's closure. -/
def MainAwait.closesPool : MainAwait → Bool
  | .closePoolAndHealth _ .closingPool => true
  | .disposing _ _ .closingPool => true
  | _ => false

/-- What the process holds is one pool's. -/
structure OnePool (p : Process) : Prop where
  pools : p.openPools = p.connectionPool.toList
  admission : ∀ pool, p.writeAdmission = some pool → p.connectionPool = some pool
  /-- Whatever the broker may still deliver to has a pool and its admission. -/
  equipped : ¬ Quiet p.service.broker ∨ p.service.broker.recovery ≠ none →
    ∃ pool, p.connectionPool = some pool ∧ p.writeAdmission = some pool
  /-- A purge is armed over them, in a schema that carries its column, with the refresh on. -/
  purge : ∀ purge, p.staleRowPurge = some purge → p.connectionPool = some purge.pool ∧
    p.writeAdmission = some purge.admission ∧ p.refreshUpdatedAt = true ∧
    ∀ table ∈ RECONCILED_TABLES, purge.declared table = some RECONCILIATION_COLUMN_TYPE
  /-- The pool is closed under nobody. -/
  closing : ∀ awaiting, p.main = some awaiting → awaiting.closesPool = true →
    Quiet p.service.broker ∧ p.service.broker.recovery = none ∧ p.checker = false

/-- Nothing of the lifecycle is left. -/
structure NothingLeft (p : Process) : Prop where
  pool : p.connectionPool = none
  openPools : p.openPools = []
  admission : p.writeAdmission = none
  purge : p.staleRowPurge = none
  broker : Quiet p.service.broker
  recovery : p.service.broker.recovery = none
  checker : p.checker = false

/-! ## The invariant -/

/-- The pool is there, with its write admission. -/
def Equipped (p : Process) : Prop :=
  ∃ pool, p.connectionPool = some pool ∧ p.writeAdmission = some pool

/-- There is no checker, and no recovery. -/
def Still (p : Process) : Prop := p.checker = false ∧ p.service.broker.recovery = none

/-- A stop has been asked for. -/
def Asked (p : Process) : Prop := p.shutdownRequested = true ∨ p.interrupted = true

/-- What is retained is marked. -/
def Settled (p : Process) : Prop := p.connectionPool = none ∨ p.lifecycleCleanupUncertain = true

/-- What is known of an ending. -/
def Ending.Holds (p : Process) : Ending → Prop
  | .returned => Asked p ∧ Settled p
  | .startupError message => message = NOT_DRAINED ∨ Settled p
  | _ => True

/-- A disposal under way: the pool is there, and nothing can open a connection any more. -/
def DisposeAwait.Holds (p : Process) (awaiting : DisposeAwait) : Prop :=
  p.connectionPool.isSome = true ∧ Still p ∧
    match awaiting with
    | .closing call => Sound p.service.broker call
    | .draining => Quiet p.service.broker
    | .closingPool => Quiet p.service.broker

/-- What is known at each await of `main`. -/
def MainAwait.Holds (p : Process) : MainAwait → Prop
  | .startupDelay => p.connectionPool = none
  | .initializePool => p.connectionPool.isSome = true ∧ p.writeAdmission = none
  | .probeVeto declared => Equipped p ∧ Still p ∧ reconciliationColumnsPresent declared = true
  | .probeColumns | .reportVetoes | .connect _ | .retryDelay _ | .enter _ | .openChannel _ | .qos _
  | .declare _ _ _ _ | .consume _ _ _ _ => Equipped p ∧ Still p
  | .closePoolAndHealth why awaiting => awaiting.Holds p ∧ (why = .returned → Asked p)
  | .serving _ => Equipped p
  | .cancelConsumers _ why | .stopProgress _ why => Equipped p ∧ (why = .returned → Asked p)
  | .stopChecker _ why | .gatherTimers _ why _ =>
    Equipped p ∧ Still p ∧ (why = .returned → Asked p)
  | .disposing _ why awaiting => awaiting.Holds p ∧ (why = .returned → Asked p)
  | .exit _ why => why.Holds p

/-- What holds wherever `main` is. -/
structure Holding (p : Process) : Prop where
  pools : p.openPools = p.connectionPool.toList
  admission : ∀ pool, p.writeAdmission = some pool → p.connectionPool = some pool
  uncertain : p.lifecycleCleanupUncertain = true → p.connectionPool.isSome = true
  purge : ∀ purge, p.staleRowPurge = some purge → p.connectionPool = some purge.pool ∧
    p.writeAdmission = some purge.admission ∧ p.refreshUpdatedAt = true ∧
    reconciliationColumnsPresent purge.declared = true
  idle : p.writeAdmission = none → Quiet p.service.broker ∧ Still p

structure Kept (p : Process) : Prop where
  holding : Holding p
  main : ∀ awaiting, p.main = some awaiting → awaiting.Holds p
  ended : p.main = none → ∀ why, p.ended = some why → why.Holds p

section Invariant

variable {p p' : Process}

/-- An equipped process may come to any state of the broker; another one to what its tasks leave. -/
theorem Holding.withService (hp : Holding p) (service : GraceTimers.Service)
    (h : Equipped p ∨ Subsides p.service.broker service.broker) : Holding { p with service } := by
  refine ⟨hp.pools, hp.admission, hp.uncertain, hp.purge, fun hnone => ?_⟩
  rcases h with ⟨pool, -, hadmission⟩ | hsubsides
  · cases hnone.symm.trans hadmission
  · obtain ⟨hquiet, hchecker, hrecovery⟩ := hp.idle hnone
    exact ⟨hsubsides.quiet hquiet, hchecker, hsubsides.recovery.trans hrecovery⟩

theorem Holding.withBroker (hp : Holding p) (broker : State)
    (h : Equipped p ∨ Subsides p.service.broker broker) : Holding (p.withBroker broker) :=
  hp.withService _ h

/-- Without a pool nothing else of a lifecycle is there. -/
theorem Holding.nothingLeft (hp : Holding p) (hpool : p.connectionPool = none) : NothingLeft p := by
  have hadmission : p.writeAdmission = none := by
    cases hadmission : p.writeAdmission with
    | none => rfl
    | some pool => cases hpool.symm.trans (hp.admission pool hadmission)
  have hpurge : p.staleRowPurge = none := by
    cases hpurge : p.staleRowPurge with
    | none => rfl
    | some purge => cases hadmission.symm.trans (hp.purge purge hpurge).2.1
  have hpools : p.openPools = [] := by
    rw [hp.pools, hpool]
    rfl
  obtain ⟨hquiet, hchecker, hrecovery⟩ := hp.idle hadmission
  exact ⟨hpool, hpools, hadmission, hpurge, hquiet, hrecovery, hchecker⟩

/-- `main` comes to an await whose knowledge holds. -/
theorem kept_awaits (hp : Holding p) {awaiting : MainAwait} (h : awaiting.Holds p) :
    Kept (p.awaits awaiting) := by
  refine ⟨⟨hp.pools, hp.admission, hp.uncertain, hp.purge, hp.idle⟩, ?_, nofun⟩
  intro awaiting' heq
  obtain rfl := Option.some.inj heq
  cases awaiting <;> exact h

/-- It ends, in a way that says what it leaves. -/
theorem kept_ends (hp : Holding p) {why : Ending} (h : why.Holds p) : Kept (p.ends why) := by
  refine ⟨⟨hp.pools, hp.admission, hp.uncertain, hp.purge, hp.idle⟩, nofun, ?_⟩
  intro _ why' heq
  obtain rfl := Option.some.inj heq
  cases why <;> exact h

end Invariant

/-! ## Disposing

  `_dispose_retained_delivery_lifecycle` closes the broker, drains the admission and closes the pool,
  and gives up at the first of the three that is not confirmed. What it leaves then is marked; what it
  leaves at its end is nothing. -/

/-- What a stretch of a disposal guarantees, from `p` to where it comes. -/
structure Disposes (p : Process) (r : Process × DisposeNext) : Prop where
  holding : Holding r.1
  asked : Asked p → Asked r.1
  suspended : ∀ awaiting, r.2 = .suspended awaiting → awaiting.Holds r.1
  returned : ∀ released, r.2 = .returned released → Settled r.1
  left : ∀ why, r.2 = .left why → why = .raised ∨ why = .cancelled

section Dispose

variable {p : Process}

/-- A stretch that begins where a stop has been asked for as much. -/
theorem Disposes.of_asked {q : Process} {r : Process × DisposeNext} (h : Disposes q r)
    (hasked : Asked p → Asked q) : Disposes p r :=
  ⟨h.holding, fun hp => h.asked (hasked hp), h.suspended, h.returned, h.left⟩

/-- The disposal comes to its next await. -/
theorem Disposes.waits (hp : Holding p) {awaiting : DisposeAwait} (h : awaiting.Holds p) :
    Disposes p (p, .suspended awaiting) := by
  refine ⟨hp, id, ?_, nofun, nofun⟩
  intro awaiting' heq
  obtain rfl := DisposeNext.suspended.inj heq
  exact h

/-- An exception or a cancellation leaves the process as it is. -/
theorem Disposes.leaves (hp : Holding p) {why : Ending} (hwhy : why = .raised ∨ why = .cancelled) :
    Disposes p (p, .left why) := by
  refine ⟨hp, id, nofun, nofun, ?_⟩
  intro why' heq
  obtain rfl := DisposeNext.left.inj heq
  exact hwhy

/-- A close or a drain that is not confirmed retains what there is. -/
theorem disposes_retain (hp : Holding p) (hpool : p.connectionPool.isSome = true) :
    Disposes p (p.retain, .returned false) :=
  ⟨⟨hp.pools, hp.admission, fun _ => hpool, hp.purge, hp.idle⟩, id, nofun,
    fun _ _ => .inr rfl, nofun⟩

/-- With the broker quiet and the pool closed, nothing is left. -/
theorem disposes_release (hquiet : Quiet p.service.broker) (hstill : Still p)
    (hpools : p.openPools = []) : Disposes p (p.release, .returned true) := by
  refine ⟨⟨hpools, nofun, nofun, nofun,
    fun _ => ⟨hquiet, hstill⟩⟩, id, nofun, fun _ _ => .inl rfl,
    nofun⟩

/-- With a pool it waits for the closure, and without one nothing is left. -/
theorem disposes_closePool (hp : Holding p) (hquiet : Quiet p.service.broker) (hstill : Still p) :
    Disposes p (closePool p) := by
  unfold closePool
  split
  next hpool =>
    have hholds : DisposeAwait.Holds p .closingPool := ⟨hpool, hstill, hquiet⟩
    exact .waits hp hholds
  next hpool =>
    have hnone : p.connectionPool = none := Option.not_isSome_iff_eq_none.mp hpool
    apply disposes_release hquiet hstill
    rw [hp.pools, hnone]
    rfl

/-- The broker's close leads to the drain, if to anything. -/
theorem disposes_afterClose (hp : Holding p) (hstill : Still p) {r : State × CloseNext}
    (hpool : p.connectionPool.isSome = true ∨ r.2 = .returned true)
    (hsubsides : Subsides p.service.broker r.1) (hfinishes : Finishes r) :
    Disposes p (afterClose p r) := by
  obtain ⟨broker, next⟩ := r
  have hp' : Holding (p.withBroker broker) := hp.withBroker broker (.inr hsubsides)
  have hstill' : Still (p.withBroker broker) := ⟨hstill.1, hsubsides.recovery.trans hstill.2⟩
  cases next with
  | suspended call =>
    have hpool : p.connectionPool.isSome = true := hpool.resolve_right nofun
    have hholds : DisposeAwait.Holds (p.withBroker broker) (.closing call) :=
      ⟨hpool, hstill', hfinishes.sound call rfl⟩
    exact (Disposes.waits hp' hholds).of_asked id
  | returned confirmed =>
    cases confirmed with
    | true =>
      have hquiet := hfinishes.quiet rfl
      show Disposes p (if _ then _ else _)
      split
      next hadmission =>
        -- An admission has its pool.
        obtain ⟨pool, hpool⟩ := Option.isSome_iff_exists.mp hadmission
        have hpool : p.connectionPool.isSome = true := by rw [hp.admission pool hpool]; rfl
        have hholds : DisposeAwait.Holds (p.withBroker broker) .draining := ⟨hpool, hstill', hquiet⟩
        exact (Disposes.waits hp' hholds).of_asked id
      next => exact (disposes_closePool hp' hquiet hstill').of_asked id
    | false =>
      have hpool : p.connectionPool.isSome = true := hpool.resolve_right nofun
      exact (disposes_retain hp' hpool).of_asked id

/-- A disposal begins with the broker's close. -/
theorem disposes_startDispose (hp : Holding p) (hstill : Still p)
    (hpool : p.connectionPool.isSome = true ∨ Quiet p.service.broker) :
    Disposes p (startDispose p) :=
  disposes_afterClose hp hstill
    (hpool.imp_right fun hquiet => startClose_disconnected hquiet.toDisconnected)
    (subsides_startClose _) (finishes_startClose _)

/-- **Each await of a disposal**: it goes on, it retains what it could not confirm, or it releases
    everything. -/
theorem disposes_disposeStep {awaiting : DisposeAwait} {answer : Answer} {r : Process × DisposeNext}
    (hp : Holding p) (hholds : awaiting.Holds p) (h : disposeStep p awaiting answer = some r) :
    Disposes p r := by
  -- The pool it disposes of is held, and nothing of the broker but what this await closes.
  obtain ⟨hpool, hstill, hawaiting⟩ := hholds
  unfold disposeStep at h
  -- Cancelled at any await: whatever is left is held as it was.
  split at h
  · cases h
    exact .leaves hp (.inr rfl)
  -- The close of the broker's connection comes back, confirmed or not.
  · cases h
    exact disposes_afterClose hp hstill (.inl hpool) (subsides_resumeClose _ _ _)
      (finishes_resumeClose hawaiting _)
  · cases h
    exact disposes_afterClose hp hstill (.inl hpool) (subsides_resumeClose _ _ _)
      (finishes_resumeClose hawaiting _)
  -- The drain of the admission: drained, not drained, or an exception on its way out.
  · cases h
    exact disposes_closePool hp hawaiting hstill
  · cases h
    exact disposes_retain hp hpool
  · cases h
    exact .leaves hp (.inl rfl)
  -- The pool is closed: it was the one pool there is. Or its close has raised, and it is retained.
  · cases h
    have hnone : p.openPools.filter (some · ≠ p.connectionPool) = [] := by
      obtain ⟨pool, hsome⟩ := Option.isSome_iff_exists.mp hpool
      rw [hp.pools, hsome]
      simp
    have hreleases : Disposes p.poolClosed (p.poolClosed.release, .returned true) :=
      disposes_release hawaiting hstill hnone
    exact hreleases.of_asked id
  · cases h
    exact disposes_retain hp hpool
  · cases h

/-- Whatever the reason, what is left is marked. -/
theorem Ending.Holds.of_settled {why : Ending} (hasked : why = .returned → Asked p)
    (hsettled : Settled p) : why.Holds p := by
  cases why with
  | returned => exact ⟨hasked rfl, hsettled⟩
  | startupError message => exact .inr hsettled
  | raised => trivial
  | cancelled => trivial

/-- An exception or a cancellation says nothing of what is left. -/
theorem Ending.Holds.of_left {why : Ending} (hwhy : why = .raised ∨ why = .cancelled) :
    why.Holds p := by
  rcases hwhy with rfl | rfl <;> trivial

/-- `main` closes what a failed start has opened. -/
theorem kept_afterFailedStart {r : Process × DisposeNext} {why : Ending} (h : Disposes p r)
    (hasked : why = .returned → Asked p) : Kept (afterFailedStart why r) := by
  obtain ⟨p', next⟩ := r
  cases next with
  | suspended awaiting =>
    exact kept_awaits h.holding ⟨h.suspended awaiting rfl, fun hwhy => h.asked (hasked hwhy)⟩
  | returned released =>
    exact kept_ends h.holding
      (.of_settled (fun hwhy => h.asked (hasked hwhy)) (h.returned released rfl))
  | left why' => exact kept_ends h.holding (.of_left (h.left why' rfl))

/-- The `finally` is over, and the connection's `async with` ends. -/
theorem kept_afterDisposal {r : Process × DisposeNext} {channel : Channel} {why : Ending}
    (h : Disposes p r) (hasked : why = .returned → Asked p) :
    Kept (afterDisposal channel why r) := by
  obtain ⟨p', next⟩ := r
  cases next with
  | suspended awaiting =>
    exact kept_awaits h.holding ⟨h.suspended awaiting rfl, fun hwhy => h.asked (hasked hwhy)⟩
  | returned released =>
    have hholds : why.Holds p' :=
      .of_settled (fun hwhy => h.asked (hasked hwhy)) (h.returned released rfl)
    exact kept_awaits h.holding hholds
  | left why' =>
    have hholds : why'.Holds p' := .of_left (h.left why' rfl)
    exact kept_awaits h.holding hholds

end Dispose

/-! ## `main`

  Each lemma is about one stretch of `main`'s code, from what is known at one await to what is known at
  the next. -/

section Main

variable {delay : Nat} {p p' : Process} {answer : Answer}

/-- An equipped process has its pool. -/
theorem Equipped.pool (h : Equipped p) : p.connectionPool.isSome = true := by
  obtain ⟨pool, hpool, -⟩ := h
  rw [hpool]
  rfl

/-- A start that gives up disposes of what it has opened. -/
theorem kept_closePoolAndHealth (hp : Holding p) (hstill : Still p) {why : Ending}
    (hpool : p.connectionPool.isSome = true ∨ Quiet p.service.broker)
    (hasked : why = .returned → Asked p) : Kept (closePoolAndHealth p why) :=
  kept_afterFailedStart (disposes_startDispose hp hstill hpool) hasked

/-- Without a connection: a signal makes it a requested stop. -/
theorem kept_notConnected (hp : Holding p) (hequipped : Equipped p) (hstill : Still p) :
    Kept (notConnected p) := by
  apply kept_closePoolAndHealth hp hstill (.inl hequipped.pool)
  intro hwhy
  split at hwhy
  next hrequested => exact .inl hrequested
  next => cases hwhy

/-- Another try, or none. -/
theorem kept_connectLoop (hp : Holding p) (hequipped : Equipped p) (hstill : Still p)
    (startupRetry : Nat) : Kept (connectLoop p startupRetry) := by
  unfold connectLoop
  split
  · exact kept_awaits hp ⟨hequipped, hstill⟩
  · exact kept_notConnected hp hequipped hstill

/-- The guard lets a process pass exactly when no pool is left, and no cancellation has failed. -/
theorem retained_eq_false_iff (hp : Holding p) :
    retained p = false ↔
      p.connectionPool = none ∧ p.service.broker.consumerCancellationFailed = false := by
  simp only [retained, Bool.or_eq_false_iff, Option.isSome_eq_false_iff, Option.isNone_iff_eq_none,
    decide_eq_false_iff_not, not_not, Table.count_eq_zero]
  constructor
  · rintro ⟨⟨⟨⟨⟨⟨-, hpool⟩, -⟩, -⟩, -⟩, -⟩, hfailed⟩
    exact ⟨hpool, hfailed⟩
  · rintro ⟨hpool, hfailed⟩
    -- The other conditions come down to the pool.
    have hquiet := (hp.nothingLeft hpool).broker
    have huncertain : p.lifecycleCleanupUncertain = false := by
      rw [← Bool.not_eq_true]
      intro huncertain
      have hsome := hp.uncertain huncertain
      rw [hpool] at hsome
      cases hsome
    exact ⟨⟨⟨⟨⟨⟨huncertain, hpool⟩, hquiet.connection⟩, hquiet.channel⟩, hquiet.tags⟩,
      hquiet.connectionTags⟩, hfailed⟩

/-- The guard refuses, or finds nothing left to begin with. -/
theorem kept_begin (hp : Holding p) : Kept (begin p) := by
  unfold begin
  split
  next =>
    have hp' : Holding { p with interrupted := false } :=
      ⟨hp.pools, hp.admission, hp.uncertain, hp.purge, hp.idle⟩
    exact kept_ends hp' (.inl rfl)
  next hguard =>
    obtain ⟨hpool, -⟩ := (retained_eq_false_iff hp).mp (Bool.not_eq_true _ ▸ hguard)
    have hadmission := (hp.nothingLeft hpool).admission
    have hp' : Holding { p with
        writeAdmission := none, staleRowPurge := none, ended := none, interrupted := false } :=
      ⟨hp.pools, nofun, hp.uncertain, nofun, fun _ => hp.idle hadmission⟩
    exact kept_awaits hp' hpool

/-! ### Startup -/

/-- The probe has found the column on every table, and the purge is built over the pool that is held. -/
theorem kept_armPurge {declared : ChildTable → Option String} (hp : Holding p)
    (hequipped : Equipped p) (hstill : Still p)
    (hpresent : reconciliationColumnsPresent declared = true) (h : armPurge p declared = some p') :
    Kept p' := by
  unfold armPurge at h
  split at h
  next pool admission hpool hadmission =>
    obtain rfl := Option.some.inj h
    have hp' : Holding { p with
        refreshUpdatedAt := true
        staleRowPurge := some { pool, admission, declared } } := by
      refine ⟨hp.pools, hp.admission, hp.uncertain, ?_, hp.idle⟩
      intro purge heq
      obtain rfl := Option.some.inj heq
      exact ⟨hpool, hadmission, rfl, hpresent⟩
    exact kept_awaits hp' ⟨hequipped, hstill⟩
  next => cases h

/-- From the probes to the connection the process is equipped and still. -/
theorem kept_startup {awaiting : MainAwait} (hp : Holding p)
    (hholds : Equipped p ∧ Still p)
    (hstartup : awaiting = .probeColumns ∨ awaiting = .reportVetoes ∨
      ∃ startupRetry, awaiting = .connect startupRetry ∨ awaiting = .retryDelay startupRetry)
    (h : mainStep delay p awaiting answer = some p') : Kept p' := by
  obtain ⟨hequipped, hstill⟩ := hholds
  -- Each of these awaits leads into the connect loop, or ends `main` where it stands.
  have hloop := kept_connectLoop hp hequipped hstill
  have hcancelled : Kept (p.ends .cancelled) := kept_ends hp trivial
  obtain rfl | rfl | ⟨startupRetry, rfl | rfl⟩ := hstartup
  -- The schema probe: a failing one leaves the purge unarmed and the start going on.
  · cases answer with
    | columns declared =>
      obtain rfl := Option.some.inj h
      split
      next hpresent => exact kept_awaits hp ⟨hequipped, hstill, hpresent⟩
      next => exact hloop 0
    | raised => exact Option.some.inj h ▸ hloop 0
    | cancelled => exact Option.some.inj h ▸ hcancelled
    | _ => cases h
  -- The report of the vetoes, whose failure is only logged.
  · cases answer with
    | done => exact Option.some.inj h ▸ hloop 0
    | raised => exact Option.some.inj h ▸ hloop 0
    | cancelled => exact Option.some.inj h ▸ hcancelled
    | _ => cases h
  -- A try to connect: a connection, None, or an exception, of which the fifth ends the start.
  · cases answer with
    | handle k =>
      obtain rfl := Option.some.inj h
      exact kept_awaits (hp.withBroker _ (.inl hequipped)) ⟨hequipped, hstill⟩
    | nothing =>
      obtain rfl := Option.some.inj h
      have hp' := hp.withBroker { p.service.broker with activeConnection := none } (.inl hequipped)
      exact kept_notConnected hp' hequipped hstill
    | raised =>
      obtain rfl := Option.some.inj h
      split
      next => exact kept_awaits hp ⟨hequipped, hstill⟩
      next => exact kept_closePoolAndHealth hp hstill (.inl hequipped.pool) nofun
    | cancelled => exact Option.some.inj h ▸ hcancelled
    | _ => cases h
  -- The pause between two tries.
  · cases answer with
    | done => exact Option.some.inj h ▸ hloop startupRetry
    | cancelled => exact Option.some.inj h ▸ hcancelled
    | _ => cases h

/-! ### Queues and consumers -/

/-- The end of `async with`, with an exception or a cancellation. -/
theorem kept_exit (hp : Holding p) (k : ConnectionId) {why : Ending}
    (hwhy : why = .raised ∨ why = .cancelled) : Kept (p.awaits (.exit k why)) := by
  have hholds : why.Holds p := .of_left hwhy
  exact kept_awaits hp hholds

/-- The teardown begins, as it was asked to or cancelled. -/
theorem kept_stopServing (hp : Holding p) (hequipped : Equipped p) (channel : Channel) {why : Ending}
    (hasked : why = .returned → Asked p) : Kept (stopServing p channel why) :=
  kept_awaits (hp.withService _ (.inl hequipped)) ⟨hequipped, hasked⟩

/-- `main` waits for a signal, or has one. -/
theorem kept_serve (hp : Holding p) (hequipped : Equipped p) (channel : Channel) :
    Kept (serve p channel) := by
  unfold serve
  split
  next hrequested => exact kept_stopServing hp hequipped channel fun _ => .inl hrequested
  next => exact kept_awaits hp hequipped

/-- The consumers are registered in turn; the checker starts after the last. -/
theorem kept_consumeNext (hp : Holding p) (hequipped : Equipped p) (hstill : Still p)
    (channel : Channel) (types : List DataType) : Kept (consumeNext p channel types) := by
  cases types with
  | nil =>
    have hp' : Holding { p with checker := true } := by
      refine ⟨hp.pools, hp.admission, hp.uncertain, hp.purge, fun hnone => ?_⟩
      obtain ⟨pool, -, hadmission⟩ := hequipped
      cases hnone.symm.trans hadmission
    exact kept_serve hp' hequipped channel
  | cons t rest =>
    rw [consumeNext]
    cases p.service.broker.queues.lookup t with
    | some on => exact kept_awaits hp ⟨hequipped, hstill⟩
    | none => exact kept_exit hp _ (.inl rfl)

/-- The queues are declared in turn. -/
theorem kept_declareNext (hp : Holding p) (hequipped : Equipped p) (hstill : Still p)
    (channel : Channel) (types : List DataType) : Kept (declareNext p channel types) := by
  cases types with
  | nil =>
    have hp' := hp.withBroker { p.service.broker with connectionConsumerTags := ∅ } (.inl hequipped)
    exact (kept_consumeNext hp' hequipped hstill channel MUSICBRAINZ_DATA_TYPES :)
  | cons t rest => exact kept_awaits hp ⟨hequipped, hstill⟩

/-- One declaration is through. -/
theorem kept_declared (hp : Holding p) (hequipped : Equipped p) (hstill : Still p)
    (channel : Channel) (declaration : Declaration) (t : DataType) (rest : List DataType) :
    Kept (declared p channel declaration t rest) := by
  rw [declared]
  cases nextDeclaration declaration with
  | some next => exact kept_awaits hp ⟨hequipped, hstill⟩
  | none =>
    have hp' := hp.withBroker
      { p.service.broker with queues := p.service.broker.queues.insert t channel } (.inl hequipped)
    exact kept_declareNext hp' hequipped hstill channel rest

/-- From the connection to the last consumer, still and equipped. -/
theorem kept_setUp {awaiting : MainAwait} (hp : Holding p) (hholds : Equipped p ∧ Still p)
    (hsetUp : (∃ k, awaiting = .enter k ∨ awaiting = .openChannel k) ∨
      ∃ channel, awaiting = .qos channel ∨ ∃ t rest,
        (∃ declaration, awaiting = .declare channel declaration t rest) ∨
          ∃ on, awaiting = .consume channel on t rest)
    (h : mainStep delay p awaiting answer = some p') : Kept p' := by
  obtain ⟨hequipped, hstill⟩ := hholds
  -- Inside `async with` an exception leaves through the connection's exit.
  have hraised (k : ConnectionId) : Kept (p.awaits (.exit k .raised)) := kept_exit hp k (.inl rfl)
  have hcancelled (k : ConnectionId) : Kept (p.awaits (.exit k .cancelled)) := kept_exit hp k (.inr rfl)
  obtain ⟨k, rfl | rfl⟩ | ⟨channel, rfl | ⟨t, rest, ⟨declaration, rfl⟩ | ⟨on, rfl⟩⟩⟩ := hsetUp
  -- Entering the connection, opening the channel, the prefetch, a declaration, a registration.
  · cases answer with
    | done => exact Option.some.inj h ▸ kept_awaits hp ⟨hequipped, hstill⟩
    | raised => exact Option.some.inj h ▸ kept_ends hp trivial
    | cancelled => exact Option.some.inj h ▸ kept_ends hp trivial
    | _ => cases h
  · cases answer with
    | handle n =>
      obtain rfl := Option.some.inj h
      exact kept_awaits (hp.withBroker _ (.inl hequipped)) ⟨hequipped, hstill⟩
    | raised => exact Option.some.inj h ▸ hraised k
    | cancelled => exact Option.some.inj h ▸ hcancelled k
    | _ => cases h
  · cases answer with
    | done =>
      obtain rfl := Option.some.inj h
      have hp' := hp.withBroker { p.service.broker with queues := ∅ } (.inl hequipped)
      exact kept_declareNext hp' hequipped hstill channel _
    | raised => exact Option.some.inj h ▸ hraised _
    | cancelled => exact Option.some.inj h ▸ hcancelled _
    | _ => cases h
  · cases answer with
    | done => exact Option.some.inj h ▸ kept_declared hp hequipped hstill channel declaration t rest
    | raised => exact Option.some.inj h ▸ hraised _
    | cancelled => exact Option.some.inj h ▸ hcancelled _
    | _ => cases h
  · cases answer with
    | tag consumerTag =>
      obtain rfl := Option.some.inj h
      have hp' := hp.withBroker (registerConsumer p.service.broker [] t ⟨consumerTag, on.connection⟩)
        (.inl hequipped)
      exact kept_consumeNext hp' hequipped hstill channel rest
    | raised => exact Option.some.inj h ▸ hraised _
    | cancelled => exact Option.some.inj h ▸ hcancelled _
    | _ => cases h

/-! ### Teardown -/

/-- The last thing the `finally` does. -/
theorem kept_tearDown (hp : Holding p) (hequipped : Equipped p) (hstill : Still p) (channel : Channel)
    {why : Ending} (hasked : why = .returned → Asked p) : Kept (tearDown p channel why) :=
  kept_afterDisposal (disposes_startDispose hp hstill (.inl hequipped.pool)) hasked

/-- Timers that are left are waited for before the disposal. -/
theorem kept_cancelTimers (hp : Holding p) (hequipped : Equipped p) (hstill : Still p)
    (channel : Channel) {why : Ending} (hasked : why = .returned → Asked p) :
    Kept (cancelTimers p channel why) := by
  have hcleared := hp.withBroker { p.service.broker with consumerCancelTasks := ∅ } (.inl hequipped)
  have hpending := hp.withBroker (GraceTimers.cancelPending p.service.broker) (.inl hequipped)
  show Kept (if _ then _ else _)
  split
  · exact kept_tearDown hcleared hequipped hstill channel hasked
  · exact kept_awaits hpending ⟨hequipped, hstill, hasked⟩

/-- The checker goes, and its recovery with it: from here the process is still. -/
theorem kept_stopChecker (hp : Holding p) (hequipped : Equipped p) (channel : Channel) {why : Ending}
    (hasked : why = .returned → Asked p) : Kept (stopChecker p channel why) := by
  have hp' : Holding { p.withBroker { p.service.broker with recovery := none } with checker := false } := by
    refine ⟨hp.pools, hp.admission, hp.uncertain, hp.purge, fun hnone => ?_⟩
    obtain ⟨pool, -, hadmission⟩ := hequipped
    cases hnone.symm.trans hadmission
  exact kept_awaits hp' ⟨hequipped, ⟨rfl, rfl⟩, hasked⟩

/-- The consumers are cancelled one after the other. -/
theorem kept_cancelsOn (hp : Holding p) (hequipped : Equipped p) (channel : Channel) {why : Ending}
    (hasked : why = .returned → Asked p) (service : GraceTimers.Service) :
    Kept (cancelsOn p channel why service) := by
  have hp' := hp.withService service (.inl hequipped)
  show Kept (if _ then _ else _)
  split
  · exact kept_awaits hp' ⟨hequipped, hasked⟩
  · exact kept_awaits hp' ⟨hequipped, hasked⟩

/-- The wait ends with a signal, an interrupt or a cancellation. -/
theorem kept_serving (hp : Holding p) (hequipped : Equipped p) {channel : Channel}
    (h : mainStep delay p (.serving channel) answer = some p') : Kept p' := by
  cases answer with
  | done => exact Option.some.inj h ▸ kept_serve hp hequipped channel
  | raised =>
    obtain rfl := Option.some.inj h
    have hp' : Holding { p with interrupted := true } :=
      ⟨hp.pools, hp.admission, hp.uncertain, hp.purge, hp.idle⟩
    exact kept_stopServing hp' hequipped channel fun _ => .inr rfl
  | cancelled => exact Option.some.inj h ▸ kept_stopServing hp hequipped channel nofun
  | _ => cases h

/-- Equipped, but not still yet. -/
theorem kept_stopping {awaiting : MainAwait} {channel : Channel} {why : Ending} (hp : Holding p)
    (hequipped : Equipped p) (hasked : why = .returned → Asked p)
    (hstopping : awaiting = .cancelConsumers channel why ∨ awaiting = .stopProgress channel why)
    (h : mainStep delay p awaiting answer = some p') : Kept p' := by
  -- `cancel_all_consumers` is left alone by its exceptions, and left by a cancellation.
  have hcancels := kept_cancelsOn hp hequipped channel hasked
  rcases hstopping with rfl | rfl
  · cases answer with
    | tags items =>
      obtain ⟨service, -, rfl⟩ := Option.map_eq_some_iff.mp h
      exact hcancels service
    | done =>
      obtain ⟨service, -, rfl⟩ := Option.map_eq_some_iff.mp h
      exact hcancels service
    | raised =>
      obtain ⟨service, -, rfl⟩ := Option.map_eq_some_iff.mp h
      exact hcancels service
    -- A cancellation in the `finally` skips what is left of it: the pool stays, and is held.
    | cancelled =>
      obtain rfl := Option.some.inj h
      have hp' := hp.withService { p.service with shutdown := none } (.inl hequipped)
      exact kept_exit hp' _ (.inr rfl)
    | _ => cases h
  -- The progress task is awaited with its cancellation suppressed.
  · cases answer with
    | done => exact Option.some.inj h ▸ kept_stopChecker hp hequipped channel hasked
    | cancelled => exact Option.some.inj h ▸ kept_stopChecker hp hequipped channel hasked
    | raised => exact Option.some.inj h ▸ kept_exit hp _ (.inl rfl)
    | _ => cases h

/-- Equipped, and still. -/
theorem kept_stopped {awaiting : MainAwait} {channel : Channel} {why : Ending} (hp : Holding p)
    (hequipped : Equipped p) (hstill : Still p) (hasked : why = .returned → Asked p)
    (hstopped : awaiting = .stopChecker channel why ∨
      ∃ pending, awaiting = .gatherTimers channel why pending)
    (h : mainStep delay p awaiting answer = some p') : Kept p' := by
  obtain rfl | ⟨pending, rfl⟩ := hstopped
  · cases answer with
    | done => exact Option.some.inj h ▸ kept_cancelTimers hp hequipped hstill channel hasked
    | cancelled => exact Option.some.inj h ▸ kept_cancelTimers hp hequipped hstill channel hasked
    | _ => cases h
  · cases answer with
    | done =>
      change (if _ then _ else _) = _ at h
      split at h
      · obtain rfl := Option.some.inj h
        have hp' := hp.withBroker { p.service.broker with consumerCancelTasks := ∅ } (.inl hequipped)
        exact kept_tearDown hp' hequipped hstill channel hasked
      · cases h
    | cancelled => exact Option.some.inj h ▸ kept_exit hp _ (.inr rfl)
    | _ => cases h

/-- **Each await of `main` keeps the invariant**, whatever it comes to. -/
theorem kept_mainStep {awaiting : MainAwait} (hp : Holding p) (hholds : awaiting.Holds p)
    (h : mainStep delay p awaiting answer = some p') : Kept p' := by
  cases awaiting with
  | startupDelay =>
    have hadmission : p.writeAdmission = none := by
      cases hadmission : p.writeAdmission with
      | none => rfl
      | some pool => cases Eq.symm hholds |>.trans (hp.admission pool hadmission)
    obtain ⟨hquiet, hstill⟩ := hp.idle hadmission
    cases answer with
    | cancelled => exact Option.some.inj h ▸ kept_ends hp trivial
    | raised => exact Option.some.inj h ▸ kept_ends hp trivial
    | nothing => exact Option.some.inj h ▸ kept_closePoolAndHealth hp hstill (.inr hquiet) nofun
    | flag ok =>
      cases ok with
      | false => exact Option.some.inj h ▸ kept_ends hp (.inr (.inl hholds))
      | true =>
        obtain rfl := Option.some.inj h
        -- The first pool: there was none.
        have hnone : p.openPools = [] := by
          rw [hp.pools, hholds]
          rfl
        have hpurge : ∀ purge, p.staleRowPurge ≠ some purge := by
          intro purge hpurge
          cases hadmission.symm.trans (hp.purge purge hpurge).2.1
        have hp' : Holding { p with
            connectionPool := some p.nextPool
            openPools := p.openPools ++ [p.nextPool]
            nextPool := p.nextPool + 1 } := by
          refine ⟨?_, ?_, fun _ => rfl, fun purge heq => absurd heq (hpurge purge), hp.idle⟩
          · show p.openPools ++ [p.nextPool] = [p.nextPool]
            rw [hnone, List.nil_append]
          · intro pool heq
            cases hadmission.symm.trans heq
        exact kept_awaits hp' ⟨rfl, hadmission⟩
    | _ => cases h
  | initializePool =>
    obtain ⟨hpool, hadmission⟩ := hholds
    obtain ⟨hquiet, hstill⟩ := hp.idle hadmission
    cases answer with
    | done =>
      obtain rfl := Option.some.inj h
      obtain ⟨pool, hsome⟩ := Option.isSome_iff_exists.mp hpool
      have hp' : Holding { p with writeAdmission := p.connectionPool } := by
        refine ⟨hp.pools, fun _ heq => heq, hp.uncertain, fun purge hpurge => ?_, fun hnone => ?_⟩
        · cases hadmission.symm.trans (hp.purge purge hpurge).2.1
        · cases hsome.symm.trans hnone
      exact kept_awaits hp' ⟨⟨pool, hsome, hsome⟩, hstill⟩
    | raised => exact Option.some.inj h ▸ kept_closePoolAndHealth hp hstill (.inl hpool) nofun
    | cancelled => exact Option.some.inj h ▸ kept_ends hp trivial
    | _ => cases h
  | probeColumns => exact kept_startup hp hholds (.inl rfl) h
  | probeVeto declared =>
    obtain ⟨hequipped, hstill, hpresent⟩ := hholds
    have hloop := kept_connectLoop hp hequipped hstill 0
    cases answer with
    | flag ok =>
      cases ok with
      | false => exact Option.some.inj h ▸ hloop
      | true =>
        exact kept_armPurge hp hequipped hstill hpresent h
    | raised => exact Option.some.inj h ▸ hloop
    | cancelled => exact Option.some.inj h ▸ kept_ends hp trivial
    | _ => cases h
  | reportVetoes => exact kept_startup hp hholds (.inr (.inl rfl)) h
  | connect startupRetry => exact kept_startup hp hholds (.inr (.inr ⟨startupRetry, .inl rfl⟩)) h
  | retryDelay startupRetry => exact kept_startup hp hholds (.inr (.inr ⟨startupRetry, .inr rfl⟩)) h
  | closePoolAndHealth why awaiting =>
    obtain ⟨hdispose, hasked⟩ := hholds
    obtain ⟨r, hr, rfl⟩ := Option.map_eq_some_iff.mp h
    exact kept_afterFailedStart (disposes_disposeStep hp hdispose hr) hasked
  | enter k => exact kept_setUp hp hholds (.inl ⟨k, .inl rfl⟩) h
  | openChannel k => exact kept_setUp hp hholds (.inl ⟨k, .inr rfl⟩) h
  | qos channel => exact kept_setUp hp hholds (.inr ⟨channel, .inl rfl⟩) h
  | declare channel declaration t rest =>
    exact kept_setUp hp hholds (.inr ⟨channel, .inr ⟨t, rest, .inl ⟨declaration, rfl⟩⟩⟩) h
  | consume channel on t rest =>
    exact kept_setUp hp hholds (.inr ⟨channel, .inr ⟨t, rest, .inr ⟨on, rfl⟩⟩⟩) h
  | serving channel => exact kept_serving hp hholds h
  | cancelConsumers channel why => exact kept_stopping hp hholds.1 hholds.2 (.inl rfl) h
  | stopProgress channel why => exact kept_stopping hp hholds.1 hholds.2 (.inr rfl) h
  | stopChecker channel why => exact kept_stopped hp hholds.1 hholds.2.1 hholds.2.2 (.inl rfl) h
  | gatherTimers channel why pending =>
    exact kept_stopped hp hholds.1 hholds.2.1 hholds.2.2 (.inr ⟨pending, rfl⟩) h
  | disposing channel why awaiting =>
    obtain ⟨hdispose, hasked⟩ := hholds
    obtain ⟨r, hr, rfl⟩ := Option.map_eq_some_iff.mp h
    exact kept_afterDisposal (disposes_disposeStep hp hdispose hr) hasked
  | exit k why =>
    cases answer with
    | done => exact Option.some.inj h ▸ kept_ends hp hholds
    | raised => exact Option.some.inj h ▸ kept_ends hp trivial
    | cancelled => exact Option.some.inj h ▸ kept_ends hp trivial
    | _ => cases h

end Main

/-! ## Whole processes

  Beside `main` the broker's tasks step. They write neither the pool nor the admission, so what is known
  at `main`'s await is in danger in two ways only: a handle is taken where the process should be quiet,
  or a recovery begins where it should be still. Both need the checker. -/

/-- What another task's step leaves of what is known at `main`'s await. -/
structure Beside (p p' : Process) : Prop where
  holding : Holding p'
  main : p'.main = p.main
  ended : p'.ended = p.ended
  pool : p'.connectionPool = p.connectionPool
  admission : p'.writeAdmission = p.writeAdmission
  uncertain : p'.lifecycleCleanupUncertain = p.lifecycleCleanupUncertain
  still : Still p → Still p'
  disposing : ∀ awaiting : DisposeAwait, awaiting.Holds p → awaiting.Holds p'
  asked : Asked p → Asked p'

section Runs

variable {delay : Nat} {p p' : Process} {event : Event} {events : List Event}

/-- What `main` knows of the pool no other task changes. -/
theorem Beside.equipped (h : Beside p p') (hp : Equipped p) : Equipped p' := by
  obtain ⟨pool, hpool, hadmission⟩ := hp
  exact ⟨pool, h.pool.trans hpool, h.admission.trans hadmission⟩

/-- Nor what it has left. -/
theorem Beside.ending (h : Beside p p') {why : Ending} (hp : why.Holds p) : why.Holds p' := by
  have hsettled (hp : Settled p) : Settled p' := by
    rcases hp with hpool | huncertain
    · exact .inl (h.pool.trans hpool)
    · exact .inr (h.uncertain.trans huncertain)
  cases why with
  | returned => exact ⟨h.asked hp.1, hsettled hp.2⟩
  | startupError message => exact hp.imp_right hsettled
  | raised => trivial
  | cancelled => trivial

/-- So the invariant is kept at whatever await `main` is. -/
theorem Beside.kept (h : Beside p p') (hp : Kept p) : Kept p' := by
  refine ⟨h.holding, fun awaiting hawaiting => ?_, fun hmain why hwhy => ?_⟩
  -- What is known at an await speaks of the pool, of the admission and of what is still; all of it is
  -- beside what has moved.
  · have hholds := hp.main awaiting (h.main.symm.trans hawaiting)
    have hasked {why : Ending} (hp : why = .returned → Asked p) (hwhy : why = .returned) : Asked p' :=
      h.asked (hp hwhy)
    cases awaiting with
    -- No pool yet; a pool; and from then on pool, admission, and stillness as far as the await goes.
    | startupDelay => exact h.pool.trans hholds
    | initializePool =>
      obtain ⟨hpool, hadmission⟩ := hholds
      exact ⟨h.pool.symm ▸ hpool, h.admission.trans hadmission⟩
    | probeVeto declared => exact ⟨h.equipped hholds.1, h.still hholds.2.1, hholds.2.2⟩
    | closePoolAndHealth why awaiting => exact ⟨h.disposing awaiting hholds.1, hasked hholds.2⟩
    | serving channel => exact h.equipped hholds
    | cancelConsumers channel why => exact ⟨h.equipped hholds.1, hasked hholds.2⟩
    | stopProgress channel why => exact ⟨h.equipped hholds.1, hasked hholds.2⟩
    | stopChecker channel why =>
      exact ⟨h.equipped hholds.1, h.still hholds.2.1, hasked hholds.2.2⟩
    | gatherTimers channel why pending =>
      exact ⟨h.equipped hholds.1, h.still hholds.2.1, hasked hholds.2.2⟩
    | disposing channel why awaiting => exact ⟨h.disposing awaiting hholds.1, hasked hholds.2⟩
    | exit k why => exact h.ending hholds
    | _ => exact ⟨h.equipped hholds.1, h.still hholds.2⟩
  -- Or `main` has ended, and what its ending left is as it was.
  · exact h.ending (hp.ended (h.main.symm.trans hmain) why (h.ended.symm.trans hwhy))

/-- A delivery, a timer, or the checker while it is there. -/
theorem beside_broker (hp : Holding p) {action : Action} {broker : State}
    (hallowed : (isChecker action && !p.checker) = false)
    (h : step delay p.service.broker action = some broker) : Beside p (p.withBroker broker) := by
  cases hchecker : isChecker action with
  | true =>
    rw [hchecker, Bool.true_and, Bool.not_eq_false'] at hallowed
    -- With the checker there the process is not still, and it is equipped.
    have hmoving : ¬ Still p := fun hstill => by cases hallowed.symm.trans hstill.1
    have hequipped : Equipped p := by
      cases hadmission : p.writeAdmission with
      | none => exact absurd (hp.idle hadmission).2 hmoving
      | some pool => exact ⟨pool, hp.admission pool hadmission, hadmission⟩
    exact ⟨hp.withBroker broker (.inl hequipped), rfl, rfl, rfl, rfl, rfl,
      fun hstill => absurd hstill hmoving, fun _ hholds => absurd hholds.2.1 hmoving, id⟩
  | false =>
    have hsubsides := subsides_step hchecker h
    have hstill (hstill : Still p) : Still (p.withBroker broker) :=
      ⟨hstill.1, hsubsides.recovery.trans hstill.2⟩
    refine ⟨hp.withBroker broker (.inr hsubsides), rfl, rfl, rfl, rfl, rfl, hstill, ?_, id⟩
    rintro awaiting ⟨hpool, hquiet, hawaiting⟩
    refine ⟨hpool, hstill hquiet, ?_⟩
    cases awaiting with
    | closing call => exact Sound.subsides hawaiting hsubsides
    | draining => exact hsubsides.quiet hawaiting
    | closingPool => exact hsubsides.quiet hawaiting

/-- A signal asks for a stop, and nothing else. -/
theorem beside_signal (hp : Holding p) : Beside p { p with shutdownRequested := true } :=
  ⟨⟨hp.pools, hp.admission, hp.uncertain, hp.purge, hp.idle⟩, rfl, rfl, rfl, rfl, rfl, id,
    fun awaiting hholds => by cases awaiting <;> exact hholds, fun _ => .inl rfl⟩

/-- **Every event keeps the invariant.** -/
theorem kept_processStep (hp : Kept p) (h : processStep delay p event = some p') : Kept p' := by
  cases event with
  | begin =>
    change (if _ then _ else _) = _ at h
    split at h
    · obtain rfl := Option.some.inj h
      exact kept_begin hp.holding
    · cases h
  | answer a =>
    obtain ⟨awaiting, hawaiting, h⟩ := Option.bind_eq_some_iff.mp h
    exact kept_mainStep hp.holding (hp.main awaiting hawaiting) h
  | broker action =>
    change (if _ then _ else _) = _ at h
    split at h
    · cases h
    next hallowed =>
      obtain ⟨broker, hbroker, rfl⟩ := Option.map_eq_some_iff.mp h
      exact (beside_broker hp.holding (Bool.not_eq_true _ ▸ hallowed) hbroker).kept hp
  | signal =>
    obtain rfl := Option.some.inj h
    exact (beside_signal hp.holding).kept hp

/-- A process that has just started holds nothing. -/
theorem kept_start : Kept {} where
  holding := ⟨rfl, nofun, nofun, nofun, fun _ => ⟨⟨⟨rfl, rfl, rfl⟩, rfl⟩, rfl, rfl⟩⟩
  main := nofun
  ended := nofun

/-- Hence after any events. -/
theorem kept_run (hrun : run (processStep delay) {} events = some p) : Kept p :=
  run_invariant (fun _ _ _ hp h => kept_processStep hp h) kept_start hrun

/-- Where a pool is left, no `main` begins, and nothing else touches the pool. -/
theorem refused_processStep {pool : PoolId}
    (hp : p.main = none ∧ p.connectionPool = some pool ∧ p.openPools = [pool])
    (h : processStep delay p event = some p') :
    p'.main = none ∧ p'.connectionPool = some pool ∧ p'.openPools = [pool] := by
  obtain ⟨hmain, hpool, hpools⟩ := hp
  -- `begin` is refused for the pool; nobody answers where no `main` is; and the broker's own doings
  -- leave the pool.
  cases event with
  | begin =>
    change (if _ then _ else _) = _ at h
    rw [hmain] at h
    obtain rfl := Option.some.inj h
    have hretained : retained p = true := by simp [retained, hpool]
    unfold begin
    rw [if_pos hretained]
    exact ⟨rfl, hpool, hpools⟩
  | answer a =>
    obtain ⟨awaiting, hawaiting, -⟩ := Option.bind_eq_some_iff.mp h
    cases hmain.symm.trans hawaiting
  | broker action =>
    change (if _ then _ else _) = _ at h
    split at h
    · cases h
    · obtain ⟨broker, -, rfl⟩ := Option.map_eq_some_iff.mp h
      exact ⟨hmain, hpool, hpools⟩
  | signal =>
    obtain rfl := Option.some.inj h
    exact ⟨hmain, hpool, hpools⟩

/-- What the probe lets pass has its column on every table, with its type. -/
theorem declared_of_present {declared : ChildTable → Option String}
    (h : reconciliationColumnsPresent declared = true) {table : ChildTable}
    (htable : table ∈ RECONCILED_TABLES) : declared table = some RECONCILIATION_COLUMN_TYPE := by
  unfold reconciliationColumnsPresent at h
  dsimp only at h
  split at h
  next => cases h
  next hmissing =>
    rw [not_not, List.filter_eq_nil_iff] at hmissing
    rw [decide_eq_true_iff, List.filter_eq_nil_iff] at h
    have hthere := hmissing table htable
    have hright := h table htable
    rw [decide_eq_true_iff] at hthere hright
    by_contra hwrong
    exact hright ⟨hthere, hwrong⟩

end Runs

/-! ## The results -/

/-- **One pool**: in every run of the process, over any number of calls of `main`, whatever each of its
    awaits comes to and whatever the broker's tasks do meanwhile, the pools that are open are the one that
    is held, if any; whoever can still be delivered to, or recover, has it and its write admission; an
    armed purge is over them; and it is closed under nobody. -/
theorem one_pool_at_a_time (delay : Nat) (events : List Event) (p : Process)
    (hrun : run (processStep delay) {} events = some p) : OnePool p := by
  have hp := kept_run hrun
  refine ⟨hp.holding.pools, hp.holding.admission, fun hlive => ?_, fun purge hpurge => ?_,
    fun awaiting hawaiting hcloses => ?_⟩
  -- Where there is no admission everything is quiet, so whatever is live has one, and its pool.
  · cases hadmission : p.writeAdmission with
    | some pool => exact ⟨pool, hp.holding.admission pool hadmission, rfl⟩
    | none =>
      obtain ⟨hquiet, -, hrecovery⟩ := hp.holding.idle hadmission
      rcases hlive with hloud | hrecovering
      · exact absurd hquiet hloud
      · exact absurd hrecovery hrecovering
  · obtain ⟨hpool, hadmission, hrefresh, hpresent⟩ := hp.holding.purge purge hpurge
    exact ⟨hpool, hadmission, hrefresh, fun table htable => declared_of_present hpresent htable⟩
  -- The pool is being closed in two places, and both come after the broker is let go of and the checker
  -- is stopped.
  · have hholds := hp.main awaiting hawaiting
    cases awaiting with
    | closePoolAndHealth why awaiting =>
      cases awaiting with
      | closingPool => exact ⟨hholds.1.2.2, hholds.1.2.1.2, hholds.1.2.1.1⟩
      | _ => cases hcloses
    | disposing channel why awaiting =>
      cases awaiting with
      | closingPool => exact ⟨hholds.1.2.2, hholds.1.2.1.2, hholds.1.2.1.1⟩
      | _ => cases hcloses
    | _ => cases hcloses

/-- A start up to the wait: the schema has its columns, and every consumer is registered. -/
def startsServing : List Event :=
  [.begin, .answer (.flag true), .answer .done,
    .answer (.columns fun _ => some RECONCILIATION_COLUMN_TYPE), .answer (.flag true), .answer .done,
    .answer (.handle 7), .answer .done, .answer (.handle 1), .answer .done] ++
  List.replicate 24 (.answer .done) ++
  ["a1", "l1", "g1", "r1"].map fun consumerTag => .answer (.tag consumerTag)

theorem one_pool_while_serving :
    ∃ p, run (processStep 300) {} startsServing = some p ∧ p.staleRowPurge.isSome = true ∧
      p.service.broker.consumerTags.count = 4 ∧ OnePool p := by
  have hrun : ((run (processStep 300) {} startsServing).map fun p =>
      p.staleRowPurge.isSome && decide (p.service.broker.consumerTags.count = 4)) = some true := by
    decide +kernel
  obtain ⟨p, hp, hserving⟩ := Option.map_eq_some_iff.mp hrun
  rw [Bool.and_eq_true, decide_eq_true_iff] at hserving
  exact ⟨p, hp, hserving.1, hserving.2, one_pool_at_a_time 300 startsServing p hp⟩

/-- **What a `main` leaves**: one that returns has been asked to stop; and one that returns, or gives up
    its start, leaves nothing at all, or marks what it could not release. -/
theorem main_leaves_nothing_unmarked (delay : Nat) (events : List Event) (p : Process) (why : Ending)
    (hrun : run (processStep delay) {} events = some p) (hmain : p.main = none)
    (hended : p.ended = some why) (hstopped : why ≠ .raised ∧ why ≠ .cancelled)
    (hpassed : why ≠ .startupError NOT_DRAINED) :
    (why = .returned → p.shutdownRequested = true ∨ p.interrupted = true) ∧
      (NothingLeft p ∨ p.lifecycleCleanupUncertain = true) := by
  have hp := kept_run hrun
  have hholds := hp.ended hmain why hended
  have hsettled : Settled p := by
    cases why with
    | returned => exact hholds.2
    | startupError message => exact hholds.resolve_left fun h => hpassed (h ▸ rfl)
    | raised => exact absurd rfl hstopped.1
    | cancelled => exact absurd rfl hstopped.2
  refine ⟨fun hwhy => ?_, hsettled.imp_left hp.holding.nothingLeft⟩
  subst hwhy
  exact hholds.1

/-- A signal comes while the broker cannot be reached; the disposal drains and closes. -/
def stopsConnecting : List Event :=
  [.begin, .answer (.flag true), .answer .done, .answer .raised, .answer .raised, .signal,
    .answer .done, .answer (.flag true), .answer .done]

theorem stopsConnecting_leaves_nothing :
    ∃ p, run (processStep 300) {} stopsConnecting = some p ∧ p.ended = some .returned ∧
      (NothingLeft p ∨ p.lifecycleCleanupUncertain = true) := by
  refine ⟨_, rfl, rfl, ?_⟩
  exact (main_leaves_nothing_unmarked 300 stopsConnecting _ .returned rfl rfl rfl (by decide)
    (by decide)).2

/-- **The guard is exact**: the next `main` passes it when nothing of the last one is left and no consumer
    cancellation has failed since, and not otherwise; and a pool that is left is left for good, with every
    later `main` refused. -/
theorem next_main_begins_iff (delay : Nat) (events : List Event) (p : Process)
    (hrun : run (processStep delay) {} events = some p) (hmain : p.main = none) :
    ((∃ p', processStep delay p .begin = some p' ∧ p'.main = some .startupDelay) ↔
      NothingLeft p ∧ p.service.broker.consumerCancellationFailed = false) ∧
    ∀ pool, p.connectionPool = some pool → ∀ later p', run (processStep delay) p later = some p' →
      p'.main = none ∧ p'.connectionPool = some pool ∧ p'.openPools = [pool] := by
  have hp := kept_run hrun
  have hstep : processStep delay p .begin = some (begin p) := by
    unfold processStep
    rw [hmain]
    rfl
  constructor
  -- The guard looks at seven things; held together they come to the pool and the flag
  -- (`retained_eq_false_iff`).
  · have hguard := retained_eq_false_iff hp.holding
    constructor
    · rintro ⟨p', hp', hbegun⟩
      obtain rfl := Option.some.inj (hstep.symm.trans hp')
      have hpasses : retained p = false := by
        rw [← Bool.not_eq_true]
        intro hretained
        unfold begin at hbegun
        rw [if_pos hretained] at hbegun
        cases hbegun
      obtain ⟨hpool, hfailed⟩ := hguard.mp hpasses
      exact ⟨hp.holding.nothingLeft hpool, hfailed⟩
    · rintro ⟨hnothing, hfailed⟩
      have hpasses := hguard.mpr ⟨hnothing.pool, hfailed⟩
      refine ⟨begin p, hstep, ?_⟩
      unfold begin
      rw [hpasses]
      rfl
  -- With the pool held the guard refuses, now and after anything that happens then.
  · intro pool hpool later p' hlater
    have hleft : p.main = none ∧ p.connectionPool = some pool ∧ p.openPools = [pool] := by
      refine ⟨hmain, hpool, ?_⟩
      rw [hp.holding.pools, hpool]
      rfl
    have hstep (q : Process) (event : Event) (q' : Process)
        (hq : q.main = none ∧ q.connectionPool = some pool ∧ q.openPools = [pool])
        (h : processStep delay q event = some q') :
        q'.main = none ∧ q'.connectionPool = some pool ∧ q'.openPools = [pool] :=
      refused_processStep hq h
    exact run_invariant hstep hleft hlater

theorem next_main_after_stopsConnecting :
    ∃ p p', run (processStep 300) {} stopsConnecting = some p ∧ NothingLeft p ∧
      processStep 300 p .begin = some p' ∧ p'.main = some .startupDelay := by
  refine ⟨_, _, rfl, ?_, rfl, rfl⟩
  exact ((next_main_begins_iff 300 stopsConnecting _ rfl rfl).1.mp ⟨_, rfl, rfl⟩).1

end Lifecycle

/-
  No type is subscribed to twice.

  `_register_consumer` overwrites the tag a type has: a second subscription would be one whose
  predecessor nobody can cancel any more, counted twice in the gauge.  `main` registers a consumer for
  every type without looking; the recovery looks first, and then awaits the broker.

  That neither of them looks at the moment it writes is why reading the two functions is not enough:
  `main` never looks, and what the recovery has seen is old when the answer comes.  Nor is there a lock
  that the two share.  It is the order of `main`'s awaits that keeps them apart.

  * **`main`** begins with nothing left, and no checker that could recover (`Kept`), so no type has a
    consumer until it has registered one, and it comes to each type once (`MainAwait.Clear`).
  * **The recovery** is the only one to register meanwhile: between its look and its registration
    consumers are only let go of (`Fewer`).

  The invariant `Subscribed` says of the two awaits that lead to a registration what their answer relies
  on.  The proof goes over who can run while one of them is suspended:

  1. **`Fewer`** — what a delivery, a timer, a close and the teardown do to the consumers; it keeps both
     halves of the invariant.
  2. **`Looked`** — wherever the recovery comes to a registration it has just looked, over every step of
     it; an answer without a tag registers nothing.
  3. **`Advances`** — the same of each stretch of `main`, await by await.
  4. **`subscribed_processStep`** — the two beside each other: a recovery needs the checker, a checker
     is there only when `main` is past its startup, and no recovery runs beside a start (`Kept`).
-/
import MusicBrainzLoader.Lifecycle.Retained

namespace Lifecycle

open Broker
open Purge (DataType ChildTable MUSICBRAINZ_DATA_TYPES)
open Runs

/-! ## The invariant -/

/-- The type the recovery is about to register has no consumer. -/
def Recovers (b : State) : Prop :=
  ∀ temp found on t rest, b.recovery = some (.consume temp found on t rest) → t ∉ b.consumerTags

/-- No type that `main` has still to register has a consumer.  Up to the first registration that is
    every type; in the loop it is the one asked for and those after it, and that each comes once is
    what keeps a registration from undoing the rest.  Afterwards `main` relies on nothing. -/
def MainAwait.Clear (b : State) : MainAwait → Prop
  | .startupDelay | .initializePool | .probeColumns | .probeVeto _ | .reportVetoes | .connect _
  | .retryDelay _ | .enter _ | .openChannel _ | .qos _ | .declare _ _ _ _ => b.consumerTags = ∅
  | .consume _ _ t rest => (t :: rest).Nodup ∧ ∀ u ∈ t :: rest, u ∉ b.consumerTags
  | _ => True

/-- The invariant: what the answer to a consume call relies on, at `main`'s await and at the
    recovery's.  At any other await there is nothing to rely on yet. -/
structure Subscribed (p : Process) : Prop where
  main : ∀ awaiting, p.main = some awaiting → awaiting.Clear p.service.broker
  recovery : Recovers p.service.broker

/-- Consumers are let go of, and no recovery has come further.  It is all that most tasks do to the
    consumers, and both halves of the invariant survive it, so the proof comes down to the few steps
    that are not of this kind. -/
structure Fewer (b b' : State) : Prop where
  consumers : ∀ t consumer, b'.consumerTags.lookup t = some consumer →
    b.consumerTags.lookup t = some consumer
  recovery : b'.recovery = b.recovery ∨ b'.recovery = none

/-- No type's consumer has been replaced by another one.  A type may have lost its consumer, or got
    one it did not have. -/
def Single (b b' : State) : Prop :=
  ∀ t consumer consumer', b.consumerTags.lookup t = some consumer →
    b'.consumerTags.lookup t = some consumer' → consumer' = consumer

section Fewer

variable {b b' b'' : State}

/-- A task that does nothing lets go of nothing. -/
theorem Fewer.refl (b : State) : Fewer b b := ⟨fun _ _ h => h, .inl rfl⟩

/-- Stretches are put together; once the recovery is gone it stays gone. -/
theorem Fewer.trans (h : Fewer b b') (h' : Fewer b' b'') : Fewer b b'' := by
  -- A lookup goes back through both stretches; the recovery is as it was or gone.
  refine ⟨fun t consumer hlookup => h.consumers t consumer (h'.consumers t consumer hlookup), ?_⟩
  rcases h'.recovery with hsame | hnone
  · rw [hsame]
    exact h.recovery
  · exact .inr hnone

/-- Only what neither tags nor recovery depend on has changed. -/
theorem Fewer.of_same (htags : b'.consumerTags = b.consumerTags) (hrecovery : b'.recovery = b.recovery) :
    Fewer b b' := by
  refine ⟨fun t consumer hlookup => ?_, .inl hrecovery⟩
  rw [htags] at hlookup
  exact hlookup

/-- Who has a consumer afterwards had one before. -/
theorem Fewer.tags (h : Fewer b b') {t : DataType} (ht : t ∈ b'.consumerTags) : t ∈ b.consumerTags := by
  obtain ⟨consumer, hconsumer⟩ := Finmap.mem_iff.mp ht
  exact Finmap.mem_iff.mpr ⟨consumer, h.consumers t consumer hconsumer⟩

/-- What the recovery has seen stays true while consumers are only let go of.  It is here that the
    look may be old: between it and the answer other tasks have run, and every one of them has let
    go of consumers at most. -/
theorem Fewer.recovers (h : Fewer b b') (hb : Recovers b) : Recovers b' := by
  intro temp found on t rest hrecovery ht
  rcases h.recovery with hsame | hnone
  · exact hb temp found on t rest (hsame.symm.trans hrecovery) (h.tags ht)
  · cases hnone.symm.trans hrecovery

/-- No consumer comes out of none. -/
theorem Fewer.empty (h : Fewer b b') (hb : b.consumerTags = ∅) : b'.consumerTags = ∅ := by
  refine Finmap.ext_lookup fun t => ?_
  rw [Finmap.lookup_empty, Finmap.lookup_eq_none]
  intro ht
  have hmem := h.tags ht
  rw [hb] at hmem
  exact Finmap.notMem_empty hmem

/-- What `main` relies on stays true too.  Deliveries and timers of earlier consumers may still be
    about while it starts, and they take nothing. -/
theorem Fewer.clear (h : Fewer b b') {awaiting : MainAwait} (hb : awaiting.Clear b) :
    awaiting.Clear b' := by
  cases awaiting with
  | consume channel on t rest => exact ⟨hb.1, fun u hu hmem => hb.2 u hu (h.tags hmem)⟩
  | startupDelay | initializePool | probeColumns | probeVeto | reportVetoes | connect | retryDelay
  | enter | openChannel | qos | declare => exact h.empty hb
  | _ => trivial

/-- And nothing is replaced by letting go. -/
theorem Fewer.single (h : Fewer b b') : Single b b' := by
  intro t consumer consumer' hbefore hafter
  exact Option.some.inj ((h.consumers t consumer' hafter).symm.trans hbefore)

/-- A consumer that is registered takes a place nobody has. -/
theorem single_registerConsumer {found : List (DataType × Nat)} {t : DataType} {consumer : Consumer}
    (ht : t ∉ b.consumerTags) : Single b (registerConsumer b found t consumer) := by
  intro u before after hbefore hafter
  have hinserted : (b.consumerTags.insert t consumer).lookup u = some after := hafter
  rw [Table.lookup_insert_eq] at hinserted
  split at hinserted
  next hu =>
    subst hu
    exact absurd (Finmap.mem_iff.mpr ⟨before, hbefore⟩) ht
  next => exact Option.some.inj (hinserted.symm.trans hbefore)

/-- A close lets go of consumers, at its start and whenever it comes back. -/
theorem fewer_startClose (b : State) : Fewer b (startClose b).1 :=
  ⟨(closing_startClose b).consumers, .inl (subsides_startClose b).recovery⟩

/-- And when it comes back, whatever it is told. -/
theorem fewer_resumeClose (b : State) (call : CloseCall) (answered : Bool) :
    Fewer b (resumeClose b call answered).1 :=
  ⟨(closing_resumeClose b call answered).consumers, .inl (subsides_resumeClose b call answered).recovery⟩

end Fewer

/-! ## The broker's tasks

  Deliveries and timers never register anything, so they only let go. The checker's two steps are the
  ones that may register: what they rely on is established by `consumeNext` alone, which skips a type
  that has a consumer, and every other await the recovery can come to is no registration. -/

section Tasks

variable {delay : Nat} {b b' : State}

/-- A delivery or a timer lets go of consumers, if anything.  A delivery touches none; a timer
    erases its own type's tag, or closes and clears them all. -/
theorem fewer_step {action : Action} (hchecker : isChecker action = false)
    (h : step delay b action = some b') : Fewer b b' := by
  have hrecovery := (subsides_step hchecker h).recovery
  cases action with
  | deliver t message =>
    obtain rfl := Option.some.inj h
    exact .of_same (untouched_handleDataMessage delay b t message).tags hrecovery
  | reconciled i ok =>
    obtain ⟨t, -, rfl⟩ := Option.map_eq_some_iff.mp h
    exact .of_same (untouched_reconciled delay b i t ok).tags hrecovery
  | timer i outcome =>
    obtain ⟨timer, -, h⟩ := Option.bind_eq_some_iff.mp h
    obtain ⟨⟨b₁, next⟩, hr, rfl⟩ := Option.map_eq_some_iff.mp h
    have hconsumers := (closing_timerStep hr).consumers
    cases next with
    | some awaiting => exact ⟨hconsumers, .inl hrecovery⟩
    | none => exact ⟨hconsumers, .inl hrecovery⟩
  | check clock => cases hchecker
  | recover reply => cases hchecker

/-- What follows the recovery's look: where it awaits the answer to a consume call, the type has no
    consumer. -/
def Looked (r : State × Option RecoveryAwait) : Prop :=
  ∀ temp found on t rest, r.2 = some (.consume temp found on t rest) → t ∉ r.1.consumerTags

/-- The loop comes to a type only when it has none: this is the look itself.  By induction on the
    types, since a type that has a consumer, or no queue, is passed over. -/
theorem looked_consumeNext (b : State) (temp : Channel) (found : List (DataType × Nat))
    (types : List DataType) : Looked (b, Broker.consumeNext b temp found types) := by
  induction types with
  | nil => nofun
  | cons t types ih =>
    intro temp' found' on' t' rest' heq
    rw [Broker.consumeNext] at heq
    split at heq
    next on hon =>
      split at heq
      next => exact ih temp' found' on' t' rest' heq
      next ht =>
        obtain ⟨-, -, -, rfl, -⟩ := RecoveryAwait.consume.inj (Option.some.inj heq)
        exact ht
    next => exact ih temp' found' on' t' rest' heq

/-- After the old connection is dropped the recovery connects, or ends. -/
theorem looked_afterDrop (r : State × CloseNext) : Looked (afterDrop r) := by
  unfold afterDrop
  split <;> nofun

/-- A failure leads to a close, or to the end. -/
theorem looked_recoveryFailed (b : State) (temp : Channel) : Looked (recoveryFailed b temp) := by
  unfold recoveryFailed afterFailure
  split <;> nofun

/-- It begins with a close or with a connection. -/
theorem looked_startRecovery (b : State) : Looked (startRecovery b) := by
  unfold startRecovery
  split
  · exact looked_afterDrop _
  · nofun

/-- Whatever makes the checker start it. -/
theorem looked_checkQueues (clock : Clock) (b : State) : Looked (checkQueues clock b) := by
  unfold checkQueues
  split
  · exact looked_startRecovery b
  · split
    · exact looked_startRecovery b
    · split
      · nofun
      · split
        · nofun
        · exact looked_startRecovery b

/-- A declaration awaits the broker before any registration. -/
theorem looked_declareOnActive (b : State) (temp : Channel) (found : List (DataType × Nat))
    (declaration : Declaration) (t : DataType) (rest : List DataType) :
    Looked (declareOnActive b temp found declaration t rest) := by
  unfold declareOnActive
  split
  · nofun
  · exact looked_recoveryFailed b temp

/-- The last declaration leads into the loop that looks. -/
theorem looked_declared (b : State) (temp : Channel) (found : List (DataType × Nat))
    (declaration : Declaration) (on : Channel) (t : DataType) (rest : List DataType) :
    Looked (Broker.declared b temp found declaration on t rest) := by
  cases declaration with
  | deadLetterQueue => nofun
  | queue => nofun
  | bindQueue =>
    cases rest with
    | nil => exact looked_consumeNext _ temp found _
    | cons t' rest => exact looked_declareOnActive _ temp found _ t' rest
  | _ => exact looked_declareOnActive b temp found _ t rest

/-- Counting the messages registers nothing. -/
theorem looked_passiveNext (b : State) (temp : Channel) (found : List (DataType × Nat))
    (rest : List DataType) : Looked (passiveNext b temp found rest) := by
  cases rest with
  | cons t rest =>
    intro temp' found' on t' rest' heq
    cases heq
  | nil =>
    intro temp' found' on t' rest' heq
    rw [passiveNext] at heq
    split at heq
    · cases heq
    · cases heq

/-- Wherever the recovery comes to a registration, it has just looked.  Every await is followed to
    where its answer leads, and only two of them lead to a registration: the last declaration, and
    the registration of the type before.  Both go through `consumeNext`. -/
theorem looked_recoveryStep {awaiting : RecoveryAwait} {reply : Reply}
    {r : State × Option RecoveryAwait} (h : recoveryStep b awaiting reply = some r) : Looked r := by
  -- Only a registration's await is asked anything: it is reached through `consumeNext`, which has
  -- looked.
  cases awaiting with
  | dropping call => cases reply <;> cases h <;> exact looked_afterDrop _
  | connect => cases reply <;> cases h <;> nofun
  | openChannel k =>
    cases reply with
    | raised => cases h; nofun
    | value n => cases h; exact looked_passiveNext b _ _ _
    | tag consumerTag => cases h
  | declarePassive temp found t rest =>
    cases reply with
    | raised => cases h; exact looked_recoveryFailed b temp
    | value n => cases h; exact looked_passiveNext b temp _ rest
    | tag consumerTag => cases h
  | qos temp found =>
    cases reply with
    | raised => cases h; exact looked_recoveryFailed b temp
    | value n => cases h; exact looked_declareOnActive _ temp found _ _ _
    | tag consumerTag => cases h
  | declare temp found declaration on t rest =>
    cases reply with
    | raised => cases h; exact looked_recoveryFailed b temp
    | value n => cases h; exact looked_declared b temp found declaration on t rest
    | tag consumerTag => cases h
  | consume temp found on t rest =>
    cases reply with
    | raised => cases h; exact looked_recoveryFailed b temp
    | value n => cases h
    -- The next type is looked up after this one is registered.
    | tag consumerTag => cases h; exact looked_consumeNext _ temp found rest
  | closeTempChannel temp =>
    cases reply with
    | raised => cases h; exact looked_recoveryFailed b temp
    | value n => cases h; nofun
    | tag consumerTag => cases h
  | closeTempConnection temp =>
    cases reply with
    | raised => cases h; exact looked_recoveryFailed b temp
    | value n => cases h; nofun
    | tag consumerTag => cases h
  | closing call =>
    cases reply with
    | tag consumerTag => cases h
    | _ => cases h; unfold afterFailure; split <;> nofun

/-- An answer without a tag registers nothing.  What a step leaves in the tags was there before, or
    is the tag it was answered with. -/
theorem single_of_untimed (h : GraceTimers.Untimed none b b') : Single b b' := by
  intro t consumer consumer' hbefore hafter
  rcases h.consumers t consumer' hafter with hsame | hissued
  · exact Option.some.inj (hsame.symm.trans hbefore)
  · cases hissued

/-- **The checker registers only what it has looked for.** Of its two steps the check starts a
    recovery, which has registered nothing; the other is an answer to the recovery, and if it is a
    tag, the registration it belongs to was looked for, and `Recovers` has kept that up to here. -/
theorem checker_step {action : Action} (hb : Recovers b) (hchecker : isChecker action = true)
    (h : step delay b action = some b') : Recovers b' ∧ Single b b' := by
  cases action with
  | check clock =>
    change (if _ then _ else _) = _ at h
    split at h
    · obtain rfl := Option.some.inj h
      have hsingle : Single b (checkQueues clock b).1 :=
        single_of_untimed (GraceTimers.untimed_checkQueues clock b)
      exact ⟨looked_checkQueues clock b, hsingle⟩
    · cases h
  | recover reply =>
    obtain ⟨awaiting, hawaiting, h⟩ := Option.bind_eq_some_iff.mp h
    obtain ⟨r, hr, rfl⟩ := Option.map_eq_some_iff.mp h
    refine ⟨looked_recoveryStep hr, ?_⟩
    have huntimed := GraceTimers.untimed_recoveryStep hr
    cases reply with
    | raised =>
      have hsingle : Single b r.1 := single_of_untimed huntimed
      exact hsingle
    | value n =>
      have hsingle : Single b r.1 := single_of_untimed huntimed
      exact hsingle
    | tag consumerTag =>
      -- Only the registration takes a tag for an answer.
      cases awaiting with
      | consume temp found on t rest =>
        obtain rfl := Option.some.inj hr
        have hsingle : Single b (registerConsumer b found t ⟨consumerTag, on.connection⟩) :=
          single_registerConsumer (hb temp found on t rest hawaiting)
        exact hsingle
      | _ => cases hr
  | _ => cases hchecker

end Tasks

/-! ## `main`

  A stretch of `main` between two awaits changes the consumers in one place, the answer to its own
  consume call; `Advances` is about all the others. At an await of the startup no type has a consumer,
  which every later registration of `main` starts from. -/

/-- What a stretch of `main` guarantees, from `p` to where it comes: consumers were let go of at
    most, and the await it has come to is clear.  It is put together from the stretch's parts by
    `Advances.of_fewer`. -/
structure Advances (p p' : Process) : Prop where
  fewer : Fewer p.service.broker p'.service.broker
  main : ∀ awaiting, p'.main = some awaiting → awaiting.Clear p'.service.broker

section Main

variable {delay : Nat} {p p' q : Process} {answer : Answer}

/-- Where `main` comes to is clear, and the recovery relies on what it did. -/
theorem Advances.subscribed (h : Advances p p') (hp : Recovers p.service.broker) : Subscribed p' :=
  ⟨h.main, h.fewer.recovers hp⟩

/-- A stretch may begin with a change that lets go of consumers. -/
theorem Advances.of_fewer (hfewer : Fewer p.service.broker q.service.broker) (h : Advances q p') :
    Advances p p' :=
  ⟨hfewer.trans h.fewer, h.main⟩

/-- `main` comes to an await that is clear. -/
theorem advances_awaits {awaiting : MainAwait} (h : awaiting.Clear p.service.broker) :
    Advances p (p.awaits awaiting) := by
  refine ⟨.refl _, ?_⟩
  intro awaiting' heq
  obtain rfl := Option.some.inj heq
  exact h

/-- It ends, and awaits nothing. -/
theorem advances_ends (p : Process) (why : Ending) : Advances p (p.ends why) := ⟨.refl _, nofun⟩

/-! ### Disposing

  Closing takes consumers away, draining and closing the pool leave them alone. -/

/-- The pool is none of the consumers' business. -/
theorem fewer_closePool (p : Process) : Fewer p.service.broker (closePool p).1.service.broker := by
  unfold closePool
  split <;> exact .refl _

/-- Neither is what the disposal does when the broker is closed. -/
theorem fewer_afterClose {r : State × CloseNext} (h : Fewer p.service.broker r.1) :
    Fewer p.service.broker (afterClose p r).1.service.broker := by
  obtain ⟨broker, next⟩ := r
  cases next with
  | suspended call => exact h
  | returned confirmed =>
    cases confirmed with
    | false => exact h
    | true =>
      show Fewer _ (if _ then _ else _ : Process × DisposeNext).1.service.broker
      split
      · exact h
      · exact Fewer.trans h (fewer_closePool (p.withBroker broker))

/-- A disposal begins with a close. -/
theorem fewer_startDispose (p : Process) :
    Fewer p.service.broker (startDispose p).1.service.broker :=
  fewer_afterClose (fewer_startClose _)

/-- From one await of the disposal to the next, only a close touches the consumers.  One case for
    each pair of an await and an answer that the disposal accepts. -/
theorem fewer_disposeStep {awaiting : DisposeAwait} {r : Process × DisposeNext}
    (h : disposeStep p awaiting answer = some r) :
    Fewer p.service.broker r.1.service.broker := by
  -- Cancelled, or a close has come back, or nothing of the broker has moved.
  unfold disposeStep at h
  split at h
  · cases h
    exact .refl _
  · cases h
    exact fewer_afterClose (fewer_resumeClose _ _ _)
  · cases h
    exact fewer_afterClose (fewer_resumeClose _ _ _)
  -- The drain, and the close of the pool.
  · cases h
    exact fewer_closePool p
  · cases h
    exact .refl _
  · cases h
    exact .refl _
  · cases h
    exact .refl _
  · cases h
    exact .refl _
  · cases h

/-- A start that gives up ends where its disposal ends, with nobody to register. -/
theorem advances_afterFailedStart {r : Process × DisposeNext} (why : Ending)
    (h : Fewer p.service.broker r.1.service.broker) : Advances p (afterFailedStart why r) := by
  obtain ⟨p', next⟩ := r
  cases next with
  | suspended awaiting => exact .of_fewer h (advances_awaits trivial)
  | returned released => exact .of_fewer h (advances_ends p' why)
  | left why' => exact .of_fewer h (advances_ends p' why')

/-- At the end of the `finally` `main` waits for the connection's `async with`, and registers
    nothing any more. -/
theorem advances_afterDisposal {r : Process × DisposeNext} (channel : Channel) (why : Ending)
    (h : Fewer p.service.broker r.1.service.broker) : Advances p (afterDisposal channel why r) := by
  obtain ⟨p', next⟩ := r
  cases next with
  | suspended awaiting => exact .of_fewer h (advances_awaits trivial)
  | returned released => exact .of_fewer h (advances_awaits trivial)
  | left why' => exact .of_fewer h (advances_awaits trivial)

/-- A start gives up: it disposes of what it has opened. -/
theorem advances_closePoolAndHealth (p : Process) (why : Ending) :
    Advances p (closePoolAndHealth p why) :=
  advances_afterFailedStart why (fewer_startDispose p)

/-- The teardown's last part is a disposal too. -/
theorem advances_tearDown (p : Process) (channel : Channel) (why : Ending) :
    Advances p (tearDown p channel why) :=
  advances_afterDisposal channel why (fewer_startDispose p)

/-! ### Startup -/

/-- No connection was found: the start gives up. -/
theorem advances_notConnected (p : Process) : Advances p (notConnected p) :=
  advances_closePoolAndHealth p _

/-- The connection loop comes to a connect, or gives up. -/
theorem advances_connectLoop (hp : p.service.broker.consumerTags = ∅) (startupRetry : Nat) :
    Advances p (connectLoop p startupRetry) := by
  unfold connectLoop
  split
  · exact advances_awaits hp
  · exact advances_notConnected p

/-- Arming the purge changes no handle. -/
theorem advances_armPurge {declared : ChildTable → Option String}
    (hp : p.service.broker.consumerTags = ∅) (h : armPurge p declared = some p') :
    Advances p p' := by
  unfold armPurge at h
  split at h
  next pool admission _ _ =>
    obtain rfl := Option.some.inj h
    have hfewer : Fewer p.service.broker p.service.broker := .refl _
    exact .of_fewer (q := { p with
      refreshUpdatedAt := true
      staleRowPurge := some { pool, admission, declared } }) hfewer (advances_awaits hp)
  next => cases h

/-! ### Queues and consumers -/

/-- `cancel_all_consumers` cancels the timers first. -/
theorem advances_stopServing (p : Process) (channel : Channel) (why : Ending) :
    Advances p (stopServing p channel why) := by
  refine ⟨.of_same rfl rfl, ?_⟩
  intro awaiting heq
  obtain rfl := Option.some.inj heq
  trivial

/-- The wait, or the beginning of the teardown. -/
theorem advances_serve (p : Process) (channel : Channel) : Advances p (serve p channel) := by
  unfold serve
  split
  · exact advances_stopServing p channel _
  · exact advances_awaits trivial

/-- The loop that registers: the types that are left have no consumer, and each comes once.  With
    the last one registered the checker starts, and `main` goes on to serve. -/
theorem advances_consumeNext (channel : Channel) {types : List DataType} (hnodup : types.Nodup)
    (hclear : ∀ u ∈ types, u ∉ p.service.broker.consumerTags) :
    Advances p (consumeNext p channel types) := by
  cases types with
  | nil => exact .of_fewer (q := { p with checker := true }) (.refl _) (advances_serve _ channel)
  | cons t rest =>
    rw [consumeNext]
    cases p.service.broker.queues.lookup t with
    | some on =>
      have hholds : (MainAwait.consume channel on t rest).Clear p.service.broker := ⟨hnodup, hclear⟩
      exact advances_awaits hholds
    | none => exact advances_awaits trivial

/-- When the queues are declared nobody has a consumer, so the whole list is clear.  This is where
    the knowledge changes its form, from "no type has one" to "none of these has one, and each comes
    once". -/
theorem advances_declareNext (hp : p.service.broker.consumerTags = ∅) (channel : Channel)
    (types : List DataType) : Advances p (declareNext p channel types) := by
  cases types with
  | cons t rest => exact advances_awaits hp
  | nil =>
    let q := p.withBroker { p.service.broker with connectionConsumerTags := ∅ }
    have hfewer : Fewer p.service.broker q.service.broker := .of_same rfl rfl
    have hnone : ∀ u ∈ MUSICBRAINZ_DATA_TYPES, u ∉ q.service.broker.consumerTags := by
      intro u _ hu
      have hmem : u ∈ p.service.broker.consumerTags := hu
      rw [hp] at hmem
      exact Finmap.notMem_empty hmem
    exact .of_fewer hfewer (advances_consumeNext channel (by decide) hnone)

/-- One declaration leads to the next one, or to the next type. -/
theorem advances_declared (hp : p.service.broker.consumerTags = ∅) (channel : Channel)
    (declaration : Declaration) (t : DataType) (rest : List DataType) :
    Advances p (declared p channel declaration t rest) := by
  rw [declared]
  cases nextDeclaration declaration with
  | some next => exact advances_awaits hp
  | none =>
    let q := p.withBroker
      { p.service.broker with queues := p.service.broker.queues.insert t channel }
    have hfewer : Fewer p.service.broker q.service.broker := .of_same rfl rfl
    have hq : q.service.broker.consumerTags = ∅ := hp
    exact .of_fewer hfewer (advances_declareNext hq channel rest)

/-! ### Teardown -/

/-- Cancelled timers write nothing any more, so the consumers stay as they are. -/
theorem advances_cancelTimers (p : Process) (channel : Channel) (why : Ending) :
    Advances p (cancelTimers p channel why) := by
  have hcleared : Fewer p.service.broker { p.service.broker with consumerCancelTasks := ∅ } :=
    .of_same rfl rfl
  have hpending : Fewer p.service.broker (GraceTimers.cancelPending p.service.broker) :=
    .of_same rfl rfl
  show Advances p (if _ then _ else _)
  split
  · exact .of_fewer hcleared (advances_tearDown _ channel why)
  · exact .of_fewer hpending (advances_awaits trivial)

/-- With the checker its recovery goes. -/
theorem advances_stopChecker (p : Process) (channel : Channel) (why : Ending) :
    Advances p (stopChecker p channel why) := by
  refine ⟨⟨fun _ _ h => h, .inr rfl⟩, ?_⟩
  intro awaiting heq
  obtain rfl := Option.some.inj heq
  trivial

/-- `cancel_all_consumers` marks a consumer it cannot cancel, and goes on to the next. -/
theorem fewer_cancelNext (b : State) (tags : List (DataType × String)) :
    Fewer b (GraceTimers.cancelNext b tags).1 := by
  induction tags generalizing b with
  | nil => exact .refl b
  | cons item tags ih =>
    rw [GraceTimers.cancelNext]
    split
    · exact .refl b
    · have hfailed : Fewer b { b with consumerCancellationFailed := true } := .of_same rfl rfl
      exact hfailed.trans (ih _)

/-- A confirmed cancellation drops the tag it was for, and no other. -/
theorem fewer_dropTag (b : State) (t : DataType) (consumerTag : String) :
    Fewer b (GraceTimers.dropTag b t consumerTag) := by
  unfold GraceTimers.dropTag
  split
  · exact ⟨(closing_eraseTag b t).consumers, .inl rfl⟩
  · exact .refl b

/-- The timers are gathered, and the first consumer is cancelled. -/
theorem fewer_gathered {service service' : GraceTimers.Service} {tags : List (DataType × String)}
    (h : GraceTimers.eventStep delay service (.gathered tags) = some service') :
    Fewer service.broker service'.broker := by
  rw [GraceTimers.eventStep] at h
  split at h
  · split at h
    · obtain rfl := Option.some.inj h
      exact fewer_cancelNext _ _
    · cases h
  · cases h

/-- One cancellation has come back, confirmed or not. -/
theorem fewer_shutdownCancel {service service' : GraceTimers.Service} {answered : Bool}
    (h : GraceTimers.eventStep delay service (.shutdownCancel answered) = some service') :
    Fewer service.broker service'.broker := by
  rw [GraceTimers.eventStep] at h
  split at h
  · cases answered with
    | true =>
      obtain rfl := Option.some.inj h
      exact (fewer_dropTag _ _ _).trans (fewer_cancelNext _ _)
    | false =>
      obtain rfl := Option.some.inj h
      exact .of_same rfl rfl
  · cases h

/-- The loop goes on, or the reporter is stopped. -/
theorem advances_cancelsOn (channel : Channel) (why : Ending) {service : GraceTimers.Service}
    (h : Fewer p.service.broker service.broker) : Advances p (cancelsOn p channel why service) := by
  show Advances p (if _ then _ else _)
  split
  · exact .of_fewer (q := { p with service }) h (advances_awaits trivial)
  · exact .of_fewer (q := { p with service }) h (advances_awaits trivial)

/-! ### Each await

  The awaits come in groups that rely on the same: none has a consumer yet (startup, set-up), or nothing
  is registered any more (teardown). Only the consume call is a case of its own. -/

/-- Up to the connection: nobody has a consumer yet.  The awaits rely on the same and differ in what
    their answers lead to: the next await, another try, or the start giving up. -/
theorem advances_startup {awaiting : MainAwait} (hp : p.service.broker.consumerTags = ∅)
    (hstartup : awaiting = .startupDelay ∨ awaiting = .initializePool ∨ awaiting = .probeColumns ∨
      (∃ declared, awaiting = .probeVeto declared) ∨ awaiting = .reportVetoes ∨
      ∃ startupRetry, awaiting = .connect startupRetry ∨ awaiting = .retryDelay startupRetry)
    (h : mainStep delay p awaiting answer = some p') : Advances p p' := by
  -- Nothing is registered before the first `consume`, and the handles do not matter here.
  have hloop := advances_connectLoop hp
  have hfewer : Fewer p.service.broker p.service.broker := .refl _
  obtain rfl | rfl | rfl | ⟨declared, rfl⟩ | rfl | ⟨startupRetry, rfl | rfl⟩ := hstartup
  -- The configuration, and the pool it gives.
  · cases answer with
    | cancelled => exact Option.some.inj h ▸ advances_ends p _
    | raised => exact Option.some.inj h ▸ advances_ends p _
    | nothing => exact Option.some.inj h ▸ advances_closePoolAndHealth p _
    | flag ok =>
      cases ok with
      | false => exact Option.some.inj h ▸ advances_ends p _
      | true =>
        obtain rfl := Option.some.inj h
        exact .of_fewer (q := { p with
          connectionPool := some p.nextPool
          openPools := p.openPools ++ [p.nextPool]
          nextPool := p.nextPool + 1 }) hfewer (advances_awaits hp)
    | _ => cases h
  -- The pool's first connections, with which the admission is built.
  · cases answer with
    | done =>
      obtain rfl := Option.some.inj h
      exact .of_fewer (q := { p with writeAdmission := p.connectionPool }) hfewer (advances_awaits hp)
    | raised => exact Option.some.inj h ▸ advances_closePoolAndHealth p _
    | cancelled => exact Option.some.inj h ▸ advances_ends p _
    | _ => cases h
  -- The two probes, and what they arm.
  · cases answer with
    | columns declared =>
      obtain rfl := Option.some.inj h
      split
      · exact advances_awaits hp
      · exact hloop 0
    | raised => exact Option.some.inj h ▸ hloop 0
    | cancelled => exact Option.some.inj h ▸ advances_ends p _
    | _ => cases h
  · cases answer with
    | flag ok =>
      cases ok with
      | false => exact Option.some.inj h ▸ hloop 0
      | true => exact advances_armPurge hp h
    | raised => exact Option.some.inj h ▸ hloop 0
    | cancelled => exact Option.some.inj h ▸ advances_ends p _
    | _ => cases h
  -- The report, and the connect loop.
  · cases answer with
    | done => exact Option.some.inj h ▸ hloop 0
    | raised => exact Option.some.inj h ▸ hloop 0
    | cancelled => exact Option.some.inj h ▸ advances_ends p _
    | _ => cases h
  · cases answer with
    | handle k =>
      obtain rfl := Option.some.inj h
      have hactive : Fewer p.service.broker { p.service.broker with activeConnection := some k } :=
        .of_same rfl rfl
      exact .of_fewer hactive (advances_awaits hp)
    | nothing =>
      obtain rfl := Option.some.inj h
      have hactive : Fewer p.service.broker { p.service.broker with activeConnection := none } :=
        .of_same rfl rfl
      exact .of_fewer hactive (advances_notConnected _)
    | raised =>
      obtain rfl := Option.some.inj h
      split
      · exact advances_awaits hp
      · exact advances_closePoolAndHealth p _
    | cancelled => exact Option.some.inj h ▸ advances_ends p _
    | _ => cases h
  · cases answer with
    | done => exact Option.some.inj h ▸ hloop startupRetry
    | cancelled => exact Option.some.inj h ▸ advances_ends p _
    | _ => cases h

/-- The channel and the queues: nor here.  A failure leaves through the connection's `async with`,
    which asks nothing of the consumers. -/
theorem advances_setUp {awaiting : MainAwait} (hp : p.service.broker.consumerTags = ∅)
    (hsetUp : (∃ k, awaiting = .enter k ∨ awaiting = .openChannel k) ∨
      ∃ channel, awaiting = .qos channel ∨
        ∃ declaration t rest, awaiting = .declare channel declaration t rest)
    (h : mainStep delay p awaiting answer = some p') : Advances p p' := by
  -- Leaving through the connection's exit asks nothing.
  have hexit (k : ConnectionId) (why : Ending) : Advances p (p.awaits (.exit k why)) :=
    advances_awaits trivial
  obtain ⟨k, rfl | rfl⟩ | ⟨channel, rfl | ⟨declaration, t, rest, rfl⟩⟩ := hsetUp
  -- Entering the connection, opening the channel, the prefetch, a declaration.
  · cases answer with
    | done => exact Option.some.inj h ▸ advances_awaits hp
    | raised => exact Option.some.inj h ▸ advances_ends p _
    | cancelled => exact Option.some.inj h ▸ advances_ends p _
    | _ => cases h
  · cases answer with
    | handle n =>
      obtain rfl := Option.some.inj h
      have hactive : Fewer p.service.broker { p.service.broker with activeChannel := some ⟨k, n⟩ } :=
        .of_same rfl rfl
      exact .of_fewer hactive (advances_awaits hp)
    | raised => exact Option.some.inj h ▸ hexit k _
    | cancelled => exact Option.some.inj h ▸ hexit k _
    | _ => cases h
  · cases answer with
    | done =>
      obtain rfl := Option.some.inj h
      let q := p.withBroker { p.service.broker with queues := ∅ }
      have hfewer : Fewer p.service.broker q.service.broker := .of_same rfl rfl
      have hq : q.service.broker.consumerTags = ∅ := hp
      exact .of_fewer hfewer (advances_declareNext hq channel _)
    | raised => exact Option.some.inj h ▸ hexit _ _
    | cancelled => exact Option.some.inj h ▸ hexit _ _
    | _ => cases h
  · cases answer with
    | done => exact Option.some.inj h ▸ advances_declared hp channel declaration t rest
    | raised => exact Option.some.inj h ▸ hexit _ _
    | cancelled => exact Option.some.inj h ▸ hexit _ _
    | _ => cases h

/-- The teardown, up to the disposal.  Its steps cancel consumers, tasks and timers in turn, and
    whatever an await comes to, the next one relies on nothing. -/
theorem advances_teardown {awaiting : MainAwait} {channel : Channel}
    (hteardown : awaiting = .serving channel ∨ ∃ why, awaiting = .cancelConsumers channel why ∨
      awaiting = .stopProgress channel why ∨ awaiting = .stopChecker channel why ∨
        ∃ pending, awaiting = .gatherTimers channel why pending)
    (h : mainStep delay p awaiting answer = some p') : Advances p p' := by
  have hexit (why : Ending) : Advances p (p.awaits (.exit channel.connection why)) :=
    advances_awaits trivial
  -- From here on consumers are only taken away.
  obtain rfl | ⟨why, rfl | rfl | rfl | ⟨pending, rfl⟩⟩ := hteardown
  -- Serving, until the shutdown, an interrupt or a cancellation.
  · cases answer with
    | done => exact Option.some.inj h ▸ advances_serve p channel
    | raised =>
      obtain rfl := Option.some.inj h
      exact .of_fewer (q := { p with interrupted := true }) (.refl _) (advances_stopServing _ channel _)
    | cancelled => exact Option.some.inj h ▸ advances_stopServing p channel _
    | _ => cases h
  -- `cancel_all_consumers`: each answer takes one tag, or none.
  · cases answer with
    | tags items =>
      obtain ⟨service, hservice, rfl⟩ := Option.map_eq_some_iff.mp h
      exact advances_cancelsOn channel why (fewer_gathered hservice)
    | done =>
      obtain ⟨service, hservice, rfl⟩ := Option.map_eq_some_iff.mp h
      exact advances_cancelsOn channel why (fewer_shutdownCancel hservice)
    | raised =>
      obtain ⟨service, hservice, rfl⟩ := Option.map_eq_some_iff.mp h
      exact advances_cancelsOn channel why (fewer_shutdownCancel hservice)
    | cancelled =>
      obtain rfl := Option.some.inj h
      exact .of_fewer (q := { p with service := { p.service with shutdown := none } }) (.refl _)
        (advances_awaits trivial)
    | _ => cases h
  -- The progress task and the checker's.
  · cases answer with
    | done => exact Option.some.inj h ▸ advances_stopChecker p channel why
    | cancelled => exact Option.some.inj h ▸ advances_stopChecker p channel why
    | raised => exact Option.some.inj h ▸ hexit _
    | _ => cases h
  · cases answer with
    | done => exact Option.some.inj h ▸ advances_cancelTimers p channel why
    | cancelled => exact Option.some.inj h ▸ advances_cancelTimers p channel why
    | _ => cases h
  -- The timers, all of which have ended once they are gathered.
  · cases answer with
    | done =>
      change (if _ then _ else _) = _ at h
      split at h
      · obtain rfl := Option.some.inj h
        have hcleared : Fewer p.service.broker { p.service.broker with consumerCancelTasks := ∅ } :=
          .of_same rfl rfl
        exact .of_fewer hcleared (advances_tearDown _ channel why)
      · cases h
    | cancelled => exact Option.some.inj h ▸ hexit _
    | _ => cases h

/-- A registration leads on, to the types that have none: the type that was just registered is not
    among the rest, as each comes once. -/
theorem advances_registered {channel on : Channel} {t : DataType} {rest : List DataType}
    (hclear : (MainAwait.consume channel on t rest).Clear p.service.broker) (consumerTag : String) :
    let q := p.withBroker (registerConsumer p.service.broker [] t ⟨consumerTag, on.connection⟩)
    Advances q (consumeNext q channel rest) := by
  obtain ⟨hnodup, hclear⟩ := hclear
  obtain ⟨ht, hnodup⟩ := List.nodup_cons.mp hnodup
  refine advances_consumeNext channel hnodup fun u hu hmem => ?_
  rcases Finmap.mem_insert.mp hmem with rfl | hmem
  · exact ht hu
  · exact hclear u (List.mem_cons_of_mem t hu) hmem

/-- **Each await of `main`, whatever it comes to**: the next one is clear, and at most the consumer
    it has come to is registered.  All awaits but one are a stretch that lets go of consumers
    (`Advances`).  The answer to `main`'s own consume call is the exception: it takes a place nobody
    has, and it cannot contradict the recovery's look, since beside a start no recovery runs
    (`hidle`). -/
theorem subscribed_mainStep {awaiting : MainAwait} (hp : Recovers p.service.broker)
    (hidle : ∀ channel on t rest, awaiting = .consume channel on t rest →
      p.service.broker.recovery = none)
    (hclear : awaiting.Clear p.service.broker) (h : mainStep delay p awaiting answer = some p') :
    Subscribed p' ∧ Single p.service.broker p'.service.broker := by
  have hfewer (hadvances : Advances p p') :
      Subscribed p' ∧ Single p.service.broker p'.service.broker :=
    ⟨hadvances.subscribed hp, hadvances.fewer.single⟩
  cases awaiting with
  | startupDelay => exact hfewer (advances_startup hclear (.inl rfl) h)
  | initializePool => exact hfewer (advances_startup hclear (.inr (.inl rfl)) h)
  | probeColumns => exact hfewer (advances_startup hclear (.inr (.inr (.inl rfl))) h)
  | probeVeto declared =>
    exact hfewer (advances_startup hclear (.inr (.inr (.inr (.inl ⟨declared, rfl⟩)))) h)
  | reportVetoes =>
    exact hfewer (advances_startup hclear (.inr (.inr (.inr (.inr (.inl rfl))))) h)
  | connect startupRetry =>
    exact hfewer (advances_startup hclear
      (.inr (.inr (.inr (.inr (.inr ⟨startupRetry, .inl rfl⟩))))) h)
  | retryDelay startupRetry =>
    exact hfewer (advances_startup hclear
      (.inr (.inr (.inr (.inr (.inr ⟨startupRetry, .inr rfl⟩))))) h)
  | closePoolAndHealth why awaiting =>
    obtain ⟨r, hr, rfl⟩ := Option.map_eq_some_iff.mp h
    exact hfewer (advances_afterFailedStart why (fewer_disposeStep hr))
  | enter k => exact hfewer (advances_setUp hclear (.inl ⟨k, .inl rfl⟩) h)
  | openChannel k => exact hfewer (advances_setUp hclear (.inl ⟨k, .inr rfl⟩) h)
  | qos channel => exact hfewer (advances_setUp hclear (.inr ⟨channel, .inl rfl⟩) h)
  | declare channel declaration t rest =>
    exact hfewer (advances_setUp hclear (.inr ⟨channel, .inr ⟨declaration, t, rest, rfl⟩⟩) h)
  | consume channel on t rest =>
    have hexit (why : Ending) : Advances p (p.awaits (.exit channel.connection why)) :=
      advances_awaits trivial
    cases answer with
    | tag consumerTag =>
      obtain rfl := Option.some.inj h
      -- The answer is a tag: the type gets its consumer, and the loop goes on with the rest.
      have hnext := advances_registered hclear consumerTag
      have hrecovers : Recovers (registerConsumer p.service.broker [] t
          ⟨consumerTag, on.connection⟩) := by
        -- No recovery runs beside a start.
        intro temp found on' t' rest' hrecovery
        cases (hidle channel on t rest rfl).symm.trans hrecovery
      refine ⟨hnext.subscribed hrecovers, ?_⟩
      intro u before after hbefore hafter
      exact single_registerConsumer (hclear.2 t List.mem_cons_self) u before after hbefore
        (hnext.fewer.consumers u after hafter)
    | raised => exact hfewer (Option.some.inj h ▸ hexit _)
    | cancelled => exact hfewer (Option.some.inj h ▸ hexit _)
    | _ => cases h
  | serving channel => exact hfewer (advances_teardown (.inl rfl) h)
  | cancelConsumers channel why => exact hfewer (advances_teardown (.inr ⟨why, .inl rfl⟩) h)
  | stopProgress channel why => exact hfewer (advances_teardown (.inr ⟨why, .inr (.inl rfl)⟩) h)
  | stopChecker channel why =>
    exact hfewer (advances_teardown (.inr ⟨why, .inr (.inr (.inl rfl))⟩) h)
  | gatherTimers channel why pending =>
    exact hfewer (advances_teardown (.inr ⟨why, .inr (.inr (.inr ⟨pending, rfl⟩))⟩) h)
  | disposing channel why awaiting =>
    obtain ⟨r, hr, rfl⟩ := Option.map_eq_some_iff.mp h
    exact hfewer (advances_afterDisposal channel why (fewer_disposeStep hr))
  | exit k why =>
    cases answer with
    | done => exact hfewer (Option.some.inj h ▸ advances_ends p _)
    | raised => exact hfewer (Option.some.inj h ▸ advances_ends p _)
    | cancelled => exact hfewer (Option.some.inj h ▸ advances_ends p _)
    | _ => cases h

end Main

/-! ## Whole processes

  `Kept` is carried along: it says where `main` is while the checker is there. -/

section Runs

variable {delay : Nat} {p p' : Process} {event : Event} {events : List Event}

/-- While the checker is there `main` is past its startup.  `Kept` has a process without checker at
    every await before it starts, and nothing else distinguishes the two sides. -/
theorem clear_of_checker (hp : Kept p) (hchecker : p.checker = true) {awaiting : MainAwait}
    (hmain : p.main = some awaiting) (b : State) : awaiting.Clear b := by
  have hholds := hp.main awaiting hmain
  have hmoving : ¬ Still p := fun hstill => by cases hchecker.symm.trans hstill.1
  cases awaiting with
  | startupDelay => cases hchecker.symm.trans (hp.holding.nothingLeft hholds).checker
  | initializePool => exact absurd (hp.holding.idle hholds.2).2 hmoving
  | probeVeto declared => exact absurd hholds.2.1 hmoving
  | probeColumns | reportVetoes | connect | retryDelay | enter | openChannel | qos | declare
  | consume => exact absurd hholds.2 hmoving
  | _ => trivial

/-- A `main` that passes the guard finds nothing left, no consumer in particular.  The guard looks
    at the pool and at the failure flag and not at the tags; that there are none without a pool is
    part of `Kept`. -/
theorem subscribed_begin (hp : Kept p) (hsubscribed : Subscribed p) : Subscribed (begin p) := by
  unfold begin
  split
  next =>
    let q : Process := { p with interrupted := false }
    exact (advances_ends q _).subscribed hsubscribed.recovery
  next hguard =>
    obtain ⟨hpool, -⟩ := (retained_eq_false_iff hp.holding).mp (Bool.not_eq_true _ ▸ hguard)
    have hempty : p.service.broker.consumerTags = ∅ := (hp.holding.nothingLeft hpool).broker.tags
    let q : Process := { p with
      writeAdmission := none, staleRowPurge := none, ended := none, interrupted := false }
    have hq : q.service.broker.consumerTags = ∅ := hempty
    have hnext : Advances q (q.awaits .startupDelay) := advances_awaits hq
    exact hnext.subscribed hsubscribed.recovery

/-- **Every event keeps the invariant**, and replaces no consumer.  Four kinds of events: a `main`
    begins, and is clear by the guard; `main` is answered; a task of the broker steps, and if it is
    the checker's, `main` relies on nothing by `clear_of_checker`; a signal comes, and changes no
    consumer. -/
theorem subscribed_processStep (hp : Kept p) (hsubscribed : Subscribed p)
    (h : processStep delay p event = some p') :
    Subscribed p' ∧ Single p.service.broker p'.service.broker := by
  have hsame : Single p.service.broker p.service.broker := (Fewer.refl _).single
  cases event with
  | begin =>
    change (if _ then _ else _) = _ at h
    split at h
    · obtain rfl := Option.some.inj h
      refine ⟨subscribed_begin hp hsubscribed, ?_⟩
      unfold begin
      split
      · exact hsame
      · exact hsame
    · cases h
  | answer a =>
    obtain ⟨awaiting, hawaiting, h⟩ := Option.bind_eq_some_iff.mp h
    have hholds := hp.main awaiting hawaiting
    apply subscribed_mainStep hsubscribed.recovery _ (hsubscribed.main awaiting hawaiting) h
    rintro channel on t rest rfl
    exact hholds.2.2
  | broker action =>
    change (if _ then _ else _) = _ at h
    split at h
    · cases h
    next hallowed =>
      obtain ⟨broker, hbroker, rfl⟩ := Option.map_eq_some_iff.mp h
      cases hchecker : isChecker action with
      | true =>
        -- A step of the checker needs the checker, so `main` is past its startup and relies on nothing.
        rw [hchecker, Bool.true_and, Bool.not_eq_true, Bool.not_eq_false'] at hallowed
        obtain ⟨hrecovers, hsingle⟩ := checker_step hsubscribed.recovery hchecker hbroker
        exact ⟨⟨fun awaiting hmain => clear_of_checker hp hallowed hmain broker, hrecovers⟩, hsingle⟩
      | false =>
        -- Any other task lets go of consumers, which both halves survive.
        have hfewer := fewer_step hchecker hbroker
        exact ⟨⟨fun awaiting hmain => hfewer.clear (hsubscribed.main awaiting hmain),
          hfewer.recovers hsubscribed.recovery⟩, hfewer.single⟩
  | signal =>
    obtain rfl := Option.some.inj h
    exact ⟨⟨hsubscribed.main, hsubscribed.recovery⟩, hsame⟩

/-- Both invariants, over any number of `main`s. -/
theorem subscribed_run (hrun : run (processStep delay) {} events = some p) : Kept p ∧ Subscribed p := by
  have hstep (q : Process) (event : Event) (q' : Process) (hq : Kept q ∧ Subscribed q)
      (h : processStep delay q event = some q') : Kept q' ∧ Subscribed q' :=
    ⟨kept_processStep hq.1 h, (subscribed_processStep hq.1 hq.2 h).1⟩
  have hstart : Kept {} ∧ Subscribed {} := ⟨kept_start, ⟨nofun, nofun⟩⟩
  exact run_invariant hstep hstart hrun

end Runs

/-! ## The result -/

/-- **One consumer for each type**: in every run of the process, whoever asks the broker for a consumer,
    `main` or the checker's recovery, does so for a type that has none, and still has none when the
    answer comes, whatever the deliveries, the timers and the other task do meanwhile; and no step
    replaces the consumer of a type by another one. -/
theorem no_type_is_subscribed_twice (delay : Nat) (events : List Event) (p p' : Process) (event : Event)
    (hrun : run (processStep delay) {} events = some p) (hstep : processStep delay p event = some p') :
    (∀ channel on t rest, p.main = some (.consume channel on t rest) →
      t ∉ p.service.broker.consumerTags) ∧
    (∀ temp found on t rest, p.service.broker.recovery = some (.consume temp found on t rest) →
      t ∉ p.service.broker.consumerTags) ∧
    ∀ t consumer consumer', p.service.broker.consumerTags.lookup t = some consumer →
      p'.service.broker.consumerTags.lookup t = some consumer' → consumer' = consumer := by
  obtain ⟨hkept, hsubscribed⟩ := subscribed_run hrun
  refine ⟨fun channel on t rest hmain => ?_, hsubscribed.recovery,
    (subscribed_processStep hkept hsubscribed hstep).2⟩
  exact (hsubscribed.main _ hmain).2 t List.mem_cons_self

/-- A grace timer cannot confirm its cancellation; the checker closes the connection, opens the next
    one, and has registered the first of its consumers. -/
def recoversWhileServing : List Event :=
  startsServing ++
  [.broker (.deliver "artists" .fileComplete), .broker (.timer 0 .answered),
    .broker (.timer 0 .raised), .broker (.check ⟨true, false, ["artists"], false⟩)] ++
  [0, 0, 8, 1, 3, 0, 0, 0, 0].map (fun n => .broker (.recover (.value n))) ++
  List.replicate 24 (.broker (.recover (.value 0))) ++ [.broker (.recover (.tag "a2"))]

theorem one_subscriber_while_recovering :
    ∃ p p', run (processStep 300) {} recoversWhileServing = some p ∧
      p.service.broker.consumerTags.lookup "artists" = some ⟨"a2", 8⟩ ∧
      processStep 300 p (.broker (.recover (.tag "l2"))) = some p' ∧
      p'.service.broker.consumerTags.count = 2 ∧
      ∀ t consumer consumer', p.service.broker.consumerTags.lookup t = some consumer →
        p'.service.broker.consumerTags.lookup t = some consumer' → consumer' = consumer := by
  have hrun : ((run (processStep 300) {} recoversWhileServing).bind fun p =>
      (processStep 300 p (.broker (.recover (.tag "l2")))).map fun p' =>
        decide (p.service.broker.consumerTags.lookup "artists" = some ⟨"a2", 8⟩) &&
          decide (p'.service.broker.consumerTags.count = 2)) = some true := by
    decide +kernel
  obtain ⟨p, hp, hstep⟩ := Option.bind_eq_some_iff.mp hrun
  obtain ⟨p', hp', hcounts⟩ := Option.map_eq_some_iff.mp hstep
  rw [Bool.and_eq_true, decide_eq_true_iff, decide_eq_true_iff] at hcounts
  exact ⟨p, p', hp, hcounts.1, hp', hcounts.2,
    (no_type_is_subscribed_twice 300 recoversWhileServing p p' _ hp hp').2.2⟩

end Lifecycle

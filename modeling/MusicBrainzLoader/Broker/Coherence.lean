/-
  What holds between the handles, the tags and the tasks.

  A tag or a channel that is kept belongs to the active connection.  Two steps can break that: a close
  that comes back after another connection has become active writes over the newer handles, and a
  recovery that goes on after its connection was closed registers a tag on it.

  `Undisturbed` rules out the two, step by step, and in an undisturbed run the bookkeeping stays
  coherent: every kept tag is registered on the active connection, and a close takes away only what
  belongs to the connection it began with and whose closure it confirmed.

  The obvious invariant, `Coherent` alone, is not kept: a step of the recovery or of a close is right
  only by what its task found when it was suspended.  So `Kept` adds, for each suspended task, what it
  relies on (`CloseCall.Own`, `RecoveryAwait.Relies`), and every other task has to leave that alone:

  1. **Closing** — a stretch of a close (`Closes`) leaves coherence, and takes only what it may.
  2. **Tasks that close nothing** — deliveries and new timers touch no handle (`Untouched`).
  3. **Timers** — a timer takes its own tag, or goes on with its close (`Ticks`).  What the recovery
     relies on survives that, since a handle only ever goes.
  4. **Recovery** — the one task that takes handles (`Leads`), and only while no connection is active or
     its own is.
  5. **`kept_step`, `bookkeeping_stays_coherent`** — the step over all tasks, and the run.
-/
import MusicBrainzLoader.Broker.Machine

namespace Broker

open Purge (DataType MUSICBRAINZ_DATA_TYPES)

/-! ## The condition -/

/-- The close call a step resumes, and whether its await was answered. -/
def closing (s : State) : Action → Option (CloseCall × Bool)
  | .timer i outcome => s.timers[i]?.bind fun timer =>
    match timer.awaiting, outcome with
    | .closing call, .answered => some (call, true)
    | .closing call, .raised => some (call, false)
    | _, _ => none
  | .recover reply =>
    match s.recovery with
    | some (.dropping call) => some (call, decide (reply ≠ .raised))
    | some (.closing call) => some (call, decide (reply ≠ .raised))
    | _ => none
  | _ => none

/-- The channel a step registers a consumer on. -/
def registering (s : State) : Action → Option Channel
  | .recover (.tag _) =>
    match s.recovery with
    | some (.consume _ _ on _ _) => some on
    | _ => none
  | _ => none

/-- A resumed close is about to touch the handles or the tags: it goes on after its channel, its await
    was answered, or it has confirmed a closure before. -/
def CloseCall.writes (call : CloseCall) (answered : Bool) : Bool :=
  match call.awaiting with
  | .channel _ => true
  | .connection _ => answered || call.confirmed

/-- A close that writes finds no other connection active than the one it began with, and a consumer is
    registered on the active connection. -/
def Undisturbed (s : State) (a : Action) : Prop :=
  (∀ r ∈ closing s a, r.1.writes r.2 = true →
    s.activeConnection = none ∨ s.activeConnection = r.1.began) ∧
  (∀ on ∈ registering s a, s.activeConnection = some on.connection)

instance (s : State) (a : Action) : Decidable (Undisturbed s a) :=
  inferInstanceAs (Decidable (_ ∧ _))

/-- The connections a close has confirmed once this await is over. -/
def CloseCall.confirms (call : CloseCall) (answered : Bool) : List ConnectionId :=
  if answered then
    match call.awaiting with
    | .channel c => c.connection :: call.closed
    | .connection k => k :: call.closed
  else call.closed

/-! ## The invariant -/

/-- The handles and tags that are kept belong to the active connection. -/
structure Coherent (s : State) : Prop where
  channel : ∀ c, s.activeChannel = some c → s.activeConnection = some c.connection
  registered : ∀ t consumer, s.consumerTags.lookup t = some consumer →
    s.activeConnection = some consumer.connection

/-- A close awaits what belongs to the connection it began with; when it has confirmed a closure, it is
    that connection's. -/
structure CloseCall.Own (call : CloseCall) : Prop where
  awaits : match call.awaiting with
    | .channel c => call.began = some c.connection
    | .connection k => call.began = some k
  confirms : call.confirmed = true → ∃ k ∈ call.closed, call.began = some k

/-- What a suspended recovery relies on: before it activates its connection none is active, and
    afterwards no other is. -/
def RecoveryAwait.Relies (active : Option ConnectionId) : RecoveryAwait → Prop
  | .dropping call => call.Own
  | .closing call => call.Own
  | .connect | .openChannel _ | .declarePassive _ _ _ _ | .closeTempChannel _
  | .closeTempConnection _ => active = none
  | .qos temp _ | .declare temp _ _ _ _ _ | .consume temp _ _ _ _ =>
    active = none ∨ active = some temp.connection

/-- The invariant: coherence, and of each suspended task what its next stretch relies on.  A timer's
    close and a recovery's are the same kind of call, so what is asked of them is the same,
    `CloseCall.Own`; the recovery's other awaits rely on the active connection. -/
structure Kept (s : State) : Prop where
  coherent : Coherent s
  timers : ∀ timer ∈ s.timers, ∀ call, timer.awaiting = .closing call → call.Own
  recovery : ∀ awaiting, s.recovery = some awaiting → awaiting.Relies s.activeConnection

/-- Nothing but the handles, the tags and the failure flag has changed, and the active connection
    was closed at most.  This is all a stretch of a close does to what OTHER tasks rely on. -/
structure Released (s s' : State) : Prop where
  active : s'.activeConnection = s.activeConnection ∨ s'.activeConnection = none
  timers : s'.timers = s.timers
  recovery : s'.recovery = s.recovery

/-- What a resumed close takes is of the connection it began with: the channel and the tags once it has
    confirmed that connection's closure, or its channel's, and the connection when its own close is
    answered. -/
structure TakesOnly (call : CloseCall) (answered : Bool) (s s' : State) : Prop where
  channel : ∀ c, s.activeChannel = some c → s'.activeChannel ≠ some c →
    c.connection ∈ call.confirms answered ∧ call.began = some c.connection
  connection : ∀ k, s.activeConnection = some k → s'.activeConnection ≠ some k →
    (call.awaiting = .connection k ∧ answered = true) ∧ call.began = some k
  tags : ∀ t consumer, s.consumerTags.lookup t = some consumer → s'.consumerTags.lookup t = none →
    consumer.connection ∈ call.confirms answered ∧ call.began = some consumer.connection

/-! ## Closing

  A close is two awaits, of the channel and of the connection, with a stretch of code before, between
  and after them. Each stretch is a lemma about coherent states; that the state has changed since the
  stretch before it is what `hundisturbed` is about. -/

section Close

variable {s : State} {call : CloseCall} {began : Option ConnectionId} {answered : Bool}

/-- Without a connection there is no tag and no channel. -/
theorem Coherent.of_inactive (h : Coherent s) (hnone : s.activeConnection = none) :
    s.consumerTags = ∅ ∧ s.activeChannel = none := by
  constructor
  · refine Table.ext_lookup fun t => ?_
    cases ht : s.consumerTags.lookup t with
    | none => rfl
    | some consumer => cases hnone.symm.trans (h.registered t consumer ht)
  · cases hc : s.activeChannel with
    | none => rfl
    | some c => cases hnone.symm.trans (h.channel c hc)

/-- What any stretch of a close's code guarantees, from `s` to where it comes: coherence is kept,
    other tasks find what `Released` leaves them, a close that suspends again awaits what is its
    own, and one that returns true has left no connection active, which is what the recovery waits
    for. -/
structure Closes (s : State) (r : State × CloseNext) : Prop where
  coherent : Coherent r.1
  released : Released s r.1
  suspends : ∀ call, r.2 = .suspended call → call.Own
  returns : r.2 = .returned true → r.1.activeConnection = none

/-- The end of a close leaves the handles, and clears the tags when something was confirmed.
    Clearing all tags is coherent whatever was confirmed; that it takes only what it may is for the
    stretch that comes here. -/
theorem finishClose_closes (confirmed : Bool) (hs : Coherent s) :
    Closes s (finishClose s confirmed) ∧
    (finishClose s confirmed).1.activeConnection = s.activeConnection ∧
    (finishClose s confirmed).1.activeChannel = s.activeChannel ∧
    (finishClose s confirmed).1.consumerTags = (if confirmed then ∅ else s.consumerTags) := by
  cases confirmed with
  | false =>
    refine ⟨⟨⟨hs.channel, hs.registered⟩, ⟨Or.inl rfl, rfl, rfl⟩, ?_, ?_⟩, rfl, rfl, rfl⟩
    · exact fun _ h => CloseNext.noConfusion h
    · intro h
      cases h
  | true =>
    refine ⟨⟨⟨hs.channel, ?_⟩, ⟨Or.inl rfl, rfl, rfl⟩, ?_, ?_⟩, rfl, rfl, rfl⟩
    · intro t consumer h
      cases h
    · exact fun _ h => CloseNext.noConfusion h
    -- It returns true for a connection that is closed and off the state, or was never there.
    · intro h
      have h : CloseNext.returned (!s.activeConnection.isSome) = .returned true := h
      show s.activeConnection = none
      cases hactive : s.activeConnection with
      | none => rfl
      | some k =>
        rw [hactive] at h
        cases h

/-- The second half of a close takes nothing: with a connection it suspends, and without one there
    is nothing left.  The code reads the active connection AGAIN here, after the channel's await,
    and would go on to close whatever it finds; `hbegan` is that it finds the one it began with. -/
theorem closeConnection_closes (confirmed : Bool) (closed : List ConnectionId) (hs : Coherent s)
    (hbegan : s.activeConnection = none ∨ s.activeConnection = began)
    (hconfirmed : s.activeConnection ≠ none → confirmed = true → ∃ k ∈ closed, began = some k) :
    Closes s (closeConnection s began confirmed closed) ∧
    (closeConnection s began confirmed closed).1.activeConnection = s.activeConnection ∧
    (closeConnection s began confirmed closed).1.activeChannel = s.activeChannel ∧
    (closeConnection s began confirmed closed).1.consumerTags = s.consumerTags := by
  cases hactive : s.activeConnection with
  | none =>
    -- Nothing to close any more: somebody else has closed it meanwhile.
    have hclose : closeConnection s began confirmed closed = finishClose s confirmed := by
      unfold closeConnection
      rw [hactive]
    obtain ⟨hcloses, hconnection, hchannel, htags⟩ := finishClose_closes confirmed hs
    rw [hclose, htags]
    refine ⟨hcloses, hconnection.trans hactive, hchannel, ?_⟩
    -- Without a connection there was no tag to keep, whatever was confirmed.
    rw [(hs.of_inactive hactive).1]
    exact ite_self _
  | some k =>
    have hclose : closeConnection s began confirmed closed =
        (s, .suspended ⟨began, confirmed, closed, .connection k⟩) := by
      unfold closeConnection
      rw [hactive]
    -- The connection found here is the one that was active when the call began.
    have hbegan : began = some k := by
      rcases hbegan with hnone | hsame
      · cases hnone.symm.trans hactive
      · exact hsame.symm.trans hactive
    rw [hclose]
    refine ⟨⟨hs, ⟨Or.inl rfl, rfl, rfl⟩, ?_, ?_⟩, hactive, rfl, rfl⟩
    · intro call h
      cases h
      refine ⟨hbegan, hconfirmed ?_⟩
      rw [hactive]
      exact Option.some_ne_none k
    · intro h
      cases h

/-- A close begins with the active connection, and takes nothing yet. -/
theorem startClose_closes (hs : Coherent s) :
    Closes s (startClose s) ∧ (startClose s).1.activeConnection = s.activeConnection ∧
    (startClose s).1.consumerTags = s.consumerTags := by
  unfold startClose
  dsimp only
  cases hchannel : s.activeChannel with
  | some c =>
    -- A channel belongs to the active connection, so what is to be closed is what is active.
    have hactive := hs.channel c hchannel
    refine ⟨⟨hs, ⟨Or.inl rfl, rfl, rfl⟩, ?_, ?_⟩, rfl, rfl⟩
    · intro call h
      cases h
      refine ⟨hactive, ?_⟩
      rw [hactive]
      exact fun h => Bool.noConfusion h
    · intro h
      cases h
  | none =>
    -- Nothing is confirmed yet, and with a connection active nothing counts as confirmed.
    have hunconfirmed (hne : s.activeConnection ≠ none)
        (h : (s.activeConnection.isNone && (none : Option Channel).isNone &&
          decide (s.consumerTags.count = 0)) = true) :
        ∃ k ∈ [], s.activeConnection = some k := by
      obtain ⟨k, hactive⟩ := Option.ne_none_iff_exists'.mp hne
      rw [hactive] at h
      cases h
    obtain ⟨hcloses, hconnection, -, htags⟩ :=
      closeConnection_closes _ [] hs (Or.inr rfl) hunconfirmed
    exact ⟨hcloses, hconnection, htags⟩

/-- Where handles and tags are as they were, nothing is taken. -/
theorem takesOnly_of_same {s' : State}
    (hconnection : s'.activeConnection = s.activeConnection)
    (hchannel : s'.activeChannel = s.activeChannel) (htags : s'.consumerTags = s.consumerTags) :
    TakesOnly call answered s s' := by
  constructor
  · exact fun c hc hgone => absurd (hchannel.trans hc) hgone
  · exact fun k hk hgone => absurd (hconnection.trans hk) hgone
  · intro t consumer ht hgone
    rw [htags, ht] at hgone
    cases hgone

/-- **A resumed close takes only what it confirmed**, of the connection it began with.  It has four
    ways to come back, from the channel or the connection, answered or not.  After the channel it
    only reads on; after the connection it writes, and what it writes over is its own since
    `hundisturbed` says whose connection is active; an unanswered one that had confirmed the
    channel's closure before still clears the tags, and these are that channel's connection's. -/
theorem resumeClose_closes (hs : Coherent s) (hown : call.Own)
    (hundisturbed : call.writes answered = true →
      s.activeConnection = none ∨ s.activeConnection = call.began) :
    Closes s (resumeClose s call answered) ∧
      TakesOnly call answered s (resumeClose s call answered).1 := by
  obtain ⟨began, confirmed, closed, awaiting⟩ := call
  obtain ⟨hawaits, hconfirms⟩ := hown
  -- What is active is the connection the call began with.
  have hsame (hwrites : CloseCall.writes ⟨began, confirmed, closed, awaiting⟩ answered = true)
      {k : ConnectionId} (hactive : s.activeConnection = some k) : began = some k := by
    rcases hundisturbed hwrites with hnone | hbegan
    · cases hnone.symm.trans hactive
    · exact hbegan.symm.trans hactive
  cases awaiting with
  | channel c =>
    have hbegan : began = some c.connection := hawaits
    cases answered with
    | true =>
      have hcleared : Coherent { s with activeChannel := none } := by
        refine ⟨?_, hs.registered⟩
        intro c' h
        cases h
      obtain ⟨⟨hcoherent, hreleased, hsuspends, hreturns⟩, hconnection, -, htags⟩ :=
        closeConnection_closes true (c.connection :: closed) hcleared (hundisturbed rfl)
          fun _ _ => ⟨c.connection, List.mem_cons_self, hbegan⟩
      refine ⟨⟨hcoherent, ⟨hreleased.active, hreleased.timers, hreleased.recovery⟩, hsuspends,
        hreturns⟩, ?_, ?_, ?_⟩
      · intro c' hc' _
        have hbegan' := hsame rfl (hs.channel c' hc')
        refine ⟨?_, hbegan'⟩
        rw [← Option.some.inj (hbegan.symm.trans hbegan')]
        exact List.mem_cons_self
      · exact fun k hk hgone => absurd (hconnection.trans hk) hgone
      · intro t consumer ht hgone
        have hgone : s.consumerTags.lookup t = none := htags ▸ hgone
        cases ht.symm.trans hgone
    | false =>
      obtain ⟨hcloses, hconnection, hchannel, htags⟩ :=
        closeConnection_closes confirmed closed hs (hundisturbed rfl) fun _ => hconfirms
      exact ⟨hcloses, takesOnly_of_same hconnection hchannel htags⟩
  | connection k =>
    have hbegan : began = some k := hawaits
    cases answered with
    | true =>
      have hcoherent : Coherent (resumeClose s ⟨began, confirmed, closed, .connection k⟩ true).1 := by
        constructor
        · intro c h
          cases h
        · intro t consumer h
          cases h
      refine ⟨⟨hcoherent, ⟨Or.inr rfl, rfl, rfl⟩, fun _ h => CloseNext.noConfusion h, fun _ => rfl⟩,
        ?_, ?_, ?_⟩
      · intro c hc _
        have hbegan' := hsame rfl (hs.channel c hc)
        refine ⟨?_, hbegan'⟩
        rw [← Option.some.inj (hbegan.symm.trans hbegan')]
        exact List.mem_cons_self
      · intro k' hk' _
        have hbegan' := hsame rfl hk'
        refine ⟨⟨?_, rfl⟩, hbegan'⟩
        rw [← Option.some.inj (hbegan.symm.trans hbegan')]
      · intro t consumer ht _
        have hbegan' := hsame rfl (hs.registered t consumer ht)
        refine ⟨?_, hbegan'⟩
        rw [← Option.some.inj (hbegan.symm.trans hbegan')]
        exact List.mem_cons_self
    | false =>
      obtain ⟨hcloses, hconnection, hchannel, htags⟩ := finishClose_closes confirmed hs
      cases confirmed with
      | false => exact ⟨hcloses, takesOnly_of_same hconnection hchannel htags⟩
      | true =>
        refine ⟨hcloses, ?_, ?_, ?_⟩
        · exact fun c hc hgone => absurd (hchannel.trans hc) hgone
        · exact fun k hk hgone => absurd (hconnection.trans hk) hgone
        · intro t consumer ht _
          have hbegan' := hsame rfl (hs.registered t consumer ht)
          obtain ⟨k', hk', hbegan''⟩ := hconfirms rfl
          refine ⟨?_, hbegan'⟩
          rw [← Option.some.inj (hbegan''.symm.trans hbegan')]
          exact hk'

end Close

/-! ## Tasks that close nothing -/

/-- The handles, the tags and the recovery are as they were, and no timer has come into a close.
    New timers may have been armed and old ones cancelled: neither is in a close, or newly so. -/
structure Untouched (s s' : State) : Prop where
  connection : s'.activeConnection = s.activeConnection
  channel : s'.activeChannel = s.activeChannel
  tags : s'.consumerTags = s.consumerTags
  recovery : s'.recovery = s.recovery
  timers : ∀ timer' ∈ s'.timers, ∀ call, timer'.awaiting = .closing call →
    ∃ timer ∈ s.timers, timer.awaiting = .closing call

section Untouched

variable {s s' s'' : State}

/-- Nothing touched twice is nothing touched. -/
theorem Untouched.trans (h : Untouched s s') (h' : Untouched s' s'') : Untouched s s'' := by
  refine ⟨h'.connection.trans h.connection, h'.channel.trans h.channel, h'.tags.trans h.tags,
    h'.recovery.trans h.recovery, ?_⟩
  intro timer'' hmem call hcall
  obtain ⟨timer', hmem', hcall'⟩ := h'.timers timer'' hmem call hcall
  exact h.timers timer' hmem' call hcall'

/-- The invariant speaks of nothing else. -/
theorem Untouched.kept (h : Untouched s s') (hs : Kept s) : Kept s' := by
  refine ⟨⟨?_, ?_⟩, ?_, ?_⟩
  · rw [h.channel, h.connection]
    exact hs.coherent.channel
  · rw [h.tags, h.connection]
    exact hs.coherent.registered
  · intro timer' hmem call hcall
    obtain ⟨timer, hmem', hcall'⟩ := h.timers timer' hmem call hcall
    exact hs.timers timer hmem' call hcall'
  · rw [h.recovery, h.connection]
    exact hs.recovery

/-- A cancelled timer is marked, and runs on to its end later. -/
theorem untouched_cancelTask (s : State) (task : Nat) : Untouched s (cancelTask s task) := by
  refine ⟨rfl, rfl, rfl, rfl, ?_⟩
  intro timer' hmem call hcall
  obtain ⟨timer, hmem', rfl⟩ := List.mem_map.mp hmem
  refine ⟨timer, hmem', ?_⟩
  split at hcall
  · exact hcall
  · exact hcall

/-- A record withdraws its type's timer. -/
theorem untouched_withdrawTimer (s : State) (t : DataType) : Untouched s (withdrawTimer s t) := by
  unfold withdrawTimer
  split
  · rename_i task _
    obtain ⟨hconnection, hchannel, htags, hrecovery, htimers⟩ := untouched_cancelTask s task
    exact ⟨hconnection, hchannel, htags, hrecovery, htimers⟩
  · exact ⟨rfl, rfl, rfl, rfl, fun timer hmem _ hcall => ⟨timer, hmem, hcall⟩⟩

/-- A timer that is pending already is cancelled. -/
theorem untouched_cancelPending (s : State) (pending : Option Nat) :
    Untouched s (match pending with
      | some task => cancelTask s task
      | none => s) := by
  cases pending with
  | some task => exact untouched_cancelTask s task
  | none => exact ⟨rfl, rfl, rfl, rfl, fun timer hmem _ hcall => ⟨timer, hmem, hcall⟩⟩

/-- A new timer sleeps. -/
theorem untouched_schedule (s : State) (t : DataType) :
    Untouched s (scheduleConsumerCancellation s t) := by
  have hcancelled := untouched_cancelPending s (s.consumerCancelTasks.lookup t)
  refine hcancelled.trans ⟨rfl, rfl, rfl, rfl, ?_⟩
  intro timer' hmem call hcall
  rcases List.mem_append.mp hmem with hmem | hmem
  · exact ⟨timer', hmem, hcall⟩
  · obtain rfl := List.mem_singleton.mp hmem
    cases hcall

/-- A completed type's timer is armed, unless its delay is zero. -/
theorem untouched_armTimer (delay : Nat) (s : State) (t : DataType) :
    Untouched s (armTimer delay s t) := by
  unfold armTimer
  split
  · exact untouched_schedule s t
  · exact ⟨rfl, rfl, rfl, rfl, fun timer hmem _ hcall => ⟨timer, hmem, hcall⟩⟩

/-- A delivery completes a type or withdraws its completion, and touches no handle. -/
theorem untouched_handleDataMessage (delay : Nat) (s : State) (t : DataType) (message : Message) :
    Untouched s (handleDataMessage delay s t message) := by
  cases message with
  | record =>
    obtain ⟨hconnection, hchannel, htags, hrecovery, htimers⟩ :=
      untouched_withdrawTimer { s with completedFiles := s.completedFiles.erase t } t
    exact ⟨hconnection, hchannel, htags, hrecovery, htimers⟩
  | fileComplete =>
    obtain ⟨hconnection, hchannel, htags, hrecovery, htimers⟩ := untouched_armTimer delay s t
    exact ⟨hconnection, hchannel, htags, hrecovery, htimers⟩
  | extractionComplete =>
    obtain ⟨hconnection, hchannel, htags, hrecovery, htimers⟩ := untouched_withdrawTimer s t
    exact ⟨hconnection, hchannel, htags, hrecovery, htimers⟩

/-- So does the end of a reconciliation. -/
theorem untouched_reconciled (delay : Nat) (s : State) (i : Nat) (t : DataType) (ok : Bool) :
    Untouched s (reconciled delay s i t ok) := by
  cases ok with
  | true =>
    obtain ⟨hconnection, hchannel, htags, hrecovery, htimers⟩ :=
      untouched_armTimer delay { s with reconciling := s.reconciling.eraseIdx i } t
    exact ⟨hconnection, hchannel, htags, hrecovery, htimers⟩
  | false => exact ⟨rfl, rfl, rfl, rfl, fun timer hmem _ hcall => ⟨timer, hmem, hcall⟩⟩

end Untouched

/-! ## Timers

  A timer has three awaits: it sleeps, it cancels its consumer, and the last one closes. Only the close
  needs the condition of `Undisturbed`. -/

section Step

variable {s s' : State}

/-- The active connection is the one it was, or closed, over both stretches. -/
theorem Released.trans {s₁ s₂ s₃ : State} (h : Released s₁ s₂) (h' : Released s₂ s₃) :
    Released s₁ s₃ := by
  refine ⟨?_, h'.timers.trans h.timers, h'.recovery.trans h.recovery⟩
  rcases h'.active with hsame | hnone
  · rw [hsame]
    exact h.active
  · exact Or.inr hnone

/-- A connection that is closed under a recovery leaves it what it relies on: each clause of
    `RecoveryAwait.Relies` speaks of one connection that may be active, and none being active is
    always among the cases. -/
theorem RecoveryAwait.Relies.released {awaiting : RecoveryAwait} {active active' : Option ConnectionId}
    (h : awaiting.Relies active) (hactive : active' = active ∨ active' = none) :
    awaiting.Relies active' := by
  rcases hactive with rfl | rfl
  · exact h
  · cases awaiting with
    | dropping call => exact h
    | closing call => exact h
    | qos temp found => exact Or.inl rfl
    | declare temp found declaration on t rest => exact Or.inl rfl
    | consume temp found on t rest => exact Or.inl rfl
    | _ => rfl

/-- What a stretch of a timer's code guarantees, from `s` to where it comes.  A timer neither takes
    a handle nor knows of the recovery, so this is what a close guarantees, without the result
    nobody reads. -/
structure Ticks (s : State) (r : State × Option TimerAwait) : Prop where
  coherent : Coherent r.1
  released : Released s r.1
  owns : ∀ call, r.2 = some (.closing call) → call.Own

/-- A timer that closes stands where its close does. -/
theorem Ticks.of_closes {r : State × CloseNext} (h : Closes s r) :
    Ticks s (r.1, TimerAwait.ofClose r.2) := by
  refine ⟨h.coherent, h.released, fun call hcall => h.suspends call ?_⟩
  obtain ⟨s₁, next⟩ := r
  cases next with
  | suspended call' =>
    cases hcall
    rfl
  | returned ok => cases hcall

/-- The timer goes on to an await that closes nothing, or it ends. -/
theorem Ticks.without_close {s₁ : State} (hs : Coherent s₁) (hreleased : Released s s₁)
    {next : Option TimerAwait} (hnext : ∀ call, next ≠ some (.closing call)) : Ticks s (s₁, next) :=
  ⟨hs, hreleased, fun call hcall => absurd hcall (hnext call)⟩

/-- What came before a stretch may have let go of handles. -/
theorem Ticks.after {s₁ : State} {r : State × Option TimerAwait} (hreleased : Released s s₁)
    (h : Ticks s₁ r) : Ticks s r :=
  ⟨h.coherent, hreleased.trans h.released, h.owns⟩

/-- A timer that fails, or is cancelled, sets the failure flag. -/
theorem ticks_cancellationFailed (hs : Coherent s) :
    Ticks s ({ s with consumerCancellationFailed := true }, none) := by
  have hcoherent : Coherent { s with consumerCancellationFailed := true } :=
    ⟨hs.channel, hs.registered⟩
  exact ⟨hcoherent, ⟨Or.inl rfl, rfl, rfl⟩, by simp⟩

section TimerStep

variable {timer : Timer} {outcome : TimerOutcome} {r : State × Option TimerAwait}

/-- After its delay a timer cancels its consumer, or finds nothing to cancel. -/
theorem ticks_sleep (hs : Coherent s) (hawaiting : timer.awaiting = .sleep)
    (h : timerStep s timer outcome = some r) : Ticks s r := by
  -- Awake or cancelled, the timer leaves the handles alone.
  have hstays (next : Option TimerAwait) (hnext : ∀ call, next ≠ some (.closing call)) :
      Ticks s (s, next) :=
    Ticks.without_close hs ⟨Or.inl rfl, rfl, rfl⟩ hnext
  unfold timerStep at h
  rw [hawaiting] at h
  cases outcome with
  | answered =>
    dsimp only at h
    split at h
    · cases h
    split at h
    · obtain rfl := Option.some.inj h
      exact hstays _ (by simp)
    · obtain rfl := Option.some.inj h
      exact hstays _ (by simp)
  | raised => cases h
  | cancelled =>
    dsimp only at h
    split at h
    · obtain rfl := Option.some.inj h
      exact hstays _ (by simp)
    · cases h

/-- The cancellation is confirmed or not; with the last consumer gone a close begins.  The tag it
    erases is its own type's, and only if it is still the one the timer cancelled. -/
theorem ticks_cancelConsumer (hs : Coherent s) (hawaiting : timer.awaiting = .cancelConsumer)
    (h : timerStep s timer outcome = some r) : Ticks s r := by
  unfold timerStep at h
  rw [hawaiting] at h
  cases outcome with
  | answered =>
    dsimp only at h
    -- The cancelled consumer's tag goes; the handles stay.
    generalize hs₁ : (if (s.consumerTags.lookup timer.dataType).map (·.tag) = timer.consumerTag then
      { s with consumerTags := s.consumerTags.erase timer.dataType } else s) = s₁ at h
    have hremoved : Coherent s₁ ∧ Released s s₁ := by
      subst hs₁
      split
      · refine ⟨⟨hs.channel, ?_⟩, Or.inl rfl, rfl, rfl⟩
        intro t consumer ht
        by_cases heq : t = timer.dataType
        · subst heq
          cases (Finmap.lookup_erase timer.dataType s.consumerTags).symm.trans ht
        · exact hs.registered t consumer ((Finmap.lookup_erase_ne heq).symm.trans ht)
      · exact ⟨hs, Or.inl rfl, rfl, rfl⟩
    obtain ⟨hcoherent, hreleased⟩ := hremoved
    split at h
    · -- It was the last consumer: the timer closes the connection.
      obtain rfl := Option.some.inj h
      exact (Ticks.of_closes (startClose_closes hcoherent).1).after hreleased
    · obtain rfl := Option.some.inj h
      exact Ticks.without_close hcoherent hreleased (by simp)
  | raised =>
    obtain rfl := Option.some.inj h
    exact ticks_cancellationFailed hs
  | cancelled =>
    dsimp only at h
    split at h
    · obtain rfl := Option.some.inj h
      exact ticks_cancellationFailed hs
    · cases h

/-- A close that a timer has under way, resumed: what it guarantees, and what it takes.  A timer
    that is cancelled inside its close ends there; only the failure flag is set, and nothing is
    taken. -/
theorem ticks_closing {call : CloseCall} (hs : Coherent s) (hown : call.Own)
    (hawaiting : timer.awaiting = .closing call)
    (hundisturbed : outcome ≠ .cancelled → call.writes (decide (outcome = .answered)) = true →
      s.activeConnection = none ∨ s.activeConnection = call.began)
    (h : timerStep s timer outcome = some r) :
    Ticks s r ∧ (outcome ≠ .cancelled →
      TakesOnly call (decide (outcome = .answered)) s r.1) := by
  unfold timerStep at h
  rw [hawaiting] at h
  cases outcome with
  | answered =>
    obtain rfl := Option.some.inj h
    -- What the await comes to is its own affair: answered or not, the call resumes, and its resume only
    -- takes what it may.
    obtain ⟨hcloses, htakes⟩ := resumeClose_closes hs hown (hundisturbed TimerOutcome.noConfusion)
    exact ⟨Ticks.of_closes hcloses, fun _ => htakes⟩
  | raised =>
    obtain rfl := Option.some.inj h
    obtain ⟨hcloses, htakes⟩ := resumeClose_closes hs hown (hundisturbed TimerOutcome.noConfusion)
    exact ⟨Ticks.of_closes hcloses, fun _ => htakes⟩
  | cancelled =>
    dsimp only at h
    split at h
    · obtain rfl := Option.some.inj h
      -- Cancelled inside the close, where only the failure flag is set.
      exact ⟨ticks_cancellationFailed hs, fun hne => absurd rfl hne⟩
    · cases h

/-- What a timer's step guarantees, when the connection under its close is undisturbed. -/
theorem timerStep_ticks (hs : Coherent s) (hown : ∀ call, timer.awaiting = .closing call → call.Own)
    (hundisturbed : ∀ call, timer.awaiting = .closing call → outcome ≠ .cancelled →
      call.writes (decide (outcome = .answered)) = true →
        s.activeConnection = none ∨ s.activeConnection = call.began)
    (h : timerStep s timer outcome = some r) : Ticks s r := by
  cases hawaiting : timer.awaiting with
  | sleep => exact ticks_sleep hs hawaiting h
  | cancelConsumer => exact ticks_cancelConsumer hs hawaiting h
  | closing call =>
    exact (ticks_closing hs (hown call hawaiting) hawaiting (hundisturbed call hawaiting) h).1

end TimerStep

/-- The timers and what else is kept, once one of them has come further.  The other timers' closes
    are as they were, and the recovery relies on no more than a release leaves it. -/
theorem Ticks.kept {r : State × Option TimerAwait} (hs : Kept s) (h : Ticks s r) (i : Nat)
    (timer : Timer) : Kept (resumedTimer r.1 i timer r.2) := by
  obtain ⟨s₁, next⟩ := r
  obtain ⟨hcoherent, hreleased, howns⟩ := h
  have htimers : ∀ timer' ∈ s₁.timers, ∀ call, timer'.awaiting = .closing call → call.Own := by
    rw [show s₁.timers = s.timers from hreleased.timers]
    exact hs.timers
  have hrecovery : ∀ awaiting, s₁.recovery = some awaiting → awaiting.Relies s₁.activeConnection := by
    intro awaiting hawaiting
    rw [show s₁.recovery = s.recovery from hreleased.recovery] at hawaiting
    exact (hs.recovery awaiting hawaiting).released hreleased.active
  cases next with
  | some awaiting =>
    refine ⟨⟨hcoherent.channel, hcoherent.registered⟩, ?_, hrecovery⟩
    intro timer' hmem call hcall
    rcases List.mem_or_eq_of_mem_set hmem with hold | rfl
    · exact htimers timer' hold call hcall
    · exact howns call (congrArg some hcall)
  | none =>
    refine ⟨⟨hcoherent.channel, hcoherent.registered⟩, ?_, hrecovery⟩
    exact fun timer' hmem => htimers timer' (List.mem_of_mem_eraseIdx hmem)

/-! ## Recovery

  Up to its activation the recovery holds a connection nobody else knows of, and relies on none being
  active; after it, on no other. Both survive a close by another task, which is why the loops go through
  without a condition; only a registration, which writes a tag of that connection, needs the connection
  to be active still. -/

/-- What a stretch of the recovery's code guarantees, from `s` to where it comes.  It is the one
    task that makes a connection active, so unlike a timer's stretch it is no release; what the
    timers rely on is in their own calls, which it leaves alone. -/
structure Leads (s : State) (r : State × Option RecoveryAwait) : Prop where
  coherent : Coherent r.1
  timers : r.1.timers = s.timers
  relies : ∀ awaiting, r.2 = some awaiting → awaiting.Relies r.1.activeConnection

/-- The recovery is over. -/
theorem Leads.ends (hs : Coherent s) : Leads s (s, none) :=
  ⟨hs, rfl, by simp⟩

/-- It goes on to an await that the active connection bears out. -/
theorem Leads.waits (hs : Coherent s) {awaiting : RecoveryAwait}
    (hrelies : awaiting.Relies s.activeConnection) : Leads s (s, some awaiting) := by
  refine ⟨hs, rfl, ?_⟩
  intro awaiting' hawaiting
  cases hawaiting
  exact hrelies

/-- What was left over is closed, and a connection is asked for: none is active now. -/
theorem leads_afterDrop {r : State × CloseNext} (h : Closes s r) : Leads s (afterDrop r) := by
  obtain ⟨s₁, next⟩ := r
  cases next with
  | suspended call =>
    refine ⟨h.coherent, h.released.timers, ?_⟩
    intro awaiting hawaiting
    cases hawaiting
    exact h.suspends call rfl
  | returned ok =>
    cases ok with
    | true =>
      refine ⟨h.coherent, h.released.timers, ?_⟩
      intro awaiting hawaiting
      cases hawaiting
      exact h.returns rfl
    | false => exact ⟨h.coherent, h.released.timers, fun _ h => (nomatch h)⟩

/-- The close of an exception ends the recovery, or is waited for. -/
theorem leads_afterFailure {r : State × CloseNext} (h : Closes s r) : Leads s (afterFailure r) := by
  obtain ⟨s₁, next⟩ := r
  cases next with
  | suspended call =>
    refine ⟨h.coherent, h.released.timers, ?_⟩
    intro awaiting hawaiting
    cases hawaiting
    exact h.suspends call rfl
  | returned ok =>
    cases ok with
    | true =>
      exact ⟨⟨h.coherent.channel, h.coherent.registered⟩, h.released.timers,
        fun _ h => (nomatch h)⟩
    | false => exact ⟨h.coherent, h.released.timers, fun _ h => (nomatch h)⟩

/-- A recovery may make its connection the active one when no other is: the channel is then the new
    connection's, and a tag that is left belongs to it as well, since with no connection active
    there were none. -/
theorem coherent_activate (hs : Coherent s) {temp : Channel}
    (hactive : s.activeConnection = none ∨ s.activeConnection = some temp.connection) :
    Coherent (activate s temp) := by
  constructor
  · intro c hc
    obtain rfl := Option.some.inj hc
    rfl
  · intro t consumer ht
    have hregistered := hs.registered t consumer ht
    rcases hactive with hnone | hsame
    · cases hnone.symm.trans hregistered
    · exact hsame.symm.trans hregistered

/-- An exception after the activation closes what has become active.  The `except` activates first,
    whether or not the recovery had come that far, so that the close has something to find;
    `hactive` is what makes that harmless. -/
theorem leads_recoveryFailed (hs : Coherent s) {temp : Channel}
    (hactive : s.activeConnection = none ∨ s.activeConnection = some temp.connection) :
    Leads s (recoveryFailed s temp) := by
  obtain ⟨hcloses, -, -⟩ := startClose_closes (coherent_activate hs hactive)
  obtain ⟨hcoherent, htimers, hrelies⟩ := leads_afterFailure hcloses
  exact ⟨hcoherent, htimers, hrelies⟩

/-- A recovery begins with what was left over, or with none. -/
theorem leads_startRecovery (hs : Coherent s) : Leads s (startRecovery s) := by
  unfold startRecovery
  split
  · exact leads_afterDrop (startClose_closes hs).1
  · rename_i hidle
    refine Leads.waits hs ?_
    show s.activeConnection = none
    cases hactive : s.activeConnection with
    | none => rfl
    | some k =>
      rw [hactive] at hidle
      exact absurd rfl hidle

/-- The checker starts one, or leaves everything as it is.  Why it starts one, and whether the clock
    says so, does not matter here. -/
theorem leads_checkQueues (hs : Coherent s) (clock : Clock) : Leads s (checkQueues clock s) := by
  unfold checkQueues
  split
  · exact leads_startRecovery hs
  · split
    · exact leads_startRecovery hs
    · split
      · exact Leads.ends hs
      · split
        · exact Leads.ends hs
        · exact leads_startRecovery hs

/-- A registration relies on what the declarations did. -/
theorem relies_consumeNext {temp : Channel} {found : List (DataType × Nat)} {types : List DataType}
    (hactive : s.activeConnection = none ∨ s.activeConnection = some temp.connection)
    {awaiting : RecoveryAwait} (h : consumeNext s temp found types = some awaiting) :
    awaiting.Relies s.activeConnection := by
  induction types with
  | nil => cases h
  | cons t rest ih =>
    unfold consumeNext at h
    split at h
    · split at h
      · exact ih h
      · cases h
        exact hactive
    · exact ih h

/-- A declaration goes to the active channel; without one it is an exception. -/
theorem leads_declareOnActive (hs : Coherent s) {temp : Channel}
    (hactive : s.activeConnection = none ∨ s.activeConnection = some temp.connection)
    (found : List (DataType × Nat)) (declaration : Declaration) (t : DataType)
    (rest : List DataType) : Leads s (declareOnActive s temp found declaration t rest) := by
  unfold declareOnActive
  split
  · exact Leads.waits hs hactive
  · exact leads_recoveryFailed hs hactive

/-- The next queue, or the first consumer. -/
theorem leads_declareNext (hs : Coherent s) {temp : Channel}
    (hactive : s.activeConnection = none ∨ s.activeConnection = some temp.connection)
    (found : List (DataType × Nat)) (types : List DataType) :
    Leads s (declareNext s temp found types) := by
  cases types with
  | nil => exact ⟨hs, rfl, fun _ => relies_consumeNext hactive⟩
  | cons t rest => exact leads_declareOnActive hs hactive found .exchange t rest

/-- The last look activates the connection, which none has prevented: none is active.  This is the
    recovery's one assignment of the global handles, and it is made without looking at them. -/
theorem leads_passiveNext (hs : Coherent s) (hactive : s.activeConnection = none) (temp : Channel)
    (found : List (DataType × Nat)) (types : List DataType) :
    Leads s (passiveNext s temp found types) := by
  cases types with
  | cons t rest => exact Leads.waits hs hactive
  | nil =>
    unfold passiveNext
    by_cases hfound : found = []
    · rw [if_pos hfound]
      exact Leads.waits hs hactive
    · have hactivated : Coherent (activate s temp) := coherent_activate hs (Or.inl hactive)
      rw [if_neg hfound]
      refine ⟨⟨hactivated.channel, hactivated.registered⟩, rfl, ?_⟩
      intro awaiting hawaiting
      cases hawaiting
      exact Or.inr rfl

/-- A declaration answered: the next of its type, the next type, or the first consumer. -/
theorem leads_declared (hs : Coherent s) {temp on : Channel}
    (hactive : s.activeConnection = none ∨ s.activeConnection = some temp.connection)
    (found : List (DataType × Nat)) (declaration : Declaration) (t : DataType)
    (rest : List DataType) : Leads s (declared s temp found declaration on t rest) := by
  cases declaration with
  | exchange => exact leads_declareOnActive hs hactive found .deadLetterExchange t rest
  | deadLetterExchange => exact leads_declareOnActive hs hactive found .deadLetterQueue t rest
  | deadLetterQueue => exact Leads.waits hs hactive
  | bindDeadLetterQueue => exact leads_declareOnActive hs hactive found .queue t rest
  | queue => exact Leads.waits hs hactive
  | bindQueue =>
    have hcoherent : Coherent { s with queues := s.queues.insert t on } :=
      ⟨hs.channel, hs.registered⟩
    obtain ⟨hkept, htimers, hnext⟩ := leads_declareNext hcoherent hactive found rest
    exact ⟨hkept, htimers, hnext⟩

/-- A consumer registered on the active connection.  The tag is written with the channel the call
    was sent on, and coherence needs that channel's connection to be active when the answer comes,
    not when the call was sent. -/
theorem leads_registerConsumer (hs : Coherent s) {temp on : Channel}
    (hrelies : s.activeConnection = none ∨ s.activeConnection = some temp.connection)
    (hactive : s.activeConnection = some on.connection) (found : List (DataType × Nat))
    (t : DataType) (rest : List DataType) (consumerTag : String) :
    let s₁ := registerConsumer s found t ⟨consumerTag, on.connection⟩
    Leads s (s₁, consumeNext s₁ temp found rest) := by
  intro s₁
  have hrelies₁ : s₁.activeConnection = none ∨ s₁.activeConnection = some temp.connection := hrelies
  refine ⟨⟨hs.channel, ?_⟩, rfl, fun _ => relies_consumeNext hrelies₁⟩
  intro t' consumer ht'
  have ht' : (s.consumerTags.insert t ⟨consumerTag, on.connection⟩).lookup t' = some consumer := ht'
  rw [Table.lookup_insert_eq] at ht'
  split at ht'
  · cases ht'
    exact hactive
  · exact hs.registered t' consumer ht'

/-- What a resumed recovery guarantees, when the connection under it is undisturbed.  Await by
    await: an exception leads to its handler, an answer to the next await, and what the next one
    relies on follows from what this one did.  The condition is used twice, for a close the recovery
    has under way and for a consumer it registers. -/
theorem recoveryStep_leads {awaiting : RecoveryAwait} {reply : Reply}
    {r : State × Option RecoveryAwait} (hs : Kept s) (hawaiting : s.recovery = some awaiting)
    (hundisturbed : Undisturbed s (.recover reply)) (h : recoveryStep s awaiting reply = some r) :
    Leads s r := by
  have hrelies := hs.recovery awaiting hawaiting
  obtain ⟨hwrites, hregisters⟩ := hundisturbed
  -- A close inside the recovery is a close like any other, and comes back under the same condition.
  have hclosing (call : CloseCall) (answered : Bool)
      (hcall : closing s (.recover reply) = some (call, answered)) (hown : call.Own) :
      Closes s (resumeClose s call answered) :=
    (resumeClose_closes hs.coherent hown (hwrites (call, answered) hcall)).1
  cases awaiting with
  | dropping call =>
    -- Await by await; an answer of the wrong kind is no step.
    cases reply with
    | raised =>
      obtain rfl := Option.some.inj h
      refine leads_afterDrop (hclosing call false ?_ hrelies)
      unfold closing
      rw [hawaiting]
      rfl
    | value n =>
      obtain rfl := Option.some.inj h
      refine leads_afterDrop (hclosing call true ?_ hrelies)
      unfold closing
      rw [hawaiting]
      rfl
    | tag consumerTag => cases h
  | closing call =>
    cases reply with
    | raised =>
      obtain rfl := Option.some.inj h
      refine leads_afterFailure (hclosing call false ?_ hrelies)
      unfold closing
      rw [hawaiting]
      rfl
    | value n =>
      obtain rfl := Option.some.inj h
      refine leads_afterFailure (hclosing call true ?_ hrelies)
      unfold closing
      rw [hawaiting]
      rfl
    | tag consumerTag => cases h
  | connect =>
    cases reply with
    | raised =>
      obtain rfl := Option.some.inj h
      exact Leads.ends hs.coherent
    | value k =>
      -- Connected, and nothing yet of the new connection on the state.
      obtain rfl := Option.some.inj h
      exact Leads.waits hs.coherent hrelies
    | tag consumerTag => cases h
  | openChannel k =>
    cases reply with
    | raised =>
      obtain rfl := Option.some.inj h
      exact Leads.ends hs.coherent
    | value n =>
      obtain rfl := Option.some.inj h
      -- The queues are declared passively first, on the temporary channel, to count what waits.
      exact leads_passiveNext hs.coherent hrelies ⟨k, n⟩ [] MUSICBRAINZ_DATA_TYPES
    | tag consumerTag => cases h
  | declarePassive temp found t rest =>
    cases reply with
    | raised =>
      obtain rfl := Option.some.inj h
      exact leads_recoveryFailed hs.coherent (Or.inl hrelies)
    | value n =>
      obtain rfl := Option.some.inj h
      exact leads_passiveNext hs.coherent hrelies temp _ rest
    | tag consumerTag => cases h
  | qos temp found =>
    cases reply with
    | raised =>
      obtain rfl := Option.some.inj h
      exact leads_recoveryFailed hs.coherent hrelies
    | value n =>
      obtain rfl := Option.some.inj h
      -- The old queue objects go with their connection.
      have hcoherent : Coherent { s with queues := ∅ } :=
        ⟨hs.coherent.channel, hs.coherent.registered⟩
      obtain ⟨hkept, htimers, hnext⟩ :=
        leads_declareNext hcoherent hrelies found MUSICBRAINZ_DATA_TYPES
      exact ⟨hkept, htimers, hnext⟩
    | tag consumerTag => cases h
  | declare temp found declaration on t rest =>
    cases reply with
    | raised =>
      obtain rfl := Option.some.inj h
      exact leads_recoveryFailed hs.coherent hrelies
    | value n =>
      obtain rfl := Option.some.inj h
      exact leads_declared hs.coherent hrelies found declaration t rest
    | tag consumerTag => cases h
  | consume temp found on t rest =>
    cases reply with
    | raised =>
      obtain rfl := Option.some.inj h
      exact leads_recoveryFailed hs.coherent hrelies
    | value n => cases h
    | tag consumerTag =>
      obtain rfl := Option.some.inj h
      -- The one await whose answer registers a consumer: its connection is to be active still.
      have hactive : s.activeConnection = some on.connection := by
        refine hregisters on ?_
        unfold registering
        rw [hawaiting]
        rfl
      exact leads_registerConsumer hs.coherent hrelies hactive found t rest consumerTag
  | closeTempChannel temp =>
    cases reply with
    | raised =>
      obtain rfl := Option.some.inj h
      exact leads_recoveryFailed hs.coherent (Or.inl hrelies)
    | value n =>
      obtain rfl := Option.some.inj h
      exact Leads.waits hs.coherent hrelies
    | tag consumerTag => cases h
  | closeTempConnection temp =>
    cases reply with
    | raised =>
      obtain rfl := Option.some.inj h
      exact leads_recoveryFailed hs.coherent (Or.inl hrelies)
    | value n =>
      obtain rfl := Option.some.inj h
      exact Leads.ends hs.coherent
    | tag consumerTag => cases h

/-- The recovery, and what else is kept, once it has come further. -/
theorem Leads.kept {r : State × Option RecoveryAwait} (hs : Kept s) (h : Leads s r) :
    Kept { r.1 with recovery := r.2 } := by
  refine ⟨⟨h.coherent.channel, h.coherent.registered⟩, ?_, h.relies⟩
  show ∀ timer ∈ r.1.timers, _
  rw [h.timers]
  exact hs.timers

/-! ## One step

  The four kinds of actions, each by the lemma about its stretch. -/

variable {delay : Nat} {a : Action}

/-- **An undisturbed step keeps the bookkeeping.** Deliveries and the ends of reconciliations touch
    no handle; a timer's step is a tick, and the close it may resume is the one `Undisturbed` speaks
    of; the checker leads into a recovery, or nowhere; and a recovery's step leads on. -/
theorem kept_step (hs : Kept s) (hundisturbed : Undisturbed s a) (h : step delay s a = some s') :
    Kept s' := by
  cases a with
  | deliver t message =>
    obtain rfl := Option.some.inj h
    exact (untouched_handleDataMessage delay s t message).kept hs
  | reconciled i ok =>
    obtain ⟨t, -, rfl⟩ := Option.map_eq_some_iff.mp h
    exact (untouched_reconciled delay s i t ok).kept hs
  | timer i outcome =>
    obtain ⟨timer, htimer, h⟩ := Option.bind_eq_some_iff.mp h
    obtain ⟨r, hstep, rfl⟩ := Option.map_eq_some_iff.mp h
    -- The condition speaks of the close on this step, which is this timer's if it has one.
    have hwrites : ∀ call, timer.awaiting = .closing call → outcome ≠ .cancelled →
        call.writes (decide (outcome = .answered)) = true →
          s.activeConnection = none ∨ s.activeConnection = call.began := by
      intro call hcall hne hwrites
      refine hundisturbed.1 (call, decide (outcome = .answered)) ?_ hwrites
      show s.timers[i]?.bind _ = _
      rw [htimer, Option.bind_some, hcall]
      cases outcome with
      | answered => rfl
      | raised => rfl
      | cancelled => exact absurd rfl hne
    have hticks := timerStep_ticks hs.coherent (hs.timers timer (List.mem_of_getElem? htimer))
      hwrites hstep
    exact hticks.kept hs i timer
  | check clock =>
    unfold step at h
    dsimp only at h
    split at h
    · obtain rfl := Option.some.inj h
      exact (leads_checkQueues hs.coherent clock).kept hs
    · cases h
  | recover reply =>
    obtain ⟨awaiting, hawaiting, h⟩ := Option.bind_eq_some_iff.mp h
    obtain ⟨r, hstep, rfl⟩ := Option.map_eq_some_iff.mp h
    exact (recoveryStep_leads hs hawaiting hundisturbed hstep).kept hs

/-- What follows a close, in the recovery, writes no handle. -/
theorem afterDrop_handles (r : State × CloseNext) : (afterDrop r).1 = r.1 := by
  obtain ⟨s₁, next⟩ := r
  cases next with
  | suspended call => rfl
  | returned ok => cases ok <;> rfl

/-- Nor does what follows the close of an exception. -/
theorem afterFailure_handles (r : State × CloseNext) :
    (afterFailure r).1.activeConnection = r.1.activeConnection ∧
      (afterFailure r).1.activeChannel = r.1.activeChannel ∧
      (afterFailure r).1.consumerTags = r.1.consumerTags := by
  obtain ⟨s₁, next⟩ := r
  cases next with
  | suspended call => exact ⟨rfl, rfl, rfl⟩
  | returned ok => cases ok <;> exact ⟨rfl, rfl, rfl⟩

/-- **An undisturbed step's close takes only what it confirmed.** Whichever task the close belongs
    to, the step is `resumeClose` followed by code that writes no handle, so what it took is what
    the close took. -/
theorem takesOnly_step (hs : Kept s) (hundisturbed : Undisturbed s a)
    (h : step delay s a = some s') {call : CloseCall} {answered : Bool}
    (hclosing : closing s a = some (call, answered)) :
    TakesOnly call answered s s' := by
  have hwrites := hundisturbed.1 (call, answered) hclosing
  cases a with
  | timer i outcome =>
    obtain ⟨timer, htimer, h⟩ := Option.bind_eq_some_iff.mp h
    obtain ⟨r, hstep, rfl⟩ := Option.map_eq_some_iff.mp h
    -- The close on this step is the one this timer is suspended in, and its await has come back.
    have hcall : timer.awaiting = .closing call ∧ outcome ≠ .cancelled ∧
        answered = decide (outcome = .answered) := by
      have hclosing : s.timers[i]?.bind _ = some (call, answered) := hclosing
      rw [htimer, Option.bind_some] at hclosing
      -- A timer that sleeps or cancels its consumer has none.
      cases hawaiting : timer.awaiting with
      | closing call' =>
        rw [hawaiting] at hclosing
        cases outcome <;> cases hclosing
        · exact ⟨rfl, TimerOutcome.noConfusion, rfl⟩
        · exact ⟨rfl, TimerOutcome.noConfusion, rfl⟩
      | sleep =>
        rw [hawaiting] at hclosing
        cases hclosing
      | cancelConsumer =>
        rw [hawaiting] at hclosing
        cases hclosing
    obtain ⟨hawaiting, hne, rfl⟩ := hcall
    have hown := hs.timers timer (List.mem_of_getElem? htimer) call hawaiting
    -- What a timer does after its close touches no handle.
    obtain ⟨hchannel, hconnection, htags⟩ :=
      (ticks_closing hs.coherent hown hawaiting (fun _ => hwrites) hstep).2 hne
    cases hnext : r.2 with
    | some awaiting => exact ⟨hchannel, hconnection, htags⟩
    | none => exact ⟨hchannel, hconnection, htags⟩
  | recover reply =>
    obtain ⟨awaiting, hawaiting, h⟩ := Option.bind_eq_some_iff.mp h
    obtain ⟨r, hstep, rfl⟩ := Option.map_eq_some_iff.mp h
    have hrelies := hs.recovery awaiting hawaiting
    -- A close of the recovery: dropping the old connection, or cleaning up after a failure.
    unfold closing at hclosing
    dsimp only at hclosing
    rw [hawaiting] at hclosing
    cases awaiting with
    | dropping call' =>
      cases hclosing
      have htakes := (resumeClose_closes hs.coherent hrelies hwrites).2
      cases reply with
      | raised =>
        obtain rfl := Option.some.inj hstep
        -- What follows in the recovery leaves the handles as the close left them.
        rw [afterDrop_handles]
        exact ⟨htakes.channel, htakes.connection, htakes.tags⟩
      | value n =>
        obtain rfl := Option.some.inj hstep
        rw [afterDrop_handles]
        exact ⟨htakes.channel, htakes.connection, htakes.tags⟩
      | tag consumerTag => cases hstep
    | closing call' =>
      cases hclosing
      obtain ⟨hchannel, hconnection, htags⟩ := (resumeClose_closes hs.coherent hrelies hwrites).2
      cases reply with
      | raised =>
        obtain rfl := Option.some.inj hstep
        obtain ⟨hconnection', hchannel', htags'⟩ := afterFailure_handles (resumeClose s call false)
        exact ⟨hchannel'.symm ▸ hchannel, hconnection'.symm ▸ hconnection, htags'.symm ▸ htags⟩
      | value n =>
        obtain rfl := Option.some.inj hstep
        obtain ⟨hconnection', hchannel', htags'⟩ := afterFailure_handles (resumeClose s call true)
        exact ⟨hchannel'.symm ▸ hchannel, hconnection'.symm ▸ hconnection, htags'.symm ▸ htags⟩
      | tag consumerTag => cases hstep
    | _ => cases hclosing
  | deliver t message => cases hclosing
  | reconciled i ok => cases hclosing
  | check clock => cases hclosing

end Step

/-! ## Runs -/

/-- **The bookkeeping stays coherent** in every undisturbed run, from any coherent state in which no
    close and no recovery is under way: tags are kept only with a connection or a channel, every tag
    belongs to the active connection, and whatever close the last step resumes takes only what it
    confirmed.  That nothing is under way at the start is what `main` begins with; from there on
    suspended calls are part of the invariant. -/
theorem bookkeeping_stays_coherent (delay : Nat) (s₀ s s' : State) (actions : List Action)
    (a : Action) (hcoherent : Coherent s₀) (hrecovery : s₀.recovery = none)
    (htimers : ∀ timer ∈ s₀.timers, ∀ call, timer.awaiting ≠ .closing call)
    (hundisturbed : Runs.Meets (step delay) Undisturbed s₀ (actions ++ [a]))
    (hrun : Runs.run (step delay) s₀ actions = some s) (hstep : step delay s a = some s') :
    (s'.consumerTags ≠ ∅ → s'.activeConnection ≠ none ∨ s'.activeChannel ≠ none) ∧
    (∀ t consumer, s'.consumerTags.lookup t = some consumer →
      s'.activeConnection = some consumer.connection) ∧
    (∀ call answered, closing s a = some (call, answered) →
      TakesOnly call answered s s') := by
  -- `Kept` adds to coherence what each suspended call relies on; nothing is suspended at the start.
  have hstart : Kept s₀ := by
    refine ⟨hcoherent, ?_, ?_⟩
    · exact fun timer hmem call hcall => absurd hcall (htimers timer hmem call)
    · intro awaiting hawaiting
      cases hrecovery.symm.trans hawaiting
  have hkept : Kept s := hundisturbed.prefix.invariant
    (fun m b m' hm hok hnext => kept_step hm hok hnext) hstart hrun
  have hlast : Undisturbed s a := (hundisturbed.suffix hrun).head
  -- Undisturbed along the run, and on the step.
  have hkept' : Kept s' := kept_step hkept hlast hstep
  refine ⟨?_, hkept'.coherent.registered, fun call answered => takesOnly_step hkept hlast hstep⟩
  -- A tag belongs to a registered consumer's connection, which is the active one.
  intro htags
  left
  intro hnone
  exact htags (hkept'.coherent.of_inactive hnone).1

/-- The service once it has started: four consumers on its first connection. -/
def started : State where
  consumerTags := MUSICBRAINZ_DATA_TYPES.foldl (fun tags t => tags.insert t ⟨"ctag1." ++ t, 1⟩) ∅
  activeConnection := some 1
  activeChannel := some ⟨1, 1⟩
  queues := MUSICBRAINZ_DATA_TYPES.foldl (fun queues t => queues.insert t ⟨1, 1⟩) ∅

/-- Four consumers on one connection, and its channel. -/
theorem coherent_started : Coherent started := by
  constructor
  · intro c hc
    cases hc
    rfl
  · intro t consumer ht
    have hmem : t ∈ started.consumerTags.keys :=
      Finmap.mem_keys.mpr (Finmap.mem_of_lookup_eq_some ht)
    have hall : ∀ t ∈ started.consumerTags.keys, ∀ consumer ∈ started.consumerTags.lookup t,
        started.activeConnection = some consumer.connection := by
      decide +kernel
    exact hall t hmem consumer ht

/-- Every file completes, the grace timers cancel the consumers one after the other, and the last of
    them has closed the channel and awaits the connection. -/
def lastTimerCloses : List Action :=
  MUSICBRAINZ_DATA_TYPES.map (.deliver · .fileComplete) ++
    List.replicate 9 (.timer 0 .answered)

/-- The last consumer's connection is closed: what goes is what the timer's close confirmed. -/
theorem bookkeeping_of_a_finished_import :
    ∃ (s s' : State) (call : CloseCall),
      Runs.run (step 300) started lastTimerCloses = some s ∧
      step 300 s (.timer 0 .answered) = some s' ∧
      closing s (.timer 0 .answered) = some (call, true) ∧
      s.activeConnection = some 1 ∧ s'.activeConnection = none ∧
      TakesOnly call true s s' := by
  -- The run ends where the fourth timer awaits its close of connection 1.
  have hrun : ((Runs.run (step 300) started lastTimerCloses).bind fun s =>
      (step 300 s (.timer 0 .answered)).bind fun s' =>
        (closing s (.timer 0 .answered)).map fun r =>
          decide (r.2 = true ∧ s.activeConnection = some 1 ∧ s'.activeConnection = none)) =
            some true := by
    decide +kernel
  obtain ⟨s, hs, hrun⟩ := Option.bind_eq_some_iff.mp hrun
  obtain ⟨s', hs', hrun⟩ := Option.bind_eq_some_iff.mp hrun
  obtain ⟨⟨call, answered⟩, hcall, hrun⟩ := Option.map_eq_some_iff.mp hrun
  obtain ⟨rfl, hbefore, hafter⟩ := of_decide_eq_true hrun
  have hundisturbed : Runs.Meets (step 300) Undisturbed started
      (lastTimerCloses ++ [.timer 0 .answered]) := by
    decide +kernel
  obtain ⟨-, -, htakes⟩ := bookkeeping_stays_coherent 300 started s s' lastTimerCloses
    (.timer 0 .answered) coherent_started rfl (fun _ h => (nomatch h)) hundisturbed hs hs'
  exact ⟨s, s', call, hs, hs', hcall, hbefore, hafter, htakes call true hcall⟩

/-- While the last timer awaits the connection, a record of the artists is delivered again.  The checker
    finds no consumer for them and recovers: it closes the connection itself, opens another, and has
    registered two of its consumers. -/
def recoveryMeanwhile : List Action :=
  lastTimerCloses ++ .deliver "artists" .record ::
    .check { trafficSeen := true, graceExpired := true, delivered := [], checkDue := false } ::
    (([0, 2, 1] : List Nat).map fun n => .recover (.value n)) ++
    (([1, 0, 0, 0] : List Nat).map fun n => .recover (.value n)) ++
    List.replicate 25 (.recover (.value 0)) ++
    [.recover (.tag "ctag2.artists"), .recover (.tag "ctag2.labels")]

/-- The timer's close comes back, and clears the newer connection's handles and tags; the recovery then
    registers its third consumer, and neither a connection nor a channel is active. -/
theorem bookkeeping_lost_to_a_late_close :
    ∃ (s s' s'' : State) (call : CloseCall),
      Coherent started ∧ Runs.run (step 300) started recoveryMeanwhile = some s ∧
      step 300 s (.timer 0 .answered) = some s' ∧
      closing s (.timer 0 .answered) = some (call, true) ∧
      s.consumerTags.lookup "artists" = some ⟨"ctag2.artists", 2⟩ ∧ 2 ∉ call.confirms true ∧
      s'.consumerTags.lookup "artists" = none ∧
      step 300 s' (.recover (.tag "ctag2.release-groups")) = some s'' ∧
      s''.consumerTags.lookup "release-groups" = some ⟨"ctag2.release-groups", 2⟩ ∧
      s''.activeConnection = none ∧ s''.activeChannel = none := by
  -- The close returns first, and the recovery's consume for release-groups after it.
  have hrun : ((Runs.run (step 300) started recoveryMeanwhile).bind fun s =>
      (step 300 s (.timer 0 .answered)).bind fun s' =>
        (closing s (.timer 0 .answered)).bind fun r =>
          (step 300 s' (.recover (.tag "ctag2.release-groups"))).map fun s'' =>
            decide (r.2 = true ∧
              s.consumerTags.lookup "artists" = some ⟨"ctag2.artists", 2⟩ ∧
              2 ∉ r.1.confirms true ∧ s'.consumerTags.lookup "artists" = none ∧
              s''.consumerTags.lookup "release-groups" = some ⟨"ctag2.release-groups", 2⟩ ∧
              s''.activeConnection = none ∧ s''.activeChannel = none)) = some true := by
    decide +kernel
  obtain ⟨s, hs, hrun⟩ := Option.bind_eq_some_iff.mp hrun
  obtain ⟨s', hs', hrun⟩ := Option.bind_eq_some_iff.mp hrun
  obtain ⟨⟨call, answered⟩, hcall, hrun⟩ := Option.bind_eq_some_iff.mp hrun
  obtain ⟨s'', hs'', hrun⟩ := Option.map_eq_some_iff.mp hrun
  obtain ⟨rfl, htag, hunconfirmed, hcleared, hregistered, hconnection, hchannel⟩ :=
    of_decide_eq_true hrun
  exact ⟨s, s', s'', call, coherent_started, hs, hs', hcall, htag, hunconfirmed, hcleared, hs'',
    hregistered, hconnection, hchannel⟩

end Broker

/-
  What the broker's tasks let go of, while no one takes anything.

  Only `main`'s startup and the checker's recovery take a connection, a channel or a tag.  So wherever
  neither of them can run, handles and tags only go, whatever the deliveries and the timers do and in
  whatever order: that is what the teardown rests on, which waits for one closure after the other while
  handlers of theirs are still about.

  * **`Subsides`** — a delivery or a timer leaves every handle as it is or lets go of it, the timers' own
    closes included.
  * **`Finishes`** — a close that returns true has let go of everything.  That is not so of any close: the
    code counts a closure as confirmed when either of its two awaits was answered, and clears the tags
    then.  It counts one as confirmed only once the channel is gone (`Sound`), which stays so as long as
    the state only subsides; and it returns true only when no connection is left.
-/
import MusicBrainzLoader.Broker.Recovery
import MusicBrainzLoader.Broker.Coherence

namespace Broker

open Purge (DataType)

/-- The checker's own actions. -/
def isChecker : Action → Bool
  | .check _ => true
  | .recover _ => true
  | _ => false

/-- No handle is held, and no consumer is registered. -/
structure Disconnected (s : State) : Prop where
  connection : s.activeConnection = none
  channel : s.activeChannel = none
  tags : s.consumerTags = ∅

/-- Nor is any remembered. -/
structure Quiet (s : State) : Prop extends Disconnected s where
  connectionTags : s.connectionConsumerTags = ∅

/-- Handles and tags are let go of, and none is taken. -/
structure Subsides (s s' : State) : Prop where
  connection : s'.activeConnection = s.activeConnection ∨ s'.activeConnection = none
  channel : s'.activeChannel = s.activeChannel ∨ s'.activeChannel = none
  tags : s.consumerTags = ∅ → s'.consumerTags = ∅
  connectionTags : s.connectionConsumerTags = ∅ → s'.connectionConsumerTags = ∅
  recovery : s'.recovery = s.recovery

/-- A close that has confirmed a closure has confirmed the channel's. -/
def Sound (s : State) (call : CloseCall) : Prop := call.confirmed = true → s.activeChannel = none

/-- What a stretch of a close has come to. -/
structure Finishes (r : State × CloseNext) : Prop where
  sound : ∀ call, r.2 = .suspended call → Sound r.1 call
  quiet : r.2 = .returned true → Quiet r.1

section Subsiding

variable {s s' s'' : State}

/-- A step that takes nothing may let go of nothing. -/
theorem Subsides.refl (s : State) : Subsides s s := ⟨.inl rfl, .inl rfl, id, id, rfl⟩

/-- What is let go of stays let go of. -/
theorem Subsides.trans (h : Subsides s s') (h' : Subsides s' s'') : Subsides s s'' := by
  refine ⟨?_, ?_, fun hs => h'.tags (h.tags hs), fun hs => h'.connectionTags (h.connectionTags hs),
    h'.recovery.trans h.recovery⟩
  · rcases h'.connection with hsame | hnone
    · rw [hsame]
      exact h.connection
    · exact .inr hnone
  · rcases h'.channel with hsame | hnone
    · rw [hsame]
      exact h.channel
    · exact .inr hnone

/-- Only what the handles and tags do not depend on has changed. -/
theorem Subsides.of_untouched (h : Untouched s s')
    (hconnectionTags : s'.connectionConsumerTags = s.connectionConsumerTags) : Subsides s s' :=
  ⟨.inl h.connection, .inl h.channel, fun hs => h.tags.trans hs, fun hs => hconnectionTags.trans hs,
    h.recovery⟩

/-- A channel that is gone does not come back. -/
theorem Subsides.channel_none (h : Subsides s s') (hs : s.activeChannel = none) :
    s'.activeChannel = none := by
  rcases h.channel with hsame | hnone
  · exact hsame.trans hs
  · exact hnone

/-- Nor does anything else. -/
theorem Subsides.quiet (h : Subsides s s') (hs : Quiet s) : Quiet s' := by
  refine ⟨⟨?_, h.channel_none hs.channel, h.tags hs.tags⟩, h.connectionTags hs.connectionTags⟩
  rcases h.connection with hsame | hnone
  · exact hsame.trans hs.connection
  · exact hnone

/-- What a suspended close has confirmed is still confirmed when it comes back. -/
theorem Sound.subsides {call : CloseCall} (hcall : Sound s call) (h : Subsides s s') : Sound s' call :=
  fun hconfirmed => h.channel_none (hcall hconfirmed)

/-! ### Closes -/

/-- The end of a close clears the tags, or leaves them. -/
theorem subsides_finishClose (s : State) (confirmed : Bool) : Subsides s (finishClose s confirmed).1 := by
  cases confirmed with
  | false => exact ⟨.inl rfl, .inl rfl, id, id, rfl⟩
  | true => exact ⟨.inl rfl, .inl rfl, fun _ => rfl, fun _ => rfl, rfl⟩

/-- Between its awaits a close takes nothing. -/
theorem subsides_closeConnection (s : State) (began : Option ConnectionId) (confirmed : Bool)
    (closed : List ConnectionId) : Subsides s (closeConnection s began confirmed closed).1 := by
  unfold closeConnection
  split
  · exact .refl s
  · exact subsides_finishClose s confirmed

/-- Nor before the first of them. -/
theorem subsides_startClose (s : State) : Subsides s (startClose s).1 := by
  unfold startClose
  split
  · exact .refl s
  · exact subsides_closeConnection s _ _ _

/-- A channel or a connection that is closed is let go of. -/
theorem subsides_resumeClose (s : State) (call : CloseCall) (answered : Bool) :
    Subsides s (resumeClose s call answered).1 := by
  have hchannel : Subsides s { s with activeChannel := none } := ⟨.inl rfl, .inr rfl, id, id, rfl⟩
  have hclosed : Subsides s { s with activeConnection := none, activeChannel := none } :=
    ⟨.inr rfl, .inr rfl, id, id, rfl⟩
  unfold resumeClose
  split
  · exact hchannel.trans (subsides_closeConnection _ _ _ _)
  · exact subsides_closeConnection s _ _ _
  · exact hclosed.trans (subsides_finishClose _ _)
  · exact subsides_finishClose s _

/-- A close that returns true has let go of everything, unless a channel was left that it had not
    confirmed. -/
theorem finishes_finishClose {confirmed : Bool} (hs : confirmed = true → s.activeChannel = none) :
    Finishes (finishClose s confirmed) := by
  cases confirmed with
  | false =>
    constructor
    · intro call hcall
      cases hcall
    · intro hreturned
      cases hreturned
  | true =>
    constructor
    · intro call hcall
      cases hcall
    · intro hreturned
      have hnone := finishClose_returned hreturned
      exact ⟨⟨hnone, hs rfl, rfl⟩, rfl⟩

/-- With no connection left it ends; with one it waits, confirmed only as far as the channel is gone. -/
theorem finishes_closeConnection {began : Option ConnectionId} {confirmed : Bool}
    {closed : List ConnectionId} (hs : confirmed = true → s.activeChannel = none) :
    Finishes (closeConnection s began confirmed closed) := by
  unfold closeConnection
  split
  · constructor
    · intro call hcall
      obtain rfl := CloseNext.suspended.inj hcall
      exact hs
    · intro hreturned
      cases hreturned
  · exact finishes_finishClose hs

/-- So it does from its start. -/
theorem finishes_startClose (s : State) : Finishes (startClose s) := by
  -- Nothing counts as confirmed at the start unless no channel is there.
  have hstart : (s.activeConnection.isNone && s.activeChannel.isNone &&
      decide (s.consumerTags.count = 0)) = true → s.activeChannel = none := by
    intro h
    rw [Bool.and_eq_true, Bool.and_eq_true, Option.isNone_iff_eq_none, Option.isNone_iff_eq_none] at h
    exact h.1.2
  unfold startClose
  split
  · constructor
    · intro call hcall
      obtain rfl := CloseNext.suspended.inj hcall
      exact hstart
    · intro hreturned
      cases hreturned
  · exact finishes_closeConnection hstart

/-- And from an await, answered or not. -/
theorem finishes_resumeClose {call : CloseCall} (hcall : Sound s call) (answered : Bool) :
    Finishes (resumeClose s call answered) := by
  unfold resumeClose
  split
  · exact finishes_closeConnection fun _ => rfl
  · exact finishes_closeConnection hcall
  · exact finishes_finishClose fun _ => rfl
  · exact finishes_finishClose hcall

/-- With nothing to close, it returns true at once. -/
theorem startClose_disconnected (hs : Disconnected s) : (startClose s).2 = .returned true := by
  have htags : s.consumerTags.count = 0 := Table.count_eq_zero.mpr hs.tags
  unfold startClose closeConnection finishClose
  simp [hs.connection, hs.channel, htags]

/-! ### Timers and deliveries -/

/-- A tag is dropped. -/
theorem subsides_eraseTag (s : State) (t : DataType) :
    Subsides s { s with consumerTags := s.consumerTags.erase t } := by
  refine ⟨.inl rfl, .inl rfl, fun hs => ?_, id, rfl⟩
  show s.consumerTags.erase t = ∅
  rw [hs, Table.erase_empty]

/-- A timer drops its own consumer's tag, or closes. -/
theorem subsides_timerStep {timer : Timer} {outcome : TimerOutcome} {r : State × Option TimerAwait}
    (h : timerStep s timer outcome = some r) : Subsides s r.1 := by
  have hfailed : Subsides s { s with consumerCancellationFailed := true } :=
    ⟨.inl rfl, .inl rfl, id, id, rfl⟩
  unfold timerStep at h
  -- The sleep: answered, raised, cancelled.
  split at h
  · split at h
    · cases h
    · split at h <;> (cases h; exact .refl s)
  · cases h
  · split at h
    · cases h
      exact .refl s
    · cases h
  · -- The consumer is cancelled, and the last one closes the connection.
    have herase : Subsides s (if (s.consumerTags.lookup timer.dataType).map (·.tag) = timer.consumerTag
        then { s with consumerTags := s.consumerTags.erase timer.dataType } else s) := by
      split
      · exact subsides_eraseTag s _
      · exact .refl s
    dsimp only at h
    generalize (if (s.consumerTags.lookup timer.dataType).map (·.tag) = timer.consumerTag
      then { s with consumerTags := s.consumerTags.erase timer.dataType } else s) = s₁ at h herase
    split at h
    · cases h
      exact herase.trans (subsides_startClose _)
    · cases h
      exact herase
  -- The consumer could not be cancelled, or nobody knows: only the flag is set.
  · cases h
    exact hfailed
  -- The close, which comes back either way; or is cancelled.
  · cases h
    exact subsides_resumeClose s _ _
  · cases h
    exact subsides_resumeClose s _ _
  · split at h
    · cases h
      exact hfailed
    · cases h

/-- Where the timer has come to is none of the handles. -/
theorem subsides_resumedTimer (s : State) (i : Nat) (timer : Timer) (next : Option TimerAwait) :
    Subsides s (resumedTimer s i timer next) := by
  cases next with
  | some awaiting => exact ⟨.inl rfl, .inl rfl, id, id, rfl⟩
  | none => exact ⟨.inl rfl, .inl rfl, id, id, rfl⟩

theorem connectionTags_withdrawTimer (s : State) (t : DataType) :
    (withdrawTimer s t).connectionConsumerTags = s.connectionConsumerTags := by
  unfold withdrawTimer
  split <;> rfl

theorem connectionTags_armTimer (delay : Nat) (s : State) (t : DataType) :
    (armTimer delay s t).connectionConsumerTags = s.connectionConsumerTags := by
  unfold armTimer scheduleConsumerCancellation
  split
  · cases s.consumerCancelTasks.lookup t <;> rfl
  · rfl

/-- A delivery arms timers and withdraws them. -/
theorem subsides_handleDataMessage (delay : Nat) (s : State) (t : DataType) (message : Message) :
    Subsides s (handleDataMessage delay s t message) := by
  apply Subsides.of_untouched (untouched_handleDataMessage delay s t message)
  cases message with
  | record => exact connectionTags_withdrawTimer _ t
  | fileComplete => exact connectionTags_armTimer delay s t
  | extractionComplete => exact connectionTags_withdrawTimer s t

/-- And so does the end of a reconciliation. -/
theorem subsides_reconciled (delay : Nat) (s : State) (i : Nat) (t : DataType) (ok : Bool) :
    Subsides s (reconciled delay s i t ok) := by
  apply Subsides.of_untouched (untouched_reconciled delay s i t ok)
  cases ok with
  | true => exact connectionTags_armTimer delay _ t
  | false => rfl

/-- **Apart from the checker, the broker's tasks take nothing.** -/
theorem subsides_step {delay : Nat} {action : Action} (hchecker : isChecker action = false)
    (h : step delay s action = some s') : Subsides s s' := by
  cases action with
  | deliver t message =>
    obtain rfl := Option.some.inj h
    exact subsides_handleDataMessage delay s t message
  | reconciled i ok =>
    obtain ⟨t, -, rfl⟩ := Option.map_eq_some_iff.mp h
    exact subsides_reconciled delay s i t ok
  | timer i outcome =>
    obtain ⟨timer, -, h⟩ := Option.bind_eq_some_iff.mp h
    obtain ⟨r, hr, rfl⟩ := Option.map_eq_some_iff.mp h
    exact (subsides_timerStep hr).trans (subsides_resumedTimer _ i timer _)
  | check clock => cases hchecker
  | recover reply => cases hchecker

end Subsiding

end Broker

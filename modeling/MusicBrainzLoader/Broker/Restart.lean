/-
  What one call of `_recover_consumers` brings about.

  The call registers one consumer after the other, and any of its broker calls may raise in between; so
  it could leave some types with a consumer and others without.  It does not: an exception closes the
  connection again, and a closure that is not confirmed sets the flag on which the checker recovers at
  its next round.

  What there is to prove is not visible at any one line of the call.  It is a chain of some forty awaits
  in three loops, the exception handler is one and the same for all of them once the temporary channel
  is open, and the handler's close can fail in its turn, half-way.  An invariant that only says
  "registered consumers are on the active connection" is kept but does not give the result: at the end
  it leaves open how many types were reached.  So the invariant names the loop's progress.

  * **`Restarts`** — what is known at each await: before the connection is active nothing is held; then
    each loop has done the types it has left behind (`∀ t, t ∈ rest ∨ …`), so that the empty rest at its
    end is all four.
  * **`recovery_is_all_or_nothing`** — every type is served on the new connection, or nothing is held, or
    the flag is set; and a type loses its completion only to messages found in its queue.
  * **`recovery_is_bounded`** — every answer brings the call nearer to its end (`remaining`).

  The call is looked at alone here, from any coherent state it may begin in: what happens when a timer's
  close or a delivery comes between its awaits is `Broker.Coherence` and `Lifecycle.Subscribed`.
-/
import MusicBrainzLoader.Broker.Subsiding

namespace Broker

open Purge (DataType MUSICBRAINZ_DATA_TYPES)
open Runs

/-! ## The call, with what it finds -/

/-- A call of `_recover_consumers`, with the types whose queues it has found messages in.  The code
    keeps that list in a local variable, which is gone at the end; what the call comes to is stated
    with it. -/
structure Restart where
  call : RecoveryCall
  backlog : List DataType := []

/-- The type an answer finds messages of. -/
def RecoveryAwait.notices : RecoveryAwait → Reply → List DataType
  | .declarePassive _ _ t _, .value n => if 0 < n then [t] else []
  | _, _ => []

/-- The call as the checker starts it, with no queue looked at. -/
def startRestart (s : State) : Restart := { call := startCall s }

/-- The call from one await to the next, as long as nobody cancels it.  A cancellation ends the call
    where it stands and runs no handler, so then it is neither all nor nothing; what becomes of its
    connection is `Broker.Recovery`. -/
def restartStep (r : Restart) (reply : Reply) : Option Restart :=
  r.call.awaiting.bind fun awaiting => (callStep r.call (.replied reply)).map fun call =>
    { call, backlog := r.backlog ++ awaiting.notices reply }

/-! ## What is to be shown -/

/-- Every type has its queue and its consumer on the one connection, which is active; the types with
    a backlog are no longer complete.  This is the recovery that went through. -/
structure Serving (completed : Finset DataType) (backlog : List DataType) (temp : Channel) (s : State) :
    Prop where
  connection : s.activeConnection = some temp.connection
  channel : s.activeChannel = some temp
  failed : s.consumerCancellationFailed = false
  queues : ∀ t ∈ MUSICBRAINZ_DATA_TYPES, s.queues.lookup t = some temp
  consumers : ∀ t ∈ MUSICBRAINZ_DATA_TYPES, ∃ consumerTag,
    s.consumerTags.lookup t = some ⟨consumerTag, temp.connection⟩
  completed : ∀ t, t ∈ s.completedFiles ↔ t ∈ completed ∧ t ∉ backlog
  found : backlog ≠ []

/-- A type is complete no longer only where messages of it were found. -/
structure Loses (completed : Finset DataType) (backlog : List DataType) (s : State) : Prop where
  subset : ∀ t ∈ s.completedFiles, t ∈ completed
  kept : ∀ t ∈ completed, t ∈ s.completedFiles ∨ t ∈ backlog

/-- How a call ends.  Of the three ways, the last is not final: the checker begins another recovery
    when it finds the flag, so nothing is lost but time. -/
def Ends (completed : Finset DataType) (backlog : List DataType) (s : State) : Prop :=
  (∃ temp, Serving completed backlog temp s) ∨
    Loses completed backlog s ∧
      (Disconnected s ∧ s.consumerCancellationFailed = false ∨ s.consumerCancellationFailed = true)

/-! ## The invariant -/

/-- Nothing is held, and nothing has failed. -/
structure Idle (completed : Finset DataType) (s : State) : Prop where
  disconnected : Disconnected s
  failed : s.consumerCancellationFailed = false
  completed : s.completedFiles = completed

/-- The recovery's connection is the active one, and whoever is registered is registered on it.  The
    completions are stated for the registrations made so far: a type with a backlog loses its own
    when its consumer is registered, and not when its messages were found. -/
structure Activated (completed : Finset DataType) (backlog : List DataType) (temp : Channel)
    (s : State) : Prop where
  connection : s.activeConnection = some temp.connection
  channel : s.activeChannel = some temp
  failed : s.consumerCancellationFailed = false
  own : ∀ t consumer, s.consumerTags.lookup t = some consumer → consumer.connection = temp.connection
  completed : ∀ t, t ∈ s.completedFiles ↔ t ∈ completed ∧ ¬ (t ∈ backlog ∧ t ∈ s.consumerTags)
  known : ∀ t ∈ backlog, t ∈ MUSICBRAINZ_DATA_TYPES
  found : backlog ≠ []

/-- What is known at each await.  Before the activation nothing is held, so an exception has nothing
    to undo.  In the loops after it, each says of its types that they are still in the rest or done:
    queue declared, consumer registered.  In the last close it no longer matters how far the loops
    had come. -/
def RecoveryAwait.Restarts (completed : Finset DataType) (backlog : List DataType) (s : State) :
    RecoveryAwait → Prop
  | .dropping call => Sound s call ∧ s.completedFiles = completed ∧ backlog = []
  | .connect => Idle completed s ∧ backlog = []
  | .openChannel _ => Idle completed s ∧ backlog = []
  | .declarePassive _ found t rest => Idle completed s ∧ backlog = found.map (·.1) ∧
      (∀ t' ∈ backlog, t' ∈ MUSICBRAINZ_DATA_TYPES) ∧ ∀ t' ∈ t :: rest, t' ∈ MUSICBRAINZ_DATA_TYPES
  | .closeTempChannel _ => Idle completed s ∧ backlog = []
  | .closeTempConnection _ => Idle completed s ∧ backlog = []
  | .qos temp found => Activated completed backlog temp s ∧ backlog = found.map (·.1)
  | .declare temp found _ on t rest => Activated completed backlog temp s ∧
      backlog = found.map (·.1) ∧ on = temp ∧
      ∀ t' ∈ MUSICBRAINZ_DATA_TYPES, t' ∈ t :: rest ∨ s.queues.lookup t' = some temp
  | .consume temp found on t rest => Activated completed backlog temp s ∧
      backlog = found.map (·.1) ∧ on = temp ∧
      (∀ t' ∈ MUSICBRAINZ_DATA_TYPES, s.queues.lookup t' = some temp) ∧
      (∀ t' ∈ t :: rest, t' ∈ MUSICBRAINZ_DATA_TYPES) ∧
      ∀ t' ∈ MUSICBRAINZ_DATA_TYPES, t' ∈ t :: rest ∨ t' ∈ s.consumerTags
  | .closing call => Sound s call ∧ Loses completed backlog s

/-- Where the recovery has come to: an await, with what is known there, or an end of the kind that
    is allowed.  Every stretch of the recovery's code is shown to come to one of these. -/
structure RestartsTo (completed : Finset DataType) (backlog : List DataType)
    (r : State × Option RecoveryAwait) : Prop where
  waits : ∀ awaiting, r.2 = some awaiting → awaiting.Restarts completed backlog r.1
  ends : r.2 = none → Ends completed backlog r.1

section Parts

variable {s : State} {completed : Finset DataType} {backlog : List DataType} {temp : Channel}
  {found : List (DataType × Nat)}

/-- It has come to an await whose knowledge holds. -/
theorem RestartsTo.awaits {awaiting : RecoveryAwait} (h : awaiting.Restarts completed backlog s) :
    RestartsTo completed backlog (s, some awaiting) := by
  refine ⟨fun awaiting' heq => ?_, nofun⟩
  obtain rfl := Option.some.inj heq
  exact h

/-- It has come to an end of the kind that is allowed. -/
theorem RestartsTo.over (h : Ends completed backlog s) : RestartsTo completed backlog (s, none) :=
  ⟨nofun, fun _ => h⟩

/-- An idle state has lost no completion. -/
theorem Idle.loses (h : Idle completed s) : Loses completed backlog s := by
  constructor
  · intro t ht
    exact h.completed ▸ ht
  · intro t ht
    exact .inl (h.completed.symm ▸ ht)

/-- On the active connection only types with a backlog have. -/
theorem Activated.loses (h : Activated completed backlog temp s) : Loses completed backlog s := by
  constructor
  · intro t ht
    exact ((h.completed t).mp ht).1
  · intro t ht
    by_cases hbacklog : t ∈ backlog
    · exact .inr hbacklog
    · exact .inl ((h.completed t).mpr ⟨ht, fun hboth => hbacklog hboth.1⟩)

/-- To end idle is to hold nothing. -/
theorem Idle.ends (h : Idle completed s) : Ends completed backlog s :=
  .inr ⟨h.loses, .inl ⟨h.disconnected, h.failed⟩⟩

/-! ### Closes

  The call closes twice: what is left over, at its start, and its own connection after an exception.
  What either comes to is read off the close's result, and the result is the flag, the other way round:
  a close that is not confirmed sets it, and a confirmed one has let go of everything (`Finishes`). -/

/-- What a close returns is what it makes of the flag. -/
theorem finishClose_flag {confirmed closed : Bool} (h : (finishClose s confirmed).2 = .returned closed) :
    (finishClose s confirmed).1.consumerCancellationFailed = !closed := by
  cases confirmed with
  | false =>
    obtain rfl : false = closed := CloseNext.returned.inj h
    rfl
  | true =>
    have hclosed : (!s.activeConnection.isSome) = closed := CloseNext.returned.inj h
    rw [← hclosed, Bool.not_not]
    rfl

/-- The same where there may be no connection left to close. -/
theorem closeConnection_flag {began : Option ConnectionId} {confirmed closed : Bool}
    {ids : List ConnectionId} (h : (closeConnection s began confirmed ids).2 = .returned closed) :
    (closeConnection s began confirmed ids).1.consumerCancellationFailed = !closed := by
  unfold closeConnection at h ⊢
  split at h
  · cases h
  · exact finishClose_flag h

/-- A close that returns at once has had nothing to close. -/
theorem startClose_flag {closed : Bool} (h : (startClose s).2 = .returned closed) :
    (startClose s).1.consumerCancellationFailed = !closed := by
  unfold startClose at h ⊢
  split at h
  · cases h
  · exact closeConnection_flag h

/-- And one that comes back from an await, answered or not.  So the flag is set exactly when the
    caller is told that the closure is not confirmed, whichever way through the code the close
    took. -/
theorem resumeClose_flag {call : CloseCall} {answered closed : Bool}
    (h : (resumeClose s call answered).2 = .returned closed) :
    (resumeClose s call answered).1.consumerCancellationFailed = !closed := by
  unfold resumeClose at h ⊢
  split at h
  · exact closeConnection_flag h
  · exact closeConnection_flag h
  · exact finishClose_flag h
  · exact finishClose_flag h

/-- Dropping what is left leads to an idle state, or sets the flag.  An unconfirmed drop ends the
    call before it has begun, with everything as it was. -/
theorem restarts_afterDrop {r : State × CloseNext} (hfinishes : Finishes r)
    (hflag : ∀ closed, r.2 = .returned closed → r.1.consumerCancellationFailed = !closed)
    (hcompleted : r.1.completedFiles = completed) : RestartsTo completed [] (afterDrop r) := by
  obtain ⟨s', next⟩ := r
  cases next with
  | suspended call =>
    apply RestartsTo.awaits
    exact ⟨hfinishes.sound call rfl, hcompleted, rfl⟩
  | returned closed =>
    cases closed with
    | true =>
      apply RestartsTo.awaits
      exact ⟨⟨(hfinishes.quiet rfl).toDisconnected, hflag true rfl, hcompleted⟩, rfl⟩
    | false =>
      have hloses : Loses completed [] s' :=
        ⟨fun t ht => hcompleted ▸ ht, fun t ht => .inl (hcompleted.symm ▸ ht)⟩
      exact .over (.inr ⟨hloses, .inr (hflag false rfl)⟩)

/-- A close after an exception lets go of everything, or sets the flag.  That a confirmed close has
    let go of the tags too is what makes the failure all: the consumers registered so far are
    registered nowhere any more. -/
theorem restarts_afterFailure {r : State × CloseNext} (hfinishes : Finishes r)
    (hflag : ∀ closed, r.2 = .returned closed → r.1.consumerCancellationFailed = !closed)
    (hloses : Loses completed backlog r.1) : RestartsTo completed backlog (afterFailure r) := by
  obtain ⟨s', next⟩ := r
  cases next with
  | suspended call =>
    apply RestartsTo.awaits
    exact ⟨hfinishes.sound call rfl, hloses⟩
  | returned closed =>
    cases closed with
    | true =>
      have hquiet := hfinishes.quiet rfl
      have hflagged : s'.consumerCancellationFailed = false := hflag true rfl
      apply RestartsTo.over
      exact .inr ⟨⟨hloses.subset, hloses.kept⟩,
        .inl ⟨⟨hquiet.connection, hquiet.channel, hquiet.tags⟩, hflagged⟩⟩
    | false => exact .over (.inr ⟨hloses, .inr (hflag false rfl)⟩)

/-- A close withdraws no completion. -/
theorem Loses.closing {s' : State} (h : Loses completed backlog s) (hclosing : Closing s s') :
    Loses completed backlog s' := by
  constructor
  · rw [hclosing.completedFiles]
    exact h.subset
  · rw [hclosing.completedFiles]
    exact h.kept

/-- An exception leads to the close of whatever has become active.  Of the state it needs to know
    nothing but which completions are left: what is held goes with the close, however far the loops
    had come. -/
theorem restarts_recoveryFailed (h : Loses completed backlog s) :
    RestartsTo completed backlog (recoveryFailed s temp) := by
  have hactivated : Loses completed backlog (activate s temp) := ⟨h.subset, h.kept⟩
  exact restarts_afterFailure (finishes_startClose _) (fun _ => startClose_flag)
    (hactivated.closing (closing_startClose _))

/-! ### The loops

  Each loop hands over to the next with nothing left to do: the looks for messages to the declarations,
  the declarations to the registrations, and these to the end. -/

/-- Once every type has its consumer the call is over.  By induction on the types still to register:
    `consumeNext` passes over a type that has a consumer by now, and stops at the first that has
    none, so what it leaves behind has one either way. -/
theorem restarts_consumeNext (h : Activated completed backlog temp s)
    (hfound : backlog = found.map (·.1))
    (hqueues : ∀ t ∈ MUSICBRAINZ_DATA_TYPES, s.queues.lookup t = some temp) (types : List DataType)
    (hknown : ∀ t ∈ types, t ∈ MUSICBRAINZ_DATA_TYPES)
    (hdone : ∀ t ∈ MUSICBRAINZ_DATA_TYPES, t ∈ types ∨ t ∈ s.consumerTags) :
    RestartsTo completed backlog (s, consumeNext s temp found types) := by
  -- Along the types still to register; each that is left behind has its tag.
  induction types with
  -- None left: every type has its consumer, so every type with a backlog has been taken out of the
  -- completed ones.
  | nil =>
    have hall : ∀ t ∈ MUSICBRAINZ_DATA_TYPES, t ∈ s.consumerTags :=
      fun t ht => (hdone t ht).resolve_left List.not_mem_nil
    apply RestartsTo.over
    refine .inl ⟨temp, h.connection, h.channel, h.failed, hqueues, fun t ht => ?_, fun t => ?_, h.found⟩
    · obtain ⟨consumer, hconsumer⟩ := Finmap.mem_iff.mp (hall t ht)
      have hown := h.own t consumer hconsumer
      exact ⟨consumer.tag, by rw [hconsumer, ← hown]⟩
    · rw [h.completed t]
      have hregistered : t ∈ backlog → t ∈ s.consumerTags := fun ht => hall t (h.known t ht)
      tauto
  | cons t types ih =>
    have hrest := ih fun t' ht' => hknown t' (List.mem_cons_of_mem t ht')
    rw [consumeNext, hqueues t (hknown t List.mem_cons_self)]
    dsimp only
    -- A type that has a consumer by now is passed over.
    split
    next hregistered =>
      apply hrest
      intro t' ht'
      rcases hdone t' ht' with hmem | hmem
      · rcases List.mem_cons.mp hmem with rfl | hmem
        · exact .inr hregistered
        · exact .inl hmem
      · exact .inr hmem
    next =>
      apply RestartsTo.awaits
      exact ⟨h, hfound, rfl, hqueues, hknown, hdone⟩

/-- A declaration goes to the channel that is active, which is the recovery's own. -/
theorem restarts_declareOnActive (h : Activated completed backlog temp s)
    (hfound : backlog = found.map (·.1)) (declaration : Declaration) (t : DataType)
    (rest : List DataType)
    (hdone : ∀ t' ∈ MUSICBRAINZ_DATA_TYPES, t' ∈ t :: rest ∨ s.queues.lookup t' = some temp) :
    RestartsTo completed backlog (declareOnActive s temp found declaration t rest) := by
  unfold declareOnActive
  rw [h.channel]
  apply RestartsTo.awaits
  exact ⟨h, hfound, rfl, hdone⟩

/-- The queues that are left, or, when none is, the first consumer. -/
theorem restarts_declareNext (h : Activated completed backlog temp s)
    (hfound : backlog = found.map (·.1)) (rest : List DataType)
    (hdone : ∀ t ∈ MUSICBRAINZ_DATA_TYPES, t ∈ rest ∨ s.queues.lookup t = some temp) :
    RestartsTo completed backlog (declareNext s temp found rest) := by
  cases rest with
  | nil =>
    have hqueues : ∀ t ∈ MUSICBRAINZ_DATA_TYPES, s.queues.lookup t = some temp :=
      fun t ht => (hdone t ht).resolve_left List.not_mem_nil
    exact restarts_consumeNext h hfound hqueues _ (fun _ ht => ht) fun _ ht => .inl ht
  | cons t rest => exact restarts_declareOnActive h hfound .exchange t rest hdone

/-- One declaration leads to the next, and the last one puts the queue where the consumers look.
    Six calls declare a type's objects; only the last of them writes `queues`, and with it the type
    moves from the rest to the done. -/
theorem restarts_declared (h : Activated completed backlog temp s)
    (hfound : backlog = found.map (·.1)) (declaration : Declaration) (t : DataType)
    (rest : List DataType)
    (hdone : ∀ t' ∈ MUSICBRAINZ_DATA_TYPES, t' ∈ t :: rest ∨ s.queues.lookup t' = some temp) :
    RestartsTo completed backlog (declared s temp found declaration temp t rest) := by
  -- Each declaration is followed by the next one of the type; the last binds the queue, and the type is
  -- done.
  cases declaration with
  | deadLetterQueue =>
    apply RestartsTo.awaits
    exact ⟨h, hfound, rfl, hdone⟩
  | queue =>
    apply RestartsTo.awaits
    exact ⟨h, hfound, rfl, hdone⟩
  | bindQueue =>
    have h' : Activated completed backlog temp { s with queues := s.queues.insert t temp } :=
      ⟨h.connection, h.channel, h.failed, h.own, h.completed, h.known, h.found⟩
    refine restarts_declareNext h' hfound rest fun t' ht' => ?_
    show t' ∈ rest ∨ (s.queues.insert t temp).lookup t' = some temp
    rw [Table.lookup_insert_eq]
    split
    next => exact .inr rfl
    next hne =>
      rcases hdone t' ht' with hmem | hqueue
      · exact .inl ((List.mem_cons.mp hmem).resolve_left hne)
      · exact .inr hqueue
  | _ => exact restarts_declareOnActive h hfound _ t rest hdone

/-- The last look for messages activates the connection, or closes it again.  No tag is held at this
    point, so the connection takes over from none, and every completion is still there. -/
theorem restarts_passiveNext (h : Idle completed s) (hfound : backlog = found.map (·.1))
    (hknown : ∀ t ∈ backlog, t ∈ MUSICBRAINZ_DATA_TYPES) (rest : List DataType)
    (hrest : ∀ t ∈ rest, t ∈ MUSICBRAINZ_DATA_TYPES) :
    RestartsTo completed backlog (passiveNext s temp found rest) := by
  cases rest with
  | cons t rest =>
    apply RestartsTo.awaits
    exact ⟨h, hfound, hknown, hrest⟩
  | nil =>
    rw [passiveNext]
    -- With no backlog the temporary channel and connection are closed again.
    split
    next hnone =>
      apply RestartsTo.awaits
      exact ⟨h, hfound.trans (by rw [hnone]; rfl)⟩
    -- With one, the connection becomes the active one; there was no tag and nothing to lose.
    next hsome =>
      have htags : ∀ t, t ∉ s.consumerTags := fun t => by
        rw [h.disconnected.tags]
        exact Finmap.notMem_empty
      have hbacklog : backlog ≠ [] := by
        rw [hfound]
        exact fun hnil => hsome (List.map_eq_nil_iff.mp hnil)
      apply RestartsTo.awaits
      refine ⟨⟨rfl, rfl, h.failed, fun t consumer hlookup => ?_, fun t => ?_, hknown, hbacklog⟩, hfound⟩
      · exact absurd (Finmap.mem_of_lookup_eq_some hlookup) (htags t)
      · show t ∈ s.completedFiles ↔ _
        rw [h.completed]
        exact ⟨fun ht => ⟨ht, fun hboth => htags t hboth.2⟩, fun ht => ht.1⟩

/-- A registration: its type is no longer complete if it has a backlog.  The tag it writes is the
    recovery's own connection's, so `own` stays true, and the completions shrink by that type at
    most, which is what `completed` says once the type is among the registered ones. -/
theorem activated_registerConsumer (h : Activated completed backlog temp s)
    (hfound : backlog = found.map (·.1)) (t : DataType) (consumerTag : String) :
    Activated completed backlog temp
      (registerConsumer s found t ⟨consumerTag, temp.connection⟩) := by
  refine ⟨h.connection, h.channel, h.failed, fun t' consumer hlookup => ?_, fun t' => ?_, h.known,
    h.found⟩
  -- The tag is the new one's, or belongs to a consumer registered before it.
  · have hinserted : (s.consumerTags.insert t ⟨consumerTag, temp.connection⟩).lookup t' = some consumer :=
      hlookup
    rw [Table.lookup_insert_eq] at hinserted
    split at hinserted
    · obtain rfl := Option.some.inj hinserted
      rfl
    · exact h.own t' consumer hinserted
  -- A type with a backlog is completed no longer, as soon as its consumer is there.
  · show t' ∈ (if t ∈ found.map (·.1) then s.completedFiles.erase t else s.completedFiles) ↔
      t' ∈ completed ∧ ¬ (t' ∈ backlog ∧ t' ∈ s.consumerTags.insert t ⟨consumerTag, temp.connection⟩)
    rw [← hfound, Finmap.mem_insert]
    split
    next hbacklog =>
      rw [Finset.mem_erase, h.completed t']
      constructor
      · rintro ⟨hne, hcompleted, hnot⟩
        exact ⟨hcompleted, fun ⟨hin, hor⟩ => hor.elim hne fun hold => hnot ⟨hin, hold⟩⟩
      · rintro ⟨hcompleted, hnot⟩
        refine ⟨?_, hcompleted, fun ⟨hin, hold⟩ => hnot ⟨hin, .inr hold⟩⟩
        rintro rfl
        exact hnot ⟨hbacklog, .inl rfl⟩
    next hbacklog =>
      rw [h.completed t']
      constructor
      · rintro ⟨hcompleted, hnot⟩
        refine ⟨hcompleted, fun ⟨hin, hor⟩ => ?_⟩
        rcases hor with rfl | hold
        · exact hbacklog hin
        · exact hnot ⟨hin, hold⟩
      · rintro ⟨hcompleted, hnot⟩
        exact ⟨hcompleted, fun ⟨hin, hold⟩ => hnot ⟨hin, .inr hold⟩⟩

end Parts

/-! ## Each await

  One case for each await; an exception leads to the close once the temporary channel is open, and
  before that to the end. -/

section Step

variable {s : State} {awaiting : RecoveryAwait} {completed : Finset DataType} {backlog : List DataType}

/-- **An answered await brings the recovery on**, or its exception closes the connection again.  One
    case for each await, and in each the answers it can get; the answer that finds messages is the
    only one that adds to the backlog, and it is noted before the next await is reached. -/
theorem recoveryStep_restarts {reply : Reply} {r : State × Option RecoveryAwait}
    (hawaiting : awaiting.Restarts completed backlog s) (h : recoveryStep s awaiting reply = some r) :
    RestartsTo completed (backlog ++ awaiting.notices reply) r := by
  have hnothing : backlog ++ [] = backlog := List.append_nil backlog
  cases awaiting with
  -- The old connection, dropped: nothing is active then, or the flag is set.
  | dropping call =>
    obtain ⟨hsound, hcompleted, rfl⟩ := hawaiting
    have hdrop (answered : Bool) : RestartsTo completed [] (afterDrop (resumeClose s call answered)) :=
      restarts_afterDrop (finishes_resumeClose hsound answered) (fun _ => resumeClose_flag)
        ((closing_resumeClose s call answered).completedFiles.trans hcompleted)
    cases reply with
    | raised => exact Option.some.inj h ▸ hdrop false
    | value n => exact Option.some.inj h ▸ hdrop true
    | tag consumerTag => cases h
  | connect =>
    obtain ⟨hidle, rfl⟩ := hawaiting
    cases reply with
    | raised => exact Option.some.inj h ▸ .over hidle.ends
    -- Connecting and opening the channel change nothing; whoever fails there has nothing active.
    | value k =>
      obtain rfl := Option.some.inj h
      apply RestartsTo.awaits
      exact ⟨hidle, rfl⟩
    | tag consumerTag => cases h
  | openChannel k =>
    obtain ⟨hidle, rfl⟩ := hawaiting
    cases reply with
    | raised => exact Option.some.inj h ▸ .over hidle.ends
    | value n =>
      obtain rfl := Option.some.inj h
      show RestartsTo completed [] (passiveNext s ⟨k, n⟩ [] MUSICBRAINZ_DATA_TYPES)
      have hnone : ∀ t ∈ ([] : List DataType), t ∈ MUSICBRAINZ_DATA_TYPES :=
        fun _ ht => absurd ht List.not_mem_nil
      have hfound : ([] : List DataType) = ([] : List (DataType × Nat)).map (·.1) := rfl
      exact restarts_passiveNext hidle hfound hnone _ fun _ ht => ht
    | tag consumerTag => cases h
  | declarePassive temp found t rest =>
    obtain ⟨hidle, hfound, hknown, hrest⟩ := hawaiting
    cases reply with
    | raised =>
      obtain rfl := Option.some.inj h
      exact restarts_recoveryFailed hidle.loses
    | value n =>
      obtain rfl := Option.some.inj h
      have ht : t ∈ MUSICBRAINZ_DATA_TYPES := hrest t List.mem_cons_self
      have hrest' : ∀ t' ∈ rest, t' ∈ MUSICBRAINZ_DATA_TYPES :=
        fun t' ht' => hrest t' (List.mem_cons_of_mem t ht')
      -- A queue with messages is noted, and its type is one of the four.
      apply restarts_passiveNext hidle
      · show backlog ++ (if 0 < n then [t] else []) = _
        split
        · rw [hfound, List.map_append]
          rfl
        · rw [hnothing, hfound]
      · intro t' ht'
        rcases List.mem_append.mp ht' with hold | hnew
        · exact hknown t' hold
        · change t' ∈ (if 0 < n then [t] else []) at hnew
          split at hnew
          · exact List.mem_singleton.mp hnew ▸ ht
          · cases hnew
      · exact hrest'
    | tag consumerTag => cases h
  | qos temp found =>
    obtain ⟨hactivated, hfound⟩ := hawaiting
    show RestartsTo completed (backlog ++ []) r
    rw [hnothing]
    cases reply with
    | raised => exact Option.some.inj h ▸ restarts_recoveryFailed hactivated.loses
    | value n =>
      obtain rfl := Option.some.inj h
      -- From here on the connection is active, and a failure has to lose it: to a close, or to the
      -- flag.
      have hactivated' : Activated completed backlog temp { s with queues := ∅ } :=
        ⟨hactivated.connection, hactivated.channel, hactivated.failed, hactivated.own,
          hactivated.completed, hactivated.known, hactivated.found⟩
      exact restarts_declareNext hactivated' hfound _ fun _ ht => .inl ht
    | tag consumerTag => cases h
  | declare temp found declaration on t rest =>
    obtain ⟨hactivated, hfound, rfl, hdone⟩ := hawaiting
    show RestartsTo completed (backlog ++ []) r
    rw [hnothing]
    cases reply with
    | raised => exact Option.some.inj h ▸ restarts_recoveryFailed hactivated.loses
    | value n =>
      exact Option.some.inj h ▸ restarts_declared hactivated hfound declaration t rest hdone
    | tag consumerTag => cases h
  | consume temp found on t rest =>
    obtain ⟨hactivated, hfound, rfl, hqueues, hknown, hdone⟩ := hawaiting
    show RestartsTo completed (backlog ++ []) r
    rw [hnothing]
    cases reply with
    | raised => exact Option.some.inj h ▸ restarts_recoveryFailed hactivated.loses
    | value n => cases h
    | tag consumerTag =>
      obtain rfl := Option.some.inj h
      refine restarts_consumeNext (activated_registerConsumer hactivated hfound t consumerTag) hfound
        hqueues rest (fun t' ht' => hknown t' (List.mem_cons_of_mem t ht')) fun t' ht' => ?_
      -- The type is off the list and has its tag.
      show t' ∈ rest ∨ t' ∈ s.consumerTags.insert t _
      rw [Finmap.mem_insert]
      rcases hdone t' ht' with hmem | hmem
      · rcases List.mem_cons.mp hmem with rfl | hmem
        · exact .inr (.inl rfl)
        · exact .inl hmem
      · exact .inr (.inr hmem)
  | closeTempChannel temp =>
    obtain ⟨hidle, rfl⟩ := hawaiting
    cases reply with
    | raised => exact Option.some.inj h ▸ restarts_recoveryFailed hidle.loses
    | value n =>
      obtain rfl := Option.some.inj h
      apply RestartsTo.awaits
      exact ⟨hidle, rfl⟩
    | tag consumerTag => cases h
  | closeTempConnection temp =>
    obtain ⟨hidle, rfl⟩ := hawaiting
    cases reply with
    | raised => exact Option.some.inj h ▸ restarts_recoveryFailed hidle.loses
    | value n => exact Option.some.inj h ▸ .over hidle.ends
    | tag consumerTag => cases h
  | closing call =>
    obtain ⟨hsound, hloses⟩ := hawaiting
    show RestartsTo completed (backlog ++ []) r
    rw [hnothing]
    -- The close after a failure ends the recovery, confirmed or flagged.
    have hfailure (answered : Bool) :
        RestartsTo completed backlog (afterFailure (resumeClose s call answered)) :=
      restarts_afterFailure (finishes_resumeClose hsound answered) (fun _ => resumeClose_flag)
        (hloses.closing (closing_resumeClose s call answered))
    cases reply with
    | raised => exact Option.some.inj h ▸ hfailure false
    | value n => exact Option.some.inj h ▸ hfailure true
    | tag consumerTag => cases h

end Step

/-! ## Whole calls -/

/-- The invariant of a call that began with these types complete. -/
def Restart.Kept (completed : Finset DataType) (r : Restart) : Prop :=
  RestartsTo completed r.backlog (r.call.state, r.call.awaiting)

section Calls

variable {s : State} {r r' : Restart} {completed : Finset DataType}

/-- A call begins with nothing done and no backlog found.  If something is left over it is dropped
    first; if nothing is, the state is idle by coherence, since tags belong to the active connection
    and there is none. -/
theorem restarts_startRecovery (hs : Coherent s) : (startRestart s).Kept s.completedFiles := by
  show RestartsTo s.completedFiles [] (startRecovery s)
  unfold startRecovery
  split
  · exact restarts_afterDrop (finishes_startClose s) (fun _ => startClose_flag)
      (closing_startClose s).completedFiles
  next hleft =>
    simp only [Bool.or_eq_true, not_or, Bool.not_eq_true, Option.isSome_eq_false_iff,
      Option.isNone_iff_eq_none] at hleft
    obtain ⟨⟨hconnection, hchannel⟩, hfailed⟩ := hleft
    apply RestartsTo.awaits
    exact ⟨⟨⟨hconnection, hchannel, (hs.of_inactive hconnection).1⟩, hfailed, rfl⟩, rfl⟩

/-- One answer keeps the invariant, with the types it finds messages of added to the backlog. -/
theorem kept_restartStep {reply : Reply} (hr : r.Kept completed)
    (h : restartStep r reply = some r') : r'.Kept completed := by
  obtain ⟨awaiting, hawaiting, h⟩ := Option.bind_eq_some_iff.mp h
  obtain ⟨call, hcall, rfl⟩ := Option.map_eq_some_iff.mp h
  obtain ⟨awaiting', next, hawaiting', -, hstep, rfl⟩ := callStep_replied hcall
  obtain rfl := Option.some.inj (hawaiting.symm.trans hawaiting')
  exact recoveryStep_restarts (hr.waits awaiting hawaiting) hstep

end Calls

/-- **A recovery is all or nothing.** For every coherent state it begins in, and every way its
    broker calls come out: when the call ends, every type has its consumer on the one new
    connection, with nothing failed; or nothing is held and nobody is registered; or the flag is set
    on which the checker recovers again.  And a type has lost its completion only if messages were
    found in its queue.  By induction on the answers: the invariant says at an await what is done so
    far, and at the end, which of the three it is. -/
theorem recovery_is_all_or_nothing (s : State) (hs : Coherent s) (replies : List Reply) (r : Restart)
    (hrun : run restartStep (startRestart s) replies = some r) (hended : r.call.awaiting = none) :
    Ends s.completedFiles r.backlog r.call.state := by
  have hkept : r.Kept s.completedFiles :=
    run_invariant (fun _ _ _ hr h => kept_restartStep hr h) (restarts_startRecovery hs) hrun
  exact hkept.ends hended

/-- A recovery that finds messages of two types, and is through. -/
def twoBacklogs : List Reply :=
  [.value 7, .value 1, .value 0, .value 3, .value 0, .value 9, .value 0] ++
    List.replicate 24 (.value 0) ++ [.tag "a2", .tag "l2", .tag "g2", .tag "r2"]

theorem recovery_of_two_backlogs :
    ∃ r, run restartStep (startRestart { completedFiles := MUSICBRAINZ_DATA_TYPES.toFinset })
        twoBacklogs = some r ∧ r.backlog = ["labels", "releases"] ∧
      Ends MUSICBRAINZ_DATA_TYPES.toFinset r.backlog r.call.state := by
  have hrun : ((run restartStep (startRestart { completedFiles := MUSICBRAINZ_DATA_TYPES.toFinset })
      twoBacklogs).map fun r => decide (r.call.awaiting = none ∧ r.backlog = ["labels", "releases"])) =
        some true := by
    decide +kernel
  obtain ⟨r, hr, hended⟩ := Option.map_eq_some_iff.mp hrun
  rw [decide_eq_true_iff] at hended
  have hcoherent : Coherent { completedFiles := MUSICBRAINZ_DATA_TYPES.toFinset } :=
    ⟨nofun, nofun⟩
  exact ⟨r, hr, hended.2, recovery_is_all_or_nothing _ hcoherent twoBacklogs r hr hended.1⟩

/-! ## How long a call takes

  No await is come to twice, so a bound on the calls that are left is a measure: six for the queue of
  each type, one look and one registration for each, and what a close may need. The loops only ever
  shorten their rest, so the largest case is the one that goes through: a drop of what was left over
  (2), a connection, its channel, four looks, the qos, twenty-four declarations, four registrations and
  the close of an exception at the very last (2). -/

/-- The calls left to make for one type's queue. -/
def Declaration.remaining : Declaration → Nat
  | .exchange => 6
  | .deadLetterExchange => 5
  | .deadLetterQueue => 4
  | .bindDeadLetterQueue => 3
  | .queue => 2
  | .bindQueue => 1

/-- The closures a close has left to ask for. -/
def CloseCall.remaining (call : CloseCall) : Nat :=
  match call.awaiting with
  | .channel _ => 2
  | .connection _ => 1

/-- What a close has still to ask for when it hands over. -/
def CloseNext.remaining : CloseNext → Nat
  | .suspended call => call.remaining
  | .returned _ => 0

/-- A bound on the broker calls left to make, this one included.  Where the code branches it is the
    larger branch's: a look that finds nothing on any queue leads to two closures, one that finds
    something to the whole rest. -/
def RecoveryAwait.remaining : RecoveryAwait → Nat
  | .dropping call => 37 + call.remaining
  | .connect => 37
  | .openChannel _ => 36
  | .declarePassive _ _ _ rest => 32 + rest.length
  | .qos _ _ => 31
  | .declare _ _ declaration _ _ rest => 6 + declaration.remaining + 6 * rest.length
  | .consume _ _ _ _ rest => 3 + rest.length
  | .closeTempChannel _ => 4
  | .closeTempConnection _ => 3
  | .closing call => call.remaining

/-- What is left once the recovery has come to its next await, or to its end. -/
def remainingOf : Option RecoveryAwait → Nat
  | some awaiting => awaiting.remaining
  | none => 0

section Length

variable (s : State) (temp : Channel) (found : List (DataType × Nat))

/-- After an exception there is a close left, of a channel and of a connection. -/
theorem remaining_recoveryFailed : remainingOf (recoveryFailed s temp).2 = 2 := rfl

/-- A registration for each type that is left, and the close of an exception. -/
theorem remaining_consumeNext (types : List DataType) :
    remainingOf (consumeNext s temp found types) ≤ 2 + types.length := by
  induction types with
  | nil => exact Nat.zero_le _
  | cons t types ih =>
    rw [consumeNext]
    split
    · split
      · rw [List.length_cons]
        omega
      · show 3 + types.length ≤ 2 + (types.length + 1)
        omega
    · rw [List.length_cons]
      omega

/-- The rest of one queue's calls, the other queues, and the registrations after them. -/
theorem remaining_declareOnActive (declaration : Declaration) (t : DataType) (rest : List DataType) :
    remainingOf (declareOnActive s temp found declaration t rest).2 ≤
      6 + declaration.remaining + 6 * rest.length := by
  unfold declareOnActive
  split
  · exact Nat.le_refl _
  · rw [remaining_recoveryFailed]
    omega

/-- Six calls for each queue that is left. -/
theorem remaining_declareNext (rest : List DataType) :
    remainingOf (declareNext s temp found rest).2 ≤ 6 + 6 * rest.length := by
  cases rest with
  | nil => exact remaining_consumeNext s temp found MUSICBRAINZ_DATA_TYPES
  | cons t rest =>
    have h := remaining_declareOnActive s temp found .exchange t rest
    rw [List.length_cons]
    change _ ≤ 6 + 6 + 6 * rest.length at h
    show remainingOf (declareOnActive s temp found .exchange t rest).2 ≤ _
    omega

/-- An answered declaration is one call less. -/
theorem remaining_declared (declaration : Declaration) (on : Channel) (t : DataType)
    (rest : List DataType) :
    remainingOf (declared s temp found declaration on t rest).2 <
      6 + declaration.remaining + 6 * rest.length := by
  -- Within a type the declarations only come closer to the last.
  have hactive (next : Declaration) (hnext : next.remaining < declaration.remaining) :
      remainingOf (declareOnActive s temp found next t rest).2 <
        6 + declaration.remaining + 6 * rest.length := by
    have h := remaining_declareOnActive s temp found next t rest
    omega
  cases declaration with
  | exchange => exact hactive .deadLetterExchange (by decide)
  | deadLetterExchange => exact hactive .deadLetterQueue (by decide)
  | deadLetterQueue =>
    show 6 + 3 + 6 * rest.length < 6 + 4 + 6 * rest.length
    omega
  | bindDeadLetterQueue => exact hactive .queue (by decide)
  | queue =>
    show 6 + 1 + 6 * rest.length < 6 + 2 + 6 * rest.length
    omega
  | bindQueue =>
    have h := remaining_declareNext { s with queues := s.queues.insert t on } temp found rest
    show remainingOf (declareNext { s with queues := s.queues.insert t on } temp found rest).2 <
      6 + 1 + 6 * rest.length
    omega

/-- The looks that are left, and then either everything else or the two closures. -/
theorem remaining_passiveNext (rest : List DataType) :
    remainingOf (passiveNext s temp found rest).2 ≤ 31 + rest.length := by
  cases rest with
  | cons t rest =>
    show 32 + rest.length ≤ 31 + (rest.length + 1)
    omega
  | nil =>
    rw [passiveNext]
    split
    · show 4 ≤ 31
      omega
    · exact Nat.le_refl _

/-- The second half of a close asks for one closure at most. -/
theorem remaining_closeConnection (began : Option ConnectionId) (confirmed : Bool)
    (closed : List ConnectionId) : (closeConnection s began confirmed closed).2.remaining ≤ 1 := by
  unfold closeConnection
  split
  · exact Nat.le_refl _
  · cases confirmed <;> exact Nat.zero_le _

/-- A whole close asks for two. -/
theorem remaining_startClose : (startClose s).2.remaining ≤ 2 := by
  unfold startClose
  split
  · exact Nat.le_refl _
  · exact Nat.le_succ_of_le (remaining_closeConnection _ _ _ _)

/-- A close goes on from the channel to the connection, and from there to its end. -/
theorem remaining_resumeClose (call : CloseCall) (answered : Bool) :
    (resumeClose s call answered).2.remaining < call.remaining := by
  obtain ⟨began, confirmed, closed, awaiting⟩ := call
  cases awaiting with
  | channel c =>
    cases answered with
    | true => exact Nat.lt_succ_of_le (remaining_closeConnection _ _ _ _)
    | false => exact Nat.lt_succ_of_le (remaining_closeConnection _ _ _ _)
  | connection k =>
    cases answered with
    | true => exact Nat.zero_lt_one
    | false => cases confirmed <;> exact Nat.zero_lt_one

/-- After the drop the call begins in earnest. -/
theorem remaining_afterDrop (r : State × CloseNext) :
    remainingOf (afterDrop r).2 ≤ 37 + r.2.remaining := by
  obtain ⟨s', next⟩ := r
  cases next with
  | suspended call => exact Nat.le_refl _
  | returned closed =>
    cases closed with
    | true => exact Nat.le_refl _
    | false => exact Nat.zero_le _

/-- After the close of an exception the call is over. -/
theorem remaining_afterFailure (r : State × CloseNext) :
    remainingOf (afterFailure r).2 ≤ r.2.remaining := by
  obtain ⟨s', next⟩ := r
  cases next with
  | suspended call => exact Nat.le_refl _
  | returned closed => cases closed <;> exact Nat.le_refl _

/-- **Every answer brings the recovery nearer to its end.** One case for each await: an answer takes
    its own call off the bound, and an exception leaves the two closures, which every await before
    them has more than. -/
theorem remaining_recoveryStep {awaiting : RecoveryAwait} {reply : Reply}
    {r : State × Option RecoveryAwait} (h : recoveryStep s awaiting reply = some r) :
    remainingOf r.2 < awaiting.remaining := by
  -- A failure leads to a close, which has two awaits at most.
  have hfailed (temp : Channel) (n : Nat) (hn : 2 < n) :
      remainingOf (recoveryFailed s temp).2 < n := by
    rw [remaining_recoveryFailed]
    exact hn
  cases awaiting with
  | dropping call =>
    -- A close takes its own awaits first, one less with each answer.
    have hdrop (answered : Bool) :
        remainingOf (afterDrop (resumeClose s call answered)).2 < 37 + call.remaining := by
      have hresumed := remaining_resumeClose s call answered
      have hdropped := remaining_afterDrop (resumeClose s call answered)
      omega
    cases reply with
    | raised => exact Option.some.inj h ▸ hdrop false
    | value n => exact Option.some.inj h ▸ hdrop true
    | tag consumerTag => cases h
  | closing call =>
    have hclose (answered : Bool) :
        remainingOf (afterFailure (resumeClose s call answered)).2 < call.remaining := by
      have hresumed := remaining_resumeClose s call answered
      have hfailure := remaining_afterFailure (resumeClose s call answered)
      omega
    cases reply with
    | raised => exact Option.some.inj h ▸ hclose false
    | value n => exact Option.some.inj h ▸ hclose true
    | tag consumerTag => cases h
  | connect =>
    cases reply with
    | raised =>
      obtain rfl := Option.some.inj h
      show 0 < 37
      omega
    | value k =>
      obtain rfl := Option.some.inj h
      show 36 < 37
      omega
    | tag consumerTag => cases h
  | openChannel k =>
    cases reply with
    | raised =>
      obtain rfl := Option.some.inj h
      show 0 < 36
      omega
    | value n =>
      have hpassive := remaining_passiveNext s ⟨k, n⟩ [] MUSICBRAINZ_DATA_TYPES
      exact Option.some.inj h ▸ Nat.lt_succ_of_le hpassive
    | tag consumerTag => cases h
  | declarePassive temp found t rest =>
    cases reply with
    | raised => exact Option.some.inj h ▸ hfailed temp _ (by show 2 < 32 + rest.length; omega)
    | value n =>
      obtain rfl := Option.some.inj h
      have hpassive := remaining_passiveNext s temp
        (if 0 < n then found ++ [(t, n)] else found) rest
      show _ < 32 + rest.length
      omega
    | tag consumerTag => cases h
  | qos temp found =>
    cases reply with
    | raised => exact Option.some.inj h ▸ hfailed temp 31 (by decide)
    | value n =>
      have hdeclare := remaining_declareNext { s with queues := ∅ } temp found
        MUSICBRAINZ_DATA_TYPES
      obtain rfl := Option.some.inj h
      -- Four types, six declarations each.
      change _ ≤ 6 + 6 * 4 at hdeclare
      show remainingOf (declareNext { s with queues := ∅ } temp found MUSICBRAINZ_DATA_TYPES).2 < 31
      omega
    | tag consumerTag => cases h
  | declare temp found declaration on t rest =>
    cases reply with
    | raised =>
      refine Option.some.inj h ▸ hfailed temp _ ?_
      show 2 < 6 + declaration.remaining + 6 * rest.length
      omega
    | value n => exact Option.some.inj h ▸ remaining_declared s temp found declaration on t rest
    | tag consumerTag => cases h
  | consume temp found on t rest =>
    cases reply with
    | raised => exact Option.some.inj h ▸ hfailed temp _ (by show 2 < 3 + rest.length; omega)
    | value n => cases h
    | tag consumerTag =>
      obtain rfl := Option.some.inj h
      have hconsume := remaining_consumeNext
        (registerConsumer s found t ⟨consumerTag, on.connection⟩) temp found rest
      -- One registration less to make.
      exact Nat.lt_of_le_of_lt hconsume (by show 2 + rest.length < 3 + rest.length; omega)
  | closeTempChannel temp =>
    cases reply with
    | raised => exact Option.some.inj h ▸ hfailed temp 4 (by decide)
    | value n =>
      obtain rfl := Option.some.inj h
      show 3 < 4
      omega
    | tag consumerTag => cases h
  | closeTempConnection temp =>
    cases reply with
    | raised => exact Option.some.inj h ▸ hfailed temp 3 (by decide)
    | value n =>
      obtain rfl := Option.some.inj h
      show 0 < 3
      omega
    | tag consumerTag => cases h

/-- Any of the broker calls may raise. -/
theorem recoveryStep_raised (awaiting : RecoveryAwait) :
    ∃ r, recoveryStep s awaiting .raised = some r := by
  cases awaiting <;> exact ⟨_, rfl⟩

/-- At an await there is a call to be answered. -/
theorem RecoveryAwait.remaining_pos (awaiting : RecoveryAwait) : 0 < awaiting.remaining := by
  obtain ⟨r, hr⟩ := recoveryStep_raised {} awaiting
  exact Nat.zero_lt_of_lt (remaining_recoveryStep {} hr)

/-- All there is to do. -/
theorem remaining_startRecovery : remainingOf (startRecovery s).2 ≤ 39 := by
  unfold startRecovery
  split
  · have hdropped := remaining_afterDrop (startClose s)
    have hstarted := remaining_startClose s
    omega
  · show 37 ≤ 39
    omega

end Length

/-- What a call may still ask for bounds how long it goes on.  By induction on the outcomes; a
    cancellation ends the call, so it takes off whatever was left. -/
theorem length_le_remaining {c c' : RecoveryCall} {outcomes : List Outcome}
    (hrun : run callStep c outcomes = some c') : outcomes.length ≤ remainingOf c.awaiting := by
  induction outcomes generalizing c with
  | nil => exact Nat.zero_le _
  | cons outcome outcomes ih =>
    obtain ⟨m, hm, hrest⟩ := run_cons_eq_some.mp hrun
    have hlater := ih hrest
    have hless : remainingOf m.awaiting < remainingOf c.awaiting := by
      cases outcome with
      | cancelled =>
        obtain ⟨awaiting, hawaiting, -⟩ := Option.bind_eq_some_iff.mp hm
        obtain rfl := callStep_cancelled hm
        rw [hawaiting]
        exact awaiting.remaining_pos
      | replied reply =>
        obtain ⟨awaiting, r, hawaiting, -, hstep, rfl⟩ := callStep_replied hm
        rw [hawaiting]
        exact remaining_recoveryStep c.state hstep
    rw [List.length_cons]
    omega

/-- **A recovery comes to an end**: from any state, and however its broker calls come out, it makes at
    most 39 of them, and as long as it has not ended it does not get stuck. -/
theorem recovery_is_bounded (s : State) (outcomes : List Outcome) (c : RecoveryCall)
    (hrun : run callStep (startCall s) outcomes = some c) :
    outcomes.length ≤ 39 ∧ (c.awaiting ≠ none → ∃ reply c', callStep c (.replied reply) = some c') := by
  constructor
  · exact (length_le_remaining hrun).trans (remaining_startRecovery s)
  · intro hgoes
    obtain ⟨awaiting, hawaiting⟩ := Option.ne_none_iff_exists'.mp hgoes
    obtain ⟨r, hr⟩ := recoveryStep_raised c.state awaiting
    have hfresh : ¬ ∃ k ∈ awaiting.obtains .raised, k ∈ c.closed := by
      rintro ⟨k, hk, -⟩
      cases awaiting <;> cases hk
    refine ⟨.raised, ⟨r.1, r.2, c.obtained ++ awaiting.obtains .raised,
      c.closed ++ awaiting.confirms .raised⟩, ?_⟩
    unfold callStep
    rw [hawaiting]
    show (if _ then _ else _) = _
    rw [if_neg hfresh, hr]
    rfl

theorem noMessages_is_bounded :
    ∃ c, run callStep (startCall {}) noMessages = some c ∧ noMessages.length ≤ 39 :=
  ⟨_, rfl, (recovery_is_bounded {} noMessages _ rfl).1⟩

end Broker

/-
  One call of `_recover_consumers`, with what becomes of the connection it obtains.

  Each broker call of the recovery is answered, raises, or is where the task is cancelled; a
  cancellation passes both `except Exception` and ends the call where it stands.  Beside the state the
  call keeps a ledger: the connections `connect` has given it, and those a close has confirmed.

  A connection is safe when its closure is confirmed or it is the active one, where the next close finds
  it.  `openChannel` is awaited in the first `try`, whose handler only returns, and up to the point
  where the connection becomes active a cancellation finds no handler at all.

  Safety is not an invariant: between `connect` and the activation the connection is in a local variable,
  neither closed nor active, in every run there is.  What is kept is where it is (`RecoveryAwait.Holds`),
  await by await, and an exposed await is one whose failure ends the call right there.  For
  the other direction of the equivalence, a failure of an exposed await is followed to the end of the
  call, which it is: nothing that runs afterwards still has the variable.
-/
import MusicBrainzLoader.Broker.Machine

namespace Broker

open Purge (DataType MUSICBRAINZ_DATA_TYPES)
open Runs

/-! ## The call -/

/-- What an await of the recovery comes to. -/
inductive Outcome where
  | replied (reply : Reply)
  /-- The task is cancelled there. -/
  | cancelled
deriving DecidableEq

/-- A call of `_recover_consumers`; none to await when it has ended.  The two ledgers are not the
    code's: it forgets a connection as soon as no variable names it, and that is what is to be
    seen. -/
structure RecoveryCall where
  state : State
  awaiting : Option RecoveryAwait
  /-- The connections it got from `connect`. -/
  obtained : List ConnectionId := []
  /-- The connections whose closure was confirmed. -/
  closed : List ConnectionId := []

/-- The connection an answer gives. -/
def RecoveryAwait.obtains : RecoveryAwait → Reply → List ConnectionId
  | .connect, .value k => [k]
  | _, _ => []

/-- The connection whose closure an answer confirms. -/
def RecoveryAwait.confirms : RecoveryAwait → Reply → List ConnectionId
  | .closeTempConnection temp, .value _ => [temp.connection]
  | .dropping ⟨_, _, _, .connection k⟩, .value _ => [k]
  | .closing ⟨_, _, _, .connection k⟩, .value _ => [k]
  | _, _ => []

/-- The call up to its first await. -/
def startCall (s : State) : RecoveryCall :=
  { state := (startRecovery s).1, awaiting := (startRecovery s).2 }

/-- The call from one await to the next; `connect` gives a connection that is not closed.  A
    cancellation ends the call: no handler of the recovery or of the checker catches it, so no code
    runs after it that could close anything. -/
def callStep (c : RecoveryCall) (outcome : Outcome) : Option RecoveryCall :=
  c.awaiting.bind fun awaiting =>
    match outcome with
    | .cancelled => some { c with awaiting := none }
    | .replied reply =>
      if ∃ k ∈ awaiting.obtains reply, k ∈ c.closed then none
      else (recoveryStep c.state awaiting reply).map fun r => {
        state := r.1
        awaiting := r.2
        obtained := c.obtained ++ awaiting.obtains reply
        closed := c.closed ++ awaiting.confirms reply }

/-- Every connection obtained is confirmed closed, or held where a later close reaches it.  A
    connection in a local variable is neither, and at the end of the call there are no local
    variables. -/
def RecoveryCall.Safe (c : RecoveryCall) : Prop :=
  ∀ k ∈ c.obtained, k ∈ c.closed ∨ c.state.activeConnection = some k

/-- The awaits that nothing covers: opening the channel, whose failure is only logged, and, for a
    cancellation, every one before the connection is active. -/
def RecoveryAwait.exposed : RecoveryAwait → Outcome → Bool
  -- The first `try` logs it and returns, with the connection in a local variable only.
  | .openChannel _, .replied .raised => true
  | .openChannel _, .cancelled => true
  | .declarePassive _ _ _ _, .cancelled => true
  | .closeTempChannel _, .cancelled => true
  | .closeTempConnection _, .cancelled => true
  | _, _ => false

/-- No await fails where nothing covers it. -/
def Covered (c : RecoveryCall) (outcome : Outcome) : Prop :=
  ∀ awaiting, c.awaiting = some awaiting → awaiting.exposed outcome = false

instance (c : RecoveryCall) (outcome : Outcome) : Decidable (Covered c outcome) :=
  match h : c.awaiting with
  | none => isTrue fun _ h' => by rw [h] at h'; cases h'
  | some awaiting => decidable_of_iff (awaiting.exposed outcome = false)
      ⟨fun hcovered _ h' => by rw [h] at h'; exact Option.some.inj h' ▸ hcovered,
        fun hcovered => hcovered awaiting h⟩

/-! ## Where the connection is -/

/-- What is known of the connection at each await: not obtained yet; obtained, and nobody else's;
    the active one.  Of the middle group it is known besides that its closure is not confirmed and
    that no other connection is active: this is what a leak is, once the call is over. -/
def RecoveryAwait.Holds (active : Option ConnectionId) (obtained closed : List ConnectionId) :
    RecoveryAwait → Prop
  | .dropping _ => obtained = []
  | .connect => obtained = [] ∧ active = none
  | .openChannel k => obtained = [k] ∧ k ∉ closed ∧ active = none
  | .declarePassive temp _ _ _ => obtained = [temp.connection] ∧ temp.connection ∉ closed ∧ active = none
  | .closeTempChannel temp => obtained = [temp.connection] ∧ temp.connection ∉ closed ∧ active = none
  | .closeTempConnection temp => obtained = [temp.connection] ∧ temp.connection ∉ closed ∧ active = none
  | .qos temp _ => obtained = [temp.connection] ∧ active = some temp.connection
  | .declare temp _ _ _ _ _ => obtained = [temp.connection] ∧ active = some temp.connection
  | .consume temp _ _ _ _ => obtained = [temp.connection] ∧ active = some temp.connection
  | .closing call => ∃ k, obtained = [k] ∧ active = some k ∧
      ∀ k', call.awaiting = .connection k' → k' = k

/-- Where the recovery has come to: it awaits something, or it has ended safely. -/
structure Accounted (obtained closed : List ConnectionId) (r : State × Option RecoveryAwait) : Prop where
  holds : ∀ awaiting, r.2 = some awaiting →
    awaiting.Holds r.1.activeConnection obtained closed
  safe : r.2 = none → ∀ k ∈ obtained, k ∈ closed ∨ r.1.activeConnection = some k

section Parts

variable {s : State} {obtained closed : List ConnectionId} {temp : Channel}

/-- The call comes to an await that knows where the connection is. -/
theorem Accounted.waits {awaiting : RecoveryAwait}
    (h : awaiting.Holds s.activeConnection obtained closed) :
    Accounted obtained closed (s, some awaiting) := by
  refine ⟨fun awaiting' heq => ?_, fun hnone => ?_⟩
  · obtain rfl := Option.some.inj heq
    exact h
  · cases hnone

/-- Or to its end, with every connection closed or active. -/
theorem Accounted.ends (h : ∀ k ∈ obtained, k ∈ closed ∨ s.activeConnection = some k) :
    Accounted obtained closed (s, none) := by
  refine ⟨fun awaiting' heq => ?_, fun _ => h⟩
  cases heq

/-- A connection that is the active one is safe. -/
theorem safe_of_active {k : ConnectionId} (hobtained : obtained = [k])
    (hactive : s.activeConnection = some k) :
    ∀ k' ∈ obtained, k' ∈ closed ∨ s.activeConnection = some k' := by
  intro k' hk'
  rw [hobtained] at hk'
  obtain rfl := List.mem_singleton.mp hk'
  exact .inr hactive

/-! ### Closes -/

/-- A close that returns true has left no connection active. -/
theorem finishClose_returned {confirmed : Bool} (h : (finishClose s confirmed).2 = .returned true) :
    (finishClose s confirmed).1.activeConnection = none := by
  unfold finishClose at h ⊢
  cases confirmed with
  | false => cases h
  | true =>
    show s.activeConnection = none
    have hnone : (!s.activeConnection.isSome) = true := CloseNext.returned.inj h
    cases hactive : s.activeConnection with
    | none => rfl
    | some k =>
      rw [hactive] at hnone
      cases hnone

/-- The same of its second half, where there may be no connection to close. -/
theorem closeConnection_returned {began : Option ConnectionId} {confirmed : Bool}
    {ids : List ConnectionId} (h : (closeConnection s began confirmed ids).2 = .returned true) :
    (closeConnection s began confirmed ids).1.activeConnection = none := by
  unfold closeConnection at h ⊢
  split at h
  · cases h
  · exact finishClose_returned h

/-- Of a whole close, when it returns at once. -/
theorem startClose_returned (h : (startClose s).2 = .returned true) :
    (startClose s).1.activeConnection = none := by
  unfold startClose at h ⊢
  split at h
  · cases h
  · exact closeConnection_returned h

/-- And when it comes back from an await. -/
theorem resumeClose_returned {call : CloseCall} {answered : Bool}
    (h : (resumeClose s call answered).2 = .returned true) :
    (resumeClose s call answered).1.activeConnection = none := by
  unfold resumeClose at h ⊢
  split at h
  · exact closeConnection_returned h
  · exact closeConnection_returned h
  · exact finishClose_returned h
  · exact finishClose_returned h

/-- Dropping what is left leads to `connect`, if to anything.  A drop that is not confirmed ends the
    call, which has obtained nothing yet. -/
theorem accounted_afterDrop {r : State × CloseNext}
    (h : r.2 = .returned true → r.1.activeConnection = none) :
    Accounted [] closed (afterDrop r) := by
  obtain ⟨s', next⟩ := r
  cases next with
  | suspended call => exact .waits rfl
  | returned confirmed =>
    cases confirmed with
    | true =>
      apply Accounted.waits
      exact ⟨rfl, h rfl⟩
    | false => exact .ends fun k hk => absurd hk List.not_mem_nil

/-- The connection half of a close, with the recovery's own connection active: it is the connection
    that is then awaited. -/
theorem accounted_closeConnection {k : ConnectionId} (hobtained : obtained = [k])
    (hactive : s.activeConnection = some k) (began : Option ConnectionId) (confirmed : Bool)
    (ids : List ConnectionId) :
    Accounted obtained closed (afterFailure (closeConnection s began confirmed ids)) := by
  unfold closeConnection
  rw [hactive]
  apply Accounted.waits
  refine ⟨k, hobtained, hactive, fun k' heq => ?_⟩
  exact (CloseAwait.connection.inj heq).symm

/-- Its end without an answer: the connection is still held. -/
theorem accounted_finishClose {k : ConnectionId} (hobtained : obtained = [k])
    (hactive : s.activeConnection = some k) (confirmed : Bool) :
    Accounted obtained closed (afterFailure (finishClose s confirmed)) := by
  unfold finishClose
  cases confirmed with
  | false => exact .ends (safe_of_active hobtained hactive)
  | true =>
    have hheld : (!s.activeConnection.isSome) = false := by rw [hactive]; rfl
    show Accounted obtained closed (afterFailure (_, .returned (!s.activeConnection.isSome)))
    rw [hheld]
    apply Accounted.ends
    exact safe_of_active hobtained (s := { s with consumerTags := ∅ }) hactive

/-- After an exception the connection is the active one, and its close begins.  The handler assigns
    the global handles first, so from here on the connection is held, whatever the close comes
    to. -/
theorem accounted_recoveryFailed (hobtained : obtained = [temp.connection]) :
    Accounted obtained closed (recoveryFailed s temp) := by
  apply Accounted.waits
  refine ⟨temp.connection, hobtained, rfl, fun k' heq => ?_⟩
  cases heq

/-- A close after an exception goes on. -/
theorem accounted_closing {call : CloseCall} {k : ConnectionId} (hobtained : obtained = [k])
    (hactive : s.activeConnection = some k)
    (hcall : ∀ k', call.awaiting = .connection k' → k' = k) (answered : Bool)
    (hconfirmed : ∀ k', call.awaiting = .connection k' → answered = true → k' ∈ closed) :
    Accounted obtained closed (afterFailure (resumeClose s call answered)) := by
  unfold resumeClose
  split
  · exact accounted_closeConnection (s := { s with activeChannel := none }) hobtained hactive _ _ _
  · exact accounted_closeConnection hobtained hactive _ _ _
  · rename_i k' hawaiting
    -- Its closure is confirmed: from here on nothing need hold it.
    have hclosed := hconfirmed k' hawaiting rfl
    rw [hcall k' hawaiting] at hclosed
    refine .ends fun k'' hk'' => ?_
    rw [hobtained] at hk''
    obtain rfl := List.mem_singleton.mp hk''
    exact .inl hclosed
  · exact accounted_finishClose hobtained hactive _

/-! ### The loops -/

/-- The looks for messages, with the connection in the local variable.  The last of them either
    activates it or goes on to close it. -/
theorem accounted_passiveNext (hobtained : obtained = [temp.connection])
    (hclosed : temp.connection ∉ closed) (hactive : s.activeConnection = none)
    (found : List (DataType × Nat)) (rest : List DataType) :
    Accounted obtained closed (passiveNext s temp found rest) := by
  cases rest with
  | cons t rest =>
    apply Accounted.waits
    exact ⟨hobtained, hclosed, hactive⟩
  | nil =>
    rw [passiveNext]
    split
    · apply Accounted.waits
      exact ⟨hobtained, hclosed, hactive⟩
    · apply Accounted.waits
      exact ⟨hobtained, rfl⟩

/-- The loops after the activation, with the connection active. -/
theorem accounted_consumeNext (hobtained : obtained = [temp.connection])
    (hactive : s.activeConnection = some temp.connection) (found : List (DataType × Nat))
    (types : List DataType) : Accounted obtained closed (s, consumeNext s temp found types) := by
  induction types with
  | nil => exact .ends (safe_of_active hobtained hactive)
  | cons t types ih =>
    unfold consumeNext
    split
    · split
      · exact ih
      · apply Accounted.waits
        exact ⟨hobtained, hactive⟩
    · exact ih

/-- A declaration awaits the broker, or raises for want of a channel. -/
theorem accounted_declareOnActive (hobtained : obtained = [temp.connection])
    (hactive : s.activeConnection = some temp.connection) (found : List (DataType × Nat))
    (declaration : Declaration) (t : DataType) (rest : List DataType) :
    Accounted obtained closed (declareOnActive s temp found declaration t rest) := by
  unfold declareOnActive
  split
  · apply Accounted.waits
    exact ⟨hobtained, hactive⟩
  · exact accounted_recoveryFailed hobtained

/-- The queues that are left, and then the consumers. -/
theorem accounted_declareNext (hobtained : obtained = [temp.connection])
    (hactive : s.activeConnection = some temp.connection) (found : List (DataType × Nat))
    (rest : List DataType) : Accounted obtained closed (declareNext s temp found rest) := by
  cases rest with
  | nil => exact accounted_consumeNext hobtained hactive found _
  | cons t rest => exact accounted_declareOnActive hobtained hactive found .exchange t rest

/-- One declaration leads to another, or to the next loop. -/
theorem accounted_declared (hobtained : obtained = [temp.connection])
    (hactive : s.activeConnection = some temp.connection) (found : List (DataType × Nat))
    (declaration : Declaration) (on : Channel) (t : DataType) (rest : List DataType) :
    Accounted obtained closed (declared s temp found declaration on t rest) := by
  cases declaration with
  | deadLetterQueue =>
    apply Accounted.waits
    exact ⟨hobtained, hactive⟩
  | queue =>
    apply Accounted.waits
    exact ⟨hobtained, hactive⟩
  | bindQueue =>
    exact accounted_declareNext (s := { s with queues := s.queues.insert t on }) hobtained hactive
      found rest
  | _ => exact accounted_declareOnActive hobtained hactive found _ t rest

end Parts

/-! ## Each await -/

section Step

variable {s : State} {awaiting : RecoveryAwait} {obtained closed : List ConnectionId}

/-- An answered close of a connection confirms it. -/
theorem confirms_closing {call : CloseCall} {n : Nat} {k : ConnectionId}
    (h : call.awaiting = .connection k) :
    RecoveryAwait.confirms (.closing call) (.value n) = [k] := by
  obtain ⟨began, confirmed, ids, close⟩ := call
  obtain rfl : close = .connection k := h
  rfl

/-- **An answered await keeps account of the connection**, unless it is the channel that cannot be
    opened.  One case for each await: up to the activation the connection goes from await to await
    with nobody else knowing of it, and every exception but that one leads to the handler that
    activates and closes it; afterwards it is the active one. -/
theorem recoveryStep_accounted {reply : Reply} {r : State × Option RecoveryAwait}
    (hholds : awaiting.Holds s.activeConnection obtained closed)
    (hfresh : ∀ k ∈ awaiting.obtains reply, k ∉ closed)
    (hcovered : awaiting.exposed (.replied reply) = false)
    (h : recoveryStep s awaiting reply = some r) :
    Accounted (obtained ++ awaiting.obtains reply) (closed ++ awaiting.confirms reply) r := by
  cases awaiting with
  | dropping call =>
    obtain rfl : obtained = [] := hholds
    cases reply with
    | raised =>
      obtain rfl := Option.some.inj h
      exact accounted_afterDrop resumeClose_returned
    | value n =>
      obtain rfl := Option.some.inj h
      exact accounted_afterDrop resumeClose_returned
    | tag consumerTag => cases h
  | connect =>
    obtain ⟨rfl, hactive⟩ := hholds
    cases reply with
    | raised =>
      obtain rfl := Option.some.inj h
      exact .ends fun k hk => absurd hk List.not_mem_nil
    | value k =>
      obtain rfl := Option.some.inj h
      have hk : k ∉ closed ++ [] := by
        rw [List.append_nil]
        exact hfresh k (List.mem_singleton_self k)
      apply Accounted.waits
      exact ⟨rfl, hk, hactive⟩
    | tag consumerTag => cases h
  | openChannel k =>
    obtain ⟨rfl, hclosed, hactive⟩ := hholds
    cases reply with
    | raised =>
      -- The one failure that is not covered.
      cases hcovered
    | value n =>
      obtain rfl := Option.some.inj h
      have htemp : [k] = [(⟨k, n⟩ : Channel).connection] := rfl
      refine accounted_passiveNext htemp ?_ hactive [] MUSICBRAINZ_DATA_TYPES
      rw [show closed ++ RecoveryAwait.confirms (.openChannel k) (.value n) = closed from
        List.append_nil closed]
      exact hclosed
    | tag consumerTag => cases h
  | declarePassive temp found t rest =>
    obtain ⟨rfl, hclosed, hactive⟩ := hholds
    cases reply with
    | raised =>
      obtain rfl := Option.some.inj h
      exact accounted_recoveryFailed rfl
    | value n =>
      obtain rfl := Option.some.inj h
      refine accounted_passiveNext rfl ?_ hactive _ rest
      rw [show closed ++ RecoveryAwait.confirms (.declarePassive temp found t rest) (.value n) = closed
        from List.append_nil closed]
      exact hclosed
    | tag consumerTag => cases h
  | qos temp found =>
    obtain ⟨rfl, hactive⟩ := hholds
    cases reply with
    | raised =>
      obtain rfl := Option.some.inj h
      exact accounted_recoveryFailed rfl
    | value n =>
      obtain rfl := Option.some.inj h
      exact accounted_declareNext (s := { s with queues := ∅ }) rfl hactive found MUSICBRAINZ_DATA_TYPES
    | tag consumerTag => cases h
  | declare temp found declaration on t rest =>
    obtain ⟨rfl, hactive⟩ := hholds
    cases reply with
    | raised =>
      obtain rfl := Option.some.inj h
      exact accounted_recoveryFailed rfl
    | value n =>
      obtain rfl := Option.some.inj h
      exact accounted_declared rfl hactive found declaration on t rest
    | tag consumerTag => cases h
  | consume temp found on t rest =>
    obtain ⟨rfl, hactive⟩ := hholds
    cases reply with
    | raised =>
      obtain rfl := Option.some.inj h
      exact accounted_recoveryFailed rfl
    | value n => cases h
    | tag consumerTag =>
      obtain rfl := Option.some.inj h
      exact accounted_consumeNext (s := registerConsumer s found t ⟨consumerTag, on.connection⟩) rfl
        hactive found rest
  | closeTempChannel temp =>
    obtain ⟨rfl, hclosed, hactive⟩ := hholds
    cases reply with
    | raised =>
      obtain rfl := Option.some.inj h
      exact accounted_recoveryFailed rfl
    | value n =>
      obtain rfl := Option.some.inj h
      have hstill : temp.connection ∉ closed ++ [] := by
        rw [List.append_nil]
        exact hclosed
      apply Accounted.waits
      exact ⟨rfl, hstill, hactive⟩
    | tag consumerTag => cases h
  | closeTempConnection temp =>
    obtain ⟨rfl, hclosed, hactive⟩ := hholds
    cases reply with
    | raised =>
      obtain rfl := Option.some.inj h
      exact accounted_recoveryFailed rfl
    | value n =>
      obtain rfl := Option.some.inj h
      refine .ends fun k hk => .inl ?_
      obtain rfl := List.mem_singleton.mp hk
      exact List.mem_append_right _ (List.mem_singleton_self _)
    | tag consumerTag => cases h
  | closing call =>
    obtain ⟨k, rfl, hactive, hcall⟩ := hholds
    cases reply with
    | raised =>
      obtain rfl := Option.some.inj h
      exact accounted_closing rfl hactive hcall false fun _ _ hanswered => Bool.noConfusion hanswered
    | value n =>
      obtain rfl := Option.some.inj h
      refine accounted_closing rfl hactive hcall true fun k' hawaiting _ => ?_
      rw [confirms_closing hawaiting]
      exact List.mem_append_right _ (List.mem_singleton_self k')
    | tag consumerTag => cases h

end Step

/-! ## Whole calls -/

section Calls

variable {c c' : RecoveryCall} {outcome : Outcome}

/-- A cancellation ends the call as it is. -/
theorem callStep_cancelled (h : callStep c .cancelled = some c') : c' = { c with awaiting := none } := by
  obtain ⟨awaiting, -, h⟩ := Option.bind_eq_some_iff.mp h
  exact (Option.some.inj h).symm

/-- An answer is taken by the await it is for. -/
theorem callStep_replied {reply : Reply} (h : callStep c (.replied reply) = some c') :
    ∃ awaiting r, c.awaiting = some awaiting ∧ (∀ k ∈ awaiting.obtains reply, k ∉ c.closed) ∧
      recoveryStep c.state awaiting reply = some r ∧
      c' = ⟨r.1, r.2, c.obtained ++ awaiting.obtains reply, c.closed ++ awaiting.confirms reply⟩ := by
  obtain ⟨awaiting, hawaiting, h⟩ := Option.bind_eq_some_iff.mp h
  change (if _ then _ else _) = _ at h
  split at h
  · cases h
  · rename_i hfresh
    obtain ⟨r, hr, hc⟩ := Option.map_eq_some_iff.mp h
    exact ⟨awaiting, r, hawaiting, fun k hk hclosed => hfresh ⟨k, hk, hclosed⟩, hr, hc.symm⟩

/-- A call that has ended goes no further. -/
theorem callStep_ended (h : c.awaiting = none) : callStep c outcome = none := by
  unfold callStep
  rw [h]
  rfl

/-- The invariant of a call: its connection is where its await says, and safe once it has ended. -/
def RecoveryCall.Kept (c : RecoveryCall) : Prop := Accounted c.obtained c.closed (c.state, c.awaiting)

/-- A call begins with no connection of its own. -/
theorem kept_startCall (s : State) : (startCall s).Kept := by
  show Accounted [] [] (startRecovery s)
  unfold startRecovery
  split
  · exact accounted_afterDrop startClose_returned
  · rename_i hleft
    have hactive : s.activeConnection = none := by
      cases hactive : s.activeConnection with
      | none => rfl
      | some k =>
        rw [hactive] at hleft
        exact absurd rfl hleft
    apply Accounted.waits
    exact ⟨rfl, hactive⟩

/-- A cancellation where the connection is closed, held, or not there yet: before `connect` has
    answered there is nothing to lose, and once it is active the next close finds it. -/
theorem safe_cancelled {awaiting : RecoveryAwait} (hawaiting : c.awaiting = some awaiting)
    (hkept : c.Kept) (hcovered : awaiting.exposed .cancelled = false) : c.Safe := by
  have hholds := hkept.holds awaiting hawaiting
  have hempty (hobtained : c.obtained = []) : c.Safe := by
    intro k hk
    rw [hobtained] at hk
    cases hk
  cases awaiting with
  | dropping call => exact hempty hholds
  | connect => exact hempty hholds.1
  | qos temp found => exact safe_of_active hholds.1 hholds.2
  | declare temp found declaration on t rest => exact safe_of_active hholds.1 hholds.2
  | consume temp found on t rest => exact safe_of_active hholds.1 hholds.2
  | closing call =>
    obtain ⟨k, hobtained, hactive, -⟩ := hholds
    exact safe_of_active hobtained hactive
  | _ => cases hcovered

/-- Each covered await keeps account of the connection. -/
theorem kept_callStep (hkept : c.Kept) (hcovered : Covered c outcome)
    (h : callStep c outcome = some c') : c'.Kept := by
  cases outcome with
  | cancelled =>
    obtain ⟨awaiting, hawaiting, -⟩ := Option.bind_eq_some_iff.mp h
    have hsafe := safe_cancelled hawaiting hkept (hcovered awaiting hawaiting)
    obtain rfl := callStep_cancelled h
    exact .ends hsafe
  | replied reply =>
    obtain ⟨awaiting, r, hawaiting, hfresh, hstep, rfl⟩ := callStep_replied h
    exact recoveryStep_accounted (hkept.holds awaiting hawaiting) hfresh
      (hcovered awaiting hawaiting) hstep

/-- A connection that is neither closed nor active is not safe. -/
theorem not_safe {k : ConnectionId} (hobtained : c.obtained = [k]) (hclosed : k ∉ c.closed)
    (hactive : c.state.activeConnection = none) : ¬ c.Safe := by
  intro hsafe
  rcases hsafe k (hobtained ▸ List.mem_singleton_self k) with hin | hheld
  · exact hclosed hin
  · rw [hactive] at hheld
    cases hheld

/-- **An await that fails where nothing covers it leaks the connection**, and the call is over.  At
    each of these awaits the invariant says that the connection is neither closed nor active, and
    the failure changes neither. -/
theorem exposed_leaks {awaiting : RecoveryAwait} (hawaiting : c.awaiting = some awaiting)
    (hkept : c.Kept) (hexposed : awaiting.exposed outcome = true)
    (h : callStep c outcome = some c') : c'.awaiting = none ∧ ¬ c'.Safe := by
  have hholds := hkept.holds awaiting hawaiting
  cases outcome with
  | cancelled =>
    obtain rfl := callStep_cancelled h
    refine ⟨rfl, ?_⟩
    -- Of the awaits a cancellation ends, these have the connection in a local variable.
    cases awaiting with
    | openChannel k => exact not_safe hholds.1 hholds.2.1 hholds.2.2
    | declarePassive temp found t rest => exact not_safe hholds.1 hholds.2.1 hholds.2.2
    | closeTempChannel temp => exact not_safe hholds.1 hholds.2.1 hholds.2.2
    | closeTempConnection temp => exact not_safe hholds.1 hholds.2.1 hholds.2.2
    | _ => cases hexposed
  | replied reply =>
    obtain ⟨awaiting', r, hawaiting', -, hstep, rfl⟩ := callStep_replied h
    obtain rfl := Option.some.inj (hawaiting.symm.trans hawaiting')
    -- Of the answers, only a refused channel leaves the call with the connection in hand.
    cases awaiting with
    | openChannel k =>
      cases reply with
      | raised =>
        obtain rfl := Option.some.inj hstep
        obtain ⟨hobtained, hclosed, hactive⟩ := hholds
        refine ⟨rfl, not_safe (k := k) ?_ ?_ hactive⟩
        · show c.obtained ++ [] = [k]
          rw [List.append_nil, hobtained]
        · show k ∉ c.closed ++ []
          rw [List.append_nil]
          exact hclosed
      | _ => cases hexposed
    | _ => cases reply <;> cases hexposed

/-- From any await of a call.  By induction on the outcomes: as long as they are covered the call is
    kept; the first that is not ends the call with the connection leaked, and no outcome after it
    changes that. -/
theorem run_safe_iff {outcomes : List Outcome} (hkept : c.Kept)
    (hrun : run callStep c outcomes = some c') (hended : c'.awaiting = none) :
    c'.Safe ↔ Meets callStep Covered c outcomes := by
  -- Along the outcomes, with the call kept: either the next await is covered and the call stays kept,
  -- or the call is over there.
  induction outcomes generalizing c with
  | nil =>
    cases hrun
    exact ⟨fun _ => trivial, fun _ => hkept.safe hended⟩
  | cons outcome outcomes ih =>
    obtain ⟨m, hm, hrest⟩ := run_cons_eq_some.mp hrun
    by_cases hcovered : Covered c outcome
    · rw [ih (kept_callStep hkept hcovered hm) hrest]
      constructor
      · intro hmeets
        refine ⟨hcovered, fun m' hm' => ?_⟩
        obtain rfl := Option.some.inj (hm.symm.trans hm')
        exact hmeets
      · intro hmeets
        exact hmeets.tail hm
    · -- The connection is leaked here, and nothing comes after.
      have hexposed : ∃ awaiting, c.awaiting = some awaiting ∧ awaiting.exposed outcome = true := by
        by_contra hnone
        refine hcovered fun awaiting hawaiting => ?_
        rw [← Bool.not_eq_true]
        exact fun hexposed => hnone ⟨awaiting, hawaiting, hexposed⟩
      obtain ⟨awaiting, hawaiting, hexposed⟩ := hexposed
      obtain ⟨hover, hleaked⟩ := exposed_leaks hawaiting hkept hexposed hm
      -- An ended call takes no more outcomes.
      have hlast : c' = m := by
        cases outcomes with
        | nil => exact (Option.some.inj hrest).symm
        | cons next rest =>
          rw [run_cons, callStep_ended hover] at hrest
          cases hrest
      rw [hlast]
      exact ⟨fun hsafe => absurd hsafe hleaked, fun hmeets => absurd hmeets.head hcovered⟩

end Calls

/-- **A recovery leaks no connection exactly when none of its awaits fails where nothing covers it**:
    the channel of the connection it got is opened, and the task is not cancelled before the connection
    is active, nor while the connection without messages is closed again.  For every state the call
    begins in, and every way its broker calls come out. -/
theorem recovery_leaks_nothing_iff (s : State) (outcomes : List Outcome) (c : RecoveryCall)
    (hrun : run callStep (startCall s) outcomes = some c) (hended : c.awaiting = none) :
    (∀ k ∈ c.obtained, k ∈ c.closed ∨ c.state.activeConnection = some k) ↔
      Meets callStep Covered (startCall s) outcomes :=
  run_safe_iff (kept_startCall s) hrun hended

/-- A recovery that connects, and then cannot open a channel. -/
def channelRefused : List Outcome := [.replied (.value 7), .replied .raised]

theorem channelRefused_leaks :
    ∃ c, run callStep (startCall {}) channelRefused = some c ∧ c.awaiting = none ∧
      ¬ ∀ k ∈ c.obtained, k ∈ c.closed ∨ c.state.activeConnection = some k := by
  refine ⟨_, rfl, rfl, fun hsafe => ?_⟩
  rcases hsafe 7 (List.mem_singleton_self 7) with hclosed | hactive
  · cases hclosed
  · cases hactive

/-- A recovery that finds no message closes what it opened. -/
def noMessages : List Outcome :=
  [.replied (.value 7), .replied (.value 1), .replied (.value 0), .replied (.value 0),
    .replied (.value 0), .replied (.value 0), .replied (.value 0), .replied (.value 0)]

theorem noMessages_leaks_nothing :
    ∃ c, run callStep (startCall {}) noMessages = some c ∧ c.awaiting = none ∧ c.obtained = [7] ∧
      ∀ k ∈ c.obtained, k ∈ c.closed ∨ c.state.activeConnection = some k :=
  ⟨_, rfl, rfl, rfl, (recovery_leaks_nothing_iff {} noMessages _ rfl rfl).mpr (by decide +kernel)⟩

end Broker

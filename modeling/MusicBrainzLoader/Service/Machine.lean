/-
  The loader around its purge: the deliveries of one extraction's records, the `extraction_complete`
  handlers, and what they share (`brainztableinator.py`, `_purge_veto.py`).

  * **Memory and store** — the `StaleChildRowPurge` object and the handlers live in the process and
    are lost on a restart; the tables, the latch rows and the broker's queues are not.
  * **Tasks** — a record's delivery is a `Stage`, a signal's handler a `HandlerAwait`: the await it is
    suspended at.  A step runs one task from one await to the next, so between two steps of a handler
    any other task can run, and several handlers can be at work at once.
  * **Answers** — an await is answered, or raises, or raises after its statement took effect (the
    connection was lost on the way back).

  Queue order and prefetch only restrict which tasks overlap; here any may.  A signal can arrive at
  any time and any number of times.  Steps that change none of the above (telemetry, logging, the
  acknowledgement of a signal) are left out.

  A step runs a task as far as its next await, and that can be a long way: a handler may read a
  count, mark a type and go on to the next queue, or call `purge`, be vetoed, settle and end, all
  between two awaits.  Code of that kind is split in two, `advance` (or `receive`, for a signal) up
  to where it would call `purge`, and `proceed` from there; a step is the first, then the second,
  then the handler put back or taken off the list.

  The theorems about runs never unfold `step`.  They use what stands at the end of this file: which
  of four kinds a step is (`step_cases`), what it decides and settles (`decided`, `settled`), and
  what it does to the shared object (`step_purge`): a restart replaces it, a settling step remembers
  the boundary and clears the marks, and every other step only adds marks.
-/
import Mathlib.Data.Finset.Sort
import Mathlib.Logic.Function.Basic
import MusicBrainzLoader.Lib.Runs
import MusicBrainzLoader.Purge.Object
import MusicBrainzLoader.Records.Reconciliation

namespace Service

open Purge (ChildTable DataType PurgeCall PurgeConfig StaleChildRowPurge)
open Records (Database EntityKind Externals Instant)

/-! ## Messages -/

/-- `StaleChildRowPurge(connection_pool, logger, admission=write_admission)`: the defaults. -/
def config : PurgeConfig := {}

/-- The queue a kind's records travel on. -/
def dataTypeOf : EntityKind → DataType
  | .artist => "artists"
  | .label => "labels"
  | .releaseGroup => "release-groups"
  | .release => "releases"

/-- `str(data.get(key) or "").strip()`. -/
def strippedText (value : Json) : String := if value.truthy then Json.strip value.pyStr else ""

/-- `extraction_key`: the signal's version, or its start if it has none. -/
def extractionKey (message : Json) : Option String :=
  let version := strippedText (message.get "version")
  let startedAt := strippedText (message.get "started_at")
  if version ≠ "" then some version else if startedAt ≠ "" then some startedAt else none

/-- The boundary a signal names. -/
def signalled (message : Json) : Option Instant := Purge.parseStartedAt (message.get "started_at")

/-! ## Records -/

/-- Where the delivery of a record stands. -/
inductive Stage where
  | queued
  /-- Delivered: validation, admission, the transaction. -/
  | handling
  /-- Failed, and waiting before it is requeued. -/
  | backoff
  /-- Rejected, and the broker not told yet. -/
  | rejecting
  /-- Dead-lettered by the broker, and `on_data_message` has still to mark it. -/
  | rejected
  | deadLettered
  /-- Committed, and the broker not told yet. -/
  | acking
  | acked
deriving DecidableEq

structure Delivery where
  kind : EntityKind
  record : Json
  stage : Stage := .queued
  /-- A transaction of this record has committed. -/
  committed : Bool := false

/-- What can happen to a delivery. -/
inductive RecordEvent where
  | deliver
  /-- `_reject`: the mark comes before the broker is told. -/
  | reject
  /-- The failure classifier turns a raised failure into a rejection. -/
  | refuse
  | fail
  | commit (now : Instant)
  /-- The transaction commits and its answer is lost, which fails the delivery. -/
  | commitLost (now : Instant)
  | requeue
  /-- The broker moves a rejected delivery to the dead-letter queue. -/
  | deadLetter
  /-- `on_data_message` marks a rejected delivery after the broker has been told. -/
  | mark
  | ack
  /-- The broker's connection is lost before the delivery is settled. -/
  | redeliver
  /-- An operator puts a dead letter back on its queue. -/
  | replay
deriving DecidableEq

/-! ## Signal handlers -/

/-- Where the handler of an `extraction_complete` is suspended. -/
inductive HandlerAwait where
  /-- `dead_letters_waiting(t)`, with the types still to read after it. -/
  | openChannel (t : DataType) (rest : List DataType)
  | declareQueue (t : DataType) (rest : List DataType)
  /-- The `finally` of `dead_letters_waiting`, with what it is about to return. -/
  | closeChannel (t : DataType) (waiting : Option Nat) (rest : List DataType)
  | slot (version : String)
  | readVetoes (version : String)
  /-- The row has been read, and its transaction is being left. -/
  | vetoesRead (version : String) (vetoes : Finset DataType)
  | recordExtraction (version : String) (vetoed : Finset DataType)
  | leaveSlot
  /-- In `purge`, with the tables its transaction has deleted from. -/
  | purging (call : PurgeCall) (deleted : List ChildTable)
deriving DecidableEq

structure Handler where
  message : Json
  awaiting : HandlerAwait

inductive Outcome where
  | answered
  | raised
  /-- The statement took effect, and its answer was lost. -/
  | raisedAfter
deriving DecidableEq

/-- How a handler's code goes on: to the next await, into `purge`, or to its end. -/
inductive Next where
  | await (awaiting : HandlerAwait)
  | callPurge
  | done
deriving DecidableEq

/-! ## The service -/

structure State where
  purge : StaleChildRowPurge := {}
  handlers : List Handler := []
  deliveries : List Delivery := []
  /-- Dead letters of other extractions, and dead-lettered signals. -/
  otherDeadLetters : DataType → Nat := fun _ => 0
  /-- `purge_vetoed` of this loader's rows of `public.loader_extraction_latch`, by version. -/
  latch : Table String (Finset DataType) := ∅
  db : Database := {}

namespace State

/-- `record_dead_letter`, for each of the types. -/
def mark (s : State) (types : Finset DataType) : State :=
  { s with purge := { s.purge with deadLettered := types ∪ s.purge.deadLettered } }

/-- The live count of a dead-letter queue. -/
def deadLettersWaiting (s : State) (t : DataType) : Nat :=
  (s.deliveries.filter fun d =>
    dataTypeOf d.kind = t ∧ (d.stage = .rejected ∨ d.stage = .deadLettered)).length +
      s.otherDeadLetters t

/-- The types recorded for a version; none when it has no row. -/
def recordedVetoes (s : State) (version : String) : Finset DataType :=
  (s.latch.lookup version).getD ∅

/-- `record_extraction`: a union, so nothing recorded is lost. -/
def recordExtraction (s : State) (version : String) (vetoed : Finset DataType) : State :=
  { s with latch := s.latch.insert version (s.recordedVetoes version ∪ vetoed) }

/-- The commit of a purge's transaction.  The rows it deletes are locked from the `DELETE` on, so none
    of them has changed in between. -/
def commitDeletes (s : State) (boundary : Instant) (deleted : List ChildTable) : State :=
  { s with db := deleted.foldl (fun db table => db.deleteStale boundary table) s.db }

/-- A delivery replaced. -/
def setDelivery (s : State) (i : Nat) (d : Delivery) : State :=
  { s with deliveries := s.deliveries.set i d }

end State

/-- The stages of a delivery. -/
def nextStage : Stage → RecordEvent → Option Stage
  | .queued, .deliver => some .handling
  | .handling, .reject => some .rejecting
  | .handling, .refuse => some .rejecting
  | .handling, .fail => some .backoff
  | .handling, .commit _ => some .acking
  | .handling, .commitLost _ => some .handling
  | .backoff, .requeue => some .queued
  | .rejecting, .deadLetter => some .rejected
  | .rejected, .mark => some .deadLettered
  | .acking, .ack => some .acked
  | .handling, .redeliver => some .queued
  | .backoff, .redeliver => some .queued
  | .rejecting, .redeliver => some .queued
  | .acking, .redeliver => some .queued
  | .deadLettered, .replay => some .queued
  | _, _ => none

/-- One event of one record's delivery; `none` when it cannot happen at the delivery's stage. -/
def recordStep (ext : Externals) (refresh : Bool) (s : State) (i : Nat) (d : Delivery)
    (event : RecordEvent) : Option State := do
  let stage ← nextStage d.stage event
  match event with
  | .reject => return (s.mark {dataTypeOf d.kind}).setDelivery i { d with stage }
  | .mark => return (s.mark {dataTypeOf d.kind}).setDelivery i { d with stage }
  | .commit now =>
    let db ← Records.process ext d.kind refresh d.record now s.db
    return { s with db }.setDelivery i { d with stage, committed := true }
  | .commitLost now =>
    let db ← Records.process ext d.kind refresh d.record now s.db
    return { s with db }.setDelivery i { d with stage, committed := true }
  | _ => return s.setDelivery i { d with stage }

/-- A delivery after a restart: what the broker has not settled is queued again. -/
def Delivery.restarted (d : Delivery) : Delivery :=
  { d with stage := match d.stage with
      | .handling | .backoff | .rejecting | .acking => .queued
      | .rejected => .deadLettered
      | stage => stage }

/-- The loop of `_settle_purge_veto` over the types still to read, and what follows it. -/
def gather (message : Json) : List DataType → Next
  | t :: rest => .await (.openChannel t rest)
  | [] =>
    match extractionKey message with
    | none => .callPurge
    | some version => .await (.slot version)

/-- It comes to the next queue, or to the slot of the message's own version. -/
theorem gather_eq_await {message : Json} {rest : List DataType} {awaiting : HandlerAwait}
    (h : gather message rest = .await awaiting) :
    (∃ t later, awaiting = .openChannel t later) ∨
      ∃ version, extractionKey message = some version ∧ awaiting = .slot version := by
  cases rest with
  | cons t later =>
    obtain rfl := Next.await.inj h
    exact Or.inl ⟨t, later, rfl⟩
  | nil =>
    unfold gather at h
    cases hkey : extractionKey message with
    | none =>
      rw [hkey] at h
      cases h
    | some version =>
      rw [hkey] at h
      obtain rfl := Next.await.inj h
      exact Or.inr ⟨version, rfl, rfl⟩

/-- It calls the purge itself only for a message that names no version. -/
theorem gather_eq_callPurge {message : Json} {rest : List DataType}
    (h : gather message rest = .callPurge) : extractionKey message = none := by
  cases rest with
  | cons t later => cases h
  | nil =>
    unfold gather at h
    cases hkey : extractionKey message with
    | none => rfl
    | some version =>
      rw [hkey] at h
      cases h

/-- Marking no type changes nothing. -/
theorem mark_empty (s : State) : s.mark ∅ = s := by
  unfold State.mark
  rw [Finset.empty_union]

/-- The types whose dead letters are read, in the order they are read in.  This checks `receive`, which
    names the list, against `sorted(purge.expected_data_types)`. -/
theorem sorted_expectedDataTypes :
    config.expectedDataTypes.sort (· ≤ ·) = Purge.MUSICBRAINZ_DATA_TYPES :=
  (List.toFinset_sort (· ≤ ·) (by decide +kernel)).mpr (by decide +kernel)

/-- `_reconcile_deleted_child_rows` up to its first await. -/
def receive (s : State) (dataType : DataType) (message : Json) : State × Next :=
  let s := { s with purge := s.purge.recordCompletion dataType message }
  if !s.purge.isLatched config then (s, .done)
  else if s.purge.isSettled then (s, .callPurge)
  else (s, gather message Purge.MUSICBRAINZ_DATA_TYPES)

/-- A handler, from the await it is suspended at to the next; an exception ends it. -/
def advance (s : State) (h : Handler) (outcome : Outcome) : State × Next :=
  match h.awaiting, outcome with
  | .openChannel t rest, .answered => (s, .await (.declareQueue t rest))
  -- `dead_letters_waiting` answers None, which counts as a dead letter.
  | .openChannel t rest, _ => (s.mark {t}, gather h.message rest)
  | .declareQueue t rest, .answered =>
    (s, .await (.closeChannel t (some (s.deadLettersWaiting t)) rest))
  | .declareQueue t rest, _ => (s, .await (.closeChannel t none rest))
  | .closeChannel t waiting rest, _ =>
    (if waiting = some 0 then s else s.mark {t}, gather h.message rest)
  | .slot version, .answered => (s, .await (.readVetoes version))
  | .readVetoes version, .answered => (s, .await (.vetoesRead version (s.recordedVetoes version)))
  | .vetoesRead version vetoes, .answered =>
    (s.mark vetoes, .await (.recordExtraction version (s.mark vetoes).purge.deadLettered))
  | .recordExtraction version vetoed, .answered =>
    (s.recordExtraction version vetoed, .await .leaveSlot)
  | .recordExtraction version vetoed, .raisedAfter => (s.recordExtraction version vetoed, .done)
  | .leaveSlot, .answered => (s, .callPurge)
  | .purging call deleted, .answered =>
    match Purge.resume config call (.value (Records.answer call.boundary s.db call.awaiting).1) with
    | .suspended call' => (s, .await (.purging call' (deleted ++ call.awaiting.deletes.toList)))
    | .finished _ =>
      let s := s.commitDeletes call.boundary deleted
      ({ s with purge := s.purge.settle (some call.boundary) }, .done)
    | .raised => (s, .done)
  | .purging call deleted, .raisedAfter =>
    (if call.awaiting = .exitStack then s.commitDeletes call.boundary deleted else s, .done)
  | _, _ => (s, .done)

/-- `purge` up to its first await. -/
def callPurge (s : State) : State × Option HandlerAwait :=
  match Purge.start config s.purge with
  | .vetoed _ purge => ({ s with purge }, none)
  | .raised => (s, none)
  | .suspended call => (s, some (.purging call []))

/-- The rest of a handler's step, once its code has come as far as `Next`. -/
def proceed : State × Next → State × Option HandlerAwait
  | (s, .await awaiting) => (s, some awaiting)
  | (s, .callPurge) => callPurge s
  | (s, .done) => (s, none)

/-- The handlers once one of them has come to its next await, or to its end. -/
def resumed (handlers : List Handler) (i : Nat) (h : Handler) : Option HandlerAwait → List Handler
  | some awaiting => handlers.set i { h with awaiting }
  | none => handlers.eraseIdx i

inductive Action where
  | record (i : Nat) (event : RecordEvent)
  /-- An `extraction_complete` is delivered. -/
  | signal (dataType : DataType) (message : Json)
  /-- The await of the `i`-th handler comes back. -/
  | resume (i : Nat) (outcome : Outcome)
  /-- Dead letters that are no record of this extraction come, are replayed or are cleared. -/
  | otherDeadLetters (dataType : DataType) (count : Nat)
  | restart

/-- One step of the service. -/
def step (ext : Externals) (refresh : Bool) (s : State) : Action → Option State
  | .record i event => s.deliveries[i]?.bind fun d => recordStep ext refresh s i d event
  | .signal dataType message =>
    let r := proceed (receive s dataType message)
    some { r.1 with handlers := s.handlers ++ r.2.toList.map fun awaiting => ⟨message, awaiting⟩ }
  | .resume i outcome => s.handlers[i]?.map fun h =>
    let r := proceed (advance s h outcome)
    { r.1 with handlers := resumed s.handlers i h r.2 }
  | .otherDeadLetters dataType count =>
    some { s with otherDeadLetters := Function.update s.otherDeadLetters dataType count }
  | .restart =>
    some { s with purge := {}, handlers := [], deliveries := s.deliveries.map Delivery.restarted }

/-! ## What a step decides and settles -/

/-- The handler a step runs. -/
def actor (s : State) : Action → Option Handler
  | .resume i _ => s.handlers[i]?
  | _ => none

/-- The handlers a step leaves where they are. -/
def others (s : State) : Action → List Handler
  | .resume i _ => s.handlers.eraseIdx i
  | .restart => []
  | _ => s.handlers

/-- How far the code a step runs comes, when it is a handler's. -/
def reached (s : State) : Action → Option (State × Next)
  | .signal dataType message => some (receive s dataType message)
  | .resume i outcome => s.handlers[i]?.map fun h => advance s h outcome
  | _ => none

/-- The object a step calls `purge` on, as it is at the call: the call decides its boundary. -/
def decided (s : State) (a : Action) : Option StaleChildRowPurge :=
  (reached s a).bind fun (s, next) => if next = .callPurge then some s.purge else none

/-- The boundary of a call that is leaving its block, when the commit is answered. -/
def finishing (h : Handler) (outcome : Outcome) : Option Instant :=
  match h.awaiting, outcome with
  | .purging call _, .answered => if call.awaiting = .exitStack then some call.boundary else none
  | _, _ => none

/-- The boundary a step settles: a vetoed call settles a latched one, a call that finishes its own. -/
def settled (s : State) (a : Action) : Option Instant :=
  match decided s a, a with
  | some p, _ => if p.vetoReason config ≠ none ∧ p.isLatched config then p.boundary else none
  | none, .resume i outcome => s.handlers[i]?.bind fun h => finishing h outcome
  | none, _ => none

/-- The message of the handler a step runs. -/
def stepMessage (s : State) : Action → Option Json
  | .signal _ message => some message
  | .resume i _ => s.handlers[i]?.map (·.message)
  | _ => none

/-! ## What a step does -/

/-- Afterwards a handler is one of those left alone, or the one that ran. -/
theorem mem_resumed {handlers : List Handler} {i : Nat} {h h' : Handler}
    {next : Option HandlerAwait} (hmem : h' ∈ resumed handlers i h next) :
    h' ∈ handlers.eraseIdx i ∨ ∃ awaiting, next = some awaiting ∧ h' = { h with awaiting } := by
  cases next with
  | none => exact Or.inl hmem
  | some awaiting =>
    have hmem : h' ∈ handlers.set i { h with awaiting } := hmem
    obtain ⟨j, hj⟩ := List.mem_iff_getElem?.mp hmem
    by_cases hij : i = j
    · subst hij
      rw [List.getElem?_set_self'] at hj
      obtain ⟨_, -, heq⟩ := Option.map_eq_some_iff.mp hj
      exact Or.inr ⟨awaiting, rfl, heq.symm⟩
    · rw [List.getElem?_set_ne hij] at hj
      exact Or.inl (List.mem_eraseIdx_iff_getElem?.mpr ⟨j, fun heq => hij heq.symm, hj⟩)

/-- **The rules of a handler's code**, from the await that comes back to the next. -/
inductive Advances (s : State) (message : Json) : HandlerAwait → Outcome → State × Next → Prop where
  | opened {t rest} : Advances s message (.openChannel t rest) .answered
      (s, .await (.declareQueue t rest))
  | unopened {t rest outcome} (hfailed : outcome ≠ .answered) :
      Advances s message (.openChannel t rest) outcome (s.mark {t}, gather message rest)
  | counted {t rest} : Advances s message (.declareQueue t rest) .answered
      (s, .await (.closeChannel t (some (s.deadLettersWaiting t)) rest))
  | uncounted {t rest outcome} (hfailed : outcome ≠ .answered) :
      Advances s message (.declareQueue t rest) outcome (s, .await (.closeChannel t none rest))
  | empty {t rest outcome} : Advances s message (.closeChannel t (some 0) rest) outcome
      (s, gather message rest)
  | waiting {t waiting rest outcome} (hne : waiting ≠ some 0) :
      Advances s message (.closeChannel t waiting rest) outcome (s.mark {t}, gather message rest)
  | held {version} : Advances s message (.slot version) .answered (s, .await (.readVetoes version))
  | read {version} : Advances s message (.readVetoes version) .answered
      (s, .await (.vetoesRead version (s.recordedVetoes version)))
  | marked {version vetoes} : Advances s message (.vetoesRead version vetoes) .answered
      (s.mark vetoes, .await (.recordExtraction version (s.mark vetoes).purge.deadLettered))
  | recorded {version vetoed} : Advances s message (.recordExtraction version vetoed) .answered
      (s.recordExtraction version vetoed, .await .leaveSlot)
  | recordLost {version vetoed} : Advances s message (.recordExtraction version vetoed) .raisedAfter
      (s.recordExtraction version vetoed, .done)
  | left : Advances s message .leaveSlot .answered (s, .callPurge)
  | suspended {call call' : PurgeCall} {deleted} (hexit : call.awaiting ≠ .exitStack)
      (hboundary : call'.boundary = call.boundary) :
      Advances s message (.purging call deleted) .answered
        (s, .await (.purging call' (deleted ++ call.awaiting.deletes.toList)))
  | finished {call : PurgeCall} {deleted} (hexit : call.awaiting = .exitStack) :
      Advances s message (.purging call deleted) .answered
        ({ s.commitDeletes call.boundary deleted with
            purge := s.purge.settle (some call.boundary) }, .done)
  | commitLost {call : PurgeCall} {deleted} (hexit : call.awaiting = .exitStack) :
      Advances s message (.purging call deleted) .raisedAfter
        (s.commitDeletes call.boundary deleted, .done)
  /-- The purge raises, or an await does that is no read of a queue. -/
  | raised {awaiting outcome} (hfinishing : finishing ⟨message, awaiting⟩ outcome = none) :
      Advances s message awaiting outcome (s, .done)

theorem advances (s : State) (message : Json) (awaiting : HandlerAwait) (outcome : Outcome) :
    Advances s message awaiting outcome (advance s ⟨message, awaiting⟩ outcome) := by
  cases awaiting with
  | openChannel t rest =>
    cases outcome with
    | answered => exact .opened
    | _ => exact .unopened Outcome.noConfusion
  | declareQueue t rest =>
    cases outcome with
    | answered => exact .counted
    | _ => exact .uncounted Outcome.noConfusion
  | closeChannel t waiting rest =>
    -- The code has one branch here, whatever the close comes to: `dead_letters_waiting` returns from
    -- its `finally`, and what it counted alone decides the mark.
    have hclosed : Advances s message (.closeChannel t waiting rest) outcome
        (if waiting = some 0 then s else s.mark {t}, gather message rest) := by
      split
      · rename_i hempty
        subst hempty
        exact .empty
      · rename_i hne
        exact .waiting hne
    cases outcome <;> exact hclosed
  | slot version =>
    cases outcome with
    | answered => exact .held
    | _ => exact .raised rfl
  | readVetoes version =>
    cases outcome with
    | answered => exact .read
    | _ => exact .raised rfl
  | vetoesRead version vetoes =>
    cases outcome with
    | answered => exact .marked
    | _ => exact .raised rfl
  | recordExtraction version vetoed =>
    cases outcome with
    | answered => exact .recorded
    | raised => exact .raised rfl
    | raisedAfter => exact .recordLost
  | leaveSlot =>
    cases outcome with
    | answered => exact .left
    | _ => exact .raised rfl
  | purging call deleted =>
    obtain ⟨boundary, position, counts⟩ := call
    cases outcome with
    | answered =>
      -- Only the last await of a purge ends it; before that it goes on to the next statement, or
      -- raises.
      by_cases hexit : position = .exitStack
      · subst hexit
        exact .finished rfl
      · simp only [advance]
        split
        · rename_i call' hresume
          exact .suspended hexit (Purge.resume_boundary hresume)
        · rename_i counts' hresume
          obtain ⟨n, -, hexit'⟩ := Purge.resume_eq_finished hresume
          exact absurd hexit' hexit
        · exact .raised (if_neg hexit)
    | raised => exact .raised rfl
    | raisedAfter =>
      simp only [advance]
      -- An answer that is lost matters at the commit only: the deletes are there, and the call raises
      -- all the same.
      split
      · rename_i hexit
        exact .commitLost hexit
      · exact .raised rfl

section Step

variable {ext : Externals} {refresh : Bool} {s s' : State} {a : Action}

/-- **The four kinds of step**: an event of a delivery, a handler's code from one await to the next,
    a change among the other dead letters, and a restart. -/
theorem step_cases (h : step ext refresh s a = some s') :
    (∃ i event d, a = .record i event ∧ s.deliveries[i]? = some d ∧
      recordStep ext refresh s i d event = some s') ∨
    (∃ r message handlers, reached s a = some r ∧ stepMessage s a = some message ∧
      s' = { (proceed r).1 with handlers } ∧
      ∀ h' ∈ handlers, h' ∈ others s a ∨
        ∃ awaiting, (proceed r).2 = some awaiting ∧ h' = ⟨message, awaiting⟩) ∨
    (∃ t n, a = .otherDeadLetters t n ∧
      s' = { s with otherDeadLetters := Function.update s.otherDeadLetters t n }) ∨
    (a = .restart ∧
      s' = { s with purge := {}, handlers := [], deliveries := s.deliveries.map Delivery.restarted }) := by
  cases a with
  | record i event =>
    obtain ⟨d, hd, hstep⟩ := Option.bind_eq_some_iff.mp h
    exact Or.inl ⟨i, event, d, rfl, hd, hstep⟩
  -- A signal and an answer to one are the same kind of step: code runs up to the next await, and
  -- `reached` says where it has come to.
  | signal t message =>
    obtain rfl := Option.some.inj h
    refine Or.inr (Or.inl ⟨receive s t message, message, _, rfl, rfl, rfl, ?_⟩)
    intro h' hh'
    rcases List.mem_append.mp hh' with hh' | hh'
    · exact Or.inl hh'
    · obtain ⟨awaiting, hawaiting, rfl⟩ := List.mem_map.mp hh'
      exact Or.inr ⟨awaiting, Option.mem_toList.mp hawaiting, rfl⟩
  | resume i outcome =>
    obtain ⟨h₀, hh₀, hs'⟩ := Option.map_eq_some_iff.mp h
    refine Or.inr (Or.inl ⟨advance s h₀ outcome, h₀.message, _, ?_, ?_, hs'.symm, ?_⟩)
    · show s.handlers[i]?.map _ = _
      rw [hh₀]
      rfl
    · show s.handlers[i]?.map _ = _
      rw [hh₀]
      rfl
    · exact fun h' hh' => mem_resumed hh'
  | otherDeadLetters t n =>
    obtain rfl := Option.some.inj h
    exact Or.inr (Or.inr (Or.inl ⟨t, n, rfl, rfl⟩))
  | restart =>
    obtain rfl := Option.some.inj h
    exact Or.inr (Or.inr (Or.inr ⟨rfl, rfl⟩))

/-- What an event does: it commits the record, marks its type, or moves the delivery on. -/
theorem recordStep_cases {i : Nat} {d : Delivery} {event : RecordEvent}
    (h : recordStep ext refresh s i d event = some s') :
    ∃ stage, nextStage d.stage event = some stage ∧
      ((∃ now db, (event = .commit now ∨ event = .commitLost now) ∧
          Records.process ext d.kind refresh d.record now s.db = some db ∧
          s' = { s with db }.setDelivery i { d with stage, committed := true }) ∨
       ((event = .reject ∨ event = .mark) ∧
          s' = (s.mark {dataTypeOf d.kind}).setDelivery i { d with stage }) ∨
       (event ≠ .mark ∧ s' = s.setDelivery i { d with stage })) := by
  obtain ⟨stage, hstage, h⟩ := Option.bind_eq_some_iff.mp h
  refine ⟨stage, hstage, ?_⟩
  cases event with
  | commit now =>
    obtain ⟨db, hdb, h⟩ := Option.bind_eq_some_iff.mp h
    exact Or.inl ⟨now, db, Or.inl rfl, hdb, (Option.some.inj h).symm⟩
  | commitLost now =>
    obtain ⟨db, hdb, h⟩ := Option.bind_eq_some_iff.mp h
    exact Or.inl ⟨now, db, Or.inr rfl, hdb, (Option.some.inj h).symm⟩
  | reject => exact Or.inr (Or.inl ⟨Or.inl rfl, (Option.some.inj h).symm⟩)
  | mark => exact Or.inr (Or.inl ⟨Or.inr rfl, (Option.some.inj h).symm⟩)
  | _ => exact Or.inr (Or.inr ⟨RecordEvent.noConfusion, (Option.some.inj h).symm⟩)

/-- Only the mark of `on_data_message` completes a rejection. -/
theorem nextStage_deadLettered {stage : Stage} {event : RecordEvent}
    (h : nextStage stage event = some .deadLettered) : event = .mark := by
  cases stage <;> cases event <;> cases h
  rfl

theorem others_subset {h : Handler} (hmem : h ∈ others s a) : h ∈ s.handlers := by
  cases a with
  | resume i o => exact List.mem_of_mem_eraseIdx hmem
  | restart => cases hmem
  | _ => exact hmem

/-- Where a step's handlers come from. -/
theorem step_handlers (h : step ext refresh s a = some s') {h' : Handler} (hmem : h' ∈ s'.handlers) :
    h' ∈ others s a ∨
    ∃ r message awaiting handlers, reached s a = some r ∧ stepMessage s a = some message ∧
      (proceed r).2 = some awaiting ∧ h' = ⟨message, awaiting⟩ ∧
      s' = { (proceed r).1 with handlers } := by
  rcases step_cases h with ⟨i, event, d, rfl, -, hstep⟩ |
    ⟨r, message, handlers, hreached, hmessage, rfl, hhandlers⟩ | ⟨t, n, rfl, rfl⟩ | ⟨rfl, rfl⟩
  · refine Or.inl ?_
    show h' ∈ s.handlers
    obtain ⟨stage, -, ⟨now, db, -, -, rfl⟩ | ⟨-, rfl⟩ | ⟨-, rfl⟩⟩ := recordStep_cases hstep
    all_goals exact hmem
  · rcases hhandlers h' hmem with hother | ⟨awaiting, hawaiting, rfl⟩
    · exact Or.inl hother
    · exact Or.inr ⟨r, message, awaiting, handlers, hreached, hmessage, hawaiting, rfl, rfl⟩
  · exact Or.inl hmem
  · cases hmem

/-- Only marks were added. -/
structure Grown (p p' : StaleChildRowPurge) : Prop where
  boundary : p'.boundary = p.boundary
  signals : p'.signals = p.signals
  settledBoundary : p'.settledBoundary = p.settledBoundary
  deadLettered : p.deadLettered ⊆ p'.deadLettered

theorem Grown.refl (p : StaleChildRowPurge) : Grown p p := ⟨rfl, rfl, rfl, Finset.Subset.refl _⟩

theorem grown_mark (s : State) (types : Finset DataType) : Grown s.purge (s.mark types).purge :=
  ⟨rfl, rfl, rfl, Finset.subset_union_right⟩

/-- A delivery's event adds marks at most, and touches neither the handlers nor the latch. -/
theorem recordStep_frame {i : Nat} {d : Delivery} {event : RecordEvent}
    (h : recordStep ext refresh s i d event = some s') :
    Grown s.purge s'.purge ∧ s'.handlers = s.handlers ∧ s'.latch = s.latch := by
  obtain ⟨stage, -, ⟨now, db, -, -, rfl⟩ | ⟨-, rfl⟩ | ⟨-, rfl⟩⟩ := recordStep_cases h
  · exact ⟨Grown.refl _, rfl, rfl⟩
  · exact ⟨grown_mark s _, rfl, rfl⟩
  · exact ⟨Grown.refl _, rfl, rfl⟩

/-- A handler's code adds marks at most, until its purge call finishes and settles the call's
    boundary. -/
theorem advance_purge (s : State) (h : Handler) (outcome : Outcome) :
    match finishing h outcome with
    | some b => (advance s h outcome).2 = .done ∧
        (advance s h outcome).1.purge = s.purge.settle (some b)
    | none => Grown s.purge (advance s h outcome).1.purge := by
  obtain ⟨message, awaiting⟩ := h
  have hadvances := advances s message awaiting outcome
  generalize advance s ⟨message, awaiting⟩ outcome = r at hadvances ⊢
  cases hadvances with
  -- What a handler does to the marks it does on the way to its purge, and marks are only added.
  | unopened hfailed =>
    cases outcome with
    | answered => exact absurd rfl hfailed
    | _ => exact grown_mark s _
  | waiting => cases outcome <;> exact grown_mark s _
  | marked => exact grown_mark s _
  | suspended hexit =>
    simp only [finishing, if_neg hexit]
    exact Grown.refl _
  -- The one answer that settles.
  | finished hexit =>
    simp only [finishing, if_pos hexit]
    exact ⟨trivial, trivial⟩
  | raised hfinishing =>
    rw [hfinishing]
    exact Grown.refl _
  | uncounted | empty => cases outcome <;> exact Grown.refl _
  | _ => exact Grown.refl _

/-- A signal's arrival leaves the marks and the settled boundary alone. -/
theorem receive_purge (s : State) (t : DataType) (message : Json) :
    (receive s t message).1.purge = s.purge.recordCompletion t message := by
  unfold receive
  dsimp only
  split
  · rfl
  · split <;> rfl

/-- How far a signal's code comes. -/
theorem receive_next (s : State) (t : DataType) (message : Json) :
    (receive s t message).2 =
      if (s.purge.recordCompletion t message).isLatched config = true then
        if (s.purge.recordCompletion t message).isSettled = true then .callPurge
        else gather message Purge.MUSICBRAINZ_DATA_TYPES
      else .done := by
  unfold receive
  dsimp only
  cases (s.purge.recordCompletion t message).isLatched config with
  | false => rfl
  | true =>
    cases (s.purge.recordCompletion t message).isSettled with
    | false => rfl
    | true => rfl

theorem receive_eq (s : State) (t : DataType) (message : Json) :
    receive s t message =
      ({ s with purge := s.purge.recordCompletion t message }, (receive s t message).2) := by
  unfold receive
  dsimp only
  split
  · rfl
  · split <;> rfl

/-- A `purge` call settles a latched boundary it is vetoed for, and leaves the object alone
    otherwise. -/
theorem callPurge_purge (s : State) :
    (callPurge s).1.purge =
      if s.purge.vetoReason config ≠ none ∧ s.purge.isLatched config then
        s.purge.settle s.purge.boundary
      else s.purge := by
  unfold callPurge
  cases hstart : Purge.start config s.purge with
  | vetoed reason p =>
    obtain ⟨hveto, rfl⟩ := Purge.start_eq_vetoed.mp hstart
    rw [hveto]
    cases hlatched : s.purge.isLatched config <;> simp
  | raised =>
    have hveto : s.purge.vetoReason config = none := by
      by_contra hne
      obtain ⟨reason, hreason⟩ := Option.ne_none_iff_exists'.mp hne
      simp [Purge.start, hreason] at hstart
    rw [hveto, if_neg (by simp)]
  | suspended call =>
    obtain ⟨b, -, hveto, -⟩ := Purge.start_eq_suspended.mp hstart
    rw [hveto, if_neg (by simp)]

/-- A `purge` call that comes to an await is unvetoed, and has captured the collected boundary. -/
theorem callPurge_await {awaiting : HandlerAwait} (h : (callPurge s).2 = some awaiting) :
    s.purge.vetoReason config = none ∧
      ∃ call, awaiting = .purging call [] ∧ s.purge.boundary = some call.boundary := by
  unfold callPurge at h
  split at h
  · cases h
  · cases h
  · rename_i call hstart
    obtain ⟨b, hb, hveto, -, rfl⟩ := Purge.start_eq_suspended.mp hstart
    exact ⟨hveto, _, (Option.some.inj h).symm, hb⟩

/-- A signal purges at once only a boundary that is settled. -/
theorem receive_callPurge {t : DataType} {m : Json} (h : (receive s t m).2 = .callPurge) :
    (receive s t m).1.purge.settledBoundary = (receive s t m).1.purge.boundary := by
  rw [receive_next] at h
  rw [receive_purge]
  split at h
  · split at h
    · rename_i hsettled
      unfold StaleChildRowPurge.isSettled at hsettled
      exact of_decide_eq_true (Bool.and_eq_true_iff.mp hsettled).2
    · cases h
  · cases h

/-- A signal's handler that is suspended is at the first dead-letter queue: the purge of a settled
    boundary is vetoed at once. -/
theorem receive_suspends {t : DataType} {m : Json} {awaiting : HandlerAwait}
    (h : (proceed (receive s t m)).2 = some awaiting) :
    ∃ first rest, Purge.MUSICBRAINZ_DATA_TYPES = first :: rest ∧
      awaiting = .openChannel first rest := by
  cases hreceive : receive s t m with
  | mk after next =>
    rw [hreceive] at h
    have hto : (receive s t m).2 = next := congrArg Prod.snd hreceive
    cases next with
    | done => cases h
    -- A signal that reaches `purge` at once was ignored as settled, and then the purge is vetoed: it
    -- never suspends there.
    | callPurge =>
      have hsettled := receive_callPurge hto
      rw [hreceive] at hsettled
      obtain ⟨hveto, -⟩ := callPurge_await h
      exact absurd hsettled (StaleChildRowPurge.vetoReason_eq_none.mp hveto).2.1
    | await next =>
      obtain rfl := Option.some.inj h
      rw [receive_next] at hto
      split at hto
      · split at hto
        · cases hto
        · exact ⟨_, _, rfl, (Next.await.inj hto).symm⟩
      · cases hto

theorem decided_eq_some {p : StaleChildRowPurge} (h : decided s a = some p) :
    ∃ r, reached s a = some r ∧ r.2 = .callPurge ∧ r.1.purge = p := by
  obtain ⟨r, hreached, hr⟩ := Option.bind_eq_some_iff.mp h
  refine ⟨r, hreached, ?_⟩
  obtain ⟨after, next⟩ := r
  have hr : (if next = .callPurge then some after.purge else none) = some p := hr
  split at hr
  · rename_i hnext
    exact ⟨hnext, Option.some.inj hr⟩
  · cases hr

/-- The code a step runs: a signal's up to its first await, or a handler's from one to the next. -/
theorem reached_cases {r : State × Next} (h : reached s a = some r) :
    (∃ t message, a = .signal t message ∧ r = receive s t message) ∨
    ∃ i outcome h₀, a = .resume i outcome ∧ s.handlers[i]? = some h₀ ∧ r = advance s h₀ outcome := by
  cases a with
  | signal t message =>
    obtain rfl := Option.some.inj h
    exact Or.inl ⟨t, message, rfl, rfl⟩
  | resume i outcome =>
    obtain ⟨h₀, hh₀, rfl⟩ := Option.map_eq_some_iff.mp h
    exact Or.inr ⟨i, outcome, h₀, rfl, hh₀, rfl⟩
  | record i event => cases h
  | otherDeadLetters t n => cases h
  | restart => cases h

theorem stepMessage_resume {i : Nat} {outcome : Outcome} {h : Handler} (hh : s.handlers[i]? = some h) :
    stepMessage s (.resume i outcome) = some h.message := congrArg (Option.map _) hh

/-- What a handler's code does to the object before it calls `purge`, if it does. -/
theorem reached_purge {r : State × Next} (h : reached s a = some r) :
    (∃ i o h₀ b, a = .resume i o ∧ s.handlers[i]? = some h₀ ∧ finishing h₀ o = some b ∧
      r.2 = .done ∧ r.1.purge = s.purge.settle (some b)) ∨
    ((∀ i o h₀, a = .resume i o → s.handlers[i]? = some h₀ → finishing h₀ o = none) ∧
      r.1.purge.settledBoundary = s.purge.settledBoundary ∧
      s.purge.deadLettered ⊆ r.1.purge.deadLettered) := by
  rcases reached_cases h with ⟨t, m, rfl, rfl⟩ | ⟨i, o, h₀, rfl, hh₀, rfl⟩
  -- A signal's own code collects, and neither settles nor marks.
  · refine Or.inr ⟨by simp, ?_, ?_⟩
    · rw [receive_purge, StaleChildRowPurge.recordCompletion_settledBoundary]
    · rw [receive_purge, StaleChildRowPurge.recordCompletion_deadLettered]
  · have hpurge := advance_purge s h₀ o
    cases hfinishing : finishing h₀ o with
    | some b =>
      rw [hfinishing] at hpurge
      exact Or.inl ⟨i, o, h₀, b, rfl, hh₀, hfinishing, hpurge.1, hpurge.2⟩
    | none =>
      rw [hfinishing] at hpurge
      refine Or.inr ⟨?_, hpurge.settledBoundary, hpurge.deadLettered⟩
      rintro i' o' h₁ heq hh₁
      cases heq
      rw [hh₀] at hh₁
      obtain rfl := Option.some.inj hh₁
      exact hfinishing

/-- **What a step does to the object the purges share**: a restart replaces it, a step that settles a
    boundary remembers it, and any other step only adds marks. -/
theorem step_purge (h : step ext refresh s a = some s') :
    a = .restart ∨ (∃ b, settled s a = some b ∧ s'.purge.settledBoundary = some b) ∨
      (settled s a = none ∧ s'.purge.settledBoundary = s.purge.settledBoundary ∧
        s.purge.deadLettered ⊆ s'.purge.deadLettered) := by
  rcases step_cases h with ⟨i, event, d, rfl, -, hstep⟩ | ⟨r, message, handlers, hreached, -, rfl, -⟩ |
    ⟨t, n, rfl, rfl⟩ | ⟨rfl, -⟩
  -- A record's delivery may mark its type; it settles nothing.
  · obtain ⟨hgrown, -, -⟩ := recordStep_frame hstep
    exact Or.inr (Or.inr ⟨rfl, hgrown.settledBoundary, hgrown.deadLettered⟩)
  · -- A handler's code: what it did before calling `purge`, if it does, and what the call did.
    refine Or.inr ?_
    show (∃ b, settled s a = some b ∧ (proceed r).1.purge.settledBoundary = some b) ∨
      (settled s a = none ∧ (proceed r).1.purge.settledBoundary = s.purge.settledBoundary ∧
        s.purge.deadLettered ⊆ (proceed r).1.purge.deadLettered)
    have hdecided : decided s a = if r.2 = .callPurge then some r.1.purge else none := by
      unfold decided
      rw [hreached]
      rfl
    rcases reached_purge hreached with ⟨i, o, h₀, b, rfl, hh₀, hfinishing, hnext, hpurge⟩ |
      ⟨hfinishing, hsettled, hmarks⟩
    -- The purge it was deleting for has committed.
    · refine Or.inl ⟨b, ?_, ?_⟩
      · rw [hnext, if_neg (by simp)] at hdecided
        unfold settled
        rw [hdecided]
        show s.handlers[i]?.bind _ = _
        rw [hh₀]
        exact hfinishing
      · obtain ⟨s₁, next⟩ := r
        obtain rfl : next = .done := hnext
        show s₁.purge.settledBoundary = some b
        rw [hpurge]
        rfl
    · obtain ⟨s₁, next⟩ := r
      cases next with
      | callPurge =>
        rw [if_pos rfl] at hdecided
        have hsettle : settled s a = if s₁.purge.vetoReason config ≠ none ∧
            s₁.purge.isLatched config then s₁.purge.boundary else none := by
          unfold settled
          rw [hdecided]
        show (∃ b, settled s a = some b ∧ (callPurge s₁).1.purge.settledBoundary = some b) ∨ _
        rw [hsettle]
        show _ ∨ (_ ∧ (callPurge s₁).1.purge.settledBoundary = _ ∧
          _ ⊆ (callPurge s₁).1.purge.deadLettered)
        rw [callPurge_purge]
        -- A veto settles too, with its boundary latched.
        by_cases hveto : s₁.purge.vetoReason config ≠ none ∧ s₁.purge.isLatched config
        · obtain ⟨b, hb⟩ := Option.ne_none_iff_exists'.mp
            (StaleChildRowPurge.isLatched_iff.mp hveto.2).1
          rw [if_pos hveto, if_pos hveto]
          exact Or.inl ⟨b, hb, hb⟩
        · rw [if_neg hveto, if_neg hveto]
          exact Or.inr ⟨rfl, hsettled, hmarks⟩
      | await awaiting | done =>
        -- Neither a purge called nor one finished: nothing was settled.
        have hnone : settled s a = none := by
          unfold settled
          rw [hdecided, if_neg (by simp)]
          cases a with
          | resume i o =>
            show s.handlers[i]?.bind _ = none
            cases hh₀ : s.handlers[i]? with
            | none => rfl
            | some h₀ => exact hfinishing i o h₀ rfl hh₀
          | _ => rfl
        exact Or.inr ⟨hnone, hsettled, hmarks⟩
  · exact Or.inr (Or.inr ⟨rfl, rfl, Finset.Subset.refl _⟩)
  · exact Or.inl rfl

end Step

/-! ## Sample actions -/

/-- A signal of the extraction of this version and start. -/
def signalOf (version startedAt : String) (t : DataType) : Action :=
  .signal t (.obj [("record_counts", .obj [(t, .int 1)]), ("started_at", .str startedAt),
    ("type", .str "extraction_complete"), ("version", .str version)])

/-- All four signals of February's extraction. -/
def februarySignals : List Action :=
  Purge.MUSICBRAINZ_DATA_TYPES.map (signalOf "20240201" "2024-02-01T00:00:00Z")

/-- The next awaits of one handler, answered. -/
def answered (i n : Nat) : List Action := List.replicate n (.resume i .answered)

end Service

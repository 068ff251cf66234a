/-
  Database admission: what a delivery holds while it runs.

  A delivery writes under a slot of the `WriteAdmission`, and takes its connection from the pool inside
  it.  Its code is written down as far as its awaits and its scopes go: which branch it takes, how often
  a loop goes round and what each await comes to is left open.

  * **`may`** — the rule the code keeps to: a slot is taken with nothing in hand, a connection with a
    slot and nothing else.
  * **`admission_bounds_connections`** — so in every run a delivery holds one slot and one connection at
    most, the connections checked out are no more than the slots, and nobody waits for a slot with one
    in hand; whoever has one can come to the end of it, and every delivery to its own end.

  The bound on the connections could be had from the pool's size, and that would miss the point: a
  delivery that waits for a connection with a slot in hand keeps others from theirs, and what is
  wanted is that this never lasts.  It follows from the order of the two scopes and from nothing in
  the branches: whoever holds anything holds a slot (`holder_has_slot`), and whoever holds a slot
  waits for nothing but a connection, so the holders can be run to the end of their slots among
  themselves (`Scopes.drains`).  This needs one connection in the pool, and not as many as there are
  slots.

  So the code is reduced to its scopes, and `dataHandler_obeys` is the only thing that is read off
  it.  What the library runs a delivery in is a parameter (`Runtime`), of which it is assumed that
  it enters no scope of its own.
-/
import MusicBrainzLoader.Broker.Machine
import MusicBrainzLoader.Lib.Scopes

namespace Delivery

open Scopes

namespace Admission

inductive Resource where
  /-- `WriteAdmission.slot`. -/
  | slot
  /-- `connection_pool.connection()`. -/
  | connection
deriving DecidableEq

/-! ## The code -/

/-- `async with` something that is entered and left in an await, and is not counted. -/
def context (body : Code Resource) : Code Resource := .seq .await (.ensure body .await)

/-- `set_autocommit`, and a transaction. -/
def transaction (body : Code Resource) : Code Resource := .seq .await (context body)

/-- The `execute` and `fetch` of one statement, on a cursor. -/
def statement : Code Resource := context (.seq .await .await)

/-- `dead_letters_waiting`: the channel and the queue, and the channel closed. -/
def deadLettersWaiting : Code Resource :=
  .choice .skip
    (.ensure (.attempt (.seq .await .await) .skip) (.choice .skip (.attempt .await .skip)))

def recordedVetoes : Code Resource := .scope .connection (transaction statement)

def recordExtraction : Code Resource := .scope .connection (transaction (context .await))

def consecutiveVetoes : Code Resource := .scope .connection (transaction statement)

/-- `_settle_purge_veto`: the dead letters without a slot, then both checkouts under one. -/
def settlePurgeVeto : Code Resource :=
  .choice .skip
    (.seq (.loop deadLettersWaiting)
      (.choice .skip (.choice .raise (.scope .slot (.seq recordedVetoes recordExtraction)))))

/-- `_purge_table`: two counts and the deletion, each of which may be the last. -/
def purgeTable : Code Resource :=
  .seq (.seq .await .await)
    (.choice .skip (.seq (.seq .await .await) (.choice .skip .await)))

/-- `purge`, whose error is logged and raised again. -/
def purge : Code Resource :=
  .choice .skip
    (.choice .raise
      (.attempt (.scope .slot (.scope .connection (transaction (context (.loop purgeTable)))))
        .raise))

/-- `_report_purge_vetoes`, whose error is only logged. -/
def reportPurgeVetoes : Code Resource :=
  .choice .skip (.attempt (.scope .slot consecutiveVetoes) .skip)

/-- `_reconcile_deleted_child_rows`, and what its caller raises when it fails. -/
def reconcileDeletedChildRows : Code Resource :=
  .choice .skip (.seq (.attempt (.seq settlePurgeVeto purge) .raise) reportPurgeVetoes)

/-- A record's processor: statements, each on its cursor, some of them in a pipeline. -/
def processor : Code Resource :=
  .loop (.choice .await (context (.loop (.choice .await (context (.loop .await))))))

/-- `_handle_data_message`, after the message has been read. -/
def handleDataMessage : Broker.Message → Code Resource
  | .record =>
    -- Rejected, or without a pool or an admission, or written.
    .choice .skip
      (.choice .raise (.scope .slot (.scope .connection (transaction processor))))
  | .fileComplete => .skip
  | .extractionComplete => reconcileDeletedChildRows

/-! ## What may be held -/

def may (held : List Resource) : Resource → Prop
  | .slot => held = []
  | .connection => held = [.slot]

/-- What the library runs a delivery in.  It has neither the slots nor the pool in hand: what it adds of
    its own enters no scope. -/
structure Runtime where
  /-- `WriteAdmission.handler`. -/
  handler : Code Resource → Code Resource
  /-- `run_delivery`, which classifies a failure, waits it out, and settles the message. -/
  runDelivery : Code Resource → Code Resource
  handler_obeys : ∀ body, body.Obeys may [] → (handler body).Obeys may []
  runDelivery_obeys : ∀ process, process.Obeys may [] → (runDelivery process).Obeys may []

/-- `on_data_message`, which leaves a message alone at shutdown. -/
def onDataMessage (runtime : Runtime) (message : Broker.Message) : Code Resource :=
  .choice .skip (runtime.runDelivery (handleDataMessage message))

/-- The handler of `make_data_handler`. -/
def dataHandler (runtime : Runtime) (message : Broker.Message) : Code Resource :=
  .choice .raise (runtime.handler (onDataMessage runtime message))

/-- `n` slots, and a pool of connections. -/
def capacity (n pool : Nat) : Resource → Nat
  | .slot => n
  | .connection => pool

def rank : Resource → Nat
  | .slot => 0
  | .connection => 1

/-- Every scope is entered with nothing in hand, or is a connection's inside a slot. -/
theorem handleDataMessage_obeys (message : Broker.Message) :
    (handleDataMessage message).Obeys may [] := by
  cases message <;>
    simp [handleDataMessage, context, transaction, processor, statement, reconcileDeletedChildRows,
      settlePurgeVeto, deadLettersWaiting, recordedVetoes, recordExtraction, purge, purgeTable,
      reportPurgeVetoes, consecutiveVetoes, Code.Obeys, may]

theorem dataHandler_obeys (runtime : Runtime) (message : Broker.Message) :
    (dataHandler runtime message).Obeys may [] := by
  refine ⟨trivial, runtime.handler_obeys _ ⟨trivial, ?_⟩⟩
  exact runtime.runDelivery_obeys _ (handleDataMessage_obeys message)

theorem rank_lt (held : List Resource) (r : Resource) (h : may held r) :
    ∀ r' ∈ held, rank r' < rank r := by
  cases r with
  | slot =>
    rw [show held = [] from h]
    exact fun _ hmem => absurd hmem List.not_mem_nil
  | connection =>
    rw [show held = [.slot] from h]
    intro r' hmem
    rw [List.mem_singleton.mp hmem]
    decide

/-- What a delivery can have in hand. -/
theorem held_cases {held : List Resource} (h : Stacked may held) :
    held = [] ∨ held = [.slot] ∨ held = [.connection, .slot] := by
  cases held with
  | nil => exact .inl rfl
  | cons r held =>
    have hmay := h.1
    cases r with
    | slot =>
      rw [show held = [] from hmay]
      exact .inr (.inl rfl)
    | connection =>
      rw [show held = [.slot] from hmay]
      exact .inr (.inr rfl)

/-! ## Every run -/

section Run

variable {runtime : Runtime} {n pool : Nat} {s : System Resource} {task : Scopes.Task Resource}

/-- A connection is held inside a slot, and there is one of each at most. -/
theorem holds_one (h : task.Obeys may) :
    task.held.count .slot ≤ 1 ∧ task.held.count .connection ≤ 1 ∧
      task.held.count .connection ≤ task.held.count .slot ∧
      (.connection ∈ task.held → .slot ∈ task.held) := by
  rcases held_cases h.stacked with hheld | hheld | hheld <;> rw [hheld] <;> decide

/-- Whoever waits for a slot has nothing in hand. -/
theorem awaits_slot (h : task.Obeys may) (hawaits : task.awaits .slot) : task.held = [] :=
  h.awaits hawaits

/-- Whoever holds anything has a slot. -/
theorem holder_has_slot {r : Resource} (h : task.Obeys may) (hheld : r ∈ task.held) :
    .slot ∈ task.held := by
  cases r with
  | slot => exact hheld
  | connection => exact (holds_one h).2.2.2 hheld

theorem connections_le_slots (hs : Disciplined may s) : s.held .connection ≤ s.held .slot := by
  apply List.sum_le_sum
  intro task htask
  exact (holds_one (hs task htask)).2.2.1

/-- **Admission bounds the connections, and nobody deadlocks on it.**  In every run a delivery has one
    slot and one connection at most, the connection inside the slot, and waits for a slot with none in
    hand.  The deliveries that have a slot can be run to the end of it while all others stand still, and
    all deliveries to their own end. -/
theorem admission_bounds_connections (runtime : Runtime) (n pool : Nat) (hn : 0 < n) (hpool : 0 < pool)
    (actions : List (Scopes.Action Broker.Message)) (s : System Resource)
    (hrun : Runs.run (Scopes.step (dataHandler runtime)) (idle (capacity n pool)) actions = some s) :
    (∀ task ∈ s.tasks, task.held.count .slot ≤ 1 ∧ task.held.count .connection ≤ 1 ∧
      (.connection ∈ task.held → .slot ∈ task.held) ∧
      (task.awaits .slot → .slot ∉ task.held)) ∧
    s.held .slot ≤ n ∧ s.held .connection ≤ n ∧
    (∃ more s', Runs.Drives (Scopes.step (dataHandler runtime))
        (fun m a => ∃ i task, a = .move i .onward ∧ m.tasks[i]? = some task ∧
          .slot ∈ task.held ∧ ¬ task.awaits .slot) s more s' ∧
      ∀ task ∈ s'.tasks, .slot ∉ task.held) ∧
    (∃ more s', Runs.Drives (Scopes.step (dataHandler runtime))
        (fun m a => ∃ i task, a = .move i .onward ∧ m.tasks[i]? = some task) s more s' ∧
      ∀ task ∈ s'.tasks, task.ended = true) ∧
    ((∀ task ∈ s.tasks, task.ended = true) → s.free .slot = n) := by
  -- What is known of every run: units are free or held, and every task keeps to the rule.
  have hbalanced : Balanced (capacity n pool) s := balanced_run hrun
  have hobeys : Disciplined may s := disciplined_run (dataHandler_obeys runtime) hrun
  have hcapacity : ∀ r, 0 < capacity n pool r := by
    intro r
    cases r
    · exact hn
    · exact hpool
  have hslots : s.held .slot ≤ n := held_le_capacity hbalanced .slot
  refine ⟨?_, hslots, (connections_le_slots hobeys).trans hslots, ?_, ?_, ?_⟩
  -- A task holds one of each at most, and a connection only inside a slot.
  · intro task htask
    obtain ⟨hslot, hconnection, -, hinside⟩ := holds_one (hobeys task htask)
    refine ⟨hslot, hconnection, hinside, ?_⟩
    intro hawaits
    rw [awaits_slot (hobeys task htask) hawaits]
    exact List.not_mem_nil
  -- Whoever holds a slot can be run to where it holds none: it waits for connections only, and whoever
  -- holds one holds a slot.
  · have hactive : ∀ task : Scopes.Task Resource, .slot ∈ task.held → task.ended = false := by
      intro task hslot
      by_contra hended
      rw [held_of_ended (eq_true_of_ne_false hended)] at hslot
      exact List.not_mem_nil hslot
    obtain ⟨more, s', hdrives, hnone⟩ := drains rank rank_lt hcapacity (dataHandler_obeys runtime)
      hactive (fun _ _ _ _ hother _ _ hheld => holder_has_slot hother hheld) hbalanced hobeys
    refine ⟨more, s', ⟨hdrives.meets.mono ?_, hdrives.run⟩, hnone⟩
    rintro m a ⟨i, task, ha, hi, htask, hslot⟩
    refine ⟨i, task, ha, hi, hslot, ?_⟩
    intro hawaits
    rw [awaits_slot htask hawaits] at hslot
    exact List.not_mem_nil hslot
  -- Likewise all tasks can be run to their ends.
  · have hholder : ∀ task other : Scopes.Task Resource, ∀ r, task.Obeys may → other.Obeys may →
        task.ended = false → task.awaits r → r ∈ other.held → other.ended = false := by
      intro _ other r _ _ _ _ hheld
      by_contra hended
      rw [held_of_ended (eq_true_of_ne_false hended)] at hheld
      exact List.not_mem_nil hheld
    obtain ⟨more, s', hdrives, hnone⟩ := drains rank rank_lt hcapacity (dataHandler_obeys runtime)
      (fun _ hactive => hactive) hholder hbalanced hobeys
    refine ⟨more, s', ⟨hdrives.meets.mono ?_, hdrives.run⟩, ?_⟩
    · rintro m a ⟨i, task, ha, hi, -⟩
      exact ⟨i, task, ha, hi⟩
    · intro task htask
      exact eq_true_of_ne_false (hnone task htask)
  · intro hended
    exact free_of_ended hbalanced hended .slot

end Run

/-- Awaits before and after the handler, and a failure that is waited out. -/
def plainRuntime : Runtime where
  handler := context
  runDelivery process := .seq (.attempt process (.loop .await)) (.loop .await)
  handler_obeys _ h := ⟨trivial, h, trivial⟩
  runDelivery_obeys _ h := ⟨⟨h, trivial⟩, trivial⟩

/-- A delivery comes to the code of its message. -/
def entering : List Move :=
  [.around, .onward, .onward, .onward, .onward, .around, .onward, .onward]

/-- A record comes to its connection. -/
def writing : List Move := entering ++ [Move.around, .around, .onward, .onward]

/-- A signal comes to where it waits for its first slot. -/
def vetoing : List Move :=
  entering ++ [Move.around, .onward, .onward, .onward, .around, .onward, .onward, .onward, .around,
    .around]

/-- One slot and one connection, which a record has, and a signal that waits. -/
def oneSlot : List (Scopes.Action Broker.Message) :=
  [.spawn .record, .spawn .extractionComplete] ++ writing.map (.move 0) ++ vetoing.map (.move 1)

/-- The record can come to the end of its slot without the other. -/
theorem oneSlot_is_given_back :
    ∃ s, Runs.run (Scopes.step (dataHandler plainRuntime)) (idle (capacity 1 1)) oneSlot = some s ∧
      s.free .slot = 0 ∧ s.held .connection ≤ 1 ∧
      ∃ more s', Runs.Drives (Scopes.step (dataHandler plainRuntime))
          (fun m a => ∃ i task, a = .move i .onward ∧ m.tasks[i]? = some task ∧
            .slot ∈ task.held ∧ ¬ task.awaits .slot) s more s' ∧
        ∀ task ∈ s'.tasks, .slot ∉ task.held := by
  have hrun : ((Runs.run (Scopes.step (dataHandler plainRuntime)) (idle (capacity 1 1)) oneSlot).map
      fun s => decide (s.free .slot = 0)) = some true := by
    decide +kernel
  obtain ⟨s, hs, hrun⟩ := Option.map_eq_some_iff.mp hrun
  obtain ⟨-, -, hconnections, hgivenBack, -, -⟩ :=
    admission_bounds_connections plainRuntime 1 1 (by decide) (by decide) oneSlot s hs
  exact ⟨s, hs, of_decide_eq_true hrun, hconnections, hgivenBack⟩

end Admission

end Delivery

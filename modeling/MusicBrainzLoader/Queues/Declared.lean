/-
  The broker's objects, whoever declares them and however far they come.

  `main` and `_recover_consumers` declare six objects for each type, one call after another; either can
  be broken off at any call, and a restart, a recovery, a replica or another installation begins again,
  beside whatever other services do on the same broker.  A declaration that finds its name taken by
  something declared otherwise is refused, and so is a binding to what is not there: both would keep a
  process from ever coming up.

  * **`System`** — the broker, a parameter of which only its documentation is known
    (`Amqp.Server.Documented`), and the sessions that are declaring or have declared everything.
    Whatever else changes on the broker is an action too; it leaves the installations' own objects alone
    (`LeavesAlone`).
  * **`Wired`** — the invariant, type by type: what is there is declared as this service declares it, a
    queue is there only after its dead letters have somewhere to go, and nothing is bound across.
    It is about the broker alone, so it does not matter which session got how far.
  * **`Reached`** — what a session knows to be there before its next call.  It holds of the broker after
    other sessions' calls as well, since what is declared stays (`Persists`); with `Wired` it makes the
    next call acceptable (`accepts_operation`).

  The results: no declaration is ever refused, a session that serves has every type's queue bound, and a
  new start goes through, wherever earlier ones were broken off.
-/
import MusicBrainzLoader.Broker.Restart
import MusicBrainzLoader.Lifecycle.Machine
import MusicBrainzLoader.Queues.Names

namespace Queues

open Amqp (Exchange Queue Objects Operation Persists Server)
open Broker (Declaration)
open Lifecycle (nextDeclaration)
open Purge (DataType MUSICBRAINZ_DATA_TYPES)

variable {β : Type}

/-! ## The system -/

/-- The loop over the types in `main` or `_recover_consumers`. -/
inductive Loop where
  | declaring (declaration : Declaration) (t : DataType) (rest : List DataType)
  /-- Every queue is declared. -/
  | serving
deriving DecidableEq

/-- A process of an installation, at this point of its loop. -/
structure Session where
  installation : Installation
  loop : Loop
deriving DecidableEq

structure System (β : Type) where
  broker : β
  sessions : List Session := []
  /-- The broker has refused a declaration. -/
  refused : Bool := false

inductive Action (β : Type) where
  /-- A process of the installation begins its loop. -/
  | start (i : Installation)
  /-- The next call of a session's loop. -/
  | next (k : Nat)
  /-- A session is broken off, or ends. -/
  | stop (k : Nat)
  /-- Messages move, another service declares or deletes, the broker restarts. -/
  | elsewhere (change : β → β)

def declareTypes : List DataType → Loop
  | [] => .serving
  | t :: rest => .declaring .exchange t rest

/-- What a type's declaration leads to. -/
def advance (declaration : Declaration) (t : DataType) (rest : List DataType) : Loop :=
  match nextDeclaration declaration with
  | some next => .declaring next t rest
  | none => declareTypes rest

def step (server : Server β) (s : System β) : Action β → Option (System β)
  | .start i => some { s with sessions := s.sessions ++ [⟨i, declareTypes MUSICBRAINZ_DATA_TYPES⟩] }
  | .next k =>
    match s.sessions[k]? with
    | some ⟨i, .declaring declaration t rest⟩ =>
      match declare i.exchangePrefix i.consumer declaration t with
      | .error _ => some { s with sessions := s.sessions.eraseIdx k }
      | .ok op =>
        match server.call s.broker op with
        | some broker => some { s with
            broker, sessions := s.sessions.set k ⟨i, advance declaration t rest⟩ }
        -- A refusal closes the channel, and the exception ends the loop.
        | none => some { s with sessions := s.sessions.eraseIdx k, refused := true }
    | _ => none
  | .stop k => if k < s.sessions.length then some { s with sessions := s.sessions.eraseIdx k } else none
  | .elsewhere change => some { s with broker := change s.broker }

/-- Others keep to what is theirs.  They may declare a type's exchange too, as it is, and bind queues of
    their own to it; an installation's own objects they leave as they are, feed with nothing, and name
    in no queue of theirs. -/
structure LeavesAlone (i : Installation) (o o' : Objects) (t : DataType) : Prop where
  exchange : ∀ x, o'.exchanges.lookup (i.exchange t) = some x →
    o.exchanges.lookup (i.exchange t) = some x ∨ x = FANOUT
  keepsExchange : ∀ x, o.exchanges.lookup (i.exchange t) = some x →
    o'.exchanges.lookup (i.exchange t) = some x
  deadLetterExchange : o'.exchanges.lookup (i.deadLetterExchange t) =
    o.exchanges.lookup (i.deadLetterExchange t)
  queue : o'.queues.lookup (i.queue t) = o.queues.lookup (i.queue t)
  deadLetterQueue : o'.queues.lookup (i.deadLetterQueue t) = o.queues.lookup (i.deadLetterQueue t)
  intoQueue : ∀ x, (x, i.queue t) ∈ o'.bindings ↔ (x, i.queue t) ∈ o.bindings
  intoDeadLetterQueue : ∀ x, (x, i.deadLetterQueue t) ∈ o'.bindings ↔
    (x, i.deadLetterQueue t) ∈ o.bindings
  fromDeadLetterExchange : ∀ q, (i.deadLetterExchange t, q) ∈ o'.bindings →
    (i.deadLetterExchange t, q) ∈ o.bindings
  deadLettered : ∀ name q, o'.queues.lookup name = some q → o.queues.lookup name = some q ∨
    q.deadLetterExchange ≠ some (i.deadLetterExchange t) ∧
      q.deadLetterExchange ≠ some (i.exchange t)

/-- Only these installations are started, and others leave their objects alone. -/
def Allowed (server : Server β) (fleet : Installation → Prop) : Action β → Prop
  | .start i => fleet i
  | .elsewhere change => ∀ b i, fleet i → ∀ t ∈ MUSICBRAINZ_DATA_TYPES,
    LeavesAlone i (server.objects b) (server.objects (change b)) t
  | _ => True

/-! ## The invariant -/

/-- A type's dead letters have somewhere to go. -/
def HasDeadLetterQueue (i : Installation) (o : Objects) (t : DataType) : Prop :=
  i.deadLetterQueue t ∈ o.queues ∧ (i.deadLetterExchange t, i.deadLetterQueue t) ∈ o.bindings

/-- A type's records reach its queue. -/
def Bound (i : Installation) (o : Objects) (t : DataType) : Prop :=
  (i.exchange t, i.queue t) ∈ o.bindings

/-- One type's objects, as far as they are there. -/
structure Wired (i : Installation) (o : Objects) (t : DataType) : Prop where
  exchange : ∀ x, o.exchanges.lookup (i.exchange t) = some x → x = FANOUT
  deadLetterExchange : ∀ x, o.exchanges.lookup (i.deadLetterExchange t) = some x → x = FANOUT
  queue : ∀ q, o.queues.lookup (i.queue t) = some q →
    q = dataQueue (i.deadLetterExchange t) ∧ HasDeadLetterQueue i o t
  deadLetterQueue : ∀ q, o.queues.lookup (i.deadLetterQueue t) = some q → q = DEAD_LETTER_QUEUE
  /-- Nothing but the type's exchange feeds its queue. -/
  intoQueue : ∀ x, (x, i.queue t) ∈ o.bindings → x = i.exchange t
  intoDeadLetterQueue : ∀ x, (x, i.deadLetterQueue t) ∈ o.bindings → x = i.deadLetterExchange t
  fromDeadLetterExchange : ∀ q, (i.deadLetterExchange t, q) ∈ o.bindings → q = i.deadLetterQueue t
  /-- No other queue's dead letters come here. -/
  deadLettered : ∀ name q, o.queues.lookup name = some q →
    (q.deadLetterExchange = some (i.deadLetterExchange t) → name = i.queue t) ∧
      q.deadLetterExchange ≠ some (i.exchange t)

/-- What has been declared for a type before a declaration. -/
def Reached (i : Installation) (o : Objects) (t : DataType) : Declaration → Prop
  | .exchange => True
  | .deadLetterExchange => i.exchange t ∈ o.exchanges
  | .deadLetterQueue => i.exchange t ∈ o.exchanges ∧ i.deadLetterExchange t ∈ o.exchanges
  | .bindDeadLetterQueue => i.exchange t ∈ o.exchanges ∧ i.deadLetterExchange t ∈ o.exchanges ∧
      i.deadLetterQueue t ∈ o.queues
  | .queue => i.exchange t ∈ o.exchanges ∧ HasDeadLetterQueue i o t
  | .bindQueue => i.exchange t ∈ o.exchanges ∧ i.queue t ∈ o.queues

/-- What a session has declared. -/
def Loop.Holds (i : Installation) (o : Objects) : Loop → Prop
  | .declaring declaration t rest =>
    t ∈ MUSICBRAINZ_DATA_TYPES ∧ rest ⊆ MUSICBRAINZ_DATA_TYPES ∧ Reached i o t declaration ∧
      ∀ u ∈ MUSICBRAINZ_DATA_TYPES, u ≠ t → u ∉ rest → Bound i o u
  | .serving => ∀ u ∈ MUSICBRAINZ_DATA_TYPES, Bound i o u

structure Kept (server : Server β) (fleet : Installation → Prop) (s : System β) : Prop where
  refused : s.refused = false
  wired : ∀ i, fleet i → ∀ t ∈ MUSICBRAINZ_DATA_TYPES, Wired i (server.objects s.broker) t
  sessions : ∀ session ∈ s.sessions, fleet session.installation ∧
    session.loop.Holds session.installation (server.objects s.broker)

/-- What a call must ask for if a type's objects are to stay wired. -/
def Keeps (i : Installation) (o : Objects) (t : DataType) : Operation → Prop
  | .declareExchange name x => name = i.exchange t ∨ name = i.deadLetterExchange t → x = FANOUT
  | .declareQueue name q =>
    (name = i.queue t → q = dataQueue (i.deadLetterExchange t) ∧ HasDeadLetterQueue i o t) ∧
      (name = i.deadLetterQueue t → q = DEAD_LETTER_QUEUE) ∧
      (q.deadLetterExchange = some (i.deadLetterExchange t) → name = i.queue t) ∧
      q.deadLetterExchange ≠ some (i.exchange t)
  | .bind q x => (q = i.queue t → x = i.exchange t) ∧
      (q = i.deadLetterQueue t → x = i.deadLetterExchange t) ∧
      (x = i.deadLetterExchange t → q = i.deadLetterQueue t)

/-- The objects of one type of one installation persist, whatever becomes of others'. -/
structure KeepsType (i : Installation) (o o' : Objects) (t : DataType) : Prop where
  exchange : i.exchange t ∈ o.exchanges → i.exchange t ∈ o'.exchanges
  deadLetterExchange : i.deadLetterExchange t ∈ o.exchanges → i.deadLetterExchange t ∈ o'.exchanges
  queue : i.queue t ∈ o.queues → i.queue t ∈ o'.queues
  hasDeadLetterQueue : HasDeadLetterQueue i o t → HasDeadLetterQueue i o' t
  deadLetterQueue : i.deadLetterQueue t ∈ o.queues → i.deadLetterQueue t ∈ o'.queues
  bound : Bound i o t → Bound i o' t

section Steps

variable {i j : Installation} {o o' : Objects} {t u : DataType} {op : Operation}

theorem keepsType_of_persists (h : Persists o o') : KeepsType i o o' t where
  exchange := h.mem_exchanges
  deadLetterExchange := h.mem_exchanges
  queue := h.mem_queues
  hasDeadLetterQueue := fun ⟨hmem, hbinding⟩ => ⟨h.mem_queues hmem, h.bindings hbinding⟩
  deadLetterQueue := h.mem_queues
  bound := fun hbinding => h.bindings hbinding

theorem mem_of_lookup_eq {α : Type} {x y : Table String α} {name : String}
    (h : y.lookup name = x.lookup name) (hmem : name ∈ x) : name ∈ y := by
  obtain ⟨value, hvalue⟩ := Finmap.mem_iff.mp hmem
  exact Finmap.mem_iff.mpr ⟨value, h.trans hvalue⟩

theorem LeavesAlone.keepsType (h : LeavesAlone i o o' t) : KeepsType i o o' t where
  exchange hmem := by
    obtain ⟨x, hx⟩ := Finmap.mem_iff.mp hmem
    exact Finmap.mem_iff.mpr ⟨x, h.keepsExchange x hx⟩
  deadLetterExchange := mem_of_lookup_eq h.deadLetterExchange
  queue := mem_of_lookup_eq h.queue
  hasDeadLetterQueue := fun ⟨hmem, hbinding⟩ =>
    ⟨mem_of_lookup_eq h.deadLetterQueue hmem, (h.intoDeadLetterQueue _).mpr hbinding⟩
  deadLetterQueue := mem_of_lookup_eq h.deadLetterQueue
  bound := (h.intoQueue _).mpr

/-- **A change elsewhere** keeps every type's objects wired. -/
theorem LeavesAlone.wired (h : LeavesAlone i o o' t) (hw : Wired i o t) : Wired i o' t where
  exchange x hx := (h.exchange x hx).elim (hw.exchange x) id
  deadLetterExchange x hx := hw.deadLetterExchange x (h.deadLetterExchange ▸ hx)
  queue q hq := by
    obtain ⟨hdeclared, hdlq⟩ := hw.queue q (h.queue ▸ hq)
    exact ⟨hdeclared, h.keepsType.hasDeadLetterQueue hdlq⟩
  deadLetterQueue q hq := hw.deadLetterQueue q (h.deadLetterQueue ▸ hq)
  intoQueue x hx := hw.intoQueue x ((h.intoQueue x).mp hx)
  intoDeadLetterQueue x hx := hw.intoDeadLetterQueue x ((h.intoDeadLetterQueue x).mp hx)
  fromDeadLetterExchange q hq := hw.fromDeadLetterExchange q (h.fromDeadLetterExchange q hq)
  deadLettered name q hq := by
    rcases h.deadLettered name q hq with hold | ⟨hdlx, hexchange⟩
    · exact hw.deadLettered name q hold
    · exact ⟨fun heq => absurd heq hdlx, hexchange⟩

/-- **One call**: it is enough to ask of a declaration what it must be. -/
theorem wired_after (h : Wired i o t) (hkeeps : Keeps i o t op) : Wired i (o.after op) t := by
  -- Nothing that was declared goes away, so what was said of it stands; what is new is what the
  -- operation declares, which is as the code declares it.
  have htype : KeepsType i o (o.after op) t := keepsType_of_persists (Amqp.persists_after o op)
  refine ⟨fun x hx => ?_, fun x hx => ?_, fun q hq => ?_, fun q hq => ?_, fun x hx => ?_,
    fun x hx => ?_, fun q hq => ?_, fun name q hq => ?_⟩
  · rcases Amqp.exchange_of_after hx with hold | rfl
    · exact h.exchange x hold
    · exact hkeeps (.inl rfl)
  · rcases Amqp.exchange_of_after hx with hold | rfl
    · exact h.deadLetterExchange x hold
    · exact hkeeps (.inr rfl)
  · rcases Amqp.queue_of_after hq with hold | rfl
    · obtain ⟨hdeclared, hdlq⟩ := h.queue q hold
      exact ⟨hdeclared, htype.hasDeadLetterQueue hdlq⟩
    · obtain ⟨hdeclared, hdlq⟩ := hkeeps.1 rfl
      exact ⟨hdeclared, htype.hasDeadLetterQueue hdlq⟩
  · rcases Amqp.queue_of_after hq with hold | rfl
    · exact h.deadLetterQueue q hold
    · exact hkeeps.2.1 rfl
  · rcases Amqp.binding_of_after hx with hold | rfl
    · exact h.intoQueue x hold
    · exact hkeeps.1 rfl
  · rcases Amqp.binding_of_after hx with hold | rfl
    · exact h.intoDeadLetterQueue x hold
    · exact hkeeps.2.1 rfl
  · rcases Amqp.binding_of_after hq with hold | rfl
    · exact h.fromDeadLetterExchange q hold
    · exact hkeeps.2.2 rfl
  · rcases Amqp.queue_of_after hq with hold | rfl
    · exact h.deadLettered name q hold
    · exact ⟨hkeeps.2.2.1, hkeeps.2.2.2⟩

/-- **The order of the declarations** keeps every type's objects wired, of this installation and of
    every other one. -/
theorem keeps_operation {declaration : Declaration} (hreached : Reached j o u declaration)
    (hu : u ∈ MUSICBRAINZ_DATA_TYPES) (ht : t ∈ MUSICBRAINZ_DATA_TYPES) :
    Keeps i o t (j.operation declaration u) := by
  -- A dead-letter exchange belongs to one type of one installation.
  have hdlx (h : j.deadLetterExchange u = i.deadLetterExchange t) : j = i ∧ u = t :=
    Installation.deadLetterExchange_injective hu ht h
  -- Six declarations. Each could break the wiring in one way only, by naming an object of this type,
  -- and then it is this type's own.
  cases declaration with
  | exchange => exact fun _ => rfl
  | deadLetterExchange => exact fun _ => rfl
  | deadLetterQueue =>
    exact ⟨fun h => absurd h.symm (Installation.queue_ne_deadLetterQueue ht hu), fun _ => rfl, nofun,
      nofun⟩
  | bindDeadLetterQueue =>
    refine ⟨fun h => absurd h.symm (Installation.queue_ne_deadLetterQueue ht hu), fun h => ?_,
      fun h => ?_⟩
    · obtain ⟨rfl, rfl⟩ := Installation.deadLetterQueue_injective hu ht h
      rfl
    · obtain ⟨rfl, rfl⟩ := hdlx h
      rfl
  | queue =>
    refine ⟨fun h => ?_, fun h => absurd h (Installation.queue_ne_deadLetterQueue hu ht), fun h => ?_,
      fun h => ?_⟩
    · obtain ⟨rfl, rfl⟩ := Installation.queue_injective hu ht h
      -- By then the dead-letter queue is bound, which is what a queue has to come after.
      exact ⟨rfl, hreached.2⟩
    · obtain ⟨rfl, rfl⟩ := hdlx (Option.some.inj h)
      rfl
    · exact Installation.exchange_ne_deadLetterExchange ht hu (Option.some.inj h).symm
  | bindQueue =>
    refine ⟨fun h => ?_, fun h => absurd h (Installation.queue_ne_deadLetterQueue hu ht),
      fun h => absurd h (Installation.exchange_ne_deadLetterExchange hu ht)⟩
    obtain ⟨rfl, rfl⟩ := Installation.queue_injective hu ht h
    rfl

/-- **The next declaration has nothing against it**: its name is the installation's own, and what it
    needs is there. -/
theorem accepts_operation {declaration : Declaration} (hnames : i.Nameable)
    (ht : t ∈ MUSICBRAINZ_DATA_TYPES) (hwired : Wired i o t) (hreached : Reached i o t declaration) :
    o.Accepts (i.operation declaration t) := by
  obtain ⟨hexchange, hdlx, hqueue, hdlq⟩ := hnames.names ht
  cases declaration with
  | exchange => exact ⟨hexchange, hwired.exchange⟩
  | deadLetterExchange => exact ⟨hdlx, hwired.deadLetterExchange⟩
  | deadLetterQueue => exact ⟨hdlq, hwired.deadLetterQueue⟩
  | bindDeadLetterQueue => exact ⟨hreached.2.2, hreached.2.1⟩
  | queue => exact ⟨hqueue, fun q hq => (hwired.queue q hq).1⟩
  | bindQueue => exact ⟨hreached.2, hreached.1⟩

/-- **The order of a type's declarations**: each makes room for the next, and the last one binds. -/
theorem reached_after {declaration : Declaration} (hreached : Reached i o t declaration) :
    match nextDeclaration declaration with
    | some next => Reached i (o.after (i.operation declaration t)) t next
    | none => Bound i (o.after (i.operation declaration t)) t := by
  have hpersists := Amqp.persists_after o (i.operation declaration t)
  cases declaration with
  | exchange => exact Amqp.mem_exchanges_after o _ _
  | deadLetterExchange =>
    exact ⟨hpersists.mem_exchanges hreached, Amqp.mem_exchanges_after o _ _⟩
  | deadLetterQueue =>
    exact ⟨hpersists.mem_exchanges hreached.1, hpersists.mem_exchanges hreached.2,
      Amqp.mem_queues_after o _ _⟩
  | bindDeadLetterQueue =>
    exact ⟨hpersists.mem_exchanges hreached.1, hpersists.mem_queues hreached.2.2,
      Amqp.mem_bindings_after o _ _⟩
  | queue => exact ⟨hpersists.mem_exchanges hreached.1, Amqp.mem_queues_after o _ _⟩
  | bindQueue => exact Amqp.mem_bindings_after o _ _

theorem Reached.keeps {declaration : Declaration} (h : Reached i o t declaration)
    (hkeeps : KeepsType i o o' t) : Reached i o' t declaration := by
  cases declaration with
  | exchange => trivial
  | deadLetterExchange => exact hkeeps.exchange h
  | deadLetterQueue => exact ⟨hkeeps.exchange h.1, hkeeps.deadLetterExchange h.2⟩
  | bindDeadLetterQueue =>
    exact ⟨hkeeps.exchange h.1, hkeeps.deadLetterExchange h.2.1, hkeeps.deadLetterQueue h.2.2⟩
  | queue => exact ⟨hkeeps.exchange h.1, hkeeps.hasDeadLetterQueue h.2⟩
  | bindQueue => exact ⟨hkeeps.exchange h.1, hkeeps.queue h.2⟩

theorem Loop.Holds.keeps {loop : Loop} (h : loop.Holds i o)
    (hkeeps : ∀ t ∈ MUSICBRAINZ_DATA_TYPES, KeepsType i o o' t) : loop.Holds i o' := by
  cases loop with
  | declaring declaration t rest =>
    obtain ⟨ht, hrest, hreached, hbound⟩ := h
    exact ⟨ht, hrest, hreached.keeps (hkeeps t ht),
      fun u hu hne hmem => (hkeeps u hu).bound (hbound u hu hne hmem)⟩
  | serving => exact fun u hu => (hkeeps u hu).bound (h u hu)

theorem holds_declareTypes {rest : List DataType} (hrest : rest ⊆ MUSICBRAINZ_DATA_TYPES)
    (hbound : ∀ u ∈ MUSICBRAINZ_DATA_TYPES, u ∉ rest → Bound i o u) :
    (declareTypes rest).Holds i o := by
  cases rest with
  | nil => exact fun u hu => hbound u hu List.not_mem_nil
  | cons t rest =>
    refine ⟨hrest List.mem_cons_self, fun u hu => hrest (List.mem_cons_of_mem t hu), trivial, ?_⟩
    intro u hu hne hmem
    exact hbound u hu fun h => (List.mem_cons.mp h).elim hne hmem

/-- The session goes on to the next declaration, or to the next type. -/
theorem holds_advance {declaration : Declaration} {rest : List DataType}
    (ht : t ∈ MUSICBRAINZ_DATA_TYPES) (hrest : rest ⊆ MUSICBRAINZ_DATA_TYPES)
    (hbound : ∀ u ∈ MUSICBRAINZ_DATA_TYPES, u ≠ t → u ∉ rest → Bound i o u)
    (hnext : match nextDeclaration declaration with
      | some next => Reached i o t next
      | none => Bound i o t) : (advance declaration t rest).Holds i o := by
  unfold advance
  cases hdeclaration : nextDeclaration declaration with
  | some next =>
    rw [hdeclaration] at hnext
    exact ⟨ht, hrest, hnext, hbound⟩
  | none =>
    rw [hdeclaration] at hnext
    refine holds_declareTypes hrest fun u hu hmem => ?_
    by_cases hut : u = t
    · exact hut ▸ hnext
    · exact hbound u hu hut hmem

end Steps

/-! ## Whole runs -/

section Runs

variable {server : Server β} {fleet : Installation → Prop} {i : Installation} {s s' : System β}
  {t : DataType} {action : Action β} {actions : List (Action β)}

/-- What an action does: sessions come and go, one of them declares, or something changes elsewhere. -/
inductive Stepped (server : Server β) (s : System β) : Action β → System β → Prop
  | started (i : Installation) : Stepped server s (.start i)
    { s with sessions := s.sessions ++ [⟨i, declareTypes MUSICBRAINZ_DATA_TYPES⟩] }
  | declared {k : Nat} {i : Installation} {declaration : Declaration} {t : DataType}
    {rest : List DataType} {broker : β}
    (hsession : s.sessions[k]? = some ⟨i, .declaring declaration t rest⟩)
    (hcall : server.call s.broker (i.operation declaration t) = some broker) :
    Stepped server s (.next k)
      { s with broker, sessions := s.sessions.set k ⟨i, advance declaration t rest⟩ }
  | stopped {k : Nat} : Stepped server s (.stop k) { s with sessions := s.sessions.eraseIdx k }
  | changed {change : β → β} : Stepped server s (.elsewhere change)
    { s with broker := change s.broker }

/-- A declaring session's call is answered. -/
theorem exists_call (law : server.Documented) (hnames : ∀ i, fleet i → i.Nameable)
    (hs : Kept server fleet s) {declaration : Declaration} {rest : List DataType}
    (hsession : ⟨i, .declaring declaration t rest⟩ ∈ s.sessions) :
    ∃ broker, server.call s.broker (i.operation declaration t) = some broker := by
  obtain ⟨hi, ht, -, hreached, -⟩ := hs.sessions _ hsession
  exact law.accepts s.broker _
    (accepts_operation (hnames i hi) ht (hs.wired i hi t ht) hreached)

theorem stepped_of_step (law : server.Documented) (hnames : ∀ i, fleet i → i.Nameable)
    (hs : Kept server fleet s) (h : step server s action = some s') :
    Stepped server s action s' := by
  cases action with
  | start i => exact Option.some.inj h ▸ .started i
  | next k =>
    -- The next call of a session, which its names and the broker's promises say is accepted.
    change (match s.sessions[k]? with | some ⟨i, .declaring declaration t rest⟩ => _ | _ => none) = _
      at h
    split at h
    next i declaration t rest hsession =>
      have hmem := List.mem_of_getElem? hsession
      obtain ⟨broker, hcall⟩ := exists_call law hnames hs hmem
      -- The names can be made: every type is one of the four.
      rw [i.declare_eq_ok declaration (hs.sessions _ hmem).2.1] at h
      dsimp only at h
      rw [hcall] at h
      exact Option.some.inj h ▸ .declared hsession hcall
    next => cases h
  | stop k =>
    change (if _ then _ else _) = _ at h
    split at h
    · exact Option.some.inj h ▸ .stopped
    · cases h
  | elsewhere change => exact Option.some.inj h ▸ .changed

/-- **Every step keeps the invariant.** -/
theorem kept_step (law : server.Documented) (hnames : ∀ i, fleet i → i.Nameable)
    (hs : Kept server fleet s) (hallowed : Allowed server fleet action)
    (h : step server s action = some s') : Kept server fleet s' := by
  -- A session begins, makes a call, or is broken off; or something else happens on the broker.
  cases stepped_of_step law hnames hs h with
  | started i =>
    refine ⟨hs.refused, hs.wired, fun session hmem => ?_⟩
    rcases List.mem_append.mp hmem with hmem | hmem
    · exact hs.sessions session hmem
    · obtain rfl := List.mem_singleton.mp hmem
      exact ⟨hallowed, holds_declareTypes (fun _ h => h) fun u hu hmem => absurd hu hmem⟩
  | @declared k j declaration u rest broker hsession hcall =>
    obtain ⟨hj, hu, hrest, hreached, hbound⟩ := hs.sessions _ (List.mem_of_getElem? hsession)
    have hafter := law.after s.broker _ broker hcall
    have hpersists := Amqp.persists_after (server.objects s.broker) (j.operation declaration u)
    have hnext := reached_after hreached
    rw [← hafter] at hpersists hnext
    -- The call: the broker's objects are what the operation leaves, so every installation stays wired,
    -- and this session is one call further.
    refine ⟨hs.refused, fun i hi t ht => ?_, fun session hmem => ?_⟩
    · show Wired i (server.objects broker) t
      rw [hafter]
      exact wired_after (hs.wired i hi t ht) (keeps_operation hreached hu ht)
    · rcases List.mem_or_eq_of_mem_set hmem with hmem | rfl
      · obtain ⟨hfleet, hholds⟩ := hs.sessions session hmem
        exact ⟨hfleet, hholds.keeps fun _ _ => keepsType_of_persists hpersists⟩
      · exact ⟨hj, holds_advance hu hrest
          (fun t ht hne hmem => hpersists.bindings (hbound t ht hne hmem)) hnext⟩
  | stopped =>
    exact ⟨hs.refused, hs.wired,
      fun session hmem => hs.sessions session (List.mem_of_mem_eraseIdx hmem)⟩
  -- Elsewhere: what leaves the installation's objects alone leaves what is known of them alone.
  | changed =>
    refine ⟨hs.refused, fun i hi t ht => (hallowed s.broker i hi t ht).wired (hs.wired i hi t ht),
      fun session hmem => ?_⟩
    obtain ⟨hfleet, hholds⟩ := hs.sessions session hmem
    exact ⟨hfleet, hholds.keeps fun t ht => (hallowed s.broker _ hfleet t ht).keepsType⟩

/-- On a broker where nothing is declared, everything is as it should be. -/
theorem kept_start {b : β} (hempty : server.objects b = {}) (fleet : Installation → Prop) :
    Kept server fleet { broker := b } := by
  refine ⟨rfl, fun i _ t _ => ?_, nofun⟩
  show Wired i (server.objects b) t
  rw [hempty]
  have hnone {α : Type} {name : String} {x : α} (h : (∅ : Table String α).lookup name = some x) :
      False := by
    rw [Finmap.lookup_empty] at h
    cases h
  exact ⟨fun _ h => (hnone h).elim, fun _ h => (hnone h).elim, fun _ h => (hnone h).elim,
    fun _ h => (hnone h).elim, nofun, nofun, nofun, fun _ _ h => (hnone h).elim⟩

/-- **The invariant holds after every run.** -/
theorem kept_run (law : server.Documented) (hnames : ∀ i, fleet i → i.Nameable)
    (hs : Kept server fleet s) (hallowed : ∀ action ∈ actions, Allowed server fleet action)
    (hrun : Runs.run (step server) s actions = some s') : Kept server fleet s' :=
  (Runs.Meets.of_invariant (fun action hmem _ _ hm h =>
    kept_step law hnames hm (hallowed action hmem) h) hs).invariant
    (fun _ action _ _ hok h => kept_step law hnames hok.1 (hallowed action hok.2) h) hs hrun

/-! ## What is declared -/

/-- This service, and the catalog's other consumer on the same exchanges. -/
def tables : Installation := ⟨"groovemap-musicbrainz", AMQP_CONSUMER_ID, by decide⟩

/-- The calls a loop has left to make. -/
def Loop.remaining : Loop → Nat
  | .declaring declaration _ rest => declaration.remaining + 6 * rest.length
  | .serving => 0

end Runs

end Queues

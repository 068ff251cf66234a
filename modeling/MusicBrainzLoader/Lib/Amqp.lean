/-
  A message broker as its clients see it: exchanges, queues and the bindings between them, declared by
  calls that the broker answers or refuses.

  The broker itself is a parameter (`Server`).  What is relied on is what its documentation promises
  (`Server.Documented`):

  * a declaration under an admissible name is accepted when the name is free, or when what is there is
    declared the same way ("declare-ok" of an existing object); a binding is accepted when both its ends
    are there;
  * an accepted call does what it says and nothing else (`Objects.after`).

  Nothing is promised of a call that asks for anything else: under a reserved or an overlong name, or
  where the name is taken by something declared otherwise, the broker may refuse (RabbitMQ closes the
  channel).  That such calls are never made is for the client to prove.

  Why a parameter with laws, and not a definition of a broker: any definition decides cases the
  documentation leaves to the implementation, and then a client proved to be never refused has been
  proved so for that one broker.  Here the quantifier is over the brokers, and the laws are the two
  above.

  What a client needs of this file is that names fill up and never empty: no call takes anything
  back (`persists_after`), what an accepted call declares is there (`mem_exchanges_after`,
  `mem_queues_after`, `mem_bindings_after`), and what is there and was not has just been declared
  (`exchange_of_after`, `queue_of_after`, `binding_of_after`).  From the last three a client shows
  that a name it is about to declare is free or declared its own way.

  `strictServer` accepts exactly what has to be accepted, so the laws can be met, and a concrete run
  can be evaluated on it.
-/
import MusicBrainzLoader.Lib.Table

namespace Amqp

structure Exchange where
  type : String
  durable : Bool
  autoDelete : Bool
deriving DecidableEq

/-- The value of a queue's argument. -/
inductive Argument where
  | text (s : String)
  | number (n : Nat)
deriving DecidableEq

structure Queue where
  durable : Bool
  autoDelete : Bool
  arguments : List (String × Argument)
deriving DecidableEq

/-- Where a queue's dead letters go. -/
def Queue.deadLetterExchange (q : Queue) : Option String :=
  match q.arguments.lookup "x-dead-letter-exchange" with
  | some (.text exchange) => some exchange
  | _ => none

/-- What has been declared. -/
structure Objects where
  exchanges : Table String Exchange := ∅
  queues : Table String Queue := ∅
  /-- An exchange, and a queue bound to it. -/
  bindings : Finset (String × String) := ∅

inductive Operation where
  | declareExchange (name : String) (exchange : Exchange)
  | declareQueue (name : String) (queue : Queue)
  | bind (queue exchange : String)

/-- A name a client may declare: names that begin with `amq.` are the broker's own, an empty one asks
    the broker to make one up, and a name is a short string. -/
structure Admissible (name : String) : Prop where
  nonempty : name ≠ ""
  unreserved : ¬ "amq.".toList <+: name.toList
  short : name.utf8ByteSize ≤ 255

instance : DecidablePred Admissible := fun name =>
  decidable_of_iff (name ≠ "" ∧ ¬ "amq.".toList <+: name.toList ∧ name.utf8ByteSize ≤ 255)
    ⟨fun h => ⟨h.1, h.2.1, h.2.2⟩, fun h => ⟨h.nonempty, h.unreserved, h.short⟩⟩

/-- What is declared after a call that has been accepted. -/
def Objects.after (o : Objects) : Operation → Objects
  | .declareExchange name exchange => { o with exchanges := o.exchanges.insertIfAbsent name exchange }
  | .declareQueue name queue => { o with queues := o.queues.insertIfAbsent name queue }
  | .bind queue exchange => { o with bindings := insert (exchange, queue) o.bindings }

/-- A call the broker has no reason to refuse. -/
def Objects.Accepts (o : Objects) : Operation → Prop
  | .declareExchange name exchange =>
    Admissible name ∧ ∀ there, o.exchanges.lookup name = some there → there = exchange
  | .declareQueue name queue =>
    Admissible name ∧ ∀ there, o.queues.lookup name = some there → there = queue
  | .bind queue exchange => queue ∈ o.queues ∧ exchange ∈ o.exchanges

/-- A broker: what is declared on it, and how it answers a call; none is a refusal. -/
structure Server (β : Type) where
  objects : β → Objects
  call : β → Operation → Option β

/-- What its documentation promises. -/
structure Server.Documented {β : Type} (server : Server β) : Prop where
  accepts : ∀ b op, (server.objects b).Accepts op → ∃ b', server.call b op = some b'
  after : ∀ b op b', server.call b op = some b' → server.objects b' = (server.objects b).after op

/-! ## What a call leaves -/

section After

variable {o o' o'' : Objects} {op : Operation} {name queue exchange : String}

/-- What has been declared is still there. -/
structure Persists (o o' : Objects) : Prop where
  exchanges : ∀ name exchange, o.exchanges.lookup name = some exchange →
    o'.exchanges.lookup name = some exchange
  queues : ∀ name queue, o.queues.lookup name = some queue → o'.queues.lookup name = some queue
  bindings : o.bindings ⊆ o'.bindings

theorem Persists.mem_queues (h : Persists o o') (hq : queue ∈ o.queues) : queue ∈ o'.queues := by
  obtain ⟨q, hq⟩ := Finmap.mem_iff.mp hq
  exact Finmap.mem_iff.mpr ⟨q, h.queues queue q hq⟩

theorem Persists.mem_exchanges (h : Persists o o') (hx : name ∈ o.exchanges) :
    name ∈ o'.exchanges := by
  obtain ⟨x, hx⟩ := Finmap.mem_iff.mp hx
  exact Finmap.mem_iff.mpr ⟨x, h.exchanges name x hx⟩

theorem lookup_insertIfAbsent_old {α : Type} {t : Table String α} {name other : String} {x y : α}
    (h : t.lookup other = some y) : (t.insertIfAbsent name x).lookup other = some y := by
  rw [Table.lookup_insertIfAbsent]
  split
  next heq =>
    subst heq
    rw [h]
    rfl
  next => exact h

theorem lookup_insertIfAbsent_or {α : Type} {t : Table String α} {name other : String} {x y : α}
    (h : (t.insertIfAbsent name x).lookup other = some y) :
    t.lookup other = some y ∨ name = other ∧ x = y := by
  rw [Table.lookup_insertIfAbsent] at h
  split at h
  next heq =>
    subst heq
    cases hold : t.lookup other with
    | none =>
      rw [hold] at h
      exact .inr ⟨rfl, Option.some.inj h⟩
    | some there =>
      rw [hold] at h
      exact .inl h
  next => exact .inl h

/-- No call takes anything back. -/
theorem persists_after (o : Objects) (op : Operation) : Persists o (o.after op) := by
  cases op with
  | declareExchange name x =>
    exact ⟨fun _ _ h => lookup_insertIfAbsent_old h, fun _ _ h => h, Finset.Subset.refl _⟩
  | declareQueue name q =>
    exact ⟨fun _ _ h => h, fun _ _ h => lookup_insertIfAbsent_old h, Finset.Subset.refl _⟩
  | bind queue exchange => exact ⟨fun _ _ h => h, fun _ _ h => h, Finset.subset_insert _ _⟩

/-! What is new has just been declared. -/

theorem exchange_of_after {x : Exchange} (h : (o.after op).exchanges.lookup name = some x) :
    o.exchanges.lookup name = some x ∨ op = .declareExchange name x := by
  cases op with
  | declareExchange other y =>
    exact (lookup_insertIfAbsent_or h).imp_right fun ⟨hname, hx⟩ => by rw [hname, hx]
  | _ => exact .inl h

theorem queue_of_after {q : Queue} (h : (o.after op).queues.lookup name = some q) :
    o.queues.lookup name = some q ∨ op = .declareQueue name q := by
  cases op with
  | declareQueue other r =>
    exact (lookup_insertIfAbsent_or h).imp_right fun ⟨hname, hq⟩ => by rw [hname, hq]
  | _ => exact .inl h

theorem binding_of_after (h : (exchange, queue) ∈ (o.after op).bindings) :
    (exchange, queue) ∈ o.bindings ∨ op = .bind queue exchange := by
  cases op with
  | bind q x =>
    rcases Finset.mem_insert.mp h with heq | hold
    · obtain ⟨rfl, rfl⟩ := Prod.mk.inj heq
      exact .inr rfl
    · exact .inl hold
  | _ => exact .inl h

/-! What a declaration declares is there after it. -/

theorem mem_exchanges_after (o : Objects) (name : String) (x : Exchange) :
    name ∈ (o.after (.declareExchange name x)).exchanges :=
  Table.mem_insertIfAbsent.mpr (.inl rfl)

theorem mem_queues_after (o : Objects) (name : String) (q : Queue) :
    name ∈ (o.after (.declareQueue name q)).queues :=
  Table.mem_insertIfAbsent.mpr (.inl rfl)

theorem mem_bindings_after (o : Objects) (queue exchange : String) :
    (exchange, queue) ∈ (o.after (.bind queue exchange)).bindings := Finset.mem_insert_self _ _

end After

/-! ## A broker that refuses everything else -/

instance (o : Objects) : DecidablePred o.Accepts
  | .declareExchange name exchange => decidable_of_iff
      (Admissible name ∧ ∀ there ∈ o.exchanges.lookup name, there = exchange) Iff.rfl
  | .declareQueue name queue => decidable_of_iff
      (Admissible name ∧ ∀ there ∈ o.queues.lookup name, there = queue) Iff.rfl
  | .bind queue exchange =>
    inferInstanceAs (Decidable (queue ∈ o.queues ∧ exchange ∈ o.exchanges))

end Amqp

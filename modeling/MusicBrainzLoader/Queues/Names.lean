/-
  The names of the broker's objects (`catalog_contract.py`, `queue_names.py`), and what is declared under
  them (the declarations of `main` and of `_recover_consumers`).

  The exchange prefix comes from the environment, so names are strings that end in one of a few ways.
  Nothing separates the prefix from the rest: a dash does, but the prefix may have dashes too, and
  consumers, types and suffixes are told apart by what follows.  So a name cannot be read from its front.
  It can be read from its end, since no ending is another one's ending (`suffixFree_exchanges`,
  `suffixFree_queues`): whatever the prefixes, a name tells the installation, the consumer and the type
  it is for (`Installation.queue_injective` …), and an installation's objects are never another one's.

  Whether the broker takes the names at all is up to the prefix too (`Installation.Nameable`): one that
  begins as the broker's own names do, or fills the length a name may have, makes names that are refused.

  What the broker is asked for is here, whether it agrees is in `Queues.Declared`.  The two meet in
  `Installation.operation`: a declaration of the code, with the names it computes, is one call on the
  broker's objects, with every argument the code passes; so a type, a durable flag or an argument
  that differed between two places that declare the same name would be a refusal there.
-/
import Mathlib.Data.List.Infix
import MusicBrainzLoader.Broker.Machine
import MusicBrainzLoader.Lib.Amqp

namespace Queues

open Amqp (Exchange Queue Operation)
open Broker (Declaration)
open Purge (DataType MUSICBRAINZ_DATA_TYPES)

/-! ## `catalog_contract` and `queue_names` -/

def AMQP_EXCHANGE_TYPE : String := "fanout"

def CONSUMERS : List String := ["brainzgraphinator", "brainztableinator"]

/-- The consumer this service is. -/
def AMQP_CONSUMER_ID : String := "brainztableinator"

/-- `exchange_name`; an error is a `ValueError`. -/
def exchangeName (exchangePrefix entity : String) : Except String String :=
  if entity ∉ MUSICBRAINZ_DATA_TYPES then .error ("Unknown MusicBrainz entity: " ++ entity)
  else .ok (exchangePrefix ++ "-" ++ entity)

/-- `queue_name`. -/
def queueName (exchangePrefix consumer entity : String) : Except String String :=
  if consumer ∉ CONSUMERS then .error ("Unknown MusicBrainz consumer: " ++ consumer)
  else if entity ∉ MUSICBRAINZ_DATA_TYPES then .error ("Unknown MusicBrainz entity: " ++ entity)
  else .ok (exchangePrefix ++ "-" ++ consumer ++ "-" ++ entity)

/-- `dead_letter_exchange_name`. -/
def deadLetterExchangeName (exchangePrefix consumer entity : String) : Except String String := do
  return (← queueName exchangePrefix consumer entity) ++ ".dlx"

/-- `dead_letter_queue_name`. -/
def deadLetterQueueName (exchangePrefix consumer entity : String) : Except String String := do
  return (← queueName exchangePrefix consumer entity) ++ ".dlq"

/-! ## The declarations of one type -/

/-- Every exchange is declared so. -/
def FANOUT : Exchange := { type := AMQP_EXCHANGE_TYPE, durable := true, autoDelete := false }

/-- How a dead-letter queue is declared. -/
def DEAD_LETTER_QUEUE : Queue where
  durable := true
  autoDelete := false
  arguments := [("x-queue-type", .text "classic")]

/-- How a type's queue is declared. -/
def dataQueue (dlxName : String) : Queue where
  durable := true
  autoDelete := false
  arguments := [("x-queue-type", .text "quorum"), ("x-dead-letter-exchange", .text dlxName),
    ("x-delivery-limit", .number 20)]

/-- The call a declaration makes; the names are read before any of them is. -/
def declare (exchangePrefix consumer : String) (declaration : Declaration) (t : DataType) :
    Except String Operation := do
  let exchangeName ← exchangeName exchangePrefix t
  let queueName ← queueName exchangePrefix consumer t
  let dlxName ← deadLetterExchangeName exchangePrefix consumer t
  let dlqName ← deadLetterQueueName exchangePrefix consumer t
  match declaration with
  | .exchange => return .declareExchange exchangeName FANOUT
  | .deadLetterExchange => return .declareExchange dlxName FANOUT
  | .deadLetterQueue => return .declareQueue dlqName DEAD_LETTER_QUEUE
  | .bindDeadLetterQueue => return .bind dlqName dlxName
  | .queue => return .declareQueue queueName (dataQueue dlxName)
  | .bindQueue => return .bind queueName exchangeName

/-! ## Installations -/

/-- A consumer of the catalog, on the exchanges of one prefix. -/
structure Installation where
  exchangePrefix : String
  consumer : String
  known : consumer ∈ CONSUMERS
deriving DecidableEq

namespace Installation

def exchange (i : Installation) (t : DataType) : String := i.exchangePrefix ++ "-" ++ t

def queue (i : Installation) (t : DataType) : String :=
  i.exchangePrefix ++ "-" ++ i.consumer ++ "-" ++ t

def deadLetterExchange (i : Installation) (t : DataType) : String := i.queue t ++ ".dlx"

def deadLetterQueue (i : Installation) (t : DataType) : String := i.queue t ++ ".dlq"

/-- The call a declaration of this installation makes. -/
def operation (i : Installation) (declaration : Declaration) (t : DataType) : Operation :=
  match declaration with
  | .exchange => .declareExchange (i.exchange t) FANOUT
  | .deadLetterExchange => .declareExchange (i.deadLetterExchange t) FANOUT
  | .deadLetterQueue => .declareQueue (i.deadLetterQueue t) DEAD_LETTER_QUEUE
  | .bindDeadLetterQueue => .bind (i.deadLetterQueue t) (i.deadLetterExchange t)
  | .queue => .declareQueue (i.queue t) (dataQueue (i.deadLetterExchange t))
  | .bindQueue => .bind (i.queue t) (i.exchange t)

theorem declare_eq_ok (i : Installation) (declaration : Declaration) {t : DataType}
    (ht : t ∈ MUSICBRAINZ_DATA_TYPES) :
    declare i.exchangePrefix i.consumer declaration t = .ok (i.operation declaration t) := by
  have hexchange : exchangeName i.exchangePrefix t = .ok (i.exchange t) := by
    unfold exchangeName
    rw [if_neg (not_not.mpr ht)]
    rfl
  have hqueue : queueName i.exchangePrefix i.consumer t = .ok (i.queue t) := by
    unfold queueName
    rw [if_neg (not_not.mpr i.known), if_neg (not_not.mpr ht)]
    rfl
  unfold declare deadLetterExchangeName deadLetterQueueName
  rw [hexchange, hqueue]
  cases declaration <;> rfl

end Installation

/-! ## Names are told apart -/

/-- No ending is a longer one's ending. -/
def SuffixFree (endings : List (List Char)) : Prop :=
  ∀ a ∈ endings, ∀ b ∈ endings, a <:+ b → a = b

instance (endings : List (List Char)) : Decidable (SuffixFree endings) :=
  inferInstanceAs (Decidable (∀ a ∈ endings, ∀ b ∈ endings, a <:+ b → a = b))

theorem SuffixFree.append_inj {endings : List (List Char)} (h : SuffixFree endings)
    {p p' a b : List Char} (ha : a ∈ endings) (hb : b ∈ endings) (heq : p ++ a = p' ++ b) :
    p = p' ∧ a = b := by
  have hsuffix : a <:+ p' ++ b := heq ▸ List.suffix_append p a
  have hab : a = b := by
    rcases List.suffix_or_suffix_of_suffix hsuffix (List.suffix_append p' b) with hab | hba
    · exact h a ha b hb hab
    · exact (h b hb a ha hba).symm
  subst hab
  exact ⟨List.append_cancel_right heq, rfl⟩

/-- What follows the prefix in the names of a type's exchange and of a consumer's queue for it. -/
def exchangeEnding (t : DataType) : String := "-" ++ t

def queueEnding (consumer : String) (t : DataType) : String := "-" ++ consumer ++ "-" ++ t

/-- How an exchange's name ends. -/
def exchangeEndings : List (List Char) :=
  MUSICBRAINZ_DATA_TYPES.map (fun t => (exchangeEnding t).toList) ++
    CONSUMERS.flatMap fun consumer =>
      MUSICBRAINZ_DATA_TYPES.map fun t => (queueEnding consumer t ++ ".dlx").toList

/-- How a queue's name ends. -/
def queueEndings : List (List Char) :=
  CONSUMERS.flatMap fun consumer => MUSICBRAINZ_DATA_TYPES.flatMap fun t =>
    [(queueEnding consumer t).toList, (queueEnding consumer t ++ ".dlq").toList]

theorem suffixFree_exchanges : SuffixFree exchangeEndings := by decide +kernel

theorem suffixFree_queues : SuffixFree queueEndings := by decide +kernel

theorem queueEnding_injective : ∀ consumer ∈ CONSUMERS, ∀ consumer' ∈ CONSUMERS,
    ∀ t ∈ MUSICBRAINZ_DATA_TYPES, ∀ u ∈ MUSICBRAINZ_DATA_TYPES,
    queueEnding consumer t = queueEnding consumer' u → consumer = consumer' ∧ t = u := by
  decide +kernel

theorem queueEnding_ne : ∀ consumer ∈ CONSUMERS, ∀ consumer' ∈ CONSUMERS,
    ∀ t ∈ MUSICBRAINZ_DATA_TYPES, ∀ u ∈ MUSICBRAINZ_DATA_TYPES,
    queueEnding consumer t ≠ queueEnding consumer' u ++ ".dlq" ∧
      exchangeEnding t ≠ queueEnding consumer' u ++ ".dlx" := by
  decide +kernel

/-- Where no ending is a longer one's, a name is read from its end. -/
theorem SuffixFree.name_inj {endings : List (List Char)} (h : SuffixFree endings)
    {p p' a b : String} (ha : a.toList ∈ endings) (hb : b.toList ∈ endings)
    (heq : p ++ a = p' ++ b) : p = p' ∧ a = b := by
  have hlist : p.toList ++ a.toList = p'.toList ++ b.toList := by
    rw [← String.toList_append, ← String.toList_append, heq]
  obtain ⟨hp, ha⟩ := h.append_inj ha hb hlist
  exact ⟨String.toList_inj.mp hp, String.toList_inj.mp ha⟩

namespace Installation

variable {i j : Installation} {t u : DataType}

theorem queue_eq (i : Installation) (t : DataType) :
    i.queue t = i.exchangePrefix ++ queueEnding i.consumer t := by
  simp only [queue, queueEnding, String.append_assoc]

theorem exchange_eq (i : Installation) (t : DataType) :
    i.exchange t = i.exchangePrefix ++ exchangeEnding t := by
  simp only [exchange, exchangeEnding, String.append_assoc]

theorem mem_queueEndings (i : Installation) (ht : t ∈ MUSICBRAINZ_DATA_TYPES) :
    (queueEnding i.consumer t).toList ∈ queueEndings ∧
      (queueEnding i.consumer t ++ ".dlq").toList ∈ queueEndings := by
  have hmem (a : List Char) (ha : a ∈ [(queueEnding i.consumer t).toList,
      (queueEnding i.consumer t ++ ".dlq").toList]) : a ∈ queueEndings :=
    List.mem_flatMap.mpr ⟨i.consumer, i.known, List.mem_flatMap.mpr ⟨t, ht, ha⟩⟩
  exact ⟨hmem _ List.mem_cons_self, hmem _ (List.mem_cons_of_mem _ List.mem_cons_self)⟩

theorem mem_exchangeEndings (i : Installation) (ht : t ∈ MUSICBRAINZ_DATA_TYPES) :
    (exchangeEnding t).toList ∈ exchangeEndings ∧
      (queueEnding i.consumer t ++ ".dlx").toList ∈ exchangeEndings :=
  ⟨List.mem_append_left _ (List.mem_map.mpr ⟨t, ht, rfl⟩),
    List.mem_append_right _
      (List.mem_flatMap.mpr ⟨i.consumer, i.known, List.mem_map.mpr ⟨t, ht, rfl⟩⟩)⟩

/-- **A queue's name tells whose it is**, and for which type. -/
theorem queue_injective (ht : t ∈ MUSICBRAINZ_DATA_TYPES) (hu : u ∈ MUSICBRAINZ_DATA_TYPES)
    (h : i.queue t = j.queue u) : i = j ∧ t = u := by
  rw [queue_eq, queue_eq] at h
  obtain ⟨hfirst, hending⟩ :=
    suffixFree_queues.name_inj (i.mem_queueEndings ht).1 (j.mem_queueEndings hu).1 h
  obtain ⟨hconsumer, htype⟩ := queueEnding_injective _ i.known _ j.known t ht u hu hending
  refine ⟨?_, htype⟩
  cases i
  cases j
  cases hfirst
  cases hconsumer
  rfl

/-- No queue has a dead-letter queue's name. -/
theorem queue_ne_deadLetterQueue (ht : t ∈ MUSICBRAINZ_DATA_TYPES)
    (hu : u ∈ MUSICBRAINZ_DATA_TYPES) : i.queue t ≠ j.deadLetterQueue u := by
  intro h
  rw [deadLetterQueue, queue_eq, queue_eq, String.append_assoc] at h
  obtain ⟨-, hending⟩ :=
    suffixFree_queues.name_inj (i.mem_queueEndings ht).1 (j.mem_queueEndings hu).2 h
  exact (queueEnding_ne _ i.known _ j.known t ht u hu).1 hending

/-- No exchange has a dead-letter exchange's name. -/
theorem exchange_ne_deadLetterExchange (ht : t ∈ MUSICBRAINZ_DATA_TYPES)
    (hu : u ∈ MUSICBRAINZ_DATA_TYPES) : i.exchange t ≠ j.deadLetterExchange u := by
  intro h
  rw [exchange_eq, deadLetterExchange, queue_eq, String.append_assoc] at h
  obtain ⟨-, hending⟩ :=
    suffixFree_exchanges.name_inj (i.mem_exchangeEndings ht).1 (j.mem_exchangeEndings hu).2 h
  exact (queueEnding_ne _ i.known _ j.known t ht u hu).2 hending

theorem deadLetterExchange_injective (ht : t ∈ MUSICBRAINZ_DATA_TYPES)
    (hu : u ∈ MUSICBRAINZ_DATA_TYPES) (h : i.deadLetterExchange t = j.deadLetterExchange u) :
    i = j ∧ t = u :=
  queue_injective ht hu ((String.append_left_inj ".dlx").mp h)

theorem deadLetterQueue_injective (ht : t ∈ MUSICBRAINZ_DATA_TYPES)
    (hu : u ∈ MUSICBRAINZ_DATA_TYPES) (h : i.deadLetterQueue t = j.deadLetterQueue u) :
    i = j ∧ t = u :=
  queue_injective ht hu ((String.append_left_inj ".dlq").mp h)

/-! ## Names the broker takes -/

/-- The prefix makes names the broker takes: it does not begin as the broker's own names do, and leaves
    room for the longest ending. -/
structure Nameable (i : Installation) : Prop where
  unreserved : ¬ "amq.".toList <+: i.exchangePrefix.toList
  short : i.exchangePrefix.utf8ByteSize ≤ 218

instance : DecidablePred Nameable := fun i =>
  decidable_of_iff (¬ "amq.".toList <+: i.exchangePrefix.toList ∧
    i.exchangePrefix.utf8ByteSize ≤ 218) ⟨fun h => ⟨h.1, h.2⟩, fun h => ⟨h.unreserved, h.short⟩⟩

/-- The broker's own names have no dash, so what follows the prefix makes no name one of them. -/
theorem Nameable.admissible (h : Nameable i) {ending : String}
    (hdash : ending.toList.head? = some '-') (hshort : ending.utf8ByteSize ≤ 37) :
    Amqp.Admissible (i.exchangePrefix ++ ending) := by
  obtain ⟨rest, hrest⟩ : ∃ rest, ending.toList = '-' :: rest := by
    cases hending : ending.toList with
    | nil =>
      rw [hending] at hdash
      cases hdash
    | cons c rest =>
      rw [hending] at hdash
      obtain rfl := Option.some.inj hdash
      exact ⟨rest, rfl⟩
  have hname : (i.exchangePrefix ++ ending).toList = i.exchangePrefix.toList ++ '-' :: rest := by
    rw [String.toList_append, hrest]
  -- Not empty, for the dash; not reserved; and short enough with any of the endings.
  refine ⟨fun hempty => ?_, fun hreserved => ?_, ?_⟩
  · rw [hempty] at hname
    have hlength := congrArg List.length hname
    simp at hlength
  -- A reserved name would begin with the prefix, or the prefix would end inside `amq.`.
  · rw [hname] at hreserved
    rcases List.prefix_or_prefix_of_prefix hreserved (List.prefix_append _ _) with hfirst | hfirst
    · exact h.unreserved hfirst
    · -- The prefix is a proper beginning of `amq.`, and the dash follows it there.
      obtain ⟨after, hafter⟩ := hfirst
      rw [← hafter, List.prefix_append_right_inj] at hreserved
      cases after with
      | nil => exact h.unreserved (hafter ▸ (List.append_nil _).symm ▸ List.prefix_rfl)
      | cons c after =>
        obtain rfl : c = '-' := (List.cons_prefix_cons.mp hreserved).1
        have hmem : '-' ∈ "amq.".toList := hafter ▸ List.mem_append_right _ List.mem_cons_self
        exact absurd hmem (by decide +kernel)
  · rw [String.utf8ByteSize_append]
    have := h.short
    omega

/-- What the broker must know about the endings: each begins with a dash and is short. -/
theorem endings_short : ∀ consumer ∈ CONSUMERS, ∀ t ∈ MUSICBRAINZ_DATA_TYPES,
    ∀ ending ∈ [exchangeEnding t, queueEnding consumer t, queueEnding consumer t ++ ".dlx",
      queueEnding consumer t ++ ".dlq"],
    ending.toList.head? = some '-' ∧ ending.utf8ByteSize ≤ 37 := by
  decide +kernel

/-- **Every name of such an installation is admissible.** -/
theorem Nameable.names (h : Nameable i) (ht : t ∈ MUSICBRAINZ_DATA_TYPES) :
    Amqp.Admissible (i.exchange t) ∧ Amqp.Admissible (i.deadLetterExchange t) ∧
      Amqp.Admissible (i.queue t) ∧ Amqp.Admissible (i.deadLetterQueue t) := by
  have hname {ending : String} (hmem : ending ∈ [exchangeEnding t, queueEnding i.consumer t,
      queueEnding i.consumer t ++ ".dlx", queueEnding i.consumer t ++ ".dlq"]) :
      Amqp.Admissible (i.exchangePrefix ++ ending) := by
    obtain ⟨hdash, hshort⟩ := endings_short i.consumer i.known t ht ending hmem
    exact h.admissible hdash hshort
  rw [deadLetterExchange, deadLetterQueue, exchange_eq, queue_eq, String.append_assoc,
    String.append_assoc]
  exact ⟨hname (by simp), hname (by simp), hname (by simp), hname (by simp)⟩

end Installation

end Queues

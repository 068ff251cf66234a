/-
  The alarm on silent streams (`_consumer_alarm_types`).

  An incomplete stream is reported when it has no consumer; and, once its siblings are complete and the
  watch's grace is over, when nothing of it has ever been delivered.  The second reading goes by
  `last_message_time`, which two writers share: `on_data_message`, after a record, and
  `_recover_consumers`, when it registers a consumer.

  * **`Watched`** — the invariant: a recovered registration leaves the time set, one that `main` made
    leaves it at zero until a record is processed.
  * **`silent_stream_reported_iff`** — so a silent stream is reported when it has lost its consumer, or
    its consumer is still the one `main` registered, and not otherwise.

  The machine adds to the bookkeeping what the alarm reads: the counts, the times and the watch.
-/
import MusicBrainzLoader.Broker.GraceTimers
import Mathlib.Data.PNat.Basic

namespace Broker

open Purge (DataType MUSICBRAINZ_DATA_TYPES)
open Runs

namespace Alarm

/-! ## The watch -/

/-- A reading of `time.time()`. -/
abbrev Instant : Type := PNat

/-- A type's last registration. -/
structure Registration where
  consumer : Consumer
  /-- Made by `_recover_consumers`, not by `main`. -/
  recovered : Bool
  /-- A record of the type has been processed since. -/
  processed : Bool := false
deriving DecidableEq

/-- What the alarm reads, beside the bookkeeping. -/
structure Watch where
  service : GraceTimers.Service
  messageCounts : DataType → Nat := fun _ => 0
  lastMessageTime : DataType → Nat := fun _ => 0
  consumerWatchStartedAt : Nat
  /-- The types `main` has not registered yet. -/
  pending : List DataType := MUSICBRAINZ_DATA_TYPES
  /-- What the property speaks of and the service does not keep. -/
  registrations : Table DataType Registration := ∅

/-- `main` has declared the queues, and goes on to register the consumers. -/
def start (channel : Channel) (now : Instant) : Watch where
  service := {
    broker := {
      activeConnection := some channel.connection
      activeChannel := some channel
      queues := MUSICBRAINZ_DATA_TYPES.foldl (fun queues t => queues.insert t channel) ∅ } }
  consumerWatchStartedAt := now

/-- The grace of the watch is over. -/
def Watch.graceExpired (timeout : Nat) (w : Watch) (now : Instant) : Bool :=
  decide (0 < w.consumerWatchStartedAt ∧ w.consumerWatchStartedAt + timeout ≤ now)

/-- What a round of the checker reads. -/
def Watch.clock (timeout : Nat) (w : Watch) (now : Instant) (checkDue : Bool) : Clock where
  trafficSeen := MUSICBRAINZ_DATA_TYPES.any fun t => decide (0 < w.messageCounts t)
  graceExpired := w.graceExpired timeout now
  delivered := MUSICBRAINZ_DATA_TYPES.filter fun t => decide (0 < w.lastMessageTime t)
  checkDue

/-- `_consumer_alarm_types`. -/
def alarmTypes (timeout : Nat) (w : Watch) (now : Instant) : List DataType :=
  consumerAlarmTypes (w.clock timeout now false) w.service.broker

/-! ## Steps -/

/-- What may happen while the watch is on. -/
inductive Event where
  /-- `main` registers the next consumer. -/
  | registered (consumerTag : String)
  /-- `on_data_message`: a record has been processed. -/
  | processed (t : DataType) (now : Instant)
  | check (now : Instant) (checkDue : Bool)
  | recover (now : Instant) (reply : Reply)
  /-- Messages, timers, and shutdown. -/
  | service (event : GraceTimers.Event)

/-- The checker's own events, which read the watch or write it. -/
def isChecker : GraceTimers.Event → Bool
  | .broker (.check _) => true
  | .broker (.recover _) => true
  | _ => false

/-- `main`'s loop over the types. -/
def register (w : Watch) (consumerTag : String) : Option Watch :=
  match w.pending with
  | [] => none
  | t :: rest => (w.service.broker.queues.lookup t).map fun on =>
    let consumer := ⟨consumerTag, on.connection⟩
    { w with
      service := { w.service with broker := registerConsumer w.service.broker [] t consumer }
      pending := rest
      registrations := w.registrations.insert t { consumer, recovered := false } }

/-- `message_counts` and `last_message_time` after a record of a type that has had a consumer. -/
def process (w : Watch) (t : DataType) (now : Instant) : Option Watch :=
  (w.registrations.lookup t).map fun registration =>
    let w := { w with
      registrations := w.registrations.insert t { registration with processed := true } }
    -- Only the known types are in `message_counts`.
    if t ∈ MUSICBRAINZ_DATA_TYPES then { w with
      messageCounts := Function.update w.messageCounts t (w.messageCounts t + 1)
      lastMessageTime := Function.update w.lastMessageTime t now }
    else w

/-- What a recovery writes besides: a new connection starts the watch again, a registration sets its
    type's time. -/
def noteRecovery (w : Watch) (now : Instant) : RecoveryAwait → Reply → Watch
  | .consume _ _ on t _, .tag consumerTag => { w with
      lastMessageTime := Function.update w.lastMessageTime t now
      registrations := w.registrations.insert t ⟨⟨consumerTag, on.connection⟩, true, false⟩ }
  | .declarePassive _ found _ [], .value n =>
    -- The last passive declare: with messages found, the connection is kept.
    if 0 < n ∨ found ≠ [] then { w with consumerWatchStartedAt := now } else w
  | _, _ => w

/-- The checker runs once `main` has registered the consumers. -/
def watchStep (timeout delay : Nat) (w : Watch) : Event → Option Watch
  | .registered consumerTag => register w consumerTag
  | .processed t now => process w t now
  | .check now checkDue =>
    if w.pending = [] then
      (GraceTimers.eventStep delay w.service (.broker (.check (w.clock timeout now checkDue)))).map
        fun service => { w with service }
    else none
  | .recover now reply =>
    if w.pending = [] then
      w.service.broker.recovery.bind fun awaiting =>
        (GraceTimers.eventStep delay w.service (.broker (.recover reply))).map fun service =>
          noteRecovery { w with service } now awaiting reply
    else none
  | .service event =>
    if isChecker event then none
    else (GraceTimers.eventStep delay w.service event).map fun service => { w with service }

/-! ## What is to be shown -/

/-- A stream that should have delivered by now, and has not since its consumer was registered. -/
structure Silent (timeout : Nat) (w : Watch) (now : Instant) (t : DataType) : Prop where
  known : t ∈ MUSICBRAINZ_DATA_TYPES
  incomplete : t ∉ w.service.broker.completedFiles
  siblings : ∀ t' ∈ MUSICBRAINZ_DATA_TYPES, t' ≠ t → t' ∈ w.service.broker.completedFiles
  graceOver : w.consumerWatchStartedAt + timeout ≤ now
  unprocessed : t ∈ w.service.broker.consumerTags → ∀ registration,
    w.registrations.lookup t = some registration → registration.processed = false

/-- **The invariant.**  Who has written a type's time goes by its last registration. -/
structure Watched (w : Watch) : Prop where
  timers : GraceTimers.TimersCurrent w.service.broker
  watch : 0 < w.consumerWatchStartedAt
  pending : w.pending.Nodup ∧ ∀ t ∈ w.pending, t ∉ w.registrations
  current : ∀ t consumer, w.service.broker.consumerTags.lookup t = some consumer →
    ∃ registration, w.registrations.lookup t = some registration ∧ registration.consumer = consumer
  untimed : ∀ t, (∀ registration, w.registrations.lookup t = some registration →
    registration.recovered = false ∧ registration.processed = false) → w.lastMessageTime t = 0
  recovered : ∀ t registration, w.registrations.lookup t = some registration →
    registration.recovered = true → 0 < w.lastMessageTime t

/-! ## The alarm -/

section Reading

variable {timeout : Nat} {w : Watch} {now : Instant} {t : DataType}

/-- A type's siblings are three of the four. -/
theorem three_le_card {completedFiles : Finset DataType} (hknown : t ∈ MUSICBRAINZ_DATA_TYPES)
    (hsiblings : ∀ t' ∈ MUSICBRAINZ_DATA_TYPES, t' ≠ t → t' ∈ completedFiles) :
    MUSICBRAINZ_DATA_TYPES.length - 1 ≤ completedFiles.card := by
  have hmem : t ∈ MUSICBRAINZ_DATA_TYPES.toFinset := List.mem_toFinset.mpr hknown
  have hall : MUSICBRAINZ_DATA_TYPES.toFinset.card = MUSICBRAINZ_DATA_TYPES.length :=
    List.toFinset_card_of_nodup (by decide)
  have hsubset : MUSICBRAINZ_DATA_TYPES.toFinset.erase t ⊆ completedFiles := by
    intro t' ht'
    obtain ⟨hne, ht'⟩ := Finset.mem_erase.mp ht'
    exact hsiblings t' (List.mem_toFinset.mp ht') hne
  have hcard := Finset.card_le_card hsubset
  rw [Finset.card_erase_of_mem hmem, hall] at hcard
  exact hcard

/-- What the alarm says of a silent stream is read off its tag and its time. -/
theorem mem_alarmTypes_iff (hwatch : 0 < w.consumerWatchStartedAt) (hsilent : Silent timeout w now t) :
    t ∈ alarmTypes timeout w now ↔
      t ∉ w.service.broker.consumerTags ∨ w.lastMessageTime t = 0 := by
  have hgrace : w.graceExpired timeout now = true :=
    decide_eq_true ⟨hwatch, hsilent.graceOver⟩
  -- The alarm counts `completed_files`, and does not look at which types they are.
  have hcard := three_le_card hsilent.known hsilent.siblings
  have hdelivered : t ∉ (w.clock timeout now false).delivered ↔ w.lastMessageTime t = 0 := by
    show t ∉ MUSICBRAINZ_DATA_TYPES.filter (fun t => decide (0 < w.lastMessageTime t)) ↔ _
    rw [List.mem_filter, decide_eq_true_iff]
    have hknown := hsilent.known
    constructor
    · intro hnot
      by_contra hne
      exact hnot ⟨hknown, by omega⟩
    · rintro hzero ⟨-, hpos⟩
      omega
  unfold alarmTypes consumerAlarmTypes
  have hexpired : (w.clock timeout now false).graceExpired = true := hgrace
  rw [hexpired, Bool.not_true, Bool.and_false, if_neg Bool.false_ne_true, List.mem_filter]
  simp only [hsilent.known, hsilent.incomplete, hcard, not_false_eq_true, decide_true,
    Bool.true_and, Bool.and_true, true_and, Bool.or_eq_true, decide_eq_true_eq, hdelivered]

end Reading

/-! ## Steps keep the invariant -/

section Steps

variable {timeout delay : Nat} {w w' : Watch} {now : Instant}

/-- `main` registers every consumer, and leaves the times at zero. -/
theorem watched_start (channel : Channel) (now : Instant) : Watched (start channel now) where
  timers := ⟨fun _ h => absurd h List.not_mem_nil, List.nodup_nil,
    fun _ h => absurd h List.not_mem_nil⟩
  watch := now.pos
  pending := by
    have hnodup : MUSICBRAINZ_DATA_TYPES.Nodup := by decide
    exact ⟨hnodup, fun _ _ h => absurd h Finmap.notMem_empty⟩
  current := by
    intro t consumer hlookup
    rw [show (start channel now).service.broker.consumerTags = ∅ from rfl,
      Finmap.lookup_empty] at hlookup
    cases hlookup
  untimed := fun _ _ => rfl
  recovered := by
    intro t registration hlookup
    rw [show (start channel now).registrations = ∅ from rfl, Finmap.lookup_empty] at hlookup
    cases hlookup

/-- Only the service's part has changed, and no consumer has been registered. -/
theorem Watched.of_service {service : GraceTimers.Service} (hw : Watched w)
    (htimers : GraceTimers.TimersCurrent service.broker)
    (hconsumers : ∀ t consumer, service.broker.consumerTags.lookup t = some consumer →
      w.service.broker.consumerTags.lookup t = some consumer) : Watched { w with service } := by
  refine ⟨htimers, hw.watch, hw.pending, ?_, hw.untimed, hw.recovered⟩
  intro t consumer hlookup
  exact hw.current t consumer (hconsumers t consumer hlookup)

/-- An event of the service that issues no tag. -/
theorem Watched.event {event : GraceTimers.Event} {service : GraceTimers.Service} (hw : Watched w)
    (hissues : event.issues = none)
    (h : GraceTimers.eventStep delay w.service event = some service) : Watched { w with service } := by
  have hcarries := GraceTimers.carries_event hw.timers h
  apply hw.of_service hcarries.current
  intro t consumer hlookup
  rcases hcarries.consumers t consumer hlookup with hbefore | hissued
  · exact hbefore
  · rw [hissues] at hissued
    cases hissued

/-- A type's registration is written, with its time. -/
theorem Watched.insert {t : DataType} {registration : Registration} (hw : Watched w)
    (hregistrations : w'.registrations = w.registrations.insert t registration)
    (htimers : GraceTimers.TimersCurrent w'.service.broker)
    (hwatch : w'.consumerWatchStartedAt = w.consumerWatchStartedAt)
    (hpending : w'.pending.Nodup ∧ ∀ t' ∈ w'.pending, t' ∈ w.pending ∧ t' ≠ t)
    (hown : ∀ consumer, w'.service.broker.consumerTags.lookup t = some consumer →
      registration.consumer = consumer)
    (hothers : ∀ t' consumer, t' ≠ t → w'.service.broker.consumerTags.lookup t' = some consumer →
      w.service.broker.consumerTags.lookup t' = some consumer)
    (htimes : ∀ t', t' ≠ t → w'.lastMessageTime t' = w.lastMessageTime t')
    (hzero : registration.recovered = false → registration.processed = false →
      w'.lastMessageTime t = 0)
    (hpos : registration.recovered = true → 0 < w'.lastMessageTime t) : Watched w' := by
  have hself : w'.registrations.lookup t = some registration := by
    rw [hregistrations, Finmap.lookup_insert]
  have hold : ∀ t', t' ≠ t → w'.registrations.lookup t' = w.registrations.lookup t' := by
    intro t' ht'
    rw [hregistrations, Finmap.lookup_insert_of_ne _ ht']
  -- One type has a new registration, and nothing changes about the others.
  refine ⟨htimers, by rw [hwatch]; exact hw.watch, ⟨hpending.1, ?_⟩, ?_, ?_, ?_⟩
  · intro t' ht' hmem
    obtain ⟨hwas, hne⟩ := hpending.2 t' ht'
    rw [hregistrations] at hmem
    rcases Finmap.mem_insert.mp hmem with heq | hmem
    · exact hne heq
    · exact hw.pending.2 t' hwas hmem
  · intro t' consumer htag
    by_cases ht' : t' = t
    · subst ht'
      exact ⟨registration, hself, hown consumer htag⟩
    · rw [hold t' ht']
      exact hw.current t' consumer (hothers t' consumer ht' htag)
  · intro t' hquiet
    by_cases ht' : t' = t
    · subst ht'
      obtain ⟨hmain, hunprocessed⟩ := hquiet registration hself
      exact hzero hmain hunprocessed
    · rw [htimes t' ht']
      rw [hold t' ht'] at hquiet
      exact hw.untimed t' hquiet
  · intro t' registration' hlookup hrecovered
    by_cases ht' : t' = t
    · subst ht'
      obtain rfl := Option.some.inj (hself.symm.trans hlookup)
      exact hpos hrecovered
    · rw [htimes t' ht']
      rw [hold t' ht'] at hlookup
      exact hw.recovered t' registration' hlookup hrecovered

/-- A first registration finds the type's time at zero. -/
theorem watched_register {consumerTag : String} (hw : Watched w)
    (h : register w consumerTag = some w') : Watched w' := by
  unfold register at h
  split at h
  · cases h
  next t rest hpending =>
    obtain ⟨on, -, rfl⟩ := Option.map_eq_some_iff.mp h
    obtain ⟨hnodup, hnew⟩ := hw.pending
    rw [hpending] at hnodup hnew
    obtain ⟨hnotin, hrest⟩ := List.nodup_cons.mp hnodup
    -- `main` registers each type once, so this one's time is still zero.
    have hnone : w.lastMessageTime t = 0 := by
      apply hw.untimed
      intro registration hlookup
      exact absurd (Finmap.mem_of_lookup_eq_some hlookup) (hnew t List.mem_cons_self)
    -- The tag is this type's, and no other tag changes.
    have htags : ∀ t', (w.service.broker.consumerTags.insert t
        ⟨consumerTag, on.connection⟩).lookup t' =
          if t' = t then some ⟨consumerTag, on.connection⟩
          else w.service.broker.consumerTags.lookup t' :=
      fun t' => Table.lookup_insert_eq _ t t' _
    refine hw.insert rfl ?_ rfl ⟨hrest, ?_⟩ ?_ ?_ (fun _ _ => rfl) (fun _ _ => hnone) ?_
    · exact ⟨hw.timers.fresh, hw.timers.distinct, hw.timers.entry⟩
    · intro t' ht'
      rw [hpending]
      refine ⟨List.mem_cons_of_mem t ht', ?_⟩
      rintro rfl
      exact hnotin ht'
    · intro consumer htag
      have htag := (htags t).symm.trans htag
      rw [if_pos rfl] at htag
      exact Option.some.inj htag
    · intro t' consumer ht' htag
      have htag := (htags t').symm.trans htag
      rw [if_neg ht'] at htag
      exact htag
    · intro hrecovered
      cases hrecovered

/-- A record that is processed counts, and sets the time. -/
theorem watched_process {t : DataType} (hw : Watched w) (h : process w t now = some w') :
    Watched w' := by
  obtain ⟨registration, hlookup, rfl⟩ := Option.map_eq_some_iff.mp h
  -- A type that has had a record is registered, and `main` has no registration of it to come.
  have hpending : w.pending.Nodup ∧ ∀ t' ∈ w.pending, t' ∈ w.pending ∧ t' ≠ t := by
    refine ⟨hw.pending.1, ?_⟩
    intro t' ht'
    refine ⟨ht', ?_⟩
    rintro rfl
    exact hw.pending.2 t' ht' (Finmap.mem_of_lookup_eq_some hlookup)
  -- The consumer stays the same; what is noted of it is that it has delivered.
  have hown : ∀ consumer, w.service.broker.consumerTags.lookup t = some consumer →
      registration.consumer = consumer := by
    intro consumer htag
    obtain ⟨registration', hlookup', hconsumer⟩ := hw.current t consumer htag
    obtain rfl := Option.some.inj (hlookup.symm.trans hlookup')
    exact hconsumer
  have hsince : ∀ P : Prop,
      ({ registration with processed := true } : Registration).processed = false → P :=
    fun _ h => by cases h
  -- A known type's record stamps the time; any other's leaves the times alone.
  split
  · refine hw.insert rfl hw.timers rfl hpending hown (fun _ _ _ htag => htag) ?_ (fun _ => hsince _) ?_
    · intro t' ht'
      exact Function.update_of_ne ht' _ _
    · intro _
      show 0 < Function.update w.lastMessageTime t (now : Nat) t
      rw [Function.update_self]
      exact now.pos
  · refine hw.insert rfl hw.timers rfl hpending hown (fun _ _ _ htag => htag) (fun _ _ => rfl)
      (fun _ => hsince _) ?_
    exact hw.recovered t registration hlookup

/-- A recovery's step, without what the alarm notes of it. -/
theorem eventStep_recover {service service' : GraceTimers.Service} {awaiting : RecoveryAwait}
    {reply : Reply} (hawaiting : service.broker.recovery = some awaiting)
    (h : GraceTimers.eventStep delay service (.broker (.recover reply)) = some service') :
    ∃ r, recoveryStep service.broker awaiting reply = some r ∧
      service' = { service with broker := { r.1 with recovery := r.2 } } := by
  obtain ⟨broker, hbroker, rfl⟩ := Option.map_eq_some_iff.mp h
  obtain ⟨awaiting', hawaiting', hstep⟩ := Option.bind_eq_some_iff.mp hbroker
  obtain rfl := Option.some.inj (hawaiting.symm.trans hawaiting')
  obtain ⟨r, hr, rfl⟩ := Option.map_eq_some_iff.mp hstep
  exact ⟨r, hr, rfl⟩

/-- `_recover_consumers` registers a consumer: its type's time is set. -/
theorem watched_consume {temp on : Channel} {found : List (DataType × Nat)} {t : DataType}
    {rest : List DataType} {consumerTag : String} {service : GraceTimers.Service} (hw : Watched w)
    (hnone : w.pending = [])
    (hawaiting : w.service.broker.recovery = some (.consume temp found on t rest))
    (h : GraceTimers.eventStep delay w.service (.broker (.recover (.tag consumerTag))) = some service) :
    Watched
      (noteRecovery { w with service } now (.consume temp found on t rest) (.tag consumerTag)) := by
  -- The registration of a recovery, which stamps the time as well.
  have htimers := (GraceTimers.carries_event hw.timers h).current
  obtain ⟨r, hr, rfl⟩ := eventStep_recover hawaiting h
  cases hr
  have htags : ∀ t', (w.service.broker.consumerTags.insert t
      ⟨consumerTag, on.connection⟩).lookup t' =
        if t' = t then some ⟨consumerTag, on.connection⟩
        else w.service.broker.consumerTags.lookup t' :=
    fun t' => Table.lookup_insert_eq _ t t' _
  -- So nobody takes it for one of `main`'s.
  have hpos : 0 < Function.update w.lastMessageTime t (now : Nat) t := by
    rw [Function.update_self]
    exact now.pos
  have hpending : w.pending.Nodup ∧ ∀ t' ∈ w.pending, t' ∈ w.pending ∧ t' ≠ t := by
    rw [hnone]
    exact ⟨List.nodup_nil, fun _ h => absurd h List.not_mem_nil⟩
  refine hw.insert rfl htimers rfl hpending ?_ ?_ ?_ ?_ fun _ => hpos
  · intro consumer htag
    have htag := (htags t).symm.trans htag
    rw [if_pos rfl] at htag
    exact Option.some.inj htag
  · intro t' consumer ht' htag
    have htag := (htags t').symm.trans htag
    rw [if_neg ht'] at htag
    exact htag
  · intro t' ht'
    exact Function.update_of_ne ht' _ _
  · intro hmain
    cases hmain

/-- A watch that begins again changes neither. -/
theorem Watched.watchAgain (hw : Watched w) (now : Instant) :
    Watched { w with consumerWatchStartedAt := now } :=
  ⟨hw.timers, now.pos, hw.pending, hw.current, hw.untimed, hw.recovered⟩

/-- Any other step of the recovery starts the watch again at most. -/
theorem noteRecovery_watched {awaiting : RecoveryAwait} {reply : Reply} (hw : Watched w)
    (hreply : reply.issued = none) : Watched (noteRecovery w now awaiting reply) := by
  unfold noteRecovery
  split
  · cases hreply
  · split
    · exact hw.watchAgain now
    · exact hw
  · exact hw

/-- Only a call that registers a consumer is answered with a tag. -/
theorem recoveryStep_tag {s : State} {awaiting : RecoveryAwait} {consumerTag : String}
    {r : State × Option RecoveryAwait} (h : recoveryStep s awaiting (.tag consumerTag) = some r) :
    ∃ temp found on t rest, awaiting = .consume temp found on t rest := by
  cases awaiting with
  | consume temp found on t rest => exact ⟨temp, found, on, t, rest, rfl⟩
  | _ => cases h

/-- A registration of the recovery sets the time, whatever was delivered. -/
theorem watched_recover {reply : Reply} (hw : Watched w)
    (h : watchStep timeout delay w (.recover now reply) = some w') : Watched w' := by
  dsimp only [watchStep] at h
  split at h
  next hnone =>
    obtain ⟨awaiting, hawaiting, h⟩ := Option.bind_eq_some_iff.mp h
    obtain ⟨service, hservice, rfl⟩ := Option.map_eq_some_iff.mp h
    cases hreply : reply.issued with
    | none =>
      have hissues : GraceTimers.Event.issues (.broker (.recover reply)) = none := hreply
      exact noteRecovery_watched (hw.event hissues hservice) hreply
    | some consumerTag =>
      cases reply with
      | tag tag =>
        obtain ⟨r, hr, -⟩ := eventStep_recover hawaiting hservice
        obtain ⟨temp, found, on, t, rest, rfl⟩ := recoveryStep_tag hr
        exact watched_consume hw hnone hawaiting hservice
      | raised => cases hreply
      | value n => cases hreply
  next => cases h

/-- **The step lemma.** -/
theorem watched_step {e : Event} (hw : Watched w) (h : watchStep timeout delay w e = some w') :
    Watched w' := by
  -- Three events write the times or the registrations; the service's other events lose tags at most.
  cases e with
  | registered consumerTag => exact watched_register hw h
  | processed t now => exact watched_process hw h
  | check now checkDue =>
    dsimp only [watchStep] at h
    split at h
    · obtain ⟨service, hservice, rfl⟩ := Option.map_eq_some_iff.mp h
      exact hw.event rfl hservice
    · cases h
  | recover now reply => exact watched_recover hw h
  | service event =>
    dsimp only [watchStep] at h
    split at h
    · cases h
    next hother =>
      obtain ⟨service, hservice, rfl⟩ := Option.map_eq_some_iff.mp h
      apply hw.event _ hservice
      unfold GraceTimers.Event.issues
      split
      · exact absurd rfl hother
      · rfl

end Steps

/-! ## Runs -/

/-- **A silent stream is reported when it has lost its consumer, or its consumer is still the one `main`
    registered.**  A recovery that registers a consumer hides the stream: it sets the time that only a
    record should. -/
theorem silent_stream_reported_iff (timeout delay : Nat) (channel : Channel) (now₀ now : Instant)
    (events : List Event) (w : Watch) (t : DataType)
    (hrun : run (watchStep timeout delay) (start channel now₀) events = some w)
    (hsilent : Silent timeout w now t) :
    t ∈ alarmTypes timeout w now ↔
      ∀ consumer, w.service.broker.consumerTags.lookup t = some consumer →
        ∃ registration, w.registrations.lookup t = some registration ∧
          registration.consumer = consumer ∧ registration.recovered = false := by
  -- What is known of every run: registrations tell of the tags that are there, and times of the
  -- registrations.
  have hw : Watched w :=
    run_invariant (fun _ _ _ hw h => watched_step hw h) (watched_start channel now₀) hrun
  rw [mem_alarmTypes_iff hw.watch hsilent]
  constructor
  · -- A recovered registration has set the time, so only the tag's loss would be reported.
    intro halarm consumer htag
    have hmem := Finmap.mem_of_lookup_eq_some htag
    obtain ⟨registration, hlookup, hconsumer⟩ := hw.current t consumer htag
    refine ⟨registration, hlookup, hconsumer, ?_⟩
    rcases halarm with hnot | hzero
    · exact absurd hmem hnot
    · by_contra hrecovered
      have hpos := hw.recovered t registration hlookup (eq_true_of_ne_false hrecovered)
      omega
  · -- One of `main`'s has left the time at zero, and no record has come since.
    intro hmain
    by_cases hmem : t ∈ w.service.broker.consumerTags
    · right
      obtain ⟨consumer, htag⟩ := Finmap.mem_iff.mp hmem
      obtain ⟨registration, hlookup, -, hfirst⟩ := hmain consumer htag
      apply hw.untimed
      intro registration' hlookup'
      obtain rfl := Option.some.inj (hlookup.symm.trans hlookup')
      exact ⟨hfirst, hsilent.unprocessed hmem registration hlookup⟩
    · exact .inl hmem

/-- `Silent`, when the type's last registration is known. -/
theorem Silent.of_registration {timeout : Nat} {w : Watch} {now : Instant} {t : DataType}
    {registration : Registration} (hlookup : w.registrations.lookup t = some registration)
    (hprocessed : registration.processed = false) (hknown : t ∈ MUSICBRAINZ_DATA_TYPES)
    (hincomplete : t ∉ w.service.broker.completedFiles)
    (hsiblings : ∀ t' ∈ MUSICBRAINZ_DATA_TYPES, t' ≠ t → t' ∈ w.service.broker.completedFiles)
    (hgrace : w.consumerWatchStartedAt + timeout ≤ now) : Silent timeout w now t := by
  refine ⟨hknown, hincomplete, hsiblings, hgrace, ?_⟩
  intro _ registration' hlookup'
  obtain rfl := Option.some.inj (hlookup.symm.trans hlookup')
  exact hprocessed

/-- `main` registers the consumers, and the files of these types complete. -/
def fourConsumers (completing : List DataType) : List Event :=
  MUSICBRAINZ_DATA_TYPES.map (fun t => .registered ("ctag1." ++ t)) ++
    completing.map fun t => .service (.broker (.deliver t .fileComplete))

/-- The release groups have a consumer, have seen no record, and are reported. -/
theorem silent_from_the_start_is_reported :
    ∃ w, run (watchStep 30 300) (start ⟨1, 1⟩ 100)
          (fourConsumers ["artists", "labels", "releases"]) = some w ∧
      "release-groups" ∈ w.service.broker.consumerTags ∧
      "release-groups" ∈ alarmTypes 30 w 300 := by
  -- The four registrations are `main`'s, and three types have completed.
  have hrun : ((run (watchStep 30 300) (start ⟨1, 1⟩ 100)
      (fourConsumers ["artists", "labels", "releases"])).map fun w =>
        decide (w.registrations.lookup "release-groups" =
            some ⟨⟨"ctag1.release-groups", 1⟩, false, false⟩ ∧
          "release-groups" ∉ w.service.broker.completedFiles ∧
          (∀ t' ∈ MUSICBRAINZ_DATA_TYPES, t' ≠ "release-groups" →
            t' ∈ w.service.broker.completedFiles) ∧
          w.consumerWatchStartedAt = 100 ∧
          w.service.broker.consumerTags.lookup "release-groups" =
            some ⟨"ctag1.release-groups", 1⟩)) = some true := by
    decide +kernel
  obtain ⟨w, hw, hrun⟩ := Option.map_eq_some_iff.mp hrun
  obtain ⟨hlookup, hincomplete, hsiblings, hstarted, htag⟩ := of_decide_eq_true hrun
  have hsilent : Silent 30 w 300 "release-groups" := by
    apply Silent.of_registration hlookup rfl (by decide) hincomplete hsiblings
    rw [hstarted]
    decide
  refine ⟨w, hw, Finmap.mem_of_lookup_eq_some htag, ?_⟩
  apply (silent_stream_reported_iff 30 300 ⟨1, 1⟩ 100 300 _ w "release-groups" hw hsilent).mpr
  intro consumer hconsumer
  exact ⟨_, hlookup, Option.some.inj (htag.symm.trans hconsumer), rfl⟩

/-- The artists complete, the cancellation of their consumer fails, and the recovery it calls for finds
    release groups waiting; the labels and the releases complete after it. -/
def afterRecovery : List Event :=
  fourConsumers ["artists"] ++
    [.service (.broker (.timer 0 .answered)), .service (.broker (.timer 0 .raised)),
      .check 200 false] ++
    [0, 0, 2, 1, 0, 0, 3, 0, 0].map (fun n => .recover 200 (.value n)) ++
    List.replicate 24 (.recover 200 (.value 0)) ++
    MUSICBRAINZ_DATA_TYPES.map (fun t => .recover 200 (.tag ("ctag2." ++ t))) ++
    ["labels", "releases"].map fun t => .service (.broker (.deliver t .fileComplete))

/-- The release groups' new consumer is silent, and is not reported. -/
theorem afterRecovery_hides_a_silent_stream :
    ∃ w, run (watchStep 30 300) (start ⟨1, 1⟩ 100) afterRecovery = some w ∧
      Silent 30 w 300 "release-groups" ∧ "release-groups" ∉ alarmTypes 30 w 300 := by
  have hrun : ((run (watchStep 30 300) (start ⟨1, 1⟩ 100) afterRecovery).map fun w =>
      decide (w.registrations.lookup "release-groups" =
          some ⟨⟨"ctag2.release-groups", 2⟩, true, false⟩ ∧
        "release-groups" ∉ w.service.broker.completedFiles ∧
        (∀ t' ∈ MUSICBRAINZ_DATA_TYPES, t' ≠ "release-groups" →
          t' ∈ w.service.broker.completedFiles) ∧
        w.consumerWatchStartedAt = 200 ∧ "release-groups" ∉ alarmTypes 30 w 300)) = some true := by
    decide +kernel
  obtain ⟨w, hw, hrun⟩ := Option.map_eq_some_iff.mp hrun
  obtain ⟨hlookup, hincomplete, hsiblings, hstarted, halarm⟩ := of_decide_eq_true hrun
  refine ⟨w, hw, ?_, halarm⟩
  apply Silent.of_registration hlookup rfl (by decide) hincomplete hsiblings
  rw [hstarted]
  decide

end Alarm

end Broker

/-
  The link-event ledger replays the stored link.

  A history of committed messages, of any kinds and for any MBIDs, writes events to
  `public.identity_link_events` in the statement that upserts the entity row.  For one kind and one
  MBID the events are exactly the CHANGES (`Lib.Changes`) of the Discogs ids its messages carried.

  Two facts make that an induction over the history:

  * an upsert compares the id it stores with the one the row held, so one message adds one event
    when they differ and none when they do not;
  * the transactions for one MBID do not overlap, so their `NOW()` values increase with their
    commits and the idempotence key, which holds `event_at`, never suppresses an event.

  The second fact is used at one place (`handle_own`), and is easy to overlook there.  Without it a
  later message that starts at the same instant, and changes the id back and forth between the same
  two values, would find its event's key taken: the insert would do nothing, and the ledger would
  skip a change.  What the invariant has to know for it is only that every event is dated by an
  earlier message's start.

  Events of other kinds and MBIDs stand between these in one list.  They are filtered out rather
  than reasoned about: a message for another row changes neither the filtered list nor the row
  (`handle_other`).
-/
import MusicBrainzLoader.Lib.Changes
import MusicBrainzLoader.Lib.Runs
import MusicBrainzLoader.Records.Process

namespace Records

/-! ## Histories of messages -/

/-- A message and its transaction: `NOW()` is the transaction's start. -/
structure Message where
  kind : EntityKind
  record : Json
  start : Instant
  commit : Instant

/-- A message's transaction, committed. -/
def handle (ext : Externals) (refresh : Bool) (db : Database) (m : Message) : Option Database :=
  process ext m.kind refresh m.record m.start db

/-- The database after a history of committed messages, in the order of their commits. -/
def afterMessages (ext : Externals) (refresh : Bool) : Database → List Message → Option Database :=
  Runs.run (handle ext refresh)

/-- The message writes the row of this kind and MBID. -/
def Message.names (ext : Externals) (kind : EntityKind) (id : Uuid) (m : Message) : Bool :=
  m.kind = kind ∧ ext.casts.uuid (mbid m.record) = some id

/-- The Discogs ids the messages for one kind and MBID carried, in order. -/
def idHistory (ext : Externals) (kind : EntityKind) (id : Uuid) (messages : List Message) :
    List (Option Int) :=
  (messages.filter (Message.names ext kind id)).map fun m =>
    (ext.casts.bigint (m.record.get kind.discogsColumn)).getD none

/-- The events loads recorded for one kind and MBID. -/
def loadEvents (kind : EntityKind) (id : Uuid) (events : List LinkEvent) : List LinkEvent :=
  events.filter fun e => e.datedFrom = "groovemap_load" ∧ e.provider = "musicbrainz" ∧
    e.entityKind = kind.identityKind ∧ e.externalId = id

/-- The transactions commit in the order of the list, and those for one kind and MBID neither
    overlap nor start at one instant. -/
structure Serial (ext : Externals) (kind : EntityKind) (id : Uuid) (messages : List Message) : Prop where
  started : ∀ m ∈ messages, m.start ≤ m.commit
  ordered : messages.Pairwise fun m m' => m.commit < m'.commit
  disjoint : (messages.filter (Message.names ext kind id)).Pairwise fun m m' =>
    (m.commit ≤ m'.start ∨ m'.commit ≤ m.start) ∧ m.start ≠ m'.start

/-- **The ledger replays the stored link**: the events are the changes of the id history, dated in
    order, and each is of the kind its two ids make it. -/
structure Replays (history : List (Option Int)) (stored : Option (Option Int))
    (events : List LinkEvent) : Prop where
  /-- One event per change, none for a repeated id, none lost. -/
  changes : events.map (fun e => (e.discogsIdBefore, e.discogsIdAfter)) = Changes.changes history
  /-- The list is in `event_at` order. -/
  dated : events.Pairwise fun e e' => e.eventAt < e'.eventAt
  differ : ∀ e ∈ events, e.discogsIdBefore ≠ e.discogsIdAfter
  added : ∀ e ∈ events, e.event = .linkAdded ↔ e.discogsIdBefore = none
  removed : ∀ e ∈ events, e.event = .linkRemoved ↔ e.discogsIdBefore ≠ none ∧ e.discogsIdAfter = none
  changed : ∀ e ∈ events, e.event = .linkChanged ↔
    e.discogsIdBefore ≠ none ∧ e.discogsIdAfter ≠ none
  /-- Each event starts from the id the one before left. -/
  chain : events.IsChain fun e e' => e.discogsIdAfter = e'.discogsIdBefore
  /-- The chain starts at the id the first message stored. -/
  first : ∀ e ∈ events.head?, history.head? = some e.discogsIdBefore
  /-- The chain ends at the id stored now. -/
  last : ∀ e ∈ events.getLast?, stored = some e.discogsIdAfter
  /-- No event: every message carried the id stored now. -/
  unchanged : events = [] → ∀ discogsId ∈ history, stored = some discogsId

/-! ## What one message does -/

/-- The event of a change, field by field. -/
theorem linkEvent_eq_some {kind : EntityKind} {id : Uuid} {old : Option EntityRow}
    {after : Option Int} {ref : String} {now : Instant} {e : LinkEvent} :
    linkEvent kind id old after ref now = some e ↔
      ∃ row, old = some row ∧ row.discogsId ≠ after ∧
        e = ⟨"musicbrainz", kind.identityKind, id, linkEventKind row.discogsId after,
          row.discogsId, after, now, "groovemap_load", ref⟩ := by
  cases old with
  | none => simp [linkEvent]
  | some row =>
    by_cases h : row.discogsId = after
    · simp [linkEvent, h]
    · simp only [linkEvent, if_neg h]
      constructor
      · intro heq
        obtain rfl := Option.some.inj heq
        exact ⟨row, rfl, h, rfl⟩
      · rintro ⟨row', hrow, -, rfl⟩
        cases hrow
        rfl

/-- An event for another kind or MBID is none of this one's. -/
theorem loadEvents_insert_other {kind : EntityKind} {id : Uuid} {events : List LinkEvent}
    {e : LinkEvent} (h : ¬ (e.entityKind = kind.identityKind ∧ e.externalId = id)) :
    loadEvents kind id (insertLinkEvent events (some e)) = loadEvents kind id events := by
  show loadEvents kind id (if ∃ e' ∈ events, e'.sameKey e then events else events ++ [e]) = _
  split
  · rfl
  · rw [loadEvents, List.filter_append, List.filter_singleton]
    have hout : ¬ (e.datedFrom = "groovemap_load" ∧ e.provider = "musicbrainz" ∧
        e.entityKind = kind.identityKind ∧ e.externalId = id) := fun hall => h hall.2.2
    simp only [hout, decide_false, cond_false, List.append_nil]
    rfl

/-- A new event for this kind and MBID is added, unless the ledger already holds its key. -/
theorem loadEvents_insert_own {kind : EntityKind} {id : Uuid} {events : List LinkEvent}
    {e : LinkEvent} (hdated : e.datedFrom = "groovemap_load") (hprovider : e.provider = "musicbrainz")
    (hkind : e.entityKind = kind.identityKind) (hid : e.externalId = id)
    (hnew : ∀ e' ∈ loadEvents kind id events, e'.eventAt ≠ e.eventAt) :
    loadEvents kind id (insertLinkEvent events (some e)) = loadEvents kind id events ++ [e] := by
  have habsent : ¬ ∃ e' ∈ events, e'.sameKey e := by
    rintro ⟨e', he', h1, -, h3, h4, h5, -, h7⟩
    refine hnew e' (List.mem_filter.mpr ⟨he', ?_⟩) h7
    simp [h1, h3, h4, h5, hdated, hprovider, hkind, hid]
  show loadEvents kind id (if ∃ e' ∈ events, e'.sameKey e then events else events ++ [e]) = _
  rw [if_neg habsent, loadEvents, List.filter_append, List.filter_singleton]
  simp [hdated, hprovider, hkind, hid, loadEvents]

section Step

variable {ext : Externals} {refresh : Bool} {db db' : Database} {m : Message} {kind : EntityKind}
  {id : Uuid}

/-- The entity table and the ledger after a message, by the row it writes. -/
theorem handle_spec (h : handle ext refresh db m = some db') :
    ∃ mbid' discogsId row, ext.casts.uuid (mbid m.record) = some mbid' ∧
      ext.casts.bigint (m.record.get m.kind.discogsColumn) = some discogsId ∧
      row.discogsId = discogsId ∧
      db'.entities = Function.update db.entities m.kind ((db.entities m.kind).insert mbid' row) ∧
      db'.linkEvents = insertLinkEvent db.linkEvents
        (linkEvent m.kind mbid' ((db.entities m.kind).lookup mbid') discogsId
          (sourceRef m.record) m.start) := by
  obtain ⟨pl, aliases, hpl, -, rfl⟩ := process_eq_some.mp h
  obtain ⟨rels, links, -, -, -, hid, -, hdis, -⟩ := plan_eq_some.mp hpl
  exact ⟨pl.mbid, pl.discogsId, _, hid, hdis, rfl, rfl, rfl⟩

/-- A message for another row leaves this one and its events alone. -/
theorem handle_other (h : handle ext refresh db m = some db') (hm : m.names ext kind id = false) :
    (db'.entities kind).lookup id = (db.entities kind).lookup id ∧
      loadEvents kind id db'.linkEvents = loadEvents kind id db.linkEvents := by
  obtain ⟨mbid', discogsId, row, hmbid, -, -, hent, hev⟩ := handle_spec h
  -- The message is of another kind, or of another MBID of this kind.
  have hne : ¬ (m.kind = kind ∧ mbid' = id) := by
    rintro ⟨hk, rfl⟩
    simp [Message.names, hk, hmbid] at hm
  constructor
  · rw [hent]
    -- Of this kind: the row written is another's.
    by_cases hk : kind = m.kind
    · subst hk
      have hid : id ≠ mbid' := fun heq => hne ⟨rfl, heq.symm⟩
      rw [Function.update_self, Finmap.lookup_insert_of_ne _ hid]
    · rw [Function.update_of_ne hk]
  -- Its event, if there is one, is of the other entity.
  · rw [hev]
    cases hl : linkEvent m.kind mbid' ((db.entities m.kind).lookup mbid') discogsId
        (sourceRef m.record) m.start with
    | none => rfl
    | some e =>
      obtain ⟨old, -, -, rfl⟩ := linkEvent_eq_some.mp hl
      refine loadEvents_insert_other ?_
      rintro ⟨hk, hid⟩
      exact hne ⟨identityKind_injective hk, hid⟩

/-- A message for this row stores its id, and adds the event of the change if there was one: the
    backstop finds no earlier event at this instant. -/
theorem handle_own (h : handle ext refresh db m = some db') (hm : m.names ext kind id = true)
    (hfresh : ∀ e ∈ loadEvents kind id db.linkEvents, e.eventAt < m.start) :
    ∃ discogsId, ext.casts.bigint (m.record.get kind.discogsColumn) = some discogsId ∧
      ((db'.entities kind).lookup id).map (·.discogsId) = some discogsId ∧
      loadEvents kind id db'.linkEvents = loadEvents kind id db.linkEvents ++
        (linkEvent kind id ((db.entities kind).lookup id) discogsId (sourceRef m.record) m.start).toList := by
  obtain ⟨mbid', discogsId, row, hmbid, hdis, hrow, hent, hev⟩ := handle_spec h
  obtain ⟨rfl, hid⟩ : m.kind = kind ∧ ext.casts.uuid (mbid m.record) = some id := by
    simpa [Message.names] using hm
  obtain rfl : mbid' = id := Option.some.inj (hmbid.symm.trans hid)
  refine ⟨discogsId, hdis, ?_, ?_⟩
  · rw [hent, Function.update_self, Finmap.lookup_insert, Option.map_some, hrow]
  · rw [hev]
    cases hl : linkEvent m.kind mbid' ((db.entities m.kind).lookup mbid') discogsId
        (sourceRef m.record) m.start with
    | none => simp [insertLinkEvent]
    | some e =>
      obtain ⟨old, -, -, rfl⟩ := linkEvent_eq_some.mp hl
      exact loadEvents_insert_own rfl rfl rfl rfl fun e' he' => (hfresh e' he').ne

end Step

/-! ## Whole histories -/

/-- What a history keeps: the stored id is the last one carried, the events are the changes of the
    history, and each is dated by one of its messages. -/
structure LedgerInv (ext : Externals) (kind : EntityKind) (id : Uuid) (messages : List Message)
    (db : Database) : Prop where
  stored : ((db.entities kind).lookup id).map (·.discogsId) =
    (idHistory ext kind id messages).getLast?
  changes : (loadEvents kind id db.linkEvents).map (fun e => (e.discogsIdBefore, e.discogsIdAfter)) =
    Changes.changes (idHistory ext kind id messages)
  kinds : ∀ e ∈ loadEvents kind id db.linkEvents,
    e.event = linkEventKind e.discogsIdBefore e.discogsIdAfter
  dated : ∀ e ∈ loadEvents kind id db.linkEvents,
    ∃ m ∈ messages.filter (Message.names ext kind id), e.eventAt = m.start
  increasing : (loadEvents kind id db.linkEvents).Pairwise fun e e' => e.eventAt < e'.eventAt

variable {ext : Externals} {refresh : Bool} {db db' : Database} {kind : EntityKind} {id : Uuid}
  {messages : List Message} {m : Message}

theorem ledgerInv_init (hrow : (db.entities kind).lookup id = none)
    (hevents : loadEvents kind id db.linkEvents = []) : LedgerInv ext kind id [] db where
  stored := by rw [hrow]; rfl
  changes := by rw [hevents]; rfl
  kinds := by rw [hevents]; simp
  dated := by rw [hevents]; simp
  increasing := by rw [hevents]; exact List.Pairwise.nil

/-- Earlier transactions for the same row started earlier. -/
theorem Serial.start_lt (h : Serial ext kind id (messages ++ [m])) (hm : m.names ext kind id = true)
    {m' : Message} (hm' : m' ∈ messages.filter (Message.names ext kind id)) : m'.start < m.start := by
  obtain ⟨hmem, -⟩ := List.mem_filter.mp hm'
  have hcommit : m'.commit < m.commit :=
    (List.pairwise_append.mp h.ordered).2.2 m' hmem m (List.mem_singleton_self m)
  have hdisjoint := h.disjoint
  rw [List.filter_append, List.filter_singleton, hm, cond_true, List.pairwise_append] at hdisjoint
  obtain ⟨hsep, hne⟩ := hdisjoint.2.2 m' hm' m (List.mem_singleton_self m)
  have hstarted := h.started m' (List.mem_append_left _ hmem)
  rcases hsep with hsep | hsep
  · exact lt_of_le_of_ne (hstarted.trans hsep) hne
  · exact absurd (hcommit.trans_le (hsep.trans hstarted)) (lt_irrefl _)

/-- One more message keeps the invariant. -/
theorem ledgerInv_step (h : LedgerInv ext kind id messages db)
    (hserial : Serial ext kind id (messages ++ [m])) (hstep : handle ext refresh db m = some db') :
    LedgerInv ext kind id (messages ++ [m]) db' := by
  -- A message about another entity leaves row and events alone, and is not counted in the history.
  cases hm : m.names ext kind id with
  | false =>
    obtain ⟨hrow, hevents⟩ := handle_other hstep hm
    have hfilter : (messages ++ [m]).filter (Message.names ext kind id) =
        messages.filter (Message.names ext kind id) := by
      rw [List.filter_append, List.filter_singleton, hm, cond_false, List.append_nil]
    have hhist : idHistory ext kind id (messages ++ [m]) = idHistory ext kind id messages := by
      rw [idHistory, hfilter]
      rfl
    exact ⟨by rw [hrow, hhist]; exact h.stored, by rw [hevents, hhist]; exact h.changes,
      by rw [hevents]; exact h.kinds, by rw [hevents, hfilter]; exact h.dated,
      by rw [hevents]; exact h.increasing⟩
  | true =>
    -- Messages of one entity start one after the other, so the new event is later than all there are.
    have hearlier : ∀ e ∈ loadEvents kind id db.linkEvents, e.eventAt < m.start := by
      intro e he
      obtain ⟨m', hm', hat⟩ := h.dated e he
      rw [hat]
      exact hserial.start_lt hm hm'
    obtain ⟨discogsId, hdis, hstored, hevents⟩ := handle_own hstep hm hearlier
    have hfilter : (messages ++ [m]).filter (Message.names ext kind id) =
        messages.filter (Message.names ext kind id) ++ [m] := by
      rw [List.filter_append, List.filter_singleton, hm, cond_true]
    have hhist : idHistory ext kind id (messages ++ [m]) =
        idHistory ext kind id messages ++ [discogsId] := by
      rw [idHistory, hfilter, List.map_append, List.map_singleton, hdis]
      rfl
    refine ⟨?_, ?_, ?_, ?_, ?_⟩
    · rw [hstored, hhist, List.getLast?_concat]
    -- One more id in the history is one more change, if it differs from the last.
    · rw [hevents, hhist, List.map_append, h.changes]
      have hold := h.stored
      rcases List.eq_nil_or_concat (idHistory ext kind id messages) with hnil | ⟨hist, last, hlast⟩
      · -- The first message: there was no row, so there is no event.
        rw [hnil] at hold ⊢
        have hnone : (db.entities kind).lookup id = none := Option.map_eq_none_iff.mp hold
        rw [hnone]
        rfl
      · rw [List.concat_eq_append] at hlast
        rw [hlast, Changes.changes_concat]
        rw [hlast, List.getLast?_concat] at hold
        obtain ⟨row, hrow, hrowId⟩ := Option.map_eq_some_iff.mp hold
        -- The row holds the last id, so the guard of the event compares the same two.
        rw [hrow, linkEvent, hrowId]
        split <;> rfl
    all_goals rw [hevents]
    · intro e he
      rcases List.mem_append.mp he with he | he
      · exact h.kinds e he
      · obtain ⟨row, -, -, rfl⟩ := linkEvent_eq_some.mp (Option.mem_toList.mp he)
        rfl
    · intro e he
      rw [hfilter]
      rcases List.mem_append.mp he with he | he
      · obtain ⟨m', hm', hat⟩ := h.dated e he
        exact ⟨m', List.mem_append_left _ hm', hat⟩
      · obtain ⟨row, -, -, rfl⟩ := linkEvent_eq_some.mp (Option.mem_toList.mp he)
        exact ⟨m, List.mem_append_right _ (List.mem_singleton_self m), rfl⟩
    -- The new event comes last.
    · rw [List.pairwise_append]
      refine ⟨h.increasing, ?_, fun e he e' he' => ?_⟩
      · cases linkEvent kind id ((db.entities kind).lookup id) discogsId (sourceRef m.record) m.start
        · exact List.Pairwise.nil
        · exact List.pairwise_singleton _ _
      · obtain ⟨row, -, -, rfl⟩ := linkEvent_eq_some.mp (Option.mem_toList.mp he')
        exact hearlier e he

theorem ledgerInv_run (hrow : (db.entities kind).lookup id = none)
    (hevents : loadEvents kind id db.linkEvents = []) (hserial : Serial ext kind id messages)
    (hrun : afterMessages ext refresh db messages = some db') :
    LedgerInv ext kind id messages db' := by
  induction messages using List.reverseRecOn generalizing db' with
  | nil =>
    obtain rfl := Option.some.inj hrun
    exact ledgerInv_init hrow hevents
  | append_singleton messages m ih =>
    obtain ⟨d, hd, hstep⟩ := Runs.run_concat.mp hrun
    have hprefix : Serial ext kind id messages := by
      refine ⟨fun m' hm' => hserial.started m' (List.mem_append_left _ hm'),
        (List.pairwise_append.mp hserial.ordered).1, ?_⟩
      have hdisjoint := hserial.disjoint
      rw [List.filter_append] at hdisjoint
      exact (List.pairwise_append.mp hdisjoint).1
    exact ledgerInv_step (ih hprefix hd) hserial hstep

/-- An event's kind is the one its two ids make it. -/
theorem linkEventKind_iff (before after : Option Int) :
    (linkEventKind before after = .linkAdded ↔ before = none) ∧
    (linkEventKind before after = .linkRemoved ↔ before ≠ none ∧ after = none) ∧
    (linkEventKind before after = .linkChanged ↔ before ≠ none ∧ after ≠ none) := by
  cases before <;> cases after <;> simp [linkEventKind]

theorem LedgerInv.replays (h : LedgerInv ext kind id messages db) :
    Replays (idHistory ext kind id messages) (((db.entities kind).lookup id).map (·.discogsId))
      (loadEvents kind id db.linkEvents) where
  changes := h.changes
  dated := h.increasing
  differ := by
    intro e he
    have hmem := List.mem_map_of_mem (f := fun e => (e.discogsIdBefore, e.discogsIdAfter)) he
    rw [h.changes] at hmem
    exact Changes.changes_ne hmem
  added := fun e he => by rw [h.kinds e he]; exact (linkEventKind_iff _ _).1
  removed := fun e he => by rw [h.kinds e he]; exact (linkEventKind_iff _ _).2.1
  changed := fun e he => by rw [h.kinds e he]; exact (linkEventKind_iff _ _).2.2
  chain := by
    have hchain := Changes.changes_isChain (idHistory ext kind id messages)
    rw [← h.changes, List.isChain_map] at hchain
    exact hchain
  first := by
    intro e he
    cases hhist : idHistory ext kind id messages with
    | nil =>
      have hnil := h.changes
      rw [hhist] at hnil
      rw [List.map_eq_nil_iff.mp hnil] at he
      cases he
    | cons discogsId rest =>
      cases hev : loadEvents kind id db.linkEvents with
      | nil => rw [hev] at he; cases he
      | cons e' es =>
        rw [hev] at he
        obtain rfl := Option.some.inj he
        have hcons := h.changes
        rw [hev, hhist, List.map_cons] at hcons
        exact congrArg some (Changes.changes_head hcons.symm).symm
  last := by
    intro e he
    rw [h.stored]
    refine Changes.changes_getLast (p := (e.discogsIdBefore, e.discogsIdAfter)) ?_
    rw [← h.changes, List.getLast?_map, he]
    rfl
  unchanged := by
    intro hnil discogsId hmem
    have hchanges := h.changes
    rw [hnil] at hchanges
    cases hhist : idHistory ext kind id messages with
    | nil => rw [hhist] at hmem; cases hmem
    | cons first rest =>
      rw [hhist] at hmem hchanges
      have hall := Changes.changes_eq_nil hchanges.symm
      rw [h.stored, hhist, List.getLast?_eq_some_getLast (List.cons_ne_nil first rest),
        hall _ (List.getLast_mem _), hall discogsId hmem]

/-- **The link-event ledger replays the stored link**, for every history of committed messages that
    starts from no row and no load event for the kind and MBID, and whose transactions for them are
    serial. -/
theorem ledger_replays_the_stored_link (ext : Externals) (refresh : Bool) (db db' : Database)
    (messages : List Message) (kind : EntityKind) (id : Uuid)
    (hrow : (db.entities kind).lookup id = none)
    (hevents : loadEvents kind id db.linkEvents = []) (hserial : Serial ext kind id messages)
    (hrun : afterMessages ext refresh db messages = some db') :
    Replays (idHistory ext kind id messages) (((db'.entities kind).lookup id).map (·.discogsId))
      (loadEvents kind id db'.linkEvents) :=
  (ledgerInv_run hrow hevents hserial hrun).replays

/-- An artist that gains, changes and keeps its Discogs link. -/
def relinkedArtist : List Message :=
  let id : Json := .str "5b1c7e0a-2f4d-4a6b-8c3e-9d0f1a2b3c4d"
  [⟨.artist, .obj [("id", id)], 1, 2⟩,
    ⟨.artist, .obj [("discogs_artist_id", .int 7), ("id", id)], 3, 4⟩,
    ⟨.artist, .obj [("discogs_artist_id", .int 9), ("id", id)], 5, 6⟩,
    ⟨.artist, .obj [("discogs_artist_id", .int 9), ("id", id)], 7, 8⟩]

theorem ledger_replays_a_relinked_artist :
    ∃ db, afterMessages sampleExternals true {} relinkedArtist = some db ∧
      Replays (idHistory sampleExternals .artist "5b1c7e0a-2f4d-4a6b-8c3e-9d0f1a2b3c4d" relinkedArtist)
        (((db.entities .artist).lookup "5b1c7e0a-2f4d-4a6b-8c3e-9d0f1a2b3c4d").map (·.discogsId))
        (loadEvents .artist "5b1c7e0a-2f4d-4a6b-8c3e-9d0f1a2b3c4d" db.linkEvents) := by
  have hrun : (afterMessages sampleExternals true {} relinkedArtist).isSome = true := by
    decide +kernel
  obtain ⟨db, hdb⟩ := Option.isSome_iff_exists.mp hrun
  have hserial : Serial sampleExternals .artist "5b1c7e0a-2f4d-4a6b-8c3e-9d0f1a2b3c4d"
      relinkedArtist := ⟨by decide +kernel, by decide +kernel, by decide +kernel⟩
  exact ⟨db, hdb, ledger_replays_the_stored_link sampleExternals true {} db relinkedArtist .artist _
    rfl rfl hserial hdb⟩

end Records

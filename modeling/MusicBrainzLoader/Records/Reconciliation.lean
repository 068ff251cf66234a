/-
  The reconciliation end to end: an import, and the purge that follows it.

  * **The import** — any number of records, in transactions whose statements interleave in any
    order.  The two child tables are written by upserts alone, so what a statement does to one key is
    to stamp it with its transaction's `NOW()`; the identity calls in between write other tables.  Hence
    the invariant of a run is about one key at a time (`Runs.run_writes`): stamped at or after the
    boundary if some statement wrote it, as it was before if none did.
  * **The purge** — `purgeOn` drives one call against the tables.  A call that returns has, for each
    table in turn, deleted the rows older than its boundary, or refused the table; whether it refused is
    stated as the share of stale rows (`staleFraction`) against the cap.
  * **The two together** — the rows left are those of the keys the records carry (`Records.Carried`).

  The import is not a sequence of records.  The statements of many transactions run in some order,
  each transaction's own in sequence, and the rows of one key may be written by several of them, in
  any order and more than once.  Following the tables through that would need the order; but a stamp
  at or after the boundary is replaced by a stamp at or after the boundary, so what a key comes to
  only depends on whether anything wrote it, and that is a fact about the set of statements
  (`importAll_events`), which is the set of the records' statements whatever the interleaving.

  For a key nobody carries the other half is needed: its row is as it was, and that is before the
  boundary by assumption.  So the delete, which looks at the stamp and knows nothing of the records,
  separates the two.

  The counts come first and the cap is decided on them, table by table.  The first table's delete
  could change the second one's counts only by writing it, and it does not (`reconcileTable_frame`).
-/
import MusicBrainzLoader.Lib.Interleaving
import MusicBrainzLoader.Lib.Runs
import MusicBrainzLoader.Purge.Calls
import MusicBrainzLoader.Records.Carried
import MusicBrainzLoader.Records.Process

namespace Records

open Purge (ChildTable PurgeAwait PurgeCall PurgeConfig StaleChildRowPurge)

/-! ## The import -/

/-- A record's transaction: the statements it sends, whatever native id it was given. -/
structure Transaction (ext : Externals) where
  kind : EntityKind
  record : Json
  /-- Its `NOW()`. -/
  now : Instant
  gmItemId : Option Item
  statements : List Statement
  sends : recordStatements ext kind record gmItemId = some statements

/-- Everything a transaction sends, each statement with the transaction's `NOW()`. -/
def Transaction.events {ext : Externals} (tx : Transaction ext) : List (Instant × Statement) :=
  (firstLock tx.kind tx.record ++ tx.statements).map fun statement => (tx.now, statement)

/-- A committed `process` call is such a transaction, and leaves the child tables as its statements
    do. -/
theorem process_transaction {ext : Externals} {kind : EntityKind} {record : Json} {now : Instant}
    {db db' : Database} (h : process ext kind true record now db = some db') :
    ∃ (tx : Transaction ext) (d : Database), tx.kind = kind ∧ tx.record = record ∧ tx.now = now ∧
      execAll ext.casts true now { db with aliases := (recordIdentity ext kind db.aliases record).1 }
        (firstLock kind record ++ tx.statements) = some d ∧
      d.relationships = db'.relationships ∧ d.externalLinks = db'.externalLinks := by
  obtain ⟨pl, aliases, hpl, -, rfl⟩ := process_eq_some.mp h
  let gm := (recordIdentity ext kind db.aliases record).2
  let d : Database := { db with aliases := (recordIdentity ext kind db.aliases record).1 }
  have hexec : ∃ statements, recordStatements ext kind record gm = some statements ∧
      execAll ext.casts true now d statements =
        some (pl.apply kind true now (sourceRef record) gm d.aliases d) :=
    execAll_recordStatements.mpr ⟨pl, hpl, rfl⟩
  obtain ⟨statements, hstatements, hrun⟩ := hexec
  refine ⟨⟨kind, record, now, gm, statements, hstatements⟩,
    pl.apply kind true now (sourceRef record) gm d.aliases d, rfl, rfl, rfl, ?_, rfl, rfl⟩
  exact execAll_append_eq_some.mpr ⟨d, execAll_firstLock _ _ _ _ _ _, hrun⟩

/-- A statement of some transaction, with the refresh enabled. -/
def execEvent (ext : Externals) (db : Database) (event : Instant × Statement) : Option Database :=
  exec ext.casts true event.1 db event.2

/-- The transactions, interleaved as the picks say, on one database. -/
def importAll (ext : Externals) (picks : List Nat) (txs : List (Transaction ext)) (db : Database) :
    Option Database :=
  (Interleaving.interleave picks (txs.map Transaction.events)).bind fun events =>
    Runs.run (execEvent ext) db events

/-! ## The purge -/

/-- `SELECT count(*)`. -/
def Database.childTotal (db : Database) : ChildTable → Nat
  | .relationships => db.relationships.count
  | .externalLinks => db.externalLinks.count

/-- `SELECT count(*) ... WHERE updated_at < boundary`. -/
def Database.childStale (db : Database) (boundary : Instant) : ChildTable → Nat
  | .relationships => db.relationships.countWhere fun _ row => row.updatedAt < boundary
  | .externalLinks => db.externalLinks.countWhere fun _ row => row.updatedAt < boundary

/-- `DELETE ... WHERE updated_at < boundary`. -/
def Database.deleteStale (db : Database) (boundary : Instant) : ChildTable → Database
  | .relationships =>
    { db with relationships := db.relationships.deleteWhere fun _ row => row.updatedAt < boundary }
  | .externalLinks =>
    { db with externalLinks := db.externalLinks.deleteWhere fun _ row => row.updatedAt < boundary }

/-- What the database answers where a call is suspended, and what the statement leaves behind. -/
def answer (boundary : Instant) (db : Database) : PurgeAwait → Nat × Database
  | .countAll table _ => (db.childTotal table, db)
  | .countStale table _ _ => (db.childStale boundary table, db)
  | .deleteStale table _ _ _ => (db.childStale boundary table, db.deleteStale boundary table)
  | _ => (0, db)

/-- A suspended call driven to its return against the tables; `none` when an await raises, which
    rolls everything back. -/
def driveOn (cfg : PurgeConfig) (fails : PurgeAwait → Bool) :
    Nat → PurgeCall → Database → Option (Database × List (ChildTable × Nat))
  | 0, _, _ => none
  | fuel + 1, call, db =>
    if fails call.awaiting then none
    else
      let (n, db) := answer call.boundary db call.awaiting
      match Purge.resume cfg call (.value n) with
      | .suspended call => driveOn cfg fails fuel call db
      | .finished deleted => some (db, deleted)
      | .raised => none

/-- `purge`, against the tables: the object and the tables after a call that returns, and the counts
    it returns. -/
def purgeOn (cfg : PurgeConfig) (fails : PurgeAwait → Bool) (p : StaleChildRowPurge) (db : Database) :
    Option (StaleChildRowPurge × Database × List (ChildTable × Nat)) :=
  match Purge.start cfg p with
  | .vetoed _ p => some (p, db, [])
  | .raised => none
  | .suspended call =>
    (driveOn cfg fails (call.awaiting.left cfg) call db).map fun (db, deleted) =>
      (p.settle call.boundary, db, deleted)

/-! ## What a transaction writes -/

/-- The statement upserts this key of `musicbrainz.relationships`. -/
def Statement.WritesRelationship (casts : Casts) (s : Statement) (key : RelationshipKey) : Prop :=
  ∃ v, s = .upsertRelationship v ∧ casts.relationshipKey v = some key

/-- The statement upserts this key of `musicbrainz.external_links`. -/
def Statement.WritesLink (casts : Casts) (s : Statement) (key : ExternalLinkKey) : Prop :=
  ∃ v, s = .upsertExternalLink v ∧ casts.externalLinkKey v = some key

section Transaction

variable {ext : Externals} {tx : Transaction ext}

/-- Neither the lock, nor the entity upsert, nor a media statement upserts a child row. -/
theorem mem_events_child {now : Instant} {s : Statement}
    (hs : (∃ v, s = .upsertRelationship v) ∨ ∃ v, s = .upsertExternalLink v) :
    (now, s) ∈ tx.events ↔ now = tx.now ∧
      ∃ relationships links,
        relationshipRows (mbid tx.record) tx.kind.entityType
          (tx.record.getD "relations" (.arr [])) = some relationships ∧
        externalLinkRows (mbid tx.record) tx.kind.entityType
          (tx.record.getD "external_links" (.arr [])) = some links ∧
        (s ∈ relationships.map .upsertRelationship ∨ s ∈ links.map .upsertExternalLink) := by
  obtain ⟨media, rels, links, -, hrels, hlinks, hstatements⟩ := recordStatements_eq_some.mp tx.sends
  -- A child's upsert is none of the statements before the children.
  have hlock : s ∉ firstLock tx.kind tx.record := by
    unfold firstLock
    split <;> rcases hs with ⟨v, rfl⟩ | ⟨v, rfl⟩ <;> simp
  have hmedia : s ∉ media.elim [] MediaPlan.statements := by
    cases media with
    | none => exact List.not_mem_nil
    | some m => rcases hs with ⟨v, rfl⟩ | ⟨v, rfl⟩ <;> simp [MediaPlan.statements]
  have hentity : s ≠ .upsertEntity tx.kind (entityValues ext tx.kind tx.record tx.gmItemId) := by
    rcases hs with ⟨v, rfl⟩ | ⟨v, rfl⟩ <;> simp
  unfold Transaction.events
  rw [hstatements, List.mem_map]
  constructor
  -- The four parts of what is sent: the lock, the entity, its media, its children.
  · rintro ⟨s', hs', heq⟩
    obtain ⟨rfl, rfl⟩ : tx.now = now ∧ s' = s := by simpa using heq
    refine ⟨rfl, rels, links, hrels, hlinks, ?_⟩
    rcases List.mem_append.mp hs' with hs' | hs'
    · exact absurd hs' hlock
    · rcases List.mem_cons.mp hs' with hs' | hs'
      · exact absurd hs' hentity
      · rcases List.mem_append.mp hs' with hs' | hs'
        · exact absurd hs' hmedia
        · exact List.mem_append.mp hs'
  · rintro ⟨rfl, rels', links', hrels', hlinks', hmem⟩
    obtain rfl : rels = rels' := Option.some.inj (hrels.symm.trans hrels')
    obtain rfl : links = links' := Option.some.inj (hlinks.symm.trans hlinks')
    refine ⟨s, ?_, rfl⟩
    refine List.mem_append_right _ (List.mem_cons_of_mem _ (List.mem_append_right _ ?_))
    exact List.mem_append.mpr hmem

/-- A transaction writes exactly the relationship keys its record carries. -/
theorem writesRelationship_iff {key : RelationshipKey} :
    (∃ event ∈ tx.events, event.2.WritesRelationship ext.casts key) ↔
      CarriesRelationship ext.casts tx.kind tx.record key := by
  constructor
  -- From the statement back to the entry it was made of, which names a target; only an object can.
  · rintro ⟨⟨now, s⟩, hmem, v, rfl, hkey⟩
    obtain ⟨-, rels, links, hrels, -, hv⟩ := (mem_events_child (Or.inl ⟨v, rfl⟩)).mp hmem
    have hv : v ∈ rels := by
      rcases hv with hv | hv
      · simpa using hv
      · simp at hv
    obtain ⟨entries, entry, hentries, hentry, hrow⟩ := (mem_of_filtered hrels v).mp hv
    have hnames := relationshipRow_key.mp ⟨v, hrow, hkey⟩
    obtain ⟨listed, hlisted, hentry⟩ :=
      (mem_iter_getD (isObj_of_filled hnames.namesTarget)).mp ⟨entries, hentries, hentry⟩
    exact ⟨listed, entry, hlisted, hentry, hnames⟩
  -- And from the entry on: it is listed, so its row is among the rows.
  · rintro ⟨listed, entry, hlisted, hentry, hnames⟩
    obtain ⟨v, hrow, hkey⟩ := relationshipRow_key.mpr hnames
    obtain ⟨entries, hentries, hentry⟩ :=
      (mem_iter_getD (isObj_of_filled hnames.namesTarget)).mpr ⟨listed, hlisted, hentry⟩
    obtain ⟨media, rels, links, -, hrels, hlinks, -⟩ := recordStatements_eq_some.mp tx.sends
    have hv : v ∈ rels := (mem_of_filtered hrels v).mpr ⟨entries, entry, hentries, hentry, hrow⟩
    refine ⟨(tx.now, .upsertRelationship v), ?_, v, rfl, hkey⟩
    exact (mem_events_child (Or.inl ⟨v, rfl⟩)).mpr
      ⟨rfl, rels, links, hrels, hlinks, Or.inl (List.mem_map_of_mem hv)⟩

/-- A transaction writes exactly the link keys its record carries. -/
theorem writesLink_iff {key : ExternalLinkKey} :
    (∃ event ∈ tx.events, event.2.WritesLink ext.casts key) ↔
      CarriesLink ext.casts tx.kind tx.record key := by
  constructor
  -- The same for links, which name a url.
  · rintro ⟨⟨now, s⟩, hmem, v, rfl, hkey⟩
    obtain ⟨-, rels, links, -, hlinks, hv⟩ := (mem_events_child (Or.inr ⟨v, rfl⟩)).mp hmem
    have hv : v ∈ links := by
      rcases hv with hv | hv
      · simp at hv
      · simpa using hv
    obtain ⟨entries, entry, hentries, hentry, hrow⟩ := (mem_of_filtered hlinks v).mp hv
    have hnames := externalLinkRow_key.mp ⟨v, hrow, hkey⟩
    obtain ⟨listed, hlisted, hentry⟩ :=
      (mem_iter_getD (isObj_of_filled hnames.namesUrl)).mp ⟨entries, hentries, hentry⟩
    exact ⟨listed, entry, hlisted, hentry, hnames⟩
  · rintro ⟨listed, entry, hlisted, hentry, hnames⟩
    obtain ⟨v, hrow, hkey⟩ := externalLinkRow_key.mpr hnames
    obtain ⟨entries, hentries, hentry⟩ :=
      (mem_iter_getD (isObj_of_filled hnames.namesUrl)).mpr ⟨listed, hlisted, hentry⟩
    obtain ⟨media, rels, links, -, hrels, hlinks, -⟩ := recordStatements_eq_some.mp tx.sends
    have hv : v ∈ links := (mem_of_filtered hlinks v).mpr ⟨entries, entry, hentries, hentry, hrow⟩
    refine ⟨(tx.now, .upsertExternalLink v), ?_, v, rfl, hkey⟩
    exact (mem_events_child (Or.inr ⟨v, rfl⟩)).mpr
      ⟨rfl, rels, links, hrels, hlinks, Or.inr (List.mem_map_of_mem hv)⟩

/-- A statement runs at its transaction's `NOW()`. -/
theorem now_of_mem_events {event : Instant × Statement} (h : event ∈ tx.events) :
    event.1 = tx.now := by
  unfold Transaction.events at h
  obtain ⟨s, -, rfl⟩ := List.mem_map.mp h
  rfl

end Transaction

/-! ## What the import leaves in the child tables -/

section Import

variable {ext : Externals} {db db' : Database} {event : Instant × Statement}

/-- Only a relationship upsert writes the relationships. -/
theorem execEvent_relationships_frame (h : execEvent ext db event = some db')
    (hs : ∀ v, event.2 ≠ .upsertRelationship v) : db'.relationships = db.relationships := by
  obtain ⟨now, s⟩ := event
  cases s with
  | upsertRelationship v => exact absurd rfl (hs v)
  | lockReleaseMedia _ _ | upsertMediaFamily _ | upsertMedium _ _ _ | deleteReleaseMedia _ _ =>
    obtain rfl := Option.some.inj h
    rfl
  | _ =>
    obtain ⟨_, -, h⟩ := Option.bind_eq_some_iff.mp h
    obtain rfl := Option.some.inj h
    rfl

/-- Only a link upsert writes the links. -/
theorem execEvent_externalLinks_frame (h : execEvent ext db event = some db')
    (hs : ∀ v, event.2 ≠ .upsertExternalLink v) : db'.externalLinks = db.externalLinks := by
  obtain ⟨now, s⟩ := event
  cases s with
  | upsertExternalLink v => exact absurd rfl (hs v)
  | lockReleaseMedia _ _ | upsertMediaFamily _ | upsertMedium _ _ _ | deleteReleaseMedia _ _ =>
    obtain rfl := Option.some.inj h
    rfl
  | _ =>
    obtain ⟨_, -, h⟩ := Option.bind_eq_some_iff.mp h
    obtain rfl := Option.some.inj h
    rfl

/-- A statement stamps the relationship key it writes, and leaves every other one alone. -/
theorem execEvent_relationships (h : execEvent ext db event = some db') (key : RelationshipKey) :
    (event.2.WritesRelationship ext.casts key ∧
      ∃ row, db'.relationships.lookup key = some row ∧ row.updatedAt = event.1) ∨
    (¬ event.2.WritesRelationship ext.casts key ∧
      db'.relationships.lookup key = db.relationships.lookup key) := by
  by_cases hs : ∃ v, event.2 = .upsertRelationship v
  · obtain ⟨now, s⟩ := event
    obtain ⟨v, rfl⟩ : ∃ v, s = .upsertRelationship v := hs
    obtain ⟨⟨key', ended⟩, hrow, h⟩ := Option.bind_eq_some_iff.mp h
    obtain rfl := Option.some.inj h
    -- The key a row is stored under is the one cast from its values.
    have hkey : ext.casts.relationshipKey v = some key' := by
      obtain ⟨k, hk, hrest⟩ := Option.bind_eq_some_iff.mp hrow
      obtain ⟨e, -, hrest⟩ := Option.bind_eq_some_iff.mp hrest
      cases hrest
      exact hk
    -- Written, and then stamped now; or another key's row, left alone.
    by_cases hsame : key = key'
    · subst hsame
      refine Or.inl ⟨⟨v, rfl, hkey⟩, _, Table.lookup_upsert_self key _ _, ?_⟩
      simp [stamp]
    · refine Or.inr ⟨?_, Table.lookup_upsert_of_ne hsame _ _⟩
      rintro ⟨v', heq, hkey'⟩
      cases heq
      exact hsame (Option.some.inj (hkey'.symm.trans hkey))
  -- No other statement touches the relationships.
  · refine Or.inr ⟨fun ⟨v, hv, _⟩ => hs ⟨v, hv⟩, ?_⟩
    rw [execEvent_relationships_frame h fun v hv => hs ⟨v, hv⟩]

/-- A statement stamps the link key it writes, and leaves every other one alone. -/
theorem execEvent_externalLinks (h : execEvent ext db event = some db') (key : ExternalLinkKey) :
    (event.2.WritesLink ext.casts key ∧
      ∃ row, db'.externalLinks.lookup key = some row ∧ row.updatedAt = event.1) ∨
    (¬ event.2.WritesLink ext.casts key ∧
      db'.externalLinks.lookup key = db.externalLinks.lookup key) := by
  by_cases hs : ∃ v, event.2 = .upsertExternalLink v
  · obtain ⟨now, s⟩ := event
    obtain ⟨v, rfl⟩ : ∃ v, s = .upsertExternalLink v := hs
    obtain ⟨key', hkey, h⟩ := Option.bind_eq_some_iff.mp h
    obtain rfl := Option.some.inj h
    by_cases hsame : key = key'
    · subst hsame
      refine Or.inl ⟨⟨v, rfl, hkey⟩, _, Table.lookup_upsert_self key _ _, ?_⟩
      simp [stamp]
    · refine Or.inr ⟨?_, Table.lookup_upsert_of_ne hsame _ _⟩
      rintro ⟨v', heq, hkey'⟩
      cases heq
      exact hsame (Option.some.inj (hkey'.symm.trans hkey))
  · refine Or.inr ⟨fun ⟨v, hv, _⟩ => hs ⟨v, hv⟩, ?_⟩
    rw [execEvent_externalLinks_frame h fun v hv => hs ⟨v, hv⟩]

/-- Statements at or after a boundary: the relationship keys they write are stamped at or after it,
    the others are as they were. -/
theorem run_relationships {boundary : Instant} {events : List (Instant × Statement)}
    (hnow : ∀ event ∈ events, boundary ≤ event.1) (h : Runs.run (execEvent ext) db events = some db')
    (key : RelationshipKey) :
    ((∃ event ∈ events, event.2.WritesRelationship ext.casts key) →
      ∃ row, db'.relationships.lookup key = some row ∧ boundary ≤ row.updatedAt) ∧
    ((¬ ∃ event ∈ events, event.2.WritesRelationship ext.casts key) →
      db'.relationships.lookup key = db.relationships.lookup key) := by
  refine Runs.run_writes (fun d k => d.relationships.lookup k)
    (fun e k => e.2.WritesRelationship ext.casts k)
    (fun r => ∃ row, r = some row ∧ boundary ≤ row.updatedAt) ?_ h key
  intro event hevent m m' hstep k
  rcases execEvent_relationships hstep k with ⟨hwrites, row, hrow, hstamp⟩ | hframe
  · refine Or.inl ⟨hwrites, row, hrow, ?_⟩
    rw [hstamp]
    exact hnow event hevent
  · exact Or.inr hframe

/-- The same for the links. -/
theorem run_externalLinks {boundary : Instant} {events : List (Instant × Statement)}
    (hnow : ∀ event ∈ events, boundary ≤ event.1) (h : Runs.run (execEvent ext) db events = some db')
    (key : ExternalLinkKey) :
    ((∃ event ∈ events, event.2.WritesLink ext.casts key) →
      ∃ row, db'.externalLinks.lookup key = some row ∧ boundary ≤ row.updatedAt) ∧
    ((¬ ∃ event ∈ events, event.2.WritesLink ext.casts key) →
      db'.externalLinks.lookup key = db.externalLinks.lookup key) := by
  refine Runs.run_writes (fun d k => d.externalLinks.lookup k)
    (fun e k => e.2.WritesLink ext.casts k)
    (fun r => ∃ row, r = some row ∧ boundary ≤ row.updatedAt) ?_ h key
  intro event hevent m m' hstep k
  rcases execEvent_externalLinks hstep k with ⟨hwrites, row, hrow, hstamp⟩ | hframe
  · refine Or.inl ⟨hwrites, row, hrow, ?_⟩
    rw [hstamp]
    exact hnow event hevent
  · exact Or.inr hframe

variable {picks : List Nat} {txs : List (Transaction ext)} {boundary : Instant}

/-- An import runs the statements of its transactions and no others, none before the boundary when
    no transaction is. -/
theorem importAll_events (hnow : ∀ tx ∈ txs, boundary ≤ tx.now)
    (h : importAll ext picks txs db = some db') :
    ∃ events, (∀ event, event ∈ events ↔ ∃ tx ∈ txs, event ∈ tx.events) ∧
      (∀ event ∈ events, boundary ≤ event.1) ∧ Runs.run (execEvent ext) db events = some db' := by
  obtain ⟨events, hevents, hrun⟩ := Option.bind_eq_some_iff.mp h
  have hmem (event : Instant × Statement) : event ∈ events ↔ ∃ tx ∈ txs, event ∈ tx.events := by
    rw [Interleaving.mem_interleave hevents]
    simp only [List.mem_map, exists_exists_and_eq_and]
  refine ⟨events, hmem, fun event hevent => ?_, hrun⟩
  obtain ⟨tx, htx, he⟩ := (hmem event).mp hevent
  rw [now_of_mem_events he]
  exact hnow tx htx

/-- **What an import at or after the boundary leaves**: a carried relationship is stamped at or after
    the boundary, any other is as it was. -/
theorem importAll_relationships (hnow : ∀ tx ∈ txs, boundary ≤ tx.now)
    (h : importAll ext picks txs db = some db') (key : RelationshipKey) :
    ((∃ tx ∈ txs, CarriesRelationship ext.casts tx.kind tx.record key) →
      ∃ row, db'.relationships.lookup key = some row ∧ boundary ≤ row.updatedAt) ∧
    ((¬ ∃ tx ∈ txs, CarriesRelationship ext.casts tx.kind tx.record key) →
      db'.relationships.lookup key = db.relationships.lookup key) := by
  obtain ⟨events, hmem, hafter, hrun⟩ := importAll_events hnow h
  have hwritten : (∃ event ∈ events, event.2.WritesRelationship ext.casts key) ↔
      ∃ tx ∈ txs, CarriesRelationship ext.casts tx.kind tx.record key := by
    simp only [← writesRelationship_iff, hmem]
    constructor
    · rintro ⟨event, ⟨tx, htx, he⟩, hwrites⟩
      exact ⟨tx, htx, event, he, hwrites⟩
    · rintro ⟨tx, htx, event, he, hwrites⟩
      exact ⟨event, ⟨tx, htx, he⟩, hwrites⟩
  rw [← hwritten]
  exact run_relationships hafter hrun key

/-- The same for the links. -/
theorem importAll_externalLinks (hnow : ∀ tx ∈ txs, boundary ≤ tx.now)
    (h : importAll ext picks txs db = some db') (key : ExternalLinkKey) :
    ((∃ tx ∈ txs, CarriesLink ext.casts tx.kind tx.record key) →
      ∃ row, db'.externalLinks.lookup key = some row ∧ boundary ≤ row.updatedAt) ∧
    ((¬ ∃ tx ∈ txs, CarriesLink ext.casts tx.kind tx.record key) →
      db'.externalLinks.lookup key = db.externalLinks.lookup key) := by
  obtain ⟨events, hmem, hafter, hrun⟩ := importAll_events hnow h
  have hwritten : (∃ event ∈ events, event.2.WritesLink ext.casts key) ↔
      ∃ tx ∈ txs, CarriesLink ext.casts tx.kind tx.record key := by
    simp only [← writesLink_iff, hmem]
    constructor
    · rintro ⟨event, ⟨tx, htx, he⟩, hwrites⟩
      exact ⟨tx, htx, event, he, hwrites⟩
    · rintro ⟨tx, htx, event, he, hwrites⟩
      exact ⟨event, ⟨tx, htx, he⟩, hwrites⟩
  rw [← hwritten]
  exact run_externalLinks hafter hrun key

/-- A transaction's statements, run one after the other. -/
theorem run_execEvent (now : Instant) (statements : List Statement) :
    Runs.run (execEvent ext) db (statements.map fun statement => (now, statement)) =
      execAll ext.casts true now db statements := by
  induction statements generalizing db with
  | nil => rfl
  | cons statement statements ih =>
    rw [List.map_cons, Runs.run_cons]
    show (exec ext.casts true now db statement).bind _ = _
    rw [execAll, List.foldlM_cons]
    exact congrArg _ (funext fun d => ih)

/-- **One committed record**: a relationship it carries is stamped at or after its `NOW()`, any other
    is as it was. -/
theorem process_relationships {kind : EntityKind} {record : Json} {now : Instant}
    (h : process ext kind true record now db = some db') (key : RelationshipKey) :
    (CarriesRelationship ext.casts kind record key →
      ∃ row, db'.relationships.lookup key = some row ∧ now ≤ row.updatedAt) ∧
    (¬ CarriesRelationship ext.casts kind record key →
      db'.relationships.lookup key = db.relationships.lookup key) := by
  obtain ⟨tx, d, rfl, rfl, rfl, hexec, hrel, -⟩ := process_transaction h
  rw [← run_execEvent] at hexec
  rw [← writesRelationship_iff, ← hrel]
  exact run_relationships (fun event he => (now_of_mem_events he).ge) hexec key

/-- The same for the links. -/
theorem process_externalLinks {kind : EntityKind} {record : Json} {now : Instant}
    (h : process ext kind true record now db = some db') (key : ExternalLinkKey) :
    (CarriesLink ext.casts kind record key →
      ∃ row, db'.externalLinks.lookup key = some row ∧ now ≤ row.updatedAt) ∧
    (¬ CarriesLink ext.casts kind record key →
      db'.externalLinks.lookup key = db.externalLinks.lookup key) := by
  obtain ⟨tx, d, rfl, rfl, rfl, hexec, -, hlinks⟩ := process_transaction h
  rw [← run_execEvent] at hexec
  rw [← writesLink_iff, ← hlinks]
  exact run_externalLinks (fun event he => (now_of_mem_events he).ge) hexec key

end Import

/-! ## What the purge leaves in them -/

/-- One table's reconciliation: refused at or over the cap, stale rows deleted otherwise. -/
def reconcileTable (cfg : PurgeConfig) (boundary : Instant) (db : Database) (table : ChildTable) :
    Database :=
  if Purge.refused cfg (db.childTotal table) (db.childStale boundary table) then db
  else db.deleteStale boundary table

/-- What it leaves of the relationships depends on them alone. -/
theorem reconcileTable_relationships (cfg : PurgeConfig) (boundary : Instant) (db : Database) :
    (reconcileTable cfg boundary db .relationships).relationships =
      if Purge.refused cfg (db.childTotal .relationships) (db.childStale boundary .relationships) then
        db.relationships
      else db.relationships.deleteWhere fun _ row => row.updatedAt < boundary := by
  unfold reconcileTable
  split <;> rfl

/-- The other table. -/
theorem reconcileTable_externalLinks (cfg : PurgeConfig) (boundary : Instant) (db : Database) :
    (reconcileTable cfg boundary db .externalLinks).externalLinks =
      if Purge.refused cfg (db.childTotal .externalLinks) (db.childStale boundary .externalLinks) then
        db.externalLinks
      else db.externalLinks.deleteWhere fun _ row => row.updatedAt < boundary := by
  unfold reconcileTable
  split <;> rfl

/-- One table's reconciliation leaves the other table alone. -/
theorem reconcileTable_frame (cfg : PurgeConfig) (boundary : Instant) (db : Database) :
    (reconcileTable cfg boundary db .externalLinks).relationships = db.relationships ∧
      (reconcileTable cfg boundary db .relationships).externalLinks = db.externalLinks := by
  unfold reconcileTable
  constructor
  · split <;> rfl
  · split <;> rfl

/-- Deleting from a table with no stale row changes nothing. -/
theorem deleteStale_of_none {db : Database} {boundary : Instant} {table : ChildTable}
    (h : db.childStale boundary table = 0) : db.deleteStale boundary table = db := by
  cases table with
  | relationships =>
    have hsame := Table.deleteWhere_eq_self (Table.countWhere_eq_zero.mp h)
    unfold Database.deleteStale
    rw [hsame]
  | externalLinks =>
    have hsame := Table.deleteWhere_eq_self (Table.countWhere_eq_zero.mp h)
    unfold Database.deleteStale
    rw [hsame]

/-- An empty table has no stale row. -/
theorem childStale_of_empty {db : Database} {boundary : Instant} {table : ChildTable}
    (h : db.childTotal table = 0) : db.childStale boundary table = 0 := by
  cases table with
  | relationships =>
    have hempty : db.relationships = ∅ := Table.count_eq_zero.mp h
    refine Table.countWhere_eq_zero.mpr fun k r hk => ?_
    rw [hempty, Finmap.lookup_empty] at hk
    cases hk
  | externalLinks =>
    have hempty : db.externalLinks = ∅ := Table.count_eq_zero.mp h
    refine Table.countWhere_eq_zero.mpr fun k r hk => ?_
    rw [hempty, Finmap.lookup_empty] at hk
    cases hk

section Purge

variable {cfg : PurgeConfig} {fails : PurgeAwait → Bool} {boundary : Instant}

/-- A call that returns went on from each await with the database's answer. -/
theorem driveOn_suspended {fuel : Nat} {call call' : PurgeCall} {db : Database}
    {result : Database × List (ChildTable × Nat)}
    (h : driveOn cfg fails fuel call db = some result)
    (hresume : Purge.resume cfg call (.value (answer call.boundary db call.awaiting).1) =
      .suspended call') :
    ∃ f, driveOn cfg fails f call' (answer call.boundary db call.awaiting).2 = some result := by
  cases fuel with
  | zero => cases h
  | succ fuel =>
    refine ⟨fuel, ?_⟩
    unfold driveOn at h
    split at h
    · cases h
    · dsimp only at h
      rw [hresume] at h
      exact h

/-- Leaving the block commits what the statements left. -/
theorem driveOn_exitStack {fuel : Nat} {counts : List (ChildTable × Nat)} {db : Database}
    {result : Database × List (ChildTable × Nat)}
    (h : driveOn cfg fails fuel ⟨boundary, .exitStack, counts⟩ db = some result) :
    result = (db, counts) := by
  cases fuel with
  | zero => cases h
  | succ fuel =>
    unfold driveOn at h
    split at h
    · cases h
    · exact (Option.some.inj h).symm

/-- A call that returns has reconciled each of its tables in turn. -/
theorem driveOn_tables {fuel : Nat} {tables : List ChildTable} {counts : List (ChildTable × Nat)}
    {db : Database} {result : Database × List (ChildTable × Nat)}
    (h : driveOn cfg fails fuel ⟨boundary, Purge.nextTable tables, counts⟩ db = some result) :
    result.1 = tables.foldl (reconcileTable cfg boundary) db := by
  -- Table by table; the fuel is enough, for the call has returned.
  induction tables generalizing fuel counts db with
  | nil =>
    rw [driveOn_exitStack h]
    rfl
  | cons table tables ih =>
    -- Empty, nothing stale or over the cap, or deleted from: the code and `reconcileTable` part in the
    -- order of the tests, and agree on each case.
    rw [List.foldl_cons]
    by_cases htotal : db.childTotal table = 0
    · -- An empty table is skipped, which is what a deletion would come to.
      have hskip : reconcileTable cfg boundary db table = db := by
        unfold reconcileTable
        split
        · rfl
        · exact deleteStale_of_none (childStale_of_empty htotal)
      have hresume : Purge.resume cfg ⟨boundary, .countAll table tables, counts⟩
          (.value (db.childTotal table)) =
            .suspended ⟨boundary, Purge.nextTable tables, counts ++ [(table, 0)]⟩ := if_pos htotal
      obtain ⟨f, hf⟩ := driveOn_suspended h hresume
      rw [hskip]
      exact ih hf
    · have hresume : Purge.resume cfg ⟨boundary, .countAll table tables, counts⟩
          (.value (db.childTotal table)) =
            .suspended ⟨boundary, .countStale table (db.childTotal table) tables, counts⟩ :=
        if_neg htotal
      obtain ⟨f, hf⟩ := driveOn_suspended h hresume
      by_cases hkeep : db.childStale boundary table = 0 ∨
          Purge.refused cfg (db.childTotal table) (db.childStale boundary table) = true
      · -- Nothing stale, or over the cap.
        have hskip : reconcileTable cfg boundary db table = db := by
          unfold reconcileTable
          rcases hkeep with hnone | hcap
          · rw [deleteStale_of_none hnone]
            split <;> rfl
          · rw [if_pos hcap]
        have hresume : Purge.resume cfg
            ⟨boundary, .countStale table (db.childTotal table) tables, counts⟩
            (.value (db.childStale boundary table)) =
              .suspended ⟨boundary, Purge.nextTable tables, counts ++ [(table, 0)]⟩ := if_pos hkeep
        obtain ⟨g, hg⟩ := driveOn_suspended hf hresume
        rw [hskip]
        exact ih hg
      -- Under the cap, with something stale.
      · have hdelete : reconcileTable cfg boundary db table = db.deleteStale boundary table := by
          unfold reconcileTable
          rw [if_neg fun hcap => hkeep (Or.inr hcap)]
        have hresume : Purge.resume cfg
            ⟨boundary, .countStale table (db.childTotal table) tables, counts⟩
            (.value (db.childStale boundary table)) = .suspended ⟨boundary,
              .deleteStale table (db.childTotal table) (db.childStale boundary table) tables,
              counts⟩ := if_neg hkeep
        obtain ⟨g, hg⟩ := driveOn_suspended hf hresume
        obtain ⟨k, hk⟩ := driveOn_suspended hg rfl
        rw [hdelete]
        exact ih hk

/-- **A purge that returns unvetoed reconciled every table**, and settled its boundary. -/
theorem purgeOn_tables {p p' : StaleChildRowPurge} {db db' : Database}
    {deleted : List (ChildTable × Nat)} (hveto : p.vetoReason cfg = none)
    (hboundary : p.boundary = some boundary)
    (h : purgeOn cfg fails p db = some (p', db', deleted)) :
    db' = cfg.tables.foldl (reconcileTable cfg boundary) db ∧ p' = p.settle (some boundary) := by
  unfold purgeOn at h
  split at h
  · rename_i reason p'' hstart
    rw [(Purge.start_eq_vetoed.mp hstart).1] at hveto
    cases hveto
  · cases h
  · rename_i call hstart
    obtain ⟨b, hb, -, -, rfl⟩ := Purge.start_eq_suspended.mp hstart
    obtain rfl : b = boundary := Option.some.inj (hb.symm.trans hboundary)
    obtain ⟨result, hdrive, heq⟩ := Option.map_eq_some_iff.mp h
    -- The slot, the connection, its autocommit, the transaction and the cursor.
    obtain ⟨f1, h1⟩ := driveOn_suspended hdrive rfl
    obtain ⟨f2, h2⟩ := driveOn_suspended h1 rfl
    obtain ⟨f3, h3⟩ := driveOn_suspended h2 rfl
    obtain ⟨f4, h4⟩ := driveOn_suspended h3 rfl
    obtain ⟨f5, h5⟩ := driveOn_suspended h4 rfl
    have htables := driveOn_tables h5
    cases heq
    exact ⟨htables, rfl⟩

/-- A statement that is answered never ends a call in an exception. -/
theorem resume_value_ne_raised (call : PurgeCall) (n : Nat) :
    Purge.resume cfg call (.value n) ≠ .raised := by
  obtain ⟨b, awaiting, counts⟩ := call
  cases awaiting with
  | countAll table rest =>
    show (if n = 0 then _ else _) ≠ Purge.Resumed.raised
    split <;> simp
  | countStale table total rest =>
    show (if n = 0 ∨ Purge.refused cfg total n = true then _ else _) ≠ Purge.Resumed.raised
    split <;> simp
  | _ => exact Purge.Resumed.noConfusion

/-- With nothing failing a call returns: its fuel is enough for the awaits it has left.  This checks
    `purgeOn`, whose `none` is therefore a failure of an await and never the fuel. -/
theorem driveOn_returns (hhealthy : ∀ awaiting, fails awaiting = false) {fuel : Nat}
    {call : PurgeCall} (hfuel : call.awaiting.left cfg ≤ fuel) (db : Database) :
    ∃ result, driveOn cfg fails fuel call db = some result := by
  -- On the fuel, of which an await takes one.
  induction fuel generalizing call db with
  | zero =>
    have hpos : 0 < call.awaiting.left cfg := by cases call.awaiting <;> simp [PurgeAwait.left]
    omega
  | succ fuel ih =>
    unfold driveOn
    rw [hhealthy, if_neg Bool.false_ne_true]
    cases hresume : Purge.resume cfg call (.value (answer call.boundary db call.awaiting).1) with
    | raised => exact absurd hresume (resume_value_ne_raised call _)
    | finished deleted =>
      dsimp only
      rw [hresume]
      exact ⟨_, rfl⟩
    | suspended call' =>
      have hleft := Purge.resume_left hresume
      have henough : call'.awaiting.left cfg ≤ fuel := by omega
      dsimp only
      rw [hresume]
      exact ih henough _

end Purge

/-! ## The cap -/

/-- The share of a table's rows that are older than the boundary; of an empty table, none. -/
def staleFraction {κ ρ : Type} [DecidableEq κ] (updatedAt : ρ → Instant) (boundary : Instant)
    (table : Table κ ρ) : ℚ :=
  ((table.keys.filter fun key => ∃ row ∈ table.lookup key, updatedAt row < boundary).card : ℚ) /
    table.keys.card

/-- The two counts the purge takes are its numerator and denominator. -/
theorem staleFraction_eq {κ ρ : Type} [DecidableEq κ] (updatedAt : ρ → Instant) (boundary : Instant)
    (table : Table κ ρ) : staleFraction updatedAt boundary table =
      (table.countWhere fun _ row => updatedAt row < boundary : ℚ) / table.count := by
  have hkeys : (table.keep fun _ row => updatedAt row < boundary).keys =
      table.keys.filter fun key => ∃ row ∈ table.lookup key, updatedAt row < boundary := by
    ext key
    rw [Finset.mem_filter, Finmap.mem_keys, Finmap.mem_keys, Finmap.mem_iff, Finmap.mem_iff,
      Table.lookup_keep]
    simp only [Option.filter_eq_some_iff, decide_eq_true_eq, Option.mem_def]
    constructor
    · rintro ⟨row, hrow, hstale⟩
      exact ⟨⟨row, hrow⟩, row, hrow, hstale⟩
    · rintro ⟨-, row, hrow, hstale⟩
      exact ⟨row, hrow, hstale⟩
  unfold staleFraction Table.countWhere Table.count
  rw [hkeys]

/-- The code compares products of integers; this is the share of stale rows. -/
theorem refused_relationships (cfg : PurgeConfig) (boundary : Instant) (db : Database) :
    Purge.refused cfg (db.childTotal .relationships) (db.childStale boundary .relationships) = true ↔
      cfg.maxDeleteFraction ≤
        staleFraction RelationshipRow.updatedAt boundary db.relationships := by
  rw [staleFraction_eq, Purge.refused, decide_eq_true_iff]
  rfl

/-- And of the other table. -/
theorem refused_externalLinks (cfg : PurgeConfig) (boundary : Instant) (db : Database) :
    Purge.refused cfg (db.childTotal .externalLinks) (db.childStale boundary .externalLinks) = true ↔
      cfg.maxDeleteFraction ≤
        staleFraction ExternalLinkRow.updatedAt boundary db.externalLinks := by
  rw [staleFraction_eq, Purge.refused, decide_eq_true_iff]
  rfl

/-! ## The import and the purge -/

/-- **Reconciliation is exact, end to end.**  When every child row predates the boundary, and then any
    transactions at or after it are committed in any interleaving, and then a purge at the boundary
    returns unvetoed: a table whose stale share is under the cap holds exactly the keys the records
    carry, and a table at or over it keeps every row. -/
theorem reconciliation_is_exact (ext : Externals) (cfg : PurgeConfig) (fails : PurgeAwait → Bool)
    (picks : List Nat) (txs : List (Transaction ext)) (db₀ db₁ db₂ : Database)
    (p p' : StaleChildRowPurge) (deleted : List (ChildTable × Nat)) (boundary : Instant)
    (htables : cfg.tables = Purge.RECONCILED_TABLES)
    (hrelationships : ∀ key row, db₀.relationships.lookup key = some row → row.updatedAt < boundary)
    (hlinks : ∀ key row, db₀.externalLinks.lookup key = some row → row.updatedAt < boundary)
    (hnow : ∀ tx ∈ txs, boundary ≤ tx.now)
    (himport : importAll ext picks txs db₀ = some db₁)
    (hveto : p.vetoReason cfg = none) (hboundary : p.boundary = some boundary)
    (hpurge : purgeOn cfg fails p db₁ = some (p', db₂, deleted)) :
    (staleFraction RelationshipRow.updatedAt boundary db₁.relationships < cfg.maxDeleteFraction →
      ∀ key, key ∈ db₂.relationships ↔
        ∃ tx ∈ txs, CarriesRelationship ext.casts tx.kind tx.record key) ∧
    (cfg.maxDeleteFraction ≤ staleFraction RelationshipRow.updatedAt boundary db₁.relationships →
      db₂.relationships = db₁.relationships) ∧
    (staleFraction ExternalLinkRow.updatedAt boundary db₁.externalLinks < cfg.maxDeleteFraction →
      ∀ key, key ∈ db₂.externalLinks ↔
        ∃ tx ∈ txs, CarriesLink ext.casts tx.kind tx.record key) ∧
    (cfg.maxDeleteFraction ≤ staleFraction ExternalLinkRow.updatedAt boundary db₁.externalLinks →
      db₂.externalLinks = db₁.externalLinks) := by
  obtain ⟨hpurged, -⟩ := purgeOn_tables hveto hboundary hpurge
  rw [htables] at hpurged
  have hpurged : db₂ = reconcileTable cfg boundary (reconcileTable cfg boundary db₁ .relationships)
    .externalLinks := hpurged
  have hrels : db₂.relationships =
      if Purge.refused cfg (db₁.childTotal .relationships) (db₁.childStale boundary .relationships)
      then db₁.relationships
      else db₁.relationships.deleteWhere fun _ row => row.updatedAt < boundary := by
    rw [hpurged, (reconcileTable_frame cfg boundary _).1, reconcileTable_relationships]
  -- The relationships went first, and left the links and so their counts alone.
  have hframe := (reconcileTable_frame cfg boundary db₁).2
  have htotal : (reconcileTable cfg boundary db₁ .relationships).childTotal .externalLinks =
      db₁.childTotal .externalLinks := congrArg Table.count hframe
  have hstale : (reconcileTable cfg boundary db₁ .relationships).childStale boundary
      .externalLinks = db₁.childStale boundary .externalLinks := by
    simp only [Database.childStale, hframe]
  have hext : db₂.externalLinks =
      if Purge.refused cfg (db₁.childTotal .externalLinks) (db₁.childStale boundary .externalLinks)
      then db₁.externalLinks
      else db₁.externalLinks.deleteWhere fun _ row => row.updatedAt < boundary := by
    rw [hpurged, reconcileTable_externalLinks, htotal, hstale, hframe]
  refine ⟨fun hunder key => ?_, fun hover => ?_, fun hunder key => ?_, fun hover => ?_⟩
  · rw [hrels, if_neg fun h => hunder.not_ge ((refused_relationships cfg boundary db₁).mp h)]
    obtain ⟨hcarried, hother⟩ := importAll_relationships hnow himport key
    rw [Table.mem_deleteWhere]
    constructor
    · rintro ⟨row, hrow, hkept⟩
      by_contra hnone
      rw [hother hnone] at hrow
      exact (of_decide_eq_false hkept) (hrelationships key row hrow)
    · intro hcarries
      obtain ⟨row, hrow, hstamp⟩ := hcarried hcarries
      exact ⟨row, hrow, decide_eq_false hstamp.not_gt⟩
  · rw [hrels, if_pos ((refused_relationships cfg boundary db₁).mpr hover)]
  · rw [hext, if_neg fun h => hunder.not_ge ((refused_externalLinks cfg boundary db₁).mp h)]
    obtain ⟨hcarried, hother⟩ := importAll_externalLinks hnow himport key
    rw [Table.mem_deleteWhere]
    constructor
    · rintro ⟨row, hrow, hkept⟩
      by_contra hnone
      rw [hother hnone] at hrow
      exact (of_decide_eq_false hkept) (hlinks key row hrow)
    · intro hcarries
      obtain ⟨row, hrow, hstamp⟩ := hcarried hcarries
      exact ⟨row, hrow, decide_eq_false hstamp.not_gt⟩
  · rw [hext, if_pos ((refused_externalLinks cfg boundary db₁).mpr hover)]

/-- A relationship of the sample import. -/
def memberOf (target direction : String) : Json :=
  .obj [("direction", .str direction), ("target_mbid", .str target), ("target_type", .str "label"),
    ("type", .str "recording contract")]

/-- An artist's record and its label's, which tell the same relationship from both ends. -/
def sampleImport : List (EntityKind × Json × Instant) :=
  [(.artist, .obj [("mbid", .str "11111111-1111-4111-8111-111111111111"),
      ("relations", .arr [memberOf "22222222-2222-4222-8222-222222222222" "forward"])], 20),
    (.label, .obj [("external_links", .arr [.obj [("service", .str "wikidata"),
        ("url", .str "https://www.wikidata.org/wiki/Q1")]]),
      ("mbid", .str "22222222-2222-4222-8222-222222222222")], 30)]

/-- The transaction of a record that has one. -/
def transactionOf (ext : Externals) (entry : EntityKind × Json × Instant) : Option (Transaction ext) :=
  match h : recordStatements ext entry.1 entry.2.1 none with
  | none => none
  | some statements => some ⟨entry.1, entry.2.1, entry.2.2, none, statements, h⟩

/-- A link no record carries any more. -/
def staleLink : ExternalLinkKey where
  mbid := "22222222-2222-4222-8222-222222222222"
  entityType := .str "label"
  serviceName := .str "discogs"
  url := .str "https://www.discogs.com/label/1"

/-- The object once all four signals have arrived. -/
def latchedPurge : StaleChildRowPurge where
  boundary := some 10
  signals := Purge.MUSICBRAINZ_DATA_TYPES.foldl (fun t dataType => t.insert dataType (some 1)) ∅

/-- The link no record carries any more goes; what is left are the keys the two records carry. -/
theorem reconciliation_of_a_removed_link :
    ∃ (txs : List (Transaction sampleExternals)) (db₁ db₂ : Database) (p' : StaleChildRowPurge)
      (deleted : List (ChildTable × Nat)),
      importAll sampleExternals [1, 0, 1, 0] txs
        { externalLinks := (∅ : Table ExternalLinkKey ExternalLinkRow).insert staleLink ⟨1⟩ } =
          some db₁ ∧
      purgeOn {} (fun _ => false) latchedPurge db₁ = some (p', db₂, deleted) ∧
      staleLink ∈ db₁.externalLinks ∧ staleLink ∉ db₂.externalLinks ∧
      (∀ key, key ∈ db₂.relationships ↔
        ∃ tx ∈ txs, CarriesRelationship sampleExternals.casts tx.kind tx.record key) ∧
      (∀ key, key ∈ db₂.externalLinks ↔
        ∃ tx ∈ txs, CarriesLink sampleExternals.casts tx.kind tx.record key) := by
  let db₀ : Database :=
    { externalLinks := (∅ : Table ExternalLinkKey ExternalLinkRow).insert staleLink ⟨1⟩ }
  let txs := sampleImport.filterMap (transactionOf sampleExternals)
  -- Two records, two upserts each, interleaved; the link of neither is there before and gone after.
  have hrun : ((importAll sampleExternals [1, 0, 1, 0] txs db₀).bind fun db₁ =>
      (purgeOn {} (fun _ => false) latchedPurge db₁).map fun result =>
        decide ((staleLink ∈ db₁.externalLinks ∧ staleLink ∉ result.2.1.externalLinks) ∧
          staleFraction RelationshipRow.updatedAt 10 db₁.relationships < 9 / 10 ∧
          staleFraction ExternalLinkRow.updatedAt 10 db₁.externalLinks < 9 / 10)) = some true := by
    decide +kernel
  obtain ⟨db₁, hdb₁, hrun⟩ := Option.bind_eq_some_iff.mp hrun
  obtain ⟨⟨p', db₂, deleted⟩, hdb₂, hrun⟩ := Option.map_eq_some_iff.mp hrun
  obtain ⟨⟨hbefore, hafter⟩, hunder, hunder'⟩ := of_decide_eq_true hrun
  -- The link that was there is older than the extraction.
  have hlinks : ∀ key row, db₀.externalLinks.lookup key = some row → row.updatedAt < 10 := by
    intro key row hrow
    rw [Table.lookup_insert_eq] at hrow
    split at hrow
    · obtain rfl := Option.some.inj hrow
      decide
    · cases hrow
  have hrelationships : ∀ key row, db₀.relationships.lookup key = some row → row.updatedAt < 10 := by
    intro key row hrow
    cases hrow
  obtain ⟨hcarried, -, hcarried', -⟩ := reconciliation_is_exact sampleExternals {} (fun _ => false)
    [1, 0, 1, 0] txs db₀ db₁ db₂ latchedPurge p' deleted 10 rfl hrelationships hlinks
    (by decide +kernel) hdb₁ (by decide +kernel) rfl hdb₂
  exact ⟨txs, db₁, db₂, p', deleted, hdb₁, hdb₂, hbefore, hafter, hcarried hunder,
    hcarried' hunder'⟩

end Records

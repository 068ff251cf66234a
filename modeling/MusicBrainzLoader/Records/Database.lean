/-
  The tables the record processors write, and the statements they write them with
  (`_persistence.py`).

  * **Tables** are keyed maps, one per unique key: a row's key columns are the table's key, so two
    rows under one key cannot exist.  The relationship key is the eight values of
    `musicbrainz.relationship_key`; the link-event ledger is append-only and stays a list.
  * **Columns** — a statement's parameters are JSON values until PostgreSQL assigns them to columns.
    What an assignment cast makes of a value, or that it fails, is a parameter (`Casts`): the schema
    belongs to another repository.
  * **Statements** — `Statement` is one `execute` (or one row of an `executemany`), `exec` its effect;
    `none` is an error, which aborts the transaction.  `now` is the transaction's `NOW()`.

  What an `ON CONFLICT` does is here what the upsert's row says: an entity row and a child row are
  stored whole, the media vocabulary yields to what is there, and a row of `graph.issued_on` that is
  already there is an error, since its insert has no conflict clause.  Which columns each `SET` list
  names is left to `Records.Positional`, which runs the statements as they are sent and compares.

  The link event is part of the entity upsert because the source computes it in the same statement,
  from the row as it was before; and an upsert into `public.identity_link_events` that meets its
  idempotence key adds nothing.
-/
import Mathlib.Logic.Function.Basic
import MusicBrainzLoader.Json
import MusicBrainzLoader.Lib.Table

namespace Records

/-- A point in time, in microseconds. -/
abbrev Instant := Int

/-- A `uuid` value, in the one text form PostgreSQL prints. -/
abbrev Uuid := String

/-- A native catalog id. -/
abbrev Item := Nat

/-! ## The four entity kinds -/

inductive EntityKind where
  | artist
  | label
  | releaseGroup
  | release
deriving DecidableEq, Repr

/-- The canonical entity type child rows carry. -/
def EntityKind.entityType : EntityKind → String
  | .artist => "artist"
  | .label => "label"
  | .releaseGroup => "release-group"
  | .release => "release"

/-- The identity vocabulary's kind; a release group is a `master` there
    (`RELEASE_GROUP_ENTITY_KIND`). -/
def EntityKind.identityKind : EntityKind → String
  | .artist => "artist"
  | .label => "label"
  | .releaseGroup => "master"
  | .release => "release"

/-- The record's field, and the table's column, for the Discogs counterpart. -/
def EntityKind.discogsColumn : EntityKind → String
  | .artist => "discogs_artist_id"
  | .label => "discogs_label_id"
  | .releaseGroup => "discogs_master_id"
  | .release => "discogs_release_id"

/-- Link events tell the kinds apart. -/
theorem identityKind_injective {k k' : EntityKind} (h : k.identityKind = k'.identityKind) : k = k' := by
  cases k <;> cases k' <;> first | rfl | exact absurd h (by decide)

/-! ## Rows -/

/-- A row of `musicbrainz.artists`, `labels`, `release_groups` or `releases`. -/
structure EntityRow where
  /-- The scalar columns, as the database stores them. -/
  columns : List (String × Json)
  /-- The `jsonb` columns. -/
  documents : List (String × Json)
  discogsId : Option Int
  gmItemId : Option Item
  updatedAt : Instant
deriving DecidableEq

/-- The inputs of `musicbrainz.relationship_key`. -/
structure RelationshipKey where
  sourceMbid : Uuid
  sourceEntityType : Json
  targetMbid : Uuid
  targetEntityType : Json
  relationshipType : Json
  attributes : Json
  beginDate : Json
  endDate : Json
deriving DecidableEq

structure RelationshipRow where
  ended : Json
  updatedAt : Instant
deriving DecidableEq

/-- The unique key of `musicbrainz.external_links`. -/
structure ExternalLinkKey where
  mbid : Uuid
  entityType : Json
  serviceName : Json
  url : Json
deriving DecidableEq

/-- A row of `musicbrainz.external_links`: every other column is in the key. -/
structure ExternalLinkRow where
  updatedAt : Instant
deriving DecidableEq

/-- The primary key of `graph.issued_on`. -/
structure IssuedOnKey where
  releaseId : String
  mediumId : String
  source : String
deriving DecidableEq

/-- A row of `graph.medium`. -/
structure MediumRow where
  family : String
  label : String
deriving DecidableEq

inductive LinkEventKind where
  | linkAdded
  | linkRemoved
  | linkChanged
deriving DecidableEq

/-- A row of `public.identity_link_events`, with the columns the loader writes. -/
structure LinkEvent where
  provider : String
  entityKind : String
  externalId : Uuid
  event : LinkEventKind
  discogsIdBefore : Option Int
  discogsIdAfter : Option Int
  eventAt : Instant
  datedFrom : String
  sourceRef : String
deriving DecidableEq

/-- `identity_link_events_idempotence_key`: two events agree on it. -/
def LinkEvent.sameKey (e e' : LinkEvent) : Prop :=
  e.datedFrom = e'.datedFrom ∧ e.sourceRef = e'.sourceRef ∧ e.provider = e'.provider ∧
    e.entityKind = e'.entityKind ∧ e.externalId = e'.externalId ∧ e.event = e'.event ∧
    e.eventAt = e'.eventAt

instance (e e' : LinkEvent) : Decidable (e.sameKey e') :=
  inferInstanceAs (Decidable (_ ∧ _))

/-- A provider alias (`common.identity.AliasRef`). -/
structure AliasRef where
  provider : String
  entityKind : String
  externalId : Json
deriving DecidableEq

/-- The alias table: which native item a reference names. -/
abbrev Aliases := Table AliasRef Item

structure Database where
  entities : EntityKind → Table Uuid EntityRow := fun _ => ∅
  relationships : Table RelationshipKey RelationshipRow := ∅
  externalLinks : Table ExternalLinkKey ExternalLinkRow := ∅
  mediaFamilies : Table String Unit := ∅
  media : Table String MediumRow := ∅
  issuedOn : Table IssuedOnKey Nat := ∅
  /-- Oldest first. -/
  linkEvents : List LinkEvent := []
  aliases : Aliases := ∅

@[ext] theorem Database.ext' {d e : Database} (hentities : ∀ k, d.entities k = e.entities k)
    (hrelationships : d.relationships = e.relationships)
    (hexternalLinks : d.externalLinks = e.externalLinks)
    (hmediaFamilies : d.mediaFamilies = e.mediaFamilies) (hmedia : d.media = e.media)
    (hissuedOn : d.issuedOn = e.issuedOn) (hlinkEvents : d.linkEvents = e.linkEvents)
    (haliases : d.aliases = e.aliases) : d = e := by
  cases d
  cases e
  simp only [Database.mk.injEq]
  exact ⟨funext hentities, hrelationships, hexternalLinks, hmediaFamilies, hmedia, hissuedOn,
    hlinkEvents, haliases⟩

/-! ## Assignment casts -/

/-- What PostgreSQL's assignment casts make of a parameter; `none` is an error. -/
structure Casts where
  /-- A `uuid NOT NULL` column. -/
  uuid : Json → Option Uuid
  /-- A `bigint` column. -/
  bigint : Json → Option (Option Int)
  /-- Any other scalar column, named with its table. -/
  scalar : (table column : String) → Json → Option Json

/-- Each named column's cast. -/
def Casts.columns (casts : Casts) (table : String) (values : List (String × Json)) :
    Option (List (String × Json)) :=
  values.mapM fun (column, value) => (casts.scalar table column value).map fun stored => (column, stored)

/-! ## Statements -/

/-- The parameters of an entity upsert. -/
structure EntityValues where
  mbid : Json
  columns : List (String × Json)
  documents : List (String × Json)
  discogsId : Json
  gmItemId : Option Item
  sourceRef : String

/-- The parameters of a relationship upsert, in the statement's order. -/
structure RelationshipValues where
  sourceMbid : Json
  sourceEntityType : Json
  targetMbid : Json
  targetEntityType : Json
  relationshipType : Json
  attributes : Json
  beginDate : Json
  endDate : Json
  ended : Json
deriving DecidableEq

/-- The parameters of an external-link upsert, in the statement's order. -/
structure ExternalLinkValues where
  mbid : Json
  entityType : Json
  url : Json
  serviceName : Json
deriving DecidableEq

inductive Statement where
  /-- `upsert_artist`, `upsert_label`, `upsert_release`, `upsert_release_group`. -/
  | upsertEntity (kind : EntityKind) (values : EntityValues)
  /-- `pg_advisory_xact_lock` on one release's range of `graph.issued_on`. -/
  | lockReleaseMedia (releaseId source : String)
  | upsertMediaFamily (name : String)
  | upsertMedium (mediumId family label : String)
  | deleteReleaseMedia (releaseId source : String)
  | insertReleaseMedium (releaseId mediumId source : String) (qty : Nat)
  | upsertRelationship (values : RelationshipValues)
  | upsertExternalLink (values : ExternalLinkValues)

/-- The natural key a relationship's values are stored under. -/
def Casts.relationshipKey (casts : Casts) (v : RelationshipValues) : Option RelationshipKey := do
  let column := casts.scalar "musicbrainz.relationships"
  return {
    sourceMbid := ← casts.uuid v.sourceMbid
    sourceEntityType := ← column "source_entity_type" v.sourceEntityType
    targetMbid := ← casts.uuid v.targetMbid
    targetEntityType := ← column "target_entity_type" v.targetEntityType
    relationshipType := ← column "relationship_type" v.relationshipType
    attributes := v.attributes
    beginDate := ← column "begin_date" v.beginDate
    endDate := ← column "end_date" v.endDate }

/-- The key an external link's values are stored under. -/
def Casts.externalLinkKey (casts : Casts) (v : ExternalLinkValues) : Option ExternalLinkKey := do
  let column := casts.scalar "musicbrainz.external_links"
  return {
    mbid := ← casts.uuid v.mbid
    entityType := ← column "entity_type" v.entityType
    serviceName := ← column "service_name" v.serviceName
    url := ← column "url" v.url }

/-- The event kind, read off the two ids. -/
def linkEventKind (before after : Option Int) : LinkEventKind :=
  match before, after with
  | none, _ => .linkAdded
  | some _, none => .linkRemoved
  | some _, some _ => .linkChanged

/-- The event an entity upsert records: one when there was a row whose id differs. -/
def linkEvent (kind : EntityKind) (mbid : Uuid) (old : Option EntityRow) (after : Option Int)
    (sourceRef : String) (now : Instant) : Option LinkEvent :=
  match old with
  | none => none
  | some row =>
    if row.discogsId = after then none
    else some {
      provider := "musicbrainz"
      entityKind := kind.identityKind
      externalId := mbid
      event := linkEventKind row.discogsId after
      discogsIdBefore := row.discogsId
      discogsIdAfter := after
      eventAt := now
      datedFrom := "groovemap_load"
      sourceRef := sourceRef }

/-- `INSERT ... ON CONFLICT ON CONSTRAINT identity_link_events_idempotence_key DO NOTHING`. -/
def insertLinkEvent (events : List LinkEvent) (event : Option LinkEvent) : List LinkEvent :=
  match event with
  | none => events
  | some e => if ∃ e' ∈ events, e'.sameKey e then events else events ++ [e]

/-- The table an entity upsert writes, as the casts name it. -/
def EntityKind.table : EntityKind → String
  | .artist => "musicbrainz.artists"
  | .label => "musicbrainz.labels"
  | .releaseGroup => "musicbrainz.release_groups"
  | .release => "musicbrainz.releases"

/-- The row an entity upsert stores, under its key. -/
def Casts.entityRow (casts : Casts) (kind : EntityKind) (v : EntityValues) (now : Instant) :
    Option (Uuid × EntityRow) := do
  let mbid ← casts.uuid v.mbid
  let columns ← casts.columns kind.table v.columns
  let discogsId ← casts.bigint v.discogsId
  return (mbid, { columns, documents := v.documents, discogsId, gmItemId := v.gmItemId, updatedAt := now })

/-- The `updated_at` of an upserted child row.  `refresh` is `refresh_updated_at`: an inserted row
    defaults it to `NOW()` either way, a conflicting one is refreshed only when it is on. -/
def stamp (refresh : Bool) (now : Instant) (old : Option Instant) : Instant :=
  if refresh then now else old.getD now

/-- `RELATIONSHIP_UPSERTS[refresh]`, for a key and its `ended` column. -/
def upsertRelationshipRow (refresh : Bool) (now : Instant)
    (t : Table RelationshipKey RelationshipRow) (row : RelationshipKey × Json) :
    Table RelationshipKey RelationshipRow :=
  t.upsert row.1 fun old => ⟨row.2, stamp refresh now (old.map (·.updatedAt))⟩

/-- `EXTERNAL_LINK_UPSERTS[refresh]`. -/
def upsertExternalLinkRow (refresh : Bool) (now : Instant)
    (t : Table ExternalLinkKey ExternalLinkRow) (key : ExternalLinkKey) :
    Table ExternalLinkKey ExternalLinkRow :=
  t.upsert key fun old => ⟨stamp refresh now (old.map (·.updatedAt))⟩

/-- A relationship's key and its `ended` column, as they are stored. -/
def Casts.relationship (casts : Casts) (v : RelationshipValues) : Option (RelationshipKey × Json) := do
  let key ← casts.relationshipKey v
  let ended ← casts.scalar "musicbrainz.relationships" "ended" v.ended
  return (key, ended)

/-- One statement's effect. -/
def exec (casts : Casts) (refresh : Bool) (now : Instant) (db : Database) : Statement → Option Database
  | .upsertEntity kind v => do
    let (mbid, row) ← casts.entityRow kind v now
    -- The old row and the upsert both see the snapshot at the statement's start.
    let old := (db.entities kind).lookup mbid
    return { db with
      entities := Function.update db.entities kind ((db.entities kind).insert mbid row)
      linkEvents := insertLinkEvent db.linkEvents (linkEvent kind mbid old row.discogsId v.sourceRef now) }
  | .lockReleaseMedia _ _ => some db
  | .upsertMediaFamily name => some { db with mediaFamilies := db.mediaFamilies.insertIfAbsent name () }
  | .upsertMedium mediumId family label =>
    some { db with media := db.media.insertIfAbsent mediumId { family, label } }
  | .deleteReleaseMedia releaseId source =>
    some { db with
      issuedOn := db.issuedOn.deleteWhere fun key _ => key.releaseId = releaseId ∧ key.source = source }
  | .insertReleaseMedium releaseId mediumId source qty => do
    let issuedOn ← db.issuedOn.insertNew { releaseId, mediumId, source } qty
    return { db with issuedOn }
  | .upsertRelationship v => do
    let row ← casts.relationship v
    return { db with relationships := upsertRelationshipRow refresh now db.relationships row }
  | .upsertExternalLink v => do
    let key ← casts.externalLinkKey v
    return { db with externalLinks := upsertExternalLinkRow refresh now db.externalLinks key }

/-- Statements one after the other. -/
def execAll (casts : Casts) (refresh : Bool) (now : Instant) (db : Database)
    (statements : List Statement) : Option Database :=
  statements.foldlM (exec casts refresh now) db

theorem execAll_nil (casts : Casts) (refresh : Bool) (now : Instant) (db : Database) :
    execAll casts refresh now db [] = some db := rfl

theorem execAll_cons_eq_some {casts : Casts} {refresh : Bool} {now : Instant} {db db' : Database}
    {s : Statement} {ss : List Statement} :
    execAll casts refresh now db (s :: ss) = some db' ↔
      ∃ d, exec casts refresh now db s = some d ∧ execAll casts refresh now d ss = some db' := by
  rw [execAll, List.foldlM_cons]
  exact Option.bind_eq_some_iff

theorem execAll_append_eq_some {casts : Casts} {refresh : Bool} {now : Instant} {db db' : Database}
    {xs ys : List Statement} :
    execAll casts refresh now db (xs ++ ys) = some db' ↔
      ∃ d, execAll casts refresh now db xs = some d ∧ execAll casts refresh now d ys = some db' := by
  rw [execAll, List.foldlM_append]
  exact Option.bind_eq_some_iff

end Records

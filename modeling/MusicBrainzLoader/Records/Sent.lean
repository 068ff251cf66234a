/-
  The statements as they are sent: column lists, `SET` lists and tuples of parameters
  (`_persistence.py`, and the tuples `_record_processing.py` hands it).

  `Records.Database` has each upsert by what it comes to.  Here a parameter has no name: it is assigned
  to the column at its position in the statement's list, a `Jsonb` to a `jsonb` column and nothing else;
  a row is what its columns hold, and on a conflict a column the `SET` list leaves out keeps what it
  held.  The statements on the shared media are those of `Records.Database`.

  Two lists have to agree for a value to land in the column it is meant for, the statement's columns
  and the processor's tuple, and they stand in different files of the source.  So both are written
  out here in full, as they are there, position by position; nothing in this file says that they
  agree.  That is proved in `Records.Positional`, by running them.

  The upsert of an entity does three things at once: it stores the row, it returns the stored link,
  and it selects the link of the row as it was BEFORE, and the event is computed from the two.
  `EntityUpsert` has the three parts, so that a wrong column in any of them would be seen.
-/
import MusicBrainzLoader.Lib.Runs
import MusicBrainzLoader.Lib.Upsert
import MusicBrainzLoader.Records.Process

namespace Records

open Upsert (Row Source insertRow keyOf)

/-! ## Parameters and columns -/

/-- An element of a tuple the processors hand to the writer. -/
inductive PyValue where
  | json (j : Json)
  | item (i : Option Item)
deriving DecidableEq

/-- A parameter of a statement. -/
inductive Param where
  | plain (v : PyValue)
  | jsonb (v : PyValue)
deriving DecidableEq

/-- What a column holds. -/
inductive Stored where
  | uuid (u : Uuid)
  | scalar (j : Json)
  | document (j : Json)
  | bigint (n : Option Int)
  | item (i : Option Item)
  | instant (t : Instant)
deriving DecidableEq

inductive ColumnType where
  | uuid
  | scalar
  | jsonb
  | bigint
  | item
deriving DecidableEq

/-- A table, by its name and its columns' types. -/
structure Schema where
  name : String
  columnType : String → ColumnType

/-- The `jsonb` columns of an entity table. -/
def EntityKind.documentColumns : EntityKind → List String
  | .artist => ["aliases", "tags", "data"]
  | .label => ["data"]
  | .releaseGroup => ["secondary_types", "data"]
  | .release => ["media", "data"]

def EntityKind.schema (kind : EntityKind) : Schema where
  name := kind.table
  columnType column :=
    if column = "mbid" then .uuid
    else if column = kind.discogsColumn then .bigint
    else if column = "gm_item_id" then .item
    else if column ∈ kind.documentColumns then .jsonb
    else .scalar

def relationshipsSchema : Schema where
  name := "musicbrainz.relationships"
  columnType column :=
    if column = "source_mbid" ∨ column = "target_mbid" then .uuid
    else if column = "attributes" then .jsonb
    else .scalar

def externalLinksSchema : Schema where
  name := "musicbrainz.external_links"
  columnType column := if column = "mbid" then .uuid else .scalar

/-- A parameter assigned to a column; one of another type is refused. -/
def Casts.assign (casts : Casts) (schema : Schema) (column : String) (param : Param) : Option Stored :=
  match schema.columnType column, param with
  | .uuid, .plain (.json j) => (casts.uuid j).map .uuid
  | .scalar, .plain (.json j) => (casts.scalar schema.name column j).map .scalar
  | .jsonb, .jsonb (.json j) => some (.document j)
  | .bigint, .plain (.json j) => (casts.bigint j).map .bigint
  | .item, .plain (.item i) => some (.item i)
  | _, _ => none

/-- `(columns) VALUES (%s, ...)`: each column's value is the parameter at its position. -/
def Casts.assignAll (casts : Casts) (schema : Schema) (columns : List String) (params : List Param) :
    Option (List (String × Stored)) :=
  if columns.length = params.length then
    (columns.zip params).mapM fun (column, param) =>
      (casts.assign schema column param).map fun stored => (column, stored)
  else none

/-- A column that is not assigned holds its default. -/
def defaults (now : Instant) : Row String Stored := fun column =>
  if column = "updated_at" then some (.instant now) else none

abbrev RawTable := Table (List (Option Stored)) (Row String Stored)

/-- `cursor.execute(statement, params)`, for one of the upserts. -/
def Casts.execute (casts : Casts) (schema : Schema) (s : Upsert.Statement String) (now : Instant)
    (params : List Param) (t : RawTable) : Option RawTable := do
  let assigned ← casts.assignAll schema s.columns params
  return s.exec (defaults now) (.instant now) assigned t

/-! ## The entity upserts -/

/-- One of the three-part statements: the upsert, the column it returns and `old` selects, and the
    entity kind its event names. -/
structure EntityUpsert where
  statement : Upsert.Statement String
  returning : String
  entityKind : String

/-- `SET column = EXCLUDED.column` for each, `updated_at = NOW()` at the end. -/
def refreshed (columns : List String) : List (String × Source String) :=
  columns.map (fun column => (column, .excluded column)) ++ [("updated_at", .now)]

/-- The statement of `upsert_artist`. -/
def upsertArtist : EntityUpsert where
  statement := {
    columns := ["mbid", "name", "sort_name", "type", "gender", "begin_date", "end_date", "ended",
      "area", "begin_area", "end_area", "disambiguation", "discogs_artist_id", "aliases", "tags",
      "data", "gm_item_id"]
    key := ["mbid"]
    sets := refreshed ["name", "sort_name", "type", "gender", "begin_date", "end_date", "ended",
      "area", "begin_area", "end_area", "disambiguation", "discogs_artist_id", "aliases", "tags",
      "gm_item_id", "data"] }
  returning := "discogs_artist_id"
  entityKind := "artist"

/-- The statement of `upsert_label`. -/
def upsertLabel : EntityUpsert where
  statement := {
    columns := ["mbid", "name", "type", "label_code", "begin_date", "end_date", "ended", "area",
      "disambiguation", "discogs_label_id", "data", "gm_item_id"]
    key := ["mbid"]
    sets := refreshed ["name", "type", "label_code", "begin_date", "end_date", "ended", "area",
      "disambiguation", "discogs_label_id", "gm_item_id", "data"] }
  returning := "discogs_label_id"
  entityKind := "label"

/-- The statement of `upsert_release`. -/
def upsertRelease : EntityUpsert where
  statement := {
    columns := ["mbid", "name", "barcode", "status", "release_group_mbid", "discogs_release_id",
      "media", "data", "gm_item_id"]
    key := ["mbid"]
    sets := refreshed ["name", "barcode", "status", "release_group_mbid", "discogs_release_id",
      "media", "gm_item_id", "data"] }
  returning := "discogs_release_id"
  entityKind := "release"

/-- The statement of `upsert_release_group`. -/
def upsertReleaseGroup : EntityUpsert where
  statement := {
    columns := ["mbid", "name", "type", "secondary_types", "first_release_date", "disambiguation",
      "discogs_master_id", "data", "gm_item_id"]
    key := ["mbid"]
    sets := refreshed ["name", "type", "secondary_types", "first_release_date", "disambiguation",
      "discogs_master_id", "gm_item_id", "data"] }
  returning := "discogs_master_id"
  entityKind := "master"

def entityUpsert : EntityKind → EntityUpsert
  | .artist => upsertArtist
  | .label => upsertLabel
  | .releaseGroup => upsertReleaseGroup
  | .release => upsertRelease

/-- `(*values[:13], Jsonb(values[13]), …, values[16], values[0], source_ref)`, and so on: the columns'
    parameters, then the MBID `old` looks up, then the `source_ref`; `none` is an `IndexError`. -/
def entityParams (kind : EntityKind) (values : List PyValue) (sourceRef : String) :
    Option (List Param) :=
  let plain (i : Nat) : Option Param := values[i]?.map .plain
  let jsonb (i : Nat) : Option Param := values[i]?.map .jsonb
  let ref : Param := .plain (.json (.str sourceRef))
  match kind with
  | .artist => do
    return (values.take 13).map .plain ++
      [← jsonb 13, ← jsonb 14, ← jsonb 15, ← plain 16, ← plain 0, ref]
  | .label => do
    return (values.take 10).map .plain ++ [← jsonb 10, ← plain 11, ← plain 0, ref]
  | .release => do
    return (values.take 6).map .plain ++ [← jsonb 6, ← jsonb 7, ← plain 8, ← plain 0, ref]
  | .releaseGroup => do
    return (values.take 3).map .plain ++ [← jsonb 3] ++ ((values.take 7).drop 4).map .plain ++
      [← jsonb 7, ← plain 8, ← plain 0, ref]

/-- A `bigint` column, as the statement reads it. -/
def bigintOf : Option Stored → Option Int
  | some (.bigint n) => n
  | _ => none

/-- `mbid::text`. -/
def uuidOf : Option Stored → Uuid
  | some (.uuid u) => u
  | _ => ""

/-- The statement's last part: `FROM upsert CROSS JOIN old WHERE … IS DISTINCT FROM …`. -/
def EntityUpsert.event (u : EntityUpsert) (now : Instant) (old : Option (Row String Stored))
    (upsert : Row String Stored) (sourceRef : String) : Option LinkEvent := do
  let old ← old
  let before := bigintOf (old u.returning)
  let after := bigintOf (upsert u.returning)
  guard (before ≠ after)
  return {
    provider := "musicbrainz"
    entityKind := u.entityKind
    externalId := uuidOf (upsert "mbid")
    event := if before = none then .linkAdded else if after = none then .linkRemoved else .linkChanged
    discogsIdBefore := before
    discogsIdAfter := after
    eventAt := now
    datedFrom := "groovemap_load"
    sourceRef }

/-- The whole statement, over the table and the events. -/
def EntityUpsert.execute (u : EntityUpsert) (casts : Casts) (schema : Schema) (now : Instant)
    (params : List Param) (t : RawTable) (events : List LinkEvent) :
    Option (RawTable × List LinkEvent) := do
  let columns := u.statement.columns
  let assigned ← casts.assignAll schema columns (params.take columns.length)
  let .plain (.json mbid) ← params[columns.length]? | none
  let .plain (.json (.str sourceRef)) ← params[columns.length + 1]? | none
  guard (params.length = columns.length + 2)
  let mbid ← casts.uuid mbid
  -- `old` sees the snapshot at the statement's start.
  let old := t.lookup [some (.uuid mbid)]
  let new := insertRow (defaults now) assigned
  let key := keyOf u.statement.key new
  let stored := u.statement.stored (.instant now) new (t.lookup key)
  return (u.statement.exec (defaults now) (.instant now) assigned t,
    insertLinkEvent events (u.event now old stored sourceRef))

/-! ## The child-row upserts -/

/-- `RELATIONSHIP_UPSERTS`; the conflict target is the arguments of `musicbrainz.relationship_key`. -/
def relationshipUpsert (refresh : Bool) : Upsert.Statement String where
  columns := ["source_mbid", "source_entity_type", "target_mbid", "target_entity_type",
    "relationship_type", "attributes", "begin_date", "end_date", "ended"]
  key := ["source_mbid", "target_mbid", "source_entity_type", "target_entity_type",
    "relationship_type", "begin_date", "end_date", "attributes"]
  sets := ("ended", .excluded "ended") :: if refresh then [("updated_at", .now)] else []

/-- `EXTERNAL_LINK_UPSERTS`. -/
def externalLinkUpsert (refresh : Bool) : Upsert.Statement String where
  columns := ["mbid", "entity_type", "url", "service_name"]
  key := ["mbid", "entity_type", "service_name", "url"]
  sets := ("url", .excluded "url") :: if refresh then [("updated_at", .now)] else []

/-- `(*row[:5], Jsonb(row[5]), *row[6:])`. -/
def relationshipParams (row : List PyValue) : Option (List Param) := do
  return (row.take 5).map .plain ++ [.jsonb (← row[5]?)] ++ (row.drop 6).map .plain

/-! ## The tuples of the processors -/

/-- The tuple of `process_artist`. -/
def artistTuple (record : Json) (gmItemId : Option Item) : List PyValue :=
  let span := lifeSpan record
  [.json (mbid record), .json (record.getD "name" (.str "")), .json (record.getD "sort_name" (.str "")),
    .json (record.getD "mb_type" (.str "")), .json (record.getD "gender" (.str "")),
    .json (record.getOr "begin_date" (span.get "begin")),
    .json (record.getOr "end_date" (span.get "end")),
    .json (record.getOr "ended" (span.getOr "ended" (.bool false))),
    .json (record.getD "area" (.str "")), .json (record.getD "begin_area" (.str "")),
    .json (record.getD "end_area" (.str "")), .json (record.getD "disambiguation" (.str "")),
    .json (record.get "discogs_artist_id"), .json (record.getOr "aliases" (.arr [])),
    .json (record.getOr "tags" (.arr [])), .json (storedData record), .item gmItemId]

/-- The tuple of `process_label`. -/
def labelTuple (record : Json) (gmItemId : Option Item) : List PyValue :=
  let span := lifeSpan record
  [.json (mbid record), .json (record.getD "name" (.str "")), .json (record.getD "mb_type" (.str "")),
    .json (record.get "label_code"), .json (record.getOr "begin_date" (span.get "begin")),
    .json (record.getOr "end_date" (span.get "end")),
    .json (record.getOr "ended" (span.getOr "ended" (.bool false))),
    .json (record.getD "area" (.str "")), .json (record.getD "disambiguation" (.str "")),
    .json (record.get "discogs_label_id"), .json (storedData record), .item gmItemId]

/-- The tuple of `process_release`. -/
def releaseTuple (record media : Json) (gmItemId : Option Item) : List PyValue :=
  [.json (mbid record), .json (record.getD "name" (.str "")), .json (record.get "barcode"),
    .json (record.getD "status" (.str "")), .json (record.get "release_group_mbid"),
    .json (record.get "discogs_release_id"), .json media, .json (storedData record), .item gmItemId]

/-- The tuple of `process_release_group`. -/
def releaseGroupTuple (record : Json) (gmItemId : Option Item) : List PyValue :=
  [.json (mbid record), .json (record.getD "name" (.str "")), .json (record.getD "mb_type" (.str "")),
    .json (record.getOr "secondary_types" (.arr [])), .json (record.get "first_release_date"),
    .json (record.getD "disambiguation" (.str "")), .json (record.get "discogs_master_id"),
    .json (storedData record), .item gmItemId]

def entityTuple (ext : Externals) (kind : EntityKind) (record : Json) (gmItemId : Option Item) :
    List PyValue :=
  match kind with
  | .artist => artistTuple record gmItemId
  | .label => labelTuple record gmItemId
  | .releaseGroup => releaseGroupTuple record gmItemId
  | .release => releaseTuple record (releaseMediaBlock ext record) gmItemId

/-- The tuple `insert_relationships` appends for an entry. -/
def RelationshipValues.tuple (v : RelationshipValues) : List PyValue :=
  [.json v.sourceMbid, .json v.sourceEntityType, .json v.targetMbid, .json v.targetEntityType,
    .json v.relationshipType, .json v.attributes, .json v.beginDate, .json v.endDate, .json v.ended]

/-- The tuple `insert_external_links` lists for an entry. -/
def ExternalLinkValues.tuple (v : ExternalLinkValues) : List PyValue :=
  [.json v.mbid, .json v.entityType, .json v.url, .json v.serviceName]

/-! ## The tables, by their columns -/

structure RawDatabase where
  entities : EntityKind → RawTable := fun _ => ∅
  relationships : RawTable := ∅
  externalLinks : RawTable := ∅
  /-- The tables the other statements write, the events and the aliases. -/
  others : Database := {}

inductive RawStatement where
  | upsertEntity (kind : EntityKind) (params : List Param)
  | upsertRelationship (params : List Param)
  | upsertExternalLink (params : List Param)
  /-- A statement on the shared media. -/
  | media (s : Statement)

/-- One statement's effect. -/
def execRaw (casts : Casts) (refresh : Bool) (now : Instant) (raw : RawDatabase) :
    RawStatement → Option RawDatabase
  | .upsertEntity kind params => do
    let (t, linkEvents) ← (entityUpsert kind).execute casts kind.schema now params
      (raw.entities kind) raw.others.linkEvents
    return { raw with
      entities := Function.update raw.entities kind t
      others := { raw.others with linkEvents } }
  | .upsertRelationship params => do
    let relationships ← casts.execute relationshipsSchema (relationshipUpsert refresh) now params
      raw.relationships
    return { raw with relationships }
  | .upsertExternalLink params => do
    let externalLinks ← casts.execute externalLinksSchema (externalLinkUpsert refresh) now params
      raw.externalLinks
    return { raw with externalLinks }
  | .media s => do
    let others ← exec casts refresh now raw.others s
    return { raw with others }

/-- Everything a record's pipeline sends, in order. -/
def rawStatements (ext : Externals) (kind : EntityKind) (record : Json) (gmItemId : Option Item) :
    Option (List RawStatement) := do
  let params ← entityParams kind (entityTuple ext kind record gmItemId) (sourceRef record)
  let media ← mediaStatements ext kind record
  let relationships ←
    relationshipRows (mbid record) kind.entityType (record.getD "relations" (.arr []))
  let links ← externalLinkRows (mbid record) kind.entityType (record.getD "external_links" (.arr []))
  let relationshipParams ← relationships.mapM fun row => relationshipParams row.tuple
  return .upsertEntity kind params :: media.map .media ++
    relationshipParams.map .upsertRelationship ++
    links.map fun row => .upsertExternalLink (row.tuple.map .plain)

/-- One record's transaction. -/
def rawProcess (ext : Externals) (kind : EntityKind) (refresh : Bool) (record : Json) (now : Instant)
    (raw : RawDatabase) : Option RawDatabase := do
  let raw ← Runs.run (execRaw ext.casts refresh now) raw ((firstLock kind record).map .media)
  let (aliases, gmItemId) := recordIdentity ext kind raw.others.aliases record
  let statements ← rawStatements ext kind record gmItemId
  let raw ← Runs.run (execRaw ext.casts refresh now)
    { raw with others := { raw.others with aliases } } statements
  let aliases ← attachAliases ext kind raw.others.aliases record gmItemId
  return { raw with others := { raw.others with aliases } }

end Records
